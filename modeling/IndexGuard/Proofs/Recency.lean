/-
**The most recent documents come first.**

With no order asked for, documents are listed by falling `id`. Documents may have been given an `id`
of any kind, so the order is looked at through the place of an `id` among the kinds of values, which
tells texts apart but no other values of one kind:

* `pairwise_mergeSort_of_refines`: what is sorted by a comparison is also in every coarser order;
* `place_le_of_isLE`, `place_le_of_not_isLE`: the default order refines the falling order of places
  (`pairwise_newestFirst`);
* `filter_newestFirst`: so documents whose identifiers rise as texts are listed in reverse;
* `newest_first` puts this together for every search with the default order after a run of calls.
-/

import IndexGuard.Proofs.Identifier
import IndexGuard.Proofs.Ledger
import Mathlib.Data.List.Nodup
import Mathlib.Data.Prod.Lex
import Mathlib.Data.String.Basic

namespace IndexGuard

/-! ### Sorting and coarser orders -/

section Coarser

variable {Item : Type} {le : Item → Item → Bool} (coarse : Item → Item → Prop)
  (trans : ∀ first second third, coarse first second → coarse second third → coarse first third)
  (before : ∀ first second, le first second = true → coarse first second)
  (behind : ∀ first second, ¬ le first second = true → coarse second first)

include trans before behind

theorem pairwise_merge_of_refines {first second : List Item} (sortedFirst : first.Pairwise coarse)
    (sortedSecond : second.Pairwise coarse) : (first.merge second le).Pairwise coarse := by
  induction first generalizing second with
  | nil => simpa using sortedSecond
  | cons item rest ihFirst =>
    induction second with
    | nil => simpa using sortedFirst
    | cons other others ihSecond =>
      obtain ⟨below, sortedRest⟩ := List.pairwise_cons.mp sortedFirst
      obtain ⟨belowOther, sortedOthers⟩ := List.pairwise_cons.mp sortedSecond
      rw [List.cons_merge_cons]
      split
      · rename_i isBefore
        refine List.pairwise_cons.mpr ⟨fun next member => ?_, ihFirst sortedRest sortedSecond⟩
        rcases List.mem_merge.mp member with isRest | isSecond
        · exact below next isRest
        · rcases List.mem_cons.mp isSecond with rfl | isOther
          · exact before item next isBefore
          · exact trans item other next (before item other isBefore) (belowOther next isOther)
      · rename_i isBehind
        refine List.pairwise_cons.mpr ⟨fun next member => ?_, ihSecond sortedOthers⟩
        rcases List.mem_merge.mp member with isFirst | isOther
        · rcases List.mem_cons.mp isFirst with rfl | isRest
          · exact behind next other isBehind
          · exact trans other item next (behind item other isBehind) (below next isRest)
        · exact belowOther next isOther

/-- **What is sorted by a comparison is in every coarser order**, also when the comparison itself is
not transitive. -/
theorem pairwise_mergeSort_of_refines (items : List Item) :
    (items.mergeSort le).Pairwise coarse := by
  induction items, le using List.mergeSort.induct with
  | case1 le => simp
  | case2 le item => simp
  | case3 first second rest le halves _ _ ihFirst ihSecond =>
    rw [List.mergeSort]
    exact pairwise_merge_of_refines coarse trans before behind (ihFirst before behind)
      (ihSecond before behind)

end Coarser

/-! ### The place of an identifier -/

namespace Json

/-- The place of a field value: its kind, and among texts the text. -/
def place (value : Option Json) : Nat ×ₗ String :=
  toLex (rank value, (value.bind text?).getD "")

theorem place_le_iff {first second : Option Json} : place first ≤ place second ↔
    rank first < rank second ∨ rank first = rank second ∧
      (first.bind text?).getD "" ≤ (second.bind text?).getD "" :=
  Prod.Lex.toLex_le_toLex

/-- Values of one kind are texts, or have the same place. -/
theorem texts_or_place_eq {first second : Option Json} (same : rank first = rank second) :
    (∃ text other, first = some (.string text) ∧ second = some (.string other)) ∨
      place first = place second := by
  rcases first with _ | first <;> rcases second with _ | second
  · exact .inr rfl
  · cases second <;> first | exact .inr rfl | cases same
  · cases first <;> first | exact .inr rfl | cases same
  · cases first <;> cases second <;>
      first | exact .inl ⟨_, _, rfl, rfl⟩ | exact .inr rfl | cases same

theorem compareRanked_of_ne {first second : Option Json} (different : rank first ≠ rank second) :
    compareRanked first second = compare (rank first) (rank second) := by
  rcases first with _ | first <;> rcases second with _ | second <;> try rfl
  exact if_neg different

/-- A value that is not compared as greater has no later place. -/
theorem place_le_of_ne_gt {first second : Option Json}
    (notGreater : compareRanked first second ≠ .gt) : place first ≤ place second := by
  by_cases same : rank first = rank second
  · rcases texts_or_place_eq same with ⟨text, other, rfl, rfl⟩ | samePlace
    · refine place_le_iff.mpr (.inr ⟨rfl, ?_⟩)
      exact compare_le_iff_le.mp notGreater
    · exact le_of_eq samePlace
  · rw [compareRanked_of_ne same, compare_le_iff_le] at notGreater
    exact place_le_iff.mpr (.inl (lt_of_le_of_ne notGreater same))

/-- A value that is not compared as less has no earlier place. -/
theorem place_le_of_ne_lt {first second : Option Json}
    (notLess : compareRanked first second ≠ .lt) : place second ≤ place first := by
  by_cases same : rank first = rank second
  · rcases texts_or_place_eq same with ⟨text, other, rfl, rfl⟩ | samePlace
    · refine place_le_iff.mpr (.inr ⟨rfl, ?_⟩)
      exact compare_ge_iff_ge.mp notLess
    · exact le_of_eq samePlace.symm
  · rw [compareRanked_of_ne same, compare_ge_iff_ge] at notLess
    exact place_le_iff.mpr (.inl (lt_of_le_of_ne notLess (Ne.symm same)))

theorem place_text_lt_place_text {first second : String} (less : first < second) :
    place (some (.string first)) < place (some (.string second)) :=
  Prod.Lex.toLex_lt_toLex.mpr (.inr ⟨rfl, less⟩)

end Json

/-! ### The default order -/

namespace SortOrder

/-- The order that is used when none is asked for. -/
def default : SortOrder := ofTokens SortRequest.unspecified.toTokens

theorem default_eq : default = [⟨idField, .descending⟩] := by decide

theorem compareDocuments_default (first second : Json) : default.compareDocuments first second =
    (Json.compareRanked (first.get? idField) (second.get? idField)).swap := by
  rw [default_eq]
  exact Ordering.then_eq

/-- **A document that the default order allows in front has no earlier place.** -/
theorem place_le_of_isLE {first second : Json}
    (inFront : (default.compareDocuments first second).isLE = true) :
    Json.place (second.get? idField) ≤ Json.place (first.get? idField) := by
  refine Json.place_le_of_ne_lt fun less => ?_
  rw [compareDocuments_default, less] at inFront
  cases inFront

/-- **A document that the default order does not allow in front has no later place.** -/
theorem place_le_of_not_isLE {first second : Json}
    (behind : ¬ (default.compareDocuments first second).isLE = true) :
    Json.place (first.get? idField) ≤ Json.place (second.get? idField) := by
  refine Json.place_le_of_ne_gt fun greater => behind ?_
  rw [compareDocuments_default, greater]
  rfl

end SortOrder

namespace Insertion

/-- The place of the `id` of the stored document. -/
def place (insertion : Insertion) : Nat ×ₗ String := Json.place (insertion.document.get? idField)

/-- Inserts in the default order of the stored documents. -/
def newestFirst (insertions : List Insertion) : List Insertion :=
  insertions.mergeSort fun first second =>
    (SortOrder.default.compareDocuments first.document second.document).isLE

theorem place_lt_place {first second : Insertion} (before : first.Before second) :
    first.place < second.place := by
  obtain ⟨smaller, greater, isSmaller, isGreater, less⟩ := before
  rw [place, place, isSmaller, isGreater]
  exact Json.place_text_lt_place_text less

variable (insertions : List Insertion)

theorem map_document_newestFirst : (newestFirst insertions).map document =
    SortOrder.default.sort (insertions.map document) :=
  List.map_mergeSort fun _ _ _ _ => rfl

/-- **In the default order the places fall.** -/
theorem pairwise_newestFirst :
    (newestFirst insertions).Pairwise fun first second => second.place ≤ first.place :=
  pairwise_mergeSort_of_refines (fun first second => second.place ≤ first.place)
    (fun _ _ _ below further => le_trans further below)
    (fun _ _ => SortOrder.place_le_of_isLE) (fun _ _ => SortOrder.place_le_of_not_isLE) insertions

/-- Documents whose identifiers rise are told apart by their places. -/
theorem eq_of_place_eq {insertions : List Insertion} (rising : insertions.Pairwise Before)
    {first second : Insertion} (isFirst : first ∈ insertions) (isSecond : second ∈ insertions)
    (same : first.place = second.place) : first = second := by
  have apart : (insertions.map place).Nodup :=
    List.pairwise_map.mpr (rising.imp fun before => ne_of_lt (place_lt_place before))
  exact List.inj_on_of_nodup_map apart isFirst isSecond same

/-- **Documents whose identifiers rise are listed in reverse**, whatever stands between them. -/
theorem filter_newestFirst {insertions : List Insertion} {kept : Insertion → Bool}
    (rising : (insertions.filter kept).Pairwise Before) :
    (newestFirst insertions).filter kept = (insertions.filter kept).reverse := by
  have sameMembers : ((newestFirst insertions).filter kept).Perm (insertions.filter kept) :=
    (List.mergeSort_perm _ _).filter kept
  refine List.Perm.eq_of_pairwise ?_ ((pairwise_newestFirst insertions).filter kept) ?_
    (sameMembers.trans (List.reverse_perm _).symm)
  · intro first second isFirst isSecond below above
    exact eq_of_place_eq rising (sameMembers.mem_iff.mp isFirst) (List.mem_reverse.mp isSecond)
      (le_antisymm above below)
  · rw [List.pairwise_reverse]
    exact rising.imp fun before => le_of_lt (place_lt_place before)

end Insertion

/-! ### Searches in the default order -/

/-- The slice of a list that a search takes. -/
def Search.slice {Item : Type} (search : Search) (items : List Item) : List Item :=
  match search.limit with
  | some limit => (items.drop search.skip).take limit
  | none => items.drop search.skip

theorem Search.map_slice {Item Other : Type} (search : Search) (items : List Item)
    (change : Item → Other) :
    (search.slice items).map change = search.slice (items.map change) := by
  unfold Search.slice
  cases search.limit with
  | none => exact List.map_drop
  | some limit => simp only [List.map_take, List.map_drop]

theorem Collection.find_eq_slice (held : Collection) (accepts : Json → Bool) (search : Search) :
    held.find accepts search =
      search.slice (search.sort.sort (held.documents.filter accepts)) := rfl

namespace MemoryStore

variable {calls : List Call} {name : String}

/-- **A search finds a slice of the stored documents that its filter accepts**, in its order. -/
theorem find_after (created : Created calls name) {search : Search} {accepts : Json → Bool}
    (compiled : search.filter.compile? = .ok accepts) :
    (after {} calls).reads.find name search = .ok (search.slice (search.sort.sort
      (((stored {} calls name).filter fun insertion => accepts insertion.document).map
        Insertion.document))) := by
  obtain ⟨held, found, documents⟩ := (told calls name).documents created
  refine find_eq_ok_iff.mpr ⟨accepts, held, compiled, found, ?_⟩
  rw [Collection.find_eq_slice, documents, List.filter_map]
  rfl

/-- **The most recent documents come first.** Take calls in turn on an empty store, failing ones
among them, with fewer documents without an `id` than there are numbers of 64 bits.

* Every generated `id` is a text of 24 hexadecimal digits, and these texts rise in the order of the
  calls.
* A search in the default order finds a slice of the stored documents that its filter accepts. Among
  them those with a generated `id` stand in the reverse order of their inserts.
-/
theorem newest_first (calls : List Call) (few : calls.countP Call.draws < numberCount) :
    (∀ insertion ∈ insertions {} calls, insertion.generated = true →
      ∃ text, insertion.document.get? idField = some (.string text) ∧ IsIdText text) ∧
    ((insertions {} calls).filter Insertion.generated).Pairwise Insertion.Before ∧
    ∀ (name : String) (search : Search) (accepts : Json → Bool), Created calls name →
      search.filter.compile? = .ok accepts →
      search.sort = SortOrder.ofTokens SortRequest.unspecified.toTokens →
      ∃ arranged : List Insertion,
        (after {} calls).reads.find name search =
          .ok ((search.slice arranged).map Insertion.document) ∧
        arranged.Perm
          ((stored {} calls name).filter fun insertion => accepts insertion.document) ∧
        arranged.filter Insertion.generated =
          (((stored {} calls name).filter fun insertion => accepts insertion.document).filter
            Insertion.generated).reverse := by
  have next : (after {} calls).nextId = calls.countP Call.draws :=
    (nextId_after {} calls).trans (Nat.zero_add _)
  have rising : ((insertions {} calls).filter Insertion.generated).Pairwise Insertion.Before :=
    pairwise_before (next ▸ le_of_lt few)
  refine ⟨fun insertion member generated => ?_, rising,
    fun name search accepts created compiled byDefault => ?_⟩
  · obtain ⟨number, _, below, isNumber⟩ := numbered_of_mem member generated
    exact ⟨idText number, isNumber, isIdText_idText (by omega)⟩
  · refine ⟨Insertion.newestFirst
      ((stored {} calls name).filter fun insertion => accepts insertion.document), ?_,
      List.mergeSort_perm _ _, Insertion.filter_newestFirst ?_⟩
    · rw [find_after created compiled, byDefault, Search.map_slice,
        Insertion.map_document_newestFirst]
      rfl
    · -- What the filter accepts of the stored documents is in the order of the whole run.
      refine rising.sublist (List.Sublist.filter _ ?_)
      exact List.filter_sublist.trans List.filter_sublist

/-- Two books with generated identifiers among books with identifiers of other kinds, and an insert
that fails in between. -/
theorem newest_first_books :
    ∃ (calls : List Call) (arranged : List Insertion),
      calls.countP Call.draws < numberCount ∧
      (after {} calls).reads.find "books"
        ⟨Filter.everything, SortOrder.ofTokens SortRequest.unspecified.toTokens, 0, none⟩ =
          .ok (arranged.map Insertion.document) ∧
      (arranged.filter Insertion.generated).map Insertion.document =
        [.object [("id", .string "000000000000000000000002"), ("title", .string "Solaris")],
          .object [("id", .string "000000000000000000000000"), ("title", .string "Dune")]] := by
  let calls : List Call :=
    [.create "books" [], .insert "books" (.object [("title", .string "Dune")]),
      .insert "books" (.object [("id", .bool true), ("title", .string "Ubik")]),
      .insert "shelf" (.object []),
      .insert "books" (.object [("id", .string "b1"), ("title", .string "Emma")]),
      .insert "books" (.object [("title", .string "Solaris")])]
  have few : calls.countP Call.draws < numberCount := by decide
  have created : Created calls "books" := ⟨_, List.mem_cons_self⟩
  obtain ⟨_, _, listed⟩ := newest_first calls few
  have compiled : Filter.everything.compile? = .ok fun _ => true := rfl
  obtain ⟨arranged, found, _, newest⟩ := listed "books"
    ⟨Filter.everything, SortOrder.ofTokens SortRequest.unspecified.toTokens, 0, none⟩ _ created
    compiled rfl
  refine ⟨calls, arranged, few, found, ?_⟩
  rw [newest]
  rfl

end MemoryStore

end IndexGuard
