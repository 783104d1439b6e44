/-
**A search filters, sorts and slices.**

Field values are compared kind by kind. Between numbers the comparison is that of binary64, which
leaves the encodings that are no number uncompared. No document of a store that is filled from JSON
text holds one (`MemoryStore.Filled.comparable`).

* `Json.compareRanked_self`, `compareRanked_swap`: the comparison of any two field values is
  reflexive, and turns round with them; `SortOrder.compareDocuments_self`, `compareDocuments_swap`
  for documents;
* `Json.compareRanked_eq_weight`: field values without such encodings are compared as their weights,
  which lie in a linear order, so that documents are compared transitively
  (`SortOrder.compareDocuments_eq_weights`, `compareDocuments_trans`);
* `SortOrder.pairwise_sort`, `filter_sort`, together `arranged_sort`: sorting gives the documents in
  order, and leaves those that compare as equal to one of them as they stood;
* `MemoryStore.find_filters_sorts_slices` puts this together for every search.
-/

import IndexGuard.Proofs.Numbers
import IndexGuard.Proofs.Recency

namespace IndexGuard

/-! ### Field values -/

namespace Json

/-- The order of a number or a truth value among those of its kind. -/
def scale : Option Json → Int
  | some (.number numeral) => numeral.toBinary64.key
  | some (.bool value) => value.toNat
  | _ => 0

/-- The weight of a field value: its place, and within one place its scale. -/
def weight (value : Option Json) : (Nat ×ₗ String) ×ₗ Int := toLex (place value, scale value)

theorem compare_weight (first second : Option Json) :
    compare (weight first) (weight second) =
      (compare (place first) (place second)).then (compare (scale first) (scale second)) := rfl

theorem compare_weight_of_place_eq {first second : Option Json}
    (same : place first = place second) :
    compare (weight first) (weight second) = compare (scale first) (scale second) := by
  rw [compare_weight, compare_eq_iff_eq.mpr same]
  rfl

theorem compare_place (first second : Option Json) :
    compare (place first) (place second) = (compare (rank first) (rank second)).then
      (compare ((first.bind text?).getD "") ((second.bind text?).getD "")) := rfl

/-- Values of one kind are both missing or `null`, both numbers, texts or truth values, or both of
a kind in which no two values are ordered. -/
theorem kinds_of_rank_eq {first second : Option Json} (same : rank first = rank second) :
    (∃ number other, first = some (.number number) ∧ second = some (.number other)) ∨
    (∃ text other, first = some (.string text) ∧ second = some (.string other)) ∨
    (∃ value other, first = some (.bool value) ∧ second = some (.bool other)) ∨
    compareRanked first second = .eq ∧ compareRanked second first = .eq ∧
      weight first = weight second := by
  rcases first with _ | first <;> rcases second with _ | second
  · exact .inr (.inr (.inr ⟨rfl, rfl, rfl⟩))
  · cases second <;> first | exact .inr (.inr (.inr ⟨rfl, rfl, rfl⟩)) | cases same
  · cases first <;> first | exact .inr (.inr (.inr ⟨rfl, rfl, rfl⟩)) | cases same
  · cases first <;> cases second <;> first
      | exact .inl ⟨_, _, rfl, rfl⟩
      | exact .inr (.inl ⟨_, _, rfl, rfl⟩)
      | exact .inr (.inr (.inl ⟨_, _, rfl, rfl⟩))
      | exact .inr (.inr (.inr ⟨rfl, rfl, rfl⟩))
      | cases same

/-- **A field value compares as equal to itself.** -/
theorem compareRanked_self (value : Option Json) : compareRanked value value = .eq := by
  have same : rank value = rank value := rfl
  rcases kinds_of_rank_eq same with ⟨number, _, rfl, _⟩ | ⟨text, _, rfl, _⟩ |
      ⟨value, _, rfl, _⟩ | ⟨equal, _⟩
  · show (number.toBinary64.compare? number.toBinary64).getD .eq = .eq
    unfold Binary64.compare?
    split
    · rfl
    · exact compare_eq_iff_eq.mpr rfl
  · exact compare_eq_iff_eq.mpr (rfl : text = text)
  · exact compare_eq_iff_eq.mpr (rfl : value.toNat = value.toNat)
  · exact equal

/-- **The comparison of field values turns round with them.** -/
theorem compareRanked_swap (first second : Option Json) :
    compareRanked second first = (compareRanked first second).swap := by
  by_cases same : rank first = rank second
  · rcases kinds_of_rank_eq same with ⟨number, other, rfl, rfl⟩ | ⟨text, other, rfl, rfl⟩ |
        ⟨value, other, rfl, rfl⟩ | ⟨forward, backward, _⟩
    · show (other.toBinary64.compare? number.toBinary64).getD .eq =
        ((number.toBinary64.compare? other.toBinary64).getD .eq).swap
      rw [Binary64.compare?_swap]
      cases number.toBinary64.compare? other.toBinary64 <;> rfl
    · exact Std.OrientedOrd.eq_swap (a := other)
    · exact Std.OrientedOrd.eq_swap (a := other.toNat)
    · rw [forward, backward]
      rfl
  · rw [compareRanked_of_ne same, compareRanked_of_ne (Ne.symm same)]
    exact Std.OrientedOrd.eq_swap

/-- **Comparable field values are compared as their weights.** -/
theorem compareRanked_eq_weight {first second : Option Json} (isFirst : Comparable first)
    (isSecond : Comparable second) :
    compareRanked first second = compare (weight first) (weight second) := by
  by_cases same : rank first = rank second
  · rcases kinds_of_rank_eq same with ⟨number, other, rfl, rfl⟩ | ⟨text, other, rfl, rfl⟩ |
        ⟨value, other, rfl, rfl⟩ | ⟨equal, _, sameWeight⟩
    · have samePlace : place (some (.number number)) = place (some (.number other)) := rfl
      rw [compare_weight_of_place_eq samePlace]
      show (number.toBinary64.compare? other.toBinary64).getD .eq = _
      rw [Binary64.compare?_eq_some (isFirst number rfl) (isSecond other rfl)]
      rfl
    · rw [compare_weight, compare_place, compare_eq_iff_eq.mpr same]
      exact Ordering.then_eq.symm
    · have samePlace : place (some (.bool value)) = place (some (.bool other)) := rfl
      rw [compare_weight_of_place_eq samePlace]
      cases value <;> cases other <;> rfl
    · rw [equal, sameWeight]
      exact (compare_eq_iff_eq.mpr rfl).symm
  · rw [compareRanked_of_ne same, compare_weight, compare_place]
    cases ordered : compare (rank first) (rank second) with
    | eq => exact absurd (compare_eq_iff_eq.mp ordered) same
    | lt => rfl
    | gt => rfl

end Json

/-! ### Documents -/

/-- The order of two documents by the weights of a field. -/
def SortKey.compareWeights (key : SortKey) (first second : Json) : Ordering :=
  key.direction.apply
    (compare (Json.weight (first.get? key.field)) (Json.weight (second.get? key.field)))

instance (key : SortKey) : Std.TransCmp key.compareWeights := by
  let weigh : Json → (Nat ×ₗ String) ×ₗ Int :=
    fun document => Json.weight (document.get? key.field)
  obtain ⟨field, direction⟩ := key
  cases direction with
  | ascending => exact inferInstanceAs (Std.TransCmp (compareOn weigh))
  | descending =>
    have turned : SortKey.compareWeights ⟨field, .descending⟩ =
        fun first second => compareOn weigh second first := by
      funext first second
      exact Std.OrientedOrd.eq_swap.symm
    rw [turned]
    exact Std.TransCmp.opposite

namespace SortOrder

variable (order : SortOrder)

/-- The order of two documents by the weights of the fields of keys in turn. -/
def compareWeights : SortOrder → Json → Json → Ordering
  | [] => fun _ _ => .eq
  | key :: rest => compareLex key.compareWeights (compareWeights rest)

instance : Std.TransCmp order.compareWeights := by
  induction order with
  | nil =>
    have oriented : Std.OrientedCmp (compareWeights []) := ⟨rfl⟩
    exact ⟨fun _ _ => rfl⟩
  | cons key rest ih => exact inferInstanceAs (Std.TransCmp (compareLex _ _))

/-- **A document compares as equal to itself.** -/
theorem compareDocuments_self (document : Json) :
    order.compareDocuments document document = .eq := by
  induction order with
  | nil => rfl
  | cons key rest ih =>
    rw [compareDocuments, ih, SortKey.compareDocuments, Json.compareRanked_self]
    cases key.direction <;> rfl

/-- **The comparison of documents turns round with them.** -/
theorem compareDocuments_swap (first second : Json) :
    order.compareDocuments second first = (order.compareDocuments first second).swap := by
  induction order with
  | nil => rfl
  | cons key rest ih =>
    rw [compareDocuments, compareDocuments, ih, Ordering.swap_then, SortKey.compareDocuments,
      SortKey.compareDocuments, Json.compareRanked_swap]
    cases key.direction <;> rfl

/-- **Documents with comparable fields are compared by weights.** -/
theorem compareDocuments_eq_weights {first second : Json} (isFirst : first.ComparableFields)
    (isSecond : second.ComparableFields) :
    order.compareDocuments first second = order.compareWeights first second := by
  induction order with
  | nil => rfl
  | cons key rest ih =>
    rw [compareDocuments, ih, SortKey.compareDocuments,
      Json.compareRanked_eq_weight (isFirst _) (isSecond _)]
    rfl

/-- **Among documents with comparable fields, "not greater" is transitive.** -/
theorem compareDocuments_trans {first second third : Json} (isFirst : first.ComparableFields)
    (isSecond : second.ComparableFields) (isThird : third.ComparableFields)
    (below : order.compareDocuments first second ≠ .gt)
    (further : order.compareDocuments second third ≠ .gt) :
    order.compareDocuments first third ≠ .gt := by
  rw [compareDocuments_eq_weights order isFirst isSecond] at below
  rw [compareDocuments_eq_weights order isSecond isThird] at further
  rw [compareDocuments_eq_weights order isFirst isThird]
  exact Ordering.ne_gt_iff_isLE.mpr (Std.TransCmp.isLE_trans
    (Ordering.ne_gt_iff_isLE.mp below) (Ordering.ne_gt_iff_isLE.mp further))

/-! ### Sorting -/

/-- Documents in the order of their weights. -/
def sortWeights (documents : List Json) : List Json :=
  documents.mergeSort fun first second => (order.compareWeights first second).isLE

theorem isLE_total (first second : Json) :
    ((order.compareWeights first second).isLE || (order.compareWeights second first).isLE) = true
    := by
  have turned : order.compareWeights second first = (order.compareWeights first second).swap :=
    Std.OrientedCmp.eq_swap
  rw [turned]
  cases order.compareWeights first second <;> rfl

variable {order} {documents : List Json}

/-- Documents with comparable fields are sorted by their weights. -/
theorem sort_eq_weights (comparable : ∀ document ∈ documents, document.ComparableFields) :
    order.sort documents = order.sortWeights documents := by
  have same := List.map_mergeSort (f := id) (l := documents)
    (r := fun first second => (order.compareDocuments first second).isLE)
    (s := fun first second => (order.compareWeights first second).isLE)
    fun first isFirst second isSecond => by
      rw [compareDocuments_eq_weights order (comparable first isFirst) (comparable second isSecond)]
      rfl
  rwa [List.map_id, List.map_id] at same

/-- **Sorting gives documents in order.** -/
theorem pairwise_sort (comparable : ∀ document ∈ documents, document.ComparableFields) :
    (order.sort documents).Pairwise fun first second =>
      order.compareDocuments first second ≠ .gt := by
  have members : ∀ document ∈ order.sort documents, document.ComparableFields :=
    fun document member => comparable document (List.mem_mergeSort.mp member)
  have sorted : (order.sort documents).Pairwise fun first second =>
      (order.compareWeights first second).isLE = true := by
    rw [sort_eq_weights comparable]
    exact List.pairwise_mergeSort (fun _ _ _ => Std.TransCmp.isLE_trans) order.isLE_total documents
  refine sorted.imp_of_mem fun {first second} isFirst isSecond inFront => ?_
  rw [compareDocuments_eq_weights order (members first isFirst) (members second isSecond)]
  exact Ordering.ne_gt_iff_isLE.mpr inFront

/-- **Sorting leaves documents that compare as equal as they stood.** -/
theorem filter_sort (comparable : ∀ document ∈ documents, document.ComparableFields)
    {document : Json} (isComparable : document.ComparableFields) :
    ((order.sort documents).filter fun other => order.compareDocuments document other == .eq) =
      documents.filter fun other => order.compareDocuments document other == .eq := by
  let tied : Json → Bool := fun other => order.compareDocuments document other == .eq
  have isTied : ∀ other ∈ documents.filter tied, order.compareWeights document other = .eq := by
    intro other member
    obtain ⟨isDocument, equal⟩ := List.mem_filter.mp member
    rw [← compareDocuments_eq_weights order isComparable (comparable other isDocument)]
    exact beq_iff_eq.mp equal
  -- The tied documents are in order as they stand, so sorting keeps them as a part.
  have inOrder : (documents.filter tied).Pairwise fun first second =>
      (order.compareWeights first second).isLE = true := by
    refine List.pairwise_of_forall_mem_list fun first isFirst second isSecond => ?_
    rw [← Std.TransCmp.congr_left (isTied first isFirst), isTied second isSecond]
    rfl
  have kept : (documents.filter tied).Sublist (order.sort documents) := by
    rw [sort_eq_weights comparable]
    exact List.sublist_mergeSort (fun _ _ _ => Std.TransCmp.isLE_trans) order.isLE_total inOrder
      List.filter_sublist
  have part : (documents.filter tied).Sublist ((order.sort documents).filter tied) := by
    simpa only [List.filter_filter, Bool.and_self] using kept.filter tied
  have sameLength : (documents.filter tied).length = ((order.sort documents).filter tied).length :=
    ((List.mergeSort_perm documents _).filter tied).length_eq.symm
  exact (part.eq_of_length sameLength).symm

/-- **Sorting arranges documents**: in order, and ties as they stood. -/
theorem arranged_sort (comparable : ∀ document ∈ documents, document.ComparableFields) :
    ((order.sort documents).Pairwise fun first second =>
      order.compareDocuments first second ≠ .gt) ∧
    ∀ document ∈ order.sort documents,
      ((order.sort documents).filter fun other => order.compareDocuments document other == .eq) =
        documents.filter fun other => order.compareDocuments document other == .eq := by
  refine ⟨pairwise_sort comparable, fun document member => ?_⟩
  exact filter_sort comparable (comparable document (List.mem_mergeSort.mp member))

end SortOrder

/-! ### Searches -/

namespace MemoryStore

/-- **A search filters, sorts and slices.**

* Under every sort order a document compares as equal to itself, the comparison of two documents
  turns round with them, and among documents with comparable fields "not greater" is transitive.
* A search with a readable filter in a collection that is there finds a slice, from its skip on and
  as long as its limit, of the accepted documents of the collection in order. Each of them stands
  there as often as in the collection, and those that compare as equal stand as they were inserted.
* The documents of a store that is filled from JSON text have comparable fields, and so have those
  that are there after further calls, unless these insert others.
-/
theorem find_filters_sorts_slices :
    (∀ order : SortOrder,
      (∀ document, order.compareDocuments document document = .eq) ∧
      (∀ first second,
        order.compareDocuments second first = (order.compareDocuments first second).swap) ∧
      ∀ first second third : Json,
        first.ComparableFields → second.ComparableFields → third.ComparableFields →
        order.compareDocuments first second ≠ .gt → order.compareDocuments second third ≠ .gt →
        order.compareDocuments first third ≠ .gt) ∧
    (∀ (store : MemoryStore) (name : String) (search : Search) (accepts : Json → Bool)
      (held : Collection),
      search.filter.compile? = .ok accepts → store.collection? name = .ok held →
      (∀ document ∈ held.documents, document.ComparableFields) →
      ∃ arranged : List Json,
        store.reads.find name search = .ok (search.slice arranged) ∧
        arranged.Perm (held.documents.filter accepts) ∧
        (arranged.Pairwise fun first second =>
          search.sort.compareDocuments first second ≠ .gt) ∧
        ∀ document ∈ arranged,
          (arranged.filter fun other => search.sort.compareDocuments document other == .eq) =
            (held.documents.filter accepts).filter fun other =>
              search.sort.compareDocuments document other == .eq) ∧
    ∀ store : MemoryStore, store.Filled → store.Comparable := by
  refine ⟨fun order => ⟨order.compareDocuments_self, order.compareDocuments_swap,
    fun _ _ _ => order.compareDocuments_trans⟩, ?_, fun _ filled => filled.comparable⟩
  intro store name search accepts held compiled there comparable
  have accepted : ∀ document ∈ held.documents.filter accepts, document.ComparableFields :=
    fun document member => comparable document (List.mem_filter.mp member).1
  refine ⟨search.sort.sort (held.documents.filter accepts), ?_, List.mergeSort_perm _ _,
    SortOrder.arranged_sort accepted⟩
  exact find_eq_ok_iff.mpr ⟨accepts, held, compiled, there, held.find_eq_slice accepts search⟩

/-- Books by year, those of one year as they were inserted, whether the year is an integer or not. A
missing year comes before one that is a text, by way of one that is an integer. -/
theorem find_filters_sorts_slices_books :
    ∃ (store : MemoryStore) (search : Search) (arranged : List Json) (dune solaris : Json),
      dune.get? "year" = some (.int 1961) ∧
      solaris.get? "year" = some (.number (.binary (Binary64.ofInt 1961))) ∧
      store.reads.find "books" search = .ok (search.slice arranged) ∧
      (arranged.filter fun other => search.sort.compareDocuments dune other == .eq) =
        [solaris, dune] ∧
      ∃ undated quoted : Json, undated.get? "year" = none ∧
        quoted.get? "year" = some (.string "1961") ∧
        search.sort.compareDocuments undated quoted ≠ .gt := by
  let emma : Json := .object [("id", .string "e"), ("year", .int 1815)]
  let dune : Json := .object [("id", .string "d"), ("year", .int 1961)]
  let solaris : Json :=
    .object [("id", .string "s"), ("year", .number (.binary (Binary64.ofInt 1961)))]
  let undated : Json := .object [("id", .string "u")]
  let quoted : Json := .object [("id", .string "q"), ("year", .string "1961")]
  let documents : List Json := [solaris, quoted, dune, undated, emma]
  let calls : List Call := .create "books" [] :: documents.map (.insert "books")
  let search : Search := ⟨Filter.everything, [⟨"year", .ascending⟩], 1, some 2⟩
  have comparable : ∀ document ∈ documents, document.ComparableFields := by
    simp only [documents, List.forall_mem_cons]
    refine ⟨?_, ?_, ?_, ?_, ?_, List.forall_mem_nil _⟩ <;>
      refine Json.comparableFields_of_members ?_ <;>
      simp [Json.Comparable, Json.int, Number.toBinary64, Binary64.isNaN_ofInt]
  have given : ∀ name document, Call.insert name document ∈ calls →
      document.ComparableFields := by
    intro name document member
    rcases List.mem_cons.mp member with created | inserted
    · cases created
    · obtain ⟨_, isDocument, same⟩ := List.mem_map.mp inserted
      cases same
      exact comparable document isDocument
  have isFilled : Filled (after {} calls) := ⟨"seed.json", "\x7b\x7d", {}, calls, rfl, given, rfl⟩
  have there : (after {} calls).collection? "books" = .ok ⟨[], documents⟩ := rfl
  have compiled : search.filter.compile? = .ok fun _ => true := rfl
  obtain ⟨total, searched, filled⟩ := find_filters_sorts_slices
  obtain ⟨_, _, transitive⟩ := total search.sort
  obtain ⟨arranged, found, same, _, tied⟩ := searched (after {} calls) "books" search _ _ compiled
    there (filled _ isFilled "books" _ there)
  have isHeld : dune ∈ documents :=
    List.mem_cons_of_mem _ (List.mem_cons_of_mem _ List.mem_cons_self)
  refine ⟨after {} calls, search, arranged, dune, solaris, rfl, rfl, found, ?_, undated, quoted,
    rfl, rfl, ?_⟩
  · rw [tied dune (same.mem_iff.mpr (List.mem_filter.mpr ⟨isHeld, rfl⟩))]
    rfl
  · exact transitive undated dune quoted (comparable _ (by simp [documents]))
      (comparable _ (by simp [documents])) (comparable _ (by simp [documents]))
      (by decide) (by decide)

end MemoryStore

end IndexGuard
