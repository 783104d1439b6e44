/-
**What a catalog makes of the declared indexes.**

The entries of a catalog come from the declared indexes that are not empty (`origins`). A place is
the number of one of these and the length of a leading part of it (`Places`).

* `mem_entries_iff`: the entries are the leading parts of the origins;
* `bijOn_entryAt`: there is one for each place, and the place is read off the entry;
* `pairwise_entries`: they stand in the order of `Precedes`, so that none stands twice;
* `length_entries`: there are as many as the declared indexes have fields;
* `ofDeclared_expands` puts this together, with what the catalog contains.
-/

import IndexGuard.Proofs.Coverage
import Mathlib.Algebra.Ring.Nat
import Mathlib.Data.Set.Function

namespace IndexGuard

/-- The place of an entry: the number of its index and its own length. -/
def CatalogEntry.place (entry : CatalogEntry) : Nat × Nat := (entry.origin, entry.index.length)

/-- An entry stands before another one: indexes in full before truncations, and among each the
earlier index first; of one index the longer truncation first. -/
inductive CatalogEntry.Precedes (first second : CatalogEntry) : Prop
  | whole : first.derived = false → second.derived = false → first.origin < second.origin →
      Precedes first second
  | truncated : first.derived = false → second.derived = true → Precedes first second
  | later : first.derived = true → second.derived = true → first.origin < second.origin →
      Precedes first second
  | shorter : first.derived = true → second.derived = true → first.origin = second.origin →
      second.index.length < first.index.length → Precedes first second

/-- An entry does not stand before itself. -/
theorem CatalogEntry.Precedes.irrefl (entry : CatalogEntry) : ¬ entry.Precedes entry := by
  intro before
  cases before with
  | whole _ _ earlier => exact Nat.lt_irrefl _ earlier
  | truncated isWhole isTruncated =>
    rw [isWhole] at isTruncated
    cases isTruncated
  | later _ _ earlier => exact Nat.lt_irrefl _ earlier
  | shorter _ _ _ shorter => exact Nat.lt_irrefl _ shorter

namespace Catalog

/-- The declared indexes that entries come from: those that are not empty. -/
def origins (declared : List Index) : List Index :=
  declared.filter fun index => !index.isEmpty

/-- The number of an origin, with the length of a leading part of it. -/
def Places (declared : List Index) : Set (Nat × Nat) :=
  {place | ∃ index, (origins declared)[place.1]? = some index ∧ 1 ≤ place.2 ∧
    place.2 ≤ index.length}

/-- The entry for a place: the leading part of this length, a truncation when it is shorter. -/
def entryAt (declared : List Index) (place : Nat × Nat) : CatalogEntry :=
  let index := (origins declared).getD place.1 []
  { index := index.take place.2
    origin := place.1
    derived := place.2 < index.length }

variable {declared : List Index} {entry : CatalogEntry} {place : Nat × Nat} {index : Index}

/-! ### One entry for each place -/

theorem entryAt_eq (origin : (origins declared)[place.1]? = some index) :
    entryAt declared place = ⟨index.take place.2, place.1, place.2 < index.length⟩ := by
  rw [entryAt, List.getD_eq_getElem?_getD, origin, Option.getD_some]

/-- **The entries are the leading parts of the origins.** -/
theorem mem_entries_iff : entry ∈ (ofDeclared declared).entries ↔
    ∃ index, (origins declared)[entry.origin]? = some index ∧ entry.index ≠ [] ∧
      entry.index <+: index ∧ (entry.derived = true ↔ entry.index ≠ index) := by
  obtain ⟨part, origin, derived⟩ := entry
  simp only [ofDeclared, List.mem_append, List.mem_map, List.mem_flatMap, Prod.exists,
    List.mk_mem_zipIdx_iff_getElem?, CatalogEntry.mk.injEq]
  constructor
  · rintro (⟨index, number, isOrigin, rfl, rfl, rfl⟩ |
      ⟨index, number, isOrigin, part, truncated, rfl, rfl, rfl⟩)
    · have nonempty := (List.mem_filter.mp (List.mem_of_getElem? isOrigin)).2
      exact ⟨index, isOrigin, by simpa using nonempty, List.prefix_refl index, by simp⟩
    · obtain ⟨nonempty, proper, leading⟩ := mem_truncations_iff.mp truncated
      exact ⟨index, isOrigin, nonempty, leading, by simp [proper]⟩
  · rintro ⟨index, isOrigin, nonempty, leading, isDerived⟩
    cases derived with
    | false =>
      have whole : part = index := by simpa using isDerived
      exact .inl ⟨index, origin, isOrigin, whole.symm, rfl, rfl⟩
    | true =>
      have proper : part ≠ index := isDerived.mp rfl
      exact .inr ⟨index, origin, isOrigin, part,
        mem_truncations_iff.mpr ⟨nonempty, proper, leading⟩, rfl, rfl, rfl⟩

/-- A leading part is not the whole exactly when it is shorter. -/
theorem ne_iff_shorter {part : Index} (leading : part <+: index) :
    part ≠ index ↔ part.length < index.length := by
  constructor
  · intro proper
    exact Nat.lt_of_le_of_ne leading.length_le fun same => proper (leading.eq_of_length same)
  · rintro shorter rfl
    exact Nat.lt_irrefl _ shorter

theorem entryAt_mem (isPlace : place ∈ Places declared) :
    entryAt declared place ∈ (ofDeclared declared).entries := by
  obtain ⟨index, isOrigin, positive, within⟩ := isPlace
  have leading := List.take_prefix place.2 index
  have length : (index.take place.2).length = place.2 := List.length_take_of_le within
  rw [entryAt_eq isOrigin]
  refine mem_entries_iff.mpr ⟨index, isOrigin, ?_, leading, ?_⟩
  · apply List.ne_nil_of_length_pos
    rw [length]
    exact positive
  · rw [ne_iff_shorter leading, length]
    exact decide_eq_true_iff

/-- The place of an entry leads back to the entry. -/
theorem entryAt_place (member : entry ∈ (ofDeclared declared).entries) :
    entry.place ∈ Places declared ∧ entryAt declared entry.place = entry := by
  obtain ⟨part, origin, derived⟩ := entry
  obtain ⟨index, isOrigin, nonempty, leading, isDerived⟩ := mem_entries_iff.mp member
  refine ⟨⟨index, isOrigin, List.length_pos_iff.mpr nonempty, leading.length_le⟩, ?_⟩
  have isPart : index.take part.length = part := (List.prefix_iff_eq_take.mp leading).symm
  have isShorter : decide (part.length < index.length) = derived := by
    rw [Bool.eq_iff_iff, decide_eq_true_iff, isDerived, ne_iff_shorter leading]
  show entryAt declared (origin, part.length) = _
  rw [entryAt_eq isOrigin, isPart, isShorter]

/-- A place is that of its entry. -/
theorem place_entryAt (isPlace : place ∈ Places declared) :
    (entryAt declared place).place = place := by
  obtain ⟨index, isOrigin, _, within⟩ := isPlace
  rw [entryAt_eq isOrigin]
  exact Prod.ext rfl (List.length_take_of_le within)

/-- **There is one entry for each place, and no other.** -/
theorem bijOn_entryAt (declared : List Index) :
    Set.BijOn (entryAt declared) (Places declared)
      {entry | entry ∈ (ofDeclared declared).entries} := by
  have inverse : Set.InvOn CatalogEntry.place (entryAt declared) (Places declared)
      {entry | entry ∈ (ofDeclared declared).entries} :=
    ⟨fun _ => place_entryAt, fun _ member => (entryAt_place member).2⟩
  exact inverse.bijOn (fun _ => entryAt_mem) fun _ member => (entryAt_place member).1

/-! ### The order of the entries -/

theorem pairwise_zipIdx {Item : Type} (items : List Item) :
    items.zipIdx.Pairwise fun first second => first.2 < second.2 := by
  have numbers : (items.zipIdx.map Prod.snd).Pairwise fun first second => first < second := by
    rw [List.zipIdx_map_snd]
    exact List.pairwise_lt_range'
  exact List.pairwise_map.mp numbers

/-- The truncations of an index stand from the longest to the shortest. -/
theorem pairwise_truncations (index : Index) :
    index.truncations.Pairwise fun first second => second.length < first.length := by
  unfold Index.truncations
  rw [List.pairwise_map, List.pairwise_reverse]
  have rising : ((List.range index.length).drop 1).Pairwise fun first second => first < second :=
    List.pairwise_lt_range.drop
  refine rising.imp_of_mem fun {first second} isFirst isSecond before => ?_
  have within : second < index.length := List.mem_range.mp (List.mem_of_mem_drop isSecond)
  rw [List.length_take_of_le (Nat.le_of_lt within), List.length_take_of_le (by omega)]
  exact before

/-- **The entries stand in order.** -/
theorem pairwise_entries (declared : List Index) :
    (ofDeclared declared).entries.Pairwise CatalogEntry.Precedes := by
  unfold ofDeclared
  simp only [List.pairwise_append, List.pairwise_map, List.pairwise_flatMap, List.forall_mem_map]
  refine ⟨?_, ⟨?_, ?_⟩, ?_⟩
  · exact (pairwise_zipIdx _).imp fun before => .whole rfl rfl before
  · intro placed _
    exact (pairwise_truncations placed.1).imp fun shorter => .shorter rfl rfl rfl shorter
  · refine (pairwise_zipIdx _).imp fun before part _ other _ => ?_
    exact .later rfl rfl before
  · intro placed _ entry member
    obtain ⟨source, _, truncated⟩ := List.mem_flatMap.mp member
    obtain ⟨part, _, rfl⟩ := List.mem_map.mp truncated
    exact .truncated rfl rfl

/-- No entry stands twice. -/
theorem nodup_entries (declared : List Index) : (ofDeclared declared).entries.Nodup := by
  refine (pairwise_entries declared).imp fun {first second} before => ?_
  rintro rfl
  exact CatalogEntry.Precedes.irrefl first before

/-! ### The number of entries -/

theorem length_truncations (index : Index) : index.truncations.length = index.length - 1 := by
  simp [Index.truncations]

/-- The origins and their truncations are as many as there are fields. -/
theorem length_origins (declared : List Index) :
    (origins declared).length +
        ((origins declared).map fun index => index.truncations.length).sum =
      (declared.map List.length).sum := by
  unfold origins
  induction declared with
  | nil => rfl
  | cons index rest ih =>
    rw [List.map_cons, List.sum_cons, ← ih]
    cases index with
    | nil =>
      rw [List.filter_cons_of_neg (by simp), List.length_nil, Nat.zero_add]
    | cons field fields =>
      rw [List.filter_cons_of_pos rfl, List.length_cons, List.map_cons, List.sum_cons,
        length_truncations, List.length_cons]
      omega

/-- **There are as many entries as the declared indexes have fields.** -/
theorem length_entries (declared : List Index) :
    (ofDeclared declared).entries.length = (declared.map List.length).sum := by
  have entries : (ofDeclared declared).entries.length = (ofDeclared declared).indexes.length :=
    (List.length_map _).symm
  rw [entries, indexes_ofDeclared, List.length_append, List.length_flatMap]
  exact length_origins declared

/-! ### The field sequences -/

/-- **A catalog contains the leading parts of the declared indexes, without the empty one.** -/
theorem contains_iff {fields : List String} :
    (ofDeclared declared).contains fields = true ↔
      fields ≠ [] ∧ ∃ index ∈ declared, fields <+: index := by
  rw [contains, List.contains_iff_mem, mem_indexes_iff]

/-- **Without its last field a sequence is still contained**, unless nothing is left of it. -/
theorem contains_dropLast {fields : List String}
    (contained : (ofDeclared declared).contains fields = true) (several : 1 < fields.length) :
    (ofDeclared declared).contains fields.dropLast = true := by
  obtain ⟨_, index, declares, leading⟩ := contains_iff.mp contained
  refine contains_iff.mpr ⟨?_, index, declares, (List.dropLast_prefix fields).trans leading⟩
  apply List.ne_nil_of_length_pos
  rw [List.length_dropLast]
  omega

/-- **A catalog is expanded from the declared indexes exactly.** For any declared indexes, also
empty, repeated and overlapping ones:

* there is one entry for each place, which is the number of an index among those that are not empty
  and the length of a leading part of it: this part, with this number, and marked as derived when it
  is shorter than the index;
* no entry stands twice, and they stand in order: first the indexes in full as they are declared,
  then the truncations index by index, of each the longest first;
* there are as many entries as the indexes have fields altogether;
* a field sequence is contained exactly when it is not empty and leads some declared index;
* so a sequence of several fields is contained together with the one without its last field.
-/
theorem ofDeclared_expands (declared : List Index) :
    Set.BijOn (entryAt declared) (Places declared)
      {entry | entry ∈ (ofDeclared declared).entries} ∧
    (ofDeclared declared).entries.Nodup ∧
    (ofDeclared declared).entries.Pairwise CatalogEntry.Precedes ∧
    (ofDeclared declared).entries.length = (declared.map List.length).sum ∧
    (∀ fields, (ofDeclared declared).contains fields = true ↔
      fields ≠ [] ∧ ∃ index ∈ declared, fields <+: index) ∧
    ∀ fields, (ofDeclared declared).contains fields = true → 1 < fields.length →
      (ofDeclared declared).contains fields.dropLast = true := by
  exact ⟨bijOn_entryAt declared, nodup_entries declared, pairwise_entries declared,
    length_entries declared, fun fields => contains_iff, fun fields => contains_dropLast⟩

/-- An index of two fields beside an empty one and a repeated one. -/
example : (ofDeclared [["author", "year"], [], ["title"], ["title"]]).entries =
    [⟨["author", "year"], 0, false⟩, ⟨["title"], 1, false⟩, ⟨["title"], 2, false⟩,
      ⟨["author"], 0, true⟩] := by decide

end Catalog

end IndexGuard
