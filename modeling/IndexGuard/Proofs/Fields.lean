/-
**Tables as functions of their names.**

A table is known by what `get?` finds in it:

* `get?_insert`, `get?_erase`: what the operations change of that function, on any table;
* `Sorted.insert`, `Sorted.erase`: both keep the names strictly increasing;
* `Sorted.ext`: two sorted tables in which `get?` finds the same are the same list;
* `get?_ofPairs`: of pairs entered in turn, the last with a name is found.

`filter_insert` lets a filter of names pass over a name that it drops, so that tables which differ
in dropped names only become equal; `Sorted.erase_insert` lets an erasure pass over another name.
-/

import IndexGuard.Fields
import Mathlib.Data.List.Induction

namespace IndexGuard

/-- Two names of which neither stands before the other are the same. -/
theorem eq_of_not_lt {first second : String} (notBefore : ¬ first < second)
    (notAfter : ¬ second < first) : first = second :=
  String.le_antisymm notAfter notBefore

namespace Fields

variable {Value Other : Type}

/-! ### What is found under a name -/

@[simp] theorem get?_nil (name : String) : get? ([] : Fields Value) name = none := rfl

@[simp] theorem get?_cons (field : String × Value) (rest : Fields Value) (name : String) :
    get? (field :: rest) name = if field.1 = name then some field.2 else get? rest name :=
  rfl

/-- **Inserting changes one name only.** -/
@[simp] theorem get?_insert (fields : Fields Value) (name : String) (value : Value)
    (asked : String) :
    get? (insert fields name value) asked = if name = asked then some value else get? fields asked
    := by
  induction fields with
  | nil => rfl
  | cons field rest ih =>
    obtain ⟨other, kept⟩ := field
    rw [insert]
    split
    · rfl
    · split
      · rename_i same
        subst same
        by_cases asks : name = asked <;> simp [asks]
      · rename_i different
        rw [get?_cons, get?_cons, ih]
        by_cases asks : name = asked
        · subst asks
          rw [if_neg (Ne.symm different), if_pos rfl, if_pos rfl]
        · rw [if_neg asks, if_neg asks]

/-- A filter of names keeps what stands under the names that it keeps. -/
theorem get?_filter (keeps : String → Bool) (fields : Fields Value) (asked : String) :
    get? (fields.filter fun field => keeps field.1) asked =
      if keeps asked = true then get? fields asked else none := by
  induction fields with
  | nil => simp
  | cons field rest ih =>
    by_cases kept : keeps field.1 = true
    · rw [List.filter_cons, if_pos kept, get?_cons, get?_cons, ih]
      by_cases asks : field.1 = asked
      · rw [if_pos asks, if_pos asks, if_pos (asks ▸ kept)]
      · rw [if_neg asks, if_neg asks]
    · rw [List.filter_cons, if_neg kept, ih, get?_cons]
      by_cases asks : field.1 = asked
      · rw [if_neg (asks ▸ kept), if_neg (asks ▸ kept)]
      · rw [if_neg asks]

/-- **Erasing changes one name only.** -/
@[simp] theorem get?_erase (fields : Fields Value) (name asked : String) :
    get? (erase fields name) asked = if name = asked then none else get? fields asked := by
  have kept := get?_filter (fun other => other ≠ name) fields asked
  rw [erase]
  by_cases same : name = asked
  · simpa [same] using kept
  · simpa [same, Ne.symm same] using kept

/-- A name that no pair has is not found. -/
theorem get?_eq_none {fields : Fields Value} {name : String}
    (others : ∀ field ∈ fields, field.1 ≠ name) : get? fields name = none := by
  induction fields with
  | nil => rfl
  | cons field rest ih =>
    rw [get?_cons, if_neg (others field List.mem_cons_self)]
    exact ih fun other member => others other (List.mem_cons_of_mem _ member)

theorem mem_of_get? {fields : Fields Value} {name : String} {value : Value}
    (found : get? fields name = some value) : (name, value) ∈ fields := by
  induction fields with
  | nil => cases found
  | cons field rest ih =>
    obtain ⟨other, kept⟩ := field
    rw [get?_cons] at found
    split at found
    · rename_i same
      cases found
      subst same
      exact List.mem_cons_self
    · exact List.mem_cons_of_mem _ (ih found)

/-- A name of a table has a value. -/
theorem mem_names_iff {fields : Fields Value} {name : String} :
    name ∈ names fields ↔ get? fields name ≠ none := by
  induction fields with
  | nil => simp [names]
  | cons field rest ih =>
    rw [names] at ih ⊢
    rw [List.map_cons, List.mem_cons, ih, get?_cons]
    by_cases same : field.1 = name
    · simp [same]
    · simp [same, Ne.symm same]

/-! ### Sorted tables -/

@[simp] theorem sorted_nil : Sorted ([] : Fields Value) := List.Pairwise.nil

theorem Sorted.tail {field : String × Value} {rest : Fields Value}
    (sorted : Sorted (field :: rest)) : Sorted rest :=
  List.Pairwise.of_cons sorted

theorem Sorted.head_lt {field other : String × Value} {rest : Fields Value}
    (sorted : Sorted (field :: rest)) (member : other ∈ rest) : field.1 < other.1 :=
  List.rel_of_pairwise_cons sorted member

theorem mem_insert {fields : Fields Value} {name : String} {value : Value}
    {field : String × Value} (member : field ∈ insert fields name value) :
    field = (name, value) ∨ field ∈ fields := by
  induction fields with
  | nil => exact .inl (List.mem_singleton.mp member)
  | cons first rest ih =>
    obtain ⟨other, kept⟩ := first
    rw [insert] at member
    split at member
    · exact List.mem_cons.mp member
    · split at member
      · exact (List.mem_cons.mp member).imp_right (List.mem_cons_of_mem _)
      · rcases List.mem_cons.mp member with rfl | member
        · exact .inr List.mem_cons_self
        · exact (ih member).imp_right (List.mem_cons_of_mem _)

/-- **Inserting keeps a table sorted.** -/
theorem Sorted.insert {fields : Fields Value} (sorted : Sorted fields) (name : String)
    (value : Value) : Sorted (insert fields name value) := by
  induction fields with
  | nil => exact List.pairwise_singleton _ _
  | cons first rest ih =>
    obtain ⟨other, kept⟩ := first
    rw [Fields.insert]
    split
    · rename_i before
      refine List.Pairwise.cons (fun field member => ?_) sorted
      rcases List.mem_cons.mp member with rfl | member
      · exact before
      · exact String.lt_trans before (sorted.head_lt member)
    · rename_i notBefore
      split
      · rename_i same
        subst same
        exact List.Pairwise.cons (fun field member => sorted.head_lt member) sorted.tail
      · rename_i different
        refine List.Pairwise.cons (fun field member => ?_) (ih sorted.tail)
        rcases mem_insert member with rfl | member
        · by_cases after : other < name
          · exact after
          · exact absurd (eq_of_not_lt notBefore after) different
        · exact sorted.head_lt member

theorem Sorted.erase {fields : Fields Value} (sorted : Sorted fields) (name : String) :
    Sorted (erase fields name) :=
  List.Pairwise.filter _ sorted

/-- The names of a sorted table increase strictly. -/
theorem Sorted.names {fields : Fields Value} (sorted : Sorted fields) :
    (names fields).Pairwise fun first second => first < second :=
  List.Pairwise.map _ (fun _ _ before => before) sorted

theorem Sorted.get?_of_mem {fields : Fields Value} (sorted : Sorted fields) {name : String}
    {value : Value} (member : (name, value) ∈ fields) : get? fields name = some value := by
  induction fields with
  | nil => cases member
  | cons field rest ih =>
    rcases List.mem_cons.mp member with rfl | member
    · simp
    · have before : field.1 < name := sorted.head_lt member
      have different : field.1 ≠ name := fun same => String.lt_irrefl name (same ▸ before)
      rw [get?_cons, if_neg different]
      exact ih sorted.tail member

/-- Below the first name of a sorted table there is nothing. -/
theorem Sorted.get?_of_lt {field : String × Value} {rest : Fields Value}
    (sorted : Sorted (field :: rest)) {name : String} (before : name < field.1) :
    get? (field :: rest) name = none := by
  refine get?_eq_none fun other member same => ?_
  subst same
  rcases List.mem_cons.mp member with rfl | member
  · exact String.lt_irrefl _ before
  · exact String.lt_irrefl _ (String.lt_trans before (sorted.head_lt member))

/-- The first name of a sorted table is not found behind it. -/
theorem Sorted.get?_tail {field : String × Value} {rest : Fields Value}
    (sorted : Sorted (field :: rest)) : get? rest field.1 = none :=
  get?_eq_none fun _ member same => String.lt_irrefl field.1 (same ▸ sorted.head_lt member)

/-- **Sorted tables in which the same is found are equal.** -/
theorem Sorted.ext {first second : Fields Value} (sortedFirst : Sorted first)
    (sortedSecond : Sorted second) (same : ∀ name, get? first name = get? second name) :
    first = second := by
  induction first generalizing second with
  | nil =>
    cases second with
    | nil => rfl
    | cons field rest =>
      have found := same field.1
      rw [get?_cons, if_pos rfl] at found
      cases found
  | cons field rest ih =>
    cases second with
    | nil =>
      have found := same field.1
      rw [get?_cons, if_pos rfl] at found
      cases found
    | cons other others =>
      have notBefore : ¬ field.1 < other.1 := fun before => by
        have found := same field.1
        rw [sortedSecond.get?_of_lt before, get?_cons, if_pos rfl] at found
        cases found
      have notAfter : ¬ other.1 < field.1 := fun after => by
        have found := same other.1
        rw [sortedFirst.get?_of_lt after, get?_cons, if_pos rfl] at found
        cases found
      have sameName : field.1 = other.1 := eq_of_not_lt notBefore notAfter
      have sameValue : field.2 = other.2 := by
        have found := same field.1
        rw [get?_cons, get?_cons, if_pos rfl, if_pos sameName.symm] at found
        exact Option.some.inj found
      have sameField : field = other := Prod.ext sameName sameValue
      subst sameField
      have sameRest : ∀ name, get? rest name = get? others name := fun name => by
        by_cases isHead : field.1 = name
        · subst isHead
          rw [sortedFirst.get?_tail, sortedSecond.get?_tail]
        · have found := same name
          rwa [get?_cons, get?_cons, if_neg isHead, if_neg isHead] at found
      rw [ih sortedFirst.tail sortedSecond.tail sameRest]

/-! ### Tables and lists of names -/

/-- What a table holds under the names of a list, in the order of the list. -/
def lookup (fields : Fields Value) (names : List String) : Fields Value :=
  names.filterMap fun name => (get? fields name).map fun value => (name, value)

theorem get?_lookup (fields : Fields Value) (names : List String) (asked : String) :
    get? (lookup fields names) asked = if asked ∈ names then get? fields asked else none := by
  induction names with
  | nil => rfl
  | cons name rest ih =>
    rw [lookup] at ih ⊢
    rw [List.filterMap_cons]
    cases found : get? fields name with
    | none =>
      by_cases same : asked = name
      · subst same
        simp [ih, found]
      · simp [ih, same]
    | some value =>
      by_cases same : asked = name
      · subst same
        simp [found]
      · simp [ih, same, Ne.symm same]

theorem sorted_lookup (fields : Fields Value) {names : List String}
    (ascending : names.Pairwise fun first second => first < second) :
    Sorted (lookup fields names) := by
  refine List.Pairwise.filterMap _
    (fun first second before left isLeft right isRight => ?_) ascending
  obtain ⟨_, _, rfl⟩ := Option.map_eq_some_iff.mp isLeft
  obtain ⟨_, _, rfl⟩ := Option.map_eq_some_iff.mp isRight
  exact before

/-- **The part of a sorted table under some names is found by looking them up in order.** -/
theorem Sorted.filter_eq_lookup {fields : Fields Value} (sorted : Sorted fields)
    {names : List String} (ascending : names.Pairwise fun first second => first < second) :
    (fields.filter fun field => names.contains field.1) = lookup fields names := by
  have sortedPart : Sorted (fields.filter fun field => names.contains field.1) :=
    List.Pairwise.filter _ sorted
  refine sortedPart.ext (sorted_lookup fields ascending) fun name => ?_
  rw [get?_filter fun name => names.contains name, get?_lookup]
  simp only [List.contains_iff_mem]

/-- **A name that a filter drops may be inserted or not.** -/
theorem filter_insert (keeps : String → Bool) (fields : Fields Value) {name : String}
    (dropped : keeps name = false) (value : Value) :
    (insert fields name value).filter (fun field => keeps field.1) =
      fields.filter fun field => keeps field.1 := by
  induction fields with
  | nil => simp [insert, dropped]
  | cons first rest ih =>
    obtain ⟨other, kept⟩ := first
    rw [insert]
    split
    · rw [List.filter_cons_of_neg (by simp [dropped])]
    · split
      · rename_i same
        subst same
        rw [List.filter_cons_of_neg (by simp [dropped]),
          List.filter_cons_of_neg (by simp [dropped])]
      · rw [List.filter_cons, List.filter_cons, ih]

/-- What is inserted under a name goes with the name. -/
theorem erase_insert_self (fields : Fields Value) (name : String) (value : Value) :
    erase (insert fields name value) name = erase fields name :=
  filter_insert (fun other => other ≠ name) fields (by simp) value

/-- Two names may be erased in either order. -/
theorem erase_comm (fields : Fields Value) (first second : String) :
    erase (erase fields first) second = erase (erase fields second) first := by
  rw [erase, erase, erase, erase, List.filter_filter, List.filter_filter]
  exact List.filter_congr fun field _ => Bool.and_comm _ _

/-- **Inserting under one name and erasing another may change places.** -/
theorem Sorted.erase_insert {fields : Fields Value} (sorted : Sorted fields) {name erased : String}
    (different : name ≠ erased) (value : Value) :
    Fields.erase (Fields.insert fields name value) erased =
      Fields.insert (Fields.erase fields erased) name value := by
  refine ((sorted.insert name value).erase erased).ext ((sorted.erase erased).insert name value)
    fun asked => ?_
  rw [get?_erase, get?_insert, get?_insert, get?_erase]
  by_cases isErased : erased = asked
  · subst isErased
    rw [if_pos rfl, if_neg different, if_pos rfl]
  · rw [if_neg isErased, if_neg isErased]

/-- A table of pairs holds no others. -/
theorem mem_ofPairs {pairs : List (String × Value)} {field : String × Value}
    (member : field ∈ ofPairs pairs) : field ∈ pairs := by
  induction pairs using List.reverseRecOn with
  | nil => cases member
  | append_singleton before pair ih =>
    rw [ofPairs, List.foldl_append] at member
    rcases mem_insert member with rfl | isEarlier
    · exact List.mem_append_right _ List.mem_cons_self
    · exact List.mem_append_left _ (ih isEarlier)

/-- **Of several pairs with one name the last is found.** -/
theorem get?_ofPairs (pairs : List (String × Value)) (name : String) :
    get? (ofPairs pairs) name = (pairs.reverse.find? fun pair => pair.1 == name).map Prod.snd := by
  induction pairs using List.reverseRecOn with
  | nil => rfl
  | append_singleton before pair ih =>
    have step : ofPairs (before ++ [pair]) = insert (ofPairs before) pair.1 pair.2 := by
      rw [ofPairs, List.foldl_append, List.foldl_cons, List.foldl_nil, ofPairs]
    rw [step, get?_insert, List.reverse_append, List.reverse_singleton, List.singleton_append,
      List.find?_cons, ih]
    by_cases same : pair.1 = name
    · rw [if_pos same, beq_iff_eq.mpr same]
      rfl
    · rw [if_neg same, beq_eq_false_iff_ne.mpr same]

end Fields

end IndexGuard
