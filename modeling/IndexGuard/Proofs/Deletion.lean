/-
**Requests with pairs taken out.**

* `Concerns`, `erase_ofPairs`: without the pairs that address a field or a part of it, a request
  makes the parameters without this field;
* `remaining_ofPairs`: the parameters that a search leaves are those of a request of their own;
* `Offending`, `ofPairs_inoffensive`: pairs whose key has an offending name make no difference.
-/

import IndexGuard.Listing.Resource
import IndexGuard.Proofs.Gathering

namespace IndexGuard

namespace Address

/-- The key addresses the field or a part of it. -/
def Concerns (key field : String) : Prop :=
  ∃ address, Addresses key address ∧ address.field = field

instance (key field : String) : Decidable (Concerns key field) :=
  decidable_of_iff ((ofKey? key).map Address.field = some field) (by
    simp only [Concerns, Option.map_eq_some_iff, ofKey?_eq_some_iff])

/-! ### Offending names -/

/-- The name is empty, begins like an operator, or reaches into a document. -/
def Offends (name : String) : Prop :=
  name = "" ∨ name.toList.head? = some '$' ∨ '.' ∈ name.toList

/-- The names that a key consists of: both sides of the bracket form, or else the key itself. -/
inductive NameIn (key : String) : String → Prop
  | field {field part : String} : Bracketed key field part → NameIn key field
  | part {field part : String} : Bracketed key field part → NameIn key part
  | whole : (∀ field part, ¬ Bracketed key field part) → NameIn key key

/-- Some name in the key offends. -/
def Offending (key : String) : Prop := ∃ name, NameIn key name ∧ Offends name

theorem isSafe_iff {name : String} : isSafe name = true ↔ ¬ Offends name := by
  simp [isSafe, Offends, and_assoc]

/-- **A key offends exactly when it addresses nothing.** -/
theorem offending_iff {key : String} : Offending key ↔ ∀ address, ¬ Addresses key address := by
  constructor
  · rintro ⟨name, isName, offends⟩ address addressed
    cases addressed with
    | plain formless safe =>
      cases isName with
      | field form => exact formless _ _ form
      | part form => exact formless _ _ form
      | whole _ => exact isSafe_iff.mp safe offends
    | within form safeField safePart =>
      cases isName with
      | field again =>
        rw [← (form.unique again).1] at offends
        exact isSafe_iff.mp safeField offends
      | part again =>
        rw [← (form.unique again).2] at offends
        exact isSafe_iff.mp safePart offends
      | whole formless => exact formless _ _ form
  · intro nowhere
    -- Without an offending name the key would address something, plainly or in brackets.
    by_contra harmless
    have safe : ∀ name, NameIn key name → isSafe name = true := fun name isName =>
      isSafe_iff.mpr fun offends => harmless ⟨name, isName, offends⟩
    by_cases bracketed : ∃ field part, Bracketed key field part
    · obtain ⟨field, part, form⟩ := bracketed
      exact nowhere _ (.within form (safe _ (.field form)) (safe _ (.part form)))
    · have formless : ∀ field part, ¬ Bracketed key field part := fun field part form =>
        bracketed ⟨field, part, form⟩
      exact nowhere _ (.plain formless (safe _ (.whole formless)))

theorem offending_iff_ofKey? {key : String} : ofKey? key = none ↔ Offending key := by
  rw [offending_iff, Option.eq_none_iff_forall_ne_some]
  exact forall_congr' fun address => not_congr ofKey?_eq_some_iff

instance (key : String) : Decidable (Offending key) := decidable_of_iff _ offending_iff_ofKey?

end Address

open Address (Addresses Concerns Offending)

/-- The pairs of a request in whose key no name offends. -/
def inoffensive (pairs : List (String × String)) : List (String × String) :=
  pairs.filter fun pair => ¬ Offending pair.1

namespace Params

/-! ### One pair -/

/-- **An address changes the entry of its field only**, to something that depends on this entry. -/
theorem exists_add (address : Address) (text : String) :
    ∃ entry : Option ParamValue → ParamValue, ∀ params : Params,
      params.add address text =
        Fields.insert params address.field (entry (Fields.get? params address.field)) := by
  cases address with
  | plain field =>
    by_cases control : field ∈ controlKeys
    · exact ⟨fun _ => .single text, fun params => add_control params control text⟩
    · exact ⟨fun entry => ParamValue.addTo entry text, fun params => add_plain params control text⟩
  | within field part =>
    exact ⟨fun entry => (entry.getD (.nested [])).addNested part text,
      fun params => add_within params field part text⟩

/-- A pair of the erased field is erased with it. -/
theorem erase_addPair_of_concerns (params : Params) {pair : String × String} {field : String}
    (concerns : Concerns pair.1 field) :
    Fields.erase (params.addPair pair) field = Fields.erase params field := by
  obtain ⟨address, addressed, rfl⟩ := concerns
  obtain ⟨entry, adds⟩ := exists_add address pair.2
  rw [addPair, Address.ofKey?_eq_some_iff.mpr addressed]
  show Fields.erase (params.add address pair.2) address.field = _
  rw [adds, Fields.erase_insert_self]

/-- A pair of another field may be added before or after the erasure. -/
theorem erase_addPair_of_not {params : Params} (sorted : Fields.Sorted params)
    {pair : String × String} {field : String} (other : ¬ Concerns pair.1 field) :
    Fields.erase (params.addPair pair) field = addPair (Fields.erase params field) pair := by
  rw [addPair, addPair]
  cases read : Address.ofKey? pair.1 with
  | none => rfl
  | some address =>
    have different : address.field ≠ field := fun same =>
      other ⟨address, Address.ofKey?_eq_some_iff.mp read, same⟩
    obtain ⟨entry, adds⟩ := exists_add address pair.2
    show Fields.erase (params.add address pair.2) field = add (Fields.erase params field) _ pair.2
    rw [adds, adds, sorted.erase_insert different, Fields.get?_erase, if_neg different.symm]

/-! ### All pairs -/

/-- **Without the pairs of a field, a request makes the parameters without the field.** -/
theorem erase_ofPairs (pairs : List (String × String)) (field : String) :
    Fields.erase (ofPairs pairs) field =
      ofPairs (pairs.filter fun pair => ¬ Concerns pair.1 field) := by
  -- Parameters are made pair by pair, so the last pair is the one to take away.
  induction pairs using List.reverseRecOn with
  | nil => rfl
  | append_singleton before pair ih =>
    rw [ofPairs_append_singleton, List.filter_append]
    by_cases concerns : Concerns pair.1 field
    · rw [erase_addPair_of_concerns _ concerns, ih,
        List.filter_cons_of_neg (by simpa using concerns), List.filter_nil, List.append_nil]
    · rw [erase_addPair_of_not (gather_ofPairs before).sorted concerns, ih,
        List.filter_cons_of_pos (by simpa using concerns), List.filter_nil,
        ofPairs_append_singleton]

/-- **Without the pairs with an offending name, a request makes the same parameters.** -/
theorem ofPairs_inoffensive (pairs : List (String × String)) :
    ofPairs (inoffensive pairs) = ofPairs pairs := by
  unfold inoffensive
  induction pairs using List.reverseRecOn with
  | nil => rfl
  | append_singleton before pair ih =>
    rw [ofPairs_append_singleton, List.filter_append]
    by_cases offending : Offending pair.1
    · rw [List.filter_cons_of_neg (by simpa using offending), List.filter_nil, List.append_nil, ih,
        addPair, Address.offending_iff_ofKey?.mpr offending]
    · rw [List.filter_cons_of_pos (by simpa using offending), List.filter_nil,
        ofPairs_append_singleton, ih]

/-- A key of a request is a safe name. -/
theorem isSafe_of_get? {pairs : List (String × String)} {key : String}
    (found : Fields.get? (ofPairs pairs) key ≠ none) : Address.isSafe key = true := by
  by_cases control : key ∈ controlKeys
  · have safe : ∀ key ∈ controlKeys, Address.isSafe key = true := by decide
    exact safe key control
  · obtain ⟨_, _, address, addressed, rfl⟩ := (get?_ne_none_iff_asks control).mp found
    exact Address.isSafe_of_addresses addressed

end Params

namespace Resource

/-- **What a search leaves is a request of its own.** -/
theorem remaining_ofPairs (resource : Resource) (pairs : List (String × String)) :
    ∃ others, resource.remaining (Params.ofPairs pairs) = Params.ofPairs others := by
  unfold remaining
  split
  · exact ⟨_, Params.erase_ofPairs pairs _⟩
  · exact ⟨pairs, rfl⟩

/-- A request searches in a field with a safe name. -/
theorem isSafe_of_search? {resource : Resource} {pairs : List (String × String)}
    {field text : String}
    (searches : resource.search? (Params.ofPairs pairs) = some (field, text)) :
    Address.isSafe field = true := by
  unfold search? at searches
  obtain ⟨name, _, searches⟩ := Option.bind_eq_some_iff.mp searches
  obtain ⟨asked, given, searches⟩ := Option.bind_eq_some_iff.mp searches
  have present : Fields.get? (Params.ofPairs pairs) name ≠ none := fun absent => by
    rw [Params.text?, absent] at given
    cases given
  split at searches
  · cases searches
  · cases searches
    exact Params.isSafe_of_get? present

end Resource

end IndexGuard
