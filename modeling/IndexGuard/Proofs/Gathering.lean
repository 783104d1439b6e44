/-
**What the parameters of a request hold.**

The pairs of a request give texts at addresses (`given`). The entry of a key that does not steer
paging or order is determined by the texts given at the key and at each of its parts, in request
order and however the pairs are interleaved (`Gathers`):

* `Gathers.addPlain`, `Gathers.addNested`: what one more pair of the key does to its entry;
* `gather_ofPairs`: the entry of every such key after all pairs;
* `get?_ne_none_iff_asks`: a key has an entry exactly when some pair addresses it.
-/

import IndexGuard.Proofs.Address
import IndexGuard.Proofs.Fields
import Mathlib.Data.List.Induction

namespace IndexGuard

open Address (Addresses)

/-- The texts that a request gives at an address, in request order. -/
def given (pairs : List (String × String)) (address : Address) : List String :=
  (pairs.filter fun pair => Addresses pair.1 address).map Prod.snd

/-- Some pair of the request addresses the field or a part of it. -/
def Asks (pairs : List (String × String)) (field : String) : Prop :=
  ∃ pair ∈ pairs, ∃ address, Addresses pair.1 address ∧ address.field = field

/-- Some pair of the request addresses the part of the field. -/
def AsksWithin (pairs : List (String × String)) (field part : String) : Prop :=
  ∃ pair ∈ pairs, Addresses pair.1 (.within field part)

theorem given_append (first second : List (String × String)) (address : Address) :
    given (first ++ second) address = given first address ++ given second address := by
  rw [given, List.filter_append, List.map_append, given, given]

theorem given_singleton_of_addresses {pair : String × String} {address : Address}
    (addressed : Addresses pair.1 address) : given [pair] address = [pair.2] := by
  rw [given, List.filter_cons_of_pos (by simpa using addressed), List.filter_nil,
    List.map_singleton]

theorem given_singleton_of_not {pair : String × String} {address : Address}
    (elsewhere : ¬ Addresses pair.1 address) : given [pair] address = [] := by
  rw [given, List.filter_cons_of_neg (by simpa using elsewhere), List.filter_nil, List.map_nil]

/-- A pair of a part gives its text there and none at the other parts. -/
theorem given_singleton_within {pair : String × String} {field part : String}
    (addressed : Addresses pair.1 (.within field part)) (asked : String) :
    given [pair] (.within field asked) = if part = asked then [pair.2] else [] := by
  split
  · rename_i same
    rw [← same, given_singleton_of_addresses addressed]
  · rename_i different
    exact given_singleton_of_not fun again => different (by cases addressed.unique again; rfl)

/-- Texts are given at an address exactly when a pair addresses it. -/
theorem given_eq_nil_iff {pairs : List (String × String)} {address : Address} :
    given pairs address = [] ↔ ∀ pair ∈ pairs, ¬ Addresses pair.1 address := by
  simp [given, List.filter_eq_nil_iff]

theorem given_within_ne_nil_iff {pairs : List (String × String)} {field part : String} :
    given pairs (.within field part) ≠ [] ↔ AsksWithin pairs field part := by
  rw [ne_eq, given_eq_nil_iff]
  simp [AsksWithin]

/-- A field is asked for plainly or in one of its parts. -/
theorem asks_iff_given {pairs : List (String × String)} {field : String} :
    Asks pairs field ↔
      given pairs (.plain field) ≠ [] ∨ ∃ part, given pairs (.within field part) ≠ [] := by
  constructor
  · rintro ⟨pair, member, address, addressed, rfl⟩
    cases address with
    | plain field => exact .inl fun none => given_eq_nil_iff.mp none pair member addressed
    | within field part =>
      exact .inr ⟨part, fun none => given_eq_nil_iff.mp none pair member addressed⟩
  · have asked : ∀ address, given pairs address ≠ [] → Asks pairs address.field := by
      intro address some
      rw [ne_eq, given_eq_nil_iff] at some
      simp only [not_forall, not_not] at some
      obtain ⟨pair, member, addressed⟩ := some
      exact ⟨pair, member, address, addressed, rfl⟩
    rintro (some | ⟨part, some⟩)
    · exact asked _ some
    · exact asked _ some

namespace ParamValue

/-- The value that the texts of one address make: a single one stands alone. -/
def ofTexts? : List String → Option ParamValue
  | [] => none
  | [text] => some (single text)
  | texts => some (many texts)

/-- The entry that the texts of a key and the values of its parts make. -/
def ofGiven? (texts : List String) (parts : Fields ParamValue) : Option ParamValue :=
  match ofTexts? texts, parts with
  | none, [] => none
  | none, parts => some (nested parts)
  | some plain, [] => some plain
  | some plain, parts => some (mixed plain parts)

/-- **An entry holds exactly some texts of its key and some texts of each part.** -/
def Gathers (entry : Option ParamValue) (texts : List String) (within : String → List String) :
    Prop :=
  ∃ parts : Fields ParamValue, Fields.Sorted parts ∧
    (∀ part, Fields.get? parts part = ofTexts? (within part)) ∧ entry = ofGiven? texts parts

@[simp] theorem ofTexts?_eq_none_iff {texts : List String} :
    ofTexts? texts = none ↔ texts = [] := by
  unfold ofTexts?
  split <;> simp_all

/-- A text more. -/
theorem addTo_ofTexts? (texts : List String) (text : String) :
    some (addTo (ofTexts? texts) text) = ofTexts? (texts ++ [text]) := by
  match texts with
  | [] => rfl
  | [first] => rfl
  | first :: second :: rest => rfl

theorem addPart_ne_nil (parts : Fields ParamValue) (part text : String) :
    addPart parts part text ≠ [] := by
  intro empty
  have found := Fields.get?_insert parts part (addTo (Fields.get? parts part) text) part
  rw [← addPart, empty, if_pos rfl] at found
  cases found

theorem ofGiven?_of_ne_nil {texts : List String} {parts : Fields ParamValue} (some : parts ≠ []) :
    ofGiven? texts parts =
      match ofTexts? texts with
      | none => Option.some (nested parts)
      | .some plain => Option.some (mixed plain parts) := by
  unfold ofGiven?
  cases ofTexts? texts <;> cases parts <;> first | rfl | exact absurd rfl some

/-- **One more plain text.** -/
theorem Gathers.addPlain {entry : Option ParamValue} {texts : List String}
    {within : String → List String} (gathers : Gathers entry texts within) (text : String) :
    Gathers (some (addTo entry text)) (texts ++ [text]) within := by
  obtain ⟨parts, sorted, found, rfl⟩ := gathers
  refine ⟨parts, sorted, found, ?_⟩
  unfold ofGiven?
  rw [← addTo_ofTexts?]
  cases ofTexts? texts <;> cases parts <;> rfl

/-- **One more text of a part.** -/
theorem Gathers.addNested {entry : Option ParamValue} {texts : List String}
    {within : String → List String} (gathers : Gathers entry texts within) (part text : String) :
    Gathers (some ((entry.getD (nested [])).addNested part text)) texts
      (fun asked => if part = asked then within part ++ [text] else within asked) := by
  obtain ⟨parts, sorted, found, rfl⟩ := gathers
  refine ⟨addPart parts part text, sorted.insert _ _, fun asked => ?_, ?_⟩
  · rw [addPart, Fields.get?_insert, found part]
    by_cases same : part = asked
    · simp only [if_pos same, addTo_ofTexts?]
    · simp only [if_neg same, found asked]
  · rw [ofGiven?_of_ne_nil (addPart_ne_nil parts part text)]
    unfold ofGiven?
    cases plain : ofTexts? texts with
    | none => cases parts <;> rfl
    | some value =>
      cases parts with
      | cons _ _ => rfl
      | nil =>
        match texts, plain with
        | [_], rfl => rfl
        | _ :: _ :: _, rfl => rfl

theorem gathers_none : Gathers none [] fun _ => [] :=
  ⟨[], Fields.sorted_nil, fun _ => rfl, rfl⟩

/-- There are parts exactly when some part has a text. -/
theorem parts_ne_nil_iff {parts : Fields ParamValue} {within : String → List String}
    (found : ∀ part, Fields.get? parts part = ofTexts? (within part)) :
    parts ≠ [] ↔ ∃ part, within part ≠ [] := by
  constructor
  · intro some
    obtain ⟨field, rest, rfl⟩ := List.exists_cons_of_ne_nil some
    refine ⟨field.1, fun empty => ?_⟩
    have absent := found field.1
    rw [empty, Fields.get?_cons, if_pos rfl] at absent
    cases absent
  · rintro ⟨part, some⟩ rfl
    exact some (ofTexts?_eq_none_iff.mp (found part).symm)

/-- An entry is there exactly when it holds a text. -/
theorem Gathers.ne_none_iff {entry : Option ParamValue} {texts : List String}
    {within : String → List String} (gathers : Gathers entry texts within) :
    entry ≠ none ↔ texts ≠ [] ∨ ∃ part, within part ≠ [] := by
  obtain ⟨parts, sorted, found, rfl⟩ := gathers
  rw [← parts_ne_nil_iff found, ne_eq texts, ← ofTexts?_eq_none_iff]
  unfold ofGiven?
  cases ofTexts? texts <;> cases parts <;> simp

end ParamValue

namespace Params

open ParamValue (Gathers)

theorem add_control (params : Params) {field : String} (control : field ∈ controlKeys)
    (text : String) : params.add (.plain field) text = Fields.insert params field (.single text) :=
  if_pos (List.contains_iff_mem.mpr control)

theorem add_plain (params : Params) {field : String} (ordinary : field ∉ controlKeys)
    (text : String) :
    params.add (.plain field) text =
      Fields.insert params field (ParamValue.addTo (Fields.get? params field) text) :=
  if_neg fun control => ordinary (List.contains_iff_mem.mp control)

theorem add_within (params : Params) (field part text : String) :
    params.add (.within field part) text =
      Fields.insert params field
        (((Fields.get? params field).getD (.nested [])).addNested part text) := rfl

/-- The parameters hold, for every key that is no control key, exactly what the pairs give. -/
structure Gather (params : Params) (pairs : List (String × String)) : Prop where
  sorted : Fields.Sorted params
  entries : ∀ key, key ∉ controlKeys →
    Gathers (Fields.get? params key) (given pairs (.plain key))
      (fun part => given pairs (.within key part))

/-- **A pair that addresses nothing changes nothing.** -/
theorem Gather.skip {params : Params} {pairs : List (String × String)}
    (gather : Gather params pairs) {pair : String × String}
    (nowhere : ∀ address, ¬ Addresses pair.1 address) : Gather params (pairs ++ [pair]) := by
  refine ⟨gather.sorted, fun key ordinary => ?_⟩
  simpa only [given_append, given_singleton_of_not (nowhere _), List.append_nil]
    using gather.entries key ordinary

/-- A pair of another key changes nothing of what an entry has to hold. -/
theorem Gather.entry_of_other {params : Params} {pairs : List (String × String)}
    (gather : Gather params pairs) {pair : String × String} {address : Address}
    (addressed : Addresses pair.1 address) {key : String} (ordinary : key ∉ controlKeys)
    (different : address.field ≠ key) :
    Gathers (Fields.get? params key) (given (pairs ++ [pair]) (.plain key))
      (fun part => given (pairs ++ [pair]) (.within key part)) := by
  have nothing : ∀ other : Address, other.field = key → given [pair] other = [] :=
    fun other same => given_singleton_of_not fun again =>
      different (by rw [addressed.unique again, same])
  simpa only [given_append, nothing (.plain key) rfl, nothing (.within key _) rfl,
    List.append_nil] using gather.entries key ordinary

/-- A pair of a plain key adds its text to the plain ones of the entry. -/
theorem Gather.addPlain {params : Params} {pairs : List (String × String)}
    (gather : Gather params pairs) {pair : String × String} {field : String}
    (addressed : Addresses pair.1 (.plain field)) :
    Gather (params.add (.plain field) pair.2) (pairs ++ [pair]) := by
  by_cases control : field ∈ controlKeys
  · rw [add_control _ control]
    refine ⟨gather.sorted.insert _ _, fun key ordinary => ?_⟩
    have different : field ≠ key := fun same => ordinary (same ▸ control)
    rw [Fields.get?_insert, if_neg different]
    exact gather.entry_of_other addressed ordinary different
  · rw [add_plain _ control]
    refine ⟨gather.sorted.insert _ _, fun key ordinary => ?_⟩
    rw [Fields.get?_insert]
    by_cases same : field = key
    · subst same
      have here := given_singleton_of_addresses addressed
      have noPart : ∀ part, given [pair] (.within field part) = [] := fun part =>
        given_singleton_of_not fun again => by cases addressed.unique again
      rw [if_pos rfl]
      simpa only [given_append, noPart, here, List.append_nil]
        using (gather.entries field ordinary).addPlain pair.2
    · rw [if_neg same]
      exact gather.entry_of_other addressed ordinary same

/-- A pair of a part adds its text to those of the part. -/
theorem Gather.addNested {params : Params} {pairs : List (String × String)}
    (gather : Gather params pairs) {pair : String × String} {field part : String}
    (addressed : Addresses pair.1 (.within field part)) :
    Gather (params.add (.within field part) pair.2) (pairs ++ [pair]) := by
  rw [add_within]
  refine ⟨gather.sorted.insert _ _, fun key ordinary => ?_⟩
  rw [Fields.get?_insert]
  by_cases same : field = key
  · subst same
    have noPlain : given [pair] (.plain field) = [] :=
      given_singleton_of_not fun again => by cases addressed.unique again
    have grown : (fun asked => if part = asked then given pairs (.within field part) ++ [pair.2]
        else given pairs (.within field asked)) =
        fun asked => given (pairs ++ [pair]) (.within field asked) := by
      funext asked
      rw [given_append, given_singleton_within addressed]
      split
      · rename_i same
        rw [same]
      · rw [List.append_nil]
    rw [if_pos rfl, ← grown]
    simpa only [given_append, noPlain, List.append_nil]
      using (gather.entries field ordinary).addNested part pair.2
  · rw [if_neg same]
    exact gather.entry_of_other addressed ordinary same

/-- **A pair changes the entry of the key that it addresses.** -/
theorem Gather.add {params : Params} {pairs : List (String × String)}
    (gather : Gather params pairs) {pair : String × String} {address : Address}
    (addressed : Addresses pair.1 address) :
    Gather (params.add address pair.2) (pairs ++ [pair]) := by
  cases address with
  | plain field => exact gather.addPlain addressed
  | within field part => exact gather.addNested addressed

theorem ofPairs_append_singleton (before : List (String × String)) (pair : String × String) :
    ofPairs (before ++ [pair]) = addPair (ofPairs before) pair := by
  rw [ofPairs, List.foldl_append, List.foldl_cons, List.foldl_nil, ofPairs]

/-- **The parameters of a request hold exactly what its pairs give.** -/
theorem gather_ofPairs (pairs : List (String × String)) : Gather (ofPairs pairs) pairs := by
  induction pairs using List.reverseRecOn with
  | nil => exact ⟨Fields.sorted_nil, fun _ _ => ParamValue.gathers_none⟩
  | append_singleton before pair ih =>
    rw [ofPairs_append_singleton, addPair]
    cases read : Address.ofKey? pair.1 with
    | none =>
      refine ih.skip fun address addressed => ?_
      rw [Address.ofKey?_eq_some_iff.mpr addressed] at read
      cases read
    | some address => exact ih.add (Address.ofKey?_eq_some_iff.mp read)

/-- **A key has an entry exactly when some pair asks for it.** -/
theorem get?_ne_none_iff_asks {pairs : List (String × String)} {key : String}
    (ordinary : key ∉ controlKeys) : Fields.get? (ofPairs pairs) key ≠ none ↔ Asks pairs key := by
  rw [((gather_ofPairs pairs).entries key ordinary).ne_none_iff, asks_iff_given]

theorem text?_eq_some_iff {params : Params} {key text : String} :
    params.text? key = some text ↔ Fields.get? params key = some (.single text) := by
  unfold text?
  cases Fields.get? params key with
  | none => simp
  | some value => cases value <;> simp [ParamValue.text?]

theorem text?_insert_single (params : Params) (key text asked : String) :
    text? (Fields.insert params key (.single text)) asked =
      if key = asked then some text else params.text? asked := by
  rw [text?, Fields.get?_insert]
  split <;> rfl

/-! ### The keys that do not steer paging and order -/

theorem withoutControls_eq_filter (params : Params) :
    params.withoutControls = params.filter fun field => !controlKeys.contains field.1 := by
  simp only [withoutControls, controlKeys, List.foldl_cons, List.foldl_nil, Fields.erase,
    List.filter_filter]
  refine List.filter_congr fun field _ => ?_
  by_cases isPage : field.1 = pageKey <;> by_cases isLimit : field.1 = limitKey <;>
    by_cases isSort : field.1 = sortKey <;> simp [isPage, isLimit, isSort]

/-- A value of a control key is dropped. -/
theorem withoutControls_insert (params : Params) {key : String} (control : key ∈ controlKeys)
    (value : ParamValue) :
    withoutControls (Fields.insert params key value) = params.withoutControls := by
  have dropped : (!controlKeys.contains key) = false := by
    rw [List.contains_iff_mem.mpr control, Bool.not_true]
  rw [withoutControls_eq_filter, withoutControls_eq_filter,
    Fields.filter_insert (fun name => !controlKeys.contains name) params dropped]

theorem sorted_withoutControls {params : Params} (sorted : Fields.Sorted params) :
    Fields.Sorted params.withoutControls :=
  ((sorted.erase _).erase _).erase _

theorem get?_withoutControls (params : Params) (key : String) :
    Fields.get? params.withoutControls key =
      if key ∈ controlKeys then none else Fields.get? params key := by
  simp only [withoutControls, controlKeys, List.foldl_cons, List.foldl_nil, Fields.get?_erase,
    List.mem_cons, List.not_mem_nil, or_false]
  by_cases isSort : sortKey = key
  · simp [isSort]
  · by_cases isLimit : limitKey = key
    · simp [isLimit]
    · by_cases isPage : pageKey = key
      · simp [isPage]
      · simp [isSort, isLimit, isPage, Ne.symm isSort, Ne.symm isLimit, Ne.symm isPage]

end Params

end IndexGuard
