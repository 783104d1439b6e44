/-
**The parameters of a request group its texts by address.**

The entry of every key is made of texts that the request gives at the key and at its parts. Of a key
that steers paging or order these are its last plain text and what stands behind it in the request;
of every other key they are all of them (`counted`):

* `gathers_ofPairs`: the entry of every key, whatever the key is;
* `ParamValue.Gathers.grouped`: such an entry holds texts and no further entries
  (`ParamValue.Grouped`);
* `Gathers.eq_iff`, `ofPairs_eq_iff`: entries, and so parameters, are equal exactly when the same
  texts count at every address;
* `ofPairs_groups` puts this together; `plain_control_forgets` are two orders of the same texts that
  make different parameters.
-/

import IndexGuard.Proofs.Gathering
import Mathlib.Data.List.DropRight

namespace IndexGuard

open Address (Addresses)

/-! ### What an entry holds -/

namespace ParamValue

/-- The value of the plain key in an entry. -/
def plain? : ParamValue → Option ParamValue
  | nested _ => none
  | mixed plain _ => some plain
  | value => some value

/-- The values of the parts of a key in an entry. -/
def parts : ParamValue → Fields ParamValue
  | nested parts => parts
  | mixed _ parts => parts
  | _ => []

/-- The value is that of the texts of one address. -/
def OfTexts (value : ParamValue) : Prop := ∃ texts, ofTexts? texts = some value

/-- **The entry holds texts, or parts that hold texts, or both**, and no part without any. -/
inductive Grouped : ParamValue → Prop
  | plain {value : ParamValue} : OfTexts value → Grouped value
  | nested {parts : Fields ParamValue} : parts ≠ [] → (∀ part ∈ parts, OfTexts part.2) →
      Grouped (nested parts)
  | mixed {plain : ParamValue} {parts : Fields ParamValue} : OfTexts plain → parts ≠ [] →
      (∀ part ∈ parts, OfTexts part.2) → Grouped (mixed plain parts)

theorem ofTexts?_injective {first second : List String}
    (same : ofTexts? first = ofTexts? second) : first = second := by
  match first, second with
  | [], [] | [], [_] | [], _ :: _ :: _ | [_], [] | _ :: _ :: _, [] => simp_all [ofTexts?]
  | [_], [_] | [_], _ :: _ :: _ | _ :: _ :: _, [_] | _ :: _ :: _, _ :: _ :: _ =>
    simp_all [ofTexts?]

/-- The value of some texts is plain. -/
theorem plain?_of_ofTexts? {texts : List String} {value : ParamValue}
    (made : ofTexts? texts = some value) : value.plain? = some value ∧ value.parts = [] := by
  match texts, made with
  | [_], rfl => exact ⟨rfl, rfl⟩
  | _ :: _ :: _, rfl => exact ⟨rfl, rfl⟩

/-- The value of some texts has no parts. -/
theorem ofTexts?_ne {texts : List String} {value : ParamValue}
    (made : ofTexts? texts = some value) :
    (∀ parts, value ≠ nested parts) ∧ ∀ plain parts, value ≠ mixed plain parts := by
  match texts, made with
  | [_], rfl => exact ⟨nofun, nofun⟩
  | _ :: _ :: _, rfl => exact ⟨nofun, nofun⟩

/-- **An entry gives back what it was made of.** -/
theorem of_ofGiven? (texts : List String) (parts : Fields ParamValue) :
    (ofGiven? texts parts).bind plain? = ofTexts? texts ∧
      (ofGiven? texts parts).elim [] ParamValue.parts = parts := by
  unfold ofGiven?
  cases made : ofTexts? texts with
  | none => cases parts <;> exact ⟨rfl, rfl⟩
  | some value =>
    cases parts with
    | nil => exact plain?_of_ofTexts? made
    | cons part rest => exact ⟨rfl, rfl⟩

namespace Gathers

variable {entry other : Option ParamValue} {texts otherTexts : List String}
  {within otherWithin : String → List String}

/-- **The texts of an entry are found in it.** -/
theorem found (gathers : Gathers entry texts within) :
    entry.bind plain? = ofTexts? texts ∧
      ∀ part, Fields.get? (entry.elim [] ParamValue.parts) part = ofTexts? (within part) := by
  obtain ⟨parts, _, found, rfl⟩ := gathers
  obtain ⟨isPlain, isParts⟩ := of_ofGiven? texts parts
  rw [isParts]
  exact ⟨isPlain, found⟩

/-- **Entries are equal exactly when they hold the same texts.** -/
theorem eq_iff (gathers : Gathers entry texts within)
    (gathersOther : Gathers other otherTexts otherWithin) :
    entry = other ↔ texts = otherTexts ∧ within = otherWithin := by
  constructor
  · rintro rfl
    obtain ⟨plain, parts⟩ := gathers.found
    obtain ⟨plainOther, partsOther⟩ := gathersOther.found
    refine ⟨ofTexts?_injective (plain.symm.trans plainOther), ?_⟩
    funext part
    exact ofTexts?_injective ((parts part).symm.trans (partsOther part))
  · rintro ⟨rfl, rfl⟩
    obtain ⟨parts, sorted, found, rfl⟩ := gathers
    obtain ⟨otherParts, sortedOther, foundOther, rfl⟩ := gathersOther
    have same : parts = otherParts := sorted.ext sortedOther fun part =>
      (found part).trans (foundOther part).symm
    rw [same]

/-- **An entry is nested when all its texts are those of parts**, and mixed when some are. -/
theorem shape (gathers : Gathers entry texts within) :
    ((∃ parts, entry = some (nested parts)) ↔ texts = [] ∧ ∃ part, within part ≠ []) ∧
      ((∃ plain parts, entry = some (mixed plain parts)) ↔
        texts ≠ [] ∧ ∃ part, within part ≠ []) := by
  obtain ⟨parts, _, found, rfl⟩ := gathers
  rw [← parts_ne_nil_iff found, ne_eq texts, ← ofTexts?_eq_none_iff]
  unfold ofGiven?
  cases made : ofTexts? texts with
  | none => cases parts <;> simp
  | some value =>
    cases parts with
    | cons part rest => simp
    | nil =>
      obtain ⟨notNested, notMixed⟩ := ofTexts?_ne made
      simp [notNested, notMixed]

/-- **An entry holds texts and no further entries.** -/
theorem grouped {value : ParamValue} (gathers : Gathers (some value) texts within) :
    Grouped value := by
  obtain ⟨parts, sorted, found, made⟩ := gathers
  have ofTexts : ∀ part ∈ parts, OfTexts part.2 := fun part member =>
    ⟨within part.1, (found part.1).symm.trans (sorted.get?_of_mem member)⟩
  unfold ofGiven? at made
  cases isPlain : ofTexts? texts with
  | none =>
    rw [isPlain] at made
    cases parts with
    | nil => cases made
    | cons part rest =>
      cases made
      exact .nested (List.cons_ne_nil _ _) ofTexts
  | some plain =>
    rw [isPlain] at made
    cases parts with
    | nil =>
      cases made
      exact .plain ⟨texts, isPlain⟩
    | cons part rest =>
      cases made
      exact .mixed ⟨texts, isPlain⟩ (List.cons_ne_nil _ _) ofTexts

end Gathers

end ParamValue

/-! ### The texts that count -/

namespace Params

open ParamValue (Gathers ofTexts?)

/-- The pairs behind the last one that gives the key plainly; all of them, when none does. -/
def behindPlain (pairs : List (String × String)) (key : String) : List (String × String) :=
  pairs.rtakeWhile fun pair => ¬ Addresses pair.1 (.plain key)

/-- The texts that count at an address: all, except that a plain text of a control key takes the
place of what was given for the key before. -/
def counted (pairs : List (String × String)) : Address → List String
  | .plain key =>
    if key ∈ controlKeys then (given pairs (.plain key)).getLast?.toList
    else given pairs (.plain key)
  | .within key part =>
    if key ∈ controlKeys then given (behindPlain pairs key) (.within key part)
    else given pairs (.within key part)

variable {pairs : List (String × String)} {pair : String × String} {key : String}

theorem counted_of_ordinary {address : Address} (ordinary : address.field ∉ controlKeys) :
    counted pairs address = given pairs address := by
  cases address with
  | plain key => exact if_neg ordinary
  | within key part => exact if_neg ordinary

theorem behindPlain_of_plain (addressed : Addresses pair.1 (.plain key)) :
    behindPlain (pairs ++ [pair]) key = [] :=
  List.rtakeWhile_concat_neg _ _ _ (by simpa using addressed)

theorem behindPlain_of_not (elsewhere : ¬ Addresses pair.1 (.plain key)) :
    behindPlain (pairs ++ [pair]) key = behindPlain pairs key ++ [pair] :=
  List.rtakeWhile_concat_pos _ _ _ (by simpa using elsewhere)

/-- Where no pair gives the key plainly, all pairs count for its parts. -/
theorem behindPlain_eq_self (none : given pairs (.plain key) = []) :
    behindPlain pairs key = pairs :=
  List.rtakeWhile_eq_self_iff.mpr fun pair member => by
    simpa using given_eq_nil_iff.mp none pair member

/-- A text more at a control key takes the place of all others. -/
theorem counted_of_plain (pairs : List (String × String)) (control : key ∈ controlKeys)
    (addressed : Addresses pair.1 (.plain key)) :
    counted (pairs ++ [pair]) (.plain key) = [pair.2] ∧
      ∀ part, counted (pairs ++ [pair]) (.within key part) = [] := by
  constructor
  · rw [counted, if_pos control, given_append, given_singleton_of_addresses addressed,
      List.getLast?_concat]
    rfl
  · intro part
    rw [counted, if_pos control, behindPlain_of_plain addressed]
    rfl

/-- A pair that does not give the control key plainly adds the text that it gives at a part. -/
theorem counted_of_not (pairs : List (String × String)) (control : key ∈ controlKeys)
    (elsewhere : ¬ Addresses pair.1 (.plain key)) :
    counted (pairs ++ [pair]) (.plain key) = counted pairs (.plain key) ∧
      ∀ part, counted (pairs ++ [pair]) (.within key part) =
        counted pairs (.within key part) ++ given [pair] (.within key part) := by
  constructor
  · rw [counted, counted, if_pos control, if_pos control, given_append,
      given_singleton_of_not elsewhere, List.append_nil]
  · intro part
    rw [counted, counted, if_pos control, if_pos control, behindPlain_of_not elsewhere,
      given_append]

/-- Adding at an address leaves the entries of other keys alone. -/
theorem get?_add_of_ne (params : Params) {address : Address} (different : address.field ≠ key)
    (text : String) : Fields.get? (params.add address text) key = Fields.get? params key := by
  cases address with
  | plain field =>
    have other : field ≠ key := different
    rw [add]
    split <;> rw [Fields.get?_insert, if_neg other]
  | within field part =>
    have other : field ≠ key := different
    rw [add_within, Fields.get?_insert, if_neg other]

/-- A pair of another key leaves the entry of a key alone. -/
theorem get?_addPair_of_not (params : Params)
    (elsewhere : ∀ address : Address, address.field = key → ¬ Addresses pair.1 address) :
    Fields.get? (params.addPair pair) key = Fields.get? params key := by
  rw [addPair]
  cases read : Address.ofKey? pair.1 with
  | none => rfl
  | some address =>
    have addressed := Address.ofKey?_eq_some_iff.mp read
    exact get?_add_of_ne params (fun same => elsewhere address same addressed) pair.2

/-- **The entry of a control key after one more pair.** -/
theorem gathers_addPair (control : key ∈ controlKeys) {params : Params}
    (gathers : Gathers (Fields.get? params key) (counted pairs (.plain key))
      fun part => counted pairs (.within key part)) :
    Gathers (Fields.get? (params.addPair pair) key) (counted (pairs ++ [pair]) (.plain key))
      fun part => counted (pairs ++ [pair]) (.within key part) := by
  by_cases isPlain : Addresses pair.1 (.plain key)
  · obtain ⟨plain, parts⟩ := counted_of_plain pairs control isPlain
    rw [addPair, Address.ofKey?_eq_some_iff.mpr isPlain, plain]
    simp only [parts]
    rw [add_control params control, Fields.get?_insert, if_pos rfl]
    exact ⟨[], Fields.sorted_nil, fun _ => rfl, rfl⟩
  · obtain ⟨plain, parts⟩ := counted_of_not pairs control isPlain
    rw [plain]
    simp only [parts]
    by_cases isPart : ∃ part, Addresses pair.1 (.within key part)
    · obtain ⟨part, addressed⟩ := isPart
      have grown : (fun asked => if part = asked then counted pairs (.within key part) ++ [pair.2]
          else counted pairs (.within key asked)) =
          fun asked => counted pairs (.within key asked) ++ given [pair] (.within key asked) := by
        funext asked
        rw [given_singleton_within addressed]
        split
        · rename_i same
          rw [same]
        · rw [List.append_nil]
      rw [addPair, Address.ofKey?_eq_some_iff.mpr addressed, ← grown]
      show Gathers (Fields.get? (params.add (.within key part) pair.2) key) _ _
      rw [add_within, Fields.get?_insert, if_pos rfl]
      exact gathers.addNested part pair.2
    · have elsewhere : ∀ address : Address, address.field = key →
          ¬ Addresses pair.1 address := by
        rintro (_ | ⟨_, part⟩) rfl addressed
        · exact isPlain addressed
        · exact isPart ⟨part, addressed⟩
      have nothing : ∀ part, given [pair] (.within key part) = [] :=
        fun part => given_singleton_of_not (elsewhere (.within key part) rfl)
      simp only [nothing, List.append_nil]
      rwa [get?_addPair_of_not params elsewhere]

/-- **The entry of every key holds exactly the texts that count.** -/
theorem gathers_ofPairs (pairs : List (String × String)) (key : String) :
    Gathers (Fields.get? (ofPairs pairs) key) (counted pairs (.plain key))
      fun part => counted pairs (.within key part) := by
  by_cases control : key ∈ controlKeys
  · induction pairs using List.reverseRecOn with
    | nil =>
      have none : counted [] (.plain key) = [] := if_pos control
      have noPart : ∀ part, counted [] (.within key part) = [] := fun _ => if_pos control
      rw [none]
      simp only [noPart]
      exact ParamValue.gathers_none
    | append_singleton before pair ih =>
      rw [ofPairs_append_singleton]
      exact gathers_addPair control ih
  · have ordinary : ∀ address : Address, address.field = key →
        counted pairs address = given pairs address :=
      fun address same => counted_of_ordinary (same ▸ control)
    rw [ordinary (.plain key) rfl]
    simp only [fun part => ordinary (.within key part) rfl]
    exact (gather_ofPairs pairs).entries key control

/-- **Requests make the same parameters exactly when the same texts count at every address.** -/
theorem ofPairs_eq_iff {pairs others : List (String × String)} :
    ofPairs pairs = ofPairs others ↔ ∀ address, counted pairs address = counted others address := by
  have entries : ∀ key, Fields.get? (ofPairs pairs) key = Fields.get? (ofPairs others) key ↔ _ :=
    fun key => (gathers_ofPairs pairs key).eq_iff (gathers_ofPairs others key)
  constructor
  · intro same address
    cases address with
    | plain key => exact ((entries key).mp (by rw [same])).1
    | within key part => exact congrFun ((entries key).mp (by rw [same])).2 part
  · intro same
    refine (gather_ofPairs pairs).sorted.ext (gather_ofPairs others).sorted fun key => ?_
    exact (entries key).mpr ⟨same _, funext fun part => same _⟩

/-- Two pairs of different addresses may change places. -/
theorem given_comm {first second : String × String} {address other : Address}
    (isFirst : Addresses first.1 address) (isSecond : Addresses second.1 other)
    (different : address ≠ other) (asked : Address) :
    given [first, second] asked = given [second, first] asked := by
  show given ([first] ++ [second]) asked = given ([second] ++ [first]) asked
  rw [given_append, given_append]
  by_cases asks : Addresses first.1 asked
  · have elsewhere : ¬ Addresses second.1 asked := fun again =>
      different ((isFirst.unique asks).trans (isSecond.unique again).symm)
    rw [given_singleton_of_not elsewhere, List.append_nil, List.nil_append]
  · rw [given_singleton_of_not asks, List.append_nil, List.nil_append]

/-- **The parameters of a request group its texts by address, without loss.**

* A key that does not steer paging or order has an entry exactly when some pair asks for it. The
  entry holds the plain texts of the key and the texts of each of its parts, all in request order.
  It is nested when only parts are given, and mixed when both are.
* The entry of any key holds texts or parts that hold texts.
* Requests that give the same texts at every address make the same entries of those keys. They make
  the same parameters exactly when also, for each of the other keys, the same texts are given at its
  parts behind its last plain text.
-/
theorem ofPairs_groups (pairs : List (String × String)) :
    (∀ key, key ∉ controlKeys →
      (Fields.get? (ofPairs pairs) key ≠ none ↔ Asks pairs key) ∧
      (Fields.get? (ofPairs pairs) key).bind ParamValue.plain? =
        ofTexts? (given pairs (.plain key)) ∧
      (∀ part, Fields.get? ((Fields.get? (ofPairs pairs) key).elim [] ParamValue.parts) part =
        ofTexts? (given pairs (.within key part))) ∧
      ((∃ parts, Fields.get? (ofPairs pairs) key = some (.nested parts)) ↔
        given pairs (.plain key) = [] ∧ ∃ part, given pairs (.within key part) ≠ []) ∧
      ((∃ plain parts, Fields.get? (ofPairs pairs) key = some (.mixed plain parts)) ↔
        given pairs (.plain key) ≠ [] ∧ ∃ part, given pairs (.within key part) ≠ [])) ∧
    (∀ key value, Fields.get? (ofPairs pairs) key = some value → value.Grouped) ∧
    ∀ others, (∀ address, given pairs address = given others address) →
      (∀ key, key ∉ controlKeys →
        Fields.get? (ofPairs pairs) key = Fields.get? (ofPairs others) key) ∧
      (ofPairs pairs = ofPairs others ↔ ∀ key ∈ controlKeys, ∀ part,
        given (behindPlain pairs key) (.within key part) =
          given (behindPlain others key) (.within key part)) := by
  refine ⟨fun key ordinary => ?_, fun key value found => ?_, fun others same => ⟨?_, ?_⟩⟩
  · have gathers := (gather_ofPairs pairs).entries key ordinary
    obtain ⟨isPlain, isParts⟩ := gathers.found
    obtain ⟨isNested, isMixed⟩ := gathers.shape
    exact ⟨get?_ne_none_iff_asks ordinary, isPlain, isParts, isNested, isMixed⟩
  · have gathers := gathers_ofPairs pairs key
    rw [found] at gathers
    exact gathers.grouped
  · intro key ordinary
    refine (((gather_ofPairs pairs).entries key ordinary).eq_iff
      ((gather_ofPairs others).entries key ordinary)).mpr ⟨same _, ?_⟩
    funext part
    exact same _
  · rw [ofPairs_eq_iff]
    constructor
    · intro counts key control part
      simpa only [counted, if_pos control] using counts (.within key part)
    · intro behind address
      by_cases control : address.field ∈ controlKeys
      · cases address with
        | plain key => rw [counted, counted, same]
        | within key part =>
          have isControl : key ∈ controlKeys := control
          simpa only [counted, if_pos isControl] using behind key control part
      · rw [counted_of_ordinary control, counted_of_ordinary control, same]

/-- A bound and a value of one key, in either order. -/
theorem ofPairs_groups_year :
    ∃ pairs others : List (String × String), pairs = [("year[lt]", "2000"), ("year", "1990")] ∧
      others = [("year", "1990"), ("year[lt]", "2000")] ∧
      (∀ address, given pairs address = given others address) ∧ ofPairs pairs = ofPairs others := by
  have bound : Addresses "year[lt]" (.within "year" "lt") :=
    Address.ofKey?_eq_some_iff.mp (by decide)
  have value : Addresses "year" (.plain "year") := Address.ofKey?_eq_some_iff.mp (by decide)
  have same : ∀ asked, given [("year[lt]", "2000"), ("year", "1990")] asked =
      given [("year", "1990"), ("year[lt]", "2000")] asked :=
    given_comm bound value (by decide)
  refine ⟨_, _, rfl, rfl, same, ?_⟩
  obtain ⟨_, _, alike⟩ := ofPairs_groups [("year[lt]", "2000"), ("year", "1990")]
  refine (alike _ same).2.mpr fun key control part => ?_
  have unsteered : ∀ key ∈ controlKeys,
      given [("year[lt]", "2000"), ("year", "1990")] (.plain key) = [] := by decide
  have none := unsteered key control
  rw [behindPlain_eq_self none, behindPlain_eq_self (same (.plain key) ▸ none), same]

/-- **A plain text of a control key forgets what was given at the parts of the key before**, so that
the order of the same texts can matter. -/
theorem plain_control_forgets :
    ∃ pairs others : List (String × String),
      (∀ address, given pairs address = given others address) ∧
        ofPairs pairs ≠ ofPairs others := by
  have value : Addresses "page" (.plain "page") := Address.ofKey?_eq_some_iff.mp (by decide)
  have part : Addresses "page[a]" (.within "page" "a") :=
    Address.ofKey?_eq_some_iff.mp (by decide)
  refine ⟨[("page", "1"), ("page[a]", "2")], [("page[a]", "2"), ("page", "1")],
    given_comm value part (by decide), fun same => ?_⟩
  have read := congrArg (fun params => text? params "page") same
  have mixed : text? (ofPairs [("page", "1"), ("page[a]", "2")]) "page" = none := by decide
  have single : text? (ofPairs [("page[a]", "2"), ("page", "1")]) "page" = some "1" := by decide
  simp only [mixed, single] at read
  cases read

end Params

end IndexGuard
