/-
**The pairs that arguments give.**

An argument is a key and a value with the first `=` between them (`Params.Writes`); without an `=`,
or with nothing before it, it is malformed (`Params.Malformed`).

* `cut?_eq_some_iff`, `cut?_eq_none_iff`: a text is cut at its first separator, if it has one;
* `pair?_eq_ok_iff`, `pair?_eq_error_iff`: an argument gives the pair that it writes, and a
  malformed one none;
* `ofArguments_eq_ok_iff`, `ofArguments_eq_error_iff`: arguments give the parameters of their pairs,
  unless one is malformed, of which the first is named.
-/

import IndexGuard.Command.Run
import Mathlib.Data.List.Forall2

namespace IndexGuard

namespace Text

variable {separator : Char}

theorem cut?_eq_none_iff {chars : List Char} : cut? separator chars = none ↔ separator ∉ chars := by
  induction chars with
  | nil => simp [cut?]
  | cons char rest ih =>
    rw [cut?]
    by_cases same : char = separator
    · simp [same]
    · rw [if_neg same, Option.map_eq_none_iff, ih, List.mem_cons, not_or]
      exact ⟨fun absent => ⟨Ne.symm same, absent⟩, fun absent => absent.2⟩

/-- **A text is cut at its first separator.** -/
theorem cut?_eq_some_iff {chars before after : List Char} :
    cut? separator chars = some (before, after) ↔
      chars = before ++ separator :: after ∧ separator ∉ before := by
  induction chars generalizing before with
  | nil => simp [cut?]
  | cons char rest ih =>
    rw [cut?]
    by_cases same : char = separator
    · subst same
      rw [if_pos rfl]
      constructor
      · intro cut
        cases cut
        exact ⟨rfl, List.not_mem_nil⟩
      · rintro ⟨split, absent⟩
        cases before with
        | nil =>
          cases split
          rfl
        | cons first others =>
          cases split
          exact absurd List.mem_cons_self absent
    · rw [if_neg same, Option.map_eq_some_iff]
      constructor
      · rintro ⟨⟨others, last⟩, cut, parts⟩
        cases parts
        obtain ⟨rfl, absent⟩ := ih.mp cut
        refine ⟨rfl, fun member => ?_⟩
        rcases List.mem_cons.mp member with isChar | isOther
        · exact same isChar.symm
        · exact absent isOther
      · rintro ⟨split, absent⟩
        cases before with
        | nil =>
          cases split
          exact absurd rfl same
        | cons first others =>
          cases split
          have others_plain : separator ∉ others := fun member =>
            absent (List.mem_cons_of_mem _ member)
          exact ⟨_, ih.mpr ⟨rfl, others_plain⟩, rfl⟩

end Text

/-! ### Readings in turn -/

namespace Except

variable {Item Result Fault : Type} {read : Item → Except Fault Result} {items : List Item}

/-- All readings succeed exactly when each of them does. -/
theorem mapM_eq_ok_iff {results : List Result} :
    items.mapM read = .ok results ↔
      List.Forall₂ (fun item result => read item = .ok result) items results := by
  induction items generalizing results with
  | nil => cases results <;> simp [pure, Except.pure]
  | cons item rest ih =>
    rw [List.mapM_cons, List.forall₂_cons_left_iff]
    simp only [← ih]
    cases read item with
    | error fault => simp [bind, Except.bind]
    | ok result =>
      cases rest.mapM read with
      | error fault => simp [bind, Except.bind]
      | ok others => simp [bind, Except.bind, pure, Except.pure, eq_comm]

/-- **Of several readings that fail, the first is reported.** -/
theorem mapM_eq_error_iff {fault : Fault} :
    items.mapM read = .error fault ↔ ∃ before bad after, items = before ++ bad :: after ∧
      (∀ item ∈ before, ∃ result, read item = .ok result) ∧ read bad = .error fault := by
  induction items with
  | nil => simp [pure, Except.pure]
  | cons item rest ih =>
    rw [List.mapM_cons]
    cases first : read item with
    | error early =>
      constructor
      · intro failed
        cases failed
        exact ⟨[], item, rest, rfl, fun _ member => absurd member List.not_mem_nil, first⟩
      · rintro ⟨before, bad, after, split, good, fails⟩
        cases before with
        | nil =>
          cases split
          rw [first] at fails
          cases fails
          rfl
        | cons head others =>
          cases split
          obtain ⟨result, passes⟩ := good item List.mem_cons_self
          rw [first] at passes
          cases passes
    | ok result =>
      have behind : (do let others ← rest.mapM read; pure (result :: others)) =
          (.error fault : Except Fault (List Result)) ↔ rest.mapM read = .error fault := by
        cases rest.mapM read <;> simp [bind, Except.bind, pure, Except.pure]
      show (do let others ← rest.mapM read; pure (result :: others)) = _ ↔ _
      rw [behind, ih]
      constructor
      · rintro ⟨before, bad, after, rfl, good, fails⟩
        refine ⟨item :: before, bad, after, rfl, ?_, fails⟩
        exact List.forall_mem_cons.mpr ⟨⟨result, first⟩, good⟩
      · rintro ⟨before, bad, after, split, good, fails⟩
        cases before with
        | nil =>
          cases split
          rw [first] at fails
          cases fails
        | cons head others =>
          cases split
          exact ⟨others, bad, after, rfl, (List.forall_mem_cons.mp good).2, fails⟩

end Except

namespace Params

/-- The argument is the key and the value of the pair with the first `=` between them. -/
structure Writes (argument : String) (pair : String × String) : Prop where
  written : argument = pair.1 ++ "=" ++ pair.2
  key_ne : pair.1 ≠ ""
  key_plain : '=' ∉ pair.1.toList

/-- The argument has no `=`, or begins with it. -/
def Malformed (argument : String) : Prop :=
  '=' ∉ argument.toList ∨ argument.toList.head? = some '='

/-! ### One argument -/

theorem writes_iff_toList {argument key value : String} :
    Writes argument (key, value) ↔
      argument.toList = key.toList ++ '=' :: value.toList ∧ key.toList ≠ [] ∧
        '=' ∉ key.toList := by
  have written : argument = key ++ "=" ++ value ↔
      argument.toList = key.toList ++ '=' :: value.toList := by
    rw [← String.toList_inj]
    simp
  have nonempty : key ≠ "" ↔ key.toList ≠ [] := by simp
  constructor
  · rintro ⟨isWritten, keyNe, plain⟩
    exact ⟨written.mp isWritten, nonempty.mp keyNe, plain⟩
  · rintro ⟨isWritten, keyNe, plain⟩
    exact ⟨written.mpr isWritten, nonempty.mpr keyNe, plain⟩

/-- **An argument gives the pair that it writes.** -/
theorem pair?_eq_ok_iff {argument : String} {pair : String × String} :
    pair? argument = .ok pair ↔ Writes argument pair := by
  obtain ⟨key, value⟩ := pair
  rw [writes_iff_toList, pair?]
  constructor
  · intro given
    split at given
    · rename_i before after cut
      split at given
      · cases given
      · rename_i keyNe
        cases given
        obtain ⟨split, plain⟩ := Text.cut?_eq_some_iff.mp cut
        rw [String.toList_ofList, String.toList_ofList]
        exact ⟨split, by simpa using keyNe, plain⟩
    · cases given
  · rintro ⟨split, keyNe, plain⟩
    rw [Text.cut?_eq_some_iff.mpr ⟨split, plain⟩]
    simp [keyNe]

/-- **An argument gives no pair exactly when it is malformed.** -/
theorem pair?_eq_error_iff {argument : String} {error : CommandError} :
    pair? argument = .error error ↔ Malformed argument ∧ error = .invalidParam argument := by
  unfold pair? Malformed
  cases cut : Text.cut? '=' argument.toList with
  | none => simp [Text.cut?_eq_none_iff.mp cut, eq_comm]
  | some parts =>
    obtain ⟨before, after⟩ := parts
    obtain ⟨split, plain⟩ := Text.cut?_eq_some_iff.mp cut
    rw [split]
    cases before with
    | nil => simp [eq_comm]
    | cons first others =>
      have different : first ≠ '=' := fun same => plain (same ▸ List.mem_cons_self)
      simp [different]

/-- **An argument writes a pair exactly when it is not malformed.** -/
theorem exists_writes_iff {argument : String} :
    (∃ pair, Writes argument pair) ↔ ¬ Malformed argument := by
  simp only [← pair?_eq_ok_iff]
  cases given : pair? argument with
  | error fault => simp [(pair?_eq_error_iff.mp given).1]
  | ok pair =>
    have wellFormed : ¬ Malformed argument := fun malformed => by
      rw [pair?_eq_error_iff.mpr ⟨malformed, rfl⟩] at given
      cases given
    simp [wellFormed]

/-! ### All arguments -/

variable {arguments : List String}

/-- **Arguments give the parameters of the pairs that they write.** -/
theorem ofArguments_eq_ok_iff {params : Params} :
    ofArguments arguments = .ok params ↔
      ∃ pairs, List.Forall₂ Writes arguments pairs ∧ params = ofPairs pairs := by
  have written : ∀ pairs,
      arguments.mapM pair? = .ok pairs ↔ List.Forall₂ Writes arguments pairs := by
    intro pairs
    simp only [Except.mapM_eq_ok_iff, pair?_eq_ok_iff]
  simp only [← written, ofArguments]
  cases arguments.mapM pair? with
  | error error => simp [Except.map]
  | ok pairs => simp [Except.map, eq_comm]

/-- **The first malformed argument is named.** -/
theorem ofArguments_eq_error_iff {error : CommandError} :
    ofArguments arguments = .error error ↔
      ∃ before bad after, arguments = before ++ bad :: after ∧
        (∀ argument ∈ before, ¬ Malformed argument) ∧ Malformed bad ∧
        error = .invalidParam bad := by
  have failed : ofArguments arguments = .error error ↔ arguments.mapM pair? = .error error := by
    unfold ofArguments
    cases arguments.mapM pair? with
    | error fault => simp [Except.map]
    | ok pairs => simp [Except.map]
  rw [failed, Except.mapM_eq_error_iff]
  simp only [pair?_eq_ok_iff, exists_writes_iff, pair?_eq_error_iff]

/-- **Arguments give no parameters exactly when one of them is malformed.** -/
theorem exists_ofArguments_error_iff :
    (∃ error, ofArguments arguments = .error error) ↔
      ∃ argument ∈ arguments, Malformed argument := by
  constructor
  · rintro ⟨error, failed⟩
    obtain ⟨before, bad, after, rfl, _, malformed, _⟩ := ofArguments_eq_error_iff.mp failed
    exact ⟨bad, by simp, malformed⟩
  · rintro ⟨argument, member, malformed⟩
    cases given : ofArguments arguments with
    | error error => exact ⟨error, rfl⟩
    | ok params =>
      obtain ⟨pairs, written, _⟩ := ofArguments_eq_ok_iff.mp given
      have each : List.Forall₂ (fun argument pair => ¬ Malformed argument ∧ Writes argument pair)
          arguments pairs :=
        written.imp fun _ pair writes => ⟨exists_writes_iff.mp ⟨pair, writes⟩, writes⟩
      exact absurd malformed (((List.forall₂_and_left _ _).mp each).1 argument member)

end Params

end IndexGuard
