/-
**An escaped text reads as the sequence of its characters.**

* `pieces?_plain`, `pieces?_escaped`: a character without a meaning of its own, or one behind a
  backslash, is taken in as a piece of its own;
* `pieces?_escape`: so an escaped text is taken in character by character;
* `size_literal`: without regard to case, every character needs two states;
* `readWithin?_escape`, `read?_escape`: reading an escaped text fails only when it is too large,
  whatever the limit is.
-/

import IndexGuard.Regex.Pattern

namespace IndexGuard.Regex.Pattern

/-- The piece that a literal character makes. -/
def literalPiece (flags : Flags) (char : Char) : Piece := { regex := .oneOf (flags.literal char) }

/-- A character as it is escaped. -/
def escapeChar (char : Char) : List Char := if isMeta char then ['\\', char] else [char]

/-- The characters of a text one after the other. -/
def literal (flags : Flags) : List Char → Regex
  | [] => .empty
  | [char] => .oneOf (flags.literal char)
  | chars => chars.foldr (fun char rest => .sequence (.oneOf (flags.literal char)) rest) .empty

variable {flags : Flags} {names : List (List Char)} {progress : Progress} {fuel : Nat} {char : Char}
  {rest : List Char}

/-! ### One character -/

theorem skip_of_unspaced (unspaced : flags.spaced = false) (chars : List Char) :
    flags.skip chars = chars := by
  unfold Flags.skip
  rw [unspaced]
  rfl

theorem primitive?_plain (plain : isMeta char = false) :
    primitive? flags char rest = .ok (literalPiece flags char, rest) := by
  unfold primitive?
  split
  · exact absurd plain (by decide)
  · exact absurd plain (by decide)
  · exact absurd plain (by decide)
  · exact absurd plain (by decide)
  · rfl

theorem primitive?_escaped (isMeta : isMeta char = true) :
    primitive? flags '\\' (char :: rest) = .ok (literalPiece flags char, rest) := by
  have escaped : escape? flags (char :: rest) = .ok (.char char false, rest) := by
    unfold escape? isEscapable
    simp only [isMeta, Bool.true_or, if_true]
  unfold primitive?
  simp only [escaped, bind, Except.bind]
  rfl

/-- **A character without a meaning of its own is a piece of its own.** -/
theorem pieces?_plain (unspaced : flags.spaced = false) (plain : isMeta char = false) :
    pieces? flags names progress (fuel + 1) (char :: rest) =
      pieces? flags names (progress.add (literalPiece flags char)) fuel rest := by
  rw [pieces?, skip_of_unspaced unspaced]
  simp only
  -- Each mark of a pattern is a character with a meaning, so only the last case is left.
  split <;> first | exact absurd plain (by decide) | skip
  rw [primitive?_plain plain]
  rfl

/-- **A character behind a backslash is a piece of its own.** -/
theorem pieces?_escaped (unspaced : flags.spaced = false) (isMeta : isMeta char = true) :
    pieces? flags names progress (fuel + 1) ('\\' :: char :: rest) =
      pieces? flags names (progress.add (literalPiece flags char)) fuel rest := by
  rw [pieces?, skip_of_unspaced unspaced]
  show (primitive? flags '\\' (char :: rest) >>= _) = _
  rw [primitive?_escaped isMeta]
  rfl

/-! ### Texts -/

/-- **An escaped text is taken in character by character.** -/
theorem pieces?_escape (unspaced : flags.spaced = false) (chars : List Char) :
    ∀ (fuel : Nat) (progress : Progress), (chars.flatMap escapeChar).length < fuel →
      pieces? flags names progress fuel (chars.flatMap escapeChar) =
        .ok ((chars.foldl (fun progress char => progress.add (literalPiece flags char))
          progress).finish, names, []) := by
  induction chars with
  | nil =>
    intro fuel progress enough
    obtain ⟨fuel, rfl⟩ := Nat.exists_eq_add_one_of_ne_zero (Nat.ne_of_gt enough)
    rw [List.flatMap_nil, pieces?, skip_of_unspaced unspaced]
    rfl
  | cons char rest ih =>
    intro fuel progress enough
    obtain ⟨fuel, rfl⟩ := Nat.exists_eq_add_one_of_ne_zero (Nat.ne_of_gt (Nat.zero_lt_of_lt enough))
    rw [List.flatMap_cons, List.length_append] at enough
    rw [List.flatMap_cons, List.foldl_cons]
    by_cases isMeta : isMeta char = true
    · have escaped : escapeChar char = ['\\', char] := if_pos isMeta
      rw [escaped] at enough ⊢
      rw [List.cons_append, List.singleton_append, pieces?_escaped unspaced isMeta]
      refine ih fuel _ ?_
      rw [List.length_cons, List.length_singleton] at enough
      omega
    · have escaped : escapeChar char = [char] := if_neg isMeta
      rw [escaped] at enough ⊢
      rw [List.singleton_append, pieces?_plain unspaced (Bool.eq_false_iff.mpr isMeta)]
      refine ih fuel _ ?_
      rw [List.length_singleton] at enough
      omega

/-! ### What has been read -/

theorem foldl_add (chars : List Char) (progress : Progress) :
    chars.foldl (fun progress char => progress.add (literalPiece flags char)) progress =
      ⟨progress.choices, (chars.map (literalPiece flags)).reverse ++ progress.pieces⟩ := by
  induction chars generalizing progress with
  | nil => rfl
  | cons char rest ih =>
    rw [List.foldl_cons, ih, List.map_cons, List.reverse_cons, List.append_assoc]
    rfl

theorem greatestHeight_literal (chars : List Char) :
    greatestHeight (chars.map (literalPiece flags)) = 0 := by
  unfold greatestHeight
  induction chars with
  | nil => rfl
  | cons char rest ih => exact ih

/-- **The pieces of some characters are these characters one after the other.** -/
theorem finish_literal (flags : Flags) (chars : List Char) :
    ∃ height, height ≤ 1 ∧
      Progress.finish ⟨[], (chars.map (literalPiece flags)).reverse⟩ =
        { regex := literal flags chars, height := height } := by
  match chars with
  | [] => exact ⟨0, Nat.zero_le 1, rfl⟩
  | [char] => exact ⟨0, Nat.zero_le 1, rfl⟩
  | first :: second :: rest =>
    refine ⟨1, Nat.le_refl 1, ?_⟩
    have sequence : ((first :: second :: rest).map (literalPiece flags)).reverse.foldl
        (fun rest piece => Regex.sequence piece.regex rest) .empty =
          literal flags (first :: second :: rest) := by
      rw [List.foldl_reverse, List.foldr_map]
      rfl
    have flat :
        greatestHeight ((first :: second :: rest).map (literalPiece flags)).reverse = 0 := by
      rw [← List.map_reverse]
      exact greatestHeight_literal _
    show Progress.current ⟨[], _⟩ = _
    unfold Progress.current
    split
    · rename_i none
      simp at none
    · rename_i only
      have two := congrArg List.length only
      simp at two
    · rw [sequence, flat]

/-- **Without regard to case, every character of a text needs two states.** -/
theorem size_literal (ignoreCase : flags.ignoreCase = true) (unicode : flags.unicode = true)
    (chars : List Char) : size (literal flags chars) = 2 * chars.length := by
  have one : ∀ char, size (.oneOf (flags.literal char)) = 2 := by
    intro char
    unfold Flags.literal
    rw [ignoreCase, unicode]
    rfl
  have many : ∀ chars : List Char, size (chars.foldr
      (fun char rest => .sequence (.oneOf (flags.literal char)) rest) .empty) =
        2 * chars.length := by
    intro chars
    induction chars with
    | nil => rfl
    | cons char rest ih =>
      rw [List.foldr_cons, size, one, ih, List.length_cons]
      omega
  match chars with
  | [] => rfl
  | [char] => exact one char
  | first :: second :: rest => exact many (first :: second :: rest)

/-- **Reading an escaped text without regard to case fails only when it is too large.** -/
theorem readWithin?_escape (limit : Nat) (text : String) :
    readWithin? limit true (escape text) =
      if limit < 2 * text.toList.length then .error .tooLarge
      else .ok (literal { ignoreCase := true } text.toList) := by
  have chars : (escape text).toList = text.toList.flatMap escapeChar := String.toList_ofList
  obtain ⟨height, low, finished⟩ := finish_literal { ignoreCase := true } text.toList
  unfold readWithin?
  rw [chars]
  simp only
  rw [pieces?_escape rfl _ _ _ (Nat.lt_succ_self _), foldl_add, List.append_nil]
  show (if heightLimit < (Progress.finish ⟨[], _⟩).height then _ else _) = _
  have shallow : ¬ heightLimit < height := Nat.not_lt_of_ge (Nat.le_trans low (by decide))
  rw [finished, if_neg shallow, size_literal rfl rfl]

theorem read?_escape (text : String) :
    read? true (escape text) =
      if sizeLimit < 2 * text.toList.length then .error .tooLarge
      else .ok (literal { ignoreCase := true } text.toList) :=
  readWithin?_escape sizeLimit text

end IndexGuard.Regex.Pattern
