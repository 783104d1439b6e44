/-
**A search finds the texts that contain what it searches for.**

The criteria of a search are a pattern, written by escaping the text that is searched for:

* `mem_ends_literal`: a match of some characters in turn is a run of characters that fold like them,
  and ends behind this run;
* `foundIn_literal`: so these characters are found in a text exactly when it contains such a run
  (`Text.ContainsFolded`);
* `regexPasses_iff`: a field is searched in the texts that it holds, as its value or as items of an
  array (`Json.TextIn`);
* `Resource.criteria_contains`: the criteria of a search that is not too large can be read, accept
  the documents that contain the text, and leave every other parameter alone.
-/

import IndexGuard.Proofs.Decision
import Mathlib.Data.List.Infix

namespace IndexGuard

open Text

/-- The text has a contiguous run of characters that fold like those of a part, one by one. -/
def Text.ContainsFolded (text part : String) : Prop :=
  ∃ run, run <:+: text.toList ∧ run.map Folding.fold = part.toList.map Folding.fold

/-- A field value, if there is one, holds a text: as such, or as an item of an array. -/
inductive Json.TextIn : Option Json → String → Prop
  | whole (text : String) : TextIn (some (.string text)) text
  | item {items : List Json} {text : String} : .string text ∈ items →
      TextIn (some (.array items)) text

/-! ### Runs of characters -/

namespace Regex

variable {text chars : List Char} {places : List Nat} {last : Nat}

theorem mem_ends_oneOf {set : CharSet} : last ∈ ends text.toArray (.oneOf set) places ↔
    ∃ place ∈ places, ∃ char, text[place]? = some char ∧ set.contains char = true ∧
      place + 1 = last := by
  rw [ends, List.mem_filterMap]
  refine exists_congr fun place => and_congr_right fun _ => ?_
  rw [List.getElem?_toArray]
  cases text[place]? with
  | none => simp
  | some char => simp

/-- A run begins at a place with the character that stands there. -/
theorem cons_prefix_drop_iff {char : Char} {run : List Char} {place : Nat} :
    char :: run <+: text.drop place ↔
      text[place]? = some char ∧ run <+: text.drop (place + 1) := by
  rcases Nat.lt_or_ge place text.length with inside | outside
  · rw [List.drop_eq_getElem_cons inside, List.cons_prefix_cons, List.getElem?_eq_getElem inside,
      Option.some.injEq, eq_comm]
  · rw [List.drop_eq_nil_of_le outside, List.getElem?_eq_none outside]
    simp

/-- The characters of a text in turn, each of them a step of its own. -/
theorem ends_literal {flags : Flags} : ends text.toArray (Pattern.literal flags chars) places =
    ends text.toArray (chars.foldr
      (fun char rest => .sequence (.oneOf (flags.literal char)) rest) .empty) places := by
  match chars with
  | [] => rfl
  | [_] => rfl
  | _ :: _ :: _ => rfl

/-- **A match of some characters in turn is a run of characters that fold like them.** -/
theorem mem_ends_literal :
    last ∈ ends text.toArray (Pattern.literal { ignoreCase := true } chars) places ↔
      ∃ place ∈ places, ∃ run, run <+: text.drop place ∧
        run.map Folding.fold = chars.map Folding.fold ∧ place + chars.length = last := by
  rw [ends_literal]
  induction chars generalizing places with
  | nil => simp [ends]
  | cons char rest ih =>
    rw [List.foldr_cons, ends, ih]
    constructor
    · rintro ⟨next, isNext, run, leads, same, behind⟩
      obtain ⟨place, member, first, stands, alike, rfl⟩ := mem_ends_oneOf.mp isNext
      refine ⟨place, member, first :: run, cons_prefix_drop_iff.mpr ⟨stands, leads⟩, ?_, ?_⟩
      · have folds : Folding.fold char = Folding.fold first := beq_iff_eq.mp alike
        rw [List.map_cons, List.map_cons, same, folds]
      · rw [List.length_cons]
        omega
    · rintro ⟨place, member, run, leads, same, behind⟩
      obtain ⟨first, run, rfl⟩ : ∃ first others, run = first :: others := by
        cases run with
        | nil => cases same
        | cons first others => exact ⟨first, others, rfl⟩
      obtain ⟨folds, same⟩ := List.cons.inj same
      obtain ⟨stands, leads⟩ := cons_prefix_drop_iff.mp leads
      have alike : Folding.alike char first = true := beq_iff_eq.mpr folds.symm
      refine ⟨place + 1, mem_ends_oneOf.mpr ⟨place, member, first, stands, alike, rfl⟩, run, leads,
        same, ?_⟩
      rw [List.length_cons] at behind
      omega

/-- **The characters of a part are found in the texts that contain them**, in any letter case. -/
theorem foundIn_literal (text part : String) :
    (Pattern.literal { ignoreCase := true } part.toList).foundIn text = true ↔
      ContainsFolded text part := by
  have found : (Pattern.literal { ignoreCase := true } part.toList).foundIn text = true ↔
      ∃ last, last ∈ ends text.toList.toArray (Pattern.literal { ignoreCase := true } part.toList)
        (List.range (text.toList.length + 1)) := by
    rw [foundIn, Bool.not_eq_true', List.isEmpty_eq_false_iff_exists_mem]
    rfl
  rw [found]
  simp only [mem_ends_literal, List.mem_range]
  constructor
  · rintro ⟨_, place, _, run, leads, same, _⟩
    exact ⟨run, leads.isInfix.trans (List.drop_suffix _ _).isInfix, same⟩
  · rintro ⟨run, ⟨before, after, joined⟩, same⟩
    refine ⟨_, before.length, ?_, run, ?_, same, rfl⟩
    · rw [← joined]
      simp only [List.length_append]
      omega
    · rw [← joined, List.append_assoc, List.drop_left]
      exact List.prefix_append run after

end Regex

/-! ### Fields and documents -/

/-- **A field is searched in the texts that it holds.** -/
theorem Test.regexPasses_iff {regex : Regex} {value : Option Json} :
    regexPasses regex value = true ↔
      ∃ text, Json.TextIn value text ∧ regex.foundIn text = true := by
  constructor
  · intro passes
    cases value with
    | none => cases passes
    | some value =>
      cases value with
      | string text => exact ⟨text, .whole text, passes⟩
      | array items =>
        obtain ⟨item, member, found⟩ := List.any_eq_true.mp passes
        cases item with
        | string text => exact ⟨text, .item member, found⟩
        | _ => cases found
      | _ => cases passes
  · rintro ⟨text, holds, found⟩
    cases holds with
    | whole => exact found
    | item member => exact List.any_eq_true.mpr ⟨_, member, found⟩

/-- **The criterion of a text that is not too large can be read, and accepts the documents that
contain the text.** -/
theorem Filter.compile?_contains {field text : String}
    (fits : Regex.Pattern.read? true (Regex.Pattern.escape text) ≠ .error .tooLarge) :
    ∃ test, (contains field text).compile? = .ok test ∧
      ∀ document, test document = true ↔
        ∃ held, Json.TextIn (document.get? field) held ∧ ContainsFolded held text := by
  have read : Regex.Pattern.read? true (Regex.Pattern.escape text) =
      .ok (Regex.Pattern.literal { ignoreCase := true } text.toList) := by
    rw [Regex.Pattern.read?_escape] at fits ⊢
    split at fits
    · exact absurd rfl fits
    · rename_i small
      exact if_neg small
  refine ⟨fun document => Test.regexPasses
    (Regex.Pattern.literal { ignoreCase := true } text.toList) (document.get? field), ?_, ?_⟩
  · show ((Regex.Pattern.read? true (Regex.Pattern.escape text)).map _).map _ = _
    rw [read]
    rfl
  · intro document
    simp only [Test.regexPasses_iff, Regex.foundIn_literal]

namespace Resource

variable {resource : Resource} {params : Params} {field text : String}

theorem search?_of_asked (searches : resource.searchField = some field)
    (asked : params.text? field = some text) (nonempty : text ≠ "") :
    resource.search? params = some (field, text) := by
  rw [search?, searches, Option.bind_eq_bind, Option.bind_some, asked, Option.bind_some]
  exact if_neg (mt String.isEmpty_iff.mp nonempty)

/-- **A search is for literal text in any letter case.** Take a resource with a search field and
parameters with one text for it that is not empty and not too large for a pattern.

* The criteria of the search can be read. They accept a document exactly when its search field
  holds a text, as its value or as an item of an array, with a contiguous run of characters that
  fold like those of the searched text, one by one.
* The parameter of the search field is taken out, and every other one is left as it was.
-/
theorem criteria_contains (searches : resource.searchField = some field)
    (asked : params.text? field = some text) (nonempty : text ≠ "")
    (fits : resource.SearchFits params) :
    (∃ test, (resource.criteria params).compile? = .ok test ∧
      ∀ document, test document = true ↔
        ∃ held, Json.TextIn (document.get? field) held ∧ ContainsFolded held text) ∧
    ∀ key, Fields.get? (resource.remaining params) key =
      if field = key then none else Fields.get? params key := by
  have search := search?_of_asked searches asked nonempty
  rw [criteria, remaining, search]
  exact ⟨Filter.compile?_contains (fits field text search),
    fun key => Fields.get?_erase params field key⟩

/-- A search for characters with a meaning in patterns. The sign of the kelvin folds like the letter
beside them, and the other parameter stays. -/
theorem criteria_contains_kelvin :
    ∃ (book : Resource) (params : Params) (test : Json → Bool),
      book.searchField = some "title" ∧
      params = Params.ofPairs [("title", "k.+("), ("year", "1990")] ∧
      (book.criteria params).compile? = .ok test ∧
      test (.object [("title", .string "2 \u212A.+(m)")]) = true ∧
      test (.object [("title", .array [.null, .string "K.+("])]) = true ∧
      test (.object [("title", .string "kelvin")]) = false ∧
      Fields.get? (book.remaining params) "title" = none ∧
      Fields.get? (book.remaining params) "year" = some (.single "1990") := by
  let book : Resource := ⟨"book", "books", some "title"⟩
  let params : Params := [("title", .single "k.+("), ("year", .single "1990")]
  have made : params = Params.ofPairs [("title", "k.+("), ("year", "1990")] := by rfl
  have searches : book.searchField = some "title" := rfl
  have asked : params.text? "title" = some "k.+(" := rfl
  have search : book.search? params = some ("title", "k.+(") := by decide
  have fits : book.SearchFits params := by
    intro field text found
    rw [search] at found
    cases found
    rw [Regex.Pattern.read?_escape, if_neg (by decide)]
    exact nofun
  obtain ⟨⟨test, compiled, tests⟩, left⟩ :=
    criteria_contains searches asked (by decide) fits
  refine ⟨book, params, test, searches, made, compiled, ?_, ?_, ?_, left "title", left "year"⟩
  · refine (tests _).mpr ⟨"2 \u212A.+(m)", .whole _, "\u212A.+(".toList, ?_, by decide⟩
    exact ⟨"2 ".toList, "m)".toList, by decide⟩
  · exact (tests _).mpr ⟨"K.+(", .item (by simp), "K.+(".toList, List.infix_rfl, by decide⟩
  · refine Bool.eq_false_iff.mpr fun passes => ?_
    obtain ⟨held, holds, run, inside, same⟩ := (tests _).mp passes
    cases holds
    -- No character of this title folds like the dot.
    have dot : '.' ∈ run.map Folding.fold := by rw [same]; decide
    have others : '.' ∉ "kelvin".toList.map Folding.fold := by decide
    exact others ((inside.map Folding.fold).subset dot)

end Resource

end IndexGuard
