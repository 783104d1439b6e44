/-
**The text of an order is read back as the order.**

* `pieces_eq_splitOn`, `pieces_intercalate`: texts without a separator are the pieces of their join;
* `IsToken`, `isToken_of_mem`, `tokensOf_intercalate`: what the tokens of a `sort` text look like,
  and that tokens of this look are found again in their join;
* `ofTokens_pieces_text`, `ofText_text`: the text of an order asks for the order;
* `ofParams_insert_sort`, `sort_text_round_trips`: so a request with this text asks for the same.
-/

import IndexGuard.Proofs.Guard
import IndexGuard.Proofs.Tokens
import Mathlib.Data.List.DropRight

namespace IndexGuard

namespace Text

variable {separator char : Char} {chars piece : List Char}

/-! ### Pieces -/

/-- The pieces of a text are what the library splits it into. -/
theorem pieces_eq_splitOn (separator : Char) (chars : List Char) :
    pieces separator chars = chars.splitOn separator := by
  induction chars with
  | nil => rfl
  | cons char rest ih =>
    obtain ⟨piece, others, split⟩ := List.exists_cons_of_ne_nil (List.splitOn_ne_nil separator rest)
    rw [pieces, ih, List.splitOn_cons_eq_if_modifyHead, split, List.modifyHead_cons]
    simp only [beq_iff_eq]

/-- **No piece has the separator.** -/
theorem separator_not_mem (isPiece : piece ∈ pieces separator chars) : separator ∉ piece := by
  rw [pieces_eq_splitOn] at isPiece
  induction chars generalizing piece with
  | nil =>
    rw [List.mem_singleton.mp isPiece]
    exact List.not_mem_nil
  | cons char rest ih =>
    obtain ⟨first, others, split⟩ := List.exists_cons_of_ne_nil (List.splitOn_ne_nil separator rest)
    rw [List.splitOn_cons_eq_if_modifyHead] at isPiece
    rw [split] at ih isPiece
    by_cases separates : (char == separator) = true
    · rw [if_pos separates, List.mem_cons] at isPiece
      rcases isPiece with rfl | isLater
      · exact List.not_mem_nil
      · exact ih isLater
    · rw [if_neg separates, List.modifyHead_cons, List.mem_cons] at isPiece
      rcases isPiece with rfl | isLater
      · rw [List.mem_cons, not_or]
        exact ⟨fun same => separates (beq_iff_eq.mpr same.symm), ih List.mem_cons_self⟩
      · exact ih (List.mem_cons_of_mem _ isLater)

/-- **Texts without a comma are the pieces of their join.** -/
theorem pieces_intercalate {parts : List String} (nonempty : parts ≠ [])
    (free : ∀ part ∈ parts, ',' ∉ part.toList) :
    pieces ',' (",".intercalate parts).toList = parts.map String.toList := by
  have comma : (",".intercalate parts).toList = [','].intercalate (parts.map String.toList) :=
    String.toList_intercalate
  rw [comma, pieces_eq_splitOn]
  refine List.splitOn_intercalate ',' ?_ (by simpa using nonempty)
  rw [List.forall_mem_map]
  exact free

/-! ### Trimmed texts -/

/-- What is left of a text behind its blanks begins with no blank. -/
theorem trimStart_of_prefix (leads : piece <+: trimStart chars) : trimStart piece = piece := by
  cases piece with
  | nil => rfl
  | cons first rest =>
    obtain ⟨behind, front⟩ := leads
    have stops := List.head?_dropWhile_not isBlank chars
    have head : chars.dropWhile isBlank = first :: (rest ++ behind) := front.symm
    rw [head] at stops
    exact List.dropWhile_cons_of_neg (by simpa using stops)

theorem trim_leads (chars : List Char) : trim chars <+: trimStart chars :=
  List.rdropWhile_prefix isBlank _

/-- **What is trimmed stays as it is when it is trimmed again.** -/
theorem trim_trim (chars : List Char) : trim (trim chars) = trim chars := by
  have front : trimStart (trim chars) = trim chars := trimStart_of_prefix (trim_leads chars)
  rw [trim, front]
  exact List.rdropWhile_idempotent isBlank _

theorem mem_of_mem_trim (member : char ∈ trim chars) : char ∈ chars :=
  List.dropWhile_subset _ ((trim_leads chars).subset member)

end Text

namespace SortRequest

variable {text token : String} {tokens : List String}

/-! ### Tokens between commas -/

/-- The token is not empty, has no blank at an end, and no comma. -/
structure IsToken (token : String) : Prop where
  nonempty : token ≠ ""
  trimmed : Text.trim token.toList = token.toList
  comma : ',' ∉ token.toList

/-- **What a `sort` text is split into are tokens.** -/
theorem isToken_of_mem (member : token ∈ tokensOf text) : IsToken token := by
  unfold tokensOf at member
  obtain ⟨chars, kept, rfl⟩ := List.mem_map.mp member
  obtain ⟨trimmed, nonempty⟩ := List.mem_filter.mp kept
  obtain ⟨piece, isPiece, rfl⟩ := List.mem_map.mp trimmed
  constructor
  · simpa using nonempty
  · rw [String.toList_ofList, Text.trim_trim]
  · rw [String.toList_ofList]
    exact fun comma => Text.separator_not_mem isPiece (Text.mem_of_mem_trim comma)

/-- **Tokens are found again in their join.** -/
theorem tokensOf_intercalate (nonempty : tokens ≠ [])
    (areTokens : ∀ token ∈ tokens, IsToken token) :
    tokensOf (",".intercalate tokens) = tokens := by
  have trimmed : (tokens.map String.toList).map Text.trim = tokens.map String.toList := by
    rw [List.map_map]
    exact List.map_congr_left fun token member => (areTokens token member).trimmed
  have kept : ((tokens.map String.toList).filter fun token => !token.isEmpty) =
      tokens.map String.toList := by
    refine List.filter_eq_self.mpr ?_
    rw [List.forall_mem_map]
    intro token member
    simpa using (areTokens token member).nonempty
  rw [tokensOf, Text.pieces_intercalate nonempty fun token member => (areTokens token member).comma,
    trimmed, kept, List.map_map]
  exact (List.map_congr_left fun token _ => String.ofList_toList).trans (List.map_id _)

/-- **The tokens that a `sort` text asks for** are all those it has, and at least one. -/
theorem ofText_eq_requested_iff : ofText text = requested tokens ↔
    tokensOf text = tokens ∧ tokens ≠ [] := by
  unfold ofText
  split
  · rename_i none
    rw [none]
    simp only [reduceCtorEq, false_iff, not_and, ne_eq, not_not]
    exact Eq.symm
  · rename_i nonempty
    rw [requested.injEq, iff_self_and]
    rintro rfl
    exact nonempty

end SortRequest

/-! ### The text of an order -/

namespace SortOrder

variable {tokens : List String}

/-- **The pieces of the text of an order ask for this order.** -/
theorem ofTokens_pieces_text (nonempty : tokens ≠ [])
    (free : ∀ token ∈ tokens, ',' ∉ token.toList) :
    ofTokens ((Text.pieces ',' (ofTokens tokens).text.toList).map String.ofList) =
      ofTokens tokens := by
  have freeAgain : ∀ token ∈ (ofTokens tokens).map SortKey.token, ',' ∉ token.toList := by
    rw [List.forall_mem_map]
    exact fun key member => free _ (token_mem member).1
  have some : (ofTokens tokens).map SortKey.token ≠ [] := by
    simpa using ofTokens_ne_nil nonempty
  rw [text, Text.pieces_intercalate some freeAgain, List.map_map]
  have same : String.ofList ∘ String.toList = id := funext fun _ => String.ofList_toList
  rw [same, List.map_id, ofTokens_map_token]

/-- **The text of the order of a `sort` text** asks for the tokens of its keys. -/
theorem ofText_text {asked : String} (isAsked : SortRequest.ofText asked = .requested tokens) :
    SortRequest.ofText (ofTokens tokens).text =
      .requested ((ofTokens tokens).map SortKey.token) := by
  obtain ⟨rfl, nonempty⟩ := SortRequest.ofText_eq_requested_iff.mp isAsked
  have some : (ofTokens (SortRequest.tokensOf asked)).map SortKey.token ≠ [] := by
    simpa using ofTokens_ne_nil nonempty
  refine SortRequest.ofText_eq_requested_iff.mpr ⟨?_, some⟩
  refine SortRequest.tokensOf_intercalate some ?_
  rw [List.forall_mem_map]
  exact fun key member => SortRequest.isToken_of_mem (token_mem member).1

end SortOrder

/-! ### Requests with the text of their order -/

namespace Request

variable {params again : Params} {tokens : List String} {injected : Filter}

theorem sort_eq_requested_iff : (ofParams params injected).sort = .requested tokens ↔
    ∃ text, params.text? Params.sortKey = some text ∧
      SortRequest.ofText text = .requested tokens := by
  show SortRequest.ofParams params = _ ↔ _
  unfold SortRequest.ofParams
  cases params.text? Params.sortKey <;> simp

/-- **A request with the text of the order of another** asks for the tokens of its keys. -/
theorem sort_of_text (asks : (ofParams params injected).sort = .requested tokens)
    (given : again.text? Params.sortKey = some (SortOrder.ofTokens tokens).text) :
    (ofParams again injected).sort =
      .requested ((SortOrder.ofTokens tokens).map SortKey.token) := by
  obtain ⟨text, _, isAsked⟩ := sort_eq_requested_iff.mp asks
  exact sort_eq_requested_iff.mpr ⟨_, given, SortOrder.ofText_text isAsked⟩

/-- Another `sort` parameter leaves the rest of a request as it is. -/
theorem ofParams_insert_sort (params : Params) (text : String) (injected : Filter) :
    ofParams (Fields.insert params Params.sortKey (.single text)) injected =
      { ofParams params injected with sort := SortRequest.ofText text } := by
  have control : Params.sortKey ∈ Params.controlKeys := by decide
  have unsteered := Params.withoutControls_insert params control (.single text)
  have given : Params.text? (Fields.insert params Params.sortKey (.single text)) Params.sortKey =
      some text := by
    rw [Params.text?_insert_single, if_pos rfl]
  simp only [ofParams, SortRequest.ofParams, unsteered, given]

/-- **The text of an order asks for the order.** When a request asks for tokens, every request whose
`sort` parameter is the text of their order asks for tokens too, those of the same order with the
same text; put in place of the `sort` parameter, the text changes nothing else of the request. And
whatever the tokens are, at least one of them and no comma inside, the pieces of the text of their
order between its commas are tokens of the order. -/
theorem sort_text_round_trips (injected : Filter) :
    (∀ (params : Params) (tokens : List String),
      (ofParams params injected).sort = .requested tokens →
        (∀ again : Params,
          again.text? Params.sortKey = some (SortOrder.ofTokens tokens).text →
            ∃ same, (ofParams again injected).sort = .requested same ∧
              SortOrder.ofTokens same = SortOrder.ofTokens tokens ∧
              (SortOrder.ofTokens same).text = (SortOrder.ofTokens tokens).text) ∧
        ∃ same, SortOrder.ofTokens same = SortOrder.ofTokens tokens ∧
          ofParams (Fields.insert params Params.sortKey
              (.single (SortOrder.ofTokens tokens).text)) injected =
            { ofParams params injected with sort := .requested same }) ∧
    ∀ tokens : List String, tokens ≠ [] → (∀ token ∈ tokens, ',' ∉ token.toList) →
      SortOrder.ofTokens
          ((Text.pieces ',' (SortOrder.ofTokens tokens).text.toList).map String.ofList) =
        SortOrder.ofTokens tokens := by
  refine ⟨fun params tokens asks => ⟨fun again given => ?_, ?_⟩, fun tokens nonempty free =>
    SortOrder.ofTokens_pieces_text nonempty free⟩
  · have same := SortOrder.ofTokens_map_token tokens
    exact ⟨_, sort_of_text asks given, same, congrArg SortOrder.text same⟩
  · obtain ⟨text, _, isAsked⟩ := sort_eq_requested_iff.mp asks
    refine ⟨_, SortOrder.ofTokens_map_token tokens, ?_⟩
    rw [ofParams_insert_sort, SortOrder.ofText_text isAsked]

/-- A field that is asked for twice has its last direction, in the text and read back from it. -/
example : (SortOrder.ofTokens ["a", "-", "- b", "-a"]).text = "-a,-,- b" ∧
    SortRequest.ofText "-a,-,- b" = .requested ["-a", "-", "- b"] := by decide

end Request

end IndexGuard
