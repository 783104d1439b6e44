/-
**Which documents a filter accepts.**

`compile?` reads the patterns of a filter once and gives the test of documents, or the first pattern
that cannot be read. `accepts` compiles and tests at once; a filter with an unreadable pattern
accepts nothing.

A field that holds an array passes when one of its items does; a missing field equals `null` and
passes no other test.
-/

import IndexGuard.Filter.Compare
import IndexGuard.Regex.Search

namespace IndexGuard

namespace RangeOp

/-- A value lies on the asked side of a bound. -/
def passes (op : RangeOp) (bound value : Json) : Bool :=
  (value.order? bound).any op.accepts

end RangeOp

/-- The value is an array. -/
def Json.isArray : Json → Bool
  | .array _ => true
  | _ => false

/-- A field value, if there is one, passes an equality test. -/
def Test.equalsPasses (query : Json) : Option Json → Bool
  | none => query.same .null
  | some (.array items) =>
    if query.isArray then (Json.array items).matchesValue query
    else items.any fun item => item.matchesValue query
  | some value => value.matchesValue query

/-- A field value, if there is one, passes a range test. -/
def Test.rangePasses (op : RangeOp) (bound : Json) : Option Json → Bool
  | none => false
  | some (.array items) => items.any fun item => op.passes bound item
  | some value => op.passes bound value

/-- A text matches a regular expression. -/
def Json.matchesRegex (regex : Regex) : Json → Bool
  | .string text => regex.foundIn text
  | _ => false

/-- A field value, if there is one, passes a pattern test. -/
def Test.regexPasses (regex : Regex) : Option Json → Bool
  | none => false
  | some (.array items) => items.any fun item => item.matchesRegex regex
  | some value => value.matchesRegex regex

/-- The test of a field value, with its pattern read. -/
def Test.compile? : Test → Except Regex.PatternError (Option Json → Bool)
  | .equals query => .ok (equalsPasses query)
  | .range op bound => .ok (rangePasses op bound)
  | .pattern source ignoreCase => (Regex.Pattern.read? ignoreCase source).map regexPasses

/-- The test of a document, with its pattern read. -/
def Leaf.compile? (leaf : Leaf) : Except Regex.PatternError (Json → Bool) :=
  leaf.test.compile?.map fun passes document => passes (document.get? leaf.field)

namespace Filter

mutual

/-- The test of documents, with all patterns read. -/
def compile? : Filter → Except Regex.PatternError (Json → Bool)
  | leaf test => test.compile?
  | all clauses => compileAll? clauses

/-- The test of documents by several filters. -/
def compileAll? : List Filter → Except Regex.PatternError (Json → Bool)
  | [] => .ok fun _ => true
  | clause :: rest =>
    match compile? clause with
    | .error fault => .error fault
    | .ok first =>
      match compileAll? rest with
      | .error fault => .error fault
      | .ok others => .ok fun document => first document && others document

end

/-- The filter accepts a document. -/
def accepts (filter : Filter) (document : Json) : Bool :=
  match filter.compile? with
  | .ok test => test document
  | .error _ => false

end Filter

end IndexGuard
