import MediaTypes.MediaType.Parameters

/-!
# Patterns of media types

A pattern is matched against a concrete type, its candidate. Before the parameters a pattern is
`*` or `*/*`, which anything matches; or a text without a star, which matches itself up to ASCII
case; or a text with a star, of which the first one stands for any characters. Every parameter
of the pattern must be present in the candidate with the same value. A malformed pattern matches
as little as its text does; nothing is an error.

## Main definitions

- `MediaType.isFullWildcard` — the two patterns that every type matches
- `MediaType.baseMatches` — matching before the parameters
- `MediaType.parametersMatch` — matching of the parameters
- `MediaType.matchesPattern` — matching of whole patterns
-/

namespace MediaTypes

namespace MediaType

/-- The patterns that every type matches. -/
def isFullWildcard (s : String) : Bool :=
  s == "*" || s == "*/*"

/-- Matches characters against a text with a star between `left` and `right`. The candidate must
be long enough for both, so that they do not overlap in it. -/
def matchesAround (left right cs : List Char) : Bool :=
  left.length + right.length ≤ cs.length &&
    (Text.lowerAsciiChars left).isPrefixOf (Text.lowerAsciiChars cs) &&
    (Text.lowerAsciiChars right).isSuffixOf (Text.lowerAsciiChars cs)

/-- Matches a type without parameters against a pattern without parameters. -/
def baseMatches (base candidate : String) : Bool :=
  if isFullWildcard base then true
  else
    match Text.cutChars '*' base.toList with
    | (_, none) => Text.eqFold base candidate
    | (left, some right) => matchesAround left right candidate.toList

/-- Every parameter of the pattern is present in the candidate with the same value. A pattern
without a block asks for nothing; one with a block is matched by no candidate without a block,
and by none with fewer keys. -/
def parametersMatch (pattern candidate : String) : Bool :=
  match (splitBase pattern).2 with
  | none => true
  | some patternBlock =>
    match (splitBase candidate).2 with
    | none => false
    | some candidateBlock =>
      let wanted := parameterMap patternBlock
      let present := parameterMap candidateBlock
      wanted.size ≤ present.size && wanted.entries.all fun e => present.get? e.1 == some e.2

/-- The candidate satisfies the pattern. The empty pattern is satisfied by nothing. A candidate that
is missing counts as the empty text. -/
def matchesPattern (pattern : String) (candidate : Option String) : Bool :=
  let candidate := candidate.getD ""
  pattern != "" &&
    baseMatches (splitBase pattern).1 (splitBase candidate).1 &&
    parametersMatch pattern candidate

end MediaType

end MediaTypes
