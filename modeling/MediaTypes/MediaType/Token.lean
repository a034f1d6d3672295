/-!
# Tokens

The names in a media type are tokens: non-empty runs of visible ASCII characters without the
separators of the header grammar.

## Main definitions

- `MediaType.isTokenChar` — the characters a token is made of
- `MediaType.isToken` — the test for tokens
-/

namespace MediaTypes

namespace MediaType

/-- The characters that separate tokens and stand in none of them. -/
def separators : List Char :=
  ['(', ')', '<', '>', '@', ',', ';', ':', '\\', '"', '/', '[', ']', '?', '=', '{', '}', ' ', '\t']

/-- A token is made of ASCII characters that are neither controls nor separators. -/
def isTokenChar (c : Char) : Bool :=
  0x20 ≤ c.toNat && c.toNat < 0x7F && !separators.contains c

/-- A token is a non-empty row of token characters. -/
def isTokenChars (cs : List Char) : Bool :=
  !cs.isEmpty && cs.all isTokenChar

def isToken (s : String) : Bool :=
  isTokenChars s.toList

end MediaType

end MediaTypes
