import MediaTypes.Dictionary
import MediaTypes.Text.Ascii
import MediaTypes.Text.Blank
import MediaTypes.Text.Split

/-!
# Parameters

The parameters of a type stand after its first semicolon and are separated by semicolons. A
segment is trimmed, and a blank one is skipped. Its key is what stands before the first `=`; its
value is what follows the run of `=` that starts there. A segment without `=` gives an empty key
and an empty value. Keys are compared without regard to ASCII case, values with regard to it, and
of several values of one key the last one counts.

## Main definitions

- `MediaType.splitBase` — the type without its parameters, and their block
- `MediaType.parameterPairs` — the keys and values of a block, in order
- `MediaType.parameterMap` — the value of each key, with the case of keys folded
-/

namespace MediaTypes

namespace MediaType

/-- The text before the first semicolon and, if there is one, the parameter block after it. -/
def splitBase (s : String) : String × Option String :=
  Text.cut ';' s

/-- The key and the value of a trimmed segment. -/
def pairOfChars (segment : List Char) : List Char × List Char :=
  match Text.cutChars '=' segment with
  | (_, none) => ([], [])
  | (key, some rest) => (key, rest.dropWhile (· == '='))

/-- The trimmed segments of a block that are not blank, in order. -/
def segmentsOfChars (block : List Char) : List (List Char) :=
  ((block.splitOn ';').map Text.trimChars).filter fun segment => !segment.isEmpty

def pairsOfChars (block : List Char) : List (List Char × List Char) :=
  (segmentsOfChars block).map pairOfChars

def parameterPairs (block : String) : List (String × String) :=
  (pairsOfChars block.toList).map fun p => (String.ofList p.1, String.ofList p.2)

/-- The value of each key of a block, under the key with its case folded. -/
def parameterMap (block : String) : Dictionary String String :=
  Dictionary.ofList ((parameterPairs block).map fun p => (Text.lowerAscii p.1, p.2))

end MediaType

end MediaTypes
