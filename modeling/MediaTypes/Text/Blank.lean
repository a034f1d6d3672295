import MediaTypes.Text.CharRange

/-!
# Blanks

Blank characters are those of the Unicode property `White_Space` together with the four
separators U+001C to U+001F. The zero-width characters U+200B and U+FEFF are not blank.

## Main definitions

- `Text.isBlank` — the class of blank characters
- `Text.trim` — a text without the blanks at its two ends
- `Text.wordsOfChars` — the maximal blank-free pieces of a text
-/

namespace MediaTypes

namespace Text

def blankRanges : List (Nat × Nat) :=
  [(0x0009, 0x000D), (0x001C, 0x0020), (0x0085, 0x0085), (0x00A0, 0x00A0), (0x1680, 0x1680),
   (0x2000, 0x200A), (0x2028, 0x2029), (0x202F, 0x202F), (0x205F, 0x205F), (0x3000, 0x3000)]

/-- A blank character separates words and is trimmed from the ends of a text. -/
def isBlank (c : Char) : Bool :=
  inRanges blankRanges c

/-- What is left of the characters after the leading blanks. -/
def trimStartChars (cs : List Char) : List Char :=
  cs.dropWhile isBlank

/-- What is left of the characters before the trailing blanks. -/
def trimEndChars (cs : List Char) : List Char :=
  (cs.reverse.dropWhile isBlank).reverse

/-- The characters without the blanks at both ends. -/
def trimChars (cs : List Char) : List Char :=
  trimEndChars (trimStartChars cs)

def trim (s : String) : String :=
  String.ofList (trimChars s.toList)

/-- The maximal blank-free runs of the characters, in order; none of them is empty. -/
def wordsOfChars (cs : List Char) : List (List Char) :=
  (cs.splitOnP isBlank).filter fun w => !w.isEmpty

@[simp] theorem toList_trim (s : String) : (trim s).toList = trimChars s.toList := by
  simp [trim]

end Text

end MediaTypes
