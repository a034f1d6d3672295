import MediaTypes.Text.Numeral
import MediaTypes.Text.Printable

/-!
# Quoted texts

A quoted text stands between two equal marks. It is quoted with `'`, or with `"` where the text
holds a `'` and no `"`. Inside, the mark and the backslash are escaped by a backslash, a line
feed, carriage return and tab by their letters, and every other unprintable character by its
code point in two, four or eight hexadecimal digits. A quoted text is therefore one line of
printable characters.

## Main definitions

- `Text.quoteMark` — the mark a text is quoted with
- `Text.escapeChar` — how one character is written between two marks
- `Text.quote` — the quoted form of a text
-/

namespace MediaTypes

namespace Text

/-- The mark a text is quoted with: `'`, unless the text holds a `'` and no `"`. -/
def quoteMark (cs : List Char) : Char :=
  if cs.contains '\'' && !cs.contains '"' then '"' else '\''

/-- How one character is written between two marks. -/
def escapeChar (mark c : Char) : List Char :=
  if c = mark ∨ c = '\\' then ['\\', c]
  else if c = '\n' then ['\\', 'n']
  else if c = '\r' then ['\\', 'r']
  else if c = '\t' then ['\\', 't']
  else if isPrintable c then [c]
  else if c.toNat < 0x100 then '\\' :: 'x' :: fixedDigits 16 2 c.toNat
  else if c.toNat < 0x10000 then '\\' :: 'u' :: fixedDigits 16 4 c.toNat
  else '\\' :: 'U' :: fixedDigits 16 8 c.toNat

def quoteChars (cs : List Char) : List Char :=
  let mark := quoteMark cs
  mark :: cs.flatMap (escapeChar mark) ++ [mark]

def quote (s : String) : String :=
  String.ofList (quoteChars s.toList)

@[simp] theorem toList_quote (s : String) : (quote s).toList = quoteChars s.toList := by
  simp [quote]

end Text

end MediaTypes
