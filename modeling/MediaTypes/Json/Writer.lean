import MediaTypes.Json.Basic
import MediaTypes.Number.Numeral
import MediaTypes.Text.Ascii
import MediaTypes.Text.Digit
import MediaTypes.Text.Numeral

/-!
# Writing values

A value is written on one line, with `", "` between two items or fields and `": "` after a
field's name. A style says how texts, truth values and the missing value are spelt. In the style
of the JSON data format, the quote, the backslash and the control characters below U+0020 are
escaped in a text, five of the controls by a letter and the others by four hexadecimal digits;
every other character stands for itself. A limit may be set to the digits of integers; a value
with an integer beyond it is not written at all.

## Main definitions

- `Json.Style` — the spelling of the values that are not lists or numbers
- `Json.standard` — the style of the JSON data format
- `Json.write` — the text of a value in that format
- `Json.dump` — the text, or the failure to write an integer

## Main statements

- `ne_control_of_mem_escape` — an escaped character holds no control character
-/

namespace MediaTypes

namespace Json

/-- How one character of a text is written. -/
def escape (c : Char) : List Char :=
  if c = '"' then ['\\', '"']
  else if c = '\\' then ['\\', '\\']
  else if c = '\n' then ['\\', 'n']
  else if c = '\r' then ['\\', 'r']
  else if c = '\t' then ['\\', 't']
  else if c.toNat = 0x0C then ['\\', 'f']
  else if c.toNat = 0x08 then ['\\', 'b']
  else if c.toNat < 0x20 then '\\' :: 'u' :: Text.fixedDigits 16 4 c.toNat
  else [c]

/-- The characters of a text, escaped, between two quotes. -/
def writeText (cs : List Char) : List Char :=
  '"' :: cs.flatMap escape ++ ['"']

/-- The decimal digits of an integer, after a minus sign if it is negative. -/
def writeInt : Int → List Char
  | .ofNat n => Nat.toDigits 10 n
  | .negSucc n => '-' :: Nat.toDigits 10 (n + 1)

/-- The spelling of texts, truth values and the missing value. -/
structure Style where
  null : List Char
  yes : List Char
  no : List Char
  text : List Char → List Char

def standard : Style where
  null := ['n', 'u', 'l', 'l']
  yes := ['t', 'r', 'u', 'e']
  no := ['f', 'a', 'l', 's', 'e']
  text := writeText

mutual

def writeChars (style : Style) : Json → List Char
  | .null => style.null
  | .bool true => style.yes
  | .bool false => style.no
  | .int n => writeInt n
  | .float x => x.chars
  | .string s => style.text s.toList
  | .array [] => ['[', ']']
  | .array (v :: rest) => '[' :: writeChars style v ++ writeItems style rest ++ [']']
  | .object [] => ['{', '}']
  | .object (f :: rest) => '{' :: writeField style f ++ writeFields style rest ++ ['}']

/-- The characters of the items after the first one. -/
def writeItems (style : Style) : List Json → List Char
  | [] => []
  | v :: rest => ',' :: ' ' :: writeChars style v ++ writeItems style rest

def writeField (style : Style) : String × Json → List Char
  | (name, v) => style.text name.toList ++ ':' :: ' ' :: writeChars style v

/-- The characters of the fields after the first one. -/
def writeFields (style : Style) : List (String × Json) → List Char
  | [] => []
  | f :: rest => ',' :: ' ' :: writeField style f ++ writeFields style rest

end

/-- The text of a value in the JSON data format. -/
def write (v : Json) : String :=
  String.ofList (writeChars standard v)

/-- The integers in a value have at most so many digits. -/
def Short (max : Nat) (v : Json) : Prop :=
  ∀ n ∈ v.integers, Text.digitCount n ≤ max

instance (max : Nat) (v : Json) : Decidable (v.Short max) :=
  inferInstanceAs (Decidable (∀ n ∈ v.integers, Text.digitCount n ≤ max))

/-- The text of a value, where integers may have no more digits than the limit, if there is one. -/
def dump (limit : Option Nat) (v : Json) : Except Text.TooLong String :=
  match limit with
  | none => .ok v.write
  | some max => if v.Short max then .ok v.write else .error ⟨max⟩

/-- A character outside ASCII stands for itself. -/
theorem escape_of_not_ascii {c : Char} (hc : 128 ≤ c.toNat) : escape c = [c] := by
  have hne : ∀ d : Char, d.toNat < 128 → c ≠ d := by
    rintro d hd rfl
    omega
  unfold escape
  rw [if_neg (hne _ (by decide)), if_neg (hne _ (by decide)), if_neg (hne _ (by decide)),
    if_neg (hne _ (by decide)), if_neg (hne _ (by decide)), if_neg (by omega),
    if_neg (by omega), if_neg (by omega)]

/-- An escaped character holds no control character. -/
theorem ne_control_of_mem_escape {c d : Char} (h : d ∈ escape c) : 0x20 ≤ d.toNat := by
  by_cases hc : c.toNat < 128
  · have hall := Text.all_ascii (p := fun c => (escape c).all fun d => 0x20 ≤ d.toNat)
      (by decide +kernel) hc
    exact of_decide_eq_true (List.all_eq_true.1 hall d h)
  · rw [escape_of_not_ascii (Nat.le_of_not_lt hc), List.mem_singleton] at h
    subst h
    omega

end Json

end MediaTypes
