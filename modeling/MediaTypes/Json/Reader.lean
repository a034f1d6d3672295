import MediaTypes.Json.Basic
import MediaTypes.Number.Numeral

/-!
# Reading JSON

Texts, numbers, truth values, `null`, arrays and objects, with blanks between them. A number with a
fraction or an exponent is read as the nearest binary number, and is not read if it is too large for
all of them. A code point above U+FFFF may be escaped as two surrogates; a lone surrogate is not
read.

## Main definitions

- `Json.read?` — the value that a text writes
-/

namespace MediaTypes

namespace Json

/-- The characters after the leading blanks. -/
def skipBlanks (cs : List Char) : List Char :=
  cs.dropWhile fun c => c == ' ' || c == '\n' || c == '\r' || c == '\t'

/-- The value of a hexadecimal digit of either case. -/
def hexValue? (c : Char) : Option Nat :=
  if '0' ≤ c ∧ c ≤ '9' then some (c.toNat - 48)
  else if 'a' ≤ c ∧ c ≤ 'f' then some (c.toNat - 87)
  else if 'A' ≤ c ∧ c ≤ 'F' then some (c.toNat - 55)
  else none

/-- The number that four hexadecimal digits write. -/
def unit? (a b c d : Char) : Option Nat := do
  let a ← hexValue? a
  let b ← hexValue? b
  let c ← hexValue? c
  let d ← hexValue? d
  return 4096 * a + 256 * b + 16 * c + d

/-- The character that one unit, or a pair of surrogates, stands for. -/
def unitChar? (high low : Option Nat) : Option Char :=
  match high, low with
  | some n, none => if n < 0xD800 ∨ 0xE000 ≤ n then some (Char.ofNat n) else none
  | some h, some l =>
    if 0xD800 ≤ h ∧ h < 0xDC00 ∧ 0xDC00 ≤ l ∧ l < 0xE000 then
      some (Char.ofNat (0x10000 + 0x400 * (h - 0xD800) + (l - 0xDC00)))
    else none
  | none, _ => none

/-- The character that a letter after a backslash stands for. -/
def escaped? (c : Char) : Option Char :=
  match c with
  | '"' => some '"'
  | '\\' => some '\\'
  | '/' => some '/'
  | 'n' => some '\n'
  | 'r' => some '\r'
  | 't' => some '\t'
  | 'f' => some (Char.ofNat 0x0C)
  | 'b' => some (Char.ofNat 0x08)
  | _ => none

/-- Reads a text up to its closing quote; the characters read so far are given latest first. -/
def readText? (read : List Char) : List Char → Option (List Char × List Char)
  | [] => none
  | '"' :: rest => some (read.reverse, rest)
  | '\\' :: 'u' :: a :: b :: c :: d :: rest =>
    match unitChar? (unit? a b c d) none with
    | some x => readText? (x :: read) rest
    | none =>
      match rest with
      | '\\' :: 'u' :: e :: f :: g :: h :: rest =>
        match (unit? e f g h).bind fun low => unitChar? (unit? a b c d) (some low) with
        | some x => readText? (x :: read) rest
        | none => none
      | _ => none
  | '\\' :: c :: rest =>
    match escaped? c with
    | some x => readText? (x :: read) rest
    | none => none
  | c :: rest => if c.toNat < 0x20 then none else readText? (c :: read) rest
termination_by structural cs => cs

/-- Reads a row of digits, of which there has to be one. -/
def readDigits? (cs : List Char) : Option (List Char × List Char) :=
  match cs.takeWhile Char.isDigit with
  | [] => none
  | digits => some (digits, cs.dropWhile Char.isDigit)

/-- Reads the digits before the point; several digits do not start with a zero. -/
def readWhole? (cs : List Char) : Option (List Char × List Char) :=
  match readDigits? cs with
  | some ('0' :: _ :: _, _) => none
  | whole => whole

/-- Reads the digits after the point, if there is a point. -/
def readFraction? : List Char → Option (List Char × List Char)
  | '.' :: rest => readDigits? rest
  | cs => some ([], cs)

/-- Reads an exponent, if there is the letter that announces it. -/
def readExponent? : List Char → Option (Option Int × List Char)
  | [] => some (none, [])
  | c :: cs =>
    if c = 'e' ∨ c = 'E' then
      match cs with
      | '-' :: rest => (readDigits? rest).map fun p => (some (-(Nat.ofDigitChars 10 p.1 0)), p.2)
      | '+' :: rest => (readDigits? rest).map fun p => (some (Nat.ofDigitChars 10 p.1 0), p.2)
      | rest => (readDigits? rest).map fun p => (some (Nat.ofDigitChars 10 p.1 0), p.2)
    else some (none, c :: cs)

def readNumeral? (cs : List Char) : Option (Numeral × List Char) := do
  let (whole, rest) ← readWhole? cs
  let (fraction, rest) ← readFraction? rest
  let (exponent, rest) ← readExponent? rest
  return (⟨whole, fraction, exponent⟩, rest)

/-- The number that a numeral writes after a minus sign or without one: an integer if there is
neither a point nor an exponent. -/
def number? (negative : Bool) (n : Numeral) : Option Json :=
  if n.isWhole then
    let value := Nat.ofDigitChars 10 n.whole 0
    some (.int (if negative then -value else value))
  else (n.decimal.double? negative).map .float

/-- Reads a number whose sign has been read. -/
def readUnsigned? (negative : Bool) (cs : List Char) : Option (Json × List Char) := do
  let (numeral, rest) ← readNumeral? cs
  let v ← number? negative numeral
  return (v, rest)

def readNumber? : List Char → Option (Json × List Char)
  | '-' :: rest => readUnsigned? true rest
  | cs => readUnsigned? false cs

mutual

/-- Reads a value; the depth of the recursion is bounded by `fuel`. -/
def readValue? : (fuel : Nat) → List Char → Option (Json × List Char)
  | 0, _ => none
  | fuel + 1, cs =>
    match skipBlanks cs with
    | 'n' :: 'u' :: 'l' :: 'l' :: rest => some (.null, rest)
    | 't' :: 'r' :: 'u' :: 'e' :: rest => some (.bool true, rest)
    | 'f' :: 'a' :: 'l' :: 's' :: 'e' :: rest => some (.bool false, rest)
    | '"' :: rest => (readText? [] rest).map fun p => (.string (String.ofList p.1), p.2)
    | '[' :: rest =>
      match skipBlanks rest with
      | ']' :: rest => some (.array [], rest)
      | rest => readItems? fuel [] rest
    | '{' :: rest =>
      match skipBlanks rest with
      | '}' :: rest => some (.object [], rest)
      | rest => readFields? fuel [] rest
    | cs => readNumber? cs

/-- Reads the items that are left of an array; those read so far are given latest first. -/
def readItems? : (fuel : Nat) → List Json → List Char → Option (Json × List Char)
  | 0, _, _ => none
  | fuel + 1, items, cs =>
    match readValue? fuel cs with
    | none => none
    | some (v, rest) =>
      match skipBlanks rest with
      | ',' :: rest => readItems? fuel (v :: items) rest
      | ']' :: rest => some (.array (v :: items).reverse, rest)
      | _ => none

/-- Reads the fields that are left of an object; those read so far are given latest first. -/
def readFields? : (fuel : Nat) → List (String × Json) → List Char → Option (Json × List Char)
  | 0, _, _ => none
  | fuel + 1, fields, cs =>
    match skipBlanks cs with
    | '"' :: rest =>
      match readText? [] rest with
      | none => none
      | some (name, rest) =>
        match skipBlanks rest with
        | ':' :: rest =>
          match readValue? fuel rest with
          | none => none
          | some (v, rest) =>
            match skipBlanks rest with
            | ',' :: rest => readFields? fuel ((String.ofList name, v) :: fields) rest
            | '}' :: rest =>
              some (.object ((String.ofList name, v) :: fields).reverse, rest)
            | _ => none
        | _ => none
    | _ => none

end

/-- The value that the characters write, with nothing but blanks after it. Each level of the
recursion but every second one takes a character, so twice the length is fuel enough. -/
def readChars? (cs : List Char) : Option Json :=
  match readValue? (2 * cs.length + 2) cs with
  | some (v, rest) => if skipBlanks rest = [] then some v else none
  | none => none

def read? (s : String) : Option Json :=
  readChars? s.toList

end Json

end MediaTypes
