import MediaTypes.Proofs.Json.Number
import MediaTypes.Proofs.Json.Writer

/-!
# Reading what was written

What is written for a value in the JSON data format is read as that value.

## Main statements

- `readText?_flatMap_escape` — the characters of a text, whatever they are
- `read?_write` — all values
-/

namespace MediaTypes

namespace Json

section Text

theorem hexValue?_digitChar : ∀ d < 16, hexValue? (Nat.digitChar d) = some d := by
  decide

/-- Four hexadecimal digits are read as the number they are written for. -/
theorem exists_unit?_fixedDigits {n : Nat} (h : n < 0x10000) :
    ∃ a b c d, Text.fixedDigits 16 4 n = [a, b, c, d] ∧ unit? a b c d = some n := by
  refine ⟨_, _, _, _, rfl, ?_⟩
  simp only [unit?, hexValue?_digitChar _ (Nat.mod_lt _ (by decide)), Option.bind_eq_bind,
    Option.bind_some, Option.pure_def, Option.some.injEq]
  omega

/-- A character is escaped by a letter, by its number, or not at all. -/
theorem escape_cases (c : Char) :
    (∃ letter, escape c = ['\\', letter] ∧ escaped? letter = some c) ∨
      (escape c = '\\' :: 'u' :: Text.fixedDigits 16 4 c.toNat ∧ c.toNat < 0x20) ∨
      escape c = [c] ∧ c ≠ '"' ∧ c ≠ '\\' ∧ 0x20 ≤ c.toNat := by
  have hcode : ∀ n, c.toNat = n → c = Char.ofNat n := by
    rintro n rfl
    rw [Char.ofNat_toNat]
  unfold escape
  split
  next h => exact .inl ⟨'"', rfl, by rw [h]; rfl⟩
  next hquote =>
  split
  next h => exact .inl ⟨'\\', rfl, by rw [h]; rfl⟩
  next hbackslash =>
  split
  next h => exact .inl ⟨'n', rfl, by rw [h]; rfl⟩
  split
  next h => exact .inl ⟨'r', rfl, by rw [h]; rfl⟩
  split
  next h => exact .inl ⟨'t', rfl, by rw [h]; rfl⟩
  split
  next h => exact .inl ⟨'f', rfl, by rw [hcode _ h]; rfl⟩
  split
  next h => exact .inl ⟨'b', rfl, by rw [hcode _ h]; rfl⟩
  split
  next h => exact .inr (.inl ⟨rfl, h⟩)
  next h => exact .inr (.inr ⟨rfl, hquote, hbackslash, Nat.le_of_not_lt h⟩)

/-- A letter after a backslash is read as what it stands for. -/
theorem readText?_letter (read : List Char) {letter c : Char} (h : escaped? letter = some c)
    (rest : List Char) : readText? read ('\\' :: letter :: rest) = readText? (c :: read) rest := by
  have hne : letter ≠ 'u' := by
    rintro rfl
    cases h
  rw [readText?, h]
  intro _ _ _ _ _ hu
  exact absurd hu hne

/-- The number of a character below the surrogates is read as that character. -/
theorem readText?_number (read : List Char) {c : Char} (h : c.toNat < 0xD800) (rest : List Char) :
    readText? read ('\\' :: 'u' :: (Text.fixedDigits 16 4 c.toNat ++ rest)) =
      readText? (c :: read) rest := by
  obtain ⟨w, x, y, z, hdigits, hunit⟩ := exists_unit?_fixedDigits (n := c.toNat) (by omega)
  have hchar : unitChar? (some c.toNat) none = some c := by
    rw [unitChar?, if_pos (.inl h), Char.ofNat_toNat]
  rw [hdigits, readText?.eq_def]
  simp only [List.cons_append, List.nil_append, hunit, hchar]

theorem readText?_plain (read : List Char) {c : Char} (hquote : c ≠ '"') (hbackslash : c ≠ '\\')
    (hvisible : 0x20 ≤ c.toNat) (rest : List Char) :
    readText? read (c :: rest) = readText? (c :: read) rest := by
  rw [readText?, if_neg (Nat.not_lt.2 hvisible)]
  · exact hquote
  · intro _ _ _ _ _ h
    exact absurd h hbackslash
  · intro _ _ h
    exact absurd h hbackslash

/-- An escaped character is read as that character. -/
theorem readText?_escape (read : List Char) (c : Char) (rest : List Char) :
    readText? read (escape c ++ rest) = readText? (c :: read) rest := by
  rcases escape_cases c with ⟨letter, hescape, hletter⟩ | ⟨hescape, hcontrol⟩ |
    ⟨hescape, hquote, hbackslash, hvisible⟩
  · rw [hescape]
    exact readText?_letter read hletter rest
  · rw [hescape]
    exact readText?_number read (by omega) rest
  · rw [hescape]
    exact readText?_plain read hquote hbackslash hvisible rest

/-- What is written for a text is read as that text, up to its closing quote. -/
theorem readText?_flatMap_escape (read cs rest : List Char) :
    readText? read (cs.flatMap escape ++ '"' :: rest) = some (read.reverse ++ cs, rest) := by
  induction cs generalizing read with
  | nil => simp [readText?]
  | cons c cs ih =>
    rw [List.flatMap_cons, List.append_assoc, readText?_escape, ih, List.reverse_cons,
      List.append_assoc, List.singleton_append]

end Text

section Value

/-- What is written for a value is read as that value, with fuel for each character and whatever
follows it but what a number goes on with. -/
def ReadBack (v : Json) : Prop :=
  ∀ (fuel : Nat) (rest : List Char), EndsNumber rest →
    2 * (writeChars standard v).length ≤ fuel →
    readValue? fuel (writeChars standard v ++ rest) = some (v, rest)

theorem skipBlanks_cons {c : Char} (h : c ≠ ' ') (h' : 0x20 ≤ c.toNat) (cs : List Char) :
    skipBlanks (c :: cs) = c :: cs := by
  have hne : ∀ d : Char, d.toNat < 0x20 → c ≠ d := by
    rintro d hd rfl
    omega
  have hnewline := hne '\n' (by decide)
  have hreturn := hne '\r' (by decide)
  have htab := hne '\t' (by decide)
  simp [skipBlanks, h, hnewline, hreturn, htab]

/-- What begins with a digit or a minus sign is read as a number. -/
theorem readValue?_of_head (fuel : Nat) {c : Char} (h : c.isDigit = true ∨ c = '-')
    (cs : List Char) :
    readValue? (fuel + 1) (c :: cs) = readNumber? (c :: cs) := by
  have hrange : c.toNat = 45 ∨ 48 ≤ c.toNat ∧ c.toNat ≤ 57 := by
    rcases h with hdigit | rfl
    · simp only [Char.isDigit, Bool.and_eq_true, decide_eq_true_eq] at hdigit
      exact .inr hdigit
    · exact .inl rfl
  have hne : ∀ d : Char, ¬ (d.toNat = 45 ∨ 48 ≤ d.toNat ∧ d.toNat ≤ 57) → c ≠ d := by
    rintro d hd rfl
    exact hd hrange
  have hskip : skipBlanks (c :: cs) = c :: cs :=
    skipBlanks_cons (hne ' ' (by decide)) (by omega) cs
  rw [readValue?, hskip]
  split
  next heq => exact absurd (List.cons.inj heq).1 (hne 'n' (by decide))
  next heq => exact absurd (List.cons.inj heq).1 (hne 't' (by decide))
  next heq => exact absurd (List.cons.inj heq).1 (hne 'f' (by decide))
  next heq => exact absurd (List.cons.inj heq).1 (hne '"' (by decide))
  next heq => exact absurd (List.cons.inj heq).1 (hne '[' (by decide))
  next heq => exact absurd (List.cons.inj heq).1 (hne '{' (by decide))
  next => rfl

/-- What is written for a value begins with a character that is no blank and closes no array. -/
theorem exists_cons_writeChars (v : Json) :
    ∃ c cs, writeChars standard v = c :: cs ∧ c ≠ ' ' ∧ c ≠ ']' ∧ 0x20 ≤ c.toNat := by
  have hnumber : ∀ {c : Char}, c.isDigit = true ∨ c = '-' → c ≠ ' ' ∧ c ≠ ']' := by
    rintro c hhead
    constructor
    · rintro rfl
      revert hhead
      decide
    · rintro rfl
      revert hhead
      decide
  have hcons : ∃ c cs, writeChars standard v = c :: cs ∧ c ≠ ' ' ∧ c ≠ ']' := by
    match v with
    | .null => exact ⟨'n', _, rfl, by decide, by decide⟩
    | .bool true => exact ⟨'t', _, rfl, by decide, by decide⟩
    | .bool false => exact ⟨'f', _, rfl, by decide, by decide⟩
    | .int n =>
      obtain ⟨c, cs, hcons, hhead⟩ := exists_cons_writeInt n
      exact ⟨c, cs, hcons, hnumber hhead⟩
    | .float x =>
      obtain ⟨c, cs, hcons, hhead⟩ := exists_cons_float x
      exact ⟨c, cs, hcons, hnumber hhead⟩
    | .string s => exact ⟨'"', _, rfl, by decide, by decide⟩
    | .array [] => exact ⟨'[', _, rfl, by decide, by decide⟩
    | .array (v :: rest) => exact ⟨'[', _, rfl, by decide, by decide⟩
    | .object [] => exact ⟨'{', _, rfl, by decide, by decide⟩
    | .object (f :: rest) => exact ⟨'{', _, rfl, by decide, by decide⟩
  obtain ⟨c, cs, hcons, hblank, hbracket⟩ := hcons
  refine ⟨c, cs, hcons, hblank, hbracket, forall_mem_writeChars standard_spells v c ?_⟩
  rw [hcons]
  exact List.mem_cons_self

/-- Fuel for one character at least is one unit at least. -/
theorem ReadBack.of_succ {v : Json}
    (h : ∀ (fuel : Nat) (rest : List Char), EndsNumber rest →
      2 * (writeChars standard v).length ≤ fuel + 1 →
      readValue? (fuel + 1) (writeChars standard v ++ rest) = some (v, rest)) : ReadBack v := by
  intro fuel rest hrest hfuel
  cases fuel with
  | succ fuel => exact h fuel rest hrest hfuel
  | zero =>
    obtain ⟨c, cs, hcons, -⟩ := exists_cons_writeChars v
    rw [hcons, List.length_cons] at hfuel
    omega

/-- A number is read back if its numeral begins as one and is read up to its end. -/
theorem readBack_of_number {v : Json} {c : Char} {cs : List Char}
    (hcons : writeChars standard v = c :: cs) (hhead : c.isDigit = true ∨ c = '-')
    (hread : ∀ rest, EndsNumber rest → readNumber? (c :: (cs ++ rest)) = some (v, rest)) :
    ReadBack v := by
  apply ReadBack.of_succ
  intro fuel rest hrest _
  rw [hcons, List.cons_append, readValue?_of_head fuel hhead, hread rest hrest]

theorem readBack_int (n : Int) : ReadBack (.int n) := by
  obtain ⟨c, cs, hcons, hhead⟩ := exists_cons_writeInt n
  refine readBack_of_number hcons hhead fun rest hrest => ?_
  rw [← List.cons_append, ← hcons]
  exact readNumber?_writeInt n hrest

theorem readBack_float (x : Double) : ReadBack (.float x) := by
  obtain ⟨c, cs, hcons, hhead⟩ := exists_cons_float x
  refine readBack_of_number hcons hhead fun rest hrest => ?_
  rw [← List.cons_append, ← hcons]
  exact readNumber?_float x hrest

theorem readBack_string (s : String) : ReadBack (.string s) := by
  apply ReadBack.of_succ
  intro fuel rest _ _
  have hwritten : writeChars standard (.string s) ++ rest =
      '"' :: (s.toList.flatMap escape ++ '"' :: rest) := by
    simp [writeChars, standard, writeText]
  rw [hwritten, readValue?, skipBlanks_cons (by decide) (by decide)]
  simp only [readText?_flatMap_escape, List.reverse_nil, List.nil_append, Option.map_some,
    String.ofList_toList]

/-- A space before a value is passed over. -/
theorem readValue?_space (fuel : Nat) (cs : List Char) :
    readValue? fuel (' ' :: cs) = readValue? fuel cs := by
  cases fuel with
  | zero => rfl
  | succ fuel =>
    have hskip : skipBlanks (' ' :: cs) = skipBlanks cs := rfl
    rw [readValue?, readValue?, hskip]

theorem readItems?_space (fuel : Nat) (read : List Json) (cs : List Char) :
    readItems? fuel read (' ' :: cs) = readItems? fuel read cs := by
  cases fuel with
  | zero => rfl
  | succ fuel => rw [readItems?, readItems?, readValue?_space]

theorem readFields?_space (fuel : Nat) (read : List (String × Json)) (cs : List Char) :
    readFields? fuel read (' ' :: cs) = readFields? fuel read cs := by
  cases fuel with
  | zero => rfl
  | succ fuel =>
    have hskip : skipBlanks (' ' :: cs) = skipBlanks cs := rfl
    rw [readFields?, readFields?, hskip]

/-- The items of an array are read one after the other, up to its closing bracket. -/
theorem readItems?_writeItems {v : Json} (hv : ReadBack v) {items : List Json}
    (hitems : ∀ w ∈ items, ReadBack w) (read : List Json) (fuel : Nat) (rest : List Char)
    (hfuel : 2 * ((writeChars standard v).length + (writeItems standard items).length) < fuel) :
    readItems? fuel read (writeChars standard v ++ (writeItems standard items ++ ']' :: rest)) =
      some (.array (read.reverse ++ v :: items), rest) := by
  induction items generalizing v read fuel with
  | nil =>
    obtain ⟨fuel, rfl⟩ : ∃ k, fuel = k + 1 := ⟨fuel - 1, by omega⟩
    have hbracket : EndsNumber (']' :: rest) := endsNumber_cons (by decide) rest
    rw [readItems?, writeItems, List.nil_append, hv fuel _ hbracket (by omega)]
    simp only [skipBlanks_cons (c := ']') (by decide) (by decide), List.reverse_cons]
  | cons w items ih =>
    obtain ⟨fuel, rfl⟩ : ∃ k, fuel = k + 1 := ⟨fuel - 1, by omega⟩
    rw [List.forall_mem_cons] at hitems
    simp only [writeItems, List.cons_append, List.append_assoc, List.length_cons,
      List.length_append] at hfuel ⊢
    have hcomma : ∀ cs, EndsNumber (',' :: cs) := endsNumber_cons (by decide)
    have hnext := ih hitems.1 hitems.2 (v :: read) fuel (by omega)
    rw [readItems?, hv fuel _ (hcomma _) (by omega)]
    simp only [skipBlanks_cons (c := ',') (by decide) (by decide), readItems?_space, hnext,
      List.reverse_cons, List.append_assoc, List.singleton_append]

/-- What follows a field says whether there are more. -/
def afterField (fuel : Nat) (read : List (String × Json)) : List Char → Option (Json × List Char)
  | ',' :: rest => readFields? fuel read rest
  | '}' :: rest => some (.object read.reverse, rest)
  | _ => none

/-- A field is read up to its end. -/
theorem readFields?_writeField {f : String × Json} (hf : ReadBack f.2)
    (read : List (String × Json)) {fuel : Nat} {rest : List Char} (hrest : EndsNumber rest)
    (hfuel : 2 * (writeField standard f).length ≤ fuel) :
    readFields? (fuel + 1) read (writeField standard f ++ rest) =
      afterField fuel (f :: read) (skipBlanks rest) := by
  obtain ⟨name, v⟩ := f
  have hwritten : writeField standard (name, v) ++ rest =
      '"' :: (name.toList.flatMap escape ++
        '"' :: ':' :: ' ' :: (writeChars standard v ++ rest)) := by
    simp [writeField, standard, writeText]
  have hvalue : readValue? fuel (' ' :: (writeChars standard v ++ rest)) = some (v, rest) := by
    rw [readValue?_space]
    simp only [writeField, List.length_append, List.length_cons] at hfuel
    exact hf fuel rest hrest (by dsimp only; omega)
  rw [hwritten, readFields?, skipBlanks_cons (by decide) (by decide)]
  simp only [readText?_flatMap_escape, skipBlanks_cons (c := ':') (by decide) (by decide), hvalue,
    List.reverse_nil, List.nil_append, String.ofList_toList]
  rfl

/-- The fields of an object are read one after the other, up to its closing brace. -/
theorem readFields?_writeFields {f : String × Json} (hf : ReadBack f.2)
    {fields : List (String × Json)} (hfields : ∀ g ∈ fields, ReadBack g.2)
    (read : List (String × Json)) (fuel : Nat) (rest : List Char)
    (hfuel : 2 * ((writeField standard f).length + (writeFields standard fields).length) < fuel) :
    readFields? fuel read (writeField standard f ++ (writeFields standard fields ++ '}' :: rest)) =
      some (.object (read.reverse ++ f :: fields), rest) := by
  induction fields generalizing f read fuel with
  | nil =>
    obtain ⟨fuel, rfl⟩ : ∃ k, fuel = k + 1 := ⟨fuel - 1, by omega⟩
    have hbrace : EndsNumber ('}' :: rest) := endsNumber_cons (by decide) rest
    rw [writeFields, List.nil_append, readFields?_writeField hf read hbrace (by omega),
      skipBlanks_cons (by decide) (by decide)]
    simp only [afterField, List.reverse_cons]
  | cons g fields ih =>
    obtain ⟨fuel, rfl⟩ : ∃ k, fuel = k + 1 := ⟨fuel - 1, by omega⟩
    rw [List.forall_mem_cons] at hfields
    simp only [writeFields, List.cons_append, List.append_assoc, List.length_cons,
      List.length_append] at hfuel ⊢
    have hcomma : ∀ cs, EndsNumber (',' :: cs) := endsNumber_cons (by decide)
    have hnext := ih hfields.1 hfields.2 (f :: read) fuel (by omega)
    rw [readFields?_writeField hf read (hcomma _) (by omega),
      skipBlanks_cons (by decide) (by decide)]
    simp only [afterField, readFields?_space, hnext, List.reverse_cons, List.append_assoc,
      List.singleton_append]

theorem readBack_array {items : List Json} (h : ∀ v ∈ items, ReadBack v) :
    ReadBack (.array items) := by
  apply ReadBack.of_succ
  intro fuel rest _ hfuel
  cases items with
  | nil => rfl
  | cons v items =>
    rw [List.forall_mem_cons] at h
    simp only [writeChars, List.cons_append, List.append_assoc, List.length_cons,
      List.length_append] at hfuel ⊢
    have hitems := readItems?_writeItems h.1 h.2 [] fuel rest (by omega)
    obtain ⟨c, cs, hcons, hblank, hbracket, hvisible⟩ := exists_cons_writeChars v
    rw [hcons, List.cons_append] at hitems ⊢
    rw [readValue?, skipBlanks_cons (by decide) (by decide)]
    simp only [skipBlanks_cons hblank hvisible]
    split
    next heq => exact absurd (List.cons.inj heq).1 hbracket
    next => exact hitems

theorem readBack_object {fields : List (String × Json)} (h : ∀ f ∈ fields, ReadBack f.2) :
    ReadBack (.object fields) := by
  apply ReadBack.of_succ
  intro fuel rest _ hfuel
  cases fields with
  | nil => rfl
  | cons f fields =>
    rw [List.forall_mem_cons] at h
    simp only [writeChars, List.cons_append, List.append_assoc, List.length_cons,
      List.length_append] at hfuel ⊢
    have hfields := readFields?_writeFields h.1 h.2 [] fuel rest (by omega)
    obtain ⟨cs, hcons⟩ : ∃ cs, writeField standard f = '"' :: cs := by
      obtain ⟨name, v⟩ := f
      exact ⟨_, rfl⟩
    rw [hcons, List.cons_append] at hfields ⊢
    rw [readValue?, skipBlanks_cons (by decide) (by decide)]
    simp only [skipBlanks_cons (c := '"') (by decide) (by decide)]
    exact hfields

end Value

/-- What is written for a value in the JSON data format is read as that value. -/
theorem readBack (v : Json) : ReadBack v := by
  induction v using induction_parts with
  | null => exact ReadBack.of_succ fun _ _ _ _ => rfl
  | bool b => cases b <;> exact ReadBack.of_succ fun _ _ _ _ => rfl
  | int n => exact readBack_int n
  | float x => exact readBack_float x
  | string s => exact readBack_string s
  | array items hitems => exact readBack_array hitems
  | object fields hfields => exact readBack_object hfields

theorem read?_write (v : Json) : read? v.write = some v := by
  have hread := readBack v (2 * (writeChars standard v).length + 2) [] endsNumber_nil (by omega)
  rw [List.append_nil] at hread
  rw [read?, write, String.toList_ofList, readChars?, hread]
  rfl

end Json

end MediaTypes
