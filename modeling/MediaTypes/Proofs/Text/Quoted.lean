import MediaTypes.Proofs.Text.Numeral
import MediaTypes.Text.Quoted

/-!
# Quoted texts can be told apart

Between its marks every character of a quoted text is written in a way that shows where it ends and
which character it is: as itself, by a letter after a backslash, or by a number of fixed width. So
two quoted texts that stand at the beginning of one text are equal. All that is written is
printable, and no printable character ends a line.

## Main definitions

- `Text.Escaped` — the ways to write a character between two marks
- `Text.IsControl`, `Text.BreaksLine` — the control characters, and those that end a line
- `Text.OneLine` — a text without any of them

## Main statements

- `quoteChars_append_inj` — a quoted text is told by the beginning of what holds it
- `isPrintable_of_mem_quoteChars` — a quoted text is printable
- `oneLine_of_isPrintable` — a printable text is one line
-/

namespace MediaTypes

namespace Text

/-- A control character. -/
def IsControl (c : Char) : Prop :=
  c.toNat < 0x20 ∨ 0x7F ≤ c.toNat ∧ c.toNat ≤ 0x9F

/-- The characters that end a line. -/
def lineBreaks : List Nat :=
  [0x0A, 0x0B, 0x0C, 0x0D, 0x1C, 0x1D, 0x1E, 0x85, 0x2028, 0x2029]

def BreaksLine (c : Char) : Prop :=
  c.toNat ∈ lineBreaks

/-- A text without line breaks and without other control characters. -/
def OneLine (s : String) : Prop :=
  ∀ c ∈ s.toList, ¬ IsControl c ∧ ¬ BreaksLine c

/-- The characters that a letter after a backslash stands for, by the letter. -/
def escapeLetters (mark : Char) : List (Char × Char) :=
  [(mark, mark), ('\\', '\\'), ('n', '\n'), ('r', '\r'), ('t', '\t')]

/-- The digits of a number after a backslash, by the letter before it. -/
def escapeWidths : List (Char × Nat) :=
  [('x', 2), ('u', 4), ('U', 8)]

/-- The ways to write a character between two marks. -/
inductive Escaped (mark c : Char) : List Char → Prop where
  | itself (ne_mark : c ≠ mark) (ne_backslash : c ≠ '\\') (printable : isPrintable c = true) :
      Escaped mark c [c]
  | letter {letter : Char} (h : (letter, c) ∈ escapeLetters mark) : Escaped mark c ['\\', letter]
  | number {letter : Char} {width : Nat} (h : (letter, width) ∈ escapeWidths)
      (fits : c.toNat < 16 ^ width) :
      Escaped mark c ('\\' :: letter :: fixedDigits 16 width c.toNat)

/-- The marks that a text may be quoted with. -/
def IsMark (mark : Char) : Prop :=
  mark = '\'' ∨ mark = '"'

variable {mark c d : Char} {cs ds w v x y : List Char}

theorem isMark_quoteMark (cs : List Char) : IsMark (quoteMark cs) := by
  unfold quoteMark
  split
  · exact .inr rfl
  · exact .inl rfl

theorem escaped_escapeChar (mark c : Char) : Escaped mark c (escapeChar mark c) := by
  unfold escapeChar
  split
  next h =>
    rcases h with rfl | rfl
    · exact .letter (by simp [escapeLetters])
    · exact .letter (by simp [escapeLetters])
  next h =>
  obtain ⟨hmark, hbackslash⟩ := not_or.1 h
  split
  next h => exact .letter (by simp [escapeLetters, h])
  split
  next h => exact .letter (by simp [escapeLetters, h])
  split
  next h => exact .letter (by simp [escapeLetters, h])
  split
  next h => exact .itself hmark hbackslash h
  split
  next h => exact .number (by simp [escapeWidths]) h
  split
  next h => exact .number (by simp [escapeWidths]) h
  next h =>
    have hvalid : c.toNat < 0x110000 := by
      have := c.valid
      simp only [UInt32.isValidChar, Nat.isValidChar] at this
      simp only [Char.toNat]
      omega
    exact .number (by simp [escapeWidths]) (by omega)

section Marked

variable (hmark : IsMark mark)
include hmark

theorem mark_ne_backslash : mark ≠ '\\' := by
  rcases hmark with rfl | rfl <;> decide

/-- A letter after a backslash stands for one character. -/
theorem eq_of_mem_escapeLetters : ∀ p ∈ escapeLetters mark, ∀ q ∈ escapeLetters mark,
    p.1 = q.1 → p.2 = q.2 := by
  rcases hmark with rfl | rfl <;> decide

/-- No letter that stands for a character announces a number. -/
theorem ne_of_mem_escapeLetters : ∀ p ∈ escapeLetters mark, ∀ q ∈ escapeWidths, p.1 ≠ q.1 := by
  rcases hmark with rfl | rfl <;> decide

/-- No way to write a character begins with the mark. -/
theorem Escaped.append_ne (h : Escaped mark c w) : w ++ x ≠ mark :: y := by
  have hbackslash := mark_ne_backslash hmark
  intro heq
  cases h with
  | itself ne_mark => exact ne_mark (List.cons.inj heq).1
  | letter => exact hbackslash (List.cons.inj heq).1.symm
  | number => exact hbackslash (List.cons.inj heq).1.symm

/-- A character is told by the beginning of what it is written in. -/
theorem Escaped.append_inj (h : Escaped mark c w) (h' : Escaped mark d v)
    (heq : w ++ x = v ++ y) : c = d ∧ x = y := by
  cases h with
  | itself _ ne_backslash =>
    cases h' with
    | itself => exact List.cons.inj heq
    | letter => exact absurd (List.cons.inj heq).1 ne_backslash
    | number => exact absurd (List.cons.inj heq).1 ne_backslash
  | letter hletter =>
    cases h' with
    | itself _ ne_backslash => exact absurd (List.cons.inj heq).1.symm ne_backslash
    | letter hletter' =>
      obtain ⟨rfl, hrest⟩ := List.cons.inj (List.cons.inj heq).2
      exact ⟨eq_of_mem_escapeLetters hmark _ hletter _ hletter' rfl, hrest⟩
    | number hwidth =>
      obtain ⟨rfl, -⟩ := List.cons.inj (List.cons.inj heq).2
      exact absurd rfl (ne_of_mem_escapeLetters hmark _ hletter _ hwidth)
  | number hwidth fits =>
    cases h' with
    | itself _ ne_backslash => exact absurd (List.cons.inj heq).1.symm ne_backslash
    | letter hletter =>
      obtain ⟨rfl, -⟩ := List.cons.inj (List.cons.inj heq).2
      exact absurd rfl (ne_of_mem_escapeLetters hmark _ hletter _ hwidth)
    | number hwidth' fits' =>
      obtain ⟨rfl, hdigits⟩ := List.cons.inj (List.cons.inj heq).2
      -- the letter says how many digits there are
      have hsame : ∀ p ∈ escapeWidths, ∀ q ∈ escapeWidths, p.1 = q.1 → p.2 = q.2 := by decide
      obtain rfl := hsame _ hwidth _ hwidth' rfl
      obtain ⟨hnumber, hrest⟩ := List.append_inj hdigits (by simp)
      rw [fixedDigits_inj (by decide) (by decide), Nat.mod_eq_of_lt fits,
        Nat.mod_eq_of_lt fits'] at hnumber
      exact ⟨Char.toNat_inj.1 hnumber, hrest⟩

/-- The characters between two marks are told up to the second mark. -/
theorem flatMap_escapeChar_append_inj
    (heq : cs.flatMap (escapeChar mark) ++ mark :: x = ds.flatMap (escapeChar mark) ++ mark :: y) :
    cs = ds ∧ x = y := by
  induction cs generalizing ds with
  | nil =>
    cases ds with
    | nil => exact ⟨rfl, (List.cons.inj heq).2⟩
    | cons d ds =>
      rw [List.flatMap_cons, List.append_assoc] at heq
      exact absurd heq.symm ((escaped_escapeChar mark d).append_ne hmark)
  | cons c cs ih =>
    cases ds with
    | nil =>
      rw [List.flatMap_cons, List.append_assoc] at heq
      exact absurd heq ((escaped_escapeChar mark c).append_ne hmark)
    | cons d ds =>
      rw [List.flatMap_cons, List.flatMap_cons, List.append_assoc, List.append_assoc] at heq
      obtain ⟨rfl, htail⟩ :=
        (escaped_escapeChar mark c).append_inj hmark (escaped_escapeChar mark d) heq
      obtain ⟨rfl, hrest⟩ := ih htail
      exact ⟨rfl, hrest⟩

end Marked

/-- A quoted text is told by the beginning of what holds it. -/
theorem quoteChars_append_inj : quoteChars cs ++ x = quoteChars ds ++ y ↔ cs = ds ∧ x = y := by
  constructor
  · intro heq
    simp only [quoteChars, List.cons_append, List.append_assoc] at heq
    obtain ⟨hmark, htail⟩ := List.cons.inj heq
    rw [← hmark] at htail
    exact flatMap_escapeChar_append_inj (isMark_quoteMark cs) htail
  · rintro ⟨rfl, rfl⟩
    rfl

section Printable

theorem isPrintable_of_visible (h : 0x20 ≤ c.toNat ∧ c.toNat < 0x7F) : isPrintable c = true := by
  rw [isPrintable, if_pos h.2]
  exact decide_eq_true h.1

theorem isPrintable_of_isMark (h : IsMark mark) : isPrintable mark = true := by
  rcases h with rfl | rfl <;> decide

theorem isPrintable_of_mem_fixedDigits {width n : Nat} (h : d ∈ fixedDigits 16 width n) :
    isPrintable d = true := by
  have hdigits : ∀ k < 16, isPrintable (Nat.digitChar k) = true := by decide
  obtain ⟨k, hk, rfl⟩ := mem_fixedDigits (by decide) h
  exact hdigits k hk

theorem Escaped.isPrintable (hmark : IsMark mark) (h : Escaped mark c w) :
    ∀ d ∈ w, isPrintable d = true := by
  cases h with
  | itself _ _ printable => simpa using printable
  | letter hletter =>
    have hletters : ∀ p ∈ escapeLetters mark, Text.isPrintable p.1 = true := by
      rcases hmark with rfl | rfl <;> decide
    simpa using ⟨by decide, hletters _ hletter⟩
  | number hwidth =>
    have hwidths : ∀ p ∈ escapeWidths, Text.isPrintable p.1 = true := by decide
    simp only [List.forall_mem_cons]
    exact ⟨by decide, hwidths _ hwidth, fun _ => isPrintable_of_mem_fixedDigits⟩

/-- A quoted text is printable. -/
theorem isPrintable_of_mem_quoteChars (cs : List Char) :
    ∀ c ∈ quoteChars cs, isPrintable c = true := by
  have hmark := isMark_quoteMark cs
  have hescaped : ∀ c ∈ cs.flatMap (escapeChar (quoteMark cs)), isPrintable c = true := by
    intro c hc
    obtain ⟨d, -, hd⟩ := List.mem_flatMap.1 hc
    exact (escaped_escapeChar _ d).isPrintable hmark c hd
  simp only [quoteChars, List.cons_append, List.forall_mem_cons, List.forall_mem_append]
  exact ⟨isPrintable_of_isMark hmark, hescaped, isPrintable_of_isMark hmark, List.forall_mem_nil _⟩

/-- A printable character lies in no range of unprintable ones. -/
theorem not_mem_range_of_isPrintable (h : isPrintable c = true) {r : Nat × Nat}
    (hr : r ∈ unprintableRanges) (hascii : 0x7F ≤ r.1) : ¬ (r.1 ≤ c.toNat ∧ c.toNat ≤ r.2) := by
  intro hc
  have hmem : inRanges unprintableRanges c = true := inRanges_iff.2 ⟨r, hr, hc⟩
  rw [isPrintable, if_neg (by omega), hmem] at h
  cases h

theorem not_isControl_of_isPrintable (h : isPrintable c = true) : ¬ IsControl c := by
  rintro (hlow | hhigh)
  · rw [isPrintable_eq_false_of_lt hlow] at h
    cases h
  · exact not_mem_range_of_isPrintable h (r := (0x7F, 0xA0)) (by decide) (by decide) (by omega)

/-- No printable character ends a line. -/
theorem not_breaksLine_of_isPrintable (h : isPrintable c = true) : ¬ BreaksLine c := by
  intro hbreak
  have hcontrol := not_isControl_of_isPrintable h
  have hseparator := not_mem_range_of_isPrintable h (r := (0x2028, 0x202F)) (by decide) (by decide)
  simp only [BreaksLine, lineBreaks, IsControl, List.mem_cons, List.not_mem_nil, or_false] at *
  omega

/-- A printable text is one line. -/
theorem oneLine_of_isPrintable {s : String} (h : ∀ c ∈ s.toList, isPrintable c = true) :
    OneLine s :=
  fun c hc => ⟨not_isControl_of_isPrintable (h c hc), not_breaksLine_of_isPrintable (h c hc)⟩

end Printable

end Text

end MediaTypes
