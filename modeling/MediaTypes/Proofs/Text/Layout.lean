import MediaTypes.Proofs.Text.Numeral

/-!
# Rows of marked numerals

A layout is a row of widths and marks. It is filled by numerals in base ten of these widths, each
followed by its mark. What fills a layout is ordered as the numbers are that are written in it, so
that the order of characters, which looks at one after the other, compares the numbers in turn.

## Main definitions

- `Text.Fills` — what fills a layout with some values
- `Text.readLayout?` — the values that fill a layout

## Main statements

- `readLayout?_eq_some_iff` — values are read exactly from what fills the layout with them
- `Fills.lt` — what fills a layout is ordered as the values are
-/

namespace MediaTypes

namespace Text

/-- The text fills the layout with the values. -/
inductive Fills : (layout : List (Nat × Char)) → (values : List Nat) → (cs : List Char) → Prop where
  | nil : Fills [] [] []
  | cons {layout : List (Nat × Char)} {values : List Nat} {width : Nat} {digits cs : List Char}
      (mark : Char) (hwidth : digits.length = width) (hdigits : ∀ c ∈ digits, c.isDigit = true)
      (h : Fills layout values cs) :
      Fills ((width, mark) :: layout) (Nat.ofDigitChars 10 digits 0 :: values)
        (digits ++ mark :: cs)

/-- The characters that it takes to fill a layout. -/
def layoutLength : List (Nat × Char) → Nat
  | [] => 0
  | (width, _) :: layout => width + 1 + layoutLength layout

/-- The number at the beginning of a text, in digits of the width and followed by the mark, and what
comes after the mark. -/
def readMarked? (width : Nat) (mark : Char) (cs : List Char) : Option (Nat × List Char) :=
  match cs.drop width with
  | [] => none
  | c :: rest =>
    if (cs.take width).all Char.isDigit ∧ c = mark then
      some (Nat.ofDigitChars 10 (cs.take width) 0, rest)
    else none

/-- The values that a text fills a layout with, if it does. -/
def readLayout? : (layout : List (Nat × Char)) → List Char → Option (List Nat)
  | [], cs => if cs = [] then some [] else none
  | (width, mark) :: layout, cs =>
    (readMarked? width mark cs).bind fun (value, rest) =>
      (readLayout? layout rest).map (value :: ·)

variable {layout : List (Nat × Char)} {values values' : List Nat} {cs cs' : List Char}

theorem readMarked?_eq_some_iff {width value : Nat} {mark : Char} {rest : List Char} :
    readMarked? width mark cs = some (value, rest) ↔
      ∃ digits, digits.length = width ∧ (∀ c ∈ digits, c.isDigit = true) ∧
        value = Nat.ofDigitChars 10 digits 0 ∧ cs = digits ++ mark :: rest := by
  constructor
  · intro h
    unfold readMarked? at h
    split at h
    next => cases h
    next c after hafter =>
      have hwidth : (cs.take width).length = width := by
        have := congrArg List.length hafter
        rw [List.length_drop, List.length_cons] at this
        rw [List.length_take]
        omega
      simp only [Option.ite_none_right_eq_some, Option.some.injEq, Prod.mk.injEq] at h
      obtain ⟨⟨hdigits, rfl⟩, rfl, rfl⟩ := h
      refine ⟨_, hwidth, List.all_eq_true.1 hdigits, rfl, ?_⟩
      rw [← hafter, List.take_append_drop]
  · rintro ⟨digits, hwidth, hdigits, rfl, rfl⟩
    rw [readMarked?, List.take_left' hwidth, List.drop_left' hwidth]
    exact if_pos ⟨List.all_eq_true.2 hdigits, rfl⟩

/-- Values are read exactly from what fills the layout with them. -/
theorem readLayout?_eq_some_iff : readLayout? layout cs = some values ↔ Fills layout values cs := by
  constructor
  · intro h
    induction layout generalizing values cs with
    | nil =>
      simp only [readLayout?, Option.ite_none_right_eq_some, Option.some.injEq] at h
      obtain ⟨rfl, rfl⟩ := h
      exact .nil
    | cons field layout ih =>
      simp only [readLayout?, Option.bind_eq_some_iff, Option.map_eq_some_iff] at h
      obtain ⟨⟨value, rest⟩, hmarked, values, hvalues, rfl⟩ := h
      obtain ⟨digits, hwidth, hdigits, rfl, rfl⟩ := readMarked?_eq_some_iff.1 hmarked
      exact .cons _ hwidth hdigits (ih hvalues)
  · intro h
    induction h with
    | nil => rfl
    | cons mark hwidth hdigits h ih =>
      simp only [readLayout?, Option.bind_eq_some_iff, Option.map_eq_some_iff]
      exact ⟨(_, _), readMarked?_eq_some_iff.2 ⟨_, hwidth, hdigits, rfl, rfl⟩, _, ih, rfl⟩

/-- A numeral of fixed width fills a field that is wide enough for its number. -/
theorem Fills.fixedDigits {width value : Nat} (mark : Char) (hvalue : value < 10 ^ width)
    (h : Fills layout values cs) :
    Fills ((width, mark) :: layout) (value :: values)
      (fixedDigits 10 width value ++ mark :: cs) := by
  have hfills := Fills.cons mark (length_fixedDigits 10 width value)
    (fun c hc => isDigit_of_mem_fixedDigits hc) h
  rwa [ofDigitChars_fixedDigits, Nat.mod_eq_of_lt hvalue] at hfills

theorem Fills.length_eq (h : Fills layout values cs) : cs.length = layoutLength layout := by
  induction h with
  | nil => rfl
  | cons mark hwidth hdigits h ih =>
    simp only [List.length_append, List.length_cons, layoutLength, ih, hwidth]
    omega

theorem append_lt_append_of_length_eq (hlength : cs.length = cs'.length) (h : cs < cs')
    (rest rest' : List Char) : cs ++ rest < cs' ++ rest' := by
  induction cs generalizing cs' with
  | nil =>
    rw [List.length_nil, eq_comm, List.length_eq_zero_iff] at hlength
    rw [hlength] at h
    exact absurd h (List.lt_irrefl [])
  | cons c cs ih =>
    obtain _ | ⟨c', cs'⟩ := cs'
    · simp at hlength
    rw [List.length_cons, List.length_cons, Nat.add_right_cancel_iff] at hlength
    rw [List.cons_append, List.cons_append, List.cons_lt_cons_iff]
    exact (List.cons_lt_cons_iff.1 h).imp_right fun ⟨hc, hlt⟩ => ⟨hc, ih hlength hlt⟩

/-- What fills a layout is ordered as the values are. -/
theorem Fills.lt (h : Fills layout values cs) (h' : Fills layout values' cs')
    (hlt : values < values') : cs < cs' := by
  induction h generalizing values' cs' with
  | nil =>
    cases h'
    exact absurd hlt (List.lt_irrefl [])
  | @cons layout values width digits cs mark hwidth hdigits h ih =>
    obtain _ | @⟨_, values', _, digits', cs', _, hwidth', hdigits', h'⟩ := h'
    have hlength : digits.length = digits'.length := hwidth.trans hwidth'.symm
    -- the first numerals decide unless they are the same, mark included
    rcases List.cons_lt_cons_iff.1 hlt with hfirst | ⟨hfirst, hrest⟩
    · rw [ofDigitChars_lt_iff hlength hdigits hdigits'] at hfirst
      exact append_lt_append_of_length_eq hlength hfirst _ _
    · rw [ofDigitChars_inj hlength hdigits hdigits'] at hfirst
      rw [hfirst]
      exact List.append_left_lt (List.cons_lt_cons_iff.2 (.inr ⟨rfl, ih h' hrest⟩))

end Text

end MediaTypes
