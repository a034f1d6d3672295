import MediaTypes.Json.Writer
import MediaTypes.Proofs.Number.Numeral

/-!
# The characters of written values

What is written for a value consists of what its style spells and of visible ASCII characters and
spaces. A property that these all have is therefore one of the whole text.

## Main definitions

- `Json.Style.Spells` — all that a style writes has a property

## Main statements

- `induction_parts` — induction on the parts of a value
- `forall_mem_writeChars` — a property of all that is written for a value
- `ne_control_of_mem_write` — a written value is one line
- `dump_of_short`, `dump_of_not_short` — a value is written if its integers are within the limit
-/

namespace MediaTypes

namespace Json

/-- Induction on a value: its parts are the items of an array and the values of an object. -/
@[elab_as_elim] theorem induction_parts {motive : Json → Prop} (null : motive .null)
    (bool : ∀ b, motive (.bool b)) (int : ∀ n, motive (.int n)) (float : ∀ x, motive (.float x))
    (string : ∀ s, motive (.string s))
    (array : ∀ items, (∀ v ∈ items, motive v) → motive (.array items))
    (object : ∀ fields, (∀ f ∈ fields, motive f.2) → motive (.object fields)) (v : Json) :
    motive v :=
  match v with
  | .null => null
  | .bool b => bool b
  | .int n => int n
  | .float x => float x
  | .string s => string s
  | .array items => array items fun w _ =>
      induction_parts null bool int float string array object w
  | .object fields => object fields fun f _ =>
      induction_parts null bool int float string array object f.2
termination_by v
decreasing_by
  · rename_i hw
    have hsize := List.sizeOf_lt_of_mem hw
    simp only [Json.array.sizeOf_spec]
    omega
  · rename_i hf
    have hsize := List.sizeOf_lt_of_mem hf
    have hvalue : sizeOf f.2 < sizeOf f := by
      obtain ⟨name, v⟩ := f
      simp only [Prod.mk.sizeOf_spec]
      omega
    simp only [Json.object.sizeOf_spec]
    omega

/-- The characters that a style spells have a property, as do the visible ASCII characters and the
space. -/
structure Style.Spells (style : Style) (p : Char → Prop) : Prop where
  null : ∀ c ∈ style.null, p c
  yes : ∀ c ∈ style.yes, p c
  no : ∀ c ∈ style.no, p c
  text : ∀ cs, ∀ c ∈ style.text cs, p c
  visible : ∀ c : Char, 0x20 ≤ c.toNat ∧ c.toNat < 0x7F → p c

variable {style : Style} {p : Char → Prop}

theorem Style.Spells.digit (h : style.Spells p) {c : Char} (hc : c.isDigit = true) : p c := by
  simp only [Char.isDigit, Bool.and_eq_true, decide_eq_true_eq] at hc
  have hlo : 48 ≤ c.toNat := hc.1
  have hhi : c.toNat ≤ 57 := hc.2
  exact h.visible c (by omega)

theorem Style.Spells.digits (h : style.Spells p) (n : Nat) : ∀ c ∈ Nat.toDigits 10 n, p c :=
  fun _ hc => h.digit (Text.isDigit_of_mem_toDigits hc)

/-- An integer is written with digits and perhaps a minus sign. -/
theorem Style.Spells.int (h : style.Spells p) (n : Int) : ∀ c ∈ writeInt n, p c := by
  cases n with
  | ofNat k => exact h.digits k
  | negSucc k => exact List.forall_mem_cons.2 ⟨h.visible '-' (by decide), h.digits (k + 1)⟩

/-- The exponent of a numeral has a letter, a sign and digits. -/
theorem Style.Spells.exponent (h : style.Spells p) (e : Option Int) :
    ∀ c ∈ Numeral.exponentChars e, p c := by
  cases e with
  | none => exact List.forall_mem_nil _
  | some e =>
    simp only [Numeral.exponentChars, List.forall_mem_cons]
    refine ⟨h.visible 'e' (by decide), ?_, ?_⟩
    · split
      · exact h.visible '-' (by decide)
      · exact h.visible '+' (by decide)
    · split
      · exact List.forall_mem_cons.2 ⟨h.visible '0' (by decide), h.digits _⟩
      · exact h.digits _

theorem Style.Spells.numeral (h : style.Spells p) {n : Numeral} (hn : n.Valid) :
    ∀ c ∈ n.chars, p c := by
  simp only [Numeral.chars, List.forall_mem_append]
  refine ⟨⟨fun c hc => h.digit (hn.whole c hc), ?_⟩, h.exponent n.exponent⟩
  unfold Numeral.fractionChars
  split
  · exact List.forall_mem_nil _
  · exact List.forall_mem_cons.2
      ⟨h.visible '.' (by decide), fun c hc => h.digit (hn.fraction c hc)⟩

/-- A binary number is written as a numeral, perhaps after a minus sign. -/
theorem Style.Spells.float (h : style.Spells p) (x : Double) : ∀ c ∈ x.chars, p c := by
  have hnumeral := h.numeral x.valid_numeral.1
  unfold Double.chars
  split
  · exact List.forall_mem_cons.2 ⟨h.visible '-' (by decide), hnumeral⟩
  · exact hnumeral

theorem forall_mem_writeItems (h : style.Spells p) {items : List Json}
    (hitems : ∀ v ∈ items, ∀ c ∈ writeChars style v, p c) : ∀ c ∈ writeItems style items, p c := by
  induction items with
  | nil => exact List.forall_mem_nil _
  | cons v rest ih =>
    rw [List.forall_mem_cons] at hitems
    simp only [writeItems, List.cons_append, List.forall_mem_cons, List.forall_mem_append]
    exact ⟨h.visible ',' (by decide), h.visible ' ' (by decide), hitems.1, ih hitems.2⟩

theorem forall_mem_writeField (h : style.Spells p) {f : String × Json}
    (hf : ∀ c ∈ writeChars style f.2, p c) : ∀ c ∈ writeField style f, p c := by
  obtain ⟨name, v⟩ := f
  simp only [writeField, List.forall_mem_cons, List.forall_mem_append]
  exact ⟨h.text name.toList, h.visible ':' (by decide), h.visible ' ' (by decide), hf⟩

theorem forall_mem_writeFields (h : style.Spells p) {fields : List (String × Json)}
    (hfields : ∀ f ∈ fields, ∀ c ∈ writeChars style f.2, p c) :
    ∀ c ∈ writeFields style fields, p c := by
  induction fields with
  | nil => exact List.forall_mem_nil _
  | cons f rest ih =>
    rw [List.forall_mem_cons] at hfields
    simp only [writeFields, List.cons_append, List.forall_mem_cons, List.forall_mem_append]
    exact ⟨h.visible ',' (by decide), h.visible ' ' (by decide), forall_mem_writeField h hfields.1,
      ih hfields.2⟩

/-- What a style spells and the visible ASCII characters make up all that is written. -/
theorem forall_mem_writeChars (h : style.Spells p) (v : Json) :
    ∀ c ∈ writeChars style v, p c := by
  induction v using induction_parts with
  | null => exact h.null
  | bool b =>
    cases b with
    | false => exact h.no
    | true => exact h.yes
  | int n => exact h.int n
  | float x => exact h.float x
  | string s => exact h.text s.toList
  | array items hitems =>
    cases items with
    | nil =>
      simp only [writeChars, List.forall_mem_cons]
      exact ⟨h.visible '[' (by decide), h.visible ']' (by decide), List.forall_mem_nil _⟩
    | cons v rest =>
      rw [List.forall_mem_cons] at hitems
      simp only [writeChars, List.cons_append, List.forall_mem_cons, List.forall_mem_append]
      exact ⟨h.visible '[' (by decide), ⟨hitems.1, forall_mem_writeItems h hitems.2⟩,
        h.visible ']' (by decide), List.forall_mem_nil _⟩
  | object fields hfields =>
    cases fields with
    | nil =>
      simp only [writeChars, List.forall_mem_cons]
      exact ⟨h.visible '{' (by decide), h.visible '}' (by decide), List.forall_mem_nil _⟩
    | cons f rest =>
      rw [List.forall_mem_cons] at hfields
      simp only [writeChars, List.cons_append, List.forall_mem_cons, List.forall_mem_append]
      exact ⟨h.visible '{' (by decide),
        ⟨forall_mem_writeField h hfields.1, forall_mem_writeFields h hfields.2⟩,
        h.visible '}' (by decide), List.forall_mem_nil _⟩

/-- The style of the JSON data format spells no control character below U+0020. -/
theorem standard_spells : standard.Spells fun c => 0x20 ≤ c.toNat where
  null := by simp [standard]
  yes := by simp [standard]
  no := by simp [standard]
  text := by
    intro cs
    have hescaped : ∀ c ∈ cs.flatMap escape, 0x20 ≤ c.toNat := by
      intro c hc
      obtain ⟨d, -, hd⟩ := List.mem_flatMap.1 hc
      exact ne_control_of_mem_escape hd
    simp only [standard, writeText, List.cons_append, List.forall_mem_cons, List.forall_mem_append]
    exact ⟨by decide, hescaped, by decide, List.forall_mem_nil _⟩
  visible := fun _ hrange => hrange.1

/-- A written value is one line: it holds no control character. -/
theorem ne_control_of_mem_write (v : Json) {c : Char} (hc : c ∈ v.write.toList) :
    0x20 ≤ c.toNat := by
  rw [write, String.toList_ofList] at hc
  exact forall_mem_writeChars standard_spells v c hc

/-- Within the limit a value is written. -/
theorem dump_of_short {limit : Option Nat} {v : Json} (h : ∀ max ∈ limit, v.Short max) :
    v.dump limit = .ok v.write := by
  cases limit with
  | none => rfl
  | some max => exact if_pos (h max rfl)

/-- One integer beyond the limit is enough for a value not to be written. -/
theorem dump_of_not_short {max : Nat} {v : Json} (h : ¬ v.Short max) :
    v.dump (some max) = .error ⟨max⟩ :=
  if_neg h

end Json

end MediaTypes
