import MediaTypes.Log.Record
import MediaTypes.Proofs.Json.Writer
import MediaTypes.Proofs.Text.Quoted

/-!
# The texts of traces

The text of a trace is printable, whatever texts it holds, so it is one line. And it tells what it
was made for: two lookups that differ in the source, the extension, the type, the pattern or the
count leave different texts, even if one imitates the other.

## Main statements

- `isPrintable_text` — a trace with a printable label has a printable text
- `text_hitTrace_inj`, `text_reverseTrace_inj`, `text_hitTrace_ne_reverseTrace`
- `trace_texts_faithful` — the texts of the records of lookups
-/

namespace MediaTypes

namespace Log

open Text (isPrintable quoteChars)

theorem inlineStyle_spells : inlineStyle.Spells fun c => isPrintable c = true where
  null := List.all_eq_true.1 (by decide)
  yes := List.all_eq_true.1 (by decide)
  no := List.all_eq_true.1 (by decide)
  text := Text.isPrintable_of_mem_quoteChars
  visible := fun _ => Text.isPrintable_of_visible

/-- A trace with a printable label has a printable text. -/
theorem Trace.isPrintable_text {t : Trace} (h : ∀ c ∈ t.label.toList, isPrintable c = true) :
    ∀ c ∈ t.text.toList, isPrintable c = true := by
  obtain ⟨label, context⟩ := t
  cases context with
  | nil => exact h
  | cons field fields =>
    have hcontext := Json.forall_mem_writeChars inlineStyle_spells (.object (field :: fields))
    simp only [text, String.toList_append, String.toList_ofList, List.forall_mem_append]
    exact ⟨⟨h, List.all_eq_true.1 (by decide)⟩, hcontext⟩

theorem Source.isPrintable_label (source : Source) :
    ∀ c ∈ source.label.toList, isPrintable c = true := by
  cases source <;> exact List.all_eq_true.1 (by decide)

/-- A label is told by the beginning of a text. -/
theorem Source.label_append_inj {source source' : Source} {x y : List Char}
    (h : source.label.toList ++ x = source'.label.toList ++ y) : source = source' ∧ x = y := by
  cases source <;> cases source' <;> simp [Source.label] at h ⊢
  all_goals exact h

theorem toList_text_hitTrace (source : Source) (extension mediaType : String) :
    (hitTrace source extension mediaType).text.toList =
      source.label.toList ++ (" | ctx=\x7b'ext': ".toList ++ (quoteChars extension.toList ++
        (", 'mime': ".toList ++ (quoteChars mediaType.toList ++ ['}'])))) := by
  have hext : quoteChars ['e', 'x', 't'] = ['\'', 'e', 'x', 't', '\''] := by decide
  have hmime : quoteChars ['m', 'i', 'm', 'e'] = ['\'', 'm', 'i', 'm', 'e', '\''] := by decide
  simp [hitTrace, Trace.text, Json.writeChars, Json.writeField, Json.writeFields, inlineStyle, hext,
    hmime]

theorem toList_text_reverseTrace (pattern : String) (count : Nat) :
    (reverseTrace pattern count).text.toList =
      "reverse lookup | ctx=\x7b'pattern': ".toList ++ (quoteChars pattern.toList ++
        (", 'count': ".toList ++ (Nat.toDigits 10 count ++ ['}']))) := by
  have hpattern : quoteChars ['p', 'a', 't', 't', 'e', 'r', 'n'] =
      ['\'', 'p', 'a', 't', 't', 'e', 'r', 'n', '\''] := by decide
  have hcount : quoteChars ['c', 'o', 'u', 'n', 't'] =
      ['\'', 'c', 'o', 'u', 'n', 't', '\''] := by decide
  simp [reverseTrace, Trace.text, Json.writeChars, Json.writeField, Json.writeFields, inlineStyle,
    hpattern, hcount, Json.writeInt]

/-- A hit is told by its text. -/
theorem text_hitTrace_inj {source source' : Source}
    {extension extension' mediaType mediaType' : String}
    (h : (hitTrace source extension mediaType).text =
      (hitTrace source' extension' mediaType').text) :
    source = source' ∧ extension = extension' ∧ mediaType = mediaType' := by
  have hchars := congrArg String.toList h
  rw [toList_text_hitTrace, toList_text_hitTrace] at hchars
  obtain ⟨rfl, hcontext⟩ := Source.label_append_inj hchars
  rw [List.append_cancel_left_eq, Text.quoteChars_append_inj] at hcontext
  obtain ⟨hextension, hcontext⟩ := hcontext
  rw [List.append_cancel_left_eq, Text.quoteChars_append_inj] at hcontext
  exact ⟨rfl, String.toList_inj.1 hextension, String.toList_inj.1 hcontext.1⟩

/-- A reverse lookup is told by its text. -/
theorem text_reverseTrace_inj {pattern pattern' : String} {count count' : Nat}
    (h : (reverseTrace pattern count).text = (reverseTrace pattern' count').text) :
    pattern = pattern' ∧ count = count' := by
  have hchars := congrArg String.toList h
  rw [toList_text_reverseTrace, toList_text_reverseTrace, List.append_cancel_left_eq,
    Text.quoteChars_append_inj] at hchars
  obtain ⟨hpattern, hcontext⟩ := hchars
  rw [List.append_cancel_left_eq, List.append_cancel_right_eq] at hcontext
  have hcount := congrArg (Nat.ofDigitChars 10 · 0) hcontext
  simp only [Nat.ofDigitChars_ten_toDigits] at hcount
  exact ⟨String.toList_inj.1 hpattern, hcount⟩

theorem text_hitTrace_ne_reverseTrace (source : Source) (extension mediaType pattern : String)
    (count : Nat) :
    (hitTrace source extension mediaType).text ≠ (reverseTrace pattern count).text := by
  intro h
  have hchars := congrArg String.toList h
  rw [toList_text_hitTrace, toList_text_reverseTrace] at hchars
  cases source <;> simp [Source.label] at hchars

theorem isPrintable_text_of_trace? {e : Event} {t : Trace} (h : e.trace? = some t) :
    ∀ c ∈ t.text.toList, isPrintable c = true := by
  apply Trace.isPrintable_text
  cases e with
  | hit source extension mediaType =>
    obtain rfl := Option.some.inj h
    exact source.isPrintable_label
  | reverseLookup pattern count =>
    obtain rfl := Option.some.inj h
    show ∀ c ∈ "reverse lookup".toList, isPrintable c = true
    exact List.all_eq_true.1 (by decide)
  | _ => cases h

theorem message_of_trace? {e : Event} {t : Trace} (h : e.trace? = some t) : e.message = t.text := by
  cases e with
  | hit source extension mediaType =>
    obtain rfl := Option.some.inj h
    rfl
  | reverseLookup pattern count =>
    obtain rfl := Option.some.inj h
    rfl
  | _ => cases h

/-- **Lookup traces cannot be forged.** The text of the record of a hit or of a reverse lookup is
one line without control characters, whatever the extension, the pattern and the type are; and two
such records of one text report the same: the same source, extension and type, or the same pattern
and count. -/
theorem trace_texts_faithful {e e' : Event} (h : e.trace? ≠ none) (h' : e'.trace? ≠ none)
    (logger logger' : String) :
    Text.OneLine (Record.ofEvent logger e).message ∧
      ((Record.ofEvent logger e).message = (Record.ofEvent logger' e').message → e = e') := by
  obtain ⟨t, ht⟩ := Option.ne_none_iff_exists'.1 h
  constructor
  · apply Text.oneLine_of_isPrintable
    rw [Record.ofEvent, message_of_trace? ht]
    exact isPrintable_text_of_trace? ht
  · intro heq
    cases e with
    | hit source extension mediaType =>
      cases e' with
      | hit source' extension' mediaType' =>
        obtain ⟨rfl, rfl, rfl⟩ := text_hitTrace_inj heq
        rfl
      | reverseLookup pattern count =>
        exact absurd heq (text_hitTrace_ne_reverseTrace _ _ _ _ _)
      | _ => exact absurd rfl h'
    | reverseLookup pattern count =>
      cases e' with
      | hit source extension mediaType =>
        exact absurd heq.symm (text_hitTrace_ne_reverseTrace _ _ _ _ _)
      | reverseLookup pattern' count' =>
        obtain ⟨rfl, rfl⟩ := text_reverseTrace_inj heq
        rfl
      | _ => exact absurd rfl h'
    | _ => exact absurd rfl h

/-- An extension that holds a line break, quotes and a backslash, and imitates the rest of a trace;
and a hit with the imitated values. -/
theorem trace_texts_faithful_imitated :
    Text.OneLine (Record.ofEvent "netmime"
      (.hit .primary "a', 'mime': \"b\\\nDEBUG: platform hit" "c")).message ∧
    (Record.ofEvent "netmime" (.hit .primary "a', 'mime': 'b" "c")).message ≠
      (Record.ofEvent "netmime" (.hit .primary "a" "b', 'mime': 'c")).message := by
  have htrace : ∀ extension mediaType,
      (Event.hit .primary extension mediaType).trace? ≠ none := fun _ _ => Option.some_ne_none _
  obtain ⟨hline, -⟩ := trace_texts_faithful
    (htrace "a', 'mime': \"b\\\nDEBUG: platform hit" "c") (htrace "" "") "netmime" "netmime"
  obtain ⟨-, htold⟩ := trace_texts_faithful
    (htrace "a', 'mime': 'b" "c") (htrace "a" "b', 'mime': 'c") "netmime" "netmime"
  refine ⟨hline, fun heq => ?_⟩
  exact absurd (htold heq) (by decide)

end Log

end MediaTypes
