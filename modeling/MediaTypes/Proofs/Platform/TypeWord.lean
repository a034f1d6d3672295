import MediaTypes.Proofs.Platform.MimeFile
import MediaTypes.Proofs.Text.Words

/-!
# The types that mime files can register

A mime file registers the first word of a line as a type, unless the word opens a comment. Every
such word is registered by some file.

## Main definitions

- `MimeFile.IsTypeWord` — the texts that can be registered as types
- `MimeFile.lineFile` — a file of one line

## Main statements

- `isTypeWord_of_mem_registered`, `registered_lineFile` — what files register is of that kind, and
  everything of that kind is registered by a file
- `Database.isTypeWord_of_mem_builtin` — the built-in types are of that kind
-/

namespace MediaTypes

namespace MimeFile

/-- A word that opens no comment. -/
structure IsTypeWord (mediaType : String) : Prop where
  isWord : Text.IsWord mediaType.toList
  opens : opensComment mediaType.toList = false

/-- The test is one of characters, so that it can be carried out on a word that is written out. -/
theorem isTypeWord_ofList {cs : List Char}
    (h : (!cs.isEmpty && cs.all (fun c => !Text.isBlank c) && !opensComment cs) = true) :
    IsTypeWord (String.ofList cs) := by
  simp only [Bool.and_eq_true, Bool.not_eq_true', List.all_eq_true, List.isEmpty_eq_false_iff] at h
  obtain ⟨⟨hne, hblank⟩, hopens⟩ := h
  constructor
  · rw [String.toList_ofList]
    exact ⟨hne, hblank⟩
  · rwa [String.toList_ofList]

theorem isTypeWord_of_mem_registrationsOfLine {line : List Char} {r : Registration}
    (h : r ∈ registrationsOfLine line) : IsTypeWord r.mediaType ∧ IsTypeWord r.extension := by
  rw [registrationsOfLine] at h
  split at h
  · cases h
  · rename_i first extensions hwords
    obtain ⟨e, he, rfl⟩ := List.mem_map.1 h
    have hword : ∀ word ∈ first :: extensions, IsTypeWord (String.ofList word) := by
      intro word hword
      rw [← hwords] at hword
      constructor
      · rw [String.toList_ofList]
        exact Text.isWord_of_mem_wordsOfChars ((List.takeWhile_sublist _).subset hword)
      · rw [String.toList_ofList]
        simpa using List.all_eq_true.1 List.all_takeWhile word hword
    exact ⟨hword first List.mem_cons_self, hword e (List.mem_cons_of_mem first he)⟩

/-- What files register, one of their lines registers. -/
theorem exists_line_of_mem_registered {files : FileSystem} {names : List String}
    {r : Registration} (h : r ∈ registered files names) :
    ∃ line, r ∈ registrationsOfLine line := by
  obtain ⟨name, -, hentry⟩ := List.mem_flatMap.1 h
  -- only a file that can be opened and decoded has lines
  cases hfile : files.lookup name with
  | none =>
    rw [hfile] at hentry
    cases hentry
  | some entry =>
    rw [hfile] at hentry
    cases entry with
    | unopenable reason => cases hentry
    | content bytes =>
      rw [registrationsOfEntry] at hentry
      cases htext : String.fromUTF8? bytes with
      | none =>
        rw [htext] at hentry
        cases hentry
      | some text =>
        rw [htext] at hentry
        obtain ⟨line, -, hline⟩ := List.mem_flatMap.1 hentry
        exact ⟨line, hline⟩

theorem isTypeWord_of_mem_registered {files : FileSystem} {names : List String} {r : Registration}
    (h : r ∈ registered files names) : IsTypeWord r.mediaType := by
  obtain ⟨line, hline⟩ := exists_line_of_mem_registered h
  exact (isTypeWord_of_mem_registrationsOfLine hline).1

theorem extension_ne_empty_of_mem_registered {files : FileSystem} {names : List String}
    {r : Registration} (h : r ∈ registered files names) : r.extension ≠ "" := by
  obtain ⟨line, hline⟩ := exists_line_of_mem_registered h
  intro hempty
  apply (isTypeWord_of_mem_registrationsOfLine hline).2.isWord.1
  rw [hempty]
  rfl

/-- The only line registers the extension for the type. -/
def lineFile (mediaType extension : String) : FileSystem :=
  [("mime.types", .content (mediaType ++ " " ++ extension).toByteArray)]

theorem allDecodable_lineFile (mediaType extension : String) :
    AllDecodable (lineFile mediaType extension) ["mime.types"] := by
  intro name hname bytes hbytes
  obtain rfl := List.mem_singleton.1 hname
  obtain rfl := FileEntry.content.inj (Option.some.inj hbytes)
  exact ⟨_, fromUTF8?_toByteArray _⟩

/-- The characters that end lines are blank. -/
theorem isBlank_of_endsLine {c : Char} (h : (c == '\n' || c == '\r') = true) :
    Text.isBlank c = true := by
  rw [Bool.or_eq_true, beq_iff_eq, beq_iff_eq] at h
  rcases h with rfl | rfl <;> rfl

theorem registrations_line {mediaType extension : String} (hm : IsTypeWord mediaType)
    (he : IsTypeWord extension) :
    registrations (mediaType ++ " " ++ extension) = [⟨mediaType, extension⟩] := by
  have hline : (mediaType ++ " " ++ extension).toList =
      mediaType.toList ++ ' ' :: extension.toList := by
    simp
  have hends : ∀ c ∈ mediaType.toList ++ ' ' :: extension.toList,
      (c == '\n' || c == '\r') = false := by
    intro c hc
    rw [← Bool.not_eq_true]
    intro hend
    have hblank := isBlank_of_endsLine hend
    rcases List.mem_append.1 hc with hc | hc
    · exact Bool.false_ne_true ((hm.isWord.2 c hc).symm.trans hblank)
    · rcases List.mem_cons.1 hc with rfl | hc
      · cases hend
      · exact Bool.false_ne_true ((he.isWord.2 c hc).symm.trans hblank)
  have hwords : Text.wordsOfChars (mediaType.toList ++ ' ' :: extension.toList) =
      [mediaType.toList, extension.toList] := by
    rw [Text.wordsOfChars_append_cons rfl, Text.wordsOfChars_of_isWord hm.isWord,
      Text.wordsOfChars_of_isWord he.isWord, List.singleton_append]
  rw [registrations, hline, linesOfChars, List.splitOnP_eq_singleton hends, List.flatMap_singleton,
    registrationsOfLine, hwords, List.takeWhile_cons_of_pos (by simp [hm.opens]),
    List.takeWhile_cons_of_pos (by simp [he.opens])]
  simp

theorem registered_lineFile {mediaType extension : String} (hm : IsTypeWord mediaType)
    (he : IsTypeWord extension) :
    registered (lineFile mediaType extension) ["mime.types"] = [⟨mediaType, extension⟩] := by
  rw [registered, List.flatMap_singleton, lineFile, List.lookup_cons_self, registrationsOfEntry,
    fromUTF8?_toByteArray, Option.map_some, Option.getD_some, registrations_line hm he]

end MimeFile

namespace Database

theorem isTypeWord_of_mem_builtin :
    ∀ r ∈ builtinStrict ++ builtinCommon, MimeFile.IsTypeWord r.mediaType := by
  simp only [builtinStrict, builtinCommon, List.cons_append, List.nil_append, List.forall_mem_cons]
  and_intros
  all_goals first | exact MimeFile.isTypeWord_ofList rfl | exact List.forall_mem_nil _

theorem extension_ne_empty_of_mem_builtin :
    ∀ r ∈ builtinStrict ++ builtinCommon, r.extension ≠ "" := by
  decide +kernel

end Database

end MediaTypes
