import MediaTypes.Platform.Database

/-!
# The invariant of type maps

Both directions of a type map are written at every registration, and they are read separately. What
keeps them together is that each is determined by the history of registrations: the forward
direction by the last registration of every extension, the inverse one by the first registration of
every pair. A registration extends the history by itself.

## Main definitions

- `LastRegistered`, `FirstRegistered` — the registrations that count
- `registeredFor` — the extensions of a type, in order of first registration
- `Records` — a map knows a history

## Main statements

- `Records.register`, `Records.registerAll` — one registration and many keep the invariant
- `find?_eq_some_iff_firstRegistered` — the first extension of a type
-/

namespace MediaTypes

namespace TypeMap

variable {m : TypeMap} {history : List Registration} {mediaType extension e : String}

/-- The last registration of an extension is for this type. -/
def LastRegistered (history : List Registration) (extension mediaType : String) : Prop :=
  ∃ before after, history = before ++ ⟨mediaType, extension⟩ :: after ∧
    ∀ r ∈ after, r.extension ≠ extension

/-- The first registration for a type is of this extension. -/
def FirstRegistered (history : List Registration) (mediaType extension : String) : Prop :=
  ∃ before after, history = before ++ ⟨mediaType, extension⟩ :: after ∧
    ∀ r ∈ before, r.mediaType ≠ mediaType

/-- The extensions ever registered for a type, in order of first registration. -/
def registeredFor (history : List Registration) (mediaType : String) : List String :=
  ((history.filter fun r => r.mediaType = mediaType).map (·.extension)).eraseDups

/-- A map knows a history of registrations, in both directions. -/
structure Records (m : TypeMap) (history : List Registration) : Prop where
  /-- The type of an extension is that of its last registration. -/
  forward : ∀ extension mediaType, m.forward.get? extension = some mediaType ↔
    LastRegistered history extension mediaType
  /-- The extensions of a type are those ever registered for it, in order of first
  registration. -/
  inverse : ∀ mediaType, m.extensionsOf mediaType = registeredFor history mediaType
  /-- No extension of a type is repeated. -/
  distinct : ∀ mediaType, (m.extensionsOf mediaType).Nodup
  /-- The type of an extension has the extension. -/
  consistent : ∀ extension mediaType, m.forward.get? extension = some mediaType →
    extension ∈ m.extensionsOf mediaType

/-- A further registration is the last one of its extension, and of no other. -/
theorem lastRegistered_concat {r : Registration} :
    LastRegistered (history ++ [r]) extension mediaType ↔
      r = ⟨mediaType, extension⟩ ∨
        r.extension ≠ extension ∧ LastRegistered history extension mediaType := by
  constructor
  · rintro ⟨before, after, heq, hafter⟩
    -- the new registration is the one that counts, or the last of those that follow it
    rcases List.eq_nil_or_concat after with rfl | ⟨after, last, rfl⟩
    · exact .inl (List.cons.inj (List.append_inj' heq rfl).2).1
    · rw [List.concat_eq_append, ← List.cons_append, ← List.append_assoc] at heq
      obtain ⟨rfl, hlast⟩ := List.append_inj' heq rfl
      obtain rfl : r = last := (List.cons.inj hlast).1
      rw [List.concat_eq_append, List.forall_mem_append, List.forall_mem_singleton] at hafter
      exact .inr ⟨hafter.2, before, after, rfl, hafter.1⟩
  · rintro (rfl | ⟨hne, before, after, rfl, hafter⟩)
    · exact ⟨history, [], rfl, List.forall_mem_nil _⟩
    · refine ⟨before, after ++ [r], by simp, ?_⟩
      rw [List.forall_mem_append, List.forall_mem_singleton]
      exact ⟨hafter, hne⟩

theorem head?_eraseDups (extensions : List String) :
    extensions.eraseDups.head? = extensions.head? := by
  cases extensions with
  | nil => rfl
  | cons extension rest => rw [List.eraseDups_cons, List.head?_cons, List.head?_cons]

theorem eraseDups_concat (extensions : List String) (extension : String) :
    (extensions ++ [extension]).eraseDups = appendNew extensions.eraseDups extension := by
  rw [List.eraseDups_append, appendNew]
  by_cases h : extension ∈ extensions
  · simp [h, List.removeAll]
  · simp [h, List.removeAll, List.eraseDups_cons]

/-- A further registration adds its extension to those of its type. -/
theorem registeredFor_concat (history : List Registration) (r : Registration)
    (mediaType : String) :
    registeredFor (history ++ [r]) mediaType =
      if r.mediaType = mediaType then appendNew (registeredFor history mediaType) r.extension
      else registeredFor history mediaType := by
  by_cases h : r.mediaType = mediaType
  · simp [registeredFor, h, eraseDups_concat]
  · simp [registeredFor, h]

theorem mem_registeredFor : e ∈ registeredFor history mediaType ↔ ⟨mediaType, e⟩ ∈ history := by
  simp only [registeredFor, List.mem_eraseDups, List.mem_map, List.mem_filter, decide_eq_true_eq]
  constructor
  · rintro ⟨r, ⟨hr, rfl⟩, rfl⟩
    exact hr
  · exact fun h => ⟨_, ⟨h, rfl⟩, rfl⟩

theorem head?_registeredFor (history : List Registration) (mediaType : String) :
    (registeredFor history mediaType).head? =
      (history.find? fun r => r.mediaType = mediaType).map (·.extension) := by
  rw [registeredFor, head?_eraseDups, List.head?_map, List.head?_filter]

theorem find?_eq_some_iff_firstRegistered :
    (history.find? fun r => r.mediaType = mediaType).map (·.extension) = some extension ↔
      FirstRegistered history mediaType extension := by
  rw [Option.map_eq_some_iff]
  simp only [List.find?_eq_some_iff_append, decide_eq_true_eq]
  constructor
  · rintro ⟨r, ⟨rfl, before, after, heq, hbefore⟩, rfl⟩
    exact ⟨before, after, heq, fun q hq => by simpa using hbefore q hq⟩
  · rintro ⟨before, after, heq, hbefore⟩
    exact ⟨_, ⟨rfl, before, after, heq, fun q hq => by simpa using hbefore q hq⟩, rfl⟩

theorem nodup_appendNew {extensions : List String} (h : extensions.Nodup) (extension : String) :
    (appendNew extensions extension).Nodup := by
  rw [appendNew]
  split
  · exact h
  · rename_i hnew
    rw [List.nodup_append]
    refine ⟨h, by simp, ?_⟩
    rintro x hx y hy rfl
    exact hnew (List.mem_singleton.1 hy ▸ hx)

theorem extensionsOf_register (m : TypeMap) (r : Registration) (mediaType : String) :
    (m.register r).extensionsOf mediaType =
      if r.mediaType = mediaType then appendNew (m.extensionsOf mediaType) r.extension
      else m.extensionsOf mediaType := by
  simp only [register, extensionsOf, Dictionary.get?_insert]
  by_cases h : r.mediaType = mediaType
  · simp [h]
  · simp [h]

theorem mem_appendNew {extensions : List String} {extension e : String} :
    e ∈ appendNew extensions extension ↔ e ∈ extensions ∨ e = extension := by
  rw [appendNew]
  by_cases h : extension ∈ extensions
  · rw [if_pos h]
    exact ⟨Or.inl, fun he => he.elim id fun heq => heq ▸ h⟩
  · rw [if_neg h, List.mem_append, List.mem_singleton]

theorem mem_extensionsOf_register {m : TypeMap} {r : Registration} {mediaType e : String} :
    e ∈ (m.register r).extensionsOf mediaType ↔
      e ∈ m.extensionsOf mediaType ∨ r = ⟨mediaType, e⟩ := by
  rw [extensionsOf_register]
  cases r with
  | mk mediaType' extension =>
    by_cases h : mediaType' = mediaType
    · subst h
      simp [mem_appendNew, eq_comm]
    · simp [h]

theorem get?_forward_register (m : TypeMap) (r : Registration) (extension : String) :
    (m.register r).forward.get? extension =
      if r.extension = extension then some r.mediaType else m.forward.get? extension :=
  Dictionary.get?_insert m.forward r.extension extension r.mediaType

theorem Records.empty : TypeMap.empty.Records [] where
  forward extension mediaType := by simp [TypeMap.empty, LastRegistered]
  inverse _ := rfl
  distinct _ := List.nodup_nil
  consistent extension mediaType h := by simp [TypeMap.empty] at h

/-- A registration keeps the invariant and extends the history by itself. -/
theorem Records.register (h : m.Records history) (r : Registration) :
    (m.register r).Records (history ++ [r]) where
  forward extension mediaType := by
    rw [get?_forward_register, lastRegistered_concat, ← h.forward]
    by_cases hr : r.extension = extension
    · subst hr
      cases r
      simp
    · have hne : r ≠ ⟨mediaType, extension⟩ := fun heq => hr (by rw [heq])
      simp [hr, hne]
  inverse mediaType := by
    rw [extensionsOf_register, registeredFor_concat, h.inverse]
  distinct mediaType := by
    rw [extensionsOf_register]
    split
    · exact nodup_appendNew (h.distinct mediaType) r.extension
    · exact h.distinct mediaType
  consistent extension mediaType hforward := by
    -- what the inverse direction holds it never loses
    rw [mem_extensionsOf_register]
    rw [get?_forward_register] at hforward
    split at hforward
    · rename_i hr
      exact .inr (by rw [← hr, ← Option.some.inj hforward])
    · exact .inl (h.consistent extension mediaType hforward)

/-- Registrations keep the invariant and extend the history by themselves. -/
theorem Records.registerAll (h : m.Records history) (rs : List Registration) :
    (m.registerAll rs).Records (history ++ rs) := by
  induction rs generalizing m history with
  | nil => rwa [List.append_nil]
  | cons r rest ih =>
    rw [List.append_cons]
    exact ih (h.register r)

theorem records_registerAll (rs : List Registration) : (empty.registerAll rs).Records rs :=
  Records.empty.registerAll rs

end TypeMap

end MediaTypes
