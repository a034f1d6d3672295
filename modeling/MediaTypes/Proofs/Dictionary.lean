import MediaTypes.Dictionary

/-!
# Look-ups in dictionaries

A dictionary is known by its look-ups. Its entries are the keys together with the values found
under them, and the dictionary of a list of entries finds the last entry of the list under each
key.

## Main statements

- `get?_eq_some_iff`, `get?_eq_none_iff` — the entries are exactly what is found
- `get?_ofList_eq_some_iff` — the last entry of a key is the one that is found
- `get?_ofList_append`, `get?_ofList_of_perm` — later entries override earlier ones, and only then
  does the order of entries matter
- `size_le_of_get?` — a dictionary is no larger than one that finds everything it finds
-/

namespace MediaTypes

namespace Dictionary

variable {κ α : Type} [DecidableEq κ]

theorem find?_eq_map (k : κ) (es : List (κ × α)) :
    find? k es = (es.find? fun e => decide (e.1 = k)).map Prod.snd := by
  induction es with
  | nil => rfl
  | cons e rest ih =>
    by_cases h : e.1 = k
    · simp [find?, h]
    · simp [find?, h, ih]

/-- The first entry of the key is found. -/
theorem find?_eq_some_iff {k : κ} {a : α} {es : List (κ × α)} :
    find? k es = some a ↔
      ∃ before after, es = before ++ (k, a) :: after ∧ ∀ e ∈ before, e.1 ≠ k := by
  rw [find?_eq_map, Option.map_eq_some_iff]
  constructor
  · rintro ⟨e, he, rfl⟩
    obtain ⟨hk, before, after, heq, hbefore⟩ := List.find?_eq_some_iff_append.1 he
    obtain rfl : e.1 = k := by simpa using hk
    exact ⟨before, after, heq, fun x hx => by simpa using hbefore x hx⟩
  · rintro ⟨before, after, heq, hbefore⟩
    refine ⟨(k, a), List.find?_eq_some_iff_append.2 ⟨by simp, before, after, heq, ?_⟩, rfl⟩
    intro x hx
    simpa using hbefore x hx

theorem find?_eq_none_iff {k : κ} {es : List (κ × α)} :
    find? k es = none ↔ ∀ e ∈ es, e.1 ≠ k := by
  rw [find?_eq_map, Option.map_eq_none_iff, List.find?_eq_none]
  simp

/-- The entries of a dictionary are exactly what is found in it: a key stands in one entry
only, so that no other entry can be found in its place. -/
theorem get?_eq_some_iff {d : Dictionary κ α} {k : κ} {a : α} :
    d.get? k = some a ↔ (k, a) ∈ d.entries := by
  constructor
  · intro h
    obtain ⟨before, after, heq, -⟩ := find?_eq_some_iff.1 h
    rw [heq]
    exact List.mem_append_right before List.mem_cons_self
  · intro h
    obtain ⟨before, after, heq⟩ := List.append_of_mem h
    refine find?_eq_some_iff.2 ⟨before, after, heq, ?_⟩
    -- no entry before this one has its key, for the keys are distinct
    have hnodup := d.nodup_keys
    rw [heq, List.map_append, List.nodup_append] at hnodup
    intro e he
    exact hnodup.2.2 e.1 (List.mem_map_of_mem he) k (by simp)

theorem get?_eq_none_iff {d : Dictionary κ α} {k : κ} : d.get? k = none ↔ k ∉ d.keys := by
  rw [get?, find?_eq_none_iff, keys, List.mem_map, not_exists]
  simp only [not_and, ne_eq]

theorem mem_keys_insert {d : Dictionary κ α} {k k' : κ} {a : α} :
    k' ∈ (d.insert k a).keys ↔ k' = k ∨ k' ∈ d.keys := by
  rw [keys, insert, map_fst_put, ← keys]
  by_cases h : k ∈ d.keys
  · rw [if_pos h]
    exact ⟨Or.inr, fun h' => h'.elim (fun heq => heq ▸ h) id⟩
  · rw [if_neg h, List.mem_append, List.mem_singleton, or_comm]

/-- The last entry of the key is the one that is found. -/
theorem get?_ofList_eq_some_iff {es : List (κ × α)} {k : κ} {a : α} :
    (ofList es).get? k = some a ↔
      ∃ before after, es = before ++ (k, a) :: after ∧ ∀ e ∈ after, e.1 ≠ k := by
  rw [get?_ofList, find?_eq_some_iff]
  constructor
  · rintro ⟨after, before, heq, hafter⟩
    refine ⟨before.reverse, after.reverse, ?_, fun e he => hafter e (List.mem_reverse.1 he)⟩
    have := congrArg List.reverse heq
    simpa using this
  · rintro ⟨before, after, rfl, hafter⟩
    exact ⟨after.reverse, before.reverse, by simp, fun e he => hafter e (List.mem_reverse.1 he)⟩

theorem get?_ofList_eq_none_iff {es : List (κ × α)} {k : κ} :
    (ofList es).get? k = none ↔ ∀ e ∈ es, e.1 ≠ k := by
  rw [get?_ofList, find?_eq_none_iff]
  simp only [List.mem_reverse]

theorem find?_append (k : κ) (xs ys : List (κ × α)) :
    find? k (xs ++ ys) = (find? k xs).or (find? k ys) := by
  rw [find?_eq_map, find?_eq_map, find?_eq_map, List.find?_append, Option.map_or]

/-- Entries override those before them. -/
theorem get?_ofList_append (xs ys : List (κ × α)) (k : κ) :
    (ofList (xs ++ ys)).get? k = ((ofList ys).get? k).or ((ofList xs).get? k) := by
  rw [get?_ofList, get?_ofList, get?_ofList, List.reverse_append, find?_append]

/-- Where no key is repeated, every entry is found. -/
theorem get?_ofList_of_nodup {es : List (κ × α)} (h : (es.map Prod.fst).Nodup) {k : κ} {a : α} :
    (ofList es).get? k = some a ↔ (k, a) ∈ es := by
  have hreverse : (es.reverse.map Prod.fst).Nodup := by
    rw [List.map_reverse]
    exact (List.reverse_perm _).nodup_iff.2 h
  rw [get?_ofList, ← List.mem_reverse]
  exact get?_eq_some_iff (d := ⟨es.reverse, hreverse⟩)

/-- Where no key is repeated, the order of the entries does not matter. -/
theorem get?_ofList_of_perm {xs ys : List (κ × α)} (h : xs.Perm ys)
    (hnodup : (xs.map Prod.fst).Nodup) (k : κ) : (ofList xs).get? k = (ofList ys).get? k := by
  have hnodup' := (h.map Prod.fst).nodup_iff.1 hnodup
  apply Option.ext
  intro a
  rw [get?_ofList_of_nodup hnodup, get?_ofList_of_nodup hnodup', h.mem_iff]

/-- A dictionary is no larger than one that finds everything it finds: its keys are distinct, and
all of them are keys of the other one. -/
theorem size_le_of_get? {d d' : Dictionary κ α}
    (h : ∀ k a, d.get? k = some a → d'.get? k = some a) : d.size ≤ d'.size := by
  have hsub : d.keys ⊆ d'.keys := by
    intro k hk
    obtain ⟨e, he, rfl⟩ := List.mem_map.1 hk
    exact List.mem_map_of_mem (get?_eq_some_iff.1 (h e.1 e.2 (get?_eq_some_iff.2 he)))
  have hlen := List.Nodup.length_le_of_subset d.nodup_keys hsub
  simpa [keys, size] using hlen

end Dictionary

end MediaTypes
