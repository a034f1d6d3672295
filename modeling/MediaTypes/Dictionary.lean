/-!
# Dictionaries

A dictionary gives at most one value to a key and keeps its keys in the order in which they were
first inserted. Inserting under a key that is present replaces the value and leaves the key where
it stands.

## Main definitions

- `Dictionary` — a list of entries without a repeated key
- `Dictionary.get?`, `Dictionary.insert`, `Dictionary.erase`, `Dictionary.ofList`

## Main statements

- `get?_insert` — a look-up sees the latest value inserted under its key
- `get?_erase` — an erased key has no value
- `get?_ofList` — the last of several entries with one key counts
-/

namespace MediaTypes

/-- Entries without a repeated key, in order of first insertion. -/
structure Dictionary (κ α : Type) where
  /-- The entries, in order of first insertion. -/
  entries : List (κ × α)
  /-- No key stands in two entries. -/
  nodup_keys : (entries.map Prod.fst).Nodup

namespace Dictionary

variable {κ α : Type}

def empty : Dictionary κ α :=
  ⟨[], List.nodup_nil⟩

instance : Inhabited (Dictionary κ α) := ⟨empty⟩

/-- The keys, in order of first insertion. -/
def keys (d : Dictionary κ α) : List κ :=
  d.entries.map Prod.fst

def size (d : Dictionary κ α) : Nat :=
  d.entries.length

variable [DecidableEq κ]

/-- The value of the first entry with the key. -/
def find? (k : κ) : List (κ × α) → Option α
  | [] => none
  | e :: rest => if e.1 = k then some e.2 else find? k rest

/-- The entries with the key's value replaced, or with a new entry at the end. -/
def put (k : κ) (a : α) : List (κ × α) → List (κ × α)
  | [] => [(k, a)]
  | e :: rest => if e.1 = k then (k, a) :: rest else e :: put k a rest

def get? (d : Dictionary κ α) (k : κ) : Option α :=
  find? k d.entries

def contains (d : Dictionary κ α) (k : κ) : Bool :=
  (d.get? k).isSome

theorem map_fst_put (k : κ) (a : α) (es : List (κ × α)) :
    (put k a es).map Prod.fst =
      if k ∈ es.map Prod.fst then es.map Prod.fst else es.map Prod.fst ++ [k] := by
  induction es with
  | nil => simp [put]
  | cons e rest ih =>
    by_cases h : e.1 = k
    · simp [put, h]
    · have h' : k ≠ e.1 := fun hk => h hk.symm
      simp only [put, h, if_false, List.map_cons, ih, List.mem_cons, h', false_or,
        List.cons_append]
      split <;> rfl

theorem nodup_put {k : κ} {a : α} {es : List (κ × α)} (h : (es.map Prod.fst).Nodup) :
    ((put k a es).map Prod.fst).Nodup := by
  rw [map_fst_put]
  split
  · exact h
  · rename_i hk
    rw [List.nodup_append]
    refine ⟨h, by simp, ?_⟩
    intro x hx y hy
    rw [List.mem_singleton] at hy
    subst hy
    rintro rfl
    exact hk hx

theorem find?_put (k k' : κ) (a : α) (es : List (κ × α)) :
    find? k' (put k a es) = if k = k' then some a else find? k' es := by
  induction es with
  | nil => simp [put, find?]
  | cons e rest ih =>
    by_cases h : e.1 = k
    · by_cases hk : k = k'
      · simp [put, find?, h, hk]
      · simp [put, find?, h, hk]
    · by_cases hk : k = k'
      · subst hk
        simp [put, find?, h, ih]
      · simp [put, find?, h, hk, ih]

/-- Gives the key a value; a key that is present keeps its place. -/
def insert (d : Dictionary κ α) (k : κ) (a : α) : Dictionary κ α :=
  ⟨put k a d.entries, nodup_put d.nodup_keys⟩

def erase (d : Dictionary κ α) (k : κ) : Dictionary κ α :=
  ⟨d.entries.filter fun e => !decide (e.1 = k),
    d.nodup_keys.sublist (List.Sublist.map _ List.filter_sublist)⟩

/-- The dictionary of a list of entries, inserted one after the other. -/
def ofList (es : List (κ × α)) : Dictionary κ α :=
  es.foldl (fun d e => d.insert e.1 e.2) empty

@[simp] theorem get?_empty (k : κ) : (empty : Dictionary κ α).get? k = none := rfl

/-- A look-up sees the latest value inserted under its key. -/
theorem get?_insert (d : Dictionary κ α) (k k' : κ) (a : α) :
    (d.insert k a).get? k' = if k = k' then some a else d.get? k' :=
  find?_put k k' a d.entries

/-- An erased key has no value, and every other key keeps its own. -/
theorem get?_erase (d : Dictionary κ α) (k k' : κ) :
    (d.erase k).get? k' = if k = k' then none else d.get? k' := by
  unfold erase get?
  simp only
  generalize d.entries = es
  induction es with
  | nil => simp [find?]
  | cons e rest ih =>
    by_cases h : e.1 = k <;> by_cases hk : k = k' <;> simp_all [find?]

/-- The last of several entries with one key counts. -/
theorem get?_ofList (es : List (κ × α)) (k : κ) :
    (ofList es).get? k = find? k es.reverse := by
  suffices h : ∀ d : Dictionary κ α,
      (es.foldl (fun d e => d.insert e.1 e.2) d).get? k =
        (find? k es.reverse).or (d.get? k) by
    simpa [ofList] using h empty
  induction es with
  | nil => simp [find?]
  | cons e rest ih =>
    intro d
    rw [List.foldl_cons, ih, get?_insert, List.reverse_cons]
    have happ : ∀ xs : List (κ × α),
        find? k (xs ++ [e]) = (find? k xs).or (if e.1 = k then some e.2 else none) := by
      intro xs
      induction xs with
      | nil => simp [find?]
      | cons x xs ihx =>
        by_cases hx : x.1 = k
        · simp [find?, hx]
        · simp [find?, hx, ihx]
    rw [happ]
    by_cases he : e.1 = k <;> simp [he]

end Dictionary

end MediaTypes
