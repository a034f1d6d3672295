/-!
# Character tables

A property of characters is tabulated as a list of closed ranges of code points, in increasing
order. The tables of this folder follow version 14 of the Unicode character database.

## Main definitions

- `Text.inRanges` — membership of a character in such a table
-/

namespace MediaTypes

namespace Text

/-- A character lies in one of the closed ranges of code points. -/
def inRanges (ranges : List (Nat × Nat)) (c : Char) : Bool :=
  ranges.any fun r => r.1 ≤ c.toNat && c.toNat ≤ r.2

theorem inRanges_iff {ranges : List (Nat × Nat)} {c : Char} :
    inRanges ranges c = true ↔ ∃ r ∈ ranges, r.1 ≤ c.toNat ∧ c.toNat ≤ r.2 := by
  simp [inRanges]

end Text

end MediaTypes
