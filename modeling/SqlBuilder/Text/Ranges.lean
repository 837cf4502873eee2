/-!
# Ranges of characters

Classes of characters are given by the ranges of their codes, ends included.  A well-kept table
ascends: each range begins after a gap behind the one before it, so no character is listed twice
and no two ranges could be one.
-/

namespace SqlBuilder.Text

/-- The character lies in one of the ranges. -/
def inRanges (ranges : List (Nat × Nat)) (c : Char) : Bool :=
  ranges.any fun (first, last) => first ≤ c.toNat && c.toNat ≤ last

/-- The ranges ascend with gaps between them, the first of them from `least` at the earliest. -/
def ascends (least : Nat) : List (Nat × Nat) → Bool
  | [] => true
  | (first, last) :: rest => least ≤ first && first ≤ last && ascends (last + 2) rest

/-- How many codes the ranges hold together. -/
def codeCount (ranges : List (Nat × Nat)) : Nat :=
  ranges.foldl (fun n (first, last) => n + (last + 1 - first)) 0

end SqlBuilder.Text
