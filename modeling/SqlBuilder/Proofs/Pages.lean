import SqlBuilder.Proofs.Bundled
import SqlBuilder.Statement.Select
import Mathlib.Order.Lattice

/-!
# Pages

Pages are given by number and size, and a query has words of 64 bits for where a page begins and how
long it is.  The first row of a late page may need more, and is then taken to be the last number
there is (`Select.Paged`).  Such a page begins behind every row of a smaller number, and the others
begin where division by the size says, so each row is on the page of its quotient and on no other
(`Select.covers_paginate_iff`): the pages tile the rows (`Select.pages_tile`).
-/

namespace SqlBuilder

/-- The query lets the row through, counted from 0, as far as its limits go.  Where a window ends is
not bounded by what a word can hold. -/
def Query.Covers (q : Query) (row : Nat) : Prop :=
  (q.offset.getD 0).toNat ≤ row ∧ ∀ n ∈ q.limit, row < (q.offset.getD 0).toNat + n.toNat

instance (q : Query) (row : Nat) : Decidable (q.Covers row) :=
  inferInstanceAs (Decidable (_ ∧ ∀ n ∈ q.limit, _))

namespace Select

theorem toNat_saturatingMul (m n : UInt64) :
    (saturatingMul m n).toNat = min (m.toNat * n.toNat) (UInt64.size - 1) := by
  refine UInt64.toNat_ofNat_of_lt' (Nat.lt_of_le_of_lt (Nat.min_le_right _ _) ?_)
  decide

theorem toNat_clamp (n : UInt64) : (max n 1).toNat = max n.toNat 1 := by
  rw [UInt64.toNat_max, UInt64.toNat_one]

/-- Nothing is lost under 0, because pages are counted from 1. -/
theorem toNat_clamp_sub_one (n : UInt64) : (max n 1 - 1).toNat = max n.toNat 1 - 1 := by
  have hle : 1 ≤ max n 1 := by
    rw [UInt64.le_iff_toNat_le, toNat_clamp]
    exact Nat.le_max_right _ _
  rw [UInt64.toNat_sub_of_le _ _ hle, toNat_clamp, UInt64.toNat_one]

/-! ## One page -/

/-- The query of a page: its size and its first row as numbers, the words for them in every bundled
dialect, and everything else as it was. -/
structure Paged (page perPage : UInt64) (before after : Select) : Prop where
  limit : ∃ n, after.query.limit = some n ∧ n.toNat = max perPage.toNat 1
  offset : ∃ n, after.query.offset = some n ∧
    n.toNat = min ((max page.toNat 1 - 1) * max perPage.toNat 1) (UInt64.size - 1)
  text : ∀ b : Bundled, b.dialect.limits after.query.limit after.query.offset =
    " LIMIT " ++ toString (max perPage.toNat 1) ++ " OFFSET " ++
      toString (min ((max page.toNat 1 - 1) * max perPage.toNat 1) (UInt64.size - 1))
  rest : after = { before with
    query := { before.query with limit := after.query.limit, offset := after.query.offset } }

theorem toNat_offset (page perPage : UInt64) :
    (saturatingMul (max page 1 - 1) (max perPage 1)).toNat =
      min ((max page.toNat 1 - 1) * max perPage.toNat 1) (UInt64.size - 1) := by
  rw [toNat_saturatingMul, toNat_clamp_sub_one, toNat_clamp]

theorem paged_paginate (s : Select) (page perPage : UInt64) :
    Paged page perPage s (s.call (.paginate page perPage)) where
  limit := ⟨_, rfl, toNat_clamp perPage⟩
  offset := ⟨_, rfl, toNat_offset page perPage⟩
  text := by
    intro b
    rw [← toNat_offset, ← toNat_clamp]
    cases b <;> exact (String.append_assoc ..).symm
  rest := rfl

/-! ## All pages -/

theorem covers_paginate (s : Select) (page perPage : UInt64) (row : Nat) :
    (s.call (.paginate page perPage)).query.Covers row ↔
      let size := max perPage.toNat 1
      let first := min ((max page.toNat 1 - 1) * size) (UInt64.size - 1)
      first ≤ row ∧ row < first + size := by
  obtain ⟨⟨size, hsize, hsizeNat⟩, ⟨first, hfirst, hfirstNat⟩, -, -⟩ :=
    paged_paginate s page perPage
  rw [Query.Covers, hsize, hfirst, Option.getD_some, hfirstNat]
  simp only [Option.mem_some_iff, forall_eq', hsizeNat]

/-- A row is on one page: the quotient by the size, counted from 1.  Pages too far behind for a word
to say where they begin have no row before the last number. -/
theorem covers_paginate_iff (s : Select) {page : UInt64} (hpage : 1 ≤ page) (perPage : UInt64)
    {row : Nat} (hrow : row < UInt64.size - 1) :
    (s.call (.paginate page perPage)).query.Covers row ↔
      page.toNat = row / max perPage.toNat 1 + 1 := by
  have hpos : 1 ≤ page.toNat := UInt64.le_iff_toNat_le.1 hpage
  obtain ⟨k, hk⟩ : ∃ k, page.toNat = k + 1 := ⟨page.toNat - 1, (Nat.sub_add_cancel hpos).symm⟩
  have hsize : 0 < max perPage.toNat 1 := Nat.lt_of_lt_of_le Nat.one_pos (Nat.le_max_right _ _)
  rw [covers_paginate, hk, Nat.max_eq_left (Nat.le_add_left 1 k), Nat.add_sub_cancel,
    Nat.add_right_cancel_iff, eq_comm, Nat.div_eq_iff hsize]
  dsimp only
  generalize max perPage.toNat 1 = size at hsize ⊢
  generalize k * size = first
  omega

/-- **The pages tile the rows.**  Whatever the size, every page has that many rows from the one that
its number says, as far as a word can say it; and every row before the last number is on exactly one
page. -/
theorem pages_tile (perPage : UInt64) :
    (∀ (s : Select) (page : UInt64), Paged page perPage s (s.call (.paginate page perPage))) ∧
    ∀ (s : Select) (row : Fin (UInt64.size - 1)), ∃! page : UInt64,
      1 ≤ page ∧ (s.call (.paginate page perPage)).query.Covers row := by
  refine ⟨fun s page => paged_paginate s page perPage, fun s row => ?_⟩
  -- the number of a row is large enough for the number of its page
  have hnumber : row / max perPage.toNat 1 + 1 < UInt64.size := by
    have hquotient := Nat.div_le_self row (max perPage.toNat 1)
    have hrow := row.isLt
    omega
  have hword := UInt64.toNat_ofNat_of_lt' hnumber
  have hpage : 1 ≤ UInt64.ofNat (row / max perPage.toNat 1 + 1) := by
    rw [UInt64.le_iff_toNat_le, hword]
    exact Nat.le_add_left 1 _
  refine ⟨_, ⟨hpage, (covers_paginate_iff s hpage perPage row.isLt).2 hword⟩, ?_⟩
  rintro page ⟨hone, hcovers⟩
  rw [← UInt64.toNat_inj, hword]
  exact (covers_paginate_iff s hone perPage row.isLt).1 hcovers

/-- The last number itself is no such row: it is where all pages begin that are too far behind. -/
example (s : Select) :
    (s.call (.paginate 3 0x8000000000000000)).query.Covers (UInt64.size - 1) ∧
    (s.call (.paginate 4 0x8000000000000000)).query.Covers (UInt64.size - 1) := by
  rw [covers_paginate, covers_paginate]
  decide +kernel

end Select

end SqlBuilder
