import SqlBuilder.Dialect.Bundled
import SqlBuilder.Proofs.Filling

/-!
# Text of the bundled dialects

The three bundled dialects mark bound values alike.  `Bundled.upsertText` is their insert-or-replace
with every value written where it belongs; filling the slots of the real text with the values of the
listed columns, and again with those that are updated on a conflict, gives it
(`Bundled.fills_upsert`).
-/

namespace SqlBuilder

open Text

/-- The dialects that come with the builders. -/
inductive Bundled where
  | generic
  | h2
  | sqlite
deriving DecidableEq

namespace Bundled

/-- The dialect itself. -/
def dialect : Bundled → Dialect
  | generic => .generic
  | h2 => .h2
  | sqlite => .sqlite

@[simp] theorem placeholder_dialect (b : Bundled) : b.dialect.placeholder = "?" := by
  cases b <;> rfl

theorem markFree_standardLimits (limit offset : Option UInt64) :
    MarkFree (standardLimits limit offset) := by
  unfold standardLimits
  refine markFree_append.2 ⟨?_, ?_⟩
  · cases limit with
    | none => decide
    | some n => exact markFree_append.2 ⟨by decide, markFree_toString _⟩
  · cases offset with
    | none => decide
    | some n => exact markFree_append.2 ⟨by decide, markFree_toString _⟩

theorem markFree_limits (b : Bundled) (limit offset : Option UInt64) :
    MarkFree (b.dialect.limits limit offset) := by
  cases b with
  | generic => exact markFree_standardLimits limit offset
  | h2 => exact markFree_standardLimits limit offset
  | sqlite =>
    show MarkFree (Dialect.limitBeforeOffset limit offset)
    unfold Dialect.limitBeforeOffset
    split
    · exact markFree_append.2 ⟨by decide, markFree_toString _⟩
    · exact markFree_standardLimits _ _

/-! ## Insert-or-replace -/

/-- Insert-or-replace of a row, given by columns with the texts of their values, keys before the
others. -/
def upsertText (table : String) (keys others : List (String × String)) : Bundled → String
  | generic => "INSERT INTO " ++ table ++ " " ++ rowText (keys ++ others) "VALUES " ++
      " ON CONFLICT (" ++ commaList (keys.map (·.1)) ++ ") " ++
        if others.isEmpty then "DO NOTHING" else "DO UPDATE SET " ++ assignmentText others
  | h2 => "MERGE INTO " ++ table ++ " " ++
      rowText (keys ++ others) ("KEY (" ++ commaList (keys.map (·.1)) ++ ") VALUES ")
  | sqlite => "INSERT OR REPLACE INTO " ++ table ++ " " ++ rowText (keys ++ others) "VALUES "

theorem markFree_names {rows : List (String × String)} (h : ∀ r ∈ rows, MarkFree r.1) :
    MarkFree (commaList (rows.map (·.1))) := by
  apply markFree_intercalate (by decide)
  intro name hname
  obtain ⟨r, hr, rfl⟩ := List.mem_map.1 hname
  exact h r hr

section Upsert

variable {table : String} {keys others : List (String × String)} (htable : MarkFree table)
  (hkeys : ∀ r ∈ keys, MarkFree r.1) (hothers : ∀ r ∈ others, MarkFree r.1)
include htable hkeys hothers

theorem fills_row {word between : String} (hword : MarkFree word) (hbetween : MarkFree between) :
    Template.Fills (.text (word ++ table ++ " ") ::
        Template.columnsAndSlots (keys.map (·.1) ++ others.map (·.1)) between)
      ((keys ++ others).map (·.2)) (word ++ table ++ " " ++ rowText (keys ++ others) between) := by
  have hrows : ∀ r ∈ keys ++ others, MarkFree r.1 := fun r hr =>
    (List.mem_append.1 hr).elim (hkeys r) (hothers r)
  rw [← List.map_append]
  refine .text ?_ (.columnsAndSlots hrows hbetween)
  exact markFree_append.2 ⟨markFree_append.2 ⟨hword, htable⟩, by decide⟩

theorem fills_upsertOnConflict :
    Template.Fills (Dialect.upsertOnConflict table (keys.map (·.1)) (others.map (·.1)))
      ((keys ++ others).map (·.2) ++ others.map (·.2)) (generic.upsertText table keys others) := by
  have hrow := fills_row htable hkeys hothers (show MarkFree "INSERT INTO " by decide)
    (show MarkFree "VALUES " by decide)
  have hconflict : MarkFree (" ON CONFLICT (" ++ commaList (keys.map (·.1)) ++ ") ") :=
    markFree_append.2 ⟨markFree_append.2 ⟨by decide, markFree_names hkeys⟩, by decide⟩
  have haction : Template.Fills
      (if (others.map (·.1)).isEmpty then [.text "DO NOTHING"]
        else .text "DO UPDATE SET " :: Template.assignments (others.map (·.1)))
      (others.map (·.2))
      (if others.isEmpty then "DO NOTHING" else "DO UPDATE SET " ++ assignmentText others) := by
    rw [List.isEmpty_map]
    split_ifs with hempty
    · rw [List.isEmpty_iff.1 hempty]
      exact .of_text (by decide)
    · exact .text (by decide) (.assignments hothers)
  have hall := hrow.append (Template.Fills.text hconflict haction)
  unfold Dialect.upsertOnConflict upsertText
  simp only [String.append_assoc] at hall ⊢
  exact hall

theorem fills_upsertByMerge :
    Template.Fills (Dialect.upsertByMerge table (keys.map (·.1)) (others.map (·.1)))
      ((keys ++ others).map (·.2)) (h2.upsertText table keys others) :=
  fills_row htable hkeys hothers (show MarkFree "MERGE INTO " by decide)
    (markFree_append.2 ⟨markFree_append.2 ⟨by decide, markFree_names hkeys⟩, by decide⟩)

theorem fills_upsertOrReplace :
    Template.Fills (Dialect.upsertOrReplace table (keys.map (·.1)) (others.map (·.1)))
      ((keys ++ others).map (·.2)) (sqlite.upsertText table keys others) :=
  fills_row htable hkeys hothers (show MarkFree "INSERT OR REPLACE INTO " by decide)
    (show MarkFree "VALUES " by decide)

/-- The slots of an insert-or-replace: one for each column, and behind them one more for each column
that is updated on a conflict. -/
theorem fills_upsert (b : Bundled) :
    Template.Fills (b.dialect.upsert table (keys.map (·.1)) (others.map (·.1)))
      ((keys ++ others).map (·.2) ++ if b.dialect.rebinds then others.map (·.2) else [])
      (b.upsertText table keys others) := by
  cases b with
  | generic => exact fills_upsertOnConflict htable hkeys hothers
  | h2 =>
    show Template.Fills _ ((keys ++ others).map (·.2) ++ []) _
    rw [List.append_nil]
    exact fills_upsertByMerge htable hkeys hothers
  | sqlite =>
    show Template.Fills _ ((keys ++ others).map (·.2) ++ []) _
    rw [List.append_nil]
    exact fills_upsertOrReplace htable hkeys hothers

end Upsert

end Bundled

end SqlBuilder
