import Mathlib.Logic.Basic
import Mathlib.Tactic.SplitIfs

/-!
# Results that can fail

How a result of several steps came about: it is there exactly when every step succeeded
(`bind_eq_ok_iff`, `return_eq_ok_iff`, `return₂_eq_ok_iff`, `mapM_cons_eq_ok_iff`,
`exists_mapM_eq_ok_iff`), and a step that cannot fail keeps failures apart from results
(`map_eq_ok_iff`, `exists_map_eq_error_iff`).
-/

namespace SqlBuilder

variable {ε α β γ : Type} {x : Except ε α} {y : Except ε β}

theorem map_eq_ok_iff {f : α → β} {b : β} : x.map f = .ok b ↔ ∃ a, x = .ok a ∧ f a = b := by
  cases x <;> simp [Except.map]

theorem bind_eq_ok_iff {f : α → Except ε β} {b : β} :
    x >>= f = .ok b ↔ ∃ a, x = .ok a ∧ f a = .ok b := by
  cases x <;> simp [bind, Except.bind]

theorem exists_map_eq_error_iff {f : α → β} : (∃ e, x.map f = .error e) ↔ ∃ e, x = .error e := by
  cases x <;> simp [Except.map]

/-- One step and a function of its result. -/
theorem return_eq_ok_iff {f : α → β} {b : β} :
    (do return f (← x)) = .ok b ↔ ∃ a, x = .ok a ∧ f a = b := by
  cases x <;> simp [bind, Except.bind, pure, Except.pure]

/-- Two steps and a function of their results. -/
theorem return₂_eq_ok_iff {f : α → β → γ} {c : γ} :
    (do let a ← x; let b ← y; return f a b) = .ok c ↔
      ∃ a, x = .ok a ∧ ∃ b, y = .ok b ∧ f a b = c := by
  cases x <;> cases y <;> simp [bind, Except.bind, pure, Except.pure]

theorem exists_return₂_eq_error_iff {f : α → β → γ} :
    (∃ e, (do let a ← x; let b ← y; return f a b) = .error e) ↔
      (∃ e, x = .error e) ∨ ∃ e, y = .error e := by
  cases x <;> cases y <;> simp [bind, Except.bind, pure, Except.pure]

theorem exists_map_eq_ok_iff {f : α → β} : (∃ b, x.map f = .ok b) ↔ ∃ a, x = .ok a := by
  cases x <;> simp [Except.map]

/-- A result behind a guard that turns some inputs away. -/
theorem exists_guard_eq_ok_iff {p : Prop} [Decidable p] {e : ε} :
    (∃ a, (if p then .error e else x) = .ok a) ↔ ¬ p ∧ ∃ a, x = .ok a := by
  split_ifs with h <;> simp [h]

theorem mapM_cons_eq_ok_iff {f : α → Except ε β} {a : α} {l : List α} {bs : List β} :
    (a :: l).mapM f = .ok bs ↔ ∃ b, f a = .ok b ∧ ∃ cs, l.mapM f = .ok cs ∧ b :: cs = bs := by
  rw [List.mapM_cons]
  exact return₂_eq_ok_iff

theorem exists_mapM_eq_ok_iff {f : α → Except ε β} {l : List α} :
    (∃ bs, l.mapM f = .ok bs) ↔ ∀ a ∈ l, ∃ b, f a = .ok b := by
  induction l with
  | nil => simp [pure, Except.pure]
  | cons a l ih =>
    rw [List.forall_mem_cons, ← ih]
    constructor
    · rintro ⟨bs, hbs⟩
      obtain ⟨b, hb, cs, hcs, -⟩ := mapM_cons_eq_ok_iff.1 hbs
      exact ⟨⟨b, hb⟩, cs, hcs⟩
    · rintro ⟨⟨b, hb⟩, cs, hcs⟩
      exact ⟨b :: cs, mapM_cons_eq_ok_iff.2 ⟨b, hb, cs, hcs, rfl⟩⟩

end SqlBuilder
