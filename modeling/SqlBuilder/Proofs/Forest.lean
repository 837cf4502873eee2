import Mathlib.Data.List.Basic

/-!
# Paths in forests

A forest is a list of trees, given by what `children` every tree has.  A path names a tree in it by
its place among the roots, or by the place of a root and a path among the children of that root.
`nodeAt?` is the tree at a path and `before` what the trees in front of it hold, in depth-first
order from left to right.
-/

namespace SqlBuilder.Forest

variable {α β γ : Type}

section

variable (children : α → List α)

/-- The tree at a path. -/
def nodeAt? (xs : List α) : List Nat → Option α
  | [] => none
  | [i] => xs[i]?
  | i :: j :: path => xs[i]?.bind fun x => nodeAt? (children x) (j :: path)

/-- What `g` gives for the trees in front of a path. -/
def before (g : α → List β) (xs : List α) : List Nat → List β
  | [] => []
  | i :: path => (xs.take i).flatMap g ++ xs[i]?.elim [] fun x => before g (children x) path

end

variable {children : α → List α} {children' : β → List β} {f : α → β}

theorem nodeAt?_map (hf : ∀ x, children' (f x) = (children x).map f) (xs : List α)
    (path : List Nat) :
    nodeAt? children' (xs.map f) path = (nodeAt? children xs path).map f := by
  induction path generalizing xs with
  | nil => rfl
  | cons i path ih =>
    cases path with
    | nil => exact List.getElem?_map
    | cons j path =>
      rw [nodeAt?, nodeAt?, List.getElem?_map]
      cases xs[i]? with
      | none => rfl
      | some x => simp [hf, ih]

theorem before_map (hf : ∀ x, children' (f x) = (children x).map f) (g : β → List γ)
    (xs : List α) (path : List Nat) :
    before children' g (xs.map f) path = before children (fun x => g (f x)) xs path := by
  induction path generalizing xs with
  | nil => rfl
  | cons i path ih =>
    rw [before, before, ← List.map_take, List.flatMap_map, List.getElem?_map]
    cases xs[i]? with
    | none => rfl
    | some x => simp [hf, ih]

/-- `size` is any way of counting that adds up. -/
theorem length_before {g : α → List β} {h : α → List γ} {size : List γ → Nat} (hnil : size [] = 0)
    (happend : ∀ as bs, size (as ++ bs) = size as + size bs)
    (hgh : ∀ x, (g x).length = size (h x)) (xs : List α) (path : List Nat) :
    (before children g xs path).length = size (before children h xs path) := by
  have hflat (xs : List α) : (xs.flatMap g).length = size (xs.flatMap h) := by
    induction xs with
    | nil => exact hnil.symm
    | cons x xs ih => simp [hgh, happend, ih]
  induction path generalizing xs with
  | nil => exact hnil.symm
  | cons i path ih =>
    rw [before, before, List.length_append, happend, hflat]
    cases xs[i]? with
    | none => simp [hnil]
    | some x => simp [ih]

/-- What a forest holds, split at a path.  The trees on the way hold what their children do. -/
theorem exists_behind {g : α → List β} (hg : ∀ x, children x ≠ [] → g x = (children x).flatMap g)
    {xs : List α} {path : List Nat} {x : α} (hx : nodeAt? children xs path = some x) :
    ∃ behind, xs.flatMap g = before children g xs path ++ (g x ++ behind) := by
  have hsplit {xs : List α} {i : Nat} {y : α} (hy : xs[i]? = some y) :
      xs.flatMap g = (xs.take i).flatMap g ++ (g y ++ (xs.drop (i + 1)).flatMap g) := by
    obtain ⟨hi, rfl⟩ := List.getElem?_eq_some_iff.1 hy
    conv_lhs => rw [← List.take_append_drop i xs, List.drop_eq_getElem_cons hi]
    rw [List.flatMap_append, List.flatMap_cons]
  induction path generalizing xs with
  | nil => cases hx
  | cons i path ih =>
    cases path with
    | nil =>
      rw [nodeAt?] at hx
      exact ⟨_, by rw [hsplit hx, before, hx, Option.elim_some, before, List.append_nil]⟩
    | cons j path =>
      obtain ⟨y, hy, hx⟩ := Option.bind_eq_some_iff.1 hx
      obtain ⟨behind, hbehind⟩ := ih hx
      -- The path goes on below `y`, so `y` has children and holds no more than they do.
      have hne : children y ≠ [] := by
        intro hnil
        rw [hnil] at hx
        cases path <;> simp [nodeAt?] at hx
      refine ⟨behind ++ (xs.drop (i + 1)).flatMap g, ?_⟩
      rw [hsplit hy, before, hy, Option.elim_some, hg y hne, hbehind]
      simp only [List.append_assoc]

end SqlBuilder.Forest
