import SqlBuilder.Error

/-!
# Actions

An `Act ω α` acts on a world `ω`: it may change the world, and it ends with a result or an error.
An error does not undo the changes before it.
-/

namespace SqlBuilder

/-- An action on worlds `ω` that gives an `α` or fails. -/
def Act (ω α : Type) : Type := ω → Except Error α × ω

namespace Act

variable {ω α β : Type}

/-- The action that gives `a` and leaves the world alone. -/
protected def pure (a : α) : Act ω α := fun w => (.ok a, w)

/-- One action after another; the second is left out if the first fails. -/
protected def bind (x : Act ω α) (f : α → Act ω β) : Act ω β := fun w =>
  match x w with
  | (.ok a, w) => f a w
  | (.error e, w) => (.error e, w)

instance : Monad (Act ω) where
  pure := Act.pure
  bind := Act.bind

/-- The action that fails and leaves the world alone. -/
def fail (e : Error) : Act ω α := fun w => (.error e, w)

/-- The action that ends as `x` and leaves the world alone. -/
def ofExcept (x : Except Error α) : Act ω α := fun w => (x, w)

/-- Changes the world. -/
def change (f : ω → ω) : Act ω Unit := fun w => (.ok (), f w)

/-- A step that cannot fail. -/
def step (f : ω → α × ω) : Act ω α := fun w => ((.ok (f w).1), (f w).2)

/-- Runs an action and goes on with how it ended. -/
def attempt (x : Act ω α) : Act ω (Except Error α) := fun w => (.ok (x w).1, (x w).2)

theorem bind_apply (x : Act ω α) (f : α → Act ω β) (w : ω) :
    (x >>= f) w = match x w with
      | (.ok a, w) => f a w
      | (.error e, w) => (.error e, w) := rfl

end Act

end SqlBuilder
