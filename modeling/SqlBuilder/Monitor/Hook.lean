import SqlBuilder.Monitor.Event

/-!
# Hooks

Observers of statements.  A `Hook` sees each statement before it is compiled and may refuse it, and
is told how its execution ended and when it was slow.  Hooks act on a world `ω` that they share.
`Hook.all` makes one hook of many: for a statement about to be compiled they are asked in order up
to the first refusal, and everything else is told to each of them.
-/

namespace SqlBuilder

/-- What a hook decides about a statement. -/
inductive Decision where
  | proceed
  /-- Nothing of the statement may reach the engine. -/
  | abort (reason : String)
deriving DecidableEq

/-- An observer that acts on worlds `ω`. -/
structure Hook (ω : Type) where
  /-- The text is written, the engine has not seen it. -/
  beforeCompile : Context → ω → Decision × ω := fun _ w => (.proceed, w)
  /-- An execution ended, after a time in nanoseconds. -/
  afterExecute : Context → Nat → Outcome → ω → ω := fun _ _ _ w => w
  /-- An execution took longer than it should. -/
  onSlow : Context → Nat → ω → ω := fun _ _ w => w

namespace Hook

variable {ω : Type}

/-- The hook that does nothing. -/
def silent : Hook ω := {}

/-- Asks the hooks in order up to the first refusal. -/
def askAll (ctx : Context) : List (Hook ω) → ω → Decision × ω
  | [], w => (.proceed, w)
  | h :: hs, w =>
    match h.beforeCompile ctx w with
    | (.abort reason, w) => (.abort reason, w)
    | (.proceed, w) => askAll ctx hs w

/-- One hook made of many. -/
def all (hs : List (Hook ω)) : Hook ω where
  beforeCompile ctx w := askAll ctx hs w
  afterExecute ctx nanos outcome w := hs.foldl (fun w h => h.afterExecute ctx nanos outcome w) w
  onSlow ctx nanos w := hs.foldl (fun w h => h.onSlow ctx nanos w) w

end Hook

/-- Hooks grouped to any depth over leaves of a type `α`. -/
inductive HookTree (α : Type) where
  | leaf (a : α)
  | all (children : List (HookTree α))

namespace HookTree

variable {α ω : Type}

mutual

/-- The hook of a tree whose leaves stand for hooks. -/
def hook (f : α → Hook ω) : HookTree α → Hook ω
  | leaf a => f a
  | all children => Hook.all (hooks f children)

/-- The hooks of the trees of a list, in order. -/
def hooks (f : α → Hook ω) : List (HookTree α) → List (Hook ω)
  | [] => []
  | t :: ts => t.hook f :: hooks f ts

end

end HookTree

end SqlBuilder
