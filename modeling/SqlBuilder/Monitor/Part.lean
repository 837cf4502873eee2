/-!
# Parts of a world

What several observers and an engine act on is one world.  A `Part` says where in it one of them
keeps its state.
-/

namespace SqlBuilder

/-- A part of type `σ` of worlds `ω`. -/
structure Part (ω σ : Type) where
  get : ω → σ
  set : σ → ω → ω

namespace Part

variable {ω σ : Type}

/-- The world with the part changed. -/
def modify (p : Part ω σ) (f : σ → σ) (w : ω) : ω := p.set (f (p.get w)) w

/-- A world that is its own part. -/
def whole : Part σ σ := ⟨id, fun s _ => s⟩

end Part

end SqlBuilder
