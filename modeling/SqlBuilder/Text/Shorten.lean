/-!
# Shortened text

Texts that go to a log are cut at a number of bytes of their UTF-8 form.  The cut never splits a
character: `Text.boundary` goes back from the limit, byte by byte, to a place between characters,
`Text.fit` keeps what is before it, and `Text.shorten` marks a text that lost something with three
dots.
-/

namespace SqlBuilder.Text

/-- The last place among the first `n` bytes of `s` that splits no character. -/
def boundary (s : String) : Nat → s.Pos
  | 0 => s.startPos
  | n + 1 =>
    if h : (⟨n + 1⟩ : String.Pos.Raw).IsValid s then s.pos ⟨n + 1⟩ h else boundary s n

/-- The longest beginning of `s` that is made of whole characters and takes at most `budget`
bytes. -/
def fit (budget : Nat) (s : String) : String :=
  if s.utf8ByteSize ≤ budget then s else (s.sliceTo (boundary s budget)).copy

/-- `s` itself if it takes at most `budget` bytes, else what fits of it and three dots. -/
def shorten (budget : Nat) (s : String) : String :=
  if s.utf8ByteSize ≤ budget then s else fit budget s ++ "..."

end SqlBuilder.Text
