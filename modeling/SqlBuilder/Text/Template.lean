/-!
# Statement templates

Statement text is written without saying how a bound value is marked: a `Template` is a list of
fragments, each literal text or a slot for one bound value.  `Template.render` writes a mark into
every slot and `Template.slots` counts them, so which marks a dialect uses and where the values go
are decided in two different places.
-/

namespace SqlBuilder

/-- A piece of statement text. -/
inductive Fragment where
  | text (s : String)
  | slot
deriving DecidableEq

/-- The fragment with `mark` in place of the slot. -/
def Fragment.render (mark : String) : Fragment → String
  | .text s => s
  | .slot => mark

/-- Statement text that leaves open how bound values are marked. -/
abbrev Template := List Fragment

namespace Template

/-- The text with `mark` in every slot. -/
def render (mark : String) (t : Template) : String := String.join (t.map (Fragment.render mark))

/-- The number of slots. -/
def slots (t : Template) : Nat := t.countP (· = .slot)

/-- The templates in order with `separator` between neighbours. -/
def join (separator : String) (ts : List Template) : Template :=
  List.intercalate [.text separator] ts

/-- `n` slots with commas between them. -/
def slotList (n : Nat) : Template := join ", " (List.replicate n [.slot])

theorem toList_render (mark : String) (t : Template) :
    (t.render mark).toList = t.flatMap fun f => (f.render mark).toList := by
  simp [render, List.flatMap_map]

@[simp] theorem render_nil (mark : String) : render mark [] = "" := rfl

@[simp] theorem render_cons (mark : String) (f : Fragment) (t : Template) :
    render mark (f :: t) = f.render mark ++ render mark t := by
  apply String.toList_inj.1
  simp [toList_render]

@[simp] theorem render_append (mark : String) (t u : Template) :
    render mark (t ++ u) = render mark t ++ render mark u := by
  apply String.toList_inj.1
  simp [toList_render]

@[simp] theorem slots_nil : slots [] = 0 := rfl

@[simp] theorem slots_append (t u : Template) : slots (t ++ u) = slots t + slots u := by
  simp [slots]

end Template

end SqlBuilder
