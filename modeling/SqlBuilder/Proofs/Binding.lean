import SqlBuilder.Database.Basic

/-!
# Binding values

What binding does to the statement of the engine.  `Prepared.bindPairs` binds values at given slots
one after another.  A statement seen through a slot map binds the value of an index at all slots of
the index (`Prepared.bindPairs_remap`), and as long as no bind fails, binding a list of values is
binding each at its number (`Prepared.bindAll_eq_bindPairs`).  So if its binds succeed, a database
compiles a statement by opening it and binding the values at their slots (`Database.prepare_eq`).
-/

namespace SqlBuilder

/-! ## Actions -/

namespace Act

variable {ω α β : Type}

instance : LawfulMonad (Act ω) := LawfulMonad.mk' (Act ω)
  (fun x => by
    funext w
    show Act.bind x (fun a => Act.pure a) w = x w
    rw [Act.bind]
    rcases x w with ⟨_ | _, _⟩ <;> rfl)
  (fun _ _ => rfl)
  (fun x f g => by
    funext w
    show Act.bind (Act.bind x f) g w = Act.bind x (fun a => Act.bind (f a) g) w
    simp only [Act.bind]
    rcases x w with ⟨_ | _, _⟩ <;> rfl)

theorem bind_of_ok {x : Act ω α} {f : α → Act ω β} {w w' : ω} {a : α} (h : x w = (.ok a, w')) :
    (x >>= f) w = f a w' := by
  rw [bind_apply, h]

theorem bind_of_error {x : Act ω α} {f : α → Act ω β} {w w' : ω} {e : Error}
    (h : x w = (.error e, w')) : (x >>= f) w = (.error e, w') := by
  rw [bind_apply, h]

theorem ofExcept_bind {x : Except Error α} {a : α} (h : x = .ok a) (f : α → Act ω β) :
    ofExcept x >>= f = f a := by
  rw [h]
  rfl

/-- Two actions agree that begin alike and agree wherever the beginning succeeds. -/
theorem bind_congr_apply {x : Act ω α} {f g : α → Act ω β} {w : ω}
    (h : ∀ a w', x w = (.ok a, w') → f a w' = g a w') : (x >>= f) w = (x >>= g) w := by
  rcases hx : x w with ⟨e | a, w'⟩
  · rw [bind_of_error hx, bind_of_error hx]
  · rw [bind_of_ok hx, bind_of_ok hx, h a w' hx]

end Act

namespace Prepared

variable {ω O : Type} (s : Prepared ω O)

/-! ## Values at slots -/

/-- Binds values at slots, one after another. -/
def bindPairs : List (Value × Nat) → Act ω Unit
  | [] => pure ()
  | p :: ps => do
    s.bind p.2 p.1
    bindPairs ps

theorem bindPairs_append (ps qs : List (Value × Nat)) :
    s.bindPairs (ps ++ qs) = s.bindPairs ps >>= fun _ => s.bindPairs qs := by
  induction ps with
  | nil => rfl
  | cons p ps ih => rw [List.cons_append, bindPairs, bindPairs, ih, bind_assoc]

theorem bindEach_eq_bindPairs (v : Value) (slots : List Nat) :
    bindEach (s.bind · v) slots = s.bindPairs (slots.map (v, ·)) := by
  induction slots with
  | nil => rfl
  | cons slot slots ih => rw [bindEach, ih, List.map_cons, bindPairs]

/-- Seen through a map, values go to the slots of their indices. -/
theorem bindPairs_remap {m : SlotMap} {slots : Nat → List Nat} {ps : List (Value × Nat)}
    (h : ∀ p ∈ ps, m.get p.2 = .ok (slots p.2)) :
    (s.remap m).bindPairs ps = s.bindPairs (ps.flatMap fun p => (slots p.2).map (p.1, ·)) := by
  induction ps with
  | nil => rfl
  | cons p ps ih =>
    have hp : bindAtSlots m p.2 (s.bind · p.1) = s.bindPairs ((slots p.2).map (p.1, ·)) := by
      rw [bindAtSlots, h p List.mem_cons_self, ← bindEach_eq_bindPairs]
      rfl
    rw [bindPairs, bind_remap, hp, ih fun q hq => h q (List.mem_cons_of_mem p hq),
      List.flatMap_cons, bindPairs_append]

/-- Without a failure values are bound at their numbers and nothing else happens. -/
theorem bindAll_eq_bindPairs (log : LogEvent → ω → ω) {first : Nat} {vs : List Value} {w : ω}
    (h : (s.bindPairs (vs.zipIdx first) w).1 = .ok ()) :
    s.bindAll log first vs w = s.bindPairs (vs.zipIdx first) w := by
  induction vs generalizing first w with
  | nil => rfl
  | cons v vs ih =>
    rw [List.zipIdx_cons, bindPairs] at h ⊢
    rcases hv : s.bind first v w with ⟨e | u, w'⟩
    · rw [Act.bind_of_error hv] at h
      cases h
    · rw [Act.bind_of_ok hv] at h ⊢
      rw [bindAll]
      have hattempt : (s.bind first v).attempt w = (.ok (.ok ()), w') := by
        rw [Act.attempt, hv]
      rw [Act.bind_of_ok hattempt]
      exact ih h

end Prepared

namespace Database

variable {ω C O : Type}

/-- What comes before the values of a statement are bound: the hooks agree, the log is told and the
engine compiles. -/
def openingOf (db : Database ω C) (s : Statement) (compile : Act ω (Prepared ω O)) :
    Act ω (Prepared ω O) := do
  db.ask s.context
  Act.change (db.log (db.compilingEvent s))
  compile

/-- A statement that the database has opened takes the values at the slots. -/
def BindsSucceed (db : Database ω C) (s : Statement) (compile : Act ω (Prepared ω O))
    (ps : List (Value × Nat)) (w : ω) : Prop :=
  ∀ p w', db.openingOf s compile w = (.ok p, w') → (p.bindPairs ps w').1 = .ok ()

/-- Opens a statement and binds values at slots. -/
def boundAt (db : Database ω C) (s : Statement) (compile : Act ω (Prepared ω O))
    (ps : List (Value × Nat)) : Act ω (Opened ω O) := do
  let p ← db.openingOf s compile
  p.bindPairs ps
  return ⟨p, s.slots⟩

theorem prepare_eq_opening (db : Database ω C) (s : Statement) (compile : Act ω (Prepared ω O)) :
    db.prepare s compile = do
      let p ← db.openingOf s compile
      (Opened.mk p s.slots).prepared.bindAll db.log 1 s.args
      return ⟨p, s.slots⟩ := by
  simp only [prepare, openingOf, bind_assoc]

/-- If its binds succeed, a statement is compiled by opening it and binding the values at their
slots. -/
theorem prepare_eq (db : Database ω C) (s : Statement) (compile : Act ω (Prepared ω O))
    {ps : List (Value × Nat)} {w : ω}
    (hps : ∀ p : Prepared ω O,
      (Opened.mk p s.slots).prepared.bindPairs (s.args.zipIdx 1) = p.bindPairs ps)
    (h : db.BindsSucceed s compile ps w) : db.prepare s compile w = db.boundAt s compile ps w := by
  rw [prepare_eq_opening, boundAt]
  apply Act.bind_congr_apply
  intro p w' hp
  have hok := h p w' hp
  rw [← hps p] at hok
  rw [Act.bind_apply, Prepared.bindAll_eq_bindPairs _ _ hok, hps p, ← Act.bind_apply]

end Database

end SqlBuilder
