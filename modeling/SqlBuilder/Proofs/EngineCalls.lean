import SqlBuilder.Proofs.UpsertSlots
import SqlBuilder.Proofs.Watched

/-!
# Engine calls of a statement

What a database has its engine do with a statement, whichever calls fail.  `Binds` tells how far the
values get to their slots and `BindsAll` that the statement is closed behind a bind that fails;
`Statement.Fails` and `Executes` are the two ways on from there.  They are derived along the program
(`Prepared.shows_bindAll`, `Prepared.shows_executeAndClose`, `Database.shows_prepare`,
`Database.shows_run`), for statements whose map covers their slots.  The time that hooks are told is
the one between two readings of the clock around the calls (`Database.showsAt_run`).
-/

namespace SqlBuilder

/-! ## Slots -/

namespace Statement

/-- The slots of the value that the caller binds at `index`. -/
def slotsOf (s : Statement) (index : Nat) : List Nat :=
  match s.slots with
  | none => [index]
  | some m => m.targets.getD (index - 1) []

/-- The values with their slots, in the order in which the engine gets them. -/
def placed (s : Statement) : List (Value × Nat) :=
  (s.args.zipIdx 1).flatMap fun p => (s.slotsOf p.2).map (p.1, ·)

/-- The map has slots for each value, and all of them together are the slots of the text. -/
structure Covered (s : Statement) : Prop where
  size : ∀ m ∈ s.slots, m.size = s.args.length
  slots : (s.placed.map (·.2)).Perm (List.range' 1 s.argCount)

theorem covered_of_slots_eq_none {s : Statement} (h : s.slots = none) : s.Covered := by
  constructor
  case size => simp [h]
  case slots =>
    have hplaced : s.placed = s.args.zipIdx 1 := by
      simp [placed, slotsOf, h, List.flatMap_singleton']
    have hcount : s.argCount = s.args.length := by rw [argCount, h]
    rw [hplaced, hcount, List.zipIdx_map_snd]

/-- A statement seen through its map binds a value at each of its slots. -/
theorem Covered.bind_prepared {s : Statement} (h : s.Covered) {σ O : Type} (p : Prepared σ O)
    {q : Value × Nat} (hq : q ∈ s.args.zipIdx 1) :
    (Opened.mk p s.slots).prepared.bind q.2 q.1 =
      p.bindPairs ((s.slotsOf q.2).map (q.1, ·)) := by
  obtain ⟨hpos, hget⟩ := List.mem_zipIdx_iff_le_and_getElem?_sub.1 hq
  have hlt := (List.getElem?_eq_some_iff.1 hget).1
  cases hslots : s.slots with
  | none =>
    rw [slotsOf, hslots, List.map_singleton, Prepared.bindPairs, Prepared.bindPairs, bind_pure]
    rfl
  | some m =>
    have hm : m.get q.2 = .ok (m.targets.getD (q.2 - 1) []) := by
      obtain ⟨i, hi⟩ : ∃ i, q.2 = i + 1 := ⟨q.2 - 1, (Nat.sub_add_cancel hpos).symm⟩
      rw [hi, Nat.add_sub_cancel] at hlt ⊢
      exact SlotMap.get_of_lt (by rwa [h.size m (by rw [hslots]; rfl)])
    show (p.remap m).bind q.2 q.1 = _
    rw [Prepared.bind_remap, Prepared.bindAtSlots, Act.ofExcept_bind hm,
      Prepared.bindEach_eq_bindPairs, slotsOf, hslots]

end Statement

/-! ## Binding -/

/-- The calls that bind values at slots when none of them fails. -/
def bound (ps : List (Value × Nat)) : List Event := ps.map fun p => .engine (.bind p.2 p.1) none

/-- Values are bound at slots in order, up to the first bind that fails. -/
inductive Binds (ps : List (Value × Nat)) : List Event → Except Error Unit → Prop
  | all : Binds ps (bound ps) (.ok ())
  | failed {before behind : List (Value × Nat)} {v : Value} {slot : Nat} {e : Error} :
    ps = before ++ (v, slot) :: behind →
      Binds ps (bound before ++ [.engine (.bind slot v) (some e)]) (.error e)

namespace Binds

variable {ps qs : List (Value × Nat)} {front back : List Event}

theorem append_right {r : Except Error Unit} (hps : Binds ps front (.ok ()))
    (hqs : Binds qs back r) : Binds (ps ++ qs) (front ++ back) r := by
  cases hps
  cases hqs with
  | all => rw [bound, bound, ← List.map_append]; exact .all
  | failed h =>
    rw [← List.append_assoc, bound, bound, ← List.map_append]
    exact .failed (by rw [h, List.append_assoc])

theorem append_of_error {e : Error} (hps : Binds ps front (.error e)) (qs : List (Value × Nat)) :
    Binds (ps ++ qs) front (.error e) := by
  cases hps with
  | failed h => exact .failed (by rw [h, List.append_assoc, List.cons_append])

end Binds

/-- As `Binds`, and behind a bind that fails the statement is closed. -/
inductive BindsAll (ps : List (Value × Nat)) : List Event → Except Error Unit → Prop
  | bound {events : List Event} : Binds ps events (.ok ()) → BindsAll ps events (.ok ())
  | closed {front : List Event} {e : Error} (closing : Option Error) :
    Binds ps front (.error e) → BindsAll ps (front ++ [.engine .close closing]) (.error e)

theorem BindsAll.append_right {ps qs : List (Value × Nat)} {front back : List Event}
    {r : Except Error Unit} (hps : Binds ps front (.ok ())) (hqs : BindsAll qs back r) :
    BindsAll (ps ++ qs) (front ++ back) r := by
  cases hqs with
  | bound h => exact .bound (hps.append_right h)
  | closed closing h =>
    rw [← List.append_assoc]
    exact .closed closing (hps.append_right h)

section

variable {ω C O : Type}

@[simp] theorem Opened.close_prepared (p : Prepared ω O) (slots : Option SlotMap) :
    (Opened.mk p slots).prepared.close = p.close := by
  cases slots <;> rfl

@[simp] theorem Opened.execute_prepared (p : Prepared ω O) (slots : Option SlotMap) :
    (Opened.mk p slots).prepared.execute = p.execute := by
  cases slots <;> rfl

/-- How a statement is executed and closed.  A failure of the execution hides one of the closing. -/
inductive Executes : List Event → Except Error O → Prop
  | failed (e : Error) (closing : Option Error) :
    Executes [.engine .execute (some e), .engine .close closing] (.error e)
  | notClosed (e : Error) : Executes [.engine .execute none, .engine .close (some e)] (.error e)
  | done (o : O) : Executes [.engine .execute none, .engine .close none] (.ok o)

/-- The closing is the last call of an execution. -/
theorem Executes.exists_closing {events : List Event} {r : Except Error O}
    (h : Executes events r) : ∃ failure closing,
      events = [.engine .execute failure, .engine .close closing] := by
  cases h with
  | failed e closing => exact ⟨some e, closing, rfl⟩
  | notClosed e => exact ⟨none, some e, rfl⟩
  | done => exact ⟨none, none, rfl⟩

namespace Prepared

variable (p : Prepared ω O)

theorem shows_bindPairs (ps : List (Value × Nat)) :
    Act.Shows (p.watched.bindPairs ps) (p.bindPairs ps) id (Binds ps) := by
  induction ps with
  | nil => exact .pure rfl .all
  | cons q ps ih =>
    rw [bindPairs, bindPairs, bind_watched]
    refine .bind (.seenAs fun r => ?_)
    cases r with
    | error e => exact @Binds.failed _ [] ps q.1 q.2 e rfl
    | ok =>
      refine ih.mono fun back r hback => ?_
      exact Binds.append_right (Binds.all : Binds [q] _ _) hback

/-- The loop over the last values of a statement, seen through its map. -/
theorem shows_bindAll (db : Database ω C) {s : Statement} (hs : s.Covered) {first : Nat}
    {vs : List Value} (hvs : ∀ a ∈ vs.zipIdx first, a ∈ s.args.zipIdx 1) :
    Act.Shows ((Opened.mk p.watched s.slots).prepared.bindAll db.watched.log first vs)
      ((Opened.mk p s.slots).prepared.bindAll db.log first vs) id
      (BindsAll ((vs.zipIdx first).flatMap fun a => (s.slotsOf a.2).map (a.1, ·))) := by
  induction vs generalizing first with
  | nil => exact .pure rfl (.bound .all)
  | cons v vs ih =>
    rw [List.zipIdx_cons, List.forall_mem_cons] at hvs
    rw [bindAll, bindAll, List.zipIdx_cons, List.flatMap_cons, hs.bind_prepared p hvs.1,
      hs.bind_prepared p.watched hvs.1]
    -- One bind of the caller is a bind at each slot of the value; any of these can fail.
    refine .bind (.attempt ((p.shows_bindPairs _).mono fun front r hfront => ?_))
    cases r with
    | ok => exact (ih hvs.2).mono fun back r hback => .append_right hfront hback
    | error e =>
      have hlog (w : ω) (seen : List Event) : db.watched.log (.bindingFailed first e) ⟨w, seen⟩ =
          ⟨db.log (.bindingFailed first e) w, seen ++ []⟩ := by
        rw [List.append_nil]
        rfl
      refine .bind (.change hlog ?_)
      rw [Opened.close_prepared, Opened.close_prepared]
      refine .bind (.attempt (.seenAs fun closing => .fail ?_))
      rw [List.append_nil]
      exact BindsAll.closed _ (hfront.append_of_error _)

theorem shows_executeAndClose (slots : Option SlotMap) :
    Act.Shows (Opened.mk p.watched slots).prepared.executeAndClose
      (Opened.mk p slots).prepared.executeAndClose id Executes := by
  rw [executeAndClose, executeAndClose]
  simp only [Opened.execute_prepared, Opened.close_prepared]
  refine .bind (.attempt (.seenAs fun executed => .bind (.attempt (.seenAs fun closed => ?_))))
  cases executed with
  | error e => exact .fail (.failed e _)
  | ok o =>
    cases closed with
    | error e => exact .fail (.notClosed e)
    | ok => exact .pure rfl (.done o)

end Prepared

/-! ## Statements of a database -/

/-- The calls that compile a statement and bind all of its values. -/
def Statement.opening (s : Statement) (compile : EngineCall) : List Event :=
  .engine compile none :: bound s.placed

/-- The calls for a statement that the engine does not get to execute, and the error. -/
inductive Statement.Fails (s : Statement) (compile : EngineCall) : List Event → Error → Prop
  | compiling (e : Error) : Fails s compile [.engine compile (some e)] e
  | binding {binds : List Event} {e : Error} (closing : Option Error) :
    Binds s.placed binds (.error e) →
      Fails s compile (.engine compile none :: (binds ++ [.engine .close closing])) e

namespace Database

variable (db : Database ω C) {s : Statement}

theorem watched_log (e : LogEvent) (w : ω) (seen : List Event) :
    db.watched.log e ⟨w, seen⟩ = ⟨db.log e w, seen ++ []⟩ := by
  rw [List.append_nil]
  rfl

/-- What is seen when a statement is prepared. -/
inductive Prepares (s : Statement) (compile : EngineCall) :
    List Event → Except Error (Opened ω O) → Prop
  | refused {asked : List Event} {e : Error} : db.Consulted s.context asked (.error e) →
    Prepares s compile asked (.error e)
  | failed {asked calls : List Event} {e : Error} : db.Consulted s.context asked (.ok ()) →
    s.Fails compile calls e → Prepares s compile (asked ++ calls) (.error e)
  | opened {asked : List Event} (p : Prepared ω O) : db.Consulted s.context asked (.ok ()) →
    Prepares s compile (asked ++ s.opening compile) (.ok ⟨p, s.slots⟩)

theorem shows_prepare (hs : s.Covered) (call : EngineCall) (compile : Act ω (Prepared ω O)) :
    Act.Shows (db.watched.prepare s (Prepared.watched <$> compile.seenAs call))
      (db.prepare s compile) Opened.watched (db.Prepares s call) := by
  rw [prepare, prepare]
  refine .bind ((db.shows_ask s.context).mono fun asked r hasked => ?_)
  cases r with
  | error e => exact .refused hasked
  | ok =>
    refine .bind (.change (db.watched_log _) (.bind (.compile fun r => ?_)))
    cases r with
    | error e => exact .failed hasked (.compiling e)
    | ok p =>
      refine .bind ((p.shows_bindAll db hs fun a ha => ha).mono fun binds r hbinds => ?_)
      cases hbinds with
      | closed closing h => exact .failed hasked (.binding closing h)
      | bound h =>
        cases h
        refine .pure rfl ?_
        rw [List.append_nil]
        exact .opened p hasked

/-- How the hooks are told that an execution ended. -/
def outcomeOf (describe : O → Outcome) : Except Error O → Outcome
  | .ok o => describe o
  | .error e => .failed e.message

/-- The time between the readings of the clock before an execution and behind the closing. -/
def elapsed (p : Prepared ω O) (w : ω) : Nat :=
  (db.clock (p.executeAndClose (db.clock w).2).2).1 - (db.clock w).1

/-- An execution, and what the hooks are told of it. -/
theorem showsAt_run (ctx : Context) (describe : O → Outcome) (p : Prepared ω O)
    (slots : Option SlotMap) (w : ω) :
    Act.ShowsAt w (db.watched.run ctx describe (Opened.mk p.watched slots).prepared)
      (db.run ctx describe (Opened.mk p slots).prepared) id
      fun events r => ∃ calls, Executes calls r ∧ events = calls ++
        db.reported ctx (db.elapsed (Opened.mk p slots).prepared w) (outcomeOf describe r) := by
  rw [run, run]
  refine showsAt_clock_bind (.attempt_bind ((p.shows_executeAndClose slots).at _) ?_)
  intro calls hcalls
  refine showsAt_clock_bind (.bind ((db.shows_report ctx _ _).at _) ?_ ?_)
  · rintro told ⟨⟩ - ⟨rfl, -⟩
    refine (Act.Shows.ofExcept ⟨calls, hcalls, ?_⟩).at _
    rw [List.append_nil]
    cases ((Opened.mk p slots).prepared.executeAndClose (db.clock w).2).1 <;> rfl
  · rintro told e - ⟨-, ⟨⟩⟩

theorem shows_run (ctx : Context) (describe : O → Outcome) (p : Prepared ω O)
    (slots : Option SlotMap) :
    Act.Shows (db.watched.run ctx describe (Opened.mk p.watched slots).prepared)
      (db.run ctx describe (Opened.mk p slots).prepared) id
      fun events r => ∃ calls nanos, Executes calls r ∧
        events = calls ++ db.reported ctx nanos (outcomeOf describe r) := by
  refine Act.shows_iff_forall_showsAt.2 fun w => (db.showsAt_run ctx describe p slots w).mono ?_
  rintro _ ⟨calls, hcalls, rfl⟩
  exact ⟨calls, _, hcalls, rfl⟩

end Database

end

end SqlBuilder
