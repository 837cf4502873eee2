import SqlBuilder.Proofs.RequestTraces

/-!
# Courses of calls

A `Call` runs a statement under construction, or has it compiled and handed over; a caller makes
one call after another (`Database.serve`).  `Call.Seen` lists the courses that a call can take, with
all that hooks and engine see of it in order, and each call takes one of them
(`Call.seen_serve`), whatever the hooks decide and whichever calls of the engine fail.
-/

namespace SqlBuilder

variable {ω C : Type}

/-- A call on a database: a statement is run, or compiled and handed over. -/
inductive Call where
  | run (r : Request)
  | compile (r : Request)

/-- What the caller gets. -/
inductive Reply where
  | affected (rows : UInt64)
  | cursor
  | handedOver
  | failed (e : Error)
deriving DecidableEq

namespace Reply

/-- The reply to a compilation. -/
def ofCompiled {α : Type} : Except Error α → Reply
  | .ok _ => handedOver
  | .error e => failed e

end Reply

/-! ## Running a statement -/

namespace Request

/-- The engine compiles the statement. -/
def compiling (e : Engine ω C) : (r : Request) → Statement → Act ω (Prepared ω (r.Output C))
  | change _, s => e.compile s.kind s.table s.sql
  | query _, s => e.compileQuery s.tables s.sql

/-- How a result looks to the hooks. -/
def describe : (r : Request) → r.Output C → Outcome
  | change _ => Outcome.affected
  | query _ => fun _ => .cursor

/-- The reply to a run. -/
def reply : (r : Request) → Except Error (r.Output C) → Reply
  | _, .error e => .failed e
  | change _, .ok rows => .affected rows
  | query _, .ok _ => .cursor

/-- The time that the execution of the statement takes, if it comes to that. -/
def elapsed? (db : Database ω C) (r : Request) (w : ω) : Option Nat :=
  match r.compile db w with
  | (.ok opened, w) => some (db.elapsed opened.prepared w)
  | (.error _, _) => none

variable (db : Database ω C) (r : Request)

theorem run_eq :
    r.run db = (do
      let s ← Act.ofExcept (r.build db.dialect)
      let opened ← db.prepare s (r.compiling db.engine s)
      db.run s.context r.describe opened.prepared) := by
  cases r <;> rfl

theorem compile_eq :
    r.compile db = (do
      let s ← Act.ofExcept (r.build db.dialect)
      db.prepare s (r.compiling db.engine s)) := by
  cases r <;> rfl

theorem compiling_watched (s : Statement) :
    r.compiling db.watched.engine s =
      Prepared.watched <$> (r.compiling db.engine s).seenAs (r.call s) := by
  cases r <;> rfl

end Request

/-! ## Courses -/

namespace Call

/-- The statement that the call is about. -/
def request : Call → Request
  | run r => r
  | compile r => r

/-- Makes the call. -/
def serve (db : Database ω C) : Call → ω → Reply × ω
  | run r, w => (r.reply (r.run db w).1, (r.run db w).2)
  | compile r, w => (.ofCompiled (r.compile db w).1, (r.compile db w).2)

/-- The time that the execution of the statement takes, if the call comes to that. -/
def elapsed? (db : Database ω C) : Call → ω → Option Nat
  | run r, w => r.elapsed? db w
  | compile _, _ => none

/-- What is seen of a call and what its reply is. -/
inductive Seen (db : Database ω C) (w : ω) : Call → List Event → Reply → Prop
  | notBuilt {c : Call} {e : Error} : c.elapsed? db w = none →
    c.request.build db.dialect = .error e → Seen db w c [] (.failed e)
  | refused {c : Call} {s : Statement} {asked : List Event} {reason : String} :
    c.elapsed? db w = none → c.request.build db.dialect = .ok s →
    db.Consulted s.context asked (.error (.aborted reason)) →
      Seen db w c asked (.failed (.aborted reason))
  | failed {c : Call} {s : Statement} {asked calls : List Event} {e : Error} :
    c.elapsed? db w = none → c.request.build db.dialect = .ok s →
    db.Consulted s.context asked (.ok ()) → s.Fails (c.request.call s) calls e →
      Seen db w c (asked ++ calls) (.failed e)
  | handedOver {r : Request} {s : Statement} {asked : List Event} :
    r.build db.dialect = .ok s → db.Consulted s.context asked (.ok ()) →
      Seen db w (.compile r) (asked ++ s.opening (r.call s)) .handedOver
  | executed {r : Request} {s : Statement} {asked calls : List Event} {nanos : Nat}
    {result : Except Error (r.Output C)} :
    r.elapsed? db w = some nanos → r.build db.dialect = .ok s →
    db.Consulted s.context asked (.ok ()) → Executes calls result →
      Seen db w (.run r) (asked ++ s.opening (r.call s) ++ (calls ++
        db.reported s.context nanos (Database.outcomeOf r.describe result))) (r.reply result)

end Call

/-- A statement that cannot be prepared. -/
theorem Call.Seen.of_prepares {db : Database ω C} {w : ω} {c : Call} {s : Statement}
    {front : List Event} {e : Error} {O : Type} (helapsed : c.elapsed? db w = none)
    (hs : c.request.build db.dialect = .ok s)
    (h : db.Prepares s (c.request.call s) front (.error e : Except Error (Opened ω O))) :
    Seen db w c front (.failed e) := by
  cases h with
  | refused hasked =>
    obtain ⟨reason, rfl, -⟩ := hasked.exists_reason
    exact .refused helapsed hs hasked
  | failed hasked hfails => exact .failed helapsed hs hasked hfails

namespace Request

variable {db : Database ω C} {r : Request}

theorem elapsed?_of_build_error {e : Error} (h : r.build db.dialect = .error e) (w : ω) :
    r.elapsed? db w = none := by
  rw [elapsed?, compile_eq, h]
  rfl

theorem compile_of_build {s : Statement} (h : r.build db.dialect = .ok s) :
    r.compile db = db.prepare s (r.compiling db.engine s) := by
  rw [compile_eq, Act.ofExcept_bind h]

theorem elapsed?_of_compile_error {w : ω} {e : Error} (h : (r.compile db w).1 = .error e) :
    r.elapsed? db w = none := by
  rw [elapsed?]
  split
  · next heq => rw [heq] at h; cases h
  · rfl

theorem elapsed?_of_compile {w : ω} {opened : Opened ω (r.Output C)}
    (h : (r.compile db w).1 = .ok opened) :
    r.elapsed? db w = some (db.elapsed opened.prepared (r.compile db w).2) := by
  rw [elapsed?]
  split
  · next heq =>
    rw [heq] at h ⊢
    cases h
    rfl
  · next heq => rw [heq] at h; cases h

theorem shows_build :
    Act.Shows (Act.ofExcept (r.build db.watched.dialect))
      (Act.ofExcept (r.build db.dialect) : Act ω _) id
      fun events built => events = [] ∧ r.build db.dialect = built :=
  .ofExcept ⟨rfl, rfl⟩

variable (db) (hr : r.Reachable) (w : ω)
include hr

theorem showsAt_compiling {s : Statement} (hs : r.build db.dialect = .ok s) :
    Act.ShowsAt w (db.watched.prepare s (r.compiling db.watched.engine s))
      (db.prepare s (r.compiling db.engine s)) Opened.watched (db.Prepares s (r.call s)) := by
  rw [compiling_watched]
  exact (db.shows_prepare (covered_of_build hr hs) (r.call s) (r.compiling db.engine s)).at w

theorem showsAt_run : Act.ShowsAt w (r.run db.watched) (r.run db) id fun events result =>
    Call.Seen db w (.run r) events (r.reply result) := by
  rw [run_eq, run_eq]
  refine .bind (shows_build.at w) ?_ ?_
  · rintro _ s - ⟨rfl, hs⟩
    refine .bind (showsAt_compiling db hr w hs) ?_ ?_
    · rintro _ opened hopened (_ | _ | @⟨asked, p, hasked⟩)
      have hcompile : (r.compile db w).1 = .ok ⟨p, s.slots⟩ := by
        rw [compile_of_build hs]
        exact hopened
      refine (db.showsAt_run s.context r.describe p s.slots _).mono ?_
      rintro _ ⟨calls, hcalls, rfl⟩
      refine .executed ?_ hs hasked hcalls
      rw [elapsed?_of_compile hcompile, compile_of_build hs]
      rfl
    · intro front e he hprepares
      refine .of_prepares ?_ hs hprepares
      exact elapsed?_of_compile_error (by rw [compile_of_build hs]; exact he)
  · rintro _ e - ⟨rfl, hbuilt⟩
    exact .notBuilt (elapsed?_of_build_error hbuilt w) hbuilt

end Request

end SqlBuilder
