import SqlBuilder.Engine.Recorder
import SqlBuilder.Proofs.CallTraces

/-!
# What is left alone

A view of the world shows something in it, such as the state of one hook.  `Act.Keeps` says that an
action leaves alone what a view shows, however the action ends; it is proved along the program, one
rule for each way of putting actions together.  If the engine with its statements, the log, the
clock and what the hooks are told all keep a view (`Database.Keeps`), then in a call only the
question to the hooks can change what the view shows (`Call.view_serve_of_agreed`).
-/

namespace SqlBuilder

variable {ω σ C O α β : Type} {view : ω → σ}

/-! ## Actions -/

namespace Act

/-- The action leaves alone what the view shows. -/
def Keeps (view : ω → σ) (x : Act ω α) : Prop := ∀ w, view (x w).2 = view w

/-- If two actions succeed one after the other, each of them does. -/
theorem exists_of_bind_ok {x : Act ω α} {f : α → Act ω β} {w : ω} {b : β}
    (h : ((x >>= f) w).1 = .ok b) : ∃ a w', x w = (.ok a, w') ∧ (f a w').1 = .ok b := by
  rcases hx : x w with ⟨e | a, w'⟩
  · rw [bind_of_error hx] at h
    cases h
  · rw [bind_of_ok hx] at h
    exact ⟨a, w', rfl, h⟩

namespace Keeps

variable {x : Act ω α} {f : α → Act ω β}

protected theorem pure (a : α) : Keeps view (pure a) := fun _ => rfl

theorem fail (e : Error) : Keeps view (Act.fail e : Act ω α) := fun _ => rfl

theorem ofExcept (r : Except Error α) : Keeps view (Act.ofExcept r) := fun _ => rfl

theorem change {f : ω → ω} (h : ∀ w, view (f w) = view w) : Keeps view (Act.change f) := h

theorem step {f : ω → α × ω} (h : ∀ w, view (f w).2 = view w) : Keeps view (Act.step f) := h

theorem attempt (h : Keeps view x) : Keeps view x.attempt := h

/-- What comes second may rely on how the first ended. -/
theorem bind_of_ok (hx : Keeps view x) (hf : ∀ w a, (x w).1 = .ok a → Keeps view (f a)) :
    Keeps view (x >>= f) := by
  intro w
  have hfront := hx w
  rcases h : x w with ⟨e | a, w'⟩
  · rw [bind_of_error h]
    rwa [h] at hfront
  · rw [Act.bind_of_ok h, hf w a (by rw [h]) w']
    rwa [h] at hfront

protected theorem bind (hx : Keeps view x) (hf : ∀ a, Keeps view (f a)) : Keeps view (x >>= f) :=
  hx.bind_of_ok fun _ a _ => hf a

end Keeps

end Act

/-! ## Statements and engines -/

namespace Prepared

/-- What a database does with a statement leaves alone what the view shows. -/
structure Keeps (view : ω → σ) (p : Prepared ω O) : Prop where
  bind : ∀ index v, (p.bind index v).Keeps view
  execute : p.execute.Keeps view
  close : p.close.Keeps view

namespace Keeps

variable {p : Prepared ω O}

theorem bindEach {bind : Nat → Act ω Unit} (h : ∀ slot, (bind slot).Keeps view)
    (slots : List Nat) : (bindEach bind slots).Keeps view := by
  induction slots with
  | nil => exact .pure ()
  | cons slot slots ih => exact (h slot).bind fun _ => ih

theorem remap (h : p.Keeps view) (m : SlotMap) : (p.remap m).Keeps view where
  bind index v := by
    rw [bind_remap]
    exact (Act.Keeps.ofExcept _).bind fun slots => bindEach (fun slot => h.bind slot v) slots
  execute := h.execute
  close := h.close

theorem prepared (h : p.Keeps view) (slots : Option SlotMap) :
    (Opened.mk p slots).prepared.Keeps view := by
  cases slots with
  | none => exact h
  | some m => exact h.remap m

variable (h : p.Keeps view)
include h

theorem bindAll {log : LogEvent → ω → ω} (hlog : ∀ e w, view (log e w) = view w) (first : Nat)
    (vs : List Value) : (p.bindAll log first vs).Keeps view := by
  induction vs generalizing first with
  | nil => exact .pure ()
  | cons v vs ih =>
    refine (h.bind first v).attempt.bind fun r => ?_
    cases r with
    | ok => exact ih (first + 1)
    | error e =>
      exact (Act.Keeps.change (hlog _)).bind fun _ => h.close.attempt.bind fun _ => .fail e

theorem executeAndClose : p.executeAndClose.Keeps view := by
  refine h.execute.attempt.bind fun executed => h.close.attempt.bind fun closed => ?_
  cases executed with
  | error e => exact .fail e
  | ok o =>
    cases closed with
    | error e => exact .fail e
    | ok => exact .pure o

end Keeps

end Prepared

/-- Opening a statement leaves alone what the view shows, and so does the statement. -/
structure Act.Opens (view : ω → σ) (x : Act ω (Prepared ω O)) : Prop where
  keeps : x.Keeps view
  opened : ∀ w p, (x w).1 = .ok p → p.Keeps view

/-- Whatever the engine does leaves alone what the view shows. -/
structure Engine.Keeps (view : ω → σ) (e : Engine ω C) : Prop where
  compile : ∀ kind table sql, (e.compile kind table sql).Opens view
  compileQuery : ∀ tables sql, (e.compileQuery tables sql).Opens view

section

variable {τ : Type} (f : σ → τ)

theorem Act.Keeps.comp {x : Act ω α} (h : x.Keeps view) : x.Keeps fun w => f (view w) :=
  fun w => congrArg f (h w)

theorem Prepared.Keeps.comp {p : Prepared ω O} (h : p.Keeps view) :
    p.Keeps fun w => f (view w) where
  bind index v := (h.bind index v).comp f
  execute := h.execute.comp f
  close := h.close.comp f

theorem Act.Opens.comp {x : Act ω (Prepared ω O)} (h : x.Opens view) :
    x.Opens fun w => f (view w) where
  keeps := h.keeps.comp f
  opened w p hp := (h.opened w p hp).comp f

/-- What an engine leaves alone as a whole it leaves alone in each respect. -/
theorem Engine.Keeps.comp {e : Engine ω C} (h : e.Keeps view) : e.Keeps fun w => f (view w) where
  compile kind table sql := (h.compile kind table sql).comp f
  compileQuery tables sql := (h.compileQuery tables sql).comp f

end

theorem Engine.Keeps.compiling {e : Engine ω C} (h : e.Keeps view) (r : Request) (s : Statement) :
    (r.compiling e s).Opens view := by
  cases r with
  | change => exact h.compile s.kind s.table s.sql
  | query => exact h.compileQuery s.tables s.sql

namespace Recorder

variable {part : Part ω Recorder} (h : ∀ r w, view (part.set r w) = view w)
include h

theorem keeps_answer (call : EngineCall) (failure : EngineSettings → Option Error)
    {next : Act ω α} (hnext : next.Keeps view) : (answer part call failure next).Keeps view := by
  intro w
  simp only [answer]
  split
  · exact h _ w
  · exact (hnext _).trans (h _ w)

theorem keeps_bind (id index : Nat) (v : Value) : (bind part id index v).Keeps view :=
  keeps_answer h _ _ (.change fun w => h _ w)

theorem keeps_statement (id : Nat) (result : Recorder → O) :
    (statement part id result).Keeps view where
  bind index v := by cases v <;> exact keeps_bind h id index _
  execute := keeps_answer h _ _ fun _ => rfl
  close := keeps_answer h _ _ (.pure ())

theorem opens_answer (call : EngineCall) (failure : EngineSettings → Option Error)
    (result : Nat → Recorder → O) :
    (answer part call failure (openStatement part result)).Opens view where
  keeps := keeps_answer h call failure fun w => h _ w
  opened w p hp := by
    rw [answer] at hp
    split at hp
    · cases hp
    · cases hp
      exact keeps_statement h _ _

/-- The recording engine changes nothing but its own part of the world. -/
theorem keeps_engine : (engine part).Keeps view where
  compile _ _ _ := opens_answer h _ _ _
  compileQuery _ _ := opens_answer h _ _ _

end Recorder

/-! ## Hooks -/

namespace Hook

/-- The hook leaves alone what the view shows. -/
structure Keeps (view : ω → σ) (h : Hook ω) : Prop where
  beforeCompile : ∀ ctx w, view (h.beforeCompile ctx w).2 = view w
  afterExecute : ∀ ctx nanos outcome w, view (h.afterExecute ctx nanos outcome w) = view w
  onSlow : ∀ ctx nanos w, view (h.onSlow ctx nanos w) = view w

theorem view_askAll {hs : List (Hook ω)} (hhs : ∀ h ∈ hs, h.Keeps view) (ctx : Context) (w : ω) :
    view (askAll ctx hs w).2 = view w := by
  induction hs generalizing w with
  | nil => rfl
  | cons h hs ih =>
    obtain ⟨hh, hhs⟩ := List.forall_mem_cons.1 hhs
    have hfirst := hh.beforeCompile ctx w
    rw [askAll]
    rcases hask : h.beforeCompile ctx w with ⟨_ | reason, w'⟩ <;> rw [hask] at hfirst
    · exact (ih hhs w').trans hfirst
    · exact hfirst

theorem view_foldl {tell : Hook ω → ω → ω} {hs : List (Hook ω)}
    (hhs : ∀ h ∈ hs, ∀ w, view (tell h w) = view w) (w : ω) :
    view (hs.foldl (fun w h => tell h w) w) = view w := by
  induction hs generalizing w with
  | nil => rfl
  | cons h hs ih =>
    obtain ⟨hh, hhs⟩ := List.forall_mem_cons.1 hhs
    exact (ih hhs (tell h w)).trans (hh w)

end Hook

/-! ## Databases -/

namespace Database

/-- The database leaves alone what the view shows, except by asking its hooks. -/
structure Keeps (view : ω → σ) (db : Database ω C) : Prop where
  engine : db.engine.Keeps view
  log : ∀ e w, view (db.log e w) = view w
  clock : ∀ w, view (db.clock w).2 = view w
  afterExecute : ∀ h ∈ db.hooks, ∀ ctx nanos outcome w,
    view (h.afterExecute ctx nanos outcome w) = view w
  onSlow : ∀ h ∈ db.hooks, ∀ ctx nanos w, view (h.onSlow ctx nanos w) = view w

namespace Keeps

variable {db : Database ω C} (h : db.Keeps view)
include h

theorem report (ctx : Context) (nanos : Nat) (outcome : Outcome) :
    (db.report ctx nanos outcome).Keeps view := by
  have hended : (Act.change (db.hook.afterExecute ctx nanos outcome)).Keeps view :=
    .change (Hook.view_foldl fun k hk => h.afterExecute k hk ctx nanos outcome)
  have hslow : (Act.change (db.hook.onSlow ctx nanos)).Keeps view :=
    .change (Hook.view_foldl fun k hk => h.onSlow k hk ctx nanos)
  unfold Database.report
  split_ifs
  · exact hended.bind fun _ => hslow
  · exact hended.bind fun _ => .pure ()
  · exact .pure ()

theorem run (ctx : Context) (describe : O → Outcome) {p : Prepared ω O} (hp : p.Keeps view) :
    (db.run ctx describe p).Keeps view :=
  (Act.Keeps.step h.clock).bind fun _ => hp.executeAndClose.attempt.bind fun result =>
    (Act.Keeps.step h.clock).bind fun _ => (h.report _ _ _).bind fun _ => .ofExcept result

end Keeps

/-- What is done to prepare a statement once the hooks have agreed. -/
def openAndBind (db : Database ω C) (s : Statement) (compile : Act ω (Prepared ω O)) :
    Act ω (Opened ω O) := do
  Act.change (db.log (db.compilingEvent s))
  let opened : Opened ω O := ⟨← compile, s.slots⟩
  opened.prepared.bindAll db.log 1 s.args
  return opened

theorem prepare_eq_openAndBind (db : Database ω C) (s : Statement)
    (compile : Act ω (Prepared ω O)) :
    db.prepare s compile = db.ask s.context >>= fun _ => db.openAndBind s compile := rfl

namespace Keeps

variable {db : Database ω C} (h : db.Keeps view)
include h

theorem openAndBind (s : Statement) {compile : Act ω (Prepared ω O)}
    (hcompile : compile.Opens view) : (db.openAndBind s compile).Keeps view := by
  refine (Act.Keeps.change (h.log _)).bind fun _ => hcompile.keeps.bind_of_ok fun w p hp => ?_
  have hbind := ((hcompile.opened w p hp).prepared s.slots).bindAll h.log 1 s.args
  exact hbind.bind fun _ => .pure _

end Keeps

/-- A statement that the database has opened is one that the engine gave, perhaps seen through a
slot map. -/
theorem keeps_of_openAndBind {db : Database ω C} {s : Statement} {compile : Act ω (Prepared ω O)}
    (hcompile : compile.Opens view) {w : ω} {opened : Opened ω O}
    (hopened : (db.openAndBind s compile w).1 = .ok opened) : opened.prepared.Keeps view := by
  obtain ⟨_, _, -, hopened⟩ := Act.exists_of_bind_ok hopened
  obtain ⟨p, w, hp, hopened⟩ := Act.exists_of_bind_ok hopened
  obtain ⟨_, _, -, hopened⟩ := Act.exists_of_bind_ok hopened
  cases hopened
  exact (hcompile.opened _ p (congrArg Prod.fst hp)).prepared s.slots

end Database

namespace Request

variable {db : Database ω C} {r : Request}

theorem reply_error (r : Request) (e : Error) :
    r.reply (.error e : Except Error (r.Output C)) = .failed e := by
  cases r <;> rfl

theorem run_of_build_error {e : Error} (he : r.build db.dialect = .error e) (w : ω) :
    r.run db w = (.error e, w) := by
  rw [run_eq, he]
  rfl

theorem compile_of_build_error {e : Error} (he : r.build db.dialect = .error e) (w : ω) :
    r.compile db w = (.error e, w) := by
  rw [compile_eq, he]
  rfl

variable {s : Statement} (hs : r.build db.dialect = .ok s)
include hs

theorem run_of_build :
    r.run db = db.ask s.context >>= fun _ => db.openAndBind s (r.compiling db.engine s) >>=
      fun opened => db.run s.context r.describe opened.prepared := by
  rw [run_eq, Act.ofExcept_bind hs, Database.prepare_eq_openAndBind, bind_assoc]

theorem compile_of_build_eq_openAndBind :
    r.compile db = db.ask s.context >>= fun _ => db.openAndBind s (r.compiling db.engine s) := by
  rw [compile_of_build hs, Database.prepare_eq_openAndBind]

end Request

namespace Call

variable {db : Database ω C} {c : Call} {w w' : ω}

/-- Nothing happens for a statement that cannot be written. -/
theorem serve_of_build_error {e : Error} (he : c.request.build db.dialect = .error e) :
    c.serve db w = (.failed e, w) := by
  cases c with
  | run r =>
    rw [serve, Request.run_of_build_error (r := r) he]
    exact congrArg (·, w) (r.reply_error e)
  | compile r =>
    rw [serve, Request.compile_of_build_error (r := r) he]
    rfl

variable {s : Statement} (hs : c.request.build db.dialect = .ok s)
include hs

/-- With a refusal the call ends. -/
theorem serve_of_refused {e : Error} (hask : db.ask s.context w = (.error e, w')) :
    c.serve db w = (.failed e, w') := by
  cases c with
  | run r =>
    rw [serve, Request.run_of_build (r := r) hs, Act.bind_of_error hask]
    exact congrArg (·, w') (r.reply_error e)
  | compile r =>
    rw [serve, Request.compile_of_build_eq_openAndBind (r := r) hs, Act.bind_of_error hask]
    rfl

/-- If the hooks agree, nothing behind their asking changes what the view shows. -/
theorem view_serve_of_agreed (hdb : db.Keeps view) (hask : db.ask s.context w = (.ok (), w')) :
    view (c.serve db w).2 = view w' := by
  have hopens := hdb.engine.compiling c.request s
  have hopen := hdb.openAndBind s hopens
  cases c with
  | run r =>
    rw [serve, Request.run_of_build (r := r) hs, Act.bind_of_ok hask]
    refine hopen.bind_of_ok (fun w opened hopened => ?_) w'
    exact hdb.run _ _ (Database.keeps_of_openAndBind hopens hopened)
  | compile r =>
    rw [serve, Request.compile_of_build_eq_openAndBind (r := r) hs, Act.bind_of_ok hask]
    exact hopen w'

end Call

end SqlBuilder
