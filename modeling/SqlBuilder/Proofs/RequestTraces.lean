import SqlBuilder.Proofs.EngineCalls
import SqlBuilder.Database.Workbench

/-!
# Traces of whole runs

A run of a statement under construction, whatever it does and whichever calls of the engine fail,
leaves one of a few traces in the engine: nothing; a compilation that fails; a compilation, the
binds up to the first that fails, and the closing; or a compilation, all binds, the execution and
the closing (`Request.orderly`).  The result is the first failure on this way.  So no statement is
left open, and none is executed before each of its slots has a value.
-/

namespace SqlBuilder

variable {ω C O α β : Type}

/-! ## Engine and hooks apart -/

namespace Event

/-- The calls of the engine among the events. -/
def calls (events : List Event) : List Event := events.filter isEngine

/-- The engine compiles or binds. -/
def opens : Event → Bool
  | engine (.compile _ _ _) _ => true
  | engine (.bind _ _) _ => true
  | _ => false

/-- The reasons of hooks that refuse. -/
def refusals (events : List Event) : List String := events.filterMap refusal?

variable {events : List Event}

theorem calls_append (front back : List Event) :
    calls (front ++ back) = calls front ++ calls back :=
  List.filter_append front back

theorem refusals_append (front back : List Event) :
    refusals (front ++ back) = refusals front ++ refusals back :=
  List.filterMap_append

theorem isEngine_of_opens {e : Event} (h : e.opens) : e.isEngine := by
  cases e with
  | engine => rfl
  | _ => cases h

theorem calls_of_engine (h : ∀ e ∈ events, e.isEngine) : calls events = events :=
  List.filter_eq_self.2 h

theorem refusals_of_engine (h : ∀ e ∈ events, e.isEngine) : refusals events = [] := by
  refine List.filterMap_eq_nil_iff.2 fun e he => ?_
  have hengine := h e he
  cases e with
  | engine => rfl
  | _ => cases hengine

end Event

open Event

theorem opens_bound (ps : List (Value × Nat)) : ∀ e ∈ bound ps, e.opens :=
  List.forall_mem_map.2 fun _ _ => rfl

theorem Binds.opens {ps : List (Value × Nat)} {events : List Event} {r : Except Error Unit}
    (h : Binds ps events r) : ∀ e ∈ events, e.opens := by
  cases h with
  | all => exact opens_bound ps
  | failed => exact List.forall_mem_append.2 ⟨opens_bound _, by simp [Event.opens]⟩

theorem Statement.opens_opening (s : Statement) {call : EngineCall}
    (hcall : (Event.engine call none).opens) : ∀ e ∈ s.opening call, e.opens :=
  List.forall_mem_cons.2 ⟨hcall, opens_bound _⟩

theorem Statement.isEngine_opening (s : Statement) (call : EngineCall) :
    ∀ e ∈ s.opening call, e.isEngine :=
  List.forall_mem_cons.2 ⟨rfl, fun e he => isEngine_of_opens (opens_bound _ e he)⟩

theorem Statement.Fails.isEngine {s : Statement} {call : EngineCall} {events : List Event}
    {e : Error} (h : s.Fails call events e) : ∀ e ∈ events, e.isEngine := by
  cases h with
  | compiling e => simp [Event.isEngine]
  | binding closing hbinds =>
    refine List.forall_mem_cons.2 ⟨rfl, List.forall_mem_append.2 ⟨fun e he => ?_, ?_⟩⟩
    · exact isEngine_of_opens (hbinds.opens e he)
    · simp [Event.isEngine]

theorem Executes.isEngine {events : List Event} {r : Except Error O} (h : Executes events r) :
    ∀ e ∈ events, e.isEngine := by
  cases h <;> simp [Event.isEngine]

theorem Hook.Asked.calls_eq_nil {ctx : Context} {first count : Nat} {events : List Event}
    {decision : Decision} (h : Asked ctx first count events decision) : calls events = [] := by
  induction h with
  | nobody => rfl
  | refused => rfl
  | next _ ih => exact ih

theorem Hook.Asked.refusals_eq {ctx : Context} {first count : Nat} {events : List Event}
    {decision : Decision} (h : Asked ctx first count events decision) :
    refusals events = decision.reason?.toList := by
  induction h with
  | nobody => rfl
  | refused => rfl
  | next _ ih => exact ih

namespace Database

variable {db : Database ω C} {ctx : Context} {asked : List Event}

theorem Consulted.calls_eq_nil {r : Except Error Unit} (h : db.Consulted ctx asked r) :
    calls asked = [] := by
  cases h with
  | nobody => rfl
  | agreed _ h => exact h.calls_eq_nil
  | refused _ h => exact h.calls_eq_nil

theorem Consulted.refusals_eq_nil (h : db.Consulted ctx asked (.ok ())) : refusals asked = [] := by
  cases h with
  | nobody => rfl
  | agreed _ h => exact h.refusals_eq

theorem Consulted.exists_reason {e : Error} (h : db.Consulted ctx asked (.error e)) :
    ∃ reason, e = .aborted reason ∧ refusals asked = [reason] := by
  cases h with
  | refused _ h => exact ⟨_, rfl, h.refusals_eq⟩

theorem calls_reported (db : Database ω C) (ctx : Context) (nanos : Nat) (outcome : Outcome) :
    calls (db.reported ctx nanos outcome) = [] := by
  unfold reported calls
  split_ifs <;> simp [Event.isEngine]

theorem refusals_reported (db : Database ω C) (ctx : Context) (nanos : Nat) (outcome : Outcome) :
    refusals (db.reported ctx nanos outcome) = [] := by
  unfold reported refusals
  split_ifs <;> simp [Event.refusal?]

end Database

/-! ## Whole runs -/

/-- Any statement under construction. -/
inductive Request where
  | change (draft : Draft)
  | query (q : Select)

namespace Request

/-- The statement in a dialect, or why there is none. -/
def build (d : Dialect) : Request → Except Error Statement
  | change draft => draft.build d
  | query q => q.build d

/-- What the statement gives when it is executed. -/
def Output (C : Type) : Request → Type
  | change _ => UInt64
  | query _ => C

/-- The call that compiles the statement. -/
def call : Request → Statement → EngineCall
  | change _, s => .compile s.kind [s.table] s.sql
  | query _, s => .compile .select s.tables s.sql

/-- Compiles the statement and binds its values, for the caller to execute. -/
def compile (db : Database ω C) : (r : Request) → Act ω (Opened ω (r.Output C))
  | change draft => db.compile draft
  | query q => db.compileQuery q

/-- Executes the statement from beginning to end. -/
def run (db : Database ω C) : (r : Request) → Act ω (r.Output C)
  | change draft => db.execute draft
  | query q => db.query q

/-- The values of an insert-or-replace have been set one after another.  Nothing is asked of the
others. -/
def Reachable : Request → Prop
  | change (.insertOrReplace s) => ∃ es, s.values = .ofEntries es
  | _ => True

/-- What the hooks refuse, what the engine is called for and what comes of it.  `P` says how it goes
on behind the last bind. -/
inductive Traced {α : Type} (built : Except Error Statement) (call : Statement → EngineCall)
    (P : Statement → List Event → Except Error α → Prop) :
    (refusals : List String) → (calls : List Event) → Except Error α → Prop
  | notBuilt {e : Error} : built = .error e → Traced built call P [] [] (.error e)
  | refused {s : Statement} (reason : String) : built = .ok s →
    Traced built call P [reason] [] (.error (.aborted reason))
  | failed {s : Statement} {calls : List Event} {e : Error} : built = .ok s →
    s.Fails (call s) calls e → Traced built call P [] calls (.error e)
  | opened {s : Statement} {calls : List Event} {r : Except Error α} : built = .ok s →
    P s calls r → Traced built call P [] (s.opening (call s) ++ calls) r

/-- A statement is handed over with all of its values bound; it is neither executed nor closed. -/
inductive HandedOver (s : Statement) : List Event → Except Error (Opened ω O) → Prop
  | opened (p : Prepared ω O) : HandedOver s [] (.ok ⟨p, s.slots⟩)

section Statements

variable {d : Dialect} {s : Statement}

theorem covered_of_upsert {u : Upsert} (hu : ∃ es, u.values = .ofEntries es)
    (h : u.build d = .ok s) : s.Covered := by
  obtain ⟨es, hes⟩ := hu
  have hvalues : u.values.Coherent := hes ▸ KeyedAssignments.coherent_ofEntries es
  obtain ⟨-, t, -, rfl⟩ := Upsert.build_eq_ok_iff.1 h
  have hperm := hvalues.flatten_targets_perm d.rebinds
  constructor
  case size =>
    rintro m ⟨⟩
    rw [SlotMap.size, List.length_map, hvalues.clientArgs_length, KeyedAssignments.size]
  case slots =>
    have hslots := hvalues.map_snd_spread d.rebinds
    show ((u.values.spread d.rebinds (u.values.clientArgs.zipIdx 1)).map (·.2)).Perm
      (List.range' 1 (List.flatten _).length)
    rw [hslots, hperm.length_eq, List.length_range']
    exact hperm

theorem covered_of_build {r : Request} (hr : r.Reachable) (h : r.build d = .ok s) :
    s.Covered := by
  cases r with
  | query q =>
    obtain ⟨t, -, rfl⟩ := return_eq_ok_iff.1 (ofFault_eq_ok_iff.1 h)
    exact Statement.covered_of_slots_eq_none rfl
  | change draft =>
    cases draft with
    | insertOrReplace u => exact covered_of_upsert hr h
    | insert i =>
      obtain ⟨-, t, -, rfl⟩ := Insert.build_eq_ok_iff.1 h
      exact Statement.covered_of_slots_eq_none rfl
    | update u =>
      obtain ⟨-, t, -, rfl⟩ := Update.build_eq_ok_iff.1 h
      exact Statement.covered_of_slots_eq_none rfl
    | delete e =>
      obtain ⟨t, -, rfl⟩ := return_eq_ok_iff.1 (ofFault_eq_ok_iff.1 h)
      exact Statement.covered_of_slots_eq_none rfl
    | createTable t =>
      obtain ⟨sql, -, rfl⟩ := return_eq_ok_iff.1 (ofFault_eq_ok_iff.1 h)
      exact Statement.covered_of_slots_eq_none rfl

end Statements

section Shows

variable {built : Except Error Statement} {call : Statement → EngineCall}
  {P : Statement → List Event → Except Error β → Prop} {view : β → α}

/-- What is seen when a statement is prepared and `f` goes on with it. -/
theorem shows_traced (db : Database ω C) (hs : ∀ s, built = .ok s → s.Covered)
    {compile : Statement → Act ω (Prepared ω O)}
    {f : Statement → Opened (Watched ω) O → Act (Watched ω) α}
    {g : Statement → Opened ω O → Act ω β}
    (h : ∀ s p, Act.Shows (f s (Opened.watched ⟨p, s.slots⟩)) (g s ⟨p, s.slots⟩) view
      fun events r => refusals events = [] ∧ P s (calls events) r) :
    Act.Shows
      (do
        let s ← Act.ofExcept built
        f s (← db.watched.prepare s (Prepared.watched <$> (compile s).seenAs (call s))))
      (do
        let s ← Act.ofExcept built
        g s (← db.prepare s (compile s)))
      view fun events r => Traced built call P (refusals events) (calls events) r := by
  cases hb : built with
  | error e =>
    refine .bind (.ofExcept ?_)
    exact .notBuilt rfl
  | ok s =>
    refine .bind (.ofExcept (.bind ((db.shows_prepare (hs s hb) (call s) (compile s)).mono ?_)))
    intro front r hfront
    cases hfront with
    | refused hasked =>
      obtain ⟨reason, rfl, hreason⟩ := hasked.exists_reason
      show Traced _ call P (refusals front) (calls front) _
      rw [hreason, hasked.calls_eq_nil]
      exact .refused reason rfl
    | @failed asked events e hasked hfails =>
      show Traced _ call P (refusals (asked ++ events)) (calls (asked ++ events)) _
      rw [refusals_append, calls_append, hasked.refusals_eq_nil, hasked.calls_eq_nil,
        refusals_of_engine hfails.isEngine, calls_of_engine hfails.isEngine]
      exact .failed rfl hfails
    | @opened asked p hasked =>
      refine (h s p).mono fun back r hback => ?_
      obtain ⟨hrefusals, hP⟩ := hback
      have hopening := s.isEngine_opening (call s)
      show Traced _ call P (refusals (asked ++ s.opening (call s) ++ back))
        (calls (asked ++ s.opening (call s) ++ back)) r
      rw [refusals_append, refusals_append, calls_append, calls_append, hasked.refusals_eq_nil,
        hasked.calls_eq_nil, refusals_of_engine hopening, calls_of_engine hopening, hrefusals]
      exact .opened rfl hP

/-- A statement that is executed. -/
theorem shows_executed (db : Database ω C) (ctx : Context) (describe : O → Outcome)
    (p : Prepared ω O) (slots : Option SlotMap) :
    Act.Shows (db.watched.run ctx describe (Opened.mk p.watched slots).prepared)
      (db.run ctx describe (Opened.mk p slots).prepared) id
      fun events r => refusals events = [] ∧ Executes (calls events) r := by
  refine (db.shows_run ctx describe p slots).mono ?_
  rintro events r ⟨executed, nanos, hexecuted, rfl⟩
  rw [refusals_append, calls_append, Database.refusals_reported, Database.calls_reported,
    refusals_of_engine hexecuted.isEngine, calls_of_engine hexecuted.isEngine, List.append_nil,
    List.append_nil]
  exact ⟨rfl, hexecuted⟩

/-- A statement that is handed over. -/
theorem shows_handedOver (db : Database ω C) (hs : ∀ s, built = .ok s → s.Covered)
    (compile : Statement → Act ω (Prepared ω O)) :
    Act.Shows
      (do
        let s ← Act.ofExcept built
        db.watched.prepare s (Prepared.watched <$> (compile s).seenAs (call s)))
      (do
        let s ← Act.ofExcept built
        db.prepare s (compile s))
      Opened.watched
      fun events r => Traced built call HandedOver (refusals events) (calls events) r := by
  have hpure := @shows_traced ω C O _ _ built call HandedOver Opened.watched db hs compile
    (fun _ => pure) (fun _ => pure) fun s p => .pure rfl ⟨rfl, .opened p⟩
  simpa only [bind_pure] using hpure

variable (db : Database ω C) {r : Request} (hr : r.Reachable)
include hr

theorem shows_run : Act.Shows (r.run db.watched) (r.run db) id fun events result =>
    Traced (r.build db.dialect) r.call (fun _ => Executes) (refusals events) (calls events)
      result := by
  have hcovered (s : Statement) (h : r.build db.dialect = .ok s) := covered_of_build hr h
  cases r with
  | change draft =>
    exact shows_traced db hcovered fun s p => shows_executed db s.context .affected p s.slots
  | query q =>
    exact shows_traced db hcovered fun s p =>
      shows_executed db s.context (fun _ => .cursor) p s.slots

theorem shows_compile : Act.Shows (r.compile db.watched) (r.compile db) Opened.watched
    fun events result =>
      Traced (r.build db.dialect) r.call HandedOver (refusals events) (calls events) result := by
  have hcovered (s : Statement) (h : r.build db.dialect = .ok s) := covered_of_build hr h
  cases r with
  | change draft =>
    exact shows_handedOver db hcovered fun s => db.engine.compile s.kind s.table s.sql
  | query q => exact shows_handedOver db hcovered fun s => db.engine.compileQuery s.tables s.sql

end Shows

/-! ## Nothing is left open -/

/-- A statement that is compiled is closed, with that its calls end, and it is executed only behind
its compilation and all of its binds, which is at most once. -/
structure Released (built : Except Error Statement) (call : Statement → EngineCall)
    (calls : List Event) : Prop where
  closed : ∀ kind tables sql, .engine (.compile kind tables sql) none ∈ calls →
    ∃ closing, .engine .close closing ∈ calls
  last : ∀ front closing behind, calls = front ++ .engine .close closing :: behind → behind = []
  executed : ∀ front failure behind, calls = front ++ .engine .execute failure :: behind →
    ∃ s, built = .ok s ∧ front = s.opening (call s)

/-- An event that is not in front is behind. -/
theorem exists_middle {pre tail front behind : List Event} {x : Event} (hx : x ∉ pre)
    (h : pre ++ tail = front ++ x :: behind) :
    ∃ middle, front = pre ++ middle ∧ tail = middle ++ x :: behind := by
  rcases List.append_eq_append_iff.1 h with ⟨middle, hfront, htail⟩ | ⟨middle, hpre, hbehind⟩
  · exact ⟨middle, hfront, htail⟩
  · cases middle with
    | nil => exact ⟨[], by simpa using hpre.symm, by simpa using hbehind.symm⟩
    | cons y middle =>
      obtain rfl := (List.cons.inj hbehind).1
      exact absurd (by simp [hpre]) hx

section Released

variable {built : Except Error Statement} {call : Statement → EngineCall} {pre : List Event}

theorem close_notMem (hpre : ∀ e ∈ pre, e.opens) (closing : Option Error) :
    .engine .close closing ∉ pre :=
  fun h => absurd (hpre _ h) (by simp [Event.opens])

theorem execute_notMem (hpre : ∀ e ∈ pre, e.opens) (failure : Option Error) :
    .engine .execute failure ∉ pre :=
  fun h => absurd (hpre _ h) (by simp [Event.opens])

/-- Nothing is compiled. -/
theorem released_of_notMem (hpre : ∀ e ∈ pre, e.opens)
    (hcompile : ∀ kind tables sql, .engine (.compile kind tables sql) none ∉ pre) :
    Released built call pre := by
  constructor
  case closed => exact fun kind tables sql h => absurd h (hcompile kind tables sql)
  case last =>
    rintro front closing behind rfl
    exact absurd (by simp) (close_notMem hpre closing)
  case executed =>
    rintro front failure behind rfl
    exact absurd (by simp) (execute_notMem hpre failure)

/-- A statement is closed before it is executed. -/
theorem released_closed (hpre : ∀ e ∈ pre, e.opens) (closing : Option Error) :
    Released built call (pre ++ [.engine .close closing]) := by
  constructor
  case closed => exact fun kind tables sql _ => ⟨closing, by simp⟩
  case last =>
    intro front closing' behind h
    obtain ⟨middle, -, htail⟩ := exists_middle (close_notMem hpre closing') h
    rcases middle with _ | ⟨y, middle⟩ <;> simp_all
  case executed =>
    intro front failure behind h
    obtain ⟨middle, -, htail⟩ := exists_middle (execute_notMem hpre failure) h
    rcases middle with _ | ⟨y, middle⟩ <;> simp at htail

theorem released_executed {s : Statement} (hs : built = .ok s)
    (hcall : (Event.engine (call s) none).opens) {calls : List Event} {r : Except Error O}
    (h : Executes calls r) : Released built call (s.opening (call s) ++ calls) := by
  obtain ⟨failure, closing, rfl⟩ := h.exists_closing
  have hpre := s.opens_opening hcall
  constructor
  case closed => exact fun kind tables sql _ => ⟨closing, by simp⟩
  case last =>
    intro front closing' behind h
    obtain ⟨middle, -, htail⟩ := exists_middle (close_notMem hpre closing') h
    rcases middle with _ | ⟨y, _ | ⟨z, middle⟩⟩ <;> simp_all
  case executed =>
    intro front failure' behind h
    obtain ⟨middle, hfront, htail⟩ := exists_middle (execute_notMem hpre failure') h
    rcases middle with _ | ⟨y, _ | ⟨z, middle⟩⟩
    · exact ⟨s, hs, by rw [hfront, List.append_nil]⟩
    · simp at htail
    · simp at htail

theorem released_of_fails {s : Statement} (hcall : ∀ failure, (Event.engine (call s) failure).opens)
    {calls : List Event} {e : Error} (h : s.Fails (call s) calls e) :
    Released built call calls := by
  cases h with
  | compiling e => exact released_of_notMem (by simpa using hcall _) (by simp)
  | binding closing hbinds =>
    rw [← List.cons_append]
    exact released_closed (List.forall_mem_cons.2 ⟨hcall none, hbinds.opens⟩) closing

theorem opens_call (r : Request) (s : Statement) (failure : Option Error) :
    (Event.engine (r.call s) failure).opens := by
  cases r <;> rfl

theorem Traced.released {r : Request} {refusals : List String} {calls : List Event}
    {result : Except Error O} (h : Traced built r.call (fun _ => Executes) refusals calls result) :
    Released built r.call calls := by
  cases h with
  | notBuilt => exact released_of_notMem (by simp) (by simp)
  | refused => exact released_of_notMem (by simp) (by simp)
  | failed _ h => exact released_of_fails (r.opens_call _) h
  | opened hs h => exact released_executed hs (r.opens_call _ none) h

theorem Traced.released_of_error {r : Request} {refusals : List String} {calls : List Event}
    {e : Error} (h : Traced built r.call (HandedOver (ω := ω) (O := O)) refusals calls (.error e)) :
    Released built r.call calls := by
  generalize hresult : Except.error e = result at h
  cases h with
  | notBuilt => exact released_of_notMem (by simp) (by simp)
  | refused => exact released_of_notMem (by simp) (by simp)
  | failed _ h => exact released_of_fails (r.opens_call _) h
  | opened hs h => cases h; cases hresult

end Released

/-! ## Runs and compilations -/

/-- Running and compiling a statement, seen from a world in which nothing has been seen. -/
structure Orderly (db : Database ω C) (r : Request) (w : ω) : Prop where
  /-- Each slot of the text is bound once. -/
  slots : ∀ s, r.build db.dialect = .ok s → (s.placed.map (·.2)).Perm (List.range' 1 s.argCount)
  run : ∃ events,
    r.run db.watched ⟨w, []⟩ = ((r.run db w).1, ⟨(r.run db w).2, events⟩) ∧
    Traced (r.build db.dialect) r.call (fun _ => Executes) (refusals events) (calls events)
      (r.run db w).1 ∧
    Released (r.build db.dialect) r.call (calls events)
  compile : ∃ events,
    r.compile db.watched ⟨w, []⟩ =
      ((r.compile db w).1.map Opened.watched, ⟨(r.compile db w).2, events⟩) ∧
    Traced (r.build db.dialect) r.call HandedOver (refusals events) (calls events)
      (r.compile db w).1 ∧
    ∀ e, (r.compile db w).1 = .error e → Released (r.build db.dialect) r.call (calls events)

/-- Whatever statement it is, whatever the hooks decide and whichever calls of the engine fail. -/
theorem orderly (db : Database ω C) {r : Request} (hr : r.Reachable) (w : ω) : r.Orderly db w := by
  constructor
  case slots => exact fun s hs => (covered_of_build hr hs).slots
  case run =>
    obtain ⟨events, hrun, htraced⟩ := shows_run db hr w []
    rw [Except.map_id, id, List.nil_append] at hrun
    exact ⟨events, hrun, htraced, htraced.released⟩
  case compile =>
    obtain ⟨events, hcompile, htraced⟩ := shows_compile db hr w []
    rw [List.nil_append] at hcompile
    refine ⟨events, hcompile, htraced, fun e he => ?_⟩
    rw [he] at htraced
    exact htraced.released_of_error

/-- An insert-or-replace whose key comes late, on an engine that takes everything. -/
theorem orderly_late_key :
    (change (.insertOrReplace ⟨users, .ofEntries [(userName.column, .string "ann"),
      (userId.column, .long 1)]⟩)).Reachable ∧
    (change (.insertOrReplace ⟨users, .ofEntries [(userName.column, .string "ann"),
      (userId.column, .long 1)]⟩)).Orderly
        (Workbench.database Bundled.generic.dialect {} []) {} := by
  have hr : (change (.insertOrReplace ⟨users, .ofEntries [(userName.column, .string "ann"),
      (userId.column, .long 1)]⟩)).Reachable :=
    Exists.intro [(userName.column, .string "ann"), (userId.column, .long 1)] rfl
  exact ⟨hr, orderly _ hr _⟩

/-- The same where slot 3 takes nothing: the second bind of the name closes the statement. -/
example : calls ((change (.insertOrReplace ⟨users, .ofEntries [(userName.column, .string "ann"),
      (userId.column, .long 1)]⟩)).run (Workbench.database Bundled.generic.dialect {} []).watched
        ⟨{ recorder := { settings := { failBind := some (.other "no"), failBindAt := some 3 } } },
          []⟩).2.seen.tail =
    [.engine (.bind 2 (.string "ann")) none,
      .engine (.bind 3 (.string "ann")) (some (.other "no")), .engine .close none] :=
  rfl

end Request

end SqlBuilder
