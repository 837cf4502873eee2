import SqlBuilder.Proofs.GroupedHooks
import SqlBuilder.Proofs.HookProtocol
import SqlBuilder.Proofs.Untouched

/-!
# Statements counted before they are compiled

A counting hook stands somewhere among the hooks of a database (`Database.CountsAt`) and counts a
statement when it is asked about it.  So it counts the statements that no hook in front of it
refuses (`Database.agreedKinds`), and with them those that only a hook behind it refuses
(`Database.overruledKinds`), although these never get to the engine.  `Database.CountsAsked` says
this of every run of calls, and for which runs the counters are the numbers of the statements that
no hook refuses; it holds whatever engine, clock and the other hooks do, as long as they leave the
counters alone (`Database.CountsAt.countsAsked`).
-/

namespace SqlBuilder

variable {ω C : Type}

/-! ## Counters -/

namespace Stats

/-- The counter of one kind, or of all kinds together. -/
def counter (s : Stats) : Option StatementKind → UInt64
  | none => s.compiled
  | some kind => s.count kind

/-- How many statements the counter counts. -/
def counted : Option StatementKind → List StatementKind → Nat
  | none, kinds => kinds.length
  | some kind, kinds => kinds.count kind

theorem counted_nil (which : Option StatementKind) : counted which [] = 0 := by
  cases which <;> rfl

theorem counted_append (which : Option StatementKind) (front back : List StatementKind) :
    counted which (front ++ back) = counted which front + counted which back := by
  cases which with
  | none => exact List.length_append
  | some kind => exact List.count_append

theorem counted_perm (which : Option StatementKind) {kinds kinds' : List StatementKind}
    (h : kinds.Perm kinds') : counted which kinds = counted which kinds' := by
  cases which with
  | none => exact h.length_eq
  | some kind => exact h.count_eq kind

/-- A statement is counted by the counters of its kind and of all kinds. -/
theorem counter_beforeCompile (kind : StatementKind) (s : Stats) (which : Option StatementKind) :
    (s.beforeCompile kind).counter which = s.counter which + .ofNat (counted which [kind]) := by
  cases which with
  | none => cases kind <;> rfl
  | some k => cases kind <;> cases k <;> simp [counter, counted, beforeCompile, countUp, count]

theorem counter_afterExecute (nanos : Nat) (outcome : Outcome) (s : Stats)
    (which : Option StatementKind) :
    (s.afterExecute nanos outcome).counter which = s.counter which := by
  rcases which with _ | (_ | _ | _ | _ | _ | _) <;> rfl

theorem counter_onSlow (s : Stats) (which : Option StatementKind) :
    s.onSlow.counter which = s.counter which := by
  rcases which with _ | (_ | _ | _ | _ | _ | _) <;> rfl

theorem beforeCompile_ne (kind : StatementKind) (s : Stats) : s.beforeCompile kind ≠ s := by
  intro h
  have hcompiled : s.compiled + 1 = s.compiled + 0 :=
    (counter_beforeCompile kind s none).symm.trans
      ((congrArg (counter · none) h).trans (UInt64.add_zero _).symm)
  exact absurd ((UInt64.add_right_inj _).1 hcompiled) (by decide)

/-- A counter that starts again at zero does not see multiples of `UInt64.size`. -/
theorem add_ofNat_add_eq_iff (start : UInt64) (m n : Nat) :
    start + .ofNat (m + n) = start + .ofNat m ↔ UInt64.size ∣ n := by
  rw [UInt64.add_right_inj, ← UInt64.toNat_inj, UInt64.toNat_ofNat', UInt64.toNat_ofNat',
    Nat.dvd_iff_mod_eq_zero, UInt64.size]
  omega

end Stats

/-! ## Counted statements -/

namespace Call

/-- The kind of the statement, if it can be written and none of the hooks refuses it. -/
def agreed (d : Dialect) (hs : List (Hook ω)) (c : Call) (w : ω) : Option StatementKind :=
  match c.request.build d with
  | .error _ => none
  | .ok s =>
    match (Hook.askAll s.context hs w).1 with
    | .proceed => some s.kind
    | .abort _ => none

/-- The kind of the statement, if none of the hooks in front refuses it but one of all hooks. -/
def overruled (d : Dialect) (front hs : List (Hook ω)) (c : Call) (w : ω) :
    Option StatementKind :=
  match c.agreed d hs w with
  | none => c.agreed d front w
  | some _ => none

theorem agreed_of_build {d : Dialect} {c : Call} {s : Statement} (hs : c.request.build d = .ok s)
    (ks : List (Hook ω)) (w : ω) : c.agreed d ks w =
      match (Hook.askAll s.context ks w).1 with
      | .proceed => some s.kind
      | .abort _ => none := by
  rw [agreed, hs]

theorem agreed_of_build_error {d : Dialect} {c : Call} {e : Error}
    (he : c.request.build d = .error e) (ks : List (Hook ω)) (w : ω) : c.agreed d ks w = none := by
  rw [agreed, he]

theorem agreed_eq_some_iff {d : Dialect} {ks : List (Hook ω)} {c : Call} {w : ω}
    {kind : StatementKind} : c.agreed d ks w = some kind ↔
      ∃ s, c.request.build d = .ok s ∧ (Hook.askAll s.context ks w).1 = .proceed ∧
        s.kind = kind := by
  cases hs : c.request.build d with
  | error e => simp [agreed_of_build_error hs]
  | ok s =>
    rw [agreed_of_build hs]
    cases hask : (Hook.askAll s.context ks w).1 <;> simp [hask]

end Call

namespace Database

/-- The kinds of the statements, in calls one after another, that none of the hooks refuses. -/
def agreedKinds (db : Database ω C) (hs : List (Hook ω)) : List Call → ω → List StatementKind
  | [], _ => []
  | c :: cs, w => (c.agreed db.dialect hs w).toList ++ db.agreedKinds hs cs (c.serve db w).2

/-- The kinds of those that none of the hooks in front refuses but one of the others. -/
def overruledKinds (db : Database ω C) (front : List (Hook ω)) :
    List Call → ω → List StatementKind
  | [], _ => []
  | c :: cs, w => (c.overruled db.dialect front db.hooks w).toList ++
      db.overruledKinds front cs (c.serve db w).2

/-- The hooks are asked, and the one between `front` and `back` counts in a part of the world that
is left alone by all else. -/
structure CountsAt (db : Database ω C) (part : Part ω Stats) (front back : List (Hook ω)) :
    Prop where
  hooks_eq : db.hooks = front ++ Stats.hook part :: back
  enabled : db.config.hooksEnabled
  get_set : ∀ s w, part.get (part.set s w) = s
  others : ∀ h ∈ front ++ back, h.Keeps part.get
  engine : db.engine.Keeps part.get
  log : ∀ e w, part.get (db.log e w) = part.get w
  clock : ∀ w, part.get (db.clock w).2 = part.get w

/-- What the counters in a part of the world tell, if the hook that counts there stands between
`front` and `back`. -/
structure CountsAsked (db : Database ω C) (part : Part ω Stats) (front back : List (Hook ω)) :
    Prop where
  /-- They count the statements that no hook in front refuses. -/
  compiled (cs : List Call) (w : ω) : (part.get (db.serve cs w).2).compiled =
    (part.get w).compiled + .ofNat (db.agreedKinds front cs w).length
  count (cs : List Call) (w : ω) (kind : StatementKind) : (part.get (db.serve cs w).2).count kind =
    (part.get w).count kind + .ofNat ((db.agreedKinds front cs w).count kind)
  /-- These are the statements that no hook refuses and those that only a hook behind refuses. -/
  perm (cs : List Call) (w : ω) : (db.agreedKinds front cs w).Perm
    (db.agreedKinds db.hooks cs w ++ db.overruledKinds front cs w)
  /-- So the counters tell the statements that no hook refuses exactly as long as the number of the
  others is a multiple of `UInt64.size`. -/
  compiled_iff (cs : List Call) (w : ω) : (part.get (db.serve cs w).2).compiled =
      (part.get w).compiled + .ofNat (db.agreedKinds db.hooks cs w).length ↔
    UInt64.size ∣ (db.overruledKinds front cs w).length
  count_iff (cs : List Call) (w : ω) (kind : StatementKind) :
    (part.get (db.serve cs w).2).count kind =
      (part.get w).count kind + .ofNat ((db.agreedKinds db.hooks cs w).count kind) ↔
    UInt64.size ∣ (db.overruledKinds front cs w).count kind
  /-- There are no others if the hooks behind refuse nothing. -/
  unopposed : (∀ h ∈ back, ∀ ctx w, (h.beforeCompile ctx w).1 = .proceed) →
    ∀ cs w, db.overruledKinds front cs w = []
  /-- A statement that cannot be written changes no counter. -/
  notBuilt (c : Call) (w : ω) (e : Error) : c.request.build db.dialect = .error e →
    part.get (c.serve db w).2 = part.get w
  /-- A refused statement changes no counter if the refusal comes from the front, and is counted if
  it comes from behind. -/
  refused (c : Call) (w : ω) (s : Statement) (reason : String) :
    c.request.build db.dialect = .ok s → (Hook.askAll s.context db.hooks w).1 = .abort reason →
      (c.serve db w).1 = .failed (.aborted reason) ∧
      part.get (c.serve db w).2 =
        match (Hook.askAll s.context front w).1 with
        | .proceed => (part.get w).beforeCompile s.kind
        | .abort _ => part.get w
  unchanged_iff (c : Call) (w : ω) (s : Statement) (reason : String) :
    c.request.build db.dialect = .ok s → (Hook.askAll s.context db.hooks w).1 = .abort reason →
      (part.get (c.serve db w).2 = part.get w ↔
        ∃ reason, (Hook.askAll s.context front w).1 = .abort reason)

end Database

/-! ## Asking the hooks -/

namespace Hook

theorem proceeds_of_append {ctx : Context} {hs ks : List (Hook ω)} {w : ω}
    (h : (askAll ctx (hs ++ ks) w).1 = .proceed) : (askAll ctx hs w).1 = .proceed := by
  rw [askAll_append] at h
  rcases hask : askAll ctx hs w with ⟨_ | reason, w'⟩
  · rfl
  · rw [hask] at h
    cases h

/-- Hooks that refuse nothing change no decision. -/
theorem proceeds_append {ctx : Context} {hs ks : List (Hook ω)} {w : ω}
    (hks : ∀ k ∈ ks, ∀ ctx w, (k.beforeCompile ctx w).1 = .proceed)
    (h : (askAll ctx hs w).1 = .proceed) : (askAll ctx (hs ++ ks) w).1 = .proceed := by
  induction ks generalizing hs with
  | nil => rwa [List.append_nil]
  | cons k ks ih =>
    obtain ⟨hk, hks⟩ := List.forall_mem_cons.1 hks
    rw [List.append_cons]
    refine ih hks ?_
    rw [askAll_append]
    rcases hask : askAll ctx hs w with ⟨_ | reason, w'⟩
    · exact (congrArg Prod.fst (askAll_singleton ctx k w')).trans (hk ctx w')
    · rw [hask] at h
      cases h

/-- The hook that refuses the statements of one kind. -/
def refusing (kind : StatementKind) (reason : String) : Hook ω where
  beforeCompile ctx w := (if ctx.kind = kind then .abort reason else .proceed, w)

theorem keeps_refusing {σ : Type} {view : ω → σ} (kind : StatementKind) (reason : String) :
    (refusing kind reason).Keeps view where
  beforeCompile _ _ := rfl
  afterExecute _ _ _ _ := rfl
  onSlow _ _ _ := rfl

end Hook

namespace Database

theorem ask_of_enabled {db : Database ω C} (henabled : db.config.hooksEnabled) (ctx : Context)
    (w : ω) :
    db.ask ctx w = match Hook.askAll ctx db.hooks w with
      | (.proceed, w) => (.ok (), w)
      | (.abort reason, w) => (.error (.aborted reason), w) := by
  have hstep : Act.step (db.hook.beforeCompile ctx) w =
      (.ok (Hook.askAll ctx db.hooks w).1, (Hook.askAll ctx db.hooks w).2) := rfl
  rw [ask, if_pos henabled, Act.bind_of_ok hstep]
  rcases Hook.askAll ctx db.hooks w with ⟨_ | reason, w'⟩ <;> rfl

namespace CountsAt

variable {db : Database ω C} {part : Part ω Stats} {front back : List (Hook ω)}
  (h : db.CountsAt part front back)
include h

theorem get_modify (f : Stats → Stats) (w : ω) : part.get (part.modify f w) = f (part.get w) :=
  h.get_set _ w

/-- Asked about a statement, the hooks count it unless one in front refuses. -/
theorem get_askAll (ctx : Context) (w : ω) :
    part.get (Hook.askAll ctx db.hooks w).2 =
      match (Hook.askAll ctx front w).1 with
      | .proceed => (part.get w).beforeCompile ctx.kind
      | .abort _ => part.get w := by
  obtain ⟨hfront, hback⟩ := List.forall_mem_append.1 h.others
  have hgetfront := Hook.view_askAll hfront ctx w
  rw [h.hooks_eq, Hook.askAll_append]
  rcases hask : Hook.askAll ctx front w with ⟨_ | reason, w'⟩ <;> rw [hask] at hgetfront
  · have hgetback := Hook.view_askAll hback ctx ((Stats.hook part).beforeCompile ctx w').2
    exact hgetback.trans ((h.get_modify _ w').trans (congrArg _ hgetfront))
  · exact hgetfront

/-! ## Calls and runs of calls -/

theorem forall_mem_hooks {p : Hook ω → Prop} (hcounting : p (Stats.hook part))
    (hothers : ∀ k ∈ front ++ back, p k) : ∀ k ∈ db.hooks, p k := by
  obtain ⟨hfront, hback⟩ := List.forall_mem_append.1 hothers
  rw [h.hooks_eq]
  exact List.forall_mem_append.2 ⟨hfront, List.forall_mem_cons.2 ⟨hcounting, hback⟩⟩

/-- Apart from the asking, nothing in a call changes the counters of statements. -/
theorem keeps_counter (which : Option StatementKind) :
    db.Keeps fun w => (part.get w).counter which where
  engine := h.engine.comp (Stats.counter · which)
  log e w := congrArg (Stats.counter · which) (h.log e w)
  clock w := congrArg (Stats.counter · which) (h.clock w)
  afterExecute := by
    refine h.forall_mem_hooks (fun ctx nanos outcome w => ?_) fun k hk ctx nanos outcome w => ?_
    · exact (congrArg (Stats.counter · which) (h.get_modify _ w)).trans
        (Stats.counter_afterExecute nanos outcome _ which)
    · exact congrArg (Stats.counter · which) ((h.others k hk).afterExecute ctx nanos outcome w)
  onSlow := by
    refine h.forall_mem_hooks (fun ctx nanos w => ?_) fun k hk ctx nanos w => ?_
    · exact (congrArg (Stats.counter · which) (h.get_modify _ w)).trans
        (Stats.counter_onSlow _ which)
    · exact congrArg (Stats.counter · which) ((h.others k hk).onSlow ctx nanos w)

/-- With a refusal a call ends. -/
theorem serve_of_abort {c : Call} {w : ω} {s : Statement} {reason : String}
    (hs : c.request.build db.dialect = .ok s)
    (hrefused : (Hook.askAll s.context db.hooks w).1 = .abort reason) :
    c.serve db w = (.failed (.aborted reason), (Hook.askAll s.context db.hooks w).2) := by
  have hask := ask_of_enabled h.enabled s.context w
  rcases hall : Hook.askAll s.context db.hooks w with ⟨_ | _, w'⟩ <;> rw [hall] at hask hrefused
  · cases hrefused
  · cases hrefused
    exact Call.serve_of_refused hs hask

/-- Behind the asking the counters of statements stay as they are. -/
theorem counter_serve_of_build {c : Call} {s : Statement}
    (hs : c.request.build db.dialect = .ok s) (w : ω) (which : Option StatementKind) :
    (part.get (c.serve db w).2).counter which =
      (part.get (Hook.askAll s.context db.hooks w).2).counter which := by
  cases hdecision : (Hook.askAll s.context db.hooks w).1 with
  | abort reason => rw [h.serve_of_abort hs hdecision]
  | proceed =>
    have hask := ask_of_enabled h.enabled s.context w
    rcases hall : Hook.askAll s.context db.hooks w with ⟨_ | _, w'⟩ <;> rw [hall] at hask hdecision
    · exact Call.view_serve_of_agreed hs (h.keeps_counter which) hask
    · cases hdecision

/-- A call counts the statement that no hook in front refuses. -/
theorem counter_serve_call (c : Call) (w : ω) (which : Option StatementKind) :
    (part.get (c.serve db w).2).counter which = (part.get w).counter which +
      .ofNat (Stats.counted which (c.agreed db.dialect front w).toList) := by
  cases hs : c.request.build db.dialect with
  | error e =>
    rw [Call.serve_of_build_error hs, Call.agreed_of_build_error hs]
    simp [Stats.counted_nil]
  | ok s =>
    rw [h.counter_serve_of_build hs, h.get_askAll, Call.agreed_of_build hs]
    cases (Hook.askAll s.context front w).1 with
    | proceed => exact Stats.counter_beforeCompile s.kind (part.get w) which
    | abort => simp [Stats.counted_nil]

theorem counter_serve (cs : List Call) (w : ω) (which : Option StatementKind) :
    (part.get (db.serve cs w).2).counter which = (part.get w).counter which +
      .ofNat (Stats.counted which (db.agreedKinds front cs w)) := by
  induction cs generalizing w with
  | nil => simp [serve, agreedKinds, Stats.counted_nil]
  | cons c cs ih =>
    rw [agreedKinds, Stats.counted_append, UInt64.ofNat_add, ← UInt64.add_assoc,
      ← h.counter_serve_call c w which]
    exact ih (c.serve db w).2

/-! ## Statements that only a hook behind refuses -/

theorem agreed_of_agreed {c : Call} {w : ω} {kind : StatementKind}
    (hall : c.agreed db.dialect db.hooks w = some kind) :
    c.agreed db.dialect front w = some kind := by
  obtain ⟨s, hs, hproceed, hkind⟩ := Call.agreed_eq_some_iff.1 hall
  rw [h.hooks_eq] at hproceed
  exact Call.agreed_eq_some_iff.2 ⟨s, hs, Hook.proceeds_of_append hproceed, hkind⟩

theorem perm_agreedKinds (cs : List Call) (w : ω) : (db.agreedKinds front cs w).Perm
    (db.agreedKinds db.hooks cs w ++ db.overruledKinds front cs w) := by
  induction cs generalizing w with
  | nil => exact .nil
  | cons c cs ih =>
    rw [agreedKinds, agreedKinds, overruledKinds, Call.overruled]
    -- The statement is on both lists, or the one on the left stands further behind on the right, or
    -- it is on none.
    cases hall : c.agreed db.dialect db.hooks w with
    | some kind =>
      rw [h.agreed_of_agreed hall]
      exact (ih _).cons kind
    | none =>
      cases c.agreed db.dialect front w with
      | some kind => exact ((ih _).cons kind).trans List.perm_middle.symm
      | none => exact ih _

theorem overruled_eq_none (hback : ∀ k ∈ back, ∀ ctx w, (k.beforeCompile ctx w).1 = .proceed)
    (c : Call) (w : ω) : c.overruled db.dialect front db.hooks w = none := by
  have hcounting : ∀ k ∈ Stats.hook part :: back, ∀ ctx w, (k.beforeCompile ctx w).1 = .proceed :=
    List.forall_mem_cons.2 ⟨fun _ _ => rfl, hback⟩
  rw [Call.overruled]
  cases hall : c.agreed db.dialect db.hooks w with
  | some kind => rfl
  | none =>
    refine Option.eq_none_iff_forall_ne_some.2 fun kind hfront => ?_
    obtain ⟨s, hs, hproceed, hkind⟩ := Call.agreed_eq_some_iff.1 hfront
    have hproceeds := Hook.proceeds_append hcounting hproceed
    rw [← h.hooks_eq] at hproceeds
    rw [Call.agreed_eq_some_iff.2 ⟨s, hs, hproceeds, hkind⟩] at hall
    cases hall

theorem overruledKinds_eq_nil (hback : ∀ k ∈ back, ∀ ctx w, (k.beforeCompile ctx w).1 = .proceed)
    (cs : List Call) (w : ω) : db.overruledKinds front cs w = [] := by
  induction cs generalizing w with
  | nil => rfl
  | cons c cs ih =>
    rw [overruledKinds, h.overruled_eq_none hback, ih]
    rfl

theorem counter_eq_iff (cs : List Call) (w : ω) (which : Option StatementKind) :
    (part.get (db.serve cs w).2).counter which = (part.get w).counter which +
        .ofNat (Stats.counted which (db.agreedKinds db.hooks cs w)) ↔
      UInt64.size ∣ Stats.counted which (db.overruledKinds front cs w) := by
  rw [h.counter_serve, Stats.counted_perm which (h.perm_agreedKinds cs w), Stats.counted_append]
  exact Stats.add_ofNat_add_eq_iff _ _ _

/-- What a refused statement does to the counters. -/
theorem get_serve_of_abort {c : Call} {w : ω} {s : Statement} {reason : String}
    (hs : c.request.build db.dialect = .ok s)
    (hrefused : (Hook.askAll s.context db.hooks w).1 = .abort reason) :
    part.get (c.serve db w).2 =
      match (Hook.askAll s.context front w).1 with
      | .proceed => (part.get w).beforeCompile s.kind
      | .abort _ => part.get w := by
  rw [h.serve_of_abort hs hrefused]
  exact h.get_askAll s.context w

theorem get_serve_eq_iff_of_abort {c : Call} {w : ω} {s : Statement} {reason : String}
    (hs : c.request.build db.dialect = .ok s)
    (hrefused : (Hook.askAll s.context db.hooks w).1 = .abort reason) :
    part.get (c.serve db w).2 = part.get w ↔
      ∃ reason, (Hook.askAll s.context front w).1 = .abort reason := by
  rw [h.get_serve_of_abort hs hrefused]
  cases (Hook.askAll s.context front w).1 with
  | proceed => simp [Stats.beforeCompile_ne]
  | abort reason => simp

/-- **Statements are counted when the counting hook is asked.**  Along every run of calls the
counters tell how many statements none of the hooks in front refused, of all kinds and of each kind.
These are more than the statements that no hook refused by those that a hook behind refused. -/
theorem countsAsked : db.CountsAsked part front back where
  compiled cs w := h.counter_serve cs w none
  count cs w kind := h.counter_serve cs w (some kind)
  perm := h.perm_agreedKinds
  compiled_iff cs w := h.counter_eq_iff cs w none
  count_iff cs w kind := h.counter_eq_iff cs w (some kind)
  unopposed := h.overruledKinds_eq_nil
  notBuilt c w e he := by rw [Call.serve_of_build_error he]
  refused c w s reason hs hrefused :=
    ⟨congrArg Prod.fst (h.serve_of_abort hs hrefused), h.get_serve_of_abort hs hrefused⟩
  unchanged_iff c w s reason hs hrefused := h.get_serve_eq_iff_of_abort hs hrefused

end CountsAt

/-- Counters beside a recording engine. -/
def counters : Part (Stats × Recorder) Stats := ⟨Prod.fst, fun s w => (s, w.2)⟩

/-- The counting hook stands in front of one that refuses deletions. -/
def readOnly : Database (Stats × Recorder) RecordedCursor where
  engine := Recorder.engine ⟨Prod.snd, fun r w => (w.1, r)⟩
  dialect := .sqlite
  hooks := [Stats.hook counters, .refusing .delete "read only"]

theorem countsAt_readOnly : readOnly.CountsAt counters [] [.refusing .delete "read only"] where
  hooks_eq := rfl
  enabled := rfl
  get_set _ _ := rfl
  others := List.forall_mem_singleton.2 (Hook.keeps_refusing _ _)
  engine := Recorder.keeps_engine fun _ _ => rfl
  log _ _ := rfl
  clock _ := rfl

/-- An insert, a deletion and a query are counted, although the deletion is refused. -/
theorem countsAsked_readOnly :
    readOnly.CountsAt counters [] [.refusing .delete "read only"] ∧
      readOnly.CountsAsked counters [] [.refusing .delete "read only"] ∧
      (readOnly.serve guardedCalls ({}, {})).1 =
        [.affected 1, .failed (.aborted "read only"), .handedOver] ∧
      readOnly.agreedKinds [] guardedCalls ({}, {}) = [.insert, .delete, .select] ∧
      readOnly.agreedKinds readOnly.hooks guardedCalls ({}, {}) = [.insert, .select] ∧
      readOnly.overruledKinds [] guardedCalls ({}, {}) = [.delete] :=
  ⟨countsAt_readOnly, countsAt_readOnly.countsAsked, rfl, rfl, rfl, rfl⟩

/-- Deletes all users. -/
def deletion : Call := .run (.change (.delete { table := users }))

/-- A refused deletion is counted as compiled, although there is no statement that all hooks agreed
to. -/
theorem refused_deletion_counted :
    readOnly.CountsAt counters [] [.refusing .delete "read only"] ∧
      (readOnly.serve [deletion] ({}, {})).1 = [.failed (.aborted "read only")] ∧
      counters.get (readOnly.serve [deletion] ({}, {})).2 = { compiled := 1, deletes := 1 } ∧
      (counters.get (readOnly.serve [deletion] ({}, {})).2).compiled ≠
        (counters.get ({}, {})).compiled +
          .ofNat (readOnly.agreedKinds readOnly.hooks [deletion] ({}, {})).length :=
  ⟨countsAt_readOnly, rfl, rfl, by decide⟩

end Database

end SqlBuilder
