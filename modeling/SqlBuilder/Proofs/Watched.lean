import SqlBuilder.Engine.Recorder
import SqlBuilder.Proofs.Binding

/-!
# Watching a database

A `Watched` world keeps, next to a world, the events seen in it: the calls that the engine gets with
their failures, and what the hooks are asked and told.  `Database.watched` is a database in watched
worlds that does what the database it is made of does, whatever its engine and its hooks are.
`Act.Shows` says that, and what is seen; it is proved along the program, one rule for each way of
putting actions together.  `Act.ShowsAt` says it of one world, for what is seen of the clock there.
-/

namespace SqlBuilder

/-! ## Events -/

/-- What can be seen of a database at work.  Hooks have numbers. -/
inductive Event where
  /-- The engine gets a call, and fails or not. -/
  | engine (call : EngineCall) (failure : Option Error)
  | asked (hook : Nat) (ctx : Context) (decision : Decision)
  | ended (hook : Nat) (ctx : Context) (nanos : Nat) (outcome : Outcome)
  | slow (hook : Nat) (ctx : Context) (nanos : Nat)

/-- The reason for a refusal. -/
def Decision.reason? : Decision → Option String
  | proceed => none
  | abort reason => some reason

namespace Event

/-- The event is a call of the engine. -/
def isEngine : Event → Bool
  | engine _ _ => true
  | _ => false

/-- The reason, if the event is that a hook refuses. -/
def refusal? : Event → Option String
  | asked _ _ decision => decision.reason?
  | _ => none

end Event

/-- A world with the events seen in it. -/
structure Watched (ω : Type) where
  world : ω
  seen : List Event := []

/-! ## Actions -/

namespace Act

variable {ω α β γ δ : Type}

/-- The error of an action that failed. -/
def failure? : Except Error α → Option Error
  | .ok _ => none
  | .error e => some e

/-- The action in a watched world, seen as a call of the engine. -/
def seenAs (call : EngineCall) (x : Act ω α) : Act (Watched ω) α := fun w =>
  ((x w.world).1, ⟨(x w.world).2, w.seen ++ [.engine call (failure? (x w.world).1)]⟩)

/-- In watched worlds `x` does what `y` does, results up to `view`, and shows events that, with the
result, are as `post` says. -/
def Shows (x : Act (Watched ω) α) (y : Act ω β) (view : β → α)
    (post : List Event → Except Error β → Prop) : Prop :=
  ∀ w seen, ∃ events,
    x ⟨w, seen⟩ = ((y w).1.map view, ⟨(y w).2, seen ++ events⟩) ∧ post events (y w).1

/-- As `Shows`, in one world. -/
def ShowsAt (w : ω) (x : Act (Watched ω) α) (y : Act ω β) (view : β → α)
    (post : List Event → Except Error β → Prop) : Prop :=
  ∀ seen, ∃ events,
    x ⟨w, seen⟩ = ((y w).1.map view, ⟨(y w).2, seen ++ events⟩) ∧ post events (y w).1

theorem shows_iff_forall_showsAt {x : Act (Watched ω) α} {y : Act ω β} {view : β → α}
    {post : List Event → Except Error β → Prop} :
    Shows x y view post ↔ ∀ w, ShowsAt w x y view post :=
  Iff.rfl

theorem Shows.at {x : Act (Watched ω) α} {y : Act ω β} {view : β → α}
    {post : List Event → Except Error β → Prop} (h : Shows x y view post) (w : ω) :
    ShowsAt w x y view post :=
  shows_iff_forall_showsAt.1 h w

namespace ShowsAt

variable {w : ω} {x : Act (Watched ω) α} {y : Act ω β} {view : β → α} {view' : δ → γ}
  {mid : List Event → Except Error β → Prop} {post : List Event → Except Error δ → Prop}

theorem mono {mid' : List Event → Except Error β → Prop} (h : ShowsAt w x y view mid)
    (hmid : ∀ events, mid events (y w).1 → mid' events (y w).1) : ShowsAt w x y view mid' := by
  intro seen
  obtain ⟨events, hx, hevents⟩ := h seen
  exact ⟨events, hx, hmid events hevents⟩

protected theorem bind {f : α → Act (Watched ω) γ} {g : β → Act ω δ} (h : ShowsAt w x y view mid)
    (hok : ∀ front b, (y w).1 = .ok b → mid front (.ok b) →
      ShowsAt (y w).2 (f (view b)) (g b) view' fun back r => post (front ++ back) r)
    (herror : ∀ front e, (y w).1 = .error e → mid front (.error e) → post front (.error e)) :
    ShowsAt w (x >>= f) (y >>= g) view' post := by
  intro seen
  obtain ⟨front, hx, hfront⟩ := h seen
  rcases hy : y w with ⟨e | b, w'⟩
  · rw [hy] at hx hfront herror
    rw [bind_of_error hx, bind_of_error hy]
    exact ⟨front, rfl, herror front e rfl hfront⟩
  · rw [hy] at hx hfront hok
    obtain ⟨back, hf, hback⟩ := hok front b rfl hfront (seen ++ front)
    rw [bind_of_ok hx, bind_of_ok hy]
    exact ⟨front ++ back, by rw [hf, List.append_assoc], hback⟩

/-- What comes after an attempt goes on with how it ended. -/
theorem attempt_bind {x : Act (Watched ω) β} {f : Except Error β → Act (Watched ω) γ}
    {g : Except Error β → Act ω δ} (h : ShowsAt w x y id mid)
    (hnext : ∀ front, mid front (y w).1 →
      ShowsAt (y w).2 (f (y w).1) (g (y w).1) view' fun back r => post (front ++ back) r) :
    ShowsAt w (x.attempt >>= f) (y.attempt >>= g) view' post := by
  intro seen
  obtain ⟨front, hx, hfront⟩ := h seen
  obtain ⟨back, hf, hback⟩ := hnext front hfront (seen ++ front)
  refine ⟨front ++ back, ?_, hback⟩
  rw [← List.append_assoc]
  refine Eq.trans ?_ hf
  show f (x ⟨w, seen⟩).1 (x ⟨w, seen⟩).2 = _
  rw [hx, Except.map_id, id]

end ShowsAt

namespace Shows

variable {x : Act (Watched ω) α} {y : Act ω β} {view : β → α}
  {post post' : List Event → Except Error β → Prop}

theorem mono (h : Shows x y view post) (hpost : ∀ events r, post events r → post' events r) :
    Shows x y view post' := by
  intro w seen
  obtain ⟨events, hx, hevents⟩ := h w seen
  exact ⟨events, hx, hpost events _ hevents⟩

/-- What `x` has to show so that with `f` behind it `post` holds. -/
def Before (f : α → Act (Watched ω) γ) (g : β → Act ω δ) (view : β → α) (view' : δ → γ)
    (post : List Event → Except Error δ → Prop) : List Event → Except Error β → Prop
  | front, .ok b => Shows (f (view b)) (g b) view' fun back r => post (front ++ back) r
  | front, .error e => post front (.error e)

protected theorem bind {f : α → Act (Watched ω) γ} {g : β → Act ω δ} {view' : δ → γ}
    {post : List Event → Except Error δ → Prop} (h : Shows x y view (Before f g view view' post)) :
    Shows (x >>= f) (y >>= g) view' post :=
  fun w => (h.at w).bind (fun _ _ _ hnext => hnext.at _) fun _ _ _ herror => herror

protected theorem map (h : Shows x y view post) (f : α → γ) :
    Shows (f <$> x) y (fun b => f (view b)) post := by
  intro w seen
  obtain ⟨events, hx, hevents⟩ := h w seen
  refine ⟨events, ?_, hevents⟩
  rw [map_eq_pure_bind, bind_apply, hx]
  cases (y w).1 <;> rfl

protected theorem pure {a : α} {b : β} (ha : a = view b) (h : post [] (.ok b)) :
    Shows (pure a) (pure b : Act ω β) view post :=
  fun _ _ => ⟨[], by rw [List.append_nil, ha]; rfl, h⟩

theorem fail {e : Error} (h : post [] (.error e)) :
    Shows (Act.fail e) (Act.fail e : Act ω β) view post :=
  fun _ _ => ⟨[], by rw [List.append_nil]; rfl, h⟩

theorem ofExcept {r : Except Error β} (h : post [] r) :
    Shows (Act.ofExcept r) (Act.ofExcept r : Act ω β) id post := by
  intro w seen
  refine ⟨[], ?_, h⟩
  rw [List.append_nil, Act.ofExcept, Act.ofExcept, Except.map_id, id]

theorem seenAs {call : EngineCall} (h : ∀ r, post [.engine call (failure? r)] r) :
    Shows (y.seenAs call) y id post := by
  intro w seen
  refine ⟨_, ?_, h _⟩
  rw [Act.seenAs, Except.map_id, id]

theorem change {f : Watched ω → Watched ω} {g : ω → ω} {events : List Event}
    {post : List Event → Except Error Unit → Prop}
    (hf : ∀ w seen, f ⟨w, seen⟩ = ⟨g w, seen ++ events⟩) (h : post events (.ok ())) :
    Shows (Act.change f) (Act.change g) id post :=
  fun w seen => ⟨events, congrArg (Prod.mk (Except.ok ())) (hf w seen), h⟩

theorem step {f : Watched ω → β × Watched ω} {g : ω → β × ω}
    (h : ∀ w seen, ∃ events, f ⟨w, seen⟩ = ((g w).1, ⟨(g w).2, seen ++ events⟩) ∧
      post events (.ok (g w).1)) :
    Shows (Act.step f) (Act.step g) id post := by
  intro w seen
  obtain ⟨events, hf, hevents⟩ := h w seen
  exact ⟨events, congrArg (fun r => (Except.ok r.1, r.2)) hf, hevents⟩

theorem attempt {x : Act (Watched ω) β} {post : List Event → Except Error (Except Error β) → Prop}
    (h : Shows x y id fun events r => post events (.ok r)) :
    Shows x.attempt y.attempt id post := by
  intro w seen
  obtain ⟨events, hx, hevents⟩ := h w seen
  refine ⟨events, ?_, hevents⟩
  rw [Act.attempt, Act.attempt, hx, Except.map_id]
  rfl

end Shows

end Act

/-! ## Statements and engines -/

section

variable {ω C O : Type}

/-- A statement whose calls are seen. -/
def Prepared.watched (s : Prepared ω O) : Prepared (Watched ω) O where
  bindShort index n := (s.bindShort index n).seenAs (.bind index (.short n))
  bindInt index n := (s.bindInt index n).seenAs (.bind index (.int n))
  bindLong index n := (s.bindLong index n).seenAs (.bind index (.long n))
  bindFloat index bits := (s.bindFloat index bits).seenAs (.bind index (.float bits))
  bindDouble index bits := (s.bindDouble index bits).seenAs (.bind index (.double bits))
  bindString index t := (s.bindString index t).seenAs (.bind index (.string t))
  bindBlob index bytes := (s.bindBlob index bytes).seenAs (.bind index (.blob bytes))
  bindNull index type := (s.bindNull index type).seenAs (.bind index (.null type))
  clear := s.clear.seenAs .clear
  execute := s.execute.seenAs .execute
  close := s.close.seenAs .close

theorem Prepared.bind_watched (s : Prepared ω O) (index : Nat) (v : Value) :
    s.watched.bind index v = (s.bind index v).seenAs (.bind index v) := by
  cases v <;> rfl

/-- A statement whose calls are seen as the engine gets them, behind the slot map. -/
def Opened.watched (s : Opened ω O) : Opened (Watched ω) O := ⟨s.inner.watched, s.slots⟩

/-- An engine whose calls are seen, together with those of the statements it prepares. -/
def Engine.watched (e : Engine ω C) : Engine (Watched ω) C where
  compile kind table sql :=
    Prepared.watched <$> (e.compile kind table sql).seenAs (.compile kind [table] sql)
  compileQuery tables sql :=
    Prepared.watched <$> (e.compileQuery tables sql).seenAs (.compile .select tables sql)

theorem Act.Shows.compile {call : EngineCall} {compile : Act ω (Prepared ω O)}
    {post : List Event → Except Error (Prepared ω O) → Prop}
    (h : ∀ r, post [.engine call (failure? r)] r) :
    Shows (Prepared.watched <$> compile.seenAs call) compile Prepared.watched post :=
  (Shows.seenAs h).map Prepared.watched

end

/-! ## Hooks -/

namespace Hook

variable {ω : Type}

/-- A hook that is seen under a number. -/
def watched (number : Nat) (h : Hook ω) : Hook (Watched ω) where
  beforeCompile ctx w :=
    let (decision, world) := h.beforeCompile ctx w.world
    (decision, ⟨world, w.seen ++ [.asked number ctx decision]⟩)
  afterExecute ctx nanos outcome w :=
    ⟨h.afterExecute ctx nanos outcome w.world, w.seen ++ [.ended number ctx nanos outcome]⟩
  onSlow ctx nanos w := ⟨h.onSlow ctx nanos w.world, w.seen ++ [.slow number ctx nanos]⟩

/-- Hooks that are seen under the numbers from `first` on. -/
def watchedFrom (first : Nat) : List (Hook ω) → List (Hook (Watched ω))
  | [] => []
  | h :: hs => h.watched first :: watchedFrom (first + 1) hs

/-- Hooks with the numbers from `first` on are asked, up to the first that refuses. -/
inductive Asked (ctx : Context) : (first count : Nat) → List Event → Decision → Prop
  | nobody (first : Nat) : Asked ctx first 0 [] .proceed
  | refused (first count : Nat) (reason : String) :
    Asked ctx first (count + 1) [.asked first ctx (.abort reason)] (.abort reason)
  | next {first count : Nat} {events : List Event} {decision : Decision} :
    Asked ctx (first + 1) count events decision →
      Asked ctx first (count + 1) (.asked first ctx .proceed :: events) decision

theorem askAll_watchedFrom (ctx : Context) (first : Nat) (hs : List (Hook ω)) (w : ω)
    (seen : List Event) : ∃ events,
      askAll ctx (watchedFrom first hs) ⟨w, seen⟩ =
        ((askAll ctx hs w).1, ⟨(askAll ctx hs w).2, seen ++ events⟩) ∧
      Asked ctx first hs.length events (askAll ctx hs w).1 := by
  induction hs generalizing first w seen with
  | nil => exact ⟨[], by rw [List.append_nil]; rfl, .nobody first⟩
  | cons h hs ih =>
    rcases hw : h.beforeCompile ctx w with ⟨_ | reason, w'⟩
    · obtain ⟨events, hask, hevents⟩ := ih (first + 1) w' (seen ++ [.asked first ctx .proceed])
      refine ⟨.asked first ctx .proceed :: events, ?_, ?_⟩
      · simp [watchedFrom, askAll, watched, hw, hask]
      · rw [askAll, hw]
        exact .next hevents
    · refine ⟨[.asked first ctx (.abort reason)], ?_, ?_⟩
      · simp [watchedFrom, askAll, watched, hw]
      · rw [askAll, hw]
        exact .refused first hs.length reason

/-- What all of the hooks are told, seen by the events of each. -/
theorem foldl_watchedFrom (tell : {σ : Type} → Hook σ → σ → σ) {event : Nat → Event}
    (htell : ∀ (h : Hook ω) number w, tell (h.watched number) w =
      ⟨tell h w.world, w.seen ++ [event number]⟩)
    (first : Nat) (hs : List (Hook ω)) (w : ω) (seen : List Event) :
    (watchedFrom first hs).foldl (fun w h => tell h w) ⟨w, seen⟩ =
      ⟨hs.foldl (fun w h => tell h w) w, seen ++ (List.range' first hs.length).map event⟩ := by
  induction hs generalizing first w seen with
  | nil => simp [watchedFrom]
  | cons h hs ih => simp [watchedFrom, htell, ih, List.range'_succ]

end Hook

/-! ## Databases -/

namespace Database

variable {ω C : Type}

/-- The database in watched worlds.  Its log and its clock are not seen. -/
def watched (db : Database ω C) : Database (Watched ω) C where
  engine := db.engine.watched
  dialect := db.dialect
  config := db.config
  hooks := Hook.watchedFrom 0 db.hooks
  log e w := { w with world := db.log e w.world }
  clock w := ((db.clock w.world).1, { w with world := (db.clock w.world).2 })

/-- Reading the clock is not seen. -/
theorem showsAt_clock_bind {α β : Type} {db : Database ω C} {w : ω} {f : Nat → Act (Watched ω) α}
    {g : Nat → Act ω β} {view : β → α} {post : List Event → Except Error β → Prop}
    (h : Act.ShowsAt (db.clock w).2 (f (db.clock w).1) (g (db.clock w).1) view post) :
    Act.ShowsAt w (Act.step db.watched.clock >>= f) (Act.step db.clock >>= g) view post :=
  h

/-- What the hooks of the database are asked about a statement, and what comes of it. -/
inductive Consulted (db : Database ω C) (ctx : Context) :
    List Event → Except Error Unit → Prop
  | nobody : db.config.hooksEnabled = false → Consulted db ctx [] (.ok ())
  | agreed {events : List Event} : db.config.hooksEnabled →
    Hook.Asked ctx 0 db.hooks.length events .proceed → Consulted db ctx events (.ok ())
  | refused {events : List Event} {reason : String} : db.config.hooksEnabled →
    Hook.Asked ctx 0 db.hooks.length events (.abort reason) →
      Consulted db ctx events (.error (.aborted reason))

theorem shows_ask (db : Database ω C) (ctx : Context) :
    Act.Shows (db.watched.ask ctx) (db.ask ctx) id (db.Consulted ctx) := by
  rw [ask, ask]
  by_cases hhooks : db.config.hooksEnabled
  · rw [if_pos hhooks, if_pos (show db.watched.config.hooksEnabled from hhooks)]
    refine .bind (.step fun w seen => ?_)
    obtain ⟨events, hask, hevents⟩ := Hook.askAll_watchedFrom ctx 0 db.hooks w seen
    refine ⟨events, hask, ?_⟩
    rw [show db.hook.beforeCompile ctx w = Hook.askAll ctx db.hooks w from rfl]
    cases hd : (Hook.askAll ctx db.hooks w).1 with
    | proceed =>
      refine Act.Shows.pure rfl ?_
      rw [List.append_nil]
      exact .agreed hhooks (hd ▸ hevents)
    | abort reason =>
      refine Act.Shows.fail ?_
      rw [List.append_nil]
      exact .refused hhooks (hd ▸ hevents)
  · rw [if_neg hhooks, if_neg (show ¬ db.watched.config.hooksEnabled from hhooks)]
    exact .pure rfl (.nobody (by simpa using hhooks))

/-- What the hooks are told of an execution. -/
def reported (db : Database ω C) (ctx : Context) (nanos : Nat) (outcome : Outcome) : List Event :=
  if db.config.hooksEnabled then
    (List.range' 0 db.hooks.length).map (.ended · ctx nanos outcome) ++
      if db.config.slowThreshold.any (· ≤ nanos) then
        (List.range' 0 db.hooks.length).map (.slow · ctx nanos)
      else []
  else []

theorem shows_report (db : Database ω C) (ctx : Context) (nanos : Nat) (outcome : Outcome) :
    Act.Shows (db.watched.report ctx nanos outcome) (db.report ctx nanos outcome) id
      fun events r => events = db.reported ctx nanos outcome ∧ r = .ok () := by
  rw [report, report, reported]
  by_cases hhooks : db.config.hooksEnabled
  · rw [if_pos hhooks, if_pos (show db.watched.config.hooksEnabled from hhooks), if_pos hhooks]
    refine .bind (.change (Hook.foldl_watchedFrom (fun h w => h.afterExecute ctx nanos outcome w)
      (fun _ _ _ => rfl) 0 db.hooks) ?_)
    change Act.Shows (if db.config.slowThreshold.any (· ≤ nanos) then _ else _) _ _ _
    by_cases hslow : db.config.slowThreshold.any (· ≤ nanos)
    · rw [if_pos hslow, if_pos hslow, if_pos hslow]
      exact .change (Hook.foldl_watchedFrom (fun h w => h.onSlow ctx nanos w)
        (fun _ _ _ => rfl) 0 db.hooks) ⟨rfl, rfl⟩
    · rw [if_neg hslow, if_neg hslow, if_neg hslow]
      exact .pure rfl ⟨rfl, rfl⟩
  · rw [if_neg hhooks, if_neg (show ¬ db.watched.config.hooksEnabled from hhooks), if_neg hhooks]
    exact .pure rfl ⟨rfl, rfl⟩

end Database

end SqlBuilder
