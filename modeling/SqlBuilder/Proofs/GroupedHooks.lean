import SqlBuilder.Proofs.Watched

/-!
# Grouped hooks

Hooks may be grouped to any depth, and groups may be empty.  The hook of a tree is that of the list
of its leaves from left to right (`HookTree.hook_eq_all_leaves`), because a group in a list can be
opened (`Hook.all_append`).  So whatever the leaves do to the world they share, a tree gives the
same answers as the list and leaves the same world, and the same leaves are called in the same order
(`HookTree.serve_flat`): about a statement those up to the first that refuses, about everything else
all of them.
-/

namespace SqlBuilder

variable {α ω : Type}

/-! ## Opening groups -/

attribute [ext] Hook

namespace Hook

/-- The hooks behind are asked only if none in front refuses. -/
theorem askAll_append (ctx : Context) (hs ks : List (Hook ω)) (w : ω) :
    askAll ctx (hs ++ ks) w =
      match askAll ctx hs w with
      | (.abort reason, w) => (.abort reason, w)
      | (.proceed, w) => askAll ctx ks w := by
  induction hs generalizing w with
  | nil => rfl
  | cons h hs ih =>
    rw [List.cons_append, askAll, askAll]
    rcases h.beforeCompile ctx w with ⟨_ | reason, w⟩
    · exact ih w
    · rfl

theorem askAll_singleton (ctx : Context) (h : Hook ω) (w : ω) :
    askAll ctx [h] w = h.beforeCompile ctx w := by
  rw [askAll]
  rcases h.beforeCompile ctx w with ⟨_ | reason, w⟩ <;> rfl

theorem all_singleton (h : Hook ω) : all [h] = h :=
  Hook.ext (funext fun ctx => funext (askAll_singleton ctx h)) rfl rfl

/-- Two groups in a list act as one. -/
theorem all_append (hs ks : List (Hook ω)) : all (hs ++ ks) = all [all hs, all ks] := by
  apply Hook.ext
  case beforeCompile =>
    funext ctx w
    refine (askAll_append ctx hs ks w).trans ?_
    show _ = askAll ctx [all hs, all ks] w
    rw [askAll, show (all hs).beforeCompile ctx w = askAll ctx hs w from rfl]
    rcases askAll ctx hs w with ⟨_ | reason, w'⟩
    · exact (askAll_singleton ctx (all ks) w').symm
    · rfl
  case afterExecute =>
    funext ctx nanos outcome w
    exact List.foldl_append
  case onSlow =>
    funext ctx nanos w
    exact List.foldl_append

theorem watchedFrom_append (first : Nat) (hs ks : List (Hook ω)) :
    watchedFrom first (hs ++ ks) =
      watchedFrom first hs ++ watchedFrom (first + hs.length) ks := by
  induction hs generalizing first with
  | nil => rfl
  | cons h hs ih =>
    rw [List.cons_append, watchedFrom, watchedFrom, ih, List.cons_append, List.length_cons,
      Nat.add_right_comm, Nat.add_assoc]

end Hook

namespace HookTree

mutual

/-- The leaves from left to right. -/
def leaves : HookTree α → List α
  | leaf a => [a]
  | all children => allLeaves children

/-- The leaves of the trees of a list, from left to right. -/
def allLeaves : List (HookTree α) → List α
  | [] => []
  | t :: ts => t.leaves ++ allLeaves ts

end

mutual

/-- A tree of hooks acts as the list of its leaves. -/
theorem hook_eq_all_leaves (f : α → Hook ω) (t : HookTree α) :
    t.hook f = Hook.all (t.leaves.map f) := by
  cases t with
  | leaf a => exact (Hook.all_singleton (f a)).symm
  | all children => exact all_hooks_eq_all_leaves f children

theorem all_hooks_eq_all_leaves (f : α → Hook ω) (ts : List (HookTree α)) :
    Hook.all (hooks f ts) = Hook.all ((allLeaves ts).map f) := by
  cases ts with
  | nil => rfl
  | cons t ts =>
    calc Hook.all (t.hook f :: hooks f ts)
      _ = Hook.all [Hook.all [t.hook f], Hook.all (hooks f ts)] :=
        Hook.all_append [t.hook f] (hooks f ts)
      _ = Hook.all [Hook.all (t.leaves.map f), Hook.all ((allLeaves ts).map f)] := by
        rw [Hook.all_singleton, hook_eq_all_leaves f t, all_hooks_eq_all_leaves f ts]
      _ = Hook.all ((t.leaves ++ allLeaves ts).map f) := by
        rw [List.map_append, Hook.all_append]

end

/-! ## Watching the leaves -/

mutual

/-- The leaves with numbers from left to right, the first of which is `first`. -/
def numbered (first : Nat) : HookTree α → HookTree (Nat × α)
  | leaf a => leaf (first, a)
  | all children => all (allNumbered first children)

/-- The trees of a list with numbers at their leaves, counted on from tree to tree. -/
def allNumbered (first : Nat) : List (HookTree α) → List (HookTree (Nat × α))
  | [] => []
  | t :: ts => t.numbered first :: allNumbered (first + t.leaves.length) ts

end

/-- The hook of a tree whose leaves are seen under their numbers. -/
def watched (f : α → Hook ω) (t : HookTree α) : Hook (Watched ω) :=
  (t.numbered 0).hook fun a => (f a.2).watched a.1

mutual

theorem map_leaves_numbered (f : α → Hook ω) (first : Nat) (t : HookTree α) :
    (t.numbered first).leaves.map (fun a => (f a.2).watched a.1) =
      Hook.watchedFrom first (t.leaves.map f) := by
  cases t with
  | leaf a => rfl
  | all children => exact map_allLeaves_allNumbered f first children

theorem map_allLeaves_allNumbered (f : α → Hook ω) (first : Nat) (ts : List (HookTree α)) :
    (allLeaves (allNumbered first ts)).map (fun a => (f a.2).watched a.1) =
      Hook.watchedFrom first ((allLeaves ts).map f) := by
  cases ts with
  | nil => rfl
  | cons t ts =>
    rw [allNumbered, allLeaves, allLeaves, List.map_append, List.map_append,
      Hook.watchedFrom_append, List.length_map, map_leaves_numbered f first t,
      map_allLeaves_allNumbered f (first + t.leaves.length) ts]

end

theorem watched_eq_all (f : α → Hook ω) (t : HookTree α) :
    t.watched f = Hook.all (Hook.watchedFrom 0 (t.leaves.map f)) := by
  rw [watched, hook_eq_all_leaves, map_leaves_numbered]

end HookTree

/-! ## Calls one after another -/

/-- What a hook can be called for. -/
inductive HookCall where
  | before (ctx : Context)
  | ended (ctx : Context) (nanos : Nat) (outcome : Outcome)
  | slow (ctx : Context) (nanos : Nat)

namespace Hook

/-- One call; only a question has an answer. -/
def answer (h : Hook ω) : HookCall → ω → Option Decision × ω
  | .before ctx, w => (some (h.beforeCompile ctx w).1, (h.beforeCompile ctx w).2)
  | .ended ctx nanos outcome, w => (none, h.afterExecute ctx nanos outcome w)
  | .slow ctx nanos, w => (none, h.onSlow ctx nanos w)

/-- Calls one after another. -/
def serve (h : Hook ω) : List HookCall → ω → List (Option Decision) × ω
  | [], w => ([], w)
  | c :: cs, w =>
    let (answer, w) := h.answer c w
    let (answers, w) := h.serve cs w
    (answer :: answers, w)

end Hook

/-- What is seen of a list of hooks in one call, and the answer. -/
inductive HookCall.Seen (count : Nat) : HookCall → List Event → Option Decision → Prop
  /-- Hooks are asked up to the first that refuses. -/
  | before {ctx : Context} {events : List Event} {decision : Decision} :
    Hook.Asked ctx 0 count events decision → Seen count (.before ctx) events (some decision)
  | ended (ctx : Context) (nanos : Nat) (outcome : Outcome) :
    Seen count (.ended ctx nanos outcome) ((List.range count).map (.ended · ctx nanos outcome)) none
  | slow (ctx : Context) (nanos : Nat) :
    Seen count (.slow ctx nanos) ((List.range count).map (.slow · ctx nanos)) none

/-- What is seen of a list of hooks in calls one after another, and the answers. -/
inductive HookCall.AllSeen (count : Nat) :
    List HookCall → List Event → List (Option Decision) → Prop
  | nil : AllSeen count [] [] []
  | cons {c : HookCall} {cs : List HookCall} {events more : List Event} {answer : Option Decision}
    {answers : List (Option Decision)} :
    c.Seen count events answer → AllSeen count cs more answers →
      AllSeen count (c :: cs) (events ++ more) (answer :: answers)

namespace Hook

theorem seen_answer (hs : List (Hook ω)) (c : HookCall) (w : ω) (seen : List Event) : ∃ events,
    (all (watchedFrom 0 hs)).answer c ⟨w, seen⟩ =
      (((all hs).answer c w).1, ⟨((all hs).answer c w).2, seen ++ events⟩) ∧
    c.Seen hs.length events ((all hs).answer c w).1 := by
  cases c with
  | before ctx =>
    obtain ⟨events, hask, hasked⟩ := askAll_watchedFrom ctx 0 hs w seen
    refine ⟨events, ?_, .before hasked⟩
    show (some (askAll ctx _ _).1, (askAll ctx _ _).2) = _
    rw [hask]
    rfl
  | ended ctx nanos outcome =>
    refine ⟨_, ?_, .ended ctx nanos outcome⟩
    rw [List.range_eq_range']
    exact congrArg (Prod.mk none) (foldl_watchedFrom (fun h w => h.afterExecute ctx nanos outcome w)
      (fun _ _ _ => rfl) 0 hs w seen)
  | slow ctx nanos =>
    refine ⟨_, ?_, .slow ctx nanos⟩
    rw [List.range_eq_range']
    exact congrArg (Prod.mk none) (foldl_watchedFrom (fun h w => h.onSlow ctx nanos w)
      (fun _ _ _ => rfl) 0 hs w seen)

theorem allSeen_serve (hs : List (Hook ω)) (cs : List HookCall) (w : ω) (seen : List Event) :
    ∃ events, (all (watchedFrom 0 hs)).serve cs ⟨w, seen⟩ =
      (((all hs).serve cs w).1, ⟨((all hs).serve cs w).2, seen ++ events⟩) ∧
    HookCall.AllSeen hs.length cs events ((all hs).serve cs w).1 := by
  induction cs generalizing w seen with
  | nil => exact ⟨[], by rw [List.append_nil]; rfl, .nil⟩
  | cons c cs ih =>
    obtain ⟨events, hanswer, hseen⟩ := seen_answer hs c w seen
    obtain ⟨more, hmore, hall⟩ := ih ((all hs).answer c w).2 (seen ++ events)
    refine ⟨events ++ more, ?_, .cons hseen hall⟩
    rw [serve, hanswer]
    simp only [hmore, List.append_assoc]
    rfl

end Hook

/-- **Grouped hooks act as one list.**  Called for anything any number of times, a tree of hooks
gives the same answers and leaves the same world as the list of its leaves, and the same leaves are
seen in the same order: of a question those up to the first that refuses, of all else each. -/
theorem HookTree.serve_flat (f : α → Hook ω) (t : HookTree α) (cs : List HookCall) (w : ω)
    (seen : List Event) :
    (t.hook f).serve cs w = (Hook.all (t.leaves.map f)).serve cs w ∧
      ∃ events,
        (t.watched f).serve cs ⟨w, seen⟩ =
          (((t.hook f).serve cs w).1, ⟨((t.hook f).serve cs w).2, seen ++ events⟩) ∧
        (Hook.all (Hook.watchedFrom 0 (t.leaves.map f))).serve cs ⟨w, seen⟩ =
          (((t.hook f).serve cs w).1, ⟨((t.hook f).serve cs w).2, seen ++ events⟩) ∧
        HookCall.AllSeen t.leaves.length cs events ((t.hook f).serve cs w).1 := by
  obtain ⟨events, hserve, hseen⟩ := Hook.allSeen_serve (t.leaves.map f) cs w seen
  rw [t.watched_eq_all f, t.hook_eq_all_leaves f]
  rw [List.length_map] at hseen
  exact ⟨rfl, events, hserve, hserve, hseen⟩

end SqlBuilder
