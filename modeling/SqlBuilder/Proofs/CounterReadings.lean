import SqlBuilder.Proofs.CompiledCounts
import Mathlib.Algebra.Ring.Nat
import Mathlib.Data.List.DropRight

/-!
# What the counters read

A counting hook is told of events in any order and reset at any time.  What its counters read is a
matter of the events since the last reset (`StatsCall.sinceReset`): each counter of events is their
number as a word, and the total time is the sum of the times as far as a word can hold it
(`Stats.Reads`).  One event keeps that (`Stats.ReadsEvents.concat`), also where a counter starts
again at zero and where the total is put right after it did, and so does every run of events and
resets (`Stats.reads_run`).
-/

namespace SqlBuilder

variable {ω : Type}

/-! ## Events -/

namespace HookCall

/-- The kind of the statement that is about to be compiled. -/
def compiled? : HookCall → Option StatementKind
  | before ctx => some ctx.kind
  | _ => none

/-- How long an execution took and how it ended. -/
def ended? : HookCall → Option (Nat × Outcome)
  | ended _ nanos outcome => some (nanos, outcome)
  | _ => none

/-- The event is that an execution was slow. -/
def isSlow : HookCall → Bool
  | slow _ _ => true
  | _ => false

/-- What the event does to the counters. -/
def count : HookCall → Stats → Stats
  | before ctx => Stats.beforeCompile ctx.kind
  | ended _ nanos outcome => Stats.afterExecute nanos outcome
  | slow _ _ => Stats.onSlow

end HookCall

/-- A call of a counting hook. -/
inductive StatsCall where
  | told (c : HookCall)
  | reset

namespace StatsCall

/-- The event that the hook is told of; there is none in a reset. -/
def told? : StatsCall → Option HookCall
  | told c => some c
  | reset => none

/-- The events after the last reset. -/
def sinceReset (cs : List StatsCall) : List HookCall :=
  (cs.rtakeWhile (·.told?.isSome)).filterMap told?

theorem sinceReset_concat_told (cs : List StatsCall) (c : HookCall) :
    sinceReset (cs ++ [told c]) = sinceReset cs ++ [c] := by
  rw [sinceReset, List.rtakeWhile_concat_pos _ _ _ rfl, List.filterMap_append]
  rfl

theorem sinceReset_concat_reset (cs : List StatsCall) : sinceReset (cs ++ [reset]) = [] := by
  rw [sinceReset, List.rtakeWhile_concat_neg _ _ _ Bool.false_ne_true]
  rfl

theorem sinceReset_append_told (cs : List StatsCall) (more : List HookCall) :
    sinceReset (cs ++ more.map told) = sinceReset cs ++ more := by
  induction more using List.reverseRecOn with
  | nil => rw [List.map_nil, List.append_nil, List.append_nil]
  | append_singleton more c ih =>
    rw [List.map_append, List.map_singleton, ← List.append_assoc, sinceReset_concat_told, ih,
      List.append_assoc]

/-- The world after a call of the hook that counts in one part of it. -/
def run (part : Part ω Stats) (w : ω) : StatsCall → ω
  | told c => ((Stats.hook part).answer c w).2
  | reset => part.modify Stats.reset w

end StatsCall

namespace Stats

/-! ## The total time -/

theorem toNat_timeWord (nanos : Nat) : (timeWord nanos).toNat = min nanos maxCount := by
  rw [timeWord]
  split_ifs with hfits
  · rw [UInt64.toNat_ofNat_of_lt' hfits, maxCount]
    omega
  · rw [UInt64.toNat_ofNat_of_lt' (by decide), maxCount]
    omega

/-- A total that starts again at zero is put right in all cases and only then. -/
theorem toNat_addTime (total time : UInt64) :
    (addTime total time).toNat = min (total.toNat + time.toNat) maxCount := by
  by_cases hfits : total.toNat + time.toNat < UInt64.size
  · rw [addTime, checkedAdd, if_pos hfits, UInt64.toNat_add, Nat.mod_eq_of_lt hfits, maxCount]
    omega
  · rw [addTime, checkedAdd, if_neg hfits, UInt64.toNat_ofNat_of_lt' (by decide), maxCount]
    omega

/-! ## What the counters read -/

/-- The counters count statements of these kinds, executions that took so long and ended so, and
slow ones.  Numbers of events are words: `UInt64.ofNat` leaves out multiples of `UInt64.size`. -/
structure Reads (s : Stats) (kinds : List StatementKind) (ends : List (Nat × Outcome))
    (slow : Nat) : Prop where
  compiled : s.compiled = .ofNat kinds.length
  count (kind : StatementKind) : s.count kind = .ofNat (kinds.count kind)
  compiled_sum : s.compiled =
    s.selects + s.inserts + s.insertOrReplaces + s.updates + s.deletes + s.createTables
  executed : s.executed = .ofNat ends.length
  failed : s.failed = .ofNat (ends.countP (·.2.isError))
  slow : s.slow = .ofNat slow
  /-- Each time counts as `maxCount` if it is longer, and so does their sum. -/
  nanos : s.nanos.toNat = min (ends.map fun e => min e.1 maxCount).sum maxCount

namespace Reads

theorem zero : Reads {} [] [] 0 where
  compiled := rfl
  count kind := by cases kind <;> rfl
  compiled_sum := rfl
  executed := rfl
  failed := rfl
  slow := rfl
  nanos := rfl

variable {s : Stats} {kinds : List StatementKind} {ends : List (Nat × Outcome)} {n : Nat}

theorem beforeCompile (h : s.Reads kinds ends n) (kind : StatementKind) :
    (s.beforeCompile kind).Reads (kinds ++ [kind]) ends n where
  compiled := by
    rw [List.length_append, UInt64.ofNat_add, ← h.compiled]
    exact counter_beforeCompile kind s none
  count k := by
    rw [List.count_append, UInt64.ofNat_add, ← h.count k]
    exact counter_beforeCompile kind s (some k)
  compiled_sum := by
    have hsum := h.compiled_sum
    cases kind <;> simp only [Stats.beforeCompile, countUp] <;> grind
  executed := by cases kind <;> exact h.executed
  failed := by cases kind <;> exact h.failed
  slow := by cases kind <;> exact h.slow
  nanos := by cases kind <;> exact h.nanos

theorem afterExecute (h : s.Reads kinds ends n) (nanos : Nat) (outcome : Outcome) :
    (s.afterExecute nanos outcome).Reads kinds (ends ++ [(nanos, outcome)]) n where
  compiled := h.compiled
  count kind := by
    rw [← h.count kind]
    exact counter_afterExecute nanos outcome s (some kind)
  compiled_sum := h.compiled_sum
  executed := by
    rw [List.length_append, UInt64.ofNat_add, ← h.executed]
    rfl
  failed := by
    rw [List.countP_append, UInt64.ofNat_add, ← h.failed, List.countP_singleton]
    show (if outcome.isError then s.failed + 1 else s.failed) = _
    split_ifs
    · rfl
    · exact (UInt64.add_zero _).symm
  slow := h.slow
  nanos := by
    show (addTime s.nanos (timeWord nanos)).toNat = _
    rw [toNat_addTime, toNat_timeWord, h.nanos, List.map_append, List.sum_append,
      List.map_singleton, List.sum_singleton]
    omega

theorem onSlow (h : s.Reads kinds ends n) : s.onSlow.Reads kinds ends (n + 1) where
  compiled := h.compiled
  count kind := by
    rw [← h.count kind]
    exact counter_onSlow s (some kind)
  compiled_sum := h.compiled_sum
  executed := h.executed
  failed := h.failed
  slow := by
    rw [UInt64.ofNat_add, ← h.slow]
    rfl
  nanos := h.nanos

end Reads

/-! ## Runs -/

/-- The counters count the events of a list. -/
def ReadsEvents (s : Stats) (cs : List HookCall) : Prop :=
  s.Reads (cs.filterMap HookCall.compiled?) (cs.filterMap HookCall.ended?)
    (cs.countP HookCall.isSlow)

/-- Counters that count some events count one more after it. -/
theorem ReadsEvents.concat {s : Stats} {cs : List HookCall} (h : s.ReadsEvents cs) (c : HookCall) :
    (c.count s).ReadsEvents (cs ++ [c]) := by
  rw [ReadsEvents, List.filterMap_append, List.filterMap_append, List.countP_append]
  cases c with
  | before ctx =>
    rw [show [HookCall.before ctx].filterMap HookCall.ended? = [] from rfl, List.append_nil]
    exact h.beforeCompile ctx.kind
  | ended ctx nanos outcome =>
    rw [show [HookCall.ended ctx nanos outcome].filterMap HookCall.compiled? = [] from rfl,
      List.append_nil]
    exact h.afterExecute nanos outcome
  | slow ctx nanos =>
    rw [show [HookCall.slow ctx nanos].filterMap HookCall.compiled? = [] from rfl,
      show [HookCall.slow ctx nanos].filterMap HookCall.ended? = [] from rfl, List.append_nil,
      List.append_nil]
    exact h.onSlow

theorem get_run_told {part : Part ω Stats} (hpart : ∀ s w, part.get (part.set s w) = s) (w : ω)
    (c : HookCall) : part.get (StatsCall.run part w (.told c)) = c.count (part.get w) := by
  cases c <;> exact hpart _ w

theorem get_run_reset {part : Part ω Stats} (hpart : ∀ s w, part.get (part.set s w) = s) (w : ω) :
    part.get (StatsCall.run part w .reset) = {} :=
  hpart _ w

theorem readsEvents_foldl_run {part : Part ω Stats} (hpart : ∀ s w, part.get (part.set s w) = s)
    {w : ω} (hw : part.get w = {}) (cs : List StatsCall) :
    (part.get (cs.foldl (StatsCall.run part) w)).ReadsEvents (StatsCall.sinceReset cs) := by
  induction cs using List.reverseRecOn with
  | nil =>
    rw [List.foldl_nil, hw]
    exact Reads.zero
  | append_singleton cs c ih =>
    rw [List.foldl_append, List.foldl_cons, List.foldl_nil]
    cases c with
    | told c =>
      rw [StatsCall.sinceReset_concat_told, get_run_told hpart]
      exact ih.concat c
    | reset =>
      rw [StatsCall.sinceReset_concat_reset, get_run_reset hpart]
      exact Reads.zero

/-- A total that is as large as it gets stays so, whatever events follow. -/
theorem ReadsEvents.nanos_eq_maxCount {s s' : Stats} {cs more : List HookCall}
    (h : s.ReadsEvents cs) (h' : s'.ReadsEvents (cs ++ more)) (hmax : s.nanos.toNat = maxCount) :
    s'.nanos.toNat = maxCount := by
  have hsum := h.nanos
  have hsum' := h'.nanos
  rw [List.filterMap_append, List.map_append, List.sum_append] at hsum'
  omega

/-- **The counters read what the events since the last reset amount to.**  A hook counts in a part
of the world, beginning at zero, and is told of events and reset in any order.  Then each counter of
events is their number as a word, those of the kinds add up to that of all kinds, and the total time
is the sum of the times or the largest number, where it stays until the next reset. -/
theorem reads_run (part : Part ω Stats) (hpart : ∀ s w, part.get (part.set s w) = s) (w : ω)
    (hw : part.get w = {}) (cs : List StatsCall) :
    (part.get (cs.foldl (StatsCall.run part) w)).ReadsEvents (StatsCall.sinceReset cs) ∧
    ∀ more : List HookCall, (part.get (cs.foldl (StatsCall.run part) w)).nanos.toNat = maxCount →
      (part.get ((cs ++ more.map StatsCall.told).foldl (StatsCall.run part) w)).nanos.toNat =
        maxCount := by
  have hreads := readsEvents_foldl_run hpart hw
  refine ⟨hreads cs, fun more hmax => ?_⟩
  have hmore := hreads (cs ++ more.map StatsCall.told)
  rw [StatsCall.sinceReset_append_told] at hmore
  exact (hreads cs).nanos_eq_maxCount hmore hmax

/-- What hooks see of the deletion of all users. -/
def deletionContext : Context :=
  { kind := .delete, table := "users", sql := "DELETE FROM users", argCount := 0 }

/-- An execution longer than a word can hold, and after a reset two that are so together. -/
def longExecutions : List StatsCall :=
  [.told (.ended deletionContext (2 ^ 70) .cursor), .reset, .told (.before deletionContext),
    .told (.ended deletionContext (2 ^ 63) (.affected 2)),
    .told (.ended deletionContext (2 ^ 63) (.error "locked")),
    .told (.slow deletionContext (2 ^ 63))]

theorem reads_run_longExecutions :
    (∀ s w, Part.whole.get (Part.whole.set s w) = (s : Stats)) ∧
    longExecutions.foldl (StatsCall.run Part.whole) {} =
      { compiled := 1, deletes := 1, executed := 2, failed := 1, slow := 1,
        nanos := .ofNat maxCount } ∧
    (longExecutions.foldl (StatsCall.run Part.whole) {}).ReadsEvents
      (StatsCall.sinceReset longExecutions) ∧
    ((longExecutions ++ [StatsCall.told (.ended deletionContext 1 .cursor)]).foldl
      (StatsCall.run Part.whole) {}).nanos.toNat = maxCount := by
  have hreads := reads_run Part.whole (fun _ _ => rfl) {} rfl longExecutions
  have hrun : longExecutions.foldl (StatsCall.run Part.whole) {} =
      { compiled := 1, deletes := 1, executed := 2, failed := 1, slow := 1,
        nanos := .ofNat maxCount } := by decide +kernel
  refine ⟨fun _ _ => rfl, hrun, hreads.1, hreads.2 [.ended deletionContext 1 .cursor] ?_⟩
  rw [hrun]
  exact UInt64.toNat_ofNat_of_lt' (by decide)

end Stats

end SqlBuilder
