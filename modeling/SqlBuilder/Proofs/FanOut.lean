import SqlBuilder.Proofs.EngineCalls

/-!
# Calls through a slot map

A map that comes from any run of puts holds, for each index, the slots put there in order
(`SlotMap.holds_ofPuts`), and an index out of range is refused and changes nothing.  A statement
seen through such a map passes each call on as the map says (`Prepared.passedOn_answer`): a bind
becomes binds of the same value, by the same operation, at the slots of its index, up to the first
that fails; everything else is the one call of the statement below.  `SlotMap.fansOut_ofPuts` says
so of every run of calls on every statement.
-/

namespace SqlBuilder

/-! ## Maps made by puts -/

namespace SlotMap

/-- The map behind a put; one that fails changes nothing. -/
def afterPut (m : SlotMap) (p : Nat × Nat) : SlotMap :=
  match m.put p.1 p.2 with
  | .ok m => m
  | .error _ => m

/-- The map of `size` indices behind a run of puts. -/
def ofPuts (size : Nat) (puts : List (Nat × Nat)) : SlotMap := puts.foldl afterPut (ofSize size)

/-- The slots put to an index, in order. -/
def slotsPut (puts : List (Nat × Nat)) (index : Nat) : List Nat :=
  (puts.filter (·.1 = index)).map (·.2)

theorem ofPuts_append_singleton (size : Nat) (puts : List (Nat × Nat)) (p : Nat × Nat) :
    ofPuts size (puts ++ [p]) = (ofPuts size puts).afterPut p :=
  List.foldl_concat ..

theorem slotsPut_append_singleton (puts : List (Nat × Nat)) (index target j : Nat) :
    slotsPut (puts ++ [(index, target)]) j =
      if index = j then slotsPut puts j ++ [target] else slotsPut puts j := by
  by_cases h : index = j <;> simp [slotsPut, h]

section Place

variable {m : SlotMap} {index : Nat}

theorem place_of_out (h : index = 0 ∨ m.size < index) :
    m.place index = .error (.indexOutOfBounds index m.size) :=
  if_pos h

theorem put_of_out (h : index = 0 ∨ m.size < index) (target : Nat) :
    m.put index target = .error (.indexOutOfBounds index m.size) := by
  rw [put, place_of_out h]
  rfl

theorem get_of_out (h : index = 0 ∨ m.size < index) :
    m.get index = .error (.indexOutOfBounds index m.size) := by
  rw [get, place_of_out h]
  rfl

theorem afterPut_of_out (h : index = 0 ∨ m.size < index) (target : Nat) :
    m.afterPut (index, target) = m := by
  rw [afterPut, put_of_out h]

theorem put_of_lt {i : Nat} (hi : i < m.size) (target : Nat) :
    m.put (i + 1) target = .ok ⟨m.targets.modify i (· ++ [target])⟩ := by
  rw [put, place_of_lt hi]
  rfl

theorem afterPut_of_lt {i : Nat} (hi : i < m.size) (target : Nat) :
    m.afterPut (i + 1, target) = ⟨m.targets.modify i (· ++ [target])⟩ := by
  rw [afterPut, put_of_lt hi]

end Place

/-- An index is one of the map or out of range. -/
theorem out_or_exists_lt (size index : Nat) :
    (index = 0 ∨ size < index) ∨ ∃ i, index = i + 1 ∧ i < size := by
  cases index with
  | zero => exact .inl (.inl rfl)
  | succ i =>
    rcases Nat.lt_or_ge i size with hi | hi
    · exact .inr ⟨i, rfl, hi⟩
    · exact .inl (.inr (Nat.lt_succ_of_le hi))

/-- After a run of puts each index has the slots that were put to it. -/
theorem targets_ofPuts (size : Nat) (puts : List (Nat × Nat)) :
    (ofPuts size puts).targets = (List.range size).map fun i => slotsPut puts (i + 1) := by
  induction puts using List.reverseRecOn with
  | nil => simp [ofPuts, ofSize, slotsPut, List.map_const']
  | append_singleton puts p ih =>
    obtain ⟨index, target⟩ := p
    have hsize : (ofPuts size puts).size = size := by rw [SlotMap.size, ih]; simp
    rw [ofPuts_append_singleton]
    rcases out_or_exists_lt size index with hout | ⟨i, rfl, hi⟩
    · rw [afterPut_of_out (by rwa [hsize]), ih]
      refine List.map_congr_left fun j hj => ?_
      have hj' := List.mem_range.1 hj
      rw [slotsPut_append_singleton, if_neg (by omega)]
    · rw [afterPut_of_lt (by rwa [hsize]), ih]
      refine List.ext_getElem? fun j => ?_
      by_cases hj : j < size <;> by_cases hij : i = j <;> simp [hj, hij, slotsPut_append_singleton]

theorem size_ofPuts (size : Nat) (puts : List (Nat × Nat)) : (ofPuts size puts).size = size := by
  rw [SlotMap.size, targets_ofPuts, List.length_map, List.length_range]

theorem get_ofPuts {size i : Nat} (hi : i < size) (puts : List (Nat × Nat)) :
    (ofPuts size puts).get (i + 1) = .ok (slotsPut puts (i + 1)) := by
  rw [get_of_lt (by rwa [size_ofPuts]), targets_ofPuts]
  simp [hi]

theorem length_flatten_modify {i : Nat} {targets : List (List Nat)} (hi : i < targets.length)
    (target : Nat) :
    (targets.modify i (· ++ [target])).flatten.length = targets.flatten.length + 1 := by
  induction targets generalizing i with
  | nil => exact absurd hi (Nat.not_lt_zero i)
  | cons slots targets ih =>
    cases i with
    | zero => simp; omega
    | succ i =>
      have hmore := ih (Nat.lt_of_succ_lt_succ hi)
      simp only [List.modify_succ_cons, List.flatten_cons, List.length_append] at hmore ⊢
      omega

/-- A put that succeeds adds one slot. -/
theorem targetCount_ofPuts (size : Nat) (puts : List (Nat × Nat)) :
    (ofPuts size puts).targetCount = puts.countP fun p => 1 ≤ p.1 ∧ p.1 ≤ size := by
  induction puts using List.reverseRecOn with
  | nil => simp [ofPuts, ofSize, targetCount]
  | append_singleton puts p ih =>
    obtain ⟨index, target⟩ := p
    have hsize := size_ofPuts size puts
    rw [ofPuts_append_singleton, List.countP_append, List.countP_singleton, ← ih]
    rcases out_or_exists_lt size index with hout | ⟨i, rfl, hi⟩
    · rw [afterPut_of_out (by rwa [hsize]), if_neg (by simp; omega), Nat.add_zero]
    · have hi' : i < (ofPuts size puts).size := by rwa [hsize]
      rw [afterPut_of_lt hi', if_pos (by simp; omega)]
      exact length_flatten_modify hi' target

/-- What a map of `size` indices holds after a run of puts. -/
structure Holds (size : Nat) (puts : List (Nat × Nat)) (m : SlotMap) : Prop where
  size_eq : m.size = size
  /-- An index out of range is refused and changes nothing. -/
  out : ∀ index, index = 0 ∨ size < index →
    m.get index = .error (.indexOutOfBounds index size) ∧
      ∀ target, m.put index target = .error (.indexOutOfBounds index size) ∧
        ofPuts size (puts ++ [(index, target)]) = m
  /-- Any other index has the slots that were put to it, in order. -/
  get : ∀ index, 1 ≤ index → index ≤ size → m.get index = .ok (slotsPut puts index)
  put : ∀ index target, 1 ≤ index → index ≤ size →
    m.put index target = .ok (ofPuts size (puts ++ [(index, target)]))
  targetCount : m.targetCount = puts.countP fun p => 1 ≤ p.1 ∧ p.1 ≤ size

theorem holds_ofPuts (size : Nat) (puts : List (Nat × Nat)) :
    Holds size puts (ofPuts size puts) := by
  have hsize := size_ofPuts size puts
  constructor
  case size_eq => exact hsize
  case out =>
    intro index hout
    have hout' : index = 0 ∨ (ofPuts size puts).size < index := by rwa [hsize]
    refine ⟨?_, fun target => ⟨?_, ?_⟩⟩
    · rw [get_of_out hout', hsize]
    · rw [put_of_out hout', hsize]
    · rw [ofPuts_append_singleton, afterPut_of_out hout']
  case get =>
    intro index hpos hle
    obtain ⟨i, rfl⟩ := Nat.exists_eq_add_of_le' hpos
    exact get_ofPuts hle puts
  case put =>
    intro index target hpos hle
    obtain ⟨i, rfl⟩ := Nat.exists_eq_add_of_le' hpos
    have hi : i < (ofPuts size puts).size := by rwa [hsize]
    rw [ofPuts_append_singleton, afterPut_of_lt hi, put_of_lt hi]
  case targetCount => exact targetCount_ofPuts size puts

end SlotMap

/-! ## Calls on a statement -/

/-- A call on a prepared statement.  A value is bound by the operation of its type, which the caller
names or leaves to the value. -/
inductive StatementCall where
  | bindShort (index : Nat) (n : Int16)
  | bindInt (index : Nat) (n : Int32)
  | bindLong (index : Nat) (n : Int64)
  | bindFloat (index : Nat) (bits : UInt32)
  | bindDouble (index : Nat) (bits : UInt64)
  | bindString (index : Nat) (t : String)
  | bindBlob (index : Nat) (bytes : List UInt8)
  | bindNull (index : Nat) (type : SqlType)
  | bindValue (index : Nat) (v : Value)
  | clear
  | execute
  | close

namespace StatementCall

/-- The index and the value of a bind. -/
def binding? : StatementCall → Option (Nat × Value)
  | bindShort index n => some (index, .short n)
  | bindInt index n => some (index, .int n)
  | bindLong index n => some (index, .long n)
  | bindFloat index bits => some (index, .float bits)
  | bindDouble index bits => some (index, .double bits)
  | bindString index t => some (index, .string t)
  | bindBlob index bytes => some (index, .blob bytes)
  | bindNull index type => some (index, .null type)
  | bindValue index v => some (index, v)
  | clear => none
  | execute => none
  | close => none

/-- The call of the engine that any other call is. -/
def engineCall? : StatementCall → Option EngineCall
  | clear => some .clear
  | execute => some .execute
  | close => some .close
  | _ => none

/-- A call that is no other is a bind. -/
theorem exists_binding {c : StatementCall} (h : c.engineCall? = none) :
    ∃ b, c.binding? = some b := by
  cases c <;> cases h <;> exact ⟨_, rfl⟩

end StatementCall

namespace Act

variable {ω α β : Type}

/-- An action whose success says nothing else. -/
def silent (x : Act ω Unit) : Act ω (Option α) := (fun _ => none) <$> x

theorem map_apply (f : α → β) (x : Act ω α) (w : ω) : (f <$> x) w = ((x w).1.map f, (x w).2) := by
  rw [map_eq_pure_bind, bind_apply]
  rcases x w with ⟨_ | _, _⟩ <;> rfl

theorem failure?_map (f : α → β) (r : Except Error α) : failure? (r.map f) = failure? r := by
  cases r <;> rfl

end Act

namespace Prepared

variable {ω O : Type}

/-- Makes a call; only an execution has a result. -/
def answer (s : Prepared ω O) : StatementCall → Act ω (Option O)
  | .bindShort index n => (s.bindShort index n).silent
  | .bindInt index n => (s.bindInt index n).silent
  | .bindLong index n => (s.bindLong index n).silent
  | .bindFloat index bits => (s.bindFloat index bits).silent
  | .bindDouble index bits => (s.bindDouble index bits).silent
  | .bindString index t => (s.bindString index t).silent
  | .bindBlob index bytes => (s.bindBlob index bytes).silent
  | .bindNull index type => (s.bindNull index type).silent
  | .bindValue index v => (s.bind index v).silent
  | .clear => s.clear.silent
  | .execute => some <$> s.execute
  | .close => s.close.silent

/-- Makes calls one after another, whichever of them fail. -/
def serve (s : Prepared ω O) : List StatementCall → ω → List (Except Error (Option O)) × ω
  | [], w => ([], w)
  | c :: cs, w =>
    let (reply, w) := s.answer c w
    let (replies, w) := s.serve cs w
    (reply :: replies, w)

/-- The operation of a type binds a value of that type. -/
theorem answer_of_binding {c : StatementCall} {index : Nat} {v : Value}
    (h : c.binding? = some (index, v)) (s : Prepared ω O) :
    s.answer c = (s.bind index v).silent := by
  cases c <;> cases h <;> rfl

theorem answer_remap_of_engineCall {c : StatementCall} {call : EngineCall}
    (h : c.engineCall? = some call) (s : Prepared ω O) (m : SlotMap) :
    (s.remap m).answer c = s.answer c := by
  cases c <;> cases h <;> rfl

theorem answer_watched_of_engineCall {c : StatementCall} {call : EngineCall}
    (h : c.engineCall? = some call) (s : Prepared ω O) (w : ω) (seen : List Event) :
    s.watched.answer c ⟨w, seen⟩ = ((s.answer c w).1,
      ⟨(s.answer c w).2, seen ++ [.engine call (Act.failure? (s.answer c w).1)]⟩) := by
  cases c <;> cases h <;>
    simp only [answer, watched, Act.silent, Act.map_apply, Act.seenAs, Act.failure?_map]

end Prepared

/-- What becomes of a call on a statement `p` seen through a map: the calls that `p` gets, the reply
and the world behind it. -/
inductive StatementCall.PassedOn {ω O : Type} (p : Prepared ω O) (m : SlotMap) (w : ω) :
    StatementCall → List Event → Except Error (Option O) × ω → Prop
  /-- An index out of range does not get to the statement. -/
  | refused {c : StatementCall} {index : Nat} {v : Value} : c.binding? = some (index, v) →
    index = 0 ∨ m.size < index →
      PassedOn p m w c [] (.error (.indexOutOfBounds index m.size), w)
  /-- The value is bound at the slots of its index, up to the first bind that fails. -/
  | bound {c : StatementCall} {index : Nat} {v : Value} {slots : List Nat} {events : List Event} :
    c.binding? = some (index, v) → m.get index = .ok slots →
    Binds (slots.map (v, ·)) events (p.bindPairs (slots.map (v, ·)) w).1 →
      PassedOn p m w c events ((p.bindPairs (slots.map (v, ·))).silent w)
  /-- Any other call is made once, with its own reply. -/
  | passed {c : StatementCall} {call : EngineCall} : c.engineCall? = some call →
      PassedOn p m w c [.engine call (Act.failure? (p.answer c w).1)] (p.answer c w)

/-- What becomes of calls one after another. -/
inductive StatementCall.AllPassedOn {ω O : Type} (p : Prepared ω O) (m : SlotMap) :
    ω → List StatementCall → List Event → List (Except Error (Option O)) × ω → Prop
  | nil (w : ω) : AllPassedOn p m w [] [] ([], w)
  | cons {w w' w'' : ω} {c : StatementCall} {cs : List StatementCall} {events more : List Event}
    {reply : Except Error (Option O)} {replies : List (Except Error (Option O))} :
    c.PassedOn p m w events (reply, w') → AllPassedOn p m w' cs more (replies, w'') →
      AllPassedOn p m w (c :: cs) (events ++ more) (reply :: replies, w'')

namespace Prepared

variable {ω O : Type} (p : Prepared ω O) (m : SlotMap)

theorem bind_remap_of_out {index : Nat} (h : index = 0 ∨ m.size < index) (v : Value) :
    (p.remap m).bind index v = Act.fail (.indexOutOfBounds index m.size) := by
  rw [bind_remap, bindAtSlots, SlotMap.get_of_out h]
  rfl

theorem bind_remap_of_get {index : Nat} {slots : List Nat} (h : m.get index = .ok slots)
    (v : Value) : (p.remap m).bind index v = p.bindPairs (slots.map (v, ·)) := by
  rw [bind_remap, bindAtSlots, Act.ofExcept_bind h, bindEach_eq_bindPairs]

theorem passedOn_answer (c : StatementCall) (w : ω) (seen : List Event) : ∃ events,
    (p.watched.remap m).answer c ⟨w, seen⟩ =
      (((p.remap m).answer c w).1, ⟨((p.remap m).answer c w).2, seen ++ events⟩) ∧
    c.PassedOn p m w events ((p.remap m).answer c w) := by
  cases hcall : c.engineCall? with
  | some call =>
    rw [answer_remap_of_engineCall hcall, answer_remap_of_engineCall hcall]
    exact ⟨_, p.answer_watched_of_engineCall hcall w seen, .passed hcall⟩
  | none =>
    obtain ⟨⟨index, v⟩, hc⟩ := StatementCall.exists_binding hcall
    rw [answer_of_binding hc, answer_of_binding hc]
    rcases SlotMap.out_or_exists_lt m.size index with hout | ⟨i, rfl, hi⟩
    · rw [bind_remap_of_out _ _ hout, bind_remap_of_out _ _ hout]
      exact ⟨[], by rw [List.append_nil]; rfl, .refused hc hout⟩
    · have hget := SlotMap.get_of_lt hi
      rw [bind_remap_of_get _ _ hget, bind_remap_of_get _ _ hget]
      obtain ⟨events, hbind, hbinds⟩ :=
        p.shows_bindPairs ((m.targets.getD i []).map (v, ·)) w seen
      refine ⟨events, ?_, .bound hc hget hbinds⟩
      rw [Act.silent, Act.map_apply, Act.silent, Act.map_apply, hbind, Except.map_id]
      rfl

theorem allPassedOn_serve (cs : List StatementCall) (w : ω) (seen : List Event) : ∃ events,
    (p.watched.remap m).serve cs ⟨w, seen⟩ =
      (((p.remap m).serve cs w).1, ⟨((p.remap m).serve cs w).2, seen ++ events⟩) ∧
    StatementCall.AllPassedOn p m w cs events ((p.remap m).serve cs w) := by
  induction cs generalizing w seen with
  | nil => exact ⟨[], by rw [List.append_nil]; rfl, .nil w⟩
  | cons c cs ih =>
    obtain ⟨events, hanswer, hpassed⟩ := p.passedOn_answer m c w seen
    obtain ⟨more, hmore, hall⟩ := ih ((p.remap m).answer c w).2 (seen ++ events)
    refine ⟨events ++ more, ?_, .cons hpassed hall⟩
    rw [serve, hanswer]
    simp only [hmore, List.append_assoc]
    rfl

end Prepared

/-- **Calls through a slot map.**  A map made by any run of puts holds what was put, and on any
statement seen through it, whichever calls of the statement fail, a bind is a bind at each slot of
its index in order and any other call is passed on once. -/
theorem SlotMap.fansOut_ofPuts (size : Nat) (puts : List (Nat × Nat)) :
    Holds size puts (ofPuts size puts) ∧
      ∀ {ω O : Type} (p : Prepared ω O) (cs : List StatementCall) (w : ω) (seen : List Event),
        ∃ events,
          (p.watched.remap (ofPuts size puts)).serve cs ⟨w, seen⟩ =
            (((p.remap (ofPuts size puts)).serve cs w).1,
              ⟨((p.remap (ofPuts size puts)).serve cs w).2, seen ++ events⟩) ∧
          StatementCall.AllPassedOn p (ofPuts size puts) w cs events
            ((p.remap (ofPuts size puts)).serve cs w) :=
  ⟨holds_ofPuts size puts, fun p cs w seen => p.allPassedOn_serve (ofPuts size puts) cs w seen⟩

/-- Index 1 has the slots 3, 1 and 2, of which slot 1 takes nothing; index 3 is out of range. -/
example : (((Recorder.statement Part.whole 0 (Recorder.changedRows 0)).watched.remap
      (SlotMap.ofPuts 2 [(1, 3), (3, 9), (1, 1), (1, 2)])).serve
        [.bindLong 1 7, .bindValue 3 (.null .int), .execute]
        ⟨{ settings := { failBind := some (.other "no"), failBindAt := some 1 } }, []⟩).2.seen =
    [.engine (.bind 3 (.long 7)) none, .engine (.bind 1 (.long 7)) (some (.other "no")),
      .engine .execute none] :=
  rfl

end SqlBuilder
