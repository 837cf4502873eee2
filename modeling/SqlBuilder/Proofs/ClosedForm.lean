import SqlBuilder.Proofs.Placement

/-!
# Values and slots of arrivals

What callers read off `KeyedAssignments`.  The values in the order of the text are those of the
columns in that order (`Coherent.map_some_orderedArgs`), so the place of an arrival finds its value.
The slot map gives every arrival the slots of its place (`slotMap_eq`), and together these are the
numbers from 1 up to their count (`Coherent.flatten_targets_perm`).
-/

namespace SqlBuilder

namespace SlotMap

/-! ## Filling a slot map -/

theorem place_of_lt {m : SlotMap} {i : Nat} (hi : i < m.size) : m.place (i + 1) = .ok i := by
  rw [place, if_neg (by omega), Nat.add_sub_cancel]

theorem get_of_lt {m : SlotMap} {i : Nat} (hi : i < m.size) :
    m.get (i + 1) = .ok (m.targets.getD i []) := by
  rw [get, place_of_lt hi]
  rfl

theorem put_append (before : List (List Nat)) (slots : List Nat) (behind : List (List Nat))
    (target : Nat) :
    put ⟨before ++ slots :: behind⟩ (before.length + 1) target =
      .ok ⟨before ++ (slots ++ [target]) :: behind⟩ := by
  rw [put, place_of_lt (by simp [size])]
  refine congrArg (fun targets => Except.ok (SlotMap.mk targets)) ?_
  induction before with
  | nil => rfl
  | cons first before ih => exact congrArg (first :: ·) ih

theorem foldlM_put (before : List (List Nat)) (slots : List Nat) (behind : List (List Nat))
    (targets : List Nat) :
    targets.foldlM (fun m target => m.put (before.length + 1) target) ⟨before ++ slots :: behind⟩ =
      (.ok ⟨before ++ (slots ++ targets) :: behind⟩ : Except Error SlotMap) := by
  induction targets generalizing slots with
  | nil => rw [List.append_nil]; rfl
  | cons target targets ih =>
    rw [List.foldlM_cons, put_append]
    refine (ih (slots ++ [target])).trans ?_
    rw [List.append_assoc, List.singleton_append]

end SlotMap

namespace KeyedAssignments

/-- Filling the map from one arrival on, when all before have their slots. -/
theorem foldlM_slotsOf (a : KeyedAssignments) (rebinds : Bool) (before : List (List Nat))
    (places : List Nat) :
    (places.zipIdx before.length).foldlM (fun m (place, i) =>
      (a.slotsOf rebinds place).foldlM (fun m slot => m.put (i + 1) slot) m)
        ⟨before ++ List.replicate places.length []⟩ =
      (.ok ⟨before ++ places.map (a.slotsOf rebinds)⟩ : Except Error SlotMap) := by
  induction places generalizing before with
  | nil => rfl
  | cons place places ih =>
    rw [List.zipIdx_cons, List.foldlM_cons, List.length_cons, List.replicate_succ]
    dsimp only
    rw [SlotMap.foldlM_put, List.nil_append]
    have hnext := ih (before ++ [a.slotsOf rebinds place])
    rw [List.length_append, List.length_singleton, List.append_assoc, List.append_assoc] at hnext
    exact hnext

theorem slotMap_eq (a : KeyedAssignments) (rebinds : Bool) :
    a.slotMap rebinds = .ok ⟨a.places.map (a.slotsOf rebinds)⟩ :=
  a.foldlM_slotsOf rebinds [] a.places

/-! ## Values -/

/-- The columns in the order of the text. -/
def textOrder (a : KeyedAssignments) : List Column :=
  a.arrivals.filter (·.isKey) ++ a.arrivals.filter (!·.isKey)

theorem map_some_filterMap {α β : Type} {f : α → Option β} {l : List α}
    (h : ∀ x ∈ l, (f x).isSome) : (l.filterMap f).map some = l.map f := by
  induction l with
  | nil => rfl
  | cons x l ih =>
    obtain ⟨b, hb⟩ := Option.isSome_iff_exists.1 (h x List.mem_cons_self)
    rw [List.filterMap_cons_some hb, List.map_cons, List.map_cons, hb,
      ih fun y hy => h y (List.mem_cons_of_mem x hy)]

theorem map_succ_range (n : Nat) : (List.range n).map (· + 1) = List.range' 1 n := by
  rw [List.range'_eq_map_range]
  exact List.map_congr_left fun p _ => Nat.add_comm p 1

namespace Coherent

variable {a : KeyedAssignments} (h : a.Coherent)
include h

theorem map_some_clientArgs : a.clientArgs.map some = a.arrivals.map a.value? :=
  map_some_filterMap fun c hc => (h.isSome_value?_iff c).2 (List.mem_map_of_mem hc)

theorem clientArgs_length : a.clientArgs.length = a.size := by
  have hlen := congrArg List.length h.map_some_clientArgs
  rwa [List.length_map, List.length_map, ← h.places_length] at hlen

/-- Columns of one group that arrived have distinct names. -/
theorem nodup_names_filter {p : Column → Bool} {key : Bool} (hp : ∀ c, p c → c.isKey = key) :
    ((a.arrivals.filter p).map (·.name)).Nodup := by
  have hident : ((a.arrivals.filter p).map Column.ident).Nodup :=
    h.nodup.sublist (List.filter_sublist.map _)
  have hmap : (a.arrivals.filter p).map Column.ident =
      ((a.arrivals.filter p).map (·.name)).map (key, ·) := by
    rw [List.map_map]
    apply List.map_congr_left
    intro c hc
    rw [Column.ident, hp c (List.mem_filter.1 hc).2]
    rfl
  exact (hmap ▸ hident).of_map

theorem nodup_keys_names : a.keys.names.Nodup := by
  rw [h.keys_names]
  exact h.nodup_names_filter fun c hc => hc

theorem nodup_others_names : a.others.names.Nodup := by
  rw [h.others_names]
  exact h.nodup_names_filter fun c hc => by simpa using hc

theorem map_some_orderedArgs : a.orderedArgs.map some = a.textOrder.map a.value? := by
  have hk : (a.arrivals.filter (·.isKey)).map a.value? = a.keys.values.map some := by
    rw [Register.map_some_values h.nodup_keys_names, h.keys_names, List.map_map]
    apply List.map_congr_left
    intro c hc
    have hkey : c.isKey := (List.mem_filter.1 hc).2
    simp [value?, group, hkey]
  have ho : (a.arrivals.filter (!·.isKey)).map a.value? = a.others.values.map some := by
    rw [Register.map_some_values h.nodup_others_names, h.others_names, List.map_map]
    apply List.map_congr_left
    intro c hc
    have hkey : c.isKey = false := by simpa using (List.mem_filter.1 hc).2
    simp [value?, group, hkey]
  rw [orderedArgs, textOrder, List.map_append, List.map_append, hk, ho]

/-- An arrival stands at its place in the text. -/
theorem getElem?_textOrder {i p : Nat} {c : Column} (hc : a.arrivals[i]? = some c)
    (hp : a.places[i]? = some p) : a.textOrder[p]? = some c := by
  rw [h.places_eq] at hp
  exact getElem?_sorted_of_ranks _ hc hp

/-- The value of an arrival, in the order of arrival and in the order of the text. -/
theorem getElem?_args {i p : Nat} {c : Column} (hc : a.arrivals[i]? = some c)
    (hp : a.places[i]? = some p) :
    a.clientArgs[i]? = a.value? c ∧ a.orderedArgs[p]? = a.value? c := by
  obtain ⟨v, hv⟩ := Option.isSome_iff_exists.1
    ((h.isSome_value?_iff c).2 (List.mem_map_of_mem (List.mem_of_getElem? hc)))
  have hclient : (a.clientArgs.map some)[i]? = some (a.value? c) := by
    rw [h.map_some_clientArgs, List.getElem?_map, hc, Option.map_some]
  have hordered : (a.orderedArgs.map some)[p]? = some (a.value? c) := by
    rw [h.map_some_orderedArgs, List.getElem?_map, h.getElem?_textOrder hc hp, Option.map_some]
  rw [hv] at hclient hordered ⊢
  rw [List.getElem?_map] at hclient hordered
  exact ⟨by simpa using hclient, by simpa using hordered⟩

/-! ## Slots -/

theorem places_perm : a.places.Perm (List.range a.size) := by
  have hlen := length_eq_countP_add (·.isKey) a.arrivals
  have hperm := ranks_perm (·.isKey) (a.arrivals.countP (·.isKey)) 0 0 a.arrivals
  rw [← h.places_eq, Nat.add_zero] at hperm
  rw [size, h.places_length, hlen, List.range_eq_range']
  refine hperm.trans (List.Perm.of_eq ?_)
  have happ := @List.range'_append_1 0 (a.arrivals.countP (·.isKey))
    (a.arrivals.countP (!·.isKey))
  rwa [Nat.zero_add] at happ

theorem positions_perm_range' : a.positions.Perm (List.range' 1 a.size) :=
  map_succ_range a.size ▸ h.places_perm.map (· + 1)

theorem size_eq : a.size = a.keys.size + a.others.size := by
  rw [size, h.places_length, h.keys_size, h.others_size]
  exact length_eq_countP_add _ _

/-- The second slots are those behind all first ones. -/
theorem flatMap_second_slots : (List.range a.size).flatMap (fun place =>
    if a.keys.size ≤ place then [a.size + (place - a.keys.size) + 1] else []) =
      List.range' (a.size + 1) a.others.size := by
  have hrange : List.range a.size =
      List.range a.keys.size ++ (List.range a.others.size).map (a.keys.size + ·) := by
    rw [h.size_eq, List.range_add]
  have hkeys : (List.range a.keys.size).flatMap (fun place =>
      if a.keys.size ≤ place then [a.size + (place - a.keys.size) + 1] else []) = [] := by
    refine List.flatMap_eq_nil_iff.2 fun p hp => if_neg ?_
    exact Nat.not_le.2 (List.mem_range.1 hp)
  rw [hrange, List.flatMap_append, hkeys, List.nil_append, List.flatMap_map,
    List.range'_eq_map_range, List.map_eq_flatMap]
  apply List.flatMap_congr
  intro p _
  rw [if_pos (Nat.le_add_right _ _), Nat.add_sub_cancel_left]
  congr 1
  omega

/-- Together the slots of the map are the numbers from 1 up to their count. -/
theorem flatten_targets_perm (rebinds : Bool) :
    (a.places.map (a.slotsOf rebinds)).flatten.Perm
      (List.range' 1 (a.size + if rebinds then a.others.size else 0)) := by
  rw [← List.flatMap_def]
  refine (h.places_perm.flatMap_right _).trans ?_
  cases rebinds
  · have hone : a.slotsOf false = fun place => [place + 1] := by
      funext place
      simp [slotsOf]
    rw [hone, ← List.map_eq_flatMap, map_succ_range]
    rfl
  · have htwo : a.slotsOf true = fun place => (place + 1) ::
        if a.keys.size ≤ place then [a.size + (place - a.keys.size) + 1] else [] := by
      funext place
      simp [slotsOf]
    rw [htwo]
    refine (List.map_append_flatMap_perm _ _ _).symm.trans ?_
    rw [map_succ_range, h.flatMap_second_slots, if_pos rfl, Nat.add_comm a.size 1,
      List.range'_append_1]

/-- A place is the number of arrivals of the same group before, behind the keys for one that is no
key. -/
theorem place_of_arrival {i p : Nat} {c : Column} (hc : a.arrivals[i]? = some c)
    (hp : a.places[i]? = some p) : p = if c.isKey then (a.arrivals.take i).countP (·.isKey)
      else a.keys.size + (a.arrivals.take i).countP (!·.isKey) := by
  have hrank := getElem?_ranks (·.isKey) hc (a.arrivals.countP (·.isKey)) 0 0
  rw [← h.places_eq, hp, Option.some.injEq, ← h.keys_size] at hrank
  rw [hrank, Nat.zero_add, Nat.add_zero]

/-- A place lies behind the keys exactly when the column is none. -/
theorem keys_size_le_place_iff {i p : Nat} {c : Column} (hc : a.arrivals[i]? = some c)
    (hp : a.places[i]? = some p) : a.keys.size ≤ p ↔ c.isKey = false := by
  rw [h.place_of_arrival hc hp]
  cases hk : c.isKey
  · simp
  · have hlt := (List.getElem?_eq_some_iff.1 (getElem?_filter_countP_take (·.isKey) hc hk)).1
    rw [← List.countP_eq_length_filter, ← h.keys_size] at hlt
    simpa using hlt

theorem getElem?_positions {i : Nat} {c : Column} (hc : a.arrivals[i]? = some c) :
    a.positions[i]? = some (if c.isKey then (a.arrivals.take (i + 1)).countP (·.isKey)
      else a.keys.size + (a.arrivals.take (i + 1)).countP (!·.isKey)) := by
  obtain ⟨p, hp⟩ : ∃ p, a.places[i]? = some p := by
    have hi := (List.getElem?_eq_some_iff.1 hc).1
    rw [← h.places_length] at hi
    exact ⟨_, List.getElem?_eq_getElem hi⟩
  rw [positions, List.getElem?_map, hp, Option.map_some, h.place_of_arrival hc hp,
    take_succ_of_getElem? hc, List.countP_append, List.countP_append, List.countP_singleton,
    List.countP_singleton]
  cases c.isKey <;> rfl

/-- The slots of an arrival, counted from its position. -/
theorem get_slotMap {i p : Nat} {c : Column} (hc : a.arrivals[i]? = some c)
    (hp : a.places[i]? = some p) (rebinds : Bool) :
    SlotMap.get ⟨a.places.map (a.slotsOf rebinds)⟩ (i + 1) =
      .ok (if rebinds && !c.isKey then [p + 1, a.size + (p + 1) - a.keys.size] else [p + 1]) := by
  have hi : i < a.places.length := (List.getElem?_eq_some_iff.1 hp).1
  have hle := h.keys_size_le_place_iff hc hp
  rw [SlotMap.get_of_lt (by simpa [SlotMap.size] using hi), List.getD_eq_getElem?_getD,
    List.getElem?_map, hp, Option.map_some, Option.getD_some, slotsOf]
  cases rebinds <;> cases hk : c.isKey
  · rfl
  · rfl
  · have hle' := hle.2 hk
    have hslot : a.size + (p - a.keys.size) + 1 = a.size + (p + 1) - a.keys.size := by omega
    simp [hle', hslot]
  · have hle' : ¬ a.keys.size ≤ p := fun hp => by simp [hk] at hle; omega
    simp [hle']

end Coherent

/-! ## The closed form -/

/-- What a run of inserts leaves, said of its entries all at once. -/
structure ClosedForm (es : List (Column × Value)) (a : KeyedAssignments) : Prop where
  /-- The arrivals are the distinct columns of the run, in the order in which they first came. -/
  arrivals_ident : a.arrivals.map Column.ident = (es.map (·.1.ident)).eraseDups
  keys_names : a.keys.names = (a.arrivals.filter (·.isKey)).map (·.name)
  others_names : a.others.names = (a.arrivals.filter (!·.isKey)).map (·.name)
  size_eq_arrivals : a.size = a.arrivals.length
  size_eq_groups : a.size = a.keys.names.length + a.others.names.length
  positions_perm : a.positions.Perm (List.range' 1 a.size)
  /-- The `r`-th key column to arrive has position `r`. -/
  position_key : ∀ (i : Nat) (c : Column), a.arrivals[i]? = some c → c.isKey = true →
    a.positions[i]? = some ((a.arrivals.take (i + 1)).countP (·.isKey))
  /-- The `r`-th other column to arrive comes `r` positions behind the keys. -/
  position_other : ∀ (i : Nat) (c : Column), a.arrivals[i]? = some c → c.isKey = false →
    a.positions[i]? = some (a.keys.names.length + (a.arrivals.take (i + 1)).countP (!·.isKey))
  /-- Callers and text agree on the value of a column: it is the last one given for it. -/
  value : ∀ (i : Nat) (c : Column) (p : Nat), a.arrivals[i]? = some c → a.positions[i]? = some p →
    ∃ e, lastOf (·.1.ident) c.ident es = some e ∧
      a.clientArgs[i]? = some e.2 ∧ a.orderedArgs[p - 1]? = some e.2
  /-- A column that is there changes no position and no order. -/
  overwrite : ∀ e : Column × Value, e.1.ident ∈ es.map (·.1.ident) →
    (a.insert e).positions = a.positions ∧ (a.insert e).arrivals = a.arrivals ∧
      (a.insert e).keys.names = a.keys.names ∧ (a.insert e).others.names = a.others.names
  /-- The slots are the numbers from 1 up to their count.  A column has the slot of its position,
  and one that is no key has a second slot if those are asked for. -/
  slots : ∀ rebinds, ∃ m, a.slotMap rebinds = .ok m ∧ m.size = a.size ∧
    m.targetCount = a.size + (if rebinds then a.others.names.length else 0) ∧
    m.targets.flatten.Perm (List.range' 1 m.targetCount) ∧
    ∀ (i : Nat) (c : Column) (p : Nat), a.arrivals[i]? = some c → a.positions[i]? = some p →
      m.get (i + 1) =
        .ok (if rebinds && !c.isKey then [p, a.size + p - a.keys.names.length] else [p])

theorem closedForm_ofEntries (es : List (Column × Value)) : ClosedForm es (ofEntries es) := by
  have h := coherent_ofEntries es
  -- A position is a place counted from 1.
  have hplace {i p : Nat} (hp : (ofEntries es).positions[i]? = some p) :
      ∃ q, (ofEntries es).places[i]? = some q ∧ p = q + 1 := by
    rw [positions, List.getElem?_map, Option.map_eq_some_iff] at hp
    obtain ⟨q, hq, rfl⟩ := hp
    exact ⟨q, hq, rfl⟩
  constructor
  case arrivals_ident => exact arrivals_ofEntries es
  case keys_names => exact h.keys_names
  case others_names => exact h.others_names
  case size_eq_arrivals => exact h.places_length
  case size_eq_groups => rw [Register.length_names, Register.length_names, h.size_eq]
  case positions_perm => exact h.positions_perm_range'
  case position_key =>
    intro i c hc hk
    rw [h.getElem?_positions hc, if_pos hk]
  case position_other =>
    intro i c hc hk
    rw [h.getElem?_positions hc, hk, Register.length_names]
    rfl
  case value =>
    intro i c p hc hp
    obtain ⟨q, hq, rfl⟩ := hplace hp
    obtain ⟨hclient, hordered⟩ := h.getElem?_args hc hq
    have hmem : c.ident ∈ es.map (·.1.ident) := by
      rw [← List.mem_eraseDups, ← arrivals_ofEntries]
      exact List.mem_map_of_mem (List.mem_of_getElem? hc)
    obtain ⟨e, he⟩ : ∃ e, lastOf (·.1.ident) c.ident es = some e := exists_lastOf_of_mem hmem
    rw [value?_ofEntries, he] at hclient hordered
    exact ⟨e, he, hclient, hordered⟩
  case overwrite =>
    intro e he
    rw [← List.mem_eraseDups, ← arrivals_ofEntries] at he
    rw [h.insert_of_mem he]
    exact ⟨congrArg (List.map (· + 1)) (places_store ..), arrivals_store ..,
      h.keys_names_store_of_mem he _, h.others_names_store_of_mem he _⟩
  case slots =>
    intro rebinds
    have hperm := h.flatten_targets_perm rebinds
    have hcount : SlotMap.targetCount ⟨(ofEntries es).places.map ((ofEntries es).slotsOf rebinds)⟩ =
        (ofEntries es).size + if rebinds then (ofEntries es).others.names.length else 0 := by
      rw [SlotMap.targetCount, hperm.length_eq, List.length_range', Register.length_names]
    refine ⟨_, slotMap_eq _ rebinds, List.length_map _, hcount, ?_, ?_⟩
    · rw [hcount, Register.length_names]
      exact hperm
    · intro i c p hc hp
      obtain ⟨q, hq, rfl⟩ := hplace hp
      rw [h.get_slotMap hc hq, Register.length_names]

end KeyedAssignments

end SqlBuilder
