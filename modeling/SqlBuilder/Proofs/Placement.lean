import SqlBuilder.Proofs.Overwrite
import SqlBuilder.Statement.KeyedAssignment
import Mathlib.Data.List.Perm.Basic

/-!
# Places of arrivals

The places that `KeyedAssignments` keeps up step by step have a closed form: among the arrivals the
`r`-th key column has place `r`, and the `r`-th other column comes `r` places behind the keys
(`ranks`).  `KeyedAssignments.Coherent` says so together with the names in both groups; every insert
keeps it, because the shift that a late key causes is the passage from `n` keys to `n + 1`
(`map_shift_ranks`).  Everything else about places, values and slots follows from the closed form.
-/

namespace SqlBuilder

/-! ## Ranks -/

section Ranks

variable {α : Type} (first : α → Bool)

/-- The places of the members of a list when `n` members with `first` come before all others, where
`k` members with `first` and `o` others have their places already. -/
def ranks (n : Nat) : (k o : Nat) → List α → List Nat
  | _, _, [] => []
  | k, o, c :: cs =>
    if first c then k :: ranks n (k + 1) o cs else (n + o) :: ranks n k (o + 1) cs

@[simp] theorem length_ranks (n k o : Nat) (cs : List α) :
    (ranks first n k o cs).length = cs.length := by
  induction cs generalizing k o with
  | nil => rfl
  | cons c cs ih => by_cases h : first c <;> simp [ranks, h, ih]

theorem ranks_append_singleton (n k o : Nat) (cs : List α) (c : α) :
    ranks first n k o (cs ++ [c]) = ranks first n k o cs ++
      [if first c then k + cs.countP first else n + o + cs.countP (!first ·)] := by
  induction cs generalizing k o with
  | nil => by_cases h : first c <;> simp [ranks, h]
  | cons d cs ih =>
    by_cases h : first d <;> by_cases hc : first c <;> simp [ranks, h, hc, ih] <;> omega

/-- Making room for one more member with `first` behind those there are. -/
theorem map_shift_ranks {n k : Nat} {cs : List α} (h : k + cs.countP first ≤ n) (o : Nat) :
    (ranks first n k o cs).map (fun p => if n ≤ p then p + 1 else p) =
      ranks first (n + 1) k o cs := by
  induction cs generalizing k o with
  | nil => rfl
  | cons c cs ih =>
    by_cases hc : first c
    · rw [List.countP_cons_of_pos hc] at h
      have hk : ¬ n ≤ k := by omega
      simp [ranks, hc, hk, ih (k := k + 1) (by omega) o]
    · rw [List.countP_cons_of_neg hc] at h
      simp [ranks, hc, ih h (o + 1)]
      omega

theorem ranks_perm (n k o : Nat) (cs : List α) :
    (ranks first n k o cs).Perm
      (List.range' k (cs.countP first) ++ List.range' (n + o) (cs.countP (!first ·))) := by
  induction cs generalizing k o with
  | nil => simp [ranks]
  | cons c cs ih =>
    by_cases hc : first c
    · simpa [ranks, hc, List.range'_succ] using ih (k + 1) o
    · simp only [ranks, hc, Bool.false_eq_true, if_false, Bool.not_false,
        List.countP_cons_of_neg, not_false_eq_true, List.countP_cons_of_pos, List.range'_succ]
      exact ((ih k (o + 1)).cons _).trans List.perm_middle.symm

theorem getElem?_ranks {cs : List α} {i : Nat} {c : α} (h : cs[i]? = some c) (n k o : Nat) :
    (ranks first n k o cs)[i]? = some (if first c then k + (cs.take i).countP first
      else n + o + (cs.take i).countP (!first ·)) := by
  induction cs generalizing i k o with
  | nil => simp at h
  | cons d cs ih =>
    cases i with
    | zero =>
      obtain rfl : d = c := by simpa using h
      by_cases hd : first d <;> simp [ranks, hd]
    | succ i =>
      rw [List.getElem?_cons_succ] at h
      by_cases hd : first d <;> by_cases hc : first c <;> simp [ranks, hd, hc, ih h] <;> omega

/-- Among the members with `first`, one is preceded by those with `first` before it. -/
theorem getElem?_filter_countP_take {cs : List α} {i : Nat} {c : α} (h : cs[i]? = some c)
    (hc : first c) : (cs.filter first)[(cs.take i).countP first]? = some c := by
  obtain ⟨hi, rfl⟩ := List.getElem?_eq_some_iff.1 h
  have hcs : cs.filter first =
      (cs.take i).filter first ++ cs[i] :: (cs.drop (i + 1)).filter first := by
    rw [← List.filter_cons_of_pos hc, ← List.filter_append, List.getElem_cons_drop,
      List.take_append_drop]
  rw [hcs, List.countP_eq_length_filter, List.getElem?_append_right (Nat.le_refl _)]
  simp

/-- Where the closed form puts a member, there it stands when the members with `first` come before
all others. -/
theorem getElem?_sorted_of_ranks {cs : List α} {i p : Nat} {c : α} (h : cs[i]? = some c)
    (hp : (ranks first (cs.countP first) 0 0 cs)[i]? = some p) :
    (cs.filter first ++ cs.filter (!first ·))[p]? = some c := by
  rw [getElem?_ranks first h, Option.some.injEq] at hp
  have hlen : (cs.filter first).length = cs.countP first := List.countP_eq_length_filter.symm
  subst hp
  by_cases hc : first c
  · have hget := getElem?_filter_countP_take first h hc
    rw [if_pos hc, Nat.zero_add, List.getElem?_append_left (List.getElem?_eq_some_iff.1 hget).1]
    exact hget
  · rw [if_neg hc, List.getElem?_append_right (by omega), hlen, Nat.add_zero,
      Nat.add_sub_cancel_left]
    exact getElem?_filter_countP_take (!first ·) h (by simpa using hc)

theorem length_eq_countP_add (cs : List α) :
    cs.length = cs.countP first + cs.countP (!first ·) := by
  simpa using List.length_eq_countP_add_countP (l := cs) first

theorem take_succ_of_getElem? {cs : List α} {i : Nat} {c : α} (h : cs[i]? = some c) :
    cs.take (i + 1) = cs.take i ++ [c] := by
  rw [List.take_add_one, h, Option.toList_some]

end Ranks

/-- What tells the columns of an insert-or-replace apart. -/
def Column.ident (c : Column) : Bool × String := (c.isKey, c.name)

namespace KeyedAssignments

/-! ## One insert -/

section Insert

variable (a : KeyedAssignments) (c : Column) (v : Value)

@[simp] theorem arrivals_store : (a.store c v).arrivals = a.arrivals := by
  unfold store; split_ifs <;> rfl

@[simp] theorem places_store : (a.store c v).places = a.places := by
  unfold store; split_ifs <;> rfl

@[simp] theorem keys_arrive : (a.arrive c).keys = a.keys := rfl

@[simp] theorem others_arrive : (a.arrive c).others = a.others := rfl

@[simp] theorem arrivals_arrive : (a.arrive c).arrivals = a.arrivals ++ [c] := rfl

theorem keys_store : (a.store c v).keys = if c.isKey then a.keys.put c.name v else a.keys := by
  unfold store; split_ifs <;> rfl

theorem others_store :
    (a.store c v).others = if c.isKey then a.others else a.others.put c.name v := by
  unfold store; split_ifs <;> rfl

/-- The value of a column. -/
def value? : Option Value := (a.group c).get? c.name

theorem value?_arrive (d : Column) : (a.arrive d).value? c = a.value? c := rfl

theorem value?_store (d : Column) :
    (a.store d v).value? c = if d.ident = c.ident then some v else a.value? c := by
  unfold value? group store Column.ident
  cases hd : d.isKey <;> cases hc : c.isKey <;> simp [Register.get?_put]

theorem value?_insert (e : Column × Value) :
    (a.insert e).value? c = if e.1.ident = c.ident then some e.2 else a.value? c := by
  unfold insert
  split_ifs <;> simp_all [value?_store, value?_arrive]

end Insert

/-! ## Coherence -/

/-- The groups hold the names of the arrivals, no column arrived twice, and the places are those of
the closed form. -/
structure Coherent (a : KeyedAssignments) : Prop where
  keys_names : a.keys.names = (a.arrivals.filter (·.isKey)).map (·.name)
  others_names : a.others.names = (a.arrivals.filter (!·.isKey)).map (·.name)
  nodup : (a.arrivals.map Column.ident).Nodup
  places_eq : a.places = ranks (·.isKey) (a.arrivals.countP (·.isKey)) 0 0 a.arrivals

namespace Coherent

variable {a : KeyedAssignments} (h : a.Coherent)
include h

theorem keys_size : a.keys.size = a.arrivals.countP (·.isKey) := by
  rw [← Register.length_names, h.keys_names, List.length_map, List.countP_eq_length_filter]

theorem others_size : a.others.size = a.arrivals.countP (!·.isKey) := by
  rw [← Register.length_names, h.others_names, List.length_map, List.countP_eq_length_filter]

theorem places_length : a.places.length = a.arrivals.length := by
  rw [h.places_eq, length_ranks]

theorem mem_group_names_iff (c : Column) :
    c.name ∈ (a.group c).names ↔ c.ident ∈ a.arrivals.map Column.ident := by
  unfold group
  cases hc : c.isKey <;> simp [h.keys_names, h.others_names, Column.ident, hc, and_assoc]

theorem isSome_value?_iff (c : Column) :
    (a.value? c).isSome ↔ c.ident ∈ a.arrivals.map Column.ident :=
  Register.isSome_get?_iff.trans (h.mem_group_names_iff c)

/-- A column that is there has its value replaced and nothing else. -/
theorem insert_of_mem {e : Column × Value} (he : e.1.ident ∈ a.arrivals.map Column.ident) :
    a.insert e = a.store e.1 e.2 :=
  if_pos ((h.isSome_value?_iff e.1).2 he)

theorem insert_of_not_mem {e : Column × Value} (he : e.1.ident ∉ a.arrivals.map Column.ident) :
    a.insert e = (a.arrive e.1).store e.1 e.2 :=
  if_neg (mt (h.isSome_value?_iff e.1).1 he)

theorem keys_names_store_of_mem {c : Column} (hc : c.ident ∈ a.arrivals.map Column.ident)
    (v : Value) : (a.store c v).keys.names = a.keys.names := by
  have hmem := (h.mem_group_names_iff c).2 hc
  rw [keys_store]
  split_ifs with hk
  · rw [group, if_pos hk] at hmem
    rw [Register.names_put, if_pos hmem]
  · rfl

theorem others_names_store_of_mem {c : Column} (hc : c.ident ∈ a.arrivals.map Column.ident)
    (v : Value) : (a.store c v).others.names = a.others.names := by
  have hmem := (h.mem_group_names_iff c).2 hc
  rw [others_store]
  split_ifs with hk
  · rfl
  · rw [group, if_neg hk] at hmem
    rw [Register.names_put, if_pos hmem]

theorem store_of_mem {c : Column} (hc : c.ident ∈ a.arrivals.map Column.ident) (v : Value) :
    (a.store c v).Coherent where
  keys_names := by rw [h.keys_names_store_of_mem hc, arrivals_store, h.keys_names]
  others_names := by rw [h.others_names_store_of_mem hc, arrivals_store, h.others_names]
  nodup := by rw [arrivals_store]; exact h.nodup
  places_eq := by rw [arrivals_store, places_store]; exact h.places_eq

theorem places_lt {p : Nat} (hp : p ∈ a.places) : p < a.places.length := by
  have hlen := length_eq_countP_add (·.isKey) a.arrivals
  rw [h.places_length]
  rw [h.places_eq, (ranks_perm _ _ _ _ _).mem_iff, List.mem_append, List.mem_range'_1,
    List.mem_range'_1] at hp
  omega

/-- A key takes the place behind the keys and moves all others by one; any other column goes
last. -/
theorem places_arrive (c : Column) :
    (a.arrive c).places =
      ranks (·.isKey) ((a.arrivals ++ [c]).countP (·.isKey)) 0 0 (a.arrivals ++ [c]) := by
  rw [ranks_append_singleton, List.countP_append, List.countP_singleton]
  unfold arrive
  cases hc : c.isKey
  · have hmap : a.places.map (fun p => if a.places.length ≤ p then p + 1 else p) = a.places := by
      conv_rhs => rw [← List.map_id a.places]
      refine List.map_congr_left fun p hp => if_neg ?_
      exact Nat.not_le.2 (h.places_lt hp)
    simp only [Bool.false_eq_true, if_false, hmap, Nat.add_zero]
    rw [h.places_length, length_eq_countP_add (·.isKey), ← h.places_eq]
  · simp only [if_true, h.keys_size, Nat.zero_add]
    rw [h.places_eq, map_shift_ranks _ (Nat.le_of_eq (Nat.zero_add _))]

theorem keys_names_arrive_store {c : Column} (hc : c.ident ∉ a.arrivals.map Column.ident)
    (v : Value) : ((a.arrive c).store c v).keys.names =
      if c.isKey then a.keys.names ++ [c.name] else a.keys.names := by
  have hmem := mt (h.mem_group_names_iff c).1 hc
  rw [keys_store]
  split_ifs with hk
  · rw [group, if_pos hk] at hmem
    rw [keys_arrive, Register.names_put, if_neg hmem]
  · rfl

theorem others_names_arrive_store {c : Column} (hc : c.ident ∉ a.arrivals.map Column.ident)
    (v : Value) : ((a.arrive c).store c v).others.names =
      if c.isKey then a.others.names else a.others.names ++ [c.name] := by
  have hmem := mt (h.mem_group_names_iff c).1 hc
  rw [others_store]
  split_ifs with hk
  · rfl
  · rw [group, if_neg hk] at hmem
    rw [others_arrive, Register.names_put, if_neg hmem]

theorem arrive_store {c : Column} (hc : c.ident ∉ a.arrivals.map Column.ident) (v : Value) :
    ((a.arrive c).store c v).Coherent where
  keys_names := by
    rw [h.keys_names_arrive_store hc, h.keys_names, arrivals_store, arrivals_arrive]
    split_ifs with hk <;> simp [hk]
  others_names := by
    rw [h.others_names_arrive_store hc, h.others_names, arrivals_store, arrivals_arrive]
    split_ifs with hk <;> simp [hk]
  nodup := by
    rw [arrivals_store, arrivals_arrive, List.map_append, List.map_singleton, List.nodup_append]
    exact ⟨h.nodup, List.nodup_singleton _, fun x hx y hy e =>
      hc (List.mem_singleton.1 hy ▸ e ▸ hx)⟩
  places_eq := by rw [arrivals_store, places_store, arrivals_arrive, h.places_arrive c]

theorem insert (e : Column × Value) : (a.insert e).Coherent := by
  by_cases he : e.1.ident ∈ a.arrivals.map Column.ident
  · rw [h.insert_of_mem he]
    exact h.store_of_mem he e.2
  · rw [h.insert_of_not_mem he]
    exact h.arrive_store he e.2

theorem foldl_insert (es : List (Column × Value)) : (es.foldl .insert a).Coherent := by
  induction es generalizing a with
  | nil => exact h
  | cons e es ih => exact ih (h.insert e)

theorem arrivals_insert (e : Column × Value) : (a.insert e).arrivals.map Column.ident =
    if e.1.ident ∈ a.arrivals.map Column.ident then a.arrivals.map Column.ident
    else a.arrivals.map Column.ident ++ [e.1.ident] := by
  split_ifs with he
  · rw [h.insert_of_mem he, arrivals_store]
  · rw [h.insert_of_not_mem he, arrivals_store, arrivals_arrive, List.map_append,
      List.map_singleton]

end Coherent

/-! ## Runs -/

/-- The assignments after a run of inserts. -/
def ofEntries (es : List (Column × Value)) : KeyedAssignments := es.foldl .insert .empty

theorem ofEntries_append_singleton (es : List (Column × Value)) (e : Column × Value) :
    ofEntries (es ++ [e]) = (ofEntries es).insert e :=
  List.foldl_concat ..

theorem coherent_ofEntries (es : List (Column × Value)) : (ofEntries es).Coherent :=
  Coherent.foldl_insert (a := empty) ⟨rfl, rfl, List.nodup_nil, rfl⟩ es

theorem arrivals_ofEntries (es : List (Column × Value)) :
    (ofEntries es).arrivals.map Column.ident = (es.map (·.1.ident)).eraseDups := by
  induction es using List.reverseRecOn with
  | nil => rfl
  | append_singleton es e ih =>
    rw [ofEntries_append_singleton, (coherent_ofEntries es).arrivals_insert, List.map_append,
      List.map_singleton, eraseDups_append_singleton, ih]
    simp only [List.mem_eraseDups]

theorem value?_ofEntries (es : List (Column × Value)) (c : Column) :
    (ofEntries es).value? c = (lastOf (·.1.ident) c.ident es).map (·.2) := by
  induction es using List.reverseRecOn with
  | nil => unfold value? group; split_ifs <;> rfl
  | append_singleton es e ih =>
    rw [ofEntries_append_singleton, value?_insert, lastOf_append_singleton, ih]
    split_ifs <;> rfl

end KeyedAssignments

end SqlBuilder
