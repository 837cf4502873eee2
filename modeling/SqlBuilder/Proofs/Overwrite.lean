import SqlBuilder.Register
import Mathlib.Data.List.Induction
import Mathlib.Data.List.Nodup

/-!
# First arrivals and last values

What a register holds after any run of puts.  Its names are the distinct names of the run in the
order of their first arrival (`Register.names_puts`), and under each name stands the last entry put
there (`Register.get?_puts`).  Names and entries determine a register (`Register.ext_of_get?`), so
two runs with the same first arrivals and last entries end alike.

`firstOf` and `lastOf` say the same of plain lists: the first and the last member with a given key.
-/

namespace SqlBuilder

/-! ## Members of a list by key -/

section Keyed

variable {β κ : Type} [DecidableEq κ] (key : β → κ)

/-- The first member with a key. -/
def firstOf (k : κ) (es : List β) : Option β := es.find? (key · = k)

/-- The last member with a key. -/
def lastOf (k : κ) (es : List β) : Option β := es.reverse.find? (key · = k)

theorem firstOf_append_singleton (k : κ) (es : List β) (e : β) :
    firstOf key k (es ++ [e]) = (firstOf key k es).or (if key e = k then some e else none) := by
  by_cases h : key e = k <;> simp [firstOf, h]

theorem lastOf_append_singleton (k : κ) (es : List β) (e : β) :
    lastOf key k (es ++ [e]) = if key e = k then some e else lastOf key k es := by
  by_cases h : key e = k <;> simp [lastOf, h]

theorem lastOf_append (k : κ) (es fs : List β) :
    lastOf key k (es ++ fs) = (lastOf key k fs).or (lastOf key k es) := by
  simp [lastOf, List.find?_append]

theorem firstOf_map {α : Type} (f : α → β) (k : κ) (as : List α) :
    firstOf key k (as.map f) = (firstOf (fun a => key (f a)) k as).map f :=
  List.find?_map

theorem lastOf_map {α : Type} (f : α → β) (k : κ) (as : List α) :
    lastOf key k (as.map f) = (lastOf (fun a => key (f a)) k as).map f := by
  rw [lastOf, ← List.map_reverse, List.find?_map]
  rfl

variable {key}

theorem firstOf_eq_some {k : κ} {es : List β} {e : β} (h : firstOf key k es = some e) :
    e ∈ es ∧ key e = k :=
  ⟨List.mem_of_find?_eq_some h, by simpa using List.find?_some h⟩

theorem lastOf_eq_some {k : κ} {es : List β} {e : β} (h : lastOf key k es = some e) :
    e ∈ es ∧ key e = k :=
  ⟨by simpa using List.mem_of_find?_eq_some h, by simpa using List.find?_some h⟩

theorem firstOf_eq_none_iff {k : κ} {es : List β} :
    firstOf key k es = none ↔ k ∉ es.map key := by
  simp [firstOf]

theorem exists_lastOf_of_mem {k : κ} {es : List β} (h : k ∈ es.map key) :
    ∃ e, lastOf key k es = some e := by
  obtain ⟨e, he, rfl⟩ := List.mem_map.1 h
  exact Option.isSome_iff_exists.1 (List.find?_isSome.2 ⟨e, by simpa using he, by simp⟩)

theorem lastOf_eq_none_iff {k : κ} {es : List β} :
    lastOf key k es = none ↔ k ∉ es.map key := by
  simp [lastOf]

theorem lastOf_eq_some_iff_of_nodup {k : κ} {es : List β} {e : β} (h : (es.map key).Nodup) :
    lastOf key k es = some e ↔ e ∈ es ∧ key e = k := by
  refine ⟨lastOf_eq_some, ?_⟩
  rintro ⟨he, rfl⟩
  obtain ⟨f, hf⟩ : ∃ f, lastOf key (key e) es = some f :=
    exists_lastOf_of_mem (List.mem_map_of_mem he)
  obtain ⟨hmem, hkey⟩ := lastOf_eq_some hf
  rw [hf, List.inj_on_of_nodup_map h hmem he hkey]

/-- Members without the key do not matter for the last one with it. -/
theorem lastOf_filter {p : β → Bool} {k : κ} {es : List β} (h : ∀ e ∈ es, key e = k → p e) :
    lastOf key k (es.filter p) = lastOf key k es := by
  induction es using List.reverseRecOn with
  | nil => rfl
  | append_singleton es e ih =>
    have hes := ih fun f hf => h f (List.mem_append_left [e] hf)
    have he := h e List.mem_concat_self
    rw [List.filter_append, List.filter_singleton, lastOf_append_singleton]
    cases hp : p e with
    | true => rw [cond_true, lastOf_append_singleton, hes]
    | false =>
      have hk : key e ≠ k := fun hk => by simp [he hk] at hp
      rw [cond_false, List.append_nil, if_neg hk, hes]

/-- The last member is the same under two keys that tell it from the others alike. -/
theorem lastOf_congr {μ : Type} [DecidableEq μ] {other : β → μ} {k : κ} {m : μ} {es : List β}
    (h : ∀ e ∈ es, key e = k ↔ other e = m) : lastOf key k es = lastOf other m es := by
  induction es using List.reverseRecOn with
  | nil => rfl
  | append_singleton es e ih =>
    rw [lastOf_append_singleton, lastOf_append_singleton,
      ih fun f hf => h f (List.mem_append_left [e] hf)]
    simp only [h e List.mem_concat_self]

end Keyed

/-- Distinct members in the order of their first arrival, after one more. -/
theorem eraseDups_append_singleton {α : Type} [BEq α] [LawfulBEq α] (l : List α) (x : α) :
    (l ++ [x]).eraseDups = if x ∈ l then l.eraseDups else l.eraseDups ++ [x] := by
  rw [List.eraseDups_append]
  by_cases h : x ∈ l <;> simp [List.removeAll, List.eraseDups_cons, h]

theorem eraseDups_append_eraseDups {α : Type} [BEq α] [LawfulBEq α] (l m : List α) :
    (l ++ m.eraseDups).eraseDups = (l ++ m).eraseDups := by
  induction m using List.reverseRecOn with
  | nil => rfl
  | append_singleton m x ih =>
    rw [eraseDups_append_singleton]
    split_ifs with hx
    · rw [ih, ← List.append_assoc, eraseDups_append_singleton,
        if_pos (List.mem_append_right l hx)]
    · rw [← List.append_assoc, ← List.append_assoc, eraseDups_append_singleton,
        eraseDups_append_singleton, ih]
      simp only [List.mem_append, List.mem_eraseDups]

/-! ## Registers -/

namespace Register

variable {α : Type}

@[simp] theorem length_names (r : Register α) : r.names.length = r.size := List.length_map _

@[simp] theorem length_values (r : Register α) : r.values.length = r.size := List.length_map _

theorem isSome_get?_iff {name : String} {r : Register α} :
    (r.get? name).isSome ↔ name ∈ r.names := by
  simp [get?, names]

theorem get?_put (name other : String) (a : α) (r : Register α) :
    (r.put name a).get? other = if name = other then some a else r.get? other := by
  split_ifs with h
  · rw [← h, get?_put_self]
  · exact get?_put_of_ne (Ne.symm h) a r

theorem nodup_names_put {r : Register α} (h : r.names.Nodup) (name : String) (a : α) :
    (r.put name a).names.Nodup := by
  rw [names_put]
  split_ifs with hm
  · exact h
  · refine List.nodup_append.2 ⟨h, List.nodup_singleton name, fun x hx y hy e => hm ?_⟩
    rwa [← List.mem_singleton.1 hy, ← e]

/-- The entries are those under the names, in the order of the names. -/
theorem map_some_values {r : Register α} (h : r.names.Nodup) :
    r.values.map some = r.names.map r.get? := by
  obtain ⟨es⟩ := r
  simp only [names, values, get?, List.map_map] at h ⊢
  induction es with
  | nil => rfl
  | cons e es ih =>
    rw [List.map_cons, List.nodup_cons] at h
    have hne : ∀ x ∈ es, e.1 ≠ x.1 := fun x hx he => h.1 (he ▸ List.mem_map_of_mem hx)
    rw [List.map_cons, List.map_cons, ih h.2]
    refine congrArg₂ _ (by simp) (List.map_congr_left fun x hx => ?_)
    simp [hne x hx]

theorem ext_of_get? {r s : Register α} (h : r.names.Nodup) (hn : r.names = s.names)
    (hg : ∀ name, r.get? name = s.get? name) : r = s := by
  have hv : r.values.map some = s.values.map some := by
    rw [map_some_values h, map_some_values (hn ▸ h), hn]
    exact List.map_congr_left fun name _ => hg name
  have hv' : r.values = s.values := List.map_injective_iff.2 (fun _ _ => Option.some.inj) hv
  have hz (t : Register α) : t = ⟨t.names.zip t.values⟩ :=
    congrArg Register.mk (List.zip_of_prod rfl rfl)
  rw [hz r, hz s, hn, hv']

/-- Puts entries one after another. -/
def puts (r : Register α) (es : List (String × α)) : Register α :=
  es.foldl (fun r e => r.put e.1 e.2) r

theorem puts_append (r : Register α) (es fs : List (String × α)) :
    r.puts (es ++ fs) = (r.puts es).puts fs :=
  List.foldl_append

theorem names_puts (es : List (String × α)) :
    (puts {} es).names = (es.map (·.1)).eraseDups := by
  induction es using List.reverseRecOn with
  | nil => rfl
  | append_singleton es e ih =>
    rw [puts_append, List.map_append, List.map_singleton, eraseDups_append_singleton, ← ih]
    refine (names_put _ _ _).trans ?_
    simp only [ih, List.mem_eraseDups]

theorem get?_puts (name : String) (es : List (String × α)) :
    (puts {} es).get? name = (lastOf (·.1) name es).map (·.2) := by
  induction es using List.reverseRecOn with
  | nil => rfl
  | append_singleton es e ih =>
    rw [puts_append, lastOf_append_singleton]
    refine (get?_put _ _ _ _).trans ?_
    split_ifs <;> simp [ih]

theorem nodup_names_puts {r : Register α} (h : r.names.Nodup) (es : List (String × α)) :
    (r.puts es).names.Nodup := by
  induction es generalizing r with
  | nil => exact h
  | cons e es ih => exact ih (nodup_names_put h e.1 e.2)

end Register

end SqlBuilder
