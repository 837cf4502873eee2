import SqlBuilder.Condition.Clause
import SqlBuilder.Proofs.Fallible

/-!
# The grammar of WHERE clauses

Which lists of conditions have a text.  `Condition.WellFormed` says which predicates can be written
and `Condition.IsClause` which lists take turns between such predicates and connectors, neither of
them by how the text is made.  No conditions have no clause, those in `IsClause` have one, and all
others are refused (`Condition.clauseSql_outcomes`); the mark for bound values has no part in it.
-/

namespace SqlBuilder

namespace Condition

/-- A predicate that can be written.  A bare connector is none. -/
inductive WellFormed : Condition → Prop
  | null (test : NullTest) (column : String) : WellFormed (null test column)
  | compare (op : Comparison) (column : String) : WellFormed (compare op column)
  | among (op : Membership) (column : String) {count : Nat} :
    0 < count → WellFormed (among op column count)
  | amongQuery (op : Membership) (column : String) {query : String} :
    (∃ ch ∈ query.toList, ¬ Text.isWhiteSpace ch) → WellFormed (amongQuery op column query)
  | between (column : String) : WellFormed (between column)
  | group (c : Connector) {members : List Condition} :
    members ≠ [] → (∀ m ∈ members, WellFormed m) → WellFormed (group c members)

/-- An odd number of conditions: predicates that can be written at the even places, connectors at
the odd ones. -/
structure IsClause (cs : List Condition) : Prop where
  odd : cs.length % 2 = 1
  predicate : ∀ i (h : i < cs.length), i % 2 = 0 → cs[i].WellFormed
  connector : ∀ i (h : i < cs.length), i % 2 = 1 → ∃ k, cs[i] = .connector k

/-- The same by what stands first. -/
inductive Turns : List Condition → Prop
  | one {p : Condition} : p.WellFormed → Turns [p]
  | more {p : Condition} {k : Connector} {cs : List Condition} :
    p.WellFormed → Turns cs → Turns (p :: .connector k :: cs)

theorem IsClause.turns : ∀ {cs : List Condition}, IsClause cs → Turns cs
  | [], h => absurd h.odd (by decide)
  | [p], h => .one (h.predicate 0 (by simp) rfl)
  | p :: c :: cs, h => by
    obtain ⟨k, rfl⟩ : ∃ k, c = .connector k := h.connector 1 (by simp) rfl
    have hrest : IsClause cs := by
      constructor
      case odd => simpa [Nat.add_assoc] using h.odd
      case predicate =>
        intro i hi heven
        exact h.predicate (i + 2) (by simpa using hi) (by omega)
      case connector =>
        intro i hi hodd
        exact h.connector (i + 2) (by simpa using hi) (by omega)
    exact .more (h.predicate 0 (by simp) rfl) hrest.turns

/-! ## Predicates -/

theorem WellFormed.connector?_eq_none {c : Condition} (h : c.WellFormed) :
    c.connector? = none := by
  cases h <;> rfl

theorem connector?_eq_none_iff {c : Condition} : c.connector? = none ↔ ∀ k, c ≠ .connector k := by
  cases c <;> simp [connector?]

theorem wellFormed_among_iff {op : Membership} {column : String} {count : Nat} :
    (among op column count).WellFormed ↔ 0 < count :=
  ⟨fun | .among _ _ h => h, .among op column⟩

theorem wellFormed_amongQuery_iff {op : Membership} {column query : String} :
    (amongQuery op column query).WellFormed ↔ ∃ ch ∈ query.toList, ¬ Text.isWhiteSpace ch :=
  ⟨fun | .amongQuery _ _ h => h, .amongQuery op column⟩

theorem wellFormed_group_iff {c : Connector} {members : List Condition} :
    (group c members).WellFormed ↔ members ≠ [] ∧ ∀ m ∈ members, m.WellFormed :=
  ⟨fun | .group _ hne h => ⟨hne, h⟩, fun ⟨hne, h⟩ => .group c hne h⟩

mutual

/-- A condition alone has a text if it is a predicate that can be written or a connector. -/
theorem exists_template_eq_ok_iff (c : Condition) :
    (∃ t, c.template = .ok t) ↔ c.WellFormed ∨ ∃ k, c = .connector k := by
  cases c with
  | null test column => simp [template, WellFormed.null]
  | compare op column => simp [template, WellFormed.compare]
  | among op column count =>
    rw [template, exists_guard_eq_ok_iff, wellFormed_among_iff]
    simp [Nat.pos_iff_ne_zero]
  | amongQuery op column query =>
    rw [template, exists_guard_eq_ok_iff, wellFormed_amongQuery_iff]
    simp [Text.isBlank]
  | between column => simp [template, WellFormed.between]
  | connector k => simp [template]
  | group k members =>
    rw [template, exists_guard_eq_ok_iff, exists_map_eq_ok_iff,
      exists_memberTemplates_eq_ok_iff k members, wellFormed_group_iff]
    simp

theorem exists_memberTemplates_eq_ok_iff (k : Connector) (ms : List Condition) :
    (∃ ts, memberTemplates k ms = .ok ts) ↔ ∀ m ∈ ms, m.WellFormed := by
  cases ms with
  | nil => simp [memberTemplates]
  | cons m ms =>
    rw [memberTemplates, List.forall_mem_cons, ← exists_memberTemplates_eq_ok_iff k ms]
    cases hk : m.connector? with
    | some inner =>
      have hm : ¬ m.WellFormed := fun h => by simp [h.connector?_eq_none] at hk
      simp [hm]
    | none =>
      have hm : (∃ t, m.template = .ok t) ↔ m.WellFormed := by
        rw [exists_template_eq_ok_iff m]
        exact or_iff_left fun ⟨k, hm⟩ => connector?_eq_none_iff.1 hk k hm
      rw [← hm]
      cases m.template <;> cases memberTemplates k ms <;>
        simp [bind, Except.bind, pure, Except.pure]

end

/-! ## Turns -/

/-- The turns of the members behind a first one are those of the other kind. -/
theorem forall_turn_cons_iff {after : Bool} {c : Condition} {cs : List Condition} :
    (∀ i (h : i < (c :: cs).length),
        ((c :: cs)[i].connector? = none ↔ (i % 2 = 0 ↔ after = false))) ↔
      (c.connector? = none ↔ after = false) ∧
        ∀ i (h : i < cs.length), (cs[i].connector? = none ↔ (i % 2 = 0 ↔ (!after) = false)) := by
  have hnext (i : Nat) :
      ((i + 1) % 2 = 0 ↔ after = false) ↔ (i % 2 = 0 ↔ (!after) = false) := by
    cases after <;> simp <;> omega
  constructor
  · intro h
    refine ⟨(h 0 (Nat.succ_pos _)).trans (by simp), fun i hi => ?_⟩
    exact (h (i + 1) (Nat.succ_lt_succ hi)).trans (hnext i)
  · rintro ⟨hfirst, hrest⟩ i hi
    cases i with
    | zero => exact hfirst.trans (by simp)
    | succ i => exact (hrest i (Nat.lt_of_succ_lt_succ hi)).trans (hnext i).symm

/-- Behind a predicate, or at the beginning, the turns are those of even and odd places. -/
theorem checkTurns_eq_ok_iff (after : Bool) (cs : List Condition) :
    checkTurns after cs = .ok () ↔ (cs.length % 2 = 1 ↔ after = false) ∧
      ∀ i (h : i < cs.length), (cs[i].connector? = none ↔ (i % 2 = 0 ↔ after = false)) := by
  induction cs generalizing after with
  | nil => cases after <;> simp [checkTurns]
  | cons c cs ih =>
    have hodd :
        ((c :: cs).length % 2 = 1 ↔ after = false) ↔ (cs.length % 2 = 1 ↔ (!after) = false) := by
      rw [List.length_cons]
      cases after <;> simp <;> omega
    rw [forall_turn_cons_iff, hodd, and_left_comm, ← ih, checkTurns.eq_def]
    cases hk : c.connector? <;> cases after <;> simp [hk]

theorem isClause_iff {cs : List Condition} :
    IsClause cs ↔ checkTurns false cs = .ok () ∧ ∃ ts, cs.mapM template = .ok ts := by
  rw [checkTurns_eq_ok_iff, exists_mapM_eq_ok_iff]
  constructor
  · intro h
    refine ⟨⟨by simp [h.odd], fun i hi => ?_⟩, fun c hc => ?_⟩
    · rcases Nat.mod_two_eq_zero_or_one i with heven | hodd
      · simp [(h.predicate i hi heven).connector?_eq_none, heven]
      · obtain ⟨k, hk⟩ := h.connector i hi hodd
        simp [hk, connector?, hodd]
    · obtain ⟨i, hi, rfl⟩ := List.getElem_of_mem hc
      rw [exists_template_eq_ok_iff]
      rcases Nat.mod_two_eq_zero_or_one i with heven | hodd
      · exact .inl (h.predicate i hi heven)
      · exact .inr (h.connector i hi hodd)
  · rintro ⟨⟨hlength, hturns⟩, htemplates⟩
    have hwritten (i : Nat) (hi : i < cs.length) :=
      (exists_template_eq_ok_iff cs[i]).1 (htemplates cs[i] (List.getElem_mem hi))
    constructor
    case odd => simpa using hlength
    case predicate =>
      intro i hi heven
      have hnone : cs[i].connector? = none := by simp [hturns i hi, heven]
      exact (hwritten i hi).resolve_right fun ⟨k, hk⟩ => connector?_eq_none_iff.1 hnone k hk
    case connector =>
      intro i hi hodd
      have hsome : cs[i].connector? ≠ none := by simp [hturns i hi, hodd]
      exact (hwritten i hi).resolve_left fun h => hsome h.connector?_eq_none

/-! ## Clauses -/

theorem clause_cons (c : Condition) (cs : List Condition) : clause (c :: cs) = do
    checkTurns false (c :: cs)
    let ts ← (c :: cs).mapM template
    return some (.text "WHERE" :: ts.flatMap fun t => .text " " :: t) := rfl

theorem clause_eq_none_iff {cs : List Condition} : clause cs = .ok none ↔ cs = [] := by
  cases cs with
  | nil => simp [clause]
  | cons c cs =>
    rw [clause_cons, return₂_eq_ok_iff]
    simp

theorem exists_clause_eq_some_iff {cs : List Condition} :
    (∃ t, clause cs = .ok (some t)) ↔ IsClause cs := by
  cases cs with
  | nil =>
    have hempty : ¬ IsClause [] := fun h => by simpa using h.odd
    simp [clause, hempty]
  | cons c cs =>
    rw [isClause_iff, clause_cons]
    constructor
    · rintro ⟨t, h⟩
      obtain ⟨⟨⟩, hturns, ts, hts, -⟩ := return₂_eq_ok_iff.1 h
      exact ⟨hturns, ts, hts⟩
    · rintro ⟨hturns, ts, hts⟩
      exact ⟨_, return₂_eq_ok_iff.2 ⟨(), hturns, ts, hts, rfl⟩⟩

theorem clauseSql_eq_none_iff {mark : String} {cs : List Condition} :
    clauseSql mark cs = .ok none ↔ cs = [] := by
  rw [← clause_eq_none_iff, clauseSql]
  rcases clause cs with fault | t | t <;> simp [Except.map]

theorem exists_clauseSql_eq_some_iff {mark : String} {cs : List Condition} :
    (∃ s, clauseSql mark cs = .ok (some s)) ↔ IsClause cs := by
  rw [← exists_clause_eq_some_iff, clauseSql]
  rcases clause cs with fault | t | t <;> simp [Except.map]

/-- No conditions have no clause, conditions that take turns and can be written have one, and all
others are a fault, whatever the mark for bound values. -/
theorem clauseSql_outcomes (mark : String) (cs : List Condition) :
    (clauseSql mark cs = .ok none ↔ cs = []) ∧
    ((∃ s, clauseSql mark cs = .ok (some s)) ↔ IsClause cs) ∧
    ((∃ e, Error.ofFault (clauseSql mark cs) = .error e ∧ e.isMalformed) ↔
      cs ≠ [] ∧ ¬ IsClause cs) ∧
    ∀ other fault, clauseSql mark cs = .error fault ↔ clauseSql other cs = .error fault := by
  have hnone : clauseSql mark cs = .ok none ↔ cs = [] := clauseSql_eq_none_iff
  have hsome : (∃ s, clauseSql mark cs = .ok (some s)) ↔ IsClause cs := exists_clauseSql_eq_some_iff
  refine ⟨hnone, hsome, ?_, fun other fault => ?_⟩
  · rw [Ne, ← hnone, ← hsome]
    rcases clauseSql mark cs with fault | s | s <;>
      simp [Error.ofFault, Except.mapError, Error.isMalformed]
  · rw [clauseSql, clauseSql]
    cases clause cs <;> simp [Except.map]

/-- A group in a group, and a connector without a predicate behind it. -/
example : clauseSql "?" [.group .or [.between "age", .group .and [.compare .gt "karma"]]] =
      .ok (some "WHERE (age BETWEEN ? AND ? OR (karma > ?))") ∧
    clauseSql "?" [.between "age", .connector .or] = .error .connectorLast :=
  ⟨rfl, rfl⟩

end Condition

end SqlBuilder
