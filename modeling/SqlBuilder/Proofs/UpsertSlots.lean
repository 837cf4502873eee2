import SqlBuilder.Proofs.Binding
import SqlBuilder.Proofs.Bundled
import SqlBuilder.Proofs.ForeignColumn
import SqlBuilder.Proofs.LastValues

/-!
# Slots of an insert-or-replace

Callers give the values of an insert-or-replace in one order, its text lists the columns in another,
and some dialects write the values of the other columns twice.  The map from callers to slots makes
the three agree: whatever order the values of the caller are bound in, each slot of the text is
bound once, to the last value set for the column that the slot stands behind.
`Coherent.spread_perm` says so of the assignments, `Upsert.aligned_of_entriesOf` of the statements
that the bundled dialects build.
-/

namespace SqlBuilder

open Text

/-! ## One value for each slot -/

/-- Values at the slots from 1 on, in any order, are the list that has each of them at its slot. -/
theorem perm_zipIdx_of_slots {ps : List (Value × Nat)} {bound : List Value}
    (hslots : (ps.map (·.2)).Perm (List.range' 1 bound.length))
    (hvalues : ∀ p ∈ ps, bound[p.2 - 1]? = some p.1) : ps.Perm (bound.zipIdx 1) := by
  have hinj : Function.Injective fun p : Value × Nat => (some p.1, p.2) := by
    rintro ⟨v, i⟩ ⟨u, j⟩ hp
    simpa using hp
  refine (List.map_perm_map_iff hinj).1 ?_
  have hps : ps.map (fun p => (some p.1, p.2)) =
      (ps.map (·.2)).map fun i => (bound[i - 1]?, i) := by
    rw [List.map_map]
    exact List.map_congr_left fun p hp => by rw [Function.comp_apply, hvalues p hp]
  have hbound : (bound.zipIdx 1).map (fun p => (some p.1, p.2)) =
      (List.range' 1 bound.length).map fun i => (bound[i - 1]?, i) := by
    rw [← List.zipIdx_map_snd 1 bound, List.map_map]
    apply List.map_congr_left
    intro p hp
    rw [Function.comp_apply, (List.mem_zipIdx_iff_le_and_getElem?_sub.1 hp).2]
  rw [hps, hbound]
  exact hslots.map _

namespace KeyedAssignments

/-- The values in the order of the slots; with `rebinds` those of the other columns come again
behind all first ones. -/
def slotArgs (a : KeyedAssignments) (rebinds : Bool) : List Value :=
  a.orderedArgs ++ if rebinds then a.others.values else []

/-- What is bound at which slot when the caller binds values at their numbers. -/
def spread (a : KeyedAssignments) (rebinds : Bool) (client : List (Value × Nat)) :
    List (Value × Nat) :=
  client.flatMap fun p => ((a.places.map (a.slotsOf rebinds)).getD (p.2 - 1) []).map (p.1, ·)

namespace Coherent

variable {a : KeyedAssignments} (h : a.Coherent) (rebinds : Bool)
include h

theorem length_orderedArgs : a.orderedArgs.length = a.size := by
  rw [orderedArgs, List.length_append, Register.length_values, Register.length_values, h.size_eq]

theorem length_slotArgs :
    (a.slotArgs rebinds).length = a.size + if rebinds then a.others.size else 0 := by
  rw [slotArgs, List.length_append, h.length_orderedArgs]
  cases rebinds <;> simp

/-- The slots that are bound are those of the map, one arrival after another. -/
theorem map_snd_spread : (a.spread rebinds (a.clientArgs.zipIdx 1)).map (·.2) =
    (a.places.map (a.slotsOf rebinds)).flatten := by
  have hlen : a.places.length = a.clientArgs.length := h.clientArgs_length.symm
  rw [spread, List.map_flatMap, List.flatMap_def]
  refine congrArg List.flatten (List.ext_getElem? fun i => ?_)
  rw [List.getElem?_map, List.getElem?_zipIdx, Option.map_map]
  rw [List.getElem?_map]
  by_cases hi : i < a.clientArgs.length
  · have hi' : i < a.places.length := hlen ▸ hi
    simp [hi, hi', Function.comp_def]
  · rw [List.getElem?_eq_none (Nat.le_of_not_lt hi), Option.map_none,
      List.getElem?_eq_none (hlen ▸ Nat.le_of_not_lt hi), Option.map_none]

/-- Every slot of an arrival is for its value. -/
theorem slotArgs_of_mem_slotsOf {i p slot : Nat} {v : Value} (hv : a.clientArgs[i]? = some v)
    (hp : a.places[i]? = some p) (hslot : slot ∈ a.slotsOf rebinds p) :
    (a.slotArgs rebinds)[slot - 1]? = some v := by
  obtain ⟨c, hc⟩ : ∃ c, a.arrivals[i]? = some c := by
    have hi := (List.getElem?_eq_some_iff.1 hp).1
    rw [h.places_length] at hi
    exact ⟨_, List.getElem?_eq_getElem hi⟩
  have hordered : a.orderedArgs[p]? = some v := by
    rw [(h.getElem?_args hc hp).2, ← (h.getElem?_args hc hp).1, hv]
  have hlt : p < a.orderedArgs.length := (List.getElem?_eq_some_iff.1 hordered).1
  have hlen := h.length_orderedArgs
  rcases List.mem_cons.1 hslot with rfl | hsecond
  · rw [Nat.add_sub_cancel, slotArgs, List.getElem?_append_left hlt, hordered]
  · -- A second slot is as far behind the first slots as the place is behind the keys.
    split_ifs at hsecond with hif
    · obtain ⟨rfl, hle⟩ : rebinds = true ∧ a.keys.size ≤ p := by simpa using hif
      rw [List.mem_singleton.1 hsecond, Nat.add_sub_cancel, slotArgs, if_pos rfl,
        List.getElem?_append_right (by omega), hlen, Nat.add_sub_cancel_left]
      rw [orderedArgs, List.getElem?_append_right (by simpa using hle)] at hordered
      simpa using hordered
    · exact absurd hsecond List.not_mem_nil

/-- In whatever order the caller binds the values, each slot gets its value once. -/
theorem spread_perm {client : List (Value × Nat)} (hclient : client.Perm (a.clientArgs.zipIdx 1)) :
    (a.spread rebinds client).Perm ((a.slotArgs rebinds).zipIdx 1) := by
  refine (hclient.flatMap_right _).trans (perm_zipIdx_of_slots ?_ ?_)
  · show ((a.spread rebinds (a.clientArgs.zipIdx 1)).map (·.2)).Perm _
    rw [h.map_snd_spread, h.length_slotArgs]
    exact h.flatten_targets_perm rebinds
  · rintro ⟨v, slot⟩ hmem
    obtain ⟨⟨u, k⟩, huk, hslot⟩ := List.mem_flatMap.1 hmem
    obtain ⟨s, hs, heq⟩ := List.mem_map.1 hslot
    obtain ⟨rfl, rfl⟩ : u = v ∧ s = slot := by simpa using heq
    have hu : a.clientArgs[k - 1]? = some u := (List.mem_zipIdx_iff_le_and_getElem?_sub.1 huk).2
    obtain ⟨p, hp⟩ : ∃ p, a.places[k - 1]? = some p := by
      have hk := (List.getElem?_eq_some_iff.1 hu).1
      rw [h.clientArgs_length] at hk
      exact ⟨_, List.getElem?_eq_getElem hk⟩
    rw [List.getD_eq_getElem?_getD, List.getElem?_map, hp] at hs
    exact h.slotArgs_of_mem_slotsOf rebinds hu hp hs

/-- Binding through the map never leaves it. -/
theorem bindPairs_remap {ω O : Type} (p : Prepared ω O) {client : List (Value × Nat)}
    (hclient : ∀ q ∈ client, q ∈ a.clientArgs.zipIdx 1) :
    (p.remap ⟨a.places.map (a.slotsOf rebinds)⟩).bindPairs client =
      p.bindPairs (a.spread rebinds client) := by
  refine @Prepared.bindPairs_remap ω O p ⟨a.places.map (a.slotsOf rebinds)⟩
    (fun i => (a.places.map (a.slotsOf rebinds)).getD (i - 1) []) client fun q hq => ?_
  obtain ⟨hpos, hget⟩ := List.mem_zipIdx_iff_le_and_getElem?_sub.1 (hclient q hq)
  have hlt := (List.getElem?_eq_some_iff.1 hget).1
  rw [h.clientArgs_length, size] at hlt
  obtain ⟨i, hi⟩ : ∃ i, q.2 = i + 1 := ⟨q.2 - 1, (Nat.sub_add_cancel hpos).symm⟩
  rw [hi, Nat.add_sub_cancel] at hlt ⊢
  exact SlotMap.get_of_lt (by simpa [SlotMap.size] using hlt)

end Coherent

end KeyedAssignments

/-! ## The statement -/

namespace Upsert

/-- The key columns that calls set, each with its last value. -/
def keyRow (es : List (Column × Value)) : List (String × Value) :=
  lastValues (flaggedNames true es) es

/-- The other columns that calls set, each with its last value. -/
def otherRow (es : List (Column × Value)) : List (String × Value) :=
  lastValues (flaggedNames false es) es

/-- The values of all listed columns, and behind them, where a dialect writes them twice, those of
the other columns again. -/
def boundValues (b : Bundled) (es : List (Column × Value)) : List Value :=
  (keyRow es ++ otherRow es).map (·.2) ++
    if b.dialect.rebinds then (otherRow es).map (·.2) else []

/-- Text, values and slots of an insert-or-replace fit together. -/
structure Aligned (b : Bundled) (s : Upsert) (es : List (Column × Value)) (st : Statement)
    (m : SlotMap) : Prop where
  build : s.build b.dialect = .ok st
  slots : st.slots = some m
  marks : Text.marks st.sql = st.context.argCount
  targets : m.targetCount = st.context.argCount
  length_bound : (boundValues b es).length = st.context.argCount
  /-- With every value at its slot the text is the one that has the last value of each column behind
  the column. -/
  filled : ∀ lit : Value → String, Text.fill st.sql ((boundValues b es).map lit) =
    b.upsertText s.table.name (literals lit (keyRow es)) (literals lit (otherRow es))
  /-- Compiling binds each value at its slot, once. -/
  compiled : ∀ {ω C : Type} (db : Database ω C), db.dialect = b.dialect →
    ∃ ps : List (Value × Nat), ps.Perm ((boundValues b es).zipIdx 1) ∧
      ∀ w, db.BindsSucceed st (db.engine.compile st.kind st.table st.sql) ps w →
        db.compile (.insertOrReplace s) w =
          db.boundAt st (db.engine.compile st.kind st.table st.sql) ps w
  /-- So does the caller who binds the values at their numbers in any order. -/
  any_order : ∀ {ω O : Type} (p : Prepared ω O) (client : List (Value × Nat)),
    client.Perm (st.args.zipIdx 1) →
    ∃ ps : List (Value × Nat), ps.Perm ((boundValues b es).zipIdx 1) ∧
      (p.remap m).bindPairs client = p.bindPairs ps

section Aligned

variable {b : Bundled} {t : Table} {es : List (Column × Value)}

/-- The statement that the builder makes of what calls have set. -/
def statement (b : Bundled) (t : Table) (es : List (Column × Value)) : Statement where
  kind := .insertOrReplace
  table := t.name
  sql := (b.dialect.upsert t.name (KeyedAssignments.ofEntries es).keys.names
    (KeyedAssignments.ofEntries es).others.names).render b.dialect.placeholder
  args := (KeyedAssignments.ofEntries es).clientArgs
  slots := some ⟨(KeyedAssignments.ofEntries es).places.map
    ((KeyedAssignments.ofEntries es).slotsOf b.dialect.rebinds)⟩

theorem build_eq_statement (hown : ∀ e ∈ es, e.1.table = t.name) (hkey : ∃ e ∈ es, e.1.isKey) :
    build b.dialect { table := t, values := .ofEntries es } = .ok (statement b t es) := by
  have hcheck : checkTable t.name (KeyedAssignments.ofEntries es).arrivals = .ok () := by
    refine checkTable_eq_ok_iff.2 fun c hc => not_not.1 fun hne => ?_
    obtain ⟨k, e, he, htable⟩ :=
      (KeyedAssignments.exists_foreign_iff t.name es).1 ⟨c, hc, hne⟩
    exact htable (hown e (firstOf_eq_some he).1)
  have hkeys : ¬ (KeyedAssignments.ofEntries es).keys.names.isEmpty := by
    rw [KeyedAssignments.keys_isEmpty_iff]
    obtain ⟨e, he, hk⟩ := hkey
    exact fun hnone => by simp [hnone e he] at hk
  refine build_eq_ok_iff.2 ⟨hcheck, _, ?_, rfl⟩
  rw [Template.insertOrReplace, upsertColumns, if_neg hkeys]
  rfl

theorem slotArgs_eq_boundValues (hflag : OneFlag es) :
    (KeyedAssignments.ofEntries es).slotArgs b.dialect.rebinds = boundValues b es := by
  have hkeys : (KeyedAssignments.ofEntries es).keys.values = (keyRow es).map (·.2) :=
    KeyedAssignments.values_side_eq_lastValues true es hflag
  have hothers : (KeyedAssignments.ofEntries es).others.values = (otherRow es).map (·.2) :=
    KeyedAssignments.values_side_eq_lastValues false es hflag
  rw [KeyedAssignments.slotArgs, KeyedAssignments.orderedArgs, boundValues, List.map_append, hkeys,
    hothers]

theorem fills_statement (htable : MarkFree t.name) (hnames : ∀ e ∈ es, MarkFree e.1.name)
    (lit : Value → String) :
    Template.Fills (b.dialect.upsert t.name (KeyedAssignments.ofEntries es).keys.names
        (KeyedAssignments.ofEntries es).others.names) ((boundValues b es).map lit)
      (b.upsertText t.name (literals lit (keyRow es)) (literals lit (otherRow es))) := by
  have hkeys : (KeyedAssignments.ofEntries es).keys.names = (literals lit (keyRow es)).map (·.1) :=
    (KeyedAssignments.names_side_eq_lastValues true es).trans (map_fst_literals lit _).symm
  have hothers :
      (KeyedAssignments.ofEntries es).others.names = (literals lit (otherRow es)).map (·.1) :=
    (KeyedAssignments.names_side_eq_lastValues false es).trans (map_fst_literals lit _).symm
  have htexts : (boundValues b es).map lit =
      (literals lit (keyRow es) ++ literals lit (otherRow es)).map (·.2) ++
        if b.dialect.rebinds then (literals lit (otherRow es)).map (·.2) else [] := by
    rw [boundValues, List.map_append, List.map_append, List.map_append, List.map_append,
      map_snd_literals, map_snd_literals, apply_ite (List.map lit), List.map_nil]
  rw [hkeys, hothers, htexts]
  exact Bundled.fills_upsert htable (forall_literals hnames lit) (forall_literals hnames lit) b

theorem aligned_statement (hown : ∀ e ∈ es, e.1.table = t.name) (hkey : ∃ e ∈ es, e.1.isKey)
    (hflag : OneFlag es) (htable : MarkFree t.name) (hnames : ∀ e ∈ es, MarkFree e.1.name) :
    Aligned b { table := t, values := .ofEntries es } es (statement b t es)
      ⟨(KeyedAssignments.ofEntries es).places.map
        ((KeyedAssignments.ofEntries es).slotsOf b.dialect.rebinds)⟩ := by
  have h := KeyedAssignments.coherent_ofEntries es
  have hfills := fills_statement (b := b) htable hnames
  have hperm := h.flatten_targets_perm b.dialect.rebinds
  have hargs := slotArgs_eq_boundValues (b := b) hflag
  have hlength := h.length_slotArgs b.dialect.rebinds
  rw [hargs] at hlength
  have hcount : (boundValues b es).length = (statement b t es).context.argCount := by
    rw [hlength]
    show _ = SlotMap.targetCount _
    rw [SlotMap.targetCount, hperm.length_eq, List.length_range']
  constructor
  case build => exact build_eq_statement hown hkey
  case slots => rfl
  case marks =>
    have hmarks := (hfills Value.describe).marks_render
    rw [List.length_map, hcount] at hmarks
    rw [statement, Bundled.placeholder_dialect]
    exact hmarks
  case targets => rfl
  case length_bound => exact hcount
  case filled =>
    intro lit
    rw [statement, Bundled.placeholder_dialect]
    exact (hfills lit).fill_render
  case compiled =>
    intro ω C db hdb
    refine ⟨_, hargs ▸ h.spread_perm b.dialect.rebinds (.refl _), fun w hw => ?_⟩
    have hbuild :
        Draft.build db.dialect (.insertOrReplace { table := t, values := .ofEntries es }) =
          .ok (statement b t es) := hdb ▸ build_eq_statement hown hkey
    rw [Database.compile, Act.ofExcept_bind hbuild]
    exact db.prepare_eq _ _ (fun p => h.bindPairs_remap _ p fun q hq => hq) hw
  case any_order =>
    intro ω O p client hclient
    exact ⟨_, hargs ▸ h.spread_perm b.dialect.rebinds hclient,
      h.bindPairs_remap _ p fun q hq => hclient.mem_iff.1 hq⟩

end Aligned

/-- Calls on a new builder that set columns of its table, a key among them, lead to a statement
whose text, values and slots fit together. -/
theorem aligned_of_entriesOf (b : Bundled) {t : Table} {steps : List SetStep}
    {es : List (Column × Value)} (hsteps : entriesOf steps = .ok es)
    (hown : ∀ e ∈ es, e.1.table = t.name) (hkey : ∃ e ∈ es, e.1.isKey) (hflag : OneFlag es)
    (htable : MarkFree t.name) (hnames : ∀ e ∈ es, MarkFree e.1.name) :
    ∃ s st m, steps.foldlM Upsert.call { table := t } = .ok s ∧ Aligned b s es st m := by
  refine ⟨_, _, _, ?_, aligned_statement hown hkey hflag htable hnames⟩
  rw [foldlM_call, hsteps]
  rfl

/-- A key that comes late and a value that is given twice. -/
theorem aligned_late_key : ∃ s st m,
    [SetStep.one (.value userName "ann"), .one (.value userId (1 : Int64)),
      .one (.value userName "bob")].foldlM Upsert.call { table := users } = .ok s ∧
    Aligned .generic s [(userName.column, .string "ann"), (userId.column, .long 1),
      (userName.column, .string "bob")] st m :=
  aligned_of_entriesOf .generic rfl (by decide) (by decide) (by unfold OneFlag; decide) (by decide)
    (by decide)

/-- The key comes first in the text, and the other column has two slots. -/
example : boundValues .generic [(userName.column, .string "ann"), (userId.column, .long 1),
    (userName.column, .string "bob")] = [.long 1, .string "bob", .string "bob"] := by
  decide

end Upsert

end SqlBuilder
