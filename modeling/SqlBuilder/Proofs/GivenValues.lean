import SqlBuilder.Engine.Basic
import SqlBuilder.Proofs.FilterText
import SqlBuilder.Proofs.ForeignColumn
import SqlBuilder.Proofs.ScopedSetters

/-!
# Values and the columns they are given for

A `Given` is a value that a caller gives for a typed column, in a setter or in a predicate.  What is
bound for it has the storage type of its column (`Given.sqlType_bound`), and is bound by the
operation that the kind of the column asks for (`Prepared.bind_bound`).  Setters and predicates are
read as such values (`Setter.given?`, `Predicate.givens`), and assignments of given values keep for
each name, or for each name and flag, the last of them (`Assignments.args_ofGiven`,
`KeyedAssignments.clientArgs_ofGiven`).
-/

namespace SqlBuilder

/-! ## The last member of each key -/

section Each

variable {α β κ : Type} [DecidableEq κ] [BEq κ] [LawfulBEq κ] (key : α → κ)

/-- The last member with each key, in the order in which the keys first came. -/
def lastOfEach (l : List α) : List α := (l.map key).eraseDups.filterMap fun k => lastOf key k l

theorem map_some_lastOfEach (l : List α) :
    (lastOfEach key l).map some = (l.map key).eraseDups.map fun k => lastOf key k l :=
  KeyedAssignments.map_some_filterMap fun _ hk =>
    Option.isSome_iff_exists.2 (exists_lastOf_of_mem (List.mem_eraseDups.1 hk))

theorem eq_map_lastOfEach {l : List α} {f : α → β} {bs : List β}
    (h : bs.map some = (l.map key).eraseDups.map fun k => (lastOf key k l).map f) :
    bs = (lastOfEach key l).map f := by
  refine List.map_injective_iff.2 (fun _ _ => Option.some.inj) ?_
  have hmap := congrArg (List.map (Option.map f)) (map_some_lastOfEach key l)
  rw [List.map_map, List.map_map] at hmap
  rw [h, List.map_map]
  exact hmap.symm

theorem lastOfEach_map (f : β → α) (l : List β) :
    lastOfEach key (l.map f) = (lastOfEach (fun b => key (f b)) l).map f := by
  refine eq_map_lastOfEach (fun b => key (f b)) ?_
  rw [map_some_lastOfEach, List.map_map]
  exact List.map_congr_left fun k _ => lastOf_map key f k l

theorem mem_lastOfEach_iff {l : List α} {a : α} :
    a ∈ lastOfEach key l ↔ lastOf key (key a) l = some a := by
  rw [lastOfEach, List.mem_filterMap]
  constructor
  · rintro ⟨k, -, hlast⟩
    rwa [(lastOf_eq_some hlast).2]
  · intro hlast
    have hmem : key a ∈ l.map key := List.mem_map_of_mem (lastOf_eq_some hlast).1
    exact ⟨key a, List.mem_eraseDups.2 hmem, hlast⟩

/-- Leaving out members that are not the last of their key changes no last member. -/
theorem lastOf_lastOfEach (k : κ) (l : List α) :
    lastOf key k (lastOfEach key l) = lastOf key k l := by
  by_cases hk : k ∈ l.map key
  · obtain ⟨a, ha⟩ := exists_lastOf_of_mem hk
    obtain rfl := (lastOf_eq_some ha).2
    have hmem : a ∈ lastOfEach key l := (mem_lastOfEach_iff key).2 ha
    obtain ⟨b, hb⟩ := exists_lastOf_of_mem (List.mem_map_of_mem (f := key) hmem)
    obtain ⟨hbmem, hbkey⟩ := lastOf_eq_some hb
    -- The last member found is a last member itself, and of the same key.
    have hblast := (mem_lastOfEach_iff key).1 hbmem
    rw [hbkey, ha] at hblast
    rw [hb, ha, Option.some.inj hblast]
  · have hsub : k ∉ (lastOfEach key l).map key := by
      intro hmem
      obtain ⟨a, ha, rfl⟩ := List.mem_map.1 hmem
      exact hk (List.mem_map_of_mem (lastOf_eq_some ((mem_lastOfEach_iff key).1 ha)).1)
    rw [lastOf_eq_none_iff.2 hk, lastOf_eq_none_iff.2 hsub]

end Each

/-! ## Given values -/

/-- A value that a caller gives for a column, or the null of the column. -/
structure Given where
  column : TypedColumn
  value : Option column.kind.Carrier

namespace Given

/-- The name of the column, without its table. -/
def name (g : Given) : String := g.column.column.name

/-- The storage type of the column. -/
def type (g : Given) : SqlType := g.column.column.type

/-- What is bound for the value. -/
def bound (g : Given) : Value := g.column.kind.optional.value g.value

/-- The definition of the column with what is bound. -/
def entry (g : Given) : Column × Value := (g.column.column, g.bound)

/-- Nothing is bound under another type than that of its column, nulls included. -/
theorem sqlType_bound (g : Given) : g.bound.sqlType = g.type :=
  (g.column.kind.optional.sqlType_value g.value).trans g.column.type_eq.symm

end Given

namespace Prepared

variable {ω O : Type} (p : Prepared ω O) (index : Nat)

/-- Binds what a caller gives, by the operation that the kind asks for. -/
def bindKind : (kind : Kind) → kind.Carrier → Act ω Unit
  | .short, n => p.bindShort index n
  | .int, n => p.bindInt index n
  | .long, n => p.bindLong index n
  | .float, bits => p.bindFloat index bits
  | .double, bits => p.bindDouble index bits
  | .bool, true => p.bindInt index 1
  | .bool, false => p.bindInt index 0
  | .string, s => p.bindString index s
  | .blob, bytes => p.bindBlob index bytes
  | .optional kind, some v => bindKind kind v
  | .optional kind, none => p.bindNull index kind.sqlType

theorem bind_value (kind : Kind) (v : kind.Carrier) :
    p.bind index (kind.value v) = p.bindKind index kind v := by
  induction kind with
  | bool => cases v <;> rfl
  | optional kind ih =>
    cases v with
    | none => rfl
    | some v => exact ih v
  | _ => rfl

/-- A given value is bound by the operation of its column's kind, a missing one as a null of its
column's type. -/
theorem bind_bound (g : Given) :
    p.bind index g.bound = p.bindKind index g.column.kind.optional g.value :=
  p.bind_value index _ _

end Prepared

/-! ## Setters and predicates -/

/-- The value that a setter of a typed column gives, unless it fails. -/
def Setter.given? : Setter → Option Given
  | value c v => some ⟨c, some v⟩
  | null c => some ⟨c, none⟩
  | json c holds (.ok j) => some ⟨c, some (c.kind.ofText holds j.text)⟩
  | json _ _ (.error _) => none
  | record _ _ => none

/-- The setter is about a typed column. -/
def Setter.IsTyped : Setter → Prop
  | record _ _ => False
  | _ => True

theorem Setter.exists_given_of_entry {s : Setter} (hs : s.IsTyped) {e : Column × Value}
    (h : s.entry = .ok e) : ∃ g, s.given? = some g ∧ g.entry = e := by
  cases s with
  | value c v => cases h; exact ⟨_, rfl, rfl⟩
  | null c => cases h; exact ⟨_, rfl, rfl⟩
  | json c holds source =>
    cases source with
    | error failure => cases h
    | ok j => cases h; exact ⟨_, rfl, rfl⟩
  | record c v => exact hs.elim

theorem Setter.given_of_mapM_entry {setters : List Setter} (hs : ∀ s ∈ setters, s.IsTyped)
    {es : List (Column × Value)} (h : setters.mapM entry = .ok es) :
    (setters.filterMap given?).map some = setters.map given? ∧
      es = (setters.filterMap given?).map Given.entry := by
  induction setters generalizing es with
  | nil => cases h; exact ⟨rfl, rfl⟩
  | cons s setters ih =>
    obtain ⟨hfirst, hrest⟩ := List.forall_mem_cons.1 hs
    obtain ⟨e, he, fs, hfs, rfl⟩ := mapM_cons_eq_ok_iff.1 h
    obtain ⟨g, hg, rfl⟩ := exists_given_of_entry hfirst he
    obtain ⟨hgiven, rfl⟩ := ih hrest hfs
    rw [List.filterMap_cons_some hg, List.map_cons, List.map_cons, List.map_cons, hg, hgiven]
    exact ⟨rfl, rfl⟩

namespace Predicate

mutual

/-- The values that the predicate compares its columns with, in the order of its text. -/
def givens : Predicate → List Given
  | null _ _ => []
  | compare _ c v => [⟨c, some v⟩]
  | among _ c vs => vs.map fun v => ⟨c, some v⟩
  | amongQuery _ _ _ => []
  | between c low high => [⟨c, some low⟩, ⟨c, some high⟩]
  | group _ members => allGivens members

/-- The values that predicates compare their columns with, in the order of their text. -/
def allGivens : List Predicate → List Given
  | [] => []
  | p :: ps => p.givens ++ allGivens ps

end

mutual

theorem map_bound_givens (p : Predicate) : p.givens.map Given.bound = p.args := by
  cases p with
  | null test c => rfl
  | compare op c v => rfl
  | among op c vs => exact List.map_map
  | amongQuery op c query => rfl
  | between c low high => rfl
  | group c members => exact map_bound_allGivens members

theorem map_bound_allGivens (ps : List Predicate) :
    (allGivens ps).map Given.bound = allArgs ps := by
  cases ps with
  | nil => rfl
  | cons p ps =>
    rw [allGivens, allArgs, List.map_append, map_bound_givens p, map_bound_allGivens ps]

end

end Predicate

/-- The values that a step gives; a connector gives none. -/
def FilterStep.givens : FilterStep → List Given
  | predicate p => p.givens
  | connector _ => []

theorem FilterStep.map_bound_givens (s : FilterStep) : s.givens.map Given.bound = s.args := by
  cases s with
  | predicate p => exact p.map_bound_givens
  | connector c => rfl

namespace FilterSource

/-- The values that the predicates compare with, in the order of the text. -/
def givens (w : FilterSource) : List Given := w.steps.flatMap FilterStep.givens

theorem map_bound_givens (w : FilterSource) : w.givens.map Given.bound = w.filter.args := by
  rw [args_filter, givens, List.map_flatMap]
  exact List.flatMap_congr fun s _ => s.map_bound_givens

end FilterSource

/-! ## Assignments of given values -/

theorem Assignments.values_ofEntries (es : List (Column × Value)) :
    (ofEntries es).values = lastOfEach (·.1.name) es := by
  have hvalues := eq_map_lastOfEach (f := id) _
    ((map_some_values_ofEntries es).trans (List.map_congr_left fun _ _ => Option.map_id'.symm))
  rwa [List.map_id] at hvalues

theorem KeyedAssignments.clientArgs_ofEntries (es : List (Column × Value)) :
    (ofEntries es).clientArgs = (lastOfEach (·.1.ident) es).map (·.2) :=
  eq_map_lastOfEach _ (map_some_clientArgs_ofEntries es)

theorem Assignments.values_ofGiven (gs : List Given) :
    (ofEntries (gs.map Given.entry)).values = (lastOfEach Given.name gs).map Given.entry :=
  (values_ofEntries _).trans (lastOfEach_map _ Given.entry gs)

theorem Assignments.args_ofGiven (gs : List Given) :
    (ofEntries (gs.map Given.entry)).args = (lastOfEach Given.name gs).map Given.bound := by
  rw [args, values_ofGiven, List.map_map]
  rfl

/-- The flag and the name of the column. -/
def Given.ident (g : Given) : Bool × String := g.column.column.ident

theorem KeyedAssignments.clientArgs_ofGiven (gs : List Given) :
    (ofEntries (gs.map Given.entry)).clientArgs =
      (lastOfEach Given.ident gs).map Given.bound := by
  rw [clientArgs_ofEntries, lastOfEach_map, List.map_map]
  rfl

end SqlBuilder
