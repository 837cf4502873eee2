import SqlBuilder.Dialect.Change

/-!
# The bundled dialects

`generic` is close to standard SQL with an `ON CONFLICT` clause, `h2` merges rows by key, and
`sqlite` has its own type names, fewer joins and an inline primary key for columns that count up.
-/

namespace SqlBuilder.Dialect

open Template

/-- A conflict on the keys updates the other columns, each from a second slot. -/
def upsertOnConflict (table : String) (keys others : List String) : Template :=
  .text ("INSERT INTO " ++ table ++ " ") :: columnsAndSlots (keys ++ others) "VALUES " ++
    .text (" ON CONFLICT (" ++ commaList keys ++ ") ") ::
      if others.isEmpty then [.text "DO NOTHING"]
      else .text "DO UPDATE SET " :: assignments others

/-- Rows are merged by the keys, so no column needs a second slot. -/
def upsertByMerge (table : String) (keys others : List String) : Template :=
  .text ("MERGE INTO " ++ table ++ " ") ::
    columnsAndSlots (keys ++ others) ("KEY (" ++ commaList keys ++ ") VALUES ")

/-- A row with the same keys is replaced as a whole. -/
def upsertOrReplace (table : String) (keys others : List String) : Template :=
  .text ("INSERT OR REPLACE INTO " ++ table ++ " ") ::
    columnsAndSlots (keys ++ others) "VALUES "

/-- Close to standard SQL, with every type of join and an `ON CONFLICT` clause. -/
def generic : Dialect where
  name := "generic"
  upsert := upsertOnConflict
  rebinds := true

/-- Differs from the generic dialect in that rows are merged by key. -/
def h2 : Dialect where
  name := "H2"
  upsert := upsertByMerge

/-- The type names of the storage classes of SQLite. -/
def storageClass : SqlType → String
  | .short | .int | .long => "INTEGER"
  | .float | .double => "REAL"
  | .string => "TEXT"
  | .blob => "BLOB"

/-- Limits where an offset must not stand without a limit; `-1` limits nothing. -/
def limitBeforeOffset : (limit offset : Option UInt64) → String
  | none, some n => " LIMIT -1 OFFSET " ++ toString n.toNat
  | limit, offset => standardLimits limit offset

/-- Has type names of its own and two types of joins; a column that counts up declares the key. -/
def sqlite : Dialect where
  name := "SQLite"
  typeName := storageClass
  autoIncrement := "PRIMARY KEY AUTOINCREMENT"
  inlineKey := true
  supportsJoin j := j = .inner || j = .left
  limits := limitBeforeOffset
  upsert := upsertOrReplace

end SqlBuilder.Dialect
