import SqlBuilder.Monitor.Hook

/-!
# Logging statements

`SqlLog` announces every statement before it is compiled and reports its end.  Long statement texts
are shortened, unless no length is given.
-/

namespace SqlBuilder

/-- A log of statements: how much they matter in it and how much of their text it shows. -/
structure SqlLog where
  level : Level := .debug
  /-- Texts that take more bytes are shortened. -/
  maxBytes : Option Nat := some 200

namespace SqlLog

/-- The text of a statement as far as the log shows it. -/
def shown (l : SqlLog) (sql : String) : String :=
  match l.maxBytes with
  | some budget => Text.shorten budget sql
  | none => sql

/-- The hook that sends its events to `log`. -/
def hook {ω : Type} (log : LogEvent → ω → ω) (l : SqlLog) : Hook ω where
  beforeCompile ctx w := (.proceed, log (.announced l.level ctx (l.shown ctx.sql)) w)
  afterExecute ctx nanos outcome w := log (.finished l.level ctx nanos outcome) w
  onSlow ctx nanos w := log (.slow ctx nanos (l.shown ctx.sql)) w

end SqlLog

end SqlBuilder
