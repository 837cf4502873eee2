/-!
# Options of a database
-/

namespace SqlBuilder

/-- What a user of a database can switch. -/
structure Config where
  /-- Executions that take at least so many nanoseconds are slow. -/
  slowThreshold : Option Nat := none
  hooksEnabled : Bool := true
  /-- Whether the log shows bound values. -/
  logValues : Bool := false
deriving DecidableEq

namespace Config

/-- Makes executions slow that take `nanos` nanoseconds or longer. -/
def slowAfter (nanos : Nat) (c : Config) : Config := { c with slowThreshold := some nanos }

/-- Has the hooks called from now on. -/
def enableHooks (c : Config) : Config := { c with hooksEnabled := true }

/-- Runs statements without calling any hook. -/
def disableHooks (c : Config) : Config := { c with hooksEnabled := false }

/-- Has bound values shown in the log, or kept out of it. -/
def showValues (shown : Bool) (c : Config) : Config := { c with logValues := shown }

/-- `n / 10 ^ places` without trailing zeros. -/
def decimalText (n places : Nat) : String :=
  let digits := Nat.toDigits 10 (n % Nat.pow 10 places)
  let fraction := List.replicate (places - digits.length) '0' ++ digits
  let kept := (fraction.reverse.dropWhile (· = '0')).reverse
  toString (n / Nat.pow 10 places) ++ if kept.isEmpty then "" else "." ++ String.ofList kept

/-- A duration in the largest unit that it reaches. -/
def describeDuration (nanos : Nat) : String :=
  if 1000000000 ≤ nanos then decimalText nanos 9 ++ "s"
  else if 1000000 ≤ nanos then decimalText nanos 6 ++ "ms"
  else if 1000 ≤ nanos then decimalText nanos 3 ++ "µs"
  else toString nanos ++ "ns"

/-- The options as logs show them. -/
def describe (c : Config) : String :=
  "DatabaseConfig \x7b slow_statement_threshold: " ++
    (match c.slowThreshold with
      | some nanos => "Some(" ++ describeDuration nanos ++ ")"
      | none => "None") ++
    ", hooks_enabled: " ++ toString c.hooksEnabled ++
    ", log_bound_values: " ++ toString c.logValues ++ " \x7d"

end Config

end SqlBuilder
