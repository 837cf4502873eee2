/-!
# Bound values

The seven storage types of columns and the values that statements bind.  A missing value is a
`Value.null` that still says which type it stands for, so every value has a type.
-/

namespace SqlBuilder

/-- Storage type of a column or of a bound value. -/
inductive SqlType where
  | short
  | int
  | long
  | float
  | double
  | string
  | blob
deriving DecidableEq

namespace SqlType

/-- The name of the type by itself, in no dialect. -/
def name : SqlType → String
  | short => "Short"
  | int => "Int"
  | long => "Long"
  | float => "Float"
  | double => "Double"
  | string => "String"
  | blob => "Blob"

/-- All storage types, in ascending order of what they hold. -/
def all : List SqlType := [short, int, long, float, double, string, blob]

theorem mem_all (t : SqlType) : t ∈ all := by cases t <;> decide

end SqlType

/-- A value ready to be bound.  Floating-point values are given by their bits, so two of them are
equal exactly when they bind the same. -/
inductive Value where
  | short (n : Int16)
  | int (n : Int32)
  | long (n : Int64)
  | float (bits : UInt32)
  | double (bits : UInt64)
  | string (s : String)
  | blob (bytes : List UInt8)
  | null (type : SqlType)
deriving DecidableEq

namespace Value

/-- The type that the value is bound under; a null keeps the one it stands for. -/
def sqlType : Value → SqlType
  | short _ => .short
  | int _ => .int
  | long _ => .long
  | float _ => .float
  | double _ => .double
  | string _ => .string
  | blob _ => .blob
  | null type => type

/-- The value is missing. -/
def isNull : Value → Bool
  | null _ => true
  | _ => false

end Value

end SqlBuilder
