import SqlBuilder.Value.Basic

/-!
# Kinds of values

A `Kind` is a type of values as callers have them, truth values and optional values included.
Every kind is stored as one storage type, and `Kind.value` turns what the caller has into what is
bound: a truth value becomes the integer 0 or 1, and a missing optional value becomes the null of
its kind's storage type.
-/

namespace SqlBuilder

/-- A type of values that callers give. -/
inductive Kind where
  | short
  | int
  | long
  | float
  | double
  | bool
  | string
  | blob
  | optional (kind : Kind)
deriving DecidableEq

namespace Kind

/-- What a caller gives for a value of this kind. -/
def Carrier : Kind → Type
  | short => Int16
  | int => Int32
  | long => Int64
  | float => UInt32
  | double => UInt64
  | bool => Bool
  | string => String
  | blob => List UInt8
  | optional kind => Option kind.Carrier

/-- The type that values of the kind are stored as. -/
def sqlType : Kind → SqlType
  | short => .short
  | int => .int
  | long => .long
  | float => .float
  | double => .double
  | bool => .int
  | string => .string
  | blob => .blob
  | optional kind => kind.sqlType

/-- The bound form of a caller's value. -/
def value : (kind : Kind) → kind.Carrier → Value
  | short, n => .short n
  | int, n => .int n
  | long, n => .long n
  | float, bits => .float bits
  | double, bits => .double bits
  | bool, b => .int (bif b then 1 else 0)
  | string, s => .string s
  | blob, bytes => .blob bytes
  | optional kind, some v => kind.value v
  | optional kind, none => .null kind.sqlType

theorem sqlType_value (kind : Kind) (v : kind.Carrier) : (kind.value v).sqlType = kind.sqlType := by
  induction kind with
  | optional kind ih =>
    cases v with
    | none => rfl
    | some v => exact ih v
  | _ => rfl

/-- How a kind stores a text, for texts, byte strings and optional texts: byte strings take its
UTF-8 form. -/
def ofText? : (kind : Kind) → Option (String → kind.Carrier)
  | string => some id
  | blob => some fun s => s.toUTF8.data.toList
  | optional string => some some
  | _ => none

/-- The kinds that can store a text. -/
abbrev HoldsText (kind : Kind) : Prop := kind.ofText?.isSome

/-- A text as a value of a kind that can store it. -/
def ofText (kind : Kind) (h : kind.HoldsText) (s : String) : kind.Carrier := kind.ofText?.get h s

end Kind

end SqlBuilder
