/-!
# Operators

The tests, connectors and joins that statements are made of, each with the words that stand for it
in statement text.
-/

namespace SqlBuilder

/-- Tests of a column alone. -/
inductive NullTest where
  | isNull
  | isNotNull
deriving DecidableEq

/-- The words behind the column. -/
def NullTest.sql : NullTest → String
  | isNull => "IS NULL"
  | isNotNull => "IS NOT NULL"

/-- Comparisons of a column with one value. -/
inductive Comparison where
  | eq
  | ne
  | gt
  | ge
  | lt
  | le
  | like
deriving DecidableEq

/-- The sign or word between the column and its value. -/
def Comparison.sql : Comparison → String
  | eq => "="
  | ne => "<>"
  | gt => ">"
  | ge => ">="
  | lt => "<"
  | le => "<="
  | like => "LIKE"

/-- Tests whether a column is among several values. -/
inductive Membership where
  | isIn
  | isNotIn
deriving DecidableEq

/-- The words between the column and the list. -/
def Membership.sql : Membership → String
  | isIn => "IN"
  | isNotIn => "NOT IN"

/-- What joins two conditions. -/
inductive Connector where
  | and
  | or
deriving DecidableEq

/-- The word between two conditions. -/
def Connector.sql : Connector → String
  | and => "AND"
  | or => "OR"

/-- How the rows of two tables are matched. -/
inductive JoinType where
  | inner
  | left
  | right
  | full
deriving DecidableEq

namespace JoinType

/-- The words in front of the joined table. -/
def sql : JoinType → String
  | inner => "INNER JOIN"
  | left => "LEFT OUTER JOIN"
  | right => "RIGHT OUTER JOIN"
  | full => "FULL OUTER JOIN"

/-- All types of joins. -/
def all : List JoinType := [inner, left, right, full]

theorem mem_all (j : JoinType) : j ∈ all := by cases j <;> decide

end JoinType

end SqlBuilder
