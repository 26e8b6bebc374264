import ModelStubs.Text.Case

/-!
# Scalar types

The four types that both kinds of output know by name, and the words of a host type system that stand for them. Words
are compared in lower case, so `Int32`, `INT32` and `int32` are one word.
-/

namespace ModelStubs

/-- A type that has a name of its own in every output. -/
inductive Scalar
  | number
  | date
  | string
  | boolean
  deriving DecidableEq, Repr

namespace Scalar

/-- The scalars, in the order in which a word is looked for. -/
def all : List Scalar := [.number, .date, .string, .boolean]

/-- The name of a scalar in the output. -/
def name : Scalar → Text
  | .number => "Number".toList
  | .date => "Date".toList
  | .string => "String".toList
  | .boolean => "Boolean".toList

/-- The words that stand for a scalar, in lower case. -/
def words : Scalar → List Text
  | .number =>
    ["int".toList, "int32".toList, "int64".toList, "long".toList, "double".toList, "float".toList, "decimal".toList]
  | .date => ["system.datetime".toList]
  | .string => ["string".toList]
  | .boolean => ["bool".toList, "boolean".toList]

/-- The scalar that a text stands for, whatever the case of its letters. -/
def ofText? (t : Text) : Option Scalar :=
  let word := Text.lower t
  all.find? fun s => s.words.contains word

example : ofText? "Int64".toList = some .number := by decide
example : ofText? "system.dateTime".toList = some .date := by decide
example : ofText? "int ".toList = none := by decide

end Scalar

end ModelStubs
