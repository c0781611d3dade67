/-
Module: Rationale.Trace.Row
Purpose: Rows of a trace, each of which describes the evaluation of one part of a tree.
Main exports: Kind, Cell, Detail, Side, Row, Row.isMismatch, Trace, Trace.find?
-/
import Rationale.Outcome
import Rationale.Value.Display

namespace Rationale

/-- What a row stands for.  A transformation leaves two rows, `transform` for its mapping stage
and `check` for its checking stage. -/
inductive Kind where
  | leaf
  | conjunction
  | disjunction
  | negation
  | function
  | transform
  | check
  | quantifier
  | curried
deriving Repr, DecidableEq, Inhabited

namespace Kind

/-- Whether rows of this kind answer a question, so that their output is expected beforehand. -/
def isBoolean : Kind → Bool
  | .function | .transform => false
  | _ => true

/-- Whether rows of this kind may be merged with the row after them. -/
def isMergeable : Kind → Bool
  | .transform | .check => true
  | _ => false

end Kind

/-- An input or output of a row. -/
inductive Cell where
  | value (content : Value)
  | thrown (failure : Failure)
  | skipped
  /-- What is expected of a row that failed to produce a value. -/
  | noFailure
deriving Inhabited

namespace Cell

/-- The cell of an input that may never have been produced. -/
def ofInput : Option Value → Cell
  | some v => .value v
  | none => .skipped

/-- The cell of a result. -/
def ofResult : Result Value → Cell
  | .returned v => .value v
  | .thrown failure => .thrown failure
  | .skipped => .skipped

/-- The value in a cell. -/
def value? : Cell → Option Value
  | .value v => some v
  | _ => none

/-- Whether two cells are the same, with values compared by sameness. -/
def same : Cell → Cell → Bool
  | .value a, .value b => a.same b
  | .thrown f, .thrown g => f == g
  | .skipped, .skipped => true
  | .noFailure, .noFailure => true
  | _, _ => false

instance : BEq Cell := ⟨same⟩

theorem same_refl (cell : Cell) : cell.same cell = true := by
  cases cell <;> simp [same, Value.same_refl]

/-- The text of a cell in a report column; only values are cut to the limit. -/
def summarize (limit : Nat) : Cell → String
  | .value v => v.summarize limit
  | .thrown failure => failure.kind
  | .skipped => "(not evaluated)"
  | .noFailure => "(no failure)"

end Cell

/-- A long explanation of a row: what was expected and what came. -/
structure Detail where
  expected : String
  actual : String
deriving Repr, DecidableEq, Inhabited

/-- The detail of a check or mapping that failed on an input. -/
def Detail.ofFailure (input : Value) (failure : Failure) : Detail :=
  let head := "Input: " ++ input.display ++ "\nInput Type: " ++ input.typeName
  { expected := head ++ "\nNo failure"
    actual := head ++ "\n" ++ failure.excerpt }

/-- One of the two accounts that a row gives of itself. -/
structure Side where
  input : Cell
  output : Cell
  detail : Option String := none
deriving Inhabited

/-- Whether two sides are the same. -/
def Side.same (a b : Side) : Bool :=
  a.input == b.input && a.output == b.output && a.detail == b.detail

instance : BEq Side := ⟨Side.same⟩

/-- The closed account of one part's evaluation. -/
structure Row where
  /-- The printed name of the part. -/
  form : String
  /-- The number of rows that enclose this one. -/
  level : Nat
  kind : Kind
  /-- A function row that hands its value on to the row after it. -/
  continued : Bool
  expected : Side
  actual : Side
  requiresExplanation : Bool
  mergeable : Bool
  /-- An uninteresting row, which reports leave out. -/
  ignored : Bool
deriving Inhabited

namespace Row

/-- Whether the actual output differs from the expected one. -/
def isMismatch (row : Row) : Bool :=
  row.expected.output != row.actual.output

/-- Whether two rows are the same. -/
def same (a b : Row) : Bool :=
  a.form == b.form && a.level == b.level && a.kind == b.kind && a.continued == b.continued &&
    a.expected == b.expected && a.actual == b.actual &&
    a.requiresExplanation == b.requiresExplanation && a.mergeable == b.mergeable &&
    a.ignored == b.ignored

instance : BEq Row := ⟨same⟩

/-- The row some levels further in.  Levels have no bound here; where they are counted in 64 bits,
this is the row as long as its new level is below `2 ^ 64`. -/
def deepen (levels : Nat) (row : Row) : Row :=
  { row with level := row.level + levels }

end Row

/-- The rows of one evaluation; a row stands before the rows that it encloses. -/
abbrev Trace := List Row

/-- The first row with the given name. -/
def Trace.find? (trace : Trace) (form : String) : Option Row :=
  List.find? (·.form == form) trace

end Rationale
