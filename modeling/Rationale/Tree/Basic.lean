/-
Module: Rationale.Tree.Basic
Purpose: Trees of checks and mappings, and their validity.
Main exports: Connective, Tree, Tree.form, Tree.isIdentity, Tree.validate
-/
import Rationale.Fault
import Rationale.Mapping

namespace Rationale

/-- How a junction combines the answers of its operands. -/
inductive Connective where
  | conjunction
  | disjunction
deriving Repr, DecidableEq, Inhabited

namespace Connective

/-- The kind of a junction's row. -/
def kind : Connective → Kind
  | .conjunction => .conjunction
  | .disjunction => .disjunction

/-- The printed name of a junction, which tells whether it stops early. -/
def form : Connective → (lazily : Bool) → String
  | .conjunction, true => "and"
  | .conjunction, false => "allOf"
  | .disjunction, true => "or"
  | .disjunction, false => "anyOf"

/-- The answer of an operand that settles the junction on its own. -/
def decisive : Connective → Bool
  | .conjunction => false
  | .disjunction => true

end Connective

/-- A composed question or computation. -/
inductive Tree where
  /-- Asks a check. -/
  | leaf (check : Check)
  /-- Combines the answers of operands.  A lazy junction stops at the first operand that settles
  it or gives no answer; an eager one visits all. -/
  | junction (connective : Connective) (lazily : Bool) (operands : List Tree)
  /-- Turns an answer round. -/
  | negation (target : Tree)
  /-- Applies a mapping. -/
  | function (head : Mapping)
  /-- Applies a mapping and hands its value on. -/
  | chain (head : Mapping) (tail : Tree)
  /-- Maps the input in a first stage and checks what comes of it in a second. -/
  | transform (mapper : Tree) (checker : Tree)
  /-- Looks for the first item of a list whose answer is `cutOn`; the answer is `default` if there
  is none, and its opposite otherwise. -/
  | quantifier (predicate : Tree) (cutOn : Bool) (default : Bool)
  /-- Looks at one slot of a context. -/
  | curried (enclosed : Tree) (slot : Nat)
deriving Inhabited

namespace Tree

/-- The lazy conjunction. -/
def and (operands : List Tree) : Tree := .junction .conjunction true operands

/-- The eager conjunction. -/
def allOf (operands : List Tree) : Tree := .junction .conjunction false operands

/-- The lazy disjunction. -/
def or (operands : List Tree) : Tree := .junction .disjunction true operands

/-- The eager disjunction. -/
def anyOf (operands : List Tree) : Tree := .junction .disjunction false operands

/-- Whether every item of a list passes. -/
def allMatch (predicate : Tree) : Tree := .quantifier predicate false true

/-- Whether some item of a list passes. -/
def anyMatch (predicate : Tree) : Tree := .quantifier predicate true false

/-- Whether no item of a list passes. -/
def noneMatch (predicate : Tree) : Tree := .quantifier predicate true true

/-- Whether some item of a list does not pass. -/
def notAllMatch (predicate : Tree) : Tree := .quantifier predicate false false

/-- The printed name of a quantifier. -/
def quantifierForm : (cutOn : Bool) → (default : Bool) → String
  | false, true => "allMatch"
  | true, false => "anyMatch"
  | true, true => "noneMatch"
  | false, false => "notAllMatch"

/-- The printed name of a look at a slot. -/
def curriedForm (slot : Nat) : String :=
  "curry[" ++ toString slot ++ "]"

/-- The printed name of the topmost part. -/
def form : Tree → String
  | .leaf check => check.name
  | .junction connective lazily _ => connective.form lazily
  | .negation _ => "not"
  | .function head => head.name
  | .chain head _ => head.name
  | .transform _ _ => "transform"
  | .quantifier _ cutOn default => quantifierForm cutOn default
  | .curried _ slot => curriedForm slot

/-- Whether the tree is nothing but the identity. -/
def isIdentity : Tree → Bool
  | .function head => head.isIdentity
  | _ => false

/-!
A tree is valid when no junction in it lacks operands, also where an evaluation would never come.
Of several faults the first from the top and from the left is reported.
-/

mutual

/-- Looks for junctions without operands. -/
def validate : Tree → Except Fault Unit
  | .leaf _ => .ok ()
  | .junction connective lazily operands =>
    if operands.isEmpty then .error (.emptyJunction (connective.form lazily))
    else validateAll operands
  | .negation target => validate target
  | .function _ => .ok ()
  | .chain _ tail => validate tail
  | .transform mapper checker => do
    validate mapper
    validate checker
  | .quantifier predicate _ _ => validate predicate
  | .curried enclosed _ => validate enclosed

/-- Looks for junctions without operands in several trees. -/
def validateAll : List Tree → Except Fault Unit
  | [] => .ok ()
  | tree :: rest => do
    validate tree
    validateAll rest

end

end Tree

end Rationale
