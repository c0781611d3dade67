/-
Module: Rationale.Tree.Describe
Purpose: The structure of a tree as text, for diagnosis.
Main exports: Tree.describe
-/
import Rationale.Text.Quoted
import Rationale.Tree.Basic

namespace Rationale

/-!
Each part is written as its name and, in braces, its members with their names.  Functions inside
checks and mappings have no text; of them only the names and the marks are shown.
-/

/-- The text of a part with named members. -/
def describeParts (name : String) (members : List (String × String)) : String :=
  name ++ " \x7b " ++
    ", ".intercalate (members.map fun (member, text) => member ++ ": " ++ text) ++ " \x7d"

/-- The text of a mark. -/
def describeMark (mark : Bool) : String :=
  if mark then "true" else "false"

/-- The text of a check. -/
def Check.describe (check : Check) : String :=
  describeParts "Check"
    [("name", Text.quoted check.name), ("explained", describeMark check.explainer.isSome),
      ("trivial", describeMark check.isTrivial)]

/-- The text of a mapping. -/
def Mapping.describe (mapping : Mapping) : String :=
  describeParts "Func"
    [("name", Text.quoted mapping.name), ("identity", describeMark mapping.isIdentity)]

/-- The name under which a connective is described. -/
def Connective.describe : Connective → String
  | .conjunction => "Conjunction"
  | .disjunction => "Disjunction"

namespace Tree

mutual

/-- The text of a tree. -/
def describe : Tree → String
  | .leaf check => describeParts "Leaf" [("check", check.describe)]
  | .junction connective lazily operands =>
    describeParts connective.describe
      [("children", "[" ++ ", ".intercalate (describeAll operands) ++ "]"),
        ("shortcut", describeMark lazily)]
  | .negation target => describeParts "Negation" [("target", describe target)]
  | .function head => describeParts "Function" [("head", head.describe), ("tail", "None")]
  | .chain head tail =>
    describeParts "Function" [("head", head.describe), ("tail", "Some(" ++ describe tail ++ ")")]
  | .transform mapper checker =>
    describeParts "Transformation" [("mapper", describe mapper), ("checker", describe checker)]
  | .quantifier predicate cutOn default =>
    describeParts "StreamQuantifier"
      [("cut_predicate", describe predicate), ("cut_on", describeMark cutOn),
        ("default", describeMark default)]
  | .curried enclosed slot =>
    describeParts "CurriedContextPredicate"
      [("enclosed", describe enclosed), ("arg_index", toString slot)]

/-- The texts of some trees. -/
def describeAll : List Tree → List String
  | [] => []
  | tree :: rest => describe tree :: describeAll rest

end

end Tree

end Rationale
