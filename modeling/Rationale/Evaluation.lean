/-
Module: Rationale.Evaluation
Purpose: Evaluation of trees with a record of every part.
Main exports: Tree.eval, Tree.evaluate, Evaluation, Evaluation.passed
-/
import Rationale.Trace.Recording
import Rationale.Tree.Basic

namespace Rationale

open Recording (within flipped flippedIf inChild)

/-!
A part whose input was never produced is recorded as skipped, and no check or mapping in it is
asked.  A failure is an outcome like any other: it leaves the question of the part around it
undecided.  Only mistakes in the making of a tree abort the evaluation.
-/

/-- The attempt that failed on an input. -/
def Attempt.failed (input : Value) (failure : Failure) : Attempt where
  outcome := .thrown failure
  detail := some (.ofFailure input failure)

/-- Asks a check; an answer that is not the wanted one is explained, if the check can. -/
def Check.ask (check : Check) (wanted : Bool) : Option Value → Attempt
  | none => { outcome := .skipped }
  | some value =>
    match check.test value with
    | .ok answer =>
      { outcome := .returned (.bool answer)
        detail := if answer == wanted then none else check.explain value wanted }
    | .error failure => .failed value failure

/-- Applies a mapping. -/
def Mapping.attempt (mapping : Mapping) : Option Value → Attempt
  | none => { outcome := .skipped }
  | some value =>
    match mapping.apply value with
    | .ok result => { outcome := .returned result }
    | .error failure => .failed value failure

/-- The value in a slot of a context. -/
def Value.slot? (value : Value) (slot : Nat) : Except Failure Value :=
  match value with
  | .context slots =>
    match slots[slot]? with
    | some content => .ok content
    | none =>
      .error
        { kind := "IndexOutOfBounds"
          message := "context slot " ++ toString slot ++ " out of bounds for " ++
            toString slots.length ++ " slot(s)" }
  | other => .error (.typeMismatch "Context" other)

/-- The answer in an outcome: none for a failure or a skip, and a fault for a returned value that
is no answer.  The form is that of the part which has to answer. -/
def Outcome.answer? (form : String) (outcome : Outcome Value) : Except Fault (Option Bool) :=
  match outcome.result with
  | .returned (.bool answer) => .ok (some answer)
  | .returned other => .error (.notBoolean form other.typeName)
  | .thrown _ | .skipped => .ok none

/-- The outcome of a question that may have no answer. -/
def Outcome.ofAnswer : Option Bool → Outcome Value
  | some answer => .returned (.bool answer)
  | none => .skipped

namespace Connective

/-- Whether a lazy junction stops after an operand with this answer. -/
def settledBy (connective : Connective) (answer : Option Bool) : Bool :=
  answer != some !connective.decisive

/-- The answer of a junction from those of the operands visited.  A missing answer leaves a
conjunction open, but a disjunction only if no operand settles it. -/
def conclude : Connective → List (Option Bool) → Option Bool
  | .conjunction, answers =>
    if answers.contains none then none else some !answers.contains (some false)
  | .disjunction, answers =>
    if answers.contains (some true) then some true
    else if answers.contains none then none
    else some false

end Connective

/-- Looks for the first item with the answer `cutOn`.  An item without an answer ends the search
with its outcome. -/
def scan (form : String) (cutOn default : Bool) (ask : Value → Recording (Outcome Value)) :
    List Value → Recording (Outcome Value)
  | [] => return .returned (.bool default)
  | item :: rest => do
    let outcome ← ask item
    match ← Recording.ofExcept (outcome.answer? form) with
    | none => return outcome
    | some answer =>
      if answer == cutOn then return .returned (.bool !default)
      else scan form cutOn default ask rest

/-- Applies a mapping inside a row of its own. -/
def Mapping.record (mapping : Mapping) (continued : Bool) (input : Option Value) :
    Recording (Outcome Value) := do
  let outcome ← within
    { kind := .function, form := mapping.name, input, continued, isTrivial := mapping.isTrivial }
    (pure (mapping.attempt input))
  return outcome.withOrigin .head

namespace Tree

mutual

/-- Evaluates a tree on an input and records every part. -/
def eval : Tree → Option Value → Recording (Outcome Value)
  | .leaf check, input =>
    within { kind := .leaf, form := check.name, input, isTrivial := check.isTrivial } do
      let recorder ← get
      Recording.tell (.leafEvaluated check.name)
      return check.ask recorder.wantedAnswer input
  | .junction connective lazily operands, input => do
    if operands.isEmpty then throw (.emptyJunction (connective.form lazily))
    within { kind := connective.kind, form := connective.form lazily, input } do
      let answers ← evalOperands connective lazily operands input
      return { outcome := .ofAnswer (connective.conclude answers) }
  | .negation target, input =>
    within { kind := .negation, form := "not", input } do
      let outcome ← flipped (eval target input)
      match ← Recording.ofExcept (outcome.answer? target.form) with
      | some answer => return { outcome := .returned (.bool !answer) }
      | none => return { outcome }
  | .function head, input => head.record false input
  | .chain head tail, input => do
    let outcome ← head.record true input
    let value := outcome.value?
    let last ← eval tail value
    return if value.isSome then last.withOrigin .tail else outcome
  | .transform mapper checker, input => do
    if mapper.isIdentity then eval checker input
    else
      let mapped ← within { kind := .transform, form := "transform", input } do
        let outcome ← inChild (eval mapper input)
        return { outcome := outcome.withOrigin .transform }
      let value := mapped.value?
      let checked ← within { kind := .check, form := "check", input := value } do
        let outcome ← eval checker value
        return { outcome := if value.isSome then outcome else .skipped }
      return if value.isSome then checked else mapped
  | .quantifier predicate cutOn default, input =>
    within { kind := .quantifier, form := quantifierForm cutOn default, input } do
      match input with
      | none =>
        let _ ← flippedIf (cutOn == default) (eval predicate none)
        return { outcome := .skipped }
      | some value =>
        match value.list? with
        | .ok items =>
          let ask := fun item => flippedIf (cutOn == default) (eval predicate (some item))
          return { outcome := ← scan predicate.form cutOn default ask items }
        | .error failure => return .failed value failure
  | .curried enclosed slot, input =>
    within { kind := .curried, form := curriedForm slot, input, isTrivial := true } do
      match input with
      | none => return { outcome := ← eval enclosed none }
      | some value =>
        match value.slot? slot with
        | .ok content => return { outcome := ← eval enclosed (some content) }
        | .error failure => return .failed value failure

/-- Evaluates the operands of a junction from left to right and collects their answers. -/
def evalOperands (connective : Connective) (lazily : Bool) :
    List Tree → Option Value → Recording (List (Option Bool))
  | [], _ => return []
  | operand :: rest, input => do
    let outcome ← eval operand input
    let answer ← Recording.ofExcept (outcome.answer? operand.form)
    if lazily && connective.settledBy answer then return [answer]
    else return answer :: (← evalOperands connective lazily rest input)

end

end Tree

/-- What an evaluation leaves behind. -/
structure Evaluation where
  outcome : Outcome Value
  trace : Trace
  journal : List Event
deriving Inhabited

/-- Whether the tree returned `true`; a failure or a skip is no pass. -/
def Evaluation.passed (evaluation : Evaluation) : Bool :=
  match evaluation.outcome.value? with
  | some (.bool true) => true
  | _ => false

/-- Evaluates a valid tree on an input in a new recording. -/
def Tree.evaluate (settings : Settings) (tree : Tree) (input : Value) :
    Except Fault Evaluation := do
  tree.validate
  match tree.eval (some input) { settings } with
  | .ok outcome recorder =>
    let trace ← recorder.trace?
    return { outcome, trace, journal := recorder.journal.toList }
  | .error fault _ => throw fault

end Rationale
