/-
Module: Rationale.Outcome
Purpose: The three-valued result of evaluating one part of a tree.
Main exports: Origin, Result, Outcome, Outcome.map, Outcome.withOrigin, Outcome.ofExcept
-/
import Rationale.Failure

namespace Rationale

/-- The stage of a composed tree that produced an outcome.  It informs reports and decides
nothing. -/
inductive Origin where
  | head
  | tail
  | transform
  | unknown
deriving Repr, DecidableEq, Inhabited

/-- What became of an evaluation.  `skipped` says that it was never attempted: it was not needed,
or its input was never produced. -/
inductive Result (α : Type) where
  | returned (value : α)
  | thrown (failure : Failure)
  | skipped
deriving Inhabited

/-- A result and the stage that it comes from. -/
structure Outcome (α : Type) where
  result : Result α
  origin : Origin := .unknown
deriving Inhabited

namespace Outcome

variable {α β : Type}

/-- The outcome that carries a value. -/
def returned (value : α) : Outcome α := ⟨.returned value, .unknown⟩

/-- The outcome that carries a failure. -/
def thrown (failure : Failure) : Outcome α := ⟨.thrown failure, .unknown⟩

/-- The outcome of what was never evaluated. -/
def skipped : Outcome α := ⟨.skipped, .unknown⟩

/-- The outcome of an attempt that gives a value or fails. -/
def ofExcept : Except Failure α → Outcome α
  | .ok value => returned value
  | .error failure => thrown failure

/-- The same result from another stage. -/
def withOrigin (origin : Origin) (outcome : Outcome α) : Outcome α :=
  { outcome with origin := origin }

/-- The returned value. -/
def value? (outcome : Outcome α) : Option α :=
  match outcome.result with
  | .returned value => some value
  | _ => none

/-- The failure. -/
def failure? (outcome : Outcome α) : Option Failure :=
  match outcome.result with
  | .thrown failure => some failure
  | _ => none

/-- Whether a value was returned. -/
def isReturned (outcome : Outcome α) : Bool :=
  outcome.value?.isSome

/-- Whether the evaluation failed. -/
def isThrown (outcome : Outcome α) : Bool :=
  outcome.failure?.isSome

/-- Whether the evaluation was never attempted. -/
def isSkipped (outcome : Outcome α) : Bool :=
  match outcome.result with
  | .skipped => true
  | _ => false

/-- Applies a function to a returned value; failures, skips and the stage stay. -/
def map (f : α → β) (outcome : Outcome α) : Outcome β :=
  match outcome.result with
  | .returned value => ⟨.returned (f value), outcome.origin⟩
  | .thrown failure => ⟨.thrown failure, outcome.origin⟩
  | .skipped => ⟨.skipped, outcome.origin⟩

end Outcome

end Rationale
