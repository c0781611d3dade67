/-
Module: Rationale.Proofs.Meaning
Purpose: What a tree means for a value, told without a recorder, a polarity or a trace.
Main exports: Result.answer?, Meaning.junction, Meaning.search, Tree.meaning
-/
import Rationale.Evaluation

namespace Rationale

/-- The result of something that gives a value or fails. -/
def Result.ofExcept : Except Failure Value → Result Value
  | .ok value => .returned value
  | .error failure => .thrown failure

/-- The answer in the result of a part that has to answer: none after a failure or a skip, and a
fault if the part returned anything else. -/
def Result.answer? (form : String) : Result Value → Except Fault (Option Bool)
  | .returned (.bool answer) => .ok (some answer)
  | .returned other => .error (.notBoolean form other.typeName)
  | .thrown _ => .ok none
  | .skipped => .ok none

namespace Meaning

/-!
### Junctions and searches

The parts of a junction or a search each come to an answer, to none or to a fault.  A lazy junction
and a search go by the first part that does not just let them go on; an eager junction goes by all
parts, and by the first fault if there is one.
-/

/-- Whether a part came to the given answer. -/
def isAnswer (answer : Bool) : Except Fault (Option Bool) → Bool
  | .ok (some given) => given == answer
  | .ok none => false
  | .error _ => false

/-- The lazy junction that goes on as long as the answer is `go`. -/
def firstOther (go : Bool) (verdicts : List (Except Fault (Option Bool))) :
    Except Fault (Result Value) :=
  match verdicts.find? fun verdict => !isAnswer go verdict with
  | none => .ok (.returned (.bool go))
  | some (.ok (some _)) => .ok (.returned (.bool !go))
  | some (.ok none) => .ok .skipped
  | some (.error fault) => .error fault

theorem firstOther_cons_go (go : Bool) (verdicts : List (Except Fault (Option Bool))) :
    firstOther go (.ok (some go) :: verdicts) = firstOther go verdicts := by
  have passed : (!isAnswer go (.ok (some go))) = false := by
    simp [isAnswer]
  rw [firstOther, List.find?_cons, passed]
  rfl

/-- The eager conjunction. -/
def allTrue (answers : List (Option Bool)) : Result Value :=
  if none ∈ answers then .skipped
  else .returned (.bool (answers.all fun answer => answer == some true))

/-- The eager disjunction. -/
def someTrue (answers : List (Option Bool)) : Result Value :=
  if some true ∈ answers then .returned (.bool true)
  else if none ∈ answers then .skipped
  else .returned (.bool false)

/-- What a junction makes of its operands. -/
def junction : Connective → (lazily : Bool) → List (Except Fault (Option Bool)) →
    Except Fault (Result Value)
  | .conjunction, true, verdicts => firstOther true verdicts
  | .disjunction, true, verdicts => firstOther false verdicts
  | .conjunction, false, verdicts => (verdicts.mapM id).map allTrue
  | .disjunction, false, verdicts => (verdicts.mapM id).map someTrue

theorem junction_replicate (connective : Connective) (lazily : Bool) (count : Nat) :
    junction connective lazily (List.replicate (count + 1) (.ok none)) = .ok .skipped := by
  have collected : ∀ count, (List.replicate count (Except.ok none)).mapM id =
      (Except.ok (List.replicate count none) : Except Fault (List (Option Bool))) := by
    intro count
    induction count with
    | zero => rfl
    | succ count ih =>
        rw [List.replicate_succ, List.mapM_cons, ih]
        rfl
  cases lazily with
  | true => cases connective <;> rfl
  | false =>
      cases connective with
      | conjunction =>
          rw [junction, collected]
          simp [Except.map, allTrue]
      | disjunction =>
          rw [junction, collected]
          simp [Except.map, someTrue]

/-- The search for the first item with the answer `cutOn`, from what the predicate makes of the
items.  An item without an answer ends the search with its result. -/
def search (form : String) (cutOn default : Bool) (results : List (Except Fault (Result Value))) :
    Except Fault (Result Value) :=
  match results.find? fun result => !isAnswer (!cutOn) (result.bind (Result.answer? form)) with
  | none => .ok (.returned (.bool default))
  | some found => do
    let result ← found
    match ← result.answer? form with
    | some _ => .ok (.returned (.bool !default))
    | none => .ok result

section Searches

variable {form : String} {cutOn default : Bool} {found : Result Value} {answer : Option Bool}
  {fault : Fault} {rest : List (Except Fault (Result Value))}

theorem search_cons_go (go : found.answer? form = .ok (some !cutOn)) :
    search form cutOn default (.ok found :: rest) = search form cutOn default rest := by
  have passed : (!isAnswer (!cutOn) ((Except.ok found).bind (Result.answer? form))) = false := by
    simp [Except.bind, go, isAnswer]
  rw [search, List.find?_cons, passed]
  rfl

theorem search_cons_refused (refused : found.answer? form = .error fault) :
    search form cutOn default (.ok found :: rest) = .error fault := by
  simp [search, Except.bind, Bind.bind, refused, isAnswer]

theorem search_cons_none (unanswered : found.answer? form = .ok none) :
    search form cutOn default (.ok found :: rest) = .ok found := by
  simp [search, Except.bind, Bind.bind, unanswered, isAnswer]

theorem search_cons_found (decided : found.answer? form = .ok (some cutOn)) :
    search form cutOn default (.ok found :: rest) = .ok (.returned (.bool !default)) := by
  simp [search, Except.bind, Bind.bind, decided, isAnswer]

end Searches

end Meaning

namespace Tree

mutual

/-- What a tree makes of a value. -/
def meaning : Tree → Value → Except Fault (Result Value)
  | .leaf check, value => .ok (.ofExcept ((check.test value).map Value.bool))
  | .junction connective lazily operands, value =>
    Meaning.junction connective lazily (verdicts operands value)
  | .negation target, value => do
    let result ← meaning target value
    match ← result.answer? target.form with
    | some answer => .ok (.returned (.bool !answer))
    | none => .ok result
  | .function head, value => .ok (.ofExcept (head.apply value))
  | .chain head tail, value =>
    match head.apply value with
    | .ok next => meaning tail next
    | .error failure => .ok (.thrown failure)
  | .transform mapper checker, value => do
    match ← meaning mapper value with
    | .returned next => meaning checker next
    | other => .ok other
  | .quantifier predicate cutOn default, value =>
    match value with
    | .list items => Meaning.search predicate.form cutOn default (items.map (meaning predicate))
    | other => .ok (.thrown (.typeMismatch "List" other))
  | .curried enclosed slot, value =>
    match value.slot? slot with
    | .ok content => meaning enclosed content
    | .error failure => .ok (.thrown failure)

/-- What the operands of a junction come to on a value. -/
def verdicts : List Tree → Value → List (Except Fault (Option Bool))
  | [], _ => []
  | operand :: rest, value =>
    ((meaning operand value).bind (Result.answer? operand.form)) :: verdicts rest value

end

theorem verdicts_eq_map (operands : List Tree) (value : Value) :
    verdicts operands value =
      operands.map fun operand => (meaning operand value).bind (Result.answer? operand.form) := by
  induction operands with
  | nil => rfl
  | cons operand rest ih => rw [verdicts, ih, List.map_cons]

end Tree

end Rationale
