/-
Module: Rationale.Proofs.Slots
Purpose: A search through a list and a lazy junction over the slots of a context put a predicate to
  the same values, as far as the first that ends the round, and come to the same.
Main exports: Tree.overSlots, Tree.EndsAlike, Tree.stops, Recorder.asked, Recorder.AsksAlike,
  Tree.RoundsAgree, Tree.roundsAgree_of_slots, Tree.eval_search_slots
-/
import Rationale.Proofs.Remains
import Rationale.Proofs.Shortcuts

namespace Rationale

section Steps

variable {α : Type} {settings : Settings} {flipped : Bool} {run : Recording (Outcome Value)}
  {next : Outcome Value → Option Bool → Recording α} {outcome : Outcome Value} {form : String}
  {left later : List Entry}

/-- A step of a round takes the answer of the part asked; what is no answer aborts it. -/
theorem Recording.Yields.refuse {fault : Fault}
    (first : run.Yields settings flipped (.ok outcome) left)
    (refused : outcome.answer? form = .error fault) :
    Yields (do
      let outcome ← run
      let answer ← ofExcept (outcome.answer? form)
      next outcome answer) settings flipped (.error fault) left := by
  have stopped : (ofExcept (outcome.answer? form) >>= next outcome).Yields settings flipped
      (.error fault) [] := by
    rw [refused]
    exact (yields_throw fault).bind_error
  rw [← List.append_nil left]
  exact first.bind stopped

theorem Recording.Yields.answer {answer : Option Bool} {verdict : Except Fault α}
    (first : run.Yields settings flipped (.ok outcome) left)
    (answered : outcome.answer? form = .ok answer)
    (second : (next outcome answer).Yields settings flipped verdict later) :
    Yields (do
      let outcome ← run
      let answer ← ofExcept (outcome.answer? form)
      next outcome answer) settings flipped verdict (left ++ later) := by
  have further : (ofExcept (outcome.answer? form) >>= next outcome).Yields settings flipped
      verdict ([] ++ later) := by
    rw [answered]
    exact (yields_pure answer).bind second
  exact first.bind further

theorem Recording.Yields.answer_last {answer : Option Bool} {result : α}
    (first : run.Yields settings flipped (.ok outcome) left)
    (answered : outcome.answer? form = .ok answer)
    (last : next outcome answer = pure result) :
    Yields (do
      let outcome ← run
      let answer ← ofExcept (outcome.answer? form)
      next outcome answer) settings flipped (.ok result) left := by
  rw [← List.append_nil left]
  refine first.answer answered ?_
  rw [last]
  exact yields_pure result

end Steps

theorem Attempt.map_outcome (verdict : Except Fault (Outcome Value)) :
    (verdict.map fun outcome => ({ outcome } : Attempt)).map Attempt.outcome = verdict := by
  cases verdict <;> rfl

/-- An outcome has the same answer for everybody who asks, or is refused by everybody. -/
theorem Outcome.answer?_cases (outcome : Outcome Value) :
    (∃ got, (∀ form, outcome.answer? form = .error (.notBoolean form got)) ∧
      outcome.value?.bind Value.bool? = none) ∨
    (∀ form, outcome.answer? form = .ok none) ∧
      outcome.value?.bind Value.bool? = none ∧ (outcome.isThrown || outcome.isSkipped) = true ∨
    ∃ answer, (∀ form, outcome.answer? form = .ok (some answer)) ∧
      outcome.value?.bind Value.bool? = some answer := by
  obtain ⟨result, origin⟩ := outcome
  cases result with
  | thrown failure => exact .inr (.inl ⟨fun _ => rfl, rfl, rfl⟩)
  | skipped => exact .inr (.inl ⟨fun _ => rfl, rfl, rfl⟩)
  | returned value =>
      cases value with
      | bool answer => exact .inr (.inr ⟨answer, fun _ => rfl, rfl⟩)
      | _ => exact .inl ⟨_, fun _ => rfl, rfl⟩

namespace Tree

/-- The operands that put a predicate to the slots of a context, one after the other. -/
def overSlots (predicate : Tree) (count : Nat) : List Tree :=
  (List.range count).map predicate.curried

/-- Two ways to put a predicate to values end alike: with the same answer, both without one, or both
with a fault.  What is no answer is reported of the predicate in a search, and of the slot in a
junction. -/
def EndsAlike (predicate : Tree) :
    Except Fault (Outcome Value) → Except Fault (Outcome Value) → Prop
  | .ok found, .ok joined =>
    (∀ answer, found.result = .returned (.bool answer) ↔
        joined.result = .returned (.bool answer)) ∧
      (found.isThrown || found.isSkipped) = (joined.isThrown || joined.isSkipped)
  | .error fault, .error other => fault = other ∨ ∃ slot got,
      fault = .notBoolean predicate.form got ∧ other = .notBoolean (curriedForm slot) got
  | _, _ => False

/-- What a predicate comes to ends a round, unless it is the answer that lets the round go on. -/
def stops (goOn : Bool) : Except Fault (Outcome Value) → Bool
  | .ok outcome => outcome.value?.bind Value.bool? != some goOn
  | .error _ => true

end Tree

/-- The values that a predicate is put to here, when it is put to one after the other. -/
def Recorder.asked (recorder : Recorder) (predicate : Tree) (goOn : Bool) (values : List Value) :
    List Value :=
  upTo (fun value => Tree.stops goOn ((predicate.eval (some value)).verdict recorder)) values

/-- A search through a list and a junction over a context put a predicate to the same values.  They
end alike, and the predicate leaves in both what it leaves on each value by itself: inside the row
of the search, and inside a row for each slot of the junction. -/
structure Recorder.AsksAlike (recorder : Recorder) (connective : Connective) (predicate : Tree)
    (values : List Value) (search junction : Tree) : Prop where
  ends : predicate.EndsAlike ((search.eval (some (.list values))).verdict recorder)
    ((junction.eval (some (.context values))).verdict recorder)
  searched : ∃ top : Entry, top.IsFor .quantifier search.form recorder.level ∧
    recorder.Collects search (some (.list values)) (top ::
      (recorder.asked predicate (!connective.decisive) values).flatMap fun value =>
        (recorder.remains predicate (some value)).map (Entry.deepen 1))
  joined : ∃ (top : Entry) (curry : Value × Nat → Entry),
    top.IsFor connective.kind junction.form recorder.level ∧
    (∀ item, (curry item).IsFor .curried (Tree.curriedForm item.2) (recorder.level + 1)) ∧
    recorder.Collects junction (some (.context values)) (top ::
      (recorder.asked predicate (!connective.decisive) values).zipIdx.flatMap fun item =>
        curry item :: (recorder.remains predicate (some item.1)).map (Entry.deepen 2))

namespace Tree

section Rounds

variable {settings : Settings} {flipped : Bool} {predicate : Tree}

/-- A look at a slot yields what its part yields on the content, inside a row of its own. -/
theorem curried_yields {verdict : Except Fault (Outcome Value)} {left : List Entry} {slot : Nat}
    {slots : List Value} {content : Value} (found : slots[slot]? = some content)
    (yields : (predicate.eval (some content)).Yields settings flipped verdict left) :
    ((curried predicate slot).eval (some (.context slots))).Yields settings flipped verdict
      (Draft.entry settings flipped (draft (some (.context slots)) (.curried predicate slot))
        (verdict.map fun outcome => { outcome }) :: left.map (Entry.deepen 1)) := by
  have projected : (Value.context slots).slot? slot = .ok content := by
    simp only [Value.slot?, found]
  have whole := (yields.finish fun outcome => ({ outcome } : Attempt)).within
    (draft (some (.context slots)) (.curried predicate slot))
  rw [Attempt.map_outcome] at whole
  rw [eval]
  simp only [projected]
  exact whole

theorem endsAlike_self (predicate : Tree) (verdict : Except Fault (Outcome Value)) :
    predicate.EndsAlike verdict verdict := by
  cases verdict with
  | error fault => exact .inl rfl
  | ok outcome => exact ⟨fun _ => .rfl, rfl⟩

theorem endsAlike_of_failed (predicate : Tree) {outcome : Outcome Value}
    (failed : (outcome.isThrown || outcome.isSkipped) = true) :
    predicate.EndsAlike (.ok outcome) (.ok .skipped) := by
  refine ⟨fun answer => ⟨fun returned => ?_, fun returned => ?_⟩, failed⟩
  · simp [Outcome.isThrown, Outcome.isSkipped, Outcome.failure?, returned] at failed
  · cases returned

/-- The place of the look at a slot that holds a value, among these slots. -/
def slotEntry (settings : Settings) (flipped : Bool) (predicate : Tree) (slots : List Value)
    (judged : Value → Except Fault (Outcome Value)) (item : Value × Nat) : Entry :=
  Draft.entry settings flipped (draft (some (.context slots)) (.curried predicate item.2))
    ((judged item.1).map fun outcome => { outcome })

/-- The search through some values, and the junction over the slots from a place on that hold them,
end alike, and leave what the predicate leaves on the values asked. -/
def RoundsAgree (settings : Settings) (flipped : Bool) (connective : Connective) (predicate : Tree)
    (slots : List Value) (curry : Value × Nat → Entry) (left : Value → List Entry)
    (values : List Value) (place : Nat) (asked : List Value) : Prop :=
  ∃ found joined,
    (scan predicate.form connective.decisive (!connective.decisive)
      (fun item => predicate.eval (some item)) values).Yields settings flipped found
        (asked.flatMap left) ∧
    (evalOperands connective true ((List.range' place values.length).map predicate.curried)
      (some (.context slots))).Yields settings flipped joined
        ((asked.zipIdx place).flatMap fun item =>
          curry item :: (left item.1).map (Entry.deepen 1)) ∧
    predicate.EndsAlike found (joined.map fun answers =>
      .ofAnswer (connective.conclude answers))

section Steps

variable {connective : Connective} {slots : List Value} {curry : Value × Nat → Entry}
  {left : Value → List Entry} {value : Value} {rest asked : List Value} {place : Nat}
  {verdict : Except Fault (Outcome Value)}

theorem roundsAgree_nil :
    RoundsAgree settings flipped connective predicate slots curry left [] place [] := by
  refine ⟨_, _, Recording.yields_pure _, Recording.yields_pure [], ?_⟩
  cases connective <;> exact endsAlike_self predicate _

/-- A value that ends the search ends the junction in its slot. -/
theorem roundsAgree_of_stop
    (here : (predicate.eval (some value)).Yields settings flipped verdict (left value))
    (there : ((curried predicate place).eval (some (.context slots))).Yields settings flipped
      verdict (curry (value, place) :: (left value).map (Entry.deepen 1)))
    (stop : stops (!connective.decisive) verdict = true) :
    RoundsAgree settings flipped connective predicate slots curry left (value :: rest) place
      [value] := by
  rw [RoundsAgree, List.length_cons, List.range'_succ, List.map_cons, scan, evalOperands,
    List.flatMap_singleton, List.zipIdx_singleton, List.flatMap_singleton]
  cases verdict with
  | error fault =>
      exact ⟨.error fault, .error fault, here.bind_error, there.bind_error, .inl rfl⟩
  | ok outcome =>
      rcases outcome.answer?_cases with
        ⟨got, refused, -⟩ | ⟨unanswered, -, failed⟩ | ⟨answer, answered, isAnswer⟩
      · exact ⟨_, _, here.refuse (refused _), there.refuse (refused _),
          .inr ⟨place, got, rfl, rfl⟩⟩
      · refine ⟨_, _, here.answer_last (unanswered _) rfl,
          there.answer_last (unanswered _) (if_pos rfl), ?_⟩
        have undecided : connective.conclude [none] = none := by cases connective <;> rfl
        show predicate.EndsAlike (.ok outcome) (.ok (.ofAnswer (connective.conclude [none])))
        rw [undecided]
        exact endsAlike_of_failed predicate failed
      · have decisive : answer = connective.decisive := by
          simpa [stops, isAnswer] using stop
        subst decisive
        refine ⟨_, _, here.answer_last (answered _) (if_pos (beq_self_eq_true _)),
          there.answer_last (answered _) (if_pos ?_), ?_⟩
        · cases connective <;> rfl
        · cases connective <;> exact endsAlike_self predicate _

/-- A value that lets the search go on lets the junction go on, whose answer is up to the rest. -/
theorem roundsAgree_of_go
    (here : (predicate.eval (some value)).Yields settings flipped verdict (left value))
    (there : ((curried predicate place).eval (some (.context slots))).Yields settings flipped
      verdict (curry (value, place) :: (left value).map (Entry.deepen 1)))
    (go : stops (!connective.decisive) verdict = false)
    (later : RoundsAgree settings flipped connective predicate slots curry left rest (place + 1)
      asked) :
    RoundsAgree settings flipped connective predicate slots curry left (value :: rest) place
      (value :: asked) := by
  obtain ⟨found, joined, further, others, alike⟩ := later
  rw [RoundsAgree, List.length_cons, List.range'_succ, List.map_cons, scan, evalOperands,
    List.flatMap_cons, List.zipIdx_cons, List.flatMap_cons]
  cases verdict with
  | error fault => cases go
  | ok outcome =>
      rcases outcome.answer?_cases with
        ⟨got, -, isNone⟩ | ⟨-, isNone, -⟩ | ⟨answer, answered, isAnswer⟩
      · rw [stops, isNone] at go
        cases go
      · rw [stops, isNone] at go
        cases go
      · obtain rfl : answer = !connective.decisive := by
          simpa [stops, isAnswer] using go
        refine ⟨found, joined.map (some (!connective.decisive) :: ·),
          here.answer (answered _) ?_, there.answer (answered _) ?_, ?_⟩
        · cases connective <;> exact further
        · cases connective <;> exact others.finish _
        · cases joined with
          | error fault => exact alike
          | ok answers =>
              rw [Except.map, Except.map, Connective.conclude_cons_go]
              exact alike

end Steps

/-- The rounds go the same way from some slot on, if that holds what is searched. -/
theorem roundsAgree_of_slots (connective : Connective) (slots : List Value)
    {judged : Value → Except Fault (Outcome Value)} {left : Value → List Entry}
    (each : ∀ value,
      (predicate.eval (some value)).Yields settings flipped (judged value) (left value))
    (before rest : List Value) (split : slots = before ++ rest) :
    RoundsAgree settings flipped connective predicate slots
      (slotEntry settings flipped predicate slots judged) left rest before.length
      (upTo (fun value => stops (!connective.decisive) (judged value)) rest) := by
  induction rest generalizing before with
  | nil => exact roundsAgree_nil
  | cons value rest ih =>
      have here : slots[before.length]? = some value := by simp [split]
      have looked := curried_yields here (each value)
      cases stop : stops (!connective.decisive) (judged value) with
      | true =>
          rw [upTo_cons_of_stop rest stop]
          exact roundsAgree_of_stop (each value) looked stop
      | false =>
          rw [upTo_cons_of_go rest stop]
          have later := ih (before ++ [value]) (by simp [split])
          rw [List.length_append, List.length_singleton] at later
          exact roundsAgree_of_go (each value) looked stop later

/-- The search yields what its round yields, inside a row of its own. -/
theorem search_yields {connective : Connective} {values : List Value}
    {found : Except Fault (Outcome Value)} {left : List Entry}
    (round : (scan predicate.form connective.decisive (!connective.decisive)
      (fun item => predicate.eval (some item)) values).Yields settings flipped found left) :
    let search := quantifier predicate connective.decisive (!connective.decisive)
    ∃ top : Entry, top.IsFor .quantifier search.form 0 ∧
      (search.eval (some (.list values))).Yields settings flipped found
        (top :: left.map (Entry.deepen 1)) := by
  intro search
  obtain ⟨top, isTop, whole⟩ := (round.finish fun outcome => ({ outcome } : Attempt)).exists_within
    (draft (some (.list values)) search)
  rw [Attempt.map_outcome] at whole
  refine ⟨top, isTop, ?_⟩
  rw [eval]
  cases connective <;> exact whole

theorem junction_yields {connective : Connective} {operands : List Tree} {input : Option Value}
    {joined : Except Fault (List (Option Bool))} {left : List Entry} (nonempty : operands ≠ [])
    (round : (evalOperands connective true operands input).Yields settings flipped joined left) :
    ∃ top : Entry, top.IsFor connective.kind (connective.form true) 0 ∧
      ((junction connective true operands).eval input).Yields settings flipped
        (joined.map fun answers => .ofAnswer (connective.conclude answers))
        (top :: left.map (Entry.deepen 1)) := by
  have occupied : ¬ operands.isEmpty = true := by simpa using nonempty
  let close (answers : List (Option Bool)) : Attempt :=
    { outcome := .ofAnswer (connective.conclude answers) }
  obtain ⟨top, isTop, whole⟩ :=
    (round.finish close).exists_within (draft input (.junction connective true operands))
  have same : (joined.map close).map Attempt.outcome =
      joined.map fun answers => .ofAnswer (connective.conclude answers) := by
    cases joined <;> rfl
  rw [same] at whole
  refine ⟨top, isTop, ?_⟩
  rw [eval, if_neg occupied]
  exact whole

end Rounds

/-- The search for a value that settles the connective, and the lazy junction over the slots. -/
theorem asksAlike (connective : Connective) (predicate : Tree) {values : List Value}
    (nonempty : values ≠ []) (recorder : Recorder) :
    recorder.AsksAlike connective predicate values
      (.quantifier predicate connective.decisive (!connective.decisive))
      (.junction connective true (overSlots predicate values.length)) := by
  choose left yields remains using fun value => recorder.exists_yields predicate (some value)
  obtain ⟨found, joined, searched, round, alike⟩ :=
    roundsAgree_of_slots connective values yields [] values rfl
  obtain ⟨top, isTop, search⟩ := search_yields searched
  have operands : (List.range' 0 values.length).map predicate.curried =
      overSlots predicate values.length := by
    rw [overSlots, List.range_eq_range']
  have occupied : overSlots predicate values.length ≠ [] := by simpa [overSlots] using nonempty
  rw [List.length_nil, operands] at round
  obtain ⟨head, isHead, junction⟩ := junction_yields occupied round
  refine ⟨?ends, ?searched, ?joined⟩
  case ends =>
    rw [Recorder.verdict_of_yields search, Recorder.verdict_of_yields junction]
    exact alike
  case searched =>
    refine ⟨_, isTop.deepen (Nat.zero_add recorder.level), ?_⟩
    have collects := Recorder.collects_of_yields search
    simp only [List.map_cons, List.map_flatMap, Entry.map_deepen_deepen] at collects
    simp only [remains, Entry.map_deepen_deepen, Nat.add_comm recorder.level]
    exact collects
  case joined =>
    let judged (value : Value) := (predicate.eval (some value)).verdict recorder
    let curry := slotEntry recorder.settings recorder.flipped predicate values judged
    refine ⟨_, fun item => (curry item).deepen (1 + recorder.level),
      isHead.deepen (Nat.zero_add recorder.level), fun item => ?_, ?_⟩
    · exact (Draft.isFor_entry ..).deepen (by omega)
    · have collects := Recorder.collects_of_yields junction
      simp only [List.map_cons, List.map_flatMap, Entry.map_deepen_deepen, Entry.deepen_deepen]
        at collects
      simp only [remains, Entry.map_deepen_deepen, Nat.add_comm recorder.level]
      exact collects

/-- Asking whether all items of a list satisfy a predicate, and asking the predicate of all slots of
a context with the same values in a lazy conjunction, end alike, ask of the same values and leave
the same of each, but for the rows of the slots.  So do asking for some item and the lazy
disjunction.  The junction needs an operand, and so the list a value. -/
theorem eval_search_slots (predicate : Tree) {values : List Value} (nonempty : values ≠ [])
    (recorder : Recorder) :
    recorder.AsksAlike .conjunction predicate values (allMatch predicate)
        (and (overSlots predicate values.length)) ∧
      recorder.AsksAlike .disjunction predicate values (anyMatch predicate)
        (or (overSlots predicate values.length)) :=
  ⟨asksAlike .conjunction predicate nonempty recorder,
    asksAlike .disjunction predicate nonempty recorder⟩

/-- One search ends at the value on which the predicate fails, the other where it passes first. -/
theorem eval_search_slots_of_failing :
    let values : List Value := [.int 1, .null, .int 0]
    let predicate : Tree := .leaf (.greaterThan (.int 0))
    let fresh : Recorder := { settings := {} }
    values ≠ [] ∧ fresh.asked predicate true values = [.int 1, .null] ∧
      fresh.asked predicate false values = [.int 1] ∧
      fresh.AsksAlike .conjunction predicate values (allMatch predicate)
        (and (overSlots predicate values.length)) ∧
      fresh.AsksAlike .disjunction predicate values (anyMatch predicate)
        (or (overSlots predicate values.length)) := by
  intro values predicate fresh
  have nonempty : values ≠ [] := by simp [values]
  exact ⟨nonempty, rfl, rfl, eval_search_slots predicate nonempty fresh⟩

end Tree

end Rationale
