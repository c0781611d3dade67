/-
Module: Rationale.Proofs.Outline
Purpose: Without an input a tree is passed over, and what it then leaves depends on its outline
  alone, not on what its checks and mappings do.
Main exports: Check.outline, Mapping.outline, Tree.outline, visit_congr, Tree.account_outline,
  Row.IsBlank, Tree.eval_without_input
-/
import Rationale.Mapping.Stock
import Rationale.Proofs.Agreement
import Rationale.Proofs.Preorder
import Rationale.Proofs.Skipping

namespace Rationale

/-!
### Outlines

The outline of a tree keeps its shape with all names and marks, and has trivial code in place of
every check and mapping.  So two trees have one outline if and only if they differ in their code at
most.
-/

/-- A check of the same name and mark that accepts every value and explains nothing. -/
def Check.outline (check : Check) : Check where
  name := check.name
  test _ := .ok true
  isTrivial := check.isTrivial

/-- A mapping of the same name and marks.  The identity has no code to be replaced. -/
def Mapping.outline : Mapping → Mapping
  | .identity => .identity
  | .named name _ isTrivial => .named name .ok isTrivial

namespace Tree

mutual

/-- The tree with trivial code in all of its checks and mappings. -/
def outline : Tree → Tree
  | .leaf check => .leaf check.outline
  | .junction connective lazily operands => .junction connective lazily (outlineAll operands)
  | .negation target => .negation (outline target)
  | .function head => .function head.outline
  | .chain head tail => .chain head.outline (outline tail)
  | .transform mapper checker => .transform (outline mapper) (outline checker)
  | .quantifier predicate cutOn default => .quantifier (outline predicate) cutOn default
  | .curried enclosed slot => .curried (outline enclosed) slot

/-- The outlines of several trees. -/
def outlineAll : List Tree → List Tree
  | [] => []
  | tree :: rest => outline tree :: outlineAll rest

end

theorem outlineAll_eq_map (trees : List Tree) : outlineAll trees = trees.map outline := by
  induction trees with
  | nil => rfl
  | cons tree rest ih => rw [outlineAll, ih, List.map_cons]

end Tree

@[simp] theorem Mapping.name_outline (mapping : Mapping) : mapping.outline.name = mapping.name := by
  cases mapping <;> rfl

@[simp] theorem Mapping.isTrivial_outline (mapping : Mapping) :
    mapping.outline.isTrivial = mapping.isTrivial := by
  cases mapping <;> rfl

@[simp] theorem Mapping.isIdentity_outline (mapping : Mapping) :
    mapping.outline.isIdentity = mapping.isIdentity := by
  cases mapping <;> rfl

namespace Tree

@[simp] theorem form_outline (tree : Tree) : tree.outline.form = tree.form := by
  cases tree <;> simp [outline, form, Check.outline]

@[simp] theorem draft_outline (input : Option Value) (tree : Tree) :
    tree.outline.draft input = tree.draft input := by
  cases tree <;> simp [outline, draft, Check.outline]

@[simp] theorem isIdentity_outline (tree : Tree) : tree.outline.isIdentity = tree.isIdentity := by
  cases tree <;> simp [outline, isIdentity]

end Tree

/-!
### Rounds

A round goes by what its inquiries come to, and not by what they are about.
-/

section Rounds

variable {α β : Type} {stops : Option Bool → Bool}

/-- The answers of the parts asked, and the rows that they leave. -/
def roundOf (visits : List (Visit α)) : List (Option Bool) × Forest :=
  (answersOf visits, forestOf visits)

theorem map_roundOf_cons (first : Visit α) (later : Except Fault (List (Visit α))) :
    (later.map (first :: ·)).map roundOf =
      (later.map roundOf).map fun round =>
        (first.answer :: round.1, first.account.forest ++ round.2) := by
  cases later <;> rfl

theorem visit_congr {first : List (Inquiry α)} {second : List (Inquiry β)}
    (alike : first.map (fun inquiry => (inquiry.form, inquiry.result)) =
      second.map fun inquiry => (inquiry.form, inquiry.result)) :
    (visit stops first).map roundOf = (visit stops second).map roundOf := by
  induction first generalizing second with
  | nil =>
      cases second with
      | nil => rfl
      | cons inquiry rest => cases alike
  | cons inquiry rest ih =>
      cases second with
      | nil => cases alike
      | cons other later =>
          rw [List.map_cons, List.map_cons, List.cons.injEq, Prod.mk.injEq] at alike
          rcases alike with ⟨⟨sameForm, sameResult⟩, alikeRest⟩
          cases given : inquiry.result with
          | error fault =>
              rw [visit_of_fault given, visit_of_fault (sameResult.symm.trans given)]
              rfl
          | ok account =>
              have otherGiven := sameResult.symm.trans given
              cases answered : account.outcome.answer? inquiry.form with
              | error fault =>
                  have otherAnswered := sameForm ▸ answered
                  rw [visit_of_refusal given answered, visit_of_refusal otherGiven otherAnswered]
                  rfl
              | ok answer =>
                  have otherAnswered := sameForm ▸ answered
                  cases go : stops answer with
                  | true =>
                      rw [visit_of_stop given answered go,
                        visit_of_stop otherGiven otherAnswered go]
                      rfl
                  | false =>
                      rw [visit_of_go given answered go, visit_of_go otherGiven otherAnswered go,
                        map_roundOf_cons, map_roundOf_cons, ih alikeRest]

end Rounds

namespace Tree

/-- The account of a junction, from the answers of its operands and the rows that they leave. -/
theorem account_junction_eq {settings : Settings} {connective : Connective} {lazily flipped : Bool}
    {operands : List Tree} {input : Option Value} (nonempty : operands ≠ []) :
    account settings (.junction connective lazily operands) flipped input =
      ((visit (fun answer => lazily && connective.settledBy answer)
        (accountEach settings operands flipped input)).map roundOf).map fun round =>
          .within settings flipped (draft input (.junction connective lazily operands))
            { outcome := .ofAnswer (connective.conclude round.1) } round.2 := by
  have occupied : ¬ operands.isEmpty = true := by simpa using nonempty
  rw [account, if_neg occupied]
  cases visit _ (accountEach settings operands flipped input) <;> rfl

/-- Without an input, a tree and its outline have one account, or are refused for one fault. -/
theorem account_outline (settings : Settings) (tree : Tree) (flipped : Bool) :
    tree.outline.account settings flipped none = tree.account settings flipped none := by
  induction tree generalizing flipped with
  | leaf check => rfl
  | junction connective lazily operands ih =>
      rw [outline, outlineAll_eq_map]
      cases operands with
      | nil => rfl
      | cons operand rest =>
          rw [account_junction_eq (by simp), account_junction_eq (by simp)]
          have alike : (accountEach settings ((operand :: rest).map outline) flipped none).map
                (fun inquiry => (inquiry.form, inquiry.result)) =
              (accountEach settings (operand :: rest) flipped none).map
                fun inquiry => (inquiry.form, inquiry.result) := by
            simp only [accountEach_eq_map, List.map_map]
            apply List.map_congr_left
            intro part member
            simp [ih part member flipped]
          rw [visit_congr alike]
          rfl
  | negation target ih =>
      rw [outline, account, account, ih, form_outline]
      rfl
  | function head =>
      cases head <;> rfl
  | chain head tail ih =>
      have stopped : ∀ mapping : Mapping, ∀ draft : Draft,
          (mapping.account settings flipped draft none).outcome.value? = none := fun _ _ => rfl
      have sameHead : head.outline.account settings flipped (draft none (.chain head tail)) none =
        head.account settings flipped (draft none (.chain head tail)) none := rfl
      rw [outline, account, account, ← outline, draft_outline, sameHead, stopped, ih]
  | transform mapper checker mapperIH checkerIH =>
      rw [outline, account, account, isIdentity_outline, mapperIH, checkerIH, ← outline,
        draft_outline]
      cases mapped : account settings mapper flipped none with
      | error fault => rfl
      | ok mapping =>
          -- The mapper was passed over, so the checker has no input either.
          have skipped := ((evaluates_of_account mapped).passedOver rfl).1
          have stopped : ∀ draft : Draft,
              (mappingStage settings flipped draft mapping).outcome.value? = none :=
            fun _ => Outcome.value?_of_skipped skipped
          simp only [bind, Except.bind, stopped, checkerIH]
  | quantifier predicate cutOn default ih =>
      rw [outline, account, account]
      simp only [ih]
      rfl
  | curried enclosed slot ih =>
      rw [outline, account, account]
      simp only [ih]
      rfl

end Tree

/-!
### Rows

A row that was passed over is blank but for what would have been expected of it.
-/

/-- The row shows no input, no output and no detail. -/
structure Row.IsBlank (row : Row) : Prop where
  expectedInput : row.expected.input = .skipped
  actualInput : row.actual.input = .skipped
  actualOutput : row.actual.output = .skipped
  expectedDetail : row.expected.detail = none
  actualDetail : row.actual.detail = none
  unexplained : row.requiresExplanation = false

theorem Row.PassedOver.isBlank {settings : Settings} {row : Row} {inner : Forest}
    (passed : row.PassedOver settings inner) (level : Nat) : (row.atLevel level).IsBlank := by
  obtain ⟨draft, flipped, ⟨result, origin⟩, absent, skipped, rfl⟩ := passed
  subst skipped
  constructor <;> simp [Row.atLevel, Draft.row, PendingRow.close, Recorder.pendingRow, absent,
    Cell.ofInput, Cell.ofResult]

/-- Of a row that is no question nothing is expected. -/
theorem Row.PassedOver.expected {settings : Settings} {row : Row} {inner : Forest}
    (passed : row.PassedOver settings inner) (noQuestion : row.kind.isBoolean = false) :
    row.expected.output = .skipped := by
  obtain ⟨draft, flipped, ⟨result, origin⟩, absent, skipped, rfl⟩ := passed
  subst skipped
  exact Draft.expected_row_of_valued noQuestion

namespace Tree

/-- A tree in which no junction lacks operands can be evaluated without an input, and is then passed
over in every recorder: it comes to nothing, and every row that it appends is blank.  A row of a
Boolean kind still expects the answer that is wanted where it stands, and of any other nothing is
expected.  No check and no mapping is asked, so every tree of the same outline does the same. -/
theorem eval_without_input {tree : Tree} (whole : tree.HasOperands) (recorder : Recorder) :
    ∃ outcome after rows, tree.eval none recorder = .ok outcome after ∧
      outcome.result = .skipped ∧ recorder.Appends after rows ∧
      (∀ before row later, rows = before ++ row :: later → row.IsBlank ∧
        row.expected.output =
          if row.kind.isBoolean then .value (.bool (recorder.flipped !=
            decide (Even ((Trace.enclosing before.reverse row.level).countP Row.flips))))
          else .skipped) ∧
      ∀ other : Tree, other.outline = tree.outline →
        other.eval none recorder = .ok outcome after := by
  obtain ⟨account, given, -⟩ := ok_of_map (account_none whole recorder.settings recorder.flipped)
  have evaluates := evaluates_of_account given
  obtain ⟨skipped, passed⟩ := evaluates.passedOver rfl
  refine ⟨account.outcome, _, _, eval_of_account_ok given, skipped, recorder.appends_extend _, ?_,
    ?_⟩
  · intro before row later split
    obtain ⟨above, below, rest, place, found, -, -⟩ := Forest.place_of_rows split []
    have enclosing : Trace.enclosing before.reverse row.level = above := by
      cases level : recorder.level <;> simpa [Trace.enclosing, level] using found
    obtain ⟨carried, shownAt, rfl, here⟩ := passed.at_place place
    refine ⟨here.isBlank shownAt, ?_⟩
    rw [enclosing]
    cases boolean : (carried.atLevel shownAt).kind.isBoolean with
    | true =>
        rw [if_pos rfl]
        exact evaluates.polar.expected place boolean
    | false =>
        rw [if_neg Bool.false_ne_true]
        exact here.expected boolean
  · intro other sameOutline
    have alike : other.account recorder.settings recorder.flipped none = .ok account := by
      rw [← account_outline, sameOutline, account_outline, given]
    exact eval_of_account_ok alike

/-- Below an open row and under the other polarity, a tree is passed over that could not even be
evaluated on a text, and so is one whose first mapping always fails. -/
theorem eval_without_input_of_length :
    let tree := negation (transform (.function .length) (noneMatch (.function .trim)))
    let failing := Mapping.named "length" (fun _ => .error { kind := "Any", message := "" }) false
    let other := negation (transform (.function failing) (noneMatch (.function .trim)))
    let recorder := Recorder.push (Recorder.flip { settings := {} })
      { kind := .negation, form := "not", input := none }
    ∃ outcome after rows, tree.eval none recorder = .ok outcome after ∧
      after.entries.size = 7 ∧ recorder.Appends after rows ∧
      (∀ before row later, rows = before ++ row :: later → row.IsBlank ∧
        row.expected.output =
          if row.kind.isBoolean then .value (.bool (recorder.flipped !=
            decide (Even ((Trace.enclosing before.reverse row.level).countP Row.flips))))
          else .skipped) ∧
      other.eval none recorder = .ok outcome after := by
  intro tree failing other recorder
  have whole : tree.HasOperands := validate_eq_ok_iff.mp rfl
  have sameOutline : other.outline = tree.outline := rfl
  obtain ⟨given, left, ended, size⟩ : ∃ given left, tree.eval none recorder = .ok given left ∧
    left.entries.size = 7 := by
      subst tree recorder
      exact ⟨_, _, rfl, rfl⟩
  clear_value tree other recorder
  obtain ⟨outcome, after, rows, run, -, appended, blank, alike⟩ :=
    eval_without_input whole recorder
  rw [run] at ended
  cases ended
  exact ⟨given, left, rows, run, size, appended, blank, alike other sameOutline⟩

end Tree

end Rationale
