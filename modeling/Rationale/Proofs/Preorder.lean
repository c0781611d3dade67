/-
Module: Rationale.Proofs.Preorder
Purpose: Every trace lists its rows before those that they enclose, and each row of a Boolean kind
  expects the answer that the negations and negating quantifiers around it leave.
Main exports: Row.flips, Forest.Polar, Tree.Evaluates.polar, Tree.evaluate_preorder
-/
import Mathlib.Algebra.Group.Nat.Even
import Rationale.Check.Stock
import Rationale.Proofs.Derivation

namespace Rationale

theorem Kind.isBoolean_iff {kind : Kind} :
    kind.isBoolean = true ↔ kind ≠ .function ∧ kind ≠ .transform := by
  cases kind <;> simp [isBoolean]

/-- Whether the rows inside the row want the opposite of what is wanted around it. -/
def Row.flips (row : Row) : Bool :=
  row.kind == .negation ||
    row.kind == .quantifier && (row.form == "noneMatch" || row.form == "notAllMatch")

namespace Forest

/-!
### Polarity

Under a polarity every row of a Boolean kind wants the answer of the polarity, and the rows inside a
row stand under the polarity that the row leaves them.
-/

/-- Every row of a Boolean kind expects the answer wanted where it stands. -/
def Polar : (flipped : Bool) → Forest → Prop
  | _, .nil => True
  | flipped, .cons row inner rest =>
    (row.kind.isBoolean → row.expected.output = .value (.bool !flipped)) ∧
      Polar (flipped != row.flips) inner ∧ Polar flipped rest

theorem polar_append {flipped : Bool} {first second : Forest} (firstPolar : first.Polar flipped)
    (secondPolar : second.Polar flipped) : (first ++ second).Polar flipped := by
  induction first with
  | nil => exact secondPolar
  | cons row inner rest _ ih =>
      obtain ⟨wanted, inside, beside⟩ := firstPolar
      exact ⟨wanted, inside, ih beside⟩

theorem polar_forestOf {α : Type} {flipped : Bool} {visits : List (Visit α)}
    (each : ∀ visit ∈ visits, visit.account.forest.Polar flipped) :
    (forestOf visits).Polar flipped := by
  induction visits with
  | nil => trivial
  | cons visit rest ih =>
      refine polar_append (each visit (by simp)) (ih ?_)
      intro other member
      exact each other (by simp [member])

/-- At a place, the answer that is expected goes by the number of rows around it that flip. -/
theorem Polar.expected {level : Nat} {flipped : Bool} {forest below : Forest} {above : List Row}
    {row : Row} (polar : forest.Polar flipped) (place : Place level forest above row below)
    (boolean : row.kind.isBoolean) :
    row.expected.output = .value (.bool (flipped != decide (Even (above.countP Row.flips)))) := by
  induction place generalizing flipped with
  | here =>
      obtain ⟨wanted, -, -⟩ := polar
      rw [List.countP_nil, decide_eq_true Even.zero, Bool.bne_true]
      exact wanted boolean
  | @inside level outer row inner rest below above _ ih =>
      obtain ⟨-, inside, -⟩ := polar
      have outward : (outer.atLevel level).flips = outer.flips := rfl
      rw [ih inside boolean, List.countP_append, List.countP_singleton, outward]
      cases outer.flips with
      | false => simp
      | true =>
          have odd : decide (Even (above.countP Row.flips + 1)) =
              !decide (Even (above.countP Row.flips)) := by
            simp only [Nat.even_add_one, decide_not]
          rw [if_pos rfl, odd, Bool.bne_true, Bool.not_bne, Bool.bne_not]
  | beside _ ih =>
      obtain ⟨-, -, beside⟩ := polar
      exact ih beside boolean

end Forest

/-- A row under a polarity, around rows under the polarity that it leaves them. -/
theorem Account.polar_within {settings : Settings} {flipped inside : Bool} {draft : Draft}
    {attempt : Attempt} {inner : Forest}
    (left : (flipped != (draft.row settings flipped attempt).flips) = inside)
    (innerPolar : inner.Polar inside) :
    (Account.within settings flipped draft attempt inner).forest.Polar flipped := by
  refine ⟨?_, left ▸ innerPolar, trivial⟩
  exact fun boolean => Draft.expected_row_of_boolean boolean

namespace Tree

theorem Evaluates.polar {settings : Settings} {tree : Tree} {flipped : Bool}
    {input : Option Value} {account : Account}
    (evaluates : Evaluates settings tree flipped input account) :
    account.forest.Polar flipped := by
  induction evaluates with
  | leaf => exact Account.polar_within rfl trivial
  | @junction connective lazily flipped operands input visits _ _ _ _ ih =>
      refine Account.polar_within ?_ (Forest.polar_forestOf ih)
      cases connective <;> exact Bool.bne_false flipped
  | negation _ _ ih => exact Account.polar_within (Bool.bne_true _) ih
  | function => exact Account.polar_within rfl trivial
  | chain headed _ ih =>
      refine Forest.polar_append ?_ ih
      rw [headed]
      exact Account.polar_within rfl trivial
  | identity _ _ ih => exact ih
  | transform _ _ staged _ mapped checked =>
      refine Forest.polar_append ?_ (Account.polar_within (Bool.bne_false _) checked)
      rw [staged]
      exact Account.polar_within (Bool.bne_false _) mapped
  | @quantifierSkipped predicate cutOn default flipped passed _ ih =>
      refine Account.polar_within ?_ ih
      cases cutOn <;> cases default <;> rfl
  | quantifierRefused _ => exact Account.polar_within rfl trivial
  | @quantifier predicate cutOn default flipped value items visits _ _ _ _ _ ih =>
      refine Account.polar_within ?_ (Forest.polar_forestOf ih)
      cases cutOn <;> cases default <;> rfl
  | curriedSkipped _ ih => exact Account.polar_within (Bool.bne_false _) ih
  | curriedRefused _ => exact Account.polar_within rfl trivial
  | curried _ _ ih => exact Account.polar_within (Bool.bne_false _) ih

/-!
### Traces

The trace of an evaluation lists the rows of a forest at the outermost level, with `true` wanted.
-/

/-- A trace starts at the outermost level and never skips a level inward, so looking back from a row
finds one row for every level further out; and a row of a Boolean kind expects `true` if and only if
an even number of these are negations or negating quantifiers. -/
theorem evaluate_preorder {settings : Settings} {tree : Tree} {input : Value}
    {evaluation : Evaluation} (evaluated : tree.evaluate settings input = .ok evaluation) :
    (∃ first rest, evaluation.trace = first :: rest ∧ first.level = 0) ∧
      evaluation.trace.IsChain (fun row next => next.level ≤ row.level + 1) ∧
      ∀ before row after, evaluation.trace = before ++ row :: after →
        (Trace.enclosing before.reverse row.level).length = row.level ∧
          (row.kind ≠ .function → row.kind ≠ .transform →
            row.expected.output = .value (.bool
              (decide (Even ((Trace.enclosing before.reverse row.level).countP Row.flips))))) := by
  obtain ⟨account, evaluates, rfl⟩ := evaluate_ok evaluated
  refine ⟨?_, account.forest.rows_isChain 0, ?_⟩
  · cases rows : account.forest.rows 0 with
    | nil => exact absurd rows (Forest.rows_ne_nil evaluates.forest_ne_nil)
    | cons first rest =>
        have isFirst : first ∈ (account.forest.rows 0).head? := by
          rw [rows]
          rfl
        exact ⟨first, rest, rows, Forest.level_head_rows isFirst⟩
  · intro before row after split
    obtain ⟨above, below, rest, place, found, -, -⟩ := Forest.place_of_rows split []
    have enclosing : Trace.enclosing before.reverse row.level = above := by
      simpa [Trace.enclosing] using found
    rw [enclosing]
    refine ⟨?_, fun notFunction notTransform => ?_⟩
    · rw [place.level_eq, Nat.zero_add]
    · have boolean : row.kind.isBoolean = true :=
        Kind.isBoolean_iff.mpr ⟨notFunction, notTransform⟩
      rw [evaluates.polar.expected place boolean, Bool.false_bne]

theorem evaluate_preorder_of_noneMatch :
    ∃ evaluation, evaluate {} (noneMatch (.negation (.leaf .isTrue))) (.list [.bool true]) =
        .ok evaluation ∧
      evaluation.trace.length = 3 ∧
      ∀ before row after, evaluation.trace = before ++ row :: after →
        (Trace.enclosing before.reverse row.level).length = row.level ∧
          (row.kind ≠ .function → row.kind ≠ .transform →
            row.expected.output = .value (.bool
              (decide (Even ((Trace.enclosing before.reverse row.level).countP Row.flips))))) := by
  have evaluated : evaluate {} (noneMatch (.negation (.leaf .isTrue))) (.list [.bool true]) =
    .ok _ := rfl
  exact ⟨_, evaluated, rfl, (evaluate_preorder evaluated).2.2⟩

end Tree

end Rationale
