/-
Module: Rationale.Proofs.Shape
Purpose: The parts of a tree, and the two conditions on its shape under which no fault can arise.
Main exports: Tree.parts, Tree.asked, Tree.Contains, Tree.Everywhere, Tree.HasOperands,
  Tree.answers, Tree.WellTyped, Tree.preorder, Tree.validate_eq_refusal, Tree.validate_eq_ok_iff
-/
import Rationale.Tree.Basic

namespace Rationale

namespace Tree

/-- Induction on a tree, with the claim at hand for every operand of a junction. -/
@[elab_as_elim, induction_eliminator]
theorem inductionOnParts {motive : Tree → Prop}
    (leaf : ∀ check, motive (.leaf check))
    (junction : ∀ connective lazily operands,
      (∀ operand ∈ operands, motive operand) → motive (.junction connective lazily operands))
    (negation : ∀ target, motive target → motive (.negation target))
    (function : ∀ head, motive (.function head))
    (chain : ∀ head tail, motive tail → motive (.chain head tail))
    (transform : ∀ mapper checker, motive mapper → motive checker →
      motive (.transform mapper checker))
    (quantifier : ∀ predicate cutOn default, motive predicate →
      motive (.quantifier predicate cutOn default))
    (curried : ∀ enclosed slot, motive enclosed → motive (.curried enclosed slot))
    (tree : Tree) : motive tree := by
  refine @Tree.rec motive (fun operands => ∀ operand ∈ operands, motive operand)
    leaf junction negation function chain transform quantifier curried ?_ ?_ tree
  · intro operand member
    simp at member
  · intro first rest firstHolds restHolds operand member
    rcases List.mem_cons.mp member with rfl | later
    · exact firstHolds
    · exact restHolds operand later

/-- The trees directly below the topmost part. -/
def parts : Tree → List Tree
  | .leaf _ => []
  | .junction _ _ operands => operands
  | .negation target => [target]
  | .function _ => []
  | .chain _ tail => [tail]
  | .transform mapper checker => [mapper, checker]
  | .quantifier predicate _ _ => [predicate]
  | .curried enclosed _ => [enclosed]

/-- The trees directly below the topmost part which it asks for an answer. -/
def asked : Tree → List Tree
  | .junction _ _ operands => operands
  | .negation target => [target]
  | .quantifier predicate _ _ => [predicate]
  | _ => []

/-- A tree contains itself and whatever its parts contain. -/
inductive Contains : Tree → Tree → Prop where
  | self {tree : Tree} : Contains tree tree
  | within {tree part other : Tree} :
      part ∈ tree.parts → Contains part other → Contains tree other

/-- A condition holds of every tree that a tree contains. -/
def Everywhere (condition : Tree → Prop) (tree : Tree) : Prop :=
  ∀ other, tree.Contains other → condition other

theorem everywhere_iff {condition : Tree → Prop} {tree : Tree} :
    tree.Everywhere condition ↔
      condition tree ∧ ∀ part ∈ tree.parts, part.Everywhere condition := by
  constructor
  · intro holds
    exact ⟨holds tree .self, fun part member other contained =>
      holds other (.within member contained)⟩
  · rintro ⟨top, below⟩ other contained
    cases contained with
    | self => exact top
    | within member contained => exact below _ member other contained

/-- No junction in the tree lacks operands, wherever it stands. -/
def HasOperands (tree : Tree) : Prop :=
  tree.Everywhere fun part => ∀ connective lazily, part ≠ .junction connective lazily []

theorem hasOperands_iff {tree : Tree} :
    tree.HasOperands ↔
      (∀ connective lazily, tree ≠ .junction connective lazily []) ∧
        ∀ part ∈ tree.parts, part.HasOperands :=
  everywhere_iff

theorem HasOperands.part {tree part : Tree} (whole : tree.HasOperands)
    (member : part ∈ tree.parts) : part.HasOperands :=
  (hasOperands_iff.mp whole).2 part member

theorem HasOperands.ne_nil {connective : Connective} {lazily : Bool} {operands : List Tree}
    (whole : HasOperands (.junction connective lazily operands)) : operands ≠ [] := by
  rintro rfl
  exact whole _ .self connective lazily rfl

/-- Whether the tree can return nothing but an answer. -/
def answers : Tree → Bool
  | .leaf _ => true
  | .junction _ _ _ => true
  | .negation _ => true
  | .function _ => false
  | .chain _ tail => tail.answers
  | .transform _ checker => checker.answers
  | .quantifier _ _ _ => true
  | .curried enclosed _ => enclosed.answers

/-- Every part that is asked for an answer, wherever it stands, can return nothing else. -/
def WellAsked (tree : Tree) : Prop :=
  tree.Everywhere fun part => ∀ question ∈ part.asked, question.answers

/-- A tree that returns an answer and in which every part that is asked for one returns one. -/
def WellTyped (tree : Tree) : Prop :=
  tree.answers ∧ tree.WellAsked

theorem wellAsked_iff {tree : Tree} :
    tree.WellAsked ↔
      (∀ question ∈ tree.asked, question.answers = true) ∧ ∀ part ∈ tree.parts, part.WellAsked :=
  everywhere_iff

theorem WellAsked.part {tree part : Tree} (whole : tree.WellAsked) (member : part ∈ tree.parts) :
    part.WellAsked :=
  (everywhere_iff.mp whole).2 part member

theorem wellAsked_leaf (check : Check) : WellAsked (.leaf check) :=
  wellAsked_iff.mpr (by simp [asked, parts])

theorem wellAsked_function (head : Mapping) : WellAsked (.function head) :=
  wellAsked_iff.mpr (by simp [asked, parts])

theorem WellAsked.answers {tree part : Tree} (whole : tree.WellAsked) (member : part ∈ tree.asked) :
    part.answers :=
  whole tree .self part member

/-- Induction on a tree, with the claim at hand for everything directly below the topmost part. -/
theorem induction_parts {motive : Tree → Prop}
    (step : ∀ tree, (∀ part ∈ tree.parts, motive part) → motive tree) (tree : Tree) :
    motive tree := by
  induction tree with
  | leaf check => exact step _ (by simp [parts])
  | junction connective lazily operands ih => exact step _ ih
  | negation target ih => exact step _ (by simpa [parts] using ih)
  | function head => exact step _ (by simp [parts])
  | chain head tail ih => exact step _ (by simpa [parts] using ih)
  | transform mapper checker mapperIH checkerIH =>
      exact step _ (by simpa [parts] using ⟨mapperIH, checkerIH⟩)
  | quantifier predicate cutOn default ih => exact step _ (by simpa [parts] using ih)
  | curried enclosed slot ih => exact step _ (by simpa [parts] using ih)

/-!
### The first junction without operands

The parts of a tree are listed from the top and from the left.  Validation refuses a tree for the
first junction without operands in this order.
-/

mutual

/-- The tree and everything that it contains, each part before those below it.  A mapper comes
before the checker that takes over from it. -/
def preorder : Tree → List Tree
  | .leaf check => [.leaf check]
  | .junction connective lazily operands =>
    .junction connective lazily operands :: preorderAll operands
  | .negation target => .negation target :: preorder target
  | .function head => [.function head]
  | .chain head tail => .chain head tail :: preorder tail
  | .transform mapper checker =>
    .transform mapper checker :: (preorder mapper ++ preorder checker)
  | .quantifier predicate cutOn default =>
    .quantifier predicate cutOn default :: preorder predicate
  | .curried enclosed slot => .curried enclosed slot :: preorder enclosed

/-- Several trees and everything that they contain. -/
def preorderAll : List Tree → List Tree
  | [] => []
  | tree :: rest => preorder tree ++ preorderAll rest

end

theorem preorderAll_eq_flatMap (trees : List Tree) :
    preorderAll trees = trees.flatMap preorder := by
  induction trees with
  | nil => rfl
  | cons tree rest ih => rw [preorderAll, ih, List.flatMap_cons]

theorem preorder_eq (tree : Tree) : tree.preorder = tree :: tree.parts.flatMap preorder := by
  cases tree <;> simp [preorder, parts, preorderAll_eq_flatMap]

theorem mem_preorder_iff {tree other : Tree} :
    other ∈ tree.preorder ↔ tree.Contains other := by
  constructor
  · intro member
    induction tree using induction_parts with
    | step tree ih =>
        rw [preorder_eq, List.mem_cons, List.mem_flatMap] at member
        rcases member with rfl | ⟨part, isPart, below⟩
        · exact .self
        · exact .within isPart (ih part isPart below)
  · intro contained
    induction contained with
    | self =>
        rw [preorder_eq]
        exact List.mem_cons_self
    | within isPart _ ih =>
        rw [preorder_eq]
        exact List.mem_cons_of_mem _ (List.mem_flatMap.mpr ⟨_, isPart, ih⟩)

/-- Whether the topmost part is a junction without operands. -/
def lacksOperands : Tree → Bool
  | .junction _ _ [] => true
  | _ => false

theorem lacksOperands_iff {tree : Tree} :
    tree.lacksOperands = true ↔ ∃ connective lazily, tree = .junction connective lazily [] := by
  constructor
  · intro lacks
    cases tree with
    | junction connective lazily operands =>
        cases operands with
        | nil => exact ⟨connective, lazily, rfl⟩
        | cons operand rest => cases lacks
    | _ => cases lacks
  · rintro ⟨connective, lazily, rfl⟩
    rfl

/-- What is said of a tree for the first junction without operands in it. -/
def refusal : Option Tree → Except Fault Unit
  | none => .ok ()
  | some first => .error (.emptyJunction first.form)

theorem validate_eq_parts (tree : Tree) :
    tree.validate = if tree.lacksOperands then refusal (some tree) else validateAll tree.parts := by
  have alone : ∀ part : Tree, validateAll [part] = part.validate := by
    intro part
    simp only [validateAll]
    cases part.validate <;> rfl
  cases tree with
  | junction connective lazily operands => cases operands <;> rfl
  | transform mapper checker =>
      simp only [validate, parts, validateAll]
      cases mapper.validate with
      | error fault => rfl
      | ok result => cases checker.validate <;> rfl
  | _ => simp [validate, parts, lacksOperands, alone, validateAll]

theorem validateAll_eq_refusal {trees : List Tree}
    (each : ∀ tree ∈ trees, tree.validate = refusal (tree.preorder.find? lacksOperands)) :
    validateAll trees = refusal ((trees.flatMap preorder).find? lacksOperands) := by
  induction trees with
  | nil => rfl
  | cons tree rest ih =>
      have later := ih fun other member => each other (List.mem_cons_of_mem tree member)
      rw [validateAll, each tree List.mem_cons_self, later, List.flatMap_cons, List.find?_append]
      cases tree.preorder.find? lacksOperands <;> rfl

theorem validate_eq_refusal (tree : Tree) :
    tree.validate = refusal (tree.preorder.find? lacksOperands) := by
  induction tree using induction_parts with
  | step tree ih =>
      rw [validate_eq_parts, preorder_eq, List.find?_cons]
      cases tree.lacksOperands with
      | true => rfl
      | false => exact validateAll_eq_refusal ih

/-- A tree in which no junction lacks operands has no first one that does. -/
theorem hasOperands_iff_find? {tree : Tree} :
    tree.HasOperands ↔ tree.preorder.find? lacksOperands = none := by
  rw [List.find?_eq_none]
  constructor
  · intro whole part member lacks
    obtain ⟨connective, lazily, rfl⟩ := lacksOperands_iff.mp lacks
    exact whole _ (mem_preorder_iff.mp member) connective lazily rfl
  · rintro complete part contained connective lazily rfl
    exact complete _ (mem_preorder_iff.mpr contained) rfl

/-- Validation accepts a tree if and only if no junction in it lacks operands. -/
theorem validate_eq_ok_iff {tree : Tree} : tree.validate = .ok () ↔ tree.HasOperands := by
  rw [validate_eq_refusal, hasOperands_iff_find?]
  cases tree.preorder.find? lacksOperands with
  | none => simp [refusal]
  | some first => simp [refusal]

/-- The only fault that validation finds is a junction without operands somewhere in the tree. -/
theorem validate_error {tree : Tree} {fault : Fault} (refused : tree.validate = .error fault) :
    ∃ connective lazily, tree.Contains (.junction connective lazily []) ∧
      fault = .emptyJunction (connective.form lazily) := by
  rw [validate_eq_refusal] at refused
  cases found : tree.preorder.find? lacksOperands with
  | none =>
      rw [found] at refused
      cases refused
  | some first =>
      rw [found] at refused
      cases refused
      obtain ⟨connective, lazily, rfl⟩ := lacksOperands_iff.mp (List.find?_some found)
      exact ⟨connective, lazily, mem_preorder_iff.mp (List.mem_of_find?_eq_some found), rfl⟩

end Tree

end Rationale
