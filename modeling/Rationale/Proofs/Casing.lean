/-
Module: Rationale.Proofs.Casing
Purpose: Lowering a text twice is lowering it once, and which texts are lowered alike before and
  after they are raised.
Main exports: Text.lower_lower, Text.Recovers, Text.lower_upper_iff, Check.equalsIgnoreCase_accepts
-/
import Mathlib.Data.List.Forall2
import Rationale.Check.Stock
import Rationale.Mapping.Stock
import Rationale.Proofs.CaseTables

namespace Rationale

namespace Text

/-!
### Lowered texts

Only a capital sigma is lowered by its neighbours, and a lowered text has none, so that nothing in
it is lowered any further.
-/

/-- The small form of a sigma between the characters before it, the nearest first, and those after
it. -/
def smallSigma (before after : List Char) : Char :=
  if nextIsCased before && !nextIsCased after then 'ς' else 'σ'

variable {before after rest : List Char} {c : Char}

theorem lowerFrom_capital (before rest : List Char) :
    lowerFrom before ('Σ' :: rest) = smallSigma before rest :: lowerFrom ('Σ' :: before) rest :=
  rfl

theorem lowerFrom_of_ne (noCapital : c ≠ 'Σ') :
    lowerFrom before (c :: rest) = lowerChar c ++ lowerFrom (c :: before) rest := by
  rw [lowerFrom, if_neg noCapital]

theorem lowerChar_small (small : c = 'σ' ∨ c = 'ς') : lowerChar c = [c] := by
  rcases small with rfl | rfl <;> decide +kernel

theorem smallSigma_eq (before after : List Char) :
    smallSigma before after = 'σ' ∨ smallSigma before after = 'ς' := by
  rw [smallSigma]
  split
  · exact Or.inr rfl
  · exact Or.inl rfl

theorem lowerChar_of_mem_lowerFrom {chars : List Char} (member : c ∈ lowerFrom before chars) :
    lowerChar c = [c] := by
  induction chars generalizing before with
  | nil => cases member
  | cons first rest ih =>
      by_cases capital : first = 'Σ'
      · subst capital
        rcases List.mem_cons.mp member with rfl | later
        · exact lowerChar_small (smallSigma_eq before rest)
        · exact ih later
      · rw [lowerFrom_of_ne capital] at member
        rcases List.mem_append.mp member with here | later
        · exact lowerChar_of_mem_lowerChar here
        · exact ih later

theorem lowerFrom_of_lowered {chars : List Char} (lowered : ∀ c ∈ chars, lowerChar c = [c]) :
    lowerFrom before chars = chars := by
  induction chars generalizing before with
  | nil => rfl
  | cons first rest ih =>
      obtain ⟨here, later⟩ := List.forall_mem_cons.mp lowered
      have noCapital : first ≠ 'Σ' := by
        rintro rfl
        rw [lowerChar_capital] at here
        exact absurd here (by decide)
      rw [lowerFrom_of_ne noCapital, here, ih later]
      rfl

theorem lower_lower (text : String) : lower (lower text) = lower text := by
  rw [lower, lower, String.toList_ofList]
  exact congrArg String.ofList (lowerFrom_of_lowered fun _ => lowerChar_of_mem_lowerFrom)

/-!
### Raised texts

Where no letter is a one-way letter, every character is raised to one that counts alike at the end
of a word.  So a capital sigma is lowered to the same form in the raised text, and what is left to
ask is whether the small ones had that form before.
-/

theorem nextIsCased_cons (c : Char) (rest : List Char) :
    nextIsCased (c :: rest) =
      if caseIgnorableRanges.has c then nextIsCased rest else casedRanges.has c := by
  rw [nextIsCased, List.dropWhile_cons]
  cases caseIgnorableRanges.has c with
  | true => rfl
  | false => rfl

theorem nextIsCased_eq {chars others : List Char} (alike : List.Forall₂ SameClass chars others) :
    nextIsCased chars = nextIsCased others := by
  induction alike with
  | nil => rfl
  | cons same _ ih => rw [nextIsCased_cons, nextIsCased_cons, same.ignorable, same.cased, ih]

theorem smallSigma_eq_of_alike {others followers : List Char}
    (past : List.Forall₂ SameClass before others)
    (ahead : List.Forall₂ SameClass after followers) :
    smallSigma others followers = smallSigma before after := by
  rw [smallSigma, smallSigma, nextIsCased_eq past, nextIsCased_eq ahead]

theorem sameClass_of_isSigma (sigma : IsSigma c) : SameClass c 'Σ' := by
  rcases sigma with rfl | rfl | rfl <;> exact ⟨by decide +kernel, by decide +kernel⟩

theorem sameClass_upperChar (twoWay : oneWay.has c = false) :
    ∃ raised, upperChar c = [raised] ∧ SameClass c raised := by
  have raises := upperChar_raises c
  generalize upperChar c = upper at raises
  cases raises with
  | away stray => exact absurd (stray.symm.trans twoWay) (by decide)
  | sigma sigma => exact ⟨_, rfl, sameClass_of_isSigma sigma⟩
  | back _ _ _ same => exact ⟨_, rfl, same⟩

theorem sameClass_raised {chars : List Char} (twoWay : ∀ c ∈ chars, oneWay.has c = false) :
    List.Forall₂ SameClass chars (chars.flatMap upperChar) := by
  induction chars with
  | nil => exact .nil
  | cons c rest ih =>
      obtain ⟨here, later⟩ := List.forall_mem_cons.mp twoWay
      obtain ⟨raised, upper, same⟩ := sameClass_upperChar here
      rw [List.flatMap_cons, upper]
      exact .cons same (ih later)

/-- Every small sigma among the characters has the form that its place calls for. -/
def SigmasFit (before : List Char) : List Char → Prop
  | [] => True
  | c :: rest => (c = 'σ' ∨ c = 'ς' → c = smallSigma before rest) ∧ SigmasFit (c :: before) rest

theorem lowerFrom_isSigma (sigma : IsSigma c) (before rest : List Char) :
    lowerFrom before (c :: rest) =
      (if c = 'Σ' then smallSigma before rest else c) :: lowerFrom (c :: before) rest := by
  rcases sigma with rfl | small
  · rfl
  · have noCapital : c ≠ 'Σ' := by
      rcases small with rfl | rfl <;> decide
    rw [lowerFrom_of_ne noCapital, lowerChar_small small, if_neg noCapital]
    rfl

/-- A text that is lowered alike before and after it is raised has no one-way letters: up to the
first of them both lowered texts are as long, and there they differ. -/
theorem twoWay_of_lowerFrom_eq {before others chars : List Char}
    (alike : lowerFrom others (chars.flatMap upperChar) = lowerFrom before chars) :
    ∀ c ∈ chars, oneWay.has c = false := by
  induction chars generalizing before others with
  | nil => simp
  | cons c rest ih =>
      have raises := upperChar_raises c
      rw [List.flatMap_cons] at alike
      generalize upperChar c = upper at raises alike
      rw [List.forall_mem_cons]
      cases raises with
      | away stray noSigma opens alone differ =>
          have noCapital : c ≠ 'Σ' := by
            rintro rfl
            exact absurd stray (by decide)
          rw [List.cons_append, lowerFrom_of_ne noSigma, lowerFrom_of_ne noCapital, opens, alone]
            at alike
          exact absurd (List.cons.inj alike).1 differ
      | sigma sigma =>
          rw [List.singleton_append, lowerFrom_capital, lowerFrom_isSigma sigma] at alike
          refine ⟨?_, ih (List.cons.inj alike).2⟩
          rcases sigma with rfl | rfl | rfl <;> decide
      | back twoWay noSigma noCapital _ again =>
          rw [List.singleton_append, lowerFrom_of_ne noCapital,
            lowerFrom_of_ne fun capital => noSigma (Or.inl capital), again] at alike
          exact ⟨twoWay, ih (List.append_cancel_left alike)⟩

/-- Without one-way letters a text is lowered alike before and after it is raised if and only if its
small sigmas have the forms that they get from their neighbours. -/
theorem lowerFrom_raised_iff {before others chars : List Char}
    (twoWay : ∀ c ∈ chars, oneWay.has c = false)
    (past : List.Forall₂ SameClass before others) :
    lowerFrom others (chars.flatMap upperChar) = lowerFrom before chars ↔
      SigmasFit before chars := by
  induction chars generalizing before others with
  | nil => exact iff_of_true rfl trivial
  | cons c rest ih =>
      obtain ⟨here, later⟩ := List.forall_mem_cons.mp twoWay
      have ahead := sameClass_raised later
      have raises := upperChar_raises c
      rw [List.flatMap_cons, SigmasFit]
      generalize upperChar c = upper at raises
      cases raises with
      | away stray => exact absurd (stray.symm.trans here) (by decide)
      | sigma sigma =>
          rw [List.singleton_append, lowerFrom_capital, lowerFrom_isSigma sigma, List.cons.injEq,
            smallSigma_eq_of_alike past ahead, ih later (.cons (sameClass_of_isSigma sigma) past)]
          refine and_congr_left fun _ => ?_
          rcases sigma with rfl | rfl | rfl
          · simp
          · simp [eq_comm]
          · simp [eq_comm]
      | back _ noSigma noCapital same again =>
          rw [List.singleton_append, lowerFrom_of_ne noCapital,
            lowerFrom_of_ne fun capital => noSigma (Or.inl capital), again,
            List.append_cancel_left_eq, ih later (.cons same past)]
          exact (and_iff_right fun small => absurd (Or.inr small) noSigma).symm

theorem sigmasFit_iff {before chars : List Char} :
    SigmasFit before chars ↔
      ∀ front c after, chars = front ++ c :: after → c = 'σ' ∨ c = 'ς' →
        c = smallSigma (front.reverse ++ before) after := by
  induction chars generalizing before with
  | nil => simp [SigmasFit]
  | cons first rest ih =>
      rw [SigmasFit, ih]
      constructor
      · rintro ⟨fits, later⟩ front c after split small
        cases front with
        | nil =>
            obtain ⟨rfl, rfl⟩ := List.cons.inj split
            exact fits small
        | cons _ front =>
            obtain ⟨rfl, rfl⟩ := List.cons.inj split
            rw [List.reverse_cons, List.append_assoc]
            exact later front c after rfl small
      · refine fun fits => ⟨fits [] first rest rfl, fun front c after split small => ?_⟩
        have placed := fits (first :: front) c after (congrArg (first :: ·) split) small
        rwa [List.reverse_cons, List.append_assoc] at placed

/-- The text is lowered alike before and after it is raised: it has no one-way letter, and each
small sigma in it is the final one if a word ends with it, and else the other. -/
structure Recovers (text : String) : Prop where
  twoWay : ∀ c ∈ text.toList, oneWay.has c = false
  sigmas : ∀ before c after, text.toList = before ++ c :: after → c = 'σ' ∨ c = 'ς' →
    (c = 'ς' ↔ nextIsCased before.reverse = true ∧ nextIsCased after = false)

theorem eq_smallSigma_iff (small : c = 'σ' ∨ c = 'ς') :
    c = smallSigma before after ↔
      (c = 'ς' ↔ nextIsCased before = true ∧ nextIsCased after = false) := by
  rw [smallSigma]
  cases nextIsCased before <;> cases nextIsCased after <;>
    rcases small with rfl | rfl <;> simp

theorem lower_upper_iff (text : String) : lower (upper text) = lower text ↔ Recovers text := by
  rw [lower, lower, upper, String.toList_ofList, String.ofList_inj]
  constructor
  · intro alike
    have twoWay := twoWay_of_lowerFrom_eq alike
    have fit := sigmasFit_iff.mp ((lowerFrom_raised_iff twoWay .nil).mp alike)
    refine ⟨twoWay, fun before c after split small => (eq_smallSigma_iff small).mp ?_⟩
    have placed := fit before c after split small
    rwa [List.append_nil] at placed
  · intro recovers
    refine (lowerFrom_raised_iff recovers.twoWay .nil).mpr (sigmasFit_iff.mpr ?_)
    intro before c after split small
    rw [List.append_nil]
    exact (eq_smallSigma_iff small).mpr (recovers.sigmas before c after split small)

instance (text : String) : Decidable (Recovers text) :=
  decidable_of_iff _ (lower_upper_iff text)

end Text

namespace Check

/-!
### The check

Two texts are taken for the same if they are lowered alike, which is less than to ignore case.
-/

theorem test_equalsIgnoreCase (expected text : String) :
    (equalsIgnoreCase expected).test (.text text) =
      .ok (Text.lower text == Text.lower expected) :=
  rfl

/-- The check against a text accepts the text in lower case.  It accepts the text in upper case, and
the check against the upper case accepts the text, if and only if the text has no one-way letter and
its small sigmas have the forms that their places call for. -/
theorem equalsIgnoreCase_accepts (text : String) :
    ∃ lowered raised, Mapping.toLowerCase.apply (.text text) = .ok (.text lowered) ∧
      Mapping.toUpperCase.apply (.text text) = .ok (.text raised) ∧
      (equalsIgnoreCase text).test (.text lowered) = .ok true ∧
      (equalsIgnoreCase text).test (.text raised) = .ok (decide (Text.Recovers text)) ∧
      (equalsIgnoreCase raised).test (.text text) = .ok (decide (Text.Recovers text)) := by
  have recovers := Text.lower_upper_iff text
  refine ⟨Text.lower text, Text.upper text, rfl, rfl, ?_, ?_, ?_⟩
  · rw [test_equalsIgnoreCase, Text.lower_lower, beq_self_eq_true]
  · rw [test_equalsIgnoreCase, beq_eq_decide, decide_eq_decide.mpr recovers]
  · rw [test_equalsIgnoreCase, beq_eq_decide, decide_eq_decide.mpr (eq_comm.trans recovers)]

/-- The sharp s has no upper case of its own, and what it is spelled with is not lowered to it. -/
theorem equalsIgnoreCase_refuses :
    Mapping.toUpperCase.apply (.text "ß") = .ok (.text "SS") ∧
      (equalsIgnoreCase "ß").test (.text "SS") = .ok false ∧
      (equalsIgnoreCase "SS").test (.text "ß") = .ok false := by
  have raised : Text.upper "ß" = "SS" := by
    decide +kernel
  have differ : Text.lower "SS" ≠ Text.lower "ß" := by
    decide +kernel
  refine ⟨congrArg (fun text => Except.ok (Value.text text)) raised, ?_, ?_⟩
  · rw [test_equalsIgnoreCase, beq_eq_false_iff_ne.mpr differ]
  · rw [test_equalsIgnoreCase, beq_eq_false_iff_ne.mpr differ.symm]

end Check

end Rationale
