/-
Module: Rationale.Proofs.Chaining
Purpose: Two ways to apply a mapping before a tree: the chain, whose rows stand side by side, and
  the transformation, which encloses each stage in a row.
Main exports: Recorder.concludes, Mapping.record_yields, Tree.chain_yields, Tree.transform_yields,
  Tree.eval_chain_transform
-/
import Rationale.Proofs.Remains
import Rationale.Proofs.Skipping

namespace Rationale

/-- The result that evaluating a tree here comes to, whatever stage it comes from, or the fault that
it breaks off with. -/
def Recorder.concludes (recorder : Recorder) (tree : Tree) (input : Option Value) :
    Except Fault (Result Value) :=
  ((tree.eval input).verdict recorder).map Outcome.result

theorem Recorder.concludes_of_yields {recorder : Recorder} {tree : Tree} {input : Option Value}
    {verdict : Except Fault (Outcome Value)} {left : List Entry}
    (yields : (tree.eval input).Yields recorder.settings recorder.flipped verdict left) :
    recorder.concludes tree input = verdict.map Outcome.result := by
  rw [concludes, verdict_of_yields yields]

/-- The identity hands on its input, present or not. -/
theorem Mapping.value?_attempt_identity (input : Option Value) :
    (identity.attempt input).outcome.value? = input := by
  cases input <;> rfl

section Yields

variable {settings : Settings} {flipped : Bool} {head : Mapping} {input : Option Value}
  {tree : Tree} {verdict : Except Fault (Outcome Value)} {left : List Entry}

/-- The place of a mapping's row, whose attempt always ends. -/
def Mapping.entry (settings : Settings) (flipped : Bool) (head : Mapping) (continued : Bool)
    (input : Option Value) : Entry :=
  Draft.entry settings flipped
    { kind := .function, form := head.name, input, continued, isTrivial := head.isTrivial }
    (.ok (head.attempt input))

theorem Mapping.isFor_entry (settings : Settings) (flipped : Bool) (head : Mapping)
    (continued : Bool) (input : Option Value) :
    (head.entry settings flipped continued input).IsFor .function head.name 0 :=
  ⟨rfl, rfl, rfl⟩

theorem Mapping.record_yields (settings : Settings) (flipped : Bool) (head : Mapping)
    (continued : Bool) (input : Option Value) :
    (head.record continued input).Yields settings flipped
      (.ok ((head.attempt input).outcome.withOrigin .head))
      [head.entry settings flipped continued input] :=
  (Recording.yields_pure (head.attempt input)).within _ |>.finish (Outcome.withOrigin .head)

namespace Tree

/-- In a chain the places of the tail come behind that of the mapping, at the same level. -/
theorem chain_yields
    (yields :
      (tree.eval (head.attempt input).outcome.value?).Yields settings flipped verdict left) :
    ((chain head tree).eval input).Yields settings flipped
      (verdict.map fun last =>
        if (head.attempt input).outcome.value?.isSome then last.withOrigin .tail
        else (head.attempt input).outcome.withOrigin .head)
      (head.entry settings flipped true input :: left) := by
  rw [eval]
  exact (head.record_yields settings flipped true input).bind (yields.finish _)

/-- In a transformation by anything but the identity the mapping stage encloses the row of the
mapping, and the checking stage encloses the places of the checker. -/
theorem transform_yields (distinct : head.isIdentity = false)
    (yields :
      (tree.eval (head.attempt input).outcome.value?).Yields settings flipped verdict left) :
    ∃ stage check : Entry, stage.IsFor .transform "transform" 0 ∧ check.IsFor .check "check" 0 ∧
      ((transform (.function head) tree).eval input).Yields settings flipped
        (verdict.map fun last =>
          if (head.attempt input).outcome.value?.isSome then last
          else (head.attempt input).outcome.withOrigin .transform)
        (stage :: (head.entry settings flipped false input).deepen 1 ::
          check :: left.map (Entry.deepen 1)) := by
  let value := (head.attempt input).outcome.value?
  let mapped := (head.attempt input).outcome.withOrigin .transform
  let staged (outcome : Outcome Value) : Attempt := { outcome := outcome.withOrigin .transform }
  let checked (outcome : Outcome Value) : Attempt :=
    { outcome := if value.isSome then outcome else .skipped }
  let finish (last : Outcome Value) : Outcome Value := if value.isSome then last else mapped
  obtain ⟨stage, isStage, mapping⟩ :=
    ((head.record_yields settings flipped false input).inChild.finish staged).exists_within
      (draft input (.transform (.function head) tree))
  obtain ⟨check, isCheck, checking⟩ := (yields.finish checked).exists_within (checkDraft value)
  refine ⟨stage, check, isStage, isCheck, ?_⟩
  have told : ((verdict.map checked).map Attempt.outcome).map finish =
      verdict.map fun last => if value.isSome then last else mapped := by
    cases verdict with
    | error fault => rfl
    | ok last => by_cases produced : value.isSome <;> simp [Except.map, checked, finish, produced]
  rw [eval, if_neg (by simpa [isIdentity] using distinct), ← told]
  exact mapping.bind (checking.finish finish)

end Tree

end Yields

namespace Tree

/-- Nothing comes of a tree without an input. -/
theorem skipped_of_verdict {tree : Tree} {recorder : Recorder} {outcome : Outcome Value}
    (given : (tree.eval none).verdict recorder = .ok outcome) : outcome.result = .skipped := by
  rw [Recording.verdict] at given
  split at given
  next found after run =>
    cases given
    obtain ⟨account, told, rfl, -⟩ := account_of_eval_ok run
    exact ((evaluates_of_account told).skipped rfl).1
  next => cases given

theorem eval_transform_identity (tree : Tree) (input : Option Value) :
    (transform (.function .identity) tree).eval input = tree.eval input := by
  rw [eval]
  exact if_pos rfl

theorem concludes_chain_transform (head : Mapping) (tree : Tree) (input : Option Value)
    (recorder : Recorder) :
    recorder.concludes (.chain head tree) input =
      recorder.concludes (.transform (.function head) tree) input := by
  obtain ⟨left, yields, -⟩ := recorder.exists_yields tree (head.attempt input).outcome.value?
  rw [Recorder.concludes_of_yields (chain_yields yields)]
  cases head with
  | identity =>
      rw [Recorder.concludes, eval_transform_identity, Mapping.value?_attempt_identity]
      cases given : (tree.eval input).verdict recorder with
      | error fault => rfl
      | ok last =>
          cases input with
          | some content => rfl
          | none =>
              -- The chain ends with the skipped mapping, and the tree comes to nothing too.
              have skipped := skipped_of_verdict given
              simp [Except.map, Outcome.withOrigin, Mapping.attempt, Outcome.skipped, skipped]
  | named name apply isTrivial =>
      obtain ⟨_, _, -, -, transformed⟩ := transform_yields rfl yields
      rw [Recorder.concludes_of_yields transformed]
      cases (tree.eval _).verdict recorder with
      | error fault => rfl
      | ok last =>
          cases ((Mapping.named name apply isTrivial).attempt input).outcome.value? <;> rfl

theorem collects_chain (head : Mapping) (tree : Tree) (input : Option Value)
    (recorder : Recorder) :
    ∃ mapped : Entry, mapped.IsFor .function head.name recorder.level ∧
      recorder.Collects (.chain head tree) input
        (mapped :: recorder.remains tree (head.attempt input).outcome.value?) := by
  obtain ⟨left, yields, remains⟩ :=
    recorder.exists_yields tree (head.attempt input).outcome.value?
  rw [remains]
  refine ⟨_, ?_, Recorder.collects_of_yields (chain_yields yields)⟩
  exact (head.isFor_entry ..).deepen (Nat.zero_add recorder.level)

theorem collects_transform {head : Mapping} (distinct : head.isIdentity = false) (tree : Tree)
    (input : Option Value) (recorder : Recorder) :
    ∃ stage mapped check : Entry, stage.IsFor .transform "transform" recorder.level ∧
      mapped.IsFor .function head.name (recorder.level + 1) ∧
      check.IsFor .check "check" recorder.level ∧
      recorder.Collects (.transform (.function head) tree) input (stage :: mapped :: check ::
        (recorder.remains tree (head.attempt input).outcome.value?).map (Entry.deepen 1)) := by
  obtain ⟨left, yields, remains⟩ :=
    recorder.exists_yields tree (head.attempt input).outcome.value?
  obtain ⟨stage, check, isStage, isCheck, transformed⟩ := transform_yields distinct yields
  let mapped := (head.entry recorder.settings recorder.flipped false input).deepen 1
  have isMapped : mapped.IsFor .function head.name 1 := (head.isFor_entry ..).deepen rfl
  let level := recorder.level
  refine ⟨stage.deepen level, mapped.deepen level, check.deepen level,
    isStage.deepen (Nat.zero_add level), isMapped.deepen (Nat.add_comm 1 level),
    isCheck.deepen (Nat.zero_add level), ?_⟩
  rw [remains, Entry.map_deepen_deepen, Nat.add_comm, ← Entry.map_deepen_deepen]
  exact Recorder.collects_of_yields transformed

/-- Chaining a mapping with a tree and transforming by the mapping before the tree come to the same
result, or break off with the same fault.  The tree is evaluated on the same value, if there is one,
and leaves the same places in both: behind the row of the mapping in a chain, and inside the row of
the checking stage in a transformation, one level further in; a transformation by the identity is
the tree and nothing else. -/
theorem eval_chain_transform (head : Mapping) (tree : Tree) (input : Option Value)
    (recorder : Recorder) :
    let inside := recorder.remains tree (head.attempt input).outcome.value?
    recorder.concludes (.chain head tree) input =
        recorder.concludes (.transform (.function head) tree) input ∧
      (∃ mapped : Entry, mapped.IsFor .function head.name recorder.level ∧
        recorder.Collects (.chain head tree) input (mapped :: inside)) ∧
      if head.isIdentity then recorder.Collects (.transform (.function head) tree) input inside
      else ∃ stage mapped check : Entry, stage.IsFor .transform "transform" recorder.level ∧
        mapped.IsFor .function head.name (recorder.level + 1) ∧
        check.IsFor .check "check" recorder.level ∧
        recorder.Collects (.transform (.function head) tree) input
          (stage :: mapped :: check :: inside.map (Entry.deepen 1)) := by
  refine ⟨concludes_chain_transform head tree input recorder,
    collects_chain head tree input recorder, ?_⟩
  cases head with
  | identity =>
      change recorder.Collects (.transform (.function .identity) tree) input
        (recorder.remains tree (Mapping.identity.attempt input).outcome.value?)
      rw [Mapping.value?_attempt_identity, Recorder.Collects, eval_transform_identity]
      exact recorder.collects_remains tree input
  | named name apply isTrivial => exact collects_transform rfl tree input recorder

end Tree

end Rationale
