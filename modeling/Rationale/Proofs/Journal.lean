/-
Module: Rationale.Proofs.Journal
Purpose: With debugging on, the journal tells of every row of the trace in the order in which the
  rows close.
Main exports: Trace.Encloses, Trace.ClosesBefore, Trace.StageLevel, Trace.Tells, Forest.closings,
  Forest.closings_pairwise, Forest.exists_told, Tree.evaluate_journal
-/
import Rationale.Check.Stock
import Rationale.Mapping.Stock
import Rationale.Proofs.Derivation

namespace Rationale

/-!
### Closing

A trace lists a row before those that it encloses, but the row closes after them.  Both orders, and
the mapping stages that a row lies in, are read off the levels of the trace alone.
-/

namespace Trace

/-- The row at a place. -/
def rowAt? (rows : Trace) (place : Nat) : Option Row :=
  rows[place]?

/-- The level of the row at a place. -/
def levelAt (trace : Trace) (place : Nat) : Nat :=
  (trace.rowAt? place).elim 0 Row.level

/-- The row at a place encloses a later one if all rows after it up to that one stand further in. -/
def Encloses (trace : Trace) (outer inner : Nat) : Prop :=
  outer < inner ∧
    ∀ place, outer < place → place ≤ inner → trace.levelAt outer < trace.levelAt place

/-- A row closes after those that it encloses, and otherwise before those listed after it. -/
def ClosesBefore (trace : Trace) (first second : Nat) : Prop :=
  trace.Encloses second first ∨ first < second ∧ ¬ trace.Encloses first second

/-- The row at the place is that of a mapping stage. -/
def IsStage (trace : Trace) (place : Nat) : Prop :=
  ∃ row, trace.rowAt? place = some row ∧ row.kind = .transform

/-- The level from which the rows of the innermost mapping stage around a place are told: that of
the first row in the stage, or the outermost one if the place lies in no stage. -/
inductive StageLevel (trace : Trace) (place : Nat) : Nat → Prop where
  | outside (apart : ∀ stage, trace.IsStage stage → ¬ trace.Encloses stage place) :
      StageLevel trace place 0
  | inside {stage : Nat} {first : Row} (isStage : trace.IsStage stage)
      (encloses : trace.Encloses stage place)
      (innermost : ∀ other, trace.IsStage other → trace.Encloses other place → other ≤ stage)
      (next : trace.rowAt? (stage + 1) = some first) : StageLevel trace place first.level

/-- What is told of the row at a place, all at once: that it closed, and of a leaf right before that
it was asked or passed over.  The level told is counted from that of the stage. -/
inductive Tells (settings : Settings) (trace : Trace) (place : Nat) : List Event → Prop where
  | leaf {row : Row} {base level : Nat} (listed : trace.rowAt? place = some row)
      (isLeaf : row.kind = .leaf) (stage : trace.StageLevel place base)
      (counted : row.level = base + level) :
      Tells settings trace place
        [.leafEvaluated row.form, .ofRow settings.cellWidth (row.atLevel level)]
  | other {row : Row} {base level : Nat} (listed : trace.rowAt? place = some row)
      (inner : row.kind ≠ .leaf) (stage : trace.StageLevel place base)
      (counted : row.level = base + level) :
      Tells settings trace place [.ofRow settings.cellWidth (row.atLevel level)]

variable {trace : Trace} {first between second : Nat}

/-- A row does not enclose what comes after a row that is no further in. -/
theorem not_encloses (after : first < between) (upTo : between ≤ second)
    (outward : trace.levelAt between ≤ trace.levelAt first) : ¬ trace.Encloses first second :=
  fun encloses => Nat.not_lt_of_le outward (encloses.2 between after upTo)

theorem StageLevel.congr {place other base : Nat} (stage : trace.StageLevel place base)
    (alike : ∀ stage, trace.IsStage stage →
      (trace.Encloses stage other ↔ trace.Encloses stage place)) :
    trace.StageLevel other base := by
  cases stage with
  | outside apart =>
      exact .outside fun stage isStage => mt (alike stage isStage).mp (apart stage isStage)
  | inside isStage encloses innermost next =>
      refine .inside isStage ((alike _ isStage).mpr encloses) ?_ next
      intro other isOther encloses
      exact innermost other isOther ((alike other isOther).mp encloses)

end Trace

namespace Forest

/-!
### Places in a trace

The rows of a forest stand in a trace from some place on.  What is around the forest encloses all
of its rows or none, since none stands further out than the first.
-/

/-- The number of rows. -/
def size : Forest → Nat
  | .nil => 0
  | .cons _ inner rest => inner.size + rest.size + 1

theorem size_pos_iff {forest : Forest} : 0 < forest.size ↔ forest ≠ .nil := by
  cases forest <;> simp [size]

theorem length_rows (level : Nat) (forest : Forest) : (forest.rows level).length = forest.size := by
  induction forest generalizing level with
  | nil => rfl
  | cons row inner rest innerIH restIH => simp [rows, size, innerIH, restIH]

/-- The places of the rows, from the given one on, in the order in which the rows close. -/
def closings (start : Nat) : Forest → List Nat
  | .nil => []
  | .cons _ inner rest =>
    inner.closings (start + 1) ++ start :: rest.closings (start + 1 + inner.size)

/-- Every row closes once. -/
theorem closings_perm (start : Nat) (forest : Forest) :
    (forest.closings start).Perm (List.range' start forest.size) := by
  induction forest generalizing start with
  | nil => exact .nil
  | cons row inner rest innerIH restIH =>
      have places : List.range' start (inner.size + rest.size + 1) =
          start :: (List.range' (start + 1) inner.size ++
            List.range' (start + 1 + inner.size) rest.size) := by
        rw [List.range'_succ, List.range'_append_1]
      rw [closings, size, places]
      exact List.perm_middle.trans (.cons _ ((innerIH _).append (restIH _)))

theorem mem_closings {start place : Nat} {forest : Forest} :
    place ∈ forest.closings start ↔ start ≤ place ∧ place < start + forest.size := by
  rw [(forest.closings_perm start).mem_iff, List.mem_range'_1]

/-- The rows of the forest stand in the trace from a place on. -/
def StandsIn (trace : Trace) (start level : Nat) (forest : Forest) : Prop :=
  forest.rows level <+: trace.drop start

namespace StandsIn

variable {trace : Trace} {start level base place stage : Nat} {row : Row}
  {below beside forest : Forest}

theorem first (stands : StandsIn trace start level (.cons row below beside)) :
    trace.rowAt? start = some (row.atLevel level) := by
  obtain ⟨after, listed⟩ := stands
  rw [Trace.rowAt?, ← Nat.add_zero start, ← List.getElem?_drop, ← listed]
  rfl

theorem inner (stands : StandsIn trace start level (.cons row below beside)) :
    StandsIn trace (start + 1) (level + 1) below := by
  obtain ⟨after, listed⟩ := stands
  refine ⟨beside.rows level ++ after, ?_⟩
  rw [← List.drop_drop, ← listed]
  simp [rows]

theorem rest (stands : StandsIn trace start level (.cons row below beside)) :
    StandsIn trace (start + 1 + below.size) level beside := by
  obtain ⟨after, listed⟩ := stands
  refine ⟨after, ?_⟩
  rw [← List.drop_drop, ← List.drop_drop, ← listed]
  simp [rows, ← length_rows (level + 1)]

theorem levelAt_start (stands : StandsIn trace start level forest) (nonempty : forest ≠ .nil) :
    trace.levelAt start = level := by
  cases forest with
  | nil => exact absurd rfl nonempty
  | cons row below beside =>
      rw [Trace.levelAt, stands.first]
      rfl

theorem le_levelAt (stands : StandsIn trace start level forest) (behind : start ≤ place)
    (within : place < start + forest.size) : level ≤ trace.levelAt place := by
  obtain ⟨offset, rfl⟩ := Nat.exists_eq_add_of_le behind
  have inside : offset < (forest.rows level).length := by
    rw [length_rows]
    omega
  have listed := List.prefix_iff_getElem?.mp stands offset inside
  rw [List.getElem?_drop] at listed
  rw [Trace.levelAt, Trace.rowAt?, listed]
  exact le_level_of_mem_rows (List.getElem_mem inside)

/-- A row before the forest encloses each of its rows if it encloses the first. -/
theorem encloses_iff (stands : StandsIn trace start level forest) (before : stage < start)
    (behind : start ≤ place) (within : place < start + forest.size) :
    trace.Encloses stage place ↔ trace.Encloses stage start := by
  have nonempty : forest ≠ .nil := size_pos_iff.mp (by omega)
  constructor
  · rintro ⟨-, deeper⟩
    exact ⟨before, fun other after upTo => deeper other after (upTo.trans behind)⟩
  · rintro ⟨-, deeper⟩
    refine ⟨before.trans_le behind, fun other after upTo => ?_⟩
    rcases Nat.lt_or_ge other start with outside | inside
    · exact deeper other after outside.le
    · -- The first row stands furthest out, and it is already further in.
      have outermost := deeper start before le_rfl
      rw [stands.levelAt_start nonempty] at outermost
      exact outermost.trans_le (stands.le_levelAt inside (by omega))

/-- The first row of a forest encloses the rows inside it. -/
theorem encloses_inner (stands : StandsIn trace start level (.cons row below beside))
    (inside : place ∈ below.closings (start + 1)) : trace.Encloses start place := by
  obtain ⟨behind, within⟩ := mem_closings.mp inside
  refine ⟨behind, fun other after upTo => ?_⟩
  rw [stands.levelAt_start Forest.noConfusion]
  exact stands.inner.le_levelAt after (by omega)

/-- No row of a forest's first part encloses one beside it. -/
theorem not_encloses_rest (stands : StandsIn trace start level (.cons row below beside))
    (behind : start ≤ stage) (before : stage < start + 1 + below.size)
    (later : start + 1 + below.size ≤ place)
    (within : place < start + 1 + below.size + beside.size) :
    ¬ trace.Encloses stage place := by
  have nonempty : beside ≠ .nil := size_pos_iff.mp (by omega)
  refine Trace.not_encloses before later ?_
  rw [stands.rest.levelAt_start nonempty]
  exact stands.le_levelAt behind (by rw [size]; omega)

/-- A row of the forest lies in the same mapping stage as the first, unless a stage in between
encloses it. -/
theorem stageLevel_within (stands : StandsIn trace start level forest) (behind : start ≤ place)
    (within : place < start + forest.size) (around : trace.StageLevel start base)
    (apart : ∀ stage, start ≤ stage → trace.IsStage stage → ¬ trace.Encloses stage place) :
    trace.StageLevel place base := by
  refine around.congr fun stage isStage => ?_
  rcases Nat.lt_or_ge stage start with before | after
  · exact stands.encloses_iff before behind within
  · exact iff_of_false (apart stage after isStage) fun encloses =>
      Nat.not_lt_of_le after encloses.1

/-- A mapping stage starts anew, and any other row leaves the rows inside it in the stage that it
lies in itself. -/
theorem stageLevel_inner (stands : StandsIn trace start level (.cons row below beside))
    (nonempty : below ≠ .nil) (around : trace.StageLevel start base) :
    trace.StageLevel (start + 1) (if row.kind = .transform then level + 1 else base) := by
  by_cases isStage : row.kind = .transform
  · rw [if_pos isStage]
    cases below with
    | nil => exact absurd rfl nonempty
    | cons top _ _ =>
        have encloses : trace.Encloses start (start + 1) :=
          stands.encloses_inner (mem_closings.mpr ⟨le_rfl, by rw [size]; omega⟩)
        refine .inside ⟨_, stands.first, isStage⟩ encloses ?_ stands.inner.first
        exact fun other _ encloses => Nat.lt_succ_iff.mp encloses.1
  · rw [if_neg isStage]
    have occupied := size_pos_iff.mpr nonempty
    refine stands.stageLevel_within (Nat.le_succ start) (by rw [size]; omega) around ?_
    -- Of the rows from the first on only that one is before its inside, and it opens no stage.
    rintro stage after ⟨opener, listed, opens⟩ encloses
    obtain rfl : stage = start := Nat.le_antisymm (Nat.lt_succ_iff.mp encloses.1) after
    cases stands.first.symm.trans listed
    exact isStage opens

theorem stageLevel_rest (stands : StandsIn trace start level (.cons row below beside))
    (nonempty : beside ≠ .nil) (around : trace.StageLevel start base) :
    trace.StageLevel (start + 1 + below.size) base := by
  have within : start + 1 + below.size < start + 1 + below.size + beside.size :=
    Nat.lt_add_of_pos_right (size_pos_iff.mpr nonempty)
  refine stands.stageLevel_within (by omega) (by rw [size]; omega) around ?_
  intro stage after _ encloses
  exact stands.not_encloses_rest after encloses.1 le_rfl within encloses

end StandsIn

/-!
### The journal

The levels told inside a mapping stage start anew, since the stage is recorded apart, and so they
are levels of the trace counted from the first row of the stage.
-/

variable {trace : Trace} {start level base : Nat} {forest : Forest} {settings : Settings}

/-- The rows of a forest close in their order. -/
theorem closings_pairwise (stands : StandsIn trace start level forest) :
    (forest.closings start).Pairwise trace.ClosesBefore := by
  induction forest generalizing start level with
  | nil => exact .nil
  | cons row below beside belowIH besideIH =>
      refine List.pairwise_append.mpr ⟨belowIH stands.inner, ?_, ?_⟩
      · refine List.pairwise_cons.mpr ⟨fun place member => ?_, besideIH stands.rest⟩
        obtain ⟨later, within⟩ := mem_closings.mp member
        exact Or.inr ⟨by omega, stands.not_encloses_rest le_rfl (by omega) later within⟩
      · -- The rows inside close before the first one and before those beside it.
        intro inside member other outside
        rcases List.mem_cons.mp outside with rfl | outside
        · exact Or.inl (stands.encloses_inner member)
        · obtain ⟨behind, before⟩ := mem_closings.mp member
          obtain ⟨later, within⟩ := mem_closings.mp outside
          exact Or.inr ⟨by omega, stands.not_encloses_rest (by omega) before later within⟩

/-- With debugging on, what is told of a row as it closes. -/
theorem tells_of_listed {place : Nat} {row : Row} (debugging : settings.debug = true)
    (listed : trace.rowAt? place = some (row.atLevel level))
    (around : trace.StageLevel place base) (outward : base ≤ level) :
    Trace.Tells settings trace place
      ((if row.kind = .leaf then [.leafEvaluated row.form] else []) ++
        (if settings.debug then
          [.ofRow settings.cellWidth (row.atLevel (level - base))] else [])) := by
  have counted : (row.atLevel level).level = base + (level - base) :=
    (Nat.add_sub_of_le outward).symm
  rw [if_pos debugging]
  by_cases isLeaf : row.kind = .leaf
  · rw [if_pos isLeaf]
    exact (Trace.Tells.leaf listed isLeaf around counted :)
  · rw [if_neg isLeaf]
    exact (Trace.Tells.other listed isLeaf around counted :)

/-- What is told of a forest is what is told of its rows, in the order in which they close. -/
theorem exists_told (debugging : settings.debug = true)
    (stands : StandsIn trace start level forest)
    (around : forest ≠ .nil → trace.StageLevel start base) (outward : base ≤ level) :
    ∃ parts, List.Forall₂ (Trace.Tells settings trace) (forest.closings start) parts ∧
      forest.events settings (level - base) = parts.flatten := by
  induction forest generalizing start level base with
  | nil => exact ⟨[], .nil, rfl⟩
  | cons row below beside belowIH besideIH =>
      have here := around Forest.noConfusion
      obtain ⟨early, tellsEarly, told⟩ := belowIH stands.inner
        (fun nonempty => stands.stageLevel_inner nonempty here) (by split <;> omega)
      obtain ⟨late, tellsLate, toldLate⟩ := besideIH stands.rest
        (fun nonempty => stands.stageLevel_rest nonempty here) outward
      -- In a stage both the told level and the level counted from start anew.
      have inside : (if row.kind = .transform then 0 else level - base + 1) =
          level + 1 - (if row.kind = .transform then level + 1 else base) := by
        split <;> omega
      refine ⟨_, List.rel_append tellsEarly
        (.cons (tells_of_listed debugging stands.first here outward) tellsLate), ?_⟩
      rw [events, inside, told, toldLate]
      simp

end Forest

/-- With debugging on, the rows of the trace are told one by one in the order in which they close:
each after those that it encloses and before those listed after these.  The closing of a leaf is
told right after the leaf was asked, and the level is that of the row in the trace, counted from the
first row of the mapping stage that the row lies in. -/
theorem Tree.evaluate_journal {settings : Settings} {tree : Tree} {input : Value}
    {evaluation : Evaluation} (evaluated : tree.evaluate settings input = .ok evaluation)
    (debugging : settings.debug = true) :
    ∃ (order : List Nat) (parts : List (List Event)),
      order.Perm (List.range evaluation.trace.length) ∧
        order.Pairwise (Trace.ClosesBefore evaluation.trace) ∧
          List.Forall₂ (Trace.Tells settings evaluation.trace) order parts ∧
            evaluation.journal = parts.flatten := by
  obtain ⟨account, -, rfl⟩ := evaluate_ok evaluated
  have stands : Forest.StandsIn (account.forest.rows 0) 0 0 account.forest := List.prefix_rfl
  have outermost : Trace.StageLevel (account.forest.rows 0) 0 0 :=
    .outside fun stage _ encloses => Nat.not_lt_zero _ encloses.1
  obtain ⟨parts, tells, told⟩ := Forest.exists_told debugging stands (fun _ => outermost) le_rfl
  refine ⟨account.forest.closings 0, parts, ?_, Forest.closings_pairwise stands, tells, told⟩
  have closes := account.forest.closings_perm 0
  rwa [← Forest.length_rows 0, ← List.range_eq_range'] at closes

/-- A mapping stage inside another: each tells from its own first row on. -/
theorem Tree.evaluate_journal_nested :
    ∃ evaluation, evaluate { debug := true }
        (.transform (.transform (.function .size) (.leaf .isNotNull)) (.leaf .isTrue))
        (.list [.null]) = .ok evaluation ∧
      evaluation.trace.map Row.level = [0, 1, 2, 1, 2, 0, 1] ∧
      evaluation.journal =
        [.rowClosed "size" 0 "[null]" "1" "1",
          .rowClosed "transform" 0 "[null]" "1" "1",
          .leafEvaluated "isNotNull", .rowClosed "isNotNull" 1 "1" "true" "true",
          .rowClosed "check" 0 "1" "true" "true",
          .rowClosed "transform" 0 "[null]" "true" "true",
          .leafEvaluated "isTrue", .rowClosed "isTrue" 1 "true" "true" "true",
          .rowClosed "check" 0 "true" "true" "true"] ∧
      ∃ (order : List Nat) (parts : List (List Event)),
        order.Perm (List.range evaluation.trace.length) ∧
          order.Pairwise (Trace.ClosesBefore evaluation.trace) ∧
            List.Forall₂ (Trace.Tells { debug := true } evaluation.trace) order parts ∧
              evaluation.journal = parts.flatten := by
  have evaluated : evaluate { debug := true }
      (.transform (.transform (.function .size) (.leaf .isNotNull)) (.leaf .isTrue))
      (.list [.null]) = .ok _ := rfl
  exact ⟨_, evaluated, rfl, rfl, evaluate_journal evaluated rfl⟩

end Rationale
