/-
Module: Rationale.Proofs.Threading
Purpose: Every row of a trace has its input from the row around it or from the row before it.
Main exports: Trace.groups, Trace.children, Trace.beside?, Row.Threads, Forest.Throughout,
  Tree.Evaluates.threaded, Tree.evaluate_threads
-/
import Rationale.Check.Stock
import Rationale.Mapping.Stock
import Rationale.Proofs.Skipping

namespace Rationale

/-!
### Groups

The rows right below a row belong to the parts of its tree.  A part leaves one of them, but for a
chain, whose head hands its value on to what follows, and a transformation, which leaves a mapping
stage and a checking stage.
-/

/-- What the output of a row gives to the part that takes it up: its value, if there is one. -/
def Cell.handed : Cell → Cell
  | .value content => .value content
  | _ => .skipped

/-- Whether the parts below rows of this kind have the input of the row. -/
def Kind.passesInput : Kind → Bool
  | .conjunction | .disjunction | .negation | .transform | .check => true
  | _ => false

/-- Whether the part of the row goes on with the rows after it. -/
def Row.goesOn (row : Row) : Bool :=
  row.kind == .function && row.continued || row.kind == .transform

namespace Trace

/-- The rows that a part leaves side by side. -/
structure Group where
  first : Row
  others : List Row

/-- The group with a row put in front. -/
def Group.cons (row : Row) (group : Group) : Group :=
  ⟨row, group.first :: group.others⟩

/-- All rows of a group. -/
def Group.rows (group : Group) : List Row :=
  group.first :: group.others

/-- Divides rows side by side into groups.  A row that goes on belongs to the group after it. -/
def groups : List Row → List Group
  | [] => []
  | row :: rest =>
    if row.goesOn then
      match groups rest with
      | [] => [⟨row, []⟩]
      | group :: later => group.cons row :: later
    else ⟨row, []⟩ :: groups rest

/-- The rows below a row, from those that are listed after it. -/
def under (row : Row) (later : List Row) : List Row :=
  later.takeWhile (row.level < ·.level)

/-- The rows right below a row. -/
def children (row : Row) (later : List Row) : List Row :=
  (under row later).filter (·.level == row.level + 1)

/-- The next row at the same level and below the same row. -/
def beside? (row : Row) (later : List Row) : Option Row :=
  (later.dropWhile (row.level < ·.level)).head?.filter (·.level == row.level)

/-- The input of the first row in each group. -/
def groupInputs (rows : List Row) : List Cell :=
  (groups rows).map (·.first.actual.input)

end Trace

/-- The input of a row fits those below and beside it: `inputs` has that of the first row in each
group right below, `under` those of all rows below, and `next` is the row beside. -/
structure Row.Threads (row : Row) (inputs under : List Cell) (next : Option Row) : Prop where
  /-- Both accounts have the same input. -/
  aligned : row.actual.input = row.expected.input
  /-- The parts of a junction, a negation or a stage have its input. -/
  shares : row.kind.passesInput = true → ∀ input ∈ inputs, input = row.actual.input
  /-- A look at a slot has the name of that slot, and the part below has what is in there. -/
  looksUp : row.kind = .curried → ∀ value, row.actual.input = .value value → ∀ input ∈ inputs,
    ∃ slot slots content, (∀ other, row.form = Tree.curriedForm other ↔ other = slot) ∧
      value = .context slots ∧ slots[slot]? = some content ∧ input = .value content
  /-- The parts of a quantifier have the items of its list, one after the other. -/
  goesThrough : row.kind = .quantifier → ∀ value, row.actual.input = .value value →
    ∀ (index : Nat) (input : Cell), inputs[index]? = some input →
      ∃ items item, value = .list items ∧ items[index]? = some item ∧ input = .value item
  /-- Below a row whose input was never produced, no input was. -/
  passesOver : row.actual.input = .skipped → ∀ input ∈ under, input = .skipped
  /-- No row is below a head, and its value is the input of the row right after it. -/
  handsOn : row.kind = .function → row.continued = true →
    under = [] ∧ ∃ tail ∈ next, tail.actual.input = row.actual.output.handed
  /-- The value of a mapping stage is the input of the checking stage beside it. -/
  staged : row.kind = .transform →
    ∃ stage ∈ next, stage.kind = .check ∧ stage.actual.input = row.actual.output.handed

namespace Trace

/-- Groups put one after the other are the rows that were divided. -/
theorem flatMap_groups (rows : List Row) : (groups rows).flatMap Group.rows = rows := by
  induction rows with
  | nil => rfl
  | cons row rest ih =>
      rw [groups]
      split
      · cases later : groups rest with
        | nil =>
            rw [later] at ih
            rw [← ih]
            rfl
        | cons group further =>
            rw [later, List.flatMap_cons] at ih
            rw [List.flatMap_cons, Group.cons, Group.rows, List.cons_append, ← ih]
            rfl
      · rw [List.flatMap_cons, ih]
        rfl

theorem groupInputs_of_goesOn {row : Row} {rest : List Row} {input : Cell} {later : List Cell}
    (goesOn : row.goesOn = true) (grouped : groupInputs rest = input :: later) :
    groupInputs (row :: rest) = row.actual.input :: later := by
  obtain ⟨group, further, found, -, rfl⟩ := List.map_eq_cons_iff.mp grouped
  rw [groupInputs, groups, if_pos goesOn, found]
  rfl

theorem groupInputs_of_stops {row : Row} {rest : List Row} (stops : row.goesOn = false) :
    groupInputs (row :: rest) = row.actual.input :: groupInputs rest := by
  rw [groupInputs, groups, if_neg (by simp [stops])]
  rfl

/-- Levels do not matter for grouping. -/
theorem groupInputs_map_atLevel (level : Nat) (rows : List Row) :
    groupInputs (rows.map (Row.atLevel level)) = groupInputs rows := by
  have grouped : groups (rows.map (Row.atLevel level)) = (groups rows).map fun group =>
      ⟨group.first.atLevel level, group.others.map (Row.atLevel level)⟩ := by
    induction rows with
    | nil => rfl
    | cons row rest ih =>
        have same : (row.atLevel level).goesOn = row.goesOn := rfl
        rw [List.map_cons, groups, groups, ih, same]
        split
        · cases groups rest <;> rfl
        · rfl
  rw [groupInputs, grouped, List.map_map]
  rfl

section Surroundings

variable {row : Row} {below : Forest} {rest : List Row}

theorem deeper_of_mem_rows {inside : Row} (member : inside ∈ below.rows (row.level + 1)) :
    decide (row.level < inside.level) = true :=
  decide_eq_true (Forest.le_level_of_mem_rows member)

/-- The rows inside a row are those below it. -/
theorem under_rows (next : row.IsChildless rest) :
    under row (below.rows (row.level + 1) ++ rest) = below.rows (row.level + 1) := by
  rw [under, List.takeWhile_append_of_pos fun _ member => deeper_of_mem_rows member]
  cases rest with
  | nil => simp
  | cons first later =>
      have outer := next first rfl
      rw [List.takeWhile_cons_of_neg (by simpa using outer), List.append_nil]

theorem children_rows (next : row.IsChildless rest) :
    children row (below.rows (row.level + 1) ++ rest) =
      below.tops.map (Row.atLevel (row.level + 1)) := by
  rw [children, under_rows next, Forest.filter_level_rows]

/-- The row after those inside is the one beside it, if it stands at the same level. -/
theorem beside?_rows (next : row.IsChildless rest) :
    beside? row (below.rows (row.level + 1) ++ rest) =
      rest.head?.filter (·.level == row.level) := by
  rw [beside?, List.dropWhile_append_of_pos fun _ member => deeper_of_mem_rows member]
  cases rest with
  | nil => rfl
  | cons first later =>
      have outer := next first rfl
      rw [List.dropWhile_cons_of_neg (by simpa using outer)]

end Surroundings

end Trace

/-!
### Rows with those inside and beside
-/

namespace Forest

/-- The inputs of all rows of a forest. -/
def inputs (forest : Forest) : List Cell :=
  (forest.rows 0).map (·.actual.input)

theorem map_input_rows (level : Nat) (forest : Forest) :
    (forest.rows level).map (·.actual.input) = forest.inputs := by
  rw [inputs, ← Nat.zero_add level, ← map_deepen_rows, List.map_map]
  rfl

/-- The condition holds of every row with the forest inside it and the forest after it. -/
def Throughout (condition : Row → Forest → Forest → Prop) : Forest → Prop
  | .nil => True
  | .cons row inner rest =>
    condition row inner rest ∧ inner.Throughout condition ∧ rest.Throughout condition

/-- Of every row of the trace the condition holds as of one that the forest carries.  The forests
inside it and after it are listed behind it, up to a row further out. -/
theorem Throughout.of_split {condition : Row → Forest → Forest → Prop} {level : Nat}
    {forest : Forest} {before after : List Row} {row : Row}
    (holds : forest.Throughout condition) (split : forest.rows level = before ++ row :: after) :
    ∃ carried inner rest outer, row = Row.atLevel row.level carried ∧
      condition carried inner rest ∧
      after = inner.rows (row.level + 1) ++ (rest.rows row.level ++ outer) ∧
      ∀ next ∈ outer.head?, next.level < row.level := by
  induction forest generalizing level before after with
  | nil => simp [rows] at split
  | cons top inner rest innerIH restIH =>
      obtain ⟨here, inside, beside⟩ := holds
      cases before with
      | nil =>
          obtain ⟨rfl, rfl⟩ := List.cons.inj split
          refine ⟨top, inner, rest, [], rfl, here, ?_, by simp⟩
          rw [List.append_nil, Row.level_atLevel]
      | cons first before =>
          obtain ⟨rfl, remaining⟩ := List.cons.inj split
          rcases split_append remaining with ⟨between, within, rfl⟩ | ⟨between, rfl, after⟩
          · -- The row lies inside, so all that stands beside the top row is further out.
            have deep : level + 1 ≤ row.level := le_level_of_mem_rows (by rw [within]; simp)
            obtain ⟨carried, below, later, outer, same, found, rfl, ends⟩ := innerIH inside within
            refine ⟨carried, below, later, outer ++ rest.rows level, same, found, by simp, ?_⟩
            intro next isNext
            rw [List.head?_append, Option.mem_def, Option.or_eq_some_iff] at isNext
            rcases isNext with early | ⟨-, late⟩
            · exact ends next early
            · rw [level_head_rows late]
              exact deep
          · exact restIH beside after

/-- The rows of the forest fit those inside and beside them. -/
def Threaded : Forest → Prop :=
  Throughout fun row inner rest =>
    row.Threads (Trace.groupInputs inner.tops) inner.inputs rest.tops.head?

/-- The first row that a trace lists is the first of those side by side. -/
theorem head?_rows (level : Nat) (forest : Forest) :
    (forest.rows level).head? = forest.tops.head?.map (Row.atLevel level) := by
  cases forest <;> rfl

end Forest

namespace Row

variable {row : Row} {inputs under : List Cell} {next : Option Row}

theorem Threads.of_next {further : Option Row} (threads : row.Threads inputs under next)
    (kept : ∀ sibling ∈ next, sibling ∈ further) : row.Threads inputs under further :=
  { threads with
    handsOn := fun head continued => by
      obtain ⟨childless, tail, member, taken⟩ := threads.handsOn head continued
      exact ⟨childless, tail, kept tail member, taken⟩
    staged := fun mapping => by
      obtain ⟨stage, member, checks⟩ := threads.staged mapping
      exact ⟨stage, kept stage member, checks⟩ }

theorem Threads.atLevel (level : Nat) (threads : row.Threads inputs under next) :
    (row.atLevel level).Threads inputs under (next.map (Row.atLevel level)) where
  aligned := threads.aligned
  shares := threads.shares
  looksUp := threads.looksUp
  goesThrough := threads.goesThrough
  passesOver := threads.passesOver
  handsOn head continued := by
    obtain ⟨childless, tail, member, taken⟩ := threads.handsOn head continued
    exact ⟨childless, tail.atLevel level, Option.mem_map_of_mem _ member, taken⟩
  staged mapping := by
    obtain ⟨stage, member, checks⟩ := threads.staged mapping
    exact ⟨stage.atLevel level, Option.mem_map_of_mem _ member, checks⟩

end Row

/-- The rows of a trace fit those that are found behind them. -/
theorem Forest.Threaded.of_split {level : Nat} {forest : Forest} {before after : List Row}
    {row : Row} (threaded : forest.Threaded) (split : forest.rows level = before ++ row :: after) :
    row.Threads (Trace.groupInputs (Trace.children row after))
      ((Trace.under row after).map (·.actual.input)) (Trace.beside? row after) := by
  obtain ⟨carried, inner, rest, outer, same, here, rfl, ends⟩ := Throughout.of_split threaded split
  have childless : row.IsChildless (rest.rows row.level ++ outer) :=
    (isChildless_rows le_rfl).append fun next isNext => Nat.le_of_lt (ends next isNext)
  have beside : (rest.rows row.level ++ outer).head?.filter (·.level == row.level) =
      rest.tops.head?.map (Row.atLevel row.level) := by
    cases rest with
    | nil =>
        cases outer with
        | nil => rfl
        | cons next later => simpa [rows, tops] using Nat.ne_of_lt (ends next rfl)
    | cons first inside beside => simp [rows, tops]
  rw [Trace.children_rows childless, Trace.groupInputs_map_atLevel, Trace.under_rows childless,
    map_input_rows, Trace.beside?_rows childless, beside]
  rw [same]
  exact here.atLevel row.level

/-!
### Evaluations
-/

theorem Cell.handed_ofResult (outcome : Outcome Value) :
    (Cell.ofResult outcome.result).handed = .ofInput outcome.value? := by
  rw [Outcome.value?]
  cases outcome.result <;> rfl

theorem Cell.ofInput_eq_skipped {input : Option Value} (skipped : Cell.ofInput input = .skipped) :
    input = none := by
  cases input with
  | none => rfl
  | some value => cases skipped

theorem Cell.ofInput_eq_value {input : Option Value} {value : Value}
    (given : Cell.ofInput input = .value value) : input = some value := by
  cases input with
  | none => cases given
  | some content =>
      cases given
      rfl

theorem Tree.curriedForm_inj {slot other : Nat} :
    curriedForm slot = curriedForm other ↔ slot = other := by
  constructor
  · intro same
    have inside := (String.append_right_inj "curry[").mp ((String.append_left_inj "]").mp same)
    have digits : Nat.toDigits 10 slot = Nat.toDigits 10 other := by
      rw [← Nat.toList_repr, ← Nat.toList_repr]
      exact congrArg String.toList inside
    have numbers := congrArg (Nat.ofDigitChars 10 · 0) digits
    simpa [Nat.ofDigitChars_toDigits] using numbers
  · rintro rfl
    rfl

theorem Forest.inputs_of_unreached {forest : Forest}
    (unreached : forest.Everywhere Row.Unreached) : ∀ input ∈ forest.inputs, input = .skipped := by
  intro input member
  obtain ⟨row, listed, rfl⟩ := List.mem_map.mp member
  obtain ⟨carried, level, inside, rfl, passed⟩ := unreached.of_mem_rows listed
  change carried.actual.input = .skipped
  rw [Row.Unreached, Row.isReached] at passed
  split at passed
  · assumption
  · cases passed

theorem Forest.Throughout.append {condition : Row → Forest → Forest → Prop} {first second : Forest}
    (left : first.Throughout condition) (right : second.Throughout condition)
    (kept : ∀ row inner rest, condition row inner rest → condition row inner (rest ++ second)) :
    (first ++ second).Throughout condition := by
  induction first with
  | nil => exact right
  | cons row inner rest _ ih =>
      obtain ⟨here, inside, beside⟩ := left
      exact ⟨kept row inner rest here, inside, ih beside⟩

theorem Forest.Threaded.append {first second : Forest} (left : first.Threaded)
    (right : second.Threaded) : (first ++ second).Threaded := by
  refine Throughout.append left right fun row inner rest threads => threads.of_next ?_
  intro sibling member
  cases rest with
  | nil => cases member
  | cons top inside beside => exact member

theorem Forest.threaded_forestOf {α : Type} {visits : List (Visit α)}
    (each : ∀ visit ∈ visits, visit.account.forest.Threaded) : (forestOf visits).Threaded := by
  induction visits with
  | nil => trivial
  | cons visit rest ih =>
      refine Threaded.append (each visit List.mem_cons_self) (ih ?_)
      intro other member
      exact each other (List.mem_cons_of_mem visit member)

section Drafts

variable {settings : Settings} {flipped : Bool} {draft : Draft} {attempt : Attempt}
  {inputs under : List Cell} {next : Option Row}

/-- The row of a draft fits its surroundings if they fit what the draft and the attempt say. -/
theorem Draft.threads
    (shares : draft.kind.passesInput = true → ∀ input ∈ inputs, input = .ofInput draft.input)
    (looksUp : draft.kind = .curried → ∀ value, draft.input = some value → ∀ input ∈ inputs,
      ∃ slot slots content, draft.form = Tree.curriedForm slot ∧ value = .context slots ∧
        slots[slot]? = some content ∧ input = .value content)
    (goesThrough : draft.kind = .quantifier → ∀ value, draft.input = some value →
      ∀ (index : Nat) (input : Cell), inputs[index]? = some input →
        ∃ items item, value = .list items ∧ items[index]? = some item ∧ input = .value item)
    (passesOver : draft.input = none → ∀ input ∈ under, input = .skipped)
    (handsOn : draft.kind = .function → draft.continued = true →
      under = [] ∧ ∃ tail ∈ next, tail.actual.input = .ofInput attempt.outcome.value?)
    (staged : draft.kind = .transform → ∃ stage ∈ next, stage.kind = .check ∧
      stage.actual.input = .ofInput attempt.outcome.value?) :
    (draft.row settings flipped attempt).Threads inputs under next where
  aligned := rfl
  shares := shares
  looksUp curried value given input member := by
    obtain ⟨slot, slots, content, named, found⟩ :=
      looksUp curried value (Cell.ofInput_eq_value given) input member
    refine ⟨slot, slots, content, fun other => ?_, found⟩
    change draft.form = Tree.curriedForm other ↔ other = slot
    rw [named, Tree.curriedForm_inj, eq_comm]
  goesThrough quantifier value given :=
    goesThrough quantifier value (Cell.ofInput_eq_value given)
  passesOver skipped := passesOver (Cell.ofInput_eq_skipped skipped)
  handsOn head continued := by
    rw [Draft.actual_row, Cell.handed_ofResult]
    exact handsOn head continued
  staged mapping := by
    rw [Draft.actual_row, Cell.handed_ofResult]
    exact staged mapping

/-- The row of a draft without parts below. -/
theorem Draft.threads_of_childless (single : draft.kind ≠ .transform)
    (handsOn : draft.kind = .function → draft.continued = true →
      ∃ tail ∈ next, tail.actual.input = .ofInput attempt.outcome.value?) :
    (draft.row settings flipped attempt).Threads [] [] next :=
  Draft.threads (fun _ => nofun) (fun _ _ _ => nofun) (fun _ _ _ _ _ => nofun) (fun _ => nofun)
    (fun head continued => ⟨rfl, handsOn head continued⟩) (fun mapping => absurd mapping single)

end Drafts

theorem Value.eq_list_of_list? {value : Value} {items : List Value}
    (listed : value.list? = .ok items) : value = .list items := by
  cases value with
  | list content =>
      cases listed
      rfl
  | _ => cases listed

theorem Value.context_of_slot? {value content : Value} {slot : Nat}
    (projected : value.slot? slot = .ok content) :
    ∃ slots, value = .context slots ∧ slots[slot]? = some content := by
  cases value with
  | context slots =>
      refine ⟨slots, rfl, ?_⟩
      cases found : slots[slot]? with
      | none =>
          simp only [Value.slot?, found] at projected
          cases projected
      | some other =>
          simp only [Value.slot?, found] at projected
          cases projected
          rfl
  | _ => cases projected

namespace Tree

variable {settings : Settings} {tree : Tree} {flipped : Bool} {input : Option Value}
  {account : Account}

/-- The first row of a part has the input of the part. -/
theorem Evaluates.first_input (evaluates : Evaluates settings tree flipped input account) :
    ∃ first ∈ account.forest.tops.head?, first.actual.input = .ofInput input := by
  induction evaluates with
  | identity _ _ ih => exact ih
  | chain headed _ _ =>
      subst headed
      exact ⟨_, rfl, rfl⟩
  | transform _ _ staged _ _ _ =>
      subst staged
      exact ⟨_, rfl, rfl⟩
  | _ => exact ⟨_, rfl, rfl⟩

/-- The rows that a part leaves side by side are one group, whatever comes after them. -/
theorem Evaluates.groupInputs_append (evaluates : Evaluates settings tree flipped input account)
    (rest : List Row) :
    Trace.groupInputs (account.forest.tops ++ rest) =
      .ofInput input :: Trace.groupInputs rest := by
  induction evaluates with
  | identity _ _ ih => exact ih
  | chain headed _ ih =>
      subst headed
      exact Trace.groupInputs_of_goesOn rfl ih
  | transform _ _ staged _ _ _ =>
      subst staged
      exact Trace.groupInputs_of_goesOn rfl (Trace.groupInputs_of_stops rfl)
  | @junction connective _ _ _ _ _ _ _ _ _ _ =>
      cases connective <;> exact Trace.groupInputs_of_stops rfl
  | _ => exact Trace.groupInputs_of_stops rfl

theorem Evaluates.shared_input (evaluates : Evaluates settings tree flipped input account) :
    ∀ given ∈ Trace.groupInputs account.forest.tops, given = .ofInput input := by
  have alone := evaluates.groupInputs_append []
  rw [List.append_nil] at alone
  rw [alone]
  exact fun given member => List.mem_singleton.mp member

/-- Parts side by side leave a group each. -/
theorem groupInputs_forestOf {α : Type} {visits : List (Visit α)} (given : α → Option Value)
    (each : ∀ visit ∈ visits, ∃ tree,
      Evaluates settings tree flipped (given visit.subject) visit.account) :
    Trace.groupInputs (forestOf visits).tops =
      visits.map fun visit => .ofInput (given visit.subject) := by
  induction visits with
  | nil => rfl
  | cons visit rest ih =>
      obtain ⟨tree, evaluates⟩ := each visit List.mem_cons_self
      have later := ih fun other member => each other (List.mem_cons_of_mem visit member)
      rw [forestOf, Forest.tops_append, evaluates.groupInputs_append, later, List.map_cons]

/-- No row of a part without an input has one. -/
theorem Evaluates.inputs_skipped (evaluates : Evaluates settings tree flipped input account)
    (absent : input = none) : ∀ given ∈ account.forest.inputs, given = .skipped :=
  Forest.inputs_of_unreached (evaluates.skipped absent).2

/-- The stages of a transformation: the mapping stage hands its value to the checking stage. -/
theorem Evaluates.threaded_stages {mapper checker : Tree} {mapping checking : Account}
    (mapped : Evaluates settings mapper flipped input mapping)
    (checked : Evaluates settings checker flipped (mappingStage settings flipped
      (draft input (.transform mapper checker)) mapping).outcome.value? checking)
    (mapperThreaded : mapping.forest.Threaded) (checkerThreaded : checking.forest.Threaded) :
    ((mappingStage settings flipped (draft input (.transform mapper checker)) mapping).andThen
      (checkingStage settings flipped (mappingStage settings flipped
        (draft input (.transform mapper checker)) mapping).outcome.value?
        checking)).forest.Threaded := by
  generalize value : (mappingStage settings flipped (draft input (.transform mapper checker))
    mapping).outcome.value? = next at *
  refine ⟨Draft.threads (fun _ => mapped.shared_input) nofun nofun mapped.inputs_skipped nofun
    fun _ => ⟨_, rfl, rfl, ?_⟩, mapperThreaded, ?_, checkerThreaded, trivial⟩
  · rw [← value]
    rfl
  · exact Draft.threads (fun _ => checked.shared_input) nofun nofun checked.inputs_skipped nofun
      nofun

/-- Everywhere in an evaluation the inputs of rows fit those inside and beside them. -/
theorem Evaluates.threaded (evaluates : Evaluates settings tree flipped input account) :
    account.forest.Threaded := by
  induction evaluates with
  | leaf => exact ⟨Draft.threads_of_childless nofun nofun, trivial, trivial⟩
  | @junction connective lazily flipped operands input visits _ _ evaluated _ ih =>
      have shared : ∀ given ∈ Trace.groupInputs (forestOf visits).tops, given = .ofInput input := by
        rw [groupInputs_forestOf (fun _ => input)
          fun visit member => ⟨visit.subject, evaluated visit member⟩]
        simp
      have skipped (absent : input = none) : ∀ given ∈ (forestOf visits).inputs,
          given = .skipped :=
        Forest.inputs_of_unreached
          (.of_visits fun visit member => ((evaluated visit member).skipped absent).2)
      refine ⟨?_, Forest.threaded_forestOf ih, trivial⟩
      cases connective with
      | conjunction => exact Draft.threads (fun _ => shared) nofun nofun skipped nofun nofun
      | disjunction => exact Draft.threads (fun _ => shared) nofun nofun skipped nofun nofun
  | negation evaluated _ ih =>
      exact ⟨Draft.threads (fun _ => evaluated.shared_input) nofun nofun evaluated.inputs_skipped
        nofun nofun, ih, trivial⟩
  | function => exact ⟨Draft.threads_of_childless nofun nofun, trivial, trivial⟩
  | chain headed evaluated ih =>
      subst headed
      refine ⟨Draft.threads_of_childless nofun ?_, trivial, ih⟩
      exact fun _ _ => evaluated.first_input
  | identity _ _ ih => exact ih
  | transform _ mapped staged checked mapperIH checkerIH =>
      subst staged
      exact mapped.threaded_stages checked mapperIH checkerIH
  | quantifierSkipped evaluated ih =>
      exact ⟨Draft.threads nofun nofun (fun _ _ => nofun) (fun _ => evaluated.inputs_skipped rfl)
        nofun nofun, ih, trivial⟩
  | quantifierRefused _ => exact ⟨Draft.threads_of_childless nofun nofun, trivial, trivial⟩
  | @quantifier predicate _ _ _ value items visits listed inOrder _ evaluated _ ih =>
      have given := groupInputs_forestOf some
        fun visit member => ⟨predicate, evaluated visit member⟩
      refine ⟨Draft.threads nofun nofun (fun _ => ?_) nofun nofun nofun,
        Forest.threaded_forestOf ih, trivial⟩
      intro input isInput index cell found
      cases isInput
      -- The items asked are the first ones of the list.
      rw [given, List.getElem?_map, Option.map_eq_some_iff] at found
      obtain ⟨visit, asked, rfl⟩ := found
      have subject : (visits.map Visit.subject)[index]? = some visit.subject := by
        rw [List.getElem?_map, asked]
        rfl
      obtain ⟨bound, same⟩ := List.getElem?_eq_some_iff.mp subject
      have listedThere := List.prefix_iff_getElem?.mp inOrder index bound
      rw [same] at listedThere
      exact ⟨items, visit.subject, Value.eq_list_of_list? listed, listedThere, rfl⟩
  | curriedSkipped evaluated ih =>
      exact ⟨Draft.threads nofun (fun _ _ => nofun) nofun (fun _ => evaluated.inputs_skipped rfl)
        nofun nofun, ih, trivial⟩
  | curriedRefused _ => exact ⟨Draft.threads_of_childless nofun nofun, trivial, trivial⟩
  | @curried _ slot _ _ content _ projected evaluated ih =>
      obtain ⟨slots, isContext, found⟩ := Value.context_of_slot? projected
      refine ⟨Draft.threads nofun (fun _ => ?_) nofun nofun nofun nofun, ih, trivial⟩
      intro value isInput cell member
      cases isInput
      exact ⟨slot, slots, content, rfl, isContext, found, evaluated.shared_input cell member⟩

/-- The first row of a trace has the input of the evaluation, and of every row the input fits those
of the rows below it and of the row beside it, which are found among the rows listed after it. -/
theorem evaluate_threads {tree : Tree} {settings : Settings} {input : Value}
    {evaluation : Evaluation} (evaluated : tree.evaluate settings input = .ok evaluation) :
    (∃ first ∈ evaluation.trace.head?, first.actual.input = .value input) ∧
      ∀ (before after : List Row) (row : Row), evaluation.trace = before ++ row :: after →
        row.Threads (Trace.groupInputs (Trace.children row after))
          ((Trace.under row after).map (·.actual.input)) (Trace.beside? row after) := by
  obtain ⟨account, evaluates, rfl⟩ := evaluate_ok evaluated
  constructor
  · obtain ⟨first, isFirst, given⟩ := evaluates.first_input
    refine ⟨first.atLevel 0, ?_, given⟩
    rw [Option.mem_def, Account.evaluation, Forest.head?_rows, isFirst]
    rfl
  · intro before after row split
    exact evaluates.threaded.of_split split

/-- The length of the first item is what its checking stage checks. -/
theorem evaluate_threads_length :
    ∃ evaluation, (allMatch (transform (.function .length) (.leaf .isNotNull))).evaluate {}
        (.list [.text "ab", .text "c"]) = .ok evaluation ∧
      ∃ before mapping after stage, evaluation.trace = before ++ mapping :: after ∧
        mapping.kind = .transform ∧ stage ∈ Trace.beside? mapping after ∧
        stage.actual.input = .value (.int 2) := by
  obtain ⟨evaluation, evaluated, before, mapping, after, split, isMapping, output⟩ :
      ∃ evaluation, (allMatch (transform (.function .length) (.leaf .isNotNull))).evaluate {}
          (.list [.text "ab", .text "c"]) = .ok evaluation ∧
        ∃ before mapping after, evaluation.trace = before ++ mapping :: after ∧
          mapping.kind = .transform ∧ mapping.actual.output = .value (.int 2) :=
    ⟨_, rfl, [_], _, _, rfl, rfl, rfl⟩
  have threads := (evaluate_threads evaluated).2 before after mapping split
  obtain ⟨stage, beside, -, given⟩ := threads.staged isMapping
  rw [output] at given
  exact ⟨evaluation, evaluated, before, mapping, after, stage, split, isMapping, beside, given⟩

end Tree

end Rationale
