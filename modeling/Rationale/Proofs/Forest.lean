/-
Module: Rationale.Proofs.Forest
Purpose: Rows with the rows that they enclose, and how a list of rows with levels shows them.
Main exports: Forest, Forest.rows, Forest.events, Forest.Place, Trace.enclosing, Row.IsChildless,
  Forest.place_of_rows, Forest.rows_of_place, Forest.rows_isChain
-/
import Mathlib.Data.List.Chain
import Rationale.Trace.Recorder

namespace Rationale

namespace Row

/-- The row, moved to a level. -/
def atLevel (level : Nat) (row : Row) : Row :=
  { row with level }

@[simp] theorem level_atLevel (level : Nat) (row : Row) : (row.atLevel level).level = level := rfl

@[simp] theorem deepen_atLevel (level levels : Nat) (row : Row) :
    (row.atLevel level).deepen levels = row.atLevel (level + levels) := rfl

/-- No row follows at once that the row encloses. -/
def IsChildless (row : Row) (later : List Row) : Prop :=
  ∀ next ∈ later.head?, next.level ≤ row.level

theorem IsChildless.append {row : Row} {later last : List Row} (first : row.IsChildless later)
    (second : row.IsChildless last) : row.IsChildless (later ++ last) := by
  intro next isNext
  rw [List.head?_append, Option.mem_def, Option.or_eq_some_iff] at isNext
  rcases isNext with early | ⟨-, late⟩
  · exact first next early
  · exact second next late

end Row

/-- The rows that enclose a place at some level, the innermost first.  They are found by looking
back from the place: each is the latest earlier row one level further out. -/
def Trace.enclosing : (earlier : List Row) → (level : Nat) → List Row
  | _, 0 => []
  | [], _ + 1 => []
  | row :: earlier, level + 1 =>
    if row.level = level then row :: Trace.enclosing earlier level
    else Trace.enclosing earlier (level + 1)

/-- Rows that stand side by side, each with the rows that it encloses.  The levels that the rows
carry do not count: they follow from the nesting. -/
inductive Forest where
  | nil
  | cons (row : Row) (inner rest : Forest)
deriving Inhabited

namespace Forest

/-- A single row with the rows that it encloses. -/
def node (row : Row) (inner : Forest) : Forest :=
  .cons row inner .nil

/-- One forest beside another. -/
def append : Forest → Forest → Forest
  | .nil, second => second
  | .cons row inner rest, second => .cons row inner (rest.append second)

instance : Append Forest := ⟨append⟩

@[simp] theorem nil_append (forest : Forest) : Forest.nil ++ forest = forest := rfl

@[simp] theorem cons_append (row : Row) (inner rest second : Forest) :
    Forest.cons row inner rest ++ second = .cons row inner (rest ++ second) := rfl

@[simp] theorem append_nil (forest : Forest) : forest ++ Forest.nil = forest := by
  induction forest with
  | nil => rfl
  | cons row inner rest _ ih => rw [cons_append, ih]

theorem append_assoc (first second third : Forest) :
    first ++ second ++ third = first ++ (second ++ third) := by
  induction first with
  | nil => rfl
  | cons row inner rest _ ih => rw [cons_append, cons_append, cons_append, ih]

/-- The rows as a trace lists them: each at its level, before those that it encloses. -/
def rows (level : Nat) : Forest → List Row
  | .nil => []
  | .cons row inner rest => row.atLevel level :: (inner.rows (level + 1) ++ rest.rows level)

@[simp] theorem rows_append (level : Nat) (first second : Forest) :
    (first ++ second).rows level = first.rows level ++ second.rows level := by
  induction first with
  | nil => rfl
  | cons row inner rest _ ih => simp [rows, ih]

theorem map_deepen_rows (level levels : Nat) (forest : Forest) :
    (forest.rows level).map (Row.deepen levels) = forest.rows (level + levels) := by
  induction forest generalizing level with
  | nil => rfl
  | cons row inner rest innerIH restIH =>
      simp only [rows, List.map_cons, List.map_append, Row.deepen_atLevel, innerIH, restIH]
      rw [Nat.add_right_comm]

/-- What is told of the rows: of each after those that it encloses.  A mapping stage is recorded
apart, so the levels told in it start anew. -/
def events (settings : Settings) (level : Nat) : Forest → List Event
  | .nil => []
  | .cons row inner rest =>
    inner.events settings (if row.kind = .transform then 0 else level + 1) ++
      (if row.kind = .leaf then [.leafEvaluated row.form] else []) ++
      (if settings.debug then [.ofRow settings.cellWidth (row.atLevel level)] else []) ++
      rest.events settings level

@[simp] theorem events_append (settings : Settings) (level : Nat) (first second : Forest) :
    (first ++ second).events settings level =
      first.events settings level ++ second.events settings level := by
  induction first with
  | nil => rfl
  | cons row inner rest _ ih => simp [events, ih]

/-!
### Levels

The first row of a forest stands at the level of the forest, none stands further out, and from one
row to the next the level rises by one at most.
-/

theorem rows_ne_nil {level : Nat} {forest : Forest} (nonempty : forest ≠ .nil) :
    forest.rows level ≠ [] := by
  cases forest with
  | nil => exact absurd rfl nonempty
  | cons row inner rest => exact List.cons_ne_nil _ _

theorem le_level_of_mem_rows {level : Nat} {forest : Forest} {row : Row}
    (member : row ∈ forest.rows level) : level ≤ row.level := by
  induction forest generalizing level with
  | nil => simp [rows] at member
  | cons first inner rest innerIH restIH =>
      simp only [rows, List.mem_cons, List.mem_append] at member
      rcases member with rfl | inside | beside
      · simp
      · exact Nat.le_of_succ_le (innerIH inside)
      · exact restIH beside

theorem level_head_rows {level : Nat} {forest : Forest} {row : Row}
    (first : row ∈ (forest.rows level).head?) : row.level = level := by
  cases forest with
  | nil => simp [rows] at first
  | cons top inner rest =>
      simp only [rows, List.head?_cons, Option.mem_def, Option.some.injEq] at first
      rw [← first, Row.level_atLevel]

theorem isChildless_rows {row : Row} {level : Nat} {forest : Forest} (outer : level ≤ row.level) :
    row.IsChildless (forest.rows level) := by
  intro next isNext
  rw [level_head_rows isNext]
  exact outer

theorem rows_isChain (level : Nat) (forest : Forest) :
    (forest.rows level).IsChain fun row next => next.level ≤ row.level + 1 := by
  induction forest generalizing level with
  | nil => exact .nil
  | cons row inner rest innerIH restIH =>
      have tail : (inner.rows (level + 1) ++ rest.rows level).IsChain
          fun row next => next.level ≤ row.level + 1 := by
        refine List.isChain_append.mpr ⟨innerIH (level + 1), restIH level, ?_⟩
        intro last isLast next isNext
        have deep := le_level_of_mem_rows (List.mem_of_mem_getLast? isLast)
        have shallow := level_head_rows isNext
        omega
      refine List.isChain_cons.mpr ⟨?_, tail⟩
      intro next isNext
      rw [List.head?_append, Option.mem_def, Option.or_eq_some_iff] at isNext
      rcases isNext with inside | ⟨-, beside⟩
      · exact (level_head_rows inside).le
      · rw [level_head_rows beside, Row.level_atLevel]
        exact Nat.le_succ level

/-!
### Places

A place in a forest is a row, the rows around it and the forest inside it.  Looking back from a row
of the trace finds exactly the rows around its place.
-/

/-- A forest at a level has a row at a place, below the rows above and around the forest below. -/
inductive Place : Nat → Forest → (above : List Row) → Row → (below : Forest) → Prop where
  | here {level : Nat} {row : Row} {inner rest : Forest} :
      Place level (.cons row inner rest) [] (row.atLevel level) inner
  | inside {level : Nat} {outer row : Row} {inner rest below : Forest} {above : List Row} :
      Place (level + 1) inner above row below →
      Place level (.cons outer inner rest) (above ++ [outer.atLevel level]) row below
  | beside {level : Nat} {other row : Row} {inner rest below : Forest} {above : List Row} :
      Place level rest above row below →
      Place level (.cons other inner rest) above row below

namespace Place

variable {level : Nat} {forest below : Forest} {above : List Row} {row : Row}

theorem level_eq (place : Place level forest above row below) :
    row.level = level + above.length := by
  induction place with
  | here => rfl
  | inside _ ih =>
      rw [ih, List.length_append, List.length_singleton]
      omega
  | beside _ ih => exact ih

end Place

end Forest

namespace Trace

theorem enclosing_append {later earlier : List Row} {level : Nat}
    (deep : ∀ row ∈ later, level ≤ row.level) :
    enclosing (later ++ earlier) level = enclosing earlier level := by
  cases level with
  | zero => simp [enclosing]
  | succ level =>
      induction later with
      | nil => rfl
      | cons row rest ih =>
          have skipped : row.level ≠ level := by
            have := deep row (by simp)
            omega
          rw [List.cons_append, enclosing, if_neg skipped]
          exact ih fun other member => deep other (by simp [member])

end Trace

namespace Forest

/-- An item of two lists put together stands in the one or in the other. -/
theorem split_append {α : Type} {first second before after : List α} {item : α}
    (split : first ++ second = before ++ item :: after) :
    (∃ between, first = before ++ item :: between ∧ after = between ++ second) ∨
      ∃ between, before = first ++ between ∧ second = between ++ item :: after := by
  rcases List.append_eq_append_iff.mp split with
    ⟨between, passed, remaining⟩ | ⟨between, passed, remaining⟩
  · exact Or.inr ⟨between, passed, remaining⟩
  · cases between with
    | nil => exact Or.inr ⟨[], by simpa using passed.symm, by simpa using remaining.symm⟩
    | cons other between =>
        obtain ⟨rfl, rfl⟩ := List.cons.inj remaining
        exact Or.inl ⟨between, passed, rfl⟩

/-- Every row of the trace has its place: the rows around it are those found by looking back from
it, and the forest inside it is listed right after it, up to a row not further in. -/
theorem place_of_rows {level : Nat} {forest : Forest} {before after : List Row} {row : Row}
    (split : forest.rows level = before ++ row :: after) (earlier : List Row) :
    ∃ above below rest, Place level forest above row below ∧
      Trace.enclosing (before.reverse ++ earlier) row.level =
        above ++ Trace.enclosing earlier level ∧
      after = below.rows (row.level + 1) ++ rest ∧ row.IsChildless rest := by
  induction forest generalizing level before after earlier with
  | nil => simp [rows] at split
  | cons first inner rest innerIH restIH =>
      cases before with
      | nil =>
          obtain ⟨rfl, rfl⟩ := List.cons.inj split
          exact ⟨[], inner, rest.rows level, .here, rfl, rfl, isChildless_rows le_rfl⟩
      | cons top before =>
          obtain ⟨rfl, remaining⟩ := List.cons.inj split
          rcases split_append remaining with ⟨between, inside, rfl⟩ | ⟨between, rfl, beside⟩
          · -- The row lies inside: looking back from it passes the top row one level further out.
            obtain ⟨above, below, tail, place, found, rfl, next⟩ :=
              innerIH inside (first.atLevel level :: earlier)
            refine ⟨_, below, tail ++ rest.rows level, .inside place, ?_, ?_, ?_⟩
            · rw [List.reverse_cons, List.append_assoc, List.singleton_append, found]
              simp [Trace.enclosing]
            · rw [List.append_assoc]
            · have := place.level_eq
              exact next.append (isChildless_rows (by omega))
          · -- The row lies beside: all that was passed lies at the level or deeper.
            have deep : ∀ other ∈ (first.atLevel level :: inner.rows (level + 1)).reverse,
                level ≤ other.level := by
              intro other member
              rcases List.mem_cons.mp (List.mem_reverse.mp member) with rfl | inside
              · simp
              · exact Nat.le_of_succ_le (le_level_of_mem_rows inside)
            obtain ⟨above, below, tail, place, found, listed, next⟩ :=
              restIH beside ((first.atLevel level :: inner.rows (level + 1)).reverse ++ earlier)
            refine ⟨above, below, tail, .beside place, ?_, listed, next⟩
            rw [Trace.enclosing_append deep] at found
            rw [← found]
            simp

/-- Every place shows in the trace, with the forest inside it right after the row. -/
theorem rows_of_place {level : Nat} {forest below : Forest} {above : List Row} {row : Row}
    (place : Place level forest above row below) :
    ∃ before rest, forest.rows level = before ++ row :: (below.rows (row.level + 1) ++ rest) ∧
      row.IsChildless rest := by
  induction place with
  | @here level row inner rest =>
      exact ⟨[], rest.rows level, rfl, isChildless_rows le_rfl⟩
  | @inside level outer row inner rest below above place ih =>
      obtain ⟨before, tail, listed, next⟩ := ih
      refine ⟨outer.atLevel level :: before, tail ++ rest.rows level, ?_, ?_⟩
      · rw [rows, listed]
        simp
      · have := place.level_eq
        exact next.append (isChildless_rows (by omega))
  | @beside level other row inner rest below above place ih =>
      obtain ⟨before, tail, listed, next⟩ := ih
      refine ⟨other.atLevel level :: (inner.rows (level + 1) ++ before), tail, ?_, next⟩
      rw [rows, listed]
      simp

end Forest

end Rationale
