/-
Module: Rationale.Proofs.Places
Purpose: Conditions on the rows of a forest, each taken with the forest inside it, and the rows that
  stand side by side.
Main exports: Forest.Everywhere, Forest.Everywhere.at_place, Forest.Somewhere,
  Forest.Somewhere.place, Forest.tops, Forest.filter_level_rows, Forest.mem_rows_of_mem_tops,
  Forest.isChildless_iff
-/
import Rationale.Proofs.Account

namespace Rationale

namespace Forest

/-!
### Everywhere and somewhere

A condition may speak of a row and of what is inside it.  It holds at every place of a forest or at
some place; both are carried through the ways in which forests are put together.
-/

/-- The condition holds of every row with the forest inside it. -/
def Everywhere (condition : Row → Forest → Prop) : Forest → Prop
  | .nil => True
  | .cons row inner rest =>
    condition row inner ∧ inner.Everywhere condition ∧ rest.Everywhere condition

/-- The condition holds of some row with the forest inside it. -/
def Somewhere (condition : Row → Forest → Prop) : Forest → Prop
  | .nil => False
  | .cons row inner rest =>
    condition row inner ∨ inner.Somewhere condition ∨ rest.Somewhere condition

section Conditions

variable {condition weaker : Row → Forest → Prop} {first second inner forest : Forest} {row : Row}

theorem Everywhere.node (here : condition row inner) (inside : inner.Everywhere condition) :
    (Forest.node row inner).Everywhere condition :=
  ⟨here, inside, trivial⟩

theorem Everywhere.append (left : first.Everywhere condition)
    (right : second.Everywhere condition) : (first ++ second).Everywhere condition := by
  induction first with
  | nil => exact right
  | cons row inner rest _ ih =>
      obtain ⟨here, inside, beside⟩ := left
      exact ⟨here, inside, ih beside⟩

theorem Everywhere.mono (holds : forest.Everywhere condition)
    (implies : ∀ row inner, condition row inner → weaker row inner) :
    forest.Everywhere weaker := by
  induction forest with
  | nil => trivial
  | cons row inner rest innerIH restIH =>
      obtain ⟨here, inside, beside⟩ := holds
      exact ⟨implies row inner here, innerIH inside, restIH beside⟩

theorem Everywhere.of_visits {α : Type} {visits : List (Visit α)}
    (each : ∀ visit ∈ visits, visit.account.forest.Everywhere condition) :
    (forestOf visits).Everywhere condition := by
  induction visits with
  | nil => trivial
  | cons visit rest ih =>
      refine (each visit (by simp)).append (ih ?_)
      intro other member
      exact each other (by simp [member])

/-- Of the row at a place the condition holds as of the row that the forest carries there. -/
theorem Everywhere.at_place {level : Nat} {below : Forest} {above : List Row}
    (holds : forest.Everywhere condition) (place : Place level forest above row below) :
    ∃ (carried : Row) (shownAt : Nat),
      row = carried.atLevel shownAt ∧ condition carried below := by
  induction place with
  | here => exact ⟨_, _, rfl, holds.1⟩
  | inside _ ih => exact ih holds.2.1
  | beside _ ih => exact ih holds.2.2

/-- Of a row of the trace the condition holds as of one that the forest carries. -/
theorem Everywhere.of_mem_rows {level : Nat} (holds : forest.Everywhere condition)
    (member : row ∈ forest.rows level) :
    ∃ (carried : Row) (shownAt : Nat) (inside : Forest),
      row = carried.atLevel shownAt ∧ condition carried inside := by
  obtain ⟨before, after, split⟩ := List.append_of_mem member
  obtain ⟨above, below, rest, place, -⟩ := place_of_rows split []
  obtain ⟨carried, shownAt, same, here⟩ := holds.at_place place
  exact ⟨carried, shownAt, below, same, here⟩

theorem Somewhere.append_left (holds : first.Somewhere condition) (second : Forest) :
    (first ++ second).Somewhere condition := by
  induction first with
  | nil => exact holds.elim
  | cons row inner rest _ ih =>
      rcases holds with here | inside | beside
      · exact Or.inl here
      · exact Or.inr (Or.inl inside)
      · exact Or.inr (Or.inr (ih beside))

theorem Somewhere.append_right (holds : second.Somewhere condition) (first : Forest) :
    (first ++ second).Somewhere condition := by
  induction first with
  | nil => exact holds
  | cons row inner rest _ ih => exact Or.inr (Or.inr ih)

theorem Somewhere.inside (holds : inner.Somewhere condition) (row : Row) :
    (Forest.node row inner).Somewhere condition :=
  Or.inr (Or.inl holds)

theorem Somewhere.of_visit {α : Type} {visits : List (Visit α)} {visit : Visit α}
    (holds : visit.account.forest.Somewhere condition) (member : visit ∈ visits) :
    (forestOf visits).Somewhere condition := by
  induction visits with
  | nil => cases member
  | cons first rest ih =>
      rcases List.mem_cons.mp member with rfl | later
      · exact holds.append_left _
      · exact (ih later).append_right _

/-- The row of which the condition holds has its place in the forest. -/
theorem Somewhere.place (holds : forest.Somewhere condition) (level : Nat) :
    ∃ above below, ∃ (carried : Row) (shownAt : Nat),
      Place level forest above (carried.atLevel shownAt) below ∧ condition carried below := by
  induction forest generalizing level with
  | nil => exact holds.elim
  | cons top inner rest innerIH restIH =>
      rcases holds with here | inside | beside
      · exact ⟨[], inner, top, level, .here, here⟩
      · obtain ⟨above, below, carried, shownAt, place, found⟩ := innerIH inside (level + 1)
        exact ⟨_, below, carried, shownAt, .inside place, found⟩
      · obtain ⟨above, below, carried, shownAt, place, found⟩ := restIH beside level
        exact ⟨above, below, carried, shownAt, .beside place, found⟩

end Conditions

/-- A row of a trace is followed by a row inside it unless there is nothing inside. -/
theorem isChildless_iff {row : Row} {below : Forest} {rest : List Row}
    (next : row.IsChildless rest) :
    row.IsChildless (below.rows (row.level + 1) ++ rest) ↔ below = .nil := by
  constructor
  · intro childless
    cases below with
    | nil => rfl
    | cons first inner beside =>
        have outer := childless (first.atLevel (row.level + 1)) rfl
        rw [Row.level_atLevel] at outer
        omega
  · rintro rfl
    exact next

/-!
### Side by side
-/

/-- The rows that stand side by side in the forest. -/
def tops : Forest → List Row
  | .nil => []
  | .cons row _ rest => row :: rest.tops

@[simp] theorem tops_node (row : Row) (inner : Forest) : (node row inner).tops = [row] := rfl

@[simp] theorem tops_append (first second : Forest) :
    (first ++ second).tops = first.tops ++ second.tops := by
  induction first with
  | nil => rfl
  | cons row inner rest _ ih => simp [tops, ih]

/-- In the trace, the rows at the level of the forest are those side by side. -/
theorem filter_level_rows (level : Nat) (forest : Forest) :
    (forest.rows level).filter (fun row => row.level == level) =
      forest.tops.map (Row.atLevel level) := by
  induction forest with
  | nil => rfl
  | cons row inner rest _ ih =>
      have deeper : (inner.rows (level + 1)).filter (fun row => row.level == level) = [] := by
        rw [List.filter_eq_nil_iff]
        intro other member
        have := le_level_of_mem_rows member
        simp only [beq_iff_eq]
        omega
      simp [rows, tops, deeper, ih]

/-- In the trace, every row side by side is listed at the level of the forest. -/
theorem mem_rows_of_mem_tops {forest : Forest} {row : Row} (member : row ∈ forest.tops)
    (level : Nat) : row.atLevel level ∈ forest.rows level := by
  have listed : row.atLevel level ∈ forest.tops.map (Row.atLevel level) :=
    List.mem_map_of_mem member
  rw [← filter_level_rows] at listed
  exact List.mem_of_mem_filter listed

end Forest

end Rationale
