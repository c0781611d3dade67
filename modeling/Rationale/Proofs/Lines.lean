/-
Module: Rationale.Proofs.Lines
Purpose: The lines of texts that are joined by line feeds, and where two such texts have different
  lines.
Main exports: Text.IsSolid, Text.dropBlankEnd_append, Text.linesOf_intercalate,
  Text.length_linesOf, Text.exists_linesOf_append, Text.lines_unlines,
  Text.lines_unlines_of_feedless, Text.eq_of_flatMap_eq
-/
import Mathlib.Data.List.Basic
import Rationale.Text.Blank
import Rationale.Text.Lines

namespace Rationale.Text

/-- The text ends in a character that is no white space. -/
def IsSolid (text : List Char) : Prop :=
  ∃ before last, text = before ++ [last] ∧ isBlank last = false

theorem ne_of_isBlank {c blank : Char} (inked : isBlank c = false)
    (white : isBlank blank = true) : c ≠ blank := by
  rintro rfl
  rw [inked] at white
  cases white

theorem IsSolid.append {text : List Char} (solid : IsSolid text) (front : List Char) :
    IsSolid (front ++ text) := by
  obtain ⟨before, last, rfl, inked⟩ := solid
  exact ⟨front ++ before, last, by simp, inked⟩

/-!
### Trimming
-/

theorem dropBlankEnd_of_isSolid {text : List Char} (solid : IsSolid text) :
    dropBlankEnd text = text := by
  obtain ⟨before, last, rfl, inked⟩ := solid
  simp [dropBlankEnd, inked]

/-- Trimming never goes back over a character that is no white space. -/
theorem dropBlankEnd_append {front : List Char} (solid : IsSolid front) (text : List Char) :
    dropBlankEnd (front ++ text) = front ++ dropBlankEnd text := by
  have whole := dropBlankEnd_of_isSolid solid
  rw [dropBlankEnd, List.reverse_append, List.dropWhile_append]
  split
  · rename_i blank
    rw [List.isEmpty_iff] at blank
    rw [dropBlankEnd, blank, List.reverse_nil, List.append_nil]
    exact whole
  · rw [List.reverse_append, List.reverse_reverse]
    rfl

theorem isSolid_append_dropBlankEnd {front : List Char} (solid : IsSolid front)
    (text : List Char) : IsSolid (front ++ dropBlankEnd text) := by
  have reversed : ∀ reverse : List Char, IsSolid (front ++ dropBlankEnd reverse.reverse) := by
    intro reverse
    induction reverse with
    | nil => simpa [dropBlankEnd] using solid
    | cons last before ih =>
        cases blank : isBlank last with
        | true => simpa [dropBlankEnd, blank] using ih
        | false =>
            have ends : IsSolid (last :: before).reverse :=
              ⟨before.reverse, last, List.reverse_cons, blank⟩
            rw [dropBlankEnd_of_isSolid ends]
            exact ends.append front
  simpa using reversed text.reverse

/-!
### Lines

A text closes some lines and leaves the last one open, and what follows goes on in the open line.
Only a line feed directly behind the text would change what the text closes.
-/

theorem linesOf_cons {c : Char} {text : List Char} (noFeed : c ≠ '\n')
    (noReturn : c = '\r' → text.head? ≠ some '\n') :
    linesOf (c :: text) = consLine c (linesOf text) := by
  rw [linesOf]
  · exact noFeed
  · rintro rest rfl rfl
    exact noReturn rfl rfl

theorem foldr_consLine_cons (opened line : List Char) (lines : List (List Char)) :
    opened.foldr consLine (line :: lines) = (opened ++ line) :: lines := by
  induction opened with
  | nil => rfl
  | cons c rest ih =>
      rw [List.foldr_cons, ih]
      rfl

theorem linesOf_of_noFeed {text : List Char} (nonempty : text ≠ []) (noFeed : '\n' ∉ text) :
    linesOf text = [text] := by
  induction text with
  | nil => exact absurd rfl nonempty
  | cons c rest ih =>
      rw [List.mem_cons, not_or] at noFeed
      have noHead : rest.head? ≠ some '\n' := fun first => noFeed.2 (List.mem_of_head? first)
      rw [linesOf_cons (Ne.symm noFeed.1) fun _ => noHead]
      cases rest with
      | nil => rfl
      | cons next rest =>
          rw [ih (List.cons_ne_nil _ _) noFeed.2]
          rfl

/-- A text closes as many lines as it has line feeds, and what follows goes on in an open line. -/
theorem exists_linesOf_append (front : List Char) :
    ∃ (closed : List (List Char)) (opened : List Char), closed.length = front.count '\n' ∧
      ∀ rest : List Char, rest.head? ≠ some '\n' →
        linesOf (front ++ rest) = closed ++ opened.foldr consLine (linesOf rest) := by
  fun_induction linesOf front with
  | case1 => exact ⟨[], [], rfl, fun _ _ => rfl⟩
  | case2 text ih =>
      obtain ⟨closed, opened, counted, follows⟩ := ih
      refine ⟨[] :: closed, opened, by simp [counted], fun rest apart => ?_⟩
      rw [List.cons_append, linesOf, follows rest apart]
      rfl
  | case3 text ih =>
      obtain ⟨closed, opened, counted, follows⟩ := ih
      refine ⟨[] :: closed, opened, by simp [counted], fun rest apart => ?_⟩
      rw [List.cons_append, List.cons_append, linesOf, follows rest apart]
      rfl
  | case4 c text noFeed noReturn ih =>
      obtain ⟨closed, opened, counted, follows⟩ := ih
      have goesOn : ∀ rest : List Char, rest.head? ≠ some '\n' →
          linesOf (c :: text ++ rest) =
            consLine c (closed ++ opened.foldr consLine (linesOf rest)) := by
        intro rest apart
        rw [List.cons_append, linesOf_cons noFeed, follows rest apart]
        intro isReturn
        cases text with
        | nil => exact apart
        | cons next text =>
            intro first
            cases first
            exact noReturn text isReturn rfl
      have same : (c :: text).count '\n' = text.count '\n' := List.count_cons_of_ne noFeed
      rw [same, ← counted]
      cases closed with
      | nil => exact ⟨[], c :: opened, rfl, goesOn⟩
      | cons line closed => exact ⟨(c :: line) :: closed, opened, rfl, goesOn⟩

section Solid

variable {text : List Char}

theorem IsSolid.linesOf_eq (solid : IsSolid text) :
    ∃ closed line, line ≠ [] ∧ closed.length = text.count '\n' ∧
      linesOf text = closed ++ [line] ∧
      ∀ rest, linesOf (text ++ '\n' :: rest) = closed ++ line :: linesOf rest := by
  obtain ⟨before, last, rfl, inked⟩ := solid
  have noFeed : last ≠ '\n' := ne_of_isBlank inked (by decide)
  have noReturn : last ≠ '\r' := ne_of_isBlank inked (by decide)
  obtain ⟨closed, opened, counted, follows⟩ := exists_linesOf_append before
  refine ⟨closed, opened ++ [last], by simp, ?_, ?_, fun rest => ?_⟩
  · simp [counted, noFeed]
  · have alone : linesOf [last] = [[last]] :=
      linesOf_of_noFeed (by simp) (by simpa using noFeed.symm)
    rw [follows [last] (by simpa using noFeed), alone, foldr_consLine_cons]
  · have ended : linesOf (last :: '\n' :: rest) = [last] :: linesOf rest := by
      rw [linesOf_cons noFeed fun same => absurd same noReturn, linesOf]
      rfl
    rw [List.append_assoc, List.singleton_append, follows _ (by simpa using noFeed), ended,
      foldr_consLine_cons]

theorem length_linesOf (solid : IsSolid text) : (linesOf text).length = text.count '\n' + 1 := by
  obtain ⟨closed, line, -, counted, lines, -⟩ := solid.linesOf_eq
  rw [lines, List.length_append, counted]
  rfl

theorem linesOf_append_feed (solid : IsSolid text) (rest : List Char) :
    linesOf (text ++ '\n' :: rest) = linesOf text ++ linesOf rest := by
  obtain ⟨closed, line, -, -, lines, follows⟩ := solid.linesOf_eq
  rw [lines, follows, List.append_assoc]
  rfl

end Solid

/-- The lines of texts that are joined by line feeds are the lines of all of them in order, as long
as every text ends in ink. -/
theorem linesOf_intercalate {texts : List (List Char)} (solid : ∀ text ∈ texts, IsSolid text) :
    linesOf (['\n'].intercalate texts) = texts.flatMap linesOf := by
  induction texts with
  | nil => rfl
  | cons text rest ih =>
      have joined := ih fun other member => solid other (List.mem_cons_of_mem text member)
      cases rest with
      | nil => simp
      | cons next rest =>
          rw [List.intercalate_cons_cons, List.append_assoc, List.singleton_append,
            linesOf_append_feed (solid text List.mem_cons_self), joined]
          rfl

/-- The last line of such texts is not empty. -/
theorem getLast?_flatMap_linesOf {texts : List (List Char)}
    (solid : ∀ text ∈ texts, IsSolid text) : (texts.flatMap linesOf).getLast? ≠ some [] := by
  induction texts with
  | nil => simp
  | cons text rest ih =>
      have later := ih fun other member => solid other (List.mem_cons_of_mem text member)
      obtain ⟨closed, line, inked, -, lines, -⟩ := (solid text List.mem_cons_self).linesOf_eq
      rw [List.flatMap_cons, List.getLast?_append, lines]
      cases last : (rest.flatMap linesOf).getLast? with
      | none => simpa using inked
      | some found => simpa [last] using later

/-- Behind the same text, texts without line feeds that leave the same lines are the same. -/
theorem eq_of_linesOf_append {front first second : List Char} (solid : IsSolid front)
    (noFeed : '\n' ∉ first) (alsoNoFeed : '\n' ∉ second)
    (same : linesOf (front ++ first) = linesOf (front ++ second)) : first = second := by
  obtain ⟨before, last, rfl, inked⟩ := solid
  have notFeed : '\n' ≠ last := (ne_of_isBlank inked (by decide)).symm
  obtain ⟨closed, opened, -, follows⟩ := exists_linesOf_append before
  have shown : ∀ text : List Char, '\n' ∉ text →
      linesOf (before ++ [last] ++ text) = closed ++ [opened ++ last :: text] := by
    intro text absent
    have alone : linesOf (last :: text) = [last :: text] :=
      linesOf_of_noFeed (List.cons_ne_nil _ _) (by simp [notFeed, absent])
    rw [List.append_assoc, List.singleton_append, follows _ (by simpa using notFeed.symm), alone,
      foldr_consLine_cons]
  rw [shown first noFeed, shown second alsoNoFeed] at same
  simpa using same

/-- Texts end in ink, so the lines of their join are their lines one after the other. -/
theorem lines_unlines {texts : List String} (solid : ∀ text ∈ texts, IsSolid text.toList) :
    lines (unlines texts) = ((texts.map String.toList).flatMap linesOf).map String.ofList := by
  have chars : (unlines texts).toList = ['\n'].intercalate (texts.map String.toList) := by
    rw [unlines, String.toList_intercalate]
    rfl
  rw [lines, chars, linesOf_intercalate]
  intro text member
  obtain ⟨source, isText, rfl⟩ := List.mem_map.mp member
  exact solid source isText

/-- Texts that end in ink and hold no line feed are the lines of their join. -/
theorem lines_unlines_of_feedless {texts : List String}
    (solid : ∀ text ∈ texts, IsSolid text.toList)
    (feedless : ∀ text ∈ texts, '\n' ∉ text.toList) : lines (unlines texts) = texts := by
  have single : ∀ text ∈ texts, linesOf text.toList = [text.toList] := by
    intro text member
    obtain ⟨before, last, ends, -⟩ := solid text member
    exact linesOf_of_noFeed (by simp [ends]) (feedless text member)
  rw [lines_unlines solid, List.flatMap_map, List.flatMap_congr single, ← List.map_eq_flatMap,
    List.map_map]
  simp

/-- No digit is a line feed. -/
theorem feed_not_mem_toDigits {base : Nat} (usable : 1 < base) (number : Nat) :
    '\n' ∉ Nat.toDigits base number := by
  have digit : ∀ value : Nat, '\n' ≠ value.digitChar :=
    fun value => (Nat.digitChar_ne '\n' (by decide)).symm
  induction number using Nat.strongRecOn with
  | ind number ih =>
      rw [Nat.toDigits_eq_if usable]
      split
      · simp [digit]
      · have smaller : number / base < number := Nat.div_lt_self (by omega) usable
        simp [digit, ih _ smaller]

theorem length_flatMap_le {α β : Type} {first second : α → List β} {items : List α}
    (shorter : ∀ item ∈ items, (first item).length ≤ (second item).length) :
    (items.flatMap first).length ≤ (items.flatMap second).length := by
  induction items with
  | nil => exact Nat.le_refl _
  | cons item rest ih =>
      have later := ih fun other member => shorter other (List.mem_cons_of_mem item member)
      rw [List.flatMap_cons, List.flatMap_cons, List.length_append, List.length_append]
      exact Nat.add_le_add (shorter item List.mem_cons_self) later

/-- Where what comes of the items in one way is never longer than in the other, the results can only
be the same item by item. -/
theorem eq_of_flatMap_eq {α β : Type} {first second : α → List β} {items : List α}
    (shorter : ∀ item ∈ items, (first item).length ≤ (second item).length)
    (same : items.flatMap first = items.flatMap second) :
    ∀ item ∈ items, first item = second item := by
  induction items with
  | nil => simp
  | cons item rest ih =>
      have here := shorter item List.mem_cons_self
      have beyond : ∀ other ∈ rest, (first other).length ≤ (second other).length :=
        fun other member => shorter other (List.mem_cons_of_mem item member)
      have remaining := length_flatMap_le beyond
      rw [List.flatMap_cons, List.flatMap_cons] at same
      have total := congrArg List.length same
      rw [List.length_append, List.length_append] at total
      obtain ⟨equal, later⟩ := List.append_inj same (by omega)
      intro other member
      rcases List.mem_cons.mp member with rfl | isLater
      · exact equal
      · exact ih beyond later other isLater

end Rationale.Text
