/-
Module: Rationale.Proofs.Notation
Purpose: A decimal that is written and read again keeps its digits, its scale and, unless it is
  zero, its sign.
Main exports: Decimal.readDigits?_digits, Decimal.placePoint_eq, Decimal.readPlain?_plain,
  Decimal.read?_print
-/
import Rationale.Decimal.Notation

namespace Rationale.Decimal

open Numeral (digit?)

section Digits

variable {pointed digits : Bool} {mantissa scale : Nat}

theorem le_ofDigitChars (chars : List Char) (value : Nat) :
    value ≤ Nat.ofDigitChars 10 chars value := by
  induction chars generalizing value with
  | nil => exact Nat.le_refl value
  | cons c rest ih =>
      rw [Nat.ofDigitChars_cons]
      apply Nat.le_trans _ (ih (10 * value + (c.toNat - '0'.toNat)))
      omega

/-- A digit that still fits is read as one more digit. -/
theorem readDigits?_cons {c : Char} (rest : List Char) (isDigit : c.isDigit = true)
    (fits : 10 * mantissa + (c.toNat - '0'.toNat) < mantissaBound)
    (room : pointed = true → scale < maxScale) :
    readDigits? pointed digits mantissa scale (c :: rest) =
      readDigits? pointed true (10 * mantissa + (c.toNat - '0'.toNat))
        (if pointed then scale + 1 else scale) rest := by
  have value : digit? c = some (c.toNat - '0'.toNat) := if_pos isDigit
  have notAbove : ¬ mantissaBound ≤ 10 * mantissa + (c.toNat - '0'.toNat) := Nat.not_le.mpr fits
  have notFull : ¬ (pointed && (scale == maxScale ||
      mantissaBound ≤ 10 * mantissa + (c.toNat - '0'.toNat))) = true := by
    intro full
    simp only [Bool.and_eq_true, Bool.or_eq_true, beq_iff_eq, decide_eq_true_eq, notAbove,
      or_false] at full
    exact Nat.ne_of_lt (room full.1) full.2
  rw [readDigits?, value]
  dsimp only
  rw [if_neg notFull, if_neg notAbove]

variable (pointed digits) in
/-- Digits that fit are read as they stand, without rounding. -/
theorem readDigits?_digits {chars : List Char} (rest : List Char)
    (areDigits : ∀ c ∈ chars, c.isDigit = true)
    (fits : Nat.ofDigitChars 10 chars mantissa < mantissaBound)
    (room : pointed = true → scale + chars.length ≤ maxScale) :
    readDigits? pointed digits mantissa scale (chars ++ rest) =
      readDigits? pointed (digits || !chars.isEmpty) (Nat.ofDigitChars 10 chars mantissa)
        (if pointed then scale + chars.length else scale) rest := by
  induction chars generalizing digits mantissa scale with
  | nil => simp
  | cons c later ih =>
      rw [Nat.ofDigitChars_cons] at fits
      -- Digits never lower the value, so it fits after each of them if it fits after all.
      have here := Nat.lt_of_le_of_lt (le_ofDigitChars later _) fits
      have others := fun digit member => areDigits digit (List.mem_cons_of_mem c member)
      rw [List.cons_append, readDigits?_cons _ (areDigits c List.mem_cons_self) here,
        ih true others fits, Nat.ofDigitChars_cons]
      · cases pointed <;> simp [Nat.add_comm, Nat.add_left_comm]
      · intro isPointed
        have := room isPointed
        simp only [isPointed, if_true, List.length_cons] at this ⊢
        omega
      · intro isPointed
        have := room isPointed
        rw [List.length_cons] at this
        omega

/-- The point is passed over once. -/
theorem readDigits?_point (rest : List Char) :
    readDigits? false digits mantissa scale ('.' :: rest) =
      readDigits? true digits mantissa scale rest := by
  have noDigit : digit? '.' = none := if_neg (by decide)
  rw [readDigits?, noDigit]
  rfl

end Digits

/-- A number with its point, from its digits with zeros before them: there is a digit before the
point, and the fraction has as many as the scale says. -/
theorem placePoint_eq (scale : Nat) (digits : List Char) :
    ∃ whole fraction : List Char,
      whole ++ fraction = List.replicate (scale + 1 - digits.length) '0' ++ digits ∧
        whole ≠ [] ∧ fraction.length = scale ∧
        placePoint scale digits =
          if fraction.isEmpty then whole else whole ++ '.' :: fraction := by
  have long : scale < (List.replicate (scale + 1 - digits.length) '0' ++ digits).length := by
    rw [List.length_append, List.length_replicate]
    omega
  refine ⟨_, _, List.take_append_drop _ _, ?_, ?_, rfl⟩
  · apply List.ne_nil_of_length_pos
    rw [List.length_take]
    omega
  · rw [List.length_drop]
    omega

theorem isDigit_of_mem_replicate {count : Nat} {digits : List Char}
    (areDigits : ∀ c ∈ digits, c.isDigit = true) :
    ∀ c ∈ List.replicate count '0' ++ digits, c.isDigit = true := by
  intro c member
  rcases List.mem_append.mp member with padding | inside
  · rw [List.eq_of_mem_replicate padding]
    rfl
  · exact areDigits c inside

theorem readDigits?_placePoint {scale : Nat} {digits : List Char}
    (areDigits : ∀ c ∈ digits, c.isDigit = true)
    (fits : Nat.ofDigitChars 10 digits 0 < mantissaBound) (fine : scale ≤ maxScale) :
    readDigits? false false 0 0 (placePoint scale digits) =
      some (Nat.ofDigitChars 10 digits 0, scale) := by
  obtain ⟨whole, fraction, together, occupied, isScale, placed⟩ := placePoint_eq scale digits
  have all : ∀ c ∈ whole ++ fraction, c.isDigit = true := by
    rw [together]
    exact isDigit_of_mem_replicate areDigits
  have value : Nat.ofDigitChars 10 fraction (Nat.ofDigitChars 10 whole 0) =
      Nat.ofDigitChars 10 digits 0 := by
    rw [← Nat.ofDigitChars_append, together, Nat.ofDigitChars_append,
      Nat.ofDigitChars_replicate_zero, Nat.mul_zero]
  have wholeFits : Nat.ofDigitChars 10 whole 0 < mantissaBound :=
    Nat.lt_of_le_of_lt (le_ofDigitChars fraction _) (value ▸ fits)
  have begun : whole.isEmpty = false := by simpa using occupied
  have wholeRead (rest : List Char) : readDigits? false false 0 0 (whole ++ rest) =
      readDigits? false true (Nat.ofDigitChars 10 whole 0) 0 rest := by
    rw [readDigits?_digits false false rest
      (fun c member => all c (List.mem_append_left fraction member)) wholeFits nofun, begun]
    rfl
  rw [placed]
  cases fraction with
  | nil =>
      have read := wholeRead []
      rw [List.append_nil] at read
      rw [List.isEmpty_nil, if_pos rfl, read, ← value, ← isScale]
      rfl
  | cons first later =>
      have read := readDigits?_digits true true []
        (fun c member => all c (List.mem_append_right whole member)) (value ▸ fits)
        (fun _ => by rwa [isScale, Nat.zero_add])
      rw [List.append_nil, value, isScale, Nat.zero_add] at read
      rw [List.isEmpty_cons, if_neg Bool.false_ne_true, wholeRead, readDigits?_point, read]
      rfl

section Signs

variable {first : Char} {rest : List Char}

theorem exists_digit_of_placePoint (scale : Nat) {digits : List Char}
    (areDigits : ∀ c ∈ digits, c.isDigit = true) :
    ∃ first rest, placePoint scale digits = first :: rest ∧ first.isDigit = true := by
  obtain ⟨whole, fraction, together, occupied, -, placed⟩ := placePoint_eq scale digits
  obtain ⟨first, others, rfl⟩ := List.exists_cons_of_ne_nil occupied
  have isDigit : first.isDigit = true := by
    apply isDigit_of_mem_replicate areDigits first
    rw [← together]
    exact List.mem_cons_self
  rw [placed]
  by_cases isWhole : fraction.isEmpty = true
  · exact ⟨first, others, if_pos isWhole, isDigit⟩
  · exact ⟨first, _, if_neg isWhole, isDigit⟩

/-- A number without a sign is read as it stands. -/
theorem readPlain?_of_digit (isDigit : first.isDigit = true) :
    readPlain? (first :: rest) =
      (readDigits? false false 0 0 (first :: rest)).bind fun (mantissa, scale) =>
        make? false mantissa scale := by
  rw [readPlain?]
  · rfl
  all_goals
    rintro _ ⟨⟩
    exact absurd isDigit (by decide)

end Signs

/-- What is written in plain notation is read with the sign dropped from a zero. -/
theorem readPlain?_plain {mantissa scale : Nat} (negative : Bool) (fits : mantissa < mantissaBound)
    (fine : scale ≤ maxScale) :
    readPlain? (plain negative mantissa scale) =
      make? (negative && mantissa != 0) mantissa scale := by
  have areDigits : ∀ c ∈ Nat.toDigits 10 mantissa, c.isDigit = true :=
    fun c member => Nat.isDigit_of_mem_toDigits (by decide) (by decide) member
  have value : Nat.ofDigitChars 10 (Nat.toDigits 10 mantissa) 0 = mantissa :=
    Nat.ofDigitChars_toDigits (by decide) (by decide)
  have read := readDigits?_placePoint areDigits (value.symm ▸ fits) fine
  rw [value] at read
  cases negative with
  | true =>
      rw [plain, if_pos rfl, List.singleton_append, readPlain?]
      simp [read]
  | false =>
      obtain ⟨first, rest, shape, isDigit⟩ := exists_digit_of_placePoint scale areDigits
      rw [plain, if_neg Bool.false_ne_true, List.nil_append, shape, readPlain?_of_digit isDigit,
        ← shape, read]
      rfl

theorem make?_self (d : Decimal) : make? d.negative d.mantissa d.scale = some d :=
  dif_pos ⟨d.mantissa_lt, d.scale_le⟩

/-- A decimal is read back from its written form, with its scale, except for the sign of a zero. -/
theorem read?_print (d : Decimal) :
    read? d.print = make? (d.negative && d.mantissa != 0) d.mantissa d.scale := by
  have read := readPlain?_plain d.negative d.mantissa_lt d.scale_le
  rw [read?, print, String.toList_ofList, read, make?, dif_pos ⟨d.mantissa_lt, d.scale_le⟩]
  rfl

theorem read?_print_of_signed (d : Decimal) (signed : d.negative = true → d.mantissa ≠ 0) :
    read? d.print = some d := by
  have sign : (d.negative && d.mantissa != 0) = d.negative := by
    cases isNegative : d.negative with
    | false => rfl
    | true => simpa using signed isNegative
  rw [read?_print, sign, make?_self]

end Rationale.Decimal
