/-
Module: Rationale.Proofs.Numerals
Purpose: Which texts show a 64-bit integer, and which problem is met first in those that show none.
Main exports: Numeral.Signed, Numeral.Shows, Numeral.Meets, Numeral.shows_or_meets,
  Numeral.read_of_shows, Numeral.read_of_meets, Text.trim_padded, Mapping.parseInt_reads
-/
import Mathlib.Algebra.Group.Int.Defs
import Mathlib.Data.List.Induction
import Rationale.Mapping.Stock
import Rationale.Proofs.Alignment

namespace Rationale

namespace Numeral

/-!
### Numerals

A numeral is told from its text alone: by its sign, by its digits and by the number that they show.
The first problem of any other text is found where the characters up to a place still show a number
in range and the one at the place takes that away.
-/

/-- The number of a sign and an absolute value. -/
def withSign (negative : Bool) (magnitude : Nat) : Int :=
  if negative then -magnitude else magnitude

/-- The number is one of the 64-bit integers. -/
def InRange (number : Int) : Prop :=
  -2 ^ 63 ≤ number ∧ number < 2 ^ 63

instance (number : Int) : Decidable (InRange number) :=
  inferInstanceAs (Decidable (_ ∧ _))

/-- The number that digits show behind a sign. -/
def shown (negative : Bool) (digits : List Char) : Int :=
  withSign negative (Nat.ofDigitChars 10 digits 0)

/-- A text is a sign and what stands behind it.  The plus sign may be left out. -/
inductive Signed : List Char → (negative : Bool) → List Char → Prop where
  | minus {rest : List Char} : Signed ('-' :: rest) true rest
  | plus {rest : List Char} : Signed ('+' :: rest) false rest
  | plain {text : List Char} (unsigned : ∀ c ∈ text.head?, c ≠ '-' ∧ c ≠ '+') :
      Signed text false text

/-- All characters are digits, and behind the sign they show a number in range. -/
def Fits (negative : Bool) (digits : List Char) : Prop :=
  (∀ c ∈ digits, c.isDigit = true) ∧ InRange (shown negative digits)

/-- The text is a sign and one or more digits, which show the number. -/
def Shows (text : List Char) (number : Int) : Prop :=
  ∃ negative digits, Signed text negative digits ∧ digits ≠ [] ∧ Fits negative digits ∧
    number = shown negative digits

/-- The problem is the first one met in the text from left to right. -/
inductive Meets : List Char → Problem → Prop where
  | empty : Meets [] .empty
  | signOnly {sign : Char} {negative : Bool} (signed : Signed [sign] negative []) :
      Meets [sign] .invalidDigit
  | stray {text before after : List Char} {c : Char} {negative : Bool}
      (signed : Signed text negative (before ++ c :: after)) (fits : Fits negative before)
      (stray : c.isDigit = false) : Meets text .invalidDigit
  | tooLarge {text before after : List Char} {c : Char}
      (signed : Signed text false (before ++ c :: after)) (fits : Fits false before)
      (digit : c.isDigit = true) (beyond : 2 ^ 63 ≤ shown false (before ++ [c])) :
      Meets text .tooLarge
  | tooSmall {text before after : List Char} {c : Char}
      (signed : Signed text true (before ++ c :: after)) (fits : Fits true before)
      (digit : c.isDigit = true) (beyond : shown true (before ++ [c]) < -2 ^ 63) :
      Meets text .tooSmall

theorem exists_signed (text : List Char) : ∃ negative rest, Signed text negative rest := by
  cases text with
  | nil => exact ⟨_, _, .plain nofun⟩
  | cons c rest =>
      by_cases minus : c = '-'
      · subst minus
        exact ⟨_, _, .minus⟩
      · by_cases plus : c = '+'
        · subst plus
          exact ⟨_, _, .plus⟩
        · exact ⟨_, _, .plain (by simp [minus, plus])⟩

/-- The characters fit, or there is a first one that does not. -/
theorem fits_or_exists (negative : Bool) (chars : List Char) :
    Fits negative chars ∨ ∃ before c after, chars = before ++ c :: after ∧ Fits negative before ∧
      (c.isDigit = false ∨ c.isDigit = true ∧ ¬ InRange (shown negative (before ++ [c]))) := by
  induction chars using List.reverseRecOn with
  | nil =>
      refine Or.inl ⟨nofun, ?_⟩
      cases negative <;> decide
  | append_singleton front c ih =>
      rcases ih with fits | ⟨before, stop, after, rfl, fits, stops⟩
      · cases isDigit : c.isDigit with
        | false => exact Or.inr ⟨front, c, [], rfl, fits, Or.inl isDigit⟩
        | true =>
            by_cases inRange : InRange (shown negative (front ++ [c]))
            · refine Or.inl ⟨List.forall_mem_append.mpr ⟨fits.1, ?_⟩, inRange⟩
              simpa using isDigit
            · exact Or.inr ⟨front, c, [], rfl, fits, Or.inr ⟨isDigit, inRange⟩⟩
      · exact Or.inr ⟨before, stop, after ++ [c], by simp, fits, stops⟩

/-- Behind a minus sign numbers only leave the range below, and otherwise only above. -/
theorem beyond_of_not_inRange {negative : Bool} {digits : List Char}
    (outside : ¬ InRange (shown negative digits)) :
    if negative then shown negative digits < -2 ^ 63 else 2 ^ 63 ≤ shown negative digits := by
  rw [InRange] at outside
  cases negative with
  | false =>
      simp only [shown, withSign, Bool.false_eq_true, if_false] at *
      omega
  | true =>
      simp only [shown, withSign, if_true] at *
      omega

/-- A text shows a number in range, or there is a first problem in it. -/
theorem shows_or_meets (text : List Char) :
    (∃ number, Shows text number) ∨ ∃ problem, Meets text problem := by
  obtain ⟨negative, rest, signed⟩ := exists_signed text
  by_cases empty : rest = []
  · subst empty
    cases signed with
    | minus => exact Or.inr ⟨_, .signOnly .minus⟩
    | plus => exact Or.inr ⟨_, .signOnly .plus⟩
    | plain _ => exact Or.inr ⟨_, .empty⟩
  · rcases fits_or_exists negative rest with
      fits | ⟨before, c, after, rfl, fits, notDigit | ⟨isDigit, outside⟩⟩
    · exact Or.inl ⟨_, negative, rest, signed, empty, fits, rfl⟩
    · exact Or.inr ⟨_, .stray signed fits notDigit⟩
    · have beyond := beyond_of_not_inRange outside
      cases negative with
      | false => exact Or.inr ⟨_, .tooLarge signed fits isDigit beyond⟩
      | true => exact Or.inr ⟨_, .tooSmall signed fits isDigit beyond⟩

/-!
### Reading

Digits are read into a growing absolute value, which stays below its limit exactly as long as the
number shown stays in range.
-/

theorem le_magnitudeLimit_iff (negative : Bool) (magnitude : Nat) :
    magnitude ≤ magnitudeLimit negative ↔ InRange (withSign negative magnitude) := by
  cases negative with
  | false =>
      simp only [magnitudeLimit, InRange, withSign, Bool.false_eq_true, if_false, Nat.pow_eq]
      omega
  | true =>
      simp only [magnitudeLimit, InRange, withSign, if_true, Nat.pow_eq]
      omega

section Magnitudes

variable {negative : Bool} {digits : List Char} {value : Nat}

/-- Digits within the limit are read, and reading goes on behind them. -/
theorem readMagnitude_append (areDigits : ∀ c ∈ digits, c.isDigit = true)
    (within : Nat.ofDigitChars 10 digits value ≤ magnitudeLimit negative) (rest : List Char) :
    readMagnitude negative value (digits ++ rest) =
      readMagnitude negative (Nat.ofDigitChars 10 digits value) rest := by
  induction digits generalizing value with
  | nil => rfl
  | cons c later ih =>
      rw [Nat.ofDigitChars_cons] at within
      obtain ⟨isDigit, others⟩ := List.forall_mem_cons.mp areDigits
      -- Digits never lower the value, so it is within the limit after each if it is after all.
      have here := Nat.le_trans (Decimal.le_ofDigitChars later _) within
      rw [List.cons_append, readMagnitude, digit?, if_pos isDigit, Nat.ofDigitChars_cons]
      simp only [if_pos here, ih others within]

/-- Characters that fit are read, and reading goes on behind them. -/
theorem Fits.readMagnitude_append (fits : Fits negative digits) (rest : List Char) :
    readMagnitude negative 0 (digits ++ rest) =
      readMagnitude negative (Nat.ofDigitChars 10 digits 0) rest :=
  Numeral.readMagnitude_append fits.1 ((le_magnitudeLimit_iff _ _).mpr fits.2) rest

section Stops

variable {before : List Char} {c : Char}

theorem Fits.readMagnitude_stray (fits : Fits negative before) (stray : c.isDigit = false)
    (after : List Char) :
    readMagnitude negative 0 (before ++ c :: after) = .error .invalidDigit := by
  rw [fits.readMagnitude_append, readMagnitude, digit?, if_neg (by simp [stray])]

theorem Fits.readMagnitude_beyond (fits : Fits negative before) (isDigit : c.isDigit = true)
    (outside : ¬ InRange (shown negative (before ++ [c]))) (after : List Char) :
    readMagnitude negative 0 (before ++ c :: after) = .error (.beyond negative) := by
  rw [shown, ← le_magnitudeLimit_iff, Nat.ofDigitChars_append, Nat.ofDigitChars_cons,
    Nat.ofDigitChars_nil] at outside
  rw [fits.readMagnitude_append, readMagnitude, digit?, if_pos isDigit]
  simp only [if_neg outside]

end Stops

end Magnitudes

section Texts

variable {text : List Char} {negative : Bool} {rest : List Char} {problem : Problem}

theorem read_of_signed (signed : Signed text negative rest) (occupied : text ≠ []) :
    read (.ofList text) = readSigned negative rest := by
  rw [read, String.toList_ofList]
  cases signed with
  | minus => rfl
  | plus => rfl
  | plain unsigned =>
      cases text with
      | nil => exact absurd rfl occupied
      | cons c others =>
          obtain ⟨noMinus, noPlus⟩ := unsigned c rfl
          split
          case h_1 nothing => cases nothing
          case h_2 same => exact absurd (List.cons.inj same).1 noMinus
          case h_3 same => exact absurd (List.cons.inj same).1 noPlus
          case h_4 => rfl

/-- What stands behind a sign is read as an absolute value. -/
theorem read_of_signed_ne_nil (signed : Signed text negative rest) (occupied : rest ≠ []) :
    read (.ofList text) =
      (readMagnitude negative 0 rest).map fun magnitude =>
        .ofInt (withSign negative magnitude) := by
  have whole : text ≠ [] := by
    cases signed with
    | minus => exact List.cons_ne_nil _ _
    | plus => exact List.cons_ne_nil _ _
    | plain _ => exact occupied
  rw [read_of_signed signed whole, readSigned, if_neg (by simpa using occupied)]
  cases readMagnitude negative 0 rest <;> rfl

/-- A number is read from every text that shows it. -/
theorem read_of_shows {number : Int} (shows : Shows text number) :
    read (.ofList text) = .ok (.ofInt number) := by
  obtain ⟨negative, digits, signed, occupied, fits, rfl⟩ := shows
  have magnitude := fits.readMagnitude_append []
  rw [List.append_nil, readMagnitude] at magnitude
  rw [read_of_signed_ne_nil signed occupied, magnitude]
  rfl

/-- The first problem of a text is the one that reading meets. -/
theorem read_of_meets (meets : Meets text problem) : read (.ofList text) = .error problem := by
  cases meets with
  | empty => rfl
  | signOnly signed =>
      rw [read_of_signed signed (List.cons_ne_nil _ _)]
      rfl
  | stray signed fits stray =>
      rw [read_of_signed_ne_nil signed (by simp), fits.readMagnitude_stray stray]
      rfl
  | tooLarge signed fits isDigit beyond =>
      have outside : ¬ InRange _ := fun inRange => absurd inRange.2 (Int.not_lt.mpr beyond)
      rw [read_of_signed_ne_nil signed (by simp), fits.readMagnitude_beyond isDigit outside]
      rfl
  | tooSmall signed fits isDigit beyond =>
      have outside : ¬ InRange _ := fun inRange => absurd inRange.1 (Int.not_le.mpr beyond)
      rw [read_of_signed_ne_nil signed (by simp), fits.readMagnitude_beyond isDigit outside]
      rfl

/-- A text is read as a number if and only if it shows the number. -/
theorem read_eq_ok_iff {i : Int64} : read (.ofList text) = .ok i ↔ Shows text i.toInt := by
  constructor
  · intro ended
    rcases shows_or_meets text with ⟨number, shows⟩ | ⟨problem, meets⟩
    · have same : (Int64.ofInt number).toInt = number := by
        obtain ⟨negative, digits, -, -, fits, rfl⟩ := shows
        exact Int64.toInt_ofInt_of_le fits.2.1 fits.2.2
      rw [read_of_shows shows] at ended
      cases ended
      rw [same]
      exact shows
    · rw [read_of_meets meets] at ended
      cases ended
  · intro shows
    rw [read_of_shows shows, Int64.ofInt_toInt]

/-- A text cannot be read if and only if there is a first problem in it, which is the one told. -/
theorem read_eq_error_iff : read (.ofList text) = .error problem ↔ Meets text problem := by
  constructor
  · intro failed
    rcases shows_or_meets text with ⟨number, shows⟩ | ⟨other, meets⟩
    · rw [read_of_shows shows] at failed
      cases failed
    · rw [read_of_meets meets] at failed
      cases failed
      exact meets
  · exact read_of_meets

end Texts

/-!
### Printing
-/

/-- The digits of an absolute value show the number behind a sign. -/
theorem shows_of_toDigits {text : List Char} {negative : Bool} {magnitude : Nat}
    (signed : Signed text negative (Nat.toDigits 10 magnitude))
    (inRange : InRange (withSign negative magnitude)) :
    Shows text (withSign negative magnitude) := by
  have value : shown negative (Nat.toDigits 10 magnitude) = withSign negative magnitude := by
    rw [shown, Nat.ofDigitChars_toDigits (by decide) (by decide)]
  refine ⟨negative, _, signed, Nat.toDigits_ne_nil, ⟨?_, ?_⟩, value.symm⟩
  · exact fun c member => Nat.isDigit_of_mem_toDigits (by decide) (by decide) member
  · rwa [value]

/-- Every 64-bit integer is shown by its printed form. -/
theorem shows_toString (i : Int64) : Shows (toString i.toInt).toList i.toInt := by
  have inRange : InRange i.toInt := ⟨i.le_toInt, i.toInt_lt⟩
  generalize i.toInt = number at inRange
  cases number with
  | ofNat magnitude =>
      change Shows magnitude.repr.toList (withSign false magnitude)
      rw [Nat.toList_repr]
      refine shows_of_toDigits (.plain fun c isFirst => ?_) inRange
      have isDigit : c.isDigit = true :=
        Nat.isDigit_of_mem_toDigits (by decide) (by decide) (List.mem_of_mem_head? isFirst)
      constructor <;> (rintro rfl; cases isDigit)
  | negSucc magnitude =>
      change Shows ("-" ++ (magnitude + 1).repr).toList (withSign true (magnitude + 1))
      rw [String.toList_append, Nat.toList_repr]
      exact shows_of_toDigits .minus inRange

end Numeral

/-!
### White space
-/

namespace Text

/-- White space around a text that neither begins nor ends with it is what trimming drops. -/
theorem trim_padded {before core after : String}
    (opens : ∀ c ∈ core.toList.head?, isBlank c = false) (ends : IsSolid core.toList)
    (blankBefore : ∀ c ∈ before.toList, isBlank c = true)
    (blankAfter : ∀ c ∈ after.toList, isBlank c = true) :
    trim (before ++ core ++ after) = core := by
  have front : (core.toList ++ after.toList).dropWhile isBlank = core.toList ++ after.toList := by
    obtain ⟨inside, last, shape, -⟩ := ends
    cases chars : core.toList with
    | nil => simp [chars] at shape
    | cons c rest =>
        have inked := opens c (by rw [chars]; rfl)
        rw [List.cons_append, List.dropWhile_cons_of_neg (by simp [inked])]
  have back : dropBlankEnd after.toList = [] := by
    rw [dropBlankEnd, List.reverse_eq_nil_iff, List.dropWhile_eq_nil_iff]
    exact fun c member => blankAfter c (List.mem_reverse.mp member)
  rw [trim, String.toList_append, String.toList_append, List.append_assoc,
    List.dropWhile_append_of_pos blankBefore, front, dropBlankEnd_append ends, back,
    List.append_nil, String.ofList_toList]

/-- A numeral neither begins nor ends with white space. -/
theorem trim_padded_of_shows {before after core : String} {number : Int}
    (shows : Numeral.Shows core.toList number)
    (blankBefore : ∀ c ∈ before.toList, isBlank c = true)
    (blankAfter : ∀ c ∈ after.toList, isBlank c = true) :
    trim (before ++ core ++ after) = core := by
  obtain ⟨negative, digits, signed, occupied, ⟨areDigits, -⟩, -⟩ := shows
  have solid := isSolid_of_digits occupied areDigits
  refine trim_padded ?_ ?_ blankBefore blankAfter
  · generalize core.toList = text at signed
    intro c isFirst
    cases signed with
    | minus =>
        cases isFirst
        decide
    | plus =>
        cases isFirst
        decide
    | plain _ => exact isBlank_of_isDigit (areDigits c (List.mem_of_mem_head? isFirst))
  · generalize core.toList = text at signed
    cases signed with
    | minus => exact solid.append ['-']
    | plus => exact solid.append ['+']
    | plain _ => exact solid

end Text

namespace Mapping

/-!
### The mapping
-/

section Texts

variable {text : String}

theorem numeralFailure_eq (problem : Numeral.Problem) :
    numeralFailure problem = { kind := "ParseIntError", message := problem.message } := rfl

theorem parseInt_of_ok {i : Int64} (read : Numeral.read (Text.trim text) = .ok i) :
    parseInt.apply (.text text) = .ok (.int i) := by
  simp only [parseInt, new, apply, Value.text?, bind, Except.bind, read]

theorem parseInt_of_error {problem : Numeral.Problem}
    (read : Numeral.read (Text.trim text) = .error problem) : parseInt.apply (.text text) =
      .error { kind := "ParseIntError", message := problem.message } := by
  simp only [parseInt, new, apply, Value.text?, bind, Except.bind, read, numeralFailure_eq]

theorem parseInt_eq_ok_iff {value : Value} : parseInt.apply (.text text) = .ok value ↔
    ∃ i : Int64, value = .int i ∧ Numeral.Shows (Text.trim text).toList i.toInt := by
  simp only [← Numeral.read_eq_ok_iff, String.ofList_toList]
  cases read : Numeral.read (Text.trim text) with
  | ok i => simp [parseInt_of_ok read, eq_comm]
  | error problem => simp [parseInt_of_error read]

theorem parseInt_eq_error_iff {failure : Failure} : parseInt.apply (.text text) = .error failure ↔
    ∃ problem, Numeral.Meets (Text.trim text).toList problem ∧
      failure = { kind := "ParseIntError", message := problem.message } := by
  simp only [← Numeral.read_eq_error_iff, String.ofList_toList]
  cases read : Numeral.read (Text.trim text) with
  | ok i => simp [parseInt_of_ok read]
  | error problem => simp [parseInt_of_error read, eq_comm]

end Texts

theorem parseInt_padded_toString (i : Int64) {before after : String}
    (blankBefore : ∀ c ∈ before.toList, Text.isBlank c = true)
    (blankAfter : ∀ c ∈ after.toList, Text.isBlank c = true) :
    parseInt.apply (.text (before ++ toString i.toInt ++ after)) = .ok (.int i) := by
  have shows := Numeral.shows_toString i
  rw [parseInt_eq_ok_iff, Text.trim_padded_of_shows shows blankBefore blankAfter]
  exact ⟨i, rfl, shows⟩

/-- The integer in a text is the one that it shows between white space, and any other text is
refused for its first problem.  Other values are refused for their type.  Every integer is read back
from its printed form, whatever white space stands around it. -/
theorem parseInt_reads :
    (∀ (text : String) (value : Value), parseInt.apply (.text text) = .ok value ↔
      ∃ i : Int64, value = .int i ∧ Numeral.Shows (Text.trim text).toList i.toInt) ∧
    (∀ (text : String) (failure : Failure), parseInt.apply (.text text) = .error failure ↔
      ∃ problem, Numeral.Meets (Text.trim text).toList problem ∧
        failure = { kind := "ParseIntError", message := problem.message }) ∧
    (∀ value : Value, (∀ text, value ≠ .text text) →
      parseInt.apply value = .error (.typeMismatch "Text" value)) ∧
    ∀ i : Int64, ∃ printed, stringify.apply (.int i) = .ok (.text printed) ∧
      ∀ before after : String, (∀ c ∈ before.toList, Text.isBlank c = true) →
        (∀ c ∈ after.toList, Text.isBlank c = true) →
        parseInt.apply (.text (before ++ printed ++ after)) = .ok (.int i) := by
  refine ⟨fun _ _ => parseInt_eq_ok_iff, fun _ _ => parseInt_eq_error_iff, ?_, fun i => ?_⟩
  · intro value other
    cases value with
    | text content => exact absurd rfl (other content)
    | _ => rfl
  · exact ⟨toString i.toInt, rfl, fun _ _ => parseInt_padded_toString i⟩

/-- The least integer is read from between a tab and an ideographic space, and a number is
refused. -/
theorem parseInt_reads_least :
    parseInt.apply (.text ("\t" ++ "-9223372036854775808" ++ "\u3000")) =
        .ok (.int Int64.minValue) ∧
      parseInt.apply (.int 7) = .error (.typeMismatch "Text" (.int 7)) := by
  obtain ⟨-, -, others, printed⟩ := parseInt_reads
  obtain ⟨text, isText, reads⟩ := printed Int64.minValue
  cases isText
  have tab : ("\t".toList.all Text.isBlank) = true := by decide
  have space : ("\u3000".toList.all Text.isBlank) = true := by decide
  exact ⟨reads _ _ (List.all_eq_true.mp tab) (List.all_eq_true.mp space), others (.int 7) nofun⟩

end Mapping

end Rationale
