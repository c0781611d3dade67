/-
Module: Rationale.Proofs.CaseTables
Purpose: What the case tables make of a character, and which letters do not come back from their
  upper case.
Main exports: Text.mapCase_of_mem, Text.lowerChar_of_mem_lowerChar, Text.oneWay, Text.Raises,
  Text.upperChar_raises
-/
import Mathlib.Data.List.Chain
import Rationale.Text.LetterCase

namespace Rationale.Text

/-!
### Sets of code points

A set of code points is a number with a bit for each member.  Two tables are set against each other
by one operation on large numbers, where going through all pairs of their entries would take long.
-/

/-- The set of the given code points. -/
def codeSet (codes : List Nat) : Nat :=
  codes.foldr (fun code set => set ||| 1 <<< code) 0

theorem testBit_codeSet_iff {codes : List Nat} {code : Nat} :
    (codeSet codes).testBit code = true ↔ code ∈ codes := by
  induction codes with
  | nil => simp [codeSet]
  | cons first rest ih =>
      have unit : (1 <<< first).testBit code = true ↔ code = first := by
        rw [Nat.testBit_shiftLeft, Bool.and_eq_true, decide_eq_true_iff,
          Nat.testBit_one_eq_true_iff_self_eq_zero]
        omega
      rw [codeSet, List.foldr_cons, ← codeSet, Nat.testBit_or, Bool.or_eq_true, ih, unit,
        List.mem_cons, or_comm]

/-- The set of the code points in the runs. -/
def Ranges.set (ranges : Ranges) : Nat :=
  ranges.foldr (fun run set => set ||| (1 <<< (run.2 + 1 - run.1) - 1) <<< run.1) 0

theorem Ranges.testBit_set (ranges : Ranges) (c : Char) :
    ranges.set.testBit c.toNat = ranges.has c := by
  rw [Bool.eq_iff_iff, has_iff]
  induction ranges with
  | nil => simp [set]
  | cons first rest ih =>
      have block : ((1 <<< (first.2 + 1 - first.1) - 1) <<< first.1).testBit c.toNat = true ↔
          first.1 ≤ c.toNat ∧ c.toNat ≤ first.2 := by
        rw [Nat.testBit_shiftLeft, Nat.one_shiftLeft, Nat.testBit_two_pow_sub_one,
          Bool.and_eq_true, decide_eq_true_iff, decide_eq_true_iff]
        omega
      rw [set, List.foldr_cons, ← set, Nat.testBit_or, Bool.or_eq_true, ih, block, or_comm,
        List.exists_mem_cons_iff]

variable {set other code : Nat}

theorem testBit_of_inside (inside : set &&& other = set) (member : set.testBit code = true) :
    other.testBit code = true := by
  rw [← inside, Nat.testBit_and, Bool.and_eq_true] at member
  exact member.2

theorem testBit_of_apart (apart : set &&& other = 0) (member : set.testBit code = true) :
    other.testBit code = false := by
  have shared : (set &&& other).testBit code = false := by
    rw [apart, Nat.zero_testBit]
  rwa [Nat.testBit_and, member, Bool.true_and] at shared

/-!
### Entries of a case table

A character is mapped if and only if it is a key of the table; then an entry says what becomes of
it.  Where the runs lie apart, the run that holds the key is that entry.
-/

namespace CaseRun

/-- The code points that the run moves. -/
def codes (run : CaseRun) : List Nat :=
  (List.range' run.first (run.last + 1 - run.first)).filter fun code =>
    (code - run.first) % run.step = 0

/-- Where the run moves a code point. -/
def target (run : CaseRun) (code : Nat) : Nat :=
  ((code : Int) + run.shift).toNat

theorem mem_codes_iff {run : CaseRun} :
    code ∈ run.codes ↔
      run.first ≤ code ∧ code ≤ run.last ∧ (code - run.first) % run.step = 0 := by
  rw [codes, List.mem_filter, List.mem_range'_1, decide_eq_true_iff]
  omega

theorem shift?_eq (run : CaseRun) (code : Nat) :
    run.shift? code = if code ∈ run.codes then some (run.target code) else none := by
  rw [shift?, if_congr mem_codes_iff.symm rfl rfl]
  rfl

theorem shift?_of_mem {run : CaseRun} (hit : code ∈ run.codes) :
    run.shift? code = some (run.target code) :=
  (shift?_eq run code).trans (if_pos hit)

theorem shift?_of_not_mem {run : CaseRun} (miss : code ∉ run.codes) : run.shift? code = none :=
  (shift?_eq run code).trans (if_neg miss)

theorem exists_findSome?_shift? {run : CaseRun} {runs : List CaseRun} (member : run ∈ runs)
    (hit : code ∈ run.codes) :
    ∃ taken ∈ runs, code ∈ taken.codes ∧
      runs.findSome? (shift? code) = some (taken.target code) := by
  induction runs with
  | nil => cases member
  | cons first rest ih =>
      by_cases taken : code ∈ first.codes
      · refine ⟨first, List.mem_cons_self, taken, ?_⟩
        rw [List.findSome?_cons, shift?_of_mem taken]
      · rw [List.findSome?_cons, shift?_of_not_mem taken]
        rcases List.mem_cons.mp member with rfl | later
        · exact absurd hit taken
        · obtain ⟨run, isRun, hits, found⟩ := ih later
          exact ⟨run, List.mem_cons_of_mem first isRun, hits, found⟩

/-- The run ends before the other begins. -/
def Before (run other : CaseRun) : Prop :=
  run.first ≤ run.last ∧ run.last < other.first

instance (run other : CaseRun) : Decidable (run.Before other) :=
  inferInstanceAs (Decidable (_ ∧ _))

instance : Trans Before Before Before where
  trans near far := ⟨near.1, Nat.lt_trans near.2 (Nat.lt_of_le_of_lt far.1 far.2)⟩

end CaseRun

/-- The code points that a table maps. -/
def keys (expansions : List (Nat × List Nat)) (runs : List CaseRun) : List Nat :=
  expansions.map Prod.fst ++ runs.flatMap CaseRun.codes

/-- The characters that a table maps something to. -/
def targets (expansions : List (Nat × List Nat)) (runs : List CaseRun) : List Char :=
  (expansions.flatMap Prod.snd ++ runs.flatMap fun run => run.codes.map run.target).map Char.ofNat

section

variable {expansions : List (Nat × List Nat)} {runs : List CaseRun} {c d : Char}

theorem mapCase_of_not_mem (unmapped : c.toNat ∉ keys expansions runs) :
    mapCase expansions runs c = [c] := by
  rw [keys, List.mem_append, not_or] at unmapped
  have noExpansion : expansions.lookup c.toNat = none := by
    rw [List.lookup_eq_none_iff]
    intro entry member
    rw [bne_iff_ne]
    exact fun same => unmapped.1 (List.mem_map.mpr ⟨entry, member, same.symm⟩)
  have noRun : runs.findSome? (CaseRun.shift? c.toNat) = none := by
    rw [List.findSome?_eq_none_iff]
    intro run member
    exact CaseRun.shift?_of_not_mem fun hit => unmapped.2 (List.mem_flatMap.mpr ⟨run, member, hit⟩)
  rw [mapCase, noExpansion, noRun]

theorem mapCase_of_mem (mapped : c.toNat ∈ keys expansions runs) :
    (∃ entry ∈ expansions, entry.1 = c.toNat ∧
        mapCase expansions runs c = entry.2.map Char.ofNat) ∨
      ∃ run ∈ runs, c.toNat ∈ run.codes ∧
        mapCase expansions runs c = [.ofNat (run.target c.toNat)] := by
  cases found : expansions.lookup c.toNat with
  | some codes =>
      obtain ⟨before, after, rfl, -⟩ := List.lookup_eq_some_iff.mp found
      exact Or.inl ⟨(c.toNat, codes), by simp, rfl, by rw [mapCase, found]⟩
  | none =>
      obtain ⟨run, member, hit⟩ : ∃ run ∈ runs, c.toNat ∈ run.codes := by
        rcases List.mem_append.mp mapped with expanded | moved
        · obtain ⟨entry, member, same⟩ := List.mem_map.mp expanded
          have differs := List.lookup_eq_none_iff.mp found entry member
          rw [same, bne_self_eq_false] at differs
          cases differs
        · exact List.mem_flatMap.mp moved
      obtain ⟨taken, isRun, hits, first⟩ := CaseRun.exists_findSome?_shift? member hit
      exact Or.inr ⟨taken, isRun, hits, by rw [mapCase, found, first]⟩

theorem mem_targets_of_mem_mapCase (mapped : c.toNat ∈ keys expansions runs)
    (member : d ∈ mapCase expansions runs c) : d ∈ targets expansions runs := by
  rcases mapCase_of_mem mapped with ⟨entry, isEntry, -, expanded⟩ | ⟨run, isRun, hit, moved⟩
  · rw [expanded] at member
    obtain ⟨code, isCode, rfl⟩ := List.mem_map.mp member
    exact List.mem_map_of_mem
      (List.mem_append_left _ (List.mem_flatMap.mpr ⟨entry, isEntry, isCode⟩))
  · rw [moved, List.mem_singleton] at member
    rw [member]
    exact List.mem_map_of_mem (List.mem_append_right _
      (List.mem_flatMap.mpr ⟨run, isRun, List.mem_map_of_mem hit⟩))

theorem mapCase_of_mem_codes (plain : c.toNat ∉ expansions.map Prod.fst)
    (ordered : runs.Pairwise CaseRun.Before) {run : CaseRun} (member : run ∈ runs)
    (hit : c.toNat ∈ run.codes) :
    mapCase expansions runs c = [.ofNat (run.target c.toNat)] := by
  have mapped : c.toNat ∈ keys expansions runs :=
    List.mem_append_right _ (List.mem_flatMap.mpr ⟨run, member, hit⟩)
  rcases mapCase_of_mem mapped with ⟨entry, isEntry, same, -⟩ | ⟨other, isOther, hits, moved⟩
  · exact absurd (List.mem_map.mpr ⟨entry, isEntry, same⟩) plain
  · -- Both runs hold the key, and of two different runs one ends before the other begins.
    obtain ⟨above, below, -⟩ := CaseRun.mem_codes_iff.mp hit
    obtain ⟨starts, ends, -⟩ := CaseRun.mem_codes_iff.mp hits
    obtain ⟨i, inside, rfl⟩ := List.getElem_of_mem member
    obtain ⟨j, within, rfl⟩ := List.getElem_of_mem isOther
    rcases Nat.lt_trichotomy i j with before | rfl | after
    · obtain ⟨-, below⟩ := List.pairwise_iff_getElem.mp ordered i j inside within before
      omega
    · exact moved
    · obtain ⟨-, below⟩ := List.pairwise_iff_getElem.mp ordered j i within inside after
      omega

end

/-!
### Lower case

Nothing that a letter is lowered to is a key of the table for the lower case, so that lowering it
once more changes nothing.
-/

/-- A table that agrees with a case of ASCII maps the ASCII characters by it. -/
theorem mapCase_of_ascii {expansions : List (Nat × List Nat)} {runs : List CaseRun}
    {asciiCase : Char → Char}
    (agree : ∀ code ∈ List.range 0x80,
      if (codeSet (keys expansions runs)).testBit code then
        mapCase expansions runs (.ofNat code) = [asciiCase (.ofNat code)]
      else asciiCase (.ofNat code) = .ofNat code)
    {c : Char} (ascii : c.toNat < 0x80) : mapCase expansions runs c = [asciiCase c] := by
  have stands := agree c.toNat (List.mem_range.mpr ascii)
  rw [Char.ofNat_toNat] at stands
  split at stands
  case isTrue => exact stands
  case isFalse unmapped =>
    rw [stands]
    exact mapCase_of_not_mem fun mapped => unmapped (testBit_codeSet_iff.mpr mapped)

theorem lowerChar_eq (c : Char) : lowerChar c = mapCase lowerExpansions lowerRuns c := by
  rw [lowerChar]
  split
  case isTrue ascii => exact (mapCase_of_ascii (by decide +kernel) ascii).symm
  case isFalse => rfl

theorem upperChar_eq (c : Char) : upperChar c = mapCase upperExpansions upperRuns c := by
  rw [upperChar]
  split
  case isTrue ascii => exact (mapCase_of_ascii (by decide +kernel) ascii).symm
  case isFalse => rfl

/-- Nothing that a letter is lowered to is lowered any further. -/
theorem lowerChar_of_mem_lowerChar {c d : Char} (member : d ∈ lowerChar c) : lowerChar d = [d] := by
  have apart : codeSet ((targets lowerExpansions lowerRuns).map Char.toNat) &&&
      codeSet (keys lowerExpansions lowerRuns) = 0 := by
    decide +kernel
  rw [lowerChar_eq] at member ⊢
  by_cases mapped : c.toNat ∈ keys lowerExpansions lowerRuns
  · have isTarget := mem_targets_of_mem_mapCase mapped member
    have unmapped := testBit_of_apart apart
      (testBit_codeSet_iff.mpr (List.mem_map_of_mem isTarget))
    rw [Bool.eq_false_iff] at unmapped
    exact mapCase_of_not_mem fun mapped => unmapped (testBit_codeSet_iff.mpr mapped)
  · rw [mapCase_of_not_mem mapped, List.mem_singleton] at member
    rw [member, mapCase_of_not_mem mapped]

theorem lowerChar_of_mem_lowerRuns {c : Char} {run : CaseRun} (member : run ∈ lowerRuns)
    (hit : c.toNat ∈ run.codes) : lowerChar c = [.ofNat (run.target c.toNat)] := by
  have plain : ∀ code ∈ lowerExpansions.map Prod.fst, ∀ run ∈ lowerRuns, code ∉ run.codes := by
    decide +kernel
  have ordered : lowerRuns.IsChain CaseRun.Before := by
    decide +kernel
  rw [lowerChar_eq]
  exact mapCase_of_mem_codes (fun expanded => plain _ expanded run member hit) ordered.pairwise
    member hit

theorem lowerChar_capital : lowerChar 'Σ' = ['σ'] := by
  decide +kernel

/-!
### Upper case

Most letters are lowered alike before and after they are raised.  The others lose their form in
upper case: letters that share a capital with a more common letter, such as the long s, and letters
that have no capital and are spelled out, such as the sharp s.  Their upper case is lowered to
something that begins with a letter that does come back, so it differs from what they are lowered
to.
-/

/-- The letters that do not come back from their upper case.  Whether the final sigma comes back
hangs on where it stands, and it is left out here. -/
def oneWay : Ranges :=
  [(0xb5, 0xb5), (0xdf, 0xdf), (0x131, 0x131), (0x149, 0x149), (0x17f, 0x17f), (0x1f0, 0x1f0),
    (0x345, 0x345), (0x390, 0x390), (0x3b0, 0x3b0), (0x3d0, 0x3d1), (0x3d5, 0x3d6), (0x3f0, 0x3f1),
    (0x3f5, 0x3f5), (0x587, 0x587), (0x1c80, 0x1c88), (0x1e96, 0x1e9b), (0x1f50, 0x1f50),
    (0x1f52, 0x1f52), (0x1f54, 0x1f54), (0x1f56, 0x1f56), (0x1f80, 0x1faf), (0x1fb2, 0x1fb4),
    (0x1fb6, 0x1fb7), (0x1fbc, 0x1fbc), (0x1fbe, 0x1fbe), (0x1fc2, 0x1fc4), (0x1fc6, 0x1fc7),
    (0x1fcc, 0x1fcc), (0x1fd2, 0x1fd3), (0x1fd6, 0x1fd7), (0x1fe2, 0x1fe4), (0x1fe6, 0x1fe7),
    (0x1ff2, 0x1ff4), (0x1ff6, 0x1ff7), (0x1ffc, 0x1ffc), (0xfb00, 0xfb06), (0xfb13, 0xfb17)]

/-- Whether a code point is that of a one-way letter. -/
def isOneWay (code : Nat) : Bool :=
  oneWay.set.testBit code

theorem isOneWay_toNat (c : Char) : isOneWay c.toNat = oneWay.has c :=
  oneWay.testBit_set c

/-- The character is a sigma, which has one capital and two small forms. -/
def IsSigma (c : Char) : Prop :=
  c = 'Σ' ∨ c = 'σ' ∨ c = 'ς'

/-- Two characters that count alike at the end of a word. -/
structure SameClass (c d : Char) : Prop where
  cased : casedRanges.has c = casedRanges.has d
  ignorable : caseIgnorableRanges.has c = caseIgnorableRanges.has d

/-- What a character is raised to, as far as lowering it again goes. -/
inductive Raises (c : Char) : List Char → Prop where
  /-- The upper case of a one-way letter is lowered to something that begins otherwise. -/
  | away {first again lowered : Char} {rest : List Char} (isOneWay : oneWay.has c = true)
      (noSigma : first ≠ 'Σ') (opens : lowerChar first = [again])
      (alone : lowerChar c = [lowered]) (differ : again ≠ lowered) : Raises c (first :: rest)
  | sigma (isSigma : IsSigma c) : Raises c ['Σ']
  | back {raised : Char} (isTwoWay : oneWay.has c = false) (noSigma : ¬ IsSigma c)
      (noCapital : raised ≠ 'Σ') (sameClass : SameClass c raised)
      (again : lowerChar raised = lowerChar c) : Raises c [raised]

/-- Whether a letter is lowered to a single letter that is none of the one-way letters. -/
def isCommon (c : Char) : Bool :=
  c != 'Σ' &&
    match lowerChar c with
    | [lowered] => !oneWay.has lowered
    | _ => false

/-- Whether the run of the table for the lower case that can hold the first letter of the raised
run takes every letter of it back to where it came from. -/
def CaseRun.isUndone (run : CaseRun) : Bool :=
  (lowerRuns.find? fun back => run.target run.first ≤ back.last).any fun back =>
    run.codes.all fun code => back.shift? (Char.ofNat (run.target code)).toNat == some code

theorem isCommon_of_mem_upperExpansions :
    ∀ entry ∈ upperExpansions, ∃ first ∈ entry.2.head?,
      isOneWay entry.1 = true ∧ isCommon (.ofNat first) = true := by
  decide +kernel

theorem isCommon_of_mem_upperRuns :
    ∀ run ∈ upperRuns, ∀ code ∈ run.codes,
      isOneWay code = true → isCommon (.ofNat (run.target code)) = true := by
  decide +kernel

/-- Where a run for the upper case is not undone by one for the lower case, it is a run of one-way
letters, the final sigma, or a letter with a third form for the beginning of a word. -/
theorem isUndone_of_mem_upperRuns :
    ∀ run ∈ upperRuns,
      (∀ code ∈ run.codes, isOneWay code = true ∨ code = 0x3c2) ∨ run.isUndone = true ∨
        ∀ code ∈ run.codes, Char.ofNat (run.target code) ≠ 'Σ' ∧
          lowerChar (.ofNat (run.target code)) = lowerChar (.ofNat code) := by
  decide +kernel

theorem isOneWay_of_mem_lowerRuns :
    ∀ run ∈ lowerRuns, ∀ code ∈ run.codes,
      isOneWay code = true → oneWay.has (.ofNat (run.target code)) = true := by
  decide +kernel

variable {c : Char}

/-- A one-way letter is lowered to one that is no less one-way. -/
theorem exists_oneWay_of_lowerChar (stray : oneWay.has c = true) :
    ∃ lowered, lowerChar c = [lowered] ∧ oneWay.has lowered = true := by
  have plain : ∀ entry ∈ lowerExpansions, isOneWay entry.1 = false := by
    decide +kernel
  rw [lowerChar_eq]
  by_cases mapped : c.toNat ∈ keys lowerExpansions lowerRuns
  · rw [← isOneWay_toNat] at stray
    rcases mapCase_of_mem mapped with ⟨entry, member, same, -⟩ | ⟨run, member, hit, moved⟩
    · rw [← same, plain entry member] at stray
      cases stray
    · exact ⟨_, moved, isOneWay_of_mem_lowerRuns run member _ hit stray⟩
  · exact ⟨c, mapCase_of_not_mem mapped, stray⟩

theorem Raises.of_isCommon {first : Char} {rest : List Char} (stray : oneWay.has c = true)
    (common : isCommon first = true) : Raises c (first :: rest) := by
  obtain ⟨lowered, alone, stays⟩ := exists_oneWay_of_lowerChar stray
  rw [isCommon, Bool.and_eq_true, bne_iff_ne] at common
  obtain ⟨noSigma, common⟩ := common
  split at common
  case h_1 again opens =>
    refine .away stray noSigma opens alone ?_
    rintro rfl
    rw [stays] at common
    cases common
  case h_2 => cases common

/-- A run for the upper case raises a letter, no sigma and no one-way letter, to one that is
lowered alike. -/
theorem lowerChar_target {run : CaseRun} (member : run ∈ upperRuns) (hit : c.toNat ∈ run.codes)
    (twoWay : oneWay.has c = false) (noSigma : ¬ IsSigma c) :
    Char.ofNat (run.target c.toNat) ≠ 'Σ' ∧
      lowerChar (.ofNat (run.target c.toNat)) = lowerChar c := by
  rcases isUndone_of_mem_upperRuns run member with strays | undone | alike
  · rcases strays c.toNat hit with stray | final
    · rw [isOneWay_toNat, twoWay] at stray
      cases stray
    · refine absurd (Or.inr (Or.inr ?_)) noSigma
      rw [← c.ofNat_toNat, final]
  · rw [CaseRun.isUndone, Option.any_eq_true] at undone
    obtain ⟨back, found, undone⟩ := undone
    have shifted := List.all_eq_true.mp undone c.toNat hit
    rw [beq_iff_eq, CaseRun.shift?_eq] at shifted
    split at shifted
    case isTrue hits =>
      have lowered := lowerChar_of_mem_lowerRuns (List.mem_of_find?_eq_some found) hits
      rw [Option.some.inj shifted, Char.ofNat_toNat] at lowered
      refine ⟨?_, ?_⟩
      · intro capital
        rw [capital, lowerChar_capital, List.cons.injEq] at lowered
        exact noSigma (Or.inr (Or.inl lowered.1.symm))
      · -- What comes back is lowered already.
        rw [lowered]
        exact (lowerChar_of_mem_lowerChar (lowered ▸ List.mem_singleton_self c)).symm
    case isFalse => cases shifted
  · have stands := alike c.toNat hit
    rwa [Char.ofNat_toNat] at stands

/-- The letters that the runs for the upper case raise to a letter from which they come back, and
those letters. -/
def twoWayLetters : List Char :=
  upperRuns.flatMap fun run => run.codes.flatMap fun code =>
    if isOneWay code then [] else [.ofNat code, .ofNat (run.target code)]

theorem mem_twoWayLetters {run : CaseRun} (member : run ∈ upperRuns) (hit : c.toNat ∈ run.codes)
    (twoWay : oneWay.has c = false) :
    c ∈ twoWayLetters ∧ Char.ofNat (run.target c.toNat) ∈ twoWayLetters := by
  have listed : ∀ d ∈ [c, Char.ofNat (run.target c.toNat)], d ∈ twoWayLetters := by
    intro d either
    refine List.mem_flatMap.mpr ⟨run, member, List.mem_flatMap.mpr ⟨c.toNat, hit, ?_⟩⟩
    rwa [isOneWay_toNat, twoWay, if_neg Bool.false_ne_true, Char.ofNat_toNat]
  exact ⟨listed c (by simp), listed _ (by simp)⟩

theorem class_of_mem_twoWayLetters (member : c ∈ twoWayLetters) :
    casedRanges.has c = true ∧ caseIgnorableRanges.has c = false := by
  have classes :
      let letters := codeSet (twoWayLetters.map Char.toNat)
      letters &&& casedRanges.set = letters ∧ letters &&& caseIgnorableRanges.set = 0 := by
    decide +kernel
  have listed : (codeSet (twoWayLetters.map Char.toNat)).testBit c.toNat = true :=
    testBit_codeSet_iff.mpr (List.mem_map_of_mem member)
  rw [← Ranges.testBit_set, ← Ranges.testBit_set]
  exact ⟨testBit_of_inside classes.1 listed, testBit_of_apart classes.2 listed⟩

theorem upperChar_of_isSigma (isSigma : IsSigma c) : upperChar c = ['Σ'] := by
  rcases isSigma with rfl | rfl | rfl <;> decide +kernel

theorem upperChar_raises (c : Char) : Raises c (upperChar c) := by
  have strays : oneWay.set &&& codeSet (keys upperExpansions upperRuns) = oneWay.set := by
    decide +kernel
  by_cases sigma : IsSigma c
  · rw [upperChar_of_isSigma sigma]
    exact .sigma sigma
  rw [upperChar_eq]
  by_cases mapped : c.toNat ∈ keys upperExpansions upperRuns
  · rcases mapCase_of_mem mapped with ⟨entry, member, same, expanded⟩ | ⟨run, member, hit, moved⟩
    · obtain ⟨first, opens, stray, common⟩ := isCommon_of_mem_upperExpansions entry member
      obtain ⟨rest, spelled⟩ := List.head?_eq_some_iff.mp opens
      rw [same, isOneWay_toNat] at stray
      rw [expanded, spelled, List.map_cons]
      exact .of_isCommon stray common
    · rw [moved]
      cases stray : oneWay.has c with
      | true =>
          refine .of_isCommon stray (isCommon_of_mem_upperRuns run member _ hit ?_)
          rwa [isOneWay_toNat]
      | false =>
          obtain ⟨noCapital, again⟩ := lowerChar_target member hit stray sigma
          obtain ⟨here, there⟩ := mem_twoWayLetters member hit stray
          obtain ⟨cased, heeded⟩ := class_of_mem_twoWayLetters here
          obtain ⟨casedToo, heededToo⟩ := class_of_mem_twoWayLetters there
          exact .back stray sigma noCapital
            ⟨cased.trans casedToo.symm, heeded.trans heededToo.symm⟩ again
  · rw [mapCase_of_not_mem mapped]
    have twoWay : oneWay.has c = false := by
      rw [Bool.eq_false_iff, ← Ranges.testBit_set]
      exact fun stray => mapped (testBit_codeSet_iff.mp (testBit_of_inside strays stray))
    exact .back twoWay sigma (fun capital => sigma (Or.inl capital)) ⟨rfl, rfl⟩ rfl

end Rationale.Text
