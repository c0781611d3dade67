/-
Module: Rationale.Check.Stock
Purpose: The checks that come with the library.
Main exports: Check.isNull, Check.isInstanceOf, Check.isEqualTo, Check.equalsIgnoreCase,
  Check.startsWith, Check.greaterThan, Check.failing
-/
import Rationale.Check
import Rationale.Text.LetterCase

namespace Rationale.Check

/-!
The name of a check reads as it would be called, with its argument in brackets.  A check on texts
or numbers fails on a value of another type; where both a value and the argument have the wrong
type, the value is blamed.
-/

/-- Whether a value is null. -/
def nullity : Value → Bool
  | .null => true
  | _ => false

/-- Accepts everything but null. -/
def isNotNull : Check where
  name := "isNotNull"
  test value := .ok !nullity value

/-- Accepts null. -/
def isNull : Check where
  name := "isNull"
  test value := .ok (nullity value)

/-- Accepts the Boolean `true`. -/
def isTrue : Check where
  name := "isTrue"
  test value := .ok (value.bool? == some true)

/-- Accepts the Boolean `false`. -/
def isFalse : Check where
  name := "isFalse"
  test value := .ok (value.bool? == some false)

/-- Accepts values of the named type. -/
def isInstanceOf (typeName : String) : Check where
  name := "isInstanceOf[" ++ typeName ++ "]"
  test value := .ok (value.typeName == typeName)

/-- Sets a value against what was wanted, or against its negation. -/
def against (shown : String) (value : Value) (wanted : Bool) : Detail where
  expected := if wanted then shown else "not " ++ shown
  actual := value.display

/-- Accepts values that are the same as the given one. -/
def isEqualTo (expected : Value) : Check where
  name := "isEqualTo[" ++ expected.display ++ "]"
  test value := .ok (value.same expected)
  explainer := against expected.display

/-- A check on texts, named for its argument, which is shown with dots for what may stand around
it. -/
def onText (form argument before after : String) (test : String → Bool) : Check where
  name := form ++ "[" ++ Text.quoted argument ++ "]"
  test value := value.text?.map test
  explainer := against (before ++ Text.quoted argument ++ after)

/-- Accepts texts with the same lower case. -/
def equalsIgnoreCase (expected : String) : Check :=
  onText "equalsIgnoreCase" expected "" "" fun text => Text.lower text == Text.lower expected

/-- Accepts texts that begin with the given one. -/
def startsWith (start : String) : Check :=
  onText "startsWith" start "" "..." fun text => start.toList.isPrefixOf text.toList

/-- Accepts texts that end with the given one. -/
def endsWith (ending : String) : Check :=
  onText "endsWith" ending "..." "" fun text => ending.toList.isSuffixOf text.toList

/-- Whether one list of characters stands somewhere in another. -/
def occursIn (needle : List Char) : List Char → Bool
  | [] => needle.isEmpty
  | c :: rest => needle.isPrefixOf (c :: rest) || occursIn needle rest

/-- Accepts texts in which the given one stands. -/
def containsString (needle : String) : Check :=
  onText "containsString" needle "..." "..." fun text => occursIn needle.toList text.toList

/-- Accepts the empty text. -/
def isEmptyString : Check where
  name := "isEmptyString"
  test value := value.text?.map String.isEmpty

/-- A numeric comparison with a bound, shown by its symbol. -/
def comparison (form symbol : String) (bound : Value) (accept : Ordering → Bool) : Check where
  name := form ++ "[" ++ bound.display ++ "]"
  test value := do
    let left ← value.decimal?
    let right ← bound.decimal?
    return accept (left.compare right)
  explainer := against (symbol ++ " " ++ bound.display)

/-- Accepts numbers above the bound. -/
def greaterThan (bound : Value) : Check :=
  comparison "greaterThan" ">" bound (· == .gt)

/-- Accepts numbers that are not below the bound. -/
def greaterThanOrEqualTo (bound : Value) : Check :=
  comparison "greaterThanOrEqualTo" ">=" bound (· != .lt)

/-- Accepts numbers below the bound. -/
def lessThan (bound : Value) : Check :=
  comparison "lessThan" "<" bound (· == .lt)

/-- Accepts numbers that are not above the bound. -/
def lessThanOrEqualTo (bound : Value) : Check :=
  comparison "lessThanOrEqualTo" "<=" bound (· != .gt)

/-- Fails on every value. -/
def failing (name : String) (failure : Failure) : Check where
  name := name
  test _ := .error failure

end Rationale.Check
