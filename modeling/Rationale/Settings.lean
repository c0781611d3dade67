/-
Module: Rationale.Settings
Purpose: The settings of evaluations and reports.
Main exports: Settings, Settings.ofEnvironment, Settings.Slot
-/
import Rationale.Text.Blank

namespace Rationale

/-- The width limit of values in report columns when none is set. -/
def defaultCellWidth : Nat := 80

/-- How an evaluation records and how a report shows. -/
structure Settings where
  /-- Logs every row when it is closed and keeps ignored rows in reports. -/
  debug : Bool := false
  /-- Attaches no details to rows. -/
  suppressDetails : Bool := false
  /-- The number of characters from which on a value in a report column is cut. -/
  cellWidth : Nat := defaultCellWidth
deriving Repr, DecidableEq, Inhabited

namespace Settings

/-- The words that turn a switch on. -/
def switchOnWords : List String := ["1", "true", "yes", "on"]

/-- Whether the text of a switch turns it on; ASCII case and blanks around it do not matter. -/
def isSwitchOn (text : String) : Bool :=
  switchOnWords.contains ((Text.trim text).map Char.toLower)

/-- The default settings, with debugging as the environment's switch says, if it is set. -/
def ofEnvironment (switch : Option String) : Settings :=
  { debug := switch.any isSwitchOn }

/-- The place of the settings that hold for the whole process.  Once they are set, by installing
or by a first use, they stay. -/
structure Slot where
  held : Option Settings := none
deriving Inhabited

/-- The settings in force; at the first use they are taken from the environment. -/
def Slot.read (slot : Slot) (switch : Option String) : Settings × Slot :=
  let settings := slot.held.getD (ofEnvironment switch)
  (settings, ⟨some settings⟩)

/-- Installs settings, or hands them back if the place is taken. -/
def Slot.install (slot : Slot) (settings : Settings) : Except Settings Slot :=
  match slot.held with
  | none => .ok ⟨some settings⟩
  | some _ => .error settings

end Settings

end Rationale
