/-
Module: Rationale.Json
Purpose: JSON documents as trees, the data interchange form of every exported type.
Main exports: Json, Json.get?, Json.tag?, Json.field?, Json.nullable?, Json.fieldD?
-/

namespace Rationale

/-!
A document keeps the difference between an integer literal and a literal that has a fraction
or an exponent, because an integer field accepts only the former.  Text of documents is no
concern of this module: a codec is a pair of functions between a type and these trees.
-/

/-- A JSON document.  `real m k` is the number `m / 10 ^ k`, written with a point or an exponent. -/
inductive Json where
  | null
  | bool (value : Bool)
  | int (value : Int)
  | real (mantissa : Int) (places : Nat)
  | str (value : String)
  | arr (items : List Json)
  | obj (fields : List (String × Json))
deriving Inhabited

namespace Json

/-- The member of an object under a key; a value of another shape has no members. -/
def get? (key : String) : Json → Option Json
  | .obj fields => fields.lookup key
  | _ => none

/-- A member that counts as absent when it is `null`. -/
def present? (key : String) (json : Json) : Option Json :=
  match json.get? key with
  | some .null => none
  | found => found

/-- Reads a Boolean. -/
def bool? : Json → Option Bool
  | .bool value => some value
  | _ => none

/-- Reads an integer literal of either sign.  No codec of the library does; it is there for programs
that read documents of their own, such as those that test the library. -/
def int? : Json → Option Int
  | .int value => some value
  | _ => none

/-- Reads an unsigned integer literal below `2 ^ 64`. -/
def nat? : Json → Option Nat
  | .int (.ofNat value) => if value < Nat.pow 2 64 then some value else none
  | _ => none

/-- Reads a string. -/
def str? : Json → Option String
  | .str value => some value
  | _ => none

/-- Reads an array. -/
def arr? : Json → Option (List Json)
  | .arr items => some items
  | _ => none

/-- Reads an array of strings. -/
def strings? : Json → Option (List String)
  | .arr items => items.mapM str?
  | _ => none

/-- Writes an array of strings, for programs that write documents of their own, as for `int?`. -/
def ofStrings (texts : List String) : Json :=
  .arr (texts.map .str)

/-- Reads the name of an alternative without content: a string, or an object whose only member
has that name and is `null`. -/
def tag? : Json → Option String
  | .str name => some name
  | .obj [(name, .null)] => some name
  | _ => none

/-- Reads a required member. -/
def field? {α : Type} (json : Json) (key : String) (read : Json → Option α) : Option α :=
  (json.get? key).bind read

/-- Reads a member that may be missing or `null`. -/
def nullable? {α : Type} (json : Json) (key : String) (read : Json → Option α) :
    Option (Option α) :=
  match json.present? key with
  | none => some none
  | some member => (read member).map some

/-- Reads a member that may be missing, but not `null`, and then takes the default. -/
def fieldD? {α : Type} (json : Json) (key : String) (default : α) (read : Json → Option α) :
    Option α :=
  match json.get? key with
  | none => some default
  | some member => read member

/-- Writes a value that may be absent. -/
def ofOption {α : Type} (write : α → Json) : Option α → Json
  | none => .null
  | some value => write value

end Json

end Rationale
