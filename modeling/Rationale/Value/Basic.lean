/-
Module: Rationale.Value.Basic
Purpose: The dynamically typed values that trees check and transform.
Main exports: Value, Value.typeName, Value.same, Value.ofFields, ToValue
-/
import Rationale.Decimal.Basic

namespace Rationale

/-- A dynamically typed value.  The fields of a record stand in ascending order of their keys, and
a context is a row of slots, of which curried predicates see one each. -/
inductive Value where
  | null
  | bool (value : Bool)
  | int (value : Int64)
  | decimal (value : Decimal)
  | text (value : String)
  | list (items : List Value)
  | record (fields : List (String × Value))
  | context (slots : List Value)
deriving Inhabited

namespace Value

/-- The name of a value's type in reports and failures. -/
def typeName : Value → String
  | .null => "Null"
  | .bool _ => "Bool"
  | .int _ => "Int"
  | .decimal _ => "Decimal"
  | .text _ => "Text"
  | .list _ => "List"
  | .record _ => "Record"
  | .context _ => "Context"

/-!
Two values are the same when they have the same shape and their parts are the same.  Decimals are
compared by their numeric value, so sameness is coarser than equality of values; an integer and a
decimal are never the same.
-/

mutual

/-- Whether two values are the same. -/
def same : Value → Value → Bool
  | .null, .null => true
  | .bool a, .bool b => a == b
  | .int a, .int b => a == b
  | .decimal a, .decimal b => a.equals b
  | .text a, .text b => a == b
  | .list as, .list bs => sameItems as bs
  | .record as, .record bs => sameFields as bs
  | .context as, .context bs => sameItems as bs
  | _, _ => false

/-- Whether two lists of values are the same item by item. -/
def sameItems : List Value → List Value → Bool
  | [], [] => true
  | a :: as, b :: bs => same a b && sameItems as bs
  | _, _ => false

/-- Whether two lists of fields have the same keys and values in the same order. -/
def sameFields : List (String × Value) → List (String × Value) → Bool
  | [], [] => true
  | (k, a) :: as, (l, b) :: bs => k == l && same a b && sameFields as bs
  | _, _ => false

end

instance : BEq Value := ⟨same⟩

mutual

theorem same_refl : ∀ value : Value, value.same value = true
  | .null => rfl
  | .bool _ => by simp [same]
  | .int _ => by simp [same]
  | .decimal d => by simp [same, d.equals_refl]
  | .text _ => by simp [same]
  | .list items => by simp [same, sameItems_refl items]
  | .record fields => by simp [same, sameFields_refl fields]
  | .context slots => by simp [same, sameItems_refl slots]

theorem sameItems_refl : ∀ items : List Value, sameItems items items = true
  | [] => rfl
  | item :: rest => by simp [sameItems, same_refl item, sameItems_refl rest]

theorem sameFields_refl : ∀ fields : List (String × Value), sameFields fields fields = true
  | [] => rfl
  | (_, value) :: rest => by simp [sameFields, same_refl value, sameFields_refl rest]

end

/-- Puts a field into ascending fields; a field with the same key is replaced. -/
def insertField (key : String) (value : Value) : List (String × Value) → List (String × Value)
  | [] => [(key, value)]
  | (k, v) :: rest =>
    if key < k then (key, value) :: (k, v) :: rest
    else if key = k then (key, value) :: rest
    else (k, v) :: insertField key value rest

/-- Fields in ascending order of their keys; of two with one key the later counts. -/
def sortFields (fields : List (String × Value)) : List (String × Value) :=
  fields.foldl (fun sorted (key, value) => insertField key value sorted) []

/-- The record with the given fields, in whatever order they come. -/
def ofFields (fields : List (String × Value)) : Value :=
  .record (sortFields fields)

/-- The Boolean in a value. -/
def bool? : Value → Option Bool
  | .bool b => some b
  | _ => none

end Value

/-- The types whose members have a form as a value. -/
class ToValue (α : Type) where
  /-- The value of a member. -/
  toValue : α → Value

export ToValue (toValue)

instance : ToValue Value := ⟨id⟩

instance : ToValue Bool := ⟨.bool⟩

instance : ToValue Int64 := ⟨.int⟩

instance : ToValue Int32 := ⟨fun i => .int i.toInt64⟩

instance : ToValue String := ⟨.text⟩

instance : ToValue Decimal := ⟨.decimal⟩

instance {α : Type} [ToValue α] : ToValue (List α) := ⟨fun items => .list (items.map toValue)⟩

end Rationale
