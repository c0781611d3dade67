/-
Module: Rationale.Proofs.Codecs
Purpose: What is exported as a document is read back as it was, and no two exports are written
  alike.
Main exports: Value.IsCanonical, Value.ofJson?_toJson, Failure.ofJson?_toJson, Cell.ofJson?_toJson,
  Row.ofJson?_toJson, Exported, Exported.codecs_faithful
-/
import Rationale.Proofs.Notation
import Rationale.Trace.Json

namespace Rationale

namespace Value

/-!
### Values

A reader puts the fields of a record in order and drops the sign of a zero.  Values that are so
already, at every depth, are read as they were written.
-/

/-- A value whose records have ascending keys and whose zeros have no sign. -/
inductive IsCanonical : Value → Prop where
  | null : IsCanonical .null
  | bool (given : Bool) : IsCanonical (.bool given)
  | int (given : Int64) : IsCanonical (.int given)
  | decimal {given : Decimal} (signed : given.negative = true → given.mantissa ≠ 0) :
    IsCanonical (.decimal given)
  | text (given : String) : IsCanonical (.text given)
  | list {items : List Value} (each : ∀ item ∈ items, IsCanonical item) :
    IsCanonical (.list items)
  | record {fields : List (String × Value)} (ascending : fields.Pairwise (·.1 < ·.1))
    (each : ∀ field ∈ fields, IsCanonical field.2) : IsCanonical (.record fields)
  | context {slots : List Value} (each : ∀ slot ∈ slots, IsCanonical slot) :
    IsCanonical (.context slots)

section Fields

variable {fields : List (String × Value)}

theorem insertField_last {key : String} (value : Value)
    (last : ∀ field ∈ fields, field.1 < key) :
    insertField key value fields = fields ++ [(key, value)] := by
  induction fields with
  | nil => rfl
  | cons field rest ih =>
      obtain ⟨earlier, other⟩ := field
      have before : earlier < key := last (earlier, other) List.mem_cons_self
      have different : key ≠ earlier := by
        rintro rfl
        exact String.lt_irrefl key before
      rw [insertField, if_neg (String.lt_asymm before), if_neg different,
        ih fun field member => last field (List.mem_cons_of_mem _ member)]
      rfl

/-- Putting fields one by one behind smaller ones leaves them as they stand. -/
theorem foldl_insertField {sorted : List (String × Value)}
    (ascending : (sorted ++ fields).Pairwise (·.1 < ·.1)) :
    fields.foldl (fun sorted (key, value) => insertField key value sorted) sorted =
      sorted ++ fields := by
  induction fields generalizing sorted with
  | nil => rw [List.foldl_nil, List.append_nil]
  | cons field rest ih =>
      obtain ⟨key, value⟩ := field
      have last : ∀ earlier ∈ sorted, earlier.1 < key := fun earlier member =>
        (List.pairwise_append.mp ascending).2.2 earlier member (key, value) List.mem_cons_self
      rw [List.append_cons] at ascending
      rw [List.foldl_cons, List.append_cons, ← ih ascending, ← insertField_last value last]

theorem sortFields_of_ascending (ascending : fields.Pairwise (·.1 < ·.1)) :
    sortFields fields = fields :=
  foldl_insertField ascending

theorem mem_insertField {key : String} {value : Value} {field : String × Value}
    (member : field ∈ insertField key value fields) : field = (key, value) ∨ field ∈ fields := by
  induction fields with
  | nil => exact .inl (List.mem_singleton.mp member)
  | cons first rest ih =>
      obtain ⟨other, content⟩ := first
      rw [insertField] at member
      split at member
      · exact List.mem_cons.mp member
      · split at member
        · rcases List.mem_cons.mp member with isNew | isOld
          · exact .inl isNew
          · exact .inr (List.mem_cons_of_mem _ isOld)
        · rcases List.mem_cons.mp member with isFirst | later
          · exact .inr (isFirst ▸ List.mem_cons_self)
          · exact (ih later).imp_right (List.mem_cons_of_mem _)

theorem ascending_insertField {key : String} {value : Value}
    (ascending : fields.Pairwise (·.1 < ·.1)) :
    (insertField key value fields).Pairwise (·.1 < ·.1) := by
  induction fields with
  | nil => exact List.pairwise_singleton _ _
  | cons first rest ih =>
      obtain ⟨other, content⟩ := first
      obtain ⟨least, later⟩ := List.pairwise_cons.mp ascending
      rw [insertField]
      split
      next before =>
        refine List.pairwise_cons.mpr ⟨?_, ascending⟩
        intro field member
        rcases List.mem_cons.mp member with rfl | inside
        · exact before
        · exact String.lt_trans before (least field inside)
      next notBefore =>
        split
        next same =>
          subst same
          exact List.pairwise_cons.mpr ⟨least, later⟩
        next different =>
          refine List.pairwise_cons.mpr ⟨?_, ih later⟩
          intro field member
          rcases mem_insertField member with rfl | inside
          · apply Decidable.byContradiction
            intro notAfter
            apply different
            exact String.le_antisymm (String.not_lt.mp notAfter) (String.not_lt.mp notBefore)
          · exact least field inside

/-- A record made from canonical values is canonical, in whatever order its fields come. -/
theorem IsCanonical.ofFields (each : ∀ field ∈ fields, field.2.IsCanonical) :
    (Value.ofFields fields).IsCanonical := by
  -- What the insertions keep: the keys ascend, and each value is canonical.
  have invariant : ∀ sorted : List (String × Value),
      (sorted.Pairwise (·.1 < ·.1) ∧ ∀ field ∈ sorted, field.2.IsCanonical) →
      let all := fields.foldl (fun sorted (key, value) => insertField key value sorted) sorted
      all.Pairwise (·.1 < ·.1) ∧ ∀ field ∈ all, field.2.IsCanonical := by
    induction fields with
    | nil => exact fun _ => id
    | cons first rest ih =>
        rintro sorted ⟨ascending, canonical⟩
        apply ih fun field member => each field (List.mem_cons_of_mem first member)
        refine ⟨ascending_insertField ascending, ?_⟩
        intro field member
        rcases mem_insertField member with rfl | inside
        · exact each first List.mem_cons_self
        · exact canonical field inside
  obtain ⟨ascending, canonical⟩ := invariant [] ⟨.nil, nofun⟩
  exact .record ascending canonical

end Fields

@[simp] theorem ofJson?_tagged (type : String) (content : Json) :
    ofJson? (tagged type content) = ofContent? type content :=
  rfl

theorem int64?_toInt (given : Int64) : int64? given.toInt = some given := by
  rw [int64?, if_pos ⟨given.minValue_le_toInt, given.toInt_le⟩, Int64.ofInt_toInt]

theorem ofItems?_itemsToJson {items : List Value}
    (each : ∀ item ∈ items, ofJson? item.toJson = some item) :
    ofItems? (itemsToJson items) = some items := by
  induction items with
  | nil => rfl
  | cons item rest ih =>
      rw [itemsToJson, ofItems?, each item List.mem_cons_self,
        ih fun other member => each other (List.mem_cons_of_mem item member)]

theorem ofMembers?_fieldsToJson {fields : List (String × Value)}
    (each : ∀ field ∈ fields, ofJson? field.2.toJson = some field.2) :
    ofMembers? (fieldsToJson fields) = some fields := by
  induction fields with
  | nil => rfl
  | cons field rest ih =>
      rw [fieldsToJson, ofMembers?, each field List.mem_cons_self,
        ih fun other member => each other (List.mem_cons_of_mem field member)]

/-- A value is read back as it was written. -/
theorem ofJson?_toJson {value : Value} (canonical : value.IsCanonical) :
    ofJson? value.toJson = some value := by
  induction canonical with
  | null => rfl
  | bool given => rfl
  | int given => simp [toJson, ofContent?, int64?_toInt]
  | decimal signed => simp [toJson, ofContent?, Decimal.read?_print_of_signed _ signed]
  | text given => rfl
  | list each ih => simp [toJson, ofContent?, ofItems?_itemsToJson ih]
  | record ascending each ih =>
      simp [toJson, ofContent?, ofMembers?_fieldsToJson ih, ofFields,
        sortFields_of_ascending ascending]
  | context each ih => simp [toJson, ofContent?, ofItems?_itemsToJson ih]

end Value

/-! ### Members -/

namespace Json

/-- A member that may be missing is read back, as absent if it was. -/
theorem nullable?_of_get? {json : Json} {key : String} {given : Option String}
    (found : json.get? key = some (ofOption .str given)) :
    json.nullable? key str? = some given := by
  cases given <;> simp [nullable?, present?, found, ofOption, str?]

theorem mapM_str? (texts : List String) : (texts.map str).mapM str? = some texts := by
  induction texts with
  | nil => rfl
  | cons text rest ih => simp [ih, str?]

theorem nat?_ofNat {given : Nat} (small : given < Nat.pow 2 64) :
    nat? (.int given) = some given :=
  if_pos small

/-- The key of the first member of an object. -/
def firstKey? : Json → Option String
  | .obj ((key, _) :: _) => some key
  | _ => none

end Json

/-- Causes are read back, none as none. -/
theorem Failure.ofJson?_toJson (failure : Failure) :
    ofJson? failure.toJson = some failure := by
  obtain ⟨kind, message, causes⟩ := failure
  cases causes with
  | nil => rfl
  | cons cause rest =>
      have read : (toJson ⟨kind, message, cause :: rest⟩).fieldD? "causes" [] Json.strings? =
          some (cause :: rest) := Json.mapM_str? (cause :: rest)
      rw [ofJson?, read]
      rfl

theorem Kind.ofJson?_toJson (kind : Kind) : ofJson? kind.toJson = some kind := by
  cases kind <;> rfl

/-!
### Rows

A level is read as a 64-bit number, and the cells of a row hold values.
-/

/-- A cell whose value, if it has one, is canonical. -/
def Cell.IsCanonical (cell : Cell) : Prop :=
  ∀ value, cell.value? = some value → value.IsCanonical

theorem Cell.ofJson?_toJson {cell : Cell} (canonical : cell.IsCanonical) :
    ofJson? cell.toJson = some cell := by
  cases cell with
  | value given =>
      have read := Value.ofJson?_toJson (canonical given rfl)
      rw [toJson, ofJson?, read]
      rfl
  | thrown failure =>
      rw [toJson, ofJson?, failure.ofJson?_toJson]
      rfl
  | skipped => rfl
  | noFailure => rfl

/-- A side whose cells are canonical. -/
structure Side.IsCanonical (side : Side) : Prop where
  input : side.input.IsCanonical
  output : side.output.IsCanonical

/-- A row whose sides are canonical, at a level that fits in 64 bits. -/
structure Row.IsCanonical (row : Row) : Prop where
  level_lt : row.level < Nat.pow 2 64
  expected : row.expected.IsCanonical
  actual : row.actual.IsCanonical

theorem Row.ofJson?_toJson {row : Row} (canonical : row.IsCanonical) :
    ofJson? row.toJson = some row := by
  have level : row.toJson.field? "nesting_level" Json.nat? = some row.level :=
    Json.nat?_ofNat canonical.level_lt
  have kind : row.toJson.field? "kind" Kind.ofJson? = some row.kind := row.kind.ofJson?_toJson
  have expectedInput : row.toJson.field? "input_for_expected" Cell.ofJson? =
      some row.expected.input := Cell.ofJson?_toJson canonical.expected.input
  have actualInput : row.toJson.field? "input_for_actual" Cell.ofJson? =
      some row.actual.input := Cell.ofJson?_toJson canonical.actual.input
  have expectedOutput : row.toJson.field? "output_for_expected" Cell.ofJson? =
      some row.expected.output := Cell.ofJson?_toJson canonical.expected.output
  have actualOutput : row.toJson.field? "output_for_actual" Cell.ofJson? =
      some row.actual.output := Cell.ofJson?_toJson canonical.actual.output
  have expectedDetail : row.toJson.nullable? "detail_expected" Json.str? =
      some row.expected.detail := Json.nullable?_of_get? rfl
  have actualDetail : row.toJson.nullable? "detail_actual" Json.str? =
      some row.actual.detail := Json.nullable?_of_get? rfl
  rw [ofJson?, level, kind, expectedInput, actualInput, expectedOutput, actualOutput,
    expectedDetail, actualDetail]
  rfl

/-!
### Exports

The first key of a document tells what kind of thing was exported, so that no two exports have one
document, whether they are of one kind or not.
-/

/-- Whatever is exported as a document of its own. -/
inductive Exported where
  | value (content : Value)
  | failure (content : Failure)
  | cell (content : Cell)
  | row (content : Row)

namespace Exported

/-- The document of an export. -/
def toJson : Exported → Json
  | .value content => content.toJson
  | .failure content => content.toJson
  | .cell content => content.toJson
  | .row content => content.toJson

/-- An export that is canonical, as its kind says. -/
def IsCanonical : Exported → Prop
  | .value content => content.IsCanonical
  | .failure _ => True
  | .cell content => content.IsCanonical
  | .row content => content.IsCanonical

/-- Reads an export of any kind. -/
def ofJson? (json : Json) : Option Exported :=
  match json.firstKey? with
  | some "type" => (Value.ofJson? json).map .value
  | some "kind" => (Failure.ofJson? json).map .failure
  | some "form_name" => (Row.ofJson? json).map .row
  | _ => (Cell.ofJson? json).map .cell

theorem ofJson?_toJson {exported : Exported} (canonical : exported.IsCanonical) :
    ofJson? exported.toJson = some exported := by
  cases exported with
  | value content =>
      have first : content.toJson.firstKey? = some "type" := by cases content <;> rfl
      rw [toJson, ofJson?, first]
      exact congrArg (Option.map value) (Value.ofJson?_toJson canonical)
  | failure content => exact congrArg (Option.map failure) content.ofJson?_toJson
  | cell content =>
      have read : ofJson? content.toJson = (Cell.ofJson? content.toJson).map cell := by
        cases content <;> rfl
      rw [toJson, read, Cell.ofJson?_toJson canonical, Option.map_some]
  | row content => exact congrArg (Option.map row) (Row.ofJson?_toJson canonical)

/-- Every value, failure, cell and row is read back from its document as it was, and different ones
have different documents. -/
theorem codecs_faithful :
    (∀ value : Value, value.IsCanonical → Value.ofJson? value.toJson = some value) ∧
    (∀ failure : Failure, Failure.ofJson? failure.toJson = some failure) ∧
    (∀ cell : Cell, cell.IsCanonical → Cell.ofJson? cell.toJson = some cell) ∧
    (∀ row : Row, row.IsCanonical → Row.ofJson? row.toJson = some row) ∧
    ∀ first second : Exported, first.IsCanonical → second.IsCanonical →
      first.toJson = second.toJson → first = second := by
  refine ⟨fun _ => Value.ofJson?_toJson, Failure.ofJson?_toJson, fun _ => Cell.ofJson?_toJson,
    fun _ => Row.ofJson?_toJson, ?_⟩
  intro first second canonical alsoCanonical same
  have read := ofJson?_toJson canonical
  rw [same, ofJson?_toJson alsoCanonical] at read
  exact (Option.some.inj read).symm

/-- A failed row on a record is read back, and two decimals of one numeric value are told apart by
their scale. -/
theorem codecs_faithful_of_nested :
    let price : Decimal := ⟨true, 150, 2, by decide, by decide⟩
    let shorter : Decimal := ⟨true, 15, 1, by decide, by decide⟩
    let order : Value := .record
      [("items", .list [.null, .context [.text "a", .int (-1)]]), ("price", .decimal price)]
    let failure : Failure := { kind := "Refused", message := "no", causes := ["late"] }
    let row : Row :=
      { form := "isPaid", level := 3, kind := .check, continued := false
        expected := { input := .value order, output := .value (.bool true) }
        actual := { input := .value order, output := .thrown failure, detail := some "" }
        requiresExplanation := true, mergeable := true, ignored := false }
    order.IsCanonical ∧ row.IsCanonical ∧ Value.ofJson? order.toJson = some order ∧
      Row.ofJson? row.toJson = some row ∧ price.equals shorter = true ∧
      (Value.decimal price).toJson ≠ (Value.decimal shorter).toJson := by
  intro price shorter order failure row
  have isPrice : (Value.decimal price).IsCanonical := .decimal (by decide)
  have isShorter : (Value.decimal shorter).IsCanonical := .decimal (by decide)
  have isContext : (Value.context [.text "a", .int (-1)]).IsCanonical := by
    apply Value.IsCanonical.context
    simp [Value.IsCanonical.text, Value.IsCanonical.int]
  have isList : (Value.list [.null, .context [.text "a", .int (-1)]]).IsCanonical := by
    apply Value.IsCanonical.list
    simp [Value.IsCanonical.null, isContext]
  have isOrder : order.IsCanonical := by
    apply Value.IsCanonical.record
    · exact List.pairwise_pair.mpr (by decide)
    · simp [isList, isPrice]
  have isRow : row.IsCanonical := by
    refine ⟨by decide, ⟨?_, ?_⟩, ⟨?_, ?_⟩⟩
    · rintro _ ⟨⟩
      exact isOrder
    · rintro _ ⟨⟩
      exact .bool true
    · rintro _ ⟨⟩
      exact isOrder
    · rintro _ ⟨⟩
  refine ⟨isOrder, isRow, codecs_faithful.1 order isOrder,
    codecs_faithful.2.2.2.1 row isRow, by decide, ?_⟩
  intro same
  have alike := codecs_faithful.2.2.2.2 (.value (.decimal price)) (.value (.decimal shorter))
    isPrice isShorter same
  injection alike with alike
  injection alike with alike
  exact absurd alike (by decide)

end Exported

end Rationale
