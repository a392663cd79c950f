namespace LayoutAdblock.Data

/-! # JSON values

The value tree that JSON text denotes, and the typed readers of its scalars.
The entries of an object are kept in the order of their keys.  A number written
with a fraction or an exponent is a `decimal`.
-/

/-- A document as `serde_json` reads it. Integers are kept apart from other numbers, and the
fields of an object stand in the order of its map. -/
inductive Json where
  | null
  | bool (value : Bool)
  | number (value : Int)
  | decimal (value : Float)
  | string (value : String)
  | array (items : List Json)
  | object (fields : List (String × Json))
deriving Inhabited

namespace Json

/-- A property that passes from the items and from the values of the entries to
the whole holds of every value. -/
theorem induct {motive : Json → Prop} (null : motive .null)
    (bool : ∀ value, motive (.bool value)) (number : ∀ value, motive (.number value))
    (decimal : ∀ value, motive (.decimal value)) (string : ∀ value, motive (.string value))
    (array : ∀ items, (∀ item ∈ items, motive item) → motive (.array items))
    (object : ∀ fields : List (String × Json), (∀ entry ∈ fields, motive entry.2) →
      motive (.object fields)) (value : Json) : motive value :=
  Json.rec (motive_1 := motive) (motive_2 := fun items => ∀ item ∈ items, motive item)
    (motive_3 := fun fields => ∀ entry ∈ fields, motive entry.2)
    (motive_4 := fun entry => motive entry.2)
    null bool number decimal string array object
    (fun _ member => absurd member List.not_mem_nil)
    (fun _ _ head rest => List.forall_mem_cons.mpr ⟨head, rest⟩)
    (fun _ member => absurd member List.not_mem_nil)
    (fun _ _ head rest => List.forall_mem_cons.mpr ⟨head, rest⟩)
    (fun _ _ held => held) value

/-- Values without fractions, whose objects hold each key once. Texts, arrays and objects
may be of any size. -/
inductive Plain : Json → Prop
  | null : Plain .null
  | bool (value : Bool) : Plain (.bool value)
  | number (value : Int) : Plain (.number value)
  | string (value : String) : Plain (.string value)
  | array {items : List Json} (each : ∀ item ∈ items, Plain item) : Plain (.array items)
  | object {fields : List (String × Json)} (distinct : (fields.map Prod.fst).Nodup)
      (each : ∀ entry ∈ fields, Plain entry.2) : Plain (.object fields)

/-- Equality of values, objects being compared as maps: they have the same keys, and
what a key maps to is the same. -/
inductive Same : Json → Json → Prop
  | null : Same .null .null
  | bool (value : Bool) : Same (.bool value) (.bool value)
  | number (value : Int) : Same (.number value) (.number value)
  | string (value : String) : Same (.string value) (.string value)
  | array {items others : List Json} (length : items.length = others.length)
      (each : ∀ index (first : index < items.length) (second : index < others.length),
        Same items[index] others[index]) : Same (.array items) (.array others)
  | object {fields others : List (String × Json)}
      (keys : ∀ key, key ∈ fields.map Prod.fst ↔ key ∈ others.map Prod.fst)
      (each : ∀ key value other, (key, value) ∈ fields → (key, other) ∈ others → Same value other) :
      Same (.object fields) (.object others)

mutual

/-- The strings of a value and the keys of its objects. -/
def texts : Json → List String
  | .string value => [value]
  | .array items => itemTexts items
  | .object fields => fieldTexts fields
  | _ => []

def itemTexts : List Json → List String
  | [] => []
  | item :: rest => texts item ++ itemTexts rest

/-- The texts of an object, its keys included. -/
def fieldTexts : List (String × Json) → List String
  | [] => []
  | (key, value) :: rest => key :: texts value ++ fieldTexts rest

end

theorem itemTexts_eq_flatMap (items : List Json) : itemTexts items = items.flatMap texts := by
  induction items with
  | nil => rfl
  | cons item rest ih => rw [itemTexts, ih, List.flatMap_cons]

theorem fieldTexts_eq_flatMap (fields : List (String × Json)) :
    fieldTexts fields = fields.flatMap fun entry => entry.1 :: texts entry.2 := by
  induction fields with
  | nil => rfl
  | cons entry rest ih => rw [fieldTexts, ih, List.flatMap_cons]

/-- Put an entry where its key belongs, in place of an older one. -/
def insertField (key : String) (value : Json) : List (String × Json) → List (String × Json)
  | [] => [(key, value)]
  | (other, old) :: rest =>
      if key = other then (key, value) :: rest
      else if key < other then (key, value) :: (other, old) :: rest
      else (other, old) :: insertField key value rest

def setField (key : String) (value : Json) : Json → Json
  | .object fields => .object (insertField key value fields)
  | other => other

/-- An integer type by its least and greatest value.  The reader of a type accepts the
values of that type and refuses all others. -/
structure IntType where
  low : Int
  high : Int

def i32 : IntType where
  low := -2147483648
  high := 2147483647

def u32 : IntType where
  low := 0
  high := 4294967295

def i64 : IntType where
  low := -9223372036854775808
  high := 9223372036854775807

def IntType.Holds (type : IntType) (value : Int) : Prop := type.low ≤ value ∧ value ≤ type.high

instance (type : IntType) (value : Int) : Decidable (type.Holds value) :=
  inferInstanceAs (Decidable (_ ∧ _))

/-- An integer in the range of the type. A number with a point is none, even where its value
is whole. -/
def readInt (type : IntType) : Json → Option Int
  | .number value => if type.Holds value then some value else none
  | _ => none

/-- A truth value; nothing else is taken for one. -/
def readBool : Json → Option Bool
  | .bool value => some value
  | _ => none

def readString : Json → Option String
  | .string value => some value
  | _ => none

def readList {α : Type} (read : Json → Option α) : Json → Option (List α)
  | .array items => items.mapM read
  | _ => none

/-- An optional value: `null` stands for its absence. -/
def readOption {α : Type} (read : Json → Option α) : Json → Option (Option α)
  | .null => some none
  | value => (read value).map some

@[simp] theorem readInt_number {type : IntType} {value : Int} (holds : type.Holds value) :
    readInt type (.number value) = some value := by
  simp [readInt, holds]

@[simp] theorem readBool_bool (value : Bool) : readBool (.bool value) = some value := rfl

@[simp] theorem readString_string (value : String) :
    readString (.string value) = some value := rfl

@[simp] theorem readOption_null {α : Type} (read : Json → Option α) :
    readOption read .null = some none := rfl

theorem mapM_map {α β : Type} {read : Json → Option α} {write : β → Json} {value : β → α}
    {items : List β} (reads : ∀ item ∈ items, read (write item) = some (value item)) :
    (items.map write).mapM read = some (items.map value) := by
  induction items with
  | nil => rfl
  | cons head rest ih =>
      rw [List.map_cons, List.mapM_cons, reads head (List.mem_cons_self ..),
        ih fun item member => reads item (List.mem_cons_of_mem head member)]
      rfl

/-- A list is read back item by item. -/
theorem readList_array {α β : Type} {read : Json → Option α} {write : β → Json} {value : β → α}
    {items : List β} (reads : ∀ item ∈ items, read (write item) = some (value item)) :
    readList read (.array (items.map write)) = some (items.map value) :=
  mapM_map reads

end Json

end LayoutAdblock.Data
