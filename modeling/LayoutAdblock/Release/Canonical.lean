import Mathlib.Data.List.Sort
import LayoutAdblock.Data.Json
import LayoutAdblock.Data.Utf8Order
import LayoutAdblock.Interaction.Files

namespace LayoutAdblock.Release

open Data Interaction

/-! # The signed bytes of a manifest

The updater prints the payload of a manifest the way the release script's
`json.dumps` did, and checks the signature over these bytes.  How a number with
a fraction is printed is left to the `serde_json` crate.
-/

/-- Why there is no update. That there is nothing newer is told apart, since it is not shown
as an error. -/
inductive UpdateError where
  | message (text : String)
  | noUpdate
deriving DecidableEq, Repr

/-- `{:04x}` -/
def hex4 (code : Nat) : List Char := (Nat.toDigits 16 code).leftpad 4 '0'

def isControl (ch : Char) : Bool := ch.toNat < 0x20 || 0x7f ≤ ch.toNat && ch.toNat < 0xa0

/-- How the program writes a character within a text. Other control characters than these
three are written by their number, the backspace too. -/
def escapeChar : Char → List Char
  | '"' => ['\\', '"']
  | '\\' => ['\\', '\\']
  | '\n' => ['\\', 'n']
  | '\r' => ['\\', 'r']
  | '\t' => ['\\', 't']
  | ch => if isControl ch then '\\' :: 'u' :: hex4 ch.toNat else [ch]

/-- A text between its quotation marks, character by character. -/
def escapeJsonString (input : String) : List Char := input.toList.flatMap escapeChar

def byBytes {α : Type} (first second : String × α) : Prop :=
  utf8 first.1.toList ≤ utf8 second.1.toList

instance {α : Type} : DecidableRel (byBytes (α := α)) :=
  fun first second => inferInstanceAs (Decidable (utf8 first.1.toList ≤ utf8 second.1.toList))

def entryText (entry : String × List Char) : List Char :=
  '"' :: escapeJsonString entry.1 ++ '"' :: ':' :: entry.2

section Printers

variable (printFloat : Float → List Char)

mutual

/-- The canonical text of a document: no blanks, and the fields of an object in the order of
the bytes of their names. -/
def pythonishDumps : Json → List Char
  | .null => "null".toList
  | .bool true => "true".toList
  | .bool false => "false".toList
  | .number n => (toString n).toList
  | .decimal n => printFloat n
  | .string s => '"' :: escapeJsonString s ++ ['"']
  | .array items => '[' :: [','].intercalate (itemDumps items) ++ [']']
  | .object map =>
      '{' :: [','].intercalate (((fieldDumps map).insertionSort byBytes).map entryText) ++ ['}']

def itemDumps : List Json → List (List Char)
  | [] => []
  | item :: rest => pythonishDumps item :: itemDumps rest

/-- The fields of an object with their texts, not yet in order. -/
def fieldDumps : List (String × Json) → List (String × List Char)
  | [] => []
  | (key, value) :: rest => (key, pythonishDumps value) :: fieldDumps rest

end

/-- Match Python json.dumps(..., ensure_ascii=False, sort_keys=True, separators=(",", ":")) -/
def canonicalPayloadPython (payload : Json) : Except UpdateError Bytes :=
  .ok (utf8 (pythonishDumps printFloat payload))

theorem itemDumps_eq_map (items : List Json) :
    itemDumps printFloat items = items.map (pythonishDumps printFloat) := by
  induction items with
  | nil => rfl
  | cons item rest ih => rw [itemDumps, ih, List.map_cons]

theorem fieldDumps_eq_map (fields : List (String × Json)) :
    fieldDumps printFloat fields =
      fields.map fun entry => (entry.1, pythonishDumps printFloat entry.2) := by
  induction fields with
  | nil => rfl
  | cons entry rest ih => rw [fieldDumps, ih, List.map_cons]

theorem pythonishDumps_array (items : List Json) :
    pythonishDumps printFloat (.array items) =
      '[' :: [','].intercalate (items.map (pythonishDumps printFloat)) ++ [']'] := by
  rw [pythonishDumps, itemDumps_eq_map]

/-- Sorting the printed entries by their keys prints the sorted entries. -/
theorem pythonishDumps_object (fields : List (String × Json)) :
    pythonishDumps printFloat (.object fields) =
      '{' :: [','].intercalate ((fields.insertionSort byBytes).map fun entry =>
        entryText (entry.1, pythonishDumps printFloat entry.2)) ++ ['}'] := by
  have sorted := List.map_insertionSort byBytes byBytes
    (fun entry : String × Json => (entry.1, pythonishDumps printFloat entry.2)) fields
    fun _ _ _ _ => Iff.rfl
  rw [pythonishDumps, fieldDumps_eq_map, ← sorted, List.map_map]
  rfl

/-- How `json.dumps(payload, ensure_ascii=False, sort_keys=True, separators=(',', ':'))`
writes a character of a string. -/
def pythonEscapeChar : Char → List Char
  | '"' => ['\\', '"']
  | '\\' => ['\\', '\\']
  | '\n' => ['\\', 'n']
  | '\r' => ['\\', 'r']
  | '\t' => ['\\', 't']
  | '\x0c' => ['\\', 'f']
  | '\x08' => ['\\', 'b']
  | ch => if ch.toNat < 0x20 then '\\' :: 'u' :: hex4 ch.toNat else [ch]

def pythonString (text : String) : List Char :=
  '"' :: text.toList.flatMap pythonEscapeChar ++ ['"']

/-- Python compares strings by their characters. -/
def byCharacters {α : Type} (first second : String × α) : Prop := first.1.toList ≤ second.1.toList

instance {α : Type} : DecidableRel (byCharacters (α := α)) :=
  fun first second => inferInstanceAs (Decidable (first.1.toList ≤ second.1.toList))

mutual

/-- What Python makes of a document with sorted keys and without blanks, which the signature
is over. -/
def jsonDumps : Json → List Char
  | .null => "null".toList
  | .bool true => "true".toList
  | .bool false => "false".toList
  | .number value => (toString value).toList
  | .decimal value => printFloat value
  | .string text => pythonString text
  | .array items => '[' :: [','].intercalate (jsonItemDumps items) ++ [']']
  | .object fields =>
      '{' :: [','].intercalate (((jsonFieldDumps fields).insertionSort byCharacters).map
        fun entry => pythonString entry.1 ++ ':' :: entry.2) ++ ['}']

/-- The texts Python makes of the items of an array. -/
def jsonItemDumps : List Json → List (List Char)
  | [] => []
  | item :: rest => jsonDumps item :: jsonItemDumps rest

/-- The texts Python makes of the fields of an object, not yet in order. -/
def jsonFieldDumps : List (String × Json) → List (String × List Char)
  | [] => []
  | (key, value) :: rest => (key, jsonDumps value) :: jsonFieldDumps rest

end

/-- What the release script signs: the bytes of the payload with sorted keys and without
blanks. -/
def canonicalPayload (payload : Json) : Bytes := utf8 (jsonDumps printFloat payload)

theorem jsonDumps_array (items : List Json) :
    jsonDumps printFloat (.array items) =
      '[' :: [','].intercalate (items.map (jsonDumps printFloat)) ++ [']'] := by
  have printed : jsonItemDumps printFloat items = items.map (jsonDumps printFloat) := by
    induction items with
    | nil => rfl
    | cons item rest ih => rw [jsonItemDumps, ih, List.map_cons]
  rw [jsonDumps, printed]

theorem jsonDumps_object (fields : List (String × Json)) :
    jsonDumps printFloat (.object fields) =
      '{' :: [','].intercalate ((fields.insertionSort byCharacters).map fun entry =>
        pythonString entry.1 ++ ':' :: jsonDumps printFloat entry.2) ++ ['}'] := by
  have printed : jsonFieldDumps printFloat fields =
      fields.map fun entry => (entry.1, jsonDumps printFloat entry.2) := by
    induction fields with
    | nil => rfl
    | cons entry rest ih => rw [jsonFieldDumps, ih, List.map_cons]
  have sorted := List.map_insertionSort byCharacters byCharacters
    (fun entry : String × Json => (entry.1, jsonDumps printFloat entry.2)) fields
    fun _ _ _ _ => Iff.rfl
  rw [jsonDumps, printed, ← sorted, List.map_map]
  rfl

end Printers

end LayoutAdblock.Release
