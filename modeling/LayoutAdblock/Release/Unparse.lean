import Std.Data.String.ToInt
import LayoutAdblock.Data.PrefixCode
import LayoutAdblock.Data.Related
import LayoutAdblock.Release.Canonical

namespace LayoutAdblock.Release

open Data Json PrefixCode

/-! # The signed bytes determine the payload

What is printed for a value shows the value and where its text ends, in front of
every text that does not go on with a digit or a sign.
-/

/-- What a digit of the escape of a control character stands for. -/
def hexValue (digit : Char) : Nat :=
  if digit.isDigit then digit.toNat - 48 else digit.toNat - 87

def unescapeTail : List Char → Option (Char × List Char)
  | 'u' :: rest =>
      let code := (rest.take 4).foldl (fun code digit => 16 * code + hexValue digit) 0
      some (Char.ofNat code, rest.drop 4)
  | 'n' :: rest => some ('\n', rest)
  | 'r' :: rest => some ('\r', rest)
  | 't' :: rest => some ('\t', rest)
  | ch :: rest => some (ch, rest)
  | [] => none

/-- Read the character whose escaped text a text starts with. -/
def unescape : List Char → Option (Char × List Char)
  | [] => none
  | ch :: rest => if ch = '\\' then unescapeTail rest else some (ch, rest)

set_option maxRecDepth 8000 in
theorem hex4_control : ∀ code < 0xa0, (hex4 code).length = 4 ∧
    (hex4 code).foldl (fun code digit => 16 * code + hexValue digit) 0 = code := by
  decide

theorem unescape_escapeChar (ch : Char) (rest : List Char) :
    unescape (escapeChar ch ++ rest) = some (ch, rest) := by
  fun_cases escapeChar ch with
  | case1 => rfl
  | case2 => rfl
  | case3 => rfl
  | case4 => rfl
  | case5 => rfl
  | case6 ch quote backslash newline carriage tab control =>
      have small : ch.toNat < 0xa0 := by
        simp only [isControl, Bool.or_eq_true, Bool.and_eq_true, decide_eq_true_eq] at control
        omega
      obtain ⟨length, code⟩ := hex4_control ch.toNat small
      rw [List.cons_append, List.cons_append, unescape, if_pos rfl, unescapeTail,
        List.take_left' length, List.drop_left' length, code, Char.ofNat_toNat]
  | case7 ch quote backslash newline carriage tab printable =>
      exact if_neg backslash

theorem escapeChar_told (ch : Char) :
    Told (fun _ => True) (fun _ => True) (· = ·) escapeChar ch := by
  intro other left right _ _ _ texts
  have read := congrArg unescape texts
  rw [unescape_escapeChar, unescape_escapeChar] at read
  exact Prod.mk.inj (Option.some.inj read)

theorem escapeChar_opens (ch : Char) : Opens '"' (escapeChar ch) := by
  fun_cases escapeChar ch with
  | case6 => exact ⟨_, _, rfl, by decide⟩
  | case7 ch quote => exact ⟨_, _, rfl, quote⟩
  | _ => exact ⟨_, _, rfl, by decide⟩

theorem escapeJsonString_told {first second : String} {left right : List Char}
    (texts : escapeJsonString first ++ '"' :: left = escapeJsonString second ++ '"' :: right) :
    first = second ∧ left = right := by
  obtain ⟨characters, rests⟩ := terminated_told
    (fun ch _ => escapeChar_opens ch) (fun ch _ => escapeChar_told ch)
    (fun _ _ => trivial) (fun _ _ => trivial) texts
  exact ⟨String.toList_inj.mp (List.forall₂_eq_eq_eq ▸ characters), rests⟩

def numeric (ch : Char) : Bool := ch.isDigit || ch == '-'

theorem toList_negSucc (number : Nat) :
    (toString (Int.negSucc number)).toList = '-' :: (number + 1).repr.toList :=
  String.toList_append

theorem numeric_of_mem {value : Int} {ch : Char} (member : ch ∈ (toString value).toList) :
    numeric ch := by
  have digit : ∀ {number : Nat}, ch ∈ number.repr.toList → ch.isDigit = true := by
    intro number member
    rw [Nat.toList_repr] at member
    exact Nat.isDigit_of_mem_toDigits (by decide) (by decide) member
  cases value with
  | ofNat number => simp [numeric, digit member]
  | negSucc number =>
      rw [toList_negSucc] at member
      rcases List.mem_cons.mp member with rfl | member
      · decide
      · simp [numeric, digit member]

theorem number_told {first second : Int} {left right : List Char} (leftEnds : Ends numeric left)
    (rightEnds : Ends numeric right)
    (texts : (toString first).toList ++ left = (toString second).toList ++ right) :
    first = second ∧ left = right := by
  obtain ⟨digits, rests⟩ := run_told (fun _ => numeric_of_mem) (fun _ => numeric_of_mem)
    leftEnds rightEnds texts
  exact ⟨Int.repr_injective (String.toList_inj.mp digits), rests⟩

/-- What a document begins with tells of which kind it is. -/
inductive Kind where
  | null
  | bool
  | number
  | string
  | array
  | object
  | other
deriving DecidableEq

/-- The kind of the values whose text starts with this character. -/
def Kind.ofHead (head : Char) : Kind :=
  if numeric head then .number
  else match head with
    | 'n' => .null
    | 't' => .bool
    | 'f' => .bool
    | '"' => .string
    | '[' => .array
    | '{' => .object
    | _ => .other

/-- The kind of a document. Decimals are apart, since their text is not known here. -/
def Kind.of : Json → Kind
  | .null => .null
  | .bool _ => .bool
  | .number _ => .number
  | .decimal _ => .other
  | .string _ => .string
  | .array _ => .array
  | .object _ => .object

section Values

variable {printFloat : Float → List Char} {value other : Json}

theorem number_starts (number : Int) : ∃ head rest, (toString number).toList = head :: rest ∧
    numeric head := by
  cases digits : (toString number).toList with
  | nil =>
      cases number with
      | ofNat number => exact absurd (Nat.toList_repr.symm.trans digits) Nat.toDigits_ne_nil
      | negSucc number =>
          exact absurd ((toList_negSucc number).symm.trans digits) (List.cons_ne_nil _ _)
  | cons head rest =>
      have member : head ∈ (toString number).toList := digits ▸ List.mem_cons_self
      exact ⟨head, rest, rfl, numeric_of_mem member⟩

variable (printFloat) in

/-- The first character shows the kind of the value. -/
theorem pythonishDumps_starts (plain : value.Plain) :
    ∃ head rest, pythonishDumps printFloat value = head :: rest ∧
      Kind.ofHead head = Kind.of value := by
  cases plain with
  | null => exact ⟨'n', _, rfl, rfl⟩
  | bool value => cases value <;> exact ⟨_, _, rfl, rfl⟩
  | number number =>
      obtain ⟨head, rest, text, isNumeric⟩ := number_starts number
      exact ⟨head, rest, text, if_pos isNumeric⟩
  | string => exact ⟨'"', _, rfl, rfl⟩
  | array => exact ⟨'[', _, rfl, rfl⟩
  | object => exact ⟨'{', _, rfl, rfl⟩

theorem pythonishDumps_opens (plain : value.Plain) :
    Opens ']' (pythonishDumps printFloat value) := by
  obtain ⟨head, rest, text, kind⟩ := pythonishDumps_starts printFloat plain
  refine ⟨head, rest, text, ?_⟩
  rintro rfl
  have closing : Kind.ofHead ']' = .other := by decide
  rw [closing] at kind
  cases plain <;> cases kind

/-- Values of different kinds are told apart. -/
theorem kind_of_texts {left right : List Char} (plain : value.Plain) (otherPlain : other.Plain)
    (texts : pythonishDumps printFloat value ++ left = pythonishDumps printFloat other ++ right) :
    Kind.of value = Kind.of other := by
  obtain ⟨head, rest, text, kind⟩ := pythonishDumps_starts printFloat plain
  obtain ⟨otherHead, otherRest, otherText, otherKind⟩ :=
    pythonishDumps_starts printFloat otherPlain
  rw [text, otherText, List.cons_append, List.cons_append, List.cons.injEq] at texts
  rw [← kind, ← otherKind, texts.1]

def SameEntry (first second : String × Json) : Prop := first.1 = second.1 ∧ Same first.2 second.2

variable (printFloat) in

def valueText (entry : String × Json) : List Char :=
  entryText (entry.1, pythonishDumps printFloat entry.2)

theorem entry_told {entry : String × Json}
    (told : Told (Ends numeric) Plain Same (pythonishDumps printFloat) entry.2) :
    Told (Ends numeric) (fun other => other.2.Plain) SameEntry (valueText printFloat)
      entry := by
  intro other left right otherPlain leftEnds rightEnds texts
  simp only [valueText, entryText, List.cons_append, List.append_assoc, List.cons.injEq, true_and]
    at texts
  obtain ⟨keys, texts⟩ := escapeJsonString_told texts
  simp only [List.cons.injEq, true_and] at texts
  obtain ⟨values, rests⟩ := told otherPlain leftEnds rightEnds texts
  exact ⟨⟨keys, values⟩, rests⟩

/-- Objects whose sorted entries are the same are the same map. -/
theorem same_object {fields others : List (String × Json)}
    (otherDistinct : (others.map Prod.fst).Nodup)
    (pairs : List.Forall₂ SameEntry (fields.insertionSort byBytes) (others.insertionSort byBytes)) :
    Same (.object fields) (.object others) := by
  have keys : (fields.insertionSort byBytes).map Prod.fst =
      (others.insertionSort byBytes).map Prod.fst := by
    have related : List.Forall₂ (· = ·) ((fields.insertionSort byBytes).map Prod.fst)
        ((others.insertionSort byBytes).map Prod.fst) := by
      rw [List.forall₂_map_left_iff, List.forall₂_map_right_iff]
      exact pairs.imp fun _ _ same => same.1
    exact List.forall₂_eq_eq_eq ▸ related
  have order : ∀ entries : List (String × Json),
      ((entries.insertionSort byBytes).map Prod.fst).Perm (entries.map Prod.fst) :=
    fun entries => (List.perm_insertionSort byBytes entries).map Prod.fst
  refine .object (fun key => ?_) fun key value other inFields inOthers => ?_
  · rw [← (order fields).mem_iff, keys, (order others).mem_iff]
  · have sorted := (List.mem_insertionSort byBytes).mpr inFields
    obtain ⟨counterpart, inSorted, sameKey, same⟩ := exists_related pairs sorted
    have own : counterpart = (key, other) :=
      List.inj_on_of_nodup_map otherDistinct ((List.mem_insertionSort byBytes).mp inSorted)
        inOthers sameKey.symm
    rwa [own] at same

/-- Lists and objects are told apart when their members are. -/
theorem array_told {items : List Json} (plain : (Json.array items).Plain)
    (told : ∀ item ∈ items, Told (Ends numeric) Plain Same (pythonishDumps printFloat) item) :
    Told (Ends numeric) Plain Same (pythonishDumps printFloat) (.array items) := by
  intro other left right otherPlain _ _ texts
  have kind := kind_of_texts plain otherPlain texts
  cases plain with
  | array each =>
      cases otherPlain with
      | @array others otherEach =>
          simp only [pythonishDumps_array, List.cons_append, List.append_assoc, List.cons.injEq,
            true_and] at texts
          obtain ⟨pairs, rests⟩ := separated_told (by decide) (fun _ => by simp [numeric])
            (fun _ => by simp [numeric]) (fun _ => pythonishDumps_opens) told each otherEach texts
          obtain ⟨length, same⟩ := List.forall₂_iff_get.mp pairs
          exact ⟨.array length same, rests⟩
      | _ => cases kind

theorem object_told {fields : List (String × Json)} (plain : (Json.object fields).Plain)
    (told : ∀ entry ∈ fields,
      Told (Ends numeric) Plain Same (pythonishDumps printFloat) entry.2) :
    Told (Ends numeric) Plain Same (pythonishDumps printFloat) (.object fields) := by
  intro other left right otherPlain _ _ texts
  have kind := kind_of_texts plain otherPlain texts
  cases plain with
  | object distinct each =>
      cases otherPlain with
      | @object others otherDistinct otherEach =>
          simp only [pythonishDumps_object, List.cons_append, List.append_assoc, List.cons.injEq,
            true_and] at texts
          have inFields : ∀ {entries : List (String × Json)} {entry},
              entry ∈ entries.insertionSort byBytes → entry ∈ entries :=
            (List.mem_insertionSort byBytes).mp
          have opens : ∀ entry : String × Json, entry.2.Plain →
              Opens '}' (valueText printFloat entry) :=
            fun _ _ => ⟨'"', _, rfl, by decide⟩
          obtain ⟨pairs, rests⟩ := separated_told (by decide) (fun _ => by simp [numeric])
            (fun _ => by simp [numeric]) opens
            (fun entry member => entry_told (told entry (inFields member)))
            (fun entry member => each entry (inFields member))
            (fun entry member => otherEach entry (inFields member)) texts
          exact ⟨same_object otherDistinct pairs, rests⟩
      | _ => cases kind

/-- A printed value is told apart from every other in front of a text that does not
go on with a digit or a sign. -/
theorem pythonishDumps_told (plain : value.Plain) :
    Told (Ends numeric) Plain Same (pythonishDumps printFloat) value := by
  induction value using Json.induct with
  | null =>
      intro other left right otherPlain _ _ texts
      have kind := kind_of_texts plain otherPlain texts
      cases otherPlain with
      | null => exact ⟨.null, List.append_cancel_left texts⟩
      | _ => cases kind
  | bool value =>
      intro other left right otherPlain _ _ texts
      have kind := kind_of_texts plain otherPlain texts
      cases otherPlain with
      | bool otherValue =>
          cases value <;> cases otherValue
          · exact ⟨.bool false, List.append_cancel_left texts⟩
          · exact absurd (List.cons.inj texts).1 (by decide)
          · exact absurd (List.cons.inj texts).1 (by decide)
          · exact ⟨.bool true, List.append_cancel_left texts⟩
      | _ => cases kind
  | number value =>
      intro other left right otherPlain leftEnds rightEnds texts
      have kind := kind_of_texts plain otherPlain texts
      cases otherPlain with
      | number otherValue =>
          obtain ⟨rfl, rests⟩ := number_told leftEnds rightEnds texts
          exact ⟨.number value, rests⟩
      | _ => cases kind
  | decimal value => cases plain
  | string value =>
      intro other left right otherPlain _ _ texts
      have kind := kind_of_texts plain otherPlain texts
      cases otherPlain with
      | string otherValue =>
          simp only [pythonishDumps, List.cons_append, List.append_assoc, List.cons.injEq,
            true_and] at texts
          obtain ⟨rfl, rests⟩ := escapeJsonString_told texts
          exact ⟨.string value, rests⟩
      | _ => cases kind
  | array items ih =>
      apply array_told plain
      cases plain with
      | array each => exact fun item member => ih item member (each item member)
  | object fields ih =>
      apply object_told plain
      cases plain with
      | object distinct each => exact fun entry member => ih entry member (each entry member)

end Values

/-- The signed bytes determine the payload, whose objects are compared as maps. -/
theorem canonicalPayloadPython_injective {printFloat : Float → List Char} {first second : Json}
    (firstPlain : first.Plain) (secondPlain : second.Plain)
    (same : canonicalPayloadPython printFloat first = canonicalPayloadPython printFloat second) :
    Same first second := by
  have printed := utf8_injective (Except.ok.inj same)
  have texts : pythonishDumps printFloat first ++ [] = pythonishDumps printFloat second ++ [] := by
    rw [printed]
  exact (pythonishDumps_told firstPlain secondPlain (ends_nil _) (ends_nil _) texts).1

theorem canonicalPayloadPython_injective_order :
    Same (.object [("a", .null), ("b", .number 1)]) (.object [("b", .number 1), ("a", .null)]) :=
  @canonicalPayloadPython_injective (fun _ => []) _ _
    (.object (by decide) (by simp [Plain.null, Plain.number]))
    (.object (by decide) (by simp [Plain.null, Plain.number])) (by decide)

end LayoutAdblock.Release
