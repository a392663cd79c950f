import Mathlib.Data.List.Basic
import Mathlib.Data.List.Nodup
import LayoutAdblock.Data.Json

namespace LayoutAdblock.Data

/-! # Records laid over records

A record is read from the entries of an object: an entry at a known key must
have the type of its field, a missing entry leaves the default, and unknown keys
are skipped.  To lay an object over a record, its entries are tried one by one
on top of the written record, and those that cannot be read are refused.
-/

namespace Json

theorem lookup_entry (key other : String) (value : Json) (rest : List (String × Json)) :
    ((key, value) :: rest).lookup other =
      if other = key then some value else rest.lookup other := by
  by_cases same : other = key
  · simp [same]
  · have apart : (other == key) = false := beq_false_of_ne same
    simp [List.lookup_cons, apart, same]

theorem lookup_insertField (key other : String) (value : Json) (fields : List (String × Json)) :
    (insertField key value fields).lookup other =
      if other = key then some value else fields.lookup other := by
  induction fields with
  | nil => exact lookup_entry key other value []
  | cons entry rest ih =>
      obtain ⟨first, old⟩ := entry
      simp only [insertField]
      by_cases here : key = first
      · subst here
        simp only [if_true, lookup_entry]
        split <;> rfl
      · by_cases before : key < first
        · simp only [here, before, if_true, if_false, lookup_entry]
        · simp only [here, before, if_false, lookup_entry, ih]
          by_cases same : other = key
          · subst same
            simp [here]
          · simp [same]

/-- An entry is found under its key when no key comes twice. -/
theorem lookup_of_mem {fields : List (String × Json)} (distinct : (fields.map Prod.fst).Nodup)
    {entry : String × Json} (member : entry ∈ fields) : fields.lookup entry.1 = some entry.2 := by
  induction fields with
  | nil => cases member
  | cons head rest ih =>
      obtain ⟨first, value⟩ := head
      obtain ⟨fresh, distinctRest⟩ := List.nodup_cons.mp distinct
      rw [lookup_entry]
      cases List.mem_cons.mp member with
      | inl same => simp [same]
      | inr later =>
          have different : entry.1 ≠ first := by
            rintro rfl
            exact fresh (List.mem_map.mpr ⟨entry, later, rfl⟩)
          rw [if_neg different, ih distinctRest later]

theorem lookup_eq_none {fields : List (String × Json)} {key : String}
    (fresh : key ∉ fields.map Prod.fst) : fields.lookup key = none := by
  rw [List.lookup_eq_none_iff]
  intro entry member
  have different : key ≠ entry.1 := by
    rintro rfl
    exact fresh (List.mem_map_of_mem member)
  simpa using different

theorem mem_of_lookup {fields : List (String × Json)} {key : String} {value : Json}
    (found : fields.lookup key = some value) : (key, value) ∈ fields := by
  induction fields with
  | nil => cases found
  | cons entry rest ih =>
      obtain ⟨first, own⟩ := entry
      rw [lookup_entry] at found
      split at found
      · rename_i same
        rw [same, Option.some.inj found]
        exact List.mem_cons_self
      · exact List.mem_cons_of_mem _ (ih found)

/-- Dropping entries at other keys does not change what is found at a key. -/
theorem lookup_filter {kept : String → Prop} [DecidablePred kept]
    {fields : List (String × Json)} {key : String} (keeps : kept key) :
    (fields.filter fun entry => decide (kept entry.1)).lookup key = fields.lookup key := by
  induction fields with
  | nil => rfl
  | cons entry rest ih =>
      obtain ⟨first, own⟩ := entry
      by_cases keepsFirst : kept first
      · simp only [List.filter_cons, keepsFirst, decide_true, if_true, lookup_entry, ih]
      · have apart : key ≠ first := fun same => keepsFirst (same ▸ keeps)
        simp only [List.filter_cons, keepsFirst, decide_false, Bool.false_eq_true, if_false,
          lookup_entry, apart, ih]

/-- What an object maps its keys to does not depend on their order. -/
theorem lookup_perm {first second : List (String × Json)}
    (distinct : (first.map Prod.fst).Nodup) (perm : first.Perm second) (key : String) :
    first.lookup key = second.lookup key := by
  by_cases known : key ∈ first.map Prod.fst
  · obtain ⟨entry, member, rfl⟩ := List.mem_map.mp known
    have distinctSecond := (perm.map Prod.fst).nodup distinct
    rw [lookup_of_mem distinct member, lookup_of_mem distinctSecond (perm.mem_iff.mp member)]
  · have unknown : key ∉ second.map Prod.fst :=
      fun member => known ((perm.map Prod.fst).mem_iff.mpr member)
    rw [lookup_eq_none known, lookup_eq_none unknown]

end Json

/-- How the values of a record type are read.  `accepts` says which values have the
type of the field at a known key. -/
structure RecordReader (T : Type) where
  keys : List String
  accepts : String → Json → Bool
  build : (String → Option Json) → T
  build_congr : ∀ {first second : String → Option Json},
    (∀ key ∈ keys, first key = second key) → build first = build second

namespace RecordReader

variable {T : Type} (reader : RecordReader T)

/-- A read record is built from its entries, when those at known keys all have
their types. -/
def read (entries : List (String × Json)) : Option T :=
  if reader.keys.all fun key => (entries.lookup key).all (reader.accepts key) then
    some (reader.build fun key => entries.lookup key)
  else none

/-- One field of the file after the other is put in place of the default. Where the record
can then be read it is kept, and otherwise the field stays as it was and a warning says so. -/
def overlayEntries (warning : String → String) :
    List (String × Json) → List (String × Json) → T → List String → T × List String
  | [], _, result, warnings => (result, warnings)
  | (key, value) :: rest, current, result, warnings =>
      let trial := Json.insertField key value current
      match reader.read trial with
      | some parsed => overlayEntries warning rest trial parsed warnings
      | none => overlayEntries warning rest current result (warnings ++ [warning key])

/-- Only an object with entries changes anything of a base that is `written` so. -/
def overlay (warning : String → String) (written : List (String × Json)) (base : T) :
    Json → T × List String
  | .object (entry :: rest) => reader.overlayEntries warning (entry :: rest) written base []
  | _ => (base, [])

def refuses (key : String) (value : Json) : Bool :=
  decide (key ∈ reader.keys) && !reader.accepts key value

/-- The entries of an object that are taken, over those of the base. -/
def laid (entries : List (String × Json)) (base : String → Option Json) (key : String) :
    Option Json :=
  match entries.lookup key with
  | some value => if reader.accepts key value then some value else base key
  | none => base key

variable {reader}

theorem read_of_accepted {entries : List (String × Json)}
    (accepted : ∀ key ∈ reader.keys, (entries.lookup key).all (reader.accepts key) = true) :
    reader.read entries = some (reader.build fun key => entries.lookup key) := by
  have all := List.all_eq_true.mpr accepted
  simp only [read, all, if_true]

/-- What is read has the types of its fields, and is built from the entries. -/
theorem of_read {entries : List (String × Json)} {result : T}
    (reads : reader.read entries = some result) :
    (∀ key ∈ reader.keys, (entries.lookup key).all (reader.accepts key) = true) ∧
      result = reader.build fun key => entries.lookup key := by
  simp only [read] at reads
  split at reads
  · rename_i all
    exact ⟨List.all_eq_true.mp all, (Option.some.inj reads).symm⟩
  · cases reads

theorem read_insertField {current : List (String × Json)} {result : T}
    (reads : reader.read current = some result) (key : String) (value : Json) :
    reader.read (Json.insertField key value current) =
      if reader.refuses key value then none
      else some (reader.build fun other => (Json.insertField key value current).lookup other) := by
  have held := (of_read reads).1
  by_cases refused : reader.refuses key value = true
  · simp only [refuses, Bool.and_eq_true, decide_eq_true_eq, Bool.not_eq_true'] at refused
    have some : ¬ (reader.keys.all fun other =>
        ((Json.insertField key value current).lookup other).all (reader.accepts other)) = true := by
      intro all
      have taken := List.all_eq_true.mp all key refused.1
      rw [Json.lookup_insertField, if_pos rfl, Option.all_some, refused.2] at taken
      cases taken
    simp [read, some, refuses, refused]
  · rw [if_neg refused]
    refine read_of_accepted fun other known => ?_
    rw [Json.lookup_insertField]
    split
    · rename_i same
      subst same
      simpa [refuses, known] using refused
    · exact held other known

/-- The record that is left after some entries, and the warnings. -/
theorem overlayEntries_eq (warning : String → String) {entries : List (String × Json)}
    (distinct : (entries.map Prod.fst).Nodup) {current : List (String × Json)} {result : T}
    (reads : reader.read current = some result) (warnings : List String) :
    reader.overlayEntries warning entries current result warnings =
      (reader.build (reader.laid entries fun key => current.lookup key),
        warnings ++ (entries.filter fun entry => reader.refuses entry.1 entry.2).map
          fun entry => warning entry.1) := by
  induction entries generalizing current result warnings with
  | nil =>
      rw [overlayEntries, (of_read reads).2, List.filter_nil, List.map_nil, List.append_nil]
      rfl
  | cons entry rest ih =>
      obtain ⟨key, value⟩ := entry
      obtain ⟨fresh, distinctRest⟩ := List.nodup_cons.mp distinct
      have missing : rest.lookup key = none := Json.lookup_eq_none fresh
      have read := read_insertField reads key value
      simp only [overlayEntries, read]
      by_cases refused : reader.refuses key value = true
      · simp only [refused, if_true, List.filter_cons]
        rw [ih distinctRest reads]
        congr 1
        · refine reader.build_congr fun other known => ?_
          by_cases same : other = key
          · subst same
            simp only [refuses, known, decide_true, Bool.true_and, Bool.not_eq_true'] at refused
            simp [laid, missing, refused]
          · simp [laid, Json.lookup_entry, same]
        · simp
      · simp only [refused, List.filter_cons, Bool.false_eq_true, if_false]
        have reads' : reader.read (Json.insertField key value current) = some (reader.build
            fun other => (Json.insertField key value current).lookup other) := by
          rw [read, if_neg refused]
        rw [ih distinctRest reads']
        congr 1
        refine reader.build_congr fun other known => ?_
        by_cases same : other = key
        · subst same
          simp only [refuses, known, decide_true, Bool.true_and, Bool.not_eq_true',
            Bool.not_eq_false] at refused
          simp [laid, missing, refused, Json.lookup_insertField]
        · simp [laid, Json.lookup_entry, same, Json.lookup_insertField]

/-- An overlay takes every entry that has the type of its field. -/
theorem overlay_object (warning : String → String) {written : List (String × Json)} {base : T}
    (reads : reader.read written = some base) {entries : List (String × Json)}
    (distinct : (entries.map Prod.fst).Nodup) :
    reader.overlay warning written base (.object entries) =
      (reader.build (reader.laid entries fun key => written.lookup key),
        (entries.filter fun entry => reader.refuses entry.1 entry.2).map
          fun entry => warning entry.1) := by
  cases entries with
  | nil =>
      rw [overlay, (of_read reads).2]
      · rfl
      · intro entry rest same
        cases same
  | cons entry rest => rw [overlay, overlayEntries_eq warning distinct reads, List.nil_append]

/-- A field is taken from an entry that has its type, and is the base's otherwise. -/
theorem laid_field {α : Type} {key : String} {read : Json → Option α}
    (typed : ∀ value, reader.accepts key value = (read value).isSome)
    {entries : List (String × Json)} {base : String → Option Json} {own : α}
    (written : (base key).bind read = some own) (default : α) :
    ((reader.laid entries base key).bind read).getD default =
      ((entries.lookup key).bind read).getD own := by
  unfold laid
  cases entries.lookup key with
  | none => simp [written]
  | some value =>
      dsimp only
      rw [typed]
      cases reads : read value with
      | none => simp [reads, written]
      | some taken => simp [reads]

/-- A merge whose record has the fields that `merged` takes from an object, whatever
the order of the keys, and which warns once of each known key whose value is refused. -/
structure MergesFieldwise (reader : RecordReader T) (warning : String → String)
    (merged : (String → Option Json) → T) (merge : Json → T × List String) : Prop where
  record : ∀ {entries}, (entries.map Prod.fst).Nodup →
    (merge (.object entries)).1 = merged fun key => entries.lookup key
  warnings : ∀ {entries}, (entries.map Prod.fst).Nodup → ∃ refused : List String,
    refused.Nodup ∧
    (∀ key, key ∈ refused ↔ key ∈ reader.keys ∧
      ∃ value, entries.lookup key = some value ∧ reader.accepts key value = false) ∧
    (merge (.object entries)).2 = refused.map warning
  unknown : ∀ {entries}, (entries.map Prod.fst).Nodup →
    merge (.object entries) =
      merge (.object (entries.filter fun entry => decide (entry.1 ∈ reader.keys)))
  order : ∀ {first second}, (first.map Prod.fst).Nodup → first.Perm second →
    (merge (.object first)).1 = (merge (.object second)).1 ∧
      (merge (.object first)).2.Perm (merge (.object second)).2

theorem mem_refused {entries : List (String × Json)} (distinct : (entries.map Prod.fst).Nodup)
    (key : String) :
    key ∈ (entries.filter fun entry => reader.refuses entry.1 entry.2).map Prod.fst ↔
      key ∈ reader.keys ∧
        ∃ value, entries.lookup key = some value ∧ reader.accepts key value = false := by
  simp only [List.mem_map, List.mem_filter, refuses, Bool.and_eq_true, decide_eq_true_eq,
    Bool.not_eq_true']
  constructor
  · intro refused
    obtain ⟨entry, ⟨member, known, wrong⟩, rfl⟩ := refused
    exact ⟨known, entry.2, Json.lookup_of_mem distinct member, wrong⟩
  · intro refused
    obtain ⟨known, value, found, wrong⟩ := refused
    exact ⟨(key, value), ⟨Json.mem_of_lookup found, known, wrong⟩, rfl⟩

/-- Laying the taken entries over what the base is written as merges field by field,
when that is what `merged` does for the record. -/
theorem mergesFieldwise {warning : String → String} {written : List (String × Json)} {base : T}
    {merged : (String → Option Json) → T} (reads : reader.read written = some base)
    (fieldwise : ∀ entries : List (String × Json),
      reader.build (reader.laid entries fun key => written.lookup key) =
        merged fun key => entries.lookup key) :
    reader.MergesFieldwise warning merged (reader.overlay warning written base) where
  record := by
    intro entries distinct
    rw [overlay_object warning reads distinct, fieldwise]
  warnings := by
    intro entries distinct
    refine ⟨_, ?_, mem_refused distinct, ?_⟩
    · exact distinct.sublist (List.filter_sublist.map Prod.fst)
    · rw [overlay_object warning reads distinct, List.map_map]
      rfl
  unknown := by
    intro entries distinct
    have distinctKnown : ((entries.filter fun entry =>
        decide (entry.1 ∈ reader.keys)).map Prod.fst).Nodup :=
      distinct.sublist (List.filter_sublist.map Prod.fst)
    rw [overlay_object warning reads distinct, overlay_object warning reads distinctKnown,
      List.filter_filter]
    congr 1
    · refine reader.build_congr fun key known => ?_
      rw [laid, laid, Json.lookup_filter known]
    · congr 1
      refine List.filter_congr fun entry _ => ?_
      simp only [refuses]
      cases decide (entry.1 ∈ reader.keys) <;> simp
  order := by
    intro first second distinct perm
    have distinctSecond := (perm.map Prod.fst).nodup distinct
    rw [overlay_object warning reads distinct, overlay_object warning reads distinctSecond]
    constructor
    · rw [fieldwise, fieldwise]
      exact congrArg merged (funext fun key => Json.lookup_perm distinct perm key)
    · exact (perm.filter _).map _

end RecordReader

/-- How the values of a record type are written too: a written record has an entry of
the right type at every known key, and is read back as itself. -/
structure RecordType (T : Type) extends reader : RecordReader T where
  fields : T → List (String × Json)
  build_fields : ∀ value, build (fun key => (fields value).lookup key) = value
  fields_accepted : ∀ value, ∀ key ∈ keys, ((fields value).lookup key).all (accepts key) = true
  fields_full : ∀ value, ∀ key ∈ keys, ((fields value).lookup key).isSome = true

namespace RecordType

variable {T : Type} {type : RecordType T}

/-- The base of an overlay is written before the entries are tried on it. -/
def overlay (type : RecordType T) (warning : String → String) (base : T) :
    Json → T × List String :=
  type.reader.overlay warning (type.fields base) base

theorem read_fields (value : T) : type.reader.read (type.fields value) = some value := by
  rw [RecordReader.read_of_accepted (type.fields_accepted value), type.build_fields]

/-- An overlay takes every entry that has the type of its field. -/
theorem overlay_object (warning : String → String) (base : T) {entries : List (String × Json)}
    (distinct : (entries.map Prod.fst).Nodup) :
    type.overlay warning base (.object entries) =
      (type.build (type.reader.laid entries fun key => (type.fields base).lookup key),
        (entries.filter fun entry => type.reader.refuses entry.1 entry.2).map
          fun entry => warning entry.1) :=
  RecordReader.overlay_object warning (read_fields base) distinct

/-- A written record replaces whatever it is laid over. -/
theorem overlay_fields (warning : String → String) (base value : T)
    (distinct : ((type.fields value).map Prod.fst).Nodup)
    (known : ∀ entry ∈ type.fields value, entry.1 ∈ type.keys) :
    type.overlay warning base (.object (type.fields value)) = (value, []) := by
  rw [overlay_object warning base distinct]
  have built : type.build (type.reader.laid (type.fields value)
      fun key => (type.fields base).lookup key) = value := by
    calc
      _ = type.build (fun key => (type.fields value).lookup key) := by
          refine type.build_congr fun key member => ?_
          have full := type.fields_full value key member
          have accepted := type.fields_accepted value key member
          obtain ⟨found, here⟩ := Option.isSome_iff_exists.mp full
          rw [here, Option.all_some] at accepted
          simp [RecordReader.laid, here, accepted]
      _ = value := type.build_fields value
  have clean : (type.fields value).filter
      (fun entry => type.reader.refuses entry.1 entry.2) = [] := by
    refine List.filter_eq_nil_iff.mpr fun entry member => ?_
    have accepted := type.fields_accepted value entry.1 (known entry member)
    rw [Json.lookup_of_mem distinct member, Option.all_some] at accepted
    simp [RecordReader.refuses, accepted]
  rw [built, clean, List.map_nil]

end RecordType

end LayoutAdblock.Data
