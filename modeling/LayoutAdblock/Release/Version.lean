import LayoutAdblock.Core.Text
import LayoutAdblock.Data.Digits
import LayoutAdblock.Data.Outranks
import LayoutAdblock.Release.Canonical

namespace LayoutAdblock.Release

open LayoutAdblock.Core Data

/-! # Versions

A release is offered when its version is newer than the one that runs.  The
comparison reads every component as a `u32`.
-/

/-- The numbers of a version. A number that does not fit 32 bits is taken for zero. -/
def versionTuple (value : String) : Except UpdateError (List Nat) :=
  let parts := (trim value).toList.splitOn '.'
  if parts.isEmpty || parts.any fun part => part.isEmpty || !part.all Char.isDigit then
    .error (.message ("Invalid update version: " ++ value))
  else .ok (parts.map fun part => (parseUnsigned (2 ^ 32) part).getD 0)

/-- Versions are compared number by number, with zeros where one of them is shorter. -/
def isNewer (candidate current : String) : Except UpdateError Bool := do
  let left ← versionTuple candidate
  let right ← versionTuple current
  let width := max left.length right.length
  return decide (right.rightpad width 0 < left.rightpad width 0)

/-- A text of digit runs between dots, with white space around it. -/
structure VersionText where
  before : List Char
  runs : List Digits
  after : List Char
  nonempty : runs ≠ []
  beforeBlank : ∀ ch ∈ before, isWhitespace ch = true
  afterBlank : ∀ ch ∈ after, isWhitespace ch = true

namespace VersionText

/-- The numbers of a version, without the blanks around them. -/
def core (version : VersionText) : List Char :=
  ['.'].intercalate (version.runs.map Digits.text)

/-- A version as it is written, with the blanks around it. -/
def text (version : VersionText) : String :=
  String.ofList (version.before ++ version.core ++ version.after)

/-- The numbers of a version, with zeros after them. -/
def component (version : VersionText) : Nat → Nat := padded (version.runs.map Digits.value)

end VersionText

/-- How a component is read: as zero when it does not fit. -/
def asU32 (number : Nat) : Nat := if number < 2 ^ 32 then number else 0

theorem isWhitespace_of_isDigit {ch : Char} (digit : ch.isDigit = true) :
    isWhitespace ch = false := by
  have bounds : 48 ≤ ch.toNat ∧ ch.toNat ≤ 57 := by
    simpa [Char.isDigit, UInt32.le_iff_toNat_le] using digit
  simp [isWhitespace]
  omega

/-- Trimming takes away the white space around a text that starts and ends without. -/
theorem trim_around {before middle after : List Char}
    (beforeBlank : ∀ ch ∈ before, isWhitespace ch = true)
    (afterBlank : ∀ ch ∈ after, isWhitespace ch = true)
    (starts : ∀ ch ∈ middle.head?, isWhitespace ch = false)
    (ends : ∀ ch ∈ middle.getLast?, isWhitespace ch = false) (filled : middle ≠ []) :
    trim (String.ofList (before ++ middle ++ after)) = String.ofList middle := by
  have front : (before ++ middle ++ after).dropWhile isWhitespace = middle ++ after := by
    rw [List.append_assoc, List.dropWhile_append_of_pos beforeBlank]
    cases middle with
    | nil => exact absurd rfl filled
    | cons head rest => simp [starts head rfl]
  have back : (middle ++ after).reverse.dropWhile isWhitespace = middle.reverse := by
    rw [List.reverse_append, List.dropWhile_append_of_pos (by simpa using afterBlank)]
    cases reversed : middle.reverse with
    | nil => exact absurd (List.reverse_eq_nil_iff.mp reversed) filled
    | cons last rest =>
        have isLast : last ∈ middle.getLast? := by
          rw [← List.head?_reverse, reversed]
          rfl
        simp [ends last isLast]
  rw [trim, String.toList_ofList, front, back, List.reverse_reverse]

theorem mem_intercalate {separator ch : Char} {parts : List (List Char)}
    (member : ch ∈ [separator].intercalate parts) : ch = separator ∨ ∃ part ∈ parts, ch ∈ part := by
  induction parts with
  | nil => simp at member
  | cons part rest ih =>
      cases rest with
      | nil => exact .inr ⟨part, List.mem_cons_self, by simpa using member⟩
      | cons next others =>
          rw [List.intercalate_cons_cons, List.append_assoc, List.mem_append, List.mem_append,
            List.mem_singleton] at member
          rcases member with here | here | later
          · exact .inr ⟨part, List.mem_cons_self, here⟩
          · exact .inl here
          · rcases ih later with isSeparator | ⟨other, inRest, inside⟩
            · exact .inl isSeparator
            · exact .inr ⟨other, List.mem_cons_of_mem _ inRest, inside⟩

namespace VersionText

variable (version : VersionText)

theorem core_visible : ∀ ch ∈ version.core, isWhitespace ch = false := by
  intro ch member
  rcases mem_intercalate member with rfl | ⟨part, inParts, inPart⟩
  · decide
  · obtain ⟨run, _, rfl⟩ := List.mem_map.mp inParts
    exact isWhitespace_of_isDigit (run.digits ch inPart)

theorem core_ne_nil : version.core ≠ [] := by
  rw [core]
  cases runs : version.runs with
  | nil => exact absurd runs version.nonempty
  | cons run rest =>
      have text := run.nonempty
      cases rest with
      | nil => simpa using text
      | cons next others => simp [text]

/-- The parts between the dots are the runs. -/
theorem splitOn_core : version.core.splitOn '.' = version.runs.map Digits.text := by
  refine List.splitOn_intercalate '.' ?_ (by simpa using version.nonempty)
  intro part inParts dot
  obtain ⟨run, _, rfl⟩ := List.mem_map.mp inParts
  exact absurd (run.digits '.' dot) (by decide)

theorem versionTuple_text :
    versionTuple version.text = .ok (version.runs.map fun run => asU32 run.value) := by
  have trimmed : trim version.text = String.ofList version.core :=
    trim_around version.beforeBlank version.afterBlank
      (fun ch isHead => version.core_visible ch (List.mem_of_mem_head? isHead))
      (fun ch isLast => version.core_visible ch (List.mem_of_mem_getLast? isLast))
      version.core_ne_nil
  have accepted : ((version.runs.map Digits.text).isEmpty ||
      (version.runs.map Digits.text).any fun part => part.isEmpty || !part.all Char.isDigit) =
        false := by
    rw [Bool.or_eq_false_iff, List.isEmpty_eq_false_iff, List.any_eq_false]
    refine ⟨by simpa using version.nonempty, fun part inParts => ?_⟩
    obtain ⟨run, _, rfl⟩ := List.mem_map.mp inParts
    have digits : run.text.all Char.isDigit = true := List.all_eq_true.mpr run.digits
    simp [digits, run.nonempty]
  rw [versionTuple, trimmed, String.toList_ofList, splitOn_core]
  simp only [accepted, Bool.false_eq_true, if_false, List.map_map]
  congr 1
  refine List.map_congr_left fun run _ => ?_
  rw [Function.comp_apply, Digits.parseUnsigned_text, asU32]
  split <;> rfl

end VersionText

/-- The components of a version as they are read. -/
def VersionText.read (version : VersionText) (place : Nat) : Nat := asU32 (version.component place)

theorem VersionText.padded_read (version : VersionText) :
    padded (version.runs.map fun run => asU32 run.value) = version.read := by
  funext place
  simp only [padded, read, component, List.getD_eq_getElem?_getD, List.getElem?_map]
  cases version.runs[place]? <;> rfl

/-- The code compares the components as it reads them. -/
theorem isNewer_text (candidate current : VersionText) :
    isNewer candidate.text current.text = .ok true ↔ Outranks candidate.read current.read := by
  rw [isNewer, candidate.versionTuple_text, current.versionTuple_text]
  change Except.ok (decide _) = Except.ok true ↔ _
  rw [Except.ok.injEq, decide_eq_true_eq, lt_iff_outranks (by simp), padded_rightpad,
    padded_rightpad, candidate.padded_read, current.padded_read]

section Order

variable {first second third : VersionText}

theorem isNewer_irrefl (version : VersionText) : isNewer version.text version.text ≠ .ok true :=
  fun newer => Outranks.irrefl _ ((isNewer_text version version).mp newer)

theorem isNewer_asymm (newer : isNewer first.text second.text = .ok true) :
    isNewer second.text first.text ≠ .ok true := by
  rw [isNewer_text] at newer
  rw [ne_eq, isNewer_text]
  exact newer.asymm

theorem isNewer_trans (left : isNewer first.text second.text = .ok true)
    (right : isNewer second.text third.text = .ok true) :
    isNewer first.text third.text = .ok true := by
  rw [isNewer_text] at left right ⊢
  exact left.trans right

theorem isNewer_total (first second : VersionText) :
    first.read = second.read ∨ isNewer first.text second.text = .ok true ∨
      isNewer second.text first.text = .ok true := by
  rw [isNewer_text, isNewer_text]
  exact Outranks.total first.read second.read

end Order

theorem asU32_of_lt {number : Nat} (fits : number < 2 ^ 32) : asU32 number = number := if_pos fits

/-- Where the versions first differ, both components fit a `u32`; or both are read as
zero, and what follows is read as ordered like these components. -/
def ReadInOrder (candidate current : VersionText) : Prop :=
  ∀ place, candidate.component place ≠ current.component place →
    (∀ earlier < place, candidate.component earlier = current.component earlier) →
    (candidate.component place < 2 ^ 32 ∧ current.component place < 2 ^ 32) ∨
      candidate.read place = 0 ∧ current.read place = 0 ∧
        (Outranks (fun later => candidate.read (place + 1 + later))
            (fun later => current.read (place + 1 + later)) ↔
          current.component place < candidate.component place)

/-- A candidate counts as newer exactly when its numbers are lexicographically
greater, if and only if the first difference is not lost in reading `u32` components. -/
theorem isNewer_iff_outranks_iff (candidate current : VersionText) :
    (isNewer candidate.text current.text = .ok true ↔
        Outranks candidate.component current.component) ↔ ReadInOrder candidate current := by
  rw [isNewer_text]
  by_cases same : candidate.component = current.component
  · have sameRead : candidate.read = current.read := by
      funext place
      rw [VersionText.read, VersionText.read, same]
    have ordered : ReadInOrder candidate current :=
      fun place apart => absurd (congrFun same place) apart
    have left := Outranks.irrefl current.component
    have right := Outranks.irrefl current.read
    simp only [same, sameRead, ordered, left, right]
  · obtain ⟨place, apart, before⟩ := Outranks.exists_first same
    have beforeRead : ∀ earlier < place, candidate.read earlier = current.read earlier := by
      intro earlier early
      rw [VersionText.read, VersionText.read, before earlier early]
    rw [Outranks.iff_of_first apart before]
    have atPlace : ReadInOrder candidate current ↔
        (candidate.component place < 2 ^ 32 ∧ current.component place < 2 ^ 32) ∨
          candidate.read place = 0 ∧ current.read place = 0 ∧
            (Outranks (fun later => candidate.read (place + 1 + later))
                (fun later => current.read (place + 1 + later)) ↔
              current.component place < candidate.component place) := by
      refine ⟨fun ordered => ordered place apart before, ?_⟩
      intro held other otherApart otherBefore
      rcases Nat.lt_trichotomy other place with less | rfl | more
      · exact absurd (before other less) otherApart
      · exact held
      · exact absurd (otherBefore place more) apart
    rw [atPlace]
    by_cases readApart : candidate.read place = current.read place
    · -- what is read here is the same, so the rest decides
      have upTo : ∀ earlier ≤ place, candidate.read earlier = current.read earlier := by
        intro earlier early
        rcases Nat.lt_or_eq_of_le early with less | rfl
        · exact beforeRead earlier less
        · exact readApart
      have misread : ¬ (candidate.component place < 2 ^ 32 ∧ current.component place < 2 ^ 32) := by
        rintro ⟨left, right⟩
        rw [VersionText.read, VersionText.read, asU32_of_lt left, asU32_of_lt right] at readApart
        exact apart readApart
      have zeros : candidate.read place = 0 ∧ current.read place = 0 := by
        simp only [VersionText.read, asU32] at readApart ⊢
        split_ifs at readApart ⊢ <;> omega
      rw [Outranks.iff_rest upTo]
      simp only [misread, zeros, false_or, true_and]
    · rw [Outranks.iff_of_first readApart beforeRead]
      have notBoth : ¬ (candidate.read place = 0 ∧ current.read place = 0 ∧
          (Outranks (fun later => candidate.read (place + 1 + later))
              (fun later => current.read (place + 1 + later)) ↔
            current.component place < candidate.component place)) := by
        rintro ⟨left, right, _⟩
        exact readApart (left.trans right.symm)
      rw [or_iff_left notBoth]
      simp only [VersionText.read, asU32] at readApart ⊢
      split_ifs at readApart ⊢ <;> omega

/-- A release with the component 4294967296 is not offered to version 1. -/
theorem isNewer_overflow :
    ∃ candidate current : VersionText, candidate.text = "4294967296" ∧ current.text = "1" ∧
      isNewer candidate.text current.text = .ok false ∧
      Outranks candidate.component current.component := by
  refine ⟨⟨[], [⟨"4294967296".toList, by decide, List.all_eq_true.mp (by decide)⟩], [],
      by simp, by simp, by simp⟩,
    ⟨[], [⟨"1".toList, by decide, List.all_eq_true.mp (by decide)⟩], [],
      by simp, by simp, by simp⟩,
    by decide, by decide, by decide, 0, by decide, by simp⟩

end LayoutAdblock.Release
