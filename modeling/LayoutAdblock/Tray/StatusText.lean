import Mathlib.Data.Bool.AllAny
import LayoutAdblock.Core.Text
import LayoutAdblock.Data.Digits
import LayoutAdblock.Data.Utf16

namespace LayoutAdblock.Tray

open LayoutAdblock.Core Data

/-! # What the tray shows of the engine

The tooltip is kept in a buffer of 128 code units that ends at its first zero, and
is compared with what the buffer says before the shell is asked to change it.
-/

/-- The counters are `u32`. -/
structure StatusSnapshot where
  hookDegraded : Bool := false
  enabled : Bool := false
  aggressive : Bool := false
  mainWindows : Nat := 0
  hiddenWindows : Nat := 0
  closedWindows : Nat := 0
  resizedWindows : Nat := 0
  restoreFailures : Nat := 0
  lastError : String := ""
deriving DecidableEq, Repr

/-- A switch, as the tooltip and the menu say it. -/
def onOff (value : Bool) : String := if value then "ON" else "OFF"

/-- The characters that fit after so many units. -/
def fitting (maxUnits : Nat) : Nat → List Char → List Char
  | _, [] => []
  | units, ch :: rest =>
      if maxUnits < units + (utf16EncodeChar ch).length then []
      else ch :: fitting maxUnits (units + (utf16EncodeChar ch).length) rest

/-- A text that fits a field of Windows, which counts in units. It is cut between two
characters, never within one. -/
def truncateUtf16 (text : String) (maxUnits : Nat) : String :=
  if (utf16 text.toList).length ≤ maxUnits then text
  else String.ofList (fitting maxUnits 0 text.toList)

/-- What the tooltip says before it is cut. Failures to restore and a degraded hook have
lines of their own. -/
def tooltipText (snapshot : StatusSnapshot) : String :=
  s!"KakaoTalk Layout AdBlocker\n차단 {onOff snapshot.enabled} · 공격 {onOff snapshot.aggressive} · 메인윈도우 {snapshot.mainWindows}" ++
    (if 0 < snapshot.restoreFailures then s!"\n복원 실패 {snapshot.restoreFailures}건" else "") ++
    (if snapshot.hookDegraded then "\n감지 지연 · 자동 복구 중" else "")

/-- The tooltip in the field of the icon, which has room for 127 units and the zero at the
end. -/
def statusTooltip (snapshot : StatusSnapshot) : String := truncateUtf16 (tooltipText snapshot) 127

/-- The lines at the top of the menu, which report and cannot be clicked. -/
def statusMenuLines (snapshot : StatusSnapshot) : List String :=
  let error := trim snapshot.lastError
  ["KakaoTalk Layout AdBlocker",
    s!"차단 {onOff snapshot.enabled} · 공격 모드 {onOff snapshot.aggressive} · 메인윈도우 {snapshot.mainWindows}",
    s!"누적 숨김 {snapshot.hiddenWindows} · 누적 닫힘 {snapshot.closedWindows} · 누적 리사이즈 {snapshot.resizedWindows}"] ++
    (if 0 < snapshot.restoreFailures then [s!"복원 실패 {snapshot.restoreFailures}건 (초기화 가능)"]
      else []) ++
    (if snapshot.hookDegraded then ["감지 지연 · 자동 복구 중"] else []) ++
    (if error.isEmpty then [] else [s!"오류: {truncateUtf16 error 60}"])

/-- `szTip` after `write_tip` -/
def writeTip (tip : String) : List UInt16 :=
  let wide := (utf16 tip.toList).take 127
  wide ++ List.replicate (128 - wide.length) 0

/-- The field already says the tooltip. It is read up to the first zero, and a unit that
makes no character is read as the replacement character. -/
def tipMatches (szTip : List UInt16) (tip : String) : Bool :=
  let stop := (szTip.findIdx? fun unit => unit == 0).getD 0
  decide (String.ofList (utf16Lossy (szTip.take stop)) = tip)

variable {tip : String}

theorem tipMatches_writeTip (short : (utf16 tip.toList).length ≤ 127)
    (nonzero : ∀ ch ∈ tip.toList, ch.toNat ≠ 0) : tipMatches (writeTip tip) tip = true := by
  have whole : (utf16 tip.toList).take 127 = utf16 tip.toList := List.take_of_length_le short
  have left : 128 - (utf16 tip.toList).length = 127 - (utf16 tip.toList).length + 1 := by omega
  have written : writeTip tip =
      utf16 tip.toList ++ 0 :: List.replicate (127 - (utf16 tip.toList).length) 0 := by
    simp only [writeTip, whole, left, List.replicate_succ]
  have stops : (writeTip tip).findIdx? (fun unit => unit == 0) =
      some (utf16 tip.toList).length := by
    have before : (utf16 tip.toList).findIdx? (fun unit => unit == 0) = none := by
      rw [List.findIdx?_eq_none_iff]
      intro unit member
      simpa using utf16_ne_zero nonzero unit member
    rw [written, List.findIdx?_append, before]
    simp [List.findIdx?_cons]
  simp only [tipMatches, stops, Option.getD_some, decide_eq_true_eq]
  rw [written, List.take_left, utf16Lossy_utf16, String.ofList_toList]

theorem fitting_length {maxUnits units : Nat} (text : List Char) (within : units ≤ maxUnits) :
    units + (utf16 (fitting maxUnits units text)).length ≤ maxUnits := by
  induction text generalizing units with
  | nil => simpa [fitting] using within
  | cons ch rest ih =>
      rw [fitting]
      split
      · simpa using within
      · rename_i fits
        have step := ih (Nat.le_of_not_lt fits)
        rw [utf16_cons, List.length_append]
        omega

theorem truncateUtf16_length (text : String) (maxUnits : Nat) :
    (utf16 (truncateUtf16 text maxUnits).toList).length ≤ maxUnits := by
  unfold truncateUtf16
  split
  · rename_i fits
    exact fits
  · rw [String.toList_ofList]
    simpa using fitting_length text.toList (Nat.zero_le maxUnits)

/-- A text without zeros, and how many units it has at most. -/
structure Plain (text : String) (units : Nat) : Prop where
  nonzero : ∀ ch ∈ text.toList, ch.toNat ≠ 0
  short : (utf16 text.toList).length ≤ units

theorem Plain.of_all {text : String} {units : Nat}
    (nonzero : text.toList.all (fun ch => decide (ch.toNat ≠ 0)) = true)
    (short : (utf16 text.toList).length ≤ units) : Plain text units :=
  ⟨List.all_iff_forall_prop.mp nonzero, short⟩

theorem Plain.append {first second : String} {firstUnits secondUnits : Nat}
    (left : Plain first firstUnits) (right : Plain second secondUnits) :
    Plain (first ++ second) (firstUnits + secondUnits) where
  nonzero ch member := by
    rw [String.toList_append, List.mem_append] at member
    exact member.elim (left.nonzero ch) (right.nonzero ch)
  short := by
    rw [String.toList_append, utf16, List.flatMap_append, List.length_append]
    exact Nat.add_le_add left.short right.short

theorem Plain.mono {text : String} {units wider : Nat} (plain : Plain text units)
    (weaker : units ≤ wider) : Plain text wider :=
  ⟨plain.nonzero, plain.short.trans weaker⟩

theorem Plain.empty (units : Nat) : Plain "" units := ⟨nofun, Nat.zero_le _⟩

theorem toString_toList (number : Nat) : (toString number).toList = Nat.toDigits 10 number := by
  simp [toString, Nat.repr]

theorem utf16_digits {digits : List Char} (all : ∀ ch ∈ digits, ch.isDigit = true) :
    (utf16 digits).length = digits.length := by
  induction digits with
  | nil => rfl
  | cons ch rest ih =>
      have isDigit := all ch List.mem_cons_self
      have small : ch.toNat < 0x10000 := by
        simp only [Char.isDigit, Bool.and_eq_true, decide_eq_true_eq] at isDigit
        have upper : ch.toNat ≤ 57 := isDigit.2
        omega
      rw [utf16_cons, List.length_append,
        ih fun other member => all other (List.mem_cons_of_mem _ member)]
      simp [utf16EncodeChar, small, Nat.add_comm]

/-- A `u32` has ten digits at most. -/
theorem Plain.number {number : Nat} (fits : number < 2 ^ 32) : Plain (toString number) 10 := by
  have digits : ∀ ch ∈ Nat.toDigits 10 number, ch.isDigit = true := fun ch member =>
    Nat.isDigit_of_mem_toDigits (by decide) (by decide) member
  constructor
  · intro ch member zero
    rw [toString_toList] at member
    have isDigit := digits ch member
    have same : ch = Char.ofNat 0 := by rw [← zero, Char.ofNat_toNat]
    rw [same] at isDigit
    exact absurd isDigit (by decide)
  · rw [toString_toList, utf16_digits digits]
    exact (Nat.length_toDigits_le_iff (by decide) (by decide)).mpr (fits.trans (by decide))

theorem Plain.onOff (value : Bool) : Plain (Tray.onOff value) 3 := by
  cases value with
  | true => exact Plain.of_all (by decide) (by decide)
  | false => exact Plain.of_all (by decide) (by decide)

/-- The counters are in range. -/
structure StatusSnapshot.Counted (snapshot : StatusSnapshot) : Prop where
  mainWindows : snapshot.mainWindows < 2 ^ 32
  restoreFailures : snapshot.restoreFailures < 2 ^ 32

theorem tooltipText_plain {snapshot : StatusSnapshot} (counted : snapshot.Counted) :
    Plain (tooltipText snapshot) 127 := by
  have title : Plain "KakaoTalk Layout AdBlocker\n차단 " 30 := Plain.of_all (by decide) (by decide)
  have aggressive : Plain " · 공격 " 6 := Plain.of_all (by decide) (by decide)
  have windows : Plain " · 메인윈도우 " 9 := Plain.of_all (by decide) (by decide)
  have first := ((((title.append (Plain.onOff snapshot.enabled)).append aggressive).append
    (Plain.onOff snapshot.aggressive)).append windows).append (Plain.number counted.mainWindows)
  have failures : Plain (if 0 < snapshot.restoreFailures then
      s!"\n복원 실패 {snapshot.restoreFailures}건" else "") 18 := by
    have lead : Plain "\n복원 실패 " 7 := Plain.of_all (by decide) (by decide)
    have unit : Plain "건" 1 := Plain.of_all (by decide) (by decide)
    split
    · exact (lead.append (Plain.number counted.restoreFailures)).append unit
    · exact Plain.empty _
  have degraded : Plain (if snapshot.hookDegraded then "\n감지 지연 · 자동 복구 중" else "") 17 := by
    split
    · exact Plain.of_all (by decide) (by decide)
    · exact Plain.empty _
  exact ((first.append failures).append degraded).mono (by decide)

/-- The tooltip is never cut short, and the buffer says what was written. -/
theorem statusTooltip_written {snapshot : StatusSnapshot} (counted : snapshot.Counted) :
    statusTooltip snapshot = tooltipText snapshot ∧
      tipMatches (writeTip (statusTooltip snapshot)) (statusTooltip snapshot) = true := by
  have plain := tooltipText_plain counted
  have whole : statusTooltip snapshot = tooltipText snapshot := by
    rw [statusTooltip, truncateUtf16, if_pos plain.short]
  rw [whole]
  exact ⟨rfl, tipMatches_writeTip plain.short plain.nonzero⟩

end LayoutAdblock.Tray
