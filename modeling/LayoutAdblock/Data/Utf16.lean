import Mathlib.Data.List.Basic

namespace LayoutAdblock.Data

/-! # Texts in UTF-16

Every text has its code units, and reading them gives it back.  Units that no
text has are read too, with a replacement for each surrogate that is not one of
a pair.
-/

def isHighSurrogate (unit : UInt16) : Bool :=
  decide (0xD800 ≤ unit.toNat) && decide (unit.toNat < 0xDC00)

def isLowSurrogate (unit : UInt16) : Bool :=
  decide (0xDC00 ≤ unit.toNat) && decide (unit.toNat < 0xE000)

/-- A character outside the basic plane becomes a pair of units. -/
def utf16EncodeChar (character : Char) : List UInt16 :=
  if character.toNat < 0x10000 then [UInt16.ofNat character.toNat]
  else [UInt16.ofNat (0xD800 + (character.toNat - 0x10000) / 0x400),
    UInt16.ofNat (0xDC00 + (character.toNat - 0x10000) % 0x400)]

def utf16 (text : List Char) : List UInt16 := text.flatMap utf16EncodeChar

/-- The character of a unit that is not part of a pair. -/
def loneChar (unit : UInt16) : Char :=
  if isHighSurrogate unit || isLowSurrogate unit then '\uFFFD' else Char.ofNat unit.toNat

def pairChar (high low : UInt16) : Char :=
  Char.ofNat (0x10000 + (high.toNat - 0xD800) * 0x400 + (low.toNat - 0xDC00))

/-- A unit that is not part of a pair is read as the replacement character, so that every
list of units is some text. -/
def utf16Lossy : List UInt16 → List Char
  | [] => []
  | [unit] => [loneChar unit]
  | unit :: next :: rest =>
      if isHighSurrogate unit && isLowSurrogate next then pairChar unit next :: utf16Lossy rest
      else loneChar unit :: utf16Lossy (next :: rest)

def WellFormed (units : List UInt16) : Prop := ∃ text, utf16 text = units

@[simp] theorem utf16_nil : utf16 [] = [] := rfl

@[simp] theorem utf16_cons (first : Char) (rest : List Char) :
    utf16 (first :: rest) = utf16EncodeChar first ++ utf16 rest := rfl

theorem toNat_bound (character : Char) :
    character.toNat < 0xD800 ∨ 0xDFFF < character.toNat ∧ character.toNat < 0x110000 :=
  character.valid

theorem utf16Lossy_lone {unit : UInt16} (rest : List UInt16)
    (notHigh : isHighSurrogate unit = false) :
    utf16Lossy (unit :: rest) = loneChar unit :: utf16Lossy rest := by
  cases rest with
  | nil => rfl
  | cons next rest => simp [utf16Lossy, notHigh]

theorem utf16Lossy_pair {high low : UInt16} (rest : List UInt16)
    (isHigh : isHighSurrogate high = true) (isLow : isLowSurrogate low = true) :
    utf16Lossy (high :: low :: rest) = pairChar high low :: utf16Lossy rest := by
  simp [utf16Lossy, isHigh, isLow]

theorem toNat_unit {value : Nat} (small : value < 0x10000) :
    (UInt16.ofNat value).toNat = value := by
  rw [UInt16.toNat_ofNat']
  omega

/-- A character below the surrogates or above them is a unit of its own. -/
theorem lone_encodeChar {character : Char} (small : character.toNat < 0x10000) :
    isHighSurrogate (UInt16.ofNat character.toNat) = false ∧
      loneChar (UInt16.ofNat character.toNat) = character := by
  have bound := toNat_bound character
  have unit := toNat_unit small
  have notHigh : isHighSurrogate (UInt16.ofNat character.toNat) = false := by
    simp only [isHighSurrogate, unit, Bool.and_eq_false_iff, decide_eq_false_iff_not]
    omega
  have notLow : isLowSurrogate (UInt16.ofNat character.toNat) = false := by
    simp only [isLowSurrogate, unit, Bool.and_eq_false_iff, decide_eq_false_iff_not]
    omega
  refine ⟨notHigh, ?_⟩
  simp [loneChar, notHigh, notLow, unit]

/-- The others are pairs, ten bits to each unit. -/
theorem pair_encodeChar {value : Nat} (large : 0x10000 ≤ value) (valid : value < 0x110000) :
    isHighSurrogate (UInt16.ofNat (0xD800 + (value - 0x10000) / 0x400)) = true ∧
      isLowSurrogate (UInt16.ofNat (0xDC00 + (value - 0x10000) % 0x400)) = true ∧
      pairChar (UInt16.ofNat (0xD800 + (value - 0x10000) / 0x400))
        (UInt16.ofNat (0xDC00 + (value - 0x10000) % 0x400)) = Char.ofNat value := by
  have high : (UInt16.ofNat (0xD800 + (value - 0x10000) / 0x400)).toNat =
      0xD800 + (value - 0x10000) / 0x400 := toNat_unit (by omega)
  have low : (UInt16.ofNat (0xDC00 + (value - 0x10000) % 0x400)).toNat =
      0xDC00 + (value - 0x10000) % 0x400 := toNat_unit (by omega)
  have whole : 0x10000 + (0xD800 + (value - 0x10000) / 0x400 - 0xD800) * 0x400 +
      (0xDC00 + (value - 0x10000) % 0x400 - 0xDC00) = value := by omega
  refine ⟨?_, ?_, ?_⟩
  · simp only [isHighSurrogate, high, Bool.and_eq_true, decide_eq_true_eq]
    omega
  · simp only [isLowSurrogate, low, Bool.and_eq_true, decide_eq_true_eq]
    omega
  · rw [pairChar, high, low, whole]

theorem utf16Lossy_encodeChar (character : Char) (rest : List UInt16) :
    utf16Lossy (utf16EncodeChar character ++ rest) = character :: utf16Lossy rest := by
  have bound := toNat_bound character
  simp only [utf16EncodeChar]
  split
  · rename_i small
    obtain ⟨notHigh, reads⟩ := lone_encodeChar small
    rw [List.singleton_append, utf16Lossy_lone rest notHigh, reads]
  · rename_i large
    obtain ⟨isHigh, isLow, reads⟩ := pair_encodeChar (Nat.le_of_not_lt large) (by omega)
    rw [List.cons_append, List.singleton_append, utf16Lossy_pair rest isHigh isLow, reads,
      Char.ofNat_toNat]

theorem utf16Lossy_utf16 (text : List Char) : utf16Lossy (utf16 text) = text := by
  induction text with
  | nil => rfl
  | cons first rest ih => rw [utf16_cons, utf16Lossy_encodeChar, ih]

theorem wellFormed_iff {units : List UInt16} :
    WellFormed units ↔ utf16 (utf16Lossy units) = units := by
  constructor
  · intro formed
    obtain ⟨text, rfl⟩ := formed
    rw [utf16Lossy_utf16]
  · exact fun same => ⟨_, same⟩

/-- The bytes of code units, the low one first. -/
def unitBytes (units : List UInt16) : List UInt8 :=
  units.flatMap fun unit => [UInt8.ofNat (unit.toNat % 256), UInt8.ofNat (unit.toNat / 256)]

/-- The code units in some bytes; an odd byte at the end is no unit. -/
def byteUnits : List UInt8 → List UInt16
  | low :: high :: rest => UInt16.ofNat (low.toNat + 256 * high.toNat) :: byteUnits rest
  | _ => []

theorem byteUnits_unitBytes (units : List UInt16) : byteUnits (unitBytes units) = units := by
  induction units with
  | nil => rfl
  | cons unit rest ih =>
      have small := unit.toNat_lt
      have low : (UInt8.ofNat (unit.toNat % 256)).toNat = unit.toNat % 256 := by
        rw [UInt8.toNat_ofNat']
        omega
      have high : (UInt8.ofNat (unit.toNat / 256)).toNat = unit.toNat / 256 := by
        rw [UInt8.toNat_ofNat']
        omega
      have whole : unit.toNat % 256 + 256 * (unit.toNat / 256) = unit.toNat := by omega
      change UInt16.ofNat ((UInt8.ofNat (unit.toNat % 256)).toNat +
        256 * (UInt8.ofNat (unit.toNat / 256)).toNat) :: byteUnits (unitBytes rest) = unit :: rest
      rw [ih, low, high, whole, UInt16.ofNat_toNat]

theorem encodeChar_ne_zero {character : Char} (nonzero : character.toNat ≠ 0) :
    ∀ unit ∈ utf16EncodeChar character, unit ≠ 0 := by
  have bound := toNat_bound character
  intro unit member
  rw [ne_eq, ← UInt16.toNat_inj, UInt16.toNat_zero]
  simp only [utf16EncodeChar] at member
  split at member
  · rw [List.mem_singleton.mp member, UInt16.toNat_ofNat']
    omega
  · simp only [List.mem_cons, List.not_mem_nil, or_false] at member
    cases member with
    | inl high =>
        rw [high, UInt16.toNat_ofNat']
        omega
    | inr low =>
        rw [low, UInt16.toNat_ofNat']
        omega

theorem utf16_ne_zero {text : List Char} (nonzero : ∀ character ∈ text, character.toNat ≠ 0) :
    ∀ unit ∈ utf16 text, unit ≠ 0 := by
  intro unit member
  obtain ⟨character, isIn, encoded⟩ := List.mem_flatMap.mp member
  exact encodeChar_ne_zero (nonzero character isIn) unit encoded

theorem loneChar_ne_zero {unit : UInt16} (nonzero : unit ≠ 0) : (loneChar unit).toNat ≠ 0 := by
  have positive : unit.toNat ≠ 0 := fun zero => nonzero (UInt16.toNat_inj.mp zero)
  have small := unit.toNat_lt
  rw [loneChar]
  split
  · decide
  · rename_i alone
    simp only [isHighSurrogate, isLowSurrogate, Bool.or_eq_true, Bool.and_eq_true,
      decide_eq_true_eq] at alone
    have valid : unit.toNat.isValidChar := by
      rw [Nat.isValidChar]
      omega
    rw [Char.ofNat, dif_pos valid]
    exact positive

theorem pairChar_ne_zero {high low : UInt16} (isHigh : isHighSurrogate high = true)
    (isLow : isLowSurrogate low = true) : (pairChar high low).toNat ≠ 0 := by
  simp only [isHighSurrogate, isLowSurrogate, Bool.and_eq_true, decide_eq_true_eq] at isHigh isLow
  have valid : (0x10000 + (high.toNat - 0xD800) * 0x400 + (low.toNat - 0xDC00)).isValidChar := by
    rw [Nat.isValidChar]
    omega
  rw [pairChar, Char.ofNat, dif_pos valid]
  intro zero
  have value : 0x10000 + (high.toNat - 0xD800) * 0x400 + (low.toNat - 0xDC00) = 0 := zero
  omega

theorem utf16Lossy_ne_zero {units : List UInt16} (nonzero : ∀ unit ∈ units, unit ≠ 0) :
    ∀ character ∈ utf16Lossy units, character.toNat ≠ 0 := by
  fun_induction utf16Lossy units with
  | case1 => exact fun character member => absurd member List.not_mem_nil
  | case2 unit =>
      intro character member
      rw [List.mem_singleton.mp member]
      exact loneChar_ne_zero (nonzero unit List.mem_cons_self)
  | case3 unit next rest paired ih =>
      obtain ⟨isHigh, isLow⟩ := Bool.and_eq_true_iff.mp paired
      refine List.forall_mem_cons.mpr ⟨pairChar_ne_zero isHigh isLow, ih fun other member => ?_⟩
      exact nonzero other (List.mem_cons_of_mem _ (List.mem_cons_of_mem _ member))
  | case4 unit next rest alone ih =>
      refine List.forall_mem_cons.mpr ⟨loneChar_ne_zero (nonzero unit List.mem_cons_self),
        ih fun other member => ?_⟩
      exact nonzero other (List.mem_cons_of_mem _ member)

end LayoutAdblock.Data
