import Mathlib.Algebra.Ring.Nat

namespace LayoutAdblock.Data

/-! # Decimal digits -/

/-- `str::parse` for the unsigned integer type with this many values. A plus sign is allowed
in front, and a number out of range is none. -/
def parseUnsigned (values : Nat) (text : List Char) : Option Nat :=
  let digits := match text with
    | '+' :: rest => rest
    | all => all
  if digits.isEmpty || !digits.all Char.isDigit then none
  else
    let value := Nat.ofDigitChars 10 digits 0
    if value < values then some value else none

/-- A run of digits and at least one of them. -/
structure Digits where
  text : List Char
  nonempty : text ≠ []
  digits : ∀ ch ∈ text, ch.isDigit = true

namespace Digits

/-- The number the digits stand for, with leading zeros. -/
def value (run : Digits) : Nat := Nat.ofDigitChars 10 run.text 0

theorem parseUnsigned_text (run : Digits) (values : Nat) :
    parseUnsigned values run.text = if run.value < values then some run.value else none := by
  have unsigned : (match run.text with
      | '+' :: rest => rest
      | all => all) = run.text := by
    split
    · rename_i rest text
      have sign : ('+').isDigit = true := run.digits '+' (by simp [text])
      exact absurd sign (by decide)
    · rfl
  have all : run.text.all Char.isDigit = true := List.all_eq_true.mpr run.digits
  have filled : run.text.isEmpty = false := List.isEmpty_eq_false_iff.mpr run.nonempty
  simp only [parseUnsigned, unsigned, all, filled, value]
  rfl

end Digits

/-- A number in decimal, with zeros in front up to a width. -/
def decimal (width number : Nat) : List Char := (Nat.toDigits 10 number).leftpad width '0'

variable {width number : Nat}

theorem decimal_length (fits : number < 10 ^ width) (positive : 0 < width) :
    (decimal width number).length = width := by
  have digits : (Nat.toDigits 10 number).length ≤ width :=
    (Nat.length_toDigits_le_iff (by decide) positive).mpr fits
  rw [decimal, List.length_leftpad]
  omega

theorem isDigit_of_mem_decimal {ch : Char} (member : ch ∈ decimal width number) :
    ch.isDigit = true := by
  rw [decimal, List.leftpad, List.mem_append, List.mem_replicate] at member
  rcases member with ⟨_, rfl⟩ | member
  · decide
  · exact Nat.isDigit_of_mem_toDigits (by decide) (by decide) member

/-- The decimal text of a number as a run of digits. -/
def Digits.ofNat (width number : Nat) : Digits where
  text := decimal width number
  nonempty := by
    have digits : Nat.toDigits 10 number ≠ [] := Nat.toDigits_ne_nil
    simp [decimal, List.leftpad, digits]
  digits _ := isDigit_of_mem_decimal

theorem Digits.value_ofNat : (Digits.ofNat width number).value = number := by
  simp only [value, ofNat, decimal, List.leftpad, Nat.ofDigitChars_append,
    Nat.ofDigitChars_replicate_zero, Nat.mul_zero, Nat.ofDigitChars_ten_toDigits]

/-- A padded number is read back. -/
theorem parseUnsigned_decimal {values : Nat} (fits : number < values) :
    parseUnsigned values (decimal width number) = some number := by
  have parsed := (Digits.ofNat width number).parseUnsigned_text values
  rw [Digits.value_ofNat, if_pos fits] at parsed
  exact parsed

end LayoutAdblock.Data
