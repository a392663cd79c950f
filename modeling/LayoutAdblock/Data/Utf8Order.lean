import Mathlib.Data.String.Basic

namespace LayoutAdblock.Data

/-! # Text ordered by its bytes

The UTF-8 bytes of two texts compare as their characters do, so the bytes
determine the text and sorting by either order gives the same list.
-/

def utf8 (text : List Char) : List UInt8 := text.flatMap String.utf8EncodeChar

@[simp] theorem utf8_nil : utf8 [] = [] := rfl

@[simp] theorem utf8_cons (first : Char) (rest : List Char) :
    utf8 (first :: rest) = String.utf8EncodeChar first ++ utf8 rest := rfl

/-- Numbers compare by what is left without their last digit, and then by that digit. -/
theorem lt_by_last_digit {first second : Nat} (smaller : first < second) :
    first / 64 < second / 64 ∨ first / 64 = second / 64 ∧ first % 64 < second % 64 := by
  omega

/-- The bytes of a smaller character come first, whatever follows them. -/
theorem utf8EncodeChar_lt {first second : Char} (smaller : first < second)
    (left right : List UInt8) :
    String.utf8EncodeChar first ++ left < String.utf8EncodeChar second ++ right := by
  have below : first.val.toNat < second.val.toNat := smaller
  have bounded : second.val.toNat < 0x110000 := by
    have valid := second.valid
    simp only [UInt32.isValidChar, Nat.isValidChar] at valid
    omega
  -- four bytes hold four digits in base 64
  have digits :
      first.val.toNat / 262144 < second.val.toNat / 262144 ∨
        first.val.toNat / 262144 = second.val.toNat / 262144 ∧
          (first.val.toNat / 4096 % 64 < second.val.toNat / 4096 % 64 ∨
            first.val.toNat / 4096 % 64 = second.val.toNat / 4096 % 64 ∧
              (first.val.toNat / 64 % 64 < second.val.toNat / 64 % 64 ∨
                first.val.toNat / 64 % 64 = second.val.toNat / 64 % 64 ∧
                  first.val.toNat % 64 < second.val.toNat % 64)) := by
    rcases lt_by_last_digit below with high | ⟨_, _⟩
    · rcases lt_by_last_digit high with high | ⟨_, _⟩
      · rcases lt_by_last_digit high with high | ⟨_, _⟩ <;> omega
      · omega
    · omega
  have firstLead : (first.val.toNat / 262144 % 8 + 240) % 256 = first.val.toNat / 262144 + 240 := by
    omega
  have secondLead :
      (second.val.toNat / 262144 % 8 + 240) % 256 = second.val.toNat / 262144 + 240 := by
    omega
  simp only [String.utf8EncodeChar]
  split_ifs <;>
    simp only [List.cons_append, List.nil_append, List.cons_lt_cons_iff, UInt8.lt_iff_toNat_lt,
      ← UInt8.toNat_inj, UInt8.toNat_ofNat', firstLead, secondLead] <;>
    omega

theorem utf8EncodeChar_ne_nil (character : Char) : String.utf8EncodeChar character ≠ [] := by
  simp only [String.utf8EncodeChar]
  split_ifs <;> exact List.cons_ne_nil _ _

theorem append_lt_append_iff {common left right : List UInt8} :
    common ++ left < common ++ right ↔ left < right := by
  induction common with
  | nil => rfl
  | cons byte rest ih => simp [ih]

theorem utf8_lt_of_lt {first second : List Char} (smaller : first < second) :
    utf8 first < utf8 second := by
  induction smaller with
  | nil =>
      rename_i head rest
      cases bytes : String.utf8EncodeChar head with
      | nil => exact absurd bytes (utf8EncodeChar_ne_nil head)
      | cons byte others => simp [bytes]
  | rel smaller => exact utf8EncodeChar_lt smaller _ _
  | cons _ ih => exact append_lt_append_iff.mpr ih

/-- Bytes and characters order texts alike. -/
theorem utf8_lt_iff {first second : List Char} : utf8 first < utf8 second ↔ first < second := by
  constructor
  · intro smaller
    rcases lt_trichotomy first second with less | rfl | greater
    · exact less
    · exact absurd smaller (List.lt_irrefl _)
    · exact absurd (List.lt_trans smaller (utf8_lt_of_lt greater)) (List.lt_irrefl _)
  · exact utf8_lt_of_lt

/-- The bytes determine the text. -/
theorem utf8_injective : Function.Injective utf8 := by
  intro first second same
  rcases lt_trichotomy first second with less | equal | greater
  · exact absurd (same ▸ utf8_lt_of_lt less) (List.lt_irrefl _)
  · exact equal
  · exact absurd (same ▸ utf8_lt_of_lt greater) (List.lt_irrefl _)

end LayoutAdblock.Data
