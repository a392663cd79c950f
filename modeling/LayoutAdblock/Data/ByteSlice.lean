import Mathlib.Algebra.Ring.Nat
import Mathlib.Data.List.Basic

namespace LayoutAdblock.Data

/-! # Texts cut at byte positions

A position in the UTF-8 bytes of a text is a boundary when a character starts or
the text ends there.  A slice between two positions exists when both are.
-/

def byteLen (text : List Char) : Nat := (text.map Char.utf8Size).sum

@[simp] theorem byteLen_nil : byteLen [] = 0 := rfl

@[simp] theorem byteLen_cons (ch : Char) (rest : List Char) :
    byteLen (ch :: rest) = ch.utf8Size + byteLen rest := by
  simp [byteLen]

@[simp] theorem byteLen_append (first second : List Char) :
    byteLen (first ++ second) = byteLen first + byteLen second := by
  simp [byteLen]

/-- A text of ASCII characters has as many bytes as characters. -/
theorem byteLen_ascii {text : List Char} (ascii : ∀ ch ∈ text, ch.utf8Size = 1) :
    byteLen text = text.length := by
  induction text with
  | nil => rfl
  | cons ch rest ih =>
      rw [byteLen_cons, ascii ch List.mem_cons_self,
        ih fun next member => ascii next (List.mem_cons_of_mem _ member), List.length_cons,
        Nat.add_comm]

/-- The text before and after a byte position that is a boundary. -/
def splitBytes : Nat → List Char → Option (List Char × List Char)
  | 0, text => some ([], text)
  | _ + 1, [] => none
  | count + 1, ch :: rest =>
      if ch.utf8Size ≤ count + 1 then
        (splitBytes (count + 1 - ch.utf8Size) rest).map fun parts => (ch :: parts.1, parts.2)
      else none

/-- The characters between two byte positions. -/
def slice (text : List Char) (start stop : Nat) : Option (List Char) := do
  let (_, rest) ← splitBytes start text
  let (piece, _) ← splitBytes (stop - start) rest
  return piece

/-- A text can be cut at this number of bytes, for no character is torn apart there. -/
def Boundary (text : List Char) (place : Nat) : Prop :=
  ∃ before after, text = before ++ after ∧ byteLen before = place

theorem splitBytes_append (before after : List Char) :
    splitBytes (byteLen before) (before ++ after) = some (before, after) := by
  induction before with
  | nil => rw [byteLen_nil, splitBytes, List.nil_append]
  | cons ch rest ih =>
      have positive := ch.utf8Size_pos
      obtain ⟨count, bytes⟩ : ∃ count, byteLen (ch :: rest) = count + 1 :=
        ⟨ch.utf8Size + byteLen rest - 1, by rw [byteLen_cons]; omega⟩
      rw [bytes, List.cons_append, splitBytes]
      rw [byteLen_cons] at bytes
      rw [if_pos (by omega), show count + 1 - ch.utf8Size = byteLen rest by omega, ih]
      rfl

theorem splitBytes_eq_some_iff {count : Nat} {text before after : List Char} :
    splitBytes count text = some (before, after) ↔
      text = before ++ after ∧ byteLen before = count := by
  constructor
  · intro split
    fun_induction splitBytes count text generalizing before after with
    | case1 text =>
        obtain ⟨rfl, rfl⟩ := Prod.mk.inj (Option.some.inj split)
        exact ⟨rfl, rfl⟩
    | case2 => cases split
    | case3 count ch rest fits ih =>
        obtain ⟨⟨left, right⟩, inner, same⟩ := Option.map_eq_some_iff.mp split
        obtain ⟨rfl, rfl⟩ := Prod.mk.inj same
        obtain ⟨rfl, bytes⟩ := ih inner
        exact ⟨rfl, by simp only [byteLen_cons]; omega⟩
    | case4 => cases split
  · rintro ⟨rfl, rfl⟩
    exact splitBytes_append before after

/-- What stands between two texts is the slice between their bytes. -/
theorem slice_append (before piece after : List Char) :
    slice (before ++ piece ++ after) (byteLen before) (byteLen before + byteLen piece) =
      some piece := by
  simp only [slice, List.append_assoc, splitBytes_append, Nat.add_sub_cancel_left,
    Option.bind_eq_bind, Option.bind_some]
  rfl

/-- A slice exists when both its ends are boundaries. -/
theorem slice_isSome_iff {text : List Char} {start stop : Nat} (order : start ≤ stop) :
    (slice text start stop).isSome ↔ Boundary text start ∧ Boundary text stop := by
  constructor
  · intro exists_slice
    cases first : splitBytes start text with
    | none => simp [slice, first] at exists_slice
    | some parts =>
        obtain ⟨before, rest⟩ := parts
        cases second : splitBytes (stop - start) rest with
        | none => simp [slice, first, second] at exists_slice
        | some parts =>
            obtain ⟨piece, after⟩ := parts
            obtain ⟨rfl, startBytes⟩ := splitBytes_eq_some_iff.mp first
            obtain ⟨rfl, stopBytes⟩ := splitBytes_eq_some_iff.mp second
            refine ⟨⟨before, piece ++ after, rfl, startBytes⟩, before ++ piece, after, ?_, ?_⟩
            · rw [List.append_assoc]
            · rw [byteLen_append]
              omega
  · rintro ⟨⟨before, rest, rfl, rfl⟩, upTo, after, same, rfl⟩
    rcases List.append_eq_append_iff.mp same with ⟨piece, rfl, rfl⟩ | ⟨piece, rfl, rfl⟩
    · rw [← List.append_assoc, byteLen_append, slice_append]
      rfl
    · -- the second position cannot come first, so nothing lies between
      have nothing : byteLen piece = 0 := by
        rw [byteLen_append] at order
        omega
      have empty : piece = [] := by
        cases piece with
        | nil => rfl
        | cons ch others =>
            have positive := ch.utf8Size_pos
            rw [byteLen_cons] at nothing
            omega
      subst empty
      have cut := slice_append upTo [] rest
      simp only [List.append_nil, byteLen_nil, Nat.add_zero] at cut ⊢
      rw [cut]
      rfl

end LayoutAdblock.Data
