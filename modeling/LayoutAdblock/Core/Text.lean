import Mathlib.Data.List.Basic
import Mathlib.Data.List.Infix
import Mathlib.Data.List.TakeWhile

namespace LayoutAdblock.Core

/-! # Window texts

Titles and class names are Unicode strings.  Every test the evaluator makes on
them reads the list of their code points, so the tests below do as well.
-/

/-- `str::to_lowercase`.  The Unicode case tables are not part of the program;
results hold for whatever the standard library's tables say. -/
class Unicode where
  toLowercase : String → String

/-- `str::to_lowercase` on texts whose only cased letters are ASCII. It stands in where a
run is computed; the proofs take any function. -/
@[reducible] def asciiLowercase : Unicode where
  toLowercase text := String.ofList (text.toList.map Char.toLower)

/-- `str::starts_with`. -/
def startsWith (text pattern : String) : Bool :=
  pattern.toList.isPrefixOf text.toList

/-- `str::contains` for a string pattern. -/
def containsText (text needle : String) : Bool :=
  decide (needle.toList <:+: text.toList)

/-- The code points with the Unicode `White_Space` property. -/
def isWhitespace (ch : Char) : Bool :=
  let code := ch.toNat
  (9 ≤ code && code ≤ 13) || code == 0x20 || code == 0x85 || code == 0xA0 ||
    code == 0x1680 || (0x2000 ≤ code && code ≤ 0x200A) || code == 0x2028 ||
    code == 0x2029 || code == 0x202F || code == 0x205F || code == 0x3000

/-- `str::trim`. -/
def trim (text : String) : String :=
  String.ofList
    (((text.toList.dropWhile isWhitespace).reverse.dropWhile isWhitespace).reverse)

theorem startsWith_ne_empty {text pattern : String}
    (found : startsWith text pattern = true) (nonempty : pattern ≠ "") : text ≠ "" := by
  rintro rfl
  have pre : pattern.toList <+: [] := List.isPrefixOf_iff_prefix.mp found
  apply nonempty
  rw [← String.toList_inj]
  simpa using pre

@[simp] theorem startsWith_empty (pattern : String) :
    startsWith "" pattern = true ↔ pattern = "" := by
  constructor
  · intro found
    by_contra nonempty
    exact startsWith_ne_empty found nonempty rfl
  · rintro rfl
    rfl

theorem mem_dropWhile_of_refused {α : Type*} {test : α → Bool} {value : α} {values : List α}
    (member : value ∈ values) (refused : test value = false) :
    value ∈ values.dropWhile test := by
  rw [← List.takeWhile_append_dropWhile (p := test) (l := values)] at member
  rcases List.mem_append.mp member with taken | kept
  · have accepted := List.mem_takeWhile_imp taken
    simp [refused] at accepted
  · exact kept

/-- A visible code point survives trimming. -/
theorem trim_ne_empty {text : String} {ch : Char} (member : ch ∈ text.toList)
    (visible : isWhitespace ch = false) : trim text ≠ "" := by
  intro blank
  have left := mem_dropWhile_of_refused member visible
  have right := mem_dropWhile_of_refused (List.mem_reverse.mpr left) visible
  have nothing : ((text.toList.dropWhile isWhitespace).reverse.dropWhile isWhitespace).reverse =
      [] := by
    simpa [trim, ← String.toList_inj] using blank
  rw [List.reverse_eq_nil_iff] at nothing
  simp [nothing] at right

theorem trim_ne_empty_of_startsWith {text pattern : String} {ch : Char} {rest : List Char}
    (found : startsWith text pattern = true) (first : pattern.toList = ch :: rest)
    (visible : isWhitespace ch = false) : trim text ≠ "" := by
  have pre : pattern.toList <+: text.toList := List.isPrefixOf_iff_prefix.mp found
  refine trim_ne_empty (pre.subset ?_) visible
  rw [first]
  exact List.mem_cons_self ..

end LayoutAdblock.Core
