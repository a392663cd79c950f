import LayoutAdblock.Release.Canonical

namespace LayoutAdblock.Release

open Data Json

/-! # The updater's bytes against the release script's

Both printers sort alike and print everything but a few control characters
alike.  There the updater prints more characters than Python, and never fewer
elsewhere, so equal bytes rule these characters out.
-/

/-- Python has a short escape for it or prints it as it stands, and the updater
prints its code. -/
def Diverges (ch : Char) : Prop :=
  ch = '\x08' ∨ ch = '\x0c' ∨ 0x7f ≤ ch.toNat ∧ ch.toNat ≤ 0x9f

instance (ch : Char) : Decidable (Diverges ch) := inferInstanceAs (Decidable (_ ∨ _))

theorem hex4_length {code : Nat} (small : code < 0x10000) : (hex4 code).length = 4 := by
  have digits : (Nat.toDigits 16 code).length ≤ 4 :=
    (Nat.length_toDigits_le_iff (by decide) (by decide)).mpr small
  rw [hex4, List.length_leftpad]
  omega

theorem escapeChar_of_agrees {ch : Char} (agrees : ¬ Diverges ch) :
    escapeChar ch = pythonEscapeChar ch := by
  simp only [Diverges, not_or] at agrees
  fun_cases pythonEscapeChar ch with
  | case1 => rfl
  | case2 => rfl
  | case3 => rfl
  | case4 => rfl
  | case5 => rfl
  | case6 => exact absurd rfl agrees.2.1
  | case7 => exact absurd rfl agrees.1
  | case8 ch quote backslash newline carriage tab _ _ low =>
      simp [escapeChar, isControl, low]
  | case9 ch quote backslash newline carriage tab _ _ high =>
      have printable : isControl ch = false := by
        simp only [isControl, Bool.or_eq_false_iff, decide_eq_false_iff_not, Bool.and_eq_false_iff]
        omega
      simp [escapeChar, printable]

theorem escapeChar_of_diverges {ch : Char} (diverges : Diverges ch) :
    (pythonEscapeChar ch).length < (escapeChar ch).length := by
  rcases diverges with rfl | rfl | ⟨low, high⟩
  · decide
  · decide
  · have printed : escapeChar ch = '\\' :: 'u' :: hex4 ch.toNat := by
      fun_cases escapeChar ch <;> simp_all [isControl]; omega
    have verbatim : pythonEscapeChar ch = [ch] := by
      fun_cases pythonEscapeChar ch <;> simp_all; omega
    simp [printed, verbatim, hex4_length (show ch.toNat < 0x10000 by omega)]

/-- The first text is at least as long, and as long only if both agree. -/
def Outgrows (first second : List Char) (agree : Prop) : Prop :=
  second.length ≤ first.length ∧ (first.length = second.length → agree)

namespace Outgrows

theorem refl {text : List Char} {agree : Prop} (held : agree) : Outgrows text text agree :=
  ⟨le_rfl, fun _ => held⟩

theorem fixed (text : List Char) : Outgrows text text True :=
  refl trivial

theorem mono {first second : List Char} {strong weak : Prop}
    (outgrows : Outgrows first second strong) (weaken : strong → weak) :
    Outgrows first second weak :=
  ⟨outgrows.1, fun same => weaken (outgrows.2 same)⟩

theorem append {first second left right : List Char} {here there : Prop}
    (heads : Outgrows first second here) (tails : Outgrows left right there) :
    Outgrows (first ++ left) (second ++ right) (here ∧ there) := by
  simp only [Outgrows, List.length_append] at heads tails ⊢
  exact ⟨by omega, fun same => ⟨heads.2 (by omega), tails.2 (by omega)⟩⟩

theorem cons {first second : List Char} {agree : Prop} (head : Char)
    (outgrows : Outgrows first second agree) :
    Outgrows (head :: first) (head :: second) agree := by
  simp only [Outgrows, List.length_cons] at outgrows ⊢
  exact ⟨by omega, fun same => outgrows.2 (by omega)⟩

theorem flatMap {α : Type} {items : List α} {first second : α → List Char} {agree : α → Prop}
    (each : ∀ item ∈ items, Outgrows (first item) (second item) (agree item)) :
    Outgrows (items.flatMap first) (items.flatMap second) (∀ item ∈ items, agree item) := by
  induction items with
  | nil => exact refl (by simp)
  | cons item rest ih =>
      have both := (each item List.mem_cons_self).append
        (ih fun next member => each next (List.mem_cons_of_mem _ member))
      exact both.mono List.forall_mem_cons.mpr

theorem intercalate {α : Type} {items : List α} {first second : α → List Char} {agree : α → Prop}
    (separator : List Char)
    (each : ∀ item ∈ items, Outgrows (first item) (second item) (agree item)) :
    Outgrows (separator.intercalate (items.map first)) (separator.intercalate (items.map second))
      (∀ item ∈ items, agree item) := by
  induction items with
  | nil => exact refl (by simp)
  | cons item rest ih =>
      have head := each item List.mem_cons_self
      have tail := ih fun next member => each next (List.mem_cons_of_mem _ member)
      cases rest with
      | nil => simpa using head
      | cons next others =>
          simp only [List.map_cons, List.intercalate_cons_cons] at tail ⊢
          have both := (head.append (fixed separator)).append tail
          exact both.mono fun agrees => List.forall_mem_cons.mpr ⟨agrees.1.1, agrees.2⟩

end Outgrows

/-- No string of the payload has a character that the two printers treat apart. -/
def Agrees (text : String) : Prop := ∀ ch ∈ text.toList, ¬ Diverges ch

instance (text : String) : Decidable (Agrees text) :=
  inferInstanceAs (Decidable (∀ ch ∈ text.toList, ¬ Diverges ch))

theorem escapeChar_outgrows (ch : Char) :
    Outgrows (escapeChar ch) (pythonEscapeChar ch) (¬ Diverges ch) := by
  by_cases diverges : Diverges ch
  · have longer := escapeChar_of_diverges diverges
    exact ⟨longer.le, fun same => absurd same longer.ne'⟩
  · rw [escapeChar_of_agrees diverges]
    exact Outgrows.refl diverges

theorem escapeJsonString_outgrows (text : String) :
    Outgrows ('"' :: escapeJsonString text ++ ['"']) (pythonString text) (Agrees text) := by
  have body : Outgrows (escapeJsonString text) (text.toList.flatMap pythonEscapeChar)
      (Agrees text) := Outgrows.flatMap fun ch _ => escapeChar_outgrows ch
  have closed := (body.append (Outgrows.fixed ['"'])).cons '"'
  exact closed.mono And.left

/-- Bytes and characters put the entries of an object in one order. -/
theorem insertionSort_byBytes {α : Type} (fields : List (String × α)) :
    fields.insertionSort byBytes = fields.insertionSort byCharacters := by
  have order : ∀ first second : String × α, byBytes first second ↔ byCharacters first second := by
    intro first second
    exact (List.not_lt.symm.trans (not_congr utf8_lt_iff)).trans not_lt
  simpa using List.map_insertionSort byBytes byCharacters id fields fun first _ second _ =>
    order first second

section Payloads

variable {printFloat floatRepr : Float → List Char} {payload : Json}

theorem pythonishDumps_outgrows (plain : payload.Plain) :
    Outgrows (pythonishDumps printFloat payload) (jsonDumps floatRepr payload)
      (∀ text ∈ payload.texts, Agrees text) := by
  induction payload using Json.induct with
  | null => exact Outgrows.refl (by simp [texts])
  | bool value => cases value <;> exact Outgrows.refl (by simp [texts])
  | number value => exact Outgrows.refl (by simp [texts])
  | decimal value => cases plain
  | string value =>
      exact (escapeJsonString_outgrows value).mono fun agrees => by simpa [texts] using agrees
  | array items ih =>
      cases plain with
      | array each =>
          rw [pythonishDumps_array, jsonDumps_array]
          have inner := Outgrows.intercalate [','] fun item member =>
            ih item member (each item member)
          have closed := (inner.append (Outgrows.fixed [']'])).cons '['
          refine closed.mono fun agrees text member => ?_
          rw [texts, itemTexts_eq_flatMap] at member
          obtain ⟨item, inItems, inTexts⟩ := List.mem_flatMap.mp member
          exact agrees.1 item inItems text inTexts
  | object fields ih =>
      cases plain with
      | object distinct each =>
          rw [pythonishDumps_object, jsonDumps_object, insertionSort_byBytes]
          have entries : ∀ entry ∈ fields.insertionSort byCharacters,
              Outgrows (entryText (entry.1, pythonishDumps printFloat entry.2))
                (pythonString entry.1 ++ ':' :: jsonDumps floatRepr entry.2)
                (Agrees entry.1 ∧ ∀ text ∈ texts entry.2, Agrees text) := by
            intro entry member
            have inFields := (List.mem_insertionSort byCharacters).mp member
            have value := (ih entry inFields (each entry inFields)).cons ':'
            simpa [entryText] using (escapeJsonString_outgrows entry.1).append value
          have closed := ((Outgrows.intercalate [','] entries).append
            (Outgrows.fixed ['}'])).cons '{'
          refine closed.mono fun agrees text member => ?_
          rw [texts, fieldTexts_eq_flatMap] at member
          obtain ⟨entry, inFields, inTexts⟩ := List.mem_flatMap.mp member
          obtain ⟨key, values⟩ :=
            agrees.1 entry ((List.mem_insertionSort byCharacters).mpr inFields)
          rcases List.mem_cons.mp inTexts with rfl | inTexts
          · exact key
          · exact values text inTexts

theorem escapeJsonString_of_agrees {text : String} (agrees : Agrees text) :
    '"' :: escapeJsonString text ++ ['"'] = pythonString text := by
  rw [pythonString, escapeJsonString,
    List.flatMap_congr fun ch member => escapeChar_of_agrees (agrees ch member)]

/-- Without these characters the two printers print the same text. -/
theorem pythonishDumps_of_agrees (plain : payload.Plain)
    (agrees : ∀ text ∈ payload.texts, Agrees text) :
    pythonishDumps printFloat payload = jsonDumps floatRepr payload := by
  induction payload using Json.induct with
  | null => rfl
  | bool value => cases value <;> rfl
  | number value => rfl
  | decimal value => cases plain
  | string value => exact escapeJsonString_of_agrees (agrees value (by simp [texts]))
  | array items ih =>
      cases plain with
      | array each =>
          rw [texts, itemTexts_eq_flatMap] at agrees
          rw [pythonishDumps_array, jsonDumps_array, List.map_congr_left fun item member =>
            ih item member (each item member) fun text inTexts =>
              agrees text (List.mem_flatMap_of_mem member inTexts)]
  | object fields ih =>
      cases plain with
      | object distinct each =>
          rw [texts, fieldTexts_eq_flatMap] at agrees
          have entries : ∀ entry ∈ fields.insertionSort byCharacters,
              entryText (entry.1, pythonishDumps printFloat entry.2) =
                pythonString entry.1 ++ ':' :: jsonDumps floatRepr entry.2 := by
            intro entry member
            have inFields := (List.mem_insertionSort byCharacters).mp member
            have key := escapeJsonString_of_agrees
              (agrees entry.1 (List.mem_flatMap_of_mem inFields List.mem_cons_self))
            have value := ih entry inFields (each entry inFields) fun text inTexts =>
              agrees text (List.mem_flatMap_of_mem inFields (List.mem_cons_of_mem _ inTexts))
            rw [entryText, ← key, value]
            simp
          rw [pythonishDumps_object, jsonDumps_object, insertionSort_byBytes,
            List.map_congr_left entries]

/-- The updater checks the bytes that the release script signed exactly when no
string and no key of the payload has a backspace, a form feed, or a control
character from U+007F to U+009F. -/
theorem canonicalPayloadPython_eq_canonicalPayload_iff (plain : payload.Plain) :
    canonicalPayloadPython printFloat payload = .ok (canonicalPayload floatRepr payload) ↔
      ∀ text ∈ payload.texts, ∀ ch ∈ text.toList,
        ch ≠ '\x08' ∧ ch ≠ '\x0c' ∧ ¬ (0x7f ≤ ch.toNat ∧ ch.toNat ≤ 0x9f) := by
  have spelled : (∀ text ∈ payload.texts, Agrees text) ↔ ∀ text ∈ payload.texts,
      ∀ ch ∈ text.toList, ch ≠ '\x08' ∧ ch ≠ '\x0c' ∧ ¬ (0x7f ≤ ch.toNat ∧ ch.toNat ≤ 0x9f) := by
    simp only [Agrees, Diverges, not_or, ne_eq]
  rw [← spelled, canonicalPayloadPython, canonicalPayload]
  constructor
  · intro same
    have printed := utf8_injective (Except.ok.inj same)
    exact (pythonishDumps_outgrows plain).2 (congrArg List.length printed)
  · intro agrees
    rw [pythonishDumps_of_agrees plain agrees]

theorem canonicalPayloadPython_eq_canonicalPayload_iff_version :
    canonicalPayloadPython (fun _ => []) (.object [("version", .string "11.1.14")]) =
        .ok (canonicalPayload (fun _ => []) (.object [("version", .string "11.1.14")])) ↔
      ∀ text ∈ texts (.object [("version", .string "11.1.14")]), ∀ ch ∈ text.toList,
        ch ≠ '\x08' ∧ ch ≠ '\x0c' ∧ ¬ (0x7f ≤ ch.toNat ∧ ch.toNat ≤ 0x9f) :=
  canonicalPayloadPython_eq_canonicalPayload_iff
    (.object (by decide) (by simpa using Plain.string "11.1.14"))

/-- Python signs a backspace as `\b`, and the updater checks `\u0008`. -/
theorem canonicalPayloadPython_backspace :
    Plain (.object [("version", .string "\x08")]) ∧
      canonicalPayloadPython (fun _ => []) (.object [("version", .string "\x08")]) ≠
        .ok (canonicalPayload (fun _ => []) (.object [("version", .string "\x08")])) :=
  ⟨.object (by decide) (by simpa using Plain.string "\x08"), by decide⟩

end Payloads

end LayoutAdblock.Release
