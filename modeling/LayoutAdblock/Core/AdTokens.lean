import LayoutAdblock.Core.Layout
import LayoutAdblock.Data.MaximalRuns

namespace LayoutAdblock.Core

open Data

/-! # Which texts hold an ad token

A short token has to be a whole word of the text, any other one only has to
occur in it.
-/

/-- `is_ascii_lowercase` or `is_ascii_digit`. -/
def isWordChar (ch : Char) : Bool := ch.isLower || ch.isDigit

theorem asciiWordsFrom_eq (current text : List Char) :
    asciiWordsFrom current text = (runsFrom isWordChar current text).map String.ofList := by
  induction text generalizing current with
  | nil =>
      rw [asciiWordsFrom, runsFrom]
      split <;> rfl
  | cons ch rest ih =>
      rw [asciiWordsFrom, runsFrom]
      change (if isWordChar ch then _ else _) = _
      split
      · exact ih _
      · split
        · exact ih _
        · rw [List.map_cons, ih]

/-- The words of a text are its maximal runs of ASCII lowercase letters and digits. -/
theorem mem_asciiWords {word text : String} :
    word ∈ asciiWords text ↔ MaximalRun isWordChar word.toList text.toList := by
  rw [asciiWords, asciiWordsFrom_eq, List.mem_map, ← mem_runs]
  constructor
  · intro emitted
    obtain ⟨run, member, rfl⟩ := emitted
    rwa [String.toList_ofList]
  · intro member
    exact ⟨word.toList, member, String.ofList_toList⟩

/-- An ASCII alphanumeric token of at most two characters. -/
def ShortToken (token : String) : Prop :=
  (∀ ch ∈ token.toList, ch.isAlphanum = true) ∧ token.toList.length ≤ 2

theorem isShortToken_iff {token : String} : isShortToken token = true ↔ ShortToken token := by
  simp [isShortToken, ShortToken]

/-- The loop of `contains_any_ad_token`, with the word set that the first short token
builds. -/
def tokenLoop (low : String) : Option (List String) → List String → Bool
  | _, [] => false
  | words, token :: rest =>
      if token = "" then tokenLoop low words rest
      else if isShortToken token then
        let set := words.getD (asciiWords low)
        if set.contains token then true else tokenLoop low (some set) rest
      else if containsText low token then true
      else tokenLoop low words rest

/-- A token that the text holds: a short one as a word of its own, any other one anywhere.
This is what the search of the program is to be compared with. -/
def holdsToken (low token : String) : Bool :=
  if token = "" then false
  else if isShortToken token then (asciiWords low).contains token
  else containsText low token

theorem tokenLoop_eq {low : String} {words : Option (List String)}
    (built : words.getD (asciiWords low) = asciiWords low) (tokensLc : List String) :
    tokenLoop low words tokensLc = tokensLc.any (holdsToken low) := by
  induction tokensLc generalizing words with
  | nil => rfl
  | cons token rest ih =>
      rw [tokenLoop, List.any_cons, holdsToken]
      split
      · rw [ih built, Bool.false_or]
      · split
        · have kept : (some (asciiWords low)).getD (asciiWords low) = asciiWords low := rfl
          simp only [built, ih kept]
          cases (asciiWords low).contains token <;> rfl
        · rw [ih built]
          cases containsText low token <;> rfl

theorem holdsToken_iff {low token : String} :
    holdsToken low token = true ↔
      token ≠ "" ∧
        ((ShortToken token ∧ MaximalRun isWordChar token.toList low.toList) ∨
          (¬ ShortToken token ∧ token.toList <:+: low.toList)) := by
  rw [holdsToken, ← isShortToken_iff, ← mem_asciiWords]
  by_cases empty : token = ""
  · simp [empty]
  · cases isShortToken token with
    | true => simp [empty]
    | false => simp [empty, containsText]

/-- No token is held by the empty text. -/
theorem holdsToken_empty (token : String) : holdsToken "" token = false := by
  rw [← Bool.not_eq_true, holdsToken_iff]
  intro held
  obtain ⟨nonempty, found⟩ := held
  cases found with
  | inl word =>
      obtain ⟨some, _, before, after, same, _⟩ := word.2
      have noRun := (List.append_eq_nil_iff.mp (List.append_eq_nil_iff.mp same.symm).1).2
      exact some noRun
  | inr inside =>
      apply nonempty
      rw [← String.toList_inj]
      exact List.infix_nil.mp inside.2

variable [Unicode]

/-- The lazily built word set changes nothing. -/
theorem containsAnyAdToken_loop (tokensLc : List String) (text : String) :
    containsAnyAdToken tokensLc text =
      if text = "" then false else tokenLoop (Unicode.toLowercase text) none tokensLc := by
  rw [tokenLoop_eq rfl]
  rfl

/-- A text holds a token exactly when a short one is a whole word of the lowercased
text, or any other one occurs in it. -/
theorem containsAnyAdToken_iff (lowersEmpty : Unicode.toLowercase "" = "")
    (tokensLc : List String) (text : String) :
    containsAnyAdToken tokensLc text = true ↔
      ∃ token ∈ tokensLc, token ≠ "" ∧
        ((ShortToken token ∧
            MaximalRun isWordChar token.toList (Unicode.toLowercase text).toList) ∨
          (¬ ShortToken token ∧ token.toList <:+: (Unicode.toLowercase text).toList)) := by
  have held : containsAnyAdToken tokensLc text =
      tokensLc.any (holdsToken (Unicode.toLowercase text)) := by
    rw [containsAnyAdToken_loop, tokenLoop_eq rfl]
    split
    · rename_i empty
      rw [empty, lowersEmpty]
      simp [holdsToken_empty]
    · rfl
  rw [held, List.any_eq_true]
  exact exists_congr fun token => and_congr_right fun _ => holdsToken_iff

omit [Unicode] in
/-- "ad" is no word of "adobe 7", and does not have to be one of "my ad". -/
theorem containsAnyAdToken_iff_adobe :
    let _ := asciiLowercase
    ¬ (∃ token ∈ ["ad"], token ≠ "" ∧
        ((ShortToken token ∧
            MaximalRun isWordChar token.toList (Unicode.toLowercase "Adobe 7").toList) ∨
          (¬ ShortToken token ∧ token.toList <:+: (Unicode.toLowercase "Adobe 7").toList))) ∧
      containsAnyAdToken ["ad"] "my Ad" = true := by
  intro _
  refine ⟨fun found => ?_, by decide⟩
  have held := (containsAnyAdToken_iff rfl ["ad"] "Adobe 7").mpr found
  exact absurd held (by decide)

end LayoutAdblock.Core
