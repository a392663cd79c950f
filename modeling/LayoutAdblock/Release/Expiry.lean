import Mathlib.Tactic.IntervalCases
import Mathlib.Tactic.Linarith
import Mathlib.Tactic.Positivity
import LayoutAdblock.Data.Calendar
import LayoutAdblock.Release.Manifest

namespace LayoutAdblock.Release

open LayoutAdblock.Core Data

/-! # When an expired manifest is refused

The expiry is read at fixed byte positions and its offset is ignored, so what the
clock is compared with is the local reading of the date-time.
-/

theorem isLeapYear_eq_leapYear (year : Nat) : isLeapYear year = leapYear year := by
  rw [Bool.eq_iff_iff]
  simp only [isLeapYear, leapYear, Bool.or_eq_true, Bool.and_eq_true, Bool.not_eq_true',
    beq_iff_eq, beq_eq_false_iff_ne, decide_eq_true_eq, ne_eq]
  omega

theorem foldl_years (count : Nat) :
    (List.range' 1970 count).foldl (fun days y => days + if isLeapYear y then 366 else 365) 0 +
      daysBeforeYear 1970 = daysBeforeYear (1970 + count) := by
  induction count with
  | zero => rfl
  | succ count ih =>
      have oneMore := daysBeforeYear_succ (1970 + count)
      rw [List.range'_1_concat, List.foldl_concat, isLeapYear_eq_leapYear, ← Nat.add_assoc 1970]
      omega

theorem foldl_months {year count : Nat} {daysInMonths : List Nat} (days : Nat)
    (table : ∀ month, 1 ≤ month → month ≤ count →
      daysInMonths.getD month 0 = daysInMonth year month) :
    (List.range' 1 count).foldl (fun days m => days + daysInMonths.getD m 0) days =
      days + daysBeforeMonth year (count + 1) := by
  induction count with
  | zero => rfl
  | succ count ih =>
      rw [List.range'_1_concat, List.foldl_concat,
        ih fun month first last => table month first (by omega), Nat.add_comm 1 count,
        table (count + 1) (by omega) (by omega),
        daysBeforeMonth_succ year (by omega : 1 ≤ count + 1)]
      omega

/-- The local clock of a date-time taken as universal time, the year being raised to
1970. -/
def utcReading (moment : DateTime) : Nat :=
  (daysBeforeYear (max moment.year 1970) - daysBeforeYear 1970 +
      daysBeforeMonth moment.year moment.month + (moment.day - 1)) * 86400 + moment.secondsOfDay

theorem daysInMonths_getD (year : Nat) {month : Nat} (first : 1 ≤ month) (last : month ≤ 12) :
    (if isLeapYear year then [0, 31, 29, 31, 30, 31, 30, 31, 31, 30, 31, 30, 31]
      else [0, 31, 28, 31, 30, 31, 30, 31, 31, 30, 31, 30, 31]).getD month 0 =
      daysInMonth year month := by
  rw [isLeapYear_eq_leapYear]
  cases leap : leapYear year <;> interval_cases month <;> simp [daysInMonth, leap]

theorem timestamp_moment (moment : DateTime) :
    timestamp moment.year moment.month moment.day moment.hour moment.minute moment.second =
      some (utcReading moment) := by
  have longest : daysInMonth moment.year moment.month ≤ 31 := by
    simp only [daysInMonth]
    split_ifs <;> omega
  obtain ⟨firstMonth, lastMonth⟩ := moment.monthValid
  obtain ⟨firstDay, lastDay⟩ := moment.dayValid
  have valid : (!(1 ≤ moment.month && moment.month ≤ 12 : Bool) ||
      !(1 ≤ moment.day && moment.day ≤ 31 : Bool) || moment.hour > 23 || moment.minute > 59 ||
        moment.second > 60) = false := by
    have hour := moment.hourValid
    have minute := moment.minuteValid
    have second := moment.secondValid
    simp
    omega
  have years := foldl_years (moment.year - 1970)
  rw [show 1970 + (moment.year - 1970) = max moment.year 1970 by omega] at years
  simp only [timestamp, valid, Bool.false_eq_true, if_false]
  rw [foldl_months _ fun month first last => daysInMonths_getD moment.year first (by omega),
    show moment.month - 1 + 1 = moment.month by omega, utcReading, DateTime.secondsOfDay, ← years,
    Nat.add_sub_cancel]
  simp only [Nat.add_assoc]

theorem utf8Size_of_isDigit {ch : Char} (digit : ch.isDigit = true) : ch.utf8Size = 1 := by
  have bounds : 48 ≤ ch.toNat ∧ ch.toNat ≤ 57 := by
    simpa [Char.isDigit, UInt32.le_iff_toNat_le] using digit
  rw [Char.utf8Size_eq_one_iff, UInt32.le_iff_toNat_le]
  exact bounds.2.trans (by decide)

theorem byteLen_decimal {width number : Nat} (fits : number < 10 ^ width) (positive : 0 < width) :
    byteLen (decimal width number) = width := by
  rw [byteLen_ascii fun ch member => utf8Size_of_isDigit (isDigit_of_mem_decimal member),
    decimal_length fits positive]

theorem slice_of_parts {text before piece after : List Char} {start stop : Nat}
    (parts : text = before ++ piece ++ after) (startBytes : byteLen before = start)
    (stopBytes : start + byteLen piece = stop) : slice text start stop = some piece := by
  subst parts startBytes stopBytes
  exact slice_append before piece after

/-- The text of a number that was cut out is read as that number. -/
theorem readFields_cons {text before after : List Char} {width number start stop : Nat}
    {cuts : List (Nat × Nat)} {values : List Nat} (fits : number < 10 ^ width)
    (positive : 0 < width) (small : number < 2 ^ 64)
    (parts : text = before ++ decimal width number ++ after) (startBytes : byteLen before = start)
    (stopBytes : start + width = stop) (rest : readFields text cuts = .ok (some values)) :
    readFields text ((start, stop) :: cuts) = .ok (some (number :: values)) := by
  have pieceBytes : start + byteLen (decimal width number) = stop := by
    rw [byteLen_decimal fits positive, stopBytes]
  rw [readFields, slice_of_parts parts startBytes pieceBytes]
  simp only [parseUnsigned_decimal small, rest]
  rfl

section Moment

variable (moment : DateTime)

theorem separator_bytes : moment.separator.utf8Size = 1 := by
  rcases moment.separatorValid with letter | letter | letter <;> rw [letter] <;> rfl

theorem daysInMonth_le (year month : Nat) : daysInMonth year month ≤ 31 := by
  simp only [daysInMonth]
  split_ifs <;> omega

/-- All numbers but the year have two digits. -/
theorem moment_twoDigits : moment.month < 100 ∧ moment.day < 100 ∧ moment.hour < 100 ∧
    moment.minute < 100 ∧ moment.second < 100 := by
  have month := moment.monthValid
  have day := moment.dayValid
  have longest := daysInMonth_le moment.year moment.month
  have hour := moment.hourValid
  have minute := moment.minuteValid
  have second := moment.secondValid
  refine ⟨?_, ?_, ?_, ?_, ?_⟩ <;> omega

theorem byteLen_year : byteLen (decimal 4 moment.year) = 4 :=
  byteLen_decimal (Nat.lt_succ_of_le moment.yearValid) (by decide)

theorem byteLen_twoDigits {number : Nat} (fits : number < 100) : byteLen (decimal 2 number) = 2 :=
  byteLen_decimal fits (by decide)

/-- The six numbers of a date-time stand where the code cuts them out. -/
theorem readFields_moment :
    readFields moment.text timestampCuts = .ok (some [moment.year, moment.month, moment.day,
      moment.hour, moment.minute, moment.second]) := by
  have year := moment.yearValid
  obtain ⟨month, day, hour, minute, second⟩ := moment_twoDigits moment
  have separator := separator_bytes moment
  have hyphen : ('-').utf8Size = 1 := rfl
  have colon : (':').utf8Size = 1 := rfl
  let untilMonth := decimal 4 moment.year ++ ['-']
  let untilDay := untilMonth ++ decimal 2 moment.month ++ ['-']
  let untilHour := untilDay ++ decimal 2 moment.day ++ [moment.separator]
  let untilMinute := untilHour ++ decimal 2 moment.hour ++ [':']
  let untilSecond := untilMinute ++ decimal 2 moment.minute ++ [':']
  let rest := moment.fractionText ++ moment.offset.text
  have monthStart : byteLen untilMonth = 5 := by
    simp [untilMonth, byteLen_year moment, hyphen]
  have dayStart : byteLen untilDay = 8 := by
    simp [untilDay, monthStart, byteLen_twoDigits month, hyphen]
  have hourStart : byteLen untilHour = 11 := by
    simp [untilHour, dayStart, byteLen_twoDigits day, separator]
  have minuteStart : byteLen untilMinute = 14 := by
    simp [untilMinute, hourStart, byteLen_twoDigits hour, colon]
  have secondStart : byteLen untilSecond = 17 := by
    simp [untilSecond, minuteStart, byteLen_twoDigits minute, colon]
  have secondText : moment.text = untilSecond ++ decimal 2 moment.second ++ rest := by
    simp [DateTime.text, untilSecond, untilMinute, untilHour, untilDay, untilMonth, rest]
  have minuteText : moment.text = untilMinute ++ decimal 2 moment.minute ++
      (':' :: decimal 2 moment.second ++ rest) := by
    simp [secondText, untilSecond]
  have hourText : moment.text = untilHour ++ decimal 2 moment.hour ++
      (':' :: decimal 2 moment.minute ++ ':' :: decimal 2 moment.second ++ rest) := by
    simp [minuteText, untilMinute]
  have dayText : moment.text = untilDay ++ decimal 2 moment.day ++
      (moment.separator :: decimal 2 moment.hour ++ ':' :: decimal 2 moment.minute ++
        ':' :: decimal 2 moment.second ++ rest) := by
    simp [hourText, untilHour]
  have monthText : moment.text = untilMonth ++ decimal 2 moment.month ++
      ('-' :: decimal 2 moment.day ++ moment.separator :: decimal 2 moment.hour ++
        ':' :: decimal 2 moment.minute ++ ':' :: decimal 2 moment.second ++ rest) := by
    simp [dayText, untilDay]
  have yearText : moment.text = [] ++ decimal 4 moment.year ++
      ('-' :: decimal 2 moment.month ++ '-' :: decimal 2 moment.day ++
        moment.separator :: decimal 2 moment.hour ++ ':' :: decimal 2 moment.minute ++
        ':' :: decimal 2 moment.second ++ rest) := by
    simp [monthText, untilMonth]
  exact readFields_cons (by omega) (by decide) (by omega) yearText rfl rfl
    (readFields_cons (by omega) (by decide) (by omega) monthText monthStart rfl
      (readFields_cons (by omega) (by decide) (by omega) dayText dayStart rfl
        (readFields_cons (by omega) (by decide) (by omega) hourText hourStart rfl
          (readFields_cons (by omega) (by decide) (by omega) minuteText minuteStart rfl
            (readFields_cons (by omega) (by decide) (by omega) secondText secondStart rfl rfl)))))

theorem offset_ends : ∃ front last, moment.offset.text = front ++ [last] ∧
    isWhitespace last = false := by
  cases moment.offset with
  | zulu letter valid =>
      refine ⟨[], letter, rfl, ?_⟩
      rcases valid with rfl | rfl <;> decide
  | shift behind hours minutes hoursValid minutesValid =>
      have nonempty : decimal 2 minutes ≠ [] := (Digits.ofNat 2 minutes).nonempty
      refine ⟨(if behind then '-' else '+') :: decimal 2 hours ++
        ':' :: (decimal 2 minutes).dropLast, (decimal 2 minutes).getLast nonempty, ?_, ?_⟩
      · simp [UtcOffset.text, List.dropLast_concat_getLast nonempty]
      · exact isWhitespace_of_isDigit (isDigit_of_mem_decimal (List.getLast_mem nonempty))

/-- There is nothing to trim. -/
theorem trim_moment : trim (String.ofList moment.text) = String.ofList moment.text := by
  have nonempty : decimal 4 moment.year ≠ [] := (Digits.ofNat 4 moment.year).nonempty
  obtain ⟨rest, yearText⟩ : ∃ rest, moment.text = decimal 4 moment.year ++ rest := by
    simp only [DateTime.text, List.append_assoc]
    exact ⟨_, rfl⟩
  obtain ⟨front, last, offsetText, visible⟩ := offset_ends moment
  obtain ⟨before, lastText⟩ : ∃ before, moment.text = before ++ [last] := by
    rw [DateTime.text, offsetText, ← List.append_assoc]
    exact ⟨_, rfl⟩
  have trimmed := @trim_around [] moment.text [] (by simp) (by simp)
    (fun ch isHead => by
      rw [yearText, List.head?_append_of_ne_nil _ nonempty] at isHead
      exact isWhitespace_of_isDigit (isDigit_of_mem_decimal (List.mem_of_mem_head? isHead)))
    (fun ch isLast => by
      rw [lastText, List.getLast?_concat, Option.mem_def, Option.some.injEq] at isLast
      rwa [← isLast])
    (by rw [yearText]; simp [nonempty])
  simpa using trimmed

theorem byteLen_moment : 19 ≤ byteLen moment.text := by
  obtain ⟨month, day, hour, minute, second⟩ := moment_twoDigits moment
  have hyphen : ('-').utf8Size = 1 := rfl
  have colon : (':').utf8Size = 1 := rfl
  simp only [DateTime.text, byteLen_append, byteLen_cons, byteLen_year moment, hyphen, colon,
    separator_bytes moment, byteLen_twoDigits month, byteLen_twoDigits day,
    byteLen_twoDigits hour, byteLen_twoDigits minute, byteLen_twoDigits second]
  omega

/-- A date-time of RFC 3339 is read as its local clock, whatever its offset. -/
theorem parseRfc3339Timestamp_moment :
    parseRfc3339Timestamp (String.ofList moment.text) = .ok (some (utcReading moment)) := by
  have long : ¬ byteLen moment.text < 19 := Nat.not_lt.mpr (byteLen_moment moment)
  simp only [parseRfc3339Timestamp, trim_moment, String.toList_ofList, long, if_false,
    readFields_moment]
  exact congrArg Except.ok (timestamp_moment moment)

end Moment

/-- `s[start..stop].parse()` succeeds. -/
def Parses (text : List Char) (cut : Nat × Nat) : Prop :=
  ∃ piece value, slice text cut.1 cut.2 = some piece ∧ parseUnsigned (2 ^ 64) piece = some value

theorem readFields_panics_iff {text : List Char} {cuts : List (Nat × Nat)} :
    readFields text cuts = .error .charBoundary ↔
      ∃ before cut after, cuts = before ++ cut :: after ∧
        (∀ earlier ∈ before, Parses text earlier) ∧ slice text cut.1 cut.2 = none := by
  induction cuts with
  | nil => simp [readFields]
  | cons first rest ih =>
      obtain ⟨start, stop⟩ := first
      cases here : slice text start stop with
      | none =>
          simp only [readFields, here, true_iff]
          exact ⟨[], (start, stop), rest, rfl, by simp, here⟩
      | some piece =>
          cases value : parseUnsigned (2 ^ 64) piece with
          | none =>
              simp only [readFields, here, value, reduceCtorEq, false_iff]
              rintro ⟨before, cut, after, cuts, parses, off⟩
              cases before with
              | nil =>
                  obtain ⟨rfl, rfl⟩ := List.cons.inj cuts
                  rw [here] at off
                  cases off
              | cons head others =>
                  obtain ⟨rfl, _⟩ := List.cons.inj cuts
                  obtain ⟨found, number, cutOut, parsed⟩ := parses _ List.mem_cons_self
                  rw [here, Option.some.injEq] at cutOut
                  rw [← cutOut, value] at parsed
                  cases parsed
          | some number =>
              have step : readFields text ((start, stop) :: rest) = .error .charBoundary ↔
                  readFields text rest = .error .charBoundary := by
                simp only [readFields, here, value]
                cases readFields text rest <;> simp [Except.map]
              rw [step, ih]
              constructor
              · rintro ⟨before, cut, after, rfl, parses, off⟩
                exact ⟨(start, stop) :: before, cut, after, rfl,
                  List.forall_mem_cons.mpr ⟨⟨piece, number, here, value⟩, parses⟩, off⟩
              · rintro ⟨before, cut, after, cuts, parses, off⟩
                cases before with
                | nil =>
                    obtain ⟨rfl, rfl⟩ := List.cons.inj cuts
                    rw [here] at off
                    cases off
                | cons head others =>
                    obtain ⟨rfl, rfl⟩ := List.cons.inj cuts
                    exact ⟨others, cut, after, rfl, (List.forall_mem_cons.mp parses).2, off⟩

/-- Before a number fails to parse, a cut goes through the bytes of a character. -/
def CutsCharacter (text : List Char) : Prop :=
  19 ≤ byteLen text ∧ ∃ before cut after, timestampCuts = before ++ cut :: after ∧
    (∀ earlier ∈ before, Parses text earlier) ∧ ¬ (Boundary text cut.1 ∧ Boundary text cut.2)

theorem parseRfc3339Timestamp_panics_iff (s : String) :
    parseRfc3339Timestamp s = .error .charBoundary ↔ CutsCharacter (trim s).toList := by
  have order : ∀ cut ∈ timestampCuts, cut.1 ≤ cut.2 := by decide
  have panics : CutsCharacter (trim s).toList ↔ 19 ≤ byteLen (trim s).toList ∧
      readFields (trim s).toList timestampCuts = .error .charBoundary := by
    rw [CutsCharacter, readFields_panics_iff]
    refine and_congr_right fun _ => exists_congr fun before => exists_congr fun cut =>
      exists_congr fun after => and_congr_right fun cuts => and_congr_right fun _ => ?_
    have member : cut ∈ timestampCuts := by simp [cuts]
    rw [← slice_isSome_iff (order cut member), Bool.not_eq_true, Option.isSome_eq_false_iff,
      Option.isNone_iff_eq_none]
  rw [panics, parseRfc3339Timestamp]
  by_cases short : byteLen (trim s).toList < 19
  · simp [short]
  · simp only [short, if_false, Nat.not_lt.mp short, true_and]
    cases fields : readFields (trim s).toList timestampCuts with
    | error panic => simp [bind, Except.bind]
    | ok numbers =>
        simp only [bind, Except.bind, reduceCtorEq, iff_false]
        split <;> simp [pure, Except.pure]

theorem le_nowTs_iff {reading : Nat} {now : Int} :
    reading ≤ nowTs now ↔ (reading : Int) ≤ max 0 (now / 1000000000) := by
  rw [nowTs]
  omega

theorem checkExpiry_some {now : Int} {payload : Json} {expiresAt : String}
    (stated : getString payload "expires_at" = some expiresAt) :
    checkExpiry now payload =
      match parseRfc3339Timestamp expiresAt with
      | .error panic => .error panic
      | .ok none => .ok (.ok ())
      | .ok (some expTs) =>
          if expTs ≤ nowTs now then .ok (.error expired) else .ok (.ok ()) := by
  simp only [checkExpiry, stated, bind, Except.bind, pure, Except.pure]
  cases parseRfc3339Timestamp expiresAt with
  | error panic => rfl
  | ok parsed => cases parsed <;> rfl

section Verdicts

variable [Unicode] {crates : Crates} {now : Int} {document : Interaction.Bytes}
  {currentVersion : String}

/-- The clock, in nanoseconds, has reached an instant. The offset of the instant counts,
unlike in the check of the program. -/
def Passed (now : Int) (moment : DateTime) : Prop := moment.instant ≤ now / 1000000000

/-- No manifest that expired at an instant which has passed is accepted, and the
check of the expiry does not panic. -/
def ExpiryKept (crates : Crates) (now : Int) (document : Interaction.Bytes)
    (currentVersion : String) : Prop :=
  (∀ payload (moment : DateTime), signedPayload crates document = .ok payload →
    getString payload "expires_at" = some (String.ofList moment.text) → Passed now moment →
      ∃ error, parseAndVerifyManifest crates now document currentVersion = .ok (.error error)) ∧
    parseAndVerifyManifest crates now document currentVersion ≠ .error .charBoundary

/-- The expiry of a signed and well-formed manifest is cut between characters; and if
it is a date-time that has passed, its local clock has passed too when taken as universal
time, or the release is not newer. -/
def ReadInTime (crates : Crates) (now : Int) (document : Interaction.Bytes)
    (currentVersion : String) : Prop :=
  ∀ payload manifest expiresAt, signedPayload crates document = .ok payload →
    describe payload = .ok manifest → getString payload "expires_at" = some expiresAt →
      ¬ CutsCharacter (trim expiresAt).toList ∧
        ∀ moment : DateTime, expiresAt = String.ofList moment.text → Passed now moment →
          (utcReading moment : Int) ≤ max 0 (now / 1000000000) ∨
            isNewer manifest.version currentVersion ≠ .ok true

theorem expiryKept_of_refused {error : UpdateError}
    (refused : parseAndVerifyManifest crates now document currentVersion = .ok (.error error)) :
    ExpiryKept crates now document currentVersion := by
  refine ⟨fun _ _ _ _ _ => ⟨error, refused⟩, ?_⟩
  simp [refused]

variable (now currentVersion) in

/-- What follows once the payload is signed and describes a release. -/
theorem parseAndVerifyManifest_described {payload : Json} {manifest : UpdateManifest}
    (signed : signedPayload crates document = .ok payload)
    (described : describe payload = .ok manifest) :
    parseAndVerifyManifest crates now document currentVersion =
      match checkExpiry now payload with
      | .error panic => .error panic
      | .ok (.error error) => .ok (.error error)
      | .ok (.ok ()) =>
          match isNewer manifest.version currentVersion with
          | .error error => .ok (.error error)
          | .ok newer => .ok (if newer then .ok manifest else .error .noUpdate) := by
  simp only [parseAndVerifyManifest, signed, described, bind, Except.bind, pure, Except.pure]
  cases checkExpiry now payload with
  | error panic => rfl
  | ok verdict =>
      cases verdict with
      | error error => rfl
      | ok value =>
          cases isNewer manifest.version currentVersion with
          | error error => rfl
          | ok newer => rfl

section Stated

variable {payload : Json} {manifest : UpdateManifest} {expiresAt : String}

theorem expiryKept_iff_of_stated (signed : signedPayload crates document = .ok payload)
    (stated : getString payload "expires_at" = some expiresAt) :
    ExpiryKept crates now document currentVersion ↔
      (∀ moment : DateTime, expiresAt = String.ofList moment.text → Passed now moment →
        ∃ error, parseAndVerifyManifest crates now document currentVersion = .ok (.error error)) ∧
      parseAndVerifyManifest crates now document currentVersion ≠ .error .charBoundary := by
  refine and_congr_left fun _ => ⟨fun kept moment text passed => ?_,
    fun kept other moment same text passed => ?_⟩
  · exact kept payload moment signed (text ▸ stated) passed
  · rw [signed, Except.ok.injEq] at same
    rw [← same, stated, Option.some.injEq] at text
    exact kept moment text passed

theorem readInTime_iff_of_stated (signed : signedPayload crates document = .ok payload)
    (described : describe payload = .ok manifest)
    (stated : getString payload "expires_at" = some expiresAt) :
    ReadInTime crates now document currentVersion ↔
      ¬ CutsCharacter (trim expiresAt).toList ∧
        ∀ moment : DateTime, expiresAt = String.ofList moment.text → Passed now moment →
          (utcReading moment : Int) ≤ max 0 (now / 1000000000) ∨
            isNewer manifest.version currentVersion ≠ .ok true := by
  refine ⟨fun inTime => inTime payload manifest expiresAt signed described stated,
    fun held other otherManifest otherText same fields text => ?_⟩
  rw [signed, Except.ok.injEq] at same
  subst same
  rw [described, Except.ok.injEq] at fields
  rw [stated, Option.some.injEq] at text
  rw [← fields, ← text]
  exact held

end Stated

theorem refused_of_late {payload : Json} {manifest : UpdateManifest} {expiresAt : String}
    {expTs : Nat} (signed : signedPayload crates document = .ok payload)
    (described : describe payload = .ok manifest)
    (stated : getString payload "expires_at" = some expiresAt)
    (parsed : parseRfc3339Timestamp expiresAt = .ok (some expTs)) (late : expTs ≤ nowTs now) :
    parseAndVerifyManifest crates now document currentVersion = .ok (.error expired) := by
  have refused : checkExpiry now payload = .ok (.error expired) := by
    rw [checkExpiry_some stated, parsed]
    exact if_pos late
  rw [parseAndVerifyManifest_described now currentVersion signed described, refused]

variable (now currentVersion) in

/-- Past the expiry check, only a newer release is accepted. -/
theorem refused_iff_of_passes {payload : Json} {manifest : UpdateManifest}
    (signed : signedPayload crates document = .ok payload)
    (described : describe payload = .ok manifest)
    (passes : checkExpiry now payload = .ok (.ok ())) :
    parseAndVerifyManifest crates now document currentVersion ≠ .error .charBoundary ∧
      ((∃ error, parseAndVerifyManifest crates now document currentVersion = .ok (.error error)) ↔
        isNewer manifest.version currentVersion ≠ .ok true) := by
  rw [parseAndVerifyManifest_described now currentVersion signed described, passes]
  cases isNewer manifest.version currentVersion with
  | error error => simp
  | ok newer => cases newer <;> simp

/-- The verdict on a manifest whose expiry was read. -/
theorem expiryKept_iff_of_read {payload : Json} {manifest : UpdateManifest} {expiresAt : String}
    {reading : Option Nat} (signed : signedPayload crates document = .ok payload)
    (described : describe payload = .ok manifest)
    (stated : getString payload "expires_at" = some expiresAt)
    (parsed : parseRfc3339Timestamp expiresAt = .ok reading) :
    ExpiryKept crates now document currentVersion ↔
      ∀ moment : DateTime, expiresAt = String.ofList moment.text → Passed now moment →
        (utcReading moment : Int) ≤ max 0 (now / 1000000000) ∨
          isNewer manifest.version currentVersion ≠ .ok true := by
  have reads : ∀ moment : DateTime, expiresAt = String.ofList moment.text →
      reading = some (utcReading moment) := by
    rintro moment rfl
    rw [parseRfc3339Timestamp_moment] at parsed
    exact (Except.ok.inj parsed).symm
  by_cases late : ∃ expTs, reading = some expTs ∧ expTs ≤ nowTs now
  · obtain ⟨expTs, rfl, late⟩ := late
    refine iff_of_true
      (expiryKept_of_refused (refused_of_late signed described stated parsed late)) ?_
    intro moment text _
    rw [Option.some.inj (reads moment text)] at late
    exact .inl (le_nowTs_iff.mp late)
  · have passes : checkExpiry now payload = .ok (.ok ()) := by
      rw [checkExpiry_some stated, parsed]
      cases reading with
      | none => rfl
      | some expTs => exact if_neg fun early => late ⟨expTs, rfl, early⟩
    obtain ⟨quiet, refused⟩ := refused_iff_of_passes now currentVersion signed described passes
    rw [expiryKept_iff_of_stated signed stated, and_iff_left quiet, refused]
    refine forall_congr' fun moment => forall_congr' fun text => forall_congr' fun _ => ?_
    have early : ¬ (utcReading moment : Int) ≤ max 0 (now / 1000000000) := by
      rw [← le_nowTs_iff]
      exact fun early => late ⟨_, reads moment text, early⟩
    rw [or_iff_right early]

/-- An expired manifest is refused, without a panic, exactly when its expiry is read in
time. -/
theorem expiryKept_iff (crates : Crates) (now : Int) (document : Interaction.Bytes)
    (currentVersion : String) :
    ExpiryKept crates now document currentVersion ↔
      ReadInTime crates now document currentVersion := by
  cases signed : signedPayload crates document with
  | error error =>
      have refused : parseAndVerifyManifest crates now document currentVersion =
          .ok (.error error) := by
        simp only [parseAndVerifyManifest, signed]
      refine iff_of_true (expiryKept_of_refused refused) fun payload _ _ other => ?_
      rw [signed] at other
      cases other
  | ok payload =>
      cases described : describe payload with
      | error error =>
          have refused : parseAndVerifyManifest crates now document currentVersion =
              .ok (.error error) := by
            simp only [parseAndVerifyManifest, signed, described]
          refine iff_of_true (expiryKept_of_refused refused) fun other manifest _ same fields => ?_
          rw [signed, Except.ok.injEq] at same
          rw [← same, described] at fields
          cases fields
      | ok manifest =>
          have verdict := parseAndVerifyManifest_described now currentVersion signed described
          cases stated : getString payload "expires_at" with
          | none =>
              have passes : checkExpiry now payload = .ok (.ok ()) := by
                rw [checkExpiry, stated]
              rw [passes] at verdict
              refine iff_of_true ⟨fun other _ same text _ => ?_, ?_⟩ fun other _ _ same _ text => ?_
              · rw [signed, Except.ok.injEq] at same
                rw [← same, stated] at text
                cases text
              · rw [verdict]
                cases isNewer manifest.version currentVersion <;> simp
              · rw [signed, Except.ok.injEq] at same
                rw [← same, stated] at text
                cases text
          | some expiresAt =>
              rw [readInTime_iff_of_stated signed described stated,
                ← parseRfc3339Timestamp_panics_iff]
              cases parsed : parseRfc3339Timestamp expiresAt with
              | error panic =>
                  rw [checkExpiry_some stated, parsed] at verdict
                  simp [ExpiryKept, verdict]
              | ok reading =>
                  rw [expiryKept_iff_of_read signed described stated parsed]
                  simp

end Verdicts

/-- An offset that is not ahead of universal time is read in time, from 1970 on. -/
theorem utcReading_le_of_passed {now : Int} {moment : DateTime} (recent : 1970 ≤ moment.year)
    (notAhead : moment.offset.seconds ≤ 0) (passed : Passed now moment) :
    (utcReading moment : Int) ≤ now / 1000000000 := by
  have localClock : (utcReading moment : Int) = moment.localSeconds := by
    have later : daysBeforeYear 1970 ≤ daysBeforeYear moment.year := by
      have years := foldl_years (moment.year - 1970)
      rw [show 1970 + (moment.year - 1970) = moment.year by omega] at years
      omega
    simp only [utcReading, DateTime.localSeconds, Date.dayNumber, max_eq_left recent]
    omega
  have fraction : 0 ≤ moment.fractionSeconds := by
    rw [DateTime.fractionSeconds]
    split
    · exact le_rfl
    · positivity
  have offset : (moment.offset.seconds : ℚ) ≤ 0 := by exact_mod_cast notAhead
  have clock : (moment.localSeconds : ℚ) ≤ now / 1000000000 := by
    rw [Passed, DateTime.instant] at passed
    linarith
  rw [localClock, Int.le_ediv_iff_mul_le (by decide)]
  rw [le_div_iff₀ (by norm_num)] at clock
  exact_mod_cast clock

/-- A payload of a release that states this expiry. -/
def samplePayload (expiresAt : String) : Json :=
  .object [("artifact_url", .string (expectedArtifactUrl "v11.2.0")),
    ("expires_at", .string expiresAt), ("sha256", .string (String.ofList (List.replicate 64 '0'))),
    ("size", .number 4316672), ("tag", .string "v11.2.0"), ("version", .string "11.2.0")]

/-- A signature of the right length and alphabet. -/
def sampleSignature : String := String.ofList (List.replicate 86 'A' ++ ['=', '='])

/-- A published document with this time of expiry. -/
def sampleManifest (expiresAt : String) : Json :=
  .object [("payload", samplePayload expiresAt), ("signature", .string sampleSignature)]

def sampleDocument (expiresAt : String) : Interaction.Bytes :=
  utf8 (pythonishDumps (fun _ => []) (sampleManifest expiresAt))

/-- The crates on this document, with a signature that holds. -/
def sampleCrates (expiresAt : String) : Crates where
  parseJson document :=
    if document = sampleDocument expiresAt then some (sampleManifest expiresAt) else none
  printFloat _ := []
  decodeBase64 text :=
    if text = updatePublicKeyB64 then
      some [10, 44, 125, 119, 106, 249, 81, 156, 105, 12, 190, 1, 167, 208, 150, 54, 184, 204, 13,
        20, 208, 28, 94, 88, 214, 201, 211, 49, 137, 204, 67, 101]
    else if text = sampleSignature then some (List.replicate 64 0) else none
  Key := Interaction.Bytes
  verifyingKey bytes := some bytes
  verifies _ _ _ := true

def newYear : DateTime where
  year := 2030
  month := 1
  day := 1
  monthValid := by decide
  dayValid := by decide
  yearValid := by decide
  separator := 'T'
  separatorValid := by decide
  hour := 0
  hourValid := by decide
  minute := 0
  minuteValid := by decide
  second := 0
  secondValid := by decide
  fraction := none
  offset := .shift false 9 0 (by decide) (by decide)

set_option maxRecDepth 8000 in
/-- A second after New Year in Korea a manifest that expired then is accepted, and a
date written in Korean panics. -/
theorem expiryKept_fails :
    (¬ @ExpiryKept asciiLowercase (sampleCrates "2030-01-01T00:00:00+09:00")
        1893423601000000000 (sampleDocument "2030-01-01T00:00:00+09:00") "11.1.14") ∧
      ¬ @ExpiryKept asciiLowercase (sampleCrates "2030년01월01일 00:00:00") 0
        (sampleDocument "2030년01월01일 00:00:00") "11.1.14" := by
  let _ := asciiLowercase
  constructor
  · rintro ⟨kept, _⟩
    have passed : Passed 1893423601000000000 newYear := by
      have instant : newYear.instant = (1893423600 : Int) := by
        rw [DateTime.instant, show newYear.localSeconds = 1893456000 by decide,
          show newYear.offset.seconds = 32400 by decide,
          show newYear.fractionSeconds = 0 from rfl]
        norm_num
      rw [Passed, instant]
      norm_num
    obtain ⟨error, refused⟩ := kept (samplePayload "2030-01-01T00:00:00+09:00") newYear
      rfl (by decide) passed
    have accepted : parseAndVerifyManifest (sampleCrates "2030-01-01T00:00:00+09:00")
        1893423601000000000 (sampleDocument "2030-01-01T00:00:00+09:00") "11.1.14" =
          .ok (.ok ⟨"11.2.0", "v11.2.0", expectedArtifactUrl "v11.2.0",
            String.ofList (List.replicate 64 '0'), 4316672⟩) := by
      decide
    rw [accepted] at refused
    cases refused
  · rintro ⟨_, quiet⟩
    exact quiet (by decide)

end LayoutAdblock.Release
