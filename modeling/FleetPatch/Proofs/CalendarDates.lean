import FleetPatch.Date
import FleetPatch.Proofs.Words

/-!
# Dates read back

A number of one or two digits can be read in several ways, but the best way takes all of its digits
and every other way stops before a digit. So where no digit follows, what is expected next leaves
only one way. Hence every form in which a day of the calendar can be written gives this day, and
what is read is a day of the calendar.
-/

namespace FleetPatch.Date

set_option autoImplicit false

section Calendar

def Leap (year : Nat) : Prop := 4 ∣ year ∧ (¬ 100 ∣ year ∨ 400 ∣ year)

def monthLengths : List Nat := [31, 28, 31, 30, 31, 30, 31, 31, 30, 31, 30, 31]

/-- A day of the Gregorian calendar in the years 1 to 9999. -/
structure Gregorian (date : Date) : Prop where
  year_bounds : 1 ≤ date.year ∧ date.year ≤ 9999
  month_bounds : 1 ≤ date.month ∧ date.month ≤ 12
  positive : 1 ≤ date.day
  within : date.day ≤ monthLengths.getD (date.month - 1) 0 ∨
    (date.month = 2 ∧ Leap date.year ∧ date.day = 29)

theorem isLeapYear_iff {year : Nat} : isLeapYear year = true ↔ Leap year := by
  simp only [isLeapYear, Leap, Bool.and_eq_true, Bool.or_eq_true, beq_iff_eq, bne_iff_ne, ne_eq,
    Nat.dvd_iff_mod_eq_zero]

theorem le_daysInMonth_iff {year month day : Nat} (bounds : 1 ≤ month ∧ month ≤ 12) :
    day ≤ daysInMonth year month ↔ day ≤ monthLengths.getD (month - 1) 0 ∨
      (month = 2 ∧ Leap year ∧ day = 29) := by
  obtain ⟨lower, upper⟩ := bounds
  by_cases february : month = 2
  · subst february
    have common : monthLengths.getD (2 - 1) 0 = 28 := rfl
    rw [daysInMonth, if_pos rfl, common]
    by_cases leap : Leap year
    · rw [if_pos (isLeapYear_iff.mpr leap)]
      simp only [leap, true_and]
      omega
    · rw [if_neg (mt isLeapYear_iff.mp leap)]
      simp only [leap, false_and, and_false, or_false]
  · have lengths : ∀ month < 13, 1 ≤ month → month ≠ 2 →
        (if month = 4 ∨ month = 6 ∨ month = 9 ∨ month = 11 then 30 else 31) =
          monthLengths.getD (month - 1) 0 := by decide
    rw [daysInMonth, if_neg february, lengths month (by omega) lower february]
    simp only [february, false_and, or_false]

theorem isValid_iff {date : Date} : date.isValid = true ↔ Gregorian date := by
  simp only [isValid, Bool.and_eq_true, decide_eq_true_eq]
  constructor
  · rintro ⟨⟨⟨⟨⟨early, late⟩, first⟩, last⟩, positive⟩, within⟩
    exact ⟨⟨early, late⟩, ⟨first, last⟩, positive, (le_daysInMonth_iff ⟨first, last⟩).mp within⟩
  · rintro ⟨⟨early, late⟩, bounds, positive, within⟩
    have allowed := (le_daysInMonth_iff bounds).mpr within
    exact ⟨⟨⟨⟨⟨early, late⟩, bounds.1⟩, bounds.2⟩, positive⟩, allowed⟩

theorem Gregorian.day_le {date : Date} (gregorian : Gregorian date) : date.day ≤ 31 := by
  have lengths : ∀ month < 13, monthLengths.getD (month - 1) 0 ≤ 31 := by decide
  have month_le := gregorian.month_bounds.2
  have length := lengths date.month (by omega)
  have within := gregorian.within
  omega

end Calendar

section Forms

def twoDigits (number : Nat) : List Char :=
  [Nat.digitChar (number / 10), Nat.digitChar (number % 10)]

def fourDigits (number : Nat) : List Char := twoDigits (number / 100) ++ twoDigits (number % 100)

/-- A number of at most two digits, below ten also written with a single one. -/
inductive Figures : Nat → List Char → Prop where
  | single {number : Nat} (small : number < 10) : Figures number [Nat.digitChar number]
  | double (number : Nat) : Figures number (twoDigits number)

def twelveHours (hour : Nat) : Nat := if hour % 12 = 0 then 12 else hour % 12

/-- A time of the day on a clock of twelve hours, the half of the day in any case. -/
inductive Clock : List Char → Prop where
  | reading {hour minute second : Nat} {hours : List Char} {first last : Char} (hour_lt : hour < 24)
      (minute_lt : minute < 60) (second_lt : second < 60)
      (figures : Figures (twelveHours hour) hours)
      (half : first ∈ if hour < 12 then ['a', 'A'] else ['p', 'P']) (meridiem : last ∈ ['m', 'M']) :
      Clock (hours ++ ':' :: (twoDigits minute ++ ':' :: (twoDigits second ++ [' ', first, last])))

inductive Form (date : Date) : List Char → Prop where
  | dashed : Form date
      (fourDigits date.year ++ '-' :: (twoDigits date.month ++ '-' :: twoDigits date.day))
  | slashed {month day : List Char} (months : Figures date.month month)
      (days : Figures date.day day) :
      Form date (month ++ '/' :: (day ++ '/' :: fourDigits date.year))
  | clocked {month day time : List Char} (months : Figures date.month month)
      (days : Figures date.day day) (clock : Clock time) :
      Form date (month ++ '/' :: (day ++ '/' :: (fourDigits date.year ++ ' ' :: time)))

end Forms

section Digits

variable {value : Nat} {rest : List Char}

def Stops (rest : List Char) : Prop := ∀ next ∈ rest.head?, Text.isDigit next = false

open Reading

theorem digitValue_figure (small : value < 10) :
    Text.digitValue? (Nat.digitChar value) = some value := by
  have code := Nat.toNat_digitChar_of_lt_ten small
  rw [Text.digitValue?, code, if_pos (by omega), if_pos (by omega), Nat.add_sub_cancel_left]

theorem digit_figure (small : value < 10) (rest : List Char) :
    digit (Nat.digitChar value :: rest) = [(value, rest)] := by
  rw [digit, digitValue_figure small]

theorem digit_of_stops (stops : Stops rest) : digit rest = [] := by
  cases rest with
  | nil => rfl
  | cons next rest =>
      have none : Text.digitValue? next = none := by
        simpa [Text.isDigit] using stops next rfl
      rw [digit, none]

theorem plainDigit_figure (low high : Nat) (small : value < 10) (rest : List Char) :
    plainDigit low high (Nat.digitChar value :: rest) =
      if low ≤ value ∧ value ≤ high then [(value, rest)] else [] := by
  have code := Nat.toNat_digitChar_of_lt_ten small
  rw [plainDigit, code, Nat.add_sub_cancel_left]
  simp only [Nat.le_add_right, true_and]

theorem plainDigit_of_stops (low : Nat) {high : Nat} (small : high ≤ 9) (stops : Stops rest) :
    plainDigit low high rest = [] := by
  cases rest with
  | nil => rfl
  | cons next rest =>
      have other := stops next rfl
      rw [plainDigit]
      apply if_neg
      rintro ⟨lower, -, upper⟩
      simp only [Text.isDigit, Text.digitValue?] at other
      rw [if_pos (by omega), if_pos (by omega)] at other
      cases other

theorem exactly_figure {expected : Char} (other : Text.isDigit expected = false)
    (small : value < 10) (rest : List Char) :
    exactly expected (Nat.digitChar value :: rest) = [] := by
  have different : Nat.digitChar value ≠ expected := by
    rintro rfl
    rw [Text.isDigit, digitValue_figure small] at other
    cases other
  rw [exactly, character, if_neg (by simpa using different)]

theorem andThen_of_single {α β : Type} {first : Reading α} {found : α} {text rest : List Char}
    (next : α → Reading β) (read : first text = [(found, rest)]) :
    andThen first next text = next found rest := by
  rw [andThen, read]
  exact List.flatMap_singleton _ _

theorem andThen_of_unread {α β : Type} {first : Reading α} {text : List Char}
    (next : α → Reading β) (unread : first text = []) : andThen first next text = [] := by
  rw [andThen, unread]
  rfl

end Digits

section Ways

open Reading

/-- No way to read the text, if no digit follows. -/
def Fails (reading : Reading Nat) (text : List Char) : Prop :=
  ∀ rest, Stops rest → reading (text ++ rest) = []

/-- Every way to read the text stops before a digit, if none follows. -/
def Lags (reading : Reading Nat) (text : List Char) : Prop :=
  ∀ rest, Stops rest → ∀ way ∈ reading (text ++ rest),
    ∃ figure more, figure < 10 ∧ way.2 = Nat.digitChar figure :: more

/-- The best way to read the text takes all of it, if no digit follows, and every other way stops
before a digit. -/
def Reads (reading : Reading Nat) (text : List Char) (number : Nat) : Prop :=
  ∀ rest, Stops rest → ∃ others, reading (text ++ rest) = (number, rest) :: others ∧
    ∀ way ∈ others, ∃ figure more, figure < 10 ∧ way.2 = Nat.digitChar figure :: more

variable {first second tensReading unitsReading : Reading Nat} {text : List Char}
  {number tens units low high : Nat}

theorem Fails.lags (fails : Fails first text) : Lags first text := by
  intro rest stops way member
  rw [fails rest stops] at member
  cases member

theorem Lags.orElse (lags : Lags first text) (also : Lags second text) :
    Lags (orElse first second) text := by
  intro rest stops way member
  obtain early | late := List.mem_append.mp member
  · exact lags rest stops way early
  · exact also rest stops way late

theorem Reads.orElse (reads : Reads first text number) (lags : Lags second text) :
    Reads (orElse first second) text number := by
  intro rest stops
  obtain ⟨others, read, short⟩ := reads rest stops
  refine ⟨others ++ second (text ++ rest), ?_, ?_⟩
  · rw [Reading.orElse, read, List.cons_append]
  · intro way member
    obtain early | late := List.mem_append.mp member
    · exact short way early
    · exact lags rest stops way late

theorem Fails.orElse_reads (fails : Fails first text) (reads : Reads second text number) :
    Reads (orElse first second) text number := by
  intro rest stops
  rw [Reading.orElse, fails rest stops, List.nil_append]
  exact reads rest stops

theorem reads_of_only (read : ∀ rest, Stops rest → first (text ++ rest) = [(number, rest)]) :
    Reads first text number := by
  intro rest stops
  refine ⟨[], read rest stops, ?_⟩
  intro way member
  cases member

theorem digit_fails : Fails digit [] := fun _ stops => digit_of_stops stops

theorem plainDigit_fails_end (low high : Nat) (small : high ≤ 9) : Fails (plainDigit low high) [] :=
  fun _ stops => plainDigit_of_stops low small stops

theorem plainDigit_takes (low high : Nat) (small : number < 10)
    (within : low ≤ number ∧ number ≤ high) (rest : List Char) :
    plainDigit low high (Nat.digitChar number :: rest) = [(number, rest)] := by
  rw [plainDigit_figure low high small, if_pos within]

theorem plainDigit_fails (small : number < 10) (beyond : ¬ (low ≤ number ∧ number ≤ high))
    (more : List Char) : Fails (plainDigit low high) (Nat.digitChar number :: more) := by
  intro rest _
  rw [List.cons_append, plainDigit_figure low high small, if_neg beyond]

theorem digit_lags (small : tens < 10) (fine : units < 10) :
    Lags digit [Nat.digitChar tens, Nat.digitChar units] := by
  intro rest _ way member
  rw [List.cons_append, digit_figure small] at member
  rw [List.mem_singleton.mp member]
  exact ⟨units, rest, fine, rfl⟩

theorem plainDigit_lags (low high : Nat) (small : tens < 10) (fine : units < 10) :
    Lags (plainDigit low high) [Nat.digitChar tens, Nat.digitChar units] := by
  intro rest _ way member
  rw [List.cons_append, plainDigit_figure low high small] at member
  split at member
  · rw [List.mem_singleton.mp member]
    exact ⟨units, rest, fine, rfl⟩
  · cases member

theorem pair_reads
    (first : ∀ rest, tensReading (Nat.digitChar tens :: rest) = [(tens, rest)])
    (last : ∀ rest, unitsReading (Nat.digitChar units :: rest) = [(units, rest)]) :
    Reads (pair tensReading unitsReading) [Nat.digitChar tens, Nat.digitChar units]
      (10 * tens + units) := by
  apply reads_of_only
  intro rest _
  exact (andThen_of_single _ (first (Nat.digitChar units :: rest))).trans
    (andThen_of_single _ (last rest))

/-- A pair fails with its first digit. -/
theorem Fails.pair (fails : Fails tensReading text) :
    Fails (pair tensReading unitsReading) text :=
  fun rest stops => andThen_of_unread _ (fails rest stops)

theorem Fails.pair_behind (fails : Fails unitsReading text) (low high : Nat) (small : tens < 10) :
    Fails (Reading.pair (plainDigit low high) unitsReading) (Nat.digitChar tens :: text) := by
  intro rest stops
  by_cases within : low ≤ tens ∧ tens ≤ high
  · exact (andThen_of_single _ (plainDigit_takes low high small within (text ++ rest))).trans
      (andThen_of_unread _ (fails rest stops))
  · exact (plainDigit_fails small within text).pair rest stops

theorem month_reads (bounds : 1 ≤ number ∧ number ≤ 12) (figures : Figures number text) :
    Reads monthReading text number := by
  cases figures with
  | single small =>
      have none := plainDigit_fails_end 0 2 (by omega)
      have noUnits := plainDigit_fails_end 1 9 (by omega)
      apply (none.pair_behind 1 1 small).orElse_reads
      apply (noUnits.pair_behind 0 0 small).orElse_reads
      exact reads_of_only fun rest _ => plainDigit_takes 1 9 small (by omega) rest
  | double =>
      have small : number / 10 < 10 := by omega
      have fine : number % 10 < 10 := by omega
      have parts := Nat.div_add_mod number 10
      by_cases large : 10 ≤ number
      · have read := pair_reads (plainDigit_takes 1 1 small (by omega))
          (plainDigit_takes 0 2 fine (by omega))
        rw [parts] at read
        apply read.orElse
        apply Lags.orElse
        · exact (plainDigit_fails small (by omega) _).pair.lags
        · exact plainDigit_lags 1 9 small fine
      · have read := pair_reads (plainDigit_takes 0 0 small (by omega))
          (plainDigit_takes 1 9 fine (by omega))
        rw [parts] at read
        apply (plainDigit_fails small (by omega) _).pair.orElse_reads
        exact read.orElse (plainDigit_lags 1 9 small fine)

theorem spaced_fails (small : tens < 10) (more : List Char) :
    Fails (andThen (exactly ' ') fun _ => plainDigit 1 9) (Nat.digitChar tens :: more) :=
  fun rest _ => andThen_of_unread _ (exactly_figure rfl small (more ++ rest))

theorem day_reads (bounds : 1 ≤ number ∧ number ≤ 31) (figures : Figures number text) :
    Reads dayReading text number := by
  cases figures with
  | single small =>
      have none := plainDigit_fails_end 0 1 (by omega)
      have noUnits := plainDigit_fails_end 1 9 (by omega)
      apply (none.pair_behind 3 3 small).orElse_reads
      apply (digit_fails.pair_behind 1 2 small).orElse_reads
      apply (noUnits.pair_behind 0 0 small).orElse_reads
      apply Reads.orElse
      · exact reads_of_only fun rest _ => plainDigit_takes 1 9 small (by omega) rest
      · exact (spaced_fails small []).lags
  | double =>
      have small : number / 10 < 10 := by omega
      have fine : number % 10 < 10 := by omega
      have parts := Nat.div_add_mod number 10
      have short : Lags (orElse (plainDigit 1 9) (andThen (exactly ' ') fun _ => plainDigit 1 9))
          (twoDigits number) :=
        (plainDigit_lags 1 9 small fine).orElse (spaced_fails small _).lags
      have unpadded (large : 10 ≤ number) :
          Fails (pair (plainDigit 0 0) (plainDigit 1 9)) (twoDigits number) :=
        (plainDigit_fails small (by omega) _).pair
      have early (less : number < 30) :
          Fails (pair (plainDigit 3 3) (plainDigit 0 1)) (twoDigits number) :=
        (plainDigit_fails small (by omega) _).pair
      by_cases late : 30 ≤ number
      · have read := pair_reads (plainDigit_takes 3 3 small (by omega))
          (plainDigit_takes 0 1 fine (by omega))
        rw [parts] at read
        apply read.orElse
        apply Lags.orElse
        · exact (plainDigit_fails small (by omega) _).pair.lags
        · exact (unpadded (by omega)).lags.orElse short
      by_cases large : 10 ≤ number
      · have read := pair_reads (plainDigit_takes 1 2 small (by omega))
          (digit_figure fine)
        rw [parts] at read
        apply (early (by omega)).orElse_reads
        apply read.orElse
        exact (unpadded large).lags.orElse short
      · have read := pair_reads (plainDigit_takes 0 0 small (by omega))
          (plainDigit_takes 1 9 fine (by omega))
        rw [parts] at read
        apply (early (by omega)).orElse_reads
        apply Fails.orElse_reads
        · exact (plainDigit_fails small (by omega) _).pair
        · exact read.orElse short

theorem minute_reads (number_lt : number < 60) : Reads minuteReading (twoDigits number) number := by
  have small : number / 10 < 10 := by omega
  have fine : number % 10 < 10 := by omega
  have read := pair_reads (plainDigit_takes 0 5 small (by omega))
    (digit_figure fine)
  rw [Nat.div_add_mod number 10] at read
  exact read.orElse (digit_lags small fine)

theorem second_reads (number_lt : number < 60) : Reads secondReading (twoDigits number) number := by
  have small : number / 10 < 10 := by omega
  apply Fails.orElse_reads
  · exact (plainDigit_fails small (by omega) _).pair
  · exact minute_reads number_lt

/-- Where a digit would stop it, what is expected next leaves only the best way. -/
theorem Reads.settles {α : Type} {next : Nat → Reading α} (reads : Reads first text number)
    (refuses : ∀ found figure more, figure < 10 → next found (Nat.digitChar figure :: more) = [])
    {rest : List Char} (stops : Stops rest) :
    andThen first next (text ++ rest) = next number rest := by
  obtain ⟨others, read, short⟩ := reads rest stops
  have refused : (others.flatMap fun way => next way.1 way.2) = [] := by
    rw [List.flatMap_eq_nil_iff]
    intro way member
    obtain ⟨figure, more, small, shape⟩ := short way member
    rw [shape]
    exact refuses way.1 figure more small
  rw [Reading.andThen, read]
  exact (congrArg (next number rest ++ ·) refused).trans (List.append_nil _)

end Ways

section Steps

open Reading

variable {α : Type} {rest : List Char}

theorem andThen_exactly (expected : Char) (next : Char → Reading α) (rest : List Char) :
    andThen (exactly expected) next (expected :: rest) = next expected rest := by
  apply andThen_of_single
  rw [exactly, character, if_pos (by simp)]

/-- A number is read up to the separator that is expected behind it. -/
theorem Reads.separated {reading : Reading Nat} {text : List Char} {number : Nat}
    (reads : Reads reading text number) {separator : Char}
    (other : Text.isDigit separator = false) (next : Nat → Reading α) (rest : List Char) :
    andThen reading (fun found => andThen (exactly separator) fun _ => next found)
      (text ++ separator :: rest) = next number rest := by
  have stops : Stops (separator :: rest) := by
    rintro first ⟨⟩
    exact other
  rw [reads.settles _ stops, andThen_exactly]
  intro found figure more small
  exact andThen_of_unread _ (exactly_figure other small more)

theorem pair_digits {number : Nat} (number_lt : number < 100) (rest : List Char) :
    pair digit digit (twoDigits number ++ rest) = [(number, rest)] := by
  have tens := digit_figure (by omega : number / 10 < 10)
    (Nat.digitChar (number % 10) :: rest)
  have units := digit_figure (by omega : number % 10 < 10) rest
  have read := (andThen_of_single (fun ten => andThen digit fun unit => done (10 * ten + unit))
    tens).trans (andThen_of_single _ units)
  rw [Nat.div_add_mod] at read
  exact read

theorem year_read {year : Nat} (bound : year ≤ 9999) (rest : List Char) :
    yearReading (fourDigits year ++ rest) = [(year, rest)] := by
  have century := pair_digits (by omega : year / 100 < 100) (twoDigits (year % 100) ++ rest)
  have years := pair_digits (by omega : year % 100 < 100) rest
  have read := (andThen_of_single (fun century => andThen (pair digit digit) fun year =>
    done (100 * century + year)) century).trans (andThen_of_single _ years)
  rw [Nat.div_add_mod] at read
  rw [fourDigits, List.append_assoc]
  exact read

/-- A year has four digits, so it is not read from one or two with another character behind them. -/
theorem year_unread {number : Nat} {text : List Char} (number_lt : number < 100)
    (figures : Figures number text) (stops : Stops rest) : yearReading (text ++ rest) = [] := by
  cases figures with
  | single small =>
      apply andThen_of_unread
      exact (andThen_of_single _ (digit_figure small rest)).trans
        (andThen_of_unread _ (digit_of_stops stops))
  | double =>
      exact (andThen_of_single _ (pair_digits number_lt rest)).trans
        (andThen_of_unread _ (andThen_of_unread _ (digit_of_stops stops)))

theorem blanks_unread {first : Char} (visible : Text.isBlank first = false) (more : List Char) :
    blanksReading (first :: more) = [] := by
  rw [blanksReading, List.takeWhile_cons_of_neg (by simp [visible])]
  rfl

theorem blanks_read {first : Char} (visible : Text.isBlank first = false) (more : List Char) :
    blanksReading (' ' :: first :: more) = [((), first :: more)] := by
  have run : (' ' :: first :: more).takeWhile Text.isBlank = [' '] := by
    rw [List.takeWhile_cons_of_pos rfl, List.takeWhile_cons_of_neg (by simp [visible])]
  rw [blanksReading, run]
  rfl

theorem isDigit_figure {value : Nat} (small : value < 10) :
    Text.isDigit (Nat.digitChar value) = true := by
  rw [Text.isDigit, digitValue_figure small]
  rfl

theorem Figures.exists_first {number : Nat} {text : List Char} (number_lt : number < 100)
    (figures : Figures number text) :
    ∃ first more, text = first :: more ∧ Text.isDigit first = true := by
  cases figures with
  | single small => exact ⟨_, _, rfl, isDigit_figure small⟩
  | double => exact ⟨_, _, rfl, isDigit_figure (by omega)⟩

theorem half_read {first last : Char} (half : first ∈ ['a', 'A', 'p', 'P'])
    (meridiem : last ∈ ['m', 'M']) : halfReading [first, last] = [((), [])] := by
  simp only [List.mem_cons, List.not_mem_nil, or_false] at half meridiem
  obtain rfl | rfl | rfl | rfl := half
  all_goals
    obtain rfl | rfl := meridiem
    · rfl
    · rfl

end Steps

section Reading

open Reading

variable {date : Date} {month day rest : List Char}

theorem slash_read (gregorian : Gregorian date) (months : Figures date.month month)
    (days : Figures date.day day) (rest : List Char) :
    slashReading (month ++ '/' :: (day ++ '/' :: (fourDigits date.year ++ rest))) =
      [(date, rest)] := by
  have dayBounds : 1 ≤ date.day ∧ date.day ≤ 31 := ⟨gregorian.positive, gregorian.day_le⟩
  have monthRead := month_reads gregorian.month_bounds months
  have dayRead := day_reads dayBounds days
  have yearRead := year_read gregorian.year_bounds.2 rest
  calc slashReading (month ++ '/' :: (day ++ '/' :: (fourDigits date.year ++ rest)))
      = andThen dayReading (fun day => andThen (exactly '/') fun _ => andThen yearReading
          fun year => done ⟨year, date.month, day⟩)
          (day ++ '/' :: (fourDigits date.year ++ rest)) :=
        monthRead.separated rfl _ _
    _ = andThen yearReading (fun year => done ⟨year, date.month, date.day⟩)
          (fourDigits date.year ++ rest) := dayRead.separated rfl _ _
    _ = [(date, rest)] := andThen_of_single _ yearRead

theorem second_read (date : Date) {second : Nat} {first last : Char} (second_lt : second < 60)
    (half : first ∈ ['a', 'A', 'p', 'P']) (meridiem : last ∈ ['m', 'M']) :
    andThen secondReading (fun second => andThen blanksReading fun _ => andThen halfReading fun _ =>
        done (if second ≤ 59 then some date else none)) (twoDigits second ++ [' ', first, last]) =
      [(some date, [])] := by
  have visible : Text.isBlank first = false := by
    simp only [List.mem_cons, List.not_mem_nil, or_false] at half
    obtain rfl | rfl | rfl | rfl := half
    all_goals rfl
  have stops : Stops [' ', first, last] := by
    rintro next ⟨⟩
    rfl
  rw [(second_reads second_lt).settles _ stops]
  · rw [andThen_of_single _ (blanks_read visible [last]),
      andThen_of_single _ (half_read half meridiem), if_pos (by omega)]
    rfl
  · intro found figure more small
    exact andThen_of_unread _
      (blanks_unread (Text.not_blank_of_digit (isDigit_figure small)) more)

/-- A date with a time on a clock is read in one way. -/
theorem clock_read (gregorian : Gregorian date) (months : Figures date.month month)
    (days : Figures date.day day) {time : List Char} (clock : Clock time) :
    clockReading (month ++ '/' :: (day ++ '/' :: (fourDigits date.year ++ ' ' :: time))) =
      [(some date, [])] := by
  cases clock with
  | @reading hour minute second hours first last hour_lt minute_lt second_lt figures half
      meridiem =>
      have hourBounds : 1 ≤ twelveHours hour ∧ twelveHours hour ≤ 12 := by
        unfold twelveHours
        split
        · omega
        · omega
      have hourRead := month_reads hourBounds figures
      obtain ⟨lead, more, shape, digital⟩ := figures.exists_first (by omega)
      have either : first ∈ ['a', 'A', 'p', 'P'] := by
        split at half
        · exact List.mem_append_left ['p', 'P'] half
        · exact List.mem_append_right ['a', 'A'] half
      have begun := andThen_of_single (fun date => andThen blanksReading fun _ =>
        andThen monthReading fun _ => andThen (exactly ':') fun _ =>
          andThen minuteReading fun _ => andThen (exactly ':') fun _ =>
            andThen secondReading fun second => andThen blanksReading fun _ =>
              andThen halfReading fun _ => done (if second ≤ 59 then some date else none))
        (slash_read gregorian months days (' ' :: (hours ++ ':' :: (twoDigits minute ++
          ':' :: (twoDigits second ++ [' ', first, last])))))
      apply begun.trans
      have spaced := blanks_read (Text.not_blank_of_digit digital)
        (more ++ ':' :: (twoDigits minute ++ ':' :: (twoDigits second ++ [' ', first, last])))
      rw [← List.cons_append, ← shape] at spaced
      have minuteRead := minute_reads minute_lt
      rw [andThen_of_single _ spaced, hourRead.separated rfl, minuteRead.separated rfl]
      exact second_read date second_lt either meridiem

theorem dashed_read (gregorian : Gregorian date) : ∃ others,
    isoReading (fourDigits date.year ++
      '-' :: (twoDigits date.month ++ '-' :: twoDigits date.day)) =
        (some date, []) :: others := by
  have dayBounds : 1 ≤ date.day ∧ date.day ≤ 31 := ⟨gregorian.positive, gregorian.day_le⟩
  have monthRead := month_reads gregorian.month_bounds (.double date.month)
  obtain ⟨others, dayRead, -⟩ := day_reads dayBounds (.double date.day) [] nofun
  rw [List.append_nil] at dayRead
  refine ⟨others.map fun way => (some ⟨date.year, date.month, way.1⟩, way.2), ?_⟩
  rw [isoReading, andThen_of_single _ (year_read gregorian.year_bounds.2 _), andThen_exactly,
    monthRead.separated rfl, andThen, dayRead, List.map_eq_flatMap]
  rfl

end Reading

section Texts

variable {date : Date} {text : List Char}

theorem ofBest_of_first {reading : Reading (Option Date)} {others : List (Option Date × List Char)}
    (gregorian : Gregorian date) (read : reading text = (some date, []) :: others) :
    ofBest? reading text = some date := by
  rw [ofBest?, read]
  exact if_pos (isValid_iff.mpr gregorian)

theorem ofBest_of_unread {reading : Reading (Option Date)} (unread : reading text = []) :
    ofBest? reading text = none := by
  rw [ofBest?, unread]

theorem gregorian_of_best {reading : Reading (Option Date)}
    (read : ofBest? reading text = some date) : Gregorian date := by
  rw [ofBest?] at read
  split at read
  · rw [Option.ite_none_right_eq_some, Option.some_inj] at read
    obtain ⟨valid, rfl⟩ := read
    exact isValid_iff.mp valid
  · cases read

theorem dashed_unread {month : Nat} {figures rest : List Char} (month_le : month ≤ 12)
    (written : Figures month figures) : isoReading (figures ++ '/' :: rest) = [] := by
  apply andThen_of_unread
  apply year_unread (by omega) written
  rintro next ⟨⟩
  rfl

/-- Every form of a day gives the day, since the forms tried before it do not read it. -/
theorem ofText_of_form (gregorian : Gregorian date) (form : Form date text) :
    ofText? text = some date := by
  have month_le := gregorian.month_bounds.2
  cases form with
  | dashed =>
      obtain ⟨others, read⟩ := dashed_read gregorian
      rw [ofText?, ofBest_of_first gregorian read]
      rfl
  | slashed months days =>
      have slash := slash_read gregorian months days []
      have whole := andThen_of_single (fun date => Reading.done (some date)) slash
      have clock : clockReading _ = [] := (andThen_of_single _ slash).trans rfl
      rw [List.append_nil] at slash whole clock
      rw [ofText?, ofBest_of_unread (dashed_unread month_le months), ofBest_of_unread clock,
        ofBest_of_first gregorian whole]
      rfl
  | clocked months days clock =>
      rw [ofText?, ofBest_of_unread (dashed_unread month_le months),
        ofBest_of_first gregorian (clock_read gregorian months days clock)]
      rfl

theorem gregorian_of_text (read : ofText? text = some date) : Gregorian date := by
  simp only [ofText?, Option.orElse_eq_orElse, Option.orElse_eq_or, Option.or_eq_some_iff] at read
  obtain dashed | ⟨-, clocked | ⟨-, slashed⟩⟩ := read
  · exact gregorian_of_best dashed
  · exact gregorian_of_best clocked
  · exact gregorian_of_best slashed

theorem not_blank_of_figure {value : Nat} (small : value < 10) :
    Text.isBlank (Nat.digitChar value) = false :=
  Text.not_blank_of_digit (isDigit_figure small)

theorem Form.begins (gregorian : Gregorian date) (form : Form date text) :
    ∃ first more, text = first :: more ∧ Text.isBlank first = false := by
  have month_le := gregorian.month_bounds.2
  have year_le := gregorian.year_bounds.2
  cases form with
  | dashed => exact ⟨_, _, rfl, not_blank_of_figure (by omega)⟩
  | slashed months days =>
      obtain ⟨first, more, rfl, digital⟩ := months.exists_first (by omega)
      exact ⟨first, _, rfl, Text.not_blank_of_digit digital⟩
  | clocked months days clock =>
      obtain ⟨first, more, rfl, digital⟩ := months.exists_first (by omega)
      exact ⟨first, _, rfl, Text.not_blank_of_digit digital⟩

theorem Form.ends (gregorian : Gregorian date) (form : Form date text) :
    ∃ last, text.getLast? = some last ∧ Text.isBlank last = false := by
  have day_le := gregorian.day_le
  cases form with
  | dashed =>
      refine ⟨_, ?_, not_blank_of_figure (by omega : date.day % 10 < 10)⟩
      simp [twoDigits, List.getLast?_append, List.getLast?_cons]
  | slashed months days =>
      refine ⟨_, ?_, not_blank_of_figure (by omega : date.year % 100 % 10 < 10)⟩
      simp [fourDigits, twoDigits, List.getLast?_append, List.getLast?_cons]
  | clocked months days clock =>
      cases clock with
      | @reading hour minute second hours first last _ _ _ _ _ meridiem =>
          refine ⟨last, ?_, ?_⟩
          · simp [List.getLast?_append, List.getLast?_cons]
          · simp only [List.mem_cons, List.not_mem_nil, or_false] at meridiem
            obtain rfl | rfl := meridiem
            · rfl
            · rfl

theorem ofJson_of_form (gregorian : Gregorian date) (form : Form date text)
    {before : List Char} (leading : Text.AllBlank before) {behind : List Char}
    (trailing : Text.AllBlank behind) :
    ofJson? (.str (String.ofList (before ++ (text ++ behind)))) = some date := by
  obtain ⟨first, more, begun, visible⟩ := form.begins gregorian
  obtain ⟨last, ended, seen⟩ := form.ends gregorian
  have framed : Text.isFramed text = true := by
    rw [Text.isFramed, ended, begun]
    simp [visible, seen]
  have trimmed : Text.trim (before ++ (text ++ behind)) = text :=
    Text.trim_eq_iff.mpr ⟨⟨before, behind, leading, trailing, rfl⟩, .inr framed⟩
  have inhabited : String.ofList (before ++ (text ++ behind)) ≠ "" := by
    intro empty
    have none := congrArg String.toList empty
    rw [String.toList_ofList, begun] at none
    simp at none
  rw [ofJson?, Json.isPresent, if_pos (by simpa using inhabited), Json.text, String.toList_ofList,
    trimmed]
  exact ofText_of_form gregorian form

end Texts

section Iso

theorem field_one {value : Nat} (small : value < 10) : field 1 value = [Nat.digitChar value] := by
  rw [field, Nat.toDigits_of_lt_base small]
  rfl

theorem field_succ {width : Nat} (positive : 0 < width) (value : Nat) :
    field (width + 1) value = field width (value / 10) ++ [Nat.digitChar (value % 10)] := by
  by_cases small : value < 10
  · have none : value / 10 = 0 := by omega
    have same : value % 10 = value := by omega
    rw [field, field, none, same, Nat.toDigits_of_lt_base small, Nat.toDigits_zero]
    obtain ⟨less, rfl⟩ : ∃ less, width = less + 1 := ⟨width - 1, by omega⟩
    simp [List.replicate_succ']
  · have parted : Nat.toDigits 10 value =
        Nat.toDigits 10 (value / 10) ++ [Nat.digitChar (value % 10)] := by
      rw [Nat.toDigits_eq_if (by omega), if_neg small]
    rw [field, field, parted]
    simp

theorem field_two {value : Nat} (bound : value < 100) : field 2 value = twoDigits value := by
  rw [field_succ Nat.one_pos, field_one (by omega)]
  rfl

theorem field_four {value : Nat} (bound : value < 10000) : field 4 value = fourDigits value := by
  have hundreds : value / 10 / 10 = value / 100 := by omega
  have tens : value % 100 / 10 = value / 10 % 10 := by omega
  have units : value % 100 % 10 = value % 10 := by omega
  rw [field_succ (by omega), field_succ (by omega), field_two (by omega), hundreds, fourDigits,
    twoDigits, twoDigits, tens, units]
  rfl

theorem iso_form {date : Date} (gregorian : Gregorian date) : Form date date.iso.toList := by
  have year_le := gregorian.year_bounds.2
  have month_le := gregorian.month_bounds.2
  have day_le := gregorian.day_le
  rw [iso, field_four (by omega), field_two (by omega), field_two (by omega), String.toList_ofList]
  simp only [List.append_assoc, List.singleton_append]
  exact .dashed

end Iso

/-- Every form of a day of the calendar, with any blanks around it, is read as the day. What is read
as a date is a day of the calendar, and its written form is read as the same day. -/
theorem dates_read_back :
    (∀ date text before behind, Gregorian date → Form date text → Text.AllBlank before →
      Text.AllBlank behind →
      ofJson? (.str (String.ofList (before ++ (text ++ behind)))) = some date) ∧
    ∀ value date, ofJson? value = some date →
      Gregorian date ∧ ofJson? (.str date.iso) = some date := by
  constructor
  · intro date text before behind gregorian form leading trailing
    exact ofJson_of_form gregorian form leading trailing
  · intro value date read
    rw [ofJson?] at read
    split at read
    · have gregorian := gregorian_of_text read
      have unblank : Text.AllBlank [] := nofun
      have again := ofJson_of_form gregorian (iso_form gregorian) unblank unblank
      rw [List.nil_append, List.append_nil, String.ofList_toList] at again
      exact ⟨gregorian, again⟩
    · cases read

theorem leap_day_read_back :
    ofJson? (.str "\t2/29/2024 12:30:00 pM\n") = some ⟨2024, 2, 29⟩ := by
  have gregorian : Gregorian ⟨2024, 2, 29⟩ :=
    ⟨by decide, by decide, by decide, .inr ⟨rfl, ⟨by decide, by decide⟩, rfl⟩⟩
  have clock : Clock (['1', '2'] ++ ':' :: (twoDigits 30 ++ ':' :: (twoDigits 0 ++
      [' ', 'p', 'M']))) :=
    .reading (by decide : 12 < 24) (by decide) (by decide) (.double 12) (by decide) (by decide)
  have form : Form ⟨2024, 2, 29⟩ _ := .clocked (.single (by decide)) (.double 29) clock
  have leading : Text.AllBlank ['\t'] := List.forall_mem_singleton.mpr rfl
  have trailing : Text.AllBlank ['\n'] := List.forall_mem_singleton.mpr rfl
  exact dates_read_back.1 _ _ _ _ gregorian form leading trailing

/-- No leap day in a year of a full century. -/
example : ofJson? (.str "1900-02-29") = none := by decide +kernel

end FleetPatch.Date
