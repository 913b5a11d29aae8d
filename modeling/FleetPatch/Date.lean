import FleetPatch.Json.Text
import FleetPatch.Text.Blank
import FleetPatch.Text.Digit

/-!
# Calendar dates

Installation dates arrive as `year-month-day`, or as `month/day/year` with or
without a time on a twelve hour clock. A reading is the list of all ways to read
a beginning of a text, best first; only the best way counts, and it has to use
the whole text and name a day of the Gregorian calendar.
-/

namespace FleetPatch

set_option autoImplicit false

structure Date where
  year : Nat
  month : Nat
  day : Nat
  deriving Repr, DecidableEq

namespace Date

def isLeapYear (year : Nat) : Bool :=
  year % 4 == 0 && (year % 100 != 0 || year % 400 == 0)

def daysInMonth (year month : Nat) : Nat :=
  if month = 2 then if isLeapYear year then 29 else 28
  else if month = 4 ∨ month = 6 ∨ month = 9 ∨ month = 11 then 30
  else 31

/-- Days of the Gregorian calendar from year 1 to year 9999. -/
def isValid (date : Date) : Bool :=
  1 ≤ date.year && date.year ≤ 9999 && 1 ≤ date.month && date.month ≤ 12 && 1 ≤ date.day &&
    date.day ≤ daysInMonth date.year date.month

def before (left right : Date) : Bool :=
  left.year < right.year || (left.year == right.year && (left.month < right.month ||
    (left.month == right.month && left.day < right.day)))

def field (width value : Nat) : List Char :=
  let digits := Nat.toDigits 10 value
  List.replicate (width - digits.length) '0' ++ digits

/-- The form `year-month-day`, with four, two and two digits. -/
def iso (date : Date) : String :=
  String.ofList (field 4 date.year ++ ['-'] ++ field 2 date.month ++ ['-'] ++ field 2 date.day)

/-- All ways to read a beginning of a text, best first, each with what follows. -/
def Reading (α : Type) : Type := List Char → List (α × List Char)

namespace Reading

variable {α β : Type}

def andThen (first : Reading α) (next : α → Reading β) : Reading β := fun text =>
  (first text).flatMap fun (value, rest) => next value rest

def orElse (first second : Reading α) : Reading α := fun text => first text ++ second text

def done (value : α) : Reading α := fun text => [(value, text)]

def character (accept : Char → Bool) : Reading Char
  | found :: rest => if accept found then [(found, rest)] else []
  | [] => []

def exactly (expected : Char) : Reading Char := character (· == expected)

/-- Reads a digit of any script as a number. -/
def digit : Reading Nat
  | found :: rest =>
      match Text.digitValue? found with
      | some value => [(value, rest)]
      | none => []
  | [] => []

def plainDigit (low high : Nat) : Reading Nat
  | found :: rest =>
      let value := found.toNat - 48
      if 48 ≤ found.toNat ∧ low ≤ value ∧ value ≤ high then [(value, rest)] else []
  | [] => []

def pair (tens units : Reading Nat) : Reading Nat :=
  andThen tens fun ten => andThen units fun unit => done (10 * ten + unit)

end Reading

open Reading

def yearReading : Reading Nat :=
  andThen (pair digit digit) fun century =>
    andThen (pair digit digit) fun year => done (100 * century + year)

/-- Months 10 to 12, or with a zero in front, or one digit. -/
def monthReading : Reading Nat :=
  orElse (pair (plainDigit 1 1) (plainDigit 0 2))
    (orElse (pair (plainDigit 0 0) (plainDigit 1 9)) (plainDigit 1 9))

/-- Days 30 and 31, 10 to 29, with a zero in front, one digit, or one digit behind a space. -/
def dayReading : Reading Nat :=
  orElse (pair (plainDigit 3 3) (plainDigit 0 1))
    (orElse (pair (plainDigit 1 2) digit)
      (orElse (pair (plainDigit 0 0) (plainDigit 1 9))
        (orElse (plainDigit 1 9) (andThen (exactly ' ') fun _ => plainDigit 1 9))))

def minuteReading : Reading Nat := orElse (pair (plainDigit 0 5) digit) digit

/-- Seconds as minutes; 60 and 61 can be written but name no second. -/
def secondReading : Reading Nat :=
  orElse (pair (plainDigit 6 6) (plainDigit 0 1)) minuteReading

/-- One blank or more, the longest run first. -/
def blanksReading : Reading Unit := fun text =>
  let run := text.takeWhile Text.isBlank
  (List.range run.length).map fun left => ((), text.drop (run.length - left))

def halfReading : Reading Unit :=
  andThen (character fun found => found == 'a' || found == 'A' || found == 'p' || found == 'P')
    fun _ => andThen (character fun found => found == 'm' || found == 'M') fun _ => done ()

def isoReading : Reading (Option Date) :=
  andThen yearReading fun year => andThen (exactly '-') fun _ =>
    andThen monthReading fun month => andThen (exactly '-') fun _ =>
      andThen dayReading fun day => done (some ⟨year, month, day⟩)

def slashReading : Reading Date :=
  andThen monthReading fun month => andThen (exactly '/') fun _ =>
    andThen dayReading fun day => andThen (exactly '/') fun _ =>
      andThen yearReading fun year => done ⟨year, month, day⟩

/-- `month/day/year hour:minute:second half`; a second beyond 59 gives no date. -/
def clockReading : Reading (Option Date) :=
  andThen slashReading fun date => andThen blanksReading fun _ =>
    andThen monthReading fun _ => andThen (exactly ':') fun _ =>
      andThen minuteReading fun _ => andThen (exactly ':') fun _ =>
        andThen secondReading fun second => andThen blanksReading fun _ =>
          andThen halfReading fun _ => done (if second ≤ 59 then some date else none)

/-- The date of the best way to read a text, if that way uses all of it and the date is valid. -/
def ofBest? (reading : Reading (Option Date)) (text : List Char) : Option Date :=
  match reading text with
  | (some date, []) :: _ => if date.isValid then some date else none
  | _ => none

def ofText? (text : List Char) : Option Date :=
  ofBest? isoReading text <|> ofBest? clockReading text <|>
    ofBest? (fun text => andThen slashReading (fun date => done (some date)) text) text

/-- The date of a value: none when it does not count as present, is blank, or is no date. -/
def ofJson? (value : Json) : Option Date :=
  if value.isPresent then ofText? (Text.trim value.text.toList) else none

end Date

end FleetPatch
