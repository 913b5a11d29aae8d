import Mathlib.Algebra.Order.Field.Rat
import Mathlib.Algebra.Order.Field.Power
import FleetPatch.Proofs.Outputs
import FleetPatch.Proofs.Words

/-!
# What a value converts to

A truth value converts to one or zero, a number to what remains when its fraction is cut off,
and a text to the integer it writes: a sign, which may be absent, and digits, between any two
of which one underscore may stand. Nothing else converts to an integer, and an infinite number
is no integer at all.
-/

namespace FleetPatch

set_option autoImplicit false

namespace Text

/-- Digits, between any two of which one underscore may stand, and the digits alone. -/
inductive Grouped : List Char → List Char → Prop where
  | last {digit : Char} (spelled : isDigit digit = true) : Grouped [digit] [digit]
  | next {digit : Char} {text digits : List Char} (spelled : isDigit digit = true)
      (rest : Grouped text digits) : Grouped (digit :: text) (digit :: digits)
  | apart {digit : Char} {text digits : List Char} (spelled : isDigit digit = true)
      (rest : Grouped text digits) : Grouped (digit :: '_' :: text) (digit :: digits)

theorem Grouped.exists_first {text digits : List Char} (grouped : Grouped text digits) :
    ∃ first rest, text = first :: rest ∧ isDigit first = true := by
  cases grouped with
  | last spelled => exact ⟨_, _, rfl, spelled⟩
  | next spelled _ => exact ⟨_, _, rfl, spelled⟩
  | apart spelled _ => exact ⟨_, _, rfl, spelled⟩

theorem Grouped.exists_last {text digits : List Char} (grouped : Grouped text digits) :
    ∃ body last, text = body ++ [last] ∧ isDigit last = true := by
  induction grouped with
  | last spelled => exact ⟨[], _, rfl, spelled⟩
  | next _ _ ih =>
      obtain ⟨body, last, rfl, spelled⟩ := ih
      exact ⟨_ :: body, last, rfl, spelled⟩
  | apart _ _ ih =>
      obtain ⟨body, last, rfl, spelled⟩ := ih
      exact ⟨_ :: '_' :: body, last, rfl, spelled⟩

inductive Continues : List Char → List Char → Prop where
  | done : Continues [] []
  | digits {text digits : List Char} (rest : Grouped text digits) : Continues text digits
  | apart {text digits : List Char} (rest : Grouped text digits) : Continues ('_' :: text) digits

theorem grouped_cons_iff {digit : Char} {text digits : List Char} (spelled : isDigit digit = true) :
    Grouped (digit :: text) digits ↔ ∃ rest, digits = digit :: rest ∧ Continues text rest := by
  constructor
  · intro grouped
    cases grouped with
    | last => exact ⟨_, rfl, .done⟩
    | next _ rest => exact ⟨_, rfl, .digits rest⟩
    | apart _ rest => exact ⟨_, rfl, .apart rest⟩
  · rintro ⟨rest, rfl, continues⟩
    cases continues with
    | done => exact .last spelled
    | digits rest => exact .next spelled rest
    | apart rest => exact .apart spelled rest

/-- Both readings at once, since each of them goes on with the other. -/
theorem groupedDigits_eq_some_iff (text : List Char) : ∀ digits,
    (groupedDigits? true text = some digits ↔ Grouped text digits) ∧
      (groupedDigits? false text = some digits ↔ Continues text digits) := by
  induction text with
  | nil =>
      refine fun digits => ⟨iff_of_false nofun nofun, ?_⟩
      constructor
      · rintro ⟨⟩
        exact .done
      · rintro (_ | ⟨⟨⟩⟩)
        rfl
  | cons first text ih =>
      intro digits
      by_cases spelled : isDigit first = true
      · have read (needed : Bool) : groupedDigits? needed (first :: text) = some digits ↔
            Grouped (first :: text) digits := by
          simp only [groupedDigits?, if_pos spelled, Option.map_eq_some_iff, (ih _).2,
            grouped_cons_iff spelled, eq_comm (a := digits), and_comm]
        refine ⟨read true, (read false).trans ⟨.digits, ?_⟩⟩
        rintro (_ | grouped | _)
        · exact grouped
        · cases spelled
      · have unspelled : ¬ Grouped (first :: text) digits := by
          intro grouped
          obtain ⟨_, _, ⟨⟩, digit⟩ := grouped.exists_first
          exact spelled digit
        refine ⟨iff_of_false ?_ unspelled, ?_⟩
        · simp [groupedDigits?, spelled]
        · by_cases apart : first = '_'
          · subst apart
            simp only [groupedDigits?, if_neg spelled, Bool.not_false, Bool.and_true,
              decide_true, if_true, (ih _).1]
            refine ⟨.apart, ?_⟩
            rintro (_ | grouped | rest)
            · exact absurd grouped unspelled
            · exact rest
          · refine iff_of_false (by simp [groupedDigits?, spelled, apart]) ?_
            rintro (_ | grouped | _)
            · exact unspelled grouped
            · exact apart rfl

inductive Sign : List Char → Bool → Prop where
  | absent : Sign [] false
  | plus : Sign ['+'] false
  | minus : Sign ['-'] true

structure Numeral where
  before : List Char
  sign : List Char
  negative : Bool
  body : List Char
  digits : List Char
  behind : List Char
  before_margin : ∀ character ∈ before, isMargin character = true
  signed : Sign sign negative
  grouped : Grouped body digits
  readable : digits.length ≤ digitLimit
  behind_margin : ∀ character ∈ behind, isMargin character = true

namespace Numeral

def characters (numeral : Numeral) : List Char :=
  numeral.before ++ (numeral.sign ++ numeral.body ++ numeral.behind)

def value (numeral : Numeral) : Int :=
  if numeral.negative then -(digitsValue numeral.digits : Int) else digitsValue numeral.digits

end Numeral

theorem not_margin_of_digit {character : Char} (digit : isDigit character = true) :
    isMargin character = false := by
  rw [isMargin, Text.not_blank_of_digit digit, Bool.false_and]

theorem Grouped.framed {sign body digits : List Char} {negative : Bool}
    (signed : Sign sign negative) (grouped : Grouped body digits) :
    (∃ first, (sign ++ body).head? = some first ∧ isMargin first = false) ∧
      ∃ last, (sign ++ body).getLast? = some last ∧ isMargin last = false := by
  obtain ⟨first, rest, begun, digit⟩ := grouped.exists_first
  obtain ⟨front, last, ended, final⟩ := grouped.exists_last
  refine ⟨?_, last, by simp [ended], not_margin_of_digit final⟩
  cases signed with
  | absent => exact ⟨first, by simp [begun], not_margin_of_digit digit⟩
  | plus => exact ⟨'+', rfl, by decide⟩
  | minus => exact ⟨'-', rfl, by decide⟩

def signOf : List Char → Bool × List Char
  | '-' :: rest => (true, rest)
  | '+' :: rest => (false, rest)
  | rest => (false, rest)

theorem signOf_signed {sign body digits : List Char} {negative : Bool}
    (signed : Sign sign negative) (grouped : Grouped body digits) :
    signOf (sign ++ body) = (negative, body) := by
  cases signed with
  | absent =>
      obtain ⟨first, rest, rfl, digit⟩ := grouped.exists_first
      have unsigned : first ≠ '-' ∧ first ≠ '+' := by
        constructor <;> rintro rfl <;> exact absurd digit (by decide)
      rw [List.nil_append, signOf]
      · exact fun _ begins => unsigned.1 (List.cons.inj begins).1
      · exact fun _ begins => unsigned.2 (List.cons.inj begins).1
  | plus => rfl
  | minus => rfl

theorem exists_sign (text : List Char) :
    ∃ sign, Sign sign (signOf text).1 ∧ text = sign ++ (signOf text).2 := by
  unfold signOf
  split
  · exact ⟨['-'], .minus, rfl⟩
  · exact ⟨['+'], .plus, rfl⟩
  · exact ⟨[], .absent, rfl⟩

/-- A text is read as an integer exactly if it is a numeral, and then as the numeral's value. -/
theorem integer_eq_some_iff {text : List Char} {value : Int} :
    integer? text = some value ↔
      ∃ numeral : Numeral, numeral.characters = text ∧ numeral.value = value := by
  have read : integer? text =
      (groupedDigits? true
        (signOf ((text.dropWhile isMargin).reverse.dropWhile isMargin).reverse).2).bind
        fun digits => if digitLimit < digits.length then none else
          some (if (signOf ((text.dropWhile isMargin).reverse.dropWhile isMargin).reverse).1
            then -(digitsValue digits : Int) else digitsValue digits) := rfl
  rw [read]
  constructor
  · intro given
    obtain ⟨digits, grouped, given⟩ := Option.bind_eq_some_iff.mp given
    rw [(groupedDigits_eq_some_iff _ digits).1] at grouped
    obtain ⟨before, behind, leading, trailing, shape⟩ := exists_around isMargin text
    obtain ⟨sign, signed, body⟩ :=
      exists_sign ((text.dropWhile isMargin).reverse.dropWhile isMargin).reverse
    split at given
    · cases given
    next readable =>
      rw [body] at shape
      exact ⟨⟨before, sign, _, _, digits, behind, leading, signed, grouped, by omega, trailing⟩,
        shape.symm, Option.some.inj given⟩
  · rintro ⟨numeral, rfl, rfl⟩
    obtain ⟨begun, ended⟩ := Grouped.framed numeral.signed numeral.grouped
    have cut := strip_around numeral.before_margin numeral.behind_margin begun ended
    have readable := numeral.readable
    rw [Numeral.characters, cut, signOf_signed numeral.signed numeral.grouped,
      (groupedDigits_eq_some_iff _ _).1.mpr numeral.grouped, Option.bind_some,
      if_neg (by omega)]
    rfl

example : integer? [' ', '-', '1', '_', '0', '\n'] = some (-10) := by decide

end Text

namespace Binary64

def Cuts (mantissa : Nat) (exponent : Int) (whole : Nat) : Prop :=
  (whole : Rat) ≤ mantissa * 2 ^ exponent ∧ (mantissa * 2 ^ exponent : Rat) < whole + 1

theorem ratio_pos (mantissa : Nat) (exponent : Int) : 0 < (ratio mantissa exponent).2 := by
  unfold ratio
  split
  · exact Nat.one_pos
  · exact Nat.pow_pos Nat.two_pos

theorem ratio_value (mantissa : Nat) (exponent : Int) :
    (mantissa * 2 ^ exponent : Rat) * (ratio mantissa exponent).2 =
      (ratio mantissa exponent).1 := by
  unfold ratio
  split
  next whole =>
      obtain ⟨power, rfl⟩ := Int.eq_ofNat_of_zero_le whole
      simp
  next negative =>
      obtain ⟨power, rfl⟩ : ∃ power : Nat, exponent = -power := ⟨(-exponent).toNat, by omega⟩
      simp

theorem cuts_iff {mantissa whole : Nat} {exponent : Int} :
    Cuts mantissa exponent whole ↔
      (ratio mantissa exponent).1 / (ratio mantissa exponent).2 = whole := by
  have positive := ratio_pos mantissa exponent
  have scale : (0 : Rat) < (ratio mantissa exponent).2 := by exact_mod_cast positive
  rw [Cuts, ← mul_le_mul_iff_left₀ scale, ← mul_lt_mul_iff_left₀ scale, ratio_value,
    Nat.div_eq_iff positive]
  norm_cast
  rw [Nat.add_mul]
  omega

end Binary64

namespace Json

inductive Converts : Json → Int → Prop where
  | no : Converts (.bool false) 0
  | yes : Converts (.bool true) 1
  | int (value : Int) : Converts (.int value) value
  | real {negative : Bool} {mantissa whole : Nat} {exponent : Int}
      (cuts : Binary64.Cuts mantissa exponent whole) :
      Converts (.real (.finite negative mantissa exponent)) (if negative then -whole else whole)
  | text {text : String} (numeral : Text.Numeral) (written : numeral.characters = text.toList) :
      Converts (.str text) numeral.value

theorem toInteger_eq_some_iff {value : Json} {integer : Int} :
    value.toInteger = .ok (some integer) ↔ Converts value integer := by
  constructor
  · intro given
    cases value with
    | bool value =>
        cases given
        cases value with
        | false => exact .no
        | true => exact .yes
    | int value =>
        cases given
        exact .int _
    | real number =>
        cases number with
        | finite negative mantissa exponent =>
            cases given
            exact .real (Binary64.cuts_iff.mpr rfl)
        | _ => cases given
    | str text =>
        obtain ⟨numeral, written, rfl⟩ := Text.integer_eq_some_iff.mp (Except.ok.inj given)
        exact .text numeral written
    | _ => cases given
  · intro converts
    cases converts with
    | no => rfl
    | yes => rfl
    | int value => rfl
    | real cuts =>
        rw [← Binary64.cuts_iff.mp cuts]
        rfl
    | text numeral written =>
        exact congrArg Except.ok (Text.integer_eq_some_iff.mpr ⟨numeral, written, rfl⟩)

theorem toInteger_eq_none_iff {value : Json} :
    value.toInteger = .ok none ↔ ¬ value.IsInfinite ∧ ∀ integer, ¬ Converts value integer := by
  rw [← crashes_toInteger_iff]
  simp only [← toInteger_eq_some_iff]
  cases given : value.toInteger with
  | error fault =>
      refine iff_of_false nofun fun ⟨passes, _⟩ => passes ⟨fault, rfl, ?_⟩
      exact neverTells_toInteger value fault given
  | ok converted =>
      cases converted with
      | none => exact iff_of_true rfl ⟨not_crashes_ok _, nofun⟩
      | some integer => exact iff_of_false nofun fun ⟨_, unconverted⟩ => unconverted integer rfl

/-- The integer that a value counts as: what it converts to, or a default for a value that converts
to nothing. -/
inductive Counts (default : Int) (value : Json) : Int → Prop where
  | converted {integer : Int} (converts : Converts value integer) : Counts default value integer
  | defaulted (finite : ¬ value.IsInfinite) (unconverted : ∀ integer, ¬ Converts value integer) :
      Counts default value default

theorem counts_iff {default integer : Int} {value : Json} :
    Counts default value integer ↔
      ∃ converted, value.toInteger = .ok converted ∧ converted.getD default = integer := by
  constructor
  · intro counts
    cases counts with
    | converted converts => exact ⟨some integer, toInteger_eq_some_iff.mpr converts, rfl⟩
    | defaulted finite unconverted =>
        exact ⟨none, toInteger_eq_none_iff.mpr ⟨finite, unconverted⟩, rfl⟩
  · rintro ⟨converted, given, rfl⟩
    cases converted with
    | none =>
        obtain ⟨finite, unconverted⟩ := toInteger_eq_none_iff.mp given
        exact .defaulted finite unconverted
    | some integer => exact .converted (toInteger_eq_some_iff.mp given)

theorem Counts.eq_iff {default integer other : Int} {value : Json}
    (counts : Counts default value integer) (different : other ≠ default) :
    integer = other ↔ Converts value other := by
  obtain ⟨converted, given, rfl⟩ := counts_iff.mp counts
  rw [← toInteger_eq_some_iff, given]
  cases converted with
  | none => exact iff_of_false (fun same => different same.symm) nofun
  | some integer =>
      constructor
      · rintro rfl
        rfl
      · exact fun same => Option.some.inj (Except.ok.inj same)

end Json

end FleetPatch
