import Mathlib.Tactic.SplitIfs
import Voucher.Instant
import Voucher.Proofs.Calendar
import Voucher.Proofs.Text.Digit

/-! The text of an instant is read back: the year with its sign, the leap second and the fraction in
as few digits as it needs. -/
namespace Voucher.Instant

open Text

/-- An instant within the years that instants can lie in. The second that nanoseconds beyond 10⁹
lead into is a leap second at the end of a minute. -/
structure Valid (t : Instant) : Prop where
  inRange : Calendar.inRange (Calendar.Date.ofDayNumber t.dayNumber).year
  nanos : t.nanos < 1000000000 ∨ t.nanos < 2000000000 ∧ t.seconds % 60 = 59

variable {ds : List (Fin 10)} {rest : List Char} {n width : Nat}

theorem isBlank_digitChar : ∀ d, isBlank (digitChar d) = false := by
  decide

theorem trimLeft_digits (some : ds ≠ []) (rest : List Char) :
    trimLeft (ds.map digitChar ++ rest) = ds.map digitChar ++ rest := by
  cases ds with
  | nil => contradiction
  | cons d ds => simp [trimLeft, isBlank_digitChar]

/-- The digits of a number with zeros in front. -/
def paddedDigits (width n : Nat) : List (Fin 10) :=
  List.replicate (width - (digits n).length) ⟨0, ten_pos⟩ ++ digits n

theorem padded_eq (width n : Nat) : padded width n = (paddedDigits width n).map digitChar := by
  have zero : digitChar ⟨0, ten_pos⟩ = '0' := rfl
  rw [padded, paddedDigits, List.map_append, List.map_replicate, zero, decimal_eq, List.length_map]

theorem numeral_zeros (k : Nat) (ds : List (Fin 10)) :
    numeral (List.replicate k ⟨0, ten_pos⟩ ++ ds) = numeral ds := by
  induction k with
  | zero => rfl
  | succ k ih =>
      rw [← ih]
      rfl

theorem numeral_padded (width n : Nat) : numeral (paddedDigits width n) = n := by
  rw [paddedDigits, numeral_zeros, numeral_digits]

theorem padded_ne_nil (width n : Nat) : paddedDigits width n ≠ [] := by
  simp [paddedDigits, digits_ne_nil]

theorem length_padded (positive : 0 < width) (fits : n < 10 ^ width) :
    (paddedDigits width n).length = width := by
  have length : (digits n).length = (decimal n).length := by rw [decimal_eq, List.length_map]
  have few : (digits n).length ≤ width :=
    length ▸ (Nat.length_toDigits_le_iff (by decide) positive).mpr fits
  simp only [paddedDigits, List.length_append, List.length_replicate]
  omega

namespace Reader

theorem number?_digits (some : ds ≠ []) (fits : ds.length ≤ width) (stops : Undigited rest) :
    number? width (ds.map digitChar ++ rest) = Option.some (numeral ds, rest) := by
  rw [number?, trimLeft_digits some]
  simp only [takeDigits_append ds stops, List.take_of_length_le fits]
  cases ds with
  | nil => contradiction
  | cons d ds => simp

theorem number?_padded (positive : 0 < width) (fits : n < 10 ^ width) (stops : Undigited rest) :
    number? width (padded width n ++ rest) = some (n, rest) := by
  rw [padded_eq, number?_digits (padded_ne_nil _ _) (length_padded positive fits).le stops,
    numeral_padded]

theorem mark?_self {c : Char} (visible : isBlank c = false) (rest : List Char) :
    mark? c (c :: rest) = some rest := by
  simp [mark?, trimLeft, visible]

theorem unsigned_digitChar : ∀ d, digitChar d ≠ '-' ∧ digitChar d ≠ '+' := by
  decide

/-- A year that starts with a digit has no sign. -/
theorem year?_digit (d : Fin 10) (cs : List Char) :
    year? (digitChar d :: cs) = (number? 4 (digitChar d :: cs)).map fun p =>
      ((p.1 : Int), p.2) := by
  have front : trimLeft (digitChar d :: cs) = digitChar d :: cs := by
    simp [trimLeft, isBlank_digitChar]
  rw [year?, front]
  split
  · rename_i minus
    exact absurd (List.cons.inj minus).1 (unsigned_digitChar d).1
  · rename_i plus
    exact absurd (List.cons.inj plus).1 (unsigned_digitChar d).2
  · rfl

/-- After a sign all digits count. -/
theorem number?_signed (n : Nat) (stops : Undigited rest) :
    number? (takeDigits (padded 4 n ++ rest)).1.length (padded 4 n ++ rest) = some (n, rest) := by
  rw [padded_eq, takeDigits_append _ stops,
    number?_digits (padded_ne_nil 4 n) (Nat.le_refl _) stops, numeral_padded]

theorem length_signed_ne_zero (n : Nat) (stops : Undigited rest) :
    (takeDigits (padded 4 n ++ rest)).1.length ≠ 0 := by
  rw [padded_eq, takeDigits_append _ stops]
  simpa using padded_ne_nil 4 n

theorem year?_yearChars (y : Int) (stops : Undigited rest) :
    year? (yearChars y ++ rest) = some (y, rest) := by
  unfold yearChars
  split
  · rename_i few
    simp only [Bool.and_eq_true, decide_eq_true_eq] at few
    have read := number?_padded (n := y.natAbs) (by decide : 0 < 4) (by omega) stops
    obtain ⟨d, ds, first⟩ := List.exists_cons_of_ne_nil (padded_ne_nil 4 y.natAbs)
    rw [padded_eq, first, List.map_cons, List.cons_append] at read ⊢
    rw [year?_digit, read, Option.map_some, Int.natAbs_of_nonneg few.1]
  · have read := number?_signed y.natAbs stops
    have some := length_signed_ne_zero y.natAbs stops
    by_cases negative : y < 0
    · have front (cs : List Char) : trimLeft ('-' :: cs) = '-' :: cs := rfl
      have back : -(y.natAbs : Int) = y := by omega
      rw [if_pos negative, List.cons_append, year?, front]
      simp only [read, if_neg some, Option.map_some, back]
    · have front (cs : List Char) : trimLeft ('+' :: cs) = '+' :: cs := rfl
      have back : (y.natAbs : Int) = y := by omega
      rw [if_neg negative, List.cons_append, year?, front]
      simp only [read, if_neg some, Option.map_some, back]

/-- A fraction of as many digits as are written counts as one of nine. -/
theorem fraction?_padded (positive : 0 < width) (short : width ≤ 9) (fits : n < 10 ^ width) :
    fraction? ('.' :: padded width n ++ ['Z']) = some (n * 10 ^ (9 - width), ['Z']) := by
  have length := length_padded positive fits
  have all : (paddedDigits width n).take 9 = paddedDigits width n :=
    List.take_of_length_le (by omega)
  have stops : Undigited ['Z'] := by simp [Undigited, digit?]
  have taken := takeDigits_append (paddedDigits width n) stops
  rw [padded_eq, List.cons_append, fraction?, taken]
  obtain ⟨d, ds, first⟩ := List.exists_cons_of_ne_nil (padded_ne_nil width n)
  rw [first] at all length ⊢
  have value : numeral (d :: ds) = n := first ▸ numeral_padded width n
  simp only [all, length, value]
  rfl

theorem fraction?_fractionChars (small : n < 1000000000) :
    fraction? (fractionChars n ++ ['Z']) = some (n, ['Z']) := by
  unfold fractionChars
  split_ifs with zero thousands millions
  · subst zero
    rfl
  · rw [fraction?_padded (by decide) (by decide) (by omega)]
    congr 2
    omega
  · rw [fraction?_padded (by decide) (by decide) (by omega)]
    congr 2
    omega
  · rw [fraction?_padded (by decide) (by decide) (by omega)]
    simp

end Reader

/-- Where a number of two digits stands, that number is read and what follows is left. -/
theorem Reader.number?_two (small : n < 100) {c : Char} (separator : digit? c = none)
    (rest : List Char) :
    number? 2 (padded 2 n ++ c :: rest) = some (n, c :: rest) :=
  number?_padded (by decide) (by omega) fun _ first => by
    obtain rfl := Option.some.inj first
    exact separator

theorem Reader.number?_last (small : n < 100) (nanos : Nat) :
    number? 2 (padded 2 n ++ (fractionChars nanos ++ ['Z'])) =
      some (n, fractionChars nanos ++ ['Z']) := by
  refine number?_padded (by decide) (by omega) ?_
  unfold fractionChars
  split_ifs <;> intro c first <;> obtain rfl := Option.some.inj first <;> rfl

theorem goes_on {α β : Type} {x : Option α} {a : α} {f : α → Option β} {b : β} (first : x = some a)
    (more : f a = some b) : (x >>= f) = some b := by
  rw [first]
  exact more

/-- The parts of a text are read one after the other, and make an instant if the calendar and the
clock have them. -/
theorem ofChars?_parts {date : Calendar.Date} {hour minute second nanos : Nat}
    (isDay : Calendar.isDay date.year date.month date.day) (inRange : Calendar.inRange date.year)
    (inDay : hour ≤ 23) (inHour : minute ≤ 59) (inMinute : second ≤ 60) (small : nanos < 1000000000)
    {t : Instant} (seconds : t.seconds = date.dayNumber * 86400 +
      (hour * 3600 + minute * 60 + (if second = 60 then 59 else second) : Nat))
    (fraction : t.nanos = if second = 60 then nanos + 1000000000 else nanos)
    (stays : Calendar.inRange (Calendar.Date.ofDayNumber t.dayNumber).year) :
    ofChars? (yearChars date.year ++ '-' :: (padded 2 date.month ++ '-' ::
      (padded 2 date.day ++ 'T' :: (padded 2 hour ++ ':' :: (padded 2 minute ++ ':' ::
        (padded 2 second ++ (fractionChars nanos ++ ['Z']))))))) = some t := by
  have bounds := isDay
  simp only [Calendar.isDay, Bool.and_eq_true, decide_eq_true_eq] at bounds
  have days : date.day < 100 := by
    have most : Calendar.daysInMonth date.year date.month ≤ 31 := by
      unfold Calendar.daysInMonth
      split <;> (try split) <;> decide
    omega
  have year (rest : List Char) :
      Reader.year? (yearChars date.year ++ '-' :: rest) = some (date.year, '-' :: rest) :=
    Reader.year?_yearChars date.year (by simp [Undigited, digit?])
  have month (rest : List Char) :=
    Reader.number?_two (show date.month < 100 by omega) (c := '-') rfl rest
  have day (rest : List Char) := Reader.number?_two days (c := 'T') rfl rest
  have hours (rest : List Char) := Reader.number?_two (show hour < 100 by omega) (c := ':') rfl rest
  have minutes (rest : List Char) :=
    Reader.number?_two (show minute < 100 by omega) (c := ':') rfl rest
  have lastly := Reader.number?_last (show second < 100 by omega) nanos
  have hyphen (rest : List Char) := Reader.mark?_self (c := '-') rfl rest
  have colon (rest : List Char) := Reader.mark?_self (c := ':') rfl rest
  have zone : Reader.zone? (trimLeft ['Z']) = some (0, []) := rfl
  have empty : trimLeft [] = [] := rfl
  have fractions := Reader.fraction?_fractionChars small
  have checked : ¬ (decide (23 < hour) || decide (59 < minute) || decide (60 < second)) = true := by
    simp
    omega
  have made : (⟨date.dayNumber * 86400 + ((hour * 3600 + minute * 60 +
      (if (second == 60) = true then 59 else second) : Nat) : Int) - 0,
      if (second == 60) = true then nanos + 1000000000 else nanos⟩ : Instant) = t := by
    simp only [beq_iff_eq, Int.sub_zero]
    rw [← seconds, ← fraction]
  -- From here on one line for each step of the reader, in its order.
  refine goes_on (year _) ?_
  refine goes_on (hyphen _) ?_
  refine goes_on (month _) ?_
  refine goes_on (hyphen _) ?_
  refine goes_on (day _) ?_
  refine (if_pos (by decide)).trans ?_
  refine goes_on rfl ?_
  refine goes_on (hours _) ?_
  refine goes_on (colon _) ?_
  refine goes_on (minutes _) ?_
  refine goes_on (colon _) ?_
  refine goes_on lastly ?_
  refine goes_on fractions ?_
  refine goes_on zone ?_
  refine (if_neg (not_not.mpr empty)).trans ?_
  refine (if_neg (by simp [isDay, inRange])).trans ?_
  refine (if_neg checked).trans ?_
  have rebuilt := congrArg (fun t : Instant =>
    if Calendar.inRange (Calendar.Date.ofDayNumber t.dayNumber).year then some t else none) made
  exact rebuilt.trans (if_pos stays)

theorem ofString?_text {t : Instant} (valid : t.Valid) : ofString? t.text = some t := by
  obtain ⟨inRange, nanos⟩ := valid
  have days : t.dayNumber = t.seconds / 86400 := Int.fdiv_eq_ediv_of_nonneg _ (by decide)
  have rest : Int.fmod t.seconds 86400 = t.seconds % 86400 :=
    Int.fmod_eq_emod_of_nonneg _ (by decide)
  rw [ofString?, text, String.toList_ofList, chars, rest]
  simp only [dateChars, List.append_assoc, List.cons_append]
  -- The second of the day is a name of its own, so that the clock is arithmetic over one natural
  -- number.
  obtain ⟨second, counted⟩ : ∃ second, second = (t.seconds % 86400).toNat := ⟨_, rfl⟩
  rw [← counted]
  refine ofChars?_parts (Calendar.Date.isDay_ofDayNumber _) inRange ?_ ?_ ?_ ?_ ?_ ?_ inRange
  · omega
  · omega
  · split <;> omega
  · split <;> omega
  · rw [Calendar.Date.dayNumber_ofDayNumber, days]
    split_ifs <;> omega
  · split_ifs <;> omega

end Voucher.Instant
