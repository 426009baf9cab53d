import Voucher.Match.Fields
import Voucher.Proofs.Calendar
import Voucher.Proofs.Text.Ascii
import Voucher.Proofs.Text.Digit

/-! The values that each kind of segment takes. A number counts as what its digits write, however
many they are: a bound is a word of 64 bits, so one that is capped at 128 bits lies on the same side
of it. -/
namespace Voucher

namespace Segment

/-- A value of at least one character, all of one class. -/
structure AllOf (chars : Char → Bool) (value : List Char) : Prop where
  nonempty : value ≠ []
  every : ∀ c ∈ value, chars c = true

/-- The number that decimal digits write. -/
abbrev written (value : List Char) : Nat := Nat.ofDigitChars 10 value 0

/-- A value as long as the dates of a known format denotes a day. Two-digit years belong to the
years from 2000. -/
structure Dated (format : String) (value : List Char) : Prop where
  full : format = "YYYYMMDD" → ∀ y m d, value = y ++ m ++ d → y.length = 4 → m.length = 2 →
    d.length = 2 →
    Calendar.Gregorian (written y) (written m) (written d)
  short : format = "YYMMDD" → ∀ y m d, value = y ++ m ++ d → y.length = 2 → m.length = 2 →
    d.length = 2 →
    Calendar.Gregorian (2000 + written y) (written m) (written d)
  ordinal : format = "YYDDD" → ∀ y d, value = y ++ d → y.length = 2 → d.length = 3 →
    1 ≤ written d ∧ written d ≤ 366

/-- The values of a kind. -/
def Kind.Takes (value : List Char) : Kind → Prop
  | .fixed expected => String.ofList value = expected
  | .numeric min max => AllOf Char.isDigit value ∧ (∀ m, min = some m → m.toInt ≤ written value) ∧
      ∀ m, max = some m → written value ≤ m.toInt
  | .alpha .upper => AllOf Char.isUpper value
  | .alpha .lower => AllOf Char.isLower value
  | .alpha .both => AllOf Char.isAlpha value
  | .alphanumeric => AllOf Char.isAlphanum value
  | .oneOf values => String.ofList value ∈ values
  | .date format => AllOf Char.isDigit value ∧ Dated format value
  | .check .. => True

variable {value : List Char} {ds : List (Fin 10)}

theorem isNonempty_iff {chars : Char → Bool} :
    isNonempty chars value = true ↔ AllOf chars value := by
  rw [isNonempty, Bool.and_eq_true, Bool.not_eq_true', List.isEmpty_eq_false_iff, List.all_eq_true]
  exact ⟨fun ⟨nonempty, every⟩ => ⟨nonempty, every⟩, fun ⟨nonempty, every⟩ => ⟨nonempty, every⟩⟩

theorem number?_eq_some_iff :
    number? value = some ds ↔ value ≠ [] ∧ value = ds.map Text.digitChar := by
  rw [← Text.digits?_eq_some_iff]
  unfold number?
  cases read : Text.digits? value with
  | none => simp
  | some found =>
      have shown := Text.digits?_eq_some_iff.mp read
      cases found with
      | nil => simp [shown]
      | cons d more => simp [shown]

theorem number?_cases (value : List Char) : number? value = none ∧ ¬ AllOf Char.isDigit value ∨
    ∃ ds, number? value = some ds ∧ value = ds.map Text.digitChar ∧ AllOf Char.isDigit value := by
  by_cases numeric : AllOf Char.isDigit value
  · obtain ⟨ds, shown⟩ := Text.exists_digits numeric.every
    exact .inr ⟨ds, number?_eq_some_iff.mpr ⟨numeric.nonempty, shown⟩, shown, numeric⟩
  · refine .inl ⟨?_, numeric⟩
    cases read : number? value with
    | none => rfl
    | some ds =>
        obtain ⟨nonempty, shown⟩ := number?_eq_some_iff.mp read
        refine absurd ⟨nonempty, ?_⟩ numeric
        rw [shown, List.forall_mem_map]
        exact fun d _ => Text.isDigit_digitChar d

theorem toInt_lt_max128 (m : Int64) : m.toInt < Word.max128 :=
  Int.lt_of_lt_of_le m.toInt_lt (by decide)

theorem cappedNumeral_lt_iff {m : Int64} :
    cappedNumeral ds < m.toInt ↔ (Text.numeral ds : Int) < m.toInt := by
  have capped := toInt_lt_max128 m
  unfold cappedNumeral
  omega

theorem lt_cappedNumeral_iff {m : Int64} :
    m.toInt < cappedNumeral ds ↔ m.toInt < Text.numeral ds := by
  have capped := toInt_lt_max128 m
  unfold cappedNumeral
  omega

theorem refusal?_numeric_iff {min max : Option Int64} (read : number? value = some ds) :
    (Kind.numeric min max).refusal? value = none ↔ (∀ m, min = some m → m.toInt ≤ Text.numeral ds) ∧
      ∀ m, max = some m → Text.numeral ds ≤ m.toInt := by
  have low : min.filter (fun m => cappedNumeral ds < m.toInt) = none ↔
      ∀ m, min = some m → m.toInt ≤ Text.numeral ds := by
    simp [cappedNumeral_lt_iff]
  have high : max.filter (fun m => m.toInt < cappedNumeral ds) = none ↔
      ∀ m, max = some m → Text.numeral ds ≤ m.toInt := by
    simp [lt_cappedNumeral_iff]
  rw [← low, ← high]
  simp only [Kind.refusal?, read]
  cases min.filter (fun m => cappedNumeral ds < m.toInt) with
  | some m => simp
  | none =>
      cases max.filter (fun m => m.toInt < cappedNumeral ds) with
      | some m => simp
      | none => simp

theorem exists_parts {α : Type} {xs : List α} {a b c : Nat} (length : xs.length = a + b + c) :
    ∃ x y z, xs = x ++ y ++ z ∧ x.length = a ∧ y.length = b ∧ z.length = c := by
  refine ⟨xs.take a, (xs.drop a).take b, (xs.drop a).drop b, ?_, ?_, ?_, ?_⟩
  · rw [List.append_assoc, List.take_append_drop, List.take_append_drop]
  · rw [List.length_take]
    omega
  · rw [List.length_take, List.length_drop]
    omega
  · rw [List.length_drop, List.length_drop]
    omega

theorem part_eq {α : Type} (x y z : List α) :
    ((x ++ y ++ z).take (x.length + y.length)).drop x.length = y := by
  rw [← List.length_append, List.take_left, List.drop_left]

/-- The parts of a numeral are found by their places. -/
theorem parts_iff {P : Nat → Nat → Nat → Prop} (a b c : Nat) (ds : List (Fin 10)) :
    (∀ x y z, ds.map Text.digitChar = x ++ y ++ z → x.length = a → y.length = b → z.length = c →
      P (written x) (written y) (written z)) ↔
    (ds.length = a + b + c →
      P (Text.numeral ((ds.take a).drop 0)) (Text.numeral ((ds.take (a + b)).drop a))
      (Text.numeral ((ds.take (a + b + c)).drop (a + b)))) := by
  -- Parts written one after another are the slices at their places.
  have places : ∀ x y z : List (Fin 10), x.length = a → y.length = b → z.length = c →
      ((x ++ y ++ z).take a).drop 0 = x ∧ ((x ++ y ++ z).take (a + b)).drop a = y ∧
        ((x ++ y ++ z).take (a + b + c)).drop (a + b) = z := by
    rintro x y z rfl rfl rfl
    have first := part_eq [] x (y ++ z)
    have last := part_eq (x ++ y) z []
    rw [List.nil_append, ← List.append_assoc, List.length_nil, Nat.zero_add] at first
    rw [List.append_nil, List.length_append] at last
    exact ⟨first, part_eq x y z, last⟩
  constructor
  · intro parts length
    obtain ⟨x, y, z, rfl, first, second, third⟩ := exists_parts length
    obtain ⟨inX, inY, inZ⟩ := places x y z first second third
    rw [inX, inY, inZ, ← Text.ofDigitChars_map, ← Text.ofDigitChars_map, ← Text.ofDigitChars_map]
    refine parts _ _ _ ?_ ?_ ?_ ?_
    · rw [List.map_append, List.map_append]
    all_goals rwa [List.length_map]
  · intro slices x y z shown first second third
    obtain ⟨front, dz, rfl, shownFront, rfl⟩ := List.map_eq_append_iff.mp shown
    obtain ⟨dx, dy, rfl, rfl, rfl⟩ := List.map_eq_append_iff.mp shownFront
    rw [List.length_map] at first second third
    obtain ⟨inX, inY, inZ⟩ := places dx dy dz first second third
    have holds := slices (by rw [List.length_append, List.length_append, first, second, third])
    rw [inX, inY, inZ] at holds
    rwa [written, written, written, Text.ofDigitChars_map, Text.ofDigitChars_map,
      Text.ofDigitChars_map]

theorem dated_iff {format : String} (shown : value = ds.map Text.digitChar) : Dated format value ↔
    ∀ f, DateFormat.ofTag? format = some f → ds.length = f.width → f.isDay ds = true := by
  subst shown
  -- A year and a day of the year are three parts, of which the last is empty.
  have full := parts_iff (P := Calendar.Gregorian) 4 2 2 ds
  have short := parts_iff (P := fun y m d => Calendar.Gregorian (2000 + y) m d) 2 2 2 ds
  have ordinal := parts_iff (P := fun _ d _ => 1 ≤ d ∧ d ≤ 366) 2 3 0 ds
  constructor
  · rintro ⟨inFull, inShort, inOrdinal⟩ f known length
    unfold DateFormat.ofTag? at known
    split at known
    · obtain rfl := Option.some.inj known
      exact Calendar.isDay_iff.mpr (full.mp (inFull rfl) length)
    · obtain rfl := Option.some.inj known
      exact Calendar.isDay_iff.mpr (short.mp (inShort rfl) length)
    · obtain rfl := Option.some.inj known
      have day := ordinal.mp (fun y d z shown first second third => inOrdinal rfl y d
        (by rw [shown, List.eq_nil_of_length_eq_zero third, List.append_nil]) first second) length
      simpa [DateFormat.isDay] using day
    · contradiction
  · intro day
    refine ⟨?_, ?_, ?_⟩
    · rintro rfl
      exact full.mpr fun length => Calendar.isDay_iff.mp (day .yearMonthDay rfl length)
    · rintro rfl
      exact short.mpr fun length => Calendar.isDay_iff.mp (day .shortYearMonthDay rfl length)
    · rintro rfl y d shown first second
      refine ordinal.mpr (fun length => ?_) y d [] (by rw [shown, List.append_nil]) first second rfl
      simpa [DateFormat.isDay] using day .shortYearDay rfl length

/-- A value is taken exactly if it is one of the kind's values. -/
theorem value_taken_iff (kind : Kind) (value : List Char) :
    kind.refusal? value = none ↔ kind.Takes value := by
  have ofAll : ∀ {chars : Char → Bool} {reason : Reason},
      (if isNonempty chars value then none else some reason) = none ↔ AllOf chars value := by
    simp [← isNonempty_iff]
  cases kind with
  | fixed expected =>
      have same : value = expected.toList ↔ String.ofList value = expected := by
        rw [← String.ofList_inj, String.ofList_toList]
      simp [Kind.refusal?, Kind.Takes, same]
  | numeric min max =>
      obtain ⟨unread, unnumeric⟩ | ⟨ds, read, shown, numeric⟩ := number?_cases value
      · simp [Kind.refusal?, Kind.Takes, unread, unnumeric]
      · have number : written value = Text.numeral ds := by
          rw [written, shown, Text.ofDigitChars_map]
        rw [refusal?_numeric_iff read, Kind.Takes, number]
        exact (and_iff_right numeric).symm
  | alpha letters =>
      cases letters with
      | upper => exact ofAll.trans (by rw [letterClass, Kind.Takes, funext Text.isAsciiUpper_eq])
      | lower => exact ofAll.trans (by rw [letterClass, Kind.Takes, funext Text.isAsciiLower_eq])
      | both => exact ofAll.trans (by rw [letterClass, Kind.Takes, funext Text.isAsciiLetter_eq])
  | alphanumeric =>
      have either : (fun c => Text.isAsciiLetter c || Text.isAsciiDigit c) = Char.isAlphanum := by
        funext c
        rw [Text.isAsciiLetter_eq, Text.isAsciiDigit_eq, Char.isAlphanum]
      exact ofAll.trans (by rw [Kind.Takes, either])
  | oneOf values =>
      have listed : values.any (·.toList == value) = true ↔ String.ofList value ∈ values := by
        simp only [List.any_eq_true, beq_iff_eq]
        constructor
        · rintro ⟨v, member, rfl⟩
          rwa [String.ofList_toList]
        · intro member
          exact ⟨_, member, String.toList_ofList⟩
      simp [Kind.refusal?, Kind.Takes, ← listed]
  | date format =>
      obtain ⟨unread, unnumeric⟩ | ⟨ds, read, shown, numeric⟩ := number?_cases value
      · simp [Kind.refusal?, Kind.Takes, unread, unnumeric]
      · rw [Kind.Takes, and_iff_right numeric, dated_iff shown]
        simp only [Kind.refusal?, read]
        cases DateFormat.ofTag? format with
        | none => simp
        | some f => simp
  | check algorithm appliesTo => exact ⟨fun _ => trivial, fun _ => rfl⟩

/-- The year 1900 has no leap day, the year 2000 has one. -/
example : (Kind.date "YYYYMMDD").refusal? "19000229".toList = some .notDay ∧
    (Kind.date "YYYYMMDD").refusal? "20000229".toList = none := by
  decide +kernel

end Segment

end Voucher
