import Voucher.Proofs.Match.Fields
import Voucher.Proofs.Match.Normalize

/-! Where a split ends. Offsets are words, yet a segment is refused as too long exactly if it ends
behind the payload in exact arithmetic: a sum that wraps around is larger than any payload. -/
namespace Voucher

namespace Segment

/-- A segment fits into the payload behind the segments before it, and its kind takes its slice. -/
structure Taken (payload : List Char) (before : List Segment) (s : Segment) : Prop where
  fits : (⟨before⟩ : Layout).total + s.length.toNat ≤ payload.length
  valid : s.kind.refusal? (s.slice payload before) = none

/-- The fault of a segment that is not taken. One that does not fit has no value
that could be refused. -/
inductive Fails (payload : List Char) (before : List Segment) (s : Segment) :
    Fields.Fault → Prop where
  | overflow (beyond : payload.length < (⟨before⟩ : Layout).total + s.length.toNat) :
      Fails payload before s
        (.overflow s.name (⟨before⟩ : Layout).total s.length.toNat payload.length)
  | invalid {reason : Reason} (fits : (⟨before⟩ : Layout).total + s.length.toNat ≤ payload.length)
      (refused : s.kind.refusal? (s.slice payload before) = some reason) :
      Fails payload before s (.invalid s.name (s.slice payload before) reason)

variable {payload : List Char} {before : List Segment} {s : Segment} {fault other : Fields.Fault}

theorem Fails.not_taken (fails : s.Fails payload before fault) : ¬ s.Taken payload before := by
  rintro ⟨fits, valid⟩
  cases fails with
  | overflow beyond => exact Nat.not_lt_of_le fits beyond
  | invalid _ refused => exact Option.some_ne_none _ (refused.symm.trans valid)

theorem Fails.unique (first : s.Fails payload before fault)
    (second : s.Fails payload before other) :
    fault = other := by
  cases first with
  | overflow beyond =>
      cases second with
      | overflow _ => rfl
      | invalid fits _ => exact absurd beyond (Nat.not_lt_of_le fits)
  | invalid fits refused =>
      cases second with
      | overflow beyond => exact absurd beyond (Nat.not_lt_of_le fits)
      | invalid _ same => rw [Option.some.inj (refused.symm.trans same)]

theorem exists_fails (refused : ¬ s.Taken payload before) :
    ∃ fault, s.Fails payload before fault := by
  by_cases fits : (⟨before⟩ : Layout).total + s.length.toNat ≤ payload.length
  · cases valid : s.kind.refusal? (s.slice payload before) with
    | none => exact absurd ⟨fits, valid⟩ refused
    | some reason => exact ⟨_, .invalid fits valid⟩
  · exact ⟨_, .overflow (Nat.lt_of_not_le fits)⟩

end Segment

namespace Layout

@[simp] theorem total_append (first rest : List Segment) :
    (⟨first ++ rest⟩ : Layout).total = (⟨first⟩ : Layout).total + (⟨rest⟩ : Layout).total := by
  induction first with
  | nil => exact (Nat.zero_add _).symm
  | cons s more ih => rw [List.cons_append, total_cons, total_cons, ih, Nat.add_assoc]

theorem foldlM_add?_eq_some_iff {segments : List Segment} {start n : UInt64} :
    segments.foldlM (fun sum s => Word.add? sum s.length) start = some n ↔
      n.toNat = start.toNat + (⟨segments⟩ : Layout).total := by
  induction segments generalizing start with
  | nil =>
      rw [List.foldlM_nil]
      exact ⟨fun same => congrArg UInt64.toNat (Option.some.inj same).symm,
        fun same => congrArg some (UInt64.toNat_inj.mp same).symm⟩
  | cons s rest ih =>
      rw [List.foldlM_cons, Option.bind_eq_bind, Option.bind_eq_some_iff, total_cons,
        ← Nat.add_assoc]
      constructor
      · rintro ⟨sum, added, more⟩
        rw [ih.mp more, Word.add?_eq_some_iff.mp added]
      · intro total
        have small := n.toNat_lt
        have sum : (UInt64.ofNat (start.toNat + s.length.toNat)).toNat =
            start.toNat + s.length.toNat := by
          rw [UInt64.toNat_ofNat']
          omega
        exact ⟨_, Word.add?_eq_some_iff.mpr sum, ih.mpr (by rw [total, sum])⟩

theorem total?_eq_some_iff {l : Layout} {n : UInt64} : l.total? = some n ↔ n.toNat = l.total := by
  rw [total?, foldlM_add?_eq_some_iff, UInt64.toNat_zero, Nat.zero_add]

/-- Every segment of a layout is taken at its place. -/
def AllTaken (payload : List Char) (l : Layout) : Prop :=
  ∀ before s after, l.segments = before ++ s :: after → s.Taken payload before

end Layout

namespace Fields

/-- One value for each segment of a layout, in order and under its name. The values have the
declared lengths and follow one another from the start of the payload. -/
structure Consecutive (payload : List Char) (l : Layout) (entries : List (String × List Char)) :
    Prop where
  names : entries.map Prod.fst = l.segments.map (·.name)
  lengths : entries.map (·.2.length) = l.segments.map (·.length.toNat)
  joined : entries.flatMap Prod.snd = payload.take l.total

variable {payload : List Char} {segments before : List Segment}
  {entries : List (String × List Char)}

/-- Slices are known from their names, their lengths and what they write together. -/
theorem eq_slices_iff {offset : Nat}
    (fits : offset + (⟨segments⟩ : Layout).total ≤ payload.length) :
    entries = slices payload offset segments ↔ entries.map Prod.fst = segments.map (·.name) ∧
      entries.map (·.2.length) = segments.map (·.length.toNat) ∧
      entries.flatMap Prod.snd = (payload.drop offset).take (⟨segments⟩ : Layout).total := by
  induction segments generalizing offset entries with
  | nil =>
      constructor
      · rintro rfl
        exact ⟨rfl, rfl, List.take_zero.symm⟩
      · rintro ⟨names, -, -⟩
        exact List.map_eq_nil_iff.mp names
  | cons s rest ih =>
      rw [Layout.total_cons, ← Nat.add_assoc] at fits
      have length : ((payload.drop offset).take s.length.toNat).length = s.length.toNat := by
        rw [List.length_take, List.length_drop]
        omega
      have joined : (payload.drop offset).take (⟨s :: rest⟩ : Layout).total =
          (payload.drop offset).take s.length.toNat ++
          (payload.drop (offset + s.length.toNat)).take (⟨rest⟩ : Layout).total := by
        rw [Layout.total_cons, List.take_add, List.drop_drop]
      cases entries with
      | nil => simp [slices]
      | cons e more =>
          rw [slices, List.cons.injEq, ih fits, joined, List.map_cons, List.map_cons, List.map_cons,
            List.map_cons, List.cons.injEq, List.cons.injEq, List.flatMap_cons]
          constructor
          · rintro ⟨rfl, names, lengths, values⟩
            exact ⟨⟨rfl, names⟩, ⟨length, lengths⟩, congrArg _ values⟩
          · rintro ⟨⟨name, names⟩, ⟨own, lengths⟩, values⟩
            obtain ⟨value, behind⟩ := List.append_inj values (own.trans length.symm)
            exact ⟨Prod.ext name value, names, lengths, behind⟩

/-- One step of a split: the first segment fails, or it is taken and the split goes on behind it. -/
theorem splitFrom_cons {offset : UInt64} (sized : payload.length < UInt64.size)
    (placed : offset.toNat = (⟨before⟩ : Layout).total) (s : Segment) (rest : List Segment) :
    (∃ fault, s.Fails payload before fault ∧ splitFrom payload offset (s :: rest) = .error fault) ∨
      s.Taken payload before ∧ ∃ stop : UInt64, stop.toNat = (⟨before ++ [s]⟩ : Layout).total ∧
        splitFrom payload offset (s :: rest) =
          (splitFrom payload stop rest).map ((s.name, s.slice payload before) :: ·) := by
  have slice : (payload.drop offset.toNat).take s.length.toNat = s.slice payload before := by
    rw [placed, Segment.slice]
  rw [splitFrom, slice]
  cases reached : stop? payload offset s with
  | none =>
      refine .inl ⟨_, ?_, rfl⟩
      rw [placed]
      -- If the exact sum were within the payload, a word would hold it, and the segment would have
      -- an end.
      refine .overflow (Nat.lt_of_not_le fun fits => ?_)
      have sum : (UInt64.ofNat (offset.toNat + s.length.toNat)).toNat =
          offset.toNat + s.length.toNat := by
        rw [UInt64.toNat_ofNat', placed]
        exact Nat.mod_eq_of_lt (Nat.lt_of_le_of_lt fits sized)
      have stop := stop?_eq_some_iff.mpr ⟨sum, by rwa [sum, placed]⟩
      rw [reached] at stop
      contradiction
  | some stop =>
      obtain ⟨sum, fits⟩ := stop?_eq_some_iff.mp reached
      have next : stop.toNat = (⟨before ++ [s]⟩ : Layout).total := by
        rw [sum, placed, Layout.total_append]
        rfl
      rw [sum, placed] at fits
      simp only
      cases valid : s.kind.refusal? (s.slice payload before) with
      | some reason => exact .inl ⟨_, .invalid fits valid, rfl⟩
      | none =>
          refine .inr ⟨⟨fits, valid⟩, stop, next, ?_⟩
          simp only
          cases splitFrom payload stop rest <;> rfl

theorem forall_place_cons {α : Type} {P : List α → α → Prop} {s : α} {rest : List α} :
    (∀ before x after, s :: rest = before ++ x :: after → P before x) ↔
      P [] s ∧ ∀ before x after, rest = before ++ x :: after → P (s :: before) x := by
  constructor
  · intro all
    exact ⟨all [] s rest rfl, fun before x after placed =>
      all (s :: before) x after (by rw [placed, List.cons_append])⟩
  · rintro ⟨first, behind⟩ before x after placed
    obtain ⟨rfl, own⟩ | ⟨more, rfl, rfl⟩ := List.cons_eq_append_iff.mp placed
    · obtain ⟨rfl, rfl⟩ := List.cons.inj own
      exact first
    · exact behind more x after rfl

/-- Something holds at every place of a list, or there is a first one at which it does not. -/
theorem places_cases {α : Type} (P : List α → α → Prop) (xs : List α) :
    (∀ before x after, xs = before ++ x :: after → P before x) ∨
      ∃ before x after, xs = before ++ x :: after ∧ (∀ a y b, before = a ++ y :: b → P a y) ∧
      ¬ P before x := by
  induction xs generalizing P with
  | nil =>
      refine .inl fun before x after placed => ?_
      simp at placed
  | cons s rest ih =>
      by_cases first : P [] s
      · obtain all | ⟨before, x, after, rfl, earlier, fails⟩ := ih fun before x => P (s :: before) x
        · exact .inl (forall_place_cons.mpr ⟨first, all⟩)
        · exact .inr ⟨s :: before, x, after, rfl, forall_place_cons.mpr ⟨first, earlier⟩, fails⟩
      · exact .inr ⟨[], s, rest, rfl, by simp, first⟩

/-- A split goes through all segments that are taken. -/
theorem splitFrom_append {offset : UInt64} (sized : payload.length < UInt64.size)
    (placed : offset.toNat = (⟨before⟩ : Layout).total) (rest : List Segment)
    (taken : ∀ a s b, segments = a ++ s :: b → s.Taken payload (before ++ a)) :
    ∃ stop : UInt64, stop.toNat = (⟨before ++ segments⟩ : Layout).total ∧
      splitFrom payload offset (segments ++ rest) =
        (splitFrom payload stop rest).map (slices payload offset.toNat segments ++ ·) := by
  -- The offset stays the exact sum of the lengths before it.
  induction segments generalizing before offset with
  | nil =>
      refine ⟨offset, by rw [placed, List.append_nil], ?_⟩
      rw [List.nil_append]
      cases splitFrom payload offset rest <;> rfl
  | cons s more ih =>
      obtain ⟨first, behind⟩ := forall_place_cons.mp taken
      rw [List.append_nil] at first
      obtain ⟨fault, fails, -⟩ | ⟨-, stop, next, out⟩ :=
        splitFrom_cons sized placed s (more ++ rest)
      · exact absurd first fails.not_taken
      · obtain ⟨last, reached, run⟩ := ih next fun a x b there => by
          rw [List.append_assoc, List.singleton_append]
          exact behind a x b there
        rw [List.append_assoc, List.singleton_append] at reached
        refine ⟨last, reached, ?_⟩
        have sum : stop.toNat = offset.toNat + s.length.toNat := by
          rw [next, placed, Layout.total_append]
          rfl
        rw [List.cons_append, out, run, slices, ← sum, Segment.slice, placed]
        cases splitFrom payload last rest <;> rfl

end Fields

namespace Layout

variable {l : Layout} {payload : List Char} {fault : Fields.Fault}

/-- Up to the first segment that is not taken, if there is one, all are. -/
def Fails (payload : List Char) (l : Layout) (fault : Fields.Fault) : Prop :=
  ∃ before s after, l.segments = before ++ s :: after ∧ (⟨before⟩ : Layout).AllTaken payload ∧
    s.Fails payload before fault

theorem AllTaken.fits (taken : l.AllTaken payload) : l.total ≤ payload.length := by
  obtain ⟨segments⟩ := l
  obtain rfl | ⟨before, s, rfl⟩ := List.eq_nil_or_concat segments
  · exact Nat.zero_le _
  · rw [List.concat_eq_append] at taken ⊢
    rw [total_append]
    exact (taken before s [] rfl).fits

theorem start_placed : (0 : UInt64).toNat = (⟨[]⟩ : Layout).total := rfl

theorem AllTaken.splitFrom (sized : payload.length < UInt64.size) (taken : l.AllTaken payload) :
    Fields.splitFrom payload 0 l.segments = .ok (Fields.slices payload 0 l.segments) := by
  obtain ⟨stop, -, run⟩ := Fields.splitFrom_append sized start_placed [] taken
  rw [List.append_nil] at run
  rw [run]
  exact congrArg Except.ok (List.append_nil _)

theorem Fails.splitFrom (sized : payload.length < UInt64.size) (fails : l.Fails payload fault) :
    Fields.splitFrom payload 0 l.segments = .error fault := by
  obtain ⟨before, s, after, placed, taken, first⟩ := fails
  obtain ⟨stop, reached, run⟩ := Fields.splitFrom_append sized start_placed (s :: after) taken
  obtain ⟨other, fails, out⟩ | ⟨good, -⟩ := Fields.splitFrom_cons sized reached s after
  · rw [placed, run, out, first.unique fails]
    rfl
  · exact absurd good first.not_taken

theorem Fails.not_allTaken (fails : l.Fails payload fault) : ¬ l.AllTaken payload := by
  obtain ⟨before, s, after, placed, -, first⟩ := fails
  exact fun taken => first.not_taken (taken before s after placed)

/-- A layout is taken as a whole, or it fails. -/
theorem allTaken_or_fails (payload : List Char) (l : Layout) :
    l.AllTaken payload ∨ ∃ fault, l.Fails payload fault := by
  obtain all | ⟨before, s, after, placed, earlier, refused⟩ :=
    Fields.places_cases (fun before s => s.Taken payload before) l.segments
  · exact .inl all
  · obtain ⟨fault, fails⟩ := Segment.exists_fails refused
    exact .inr ⟨fault, before, s, after, placed, earlier, fails⟩

theorem split_eq_ok_iff {fields : Fields} (sized : payload.length < UInt64.size) :
    l.split payload = .ok fields ↔ l.AllTaken payload ∧
      Fields.Consecutive payload l fields.entries := by
  obtain taken | ⟨other, fails⟩ := l.allTaken_or_fails payload
  · have slices : fields.entries = Fields.slices payload 0 l.segments ↔
        Fields.Consecutive payload l fields.entries := by
      rw [Fields.eq_slices_iff (by rw [Nat.zero_add]; exact taken.fits), List.drop_zero]
      exact ⟨fun ⟨names, lengths, joined⟩ => ⟨names, lengths, joined⟩,
        fun ⟨names, lengths, joined⟩ => ⟨names, lengths, joined⟩⟩
    rw [← slices, split, taken.splitFrom sized]
    constructor
    · intro same
      obtain rfl := Except.ok.inj same
      exact ⟨taken, rfl⟩
    · rintro ⟨-, same⟩
      rw [← same]
  · rw [split, fails.splitFrom sized]
    simp [fails.not_allTaken]

theorem split_eq_error_iff (sized : payload.length < UInt64.size) :
    l.split payload = .error fault ↔ l.Fails payload fault := by
  obtain taken | ⟨other, fails⟩ := l.allTaken_or_fails payload
  · constructor
    · rw [split, taken.splitFrom sized]
      intro same
      contradiction
    · intro fails
      exact absurd taken fails.not_allTaken
  · constructor
    · rw [split, fails.splitFrom sized]
      intro same
      exact Except.error.inj same ▸ fails
    · intro fails
      rw [split, fails.splitFrom sized]

/-- In a payload as long as the whole layout every segment fits, and the values are all of it. -/
theorem split_whole (whole : l.total = payload.length) (sized : payload.length < UInt64.size) :
    (∀ name offset length size, l.split payload ≠ .error (.overflow name offset length size)) ∧
      ∀ fields, l.split payload = .ok fields → fields.entries.flatMap Prod.snd = payload := by
  constructor
  · intro name offset length size split
    obtain ⟨before, s, after, placed, -, first⟩ := (split_eq_error_iff sized).mp split
    have parts : l.total = (⟨before⟩ : Layout).total +
        (s.length.toNat + (⟨after⟩ : Layout).total) := by
      rw [← total_cons, ← total_append, ← placed]
    cases first with
    | overflow beyond => omega
  · intro fields split
    rw [((split_eq_ok_iff sized).mp split).2.joined, whole, List.take_length]

/-- A payload splits exactly if every segment is taken, and then into consecutive values; otherwise
the first segment that is not taken gives the fault. The length of a payload in memory is a word. A
payload that a rule accepts is never too short if the rule's length is the layout's, and its values
are all of it. -/
theorem split_exact (l : Layout) (payload : List Char) :
    (payload.length < UInt64.size →
      (∀ fields, l.split payload = .ok fields ↔
        l.AllTaken payload ∧ Fields.Consecutive payload l fields.entries) ∧
      ∀ fault, l.split payload = .error fault ↔ l.Fails payload fault) ∧
    ∀ (r : Rule) (normalized : List Char), l.total? = some r.totalLength →
      r.payload normalized = .ok payload →
      (∀ name offset length size, l.split payload ≠ .error (.overflow name offset length size)) ∧
        ∀ fields, l.split payload = .ok fields → fields.entries.flatMap Prod.snd = payload := by
  constructor
  · intro sized
    exact ⟨fun fields => split_eq_ok_iff sized, fun fault => split_eq_error_iff sized⟩
  · intro r normalized total accepted
    obtain ⟨-, suits⟩ := Rule.payload_eq_ok_iff.mp accepted
    have length := suits.length
    rw [total?_eq_some_iff.mp total] at length
    refine split_whole length.symm ?_
    rw [suits.length]
    exact r.totalLength.toNat_lt

/-- A segment whose end wraps around to the start of the payload does not fit. -/
def endless : Layout :=
  ⟨[⟨"year", 2, none, .numeric none none⟩, ⟨"rest", 18446744073709551615, none, .alphanumeric⟩]⟩

theorem split_exact_endless : "26A".toList.length < UInt64.size ∧
    endless.split "26A".toList = .error (.overflow "rest" 2 18446744073709551615 3) := by
  have sized : "26A".toList.length < UInt64.size := by decide
  refine ⟨sized, ((split_exact endless "26A".toList).1 sized).2 _ |>.mpr ?_⟩
  refine ⟨[⟨"year", 2, none, .numeric none none⟩],
    ⟨"rest", 18446744073709551615, none, .alphanumeric⟩, [], rfl, ?_, ?_⟩
  · intro before s after placed
    obtain ⟨rfl, own⟩ | ⟨more, rfl, rest⟩ := List.cons_eq_append_iff.mp placed
    · obtain ⟨rfl, rfl⟩ := List.cons.inj own
      exact ⟨by decide, by decide +kernel⟩
    · simp at rest
  · exact .overflow (by decide)

end Layout

end Voucher
