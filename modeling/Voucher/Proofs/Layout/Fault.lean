import Voucher.Layout.Fault
import Voucher.Proofs.Keyed
import Voucher.Proofs.Match.Split
import Voucher.Rule.Sample

/-! Which faults a layout is told. Every fault that it has is listed, but the length is compared
with a sum that ends at the largest word: a layout that is longer than any word passes for one of
that length. -/
namespace Voucher

namespace CheckDigit.Algorithm

/-- The text is the name of an algorithm, up to blanks at its ends and the case of ASCII letters. -/
def Named (text : String) : Prop :=
  ∃ a : Algorithm, Text.equalIgnoringAsciiCase (Text.trim text) a.name

theorem mem_all (a : Algorithm) : a ∈ all := by
  cases a <;> decide

theorem name_upper (a : Algorithm) : a.name.toList.map Text.asciiUpper = a.name.toList := by
  cases a <;> decide

theorem ofText?_eq_none_iff {text : String} : ofText? text = none ↔ ¬ Named text := by
  have same (a : Algorithm) : a.name = Text.asciiUpperString (Text.trim text) ↔
      Text.equalIgnoringAsciiCase (Text.trim text) a.name = true := by
    rw [Text.equalIgnoringAsciiCase, beq_iff_eq, name_upper, Text.asciiUpperString,
      ← String.toList_inj, String.toList_ofList]
    exact eq_comm
  simp [ofText?, same, Named, mem_all]

end CheckDigit.Algorithm

namespace Layout

/-- All that makes a layout sound but its length. -/
structure Tidy (l : Layout) : Prop where
  names : (l.segments.map (·.name)).Nodup
  lengths : ∀ s ∈ l.segments, 1 ≤ s.length.toNat
  single : (l.segments.filter (·.isCheck)).length ≤ 1
  references : ∀ s ∈ l.segments, ∀ algorithm appliesTo, s.kind = .check algorithm appliesTo →
    ∀ name ∈ appliesTo, ∃ t ∈ l.segments, t.isCheck = false ∧ t.name = name
  algorithms : ∀ s ∈ l.segments, ∀ text appliesTo, s.kind = .check (some text) appliesTo →
    CheckDigit.Algorithm.Named text

/-- What a layout has to be told, if it is to have a length. -/
inductive Has (l : Layout) (totalLength : UInt64) : Fault → Prop where
  | lengthMismatch {actual : UInt64} (capped : actual.toNat = min l.total (UInt64.size - 1))
      (differs : actual ≠ totalLength) : Has l totalLength (.lengthMismatch totalLength actual)
  | duplicateName (placed : l.segments = before ++ s :: after)
      (taken : s.name ∈ before.map (·.name)) :
      Has l totalLength (.duplicateName s.name)
  | emptySegment (member : s ∈ l.segments) (empty : s.length.toNat = 0) :
      Has l totalLength (.emptySegment s.name)
  | severalChecks (several : 1 < (l.segments.filter (·.isCheck)).length) :
      Has l totalLength (.severalChecks (l.segments.filter (·.isCheck)).length)
  | unknownReference (member : s ∈ l.segments) (kind : s.kind = .check algorithm appliesTo)
      (applied : name ∈ appliesTo) (unknown : ∀ t ∈ l.segments, t.isCheck = false → t.name ≠ name) :
      Has l totalLength (.unknownReference name)
  | unknownAlgorithm (member : s ∈ l.segments) (kind : s.kind = .check (some text) appliesTo)
      (unknown : ¬ CheckDigit.Algorithm.Named text) : Has l totalLength
        (.unknownAlgorithm s.name text)

variable {l : Layout} {n : UInt64} {f : Fault}

theorem toNat_cappedTotal (l : Layout) : l.cappedTotal.toNat = min l.total (UInt64.size - 1) := by
  unfold cappedTotal
  cases total : l.total? with
  | some sum =>
      rw [Option.getD_some, ← total?_eq_some_iff.mp total]
      exact (Nat.min_eq_left (Nat.le_pred_of_lt sum.toNat_lt)).symm
  | none =>
      have beyond : UInt64.size ≤ l.total := by
        by_contra fits
        have taken : l.total? = some (UInt64.ofNat l.total) :=
          total?_eq_some_iff.mpr (UInt64.toNat_ofNat_of_lt' (Nat.lt_of_not_le fits))
        rw [total] at taken
        contradiction
      exact (Nat.min_eq_right (Nat.le_trans (Nat.pred_le _) beyond)).symm

theorem cappedTotal_eq_iff : l.cappedTotal = n ↔
    l.total = n.toNat ∨ n.toNat = UInt64.size - 1 ∧ UInt64.size ≤ l.total := by
  have bound : n.toNat < UInt64.size := n.toNat_lt
  rw [← UInt64.toNat_inj, toNat_cappedTotal]
  omega

/-- The faults that a run over the segments finds, each at its place. -/
theorem mem_segmentFaults_iff {earlier : List String} {segments : List Segment} :
    f ∈ segmentFaults earlier segments ↔ ∃ before s after, segments = before ++ s :: after ∧
      (f = .duplicateName s.name ∧ s.name ∈ earlier ++ before.map (·.name) ∨
        f = .emptySegment s.name ∧ s.length.toNat = 0) := by
  induction segments generalizing earlier with
  | nil => simp [segmentFaults]
  | cons s rest ih =>
      have zero : s.length = 0 ↔ s.length.toNat = 0 := UInt64.toNat_inj.symm
      rw [segmentFaults, List.mem_append, List.mem_append, ih]
      constructor
      · rintro ((here | here) | ⟨before, t, after, rfl, found⟩)
        · obtain ⟨taken, rfl⟩ : s.name ∈ earlier ∧ f = .duplicateName s.name := by simpa using here
          exact ⟨[], s, rest, rfl, .inl ⟨rfl, by simpa using taken⟩⟩
        · obtain ⟨empty, rfl⟩ : s.length = 0 ∧ f = .emptySegment s.name := by simpa using here
          exact ⟨[], s, rest, rfl, .inr ⟨rfl, zero.mp empty⟩⟩
        · refine ⟨s :: before, t, after, rfl, ?_⟩
          simpa using found
      · rintro ⟨before, t, after, placed, found⟩
        cases before with
        | nil =>
            obtain ⟨rfl, rfl⟩ := List.cons.inj placed
            obtain ⟨rfl, taken⟩ | ⟨rfl, empty⟩ := found
            · exact .inl (.inl (by simpa using taken))
            · exact .inl (.inr (by simp [zero.mpr empty]))
        | cons first before =>
            obtain ⟨rfl, rfl⟩ := List.cons.inj placed
            refine .inr ⟨before, t, after, rfl, ?_⟩
            simpa using found

theorem mem_checkFaults_iff {s : Segment} : f ∈ l.checkFaults s ↔
    ∃ algorithm appliesTo, s.kind = .check algorithm appliesTo ∧
      ((∃ name ∈ appliesTo, (∀ t ∈ l.segments, t.isCheck = false → t.name ≠ name) ∧
          f = .unknownReference name) ∨
        ∃ text, algorithm = some text ∧ ¬ CheckDigit.Algorithm.Named text ∧
          f = .unknownAlgorithm s.name text) := by
  unfold checkFaults
  cases kind : s.kind with
  | check algorithm appliesTo =>
      have references : f ∈ (appliesTo.filter fun name =>
            !l.segments.any fun t => !t.isCheck && t.name == name).map Fault.unknownReference ↔
          ∃ name ∈ appliesTo, (∀ t ∈ l.segments, t.isCheck = false → t.name ≠ name) ∧
            f = .unknownReference name := by
        simp [List.mem_filter, and_assoc, @eq_comm _ f]
      rw [List.mem_append, references]
      cases algorithm with
      | none => simp
      | some text => simp [CheckDigit.Algorithm.ofText?_eq_none_iff]
  | _ => simp

/-- A layout is told what it has, all of it and nothing else. -/
theorem mem_faults_iff : f ∈ l.faults n ↔ l.Has n f := by
  have capped := toNat_cappedTotal l
  constructor
  · intro told
    simp only [faults, List.mem_append, List.mem_flatMap, List.mem_filter] at told
    obtain ((length | segment) | several) | ⟨s, ⟨member, -⟩, check⟩ := told
    · obtain ⟨differs, rfl⟩ : l.cappedTotal ≠ n ∧ f = .lengthMismatch n l.cappedTotal := by
        simpa using length
      exact .lengthMismatch capped differs
    · obtain ⟨before, s, after, placed, ⟨rfl, taken⟩ | ⟨rfl, empty⟩⟩ :=
        mem_segmentFaults_iff.mp segment
      · exact .duplicateName placed taken
      · exact .emptySegment (placed ▸ List.mem_append_right _ List.mem_cons_self) empty
    · obtain ⟨more, rfl⟩ : 1 < (l.segments.filter (·.isCheck)).length ∧
          f = .severalChecks (l.segments.filter (·.isCheck)).length := by simpa using several
      exact .severalChecks more
    · obtain ⟨algorithm, appliesTo, kind,
        ⟨name, applied, unknown, rfl⟩ | ⟨text, rfl, unknown, rfl⟩⟩ :=
        mem_checkFaults_iff.mp check
      · exact .unknownReference member kind applied unknown
      · exact .unknownAlgorithm member kind unknown
  · intro has
    simp only [faults, List.mem_append, List.mem_flatMap, List.mem_filter]
    cases has with
    | lengthMismatch exact differs =>
        obtain rfl := UInt64.toNat_inj.mp (exact.trans capped.symm)
        exact .inl (.inl (.inl (by simp [differs])))
    | duplicateName placed taken =>
        exact .inl (.inl (.inr (mem_segmentFaults_iff.mpr ⟨_, _, _, placed, .inl ⟨rfl, taken⟩⟩)))
    | emptySegment member empty =>
        obtain ⟨before, after, placed⟩ := List.append_of_mem member
        exact .inl (.inl (.inr (mem_segmentFaults_iff.mpr ⟨_, _, _, placed, .inr ⟨rfl, empty⟩⟩)))
    | severalChecks several => exact .inl (.inr (by simp [several]))
    | unknownReference member kind applied unknown =>
        refine .inr ⟨_, ⟨member, by simp [Segment.isCheck, kind]⟩, mem_checkFaults_iff.mpr ?_⟩
        exact ⟨_, _, kind, .inl ⟨_, applied, unknown, rfl⟩⟩
    | unknownAlgorithm member kind unknown =>
        refine .inr ⟨_, ⟨member, by simp [Segment.isCheck, kind]⟩, mem_checkFaults_iff.mpr ?_⟩
        exact ⟨_, _, kind, .inr ⟨_, rfl, unknown, rfl⟩⟩

/-- A layout is told nothing exactly if it is tidy and its length, as far as a
word can tell, is right. -/
theorem faults_eq_nil_iff : l.faults n = [] ↔ l.Tidy ∧ l.cappedTotal = n := by
  rw [List.eq_nil_iff_forall_not_mem]
  simp only [mem_faults_iff]
  constructor
  · intro none
    refine ⟨⟨?_, ?_, ?_, ?_, ?_⟩, ?_⟩
    · exact Keyed.nodup_iff_new.mpr fun before s after placed taken =>
        none _ (.duplicateName placed taken)
    · intro s member
      by_contra empty
      exact none _ (.emptySegment member (by omega))
    · by_contra several
      exact none _ (.severalChecks (Nat.lt_of_not_le several))
    · intro s member algorithm appliesTo kind name applied
      by_contra unknown
      push Not at unknown
      exact none _ (.unknownReference member kind applied unknown)
    · intro s member text appliesTo kind
      by_contra unknown
      exact none _ (.unknownAlgorithm member kind unknown)
    · by_contra differs
      exact none _ (.lengthMismatch (toNat_cappedTotal l) differs)
  · rintro ⟨tidy, length⟩ f has
    cases has with
    | lengthMismatch capped differs =>
        exact differs ((UInt64.toNat_inj.mp (capped.trans (toNat_cappedTotal l).symm)).trans length)
    | duplicateName placed taken => exact Keyed.nodup_iff_new.mp tidy.names _ _ _ placed taken
    | emptySegment member empty =>
        have positive := tidy.lengths _ member
        omega
    | severalChecks several => exact Nat.not_lt_of_le tidy.single several
    | unknownReference member kind applied unknown =>
        obtain ⟨t, known, plain, same⟩ := tidy.references _ member _ _ kind _ applied
        exact unknown t known plain same
    | unknownAlgorithm member kind unknown => exact unknown (tidy.algorithms _ member _ _ kind)

/-- Every fault that a layout has is listed, and nothing else is. So an empty list tells that the
layout is tidy and of the right length, except where the largest word is asked for and the layout is
longer than that. -/
theorem faults_listed_unless_endless (l : Layout) (n : UInt64) :
    (∀ f, f ∈ l.faults n ↔ l.Has n f) ∧
    (l.faults n = [] ↔ l.Tidy ∧
      (l.total = n.toNat ∨ n.toNat = UInt64.size - 1 ∧ UInt64.size ≤ l.total)) ∧
    ((l.faults n = [] ↔ l.Tidy ∧ l.total = n.toNat) ↔
      ¬ (l.Tidy ∧ n.toNat = UInt64.size - 1 ∧ UInt64.size ≤ l.total)) := by
  have split : l.faults n = [] ↔
      l.Tidy ∧ (l.total = n.toNat ∨ n.toNat = UInt64.size - 1 ∧ UInt64.size ≤ l.total) := by
    rw [faults_eq_nil_iff, cappedTotal_eq_iff]
  refine ⟨fun f => mem_faults_iff, split, ?_⟩
  have apart : l.total = n.toNat → ¬ UInt64.size ≤ l.total := fun same =>
    same ▸ Nat.not_le_of_lt n.toNat_lt
  rw [split]
  constructor
  · rintro listed ⟨tidy, endless⟩
    exact apart (listed.mp ⟨tidy, .inr endless⟩).2 endless.2
  · intro short
    constructor
    · rintro ⟨tidy, exact | endless⟩
      · exact ⟨tidy, exact⟩
      · exact absurd ⟨tidy, endless⟩ short
    · rintro ⟨tidy, exact⟩
      exact ⟨tidy, .inl exact⟩

/-- Two segments, the first of them as long as a word can tell. -/
def overlong : Layout :=
  ⟨[.sample "a" 18446744073709551615 (.numeric none none), .sample "b" 1 (.numeric none none)]⟩

/-- The length of a layout may be wrong and no fault be listed. -/
theorem overlong_unlisted : overlong.faults 18446744073709551615 = [] ∧
    ¬ (overlong.faults 18446744073709551615 = [] ↔
      overlong.Tidy ∧ overlong.total = (18446744073709551615 : UInt64).toNat) := by
  have none : overlong.faults 18446744073709551615 = [] := by decide +kernel
  refine ⟨none, fun sound => ?_⟩
  have length := (sound.mp none).2
  exact absurd length (by decide)

end Layout

end Voucher
