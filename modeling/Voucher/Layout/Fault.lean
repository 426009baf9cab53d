import Voucher.Layout.Basic

/-!
Faults of a layout: all that a rule's author should mend before codes are printed. Faults of the
whole come first, then those of each segment in turn, then those of the check segments.
-/
namespace Voucher

namespace Layout

inductive Fault where
  | lengthMismatch (expected actual : UInt64)
  | duplicateName (name : String)
  | emptySegment (name : String)
  | severalChecks (count : Nat)
  | unknownReference (name : String)
  | unknownAlgorithm (segment algorithm : String)
  deriving DecidableEq

namespace Fault

/-- The name of a fault's kind. -/
def kind : Fault → String
  | lengthMismatch .. => "LengthMismatch"
  | duplicateName _ => "DuplicateName"
  | emptySegment _ => "EmptySegment"
  | severalChecks _ => "MultipleCheckSegments"
  | unknownReference _ => "UnknownReference"
  | unknownAlgorithm .. => "UnknownAlgorithm"

def message : Fault → String
  | lengthMismatch expected actual =>
    "段长度之和 " ++ toString actual.toNat ++ " 与载荷长度 " ++ toString expected.toNat ++ " 不一致"
  | duplicateName name => "段名重复: " ++ name
  | emptySegment name => "段 " ++ name ++ " 长度为 0"
  | severalChecks count => "存在多个 check 段: " ++ toString count
  | unknownReference name => "check 段引用了不存在的段: " ++ name
  | unknownAlgorithm segment algorithm => "段 " ++ segment ++ " 的算法无法识别: " ++ algorithm

end Fault

/-- A name that an earlier segment has, and a length of zero. -/
def segmentFaults : (earlier : List String) → List Segment → List Fault
  | _, [] => []
  | earlier, s :: rest =>
    (if s.name ∈ earlier then [Fault.duplicateName s.name] else []) ++
      (if s.length = 0 then [Fault.emptySegment s.name] else []) ++
      segmentFaults (earlier ++ [s.name]) rest

/-- A name that no segment but check segments has, and an algorithm that is not known. -/
def checkFaults (l : Layout) (s : Segment) : List Fault :=
  match s.kind with
  | .check algorithm appliesTo =>
    ((appliesTo.filter fun name => !l.segments.any fun t => !t.isCheck && t.name == name).map
      Fault.unknownReference) ++
    (match algorithm with
      | some a =>
        if (CheckDigit.Algorithm.ofText? a).isNone then [Fault.unknownAlgorithm s.name a] else []
      | none => [])
  | _ => []

/-- The faults of a layout for payloads of a given length. -/
def faults (l : Layout) (totalLength : UInt64) : List Fault :=
  let checks := l.segments.filter (·.isCheck)
  (if l.cappedTotal = totalLength then [] else [Fault.lengthMismatch totalLength l.cappedTotal]) ++
    segmentFaults [] l.segments ++
    (if 1 < checks.length then [Fault.severalChecks checks.length] else []) ++
    checks.flatMap (checkFaults l)

end Layout

end Voucher
