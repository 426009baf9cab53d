import Voucher.Rule.Basic

/-!
Sample rules and a sample project: codes of ten digits with a Luhn digit, and printed codes such as
`dn-2026-abcd1234-3`, whose check digit covers the year alone.
-/
namespace Voucher

/-- A segment without a description. -/
def Segment.sample (name : String) (length : UInt64) (kind : Segment.Kind) : Segment :=
  ⟨name, length, none, kind⟩

namespace Rule

def sample : Rule where
  id := .nil
  projectId := .nil
  name := "Luhn 11"
  skuReference := none
  totalLength := 11
  charset := .numeric
  customCharset := none
  hasCheckDigit := true
  checkAlgorithm := some .luhn
  checkPosition := some .last
  layout := ⟨[.sample "unique_code" 10 (.numeric none none),
    .sample "check" 1 (.check none ["unique_code"])]⟩
  separator := none
  caseSensitive := false
  codePrefix := none
  customCheck := none
  maxRedemptions := 1
  productInfo := some (.ofJson (.obj [("sku", .str "SKU-001")]))
  campaignInfo := none
  pointsValue := some 100
  allowedCountries := []
  isActive := true
  createdAt := .epoch

def prefixedSample : Rule :=
  { sample with
    name := "Prefixed"
    codePrefix := some "DN"
    separator := some "-"
    totalLength := 13
    charset := .alphanumeric
    layout := ⟨[.sample "year" 4 (.numeric (some 2024) (some 2030)),
      .sample "unique_code" 8 .alphanumeric,
      .sample "check" 1 (.check (some "luhn") ["year"])]⟩ }

end Rule

def Project.sample : Project where
  id := .nil
  tenantId := .nil
  name := "Test Project"
  description := none
  startsAt := none
  endsAt := none
  isActive := true
  metadata := none
  createdAt := .epoch

end Voucher
