import Voucher.Rule.Basic
import Voucher.Text.Blank
import Voucher.Validation.Rejection

/-!
Admission of a matched code: the project and the rule are active, the instant lies in the project's
window, both ends included, and the consumer's country is one of the rule's.
-/
namespace Voucher

def Document.ofMembers (members : List (String × Json)) : Document := .ofJson (.obj members)

/-- The rule may be used now. -/
def checkVigency (project : Project) (rule : Rule) (now : Instant) : Except Rejection Unit :=
  if !project.isActive then .error ⟨.projectInactive, "Project is not active", none⟩
  else if !rule.isActive then .error ⟨.ruleInactive, "Code rule is not active", none⟩
  else
    match project.startsAt.filter (now.lt ·), project.endsAt.filter (·.lt now) with
    | some start, _ =>
      .error ⟨.projectExpired, "Project has not started yet",
        some (.ofMembers [("startsAt", .str start.offsetText)])⟩
    | none, some stop =>
      .error ⟨.projectExpired, "Project has expired",
        some (.ofMembers [("endsAt", .str stop.offsetText)])⟩
    | none, none => .ok ()

/-- A country as it is compared: without blanks at the ends, in upper case, not empty. -/
def normalizedCountry? (country : Option String) : Option String :=
  (country.map fun c => Text.upper (Text.trim c)).filter fun c => !c.isEmpty

/-- The rule admits the country; a rule that lists no country admits all. -/
def checkCountry (rule : Rule) (country : Option String) : Except Rejection Unit :=
  if rule.allowedCountries.isEmpty then .ok ()
  else
    let given := normalizedCountry? country
    let allowed := match given with
      | some c => rule.allowedCountries.any fun a => Text.equalIgnoringAsciiCase (Text.trim a) c
      | none => false
    if allowed then .ok ()
    else .error ⟨.geoBlocked, "Code is not valid in this country",
      some (.ofMembers [("country", .ofStringOption given),
        ("allowedCountries", .ofStrings rule.allowedCountries)])⟩

end Voucher
