import Gatehouse.Coercion.Basic
import Gatehouse.Value.Equality

/-!
# Reports to clients

Handlers report health and profiles. A report is made of loose values only if each of
them is a text; the state of a service is fine unless something else is said.
-/

namespace Gatehouse

/-- A text under a name, which `standard` stands in for if it is missing. -/
def Checked.text (name : String) (standard : Option String) : Option Datum → Checked String
  | some v => .ofMember name (Coercion.toText v)
  | none =>
    match standard with
    | some s => .ok s
    | none => .ofMember name (.error .missing)

/-- The report on the health of a service with these members. -/
def Health.ofMembers (members : List (Datum × Datum)) : Checked Health :=
  let member (name : String) (standard : Option String) : Checked String :=
    Checked.text name standard (Value.entry? (.str name) members)
  let start : Checked _ := .ok Health.mk
  start.apply (member "status" (some "ok"))
    |>.apply (member "service" none)
    |>.apply (member "version" none)

/-- The profile with this subject and role. -/
def Profile.ofParts (subject role : Datum) : Checked Profile :=
  let start : Checked _ := .ok Profile.mk
  start.apply (Checked.text "subject" none (some subject))
    |>.apply (Checked.text "role" none (some role))

/-- The profile of an identity. -/
def Profile.ofIdentity (i : Identity) : Checked Profile :=
  ofParts (.ofJson i.subject) (.ofJson i.role)

end Gatehouse
