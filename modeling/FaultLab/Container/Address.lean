import FaultLab.Failure
import FaultLab.Text.Split
import FaultLab.Uuid

/-! # Names and addresses of containers

The containers of one deployment share a project, whose name no other deployment has, and a network
of 256 addresses.  Member `i` has the address that ends in `10 + i`; the one that ends in `1` is the
gateway's. -/

namespace FaultLab.Container

/-- The value of a text of digits, with an optional plus sign in front, if it is below 256. -/
def octet? (cs : List Char) : Option Nat :=
  let digits := match cs with
    | '+' :: r => r
    | r => r
  let value := Endpoint.digitsValue digits
  if !digits.isEmpty ∧ digits.all Char.isDigit ∧ value < 256 then some value else none

/-- The first three parts of a network of 256 addresses. -/
def subnetBase? (subnet : String) : Option (List Char × List Char × List Char) := do
  let (base, mask) ← Text.splitFirst '/' subnet.toList
  match Text.splitEvery (· = '.') base with
  | [a, b, c, d] =>
    if mask = ['2', '4'] ∧ (octet? a).isSome ∧ (octet? b).isSome ∧ (octet? c).isSome ∧
        (octet? d).isSome then
      return (a, b, c)
    else none
  | _ => none

/-- The address of member `index` in a network. -/
def nodeAddress (subnet : String) (index : Nat) : Except FixtureError String :=
  match subnetBase? subnet with
  | none => .error (.invalid s!"subnet {Text.quote subnet} is not an IPv4 /24")
  | some (a, b, c) =>
    if 254 < 10 + index then .error (.invalid s!"too many nodes for subnet {subnet}")
    else .ok (String.ofList (a ++ '.' :: b ++ '.' :: c ++ '.' :: Nat.toDigits 10 (10 + index)))

/-- The address of the gateway of a network, if the network is written with a mask and a dot. -/
def gatewayAddress? (subnet : String) : Option String := do
  let (base, _) ← Text.splitFirst '/' subnet.toList
  let (front, _) ← Text.splitLast '.' base
  return String.ofList (front ++ ['.', '1'])

/-! ### Names -/

/-- The label that everything in a project bears. -/
def projectLabel : String := "faultline.project"

/-- The name of a project: no other has the twelve digits of its identifier. -/
def projectName (fixtureName : String) (identifier : Uuid) : String :=
  s!"faultline-{fixtureName}-" ++ String.ofList (identifier.simple.take 12)

/-- The name of a project's network. -/
def networkName (project : String) : String := project ++ "-net"

/-- The name of the container of member `index`. -/
def containerName (project : String) (index : Nat) : String := s!"{project}-node-{index}"

end FaultLab.Container
