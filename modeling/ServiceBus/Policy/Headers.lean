import ServiceBus.Parties
import ServiceBus.Text.Blank

set_option autoImplicit false

/-! # Policies that look at headers

Two ways to judge an exchange: one accepts everything, and one checks the credentials in the
headers of a request, where it comes in at the provider, against the policy agreed on. Neither
changes the exchange. -/

namespace ServiceBus.Policy

open ServiceBus.Text

/-- The header with the authentication token. -/
def tokenHeader : String := "sbb.auth.token"

/-- The header with the roles of the caller, separated by commas. -/
def rolesHeader : String := "sbb.auth.roles"

/-- The parts of a text between the marks `m`, of which there is at least one. -/
def splitAt (m : Char) : List Char → List (List Char)
  | [] => [[]]
  | c :: s =>
      if c = m then [] :: splitAt m s
      else
        match splitAt m s with
        | [] => [[c]]
        | part :: rest => (c :: part) :: rest

/-- The roles that a header presents: its entries without the blanks around them. -/
def presentedRoles (header : String) : List String :=
  (((splitAt ',' header.toList).map trim).filter fun role => !role.isEmpty).map String.ofList

/-- Whether the message carries a token. -/
def hasToken (m : Message) : Bool :=
  match m.header? tokenHeader with
  | some token => token ≠ ""
  | none => false

/-- The first role, in ascending order, that the policy requires and the message does not
present. -/
def missingRole? (p : AgreedPolicy) (m : Message) : Option String :=
  let presented := presentedRoles ((m.header? rolesHeader).getD "")
  p.requiredRoles.keys.find? fun role => !presented.contains role

/-- Why the policy rejects a request, if it does. -/
def rejection? (p : AgreedPolicy) (m : Message) : Option PolicyViolation :=
  if p.requireAuthentication && !hasToken m then
    some ⟨.authentication, "Policy " ++ p.policyId ++ " requires an authentication token"⟩
  else
    (missingRole? p m).map fun role =>
      ⟨.authorization, "Caller lacks role '" ++ role ++ "' required by " ++ p.policyId⟩

/-- Accept everything. -/
def permissive (e : Exchange) (_ : Role) (_ : Option AgreedPolicy) (_ : Scope) : Ruling := ⟨e, none⟩

/-- Check the headers of a request where it comes in at the provider. -/
def byHeaders (e : Exchange) (role : Role) (policy : Option AgreedPolicy) (scope : Scope) : Ruling :=
  match policy, role, scope with
  | some p, .receiver, .request =>
      match e.input with
      | some m => ⟨e, rejection? p m⟩
      | none => ⟨e, some ⟨.other, "Request leg carries no message to check"⟩⟩
  | _, _, _ => ⟨e, none⟩

end ServiceBus.Policy
