import RoleGuard.Site

/-!
# Guarded endpoints

An endpoint serves requests for a schema.  Its guard stands before the stages
configured for it and asks the policy's own resolver, with the request as the
context, so that nothing the request holds can take the resolver's place.
-/

namespace RoleGuard

/-- A stage that every field passes: the endpoint's guard or a configured
one. -/
inductive Stage where
  | guard
  | configured (label : String)
  deriving DecidableEq, Repr

/-- The stages configured for an endpoint: none, a list of them or those that a
manager has. -/
inductive Configured where
  | none
  | listed (labels : List String)
  | managed (labels : List String)

namespace Configured

def labels : Configured → List String
  | none => []
  | listed labels | managed labels => labels

end Configured

/-- An endpoint with its policy, its guard and the stages configured for it. -/
structure Endpoint where
  policy : Policy
  guard : Guard
  configured : Configured

/-- What is asked of an endpoint for a request: its context or the stages that
its fields pass. -/
inductive Query where
  | context (request : Value)
  | stages (request : Value)

inductive Reply where
  | context (context : Value)
  | stages (stages : List Stage)

namespace Endpoint

/-- An endpoint that enforces a policy. -/
def enforcing (policy : Policy) (configured : Configured) : Endpoint where
  policy := policy
  guard := policy.guard policy.getUser
  configured := configured

/-- An endpoint with a list of stages. -/
def ofPolicy (policy : Policy) (labels : List String) : Endpoint :=
  enforcing policy (.listed labels)

/-- The policy of an endpoint: the one given, or else the one of its class, or
else the default. -/
def choosePolicy (given ofClass : Option Policy) :
    SiteAct (Policy × Option Nat) := do
  match given, ofClass with
  | some policy, _ => return (policy, none)
  | none, some policy => return (policy, none)
  | none, none => do
      let current ← Site.defaultPolicy
      return (current.policy, some current.serial)

/-- An endpoint of a class, with a policy of its own if one is given. -/
def make (given ofClass : Option Policy) (configured : Configured) :
    SiteAct Endpoint := do
  let (policy, _) ← choosePolicy given ofClass
  return enforcing policy configured

/-- The stages of an endpoint, its guard first. -/
def stages (endpoint : Endpoint) : List Stage :=
  .guard :: endpoint.configured.labels.map .configured

/-- The context of a request: the request itself without a memo. -/
def context (_ : Endpoint) (request : Value) : Act Value := do
  Context.forget request
  return request

/-- Answers a query.  It may change the endpoint that it is put to. -/
def answer (query : Query) : StateT Endpoint Act Reply := do
  let endpoint ← get
  match query with
  | .context request => return .context (← endpoint.context request)
  | .stages _ => return .stages endpoint.stages

end Endpoint

end RoleGuard
