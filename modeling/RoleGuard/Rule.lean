import RoleGuard.Journal
import RoleGuard.Value.Call
import RoleGuard.Value.Method

/-!
# Evaluating rules

A rule answers for an identity.  The identity's role is read from its `role`
attribute or key; one that cannot be read, or is no text, or is empty, counts
as no role.  A disjunction asks its rules from left to right and stops at the
first that is true.  Rules may lie in each other to any depth: the room that an
interpreter has for nested calls is left out.
-/

namespace RoleGuard

/-- Reads the `role` of an identity, `null` when it has none. -/
def readRole (identity : Value) : Except Fault Value :=
  match identity with
  | .null => .ok .null
  | v =>
      if v.isMapping then v.get (.text "role") .null
      else v.readAttributeOr "role" .null

/-- A role is a non-empty text. -/
def usableRole? : Value → Option String
  | .text name => if name = "" then none else some name
  | _ => none

/-- The role of an identity.  A read that fails is noted and counts as no
role. -/
def roleOf (identity : Value) : Logged (Option String) :=
  match readRole identity with
  | .ok role => return usableRole? role
  | .error fault => do
      Logged.note (.roleUnreadable fault)
      return none

/-- A role that an identity has or lacks, as a value. -/
def roleValue : Option String → Value
  | some name => .text name
  | none => .null

namespace ProvidedResolver

/-- Reads the requester from a request: its `user`, if that is authenticated.
Requests without one and anonymous users have no identity.  `look` gives the
object that a value refers to. -/
def requestIdentity (look : Value → Value) (request : Value) :
    Except Fault Value := do
  let user ← (look request).readAttributeOr "user" .null
  match look user with
  | .null => return .null
  | found =>
      let mark ← found.readAttributeOr "is_authenticated" (.bool false)
      if (look mark).truthy then
        return .identity (← found.readAttributeOr "role" .null) user
      else return .null

/-- The identity that a provided resolver finds in a context. -/
def resolve (look : Value → Value) (resolver : ProvidedResolver)
    (context : Value) : Except Fault Value :=
  match resolver with
  | .requestUser => requestIdentity look context
  | .alwaysAdmin => .ok (.identity (.text "ADMIN") .null)
  | .contextIdentity => (look context).item (.text "identity")

end ProvidedResolver

/-- The answer of a value that is no rule and passes no call on: provided
resolvers are called, and so are the operations of plain values.  `look` gives
the object that a value refers to. -/
def Value.answerPlain (asked : Value) (look : Value → Value)
    (identity : Value) : Except Fault Value :=
  match asked with
  | .provided source => source.resolve look identity
  | .method receiver name => receiver.content.callOperation name
  | .elided _ => .error .endless
  | _ => .error (.lacks .calling asked.fullTypeName)

namespace Rule

mutual

/-- The answer of a rule for an identity. -/
def evaluate : Rule → Value → Logged Value
  | .constant said, _ => return said
  | .role name, identity => do
      let role ← roleOf identity
      return .bool ((roleValue role).same name)
  | .anyOf rules, identity => return .bool (← evaluateAny rules identity)
  | .unimplemented, _ => throw .unimplemented
  | .explode message, _ => throw (.application .general message)
  | .answer v, _ => return v

/-- Whether a rule of the list is true, asked from left to right. -/
def evaluateAny : List Rule → Value → Logged Bool
  | [], _ => return false
  | rule :: rest, identity => do
      if (← evaluate rule identity).truthy then return true
      else evaluateAny rest identity

end

end Rule

/-- Calls values where nothing but the journal changes. -/
def Logged.caller : Caller Logged where
  fail := throw
  leaf asked identity :=
    match asked with
    | .rule r => r.evaluate identity
    | _ => asked.answerPlain id identity
  holds answer := return answer.truthy

/-- Asks a value about an identity: rules are evaluated and other values
called. -/
def Value.ask (asked identity : Value) : Logged Value :=
  asked.callBy Logged.caller identity

end RoleGuard
