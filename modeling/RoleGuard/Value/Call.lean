import RoleGuard.Value.Access

/-!
# Calling values

Some values pass a call on: an object to what its type answers calls with, a
rule to an `evaluate` that it has been given, and a disjunction to each of its
items in turn.  All other values answer by themselves.  How they do, and what
else happens then, is up to the computation that calls them.
-/

namespace RoleGuard

/-- What a computation needs for calling values: to fail, to call what answers
by itself, and to tell whether an answer is true. -/
structure Caller (m : Type → Type) where
  fail : Fault → m Value
  leaf : Value → Value → m Value
  holds : Value → m Bool

/-- The name of a function in messages about its arguments. -/
def ProvidedResolver.functionName : ProvidedResolver → String
  | .requestUser => "get_request_identity"
  | .alwaysAdmin | .contextIdentity => "<lambda>"

/-- The name under which a rule that is evaluated in a way of its own has it. -/
def evaluateName : String := "evaluate"

namespace Value

/-- What is said of a function that is given more arguments than it takes. -/
def surplusText (function : String) (taken given : Nat) : String :=
  function ++ "() takes " ++ toString taken ++ " positional argument" ++
    (if taken = 1 then "" else "s") ++ " but " ++ toString given ++
    " were given"

mutual

/-- Why a value cannot be called with that many arguments, which are more than
one: nothing that can be called takes them. -/
def surplus : Value → Nat → Fault
  | .object _ v, given | .extended v _, given => v.surplus given
  | .provided source, given =>
      .unsuitable (surplusText source.functionName 1 given)
  | .bound _ function, given => function.surplus (given + 1)
  | .rule _, given | .disjunction _, given =>
      .unsuitable (surplusText "Rule.__call__" 2 (given + 1))
  | .resolver _ _, given =>
      .unsuitable (surplusText "Resolver.__call__" 2 (given + 1))
  | .classed inherited own, given =>
      surplusNamed inherited true (classed inherited own).fullTypeName given
  | .slotted slots attributes, given =>
      surplusNamed attributes false (slotted slots attributes).fullTypeName given
  | v, _ => .lacks .calling v.fullTypeName

/-- Why the attribute that an object answers calls with cannot be called with
that many arguments; a type binds its functions to the object. -/
def surplusNamed : List (String × Value) → Bool → String → Nat → Fault
  | [], _, typeName, _ => .lacks .calling typeName
  | (name, v) :: rest, binds, typeName, given =>
      if name = callName then
        v.surplus (if binds && v.isFunction then given + 1 else given)
      else surplusNamed rest binds typeName given

end

/-- Why an operation that a value is expected to have cannot be called with that
many arguments. -/
def operationSurplus (v : Value) (name : String) (given : Nat) : Fault :=
  match v.readAttribute name with
  | .ok operation => operation.surplus given
  | .error fault => fault

section

variable {m : Type → Type} [Monad m] (caller : Caller m)

/-- What calling the first of some items gives, none of which can be called:
without items no answer is true. -/
def callFirst : List Value → m Value
  | [] => return .bool false
  | item :: _ => caller.fail (.lacks .calling item.fullTypeName)

mutual

def callBy : Value → Value → m Value
  | .object _ v, argument => callBy v argument
  | .extended v attributes, argument =>
      if v.isRule && (findAttribute? attributes evaluateName).isSome then
        callNamed attributes evaluateName false v.fullTypeName argument
      else callBy v argument
  | .classed inherited own, argument =>
      callNamed inherited callName true (classed inherited own).fullTypeName
        argument
  | .slotted slots attributes, argument =>
      callNamed attributes callName false
        (slotted slots attributes).fullTypeName argument
  | .bound _ function, _ => caller.fail (function.surplus 2)
  | .method receiver name, argument =>
      if receiver.isRule then callBy receiver argument
      else caller.leaf (.method receiver name) argument
  | .disjunction source, argument => callItems source argument
  | v, argument => caller.leaf v argument
termination_by structural v => v

/-- Calls the attribute of a name with an argument; a type binds its functions
to the object.  An object without the attribute cannot be called. -/
def callNamed :
    List (String × Value) → String → Bool → String → Value → m Value
  | [], _, _, typeName, _ => caller.fail (.lacks .calling typeName)
  | (given, v) :: rest, name, binds, typeName, argument =>
      if given = name then
        if binds && v.isFunction then caller.fail (v.surplus 2)
        else callBy v argument
      else callNamed rest name binds typeName argument
termination_by structural attributes => attributes

/-- Calls the items met when iterating over a value until the answer of one is
true. -/
def callItems : Value → Value → m Value
  | .object _ v, argument | .extended v _, argument => callItems v argument
  | .sequence _ items, argument | .set items, argument =>
      callEach items argument
  | .map entries, argument | .proxy entries, argument
  | .annotatedMap entries _, argument => callKeys entries argument
  | .range start stop, _ => callFirst caller (rangeFront start stop)
  | .elided "", _ => caller.fail (.lacks .iteration "RuleOr")
  | .elided _, _ => caller.fail .endless
  | v, _ =>
      match v.iterate with
      | .ok items => callFirst caller items
      | .error fault => caller.fail fault
termination_by structural v => v

/-- Calls values from left to right until the answer of one is true. -/
def callEach : List Value → Value → m Value
  | [], _ => return .bool false
  | v :: rest, argument => do
      if ← caller.holds (← callBy v argument) then return .bool true
      else callEach rest argument
termination_by structural items => items

/-- Calls keys from left to right until the answer of one is true. -/
def callKeys : List (Value × Value) → Value → m Value
  | [], _ => return .bool false
  | (k, _) :: rest, argument => do
      if ← caller.holds (← callBy k argument) then return .bool true
      else callKeys rest argument
termination_by structural entries => entries

end

end

end Value

end RoleGuard
