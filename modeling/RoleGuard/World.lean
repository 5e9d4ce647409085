import RoleGuard.Host
import RoleGuard.Journal
import RoleGuard.Value.Access

/-!
# The state that requests share

A world keeps what the application runs on, the store of objects, the
resolvers an application has registered and how often each was called, the
tasks scheduled on an event loop, the fields resolved so far and the journal.

The store has what each object holds now.  An object inside another value
carries what it held when it was looked at; looking again brings that up to
date.

Operations on a world either return, fail with a fault, which ordinary failure
handling may tolerate, or abort, which it may not.
-/

namespace RoleGuard

/-- Why an operation did not return. -/
inductive Stop where
  | fault (fault : Fault)
  | abort (message : String)

/-- A resolver registered by the application.  Call number `n` has outcome
number `n` of the script, the last one repeating.  A `deferred` resolver returns
an awaitable of its outcome. -/
structure Resolver where
  name : String
  deferred : Bool
  script : List Outcome
  calls : Nat

/-- A task: what it awaits and, once it has run, how that ended. -/
structure Task where
  body : Pending
  result : Option (Except Stop Value)

/-- A field resolved by the application, for the request with the given ticket:
the parent object and the arguments that it was called with. -/
structure Visit where
  ticket : Nat
  root : Value
  arguments : List (String × Value)

/-- The state that requests share. -/
structure World where
  host : Host
  objects : List Value
  resolvers : List Resolver
  tasks : List Task
  loopRunning : Bool
  visits : List Visit
  journal : Journal

namespace World

def initial (host : Host) (loopRunning : Bool) : World :=
  ⟨host, [], [], [], loopRunning, [], []⟩

/-- What a value holds now, the value itself unless it is an object.  An object
that is not in the store holds what it carries. -/
def held (world : World) : Value → Value
  | .object number last => world.objects.getD number last
  | v => v

def look (world : World) : Value → Value
  | .object number last => .object number (world.objects.getD number last)
  | v => v

def replace (world : World) (target v : Value) : World :=
  match target with
  | .object number _ =>
      { world with objects := world.objects.set number v }
  | _ => world

/-- Puts a value into the store as an object of its own. -/
def share (world : World) (v : Value) : Value × World :=
  (.object world.objects.length v,
    { world with objects := world.objects ++ [v] })

end World

mutual

def Value.replaceObjects (object : Nat → Value → Value) : Value → Value
  | .object number v => object number v
  | .sequence kind items => .sequence kind (replaceItems object items)
  | .set items => .set (replaceItems object items)
  | .map entries => .map (replaceEntries object entries)
  | .proxy entries => .proxy (replaceEntries object entries)
  | .annotatedMap entries attributes =>
      .annotatedMap (replaceEntries object entries)
        (replaceAttributes object attributes)
  | .identity role user =>
      .identity (role.replaceObjects object) (user.replaceObjects object)
  | .record attributes => .record (replaceAttributes object attributes)
  | .slotted slots attributes =>
      .slotted slots (replaceAttributes object attributes)
  | .locked refusal attributes =>
      .locked refusal (replaceAttributes object attributes)
  | .classed inherited own =>
      .classed (replaceAttributes object inherited)
        (replaceAttributes object own)
  | .rule r => .rule (r.replaceObjects object)
  | .disjunction source => .disjunction (source.replaceObjects object)
  | .memo source operation who =>
      .memo (source.replaceObjects object) operation
        (who.replaceObjects object)
  | .extended v attributes =>
      .extended (v.replaceObjects object) (replaceAttributes object attributes)
  | v => v

def Rule.replaceObjects (object : Nat → Value → Value) : Rule → Rule
  | .constant answer => .constant (answer.replaceObjects object)
  | .role name => .role (name.replaceObjects object)
  | .anyOf rules => .anyOf (replaceRules object rules)
  | .answer v => .answer (v.replaceObjects object)
  | r => r

def replaceRules (object : Nat → Value → Value) : List Rule → List Rule
  | [] => []
  | r :: rest => r.replaceObjects object :: replaceRules object rest

def replaceItems (object : Nat → Value → Value) : List Value → List Value
  | [] => []
  | v :: rest => v.replaceObjects object :: replaceItems object rest

def replaceEntries (object : Nat → Value → Value) :
    List (Value × Value) → List (Value × Value)
  | [] => []
  | (k, v) :: rest =>
      (k.replaceObjects object, v.replaceObjects object) ::
        replaceEntries object rest

def replaceAttributes (object : Nat → Value → Value) :
    List (String × Value) → List (String × Value)
  | [] => []
  | (name, v) :: rest =>
      (name, v.replaceObjects object) :: replaceAttributes object rest

end

/-- What is shown in the place of an object inside itself.  A rule inside itself
cannot be shown. -/
def Value.elision (v : Value) : Value :=
  match v.content with
  | .rule _ | .disjunction _ => .elided ""
  | .map _ => .elided "\x7b...\x7d"
  | .record _ => .elided "namespace(...)"
  | _ => .elided "..."

namespace World

/-- A value with what it and every object in it hold now.  `outer` are the
numbers of the objects around it, which are elided; the first argument bounds
how deep objects lie in each other. -/
def refreshWithin (world : World) : Nat → List Nat → Value → Value
  | 0, _, v => v
  | depth + 1, outer, v =>
      v.replaceObjects fun number last =>
        let now := world.objects.getD number last
        if outer.contains number then now.elision
        else
          .object number (world.refreshWithin depth (number :: outer) now)

/-- A value with what it and every object in it hold now.  An object occurs at
most once among those around it, so their number bounds the depth. -/
def refresh (world : World) (v : Value) : Value :=
  world.refreshWithin (world.objects.length + 1) [] v

end World

/-- An operation on a world. -/
abbrev Act (α : Type) := ExceptT Stop (StateM World) α

namespace Act

def fail (fault : Fault) : Act α := throw (.fault fault)

def abort (message : String) : Act α := throw (.abort message)

/-- Goes on with a result that may be a fault. -/
def ofExcept : Except Fault α → Act α
  | .ok a => return a
  | .error fault => fail fault

/-- Runs a computation that notes events, on the world's journal. -/
def ofLogged (computation : Logged α) : Act α := do
  let world ← get
  let (result, journal) := Id.run ((ExceptT.run computation).run world.journal)
  set { world with journal }
  ofExcept result

def note (event : Event) : Act Unit :=
  modify fun world => { world with journal := world.journal ++ [event] }

def look (v : Value) : Act Value := return (← get).look v

/-- A value with what it and every object in it hold now. -/
def refresh (v : Value) : Act Value := return (← get).refresh v

/-- Runs an operation whose faults are given to a handler; an abort passes. -/
def tolerate (operation : Act α) (handler : Fault → Act α) : Act α :=
  tryCatch operation fun
    | .fault fault => handler fault
    | .abort message => abort message

/-- Runs an operation to its end and gives how it ended. -/
def observe (operation : Act α) : Act (Except Stop α) :=
  tryCatch (.ok <$> operation) fun stop => return .error stop

end Act

end RoleGuard
