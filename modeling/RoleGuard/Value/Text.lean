import RoleGuard.Value.Access

/-!
# Whether a value has a text

A disjunction is shown with the items of its source, so a source that cannot be
iterated over leaves it, and everything that it is shown in, without a text; a
number with too many digits has none either.  What is wrong with a configuration
is reported together with the value at fault, so a value without a text keeps it
from being reported.
-/

namespace RoleGuard

/-- What keeps a number from being shown: it has more digits than are
written. -/
def digitObstacle? (n : Int) : Option Fault :=
  if Nat.pow 10 Document.integerDigitLimit ≤ n.natAbs then
    some (.invalid
      ("Exceeds the limit (" ++ toString Document.integerDigitLimit ++
        " digits) for integer string conversion; use " ++
        "sys.set_int_max_str_digits() to increase the limit"))
  else none

mutual

def Rule.obstacle? : Rule → Option Fault
  | .role name => name.obstacle?
  | .anyOf rules => Rule.firstObstacle? rules
  | .answer v => v.obstacle?
  | _ => none

def Rule.firstObstacle? : List Rule → Option Fault
  | [] => none
  | r :: rest => r.obstacle? <|> Rule.firstObstacle? rest

def Value.obstacle? : Value → Option Fault
  | .object _ v | .extended v _ => v.obstacle?
  | .int n => digitObstacle? n
  | .range start stop => digitObstacle? start <|> digitObstacle? stop
  | .rule r => r.obstacle?
  | .method receiver _ =>
      if receiver.isRule then receiver.obstacle? else none
  | .bound receiver _ => receiver.obstacle?
  | .disjunction source => source.obstacleInItems?
  | .sequence _ items | .set items => Value.firstObstacle? items
  | .map entries | .proxy entries | .annotatedMap entries _ =>
      Value.obstacleInEntries? entries
  | .identity role user => role.obstacle? <|> user.obstacle?
  | .record attributes => Value.obstacleInAttributes? attributes
  | .memo source _ who => source.obstacle? <|> who.obstacle?
  | .elided "" => some .endless
  | _ => none

def Value.obstacleInItems? : Value → Option Fault
  | .object _ v | .extended v _ => v.obstacleInItems?
  | .sequence _ items | .set items => Value.firstObstacle? items
  | .map entries | .proxy entries | .annotatedMap entries _ =>
      Value.obstacleInKeys? entries
  | .elided "" => some (.lacks .iteration "RuleOr")
  | .elided _ => some .endless
  | v =>
      match v.iterate with
      | .ok _ => none
      | .error fault => some fault

def Value.firstObstacle? : List Value → Option Fault
  | [] => none
  | v :: rest => v.obstacle? <|> Value.firstObstacle? rest

def Value.obstacleInKeys? : List (Value × Value) → Option Fault
  | [] => none
  | (k, _) :: rest => k.obstacle? <|> Value.obstacleInKeys? rest

/-- What keeps the entries of a mapping from being shown. -/
def Value.obstacleInEntries? : List (Value × Value) → Option Fault
  | [] => none
  | (k, v) :: rest =>
      k.obstacle? <|> v.obstacle? <|> Value.obstacleInEntries? rest

/-- What keeps the attributes of an object from being shown. -/
def Value.obstacleInAttributes? : List (String × Value) → Option Fault
  | [] => none
  | (_, v) :: rest => v.obstacle? <|> Value.obstacleInAttributes? rest

end

/-- The text of a value, unless something in it keeps it from being shown. -/
def Value.displayed (v : Value) : Except Fault String :=
  match v.obstacle? with
  | some fault => .error fault
  | none => .ok v.display

/-- What reporting a misconfiguration ends in: a failure to show the value at
fault, if there is one. -/
def Misconfiguration.fault (cause : Misconfiguration) : Fault :=
  match cause.shown.displayed with
  | .ok _ => .configuration cause
  | .error fault => fault

end RoleGuard
