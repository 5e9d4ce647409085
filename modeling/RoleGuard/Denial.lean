import RoleGuard.Value.Call

/-!
# Denials

A denied access reports a message and extensions; the extensions name the
denial by a `code`, which a caller may have set.  The report sent to the client
has the message, the path of the field if there is one, and the extensions.
-/

namespace RoleGuard

namespace Denial

/-- The message of a denial that is given none. -/
def defaultMessage : String := "Not Authorised!"

/-- The code of a denial that is given none. -/
def defaultCode : Value × Value := (.text "code", .text "FORBIDDEN")

/-- Adds the code to extensions that lack one. -/
def withCode (entries : List (Value × Value)) : List (Value × Value) :=
  match Value.find? entries defaultCode.1 with
  | some _ => entries
  | none => entries ++ [defaultCode]

/-- A denial with a message and extensions given by the caller; extensions that
are empty or no value at all are replaced.  Other extensions than a writable
mapping cannot take the code: what they have under the name of the operation
for that does not take a key and a value. -/
def make (message given : Value) : Except Fault Denial :=
  let used := given.orElse (.map [])
  match used.content with
  | .map entries => .ok ⟨message, .map (withCode entries)⟩
  | _ => .error (used.operationSurplus "setdefault" 2)

/-- The text of a denial, which it has only if its message is text. -/
def text (denial : Denial) : Except Fault String :=
  match denial.message with
  | .text s => .ok s
  | v =>
      .error (.unsuitable ("sequence item 0: expected str instance, " ++
        v.fullTypeName ++ " found"))

def ofMessage (message : Value) : Denial :=
  ⟨message, .map (withCode [])⟩

/-- The caller's extensions after a denial has been made of them: the code has
been added to those that were used. -/
def givenAfter (given : Value) (denial : Denial) : Value :=
  if given.truthy then denial.extensions else given

/-- The path of a denial as kept: an empty one is none. -/
def pathOf (path : List Value) : Value :=
  if path.isEmpty then .null else .sequence .list path

def report (denial : Denial) (path : List Value) : Value :=
  .map <|
    [(.text "message",
        denial.message.orElse (.text "An unknown error occurred."))] ++
      (if path.isEmpty then [] else [(.text "path", .sequence .list path)]) ++
      [(.text "extensions", denial.extensions)]

end Denial

end RoleGuard
