import RoleGuard.Fault

/-!
# What an application runs on

Files, modules and the room for nested calls are not the library's own.  A host
says what reading them gives: the bytes of a file or what the system reports
instead, what a module has under a name or how getting it fails, and how deep
the brackets of a document may be nested before the reader of documents runs out
of room.
-/

namespace RoleGuard

structure Host where
  files : FilePath → Except String (List UInt8)
  names : (modulePath name : String) → Except Fault Value
  nesting : Nat

namespace Host

def fileAbsent (path : FilePath) : String :=
  "[Errno 2] No such file or directory: " ++ Text.quoted path.text

def moduleAbsent (modulePath : String) : Fault :=
  .importFailed ("No module named " ++ Text.quoted modulePath)

/-- A host without files and modules. -/
def bare : Host where
  files path := .error (fileAbsent path)
  names modulePath _ := .error (moduleAbsent modulePath)
  nesting := 1000

/-- The part before the last dot and the part after it. -/
def splitLast (path : String) : Option (String × String) :=
  let characters := path.toList.reverse
  let last := characters.takeWhile (· != '.')
  match characters.dropWhile (· != '.') with
  | [] => none
  | _ :: before =>
      some (String.ofList before.reverse, String.ofList last.reverse)

/-- What a dotted path leads to: all but the last part name a module, the last
part something in it.  A name that the module does not have fails the import. -/
def importPath (host : Host) (path : String) : Except Fault Value :=
  match splitLast path with
  | none => .error (.importFailed (path ++ " doesn't look like a module path"))
  | some (modulePath, name) =>
      match host.names modulePath name with
      | .ok v => .ok v
      | .error fault =>
          if fault.meansAbsent then
            .error (.importFailed ("Module \"" ++ modulePath ++
              "\" does not define a \"" ++ name ++ "\" attribute/class"))
          else .error fault

end Host

end RoleGuard
