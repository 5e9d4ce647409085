import RoleGuard.Host
import RoleGuard.Journal

/-!
# Policy files

A policy file is a JSON document whose top level is an object with the declared
roles and the permission table.  Both are returned as they stand; checking them
is left to the compiler.
-/

namespace RoleGuard

/-- The contents of a policy file. -/
structure PolicyFile where
  roles : Value
  schema : Value

namespace PolicyFile

/-- The path that a value names. -/
def pathOf (path : Value) : Except Fault FilePath :=
  match path.content with
  | .text source => .ok (FilePath.ofText source)
  | .path path => .ok path
  | .bytes _ => .error .pathBytes
  | v => .error (.pathNotText v.typeName)

/-- The characters of the file at a path, with line breaks unified. -/
def readCharacters (host : Host) (path : FilePath) :
    Except Fault (List Char) :=
  match Text.encodeFault? Text.CodePoint.isByte (Text.points path.text) with
  | some fault => .error (.notEncodable fault)
  | none =>
      if path.text.toList.contains '\x00' then .error .pathHasNull
      else
        match host.files path with
        | .error reason =>
            .error (.configuration (.fileNotRead path.text reason))
        | .ok bytes =>
            match Text.decodeUtf8 bytes with
            | .error fault => .error (.notUtf8 fault)
            | .ok characters => .ok (Text.unifyLineBreaks characters)

/-- The document that characters from a path make up. -/
def parse (host : Host) (path : String) (source : List Char) :
    Except Fault Value :=
  match Document.read host.nesting source with
  | .ok v => .ok v
  | .error (.integerTooLong digits) => .error (.integerTooLong digits)
  | .error (.nestedTooDeep bracket) => .error (.nestedTooDeep bracket)
  | .error (.malformed cause remaining) =>
      .error (.configuration
        (.fileNotParsed path (Document.locate source cause remaining)))

/-- The members that a policy file must have. -/
def requiredMembers : List String := ["roles", "schema"]

/-- The policy file that a document is. -/
def ofDocument (path : String) (document : Value) :
    Except Misconfiguration PolicyFile :=
  match document with
  | .map members =>
      let missing := requiredMembers.filter fun name =>
        (Value.find? members (.text name)).isNone
      match Value.find? members (.text "roles"),
          Value.find? members (.text "schema") with
      | some roles, some schema => .ok ⟨roles, schema⟩
      | _, _ => .error (.fileIncomplete path missing)
  | _ => .error (.fileNotObject path)

/-- Loads the policy file that a value names. -/
def load (host : Host) (path : Value) : Logged PolicyFile := do
  let path ← pathOf path
  let source ← readCharacters host path
  let document ← parse host path.text source
  match ofDocument path.text document with
  | .error cause => throw (.configuration cause)
  | .ok file => do
      Logged.note (.fileLoaded path.text)
      return file

end PolicyFile

end RoleGuard
