import Mathlib
import RoleGuard.PolicyFile
import RoleGuard.Proofs.Decoding
import RoleGuard.Proofs.Reading
import RoleGuard.Proofs.Running

/-!
# Loading policy files

A policy file is loaded if its bytes encode characters and these spell an object
with the declared roles and the permission table; what is loaded are the values
of these two members, as they stand.

Any other file should be refused as a misconfiguration.  Three kinds are not:
those whose path the system cannot be asked for, as it cannot be encoded or has a
null character in it, bytes that encode no characters, and texts beyond the
limits of the reader of documents.  `Escapes` lists the faults that then come up
as they are, and a path is loaded cleanly exactly if it is of no such kind.
-/

namespace RoleGuard

namespace Text

/-- A text can be encoded if each half in it is allowed to stand alone. -/
theorem encodeFault?_eq_none_iff {isAllowed : CodePoint → Bool}
    {text : List CodePoint} :
    encodeFault? isAllowed text = none ↔
      ∀ point ∈ text, point.isHalf = true → isAllowed point = true := by
  have skips : encodeFault? isAllowed text = none ↔
      (text.dropWhile fun point => !point.isHalf || isAllowed point) = [] := by
    unfold encodeFault?
    split <;> simp_all
  rw [skips, List.dropWhile_eq_nil_iff]
  apply forall_congr'
  intro point
  cases point.isHalf <;> simp

/-- A text without carriage returns has its line breaks already. -/
theorem unifyLineBreaks_eq_self {source : List Char} (noReturn : '\r' ∉ source) :
    unifyLineBreaks source = source := by
  fun_induction unifyLineBreaks source with
  | case1 | case2 => simp at noReturn
  | case3 c rest _ _ ih =>
      rw [ih fun inRest => noReturn (List.mem_cons_of_mem c inRest)]
  | case4 => rfl

end Text

namespace PolicyFile

variable {host : Host} {path : FilePath}

/-- A path that the system can be asked for: each half without its partner
stands for a byte, and no character is null. -/
structure Askable (path : FilePath) : Prop where
  encodes : ∀ point ∈ Text.points path.text,
    point.isHalf = true → point.isByte = true
  noNull : '\x00' ∉ path.text.toList

/-- The characters that the file at a path holds, with line breaks unified. -/
def HasText (host : Host) (path : FilePath) (source : List Char) : Prop :=
  Askable path ∧ ∃ characters,
    host.files path = .ok (Text.encoded characters) ∧
    source = Text.unifyLineBreaks characters

/-- The file at a path spells an object with the two members of a policy
file. -/
def WellFormed (host : Host) (path : FilePath) (file : PolicyFile) : Prop :=
  ∃ source members, HasText host path source ∧
    Document.SpellsDocument source (.map members) ∧
    Value.find? members (.text "roles") = some file.roles ∧
    Value.find? members (.text "schema") = some file.schema

/-- The faults of loading that are no misconfigurations. -/
inductive Escapes (host : Host) (path : FilePath) : Fault → Prop
  | notEncodable {fault : Text.EncodeFault}
      (unencoded : Text.encodeFault? Text.CodePoint.isByte
        (Text.points path.text) = some fault) :
      Escapes host path (.notEncodable fault)
  | pathHasNull
      (encoded : Text.encodeFault? Text.CodePoint.isByte
        (Text.points path.text) = none)
      (isNull : '\x00' ∈ path.text.toList) :
      Escapes host path .pathHasNull
  | notUtf8 {bytes : List UInt8} {fault : Text.Utf8Fault}
      (askable : Askable path)
      (found : host.files path = .ok bytes)
      (undecoded : Text.decodeUtf8 bytes = .error fault) :
      Escapes host path (.notUtf8 fault)
  | integerTooLong {source : List Char} {digits : Nat}
      (hasText : HasText host path source)
      (beyond : Document.read host.nesting source =
        .error (.integerTooLong digits)) :
      Escapes host path (.integerTooLong digits)
  | nestedTooDeep {source : List Char} {bracket : Document.Bracket}
      (hasText : HasText host path source)
      (beyond : Document.read host.nesting source =
        .error (.nestedTooDeep bracket)) :
      Escapes host path (.nestedTooDeep bracket)

/-! ## The parts of loading -/

/-- The text of a file that can be asked for is what its bytes decode to. -/
theorem readCharacters_of_askable (askable : Askable path) :
    readCharacters host path =
      match host.files path with
      | .error reason => .error (.configuration
          (.fileNotRead path.text reason))
      | .ok bytes =>
          match Text.decodeUtf8 bytes with
          | .error fault => .error (.notUtf8 fault)
          | .ok characters => .ok (Text.unifyLineBreaks characters) := by
  unfold readCharacters
  rw [Text.encodeFault?_eq_none_iff.mpr askable.encodes]
  exact if_neg fun isNull => askable.noNull (List.contains_iff_mem.mp isNull)

theorem readCharacters_of_unencoded {fault : Text.EncodeFault}
    (unencoded : Text.encodeFault? Text.CodePoint.isByte
      (Text.points path.text) = some fault) :
    readCharacters host path =
      .error (.notEncodable fault) := by
  unfold readCharacters
  rw [unencoded]

theorem readCharacters_of_isNull
    (encoded : Text.encodeFault? Text.CodePoint.isByte
      (Text.points path.text) = none)
    (isNull : '\x00' ∈ path.text.toList) :
    readCharacters host path = .error .pathHasNull := by
  unfold readCharacters
  rw [encoded]
  exact if_pos (List.contains_iff_mem.mpr isNull)

/-- What keeps the system from being asked for a path is what reading the file
ends in, whatever the files are. -/
theorem askable_or_escapes (host : Host) (path : FilePath) :
    Askable path ∨ ∃ fault, Escapes host path fault ∧
      readCharacters host path = .error fault := by
  cases encoded : Text.encodeFault? Text.CodePoint.isByte
      (Text.points path.text) with
  | some fault =>
      exact .inr ⟨_, .notEncodable encoded, readCharacters_of_unencoded encoded⟩
  | none =>
      by_cases isNull : '\x00' ∈ path.text.toList
      · exact .inr ⟨_, .pathHasNull encoded isNull,
          readCharacters_of_isNull encoded isNull⟩
      · exact .inl ⟨Text.encodeFault?_eq_none_iff.mp encoded, isNull⟩

theorem readCharacters_eq_ok_iff {source : List Char} :
    readCharacters host path = .ok source ↔
      HasText host path source := by
  unfold HasText
  by_cases askable : Askable path
  · rw [readCharacters_of_askable askable, and_iff_right askable]
    cases found : host.files path with
    | error reason => simp
    | ok bytes =>
        simp only [Except.ok.injEq, ← Text.decodeUtf8_eq_ok_iff]
        cases Text.decodeUtf8 bytes with
        | error fault => simp
        | ok characters => simp [eq_comm]
  · obtain ⟨fault, _, fails⟩ :=
      (askable_or_escapes host path).resolve_left askable
    rw [fails]
    exact ⟨nofun, fun hasText => absurd hasText.1 askable⟩

/-- Reading the text of a file fails as a misconfiguration or escapes. -/
theorem readCharacters_error {fault : Fault}
    (failed : readCharacters host path = .error fault) :
    (∃ cause, fault = .configuration cause) ∨ Escapes host path fault := by
  rcases askable_or_escapes host path with askable | ⟨_, escapes, fails⟩
  · rw [readCharacters_of_askable askable] at failed
    split at failed
    · cases failed
      exact .inl ⟨_, rfl⟩
    · rename_i bytes found
      split at failed
      · rename_i undecoded
        cases failed
        exact .inr (.notUtf8 askable found undecoded)
      · cases failed
  · cases fails.symm.trans failed
    exact .inr escapes

theorem parse_eq_ok_iff {shown : String} {source : List Char}
    {document : Value} :
    parse host shown source = .ok document ↔
      Document.read host.nesting source = .ok document := by
  unfold parse
  split <;> simp_all

/-- A document fails to be read as a misconfiguration or for one of the
limits. -/
theorem parse_error {shown : String} {source : List Char} {fault : Fault}
    (hasText : HasText host path source)
    (failed : parse host shown source = .error fault) :
    (∃ cause, fault = .configuration cause) ∨ Escapes host path fault := by
  unfold parse at failed
  split at failed
  · cases failed
  · rename_i digits beyond
    cases failed
    exact .inr (.integerTooLong hasText beyond)
  · rename_i bracket beyond
    cases failed
    exact .inr (.nestedTooDeep hasText beyond)
  · cases failed
    exact .inl ⟨_, rfl⟩

theorem ofDocument_eq_ok_iff {shown : String} {document : Value}
    {file : PolicyFile} :
    ofDocument shown document = .ok file ↔
      ∃ members, document = .map members ∧
        Value.find? members (.text "roles") = some file.roles ∧
        Value.find? members (.text "schema") = some file.schema := by
  unfold ofDocument
  split
  · rename_i members
    split
    · rename_i roles schema hasRoles hasSchema
      constructor
      · intro made
        cases made
        exact ⟨members, rfl, hasRoles, hasSchema⟩
      · rintro ⟨others, same, someRoles, someSchema⟩
        cases same
        cases hasRoles.symm.trans someRoles
        cases hasSchema.symm.trans someSchema
        rfl
    · rename_i lacks
      constructor
      · intro made
        cases made
      · rintro ⟨others, same, someRoles, someSchema⟩
        cases same
        exact absurd someSchema (lacks _ _ someRoles)
  · rename_i noObject
    constructor
    · intro made
      cases made
    · rintro ⟨members, same, _⟩
      exact absurd same (noObject members)

/-! ## Loading -/

/-- What the file at a path is loaded as, or why it is not. -/
def contents (host : Host) (path : FilePath) :
    Except Fault PolicyFile := do
  let source ← readCharacters host path
  let document ← parse host path.text source
  (ofDocument path.text document).mapError .configuration

/-- Loading ends as the contents say, and notes an event if it succeeds. -/
theorem runFrom_load {v : Value} (names : pathOf v = .ok path)
    (journal : Journal) :
    runFrom (load host v) journal =
      (contents host path,
        match contents host path with
        | .ok _ => journal ++ [.fileLoaded path.text]
        | .error _ => journal) := by
  have named : runFrom (liftM (pathOf v) : Logged FilePath) journal =
      (.ok path, journal) := by
    rw [runFrom_lift, names]
  unfold load contents
  rw [runFrom_bind_ok named, runFrom_bind, runFrom_lift]
  cases readCharacters host path with
  | error fault => rfl
  | ok source =>
      dsimp only [ok_bind]
      rw [runFrom_bind, runFrom_lift]
      cases parse host path.text source with
      | error fault => rfl
      | ok document =>
          dsimp only [ok_bind]
          cases ofDocument path.text document with
          | error cause => rfl
          | ok file => rfl

theorem mapError_eq_ok_iff {α ε : Type} {result : Except ε α} {f : ε → Fault}
    {a : α} : result.mapError f = .ok a ↔ result = .ok a := by
  cases result <;> simp [Except.mapError]

/-- The contents of a file are two members of the object that is read from
it. -/
theorem contents_eq_ok_iff {file : PolicyFile} :
    contents host path = .ok file ↔
      ∃ source members, HasText host path source ∧
        Document.read host.nesting source = .ok (.map members) ∧
        Value.find? members (.text "roles") = some file.roles ∧
        Value.find? members (.text "schema") = some file.schema := by
  simp only [contents, bind_eq_ok_iff, mapError_eq_ok_iff,
    readCharacters_eq_ok_iff, parse_eq_ok_iff, ofDocument_eq_ok_iff]
  constructor
  · rintro ⟨source, hasText, _, read, members, rfl, hasMembers⟩
    exact ⟨source, members, hasText, read, hasMembers⟩
  · rintro ⟨source, members, hasText, read, hasMembers⟩
    exact ⟨source, hasText, _, read, members, rfl, hasMembers⟩

/-- Where the limits are kept, exactly the well-formed files have contents. -/
theorem contents_eq_ok_iff_wellFormed {file : PolicyFile}
    (keepsLimits : ∀ source, HasText host path source →
      Document.KeepsLimits host.nesting source) :
    contents host path = .ok file ↔ WellFormed host path file := by
  rw [contents_eq_ok_iff]
  apply exists_congr
  intro source
  apply exists_congr
  intro members
  apply and_congr_right
  intro hasText
  rw [Document.read_eq_ok_iff (keepsLimits source hasText)]

/-- A file without contents is refused as a misconfiguration, or its fault
escapes. -/
theorem contents_error {fault : Fault}
    (failed : contents host path = .error fault) :
    (∃ cause, fault = .configuration cause) ∨ Escapes host path fault := by
  unfold contents at failed
  cases read : readCharacters host path with
  | error fault =>
      rw [read] at failed
      cases failed
      exact readCharacters_error read
  | ok source =>
      rw [read, ok_bind] at failed
      cases parsed : parse host path.text source with
      | error fault =>
          rw [parsed] at failed
          cases failed
          exact parse_error (readCharacters_eq_ok_iff.mp read) parsed
      | ok document =>
          rw [parsed, ok_bind] at failed
          cases made : ofDocument path.text document with
          | error cause =>
              rw [made] at failed
              cases failed
              exact .inl ⟨cause, rfl⟩
          | ok file =>
              rw [made] at failed
              cases failed

/-- A fault that escapes is the one that loading fails with. -/
theorem Escapes.contents_eq {fault : Fault}
    (escapes : Escapes host path fault) :
    contents host path = .error fault := by
  unfold contents
  cases escapes with
  | notEncodable unencoded => rw [readCharacters_of_unencoded unencoded]; rfl
  | pathHasNull encoded isNull =>
      rw [readCharacters_of_isNull encoded isNull]
      rfl
  | notUtf8 askable found undecoded =>
      rw [readCharacters_of_askable askable, found]
      dsimp only
      rw [undecoded]
      rfl
  | integerTooLong hasText beyond =>
      rw [readCharacters_eq_ok_iff.mpr hasText, ok_bind, parse, beyond]
      rfl
  | nestedTooDeep hasText beyond =>
      rw [readCharacters_eq_ok_iff.mpr hasText, ok_bind, parse, beyond]
      rfl

/-- A path is loaded cleanly: nothing but a misconfiguration comes up, and a
policy file is returned exactly if one is there. -/
structure LoadsCleanly (host : Host) (name : String) : Prop where
  refuses : ∀ journal fault,
    (runFrom (load host (.text name)) journal).1 = .error fault →
    ∃ cause, fault = .configuration cause
  returns : ∀ journal file,
    (runFrom (load host (.text name)) journal).1 = .ok file ↔
      WellFormed host (FilePath.ofText name) file

theorem LoadsCleanly.not_escapes {name : String}
    (clean : LoadsCleanly host name) (fault : Fault) :
    ¬ Escapes host (FilePath.ofText name) fault := by
  intro escapes
  obtain ⟨cause, rfl⟩ := clean.refuses [] fault
    (by rw [runFrom_load rfl]; exact escapes.contents_eq)
  cases escapes

/-- What the loader can deal with: the system can be asked for the path, the bytes
of the file, if there is one, encode characters, and these keep the limits of the
reader, whether or not they spell a document. -/
structure Manageable (host : Host) (path : FilePath) : Prop where
  askable : Askable path
  encodes : ∀ bytes, host.files path = .ok bytes →
    ∃ characters, bytes = Text.encoded characters
  keepsLimits : ∀ source, HasText host path source →
    Document.KeepsLimits host.nesting source

theorem manageable_iff_not_escapes :
    Manageable host path ↔ ∀ fault, ¬ Escapes host path fault := by
  constructor
  · intro manageable fault escapes
    cases escapes with
    | notEncodable unencoded =>
        rw [Text.encodeFault?_eq_none_iff.mpr manageable.askable.encodes]
          at unencoded
        cases unencoded
    | pathHasNull _ isNull => exact manageable.askable.noNull isNull
    | notUtf8 _ found undecoded =>
        obtain ⟨characters, rfl⟩ := manageable.encodes _ found
        rw [Text.decodeUtf8_eq_ok_iff.mpr rfl] at undecoded
        cases undecoded
    | integerTooLong hasText beyond =>
        obtain ⟨_, _, same⟩ := manageable.keepsLimits _ hasText _ beyond
        cases same
    | nestedTooDeep hasText beyond =>
        obtain ⟨_, _, same⟩ := manageable.keepsLimits _ hasText _ beyond
        cases same
  · intro noneEscapes
    have askable : Askable path :=
      (askable_or_escapes host path).resolve_right
        fun ⟨fault, escapes, _⟩ => noneEscapes fault escapes
    refine ⟨askable, ?_, ?_⟩
    · intro bytes found
      cases decoded : Text.decodeUtf8 bytes with
      | error fault =>
          exact absurd (.notUtf8 askable found decoded) (noneEscapes _)
      | ok characters =>
          exact ⟨characters, Text.decodeUtf8_eq_ok_iff.mp decoded⟩
    · intro source hasText fault beyond
      cases fault with
      | malformed cause remaining => exact ⟨cause, remaining, rfl⟩
      | integerTooLong digits =>
          exact absurd (.integerTooLong hasText beyond) (noneEscapes _)
      | nestedTooDeep bracket =>
          exact absurd (.nestedTooDeep hasText beyond) (noneEscapes _)

/-- The loader refuses what is no policy file as a misconfiguration, and returns
what is one, exactly where it is manageable. -/
theorem loadsCleanly_iff_manageable {name : String} :
    LoadsCleanly host name ↔ Manageable host (FilePath.ofText name) := by
  constructor
  · exact fun clean => manageable_iff_not_escapes.mpr clean.not_escapes
  · intro manageable
    refine ⟨?_, ?_⟩
    · intro journal fault failed
      rw [runFrom_load rfl] at failed
      have noneEscapes := manageable_iff_not_escapes.mp manageable
      exact (contents_error failed).resolve_right (noneEscapes fault)
    · intro journal file
      rw [runFrom_load rfl]
      exact contents_eq_ok_iff_wellFormed manageable.keepsLimits

/-- A host whose only file has one byte, which starts no character. -/
def undecodableHost : Host :=
  { Host.bare with
    files := fun path =>
      if path = ⟨"", ["a"]⟩ then .ok [0xFF] else Host.bare.files path }

/-- Such a file is not refused as a misconfiguration. -/
theorem not_loadsCleanly_undecodable : ¬ LoadsCleanly undecodableHost "a" := by
  have path : FilePath.ofText "a" = ⟨"", ["a"]⟩ := by cbv
  have askable : Askable (FilePath.ofText "a") := by
    constructor <;> rw [path] <;> decide +kernel
  have found : undecodableHost.files (FilePath.ofText "a") = .ok [0xFF] := by
    rw [path]
    rfl
  have undecoded : Text.decodeUtf8 [0xFF] =
      .error ⟨.invalidStart, 0xFF, 0, 1⟩ := by
    rfl
  intro clean
  exact clean.not_escapes _ (.notUtf8 askable found undecoded)

end PolicyFile

end RoleGuard
