import RoleGuard.Proofs.Compilation

/-!
# Well-formed configurations and their first violation

Declared roles and a table are scanned in order: the roles, the table itself,
its entries, their fields and the elements of each list.  `WellFormed` says what
is accepted, and `FirstViolation` what is wrong where the scan stops: everything
before it is sound.  Compiling accepts exactly the well-formed configurations
and reports the one first violation of any other, unless the value at fault
cannot be shown.
-/

namespace RoleGuard

/-- An item of a list that is not sound, after items that are. -/
def FirstUnsound (sound : α → Prop) (items : List α) (item : α) : Prop :=
  ∃ before after, items = before ++ item :: after ∧
    (∀ earlier ∈ before, sound earlier) ∧ ¬ sound item

theorem all_or_firstUnsound (sound : α → Prop) (items : List α) :
    (∀ item ∈ items, sound item) ∨ ∃ item, FirstUnsound sound items item := by
  induction items with
  | nil => exact .inl fun _ member => nomatch member
  | cons head rest ih =>
      by_cases headSound : sound head
      · rcases ih with restSound | ⟨item, before, after, rfl, earlier, unsound⟩
        · exact .inl (List.forall_mem_cons.mpr ⟨headSound, restSound⟩)
        · refine .inr ⟨item, head :: before, after, rfl, ?_, unsound⟩
          exact List.forall_mem_cons.mpr ⟨headSound, earlier⟩
      · exact .inr ⟨head, [], rest, rfl, nofun, headSound⟩

namespace Value

/-- The elements of an ordered container that is neither text nor an immutable
byte string; a range has all of its numbers. -/
def elements? (v : Value) : Option (List Value) :=
  match v.content with
  | .sequence _ items => some items
  | .buffer data => some (byteItems data)
  | .range start stop => some (rangeItems start stop)
  | _ => none

/-- A text that can name a type, a field or a role. -/
def IsName (v : Value) : Prop := ∃ name, name ≠ "" ∧ v = .text name

end Value

/-- Declared roles are names, no two of them the same. -/
def Declares (roles : Value) (names : List String) : Prop :=
  roles.elements? = some (names.map .text) ∧ names.Nodup ∧ "" ∉ names

def IsDeclared (names : List String) (role : Value) : Prop :=
  ∃ name ∈ names, role = .text name

def SoundRoles (names : List String) (listed : Value) : Prop :=
  ∃ items, listed.elements? = some items ∧
    ∀ role ∈ items, IsDeclared names role

def SoundField (names : List String) (field : Value × Value) : Prop :=
  field.1.IsName ∧ SoundRoles names field.2

def SoundEntry (names : List String) (entry : Value × Value) : Prop :=
  entry.1.IsName ∧
    (SoundRoles names entry.2 ∨
      ∃ fields, entry.2.entries? = some fields ∧
        ∀ field ∈ fields, SoundField names field)

def WellFormed (roles table : Value) : Prop :=
  ∃ names entries, Declares roles names ∧ table.entries? = some entries ∧
    ∀ entry ∈ entries, SoundEntry names entry

/-- What is reported of a fault in a configuration: the type, the field whose
role list has it, the role, and the value that the wording shows. -/
structure Violation where
  location : Option String
  field : Option String
  role : Value
  shown : Value

def Misconfiguration.violation (cause : Misconfiguration) : Violation :=
  ⟨cause.location?, cause.field?, cause.role, cause.shown⟩

/-- The role at which a role list is at fault, `null` if it is no list. -/
inductive RolesFault (names : List String) (listed : Value) : Value → Prop where
  | notList : listed.elements? = none → RolesFault names listed .null
  | undeclared {items : List Value} {role : Value} :
      listed.elements? = some items →
      FirstUnsound (IsDeclared names) items role →
      RolesFault names listed role

/-- The field and the role at which an entry of a table is at fault. -/
inductive EntryFault (names : List String) (v : Value) :
    Option String → Value → Prop where
  | shape : v.elements? = none → v.entries? = none →
      EntryFault names v none .null
  | role {items : List Value} {role : Value} :
      v.elements? = some items →
      FirstUnsound (IsDeclared names) items role →
      EntryFault names v none role
  | fieldName {fields : List (Value × Value)} {key listed : Value} :
      v.entries? = some fields →
      FirstUnsound (SoundField names) fields (key, listed) → ¬ key.IsName →
      EntryFault names v none .null
  | field {fields : List (Value × Value)} {field : String}
      {listed role : Value} :
      v.entries? = some fields →
      FirstUnsound (SoundField names) fields (.text field, listed) →
      field ≠ "" → RolesFault names listed role →
      EntryFault names v (some field) role

/-- The violation at which the scan of a configuration stops. -/
inductive FirstViolation (roles table : Value) : Violation → Prop where
  | rolesNotList : roles.elements? = none →
      FirstViolation roles table ⟨none, none, .null, .null⟩
  | role {names : List String} {role : Value} {after : List Value} :
      roles.elements? = some (names.map .text ++ role :: after) →
      names.Nodup → "" ∉ names →
      (∀ name, role = .text name → name = "" ∨ name ∈ names) →
      FirstViolation roles table ⟨none, none, role, role⟩
  | tableNotMapping {names : List String} :
      Declares roles names → table.entries? = none →
      FirstViolation roles table ⟨none, none, .null, .null⟩
  | typeName {names : List String} {entries : List (Value × Value)}
      {key v : Value} :
      Declares roles names → table.entries? = some entries →
      FirstUnsound (SoundEntry names) entries (key, v) → ¬ key.IsName →
      FirstViolation roles table ⟨none, none, .null, key⟩
  | entry {names : List String} {entries : List (Value × Value)}
      {location : String} {v role : Value} {field : Option String} :
      Declares roles names → table.entries? = some entries →
      FirstUnsound (SoundEntry names) entries (.text location, v) →
      location ≠ "" → EntryFault names v field role →
      FirstViolation roles table ⟨some location, field, role, role⟩

namespace Value

theorem roleItems?_eq_none {v : Value} (absent : v.elements? = none) :
    v.roleItems? = none := by
  unfold elements? at absent
  unfold roleItems?
  split at absent <;> simp_all

/-- What the compiler reads of an ordered container is all of it, except that
of numbers in a row it reads the first. -/
theorem roleItems?_eq_some {v : Value} {items : List Value}
    (isList : v.elements? = some items) :
    v.roleItems? = some items ∨
      ∃ n rest, items = .int n :: rest ∧ v.roleItems? = some [.int n] := by
  unfold elements? at isList
  split at isList
  · rename_i isSequence
    cases isList
    refine .inl ?_
    unfold roleItems?
    rw [isSequence]
  · rename_i isBuffer
    cases isList
    refine .inl ?_
    unfold roleItems?
    rw [isBuffer]
  · rename_i start stop isRange
    cases isList
    have read : v.roleItems? = some (rangeFront start stop) := by
      unfold roleItems?
      rw [isRange]
    rw [read]
    unfold rangeItems rangeFront
    by_cases nonempty : start < stop
    · obtain ⟨count, isCount⟩ : ∃ count, (stop - start).toNat = count + 1 :=
        ⟨(stop - start).toNat - 1, by omega⟩
      refine .inr ⟨start, ?_⟩
      rw [isCount, List.range_succ_eq_map]
      simp [nonempty]
    · have isEmpty : (stop - start).toNat = 0 := by omega
      simp [nonempty, isEmpty]
  · cases isList

theorem roleItems?_of_texts {v : Value} {items : List Value}
    (isList : v.elements? = some items)
    (texts : ∀ item ∈ items, ∃ name, item = .text name) :
    v.roleItems? = some items := by
  rcases roleItems?_eq_some isList with same | ⟨n, rest, rfl, _⟩
  · exact same
  · obtain ⟨name, isText⟩ := texts (.int n) List.mem_cons_self
    cases isText

/-- The compiler reads the texts that a container begins with and the element
after them. -/
theorem roleItems?_of_texts_before {v item : Value} {before after : List Value}
    (isList : v.elements? = some (before ++ item :: after))
    (texts : ∀ earlier ∈ before, ∃ name, earlier = .text name) :
    ∃ after', v.roleItems? = some (before ++ item :: after') := by
  rcases roleItems?_eq_some isList with same | ⟨n, rest, isFront, front⟩
  · exact ⟨after, same⟩
  · cases before with
    | nil =>
        cases isFront
        exact ⟨[], front⟩
    | cons first before =>
        obtain ⟨name, rfl⟩ := texts first List.mem_cons_self
        cases isFront

end Value

theorem IsDeclared.isText {names : List String} {role : Value}
    (declared : IsDeclared names role) : ∃ name, role = .text name := by
  obtain ⟨name, _, rfl⟩ := declared
  exact ⟨name, rfl⟩

/-- Role names that are new and different from each other are read, and what
follows is read knowing them. -/
theorem distinctRoleNames_append {names seen : List String}
    (distinct : names.Nodup) (named : "" ∉ names)
    (new : ∀ name ∈ names, name ∉ seen) (rest : List Value) :
    distinctRoleNames seen (names.map .text ++ rest) =
      (names ++ ·) <$> distinctRoleNames (names.reverse ++ seen) rest := by
  induction names generalizing seen with
  | nil =>
      change distinctRoleNames seen rest =
        (fun later => later) <$> distinctRoleNames seen rest
      rw [id_map']
  | cons name names ih =>
      obtain ⟨notAgain, distinctRest⟩ := List.nodup_cons.mp distinct
      obtain ⟨isNamed, namedRest⟩ := not_or.mp (List.mem_cons.not.mp named)
      have isNew : seen.contains name = false := by
        simpa using new name List.mem_cons_self
      have newRest : ∀ other ∈ names, other ∉ name :: seen := by
        intro other member seenBefore
        rcases List.mem_cons.mp seenBefore with rfl | before
        · exact notAgain member
        · exact new other (List.mem_cons_of_mem name member) before
      rw [List.map_cons, List.cons_append, distinctRoleNames,
        if_neg (Ne.symm isNamed), isNew, ih distinctRest namedRest newRest]
      rw [List.reverse_cons, List.append_assoc, List.singleton_append]
      cases distinctRoleNames (names.reverse ++ name :: seen) rest <;> rfl

theorem declaredRoles_of_declares {roles : Value} {names : List String}
    (declares : Declares roles names) : declaredRoles roles = .ok names := by
  obtain ⟨isList, distinct, named⟩ := declares
  have texts : ∀ item ∈ names.map Value.text, ∃ name, item = .text name := by
    intro item member
    obtain ⟨name, _, rfl⟩ := List.mem_map.mp member
    exact ⟨name, rfl⟩
  have read := distinctRoleNames_append distinct named
    (fun name _ => List.not_mem_nil) []
  unfold declaredRoles
  rw [Value.roleItems?_of_texts isList texts]
  rw [List.append_nil] at read
  simp only [read]
  exact congrArg Except.ok (List.append_nil names)

theorem declaredRoles_of_role {roles role : Value} {names : List String}
    {after : List Value}
    (isList : roles.elements? = some (names.map .text ++ role :: after))
    (distinct : names.Nodup) (named : "" ∉ names)
    (unsound : ∀ name, role = .text name → name = "" ∨ name ∈ names) :
    ∃ cause, cause.violation = ⟨none, none, role, role⟩ ∧
      declaredRoles roles = .error cause := by
  have texts : ∀ item ∈ names.map Value.text, ∃ name, item = .text name := by
    intro item member
    obtain ⟨name, _, rfl⟩ := List.mem_map.mp member
    exact ⟨name, rfl⟩
  obtain ⟨after', items⟩ := Value.roleItems?_of_texts_before isList texts
  have stops : ∃ cause, cause.violation = ⟨none, none, role, role⟩ ∧
      distinctRoleNames (names.reverse ++ []) (role :: after') =
        .error cause := by
    cases role with
    | text name =>
        by_cases isEmpty : name = ""
        · refine ⟨.roleNotName (.text name), rfl, ?_⟩
          rw [distinctRoleNames, if_pos isEmpty]
        · have again : (names.reverse ++ []).contains name = true := by
            simpa [isEmpty] using unsound name rfl
          refine ⟨.roleDeclaredTwice name, rfl, ?_⟩
          rw [distinctRoleNames, if_neg isEmpty, if_pos again]
    | _ => exact ⟨.roleNotName _, rfl, rfl⟩
  obtain ⟨cause, reports, stopped⟩ := stops
  refine ⟨cause, reports, ?_⟩
  unfold declaredRoles
  rw [items]
  simp only [distinctRoleNames_append distinct named
    (fun name _ => List.not_mem_nil) _, stopped]
  rfl

section

variable {names : List String} {location : String} {field : Option String}

/-- Declared roles are read, whatever is then kept of them. -/
theorem succeeds_allowedRoles {items : List Value}
    (sound : ∀ role ∈ items, IsDeclared names role) (kept : List String) :
    Succeeds (allowedRoles names location field kept items) := by
  induction items generalizing kept with
  | nil =>
      rw [allowedRoles]
      exact .pure kept
  | cons role items ih =>
      obtain ⟨⟨name, member, rfl⟩, soundRest⟩ := List.forall_mem_cons.mp sound
      rw [allowedRoles_text, if_pos member]
      split
      · exact Succeeds.bind (fun journal => ⟨(), _, rfl⟩)
          fun _ => ih soundRest kept
      · exact ih soundRest _

theorem fails_allowedRoles {items : List Value} {role : Value}
    (first : FirstUnsound (IsDeclared names) items role) (kept : List String) :
    Fails (allowedRoles names location field kept items)
      (.roleNotDeclared location field role) := by
  obtain ⟨before, after, rfl, sound, unsound⟩ := first
  induction before generalizing kept with
  | nil =>
      rw [List.nil_append]
      cases role with
      | text name =>
          have undeclared : name ∉ names :=
            fun member => unsound ⟨name, member, rfl⟩
          rw [allowedRoles_text, if_neg undeclared]
          exact .throw _
      | _ => exact .throw _
  | cons earlier before ih =>
      obtain ⟨⟨name, member, rfl⟩, soundRest⟩ := List.forall_mem_cons.mp sound
      rw [List.cons_append, allowedRoles_text, if_pos member]
      split
      · exact Succeeds.bind_fails (fun journal => ⟨(), _, rfl⟩)
          fun _ => ih kept soundRest
      · exact ih _ soundRest

theorem allowedFields_name {key : String} (isName : key ≠ "") (listed : Value)
    (rest : List (Value × Value)) :
    allowedFields names location ((.text key, listed) :: rest) =
      match listed.roleItems? with
      | none => throw (.rolesOfFieldNotList location (some key))
      | some items => do
          let roles ← allowedRoles names location (some key) [] items
          let fields ← allowedFields names location rest
          return (key, roles) :: fields := by
  rw [allowedFields]
  exact if_neg isName

theorem roleItems?_of_soundRoles {listed : Value}
    (sound : SoundRoles names listed) :
    ∃ items, listed.roleItems? = some items ∧
      ∀ role ∈ items, IsDeclared names role := by
  obtain ⟨items, isList, declared⟩ := sound
  exact ⟨items, Value.roleItems?_of_texts isList
    fun role member => (declared role member).isText, declared⟩

theorem roleItems?_of_firstUndeclared {listed role : Value}
    {items : List Value} (isList : listed.elements? = some items)
    (first : FirstUnsound (IsDeclared names) items role) :
    ∃ read, listed.roleItems? = some read ∧
      FirstUnsound (IsDeclared names) read role := by
  obtain ⟨before, after, rfl, sound, unsound⟩ := first
  obtain ⟨after', read⟩ := Value.roleItems?_of_texts_before isList
    fun earlier member => (sound earlier member).isText
  exact ⟨_, read, before, after', rfl, sound, unsound⟩

theorem succeeds_allowedFields {fields : List (Value × Value)}
    (sound : ∀ field ∈ fields, SoundField names field) :
    Succeeds (allowedFields names location fields) := by
  induction fields with
  | nil =>
      rw [allowedFields]
      exact .pure []
  | cons field fields ih =>
      obtain ⟨key, listed⟩ := field
      obtain ⟨⟨⟨name, isName, rfl⟩, soundListed⟩, soundRest⟩ :=
        List.forall_mem_cons.mp sound
      obtain ⟨items, isList, declared⟩ := roleItems?_of_soundRoles soundListed
      rw [allowedFields_name isName, isList]
      apply (succeeds_allowedRoles declared []).bind
      intro roles
      exact (ih soundRest).bind fun _ => .pure _

/-- Sound fields are read, and what follows them decides how it ends. -/
theorem fails_allowedFields_append {before rest : List (Value × Value)}
    {cause : Misconfiguration} (sound : ∀ field ∈ before, SoundField names field)
    (fails : Fails (allowedFields names location rest) cause) :
    Fails (allowedFields names location (before ++ rest)) cause := by
  induction before with
  | nil => exact fails
  | cons field before ih =>
      obtain ⟨key, listed⟩ := field
      obtain ⟨⟨⟨name, isName, rfl⟩, soundListed⟩, soundRest⟩ :=
        List.forall_mem_cons.mp sound
      obtain ⟨items, isList, declared⟩ := roleItems?_of_soundRoles soundListed
      rw [List.cons_append, allowedFields_name isName, isList]
      apply (succeeds_allowedRoles declared []).bind_fails
      exact fun _ => (ih soundRest).bind _

theorem fails_allowedFields_key {key : Value} (noName : ¬ key.IsName)
    (listed : Value) (rest : List (Value × Value)) :
    Fails (allowedFields names location ((key, listed) :: rest))
      (.fieldNameNotName location) := by
  cases key with
  | text name =>
      have isEmpty : name = "" :=
        Classical.not_not.mp fun isName => noName ⟨name, isName, rfl⟩
      rw [allowedFields, if_pos isEmpty]
      exact .throw _
  | _ => exact .throw _

theorem fails_allowedFields_roles {key : String} {listed role : Value}
    (isName : key ≠ "") (fault : RolesFault names listed role)
    (rest : List (Value × Value)) :
    ∃ cause : Misconfiguration,
      cause.violation = ⟨some location, some key, role, role⟩ ∧
        Fails (allowedFields names location ((.text key, listed) :: rest))
          cause := by
  rw [allowedFields_name isName]
  cases fault with
  | notList notList =>
      rw [Value.roleItems?_eq_none notList]
      exact ⟨_, rfl, .throw _⟩
  | undeclared isList first =>
      obtain ⟨read, isRead, first⟩ := roleItems?_of_firstUndeclared isList first
      rw [isRead]
      exact ⟨_, rfl, (fails_allowedRoles first []).bind _⟩

theorem entries?_eq_none_of_elements? {v : Value} {items : List Value}
    (isList : v.elements? = some items) : v.entries? = none := by
  unfold Value.elements? at isList
  unfold Value.entries?
  split at isList <;> simp_all

theorem elements?_eq_none_of_entries? {v : Value}
    {entries : List (Value × Value)} (isMapping : v.entries? = some entries) :
    v.elements? = none := by
  cases isList : v.elements? with
  | none => rfl
  | some items =>
      rw [entries?_eq_none_of_elements? isList] at isMapping
      cases isMapping

theorem readEntry_of_entries? {v : Value} {fields : List (Value × Value)}
    (isMapping : v.entries? = some fields) :
    readEntry names location v =
      Entry.fields <$> allowedFields names location fields := by
  have notList := Value.roleItems?_eq_none
    (elements?_eq_none_of_entries? isMapping)
  unfold readEntry
  simp only [notList, isMapping]

theorem succeeds_readEntry {v : Value}
    (sound : SoundRoles names v ∨ ∃ fields, v.entries? = some fields ∧
      ∀ field ∈ fields, SoundField names field) :
    Succeeds (readEntry names location v) := by
  rcases sound with soundRoles | ⟨fields, isMapping, soundFields⟩
  · obtain ⟨items, isList, declared⟩ := roleItems?_of_soundRoles soundRoles
    unfold readEntry
    rw [isList]
    exact (succeeds_allowedRoles declared []).map
  · rw [readEntry_of_entries? isMapping]
    exact (succeeds_allowedFields soundFields).map

theorem fails_readEntry {v role : Value}
    (fault : EntryFault names v field role) :
    ∃ cause : Misconfiguration,
      cause.violation = ⟨some location, field, role, role⟩ ∧
        Fails (readEntry names location v) cause := by
  cases fault with
  | shape notList notMapping =>
      unfold readEntry
      rw [Value.roleItems?_eq_none notList, notMapping]
      exact ⟨_, rfl, .throw _⟩
  | role isList first =>
      obtain ⟨read, isRead, first⟩ := roleItems?_of_firstUndeclared isList first
      unfold readEntry
      rw [isRead]
      exact ⟨_, rfl, (fails_allowedRoles first []).map⟩
  | fieldName isMapping first noName =>
      obtain ⟨before, after, rfl, sound, _⟩ := first
      rw [readEntry_of_entries? isMapping]
      exact ⟨_, rfl, (fails_allowedFields_append sound
        (fails_allowedFields_key noName _ after)).map⟩
  | field isMapping first isName rolesFault =>
      obtain ⟨before, after, rfl, sound, _⟩ := first
      obtain ⟨cause, reports, fails⟩ :=
        fails_allowedFields_roles isName rolesFault after
      rw [readEntry_of_entries? isMapping]
      exact ⟨cause, reports, (fails_allowedFields_append sound fails).map⟩

theorem readEntries_name {key : String} (isName : key ≠ "") (v : Value)
    (rest : List (Value × Value)) :
    readEntries names ((.text key, v) :: rest) = (do
      let entry ← readEntry names key v
      let entries ← readEntries names rest
      return (key, entry) :: entries) := by
  rw [readEntries, if_neg isName]

theorem succeeds_readEntries {entries : List (Value × Value)}
    (sound : ∀ entry ∈ entries, SoundEntry names entry) :
    Succeeds (readEntries names entries) := by
  induction entries with
  | nil =>
      rw [readEntries]
      exact .pure []
  | cons entry entries ih =>
      obtain ⟨key, v⟩ := entry
      obtain ⟨⟨⟨name, isName, rfl⟩, soundValue⟩, soundRest⟩ :=
        List.forall_mem_cons.mp sound
      rw [readEntries_name isName]
      apply (succeeds_readEntry soundValue).bind
      intro entry
      exact (ih soundRest).bind fun _ => .pure _

theorem fails_readEntries_append {before rest : List (Value × Value)}
    {cause : Misconfiguration} (sound : ∀ entry ∈ before, SoundEntry names entry)
    (fails : Fails (readEntries names rest) cause) :
    Fails (readEntries names (before ++ rest)) cause := by
  induction before with
  | nil => exact fails
  | cons entry before ih =>
      obtain ⟨key, v⟩ := entry
      obtain ⟨⟨⟨name, isName, rfl⟩, soundValue⟩, soundRest⟩ :=
        List.forall_mem_cons.mp sound
      rw [List.cons_append, readEntries_name isName]
      apply (succeeds_readEntry soundValue).bind_fails
      exact fun _ => (ih soundRest).bind _

theorem fails_readEntries_key {key : Value} (noName : ¬ key.IsName) (v : Value)
    (rest : List (Value × Value)) :
    Fails (readEntries names ((key, v) :: rest))
      (.typeNameNotName key) := by
  cases key with
  | text name =>
      have isEmpty : name = "" :=
        Classical.not_not.mp fun isName => noName ⟨name, isName, rfl⟩
      rw [readEntries, if_pos isEmpty]
      exact .throw _
  | _ => exact .throw _

end

section

variable {roles table : Value} {names : List String}

theorem build_of_declares (declares : Declares roles names) :
    PermissionTree.build roles table = (do
      let entries ← readTable names table
      Logged.note (.compiled names.length entries.length)
      return PermissionTree.ofEntries entries) := by
  unfold PermissionTree.build
  rw [declaredRoles_of_declares declares]
  rfl

theorem readTable_of_entries? {entries : List (Value × Value)}
    (isMapping : table.entries? = some entries) :
    readTable names table = readEntries names entries := by
  unfold readTable tableEntries
  simp only [isMapping, pure_bind]

theorem succeeds_build (wellFormed : WellFormed roles table) :
    Succeeds (PermissionTree.build roles table) := by
  obtain ⟨names, entries, declares, isMapping, sound⟩ := wellFormed
  rw [build_of_declares declares, readTable_of_entries? isMapping]
  apply (succeeds_readEntries sound).bind
  intro read
  exact Succeeds.bind (fun journal => ⟨(), _, rfl⟩) fun _ => .pure _

/-- Building a tree fails where the scan of the configuration stops. -/
theorem fails_build {violation : Violation}
    (first : FirstViolation roles table violation) :
    ∃ cause : Misconfiguration, cause.violation = violation ∧
      Fails (PermissionTree.build roles table) cause := by
  cases first with
  | rolesNotList notList =>
      unfold PermissionTree.build declaredRoles
      rw [Value.roleItems?_eq_none notList]
      exact ⟨_, rfl, (Fails.throw _).bind _⟩
  | role isList distinct named unsound =>
      obtain ⟨cause, reports, stops⟩ :=
        declaredRoles_of_role isList distinct named unsound
      unfold PermissionTree.build
      rw [stops]
      exact ⟨cause, reports, (Fails.throw _).bind _⟩
  | tableNotMapping declares notMapping =>
      rw [build_of_declares declares]
      unfold readTable tableEntries
      rw [notMapping]
      exact ⟨_, rfl, ((Fails.throw _).bind _).bind _⟩
  | typeName declares isMapping first noName =>
      obtain ⟨before, after, rfl, sound, _⟩ := first
      rw [build_of_declares declares, readTable_of_entries? isMapping]
      exact ⟨_, rfl, (fails_readEntries_append sound
        (fails_readEntries_key noName _ after)).bind _⟩
  | @entry names _ location v role field declares isMapping first isName
      fault =>
      obtain ⟨before, after, rfl, sound, _⟩ := first
      obtain ⟨cause, reports, fails⟩ := fails_readEntry fault
      have failsHere :
          Fails (readEntries names ((.text location, v) :: after)) cause := by
        rw [readEntries_name isName]
        exact fails.bind _
      rw [build_of_declares declares, readTable_of_entries? isMapping]
      exact ⟨cause, reports, (fails_readEntries_append sound failsHere).bind _⟩

theorem succeeds_compile (wellFormed : WellFormed roles table) :
    Succeeds (PermissionTree.compile roles table) := by
  intro journal
  obtain ⟨tree, after, built⟩ := succeeds_build wellFormed journal
  exact ⟨tree, after, PermissionTree.runFrom_compile_eq_ok.mpr built⟩

/-- Compiling fails with what reporting the first violation ends in. -/
theorem fails_compile {violation : Violation}
    (first : FirstViolation roles table violation) :
    ∃ cause : Misconfiguration, cause.violation = violation ∧
      Fails (PermissionTree.compile roles table) cause.fault := by
  obtain ⟨cause, reports, fails⟩ := fails_build first
  refine ⟨cause, reports, fun journal => ?_⟩
  rw [PermissionTree.runFrom_compile, fails journal]
  rfl

theorem WellFormed.not_firstViolation (wellFormed : WellFormed roles table)
    (violation : Violation) : ¬ FirstViolation roles table violation := by
  intro first
  obtain ⟨tree, after, built⟩ := succeeds_build wellFormed []
  obtain ⟨cause, _, fails⟩ := fails_build first
  cases (congrArg Prod.fst built).symm.trans (fails [])

/-- One computation finds one cause. -/
theorem FirstViolation.unique {violation other : Violation}
    (first : FirstViolation roles table violation)
    (otherFirst : FirstViolation roles table other) : other = violation := by
  obtain ⟨cause, rfl, fails⟩ := fails_build first
  obtain ⟨otherCause, rfl, otherFails⟩ := fails_build otherFirst
  cases (otherFails []).symm.trans (fails [])
  rfl

/-- Items after some declared roles are declared as well, or there is a first one
that is not. -/
theorem names_or_first {names : List String} (distinct : names.Nodup)
    (named : "" ∉ names) (items : List Value) :
    (∃ declared : List String,
      names.map Value.text ++ items = declared.map .text ∧
        declared.Nodup ∧ "" ∉ declared) ∨
    ∃ (declared : List String) (role : Value) (after : List Value),
      names.map Value.text ++ items = declared.map .text ++ role :: after ∧
        declared.Nodup ∧ "" ∉ declared ∧
        ∀ name, role = .text name → name = "" ∨ name ∈ declared := by
  induction items generalizing names with
  | nil => exact .inl ⟨names, List.append_nil _, distinct, named⟩
  | cons item items ih =>
      by_cases sound : ∀ name, item = .text name → name = "" ∨ name ∈ names
      · exact .inr ⟨names, item, items, rfl, distinct, named, sound⟩
      · push Not at sound
        obtain ⟨name, rfl, isName, new⟩ := sound
        have shifted : names.map Value.text ++ .text name :: items =
            (names ++ [name]).map Value.text ++ items := by simp
        rw [shifted]
        apply ih
        · rw [List.nodup_append]
          exact ⟨distinct, List.pairwise_singleton _ name, by
            rintro other member _ again rfl
            exact new (List.mem_singleton.mp again ▸ member)⟩
        · simpa [named] using Ne.symm isName

theorem declares_or_firstViolation (roles table : Value) :
    (∃ names, Declares roles names) ∨
      ∃ violation, FirstViolation roles table violation := by
  cases isList : roles.elements? with
  | none => exact .inr ⟨_, .rolesNotList isList⟩
  | some items =>
      rcases names_or_first List.nodup_nil List.not_mem_nil items with
        ⟨names, rfl, distinct, named⟩ |
        ⟨names, role, after, rfl, distinct, named, unsound⟩
      · exact .inl ⟨names, isList, distinct, named⟩
      · exact .inr ⟨_, .role isList distinct named unsound⟩

theorem soundRoles_or_fault (names : List String) (listed : Value) :
    SoundRoles names listed ∨ ∃ role, RolesFault names listed role := by
  cases isList : listed.elements? with
  | none => exact .inr ⟨_, .notList isList⟩
  | some items =>
      rcases all_or_firstUnsound (IsDeclared names) items with
        sound | ⟨role, first⟩
      · exact .inl ⟨items, isList, sound⟩
      · exact .inr ⟨role, .undeclared isList first⟩

theorem entryFault_of_unsound {names : List String} {v : Value}
    (noRoles : ¬ SoundRoles names v)
    (noFields : ¬ ∃ fields, v.entries? = some fields ∧
      ∀ field ∈ fields, SoundField names field) :
    ∃ field role, EntryFault names v field role := by
  cases isList : v.elements? with
  | some items =>
      rcases all_or_firstUnsound (IsDeclared names) items with
        sound | ⟨role, first⟩
      · exact absurd ⟨items, isList, sound⟩ noRoles
      · exact ⟨none, role, .role isList first⟩
  | none =>
      cases isMapping : v.entries? with
      | none => exact ⟨none, .null, .shape isList isMapping⟩
      | some fields =>
          rcases all_or_firstUnsound (SoundField names) fields with
            sound | ⟨⟨key, listed⟩, first⟩
          · exact absurd ⟨fields, isMapping, sound⟩ noFields
          · by_cases isName : key.IsName
            · obtain ⟨name, notEmpty, rfl⟩ := isName
              have unsound : ¬ SoundField names (.text name, listed) := by
                obtain ⟨_, _, _, _, unsound⟩ := first
                exact unsound
              rcases soundRoles_or_fault names listed with
                sound | ⟨role, fault⟩
              · exact absurd ⟨⟨name, notEmpty, rfl⟩, sound⟩ unsound
              · exact ⟨some name, role,
                  .field isMapping first notEmpty fault⟩
            · exact ⟨none, .null, .fieldName isMapping first isName⟩

/-- A configuration is well formed or has a first violation. -/
theorem wellFormed_or_firstViolation (roles table : Value) :
    WellFormed roles table ∨
      ∃ violation, FirstViolation roles table violation := by
  rcases declares_or_firstViolation roles table with ⟨names, declares⟩ | first
  · cases isMapping : table.entries? with
    | none => exact .inr ⟨_, .tableNotMapping declares isMapping⟩
    | some entries =>
        rcases all_or_firstUnsound (SoundEntry names) entries with
          sound | ⟨⟨key, v⟩, first⟩
        · exact .inl ⟨names, entries, declares, isMapping, sound⟩
        · by_cases isName : key.IsName
          · obtain ⟨name, notEmpty, rfl⟩ := isName
            have unsound : ¬ SoundEntry names (.text name, v) := by
              obtain ⟨_, _, _, _, unsound⟩ := first
              exact unsound
            obtain ⟨noRoles, noFields⟩ := not_or.mp fun sound =>
              unsound ⟨⟨name, notEmpty, rfl⟩, sound⟩
            obtain ⟨field, role, fault⟩ :=
              entryFault_of_unsound noRoles noFields
            exact .inr ⟨_, .entry declares isMapping first notEmpty fault⟩
          · exact .inr ⟨_, .typeName declares isMapping first isName⟩
  · exact .inr first

theorem Misconfiguration.fault_of_shown {cause : Misconfiguration}
    (shows : cause.shown.obstacle? = none) :
    cause.fault = .configuration cause := by
  rw [fault, Value.displayed, shows]

theorem Misconfiguration.fault_of_obstacle {cause : Misconfiguration}
    {fault : Fault} (obstacle : cause.shown.obstacle? = some fault) :
    cause.fault = fault := by
  rw [Misconfiguration.fault, Value.displayed, obstacle]

/-- Compiling accepts exactly the well-formed configurations.  Any other one has
one first violation, which is reported as a misconfiguration if the value that
the report shows can be shown; else what keeps it from being shown is what
compiling ends with. -/
theorem compile_accepts_or_reports (roles table : Value) (journal : Journal) :
    ((∃ tree, (runFrom (PermissionTree.compile roles table) journal).1 =
        .ok tree) ↔ WellFormed roles table) ∧
      (¬ WellFormed roles table → ∃ cause : Misconfiguration,
        (∀ violation, FirstViolation roles table violation ↔
          violation = cause.violation) ∧
        (cause.shown.obstacle? = none →
          (runFrom (PermissionTree.compile roles table) journal).1 =
            .error (.configuration cause)) ∧
        ∀ fault, cause.shown.obstacle? = some fault →
          (runFrom (PermissionTree.compile roles table) journal).1 =
            .error fault) := by
  constructor
  · constructor
    · rintro ⟨tree, ended⟩
      rcases wellFormed_or_firstViolation roles table with
        wellFormed | ⟨violation, first⟩
      · exact wellFormed
      · obtain ⟨cause, _, failed⟩ := fails_compile first
        cases ended.symm.trans (failed journal)
    · intro wellFormed
      obtain ⟨tree, after, ended⟩ := succeeds_compile wellFormed journal
      exact ⟨tree, congrArg Prod.fst ended⟩
  · intro notWellFormed
    obtain ⟨violation, first⟩ :=
      (wellFormed_or_firstViolation roles table).resolve_left notWellFormed
    obtain ⟨cause, rfl, failed⟩ := fails_compile first
    refine ⟨cause, fun other => ⟨first.unique, ?_⟩, fun shows => ?_,
      fun fault kept => ?_⟩
    · rintro rfl
      exact first
    · rw [← Misconfiguration.fault_of_shown shows]
      exact failed journal
    · rw [← Misconfiguration.fault_of_obstacle kept]
      exact failed journal

/-- Roles with a rule that nothing can show: its rules were replaced by a
number. -/
def unshownRoles : Value :=
  .sequence .list [.disjunction (.int 5)]

/-- A configuration that is not well formed, and whose fault is not reported as
a misconfiguration. -/
theorem compile_unshownRoles :
    ¬ WellFormed unshownRoles (.map []) ∧
      (runFrom (PermissionTree.compile unshownRoles (.map [])) []).1 =
        .error (.lacks .iteration "int") := by
  refine ⟨?_, rfl⟩
  rintro ⟨names, entries, ⟨isList, -, -⟩, -, -⟩
  have same : [Value.disjunction (.int 5)] = names.map .text :=
    Option.some.inj isList
  cases names with
  | nil => cases same
  | cons name names => cases same

end

end RoleGuard
