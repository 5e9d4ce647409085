import Mathlib.Data.List.Forall2
import RoleGuard.Proofs.Lookup
import RoleGuard.Proofs.Role

/-!
# What a compiled table decides

`Value.listed?` reads the roles that a raw table lists for a field of a type,
and `Value.Admits` decides by them.  The compiler reads the table in stages,
drops repeated roles and builds one rule per list; each stage keeps, entry by
entry, which roles are listed, so the tree decides as the raw table does.
-/

namespace RoleGuard

namespace Value

/-- The items that a table lists for a field of a type: those of the type's
role list, or those under the field in the type's mapping.  A type or field
that is not a key has none. -/
def listed? (table : Value) (type field : String) : Option (List Value) :=
  match find? (table.entries?.getD []) (.text type) with
  | none => none
  | some entry =>
      match entry.roleItems? with
      | some items => some items
      | none =>
          (find? (entry.entries?.getD []) (.text field)).map fun listed =>
            listed.roleItems?.getD []

/-- What a table says of a field of a type and a role: a field for which
nothing is listed is open, any other one to the roles listed. -/
def Admits (table : Value) (type field : String) (role : Option String) :
    Prop :=
  match table.listed? type field with
  | none => True
  | some items => ∃ name, role = some name ∧ .text name ∈ items

end Value

/-- A list of roles as the compiler keeps it: the same roles, whatever was
repeated. -/
def Lists (listed : Value) (names : List String) : Prop :=
  ∃ items, listed.roleItems? = some items ∧
    ∀ name, name ∈ names ↔ .text name ∈ items

/-- A raw entry and the named part that was read from it. -/
def ReadAs (means : Value → α → Prop) (raw : Value × Value)
    (read : String × α) : Prop :=
  raw.1 = .text read.1 ∧ means raw.2 read.2

inductive Entry.Means : Value → Entry → Prop where
  | wholeType {listed : Value} {names : List String} :
      Lists listed names → Entry.Means listed (.wholeType names)
  | fields {mapping : Value} {raw : List (Value × Value)}
      {fields : List (String × List String)} :
      mapping.roleItems? = none → mapping.entries? = some raw →
      List.Forall₂ (ReadAs Lists) raw fields →
      Entry.Means mapping (.fields fields)

theorem allowedRoles_text (declared : List String) (location : String)
    (field : Option String) (kept : List String) (role : String)
    (items : List Value) :
    allowedRoles declared location field kept (.text role :: items) =
      if role ∈ declared then
        if role ∈ kept then do
          Logged.note (.roleRepeated role (locationText location field))
          allowedRoles declared location field kept items
        else allowedRoles declared location field (kept ++ [role]) items
      else throw (.roleNotDeclared location field (.text role)) := by
  rw [allowedRoles]
  by_cases isDeclared : role ∈ declared <;> by_cases isKept : role ∈ kept <;>
    simp [isDeclared, isKept]

/-- A role in what `allowedRoles` gives was kept before or is among the items
read; an item that is dropped as repeated had been kept before. -/
theorem allowedRoles_mem {declared : List String} {location : String}
    {field : Option String} {kept names : List String} {items : List Value}
    {journal after : Journal}
    (read : runFrom (allowedRoles declared location field kept items) journal =
      (.ok names, after)) :
    ∀ name, name ∈ names ↔ name ∈ kept ∨ .text name ∈ items := by
  induction items generalizing kept journal with
  | nil =>
      rw [allowedRoles, runFrom_pure] at read
      cases read
      simp
  | cons item items ih =>
      cases item with
      | text role =>
          intro name
          rw [allowedRoles_text] at read
          split at read
          · split at read
            · rename_i isKept
              -- a repeated role is dropped, but it is among those kept
              rw [runFrom_bind_ok (Logged.runFrom_note _ _)] at read
              rw [ih read name]
              have absorbed : name = role → name ∈ kept := by
                intro equality
                simpa [equality] using isKept
              grind
            · rw [ih read name]
              grind
          · cases read
      | _ => cases read

/-- An entry's fields keep their order, their names and the roles listed for
them. -/
theorem allowedFields_related {declared : List String} {location : String}
    {raw : List (Value × Value)} {fields : List (String × List String)}
    {journal after : Journal}
    (read : runFrom (allowedFields declared location raw) journal =
      (.ok fields, after)) :
    List.Forall₂ (ReadAs Lists) raw fields := by
  induction raw generalizing journal fields with
  | nil =>
      rw [allowedFields, runFrom_pure] at read
      cases read
      exact .nil
  | cons entry raw ih =>
      obtain ⟨key, listed⟩ := entry
      cases key with
      | text field =>
          rw [allowedFields] at read
          split at read
          · cases read
          · split at read
            · cases read
            · rename_i items isList
              obtain ⟨names, between, namesRead, read⟩ :=
                runFrom_bind_eq_ok read
              obtain ⟨rest, _, restRead, read⟩ := runFrom_bind_eq_ok read
              cases read
              have lists : Lists listed names :=
                ⟨items, isList, by simpa using allowedRoles_mem namesRead⟩
              exact .cons ⟨rfl, lists⟩ (ih restRead)
      | _ => cases read

theorem readEntry_means {declared : List String} {location : String}
    {raw : Value} {entry : Entry} {journal after : Journal}
    (read : runFrom (readEntry declared location raw) journal =
      (.ok entry, after)) :
    Entry.Means raw entry := by
  unfold readEntry at read
  split at read
  · rename_i items isList
    obtain ⟨names, namesRead, rfl⟩ := runFrom_map_eq_ok read
    exact .wholeType ⟨items, isList, by simpa using allowedRoles_mem namesRead⟩
  · rename_i notList
    split at read
    · rename_i mapping isMapping
      obtain ⟨fields, fieldsRead, rfl⟩ := runFrom_map_eq_ok read
      exact .fields notList isMapping (allowedFields_related fieldsRead)
    · cases read

theorem readEntries_related {declared : List String}
    {raw : List (Value × Value)} {entries : List (String × Entry)}
    {journal after : Journal}
    (read : runFrom (readEntries declared raw) journal = (.ok entries, after)) :
    List.Forall₂ (ReadAs Entry.Means) raw entries := by
  induction raw generalizing journal entries with
  | nil =>
      rw [readEntries, runFrom_pure] at read
      cases read
      exact .nil
  | cons item raw ih =>
      obtain ⟨key, value⟩ := item
      cases key with
      | text location =>
          rw [readEntries] at read
          split at read
          · cases read
          · obtain ⟨entry, between, entryRead, read⟩ := runFrom_bind_eq_ok read
            obtain ⟨rest, _, restRead, read⟩ := runFrom_bind_eq_ok read
            cases read
            exact .cons ⟨rfl, readEntry_means entryRead⟩ (ih restRead)
      | _ => cases read

namespace PermissionTree

theorem runFrom_compile (roles table : Value) (journal : Journal) :
    runFrom (compile roles table) journal =
      ((runFrom (build roles table) journal).1.mapError Misconfiguration.fault,
        (runFrom (build roles table) journal).2) :=
  runFrom_adapt _ _ _

/-- What compiling gives is what was built. -/
theorem runFrom_compile_eq_ok {roles table : Value} {tree : PermissionTree}
    {journal after : Journal} :
    runFrom (compile roles table) journal = (.ok tree, after) ↔
      runFrom (build roles table) journal = (.ok tree, after) := by
  rw [runFrom_compile]
  obtain ⟨ending, noted⟩ := runFrom (build roles table) journal
  cases ending <;> simp [Except.mapError]

end PermissionTree

/-- The tree has the entries of the table, read in order. -/
theorem compile_related {roles table : Value} {tree : PermissionTree}
    {journal after : Journal}
    (compiled : runFrom (PermissionTree.compile roles table) journal =
      (.ok tree, after)) :
    ∃ entries, List.Forall₂ (ReadAs Entry.Means) (table.entries?.getD [])
        entries ∧
      tree = PermissionTree.ofEntries entries := by
  have built := PermissionTree.runFrom_compile_eq_ok.mp compiled
  obtain ⟨declared, _, _, built⟩ := runFrom_bind_eq_ok built
  obtain ⟨entries, _, read, built⟩ := runFrom_bind_eq_ok built
  obtain ⟨_, _, _, built⟩ := runFrom_bind_eq_ok built
  cases built
  refine ⟨entries, ?_, rfl⟩
  obtain ⟨raw, _, tableRead, entriesRead⟩ := runFrom_bind_eq_ok read
  unfold tableEntries at tableRead
  split at tableRead
  · rename_i items isMapping
    cases tableRead
    simpa [isMapping] using readEntries_related entriesRead
  · cases tableRead

/-- Looking a name up in raw entries and in what was read from them finds
entries that belong together, or none in either. -/
theorem find?_related {means : Value → α → Prop} {raw : List (Value × Value)}
    {read : List (String × α)} (node : α → Value)
    (related : List.Forall₂ (ReadAs means) raw read) (name : String) :
    (Value.find? raw (.text name) = none ∧
      Value.find? (read.map fun entry => (.text entry.1, node entry.2))
        (.text name) = none) ∨
    ∃ v a, Value.find? raw (.text name) = some v ∧
      Value.find? (read.map fun entry => (.text entry.1, node entry.2))
        (.text name) = some (node a) ∧
      means v a := by
  induction related with
  | nil => exact .inl ⟨rfl, rfl⟩
  | @cons item entry raw read head tail ih =>
      obtain ⟨key, v⟩ := item
      obtain ⟨rfl, meant⟩ := head
      rw [List.map_cons, Value.find?_cons_text, Value.find?_cons_text]
      by_cases found : entry.1 = name
      · exact .inr ⟨v, entry.2, if_pos found, if_pos found, meant⟩
      · simpa [found] using ih

namespace PermissionTree

/-- What a tree of read entries has for a field: nothing where the raw table
lists nothing, and else a rule for the roles listed. -/
theorem runFrom_ruleFor_ofEntries {table : Value}
    {entries : List (String × Entry)}
    (related : List.Forall₂ (ReadAs Entry.Means) (table.entries?.getD [])
      entries)
    (type field : String) (journal : Journal) :
    (table.listed? type field = none ∧
      runFrom ((ofEntries entries).ruleFor (.text type) (.text field))
        journal = (.ok .null, journal)) ∨
    ∃ items names, table.listed? type field = some items ∧
      (∀ name, name ∈ names ↔ .text name ∈ items) ∧
      runFrom ((ofEntries entries).ruleFor (.text type) (.text field))
        journal = (.ok (rolesRule names).node, journal) := by
  rcases find?_related Entry.node related type with
    ⟨absent, absentNode⟩ | ⟨raw, entry, found, foundNode, meant⟩
  · left
    refine ⟨?_, runFrom_ruleFor_absent absentNode (.text field) journal⟩
    simp [Value.listed?, absent]
  · cases meant with
    | wholeType lists =>
        obtain ⟨items, isList, sameRoles⟩ := lists
        right
        refine ⟨items, _, ?_, sameRoles, ?_⟩
        · simp [Value.listed?, found, isList]
        · exact runFrom_ruleFor_node foundNode
            (nodeAnswer_of_isRule rfl _) journal
    | fields notList isMapping fieldsRelated =>
        have answered :
            runFrom ((ofEntries entries).ruleFor (.text type) (.text field))
              journal = _ :=
          runFrom_ruleFor_node foundNode (nodeAnswer_proxy _ field) journal
        rcases find?_related (fun names => (rolesRule names).node)
            fieldsRelated field with
          ⟨absent, absentNode⟩ | ⟨listed, names, foundField, foundRule, lists⟩
        · left
          refine ⟨?_, ?_⟩
          · simp [Value.listed?, found, notList, isMapping, absent]
          · simpa [absentNode] using answered
        · obtain ⟨items, isList, sameRoles⟩ := lists
          right
          refine ⟨items, names, ?_, sameRoles, ?_⟩
          · simp [Value.listed?, found, notList, isMapping, foundField, isList]
          · simpa [foundRule] using answered

/-- Compiling keeps the meaning of a table.  Whatever the identity, the check
of a field ends with a truth value, and that is what the raw table says of the
field and the identity's role.  In particular no role passes an empty list, and
an identity without a role passes no list. -/
theorem check_iff_admits {roles table : Value} {tree : PermissionTree}
    {journal compiled : Journal}
    (compiles : runFrom (compile roles table) journal = (.ok tree, compiled))
    (type field : String) (identity : Value) (log : Journal) :
    ∃ role answer,
      (runFrom (roleOf identity) log).1 = .ok role ∧
      (runFrom (tree.check (.text type) (.text field) identity) log).1 =
        .ok (.bool answer) ∧
      (answer = true ↔ table.Admits type field role) ∧
      (table.listed? type field = some [] → answer = false) ∧
      (role = none → table.listed? type field ≠ none → answer = false) := by
  obtain ⟨entries, related, rfl⟩ := compile_related compiles
  refine ⟨identity.role?, ?_⟩
  rcases runFrom_ruleFor_ofEntries related type field log with
    ⟨unlisted, ruleFound⟩ | ⟨items, names, listed, sameRoles, ruleFound⟩
  · refine ⟨true, by rw [runFrom_roleOf], ?_, ?_, ?_, ?_⟩
    · rw [check, runFrom_bind_ok ruleFound]
      rfl
    · simp [Value.Admits, unlisted]
    · simp [unlisted]
    · simp [unlisted]
  · obtain ⟨after, asked⟩ := runFrom_ask_rolesRule names identity log
    have decided :
        (names.any fun name => identity.role? == some name) = true ↔
          ∃ name, identity.role? = some name ∧ .text name ∈ items := by
      simp only [List.any_eq_true, beq_iff_eq, ← sameRoles]
      exact ⟨fun ⟨name, member, held⟩ => ⟨name, held, member⟩,
        fun ⟨name, held, member⟩ => ⟨name, member, held⟩⟩
    refine ⟨names.any fun name => identity.role? == some name,
      by rw [runFrom_roleOf], ?_, ?_, ?_, ?_⟩
    · rw [check, runFrom_bind_ok ruleFound]
      exact congrArg Prod.fst asked
    · simp only [Value.Admits, listed]
      exact decided
    · intro empty
      rw [listed] at empty
      cases empty
      simpa using decided.not.mpr (by simp)
    · intro without _
      simpa using decided.not.mpr (by simp [without])

/-- A table with both forms of entries, an empty list and a repeated role. -/
def sampleTable : Value :=
  .map
    [(.text "Query", .map
        [(.text "users", .texts ["ADMIN", "ADMIN"]), (.text "none", .texts [])]),
      (.text "Invoice", .texts ["USER", "ADMIN"])]

theorem check_sampleTable :
    ∃ tree compiled,
      runFrom (compile (.texts ["ADMIN", "USER"]) sampleTable) [] =
        (.ok tree, compiled) ∧
      ∃ role answer,
        (runFrom (roleOf (.identity (.text "ADMIN") .null)) []).1 = .ok role ∧
        (runFrom (tree.check (.text "Query") (.text "users")
            (.identity (.text "ADMIN") .null)) []).1 = .ok (.bool answer) ∧
        (answer = true ↔ sampleTable.Admits "Query" "users" role) ∧
        (sampleTable.listed? "Query" "users" = some [] → answer = false) ∧
        (role = none → sampleTable.listed? "Query" "users" ≠ none →
          answer = false) := by
  have compiles :
      runFrom (compile (.texts ["ADMIN", "USER"]) sampleTable) [] =
        (.ok (ofEntries
          [("Query", .fields [("users", ["ADMIN"]), ("none", [])]),
            ("Invoice", .wholeType ["USER", "ADMIN"])]),
          [.roleRepeated "ADMIN" "Query.users", .compiled 2 2]) := rfl
  exact ⟨_, _, compiles, check_iff_admits compiles "Query" "users" _ []⟩

end PermissionTree

end RoleGuard
