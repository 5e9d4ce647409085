import RoleGuard.Schema
import RoleGuard.Proofs.Enforcement

/-!
# What a schema lacks of a table

Checking a policy against a schema reports, entry by entry of the table that the
policy was made from, what the schema does not have.  Nothing is left out and
nothing is reported that the schema has.
-/

namespace RoleGuard

namespace Schema

/-- What a raw entry names that a schema lacks: its type, whatever is listed for
it, and of a type that it has the fields listed one by one that the type does
not have. -/
inductive Lacks (schema : Schema) : Value × Value → List String → Prop where
  | type {name : String} {listed : Value} :
      schema.type? name = none → Lacks schema (.text name, listed) [name]
  | nothing {name : String} {type : SchemaType} {listed : Value}
      {roles : List Value} :
      schema.type? name = some type → listed.roleItems? = some roles →
      Lacks schema (.text name, listed) []
  | fields {name : String} {type : SchemaType} {mapping : Value}
      {raw : List (Value × Value)} {fields : List String} :
      schema.type? name = some type → mapping.roleItems? = none →
      mapping.entries? = some raw → raw.map Prod.fst = fields.map .text →
      Lacks schema (.text name, mapping)
        ((fields.filter fun field => field ∉ type.fields).map fun field =>
          name ++ "." ++ field)

/-- A schema has the type of a raw entry and every field listed for it. -/
def Covers (schema : Schema) (entry : Value × Value) : Prop :=
  ∃ name type, entry.1 = .text name ∧ schema.type? name = some type ∧
    ∀ listed ∈ entry.2.entries?.getD [], ∃ field,
      listed.1 = .text field ∧ field ∈ type.fields

/-- The names that are reported of a table: those that the schema lacks, entry
by entry, and none exactly if it covers the table. -/
structure Reports (schema : Schema) (table : Value) (names : List String) :
    Prop where
  ordered : ∃ parts,
    List.Forall₂ schema.Lacks (table.entries?.getD []) parts ∧
    names = parts.flatten
  covered : names = [] ↔ ∀ entry ∈ table.entries?.getD [], schema.Covers entry

end Schema

theorem Value.entries?_of_roleItems? {v : Value} {items : List Value}
    (isList : v.roleItems? = some items) : v.entries? = none := by
  unfold roleItems? at isList
  unfold entries?
  split at isList <;> simp_all

/-- Fields that have been read are the keys of the mapping, in order. -/
theorem keys_of_related {means : Value → α → Prop} {raw : List (Value × Value)}
    {read : List (String × α)} (related : List.Forall₂ (ReadAs means) raw read) :
    raw.map Prod.fst = (read.map Prod.fst).map .text := by
  induction related with
  | nil => rfl
  | cons head _ ih => rw [List.map_cons, ih, head.1]; rfl

namespace Schema

/-- What a schema lacks of an entry is nothing if it covers the entry. -/
theorem Lacks.eq_nil_iff {schema : Schema} {entry : Value × Value}
    {names : List String} (lacks : schema.Lacks entry names) :
    names = [] ↔ schema.Covers entry := by
  cases lacks with
  | @type name listed absent =>
      have uncovered : ¬ schema.Covers (.text name, listed) := by
        rintro ⟨_, _, named, found, _⟩
        cases named
        rw [absent] at found
        cases found
      simp [uncovered]
  | @nothing name type listed roles found isList =>
      refine ⟨fun _ => ⟨name, type, rfl, found, ?_⟩, fun _ => rfl⟩
      simp [Value.entries?_of_roleItems? isList]
  | @fields name type mapping raw fields found _ isMapping keys =>
      have overKeys : (∀ listed ∈ raw, ∃ field, listed.1 = .text field ∧
          field ∈ type.fields) ↔ ∀ key ∈ raw.map Prod.fst, ∃ field,
            key = .text field ∧ field ∈ type.fields := by
        rw [List.forall_mem_map]
      have listedIff : (∀ listed ∈ raw, ∃ field, listed.1 = .text field ∧
          field ∈ type.fields) ↔ ∀ field ∈ fields, field ∈ type.fields := by
        rw [overKeys, keys, List.forall_mem_map]
        simp
      constructor
      · intro empty
        refine ⟨name, type, rfl, found, ?_⟩
        rw [isMapping, Option.getD_some, listedIff]
        simpa using empty
      · rintro ⟨_, _, named, found', covered⟩
        cases named
        cases found.symm.trans found'
        rw [isMapping, Option.getD_some, listedIff] at covered
        simpa using covered

/-- What is lacked entry by entry is nothing if every entry is covered. -/
theorem flatten_lacks_eq_nil_iff {schema : Schema}
    {raw : List (Value × Value)} {parts : List (List String)}
    (lacks : List.Forall₂ schema.Lacks raw parts) :
    parts.flatten = [] ↔ ∀ entry ∈ raw, schema.Covers entry := by
  induction lacks with
  | nil => simp
  | cons head _ ih =>
      rw [List.flatten_cons, List.append_eq_nil_iff, head.eq_nil_iff, ih,
        List.forall_mem_cons]

end Schema

namespace Policy

/-- Of fields that a node guards one by one those are unknown that the type does
not have. -/
theorem unknownFields_fields (name : String) (type : SchemaType)
    (fields : List (String × List String)) :
    unknownFields name type (Entry.fields fields).node =
      ((fields.map Prod.fst).filter fun field => field ∉ type.fields).map
        fun field => name ++ "." ++ field := by
  change ((fields.map fun field =>
      (Value.text field.1, (rolesRule field.2).node)).map
    fun entry => keyText entry.1).filterMap _ = _
  induction fields with
  | nil => rfl
  | cons field fields ih =>
      by_cases known : field.1 ∈ type.fields <;>
        simpa [keyText, known] using ih

/-- Of the node that an entry was compiled to, the check reports what the schema
lacks of the entry. -/
theorem lacks_unknownLocations (schema : Schema) {name : String} {raw : Value}
    {entry : Entry} (meant : Entry.Means raw entry) :
    schema.Lacks (.text name, raw)
      (unknownLocations schema (.text name, entry.node)) := by
  unfold unknownLocations
  simp only [keyText]
  cases found : schema.type? name with
  | none => exact .type found
  | some type =>
      cases meant with
      | wholeType lists =>
          obtain ⟨items, isList, _⟩ := lists
          exact .nothing found isList
      | fields notList isMapping related =>
          simp only [unknownFields_fields]
          exact .fields found notList isMapping (keys_of_related related)

/-- What the check finds in a compiled tree is what the schema lacks of the
table, entry by entry. -/
theorem lacks_nodes (schema : Schema) {raw : List (Value × Value)}
    {entries : List (String × Entry)}
    (related : List.Forall₂ (ReadAs Entry.Means) raw entries) :
    List.Forall₂ schema.Lacks raw
      ((PermissionTree.ofEntries entries).nodes.map
        (unknownLocations schema)) := by
  induction related with
  | nil => exact .nil
  | @cons item entry _ _ head _ ih =>
      obtain ⟨key, v⟩ := item
      obtain ⟨rfl, meant⟩ := head
      exact .cons (lacks_unknownLocations schema meant) ih

theorem runFrom_noteUnknown (names : List String) (journal : Journal) :
    runFrom (names.forM fun name => Logged.note (.locationUnknown name) :
      Logged PUnit) journal = (.ok (), journal ++ names.map .locationUnknown) := by
  induction names generalizing journal with
  | nil => simp
  | cons name names ih =>
      change runFrom (Logged.note (.locationUnknown name) >>= fun _ =>
        names.forM fun name => Logged.note (.locationUnknown name) :
          Logged PUnit) journal = _
      rw [runFrom_bind_ok (Logged.runFrom_note _ journal), ih]
      simp

/-- The check notes each name that it reports, in order. -/
theorem runFrom_validateAgainst (policy : Policy) {source : SchemaSource}
    {schema : Schema} (held : source.schema? = some schema)
    (journal : Journal) :
    runFrom (policy.validateAgainst source) journal =
      (.ok (policy.permissions.nodes.flatMap (unknownLocations schema)),
        journal ++ (policy.permissions.nodes.flatMap
          (unknownLocations schema)).map .locationUnknown) := by
  unfold validateAgainst
  rw [held]
  exact runFrom_bind_ok (runFrom_noteUnknown _ journal)

/-- What a policy's tree answers does not depend on what has been noted. -/
theorem Sound.check_journal {policy : Policy} {table : Value}
    (sound : policy.Sound table) (type field : String) (identity : Value)
    (journal other : Journal) :
    (runFrom (policy.permissions.check (.text type) (.text field) identity)
        other).1 =
      (runFrom (policy.permissions.check (.text type) (.text field) identity)
        journal).1 := by
  rcases sound.rule?_eq (World.initial .bare false) type field with
    ⟨_, found⟩ | ⟨names, _, found⟩
  · rw [sound.runFrom_check_unruled found, sound.runFrom_check_unruled found]
  · obtain ⟨ending, events, asked⟩ :=
      (rolesRule names).agree_evaluate (Value.SameRole.refl identity)
    rw [sound.runFrom_check_ruled found, sound.runFrom_check_ruled found,
      (asked other).1, (asked journal).1]

/-- How checking a policy goes that reports the given names: it notes a warning
for each of them, in order, and changes nothing else, and the policy's tree
answers as before. -/
structure Announces (policy : Policy) (given : SchemaSource)
    (names : List String) (world : World) : Prop where
  returns : runFrom (Act.ofLogged (policy.validateAgainst given)) world =
    (.ok names, world.noted (names.map .locationUnknown))
  warns : ∀ event ∈ names.map Event.locationUnknown, event.level = .warning
  unchanged : ∀ type field identity,
    (runFrom (policy.permissions.check (.text type) (.text field) identity)
        (world.noted (names.map .locationUnknown)).journal).1 =
      (runFrom (policy.permissions.check (.text type) (.text field) identity)
        world.journal).1

/-- Checking any policy that was made against any schema reports what the schema
lacks of the policy's table.  Whenever it is checked it announces the same
names, whether the schema is given itself or held by something. -/
theorem validateAgainst_reports {source : PolicySource} {policy : Policy}
    {before made : World}
    (makes : runFrom (make source) before = (.ok policy, made))
    (schema : Schema) :
    ∃ names, schema.Reports (before.refresh source.schema) names ∧
      ∀ given ∈ [SchemaSource.bare schema, .holding schema], ∀ world,
        policy.Announces given names world := by
  have sound := sound_make makes
  obtain ⟨entries, related, isCompiled⟩ := sound.compiled
  have lacks := lacks_nodes schema related
  rw [← isCompiled] at lacks
  refine ⟨_, ⟨⟨_, lacks, rfl⟩, Schema.flatten_lacks_eq_nil_iff lacks⟩, ?_⟩
  intro given isGiven world
  have held : given.schema? = some schema := by
    simp only [List.mem_cons, List.not_mem_nil, or_false] at isGiven
    rcases isGiven with rfl | rfl <;> rfl
  refine ⟨?_, ?_, fun type field identity => ?_⟩
  · rw [Act.runFrom_ofLogged, policy.runFrom_validateAgainst held]
    rfl
  · intro event member
    obtain ⟨name, _, rfl⟩ := List.mem_map.mp member
    rfl
  · exact sound.check_journal type field identity _ _

/-- A policy made from the sample table. -/
def tableSource : PolicySource where
  roles := .texts ["ADMIN", "USER"]
  schema := PermissionTree.sampleTable
  getUser := .provided .alwaysAdmin

/-- A schema that has one of the two fields of the table, and not the type that
the table guards as a whole. -/
def sampleSchema : Schema := ⟨[⟨"Query", ["users"]⟩]⟩

theorem made_tableSource :
    ∃ policy made,
      runFrom (make tableSource) (World.initial .bare false) =
        (.ok policy, made) ∧
      (runFrom (policy.validateAgainst (some sampleSchema)) []).1 =
        .ok ["Query.none", "Invoice"] :=
  ⟨_, _, rfl, rfl⟩

theorem reports_tableSource :
    ∃ policy made,
      runFrom (make tableSource) (World.initial .bare false) =
        (.ok policy, made) ∧
      ∃ names, sampleSchema.Reports PermissionTree.sampleTable names ∧
        ∀ given ∈ [SchemaSource.bare sampleSchema, .holding sampleSchema],
          ∀ world, policy.Announces given names world := by
  obtain ⟨policy, made, makes, _⟩ := made_tableSource
  exact ⟨policy, made, makes, validateAgainst_reports makes sampleSchema⟩

end Policy

end RoleGuard
