import RoleGuard.Proofs.Configuration

/-!
# What compiling looks at, notes and builds

Compiling looks at a configuration piece by piece: at the declared roles, at the
table, at its entries and their fields, and at each element of each role list.
`inspections` lists these looks in order.  Compiling carries them out up to the
first that finds a fault, and notes a role that its list has had before.  If
none finds a fault the tree mirrors the table, and what has been compiled is
noted last.
-/

namespace RoleGuard

/-- The items of a list, each with those before it, where some are before
all. -/
def eachAfter (earlier : List α) : List α → List (List α × α)
  | [] => []
  | item :: rest => (earlier, item) :: eachAfter (earlier ++ [item]) rest

theorem eachAfter_append (earlier first second : List α) :
    eachAfter earlier (first ++ second) =
      eachAfter earlier first ++ eachAfter (earlier ++ first) second := by
  induction first generalizing earlier with
  | nil => simp [eachAfter]
  | cons item first ih => simp [eachAfter, ih]

/-- A look at a piece of a configuration.  A role is looked at together with
those before it in its list. -/
inductive Inspection where
  | roles (given : Value)
  | declaredRole (earlier : List Value) (role : Value)
  | table (given : Value)
  | typeName (key : Value)
  | entry (location : String) (v : Value)
  | fieldName (location : String) (key : Value)
  | fieldRoles (location field : String) (listed : Value)
  | listedRole (location : String) (field : Option String)
      (earlier : List Value) (role : Value)

namespace Inspection

/-- Whether what is looked at is as it has to be; `declared` are the elements of
the list of declared roles. -/
def Sound (declared : List Value) : Inspection → Prop
  | .roles given => given.elements?.isSome
  | .declaredRole earlier role => role.IsName ∧ role ∉ earlier
  | .table given => given.entries?.isSome
  | .typeName key => key.IsName
  | .fieldName _ key => key.IsName
  | .entry _ v => v.elements?.isSome ∨ v.entries?.isSome
  | .fieldRoles _ _ listed => listed.elements?.isSome
  | .listedRole _ _ _ role => role ∈ declared

/-- What is reported if it is not. -/
def violation : Inspection → Violation
  | .declaredRole _ role => ⟨none, none, role, role⟩
  | .typeName key => ⟨none, none, .null, key⟩
  | .entry location _ | .fieldName location _ =>
      ⟨some location, none, .null, .null⟩
  | .fieldRoles location field _ => ⟨some location, some field, .null, .null⟩
  | .listedRole location field _ role => ⟨some location, field, role, role⟩
  | _ => ⟨none, none, .null, .null⟩

/-- What is noted: a role that its list has had before. -/
def notes : Inspection → Journal
  | .listedRole location field earlier (.text name) =>
      if earlier.any (·.same (.text name)) then
        [.roleRepeated name (locationText location field)]
      else []
  | _ => []

end Inspection

/-- The looks at the declared roles. -/
def roleInspections (roles : Value) : List Inspection :=
  .roles roles ::
    (eachAfter [] (roles.elements?.getD [])).map fun place =>
      .declaredRole place.1 place.2

/-- The looks at the elements of a role list, after some elements. -/
def listInspections (location : String) (field : Option String)
    (earlier items : List Value) : List Inspection :=
  (eachAfter earlier items).map fun place =>
    .listedRole location field place.1 place.2

def fieldInspections (location : String) : Value × Value → List Inspection
  | (.text field, listed) =>
      .fieldName location (.text field) :: .fieldRoles location field listed ::
        listInspections location (some field) [] (listed.elements?.getD [])
  | (key, _) => [.fieldName location key]

/-- The looks at an entry of a table: at its elements, if it is a role list, and
else at its fields. -/
def entryInspections : Value × Value → List Inspection
  | (.text location, v) =>
      .typeName (.text location) :: .entry location v ::
        match v.elements? with
        | some items => listInspections location none [] items
        | none => (v.entries?.getD []).flatMap (fieldInspections location)
  | (key, _) => [.typeName key]

/-- The looks at a configuration, in order. -/
def inspections (roles table : Value) : List Inspection :=
  roleInspections roles ++
    .table table :: (table.entries?.getD []).flatMap entryInspections

/-- How a computation that carries out inspections ends: with a result, if all
of them are sound, or at the first that is not.  What the inspections before
have noted is kept. -/
inductive Scanned (declared : List Value) (steps : List Inspection)
    (Result : α → Prop) (journal : Journal) :
    Except Misconfiguration α × Journal → Prop where
  | passed {a : α} :
      Result a → (∀ step ∈ steps, step.Sound declared) →
      Scanned declared steps Result journal
        (.ok a, journal ++ steps.flatMap Inspection.notes)
  | stopped {before rest : List Inspection} {step : Inspection}
      {cause : Misconfiguration} :
      steps = before ++ step :: rest →
      (∀ earlier ∈ before, earlier.Sound declared) →
      ¬ step.Sound declared → cause.violation = step.violation →
      Scanned declared steps Result journal
        (.error cause,
          journal ++ before.flatMap Inspection.notes)

/-- A computation carries out inspections, whatever has been noted before. -/
def Scans (declared : List Value) (steps : List Inspection) (Result : α → Prop)
    (computation : Checked α) : Prop :=
  ∀ journal,
    Scanned declared steps Result journal (runFrom computation journal)

namespace Scans

variable {declared : List Value} {steps more : List Inspection}
  {step : Inspection} {Result : α → Prop} {computation : Checked α}

theorem pure {a : α} (result : Result a) :
    Scans declared [] Result (pure a : Checked α) := by
  intro journal
  have passed : Scanned declared [] Result journal
      (.ok a, journal ++ [].flatMap Inspection.notes) := .passed result nofun
  simpa using passed

theorem stop {cause : Misconfiguration} (unsound : ¬ step.Sound declared)
    (reports : cause.violation = step.violation) (rest : List Inspection) :
    Scans declared (step :: rest) Result (throw cause : Checked α) := by
  intro journal
  have stopped : Scanned declared (step :: rest) Result journal
      (.error cause, journal ++ [].flatMap Inspection.notes) :=
    .stopped (List.nil_append _).symm nofun unsound reports
  rw [List.flatMap_nil, List.append_nil] at stopped
  exact stopped

theorem bind {Last : β → Prop} {next : α → Checked β}
    (begins : Scans declared steps Result computation)
    (goesOn : ∀ a, Result a → Scans declared more Last (next a)) :
    Scans declared (steps ++ more) Last (computation >>= next) := by
  intro journal
  have begun := begins journal
  rw [runFrom_bind]
  generalize runFrom computation journal = ended at begun
  cases begun with
  | @passed a result sound =>
      have rest := goesOn a result (journal ++ steps.flatMap Inspection.notes)
      dsimp only
      generalize runFrom (next a) _ = ended at rest
      cases rest with
      | passed result soundRest =>
          rw [List.append_assoc, ← List.flatMap_append]
          exact .passed result
            (List.forall_mem_append.mpr ⟨sound, soundRest⟩)
      | @stopped before after step cause isSteps soundRest unsound reports =>
          have isAll : steps ++ more = (steps ++ before) ++ step :: after := by
            rw [isSteps, List.append_assoc]
          rw [List.append_assoc, ← List.flatMap_append]
          exact .stopped isAll
            (List.forall_mem_append.mpr ⟨sound, soundRest⟩) unsound reports
  | @stopped before after step cause isSteps sound unsound reports =>
      have isAll : steps ++ more = before ++ step :: (after ++ more) := by
        rw [isSteps, List.append_assoc, List.cons_append]
      exact .stopped isAll sound unsound reports

theorem mono {Other : α → Prop}
    (given : Scans declared steps Result computation)
    (weaker : ∀ a, Result a → Other a) :
    Scans declared steps Other computation := by
  intro journal
  have ended := given journal
  generalize runFrom computation journal = ending at ended
  cases ended with
  | passed result sound => exact .passed (weaker _ result) sound
  | stopped isSteps sound unsound reports =>
      exact .stopped isSteps sound unsound reports

theorem map {Last : β → Prop} {f : α → β}
    (begins : Scans declared steps Result computation)
    (lasts : ∀ a, Result a → Last (f a)) :
    Scans declared steps Last (f <$> computation) := by
  rw [map_eq_pure_bind, ← List.append_nil steps]
  exact begins.bind fun a result => .pure (lasts a result)

/-- A sound inspection that notes nothing. -/
theorem silent (sound : step.Sound declared) (notes : step.notes = [])
    (goesOn : Scans declared steps Result computation) :
    Scans declared (step :: steps) Result computation := by
  have looks : Scans declared [step] (fun _ => True)
      (Pure.pure () : Checked Unit) := by
    intro journal
    have passed : Scanned declared [step] (fun _ => True) journal
        (.ok (), journal ++ [step].flatMap Inspection.notes) :=
      .passed trivial (List.forall_mem_singleton.mpr sound)
    simpa [notes] using passed
  exact looks.bind fun _ _ => goesOn

/-- Sound inspections that note nothing. -/
theorem silently {before : List Inspection}
    (sound : ∀ step ∈ before, step.Sound declared ∧ step.notes = [])
    (goesOn : Scans declared steps Result computation) :
    Scans declared (before ++ steps) Result computation := by
  induction before with
  | nil => exact goesOn
  | cons step before ih =>
      obtain ⟨⟨stepSound, notesNothing⟩, rest⟩ :=
        List.forall_mem_cons.mp sound
      exact (ih rest).silent stepSound notesNothing

/-- A sound inspection that notes an event. -/
theorem note {event : Event} (sound : step.Sound declared)
    (notes : step.notes = [event]) :
    Scans declared [step] (fun _ => True) (Logged.note event) := by
  intro journal
  have passed : Scanned declared [step] (fun _ => True) journal
      (.ok (), journal ++ [step].flatMap Inspection.notes) :=
    .passed trivial (List.forall_mem_singleton.mpr sound)
  simpa [notes] using passed

end Scans

/-- The distinct elements of a role list, in the order of their first
occurrence. -/
def Value.ListsOnce (listed : Value) (roles : List String) : Prop :=
  ∃ names : List String,
    listed.elements? = some (names.map .text) ∧ roles = names.eraseDups

/-- An entry of a table, as it is read. -/
inductive Entry.Keeps : Value → Entry → Prop where
  | wholeType {listed : Value} {roles : List String} :
      listed.ListsOnce roles → Entry.Keeps listed (.wholeType roles)
  | fields {mapping : Value} {raw : List (Value × Value)}
      {fields : List (String × List String)} :
      mapping.entries? = some raw →
      List.Forall₂ (ReadAs Value.ListsOnce) raw fields →
      Entry.Keeps mapping (.fields fields)

section

variable {names : List String} {location : String} {field : Option String}

theorem any_same_text (earlier : List String) (name : String) :
    (earlier.map Value.text).any (·.same (.text name)) = true ↔
      name ∈ earlier := by
  simp [Value.same_text]

theorem eraseDups_concat (earlier : List String) (name : String) :
    (earlier ++ [name]).eraseDups =
      if name ∈ earlier then earlier.eraseDups
      else earlier.eraseDups ++ [name] := by
  have single : [name].eraseDups = [name] := by simp [List.eraseDups_cons]
  rw [List.eraseDups_append]
  split <;> simp_all [List.removeAll]

/-- Reading a role list carries out the looks at its elements and keeps each
role once. -/
theorem scans_allowedRoles (earlier : List String) (items : List Value) :
    Scans (names.map .text)
      (listInspections location field (earlier.map .text) items)
      (fun kept => ∃ listed : List String, items = listed.map .text ∧
        kept = (earlier ++ listed).eraseDups)
      (allowedRoles names location field earlier.eraseDups items) := by
  induction items generalizing earlier with
  | nil =>
      rw [allowedRoles]
      exact .pure ⟨[], rfl, by rw [List.append_nil]⟩
  | cons item items ih =>
      cases item with
      | text role =>
          have shifted : earlier.map Value.text ++ [.text role] =
              (earlier ++ [role]).map .text := by simp
          have rest : Scans (names.map .text)
              (listInspections location field
                (earlier.map .text ++ [.text role]) items)
              (fun kept => ∃ listed : List String,
                .text role :: items = listed.map .text ∧
                  kept = (earlier ++ listed).eraseDups)
              (allowedRoles names location field (earlier ++ [role]).eraseDups
                items) := by
            rw [shifted]
            apply (ih (earlier ++ [role])).mono
            rintro _ ⟨listed, rfl, rfl⟩
            exact ⟨role :: listed, rfl, by simp⟩
          rw [allowedRoles_text]
          split
          · rename_i isDeclared
            have sound : (Inspection.listedRole location field
                (earlier.map .text) (.text role)).Sound (names.map .text) :=
              List.mem_map_of_mem isDeclared
            have noted := any_same_text earlier role
            split
            · rename_i isKept
              -- a role that is kept already is noted, and kept once
              have again : role ∈ earlier := List.mem_eraseDups.mp isKept
              rw [eraseDups_concat, if_pos again] at rest
              exact (Scans.note sound (if_pos (noted.mpr again))).bind
                fun _ _ => rest
            · rename_i notKept
              have new : role ∉ earlier :=
                fun member => notKept (List.mem_eraseDups.mpr member)
              rw [eraseDups_concat, if_neg new] at rest
              exact rest.silent sound (if_neg (noted.not.mpr new))
          · rename_i undeclared
            refine .stop ?_ rfl _
            simpa [Inspection.Sound] using undeclared
      | _ => exact .stop (by simp [Inspection.Sound]) rfl _

/-- What is read of a role list carries out the looks at all of its
elements. -/
theorem scans_elements {listed : Value} {items : List Value}
    (isList : listed.elements? = some items) :
    ∃ read, listed.roleItems? = some read ∧
      Scans (names.map .text) (listInspections location field [] items)
        listed.ListsOnce (allowedRoles names location field [] read) := by
  rcases Value.roleItems?_eq_some isList with same | ⟨n, rest, rfl, front⟩
  · refine ⟨items, same, (scans_allowedRoles [] items).mono ?_⟩
    rintro _ ⟨names, rfl, rfl⟩
    exact ⟨names, isList, rfl⟩
  · -- no number is a role, so the first one stops the scan
    exact ⟨[.int n], front, .stop (by simp [Inspection.Sound]) rfl _⟩

theorem scans_allowedFields (fields : List (Value × Value)) :
    Scans (names.map .text) (fields.flatMap (fieldInspections location))
      (List.Forall₂ (ReadAs Value.ListsOnce) fields)
      (allowedFields names location fields) := by
  induction fields with
  | nil =>
      rw [allowedFields]
      exact .pure .nil
  | cons field fields ih =>
      obtain ⟨key, listed⟩ := field
      cases key with
      | text name =>
          rw [List.flatMap_cons]
          by_cases isEmpty : name = ""
          · rw [allowedFields, if_pos isEmpty]
            exact .stop (by simp [Inspection.Sound, Value.IsName, isEmpty]) rfl _
          · have named :
                (Inspection.fieldName location (.text name)).Sound
                  (names.map .text) := ⟨name, isEmpty, rfl⟩
            rw [allowedFields_name isEmpty]
            apply Scans.silent named rfl
            cases isList : listed.elements? with
            | none =>
                rw [Value.roleItems?_eq_none isList]
                exact .stop (by simp [Inspection.Sound, isList]) rfl _
            | some items =>
                obtain ⟨read, isRead, scans⟩ := scans_elements isList
                have sound :
                    (Inspection.fieldRoles location name listed).Sound
                      (names.map .text) := by
                  simp [Inspection.Sound, isList]
                rw [isRead]
                apply Scans.silent sound rfl
                apply scans.bind
                intro roles once
                rw [← List.append_nil (fields.flatMap _)]
                apply ih.bind
                intro rest related
                exact .pure (.cons ⟨rfl, once⟩ related)
      | _ => exact .stop (by simp [Inspection.Sound, Value.IsName]) rfl _

theorem scans_readEntry (v : Value) :
    Scans (names.map .text)
      (.entry location v ::
        match v.elements? with
        | some items => listInspections location none [] items
        | none => (v.entries?.getD []).flatMap (fieldInspections location))
      (Entry.Keeps v) (readEntry names location v) := by
  cases isList : v.elements? with
  | some items =>
      obtain ⟨read, isRead, scans⟩ := scans_elements isList
      have sound : (Inspection.entry location v).Sound (names.map .text) :=
        .inl (by rw [isList]; rfl)
      unfold readEntry
      rw [isRead]
      apply Scans.silent sound rfl
      exact scans.map fun roles once => .wholeType once
  | none =>
      cases isMapping : v.entries? with
      | some fields =>
          have sound : (Inspection.entry location v).Sound (names.map .text) :=
            .inr (by rw [isMapping]; rfl)
          rw [readEntry_of_entries? isMapping]
          apply Scans.silent sound rfl
          exact (scans_allowedFields fields).map fun read related =>
            .fields isMapping related
      | none =>
          unfold readEntry
          rw [Value.roleItems?_eq_none isList, isMapping]
          exact .stop (by simp [Inspection.Sound, isList, isMapping]) rfl _

theorem scans_readEntries (entries : List (Value × Value)) :
    Scans (names.map .text) (entries.flatMap entryInspections)
      (List.Forall₂ (ReadAs Entry.Keeps) entries)
      (readEntries names entries) := by
  induction entries with
  | nil =>
      rw [readEntries]
      exact .pure .nil
  | cons entry entries ih =>
      obtain ⟨key, v⟩ := entry
      cases key with
      | text name =>
          rw [List.flatMap_cons]
          by_cases isEmpty : name = ""
          · rw [readEntries, if_pos isEmpty]
            exact .stop (by simp [Inspection.Sound, Value.IsName, isEmpty]) rfl _
          · have named : (Inspection.typeName (.text name)).Sound
                (names.map .text) := ⟨name, isEmpty, rfl⟩
            rw [readEntries_name isEmpty]
            apply Scans.silent named rfl
            apply (scans_readEntry v).bind
            intro entry keeps
            rw [← List.append_nil (entries.flatMap _)]
            apply ih.bind
            intro rest related
            exact .pure (.cons ⟨rfl, keeps⟩ related)
      | _ => exact .stop (by simp [Inspection.Sound, Value.IsName]) rfl _

theorem scans_readTable (names : List String) (table : Value) :
    Scans (names.map .text)
      (.table table :: (table.entries?.getD []).flatMap entryInspections)
      (fun read => ∃ entries, table.entries? = some entries ∧
        List.Forall₂ (ReadAs Entry.Keeps) entries read)
      (readTable names table) := by
  cases isMapping : table.entries? with
  | some entries =>
      have sound : (Inspection.table table).Sound (names.map .text) := by
        simp [Inspection.Sound, isMapping]
      rw [readTable_of_entries? isMapping]
      apply Scans.silent sound rfl
      exact (scans_readEntries entries).mono fun read related =>
        ⟨entries, rfl, related⟩
  | none =>
      unfold readTable tableEntries
      rw [isMapping]
      exact .stop (by simp [Inspection.Sound, isMapping]) rfl _

end

section

variable {names : List String}

theorem sound_declaredRoles (declared : List Value) (earlier : List String)
    (named : "" ∉ names) (distinct : (earlier ++ names).Nodup) :
    ∀ step ∈ (eachAfter (earlier.map Value.text) (names.map .text)).map
        (fun place => Inspection.declaredRole place.1 place.2),
      step.Sound declared ∧ step.notes = [] := by
  induction names generalizing earlier with
  | nil => exact nofun
  | cons name names ih =>
      obtain ⟨isNamed, namedRest⟩ := not_or.mp (List.mem_cons.not.mp named)
      have shifted : earlier ++ name :: names = earlier ++ [name] ++ names := by
        simp
      have new : name ∉ earlier := fun member =>
        (List.nodup_append.mp distinct).2.2 name member name
          List.mem_cons_self rfl
      have newText : Value.text name ∉ earlier.map Value.text := by
        simpa using new
      have rest := ih (earlier ++ [name]) namedRest (shifted ▸ distinct)
      rw [List.map_append] at rest
      rw [List.map_cons, eachAfter, List.map_cons, List.forall_mem_cons]
      exact ⟨⟨⟨⟨name, Ne.symm isNamed, rfl⟩, newText⟩, rfl⟩, rest⟩

/-- The declared roles as a computation that notes nothing. -/
def readRoles (roles : Value) : Checked (List String) :=
  liftM (declaredRoles roles)

theorem scans_readRoles (declared : List Value) (roles : Value) :
    Scans declared (roleInspections roles) (Declares roles)
      (readRoles roles) := by
  unfold readRoles roleInspections
  cases isList : roles.elements? with
  | none =>
      unfold declaredRoles
      rw [Value.roleItems?_eq_none isList]
      exact .stop (by simp [Inspection.Sound, isList]) rfl _
  | some items =>
      have sound : (Inspection.roles roles).Sound declared := by
        simp [Inspection.Sound, isList]
      rcases names_or_first List.nodup_nil List.not_mem_nil items with
        ⟨names, rfl, distinct, named⟩ |
        ⟨names, role, after, rfl, distinct, named, unsound⟩
      · have declares : Declares roles names := ⟨isList, distinct, named⟩
        have soundNames := sound_declaredRoles declared [] named distinct
        rw [declaredRoles_of_declares declares]
        apply Scans.silent sound rfl
        have scans := Scans.silently soundNames (.pure declares)
        rw [List.append_nil] at scans
        exact scans
      · obtain ⟨cause, reports, stops⟩ :=
          declaredRoles_of_role isList distinct named unsound
        have soundNames := sound_declaredRoles declared [] named distinct
        have roleUnsound :
            ¬ (Inspection.declaredRole (names.map .text) role).Sound
              declared := by
          rintro ⟨⟨name, isNamed, rfl⟩, new⟩
          rcases unsound name rfl with isEmpty | again
          · exact isNamed isEmpty
          · exact new (List.mem_map_of_mem again)
        rw [stops]
        apply Scans.silent sound rfl
        change Scans declared
          ((eachAfter [] (names.map Value.text ++ role :: after)).map _) _ _
        rw [eachAfter_append, List.map_append]
        apply Scans.silently soundNames
        exact .stop roleUnsound reports _

end

/-- The declared roles of a configuration and what is read of its table. -/
def readConfiguration (roles table : Value) :
    Checked (List String × List (String × Entry)) := do
  let names ← readRoles roles
  let entries ← readTable names table
  return (names, entries)

theorem scans_readConfiguration (roles table : Value) :
    Scans (roles.elements?.getD []) (inspections roles table)
      (fun read => Declares roles read.1 ∧
        ∃ entries, table.entries? = some entries ∧
          List.Forall₂ (ReadAs Entry.Keeps) entries read.2)
      (readConfiguration roles table) := by
  apply (scans_readRoles _ roles).bind
  intro names declares
  have isDeclared : roles.elements?.getD [] = names.map .text := by
    rw [declares.1]
    rfl
  rw [isDeclared]
  apply (scans_readTable names table).map
  intro read entries
  exact ⟨declares, entries⟩

theorem build_eq (roles table : Value) :
    PermissionTree.build roles table = (do
      let read ← readConfiguration roles table
      Logged.note (.compiled read.1.length read.2.length)
      return PermissionTree.ofEntries read.2) := by
  unfold PermissionTree.build readConfiguration readRoles
  simp

/-- Under the same key, values that are related. -/
def AtKey (related : Value → Value → Prop) (entry node : Value × Value) :
    Prop :=
  node.1 = entry.1 ∧ related entry.2 node.2

/-- A rule that allows the roles of a list, each once and in the order of their
first occurrence. -/
def RuleOfRoles (listed node : Value) : Prop :=
  ∃ roles, listed.ListsOnce roles ∧ node = (rolesRule roles).node

/-- What stands in a tree for an entry of a table: a rule for a role list, and
for a mapping one with a rule for each field, in the same order. -/
inductive NodeOfEntry : Value → Value → Prop where
  | wholeType {listed node : Value} :
      RuleOfRoles listed node → NodeOfEntry listed node
  | fields {mapping : Value} {raw nodes : List (Value × Value)} :
      mapping.elements? = none → mapping.entries? = some raw →
      List.Forall₂ (AtKey RuleOfRoles) raw nodes →
      NodeOfEntry mapping (.proxy nodes)

theorem Entry.Keeps.node {v : Value} {entry : Entry}
    (keeps : Entry.Keeps v entry) : NodeOfEntry v entry.node := by
  cases keeps with
  | wholeType once => exact .wholeType ⟨_, once, rfl⟩
  | fields isMapping related =>
      apply NodeOfEntry.fields (elements?_eq_none_of_entries? isMapping)
        isMapping
      rw [List.forall₂_map_right_iff]
      exact related.imp fun field read ⟨isKey, once⟩ =>
        ⟨isKey.symm, _, once, rfl⟩

theorem nodes_ofEntries {entries : List (Value × Value)}
    {read : List (String × Entry)}
    (related : List.Forall₂ (ReadAs Entry.Keeps) entries read) :
    List.Forall₂ (AtKey NodeOfEntry) entries
      (PermissionTree.ofEntries read).nodes := by
  unfold PermissionTree.ofEntries
  rw [List.forall₂_map_right_iff]
  exact related.imp fun entry part ⟨isKey, keeps⟩ =>
    ⟨isKey.symm, keeps.node⟩

theorem firstViolation_of_error {roles table : Value}
    {cause : Misconfiguration} {journal : Journal}
    (failed : (runFrom (PermissionTree.build roles table) journal).1 =
      .error cause) :
    FirstViolation roles table cause.violation := by
  rcases wellFormed_or_firstViolation roles table with
    wellFormed | ⟨violation, first⟩
  · obtain ⟨tree, after, ended⟩ := succeeds_build wellFormed journal
    rw [ended] at failed
    cases failed
  · obtain ⟨other, rfl, fails⟩ := fails_build first
    cases failed.symm.trans (fails journal)
    exact first

/-- How compiling ends.  If all the looks at a configuration are sound, the tree
has a node for each entry of the table, in order, and the journal gets what the
looks note and then how much has been compiled.  Else what the first look that
is not sound finds is reported, and the journal gets what the looks before it
note. -/
inductive CompiledAs (roles table : Value) (journal : Journal) :
    Except Fault PermissionTree × Journal → Prop where
  | accepted {names : List String} {entries : List (Value × Value)}
      {tree : PermissionTree} :
      Declares roles names → table.entries? = some entries →
      (∀ step ∈ inspections roles table, step.Sound (names.map .text)) →
      List.Forall₂ (AtKey NodeOfEntry) entries tree.nodes →
      CompiledAs roles table journal
        (.ok tree,
          journal ++ (inspections roles table).flatMap Inspection.notes ++
            [.compiled names.length entries.length])
  | rejected {before rest : List Inspection} {step : Inspection}
      {cause : Misconfiguration} :
      inspections roles table = before ++ step :: rest →
      (∀ earlier ∈ before, earlier.Sound (roles.elements?.getD [])) →
      ¬ step.Sound (roles.elements?.getD []) →
      cause.violation = step.violation →
      FirstViolation roles table cause.violation →
      CompiledAs roles table journal
        (.error cause.fault, journal ++ before.flatMap Inspection.notes)

/-- Compiling mirrors the table and notes each role that is dropped. -/
theorem PermissionTree.compile_mirrors (roles table : Value)
    (journal : Journal) :
    CompiledAs roles table journal
      (runFrom (PermissionTree.compile roles table) journal) := by
  have scanned := scans_readConfiguration roles table journal
  have built : runFrom (PermissionTree.build roles table) journal =
      match runFrom (readConfiguration roles table) journal with
      | (.ok read, after) =>
          (.ok (.ofEntries read.2),
            after ++ [.compiled read.1.length read.2.length])
      | (.error cause, after) => (.error cause, after) := by
    rw [build_eq, runFrom_bind]
    rcases runFrom (readConfiguration roles table) journal with
      ⟨_ | read, after⟩ <;> rfl
  have reported {cause : Misconfiguration} (failed :
      (runFrom (PermissionTree.build roles table) journal).1 = .error cause) :
      FirstViolation roles table cause.violation :=
    firstViolation_of_error failed
  rw [runFrom_compile]
  generalize runFrom (readConfiguration roles table) journal = ended
    at scanned built
  rw [built] at reported ⊢
  cases scanned with
  | @passed read isRead sound =>
      obtain ⟨names, read⟩ := read
      obtain ⟨declares, entries, isMapping, related⟩ := isRead
      have sameLength : entries.length = read.length := related.length_eq
      dsimp only at declares sameLength
      dsimp only [Except.mapError]
      rw [declares.1] at sound
      rw [← sameLength]
      exact .accepted declares isMapping sound (nodes_ofEntries related)
  | stopped isSteps sound unsound reports =>
      exact .rejected isSteps sound unsound reports (reported rfl)

end RoleGuard
