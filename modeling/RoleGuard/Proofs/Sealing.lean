import RoleGuard.Proofs.Enforcement

/-!
# Trees that cannot be written to

A compiled tree has rules and read-only mappings for nodes, and nothing in it
refers to an object.  Such a tree refuses every attempt to change it, is always
up to date, and has rules of which each sees the role of an identity only.
-/

namespace RoleGuard

/-- A value that refers to no object. -/
def Value.Detached (v : Value) : Prop :=
  ∀ object, v.replaceObjects object = v

namespace Value

/-- Such a value is always up to date. -/
theorem Detached.refresh_eq {v : Value} (detached : v.Detached)
    (world : World) : world.refresh v = v :=
  detached _

theorem detached_rule {r : Rule} (closed : r.Closed) :
    (Value.rule r).Detached := by
  intro object
  exact congrArg Value.rule (closed object)

theorem detached_proxy {entries : List (Value × Value)}
    (detached : ∀ entry ∈ entries, entry.1.Detached ∧ entry.2.Detached) :
    (Value.proxy entries).Detached := by
  intro object
  apply congrArg Value.proxy
  induction entries with
  | nil => rfl
  | cons entry entries ih =>
      obtain ⟨head, rest⟩ := List.forall_mem_cons.mp detached
      rw [replaceEntries, head.1 object, head.2 object, ih rest]

theorem detached_texts (kind : SequenceKind) (names : List String) :
    (Value.sequence kind (names.map .text)).Detached := by
  intro object
  apply congrArg (Value.sequence kind)
  induction names with
  | nil => rfl
  | cons name names ih =>
      rw [List.map_cons, replaceItems, ih]
      rfl

end Value

namespace PermissionTree

/-- An attempt to change a tree. -/
inductive Attempt where
  | setNode (type : Value)
  | setField (type field : Value) (rule : Rule)
  | eraseNode (type : Value)
  | eraseField (type field : Value)

namespace Attempt

/-- What becomes of a tree that somebody attempts to change. -/
def on (tree : PermissionTree) : Attempt → Except Fault PermissionTree
  | .setNode type => tree.setNode type
  | .setField type field rule => tree.setField type field rule
  | .eraseNode type => tree.eraseNode type
  | .eraseField type field => tree.eraseField type field

/-- The kind of fault that a key meets where nothing can be written: a number
is refused as such if no position can be as large. -/
def keyRefusal (key : Value) : FaultKind :=
  match key.position? with
  | some position =>
      if position < -(Int.pow 2 63) ∨ Int.pow 2 63 ≤ position then .outOfRange
      else .wrongType
  | none => .wrongType

/-- The kind of fault that an attempt meets where nothing can be written.  The
node of a type is looked up before its field. -/
def refusal (tree : PermissionTree) : Attempt → FaultKind
  | .setNode type | .eraseNode type => keyRefusal type
  | .setField type field _ | .eraseField type field =>
      match tree.get? type with
      | .error _ => .wrongType
      | .ok none => .absentKey
      | .ok (some _) => keyRefusal field

end Attempt

theorem kind_itemRefusal (byKey byPosition : Capability) (typeName : String)
    (key : Value) :
    (itemRefusal byKey byPosition typeName key).kind =
      Attempt.keyRefusal key := by
  unfold itemRefusal Attempt.keyRefusal
  cases key.position? with
  | none => rfl
  | some position =>
      dsimp only
      by_cases beyond :
        position < -(Int.pow 2 63) ∨ Int.pow 2 63 ≤ position
      · rw [fitPosition, if_pos beyond, if_pos beyond]
        rfl
      · rw [fitPosition, if_neg beyond, if_neg beyond]
        rfl

/-- A node that cannot be written to: a rule, or a read-only mapping to
rules. -/
inductive SealedNode : Value → Prop where
  | rule {r : Rule} : r.Closed → SealedNode (.rule r)
  | fields {fields : List (Value × Value)} :
      (∀ field ∈ fields, field.1.Detached ∧
        ∃ r : Rule, r.Closed ∧ field.2 = .rule r) →
      SealedNode (.proxy fields)

/-- A tree that cannot be written to and in which nothing refers to an
object. -/
structure Sealed (tree : PermissionTree) : Prop where
  types : ∀ node ∈ tree.nodes, node.1.Detached
  nodes : ∀ node ∈ tree.nodes, SealedNode node.2

/-- A tree with what every object in it holds now. -/
def asOf (tree : PermissionTree) (world : World) : PermissionTree :=
  ⟨tree.nodes.map fun node => (world.refresh node.1, world.refresh node.2)⟩

/-- A tree has no rule for a field. -/
def Unruled (tree : PermissionTree) (type field : Value) : Prop :=
  ∀ journal, runFrom (tree.ruleFor type field) journal = (.ok .null, journal)

/-- Where a tree has no rule, it lets everyone pass. -/
theorem Unruled.runFrom_check {tree : PermissionTree} {type field : Value}
    (unruled : tree.Unruled type field) (identity : Value)
    (journal : Journal) :
    runFrom (tree.check type field identity) journal =
      (.ok (.bool true), journal) :=
  runFrom_bind_ok (unruled journal)

theorem sealedNode_node (entry : Entry) : SealedNode entry.node := by
  cases entry with
  | wholeType roles => exact .rule (Policy.closed_rolesRule roles)
  | fields listed =>
      apply SealedNode.fields
      intro field member
      obtain ⟨⟨name, roles⟩, _, rfl⟩ := List.mem_map.mp member
      exact ⟨fun _ => rfl, rolesRule roles, Policy.closed_rolesRule roles, rfl⟩

theorem sealed_ofEntries (entries : List (String × Entry)) :
    (ofEntries entries).Sealed := by
  constructor
  · intro node member
    obtain ⟨_, _, rfl⟩ := List.mem_map.mp member
    exact fun _ => rfl
  · intro node member
    obtain ⟨⟨_, entry⟩, _, rfl⟩ := List.mem_map.mp member
    exact sealedNode_node entry

theorem nodeAnswer_fields (fields : List (Value × Value)) (field : Value) :
    nodeAnswer (.proxy fields) field = .rule <$> (do
      Value.checkHashable field
      return (Value.find? fields field).getD .null) := by
  simp only [nodeAnswer, Value.content, Value.isRule, Value.isMapping,
    Value.entries?, Value.get, Value.lookUp, Option.getD_some, bind_assoc,
    pure_bind]
  rfl

namespace SealedNode

variable {node : Value}

theorem detached (sealed : SealedNode node) : node.Detached := by
  cases sealed with
  | rule closed => exact Value.detached_rule closed
  | fields rules =>
      apply Value.detached_proxy
      intro field member
      obtain ⟨key, r, closed, isRule⟩ := rules field member
      rw [isRule]
      exact ⟨key, Value.detached_rule closed⟩

theorem replaceField_eq (sealed : SealedNode node) (field : Value)
    (rule : Rule) :
    replaceField node field rule =
      .error (itemRefusal .itemAssignment .itemAssignment node.fullTypeName
        field) := by
  cases sealed <;> rfl

theorem removeField_eq (sealed : SealedNode node) (field : Value) :
    removeField node field =
      .error (itemRefusal .itemDeletion .placeDeletion node.fullTypeName
        field) := by
  cases sealed <;> rfl

/-- What a node that cannot be written to says about a field. -/
theorem nodeAnswer_cases (sealed : SealedNode node) (field : Value) :
    (∃ fault, nodeAnswer node field = .error fault) ∨
      nodeAnswer node field = .ok (.rule .null) ∨
      ∃ r : Rule, r.Closed ∧ nodeAnswer node field = .ok (.rule (.rule r)) := by
  cases sealed with
  | @rule r closed => exact .inr (.inr ⟨r, closed, rfl⟩)
  | @fields fields rules =>
      rw [nodeAnswer_fields]
      cases Value.checkHashable field with
      | error fault => exact .inl ⟨fault, rfl⟩
      | ok _ =>
          cases found : Value.find? fields field with
          | none => exact .inr (.inl rfl)
          | some given =>
              obtain ⟨key, member⟩ := Value.mem_of_find? found
              obtain ⟨_, r, closed, rfl⟩ := rules _ member
              exact .inr (.inr ⟨r, closed, rfl⟩)

end SealedNode

theorem get?_cases (tree : PermissionTree) (type : Value) :
    (∃ fault, tree.get? type = .error fault ∧ fault.kind = .wrongType) ∨
      tree.get? type = .ok (Value.find? tree.nodes type) := by
  unfold get? Value.lookUp Value.checkHashable
  cases type.unhashable? with
  | none => exact .inr rfl
  | some part => exact .inl ⟨_, rfl, rfl⟩

namespace Sealed

variable {tree : PermissionTree}

/-- A sealed tree is always up to date. -/
theorem asOf_eq (isSealed : tree.Sealed) (world : World) :
    tree.asOf world = tree := by
  have kept : ∀ node ∈ tree.nodes,
      (world.refresh node.1, world.refresh node.2) = node := by
    intro node member
    rw [(isSealed.types node member).refresh_eq,
      (isSealed.nodes node member).detached.refresh_eq]
  obtain ⟨nodes⟩ := tree
  apply congrArg PermissionTree.mk
  exact (List.map_congr_left kept).trans (List.map_id nodes)

theorem sealedNode (isSealed : tree.Sealed) {type node : Value}
    (found : tree.get? type = .ok (some node)) : SealedNode node := by
  rcases tree.get?_cases type with ⟨_, failed, _⟩ | looked
  · cases found.symm.trans failed
  · obtain ⟨key, member⟩ :=
      Value.mem_of_find? (Except.ok.inj (looked.symm.trans found))
    exact isSealed.nodes _ member

/-- Where every node refuses to be changed, so does the tree. -/
theorem changeNode_refused (isSealed : tree.Sealed) (type field : Value)
    {change : Value → Except Fault Value}
    (refused : ∀ node, SealedNode node → ∃ fault,
      change node = .error fault ∧ fault.kind = Attempt.keyRefusal field) :
    ∃ fault, tree.changeNode type change = .error fault ∧
      fault.kind = match tree.get? type with
        | .error _ => .wrongType
        | .ok none => .absentKey
        | .ok (some _) => Attempt.keyRefusal field := by
  unfold changeNode get
  cases looked : tree.get? type with
  | error fault =>
      refine ⟨fault, rfl, ?_⟩
      rcases tree.get?_cases type with ⟨_, failed, kind⟩ | found
      · cases looked.symm.trans failed
        exact kind
      · cases looked.symm.trans found
  | ok found =>
      cases found with
      | none => exact ⟨_, rfl, rfl⟩
      | some node =>
          obtain ⟨fault, fails, kind⟩ :=
            refused node (isSealed.sealedNode looked)
          refine ⟨fault, ?_, kind⟩
          change (do
            let changed ← change node
            return (⟨Value.insert tree.nodes type changed⟩ :
              PermissionTree)) = _
          rw [fails]
          rfl

/-- Every attempt to change such a tree is refused. -/
theorem refuses (isSealed : tree.Sealed) (attempt : Attempt) :
    ∃ fault, attempt.on tree = .error fault ∧
      fault.kind = attempt.refusal tree := by
  cases attempt with
  | setNode type => exact ⟨_, rfl, kind_itemRefusal _ _ _ type⟩
  | eraseNode type => exact ⟨_, rfl, kind_itemRefusal _ _ _ type⟩
  | setField type field rule =>
      apply isSealed.changeNode_refused type field
      intro node sealedNode
      exact ⟨_, sealedNode.replaceField_eq field rule,
        kind_itemRefusal _ _ _ field⟩
  | eraseField type field =>
      apply isSealed.changeNode_refused type field
      intro node sealedNode
      exact ⟨_, sealedNode.removeField_eq field, kind_itemRefusal _ _ _ field⟩

/-- Looking a rule up in such a tree fails, finds none or finds one that refers
to no object, and notes nothing. -/
theorem ruleFor_cases (isSealed : tree.Sealed) (type field : Value) :
    (∃ fault, ∀ journal,
        runFrom (tree.ruleFor type field) journal = (.error fault, journal)) ∨
      tree.Unruled type field ∨
      ∃ r : Rule, r.Closed ∧ ∀ journal,
        runFrom (tree.ruleFor type field) journal =
          (.ok (.rule r), journal) := by
  unfold Unruled ruleFor
  cases looked : tree.get? type with
  | error fault => exact .inl ⟨fault, fun journal => rfl⟩
  | ok found =>
      cases found with
      | none => exact .inr (.inl fun journal => rfl)
      | some node =>
          -- what is left is to ask the node, which knows all its answers
          simp only [runFrom_bind_ok (runFrom_lift (.ok (some node)) _)]
          rcases (isSealed.sealedNode looked).nodeAnswer_cases field with
            ⟨fault, fails⟩ | finds | ⟨r, closed, finds⟩
          · simp only [fails]
            exact .inl ⟨fault, fun journal => rfl⟩
          · simp only [finds]
            exact .inr (.inl fun journal => rfl)
          · simp only [finds]
            exact .inr (.inr ⟨r, closed, fun journal => rfl⟩)

/-- Of an identity such a tree sees the role only. -/
theorem agree_check (isSealed : tree.Sealed) {identity other : Value}
    (same : identity.SameRole other) (type field : Value) :
    Logged.Agree (tree.check type field identity)
      (tree.check type field other) := by
  rcases isSealed.ruleFor_cases type field with
    ⟨fault, fails⟩ | unruled | ⟨r, _, ruled⟩
  · refine ⟨.error fault, [], fun journal => ?_⟩
    rw [List.append_nil]
    exact ⟨runFrom_bind_error (fails journal),
      runFrom_bind_error (fails journal)⟩
  · refine ⟨.ok (.bool true), [], fun journal => ?_⟩
    rw [List.append_nil]
    exact ⟨unruled.runFrom_check identity journal,
      unruled.runFrom_check other journal⟩
  · have asks (who : Value) (journal : Journal) :
        runFrom (tree.check type field who) journal =
          runFrom (r.evaluate who) journal := by
      rw [check, runFrom_bind_ok (ruled journal)]
      simp only [Value.ask, Value.callBy, Logged.caller]
    obtain ⟨ending, events, agree⟩ := r.agree_evaluate same
    refine ⟨ending, events, fun journal => ?_⟩
    rw [asks, asks]
    exact agree journal

end Sealed

end PermissionTree

end RoleGuard
