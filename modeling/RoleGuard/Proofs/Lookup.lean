import RoleGuard.Proofs.Running
import RoleGuard.Tree

/-!
# Looking rules up

Keys of tables and trees are texts, so a look-up by name never fails.  A node
that is a rule guards every field, and a mapping those that it names.
-/

namespace RoleGuard

namespace Value

theorem same_text (name other : String) :
    (Value.text name).same (.text other) = (name == other) :=
  rfl

theorem find?_cons_text (key : String) (v : Value)
    (entries : List (Value × Value)) (name : String) :
    find? ((.text key, v) :: entries) (.text name) =
      if key = name then some v else find? entries (.text name) := by
  unfold find?
  rw [List.find?_cons, same_text]
  by_cases found : key = name
  · rw [beq_iff_eq.mpr found, if_pos found]
    rfl
  · rw [beq_eq_false_iff_ne.mpr found, if_neg found]

theorem mem_of_find? {entries : List (Value × Value)} {key v : Value}
    (found : find? entries key = some v) : ∃ k, (k, v) ∈ entries := by
  obtain ⟨⟨k, held⟩, foundEntry, rfl⟩ := Option.map_eq_some_iff.mp found
  exact ⟨k, List.mem_of_find?_eq_some foundEntry⟩

theorem lookUp_text (entries : List (Value × Value)) (name : String) :
    lookUp entries (.text name) = .ok (find? entries (.text name)) :=
  rfl

end Value

namespace PermissionTree

theorem get?_text (tree : PermissionTree) (type : String) :
    tree.get? (.text type) = .ok (Value.find? tree.nodes (.text type)) :=
  rfl

theorem nodeAnswer_of_isRule {node : Value} (isRule : node.isRule = true)
    (field : Value) : nodeAnswer node field = .ok (.rule node) := by
  unfold nodeAnswer
  split
  · rename_i isNull
    simp [Value.isRule, isNull] at isRule
  · rw [if_pos isRule]

theorem nodeAnswer_proxy (entries : List (Value × Value)) (field : String) :
    nodeAnswer (.proxy entries) (.text field) =
      .ok (.rule ((Value.find? entries (.text field)).getD .null)) :=
  rfl

theorem runFrom_ruleFor_absent {tree : PermissionTree} {type : String}
    (absent : Value.find? tree.nodes (.text type) = none) (field : Value)
    (journal : Journal) :
    runFrom (tree.ruleFor (.text type) field) journal =
      (.ok .null, journal) := by
  rw [ruleFor, get?_text, absent]
  rfl

theorem runFrom_ruleFor_node {tree : PermissionTree} {type : String}
    {node field rule : Value}
    (found : Value.find? tree.nodes (.text type) = some node)
    (answered : nodeAnswer node field = .ok (.rule rule)) (journal : Journal) :
    runFrom (tree.ruleFor (.text type) field) journal = (.ok rule, journal) := by
  rw [ruleFor, get?_text, found, runFrom_bind_ok (runFrom_lift _ journal)]
  simp only [answered]
  rfl

end PermissionTree

end RoleGuard
