import RoleGuard.Proofs.Writing

/-!
# What writing leaves alone

Writing under a key, and forgetting the memo, alter what a context has under
this key and nothing else.  `Alters` lists how a context may have been altered
under a key, and `AgreesBeside` says what it still gives: every entry and every
attribute under any other key.
-/

namespace RoleGuard

namespace Value

theorem find?_insert_other {key other : Value} (itself : key.same key = true)
    (apart : key.Apart other) (entries : List (Value × Value)) (v : Value) :
    find? (insert entries key v) other = find? entries other := by
  rw [insert_eq_stored]
  unfold find?
  rw [find?_stored_other]
  case spares => exact fun entry isKey => ⟨apart.2 _ isKey, apart.2 _ isKey⟩
  case isOther => exact apart.2 _ itself

theorem find?_erase_other {key other : Value} (apart : key.Apart other)
    (entries : List (Value × Value)) :
    find? (erase entries key) other = find? entries other := by
  unfold find? erase
  rw [List.find?_filter]
  congr 2
  funext entry
  cases isKey : entry.1.same key with
  | true => simp [apart.2 _ isKey]
  | false => simp

theorem findAttribute?_insertAttribute_other {name other : String}
    (different : other ≠ name) (attributes : List (String × Value))
    (v : Value) :
    findAttribute? (insertAttribute attributes name v) other =
      findAttribute? attributes other := by
  rw [insertAttribute_eq_stored]
  unfold findAttribute?
  rw [find?_stored_other]
  case spares =>
    intro entry isName
    rw [beq_iff_eq] at isName
    subst isName
    simpa using different.symm
  case isOther => simpa using different.symm

theorem findAttribute?_eraseAttribute_other {name other : String}
    (different : other ≠ name) (attributes : List (String × Value)) :
    findAttribute? (eraseAttribute attributes name) other =
      findAttribute? attributes other := by
  unfold findAttribute? eraseAttribute
  rw [List.find?_filter]
  congr 2
  funext entry
  by_cases isOther : entry.1 = other
  · simp [isOther, different]
  · simp [isOther]

/-- An object has no attributes but those in its slots. -/
def FitsSlots : Value → Prop
  | .slotted slots attributes => ∀ entry ∈ attributes, entry.1 ∈ slots
  | _ => True

theorem findAttribute?_storeSlot_other {slots : List String}
    {name other : String} (different : other ≠ name)
    {attributes : List (String × Value)}
    (fits : ∀ entry ∈ attributes, entry.1 ∈ slots) (v : Value) :
    findAttribute? (storeSlot slots attributes name v) other =
      findAttribute? attributes other := by
  rw [findAttribute?_storeSlot, if_neg different]
  split
  · rfl
  · rename_i absent
    have none : attributes.find? (fun entry => entry.1 == other) = none := by
      rw [List.find?_eq_none]
      intro entry member isOther
      rw [← beq_iff_eq.mp isOther] at absent
      exact absent (fits entry member)
    rw [findAttribute?, none]
    rfl

/-- How a value may have been altered under a key. -/
inductive Alters (key : Value) : Value → Value → Prop where
  | unaltered (v : Value) : Alters key v v
  | map {old new : List (Value × Value)} :
      (∀ other, key.Apart other → find? new other = find? old other) →
      Alters key (.map old) (.map new)
  | record {old new : List (String × Value)} :
      (∀ name, key.Apart (.text name) →
        findAttribute? new name = findAttribute? old name) →
      Alters key (.record old) (.record new)
  | annotatedMap (entries : List (Value × Value))
      {old new : List (String × Value)} :
      (∀ name, key.Apart (.text name) →
        findAttribute? new name = findAttribute? old name) →
      Alters key (.annotatedMap entries old) (.annotatedMap entries new)
  | slotted (slots : List String) {old new : List (String × Value)} :
      (∀ name, key.Apart (.text name) →
        findAttribute? new name = findAttribute? old name) →
      Alters key (.slotted slots old) (.slotted slots new)
  | locked (refusal : Refusal) {old new : List (String × Value)} :
      (∀ name, key.Apart (.text name) →
        findAttribute? new name = findAttribute? old name) →
      Alters key (.locked refusal old) (.locked refusal new)
  | classed (inherited : List (String × Value))
      {old new : List (String × Value)} :
      (∀ name, key.Apart (.text name) →
        findAttribute? new name = findAttribute? old name) →
      Alters key (.classed inherited old) (.classed inherited new)
  | failing (failures : List FailingAttribute)
      {old new : List (String × Value)} :
      (∀ name, key.Apart (.text name) →
        findAttribute? new name = findAttribute? old name) →
      Alters key (.failing failures old) (.failing failures new)
  | extended (base : Value) {old new : List (String × Value)} :
      (∀ name, key.Apart (.text name) →
        findAttribute? new name = findAttribute? old name) →
      Alters key (.extended base old) (.extended base new)
  | bare {v : Value} {new : List (String × Value)} : v.isExtensible = true →
      (∀ name, key.Apart (.text name) → findAttribute? new name = none) →
      Alters key v (.extended v new)
  | part {name : String} {v given written : Value} :
      key = .text name → writeRulePart v name given = some written →
      Alters key v written

/-- Writing under a key alters a value under this key. -/
theorem alters_of_write {key v given written : Value}
    (itself : key.same key = true) (fits : v.FitsSlots)
    (writes : v.write key given = .ok written) : Alters key v written := by
  by_cases isMap : ∃ entries, v = .map entries
  · obtain ⟨entries, rfl⟩ := isMap
    obtain ⟨_, rfl⟩ := write_map writes
    exact .map fun other apart => find?_insert_other itself apart entries given
  · have notMap : ∀ entries, v ≠ .map entries := fun entries same =>
      isMap ⟨entries, same⟩
    obtain ⟨name, rfl⟩ := exists_name_of_write notMap writes
    have inserted (attributes : List (String × Value)) (other : String)
        (apart : (Value.text name).Apart (.text other)) :=
      findAttribute?_insertAttribute_other (ne_of_apart_text apart) attributes
        given
    cases writes_of_write writes with
    | map entries => exact absurd rfl (notMap entries)
    | record attributes => exact .record (inserted attributes)
    | annotatedMap entries attributes =>
        exact .annotatedMap entries (inserted attributes)
    | slotted attributes _ =>
        exact .slotted _ fun other apart =>
          findAttribute?_storeSlot_other (ne_of_apart_text apart) fits given
    | classed inherited own => exact .classed inherited (inserted own)
    | failing attributes _ => exact .failing _ (inserted attributes)
    | extended base attributes => exact .extended base (inserted attributes)
    | bare extensible =>
        refine .bare extensible fun other apart => ?_
        simp [findAttribute?, (ne_of_apart_text apart).symm]
    | part isPart => exact .part rfl isPart

/-- What forgetting the memo may do: nothing, erase an entry or delete an
attribute. -/
theorem forgetMemo_cases {v forgotten : Value}
    (forgets : v.forgetMemo = .ok forgotten) :
    forgotten = v ∨
      (∃ entries, v = .map entries ∧
        forgotten = .map (erase entries (.text memoKey))) ∨
      v.deleteAttribute memoKey = .ok forgotten := by
  unfold forgetMemo at forgets
  split at forgets
  · rename_i entries
    cases forgets
    exact .inr (.inl ⟨entries, rfl, rfl⟩)
  · cases forgets
    exact .inl rfl
  · split at forgets
    · split at forgets
      · cases forgets
        exact .inl rfl
      · cases forgets
    · unfold orDefault at forgets
      split at forgets
      · rename_i isDeleted
        cases forgets
        exact .inr (.inr isDeleted)
      · split at forgets
        · cases forgets
          exact .inl rfl
        · cases forgets

/-- Deleting an attribute alters a value under its name. -/
theorem alters_of_deleteAttribute {v deleted : Value} {name : String}
    (deletes : v.deleteAttribute name = .ok deleted) :
    Alters (.text name) v deleted := by
  have erased (attributes : List (String × Value)) (other : String)
      (apart : (Value.text name).Apart (.text other)) :=
    findAttribute?_eraseAttribute_other (ne_of_apart_text apart) attributes
  cases v with
  | record attributes =>
      cases deletes
      exact .record (erased attributes)
  | annotatedMap entries attributes =>
      cases deletes
      exact .annotatedMap entries (erased attributes)
  | slotted slots attributes =>
      cases deletes
      exact .slotted slots (erased attributes)
  | locked refusal attributes =>
      cases deletes
      exact .locked refusal (erased attributes)
  | classed inherited own =>
      unfold deleteAttribute at deletes
      simp only at deletes
      split at deletes
      · cases deletes
        exact .classed inherited (erased own)
      · cases deletes
  | failing failures attributes =>
      rw [deleteAttribute] at deletes
      split at deletes
      · cases deletes
      · cases deletes
        exact .failing failures (erased attributes)
  | extended base attributes =>
      cases deletes
      exact .extended base (erased attributes)
  | _ => cases deletes

/-- Forgetting the memo alters a value under the key of the memo. -/
theorem alters_of_forgetMemo {v forgotten : Value}
    (forgets : v.forgetMemo = .ok forgotten) :
    Alters (.text memoKey) v forgotten := by
  rcases forgetMemo_cases forgets with rfl | ⟨entries, rfl, rfl⟩ | deletes
  · exact .unaltered _
  · exact .map fun other apart => find?_erase_other apart entries
  · exact alters_of_deleteAttribute deletes

/-- The name of the attribute that stands for all attributes that an object
stores. -/
def allName : String := "__dict__"

/-- Whether a value gives the attributes that it stores as a whole. -/
def givesAll (v : Value) : Bool := (storedMap? v).isSome

/-- A view of values that does not tell what belongs to one object from what
belongs to another. -/
structure Unbound (view : Value → κ) (holder other : Value) : Prop where
  method : ∀ name, view (.method holder name) = view (.method other name)
  bound : ∀ function,
    view (.bound holder function) = view (.bound other function)

section

variable {κ : Type} {view : Value → κ} {holder other : Value}

theorem map_inherentAttribute? (unbound : Unbound view holder other)
    {v w : Value} {name : String}
    (parts : part? w name = part? v name)
    (typed : typeValue w = typeValue v)
    (mapped : name = allName →
      (storedMap? w).map view = (storedMap? v).map view)
    (operations : hasOperation w name = hasOperation v name) :
    (inherentAttribute? other w name).map view =
      (inherentAttribute? holder v name).map view := by
  unfold inherentAttribute?
  rw [parts, typed, operations]
  split
  · rfl
  · split
    · rfl
    · split
      · rename_i isAll
        exact mapped isAll
      · split
        · exact congrArg some (unbound.method name).symm
        · rfl

theorem map_inheritedAttribute? (unbound : Unbound view holder other)
    (v : Value) (name : String) :
    (inheritedAttribute? other v name).map view =
      (inheritedAttribute? holder v name).map view := by
  cases v with
  | classed inherited own =>
      cases held : findAttribute? inherited name with
      | none => simp [inheritedAttribute?, held]
      | some found =>
          by_cases isFunction : found.isFunction = true
          · simpa [inheritedAttribute?, held, isFunction] using
              (unbound.bound found).symm
          · simp [inheritedAttribute?, held, isFunction]
  | _ => rfl

/-- Objects of one type that store and inherit the same under a name give the
same. -/
theorem map_heldAttribute {v w : Value} {name : String}
    (stored : findAttribute? w.storedAttributes name =
      findAttribute? v.storedAttributes name)
    (inherited : (inheritedAttribute? other w name).map view =
      (inheritedAttribute? holder v name).map view)
    (inherent : (inherentAttribute? other w name).map view =
      (inherentAttribute? holder v name).map view)
    (typed : w.fullTypeName = v.fullTypeName) :
    (heldAttribute other w name).map view =
      (heldAttribute holder v name).map view := by
  unfold heldAttribute
  rw [stored, typed]
  cases findAttribute? v.storedAttributes name with
  | some found => rfl
  | none =>
      cases first : inheritedAttribute? other w name <;>
        cases second : inheritedAttribute? holder v name <;>
        cases third : inherentAttribute? other w name <;>
        cases fourth : inherentAttribute? holder v name <;>
        simp_all [Except.map]

/-- What an object gives does not depend on the handle that it is read from. -/
theorem map_attributeOf (unbound : Unbound view holder other) (v : Value)
    (name : String) :
    (attributeOf other v name).map view =
      (attributeOf holder v name).map view := by
  have held (v : Value) : (heldAttribute other v name).map view =
      (heldAttribute holder v name).map view :=
    map_heldAttribute rfl (map_inheritedAttribute? unbound v name)
      (map_inherentAttribute? unbound rfl rfl (fun _ => rfl) rfl) rfl
  induction v using fixedMemos.induct with
  | case5 _ v ih => exact ih
  | case6 v attributes ih =>
      rw [attributeOf, attributeOf]
      split
      · rfl
      · exact ih
  | case7 receiver v ih =>
      rw [attributeOf, attributeOf]
      split
      · exact held _
      · exact ih
  | case1 | case2 | case3 | case4 => exact held _
  | case8 v =>
      cases v with
      | failing failures attributes =>
          rw [attributeOf, attributeOf]
          split
          · rfl
          · exact held _
      | object _ v => simp_all
      | extended _ _ => simp_all
      | bound _ _ => simp_all
      | _ => exact held _

variable {key v w : Value} {name : String}

/-- A rule of which a part is replaced has the same other parts. -/
theorem map_attributeOf_part (unbound : Unbound view holder other)
    {given : Value} {part : String} (different : name ≠ part)
    (isPart : writeRulePart v part given = some w) :
    (attributeOf other w name).map view =
      (attributeOf holder v name).map view := by
  unfold writeRulePart at isPart
  split at isPart
  case h_5 => cases isPart
  all_goals
    cases isPart
    refine map_heldAttribute rfl rfl ?_ rfl
    apply map_inherentAttribute? unbound
    case parts => simp [part?, rulePart?, numberPart?, rangePart?, pathPart?,
      queuePart?, different]
    case mapped => exact fun _ => rfl
    all_goals rfl

/-- Under another key a value gives the attribute that it gave before it was
altered, unless that stands for all its attributes. -/
theorem Alters.map_attributeOf (alters : Alters key v w)
    (unbound : Unbound view holder other) (apart : key.Apart (.text name))
    (sees : name = allName → v.givesAll = true → ∀ entries others,
      view (.map entries) = view (.map others)) :
    (attributeOf other w name).map view =
      (attributeOf holder v name).map view := by
  cases alters with
  | unaltered => exact Value.map_attributeOf unbound v name
  | map same =>
      refine map_heldAttribute rfl rfl ?_ rfl
      exact map_inherentAttribute? unbound rfl rfl (fun _ => rfl) rfl
  | record same =>
      refine map_heldAttribute (same name apart) rfl ?_ rfl
      apply map_inherentAttribute? unbound
      case mapped => exact fun isAll => congrArg some (sees isAll rfl _ _)
      all_goals rfl
  | annotatedMap entries same =>
      refine map_heldAttribute (same name apart) rfl ?_ rfl
      exact map_inherentAttribute? unbound rfl rfl (fun _ => rfl) rfl
  | slotted slots same =>
      refine map_heldAttribute (same name apart) rfl ?_ rfl
      exact map_inherentAttribute? unbound rfl rfl (fun _ => rfl) rfl
  | locked refusal same =>
      refine map_heldAttribute (same name apart) rfl ?_ rfl
      apply map_inherentAttribute? unbound
      case mapped => exact fun isAll => congrArg some (sees isAll rfl _ _)
      all_goals rfl
  | @classed inherited old new same =>
      refine map_heldAttribute (same name apart)
        (map_inheritedAttribute? unbound (.classed inherited old) name) ?_ rfl
      apply map_inherentAttribute? unbound
      case mapped => exact fun isAll => congrArg some (sees isAll rfl _ _)
      all_goals rfl
  | failing failures same =>
      rw [attributeOf, attributeOf]
      split
      · rfl
      · refine map_heldAttribute (same name apart) rfl ?_ rfl
        apply map_inherentAttribute? unbound
        case mapped => exact fun isAll => congrArg some (sees isAll rfl _ _)
        all_goals rfl
  | extended base same =>
      rw [attributeOf, attributeOf, same name apart]
      split
      · rfl
      · exact Value.map_attributeOf unbound _ _
  | bare _ none =>
      rw [attributeOf, none name apart]
      exact Value.map_attributeOf unbound _ _
  | part isKey isPart =>
      subst isKey
      exact map_attributeOf_part unbound (ne_of_apart_text apart) isPart

theorem Alters.givesAll_eq (alters : Alters key v w) :
    w.givesAll = v.givesAll := by
  cases alters with
  | bare extensible _ =>
      cases v with
      | record | locked | classed | failing | identity => cases extensible
      | _ => rfl
  | part _ isPart =>
      unfold writeRulePart at isPart
      split at isPart <;> cases isPart <;> rfl
  | _ => rfl

theorem Alters.isMapping_eq (alters : Alters key v w) :
    w.isMapping = v.isMapping := by
  cases alters with
  | part _ isPart =>
      unfold writeRulePart at isPart
      split at isPart <;> cases isPart <;> rfl
  | _ => rfl

/-- Under another key a value gives the entry that it gave before it was
altered. -/
theorem Alters.get_eq (alters : Alters key v w) {asked : Value}
    (apart : key.Apart asked) (default : Value) :
    w.get asked default = v.get asked default := by
  cases alters with
  | @map old new same =>
      change (do
          let found ← lookUp new asked
          return found.getD default) = (do
          let found ← lookUp old asked
          return found.getD default : Except Fault Value)
      unfold lookUp
      rw [same asked apart]
  | part _ isPart =>
      unfold writeRulePart at isPart
      split at isPart <;> cases isPart <;> rfl
  | _ => rfl

/-- What is read as an attribute with a default is seen the same if the
attribute is. -/
theorem map_readAttributeOr {v w : Value} {name : String}
    (same : (w.readAttribute name).map view = (v.readAttribute name).map view)
    (default : Value) :
    (w.readAttributeOr name default).map view =
      (v.readAttributeOr name default).map view := by
  unfold readAttributeOr orDefault
  cases first : w.readAttribute name <;>
    cases second : v.readAttribute name <;>
    simp_all [Except.map]

/-- Under another key an object gives what it gave before it was altered. -/
theorem Alters.map_read {number : Nat} (alters : Alters key v w)
    (unbound : Unbound view (.object number v) (.object number w))
    {asked : Value} (apart : key.Apart asked)
    (sees : asked = .text allName → ∀ entries others,
      view (.map entries) = view (.map others)) (default : Value) :
    ((Value.object number w).read asked default).map view =
      ((Value.object number v).read asked default).map view := by
  have sameKind : (Value.object number w).isMapping =
      (Value.object number v).isMapping := alters.isMapping_eq
  unfold read
  rw [sameKind]
  split
  · exact congrArg _ (alters.get_eq apart default)
  · split
    · rename_i name
      apply map_readAttributeOr
      exact alters.map_attributeOf unbound apart fun isAll _ =>
        sees (congrArg Value.text isAll)
    · rfl

/-- Read for the same holder, the attribute is the same. -/
theorem Alters.attributeOf_eq (alters : Alters key v w) (holder : Value)
    (apart : key.Apart (.text name))
    (notAll : name = allName → v.givesAll = false) :
    attributeOf holder w name = attributeOf holder v name := by
  have itself : Unbound (id : Value → Value) holder holder :=
    ⟨fun _ => rfl, fun _ => rfl⟩
  have same := alters.map_attributeOf itself apart fun isAll gives =>
    absurd gives (by simp [notAll isAll])
  simpa using same

/-- A value without what a method of an object carries of the object. -/
def detached : Value → Value
  | .method (.object number _) name => .method (.object number .null) name
  | .bound (.object number _) function => .bound (.object number .null) function
  | v => v

theorem unbound_detached (number : Nat) (v w : Value) :
    Unbound detached (.object number v) (.object number w) where
  method _ := rfl
  bound _ := rfl

/-- Beside some keys one value gives the same entries as another and, to the
same holder, the same attributes, except for the one that stands for all of
them. -/
structure AgreesBeside (keys : List Value) (before after : Value) : Prop where
  kind : after.isMapping = before.isMapping
  whole : after.givesAll = before.givesAll
  entries : ∀ key default, (∀ k ∈ keys, k.Apart key) →
    after.get key default = before.get key default
  attributes : ∀ holder name, (name = allName → before.givesAll = false) →
    (∀ k ∈ keys, k.Apart (.text name)) →
    attributeOf holder after name = attributeOf holder before name

namespace AgreesBeside

variable {keys more : List Value} {before between after : Value}

theorem refl (keys : List Value) (v : Value) : AgreesBeside keys v v where
  kind := rfl
  whole := rfl
  entries _ _ _ := rfl
  attributes _ _ _ _ := rfl

theorem trans (first : AgreesBeside keys before between)
    (second : AgreesBeside keys between after) :
    AgreesBeside keys before after where
  kind := second.kind.trans first.kind
  whole := second.whole.trans first.whole
  entries key default apart :=
    (second.entries key default apart).trans (first.entries key default apart)
  attributes holder name notAll apart :=
    (second.attributes holder name (first.whole.trans ∘ notAll) apart).trans
      (first.attributes holder name notAll apart)

theorem mono (agrees : AgreesBeside keys before after) (within : keys ⊆ more) :
    AgreesBeside more before after where
  kind := agrees.kind
  whole := agrees.whole
  entries key default apart :=
    agrees.entries key default fun k member => apart k (within member)
  attributes holder name notAll apart :=
    agrees.attributes holder name notAll fun k member => apart k (within member)

/-- Objects whose contents agree beside some keys read the same under any other
key. -/
theorem map_read (agrees : AgreesBeside keys before after) {key : Value}
    (apart : ∀ k ∈ keys, k.Apart key)
    (notAll : key = .text allName → before.givesAll = false) (number : Nat)
    (default : Value) :
    ((Value.object number after).read key default).map detached =
      ((Value.object number before).read key default).map detached := by
  have sameKind : (Value.object number after).isMapping =
      (Value.object number before).isMapping := agrees.kind
  unfold Value.read
  rw [sameKind]
  split
  · exact congrArg _ (agrees.entries key default apart)
  · split
    · rename_i name
      have named : name = allName → before.givesAll = false := fun isAll =>
        notAll (congrArg Value.text isAll)
      apply map_readAttributeOr
      calc
        _ = (attributeOf (.object number after) before name).map detached :=
          congrArg _ (agrees.attributes _ name named apart)
        _ = _ := Value.map_attributeOf (unbound_detached number before after)
          before name
    · rfl

end AgreesBeside

/-- A value that is altered under a key agrees with itself beside it. -/
theorem Alters.agreesBeside (alters : Alters key v w) :
    AgreesBeside [key] v w where
  kind := alters.isMapping_eq
  whole := alters.givesAll_eq
  entries _ default apart :=
    alters.get_eq (apart key List.mem_cons_self) default
  attributes holder _ notAll apart :=
    alters.attributeOf_eq holder (apart key List.mem_cons_self) notAll

end

end Value

end RoleGuard
