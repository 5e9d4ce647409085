import RoleGuard.Proofs.Memo

/-!
# How contexts are written

A context that takes a value under a name has one way to do so, by what it is.
`Writes` lists the ways.  What has been written is stored, and storing it again
changes nothing; yet a mapping that is written by attribute is still read by key
and does not give back what it takes.
-/

namespace RoleGuard

namespace Value

/-- Entries with one stored in the place of those that are found, or else at the
end. -/
def stored {κ : Type} (found : κ × Value → Bool)
    (replace : κ × Value → κ × Value) (new : κ × Value)
    (entries : List (κ × Value)) : List (κ × Value) :=
  if entries.any found then
    entries.map fun entry => if found entry then replace entry else entry
  else entries ++ [new]

section

variable {κ : Type} {found : κ × Value → Bool}
  {replace : κ × Value → κ × Value} {new : κ × Value}

theorem find?_replaced
    (keeps : ∀ entry, found entry = true → found (replace entry) = true)
    (entries : List (κ × Value)) :
    (entries.map fun entry =>
        if found entry then replace entry else entry).find? found =
      (entries.find? found).map replace := by
  induction entries with
  | nil => rfl
  | cons entry entries ih =>
      cases isFound : found entry with
      | true => simp [isFound, keeps entry isFound]
      | false => simp [isFound, ih]

/-- What is stored is found. -/
theorem find?_stored_self {v : Value}
    (keeps : ∀ entry, found entry = true → found (replace entry) = true)
    (holds : ∀ entry, (replace entry).2 = v) (isFound : found new = true)
    (isNew : new.2 = v) (entries : List (κ × Value)) :
    ((stored found replace new entries).find? found).map Prod.snd = some v := by
  unfold stored
  split
  · rename_i present
    obtain ⟨entry, first⟩ := Option.isSome_iff_exists.mp
      (List.find?_isSome.mpr (List.any_eq_true.mp present))
    rw [find?_replaced keeps, first]
    exact congrArg some (holds entry)
  · rename_i absent
    have none : entries.find? found = none := by
      rw [List.find?_eq_none]
      intro entry member isFound'
      exact absent (List.any_eq_true.mpr ⟨entry, member, isFound'⟩)
    rw [List.find?_append, none, List.find?_cons_of_pos isFound]
    exact congrArg some isNew

theorem find?_replaced_other {other : κ × Value → Bool}
    (spares : ∀ entry, found entry = true →
      other entry = false ∧ other (replace entry) = false)
    (entries : List (κ × Value)) :
    (entries.map fun entry =>
        if found entry then replace entry else entry).find? other =
      entries.find? other := by
  induction entries with
  | nil => rfl
  | cons entry entries ih =>
      rw [List.map_cons, List.find?_cons, List.find?_cons, ih]
      cases isFound : found entry with
      | true =>
          obtain ⟨before, after⟩ := spares entry isFound
          simp [before, after]
      | false => simp

/-- What is stored elsewhere does not change what is found. -/
theorem find?_stored_other {other : κ × Value → Bool}
    (spares : ∀ entry, found entry = true →
      other entry = false ∧ other (replace entry) = false)
    (isOther : other new = false) (entries : List (κ × Value)) :
    (stored found replace new entries).find? other = entries.find? other := by
  unfold stored
  split
  · exact find?_replaced_other spares entries
  · rw [List.find?_append, List.find?_cons_of_neg (by simp [isOther])]
    simp

/-- Storing again what is stored changes nothing. -/
theorem stored_stored (isFound : found new = true) (isNew : replace new = new)
    (keeps : ∀ entry, found entry = true → found (replace entry) = true)
    (again : ∀ entry, replace (replace entry) = replace entry)
    (entries : List (κ × Value)) :
    stored found replace new (stored found replace new entries) =
      stored found replace new entries := by
  have replaced (entry : κ × Value) :
      (if found (if found entry then replace entry else entry) then
          replace (if found entry then replace entry else entry)
        else if found entry then replace entry else entry) =
        if found entry then replace entry else entry := by
    cases isFound : found entry with
    | true => simp [keeps entry isFound, again]
    | false => simp [isFound]
  unfold stored
  by_cases present : entries.any found = true
  · have still : (entries.map fun entry =>
        if found entry then replace entry else entry).any found = true := by
      obtain ⟨entry, member, isFound⟩ := List.any_eq_true.mp present
      refine List.any_eq_true.mpr ⟨replace entry, ?_, ?_⟩
      · exact List.mem_map.mpr ⟨entry, member, if_pos isFound⟩
      · exact keeps entry isFound
    rw [if_pos present, if_pos still, List.map_map]
    exact List.map_congr_left fun entry _ => replaced entry
  · have absent : ∀ entry ∈ entries, found entry = false := by
      simpa using present
    have isLast : (entries ++ [new]).any found = true := by
      simp [isFound]
    rw [if_neg present, if_pos isLast, List.map_append, List.map_singleton,
      if_pos isFound, isNew]
    congr 1
    rw [List.map_congr_left (g := id), List.map_id]
    intro entry member
    simp [absent entry member]

end

theorem insert_eq_stored (entries : List (Value × Value)) (key v : Value) :
    insert entries key v =
      stored (fun entry => entry.1.same key) (fun entry => (entry.1, v))
        (key, v) entries :=
  rfl

theorem insertAttribute_eq_stored (attributes : List (String × Value))
    (name : String) (v : Value) :
    insertAttribute attributes name v =
      stored (fun entry => entry.1 == name) (fun _ => (name, v)) (name, v)
        attributes :=
  rfl

theorem find?_insert {key : Value} (itself : key.same key = true)
    (entries : List (Value × Value)) (v : Value) :
    find? (insert entries key v) key = some v := by
  rw [insert_eq_stored]
  apply find?_stored_self
  case keeps => exact fun _ isKey => isKey
  case holds => exact fun _ => rfl
  case isFound => exact itself
  case isNew => rfl

theorem insert_insert {key : Value} (itself : key.same key = true)
    (entries : List (Value × Value)) (v : Value) :
    insert (insert entries key v) key v = insert entries key v := by
  simp only [insert_eq_stored]
  apply stored_stored
  case isFound => exact itself
  case isNew => rfl
  case keeps => exact fun _ isKey => isKey
  case again => exact fun _ => rfl

theorem findAttribute?_insertAttribute (attributes : List (String × Value))
    (name : String) (v : Value) :
    findAttribute? (insertAttribute attributes name v) name = some v := by
  have itself : (name == name) = true := beq_self_eq_true name
  rw [insertAttribute_eq_stored]
  apply find?_stored_self
  case keeps => exact fun _ _ => itself
  case holds => exact fun _ => rfl
  case isFound => exact itself
  case isNew => rfl

theorem insertAttribute_insertAttribute (attributes : List (String × Value))
    (name : String) (v : Value) :
    insertAttribute (insertAttribute attributes name v) name v =
      insertAttribute attributes name v := by
  have itself : (name == name) = true := beq_self_eq_true name
  simp only [insertAttribute_eq_stored]
  apply stored_stored
  case isFound => exact itself
  case isNew => rfl
  case keeps => exact fun _ _ => itself
  case again => exact fun _ => rfl

theorem findAttribute?_cons (entry : String × Value)
    (attributes : List (String × Value)) (name : String) :
    findAttribute? (entry :: attributes) name =
      if entry.1 = name then some entry.2
      else findAttribute? attributes name := by
  unfold findAttribute?
  by_cases isName : entry.1 = name <;> simp [isName]

/-- What is stored among slots is found there, beside what the other slots
have. -/
theorem findAttribute?_storeSlot (slots : List String)
    (attributes : List (String × Value)) (name : String) (v : Value)
    (other : String) :
    findAttribute? (storeSlot slots attributes name v) other =
      if other ∈ slots then
        if other = name then some v else findAttribute? attributes other
      else none := by
  induction slots with
  | nil => rfl
  | cons slot slots ih =>
      have unfolds : storeSlot (slot :: slots) attributes name v =
          (if slot = name then some (slot, v)
            else (findAttribute? attributes slot).map fun stored =>
              (slot, stored)).toList ++ storeSlot slots attributes name v := by
        unfold storeSlot
        rw [List.filterMap_cons]
        by_cases isName : slot = name
        · simp [isName]
        · cases findAttribute? attributes slot <;> simp [isName]
      rw [unfolds]
      by_cases isSlot : slot = other
      · subst isSlot
        by_cases isName : slot = name
        · simp [isName, findAttribute?_cons]
        · cases held : findAttribute? attributes slot with
          | none => simp [isName, ih, held]
          | some found => simp [isName, findAttribute?_cons]
      · by_cases isName : slot = name
        · subst isName
          simp [findAttribute?_cons, isSlot, ih, Ne.symm isSlot]
        · cases findAttribute? attributes slot <;>
            simp [isName, findAttribute?_cons, isSlot, ih, Ne.symm isSlot]

/-- Storing among slots looks only at what the other slots have. -/
theorem storeSlot_congr {slots : List String}
    {attributes others : List (String × Value)} {name : String} (v : Value)
    (same : ∀ slot ∈ slots, slot ≠ name →
      findAttribute? others slot = findAttribute? attributes slot) :
    storeSlot slots others name v = storeSlot slots attributes name v := by
  unfold storeSlot
  induction slots with
  | nil => rfl
  | cons slot slots ih =>
      have rest := ih fun other member =>
        same other (List.mem_cons_of_mem _ member)
      rw [List.filterMap_cons, List.filterMap_cons, rest]
      by_cases isName : slot = name
      · simp [isName]
      · rw [same slot List.mem_cons_self isName]

theorem storeSlot_storeSlot (slots : List String)
    (attributes : List (String × Value)) (name : String) (v : Value) :
    storeSlot slots (storeSlot slots attributes name v) name v =
      storeSlot slots attributes name v := by
  apply storeSlot_congr
  intro slot member different
  rw [findAttribute?_storeSlot, if_pos member, if_neg different]

/-- How a value is written under a name, by what it is. -/
inductive Writes (name : String) (given : Value) : Value → Value → Prop where
  | map (entries : List (Value × Value)) :
      Writes name given (.map entries)
        (.map (insert entries (.text name) given))
  | record (attributes : List (String × Value)) :
      Writes name given (.record attributes)
        (.record (insertAttribute attributes name given))
  | annotatedMap (entries : List (Value × Value))
      (attributes : List (String × Value)) :
      Writes name given (.annotatedMap entries attributes)
        (.annotatedMap entries (insertAttribute attributes name given))
  | slotted {slots : List String} (attributes : List (String × Value)) :
      slots.contains name = true →
      Writes name given (.slotted slots attributes)
        (.slotted slots (storeSlot slots attributes name given))
  | classed (inherited own : List (String × Value)) :
      Writes name given (.classed inherited own)
        (.classed inherited (insertAttribute own name given))
  | failing {failures : List FailingAttribute}
      (attributes : List (String × Value)) :
      failure? failures name = none →
      Writes name given (.failing failures attributes)
        (.failing failures (insertAttribute attributes name given))
  | extended (base : Value) (attributes : List (String × Value)) :
      Writes name given (.extended base attributes)
        (.extended base (insertAttribute attributes name given))
  | bare {v : Value} : v.isExtensible = true →
      Writes name given v (.extended v [(name, given)])
  | part {v written : Value} : writeRulePart v name given = some written →
      Writes name given v written

section

variable {name : String} {v given written : Value}

theorem write_text (notMap : ∀ entries, v ≠ .map entries)
    (unrefused : nameRefusal? v name given = none) :
    v.write (.text name) given = v.writeAttribute name given := by
  unfold write
  split
  · rename_i entries
    exact absurd rfl (notMap entries)
  · simp only [unrefused]

theorem writeAttribute_of_write (notMap : ∀ entries, v ≠ .map entries)
    (writes : v.write (.text name) given = .ok written) :
    nameRefusal? v name given = none ∧
      v.writeAttribute name given = .ok written := by
  cases refuses : nameRefusal? v name given with
  | none =>
      rw [write_text notMap refuses] at writes
      exact ⟨rfl, writes⟩
  | some fault =>
      unfold write at writes
      split at writes
      · rename_i entries
        exact absurd rfl (notMap entries)
      · simp only [refuses] at writes
        cases writes

theorem writes_of_bare
    (writes : (if v.isExtensible then
        Except.ok (Value.extended v [(name, given)])
      else
        match writeRulePart v name given with
        | some written => .ok written
        | none => .error (absentPart v name)) = .ok written) :
    Writes name given v written := by
  split at writes
  · rename_i extensible
    cases writes
    exact .bare extensible
  · split at writes
    · rename_i part isPart
      cases writes
      exact .part isPart
    · cases writes

theorem writes_of_write (writes : v.write (.text name) given = .ok written) :
    Writes name given v written := by
  by_cases isMap : ∃ entries, v = .map entries
  · obtain ⟨entries, rfl⟩ := isMap
    cases writes
    exact .map entries
  · have notMap : ∀ entries, v ≠ .map entries := fun entries same =>
      isMap ⟨entries, same⟩
    obtain ⟨_, writes⟩ := writeAttribute_of_write notMap writes
    cases v with
    | map entries => exact absurd rfl (notMap entries)
    | record attributes =>
        cases writes
        exact .record attributes
    | annotatedMap entries attributes =>
        cases writes
        exact .annotatedMap entries attributes
    | classed inherited own =>
        cases writes
        exact .classed inherited own
    | extended base attributes =>
        cases writes
        exact .extended base attributes
    | failing failures attributes =>
        rw [writeAttribute] at writes
        split at writes
        · cases writes
        · rename_i unfailing
          cases writes
          exact .failing attributes unfailing
    | slotted slots attributes =>
        change (if slots.contains name then _ else _) = _ at writes
        split at writes
        · rename_i hasSlot
          cases writes
          exact .slotted attributes hasSlot
        · cases writes
    | locked | identity | memo => cases writes
    | _ => exact writes_of_bare writes

/-- Only three names are refused as such. -/
theorem nameRefusal?_other (notType : name ≠ "__class__")
    (notAll : name ≠ "__dict__") (notReference : name ≠ "__weakref__")
    (target given : Value) : nameRefusal? target name given = none := by
  unfold nameRefusal?
  split
  · rfl
  · exact absurd rfl notType
  · exact absurd rfl notAll
  · exact absurd rfl notAll
  · exact absurd rfl notReference
  · rfl

theorem Writes.write (writes : Writes name given v written)
    (unrefused : nameRefusal? v name given = none) :
    v.write (.text name) given = .ok written := by
  cases writes with
  | map entries => rfl
  | slotted attributes hasSlot =>
      rw [write_text (by simp) unrefused]
      exact if_pos hasSlot
  | failing attributes unfailing =>
      rw [write_text (by simp) unrefused, writeAttribute, unfailing]
  | bare extensible =>
      have notMap : ∀ entries, v ≠ .map entries := by
        rintro entries rfl
        cases extensible
      rw [write_text notMap unrefused]
      unfold isExtensible at extensible
      split at extensible
      · rfl
      · rfl
      · rfl
      · rfl
      · rfl
      · rfl
      · rfl
      · cases extensible
  | part isPart =>
      unfold writeRulePart at isPart
      split at isPart <;> cases isPart <;> rfl
  | _ => rw [write_text (by simp) unrefused]; rfl

theorem nameRefusal?_extended (extensible : v.isExtensible = true)
    (attributes : List (String × Value)) (name : String) (given : Value) :
    nameRefusal? (.extended v attributes) name given =
      nameRefusal? v name given := by
  unfold isExtensible at extensible
  by_cases isType : name = "__class__"
  · subst isType
    split at extensible <;> first | rfl | cases extensible
  · by_cases isAll : name = "__dict__"
    · subst isAll
      split at extensible <;> first | rfl | cases extensible
    · by_cases isReference : name = "__weakref__"
      · subst isReference
        split at extensible <;> first | rfl | cases extensible
      · rw [nameRefusal?_other isType isAll isReference,
          nameRefusal?_other isType isAll isReference]

/-- Writing does not change which names are refused. -/
theorem Writes.nameRefusal?_eq (writes : Writes name given v written) :
    nameRefusal? written name given = nameRefusal? v name given := by
  by_cases special :
      name = "__class__" ∨ name = "__dict__" ∨ name = "__weakref__"
  · cases writes with
    | bare extensible => exact nameRefusal?_extended extensible _ _ _
    | part isPart =>
        unfold writeRulePart at isPart
        split at isPart
        case h_5 => cases isPart
        all_goals exact absurd special (by decide)
    | _ => rcases special with rfl | rfl | rfl <;> rfl
  · rw [not_or, not_or] at special
    obtain ⟨notType, notAll, notReference⟩ := special
    rw [nameRefusal?_other notType notAll notReference,
      nameRefusal?_other notType notAll notReference]

/-- What has been written is written again by changing nothing. -/
theorem Writes.again (writes : Writes name given v written) :
    Writes name given written written := by
  have inserted (attributes : List (String × Value)) :=
    insertAttribute_insertAttribute attributes name given
  cases writes with
  | map entries =>
      have again : Writes name given _ _ :=
        .map (insert entries (.text name) given)
      rwa [insert_insert (same_text_iff.mpr rfl)] at again
  | record attributes =>
      have again : Writes name given _ _ :=
        .record (insertAttribute attributes name given)
      rwa [inserted] at again
  | annotatedMap entries attributes =>
      have again : Writes name given _ _ :=
        .annotatedMap entries (insertAttribute attributes name given)
      rwa [inserted] at again
  | @slotted slots attributes hasSlot =>
      have again : Writes name given _ _ :=
        .slotted (storeSlot slots attributes name given) hasSlot
      rwa [storeSlot_storeSlot] at again
  | classed inherited own =>
      have again : Writes name given _ _ :=
        .classed inherited (insertAttribute own name given)
      rwa [inserted] at again
  | failing attributes unfailing =>
      have again : Writes name given _ _ :=
        .failing (insertAttribute attributes name given) unfailing
      rwa [inserted] at again
  | extended base attributes =>
      have again : Writes name given _ _ :=
        .extended base (insertAttribute attributes name given)
      rwa [inserted] at again
  | bare extensible =>
      have again : Writes name given _ _ := .extended v [(name, given)]
      simpa [insertAttribute] using again
  | part isPart =>
      unfold writeRulePart at isPart
      split at isPart <;> cases isPart <;> exact .part rfl

/-- A map takes what it is given under every key that can be one. -/
theorem write_map {entries : List (Value × Value)} {key : Value}
    (writes : (Value.map entries).write key given = .ok written) :
    checkHashable key = .ok () ∧ written = .map (insert entries key given) := by
  change (do
    checkHashable key
    return Value.map (insert entries key given)) = Except.ok written at writes
  cases hashable : checkHashable key with
  | error fault =>
      rw [hashable] at writes
      cases writes
  | ok _ =>
      rw [hashable] at writes
      cases writes
      exact ⟨rfl, rfl⟩

/-- Anything else takes it under a name only. -/
theorem exists_name_of_write {key : Value}
    (notMap : ∀ entries, v ≠ .map entries)
    (writes : v.write key given = .ok written) : ∃ name, key = .text name := by
  unfold write at writes
  split at writes
  · rename_i entries
    exact absurd rfl (notMap entries)
  · split at writes
    · exact ⟨_, rfl⟩
    · cases writes

/-- Writing again what has been written changes nothing. -/
theorem write_again {key : Value} (itself : key.same key = true)
    (writes : v.write key given = .ok written) :
    written.write key given = .ok written := by
  by_cases isMap : ∃ entries, v = .map entries
  · obtain ⟨entries, rfl⟩ := isMap
    obtain ⟨hashable, rfl⟩ := write_map writes
    change (do
      checkHashable key
      return Value.map (insert (insert entries key given) key given)) = _
    rw [hashable, insert_insert itself]
    rfl
  · have notMap : ∀ entries, v ≠ .map entries := fun entries same =>
      isMap ⟨entries, same⟩
    obtain ⟨name, rfl⟩ := exists_name_of_write notMap writes
    have taken := writes_of_write writes
    obtain ⟨unrefused, _⟩ := writeAttribute_of_write notMap writes
    exact taken.again.write (taken.nameRefusal?_eq.trans unrefused)

/-- Whether a context gives back what it takes: a mapping that is written by
attribute does not. -/
def retains : Value → Bool
  | .map _ => true
  | v => !v.isMapping

theorem retains_of_isExtensible (extensible : v.isExtensible = true) :
    v.retains = !v.isMapping := by
  cases v with
  | map entries => cases extensible
  | _ => rfl

theorem retains_extended (base : Value) (attributes : List (String × Value)) :
    (Value.extended base attributes).retains = !base.isMapping :=
  rfl

theorem Writes.isMapping_eq (writes : Writes name given v written) :
    written.isMapping = v.isMapping := by
  cases writes with
  | part isPart =>
      unfold writeRulePart at isPart
      split at isPart <;> cases isPart <;> rfl
  | _ => rfl

theorem Writes.retains_eq (writes : Writes name given v written) :
    written.retains = v.retains := by
  cases writes with
  | bare extensible => exact (retains_of_isExtensible extensible).symm
  | part isPart =>
      unfold writeRulePart at isPart
      split at isPart <;> cases isPart <;> rfl
  | _ => rfl

/-- A context that retains what is written is a writable mapping or none. -/
theorem eq_map_of_retains (retained : v.retains = true)
    (isMapping : v.isMapping = true) : ∃ entries, v = .map entries := by
  unfold retains at retained
  split at retained
  · rename_i entries
    exact ⟨entries, rfl⟩
  · rw [isMapping] at retained
    cases retained

/-- What an object stores is what it gives, unless it is a mapping. -/
theorem read_of_stored {found : Value} (notMapping : v.isMapping = false)
    (number : Nat) (default : Value)
    (stored : ∀ holder, attributeOf holder v name = .ok found) :
    (Value.object number v).read (.text name) default = .ok found := by
  have isObject : (Value.object number v).isMapping = false := notMapping
  unfold read readAttributeOr readAttribute
  rw [isObject, if_neg Bool.false_ne_true]
  simp only [attributeOf, stored]
  rfl

theorem heldAttribute_of_stored {holder found : Value}
    (stored : findAttribute? v.storedAttributes name = some found) :
    heldAttribute holder v name = .ok found := by
  unfold heldAttribute
  rw [stored]
  rfl

/-- What has been written is stored as an attribute, where it is not stored as
an entry. -/
theorem Writes.attributeOf_eq (writes : Writes name given v written)
    (notMap : ∀ entries, v ≠ .map entries) (holder : Value) :
    attributeOf holder written name = .ok given := by
  have inserted (attributes : List (String × Value)) :=
    findAttribute?_insertAttribute attributes name given
  cases writes with
  | map entries => exact absurd rfl (notMap entries)
  | record attributes => exact heldAttribute_of_stored (inserted attributes)
  | annotatedMap entries attributes =>
      exact heldAttribute_of_stored (inserted attributes)
  | classed inherited own => exact heldAttribute_of_stored (inserted own)
  | slotted attributes hasSlot =>
      apply heldAttribute_of_stored
      have member := List.contains_iff_mem.mp hasSlot
      change findAttribute? (storeSlot _ attributes name given) name = _
      rw [findAttribute?_storeSlot, if_pos member, if_pos rfl]
  | failing attributes unfailing =>
      rw [attributeOf, unfailing]
      exact heldAttribute_of_stored (inserted attributes)
  | extended base attributes => rw [attributeOf, inserted attributes]
  | bare extensible => simp [attributeOf, findAttribute?]
  | part isPart =>
      unfold writeRulePart at isPart
      -- a part of a rule is read as an attribute that comes with its type
      split at isPart <;> cases isPart <;> rfl

/-- A context that retains what is written gives what it has taken. -/
theorem Writes.read_retained (writes : Writes name given v written)
    (retained : v.retains = true) (number : Nat) (default : Value) :
    (Value.object number written).read (.text name) default = .ok given := by
  cases isMapping : v.isMapping with
  | true =>
      obtain ⟨entries, rfl⟩ := eq_map_of_retains retained isMapping
      have itself : (Value.text name).same (.text name) = true :=
        same_text_iff.mpr rfl
      cases writes with
      | map =>
          change (do
            let found ← lookUp (insert entries (.text name) given) (.text name)
            return found.getD default) = Except.ok given
          rw [lookUp_text, find?_insert itself]
          rfl
      | bare extensible => cases extensible
      | part isPart => cases isPart
  | false =>
      have notMap : ∀ entries, v ≠ .map entries := by
        rintro entries rfl
        cases isMapping
      exact read_of_stored (writes.isMapping_eq.trans isMapping) number default
        (writes.attributeOf_eq notMap)

/-- Any other context gives what it gave before, under every key. -/
theorem Writes.read_lost (writes : Writes name given v written)
    (lost : v.retains = false) (number : Nat) (key default : Value) :
    (Value.object number written).read key default =
      (Value.object number v).read key default := by
  cases writes with
  | annotatedMap entries attributes => rfl
  | extended base attributes =>
      have isMapping : base.isMapping = true := by
        rw [retains_extended] at lost
        simpa using lost
      calc
        _ = base.get key default := if_pos isMapping
        _ = _ := (if_pos isMapping).symm
  | bare extensible =>
      have isMapping : v.isMapping = true := by
        rw [retains_of_isExtensible extensible] at lost
        simpa using lost
      calc
        _ = v.get key default := if_pos isMapping
        _ = _ := (if_pos isMapping).symm
  | part isPart =>
      unfold writeRulePart at isPart
      split at isPart <;> cases isPart <;> cases lost
  | _ => cases lost

end

end Value

end RoleGuard
