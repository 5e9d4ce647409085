import RoleGuard.Context
import RoleGuard.Proofs.Lookup

/-!
# Where contexts keep the memo

What a context gives under the key of the memo lies in a part of it that can be
written, in `ownMemos`, or in one that cannot, in `fixedMemos`.  Writing under
another key adds nothing to either, and forgetting empties the first.
-/

namespace RoleGuard

namespace Value

/-- What entries have under the key of the memo. -/
def memoEntries (entries : List (Value × Value)) : List Value :=
  (entries.filter fun entry => entry.1.same (.text memoKey)).map Prod.snd

/-- What attributes have under the name of the memo. -/
def memoAttributes (attributes : List (String × Value)) : List Value :=
  (attributes.filter fun entry => entry.1 == memoKey).map Prod.snd

/-- What a value has under the key of the memo where it can be written. -/
def ownMemos : Value → List Value
  | .map entries => memoEntries entries
  | .record attributes | .slotted _ attributes | .locked _ attributes
  | .failing _ attributes | .classed _ attributes
  | .annotatedMap _ attributes | .extended _ attributes =>
      memoAttributes attributes
  | _ => []

/-- What a value has under the key of the memo where it cannot be written. -/
def fixedMemos : Value → List Value
  | .proxy entries | .annotatedMap entries _ => memoEntries entries
  | .other _ attributes | .classed attributes _ => memoAttributes attributes
  | .object _ v | .extended v _ | .bound _ v => fixedMemos v ++ ownMemos v
  | _ => []

theorem mem_memoEntries {entries : List (Value × Value)} {v : Value} :
    v ∈ memoEntries entries ↔
      ∃ k, k.same (.text memoKey) = true ∧ (k, v) ∈ entries := by
  simp [memoEntries, and_comm]

theorem mem_memoAttributes {attributes : List (String × Value)} {v : Value} :
    v ∈ memoAttributes attributes ↔ (memoKey, v) ∈ attributes := by
  simp [memoAttributes]

theorem mem_memoEntries_of_find? {entries : List (Value × Value)} {v : Value}
    (found : find? entries (.text memoKey) = some v) :
    v ∈ memoEntries entries := by
  obtain ⟨⟨k, _⟩, foundEntry, rfl⟩ := Option.map_eq_some_iff.mp found
  have sameKey := List.find?_some foundEntry
  exact mem_memoEntries.mpr ⟨k, sameKey, List.mem_of_find?_eq_some foundEntry⟩

theorem mem_memoAttributes_of_find? {attributes : List (String × Value)}
    {v : Value} (found : findAttribute? attributes memoKey = some v) :
    v ∈ memoAttributes attributes := by
  obtain ⟨⟨name, _⟩, foundEntry, rfl⟩ := Option.map_eq_some_iff.mp found
  have sameName : name = memoKey := by
    simpa using List.find?_some foundEntry
  rw [mem_memoAttributes, ← sameName]
  exact List.mem_of_find?_eq_some foundEntry

theorem memoAttributes_of_find?_eq_none {attributes : List (String × Value)}
    (absent : findAttribute? attributes memoKey = none) :
    memoAttributes attributes = [] := by
  unfold findAttribute? at absent
  rw [Option.map_eq_none_iff, List.find?_eq_none] at absent
  rw [memoAttributes, List.filter_eq_nil_iff.mpr absent]
  rfl

theorem mem_insertAttribute {attributes : List (String × Value)}
    {name : String} {v : Value} {entry : String × Value}
    (member : entry ∈ insertAttribute attributes name v) :
    entry = (name, v) ∨ entry ∈ attributes := by
  unfold insertAttribute at member
  split at member
  · obtain ⟨old, oldMember, rfl⟩ := List.mem_map.mp member
    split
    · exact .inl rfl
    · exact .inr oldMember
  · rcases List.mem_append.mp member with old | new
    · exact .inr old
    · exact .inl (List.mem_singleton.mp new)

theorem mem_storeSlot {slots : List String} {attributes : List (String × Value)}
    {name : String} {v : Value} {entry : String × Value}
    (member : entry ∈ storeSlot slots attributes name v) :
    entry = (name, v) ∨ entry ∈ attributes := by
  obtain ⟨slot, _, stored⟩ := List.mem_filterMap.mp member
  split at stored
  · rename_i sameSlot
    cases stored
    exact .inl (by rw [beq_iff_eq.mp sameSlot])
  · obtain ⟨held, found, rfl⟩ := Option.map_eq_some_iff.mp stored
    obtain ⟨⟨given, _⟩, foundEntry, rfl⟩ := Option.map_eq_some_iff.mp found
    have sameName : given = slot := by simpa using List.find?_some foundEntry
    subst sameName
    exact .inr (List.mem_of_find?_eq_some foundEntry)

theorem mem_insert {entries : List (Value × Value)} {key v : Value}
    {entry : Value × Value} (member : entry ∈ insert entries key v) :
    (entry.2 = v ∧ (entry.1 = key ∨ entry.1.same key = true)) ∨
      entry ∈ entries := by
  unfold insert at member
  split at member
  · obtain ⟨old, oldMember, rfl⟩ := List.mem_map.mp member
    split
    · rename_i sameKey
      exact .inl ⟨rfl, .inr sameKey⟩
    · exact .inr oldMember
  · rcases List.mem_append.mp member with old | new
    · exact .inr old
    · rw [List.mem_singleton.mp new]
      exact .inl ⟨rfl, .inl rfl⟩

theorem memoAttributes_erase (attributes : List (String × Value)) :
    memoAttributes (eraseAttribute attributes memoKey) = [] := by
  simp [memoAttributes, eraseAttribute]

theorem memoEntries_erase (entries : List (Value × Value)) :
    memoEntries (erase entries (.text memoKey)) = [] := by
  simp [memoEntries, erase]

def memos (v : Value) : List Value := v.fixedMemos ++ v.ownMemos

theorem memoEntries_subset {v : Value} {entries : List (Value × Value)}
    (isMapping : v.entries? = some entries) :
    memoEntries entries ⊆ v.memos := by
  induction v using fixedMemos.induct with
  | case1 | case2 =>
      cases isMapping
      exact List.subset_append_left _ _
  | case5 _ v ih | case6 v _ ih =>
      exact fun _ member => List.mem_append_left _ (ih isMapping member)
  | case3 | case4 | case7 => cases isMapping
  | case8 v =>
      cases v with
      | map entries =>
          cases isMapping
          exact List.subset_append_right _ _
      | brokenMap _ _ =>
          cases isMapping
          exact List.nil_subset _
      | object _ v => simp_all
      | proxy _ => simp_all
      | annotatedMap _ _ => simp_all
      | extended _ _ => simp_all
      | _ => cases isMapping

/-- The memo is no part of any value. -/
theorem part?_memoKey (v : Value) : part? v memoKey = none := by
  have noNumberPart : numberPart? v memoKey = none := by
    cases v <;> rfl
  have noRangePart : rangePart? v memoKey = none := by
    cases v <;> rfl
  have noPathPart : pathPart? v memoKey = none := by
    cases v <;> rfl
  have noQueuePart : queuePart? v memoKey = none := by
    unfold queuePart?
    split
    · rename_i isLimit
      exact absurd isLimit (by decide)
    · rfl
  have noRulePart : rulePart? v memoKey = none := by
    unfold rulePart?
    split
    · rename_i isRole
      exact absurd isRole (by decide)
    · rename_i isRules
      exact absurd isRules (by decide)
    · rename_i isRules
      exact absurd isRules (by decide)
    · rename_i isValue
      exact absurd isValue (by decide)
    · rfl
  rw [part?, noNumberPart, noRangePart, noPathPart, noQueuePart, noRulePart]
  rfl

/-- No type gives its objects a memo. -/
theorem inherentAttribute?_ne_memo {holder v source who : Value}
    {operation : Option String} :
    inherentAttribute? holder v memoKey ≠
      some (.memo source operation who) := by
  have notType : memoKey ≠ "__class__" := by decide
  have notAttributes : memoKey ≠ "__dict__" := by decide
  unfold inherentAttribute?
  rw [part?_memoKey]
  simp only [notType, notAttributes, if_false]
  split
  · intro isMethod
    cases isMethod
  · intro absent
    cases absent

theorem memoAttributes_subset (v : Value) :
    memoAttributes v.storedAttributes ⊆ v.memos := by
  intro m member
  rw [mem_memoAttributes] at member
  cases v with
  | identity role user => simp [storedAttributes, memoKey] at member
  | memo source operation who => simp [storedAttributes, memoKey] at member
  | other _ attributes =>
      exact List.mem_append_left _ (mem_memoAttributes.mpr member)
  | record | slotted | locked | annotatedMap | failing | classed =>
      exact List.mem_append_right _ (mem_memoAttributes.mpr member)
  | _ => cases member

theorem mem_memos_of_heldAttribute {holder v source who : Value}
    {operation : Option String}
    (read : heldAttribute holder v memoKey = .ok (.memo source operation who)) :
    .memo source operation who ∈ v.memos := by
  unfold heldAttribute at read
  split at read
  · rename_i found isFound
    cases read
    simp only [Option.orElse_eq_orElse, Option.orElse_eq_or,
      Option.or_eq_some_iff] at isFound
    rcases isFound with stored | ⟨_, inherited | ⟨_, inherent⟩⟩
    · exact memoAttributes_subset v (mem_memoAttributes_of_find? stored)
    · cases v with
      | classed attributes own =>
          obtain ⟨held, isHeld, bound⟩ := Option.map_eq_some_iff.mp inherited
          split at bound
          · cases bound
          · subst bound
            exact List.mem_append_left _ (mem_memoAttributes_of_find? isHeld)
      | _ => cases inherited
    · exact absurd inherent inherentAttribute?_ne_memo
  · cases read

/-- Reading the memo is none of the reads that fail. -/
theorem failure?_memoKey (failures : List FailingAttribute) :
    failure? failures memoKey = none := by
  rw [failure?, List.find?_eq_none]
  intro failure _
  simpa using failure.notMemo

theorem mem_memos_of_attributeOf {holder v source who : Value}
    {operation : Option String}
    (read : attributeOf holder v memoKey = .ok (.memo source operation who)) :
    .memo source operation who ∈ v.memos := by
  induction v using fixedMemos.induct with
  | case5 _ v ih =>
      exact List.mem_append_left _ (ih read)
  | case6 v attributes ih =>
      rw [attributeOf] at read
      split at read
      · rename_i found isFound
        cases read
        exact List.mem_append_right _ (mem_memoAttributes_of_find? isFound)
      · exact List.mem_append_left _ (ih read)
  | case7 receiver v ih =>
      have notType : memoKey ≠ "__class__" := by decide
      rw [attributeOf, if_neg notType] at read
      exact List.mem_append_left _ (ih read)
  | case1 | case2 | case3 | case4 => exact mem_memos_of_heldAttribute read
  | case8 v =>
      -- a value that carries no other one; reading the memo is no failure of it
      cases v with
      | failing failures attributes =>
          rw [attributeOf, failure?_memoKey] at read
          exact mem_memos_of_heldAttribute read
      | object _ v => simp_all
      | extended _ _ => simp_all
      | bound _ _ => simp_all
      | _ => exact mem_memos_of_heldAttribute read

theorem mem_memos_of_read {v source who : Value} {operation : Option String}
    (read : v.read (.text memoKey) .null = .ok (.memo source operation who)) :
    .memo source operation who ∈ v.memos := by
  unfold Value.read at read
  split at read
  · rename_i isMapping
    obtain ⟨entries, isMapping⟩ := Option.isSome_iff_exists.mp isMapping
    unfold get at read
    split at read
    · split at read <;> cases read
    · rw [isMapping, Option.getD_some, lookUp_text] at read
      cases found : find? entries (.text memoKey) with
      | none =>
          rw [found] at read
          cases read
      | some m =>
          rw [found] at read
          cases read
          exact memoEntries_subset isMapping (mem_memoEntries_of_find? found)
  · change orDefault (v.readAttribute memoKey) .null = _ at read
    unfold orDefault at read
    split at read
    · rename_i held isHeld
      cases read
      exact mem_memos_of_attributeOf isHeld
    · split at read
      · cases read
      · cases read

theorem same_text_iff {k : Value} {name : String} :
    k.same (.text name) = true ↔ k.content = .text name := by
  induction k using content.induct with
  | case1 number v ih =>
      rw [same, content, ← ih]
      simp [number?]
  | case2 v attributes ih => rw [same, content, ih]
  | case3 v =>
      cases v with
      | text s => simp [same, content, sameLeaf]
      | object _ v => simp_all
      | extended _ _ => simp_all
      | _ => simp [same, content, entries?, sameLeaf, sameNumber, numericKey?]

/-- A key that is not equal to another one, nor is anything that is. -/
def Apart (key other : Value) : Prop :=
  other.same key = false ∧ ∀ k : Value, k.same key = true → k.same other = false

theorem apart_text {name other : String} (different : other ≠ name) :
    Apart (.text name) (.text other) := by
  constructor
  · exact beq_eq_false_iff_ne.mpr different
  · intro k isName
    rw [Bool.eq_false_iff]
    intro isOther
    rw [same_text_iff] at isName isOther
    rw [isOther] at isName
    cases isName
    exact different rfl

theorem ne_of_apart_text {name other : String}
    (apart : Apart (.text name) (.text other)) : other ≠ name := by
  rintro rfl
  cases apart.1.symm.trans (same_text_iff.mpr rfl)

/-- A key other than the memo's: it is not equal to the memo's key, nor is
anything that is. -/
def OtherKey (key : Value) : Prop :=
  key.same (.text memoKey) = false ∧
    ∀ k : Value, k.same (.text memoKey) = true → k.same key = false

theorem otherKey_text {name : String} (other : name ≠ memoKey) :
    OtherKey (.text name) :=
  apart_text other

theorem not_otherKey_memoKey : ¬ OtherKey (.text memoKey) := by
  intro other
  cases other.1

theorem mem_memoAttributes_of_new {attributes old : List (String × Value)}
    {name : String} {v m : Value}
    (grows : ∀ entry ∈ attributes, entry = (name, v) ∨ entry ∈ old)
    (member : m ∈ memoAttributes attributes) :
    m ∈ memoAttributes old ∨ (m = v ∧ name = memoKey) := by
  rw [mem_memoAttributes] at member ⊢
  rcases grows _ member with new | isOld
  · cases new
    exact .inr ⟨rfl, rfl⟩
  · exact .inl isOld

/-- A value has nothing under the key of the memo that another one has not,
except what is admitted where it can be written. -/
structure Within (admitted : Value → Prop) (old new : Value) : Prop where
  fixed : new.fixedMemos ⊆ old.fixedMemos
  own : ∀ m ∈ new.ownMemos, m ∈ old.ownMemos ∨ admitted m

theorem Within.refl (admitted : Value → Prop) (v : Value) :
    Within admitted v v where
  fixed := List.Subset.refl _
  own _ member := .inl member

theorem Within.trans {admitted : Value → Prop} {old between new : Value}
    (first : Within admitted old between)
    (second : Within admitted between new) : Within admitted old new where
  fixed _ member := first.fixed (second.fixed member)
  own m member := by
    rcases second.own m member with held | new
    · exact first.own m held
    · exact .inr new

theorem Within.mono {admitted more : Value → Prop} {old new : Value}
    (within : Within admitted old new) (weaker : ∀ m, admitted m → more m) :
    Within more old new where
  fixed := within.fixed
  own m member := (within.own m member).imp_right (weaker m)

/-- Writing a part of a rule gives a rule, which has no attributes. -/
theorem writeRulePart_memos {rule v written : Value} {name : String}
    (writes : writeRulePart rule name v = some written) :
    written.memos = [] := by
  unfold writeRulePart at writes
  split at writes <;> cases writes <;> rfl

/-- A value without attributes of its own takes one as its first. -/
theorem writeBare_memos {target v written : Value} {name : String}
    (bare : target.memos = [])
    (writes : (if target.isExtensible then
        Except.ok (Value.extended target [(name, v)])
      else
        match writeRulePart target name v with
        | some written => .ok written
        | none => .error (absentPart target name)) = .ok written) :
    Within (fun m => m = v ∧ name = memoKey) target written := by
  obtain ⟨noFixed, noOwn⟩ := List.append_eq_nil_iff.mp bare
  split at writes
  · cases writes
    constructor
    · rw [fixedMemos, noFixed, noOwn]
      exact List.nil_subset _
    · intro m member
      refine .inr ?_
      have held := mem_memoAttributes.mp member
      cases List.mem_singleton.mp held
      exact ⟨rfl, rfl⟩
  · split at writes
    · rename_i part isPart
      cases writes
      obtain ⟨noFixedPart, noOwnPart⟩ :=
        List.append_eq_nil_iff.mp (writeRulePart_memos isPart)
      constructor
      · rw [noFixedPart]
        exact List.nil_subset _
      · intro m member
        rw [noOwnPart] at member
        cases member
    · cases writes

theorem writeAttribute_memos {target v written : Value} {name : String}
    (writes : target.writeAttribute name v = .ok written) :
    Within (fun m => m = v ∧ name = memoKey) target written := by
  have inserted (attributes : List (String × Value)) :
      ∀ m ∈ memoAttributes (insertAttribute attributes name v),
        m ∈ memoAttributes attributes ∨ (m = v ∧ name = memoKey) :=
    fun m member =>
      mem_memoAttributes_of_new (fun _ => mem_insertAttribute) member
  cases target with
  | extended base attributes =>
      cases writes
      exact ⟨List.Subset.refl _, inserted attributes⟩
  | record attributes =>
      cases writes
      exact ⟨List.Subset.refl _, inserted attributes⟩
  | annotatedMap entries attributes =>
      cases writes
      exact ⟨List.Subset.refl _, inserted attributes⟩
  | classed inherited own =>
      cases writes
      exact ⟨List.Subset.refl _, inserted own⟩
  | slotted slots attributes =>
      change (if slots.contains name then _ else _) = _ at writes
      split at writes
      · cases writes
        exact ⟨List.Subset.refl _, fun m member =>
          mem_memoAttributes_of_new (fun _ => mem_storeSlot) member⟩
      · cases writes
  | failing failures attributes =>
      rw [writeAttribute] at writes
      split at writes
      · cases writes
      · cases writes
        exact ⟨List.Subset.refl _, inserted attributes⟩
  | locked _ _ => cases writes
  | identity _ _ => cases writes
  | memo _ _ _ => cases writes
  | rule _ => exact writeBare_memos rfl writes
  | disjunction _ => exact writeBare_memos rfl writes
  | resolver _ _ => exact writeBare_memos rfl writes
  | provided _ => exact writeBare_memos rfl writes
  | pending _ => exact writeBare_memos rfl writes
  | brokenMap _ _ => exact writeBare_memos rfl writes
  | _ => cases writes

/-- Writing a value adds at most this value to what is under the key of the
memo, and that only under this very key. -/
theorem write_memos {target key v written : Value}
    (writes : target.write key v = .ok written) :
    Within (fun m => m = v ∧ ¬ OtherKey key) target written := by
  unfold write at writes
  split at writes
  · rename_i entries
    cases hashable : checkHashable key with
    | error fault =>
        rw [hashable] at writes
        cases writes
    | ok _ =>
        rw [hashable] at writes
        cases writes
        refine ⟨List.Subset.refl _, fun m member => ?_⟩
        obtain ⟨k, isMemoKey, member⟩ := mem_memoEntries.mp member
        rcases mem_insert member with ⟨rfl, rfl | sameKey⟩ | old
        · refine .inr ⟨rfl, fun other => ?_⟩
          rw [other.1] at isMemoKey
          cases isMemoKey
        · refine .inr ⟨rfl, fun other => ?_⟩
          rw [other.2 k isMemoKey] at sameKey
          cases sameKey
        · exact .inl (mem_memoEntries.mpr ⟨k, isMemoKey, old⟩)
  · split at writes
    · rename_i name
      split at writes
      · cases writes
      · obtain ⟨fixed, own⟩ := writeAttribute_memos writes
        refine ⟨fixed, fun m member => ?_⟩
        rcases own m member with old | ⟨new, rfl⟩
        · exact .inl old
        · exact .inr ⟨new, not_otherKey_memoKey⟩
    · cases writes

theorem absent_of_heldAttribute {holder v : Value} {name : String}
    {fault : Fault} (read : heldAttribute holder v name = .error fault) :
    fault.meansAbsent = true ∧ findAttribute? v.storedAttributes name = none := by
  unfold heldAttribute at read
  split at read
  · cases read
  · rename_i noAttribute
    cases read
    simp only [Option.orElse_eq_orElse, Option.orElse_eq_or,
      Option.or_eq_none_iff] at noAttribute
    exact ⟨rfl, noAttribute.1⟩

/-- Reading the memo as an attribute can only fail because it is absent. -/
theorem meansAbsent_of_attributeOf {holder v : Value} {fault : Fault}
    (read : attributeOf holder v memoKey = .error fault) :
    fault.meansAbsent = true := by
  induction v using fixedMemos.induct with
  | case5 _ v ih => exact ih read
  | case6 v attributes ih =>
      rw [attributeOf] at read
      split at read
      · cases read
      · exact ih read
  | case7 receiver v ih =>
      have notType : memoKey ≠ "__class__" := by decide
      rw [attributeOf, if_neg notType] at read
      exact ih read
  | case1 | case2 | case3 | case4 => exact (absent_of_heldAttribute read).1
  | case8 v =>
      cases v with
      | failing failures attributes =>
          rw [attributeOf, failure?_memoKey] at read
          exact (absent_of_heldAttribute read).1
      | object _ v => simp_all
      | extended _ _ => simp_all
      | bound _ _ => simp_all
      | _ => exact (absent_of_heldAttribute read).1

/-- An object that is no writable mapping and has no memo to read has none of
its own. -/
theorem ownMemos_of_absent {target : Value} {fault : Fault}
    (notMap : ∀ entries, target ≠ .map entries)
    (read : target.readAttribute memoKey = .error fault) :
    target.ownMemos = [] := by
  unfold readAttribute at read
  cases target with
  | map entries => exact absurd rfl (notMap entries)
  | extended base attributes =>
      rw [attributeOf] at read
      split at read
      · cases read
      · rename_i absent
        exact memoAttributes_of_find?_eq_none absent
  | failing failures attributes =>
      rw [attributeOf, failure?_memoKey] at read
      exact memoAttributes_of_find?_eq_none (absent_of_heldAttribute read).2
  | record | slotted | locked | annotatedMap | classed =>
      exact memoAttributes_of_find?_eq_none (absent_of_heldAttribute read).2
  | _ => rfl

/-- Deleting the memo leaves none that can be written, and can only fail where
there is none. -/
theorem deleteAttribute_memos {target : Value}
    (notMap : ∀ entries, target ≠ .map entries) :
    match target.deleteAttribute memoKey with
    | .ok deleted =>
        deleted.fixedMemos = target.fixedMemos ∧ deleted.ownMemos = []
    | .error fault => fault.meansAbsent = true ∧ target.ownMemos = [] := by
  cases target with
  | map entries => exact absurd rfl (notMap entries)
  | classed inherited own =>
      simp only [deleteAttribute]
      cases found : findAttribute? own memoKey with
      | some v => exact ⟨rfl, memoAttributes_erase own⟩
      | none => exact ⟨rfl, memoAttributes_of_find?_eq_none found⟩
  | extended _ attributes => exact ⟨rfl, memoAttributes_erase attributes⟩
  | record attributes => exact ⟨rfl, memoAttributes_erase attributes⟩
  | slotted _ attributes => exact ⟨rfl, memoAttributes_erase attributes⟩
  | locked _ attributes => exact ⟨rfl, memoAttributes_erase attributes⟩
  | annotatedMap _ attributes => exact ⟨rfl, memoAttributes_erase attributes⟩
  | failing failures attributes =>
      rw [deleteAttribute, failure?_memoKey]
      exact ⟨rfl, memoAttributes_erase attributes⟩
  | _ => exact ⟨rfl, rfl⟩

/-- Forgetting always succeeds and leaves nothing under the key of the memo that
can be written. -/
theorem forgetMemo_memos (target : Value) :
    ∃ forgotten, target.forgetMemo = .ok forgotten ∧
      forgotten.fixedMemos = target.fixedMemos ∧ forgotten.ownMemos = [] := by
  unfold forgetMemo
  split
  · rename_i entries
    exact ⟨_, rfl, rfl, memoEntries_erase entries⟩
  · exact ⟨_, rfl, rfl, rfl⟩
  · rename_i notMap _
    have deleted := deleteAttribute_memos notMap
    split
    · rename_i fault absent
      rw [if_pos (meansAbsent_of_attributeOf absent)]
      exact ⟨_, rfl, rfl, ownMemos_of_absent notMap absent⟩
    · unfold orDefault
      split
      · rename_i forgotten isDeleted
        rw [isDeleted] at deleted
        exact ⟨_, rfl, deleted⟩
      · rename_i fault refused
        rw [refused] at deleted
        rw [if_pos deleted.1]
        exact ⟨_, rfl, rfl, deleted.2⟩

end Value

end RoleGuard
