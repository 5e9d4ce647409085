import RoleGuard.Proofs.Retention

/-!
# Clearing a context again

A context that has nothing to forget is left as it is when it is cleared, and a
value that was written under the key of the memo is written there again after
the context has been cleared.  `Has` says what a context has under a key, so
that altering it under other keys does not matter.
-/

namespace RoleGuard

namespace Value

/-- Erasing what is not there changes nothing. -/
theorem erase_of_memoEntries_nil {entries : List (Value × Value)}
    (none : memoEntries entries = []) :
    erase entries (.text memoKey) = entries := by
  unfold memoEntries at none
  rw [List.map_eq_nil_iff, List.filter_eq_nil_iff] at none
  unfold erase
  rw [List.filter_eq_self]
  intro entry member
  simpa using none entry member

theorem eraseAttribute_of_memoAttributes_nil
    {attributes : List (String × Value)}
    (none : memoAttributes attributes = []) :
    eraseAttribute attributes memoKey = attributes := by
  unfold memoAttributes at none
  rw [List.map_eq_nil_iff, List.filter_eq_nil_iff] at none
  unfold eraseAttribute
  rw [List.filter_eq_self]
  intro entry member
  simpa using none entry member

theorem findAttribute?_of_memoAttributes_nil
    {attributes : List (String × Value)}
    (none : memoAttributes attributes = []) :
    findAttribute? attributes memoKey = .none := by
  cases found : findAttribute? attributes memoKey with
  | none => rfl
  | some m =>
      have member := mem_memoAttributes_of_find? found
      rw [none] at member
      cases member

theorem deleteAttribute_of_ownMemos_nil {v : Value} (none : v.ownMemos = []) :
    orDefault (v.deleteAttribute memoKey) v = .ok v := by
  cases v with
  | record attributes =>
      exact congrArg (fun kept => Except.ok (Value.record kept))
        (eraseAttribute_of_memoAttributes_nil none)
  | slotted slots attributes =>
      exact congrArg (fun kept => Except.ok (Value.slotted slots kept))
        (eraseAttribute_of_memoAttributes_nil none)
  | locked refusal attributes =>
      exact congrArg (fun kept => Except.ok (Value.locked refusal kept))
        (eraseAttribute_of_memoAttributes_nil none)
  | annotatedMap entries attributes =>
      exact congrArg (fun kept => Except.ok (Value.annotatedMap entries kept))
        (eraseAttribute_of_memoAttributes_nil none)
  | failing failures attributes =>
      rw [deleteAttribute, failure?_memoKey]
      exact congrArg (fun kept => Except.ok (Value.failing failures kept))
        (eraseAttribute_of_memoAttributes_nil none)
  | extended base attributes =>
      exact congrArg (fun kept => Except.ok (Value.extended base kept))
        (eraseAttribute_of_memoAttributes_nil none)
  | classed inherited own =>
      simp only [deleteAttribute, findAttribute?_of_memoAttributes_nil none]
      rfl
  | _ => rfl

/-- Forgetting changes nothing where there is no memo to forget. -/
theorem forgetMemo_of_ownMemos_nil {v : Value} (none : v.ownMemos = []) :
    v.forgetMemo = .ok v := by
  unfold forgetMemo
  split
  · rename_i entries
    exact congrArg (fun kept => Except.ok (Value.map kept))
      (erase_of_memoEntries_nil none)
  · rfl
  · split
    · rename_i fault absent
      exact if_pos (meansAbsent_of_attributeOf absent)
    · exact deleteAttribute_of_ownMemos_nil none

theorem forgetMemo_of_stored {v m : Value}
    (notMap : ∀ entries, v ≠ .map entries)
    (stored : v.readAttribute memoKey = .ok m) :
    v.forgetMemo = orDefault (v.deleteAttribute memoKey) v := by
  unfold forgetMemo
  split
  · rename_i entries
    exact absurd rfl (notMap entries)
  · cases stored
  · rw [stored]

theorem erase_insert_memo {entries : List (Value × Value)}
    (none : memoEntries entries = []) (v : Value) :
    erase (insert entries (.text memoKey) v) (.text memoKey) = entries := by
  have kept := erase_of_memoEntries_nil none
  have absent : entries.any (fun entry => entry.1.same (.text memoKey)) =
      false := by
    unfold memoEntries at none
    rw [List.map_eq_nil_iff, List.filter_eq_nil_iff] at none
    simpa using none
  have itself : (Value.text memoKey).same (.text memoKey) = true :=
    same_text_iff.mpr rfl
  unfold erase at kept
  unfold insert erase
  rw [absent, if_neg Bool.false_ne_true, List.filter_append, kept]
  simp [itself]

theorem eraseAttribute_insertAttribute_memo {attributes : List (String × Value)}
    (none : memoAttributes attributes = []) (v : Value) :
    eraseAttribute (insertAttribute attributes memoKey v) memoKey =
      attributes := by
  have kept := eraseAttribute_of_memoAttributes_nil none
  have absent : attributes.any (fun entry => entry.1 == memoKey) = false := by
    unfold memoAttributes at none
    rw [List.map_eq_nil_iff, List.filter_eq_nil_iff] at none
    simpa using none
  unfold eraseAttribute at kept
  unfold insertAttribute eraseAttribute
  rw [absent, if_neg Bool.false_ne_true, List.filter_append, kept]
  simp

/-- What takes a memo where it has none takes it again once it is forgotten. -/
theorem Writes.write_forgotten {v memo written forgotten : Value}
    (writes : Writes memoKey memo v written) (none : v.ownMemos = [])
    (forgets : written.forgetMemo = .ok forgotten) :
    forgotten.write (.text memoKey) memo = .ok written := by
  have deletes (notMap : ∀ entries, v ≠ .map entries)
      (notMap' : ∀ entries, written ≠ .map entries) :
      orDefault (written.deleteAttribute memoKey) written = .ok forgotten := by
    rw [← forgetMemo_of_stored notMap' (writes.attributeOf_eq notMap written)]
    exact forgets
  cases writes with
  | map entries =>
      cases forgets
      rw [erase_insert_memo none]
      rfl
  | record attributes =>
      cases deletes (by simp) (by simp)
      rw [eraseAttribute_insertAttribute_memo none]
      exact (record attributes).write_memo
  | annotatedMap entries attributes =>
      cases deletes (by simp) (by simp)
      rw [eraseAttribute_insertAttribute_memo none]
      exact (annotatedMap entries attributes).write_memo
  | failing attributes unfailing =>
      have deleted := deletes (by simp) (by simp)
      rw [deleteAttribute, failure?_memoKey] at deleted
      cases deleted
      rw [eraseAttribute_insertAttribute_memo none]
      exact (failing attributes unfailing).write_memo
  | extended base attributes =>
      cases deletes (by simp) (by simp)
      rw [eraseAttribute_insertAttribute_memo none]
      exact (extended base attributes).write_memo
  | classed inherited own =>
      have deleted := deletes (by simp) (by simp)
      simp only [deleteAttribute, findAttribute?_insertAttribute] at deleted
      cases deleted
      rw [eraseAttribute_insertAttribute_memo none]
      exact (classed inherited own).write_memo
  | @slotted slots attributes hasSlot =>
      cases deletes (by simp) (by simp)
      have again : storeSlot slots
          (eraseAttribute (storeSlot slots attributes memoKey memo) memoKey)
          memoKey memo = storeSlot slots attributes memoKey memo := by
        apply storeSlot_congr
        intro slot member different
        rw [findAttribute?_eraseAttribute_other different,
          findAttribute?_storeSlot, if_pos member, if_neg different]
      have taken : Writes memoKey memo _ _ := slotted
        (eraseAttribute (storeSlot slots attributes memoKey memo) memoKey)
        hasSlot
      rw [again] at taken
      exact taken.write_memo
  | bare extensible =>
      have notMap : ∀ entries, v ≠ .map entries := by
        rintro entries rfl
        cases extensible
      cases deletes notMap (by simp)
      simpa [eraseAttribute, insertAttribute] using
        (extended v (eraseAttribute [(memoKey, memo)] memoKey)).write_memo
  | part isPart =>
      rw [writeRulePart_memoKey] at isPart
      cases isPart

theorem FitsSlots.write {v key given written : Value} (fits : v.FitsSlots)
    (writes : v.write key given = .ok written) : written.FitsSlots := by
  by_cases isMap : ∃ entries, v = .map entries
  · obtain ⟨entries, rfl⟩ := isMap
    obtain ⟨_, rfl⟩ := write_map writes
    trivial
  · have notMap : ∀ entries, v ≠ .map entries := fun entries same =>
      isMap ⟨entries, same⟩
    obtain ⟨name, rfl⟩ := exists_name_of_write notMap writes
    cases writes_of_write writes with
    | slotted attributes hasSlot =>
        intro entry member
        rcases mem_storeSlot member with rfl | held
        · exact List.contains_iff_mem.mp hasSlot
        · exact fits entry held
    | bare extensible => trivial
    | part isPart =>
        unfold writeRulePart at isPart
        split at isPart <;> cases isPart <;> trivial
    | _ => trivial

theorem FitsSlots.deleteAttribute {v deleted : Value} {name : String}
    (fits : v.FitsSlots) (deletes : v.deleteAttribute name = .ok deleted) :
    deleted.FitsSlots := by
  cases v with
  | slotted slots attributes =>
      cases deletes
      exact fun entry member => fits entry (List.mem_filter.mp member).1
  | classed inherited own =>
      unfold Value.deleteAttribute at deletes
      simp only at deletes
      split at deletes <;> cases deletes
      trivial
  | failing failures attributes =>
      rw [Value.deleteAttribute] at deletes
      split at deletes <;> cases deletes
      trivial
  | _ =>
      cases deletes <;> trivial

theorem FitsSlots.forgetMemo {v forgotten : Value} (fits : v.FitsSlots)
    (forgets : v.forgetMemo = .ok forgotten) : forgotten.FitsSlots := by
  rcases forgetMemo_cases forgets with rfl | ⟨entries, rfl, rfl⟩ | deletes
  · exact fits
  · trivial
  · exact fits.deleteAttribute deletes

theorem retains_deleteAttribute {v deleted : Value} {name : String}
    (deletes : v.deleteAttribute name = .ok deleted) :
    deleted.retains = v.retains := by
  cases v with
  | classed inherited own =>
      unfold deleteAttribute at deletes
      simp only at deletes
      split at deletes <;> cases deletes
      rfl
  | failing failures attributes =>
      rw [deleteAttribute] at deletes
      split at deletes <;> cases deletes
      rfl
  | _ => cases deletes <;> rfl

theorem retains_forgetMemo {v forgotten : Value}
    (forgets : v.forgetMemo = .ok forgotten) :
    forgotten.retains = v.retains := by
  rcases forgetMemo_cases forgets with rfl | ⟨entries, rfl, rfl⟩ | deletes
  · rfl
  · rfl
  · exact retains_deleteAttribute deletes

theorem forgetMemo_proxy (entries : List (Value × Value)) :
    (Value.proxy entries).forgetMemo = .ok (.proxy entries) :=
  rfl

/-- A read-only mapping takes nothing. -/
theorem write_proxy_ne_ok (entries : List (Value × Value))
    (key given written : Value) :
    (Value.proxy entries).write key given ≠ .ok written := by
  intro writes
  obtain ⟨name, rfl⟩ := exists_name_of_write (by simp) writes
  cases writes_of_write writes with
  | bare extensible => cases extensible
  | part isPart => cases isPart

/-- Nothing but a mapping takes the place of all attributes of an object. -/
theorem givesAll_of_write {v given written : Value}
    (notMap : ∀ entries, given.content ≠ .map entries)
    (writes : v.write (.text allName) given = .ok written) :
    v.givesAll = false := by
  by_cases isMap : ∃ entries, v = .map entries
  · obtain ⟨entries, rfl⟩ := isMap
    rfl
  · obtain ⟨unrefused, takes⟩ := writeAttribute_of_write
      (fun entries same => isMap ⟨entries, same⟩) writes
    cases v with
    | record attributes => cases unrefused
    | locked | identity => cases takes
    | classed | failing =>
        cases holds : given.content with
        | map entries => exact absurd holds (notMap entries)
        | _ => simp [nameRefusal?, allName, holds, hasOwnMap] at unrefused
    | _ => rfl

/-- A value has another one under a key: as an entry if it is a mapping, and
otherwise as an attribute, whatever it is read from. -/
def Has (v key given : Value) : Prop :=
  if v.isMapping then ∀ default, v.get key default = .ok given
  else ∃ name, key = .text name ∧
    ∀ holder, attributeOf holder v name = .ok given

section

variable {v key given written : Value}

/-- A value that retains what is written has it. -/
theorem has_of_write (itself : key.same key = true)
    (retained : v.retains = true)
    (writes : v.write key given = .ok written) : written.Has key given := by
  by_cases isMap : ∃ entries, v = .map entries
  · obtain ⟨entries, rfl⟩ := isMap
    obtain ⟨hashable, rfl⟩ := write_map writes
    intro default
    change (do
      let found ← lookUp (insert entries key given) key
      return found.getD default) = Except.ok given
    unfold lookUp
    rw [hashable, find?_insert itself]
    rfl
  · have notMap : ∀ entries, v ≠ .map entries := fun entries same =>
      isMap ⟨entries, same⟩
    obtain ⟨name, rfl⟩ := exists_name_of_write notMap writes
    have taken := writes_of_write writes
    have notMapping : written.isMapping = false := by
      rw [taken.isMapping_eq, Bool.eq_false_iff]
      exact fun isMapping => isMap (eq_map_of_retains retained isMapping)
    unfold Has
    rw [notMapping, if_neg Bool.false_ne_true]
    exact ⟨name, rfl, taken.attributeOf_eq notMap⟩

/-- What an object has is what it gives. -/
theorem Has.read (has : v.Has key given) (number : Nat) (default : Value) :
    (Value.object number v).read key default = .ok given := by
  unfold Has at has
  split at has
  · rename_i isMapping
    exact (if_pos isMapping).trans (has default)
  · rename_i notMapping
    obtain ⟨name, rfl, stored⟩ := has
    exact read_of_stored (by simpa using notMapping) number default stored

/-- Altering a value under other keys leaves what it has. -/
theorem Has.of_agreesBeside {after : Value} {keys : List Value}
    (has : v.Has key given) (agrees : AgreesBeside keys v after)
    (apart : ∀ k ∈ keys, k.Apart key)
    (notAll : key = .text allName → v.givesAll = false) :
    after.Has key given := by
  unfold Has at has ⊢
  rw [agrees.kind]
  split at has
  · rename_i isMapping
    rw [if_pos isMapping]
    exact fun default => (agrees.entries key default apart).trans (has default)
  · rename_i notMapping
    obtain ⟨name, rfl, stored⟩ := has
    rw [if_neg notMapping]
    have named : name = allName → v.givesAll = false := fun isAll =>
      notAll (congrArg Value.text isAll)
    exact ⟨name, rfl, fun holder =>
      (agrees.attributes holder name named apart).trans (stored holder)⟩

end

end Value

end RoleGuard
