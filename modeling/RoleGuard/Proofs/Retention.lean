import RoleGuard.Proofs.Altering

/-!
# Contexts that give a memo back

A context may take a memo and yet never give it back: a mapping that is written
by attribute is still read by key.  What takes a memo once takes one again, and
whether it gives memos back is a matter of its kind.  Under any other key a
context gives what it gave before.
-/

namespace RoleGuard

namespace Value

/-- No object refuses the name of the memo as such. -/
theorem nameRefusal?_memoKey (target v : Value) :
    nameRefusal? target memoKey v = none :=
  nameRefusal?_other (by decide) (by decide) (by decide) target v

/-- No part of a rule has the name of the memo. -/
theorem writeRulePart_memoKey (v memo : Value) :
    writeRulePart v memoKey memo = none := by
  unfold writeRulePart
  split
  · rename_i isRole
    exact absurd isRole (by decide)
  · rename_i isRules
    exact absurd isRules (by decide)
  · rename_i isRules
    exact absurd isRules (by decide)
  · rename_i isValue
    exact absurd isValue (by decide)
  · rfl

def Accepts (v : Value) : Prop :=
  ∀ memo, ∃ written, v.write (.text memoKey) memo = .ok written

section

variable {v memo written : Value}

theorem Writes.write_memo (writes : Writes memoKey memo v written) :
    v.write (.text memoKey) memo = .ok written :=
  writes.write (nameRefusal?_memoKey v memo)

/-- What has taken a memo takes any other one. -/
theorem Writes.accepts (writes : Writes memoKey memo v written) :
    written.Accepts := by
  intro next
  cases writes with
  | slotted attributes hasSlot => exact ⟨_, (slotted _ hasSlot).write_memo⟩
  | failing _ unfailing => exact ⟨_, (failing _ unfailing).write_memo⟩
  | bare extensible => exact ⟨_, (extended _ _).write_memo⟩
  | part isPart =>
      rw [writeRulePart_memoKey] at isPart
      cases isPart
  | _ => exact ⟨_, rfl⟩

end

/-- A view of values that sees neither what a method belongs to nor the entries
of a mapping. -/
structure Blind (view : Value → κ) : Prop where
  method : ∀ holder other name,
    view (.method holder name) = view (.method other name)
  bound : ∀ holder other function,
    view (.bound holder function) = view (.bound other function)
  map : ∀ entries others, view (.map entries) = view (.map others)

theorem Blind.unbound {κ : Type} {view : Value → κ} (blind : Blind view)
    (holder other : Value) : Unbound view holder other where
  method name := blind.method holder other name
  bound function := blind.bound holder other function

/-- Under another key a context gives what it gave before it took a memo. -/
theorem Writes.map_read {κ : Type} {view : Value → κ}
    {v memo written key : Value}
    (writes : Writes memoKey memo v written) (blind : Blind view)
    (other : OtherKey key) (fits : v.FitsSlots) (number : Nat)
    (default : Value) :
    ((Value.object number written).read key default).map view =
      ((Value.object number v).read key default).map view :=
  (alters_of_write (same_text_iff.mpr rfl) fits writes.write_memo).map_read
    (blind.unbound _ _) other (fun _ => blind.map) default

end Value

end RoleGuard
