import RoleGuard.Proofs.Noting
import RoleGuard.Proofs.Retention

/-!
# Worlds that differ by a memo

Whether a context has been given a memo yet depends on when it is looked at.
`World.Memoized` relates the two sights: what holds the same in worlds so
related is what can be relied on at any time.
-/

namespace RoleGuard

theorem Value.Writes.isPending_eq {name : String} {v given written : Value}
    (writes : Writes name given v written) :
    written.isPending = v.isPending := by
  cases writes with
  | part isPart =>
      unfold writeRulePart at isPart
      split at isPart <;> cases isPart <;> rfl
  | _ => rfl

theorem World.isPending_look (world : World) (v : Value) :
    (world.look v).isPending = (world.held v).isPending := by
  cases v <;> rfl

/-- Another world has the same objects, but for a memo that a context may have
been given. -/
inductive World.Memoized (world : World) (context : Value) (other : World) :
    Prop where
  | bare : other.objects = world.objects → Memoized world context other
  | taken {memo written : Value} :
      (world.held context).write (.text memoKey) memo = .ok written →
      other.objects = (world.replace context written).objects →
      Memoized world context other

namespace World.Memoized

variable {world other later : World} {context : Value}

theorem refl (world : World) (context : Value) :
    world.Memoized context world :=
  .bare rfl

theorem of_objects (memoized : world.Memoized context other)
    (same : later.objects = other.objects) : world.Memoized context later := by
  cases memoized with
  | bare bare => exact .bare (same.trans bare)
  | taken writes taken => exact .taken writes (same.trans taken)

theorem of_remembers {called : World} {memo : Value}
    (same : called.objects = world.objects)
    (remembers : called.Remembers context memo later) :
    world.Memoized context later := by
  cases remembers with
  | refused _ _ => exact .bare same
  | @taken written writes =>
      rw [World.held_of_objects same] at writes
      refine .taken writes ?_
      unfold World.replace
      split
      · simp only [same]
      · exact same

/-- What a value holds is the same, unless it is the context that has been given
a memo. -/
theorem held (memoized : world.Memoized context other) (v : Value) :
    other.held v = world.held v ∨
      world.held v = world.held context ∧
        ∃ memo, Value.Writes memoKey memo (world.held v) (other.held v) := by
  cases memoized with
  | bare bare => exact .inl (World.held_of_objects bare v)
  | @taken memo written writes taken =>
      rw [World.held_of_objects taken]
      rcases world.held_replace context written v with same | ⟨isWritten, same⟩
      · exact .inl same
      · rw [isWritten, same]
        exact .inr ⟨rfl, memo, Value.writes_of_write writes⟩

theorem isPending_look (memoized : world.Memoized context other) (v : Value) :
    (other.look v).isPending = (world.look v).isPending := by
  rw [World.isPending_look, World.isPending_look]
  rcases memoized.held v with same | ⟨_, memo, writes⟩
  · rw [same]
  · exact writes.isPending_eq

section

variable {κ : Type} {view : Value → κ}

/-- Under another key than that of the memo, values give what they gave. -/
theorem map_read (memoized : world.Memoized context other)
    (blind : Value.Blind view) {key : Value} (otherKey : key.OtherKey)
    (fits : (world.held context).FitsSlots) (v default : Value) :
    ((other.look v).read key default).map view =
      ((world.look v).read key default).map view := by
  cases v with
  | object number last =>
      change ((Value.object number (other.held (.object number last))).read key
          default).map view =
        ((Value.object number (world.held (.object number last))).read key
          default).map view
      rcases memoized.held (.object number last) with same | ⟨same, memo, writes⟩
      · rw [same]
      · rw [← same] at fits
        exact writes.map_read blind otherKey fits number default
  | _ => rfl

end

theorem blind_usableRole? : Value.Blind usableRole? where
  method _ _ _ := rfl
  bound _ _ _ := rfl
  map _ _ := rfl

theorem readRole_eq_read {identity : Value} (isObject : identity ≠ .null) :
    readRole identity = identity.read (.text "role") .null := by
  unfold readRole
  split
  · exact absurd rfl isObject
  · rfl

theorem sameRole_of_map_readRole {identity other : Value}
    (same : (readRole other).map usableRole? =
      (readRole identity).map usableRole?) : identity.SameRole other := by
  constructor
  · unfold Value.role?
    cases first : readRole other <;> cases second : readRole identity <;>
      simp_all [Except.map]
  · unfold Value.roleEvents
    cases first : readRole other <;> cases second : readRole identity <;>
      simp_all [Except.map]

/-- A memo does not change the role that a context has as an identity. -/
theorem sameRole (memoized : world.Memoized context other)
    (fits : (world.held context).FitsSlots) (identity : Value) :
    (world.look identity).SameRole (other.look identity) := by
  cases identity with
  | object number last =>
      apply sameRole_of_map_readRole
      have notMemo : ("role" : String) ≠ memoKey := by decide
      rw [readRole_eq_read (by simp [World.look]),
        readRole_eq_read (by simp [World.look])]
      exact memoized.map_read blind_usableRole? (Value.otherKey_text notMemo)
        fits _ .null
  | _ => exact .refl _

end World.Memoized

end RoleGuard
