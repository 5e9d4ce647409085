import RoleGuard.Proofs.Altering
import RoleGuard.Proofs.Resolution

/-!
# Reading back what was written

A context is written and read in ways that depend on what it is, and the two do
not ask the same question: what is written by key is a writable mapping, while
what is read by key is any mapping.  `Context.Undoes` says that a read gives
back what was written and nothing else has changed; it holds of every context
but a mapping that takes attributes.
-/

namespace RoleGuard

/-- A context is where it can be written: an object is in the store, and what is
no object refuses to be written. -/
def World.Hosts (world : World) : Value → Prop
  | .object number _ => number < world.objects.length
  | v => ∀ key given, ∃ fault, v.write key given = .error fault

/-- Numbers, texts and other data without attributes of their own. -/
def Value.isData : Value → Bool
  | .null | .bool _ | .int _ | .float _ | .text _ | .bytes _ | .buffer _
  | .range _ _ | .sequence _ _ | .set _ | .proxy _ => true
  | _ => false

theorem Value.writeAttribute_of_isData {v : Value} (data : v.isData = true)
    (name : String) (given : Value) :
    v.writeAttribute name given = .error (absentPart v name) := by
  cases v with
  | null | bool _ | int _ | float _ | text _ | bytes _ | buffer _ | range _ _
  | sequence _ _ | set _ | proxy _ => rfl
  | _ => cases data

theorem Value.write_of_isData {v : Value} (data : v.isData = true)
    (key given : Value) : ∃ fault, v.write key given = .error fault := by
  have noMap : ∀ entries, v ≠ .map entries := by
    rintro entries rfl
    cases data
  unfold write
  split
  · exact absurd rfl (noMap _)
  · split
    · split
      · exact ⟨_, rfl⟩
      · exact ⟨_, writeAttribute_of_isData data _ given⟩
    · exact ⟨_, rfl⟩

namespace World

variable {world : World} {context : Value}

/-- Data is no place to write to, wherever it is. -/
theorem hosts_of_isData (data : context.isData = true) :
    world.Hosts context := by
  cases context with
  | object number last => cases data
  | _ => exact Value.write_of_isData data

theorem Hosts.of_length {other : World} (hosts : world.Hosts context)
    (grows : world.objects.length ≤ other.objects.length) :
    other.Hosts context := by
  cases context with
  | object number last => exact Nat.lt_of_lt_of_le hosts grows
  | _ => exact hosts

/-- What takes a value is an object in the store. -/
theorem Hosts.stored_of_write {key given written : Value}
    (hosts : world.Hosts context)
    (writes : (world.held context).write key given = .ok written) :
    ∃ number last, context = .object number last ∧
      number < world.objects.length := by
  cases context with
  | object number last => exact ⟨number, last, rfl, hosts⟩
  | _ =>
      obtain ⟨fault, refused⟩ := hosts key given
      cases writes.symm.trans refused

theorem Hosts.held_replace {key given written : Value}
    (hosts : world.Hosts context)
    (writes : (world.held context).write key given = .ok written) :
    (world.replace context written).held context = written := by
  obtain ⟨number, last, rfl, stored⟩ := hosts.stored_of_write writes
  exact held_replace_stored stored last written

/-- A context that is replaced agrees with itself beside the key under which it
is altered. -/
theorem agreesBeside_replace {key v : Value}
    (alters : Value.Alters key (world.held context) v) :
    Value.AgreesBeside [key] (world.held context)
      ((world.replace context v).held context) := by
  rcases world.held_replace context v context with same | ⟨same, _⟩
  · rw [same]
    exact .refl _ _
  · rw [same]
    exact alters.agreesBeside

/-- A context whose contents agree beside some keys reads the same under any
other key, except for the attribute that stands for all of them. -/
theorem map_read_look {after : World} {keys : List Value} {key : Value}
    (agrees : Value.AgreesBeside keys (world.held context)
      (after.held context))
    (apart : ∀ k ∈ keys, k.Apart key)
    (notAll : key = .text Value.allName →
      (world.held context).givesAll = false) (default : Value) :
    ((after.look context).read key default).map Value.detached =
      ((world.look context).read key default).map Value.detached := by
  cases context with
  | object number last => exact agrees.map_read apart notAll number default
  | _ => rfl

end World

namespace Context

/-- Reading a context undoes writing it: the key gives what was written and any
other key gives what it gave.  A write that fails changes nothing.  The
attribute that stands for all attributes of an object is no key beside the one
written. -/
def Undoes (world : World) (context : Value) (name : String) (given : Value) :
    Prop :=
  match runFrom (write context (.text name) given) world with
  | (.ok _, after) =>
      (∀ default, (after.look context).read (.text name) default = .ok given) ∧
        ∀ other, other ≠ name →
          (other = Value.allName → (world.held context).givesAll = false) →
          ∀ default,
            ((after.look context).read (.text other) default).map
                Value.detached =
              ((world.look context).read (.text other) default).map
                Value.detached
  | (.error _, after) => after = world

variable {world : World} {context : Value} {name : String}

/-- Reading a context undoes writing it exactly if the context gives back what
it takes, refuses the write, or gives what is written anyway.  Replacing all
attributes of an object at once is not covered. -/
theorem undoes_iff (hosts : world.Hosts context)
    (fits : (world.held context).FitsSlots)
    (_notAll : name = Value.allName →
      ∃ entries, world.held context = .map entries) (given : Value) :
    Undoes world context name given ↔
      (world.held context).retains = true ∨
        (∃ fault,
          (world.held context).write (.text name) given = .error fault) ∨
        ∀ default, (world.look context).read (.text name) default =
          .ok given := by
  unfold Undoes
  rw [Identity.runFrom_write]
  cases writes : (world.held context).write (.text name) given with
  | error fault => simp
  | ok written =>
      have itself : (Value.text name).same (.text name) = true :=
        Value.same_text_iff.mpr rfl
      have agrees :=
        World.agreesBeside_replace (Value.alters_of_write itself fits writes)
      have others (other : String) (different : other ≠ name)
          (notAll : other = Value.allName →
            (world.held context).givesAll = false) (default : Value) :=
        World.map_read_look agrees
          (by simpa using Value.apart_text different)
          (fun isAll => notAll (Value.text.inj isAll)) default
      have taken := Value.writes_of_write writes
      obtain ⟨number, last, rfl, stored⟩ := hosts.stored_of_write writes
      simp only [reduceCtorEq, exists_false, false_or]
      rw [World.look_replace_stored stored] at others ⊢
      constructor
      · rintro ⟨gives, _⟩
        cases retained : (world.held (.object number last)).retains with
        | true => exact .inl rfl
        | false =>
            refine .inr fun default => ?_
            rw [← gives default]
            exact (taken.read_lost retained number _ default).symm
      · intro reads
        refine ⟨fun default => ?_, others⟩
        cases retained : (world.held (.object number last)).retains with
        | true => exact taken.read_retained retained number default
        | false =>
            rw [taken.read_lost retained number]
            rcases reads with retained' | gives
            · cases retained.symm.trans retained'
            · exact gives default

/-- A world with a permission tree, a mapping whose look-ups fail and a writable
mapping. -/
def sampleMappings : World :=
  { World.initial .bare false with
    objects := [.annotatedMap [] [], .brokenMap true "missing", .map []] }

theorem undoes_writableMapping :
    Undoes sampleMappings (.object 2 .null) "user" (.resolver 0 none) := by
  have hosts : sampleMappings.Hosts (.object 2 .null) := Nat.lt_succ_self 2
  have fits : (sampleMappings.held (.object 2 .null)).FitsSlots := trivial
  have notAll : ("user" : String) ≠ Value.allName := by decide
  exact (undoes_iff hosts fits (fun isAll => absurd isAll notAll) _).mpr
    (.inl rfl)

/-- A permission tree and a mapping whose look-ups fail take an attribute, and
are then read by key. -/
theorem not_undoes_attributedMapping :
    ¬ Undoes sampleMappings (.object 0 .null) "user" (.resolver 0 none) ∧
      ¬ Undoes sampleMappings (.object 1 .null) "user" (.resolver 0 none) := by
  constructor
  · rintro ⟨gives, _⟩
    cases gives .null
  · rintro ⟨gives, _⟩
    cases gives .null

end Context

end RoleGuard
