import RoleGuard.Proofs.Clearing
import RoleGuard.Proofs.History
import RoleGuard.Proofs.ReadingBack

/-!
# How a policy prepares a context

A policy clears a context and then publishes its resolver in it.  If it returns,
the context gives the resolver and has no memo of its own; if it fails, at most
the memo is gone.  Either way nothing else has changed, and preparing the
context again changes nothing.  `Policy.Prepares` says both, and that it returns
exactly if the cleared context takes the resolver, as a dictionary does.
-/

namespace RoleGuard

/-- A key that equals itself and is the key of the memo or apart from it, as
every text is. -/
structure Value.Definite (key : Value) : Prop where
  itself : key.same key = true
  apart : key = .text memoKey ∨ key.OtherKey

theorem Value.content_ne_map_of_isCallable {v : Value}
    (callable : v.isCallable = true) (entries : List (Value × Value)) :
    v.content ≠ .map entries := by
  intro isMap
  unfold isCallable at callable
  rw [isMap] at callable
  cases callable

theorem Value.definite_text (name : String) : Definite (.text name) where
  itself := same_text_iff.mpr rfl
  apart := by
    by_cases isMemo : name = memoKey
    · exact .inl (congrArg _ isMemo)
    · exact .inr (otherKey_text isMemo)

namespace World

theorem replace_replace (world : World) (context first second : Value) :
    (world.replace context first).replace context second =
      world.replace context second := by
  cases context with
  | object number last =>
      exact congrArg (fun objects => { world with objects := objects })
        (List.set_set _)
  | _ => rfl

end World

namespace Policy

/-- What a policy makes of a context by publishing its resolver in it. -/
def publishIn (policy : Policy) (v : Value) : Except Fault Value :=
  match Value.checkHashable policy.contextKey with
  | .ok _ => v.write policy.contextKey policy.getUser
  | .error fault => .error fault

theorem runFrom_publishIn (policy : Policy) (target : Value) (world : World) :
    runFrom (policy.publish target) world =
      match policy.publishIn (world.held target) with
      | .ok written => (.ok target, world.replace target written)
      | .error fault => (.error (.fault fault), world) := by
  unfold publishIn
  cases hashable : Value.checkHashable policy.contextKey with
  | error fault =>
      unfold publish contextEntries
      rw [hashable]
      rfl
  | ok _ =>
      rw [publish_eq hashable, runFrom_bind, Identity.runFrom_write]
      simp only
      cases (world.held target).write policy.contextKey policy.getUser <;> rfl

variable {policy : Policy} {context : Value} {start : World}

theorem write_of_publishIn {v written : Value}
    (publishes : policy.publishIn v = .ok written) :
    v.write policy.contextKey policy.getUser = .ok written := by
  unfold publishIn at publishes
  split at publishes
  · exact publishes
  · cases publishes

theorem publishIn_of_write {v other written : Value}
    (publishes : policy.publishIn v = .ok written)
    (writes : other.write policy.contextKey policy.getUser = .ok written) :
    policy.publishIn other = .ok written := by
  unfold publishIn at publishes ⊢
  split at publishes
  · exact writes
  · cases publishes

/-- A policy writes a context in the store once it is cleared, or leaves it
cleared. -/
theorem runFrom_applyContext_stored (policy : Policy) {number : Nat}
    {last forgotten : Value} (stored : number < start.objects.length)
    (forgets : (start.held (.object number last)).forgetMemo = .ok forgotten) :
    runFrom (policy.applyContext (.object number last)) start =
      match policy.publishIn forgotten with
      | .ok written =>
          (.ok (.object number last),
            start.replace (.object number last) written)
      | .error fault =>
          (.error (.fault fault),
            start.replace (.object number last) forgotten) := by
  have cleared : runFrom (Context.forget (.object number last)) start =
      (.ok (), start.replace (.object number last) forgotten) := by
    rw [Context.forget, runFrom_bind_ok (runFrom_get start), forgets]
    rfl
  rw [policy.applyContext_prepared rfl, runFrom_bind_ok cleared,
    runFrom_publishIn, World.held_replace_stored stored]
  cases policy.publishIn forgotten with
  | ok written => simp only [World.replace_replace]
  | error fault => rfl

/-- What is no object is no place to publish a resolver in. -/
theorem runFrom_applyContext_plain (policy : Policy)
    (hosts : start.Hosts context) (isContext : context ≠ .null)
    (plain : ∀ number last, context ≠ .object number last) :
    ∃ fault, runFrom (policy.applyContext context) start =
      (.error (.fault fault), start) := by
  have prepares : prepared start context = (context, start) := by
    cases context with
    | null => exact absurd rfl isContext
    | _ => rfl
  obtain ⟨forgotten, clears, _⟩ := Context.runFrom_forget context start
  have unchanged : start.replace context forgotten = start ∧
      ∃ fault, policy.publishIn (start.held context) = .error fault := by
    cases context with
    | object number last => exact absurd rfl (plain number last)
    | _ =>
        refine ⟨rfl, ?_⟩
        unfold publishIn
        split
        · exact hosts policy.contextKey policy.getUser
        · exact ⟨_, rfl⟩
  obtain ⟨same, fault, refused⟩ := unchanged
  rw [same] at clears
  refine ⟨fault, ?_⟩
  rw [policy.applyContext_prepared prepares, runFrom_bind_ok clears,
    runFrom_publishIn, refused]

/-- Preparing a context in the store alters it under the key of the memo and the
key of the policy. -/
theorem beside_applyContext {number : Nat} {last : Value}
    (itself : policy.contextKey.same policy.contextKey = true)
    (stored : number < start.objects.length)
    (fits : (start.held (.object number last)).FitsSlots) :
    Value.AgreesBeside [.text memoKey, policy.contextKey]
      (start.held (.object number last))
      ((runFrom (policy.applyContext (.object number last)) start).2.held
        (.object number last)) := by
  obtain ⟨forgotten, forgets, _⟩ :=
    (start.held (.object number last)).forgetMemo_memos
  have cleared := (Value.alters_of_forgetMemo forgets).agreesBeside.mono
    (List.cons_subset_cons _ (List.nil_subset [policy.contextKey]))
  rw [policy.runFrom_applyContext_stored stored forgets]
  cases publishes : policy.publishIn forgotten with
  | error fault =>
      simp only [World.held_replace_stored stored]
      exact cleared
  | ok written =>
      simp only [World.held_replace_stored stored]
      have writes := write_of_publishIn publishes
      have alters :=
        Value.alters_of_write itself (fits.forgetMemo forgets) writes
      exact cleared.trans
        (alters.agreesBeside.mono (List.subset_cons_self _ _))

/-- A context in which a policy has published its resolver: the resolver is what
it gives under the key of the policy, no memo of its own is left, and beside
these nothing has changed.  The policy would change nothing by preparing it
again, and another policy that publishes elsewhere leaves the resolver in its
place. -/
structure Publishes (policy : Policy) (context : Value) (start ready : World) :
    Prop where
  published : ∀ default,
    (ready.look context).read policy.contextKey default = .ok policy.getUser
  forgotten : policy.contextKey.OtherKey → (ready.held context).ownMemos = []
  beside : Value.AgreesBeside [.text memoKey, policy.contextKey]
    (start.held context) (ready.held context)
  only : ∃ v, ready = start.replace context v
  again : runFrom (policy.applyContext context) ready = (.ok context, ready)
  keeps : ∀ second : Policy, second.contextKey.Definite →
    second.contextKey.Apart policy.contextKey → policy.contextKey.OtherKey →
    ∀ default,
      ((runFrom (second.applyContext context) ready).2.look context).read
        policy.contextKey default = .ok policy.getUser

/-- A context in which a policy cannot publish its resolver: at most the memo is
gone, and the policy fails in the same way if it prepares the context again. -/
structure Declines (policy : Policy) (context : Value) (start after : World)
    (fault : Fault) : Prop where
  beside : Value.AgreesBeside [.text memoKey] (start.held context)
    (after.held context)
  only : ∃ v, after = start.replace context v
  again : runFrom (policy.applyContext context) after =
    (.error (.fault fault), after)

/-- How preparing a context ends: it returns the context itself or fails. -/
inductive Ends (policy : Policy) (context : Value) (start : World) :
    Except Stop Value × World → Prop where
  | published {ready : World} : policy.Publishes context start ready →
      Ends policy context start (.ok context, ready)
  | declined {after : World} {fault : Fault} :
      policy.Declines context start after fault →
      Ends policy context start (.error (.fault fault), after)

/-- A context that, once cleared, takes the resolver of a policy. -/
def Takes (policy : Policy) (context : Value) (start : World) : Prop :=
  Value.checkHashable policy.contextKey = .ok () ∧
    (runFrom (do
      Context.forget context
      Context.write context policy.contextKey policy.getUser) start).1 = .ok ()

/-- How a policy prepares a context. -/
structure Prepares (policy : Policy) (context : Value) (start : World)
    (ended : Except Stop Value × World) : Prop where
  ends : policy.Ends context start ended
  /-- It returns exactly if the context takes the resolver. -/
  returns : (∃ ready, ended = (.ok context, ready)) ↔
    policy.Takes context start
  /-- A dictionary takes it under every key that a dictionary can have. -/
  byKey : ∀ entries, start.held context = .map entries →
    Value.checkHashable policy.contextKey = .ok () →
    policy.Takes context start
  /-- An object with free attributes takes it under every name, but for those
  that stand for its type and for its attributes as a whole. -/
  byName : ∀ attributes name, start.held context = .record attributes →
    policy.contextKey = .text name →
    name ≠ "__class__" → name ≠ Value.allName → policy.Takes context start

/-- What a policy has published it publishes again by changing nothing. -/
theorem publishIn_again {forgotten written cleared : Value}
    (definite : policy.contextKey.Definite) (own : forgotten.ownMemos = [])
    (publishes : policy.publishIn forgotten = .ok written)
    (clears : written.forgetMemo = .ok cleared) :
    policy.publishIn cleared = .ok written := by
  have writes := write_of_publishIn publishes
  refine publishIn_of_write publishes ?_
  rcases definite.apart with isMemo | other
  · rw [isMemo] at writes ⊢
    exact (Value.writes_of_write writes).write_forgotten own clears
  · have none : written.ownMemos = [] := by
      rw [List.eq_nil_iff_forall_not_mem]
      intro m member
      rcases (Value.write_memos writes).own m member with held | ⟨_, isMemo⟩
      · rw [own] at held
        cases held
      · exact isMemo other
    rw [Value.forgetMemo_of_ownMemos_nil none] at clears
    cases clears
    exact Value.write_again definite.itself writes

/-- A context in the store that gives back what it takes. -/
theorem publishes_stored {number : Nat} {last forgotten written : Value}
    (callable : policy.getUser.isCallable = true)
    (definite : policy.contextKey.Definite)
    (stored : number < start.objects.length)
    (fits : (start.held (.object number last)).FitsSlots)
    (forgets : (start.held (.object number last)).forgetMemo = .ok forgotten)
    (own : forgotten.ownMemos = []) (retained : forgotten.retains = true)
    (publishes : policy.publishIn forgotten = .ok written) :
    policy.Publishes (.object number last) start
      (start.replace (.object number last) written) := by
  have writes := write_of_publishIn publishes
  have has := Value.has_of_write definite.itself retained writes
  have storedStill : number <
      (start.replace (.object number last) written).objects.length := by
    rw [World.length_replace]
    exact stored
  have holds := World.held_replace_stored stored last written
  have beside := policy.beside_applyContext definite.itself stored fits
  rw [policy.runFrom_applyContext_stored stored forgets, publishes] at beside
  constructor
  case published =>
    rw [World.look_replace_stored stored]
    exact has.read number
  case forgotten =>
    intro other
    rw [holds, List.eq_nil_iff_forall_not_mem]
    intro m member
    rcases (Value.write_memos writes).own m member with held | ⟨_, isMemo⟩
    · rw [own] at held
      cases held
    · exact isMemo other
  case beside => exact beside
  case only => exact ⟨written, rfl⟩
  case again =>
    obtain ⟨cleared, clears, _⟩ := written.forgetMemo_memos
    have clearsHeld := holds.symm ▸ clears
    rw [policy.runFrom_applyContext_stored storedStill clearsHeld,
      publishIn_again definite own publishes clears]
    simp only [World.replace_replace]
  case keeps =>
    intro second secondDefinite apart other default
    have fitsStill : ((start.replace (.object number last) written).held
        (.object number last)).FitsSlots := by
      rw [holds]
      exact (fits.forgetMemo forgets).write writes
    have hasHeld : ((start.replace (.object number last) written).held
        (.object number last)).Has policy.contextKey policy.getUser := by
      rw [holds]
      exact has
    have notAll : policy.contextKey = .text Value.allName →
        ((start.replace (.object number last) written).held
          (.object number last)).givesAll = false := by
      intro isAll
      have alters := Value.alters_of_write definite.itself
        (fits.forgetMemo forgets) writes
      rw [holds, alters.givesAll_eq]
      rw [isAll] at writes
      exact Value.givesAll_of_write
        (Value.content_ne_map_of_isCallable callable) writes
    have hasLater := hasHeld.of_agreesBeside
      (second.beside_applyContext secondDefinite.itself storedStill fitsStill)
      (by simpa using ⟨other, apart⟩)
      notAll
    exact hasLater.read number default

theorem runFrom_applyContext_null :
    runFrom (policy.applyContext .null) start =
      runFrom (policy.applyContext (.object start.objects.length (.map [])))
        (start.share (.map [])).2 := by
  have made : runFrom (modifyGet fun world => world.share (.map []) : Act Value)
      start = (.ok (.object start.objects.length (.map [])),
        (start.share (.map [])).2) := rfl
  unfold applyContext
  dsimp only
  rw [runFrom_bind_ok made, pure_bind]

/-- A policy publishes its resolver in a context in the store or leaves the
context cleared. -/
theorem ends_stored {number : Nat} {last : Value}
    (callable : policy.getUser.isCallable = true)
    (definite : policy.contextKey.Definite)
    (stored : number < start.objects.length)
    (fits : (start.held (.object number last)).FitsSlots)
    (kind : (start.held (.object number last)).retains = true ∨
      ∃ entries, start.held (.object number last) = .proxy entries) :
    policy.Ends (.object number last) start
      (runFrom (policy.applyContext (.object number last)) start) := by
  obtain ⟨forgotten, forgets, _, own⟩ :=
    (start.held (.object number last)).forgetMemo_memos
  have ended := policy.runFrom_applyContext_stored stored forgets
  cases publishes : policy.publishIn forgotten with
  | ok written =>
      have retained : forgotten.retains = true := by
        rcases kind with retained | ⟨entries, isProxy⟩
        · exact (Value.retains_forgetMemo forgets).trans retained
        · rw [isProxy, Value.forgetMemo_proxy] at forgets
          cases forgets
          exact absurd (write_of_publishIn publishes)
            (Value.write_proxy_ne_ok entries _ _ _)
      rw [ended, publishes]
      exact .published
        (publishes_stored callable definite stored fits forgets own retained
          publishes)
  | error fault =>
      have storedStill : number <
          (start.replace (.object number last) forgotten).objects.length := by
        rw [World.length_replace]
        exact stored
      have holds := World.held_replace_stored stored last forgotten
      have clears : ((start.replace (.object number last) forgotten).held
          (.object number last)).forgetMemo = .ok forgotten := by
        rw [holds]
        exact Value.forgetMemo_of_ownMemos_nil own
      rw [ended, publishes]
      refine .declined ⟨?_, ⟨forgotten, rfl⟩, ?_⟩
      · rw [holds]
        exact (Value.alters_of_forgetMemo forgets).agreesBeside
      · rw [policy.runFrom_applyContext_stored storedStill clears, publishes]
        simp only [World.replace_replace]

/-- What a context takes is what it holds, once cleared, can be written. -/
theorem takes_iff {forgotten : Value}
    (clears : runFrom (Context.forget context) start =
      (.ok (), start.replace context forgotten)) :
    policy.Takes context start ↔
      Value.checkHashable policy.contextKey = .ok () ∧
        ∃ written, ((start.replace context forgotten).held context).write
          policy.contextKey policy.getUser = .ok written := by
  unfold Takes
  rw [runFrom_bind_ok clears, Identity.runFrom_write]
  cases ((start.replace context forgotten).held context).write
    policy.contextKey policy.getUser <;> simp

/-- Preparing a context that is there returns exactly if the context takes the
resolver. -/
theorem returns_applyContext_iff (isContext : prepared start context =
      (context, start)) :
    (∃ ready, runFrom (policy.applyContext context) start =
        (.ok context, ready)) ↔ policy.Takes context start := by
  obtain ⟨forgotten, clears, _⟩ := Context.runFrom_forget context start
  rw [takes_iff clears, policy.applyContext_prepared isContext,
    runFrom_bind_ok clears, runFrom_publishIn]
  unfold publishIn
  cases Value.checkHashable policy.contextKey with
  | error fault => simp
  | ok _ =>
      cases ((start.replace context forgotten).held context).write
        policy.contextKey policy.getUser <;> simp

/-- What holds its own attributes or entries is an object in the store. -/
theorem held_replace_of_hosts {forgotten key given written : Value}
    (hosts : start.Hosts context)
    (writes : (start.held context).write key given = .ok written) :
    (start.replace context forgotten).held context = forgotten := by
  obtain ⟨number, last, rfl, stored⟩ := hosts.stored_of_write writes
  exact World.held_replace_stored stored last forgotten

theorem takes_of_map {entries : List (Value × Value)}
    (hosts : start.Hosts context) (isMap : start.held context = .map entries)
    (hashable : Value.checkHashable policy.contextKey = .ok ()) :
    policy.Takes context start := by
  have writes (held : List (Value × Value)) :
      (Value.map held).write policy.contextKey policy.getUser =
        .ok (.map (Value.insert held policy.contextKey policy.getUser)) := by
    rw [Value.write, hashable]
    rfl
  have clears : runFrom (Context.forget context) start = (.ok (),
      start.replace context (.map (Value.erase entries (.text memoKey)))) := by
    rw [Context.forget, runFrom_bind_ok (runFrom_get start), isMap]
    rfl
  rw [takes_iff clears, held_replace_of_hosts hosts (isMap ▸ writes entries)]
  exact ⟨hashable, _, writes _⟩

theorem write_record (attributes : List (String × Value)) {name : String}
    (notClass : name ≠ "__class__") (notAll : name ≠ Value.allName)
    (v : Value) : (Value.record attributes).write (.text name) v =
      .ok (.record (Value.insertAttribute attributes name v)) := by
  have allowed : Value.nameRefusal? (.record attributes) name v = none := by
    unfold Value.nameRefusal?
    split <;> simp_all [Value.allName, Value.hasOwnMap, Value.isExtensible]
  simp only [Value.write, allowed, Value.writeAttribute]

/-- Forgetting leaves an object with free attributes one. -/
theorem forgetMemo_record (attributes : List (String × Value)) :
    ∃ left, (Value.record attributes).forgetMemo = .ok (.record left) := by
  obtain ⟨forgotten, forgets, _⟩ := (Value.record attributes).forgetMemo_memos
  unfold Value.forgetMemo at forgets ⊢
  dsimp only at forgets ⊢
  split at forgets
  · split at forgets
    · rename_i absent
      exact ⟨_, if_pos absent⟩
    · cases forgets
  · exact ⟨_, rfl⟩

theorem takes_of_record {attributes : List (String × Value)} {name : String}
    (hosts : start.Hosts context)
    (isRecord : start.held context = .record attributes)
    (isName : policy.contextKey = .text name)
    (notClass : name ≠ "__class__") (notAll : name ≠ Value.allName) :
    policy.Takes context start := by
  obtain ⟨left, forgets⟩ := forgetMemo_record attributes
  have clears : runFrom (Context.forget context) start =
      (.ok (), start.replace context (.record left)) := by
    rw [Context.forget, runFrom_bind_ok (runFrom_get start), isRecord, forgets]
    rfl
  have writes := write_record attributes notClass notAll policy.getUser
  rw [takes_iff clears, held_replace_of_hosts hosts (isRecord ▸ writes), isName]
  exact ⟨rfl, _, write_record left notClass notAll policy.getUser⟩

/-- A policy prepares a context that is there. -/
theorem prepares_present (callable : policy.getUser.isCallable = true)
    (definite : policy.contextKey.Definite)
    (isContext : prepared start context = (context, start))
    (hosts : start.Hosts context) (fits : (start.held context).FitsSlots)
    (kind : (start.held context).retains = true ∨
      ∃ entries, start.held context = .proxy entries) :
    policy.Prepares context start
      (runFrom (policy.applyContext context) start) := by
  refine ⟨?_, returns_applyContext_iff isContext, ?_, ?_⟩
  · cases context with
    | null => cases isContext
    | object number last =>
        exact ends_stored callable definite hosts fits kind
    | _ =>
        obtain ⟨fault, ended⟩ :=
          policy.runFrom_applyContext_plain hosts (by simp) (by simp)
        rw [ended]
        exact .declined ⟨.refl _ _, ⟨.null, rfl⟩, ended⟩
  · exact fun entries => takes_of_map hosts
  · exact fun attributes name => takes_of_record hosts

/-- Preparing a context publishes exactly one entry and fails cleanly.  Without
a context a new mapping is prepared. -/
theorem prepares_applyContext (callable : policy.getUser.isCallable = true)
    (definite : policy.contextKey.Definite)
    (hosts : start.Hosts context) (fits : (start.held context).FitsSlots)
    (kind : (start.held context).retains = true ∨
      ∃ entries, start.held context = .proxy entries) :
    policy.Prepares (prepared start context).1 (prepared start context).2
      (runFrom (policy.applyContext context) start) := by
  cases context with
  | null =>
      have stored : (start.share (.map [])).2.Hosts
          (.object start.objects.length (.map [])) := by
        simp [World.Hosts, World.share]
      have holds : (start.share (.map [])).2.held
          (.object start.objects.length (.map [])) = .map [] := by
        simp [World.share, World.held, List.getD_eq_getElem?_getD]
      rw [runFrom_applyContext_null]
      change policy.Prepares (.object start.objects.length (.map []))
        (start.share (.map [])).2 _
      apply prepares_present callable definite rfl stored
      · rw [holds]
        trivial
      · rw [holds]
        exact .inl rfl
  | _ => exact prepares_present callable definite rfl hosts fits kind

/-- A policy whose resolver is the first one registered. -/
def resolverPolicy : Policy where
  permissions := .ofEntries []
  roles := .sequence .tuple []
  schema := .map []
  getUser := .resolver 0 none
  contextKey := .text "user"
  fallbackRule := .rule .allow
  fallbackError := .text Denial.defaultMessage
  debug := .bool false

/-- A world with a mapping that has a memo and an object that refuses writes. -/
def memoedStart : World :=
  { World.initial .bare false with
    objects := [.map [(.text "request", .int 1),
        (.text memoKey, .memo (.resolver 0 none) none .null)],
      .locked .wrongType [(memoKey, .memo (.resolver 0 none) none .null)]] }

/-- The mapping, which has the resolver and no memo afterwards, the object, and a
number, which takes nothing. -/
theorem prepares_memoedStart :
    resolverPolicy.Prepares (.object 0 .null) memoedStart
        (runFrom (resolverPolicy.applyContext (.object 0 .null)) memoedStart) ∧
      (∃ ready, runFrom (resolverPolicy.applyContext (.object 0 .null))
          memoedStart = (.ok (.object 0 .null), ready) ∧
        ready.held (.object 0 .null) = .map [(.text "request", .int 1),
          (.text "user", .resolver 0 none)]) ∧
      resolverPolicy.Prepares (.object 1 .null) memoedStart
        (runFrom (resolverPolicy.applyContext (.object 1 .null))
          memoedStart) ∧
      resolverPolicy.Prepares (.int 7) memoedStart
        (runFrom (resolverPolicy.applyContext (.int 7)) memoedStart) := by
  have definite : resolverPolicy.contextKey.Definite :=
    Value.definite_text "user"
  have mapHosted : memoedStart.Hosts (.object 0 .null) := Nat.zero_lt_two
  have lockedHosted : memoedStart.Hosts (.object 1 .null) := Nat.one_lt_two
  have numberHosted : memoedStart.Hosts (.int 7) := World.hosts_of_isData rfl
  exact ⟨prepares_applyContext rfl definite mapHosted trivial (.inl rfl),
    ⟨_, rfl, rfl⟩,
    prepares_applyContext rfl definite lockedHosted trivial (.inl rfl),
    prepares_applyContext rfl definite numberHosted trivial (.inl rfl)⟩

end Policy

end RoleGuard
