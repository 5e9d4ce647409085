import RoleGuard.Endpoint
import RoleGuard.Proofs.DefaultPolicy
import RoleGuard.Proofs.Noninterference
import RoleGuard.Proofs.ReadingBack

/-!
# What requests can do to an endpoint

An endpoint answers queries about requests in any order.  Its guard stands first
each time, the stages configured for it follow, and of a request only the memo
is dropped.  `Endpoint.Steadfast` adds that a request cannot say itself who it
is from: the guard decides by the outcome of the policy's own resolver.
-/

namespace RoleGuard

namespace World

/-- A request has its memo where it can be dropped: it is in the store, or it is
no object and has none. -/
def Holds (world : World) : Value → Prop
  | .object number _ => number < world.objects.length
  | v => v.ownMemos = []

/-- A world in which requests have lost their memos and nothing else has
changed. -/
structure Forgets (world : World) (requests : List Value) (after : World) :
    Prop where
  /-- Only the store changes, and no object is added. -/
  store : ∃ objects, after = { world with objects } ∧
    objects.length = world.objects.length
  /-- Every other object is as it was. -/
  others : ∀ number last, (∀ carried, .object number carried ∉ requests) →
    after.held (.object number last) = world.held (.object number last)
  /-- Under any other key than that of the memo, everything is as it was. -/
  beside : ∀ v, Value.AgreesBeside [.text memoKey] (world.held v) (after.held v)
  /-- Memos that cannot be written stay. -/
  fixed : ∀ v, (after.held v).fixedMemos = (world.held v).fixedMemos
  /-- What has no memo of its own gets none. -/
  stays : ∀ v, (world.held v).ownMemos = [] → (after.held v).ownMemos = []
  /-- The requests have lost theirs. -/
  dropped : ∀ request ∈ requests, world.Holds request →
    (after.held request).ownMemos = []

/-- The memos that an object gives are those in what it holds. -/
theorem memos_look (world : World) (v : Value) :
    (world.look v).memos = (world.held v).memos := by
  cases v with
  | object number last => exact List.append_nil _
  | _ => rfl

namespace Forgets

variable {world between after : World} {requests more : List Value}

theorem refl (world : World) : world.Forgets [] world where
  store := ⟨world.objects, rfl, rfl⟩
  others _ _ _ := rfl
  beside _ := .refl _ _
  fixed _ := rfl
  stays _ := id
  dropped _ member := nomatch member

theorem holds (forgets : world.Forgets requests after) {request : Value}
    (holds : world.Holds request) : after.Holds request := by
  obtain ⟨objects, rfl, sameLength⟩ := forgets.store
  cases request with
  | object number last =>
      change number < objects.length
      rw [sameLength]
      exact holds
  | _ => exact holds

theorem trans (first : world.Forgets requests between)
    (second : between.Forgets more after) :
    world.Forgets (requests ++ more) after where
  store := by
    obtain ⟨objects, rfl, sameLength⟩ := first.store
    obtain ⟨objectsThen, rfl, sameLengthThen⟩ := second.store
    exact ⟨objectsThen, rfl, sameLengthThen.trans sameLength⟩
  others number last absent := by
    rw [second.others number last fun carried member =>
      absent carried (List.mem_append_right _ member)]
    exact first.others number last fun carried member =>
      absent carried (List.mem_append_left _ member)
  beside v := (first.beside v).trans (second.beside v)
  fixed v := (second.fixed v).trans (first.fixed v)
  stays v none := second.stays v (first.stays v none)
  dropped request member holds := by
    rcases List.mem_append.mp member with earlier | later
    · exact second.stays request (first.dropped request earlier holds)
    · exact second.dropped request later (first.holds holds)

/-- Whatever can be read then under the key of the memo is recalled only if it
cannot be written. -/
theorem unremembered (forgets : world.Forgets requests after)
    {request source : Value} {operation : Option String}
    (member : request ∈ requests) (holds : world.Holds request)
    (fixed : ∀ memo ∈ (world.held request).fixedMemos,
      memo.recall source operation = none) {memo : Value}
    (reads : (after.look request).read (.text memoKey) .null = .ok memo) :
    memo.recall source operation = none := by
  cases recalls : memo.recall source operation with
  | none => rfl
  | some who =>
      obtain ⟨known, rfl, _⟩ := Identity.eq_memo_of_recall recalls
      have found := Value.mem_memos_of_read reads
      rw [memos_look, Value.memos, forgets.dropped request member holds,
        List.append_nil, forgets.fixed] at found
      exact absurd recalls (by simp [fixed _ found])

/-- Forgetting what a request remembers is all that dropping its memo does. -/
theorem of_forgetMemo {request forgotten : Value}
    (forgetsMemo : (world.held request).forgetMemo = .ok forgotten) :
    world.Forgets [request] (world.replace request forgotten) := by
  obtain ⟨_, forgetsMemo', fixed, own⟩ := (world.held request).forgetMemo_memos
  cases forgetsMemo.symm.trans forgetsMemo'
  have held (v : Value) := world.held_replace request forgotten v
  refine ⟨?_, ?_, ?_, ?_, ?_, ?_⟩
  · cases request with
    | object number last => exact ⟨_, rfl, by simp⟩
    | _ => exact ⟨world.objects, rfl, rfl⟩
  · intro number last absent
    cases request with
    | object other carried =>
        have different : other ≠ number := by
          rintro rfl
          exact absent carried List.mem_cons_self
        simp only [replace, World.held, List.getD_eq_getElem?_getD,
          List.getElem?_set_ne different]
    | _ => rfl
  · intro v
    rcases held v with same | ⟨isForgotten, sameHeld⟩
    · rw [same]
      exact .refl _ _
    · rw [sameHeld, isForgotten]
      exact (Value.alters_of_forgetMemo forgetsMemo).agreesBeside
  · intro v
    rcases held v with same | ⟨isForgotten, sameHeld⟩
    · rw [same]
    · rw [sameHeld, isForgotten, fixed]
  · intro v none
    rcases held v with same | ⟨isForgotten, _⟩
    · rw [same, none]
    · rw [isForgotten, own]
  · intro other member holds
    rw [List.mem_singleton.mp member] at holds ⊢
    cases request with
    | object number last => rw [held_replace_stored holds, own]
    | _ => exact holds

end Forgets

end World

/-- The requests whose memos are dropped when a query is answered. -/
def Query.cleared : Query → List Value
  | .context request => [request]
  | .stages _ => []

/-- The reply to a query: the request itself as its context, or the guard before
all stages configured. -/
def Configured.reply (configured : Configured) : Query → Reply
  | .context request => .context request
  | .stages _ => .stages (.guard :: configured.labels.map .configured)

namespace Endpoint

/-- Answering a query drops the memo of the request whose context is asked for,
and leaves the endpoint as it is. -/
theorem runFrom_answer (endpoint : Endpoint) (query : Query) (world : World) :
    ∃ after, runFrom ((answer query).run endpoint) world =
        (.ok (endpoint.configured.reply query, endpoint), after) ∧
      world.Forgets query.cleared after := by
  cases query with
  | stages request => exact ⟨world, rfl, .refl world⟩
  | context request =>
      obtain ⟨forgotten, forgets, _⟩ := (world.held request).forgetMemo_memos
      refine ⟨world.replace request forgotten, ?_, .of_forgetMemo forgets⟩
      have ran : runFrom (Context.forget request) world =
          (.ok (), world.replace request forgotten) := by
        rw [Context.forget, runFrom_bind_ok (runFrom_get world), forgets]
        rfl
      have asked : runFrom (endpoint.context request) world =
          (.ok request, world.replace request forgotten) :=
        runFrom_bind_ok ran
      have lifted : runFrom (((do endpoint.context request) :
          StateT Endpoint Act Value).run endpoint) world =
          (.ok (request, endpoint), world.replace request forgotten) :=
        runFrom_bind_ok asked
      rw [answer, StateT.run_bind]
      exact runFrom_bind_ok lifted

/-- However many queries are answered, the endpoint stays as it is. -/
theorem runFrom_answers (endpoint : Endpoint) (queries : List Query)
    (world : World) :
    ∃ after, runFrom ((queries.mapM answer).run endpoint) world =
        (.ok (queries.map endpoint.configured.reply, endpoint), after) ∧
      world.Forgets (queries.flatMap Query.cleared) after := by
  induction queries generalizing world with
  | nil => exact ⟨world, rfl, .refl world⟩
  | cons query queries ih =>
      obtain ⟨between, answered, first⟩ := endpoint.runFrom_answer query world
      obtain ⟨after, rest, second⟩ := ih between
      refine ⟨after, ?_, first.trans second⟩
      rw [List.mapM_cons, StateT.run_bind, runFrom_bind_ok answered,
        StateT.run_bind, runFrom_bind_ok rest]
      rfl

end Endpoint

/-- A policy that has been made, of whatever source. -/
def Policy.Made (policy : Policy) : Prop :=
  ∃ source before made, runFrom (make source) before = (.ok policy, made)

theorem Policy.made_of_ofSettings {settings : Settings} {policy : Policy}
    {world : World}
    (makes : (runFrom (ofSettings settings) world).1 = .ok policy) :
    policy.Made := by
  obtain ⟨after, makes⟩ : ∃ after,
      runFrom (ofSettings settings) world = (.ok policy, after) :=
    ⟨_, Prod.ext makes rfl⟩
  rw [ofSettings] at makes
  obtain ⟨_, _, _, makes⟩ := runFrom_bind_eq_ok makes
  obtain ⟨_, _, _, makes⟩ := runFrom_bind_eq_ok makes
  obtain ⟨_, before, _, makes⟩ := runFrom_bind_eq_ok makes
  exact ⟨_, before, after, makes⟩

theorem Site.made_of_describe {site : Site} {world : World} {policy : Policy}
    (describes : (runFrom site.describe world).1 = .ok policy) :
    policy.Made := by
  rw [runFrom_describe] at describes
  split at describes
  · exact Policy.made_of_ofSettings describes
  · cases describes

/-- The default policy that a site gives has been made, and is its current one
from then on. -/
theorem Site.Reflects.made {site after : Site} {world known : World}
    {current : NumberedPolicy} (reflects : site.Reflects world)
    (gives : run defaultPolicy site world = (.ok (current, after), known)) :
    current.policy.Made ∧ after.current = some current := by
  cases isCurrent : site.current with
  | some current' =>
      rw [run_defaultPolicy_made site world isCurrent] at gives
      cases gives
      exact ⟨made_of_describe (reflects.describes _ isCurrent), isCurrent⟩
  | none =>
      rw [run_defaultPolicy_absent site world isCurrent] at gives
      split at gives
      · rename_i policy known described
        cases gives
        exact ⟨made_of_describe (congrArg Prod.fst described), rfl⟩
      · cases gives

namespace Endpoint

/-- How an endpoint serves requests for which stages have been configured. -/
structure Steadfast (endpoint : Endpoint) (configured : Configured) : Prop where
  /-- Its guard enforces its policy and asks the policy's own resolver. -/
  guard : endpoint.guard = endpoint.policy.guard endpoint.policy.getUser
  /-- It answers all queries: a request is its own context, the guard stands
  before the stages configured, the requests are forgotten and nothing else
  changes. -/
  answers : ∀ (queries : List Query) (world : World), ∃ after,
    runFrom ((queries.mapM answer).run endpoint) world =
        (.ok (queries.map configured.reply, endpoint), after) ∧
      world.Forgets (queries.flatMap Query.cleared) after
  /-- Once its context has been asked for, a request has no memo that the guard
  recalls, unless in a part that cannot be written. -/
  forgotten : ∀ (queries : List Query) (world : World) (request : Value)
      (operation : Option String),
    .context request ∈ queries → world.Holds request →
    (∀ memo ∈ (world.held request).fixedMemos,
      memo.recall endpoint.policy.getUser operation = none) →
    ∀ memo, ((runFrom ((queries.mapM answer).run endpoint) world).2.look
        request).read (.text memoKey) .null = .ok memo →
      memo.recall endpoint.policy.getUser operation = none
  /-- Where the policy's resolver obtains the same outcome for two calls of a
  field, the guard admits both or stops both in the same way. -/
  decides : ∀ (call other : FieldCall) (world worldToo called calledToo : World)
      (ending endingToo : Except Stop Value),
    other.type = call.type → other.field = call.field →
    endpoint.guard.Learns call world ending called →
    endpoint.guard.Learns other worldToo endingToo calledToo →
    SameOutcome called calledToo ending endingToo →
    endpoint.guard.EvenHanded call other called calledToo →
    ∃ gate after afterToo, endpoint.guard.Mediates call world gate after ∧
      endpoint.guard.Mediates other worldToo gate afterToo
  /-- If what the guard is set up with refers to no object, no rule looks at the
  requests. -/
  evenHanded : ∀ r : Rule, endpoint.policy.fallbackRule = .rule r → r.Closed →
    (∀ object, endpoint.policy.debug.replaceObjects object =
      endpoint.policy.debug) →
    (∀ object, endpoint.policy.fallbackError.replaceObjects object =
      endpoint.policy.fallbackError) →
    ∀ (call other : FieldCall) (called calledToo : World),
      other.type = call.type → other.field = call.field →
      endpoint.guard.EvenHanded call other called calledToo

theorem steadfast_enforcing {policy : Policy} (made : policy.Made)
    (configured : Configured) :
    (enforcing policy configured).Steadfast configured where
  guard := rfl
  answers := (enforcing policy configured).runFrom_answers
  forgotten queries world request operation asked holds fixed memo reads := by
    obtain ⟨after, answered, forgets⟩ :=
      (enforcing policy configured).runFrom_answers queries world
    rw [answered] at reads
    have cleared : request ∈ queries.flatMap Query.cleared :=
      List.mem_flatMap.mpr ⟨_, asked, List.mem_singleton_self request⟩
    exact forgets.unremembered cleared holds fixed reads
  decides call other world worldToo called calledToo ending endingToo _
      sameField learns learnsToo same evenHanded := by
    obtain ⟨source, before, after, makes⟩ := made
    have sound := Policy.sound_make makes
    exact sound.decides_alike sound.callable sameField learns learnsToo same
      evenHanded
  evenHanded r fallback closed debug message call other called calledToo
      sameType sameField := by
    obtain ⟨source, before, after, makes⟩ := made
    exact (Policy.sound_make makes).evenHanded_of_closed fallback closed debug
      message sameType sameField

/-- Whether its policy is given, its class's or the default one, an endpoint has
its guard stand first, whatever is asked of it, and no request redirects it. -/
theorem steadfast_make {given ofClass : Option Policy} {configured : Configured}
    {site after : Site} {world opened : World} {endpoint : Endpoint}
    (opens : Site.run (make given ofClass configured) site world =
      (.ok (endpoint, after), opened))
    (made : ∀ policy, given.or ofClass = some policy → policy.Made)
    (reflects : site.Reflects world) :
    endpoint.Steadfast configured ∧
      (∀ policy, given.or ofClass = some policy → endpoint.policy = policy) ∧
      (given.or ofClass = none →
        ∃ serial, after.current = some ⟨serial, endpoint.policy⟩) := by
  cases given with
  | some policy =>
      cases opens
      exact ⟨steadfast_enforcing (made policy rfl) configured,
        fun _ same => Option.some.inj same, nofun⟩
  | none =>
      cases ofClass with
      | some policy =>
          cases opens
          exact ⟨steadfast_enforcing (made policy rfl) configured,
            fun _ same => Option.some.inj same, nofun⟩
      | none =>
          rw [make, Site.run_bind, choosePolicy, Site.run_bind] at opens
          cases gives : Site.run Site.defaultPolicy site world with
          | mk ending known =>
              rw [gives] at opens
              cases ending with
              | error stop => cases opens
              | ok given =>
                  obtain ⟨current, between⟩ := given
                  cases opens
                  obtain ⟨made, isCurrent⟩ := reflects.made gives
                  exact ⟨steadfast_enforcing made configured, nofun,
                    fun _ => ⟨current.serial, isCurrent⟩⟩

/-- A policy without a table, so that its fallback rule decides. -/
def untabledSource (r : Rule) : PolicySource where
  roles := .texts ["ADMIN"]
  schema := .map []
  getUser := .provided .alwaysAdmin
  fallbackRule := .rule r

def untabled (r : Rule) : Policy where
  permissions := ⟨[]⟩
  roles := .sequence .tuple [.text "ADMIN"]
  schema := .map []
  getUser := .provided .alwaysAdmin
  contextKey := .text "user"
  fallbackRule := .rule r
  fallbackError := .text Denial.defaultMessage
  debug := .bool false

theorem made_untabled (r : Rule) : (untabled r).Made :=
  ⟨untabledSource r, World.initial .bare false, _, rfl⟩

def admin : Value := .identity (.text "ADMIN") .null

/-- Requests without an entry, one that names somebody else and holds what is no
memo, one that cannot be written and one with a memo that is not its own. -/
def requests : World :=
  { World.initial .bare false with
    objects := [
      .map [],
      .map [],
      .map [(.text "user", .text "Eve"), (.text memoKey, .text "stale")],
      .locked .wrongType [("user", .identity (.text "GUEST") .null)],
      .proxy [(.text memoKey, .memo (.provided .alwaysAdmin) none admin)]] }

/-- A call of a field with one of the requests. -/
def postsCall (request : Nat) (operation : Option String) : FieldCall where
  type := "Query"
  field := "posts"
  context := .object request .null
  operation := operation
  root := .null
  arguments := []

theorem sameOutcome_admin (called calledToo : World) :
    SameOutcome called calledToo (.ok admin) (.ok admin) :=
  .refl admin

/-- All of them but the last have no memo, and each takes one or refuses it. -/
theorem learns_requests (r : Rule) (configured : Configured) {request : Nat}
    (unknown : request < 4) (operation : Option String) :
    (enforcing (untabled r) configured).guard.Learns
      (postsCall request operation) requests (.ok admin) requests := by
  obtain rfl | rfl | rfl | rfl :
      request = 0 ∨ request = 1 ∨ request = 2 ∨ request = 3 := by
    omega
  · refine ⟨⟨.null, rfl, rfl⟩, .atOnce rfl rfl, fun memo fault refused => ?_,
      trivial⟩
    cases refused
  · refine ⟨⟨.null, rfl, rfl⟩, .atOnce rfl rfl, fun memo fault refused => ?_,
      trivial⟩
    cases refused
  · refine ⟨⟨.text "stale", rfl, rfl⟩, .atOnce rfl rfl,
      fun memo fault refused => ?_, trivial⟩
    cases refused
  · refine ⟨⟨.null, rfl, rfl⟩, .atOnce rfl rfl, fun memo fault refused => ?_,
      trivial⟩
    cases refused
    rfl

theorem steadfast_untabled :
    ∃ endpoint after opened,
      Site.run (make (some (untabled (.role (.text "ADMIN")))) none
          (.managed ["log"])) Site.initial requests =
        (.ok (endpoint, after), opened) ∧
      (untabled (.role (.text "ADMIN"))).Made ∧
      Site.initial.Reflects requests ∧
      endpoint.Steadfast (.managed ["log"]) ∧
      (∃ called calledToo,
        endpoint.guard.Learns (postsCall 2 none) requests (.ok admin) called ∧
        endpoint.guard.Learns (postsCall 3 (some "posts")) requests (.ok admin)
          calledToo ∧
        endpoint.guard.EvenHanded (postsCall 2 none)
          (postsCall 3 (some "posts")) called calledToo) ∧
      ∃ gate after afterToo,
        endpoint.guard.Mediates (postsCall 2 none) requests gate after ∧
        endpoint.guard.Mediates (postsCall 3 (some "posts")) requests gate
          afterToo := by
  have made := made_untabled (.role (.text "ADMIN"))
  have reflects : Site.initial.Reflects requests := .of_absent rfl
  have opens : Site.run (make (some (untabled (.role (.text "ADMIN")))) none
      (.managed ["log"])) Site.initial requests =
      (.ok (enforcing (untabled (.role (.text "ADMIN"))) (.managed ["log"]),
        Site.initial), requests) := rfl
  have steadfast := steadfast_make opens
    (fun policy given => by cases given; exact made) reflects
  let guard := (enforcing (untabled (.role (.text "ADMIN")))
    (.managed ["log"])).guard
  have learns : guard.Learns (postsCall 2 none) requests (.ok admin)
      requests := learns_requests _ _ (by decide) none
  have learnsToo : guard.Learns (postsCall 3 (some "posts")) requests
      (.ok admin) requests := learns_requests _ _ (by decide) (some "posts")
  have evenHanded : guard.EvenHanded (postsCall 2 none)
      (postsCall 3 (some "posts")) requests requests :=
    steadfast.1.evenHanded _ rfl (fun _ => rfl) (fun _ => rfl) (fun _ => rfl)
      _ _ _ _ rfl rfl
  exact ⟨_, _, _, opens, made, reflects, steadfast.1,
    ⟨requests, requests, learns, learnsToo, evenHanded⟩,
    steadfast.1.decides _ _ _ _ _ _ _ _ rfl rfl learns learnsToo
      (sameOutcome_admin _ _) evenHanded⟩

/-- A rule that answers with a request, which is true once the request has been
given a memo. -/
def lookingRule : Rule := .answer (.object 0 .null)

def lookingEndpoint : Endpoint := ofPolicy (untabled lookingRule) []

theorem guarding_lookingEndpoint :
    requests.GuardingTree lookingEndpoint.guard.tree :=
  fun _ member => nomatch member

/-- A rule that looks at one of two requests tells them apart, though both have
the same outcome; and a memo that is not a request's own is not dropped. -/
theorem decides_apart_looking :
    lookingEndpoint.policy.Made ∧
      (∃ called calledToo,
        lookingEndpoint.guard.Learns (postsCall 1 none) requests (.ok admin)
          called ∧
        lookingEndpoint.guard.Learns (postsCall 0 none) requests (.ok admin)
          calledToo ∧
        SameOutcome called calledToo (.ok admin) (.ok admin)) ∧
      (∃ after, lookingEndpoint.guard.Mediates (postsCall 1 none) requests
        (.error (lookingEndpoint.guard.denial requests)) after) ∧
      (∃ after, lookingEndpoint.guard.Mediates (postsCall 0 none) requests
        (.ok ()) after) ∧
      ∃ memo after,
        runFrom ((answer (.context (.object 4 .null))).run lookingEndpoint)
            requests =
          (.ok (.context (.object 4 .null), lookingEndpoint), after) ∧
        (after.look (.object 4 .null)).read (.text memoKey) .null = .ok memo ∧
        memo.recall lookingEndpoint.policy.getUser none = some admin := by
  have learns (request : Nat) (unknown : request < 4) :
      lookingEndpoint.guard.Learns (postsCall request none) requests (.ok admin)
        requests := learns_requests _ _ unknown none
  have guarded (request : Nat) :
      Guard.isIntrospection (postsCall request none).field = false := by
    simp [postsCall, Guard.isIntrospection]
  have ruled (request : Nat) : runFrom (lookingEndpoint.guard.ruleFor
      (postsCall request none)) requests =
      (.ok (.rule lookingRule), requests) := rfl
  have gate (request : Nat) {known asked : World} {said : Bool}
      (identified : runFrom (lookingEndpoint.guard.identityFor
        (postsCall request none)) requests = (.ok admin, known))
      (told : runFrom (verdict (.rule lookingRule) admin) known =
        (.ok said, asked)) :
      ∃ after, lookingEndpoint.guard.Mediates (postsCall request none) requests
        (if said then .ok ()
          else .error (lookingEndpoint.guard.denial requests)) after := by
    refine Guard.mediates_ending _ (guarded request) guarding_lookingEndpoint ?_
    rw [Guard.admission, runFrom_bind_ok (ruled request),
      runFrom_bind_ok identified, Guard.authorize_of_verdict _ told]
    cases said <;> rfl
  refine ⟨made_untabled lookingRule,
    ⟨requests, requests, learns 1 (by decide), learns 0 (by decide),
      sameOutcome_admin _ _⟩,
    gate 1 rfl rfl, gate 0 rfl rfl, _, _, rfl, rfl, rfl⟩

end Endpoint

end RoleGuard
