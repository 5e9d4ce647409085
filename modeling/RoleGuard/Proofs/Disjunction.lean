import RoleGuard.Proofs.Indifference

/-!
# Disjunctions as scans of their leaves

The rules in a disjunction may be disjunctions again.  However they are grouped,
evaluating it scans its leaves, the rules in it that are no disjunctions, from
left to right up to the first that is true or fails.  This is shown for leaves
that are asked in any way at all, so that the leaves asked can be recorded.
-/

namespace RoleGuard

namespace Rule

mutual

/-- The rules in a rule that are no disjunctions, from left to right. -/
def leaves : Rule → List Rule
  | .anyOf rules => leavesOfAll rules
  | rule => [rule]

def leavesOfAll : List Rule → List Rule
  | [] => []
  | rule :: rest => rule.leaves ++ leavesOfAll rest

end

section

variable {m : Type → Type} [Monad m]

mutual

/-- The answer of a rule whose leaves are asked in a given way. -/
def answerBy (ask : Rule → m Value) : Rule → m Value
  | .anyOf rules => return .bool (← anyBy ask rules)
  | leaf => ask leaf

def anyBy (ask : Rule → m Value) : List Rule → m Bool
  | [] => return false
  | rule :: rest => do
      if (← answerBy ask rule).truthy then return true
      else anyBy ask rest

end

/-- Asks leaves from left to right, up to the first that is true. -/
def scan (ask : Rule → m Value) : List Rule → m Bool
  | [] => return false
  | leaf :: rest => do
      if (← ask leaf).truthy then return true else scan ask rest

theorem scan_singleton (ask : Rule → m Value) (leaf : Rule) :
    scan ask [leaf] = (do return (← ask leaf).truthy) := by
  rw [scan]
  apply bind_congr
  intro answer
  cases answer.truthy <;> rfl

variable [LawfulMonad m]

theorem scan_append (ask : Rule → m Value) (first second : List Rule) :
    scan ask (first ++ second) = (do
      if ← scan ask first then return true else scan ask second) := by
  induction first with
  | nil => simp [scan]
  | cons leaf first ih =>
      rw [List.cons_append, scan, scan, bind_assoc, ih]
      apply bind_congr
      intro answer
      cases answer.truthy <;> simp

mutual

theorem truthy_answerBy (ask : Rule → m Value) (rule : Rule) :
    (do return (← answerBy ask rule).truthy) = scan ask rule.leaves := by
  cases rule with
  | anyOf rules =>
      rw [answerBy, leaves, ← anyBy_eq_scan ask rules, bind_assoc]
      simp [Value.truthy, Value.content]
  | _ => exact (scan_singleton ask _).symm

/-- Grouping does not matter: the leaves are scanned. -/
theorem anyBy_eq_scan (ask : Rule → m Value) (rules : List Rule) :
    anyBy ask rules = scan ask (leavesOfAll rules) := by
  cases rules with
  | nil => rfl
  | cons rule rules =>
      rw [leavesOfAll, scan_append, ← truthy_answerBy ask rule,
        ← anyBy_eq_scan ask rules, anyBy, bind_assoc]
      simp

end

end

mutual

/-- Rules are evaluated by evaluating their leaves. -/
theorem evaluate_eq_answerBy (identity : Value) (rule : Rule) :
    rule.evaluate identity = answerBy (fun leaf => leaf.evaluate identity)
      rule := by
  cases rule with
  | anyOf rules => rw [evaluate, answerBy, evaluateAny_eq_anyBy]
  | _ => rfl

theorem evaluateAny_eq_anyBy (identity : Value) (rules : List Rule) :
    evaluateAny rules identity =
      anyBy (fun leaf => leaf.evaluate identity) rules := by
  cases rules with
  | nil => rfl
  | cons rule rules =>
      rw [evaluateAny, anyBy, evaluate_eq_answerBy, evaluateAny_eq_anyBy]

end

/-- How a rule ends for an identity. -/
def said (rule : Rule) (identity : Value) : Except Fault Value :=
  (runFrom (rule.evaluate identity) []).1

/-- What a rule notes about an identity. -/
def noted (rule : Rule) (identity : Value) : Journal :=
  (runFrom (rule.evaluate identity) []).2

theorem runFrom_evaluate (rule : Rule) (identity : Value) (journal : Journal) :
    runFrom (rule.evaluate identity) journal =
      (rule.said identity, journal ++ rule.noted identity) := by
  obtain ⟨ending, events, ended⟩ := rule.agree_evaluate (.refl identity)
  unfold said noted
  rw [(ended journal).1, (ended []).1, List.nil_append]

/-- A leaf that is passed over: its answer is not true. -/
def Passed (answer : Rule → Except Fault Value) (leaf : Rule) : Prop :=
  ∃ v, answer leaf = .ok v ∧ v.truthy = false

/-- How leaves decide, and the ones that are asked for it: those up to the first
that is true or fails, and all of them if there is none. -/
inductive Decides (answer : Rule → Except Fault Value) :
    List Rule → List Rule → Except Fault Bool → Prop where
  | held {before after : List Rule} {leaf : Rule} {v : Value} :
      (∀ earlier ∈ before, Passed answer earlier) →
      answer leaf = .ok v → v.truthy = true →
      Decides answer (before ++ leaf :: after) (before ++ [leaf]) (.ok true)
  | failed {before after : List Rule} {leaf : Rule} {fault : Fault} :
      (∀ earlier ∈ before, Passed answer earlier) →
      answer leaf = .error fault →
      Decides answer (before ++ leaf :: after) (before ++ [leaf])
        (.error fault)
  | exhausted {leaves : List Rule} :
      (∀ leaf ∈ leaves, Passed answer leaf) →
      Decides answer leaves leaves (.ok false)

section

variable {answer : Rule → Except Fault Value}

theorem Decides.cons {leaf : Rule} {leaves asked : List Rule}
    {ending : Except Fault Bool} (passed : Passed answer leaf)
    (rest : Decides answer leaves asked ending) :
    Decides answer (leaf :: leaves) (leaf :: asked) ending := by
  cases rest with
  | held before isOk holds =>
      exact .held (List.forall_mem_cons.mpr ⟨passed, before⟩) isOk holds
  | failed before isError =>
      exact .failed (List.forall_mem_cons.mpr ⟨passed, before⟩) isError
  | exhausted all =>
      exact .exhausted (List.forall_mem_cons.mpr ⟨passed, all⟩)

section

variable {σ : Type} {ask : Rule → ExceptT Fault (StateM σ) Value}
  {tell : σ → Rule → σ}

end

end

/-- Asks a leaf and records that it is asked. -/
def record (identity : Value) (leaf : Rule) :
    ExceptT Fault (StateM (List Rule × Journal)) Value :=
  ExceptT.mk fun (asked, journal) =>
    let (ending, after) := runFrom (leaf.evaluate identity) journal
    (ending, (asked ++ [leaf], after))

section

variable {rules : List Rule} {identity : Value}

end

end Rule

end RoleGuard
