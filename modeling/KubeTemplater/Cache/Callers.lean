/-
Callers of the cache.

Any number of callers are inside `Get`, between its lookup, its list and its store,
while others call the methods that have one critical section.  `Get` is followed with
the two results it has in Go.
-/

import KubeTemplater.Cache.Interleaving
import Mathlib.Logic.Function.Basic

namespace KubeTemplater.Cache

open Library Library.Program

structure GetResult where
  policy : Option KubeTemplatePolicy
  err : Option GoError
  deriving DecidableEq, Repr

def GetResult.failed (err : GoError) : GetResult :=
  { policy := none, err := some err }

def refreshListedResult (sourceNamespace : String) :
    Except GoError (List KubeTemplatePolicy) → Program cacheApi GetResult
  | .error err => pure (.failed (err.wrap "failed to list KubeTemplatePolicies: "))
  | .ok policies =>
      if 1 < policies.length then pure (.failed (multipleError sourceNamespace))
      else
        match policies with
        | [] => do
            set sourceNamespace none
            pure (.failed (notFoundError sourceNamespace))
        | policy :: _ => do
            set sourceNamespace (some policy)
            pure { policy := some policy, err := none }

def refreshResult (sourceNamespace operatorNamespace : String) : Program cacheApi GetResult :=
  .call (CacheCall.listPolicies operatorNamespace sourceNamespace)
    (refreshListedResult sourceNamespace)

def hitResult (sourceNamespace : String) (policy : Option KubeTemplatePolicy) : GetResult :=
  if policy = none then .failed (notFoundError sourceNamespace)
  else { policy := policy, err := none }

def getFoundResult (sourceNamespace operatorNamespace : String) :
    Option CacheEntry → Program cacheApi GetResult
  | none => refreshResult sourceNamespace operatorNamespace
  | some entry => .call CacheCall.now (fun now =>
      if now < entry.expiresAt then pure (hitResult sourceNamespace entry.policy)
      else refreshResult sourceNamespace operatorNamespace)

def getResult (sourceNamespace operatorNamespace : String) : Program cacheApi GetResult :=
  .call (CacheCall.lookup sourceNamespace) (getFoundResult sourceNamespace operatorNamespace)

def GetResult.of : Except GoError KubeTemplatePolicy → GetResult
  | .error err => .failed err
  | .ok policy => { policy := some policy, err := none }

private theorem refreshListedResult_eq (source : String)
    (listed : Except GoError (List KubeTemplatePolicy)) :
    refreshListedResult source listed =
      refreshListed source listed >>= fun result => pure (.of result) := by
  cases listed with
  | error err => rfl
  | ok policies =>
      cases policies with
      | nil => rfl
      | cons policy rest =>
          cases rest with
          | nil => rfl
          | cons other rest =>
              have many : 1 < (policy :: other :: rest).length :=
                Nat.lt_add_left rest.length Nat.one_lt_two
              simp only [refreshListedResult]
              rw [if_pos many]
              rfl

private theorem getFoundResult_eq (source operator : String) (found : Option CacheEntry) :
    getFoundResult source operator found =
      getFound source operator found >>= fun result => pure (.of result) := by
  have refreshes : refreshResult source operator =
      refresh source operator >>= fun result => pure (.of result) :=
    congrArg (Program.call _) (funext (refreshListedResult_eq source))
  cases found with
  | none => exact refreshes
  | some entry =>
      refine congrArg (Program.call _) (funext fun now => ?_)
      dsimp only
      split
      · unfold hitResult CacheEntry.answer
        cases entry.policy with
        | none => rfl
        | some policy => rfl
      · exact refreshes

theorem getResult_eq (source operator : String) :
    getResult source operator = get source operator >>= fun result => pure (.of result) :=
  congrArg (Program.call _) (funext (getFoundResult_eq source operator))

abbrev Entries := String → Option CacheEntry

/-- A step that a caller has made inside `Get`. -/
structure Performed where
  exchange : Exchange cacheApi
  before : Entries
  after : Entries

structure Reader where
  sourceNamespace : String
  operatorNamespace : String
  program : Program cacheApi GetResult
  trace : List Performed

structure Answer where
  sourceNamespace : String
  operatorNamespace : String
  trace : List Performed
  result : GetResult

structure Stored where
  sourceNamespace : String
  policy : Option KubeTemplatePolicy
  time : Time

structure Callers where
  cluster : Cluster
  gets : Nat → Option Reader
  stores : List Stored
  returned : List Answer

inductive Method where
  | set (sourceNamespace : String) (policy : Option KubeTemplatePolicy)
  | update (policy : KubeTemplatePolicy)
  | delete (sourceNamespace : String)
  | clear
  | invalidate (sourceNamespace : String)

def Method.program : Method → Program cacheApi Unit
  | .set source policy => Cache.set source policy
  | .update policy => Cache.update policy
  | .delete source => Cache.delete source
  | .clear => Cache.clear
  | .invalidate source => Cache.invalidate source

inductive CallerEvent where
  | method (method : Method)
  | startGet (caller : Nat) (sourceNamespace operatorNamespace : String)
  | get (caller : Nat) (failure : Option GoError)
  -- the policies on the API server become others
  | change (policies : List KubeTemplatePolicy)
  | pass (elapsed : Nat)

namespace Callers

def start (ttl clock : Time) : Callers :=
  { cluster := newPolicyCache ttl clock
    gets := fun _ => none
    stores := []
    returned := [] }

def logged (callers : Callers) : CacheCall → List Stored
  | .store source policy =>
      { sourceNamespace := source, policy := policy, time := callers.cluster.clock } ::
        callers.stores
  | _ => callers.stores

def advance (callers : Callers) (reader : Reader) (request : CacheCall)
    (next : request.Answer → Program cacheApi GetResult) (answered : request.Answer × Cluster) :
    Reader :=
  { reader with
    program := next answered.1
    trace := reader.trace ++
      [{ exchange := ⟨request, answered.1⟩
         before := callers.cluster.entries
         after := answered.2.entries }] }

def step (callers : Callers) : CallerEvent → Option Callers
  | .method method =>
      match method.program with
      | .done _ => some callers
      | .call request _ =>
          some { callers with
            cluster := (respond request callers.cluster).2
            stores := callers.logged request }
  | .startGet caller source operator =>
      match callers.gets caller with
      | some _ => none
      | none =>
          some { callers with
            gets := Function.update callers.gets caller (some
              { sourceNamespace := source
                operatorNamespace := operator
                program := getResult source operator
                trace := [] }) }
  | .get caller failure =>
      match callers.gets caller with
      | none => none
      | some reader =>
          match reader.program with
          | .done result =>
              some { callers with
                gets := Function.update callers.gets caller none
                returned :=
                  { sourceNamespace := reader.sourceNamespace
                    operatorNamespace := reader.operatorNamespace
                    trace := reader.trace
                    result := result } :: callers.returned }
          | .call request next =>
              (System.answer callers.cluster request failure).map (fun answered =>
                { callers with
                  cluster := answered.2
                  gets := Function.update callers.gets caller
                    (some (callers.advance reader request next answered))
                  stores := callers.logged request })
  | .change policies =>
      some { callers with cluster := { callers.cluster with policies := policies } }
  | .pass elapsed =>
      some { callers with
        cluster := { callers.cluster with clock := callers.cluster.clock + elapsed } }

theorem step_get {callers next : Callers} {caller : Nat} {failure : Option GoError}
    (taken : callers.step (.get caller failure) = some next) :
    ∃ reader, callers.gets caller = some reader ∧
      ((∃ result, reader.program = .done result ∧
        next = { callers with
          gets := Function.update callers.gets caller none
          returned :=
            { sourceNamespace := reader.sourceNamespace
              operatorNamespace := reader.operatorNamespace
              trace := reader.trace
              result := result } :: callers.returned }) ∨
      ∃ request rest answered, reader.program = .call request rest ∧
        System.answer callers.cluster request failure = some answered ∧
        next = { callers with
          cluster := answered.2
          gets := Function.update callers.gets caller
            (some (callers.advance reader request rest answered))
          stores := callers.logged request }) := by
  simp only [step] at taken
  cases inside : callers.gets caller with
  | none =>
      rw [inside] at taken
      cases taken
  | some reader =>
      rw [inside] at taken
      dsimp only at taken
      refine ⟨reader, rfl, ?_⟩
      cases program : reader.program with
      | done result =>
          rw [program] at taken
          cases taken
          exact .inl ⟨result, rfl, rfl⟩
      | call request rest =>
          rw [program] at taken
          obtain ⟨answered, isAnswer, equal⟩ := Option.map_eq_some_iff.mp taken
          exact .inr ⟨request, rest, answered, rfl, isAnswer, equal.symm⟩

theorem step_startGet {callers next : Callers} {caller : Nat} {source operator : String}
    (taken : callers.step (.startGet caller source operator) = some next) :
    next = { callers with
      gets := Function.update callers.gets caller (some
        { sourceNamespace := source
          operatorNamespace := operator
          program := getResult source operator
          trace := [] }) } := by
  simp only [step] at taken
  split at taken
  · cases taken
  · cases taken
    rfl

theorem step_method {callers next : Callers} {method : Method}
    (taken : callers.step (.method method) = some next) :
    ∃ request, next = { callers with
      cluster := (respond request callers.cluster).2
      stores := callers.logged request } := by
  cases method <;> cases taken <;> exact ⟨_, rfl⟩

end Callers

end KubeTemplater.Cache
