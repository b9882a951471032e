/-
How long an entry of the cache lives.

A hit is answered from an entry that was stored less than the time-to-live ago, and
only a list that has found at most one policy is followed by a store.
-/

import KubeTemplater.Cache.Callers
import KubeTemplater.Library.Table

namespace KubeTemplater.Cache

open Library Library.Program

def Grounded (stores : List Stored) (ttl clock : Time) (source : String) (entry : CacheEntry) :
    Prop :=
  ∃ stored, stored ∈ stores ∧ stored.sourceNamespace = source ∧ stored.policy = entry.policy ∧
    stored.time ≤ clock ∧ entry.expiresAt = stored.time + ttl

variable {source : String} {stores : List Stored}

theorem Grounded.later {more : List Stored} {ttl clock now : Time} {entry : CacheEntry}
    (grounded : Grounded stores ttl clock source entry) (grows : stores ⊆ more)
    (passes : clock ≤ now) : Grounded more ttl now source entry := by
  obtain ⟨stored, member, isSource, isPolicy, earlier, expires⟩ := grounded
  exact ⟨stored, grows member, isSource, isPolicy, Int.le_trans earlier passes, expires⟩

def Performed.lists (performed : Performed) : Bool :=
  match performed.exchange.request with
  | .listPolicies _ _ => true
  | _ => false

/-- A step that neither lists nor changes an entry. -/
structure Performed.Looks (performed : Performed) : Prop where
  looks : performed.lists = false
  keeps : performed.after = performed.before

def listing (source operator : String) (listed : Except GoError (List KubeTemplatePolicy))
    (entries : Entries) : Performed :=
  { exchange := ⟨.listPolicies operator source, listed⟩, before := entries, after := entries }

def Unusable (listed : Except GoError (List KubeTemplatePolicy)) : Prop :=
  ∀ policies, listed = .ok policies → 1 < policies.length

inductive Ended (stores : List Stored) (ttl : Time) (source operator : String) :
    List Performed → GetResult → Prop where
  | hit (stored : Stored) (now : Time) (trace : List Performed)
      (looks : ∀ performed, performed ∈ trace → performed.Looks)
      (asked : ∃ performed, performed ∈ trace ∧ performed.exchange = ⟨.now, now⟩)
      (member : stored ∈ stores) (isSource : stored.sourceNamespace = source)
      (before : stored.time ≤ now) (within : now < stored.time + ttl) :
      Ended stores ttl source operator trace (hitResult source stored.policy)
  | refused (front : List Performed) (entries : Entries)
      (listed : Except GoError (List KubeTemplatePolicy)) (err : GoError)
      (looks : ∀ performed, performed ∈ front → performed.Looks) (unusable : Unusable listed) :
      Ended stores ttl source operator (front ++ [listing source operator listed entries])
        (.failed err)
  | stored (front : List Performed) (entries : Entries) (policies : List KubeTemplatePolicy)
      (result : GetResult) (last : Performed)
      (looks : ∀ performed, performed ∈ front → performed.Looks)
      (few : policies.length ≤ 1) (silent : last.lists = false)
      (returns : ¬ (result.policy = none ∧ result.err = none)) :
      Ended stores ttl source operator
        (front ++ [listing source operator (.ok policies) entries, last]) result

/-- How far a caller has come inside `Get`. -/
inductive Reading (stores : List Stored) (ttl clock : Time) (source operator : String) :
    List Performed → Program cacheApi GetResult → Prop where
  | begun : Reading stores ttl clock source operator [] (getResult source operator)
  | looked (found : CacheEntry) (entries : Entries)
      (grounded : Grounded stores ttl clock source found) :
      Reading stores ttl clock source operator
        [⟨⟨.lookup source, some found⟩, entries, entries⟩]
        (getFoundResult source operator (some found))
  | missed (trace : List Performed)
      (looks : ∀ performed, performed ∈ trace → performed.Looks) :
      Reading stores ttl clock source operator trace (refreshResult source operator)
  | listed (front : List Performed) (entries : Entries) (policies : List KubeTemplatePolicy)
      (result : GetResult) (looks : ∀ performed, performed ∈ front → performed.Looks)
      (few : policies.length ≤ 1) (returns : ¬ (result.policy = none ∧ result.err = none)) :
      Reading stores ttl clock source operator
        (front ++ [listing source operator (.ok policies) entries])
        (.call (.store source policies.head?) (fun _ => .done result))
  | ended (trace : List Performed) (result : GetResult)
      (ended : Ended stores ttl source operator trace result) :
      Reading stores ttl clock source operator trace (.done result)

variable {trace : List Performed} {operator : String}

theorem Ended.later {more : List Stored} {ttl : Time} {result : GetResult}
    (ended : Ended stores ttl source operator trace result) (grows : stores ⊆ more) :
    Ended more ttl source operator trace result := by
  cases ended with
  | hit stored now trace looks asked member isSource before within =>
      exact .hit stored now trace looks asked (grows member) isSource before within
  | refused front entries listed err looks unusable =>
      exact .refused front entries listed err looks unusable
  | stored front entries policies result last looks few silent returns =>
      exact .stored front entries policies result last looks few silent returns

theorem Reading.later {more : List Stored} {ttl clock now : Time}
    {program : Program cacheApi GetResult}
    (reading : Reading stores ttl clock source operator trace program) (grows : stores ⊆ more)
    (passes : clock ≤ now) : Reading more ttl now source operator trace program := by
  cases reading with
  | begun => exact .begun
  | looked found entries grounded => exact .looked found entries (grounded.later grows passes)
  | missed trace looks => exact .missed trace looks
  | listed front entries policies result looks few returns =>
      exact .listed front entries policies result looks few returns
  | ended trace result ended => exact .ended trace result (ended.later grows)

theorem Reading.result {ttl clock : Time} {program : Program cacheApi GetResult}
    {result : GetResult} (reading : Reading stores ttl clock source operator trace program)
    (isDone : program = .done result) : Ended stores ttl source operator trace result := by
  cases reading with
  | ended trace result ended =>
      cases isDone
      exact ended
  | _ => cases isDone

theorem looks_snoc {last : Performed} (looks : ∀ performed, performed ∈ trace → performed.Looks)
    (lastLooks : last.Looks) :
    ∀ performed, performed ∈ trace ++ [last] → performed.Looks := by
  intro performed member
  rcases List.mem_append.mp member with early | late
  · exact looks performed early
  · cases List.mem_singleton.mp late
    exact lastLooks

variable {cluster : Cluster} {failure : Option GoError}

theorem answer_clock {request : CacheCall} {answered : request.Answer × Cluster}
    (isAnswer : System.answer cluster request failure = some answered) :
    answered.2.clock = cluster.clock ∧ answered.2.ttl = cluster.ttl := by
  cases failure with
  | some err =>
      obtain ⟨refused, _isRefused, rfl⟩ := Option.map_eq_some_iff.mp isAnswer
      exact ⟨rfl, rfl⟩
  | none =>
      cases isAnswer
      cases request <;> exact ⟨rfl, rfl⟩

private theorem answer_lookup {answered : Option CacheEntry × Cluster}
    (isAnswer : System.answer cluster (.lookup source) failure = some answered) :
    answered = (cluster.entries source, cluster) := by
  cases failure with
  | some err => cases isAnswer
  | none =>
      cases isAnswer
      rfl

private theorem answer_now {answered : Time × Cluster}
    (isAnswer : System.answer cluster .now failure = some answered) :
    answered = (cluster.clock, cluster) := by
  cases failure with
  | some err => cases isAnswer
  | none =>
      cases isAnswer
      rfl

private theorem answer_list {answered : Except GoError (List KubeTemplatePolicy) × Cluster}
    (isAnswer : System.answer cluster (.listPolicies operator source) failure = some answered) :
    answered.2 = cluster := by
  cases failure with
  | some err =>
      cases isAnswer
      rfl
  | none =>
      cases isAnswer
      rfl

private theorem answer_store {policy : Option KubeTemplatePolicy} {answered : Unit × Cluster}
    (isAnswer : System.answer cluster (.store source policy) failure = some answered) :
    answered.2.entries = setEntry cluster.entries source
      (some { policy := policy, expiresAt := cluster.clock + cluster.ttl }) := by
  cases failure with
  | some err => cases isAnswer
  | none =>
      cases isAnswer
      rfl

theorem Reading.afterList {ttl clock : Time}
    (looks : ∀ performed, performed ∈ trace → performed.Looks) (entries : Entries)
    (listed : Except GoError (List KubeTemplatePolicy)) :
    Reading stores ttl clock source operator (trace ++ [listing source operator listed entries])
      (refreshListedResult source listed) := by
  cases listed with
  | error err =>
      refine .ended _ _ (.refused trace entries _ _ looks ?_)
      intro policies impossible
      cases impossible
  | ok policies =>
      unfold refreshListedResult
      dsimp only
      split
      · rename_i many
        refine .ended _ _ (.refused trace entries _ _ looks ?_)
        intro other same
        cases same
        exact many
      · rename_i notMany
        have few : policies.length ≤ 1 := Nat.le_of_not_lt notMany
        cases policies with
        | nil =>
            refine .listed trace entries [] _ looks few ?_
            rintro ⟨_, impossible⟩
            cases impossible
        | cons policy rest =>
            refine .listed trace entries (policy :: rest) _ looks few ?_
            rintro ⟨impossible, _⟩
            cases impossible

namespace Callers

/-- The invariant: every entry is what some store has left, every caller is at a known
place, and whoever has returned came from one. -/
structure Sound (callers : Callers) : Prop where
  entries : ∀ source entry, callers.cluster.entries source = some entry →
    Grounded callers.stores callers.cluster.ttl callers.cluster.clock source entry
  gets : ∀ caller reader, callers.gets caller = some reader →
    Reading callers.stores callers.cluster.ttl callers.cluster.clock reader.sourceNamespace
      reader.operatorNamespace reader.trace reader.program
  returned : ∀ answer, answer ∈ callers.returned →
    Ended callers.stores callers.cluster.ttl answer.sourceNamespace answer.operatorNamespace
      answer.trace answer.result

theorem start_sound (ttl clock : Time) : (start ttl clock).Sound where
  entries := by intro source entry found; cases found
  gets := by intro caller reader inside; cases inside
  returned := by intro answer member; cases member

variable {callers next : Callers}

theorem logged_grows (callers : Callers) (request : CacheCall) :
    callers.stores ⊆ callers.logged request := by
  cases request with
  | store source policy => exact List.subset_cons_self _ _
  | _ => exact fun _ member => member

theorem Sound.answered (sound : callers.Sound) {request : CacheCall} {failure : Option GoError}
    {answered : request.Answer × Cluster}
    (isAnswer : System.answer callers.cluster request failure = some answered) (source : String)
    (entry : CacheEntry) (found : answered.2.entries source = some entry) :
    Grounded (callers.logged request) answered.2.ttl answered.2.clock source entry := by
  obtain ⟨isClock, isTtl⟩ := answer_clock isAnswer
  rw [isClock, isTtl]
  rcases System.answer_entry isAnswer found with ⟨before, _⟩ | isStore
  · exact (sound.entries source entry before).later (logged_grows callers request)
      (Int.le_refl _)
  · subst isStore
    rw [answer_store isAnswer, setEntry_self] at found
    have expires := congrArg CacheEntry.expiresAt (Option.some.inj found)
    exact ⟨_, List.mem_cons_self, rfl, rfl, Int.le_refl _, expires.symm⟩

/-- A call of a caller inside `Get` takes it to its next place. -/
theorem Sound.advance (sound : callers.Sound) {source operator : String}
    {trace : List Performed} {program : Program cacheApi GetResult} {request : CacheCall}
    {rest : request.Answer → Program cacheApi GetResult} {failure : Option GoError}
    {answered : request.Answer × Cluster}
    (reading : Reading callers.stores callers.cluster.ttl callers.cluster.clock source operator
      trace program)
    (calls : program = .call request rest)
    (isAnswer : System.answer callers.cluster request failure = some answered) :
    Reading callers.stores callers.cluster.ttl callers.cluster.clock source operator
      (trace ++ [⟨⟨request, answered.1⟩, callers.cluster.entries, answered.2.entries⟩])
      (rest answered.1) := by
  cases reading with
  | begun =>
      cases calls
      cases answer_lookup isAnswer
      cases found : callers.cluster.entries source with
      | none =>
          refine .missed _ (looks_snoc nofun ⟨rfl, rfl⟩)
      | some entry => exact .looked entry _ (sound.entries source entry found)
  | looked found entries grounded =>
      cases calls
      cases answer_now isAnswer
      have looks : ∀ performed, performed ∈ [⟨⟨.lookup source, some found⟩, entries, entries⟩] ++
          [(⟨⟨.now, callers.cluster.clock⟩, callers.cluster.entries,
            callers.cluster.entries⟩ : Performed)] → performed.Looks :=
        looks_snoc (@looks_snoc [] _ nofun ⟨rfl, rfl⟩) ⟨rfl, rfl⟩
      dsimp only
      split
      · rename_i within
        obtain ⟨stored, member, isSource, isPolicy, before, expires⟩ := grounded
        rw [expires] at within
        rw [← isPolicy]
        exact .ended _ _ (.hit stored callers.cluster.clock _ looks
          ⟨_, List.mem_append_right _ List.mem_cons_self, rfl⟩ member isSource before within)
      · exact .missed _ looks
  | missed trace looks =>
      cases calls
      obtain ⟨listed, after⟩ := answered
      cases answer_list isAnswer
      exact Reading.afterList looks _ listed
  | listed front entries policies result looks few returns =>
      cases calls
      rw [List.append_assoc]
      exact .ended _ _ (.stored front entries policies result _ looks few rfl returns)
  | ended trace result ended => cases calls

/-- A step that lets the callers inside `Get` and those who have returned be. -/
theorem Sound.aside (sound : callers.Sound)
    (entries : ∀ source entry, next.cluster.entries source = some entry →
      Grounded next.stores next.cluster.ttl next.cluster.clock source entry)
    (grows : callers.stores ⊆ next.stores) (passes : callers.cluster.clock ≤ next.cluster.clock)
    (ttl : next.cluster.ttl = callers.cluster.ttl) (gets : next.gets = callers.gets)
    (returned : next.returned = callers.returned) : next.Sound where
  entries := entries
  gets := by
    intro caller reader inside
    rw [gets] at inside
    rw [ttl]
    exact (sound.gets caller reader inside).later grows passes
  returned := by
    intro answer member
    rw [returned] at member
    rw [ttl]
    exact (sound.returned answer member).later grows

theorem Sound.get {caller : Nat} {failure : Option GoError} (sound : callers.Sound)
    (taken : callers.step (.get caller failure) = some next) : next.Sound := by
  obtain ⟨reader, inside, effect⟩ := step_get taken
  have reading := sound.gets caller reader inside
  rcases effect with ⟨result, isDone, rfl⟩ | ⟨request, rest, answered, calls, isAnswer, rfl⟩
  · refine ⟨sound.entries, ?_, ?_⟩
    · intro other found stays
      obtain ⟨_, stays⟩ := update_none_eq_some stays
      exact sound.gets other found stays
    · intro answer member
      rcases List.mem_cons.mp member with rfl | earlier
      · exact reading.result isDone
      · exact sound.returned answer earlier
  · obtain ⟨isClock, isTtl⟩ := answer_clock isAnswer
    have grows := logged_grows callers request
    have passes : callers.cluster.clock ≤ answered.2.clock := Int.le_of_eq isClock.symm
    refine ⟨sound.answered isAnswer, ?_, ?_⟩
    · intro other found stays
      dsimp only at stays ⊢
      rw [isTtl]
      rcases update_eq_some stays with ⟨_, ⟨⟩⟩ | ⟨_, stays⟩
      · exact (sound.advance reading calls isAnswer).later grows passes
      · exact (sound.gets other found stays).later grows passes
    · intro answer member
      dsimp only
      rw [isTtl]
      exact (sound.returned answer member).later grows

theorem step_sound {event : CallerEvent} (sound : callers.Sound)
    (taken : callers.step event = some next) : next.Sound := by
  cases event with
  | method method =>
      obtain ⟨request, rfl⟩ := step_method taken
      have isAnswer : System.answer callers.cluster request none =
          some (respond request callers.cluster) := rfl
      obtain ⟨isClock, isTtl⟩ := answer_clock isAnswer
      exact sound.aside (sound.answered isAnswer) (logged_grows callers request)
        (Int.le_of_eq isClock.symm) isTtl rfl rfl
  | startGet caller source operator =>
      cases step_startGet taken
      refine ⟨sound.entries, ?_, sound.returned⟩
      intro other found stays
      rcases update_eq_some stays with ⟨_, ⟨⟩⟩ | ⟨_, stays⟩
      · exact .begun
      · exact sound.gets other found stays
  | get caller failure => exact sound.get taken
  | change policies =>
      cases taken
      exact sound.aside sound.entries (List.Subset.refl _) (Int.le_refl _) rfl rfl rfl
  | pass elapsed =>
      cases taken
      have passes : callers.cluster.clock ≤ callers.cluster.clock + elapsed :=
        Int.le_add_of_nonneg_right (Int.natCast_nonneg elapsed)
      refine sound.aside ?_ (List.Subset.refl _) passes rfl rfl rfl
      intro source entry found
      exact (sound.entries source entry found).later (List.Subset.refl _) passes

def Served (callers : Callers) (answer : Answer) : Prop :=
  (∀ performed, performed ∈ answer.trace → performed.lists = false) →
    ∃ stored now, stored ∈ callers.stores ∧
      (∃ performed, performed ∈ answer.trace ∧ performed.exchange = ⟨.now, now⟩) ∧
      stored.sourceNamespace = answer.sourceNamespace ∧
      answer.result = hitResult answer.sourceNamespace stored.policy ∧
      stored.time ≤ now ∧ now < stored.time + callers.cluster.ttl

/-- A `Get` whose list fails or finds more than one policy returns an error and changes
no entry. -/
def Refused (answer : Answer) : Prop :=
  ∀ performed operator source listed, performed ∈ answer.trace →
    performed.exchange = ⟨.listPolicies operator source, listed⟩ → Unusable listed →
    answer.result.err ≠ none ∧
      ∀ other, other ∈ answer.trace → other.after = other.before

def NeverNil (answer : Answer) : Prop :=
  ¬ (answer.result.policy = none ∧ answer.result.err = none)

/-- A step inside `Get` leaves the entries alone, or stores what the `Get` has listed. -/
def ReadsExtendNothing (callers : Callers) : CallerEvent → Prop
  | .startGet caller source operator => ∀ next,
      callers.step (.startGet caller source operator) = some next →
      next.cluster.entries = callers.cluster.entries
  | .get caller failure => ∀ next, callers.step (.get caller failure) = some next →
      next.cluster.entries = callers.cluster.entries ∨
      ∃ reader performed policies, callers.gets caller = some reader ∧
        performed ∈ reader.trace ∧
        performed.exchange =
          ⟨.listPolicies reader.operatorNamespace reader.sourceNamespace, .ok policies⟩ ∧
        policies.length ≤ 1 ∧
        next.cluster.entries = setEntry callers.cluster.entries reader.sourceNamespace
          (some
            { policy := policies.head?
              expiresAt := callers.cluster.clock + callers.cluster.ttl })
  | _ => True

end Callers

private theorem hitResult_returns (source : String) (policy : Option KubeTemplatePolicy) :
    ¬ ((hitResult source policy).policy = none ∧ (hitResult source policy).err = none) := by
  unfold hitResult
  split
  · rintro ⟨_, impossible⟩
    cases impossible
  · rename_i isSome
    rintro ⟨isNone, _⟩
    exact isSome isNone

theorem Performed.lists_of_exchange {performed : Performed}
    {listed : Except GoError (List KubeTemplatePolicy)}
    (isList : performed.exchange = ⟨.listPolicies operator source, listed⟩) :
    performed.lists = true := by
  unfold Performed.lists
  rw [isList]

/-- The only list of a trace is the one that its other steps surround. -/
theorem listed_once {front back : List Performed}
    {listed : Except GoError (List KubeTemplatePolicy)} {entries : Entries}
    (looks : ∀ performed, performed ∈ front → performed.Looks)
    (silent : ∀ performed, performed ∈ back → performed.lists = false) {performed : Performed}
    {otherOperator otherSource : String} {found : Except GoError (List KubeTemplatePolicy)}
    (member : performed ∈ front ++ listing source operator listed entries :: back)
    (isList : performed.exchange = ⟨.listPolicies otherOperator otherSource, found⟩) :
    found = listed := by
  have lists := Performed.lists_of_exchange isList
  rcases List.mem_append.mp member with early | late
  · rw [(looks performed early).looks] at lists
    cases lists
  · rcases List.mem_cons.mp late with rfl | last
    · cases isList
      rfl
    · rw [silent performed last] at lists
      cases lists

namespace Callers

variable {callers next : Callers} {answer : Answer}

private theorem served_of_ended
    (ended : Ended callers.stores callers.cluster.ttl answer.sourceNamespace
      answer.operatorNamespace answer.trace answer.result) : callers.Served answer := by
  obtain ⟨source, operator, trace, result⟩ := answer
  dsimp only at ended
  intro cached
  cases ended with
  | hit stored now trace looks asked member isSource before within =>
      exact ⟨stored, now, member, asked, isSource, rfl, before, within⟩
  | _ =>
      cases cached _ (List.mem_append_right _ List.mem_cons_self)

private theorem refused_of_ended {stores : List Stored} {ttl : Time}
    (ended : Ended stores ttl answer.sourceNamespace answer.operatorNamespace answer.trace
      answer.result) : Refused answer := by
  obtain ⟨ownSource, ownOperator, trace, result⟩ := answer
  dsimp only at ended
  intro performed operator source listed member isList unusable
  cases ended with
  | hit stored now trace looks asked _ isSource before within =>
      have lists := Performed.lists_of_exchange isList
      rw [(looks performed member).looks] at lists
      cases lists
  | refused front entries found err looks _ =>
      refine ⟨nofun, ?_⟩
      intro other among
      rcases List.mem_append.mp among with early | late
      · exact (looks other early).keeps
      · cases List.mem_singleton.mp late
        rfl
  | stored front entries policies result last looks few silent returns =>
      have same : listed = .ok policies := by
        refine listed_once looks ?_ member isList
        intro other among
        cases List.mem_singleton.mp among
        exact silent
      exact absurd (unusable policies same) (Nat.not_lt_of_le few)

private theorem neverNil_of_ended {stores : List Stored} {ttl : Time}
    (ended : Ended stores ttl answer.sourceNamespace answer.operatorNamespace answer.trace
      answer.result) : NeverNil answer := by
  obtain ⟨source, operator, trace, result⟩ := answer
  dsimp only at ended
  cases ended with
  | hit stored now trace looks asked member isSource before within =>
      exact hitResult_returns source stored.policy
  | refused front entries listed err looks unusable =>
      rintro ⟨_, impossible⟩
      cases impossible
  | stored front entries policies result last looks few silent returns => exact returns

private theorem entries_of_reading {source operator : String} {trace : List Performed}
    {program : Program cacheApi GetResult} {request : CacheCall}
    {rest : request.Answer → Program cacheApi GetResult} {failure : Option GoError}
    {answered : request.Answer × Cluster}
    (reading : Reading callers.stores callers.cluster.ttl callers.cluster.clock source operator
      trace program)
    (calls : program = .call request rest)
    (isAnswer : System.answer callers.cluster request failure = some answered) :
    answered.2.entries = callers.cluster.entries ∨
      ∃ performed policies, performed ∈ trace ∧
        performed.exchange = ⟨.listPolicies operator source, .ok policies⟩ ∧
        policies.length ≤ 1 ∧
        answered.2.entries = setEntry callers.cluster.entries source
          (some
            { policy := policies.head?
              expiresAt := callers.cluster.clock + callers.cluster.ttl }) := by
  cases reading with
  | begun =>
      cases calls
      cases answer_lookup isAnswer
      exact .inl rfl
  | looked found entries grounded =>
      cases calls
      cases answer_now isAnswer
      exact .inl rfl
  | missed trace looks =>
      cases calls
      rw [answer_list isAnswer]
      exact .inl rfl
  | listed front entries policies result looks few returns =>
      cases calls
      exact .inr ⟨_, policies, List.mem_append_right _ List.mem_cons_self, rfl, few,
        answer_store isAnswer⟩
  | ended trace result ended => cases calls

theorem Sound.readsExtendNothing (sound : callers.Sound) (event : CallerEvent) :
    callers.ReadsExtendNothing event := by
  cases event with
  | startGet caller source operator =>
      intro next taken
      cases step_startGet taken
      rfl
  | get caller failure =>
      intro next taken
      obtain ⟨reader, inside, effect⟩ := step_get taken
      rcases effect with ⟨result, isDone, rfl⟩ | ⟨request, rest, answered, calls, isAnswer, rfl⟩
      · exact .inl rfl
      · rcases entries_of_reading (sound.gets caller reader inside) calls isAnswer with
          kept | ⟨performed, policies, member, isList, few, stored⟩
        · exact .inl kept
        · exact .inr ⟨reader, performed, policies, inside, member, isList, few, stored⟩
  | _ => trivial

end Callers

/-- However calls of `Get` and of the other methods interleave: a result from the cache was
stored less than the time-to-live ago and is not made to live longer by being read; a list
that fails or finds several policies leaves the entries alone; and `Get` returns a policy or
an error. -/
theorem get_lifetimes (ttl clock : Time) (events : List CallerEvent) :
    Throughout Callers.step
        (fun callers => ∀ answer, answer ∈ callers.returned →
          callers.Served answer ∧ Callers.Refused answer ∧ Callers.NeverNil answer)
        (Callers.start ttl clock) events ∧
      Along Callers.step Callers.ReadsExtendNothing (Callers.start ttl clock) events := by
  have sound : Throughout Callers.step Callers.Sound (Callers.start ttl clock) events := by
    apply throughout_of_preserved
    · intro callers event next here taken
      exact Callers.step_sound here taken
    · exact Callers.start_sound ttl clock
  refine ⟨sound.mono ?_, sound.along ?_⟩
  · intro callers here answer member
    have ended := here.returned answer member
    exact ⟨Callers.served_of_ended ended, Callers.refused_of_ended ended,
      Callers.neverNil_of_ended ended⟩
  · intro callers event here
    exact here.readsExtendNothing event

end KubeTemplater.Cache
