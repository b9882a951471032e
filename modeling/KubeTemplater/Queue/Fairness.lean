/-
No item is overtaken for ever.

With one level of priority the queue is served by scheduled time.  Once an item is due,
whatever is queued later goes behind it: a new item is scheduled now and a retried one
not before now.  What stands before the item only gets less, by one with every item that
is handed out, and the loop of `Dequeue` hands one out at every turn.
-/

import KubeTemplater.Queue.Backlog
import KubeTemplater.Queue.Backoff
import KubeTemplater.Queue.WakeUps
import Mathlib.Data.Finset.Card

namespace KubeTemplater.Queue

open Library

namespace Pace

structure Forward (pace : Pace) : Prop where
  cooldown : 0 ≤ pace.cooldown
  backoff : ∀ count, 1 ≤ count → count ≤ pace.maxRetries → 0 ≤ pace.backoff count

end Pace

theorem Work.retry_not_before {pace : Pace} (forward : pace.Forward) {work retried : Work}
    (counted : 0 ≤ work.retryCount) {now : Time} (again : work.retry pace now = some retried) :
    now ≤ retried.scheduledAt := by
  unfold Work.retry at again
  split at again
  · rename_i within
    cases again
    have delay := forward.backoff (work.retryCount + 1) (by omega) within
    dsimp only
    lia
  · split at again
    · cases again
    · cases again
      have delay := forward.cooldown
      dsimp only
      lia

theorem Work.retry_counted {pace : Pace} {work retried : Work} (counted : 0 ≤ work.retryCount)
    {now : Time} (again : work.retry pace now = some retried) : 0 ≤ retried.retryCount := by
  unfold Work.retry at again
  split at again
  · cases again
    dsimp only
    omega
  · split at again
    · cases again
    · cases again
      exact Int.le_refl 0

private theorem forward_of_configured {maxRetries initialDelay maxDelay : Int} (maxCycles : Int)
    (configured : Configured maxRetries initialDelay maxDelay)
    (fits : DelayFits maxRetries initialDelay) :
    (newWorkQueueWithConfig maxRetries initialDelay maxDelay maxCycles).pace.Forward where
  cooldown := Int.le_of_lt configured.max_pos
  backoff := by
    intro count counted within
    have doubled := @backoffDelay_doubled _ _ _
      (newWorkQueueWithConfig maxRetries initialDelay maxDelay maxCycles) configured fits rfl rfl
      count counted within
    have bounds := doubledDelay_bounds configured counted
    refine Int.le_of_lt ?_
    rw [← doubled] at bounds
    exact bounds.1

def Action.After (time : Time) : Action → Prop
  | .enqueue _ _ now => time < now
  | .turn _ now _ => time < now
  | .requeue _ now => time < now
  | .done _ => True
  | .shutdown => True

def Action.turns : Action → Nat
  | .turn _ _ _ => 1
  | _ => 0

namespace Backlog

def ahead (backlog : Backlog) (ref : ItemRef) : Finset ItemRef :=
  backlog.waiting.filter (fun other =>
    other ≠ ref ∧ (backlog.work other).scheduledAt ≤ (backlog.work ref).scheduledAt)

theorem mem_ahead {backlog : Backlog} {ref other : ItemRef} :
    other ∈ backlog.ahead ref ↔ other ∈ backlog.waiting ∧ other ≠ ref ∧
      (backlog.work other).scheduledAt ≤ (backlog.work ref).scheduledAt :=
  Finset.mem_filter

/-- The facts about a reachable backlog that the order of service rests on. -/
structure Ranked (level : Int) (backlog : Backlog) : Prop where
  isOpen : backlog.closed = false
  fresh : backlog.made ∉ backlog.waiting
  away : ∀ worker ref, backlog.held worker = some ref → ref ∉ backlog.waiting
  levelled : ∀ ref, ref ∈ backlog.waiting → (backlog.work ref).priority = level
  counted : ∀ ref, 0 ≤ (backlog.work ref).retryCount
  forward : backlog.pace.Forward

structure Closer (before after : Backlog) (ref : ItemRef) (handed : Nat) : Prop where
  waits : ref ∈ after.waiting
  scheduled : (after.work ref).scheduledAt = (before.work ref).scheduledAt
  ahead : handed + (after.ahead ref).card ≤ (before.ahead ref).card

section Actions

variable {level : Int} {backlog : Backlog} {ref : ItemRef}

/-- Items may join behind this one and change behind it. -/
theorem closer_of_behind {after : Backlog} (waits : ref ∈ after.waiting)
    (scheduled : (after.work ref).scheduledAt = (backlog.work ref).scheduledAt)
    (behind : ∀ other, other ∈ after.waiting →
      (backlog.work ref).scheduledAt < (after.work other).scheduledAt ∨
        other ∈ backlog.waiting ∧
          (after.work other).scheduledAt = (backlog.work other).scheduledAt) :
    Closer backlog after ref 0 := by
  refine ⟨waits, scheduled, ?_⟩
  rw [Nat.zero_add]
  apply Finset.card_le_card
  intro other isAhead
  obtain ⟨otherWaits, different, notLater⟩ := mem_ahead.mp isAhead
  rw [scheduled] at notLater
  rcases behind other otherWaits with later | ⟨waited, same⟩
  · exact absurd notLater (Int.not_le.mpr later)
  · exact mem_ahead.mpr ⟨waited, different, same ▸ notLater⟩

theorem closer_of_still {after : Backlog} (waits : ref ∈ backlog.waiting)
    (same : after.waiting = backlog.waiting)
    (scheduled : ∀ other, (after.work other).scheduledAt = (backlog.work other).scheduledAt) :
    Closer backlog after ref 0 :=
  closer_of_behind (same ▸ waits) (scheduled ref)
    (fun other otherWaits => .inr ⟨same ▸ otherWaits, scheduled other⟩)

theorem First.scheduledAt_le {first : ItemRef} (isFirst : backlog.First first)
    (ranked : backlog.Ranked level) (waits : ref ∈ backlog.waiting) :
    (backlog.work first).scheduledAt ≤ (backlog.work ref).scheduledAt := by
  apply Int.not_lt.mp
  intro earlier
  apply isFirst.first ref waits
  exact .inr ⟨(ranked.levelled ref waits).trans (ranked.levelled first isFirst.waits).symm, earlier⟩

private theorem closer_of_taken {first : ItemRef} (worker : Nat) (isFirst : backlog.First first)
    (ranked : backlog.Ranked level) (waits : ref ∈ backlog.waiting) (different : first ≠ ref) :
    Closer backlog
      { backlog with
        waiting := backlog.waiting.erase first
        current := Function.update backlog.current (backlog.work first).key none
        held := Function.update backlog.held worker (some first) } ref 1 := by
  refine ⟨Finset.mem_erase.mpr ⟨Ne.symm different, waits⟩, rfl, ?_⟩
  have wasAhead : first ∈ backlog.ahead ref :=
    mem_ahead.mpr ⟨isFirst.waits, different, isFirst.scheduledAt_le ranked waits⟩
  rw [Nat.add_comm]
  apply Nat.succ_le_of_lt
  refine Nat.lt_of_le_of_lt (Finset.card_le_card ?_) (Finset.card_erase_lt_of_mem wasAhead)
  intro other isAhead
  obtain ⟨otherWaits, notRef, notLater⟩ := mem_ahead.mp isAhead
  obtain ⟨notFirst, waited⟩ := Finset.mem_erase.mp otherWaits
  exact Finset.mem_erase.mpr ⟨notFirst, mem_ahead.mpr ⟨waited, notRef, notLater⟩⟩

private theorem scheduledAt_of_update {target other : ItemRef} {work : Work}
    (same : work.scheduledAt = (backlog.work target).scheduledAt) :
    (Function.update backlog.work target work other).scheduledAt =
      (backlog.work other).scheduledAt := by
  by_cases isTarget : other = target
  · rw [isTarget, Function.update_self, same]
  · rw [Function.update_of_ne isTarget]

/-- An action hands the item out or brings it closer. -/
theorem Next.closer {after : Backlog} {action : Action} (next : backlog.Next action after)
    (ranked : backlog.Ranked level) (waits : ref ∈ backlog.waiting)
    (later : action.After (backlog.work ref).scheduledAt) :
    (∃ worker now, action = .turn worker now (.take ref)) ∨
      Closer backlog after ref action.turns := by
  cases next with
  | added key priority now unknown =>
      refine .inr (closer_of_behind (Finset.mem_insert_of_mem waits) ?_ ?_)
      · have old : ref ≠ backlog.made := fun same => ranked.fresh (same ▸ waits)
        exact congrArg Work.scheduledAt (Function.update_of_ne old _ _)
      · intro other otherWaits
        by_cases isNew : other = backlog.made
        · refine .inl ?_
          dsimp only
          rw [isNew, Function.update_self]
          exact later
        · refine .inr ⟨(Finset.mem_insert.mp otherWaits).resolve_left isNew, ?_⟩
          exact congrArg Work.scheduledAt (Function.update_of_ne isNew _ _)
  | raised key priority now existing known higher =>
      exact .inr (closer_of_still waits rfl (fun _ => scheduledAt_of_update rfl))
  | idle worker now decision free decides nothing =>
      exfalso
      cases decides with
      | stop closed =>
          rw [ranked.isOpen] at closed
          cases closed
      | wait isOpen isEmpty =>
          rw [isEmpty] at waits
          exact Finset.notMem_empty ref waits
      | waitUntil isOpen first isFirst early =>
          have notLater := isFirst.scheduledAt_le ranked waits
          have due : (backlog.work ref).scheduledAt < now := later
          lia
      | take isOpen first isFirst due => exact nothing first rfl
  | taken worker now first free decides =>
      by_cases isRef : first = ref
      · exact .inl ⟨worker, now, isRef ▸ rfl⟩
      · cases decides with
        | take isOpen first isFirst due =>
            exact .inr (closer_of_taken worker isFirst ranked waits isRef)
  | retried worker now held work holds again =>
      have notHeld : ref ≠ held := fun same => ranked.away worker held holds (same ▸ waits)
      have notBefore := Work.retry_not_before ranked.forward (ranked.counted held) again
      refine .inr (closer_of_behind (Finset.mem_insert_of_mem waits) ?_ ?_)
      · exact congrArg Work.scheduledAt (Function.update_of_ne notHeld _ _)
      · intro other otherWaits
        by_cases isHeld : other = held
        · refine .inl ?_
          dsimp only
          rw [isHeld, Function.update_self]
          exact Int.lt_of_lt_of_le later notBefore
        · refine .inr ⟨(Finset.mem_insert.mp otherWaits).resolve_left isHeld, ?_⟩
          exact congrArg Work.scheduledAt (Function.update_of_ne isHeld _ _)
  | givenUp worker now held holds spent =>
      exact .inr (closer_of_still waits rfl (fun _ => scheduledAt_of_update rfl))
  | _ => exact .inr (closer_of_still waits rfl (fun _ => rfl))

end Actions

structure Counted (pace : Pace) (backlog : Backlog) : Prop where
  counted : ∀ ref, 0 ≤ (backlog.work ref).retryCount
  samePace : backlog.pace = pace

theorem counted_update {backlog : Backlog} {ref : ItemRef} {work : Work}
    (counted : ∀ other, 0 ≤ (backlog.work other).retryCount) (more : 0 ≤ work.retryCount)
    (other : ItemRef) : 0 ≤ (Function.update backlog.work ref work other).retryCount := by
  by_cases isRef : other = ref
  · rw [isRef, Function.update_self]
    exact more
  · rw [Function.update_of_ne isRef]
    exact counted other

private theorem next_counted {pace : Pace} (backlog : Backlog) (action : Action) (after : Backlog)
    (holds : backlog.Counted pace) (next : backlog.Next action after) : after.Counted pace := by
  obtain ⟨counted, samePace⟩ := holds
  cases next with
  | added key priority now unknown => exact ⟨counted_update counted (Int.le_refl 0), samePace⟩
  | raised key priority now ref known higher =>
      exact ⟨counted_update counted (counted ref), samePace⟩
  | retried worker now ref work holds again =>
      exact ⟨counted_update counted (Work.retry_counted (counted ref) again), samePace⟩
  | givenUp worker now ref holds spent =>
      exact ⟨counted_update counted (Int.le_add_one (counted ref)), samePace⟩
  | _ => exact ⟨counted, samePace⟩

end Backlog

namespace Section

/-- An `Enqueue` asks for the priority, and the queue stays open. -/
def Plain (level : Int) : Section → Prop
  | .enqueue _ priority _ => priority = level
  | .shutdown => False
  | _ => True

def After (time : Time) : Section → Prop
  | .enqueue _ _ now => time < now
  | .turn _ now => time < now
  | .requeue _ now => time < now
  | _ => True

def isTurn : Section → Bool
  | .turn _ _ => true
  | _ => false

end Section

namespace Session

structure Levelled (level : Int) (session : Session) : Prop where
  valid : session.Valid
  arranged : session.queue.Arranged
  level : session.Level level
  isOpen : session.queue.shutdown = false

private theorem start_levelled (maxRetries initialDelay maxDelay maxCycles level : Int) :
    (start maxRetries initialDelay maxDelay maxCycles).Levelled level where
  valid := start_valid _ _ _ _
  arranged := start_arranged _ _ _ _
  level := ⟨fun _ member => (by cases member), fun _ _ holds => (by cases holds)⟩
  isOpen := rfl

private theorem enter_levelled {level : Int} (session : Session) (entered : Section)
    (next : Session)
    (levelled : session.Levelled level) (plain : entered.Plain level)
    (taken : session.enter entered = some next) : next.Levelled level := by
  have sound := enter_sound session entered next ⟨levelled.valid, levelled.arranged⟩ taken
  have stepped (operation : Operation) (stepped : session.step operation = some next)
      (asked : ∀ key priority now, operation = .enqueue key priority now → priority = level) :
      next.Levelled level :=
    ⟨sound.1, sound.2, step_level levelled.valid levelled.level asked stepped,
      (step_shutdown stepped).trans levelled.isOpen⟩
  cases entered with
  | enqueue key priority now =>
      refine stepped (.enqueue key priority now) taken ?_
      intro _ _ _ same
      cases same
      exact plain
  | turn worker now =>
      obtain ⟨free, ⟨ref, rest, hands, rfl⟩ | ⟨rfl, _⟩⟩ := turn_cases taken
      · refine stepped (.dequeue worker now) ?_ (fun _ _ _ => Operation.noConfusion)
        simp only [step, free, hands]
      · exact levelled
  | requeue worker now =>
      exact stepped (.requeue worker now) taken (fun _ _ _ => Operation.noConfusion)
  | done worker => exact stepped (.done worker) taken (fun _ _ _ => Operation.noConfusion)
  | shutdown => exact plain.elim

private theorem ranked_of_levelled {level : Int} {pace : Pace} {session : Session}
    (levelled : session.Levelled level) (counted : session.backlog.Counted pace)
    (forward : pace.Forward) : session.backlog.Ranked level where
  isOpen := levelled.isOpen
  fresh := by
    intro waits
    exact Nat.lt_irrefl _ (levelled.valid.queuedBelow _ (List.mem_toFinset.mp waits))
  away := by
    intro worker ref holds waits
    exact levelled.valid.heldAway worker ref holds (List.mem_toFinset.mp waits)
  levelled := by
    intro ref waits
    exact levelled.level.queued ref (List.mem_toFinset.mp waits)
  counted := counted.counted
  forward := counted.samePace ▸ forward

def HandsOut (session : Session) (sections : List Section) (ref : ItemRef)
    (front : List Section) : Prop :=
  ∃ worker now back here rest,
    sections = front ++ .turn worker now :: back ∧ run enter session front = some here ∧
      here.queue.dequeue now = .take ref rest

theorem HandsOut.cons {session next : Session} {entered : Section} {later front : List Section}
    {ref : ItemRef} (taken : session.enter entered = some next)
    (hands : next.HandsOut later ref front) :
    session.HandsOut (entered :: later) ref (entered :: front) := by
  obtain ⟨worker, now, back, here, rest, split, reached, takes⟩ := hands
  refine ⟨worker, now, back, here, rest, congrArg (entered :: ·) split, ?_, takes⟩
  exact (run_cons_iff enter session here entered front).mpr ⟨next, taken, reached⟩

private theorem action_after {session : Session} {entered : Section} {time : Time}
    (after : entered.After time) : (session.action entered).After time := by
  cases entered with
  | done worker => trivial
  | shutdown => trivial
  | _ => exact after

private theorem action_turns (session : Session) (entered : Section) :
    (session.action entered).turns = if entered.isTurn then 1 else 0 := by
  cases entered with
  | _ => rfl

private theorem dequeue_of_decision {turn : DequeueTurn} {ref : ItemRef}
    (decides : turn.decision = .take ref) : ∃ rest, turn = .take ref rest := by
  cases turn with
  | take other rest =>
      cases decides
      exact ⟨rest, rfl⟩
  | stopped => cases decides
  | wait => cases decides
  | waitUntil time => cases decides

private theorem turn_of_action {session : Session} {entered : Section} {worker : Nat} {now : Time}
    {ref : ItemRef} (takes : session.action entered = .turn worker now (.take ref)) :
    entered = .turn worker now ∧ ∃ rest, session.queue.dequeue now = .take ref rest := by
  cases entered with
  | turn caller time =>
      injection takes with sameWorker sameTime decides
      subst sameWorker sameTime
      exact ⟨rfl, dequeue_of_decision decides⟩
  | _ => cases takes

section Runs

variable {level : Int} {pace : Pace}

private theorem enter_closer {session next : Session} {entered : Section} {ref : ItemRef}
    (levelled : session.Levelled level) (counted : session.backlog.Counted pace)
    (forward : pace.Forward) (waits : ref ∈ session.backlog.waiting)
    (later : entered.After (session.backlog.work ref).scheduledAt)
    (taken : session.enter entered = some next) :
    (∃ worker now rest, entered = .turn worker now ∧
        session.queue.dequeue now = .take ref rest) ∨
      Backlog.Closer session.backlog next.backlog ref (if entered.isTurn then 1 else 0) := by
  have isNext := enter_next session entered next levelled.arranged taken
  have ranked := ranked_of_levelled levelled counted forward
  rcases isNext.closer ranked waits (action_after later) with ⟨worker, now, takes⟩ | closer
  · obtain ⟨isTurn, rest, hands⟩ := turn_of_action takes
    exact .inl ⟨worker, now, rest, isTurn, hands⟩
  · rw [action_turns] at closer
    exact .inr closer

/-- By induction on the run: the item gets closer until it is handed out. -/
theorem handsOut_of_turns (forward : pace.Forward) {session final : Session}
    {sections : List Section} {ref : ItemRef} (levelled : session.Levelled level)
    (counted : session.backlog.Counted pace) (waits : ref ∈ session.backlog.waiting)
    (plain : ∀ entered ∈ sections, entered.Plain level)
    (later : ∀ entered ∈ sections, entered.After (session.backlog.work ref).scheduledAt)
    (isRun : run enter session sections = some final)
    (enough : (session.backlog.ahead ref).card < sections.countP Section.isTurn) :
    ∃ front, session.HandsOut sections ref front ∧
      front.countP Section.isTurn ≤ (session.backlog.ahead ref).card := by
  induction sections generalizing session with
  | nil => cases enough
  | cons entered rest ih =>
      obtain ⟨next, taken, continues⟩ := (run_cons_iff enter session final entered rest).mp isRun
      rcases enter_closer levelled counted forward waits (later entered List.mem_cons_self) taken
        with ⟨worker, now, queue, rfl, hands⟩ | closer
      · exact ⟨[], ⟨worker, now, rest, session, queue, rfl, rfl, hands⟩, Nat.zero_le _⟩
      · have nextLevelled := enter_levelled session entered next levelled
          (plain entered List.mem_cons_self) taken
        have nextCounted := Backlog.next_counted _ _ _ counted
          (enter_next session entered next levelled.arranged taken)
        have closerBy := closer.ahead
        rw [List.countP_cons] at enough
        obtain ⟨front, handsOut, few⟩ := ih nextLevelled nextCounted closer.waits
          (fun other member => plain other (List.mem_cons_of_mem entered member))
          (fun other member => closer.scheduled ▸ later other (List.mem_cons_of_mem entered member))
          continues (by omega)
        refine ⟨entered :: front, handsOut.cons taken, ?_⟩
        rw [List.countP_cons]
        omega

end Runs

private theorem reached_levelled {maxRetries initialDelay maxDelay maxCycles level : Int}
    {sections : List Section} {reached : Session}
    (plain : ∀ entered ∈ sections, entered.Plain level)
    (isRun : run enter (start maxRetries initialDelay maxDelay maxCycles) sections =
      some reached) : reached.Levelled level := by
  have throughout := throughout_of_along enter (fun _ entered => entered.Plain level)
    (Levelled level) enter_levelled (start maxRetries initialDelay maxDelay maxCycles) sections
    (start_levelled _ _ _ _ level) (along_of_labels _ plain)
  exact throughout.last isRun

private theorem reached_counted {maxRetries initialDelay maxDelay maxCycles : Int}
    {sections : List Section} {reached : Session}
    (isRun : run enter (start maxRetries initialDelay maxDelay maxCycles) sections =
      some reached) :
    reached.backlog.Counted
      (newWorkQueueWithConfig maxRetries initialDelay maxDelay maxCycles).pace :=
  (refines_backlog.throughout Backlog.next_counted ⟨start_valid _ _ _ _, start_arranged _ _ _ _⟩
    ⟨fun _ => Int.le_refl 0, rfl⟩ sections).last isRun

/-- Once a queued item is due, it is handed out after no more turns of the workers than
there were items before it. -/
theorem handed_out_in_turn (maxRetries initialDelay maxDelay maxCycles level : Int)
    (configured : Configured maxRetries initialDelay maxDelay)
    (fits : DelayFits maxRetries initialDelay) (earlier later : List Section)
    (middle final : Session) (ref : ItemRef)
    (reached : run enter (start maxRetries initialDelay maxDelay maxCycles) earlier = some middle)
    (continues : run enter middle later = some final)
    (plain : ∀ entered ∈ earlier ++ later, entered.Plain level)
    (queued : ref ∈ middle.queue.items.toList)
    (due : ∀ entered ∈ later, entered.After (middle.queue.memory ref).scheduledAt)
    (enough : (middle.backlog.ahead ref).card < later.countP Section.isTurn) :
    ∃ front, middle.HandsOut later ref front ∧
      front.countP Section.isTurn ≤ (middle.backlog.ahead ref).card := by
  have forward := forward_of_configured maxCycles configured fits
  have levelled := reached_levelled
    (fun entered member => plain entered (List.mem_append_left later member)) reached
  exact handsOut_of_turns forward levelled (reached_counted reached)
    (List.mem_toFinset.mpr queued)
    (fun entered member => plain entered (List.mem_append_right earlier member)) due continues
    enough

/-- Three templates; the first fails, and a fourth comes while they are worked on. -/
def threeQueued : List Section :=
  [.enqueue ⟨"team-a", "web"⟩ 0 0, .enqueue ⟨"team-a", "api"⟩ 0 1, .enqueue ⟨"team-b", "db"⟩ 0 2]

def workedOn : List Section :=
  [.turn 0 3, .requeue 0 4, .enqueue ⟨"team-b", "cache"⟩ 0 5, .turn 0 6, .turn 1 7, .done 0]

theorem workedOn_in_turn :
    ∃ middle, run enter (start 5 1000000000 300000000000 3) threeQueued = some middle ∧
      (middle.backlog.ahead 2).card = 2 ∧
      ∃ front, middle.HandsOut workedOn 2 front ∧ front.countP Section.isTurn ≤ 2 := by
  have configured : Configured 5 1000000000 300000000000 :=
    { retries := by decide
      initialSeconds := ⟨1, by decide, by decide⟩
      maxSeconds := ⟨300, by decide, by decide⟩
      initialFits := by decide
      maxFits := by decide }
  have fits : DelayFits 5 1000000000 := by
    unfold DelayFits
    decide
  refine ⟨_, rfl, by decide +kernel, ?_⟩
  refine handed_out_in_turn 5 1000000000 300000000000 3 0 configured fits threeQueued workedOn
    _ _ 2 rfl rfl ?_ (by decide +kernel) ?_ (by decide +kernel)
  · simp [threeQueued, workedOn, Section.Plain]
  · change ∀ entered ∈ workedOn, entered.After 2
    simp [workedOn, Section.After]

end Session

end KubeTemplater.Queue
