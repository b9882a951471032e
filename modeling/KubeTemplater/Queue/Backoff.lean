/-
The delays of `Requeue` in 64-bit arithmetic.

The delay doubles with every retry of a cycle and is cut off at the maximum, but
the product is computed before it is compared.  The cap of 30 doublings leaves
room for an initial delay of eight seconds; with ten seconds the thirty-first
retry has a negative delay.
-/

import KubeTemplater.Queue.Attempts

namespace KubeTemplater.Queue

open Library

/-- The first value that does not fit into a signed 64-bit integer. -/
def int64Limit : Int := 9223372036854775808

private theorem wrap64_of_fits {value : Int} (nonnegative : 0 ≤ value) (fits : value < int64Limit) :
    wrap64 value = value := by
  unfold int64Limit at fits
  unfold wrap64
  rw [BitVec.toInt_ofInt]
  apply Int.bmod_eq_of_le
  · omega
  · omega

/-- A value that is too large by less than a factor of two becomes negative. -/
theorem wrap64_neg {value : Int} (large : int64Limit ≤ value) (bounded : value < 2 * int64Limit) :
    wrap64 value < 0 := by
  unfold int64Limit at large bounded
  unfold wrap64
  rw [BitVec.toInt_ofInt, Int.bmod_def]
  have remainder : value % ((2 ^ 64 : Nat) : Int) = value := by
    apply Int.emod_eq_of_lt
    · omega
    · omega
  rw [remainder, if_neg (by omega)]
  omega

private theorem shiftOne_natCast (bits : Nat) : shiftOne bits = ((1 <<< bits : Nat) : Int) := by
  unfold shiftOne
  rw [if_neg (by omega), Int.toNat_natCast]

theorem shiftOne_succ (bits : Nat) : shiftOne (bits + 1 : Nat) = 2 * shiftOne bits := by
  rw [shiftOne_natCast, shiftOne_natCast, Nat.shiftLeft_succ]
  omega

private theorem shiftOne_natCast_pos (bits : Nat) : 1 ≤ shiftOne bits := by
  induction bits with
  | zero => decide
  | succ bits ih =>
      rw [shiftOne_succ]
      omega

private theorem shiftOne_pos {count : Int} (nonnegative : 0 ≤ count) : 1 ≤ shiftOne count := by
  obtain ⟨bits, rfl⟩ := Int.eq_ofNat_of_zero_le nonnegative
  exact shiftOne_natCast_pos bits

private theorem shiftOne_natCast_mono (low more : Nat) : shiftOne low ≤ shiftOne
    (low + more : Nat) := by
  induction more with
  | zero => exact Int.le_refl _
  | succ more ih =>
      have positive := shiftOne_natCast_pos (low + more)
      rw [← Nat.add_assoc, shiftOne_succ]
      omega

private theorem shiftOne_mono {low high : Int} (nonnegative : 0 ≤ low) (ordered : low ≤ high) :
    shiftOne low ≤ shiftOne high := by
  obtain ⟨bits, rfl⟩ := Int.eq_ofNat_of_zero_le nonnegative
  obtain ⟨more, same⟩ := Int.le.dest ordered
  rw [← same, ← Int.natCast_add]
  exact shiftOne_natCast_mono bits more

structure Configured (maxRetries initialDelay maxDelay : Int) : Prop where
  retries : 1 ≤ maxRetries
  initialSeconds : ∃ seconds, 1 ≤ seconds ∧ initialDelay = seconds * 1000000000
  maxSeconds : ∃ seconds, 60 ≤ seconds ∧ maxDelay = seconds * 1000000000
  initialFits : initialDelay < int64Limit
  maxFits : maxDelay < int64Limit

def doublings (count : Int) : Int := if 30 < count - 1 then 30 else count - 1

/-- The largest product `Requeue` computes fits. -/
def DelayFits (maxRetries initialDelay : Int) : Prop :=
  initialDelay * shiftOne (doublings maxRetries) < int64Limit

def doubledDelay (initialDelay maxDelay count : Int) : Int :=
  min maxDelay (initialDelay * shiftOne (doublings count))

theorem doublings_nonneg {count : Int} (counted : 1 ≤ count) : 0 ≤ doublings count := by
  unfold doublings
  split
  · decide
  · omega

private theorem doublings_mono {low high : Int} (ordered : low ≤ high) :
    doublings low ≤ doublings high := by
  unfold doublings
  split
  · split
    · exact Int.le_refl 30
    · omega
  · split
    · omega
    · omega

section Delay

variable {maxRetries initialDelay maxDelay : Int}

theorem Configured.initial_pos (configured : Configured maxRetries initialDelay maxDelay) :
    0 < initialDelay := by
  obtain ⟨seconds, positive, rfl⟩ := configured.initialSeconds
  omega

theorem Configured.max_pos (configured : Configured maxRetries initialDelay maxDelay) :
    0 < maxDelay := by
  obtain ⟨seconds, positive, rfl⟩ := configured.maxSeconds
  omega

private theorem product_mono (configured : Configured maxRetries initialDelay maxDelay)
    {low high : Int}
    (counted : 1 ≤ low) (ordered : low ≤ high) :
    initialDelay * shiftOne (doublings low) ≤ initialDelay * shiftOne (doublings high) := by
  apply Int.mul_le_mul_of_nonneg_left
  · exact shiftOne_mono (doublings_nonneg counted) (doublings_mono ordered)
  · exact Int.le_of_lt configured.initial_pos

private theorem product_pos (configured : Configured maxRetries initialDelay maxDelay) {count : Int}
    (counted : 1 ≤ count) : 0 < initialDelay * shiftOne (doublings count) := by
  apply Int.mul_pos configured.initial_pos
  have := shiftOne_pos (doublings_nonneg counted)
  omega

theorem backoffDelay_doubled {queue : WorkQueue}
    (configured : Configured maxRetries initialDelay maxDelay)
    (fits : DelayFits maxRetries initialDelay)
    (isInitial : queue.initialRetryDelay = initialDelay)
    (isMax : queue.maxRetryDelay = maxDelay) {count : Int} (counted : 1 ≤ count)
    (within : count ≤ maxRetries) :
    queue.backoffDelay count = doubledDelay initialDelay maxDelay count := by
  have small := Int.lt_of_le_of_lt (product_mono configured counted within) fits
  have positive := product_pos configured counted
  unfold WorkQueue.backoffDelay doubledDelay
  dsimp only
  rw [isInitial, isMax]
  change (if maxDelay < wrap64 (initialDelay * shiftOne (doublings count)) then maxDelay
    else wrap64 (initialDelay * shiftOne (doublings count))) = _
  rw [wrap64_of_fits (Int.le_of_lt positive) small]
  split
  · omega
  · omega

/-- The first product that does not fit is less than twice the limit. -/
theorem first_overflow {initialDelay : Int} (fits : initialDelay < int64Limit) (bits : Nat)
    (large : int64Limit ≤ initialDelay * shiftOne bits) :
    ∃ first : Nat, 0 < first ∧ first ≤ bits ∧ int64Limit ≤ initialDelay * shiftOne first ∧
      initialDelay * shiftOne first < 2 * int64Limit := by
  induction bits with
  | zero =>
      have one : initialDelay * shiftOne (0 : Nat) = initialDelay := Int.mul_one initialDelay
      omega
  | succ bits ih =>
      by_cases earlier : int64Limit ≤ initialDelay * shiftOne bits
      · obtain ⟨first, positive, below, beyond, bounded⟩ := ih earlier
        exact ⟨first, positive, Nat.le_succ_of_le below, beyond, bounded⟩
      · refine ⟨bits + 1, Nat.succ_pos bits, Nat.le_refl _, large, ?_⟩
        rw [shiftOne_succ, Int.mul_left_comm]
        omega

/-- When the largest product does not fit, some retry of a cycle has a negative delay. -/
theorem backoffDelay_negative {queue : WorkQueue}
    (configured : Configured maxRetries initialDelay maxDelay)
    (overflows : ¬ DelayFits maxRetries initialDelay)
    (isInitial : queue.initialRetryDelay = initialDelay)
    (isMax : queue.maxRetryDelay = maxDelay) :
    ∃ count, 1 ≤ count ∧ count ≤ maxRetries ∧ queue.backoffDelay count < 0 := by
  have last := doublings_nonneg configured.retries
  obtain ⟨bits, isBits⟩ := Int.eq_ofNat_of_zero_le last
  have large : int64Limit ≤ initialDelay * shiftOne bits := by
    unfold DelayFits at overflows
    rw [isBits] at overflows
    exact Int.not_lt.mp overflows
  obtain ⟨first, _positive, below, beyond, bounded⟩ :=
    first_overflow configured.initialFits bits large
  have capped : doublings (first + 1) = first := by
    unfold doublings at isBits ⊢
    split at isBits
    · rw [if_neg (by omega)]
      omega
    · rw [if_neg (by omega)]
      omega
  have reached : (first : Int) + 1 ≤ maxRetries := by
    unfold doublings at isBits
    split at isBits
    · omega
    · omega
  refine ⟨first + 1, by omega, reached, ?_⟩
  have negative := wrap64_neg beyond bounded
  have maxPositive := configured.max_pos
  unfold WorkQueue.backoffDelay
  dsimp only
  rw [isInitial, isMax]
  change (if maxDelay < wrap64 (initialDelay * shiftOne (doublings (first + 1))) then maxDelay
    else wrap64 (initialDelay * shiftOne (doublings (first + 1)))) < 0
  rw [capped, if_neg (by omega)]
  exact negative

theorem doubledDelay_bounds (configured : Configured maxRetries initialDelay maxDelay)
    {count : Int} (counted : 1 ≤ count) :
    0 < doubledDelay initialDelay maxDelay count ∧
      doubledDelay initialDelay maxDelay count ≤ maxDelay := by
  have positive := product_pos configured counted
  have maxPositive := configured.max_pos
  unfold doubledDelay
  omega

private theorem doubledDelay_mono (configured : Configured maxRetries initialDelay maxDelay)
    {low high : Int} (counted : 1 ≤ low) (ordered : low ≤ high) :
    doubledDelay initialDelay maxDelay low ≤ doubledDelay initialDelay maxDelay high := by
  have product := product_mono configured counted ordered
  unfold doubledDelay
  omega

end Delay

structure Paced where
  session : Session
  lastDelay : ItemRef → Option Int

namespace Paced

def start (maxRetries initialDelay maxDelay maxCycles : Int) : Paced :=
  { session := Session.start maxRetries initialDelay maxDelay maxCycles
    lastDelay := fun _ => none }

def retried (state : Paced) (worker : Nat) (now : Time) : Option (ItemRef × WorkItem) :=
  (state.session.held worker).bind (fun ref =>
    (state.session.queue.retryItem (state.session.queue.memory ref) now).map (fun item =>
      (ref, item)))

def delay (state : Paced) (worker : Nat) (now : Time) : Option Int :=
  (state.retried worker now).map (fun entry => entry.2.scheduledAt - now)

def record (state : Paced) : Operation → ItemRef → Option Int
  | .requeue worker now =>
      match state.retried worker now with
      | none => state.lastDelay
      | some (ref, item) => fun other =>
          if other = ref then
            if item.retryCycle = (state.session.queue.memory ref).retryCycle then
              some (item.scheduledAt - now)
            else none
          else state.lastDelay other
  | _ => state.lastDelay

def step (state : Paced) (operation : Operation) : Option Paced :=
  (state.session.step operation).map (fun next =>
    { session := next
      lastDelay := state.record operation })

/-- The delay of a `Requeue` is positive, at most the maximum, and not below the one
before it in the same cycle. -/
def DelayRight (maxDelay : Int) (state : Paced) : Operation → Prop
  | .requeue worker now => ∀ delay, state.delay worker now = some delay →
      0 < delay ∧ delay ≤ maxDelay ∧
        ∀ ref last, state.session.held worker = some ref → state.lastDelay ref = some last →
          last ≤ delay
  | _ => True

structure Steady (maxRetries initialDelay maxDelay maxCycles : Int) (state : Paced) : Prop where
  valid : state.session.Valid
  settings : state.session.queue.settings =
    { maxRetries := maxRetries, initialRetryDelay := initialDelay, maxRetryDelay := maxDelay
      maxRetryCycles := maxCycles, shutdown := false }
  counted : ∀ ref, ref < state.session.queue.allocated →
    0 ≤ (state.session.queue.attempts ref).1
  unmade : ∀ ref, state.session.queue.allocated ≤ ref → state.lastDelay ref = none
  earlier : ∀ ref last, state.lastDelay ref = some last →
    ∃ count, 1 ≤ count ∧ count ≤ maxRetries ∧ count ≤ (state.session.queue.attempts ref).1 ∧
      last = doubledDelay initialDelay maxDelay count

section Runs

variable {maxRetries initialDelay maxDelay maxCycles : Int}

private theorem start_steady (maxRetries initialDelay maxDelay maxCycles : Int) :
    Steady maxRetries initialDelay maxDelay maxCycles
      (start maxRetries initialDelay maxDelay maxCycles) where
  valid := Session.start_valid _ _ _ _
  settings := rfl
  counted := by intro ref below; cases below
  unmade := by intro ref _above; rfl
  earlier := by intro ref last found; cases found

variable {state : Paced}

/-- Nothing but the counters of the items matters. -/
theorem Steady.moved {next : Session}
    (steady : Steady maxRetries initialDelay maxDelay maxCycles state) (valid : next.Valid)
    (settings : next.queue.settings = state.session.queue.settings)
    (allocated : next.queue.allocated = state.session.queue.allocated)
    (attempts : ∀ ref, ref < state.session.queue.allocated →
      next.queue.attempts ref = state.session.queue.attempts ref) :
    Steady maxRetries initialDelay maxDelay maxCycles
      { session := next, lastDelay := state.lastDelay } := by
  constructor
  · exact valid
  · exact settings.trans steady.settings
  · intro ref below
    dsimp only at below ⊢
    rw [allocated] at below
    rw [attempts ref below]
    exact steady.counted ref below
  · intro ref above
    dsimp only at above
    rw [allocated] at above
    exact steady.unmade ref above
  · intro ref last found
    obtain ⟨count, counted, within, reached, isLast⟩ := steady.earlier ref last found
    have below : ref < state.session.queue.allocated := by
      rcases Nat.lt_or_ge ref state.session.queue.allocated with made | above
      · exact made
      · rw [steady.unmade ref above] at found
        cases found
    refine ⟨count, counted, within, ?_, isLast⟩
    dsimp only
    rw [attempts ref below]
    exact reached

theorem Steady.enqueued (steady : Steady maxRetries initialDelay maxDelay maxCycles state)
    (key : NamespacedName) (priority : Int) (now : Time) (valid : Session.Valid
      { state.session with queue := state.session.queue.enqueue key priority now }) :
    Steady maxRetries initialDelay maxDelay maxCycles
      { session := { state.session with queue := state.session.queue.enqueue key priority now }
        lastDelay := state.lastDelay } := by
  have old (ref : ItemRef) (below : ref < state.session.queue.allocated) :
      (state.session.queue.enqueue key priority now).attempts ref =
        state.session.queue.attempts ref :=
    WorkQueue.enqueue_attempts _ _ _ _ _ (Nat.ne_of_lt below)
  have settings := WorkQueue.enqueue_settings state.session.queue key priority now
  cases known : state.session.queue.itemsMap key with
  | some existing =>
      have spec := WorkQueue.enqueue_existing _ key priority now existing known
      exact steady.moved valid settings spec.allocated old
  | none =>
      have spec := WorkQueue.enqueue_new _ key priority now known
      constructor
      · exact valid
      · exact settings.trans steady.settings
      · intro ref below
        dsimp only at below ⊢
        rw [spec.allocated] at below
        rcases Nat.lt_succ_iff_lt_or_eq.mp below with made | fresh
        · rw [old ref made]
          exact steady.counted ref made
        · have attempts := WorkQueue.enqueue_new_attempts state.session.queue key priority now known
          rw [fresh]
          exact Int.le_of_eq (congrArg Prod.fst attempts).symm
      · intro ref above
        dsimp only at above
        rw [spec.allocated] at above
        exact steady.unmade ref (Nat.le_of_succ_le above)
      · intro ref last found
        have made : ref < state.session.queue.allocated := by
          rcases Nat.lt_or_ge ref state.session.queue.allocated with made | above
          · exact made
          · rw [steady.unmade ref above] at found
            cases found
        dsimp only
        rw [old ref made]
        exact steady.earlier ref last found

theorem Steady.held_counted {worker : Nat} {ref : ItemRef}
    (steady : Steady maxRetries initialDelay maxDelay maxCycles state)
    (holds : state.session.held worker = some ref) :
    0 ≤ (state.session.queue.memory ref).retryCount :=
  steady.counted ref (steady.valid.heldBelow worker ref holds)

theorem Steady.backoff_delay {worker : Nat} {ref : ItemRef}
    (steady : Steady maxRetries initialDelay maxDelay maxCycles state)
    (configured : Configured maxRetries initialDelay maxDelay)
    (fits : DelayFits maxRetries initialDelay) (holds : state.session.held worker = some ref)
    (within : (state.session.queue.memory ref).retryCount + 1 ≤ maxRetries) :
    state.session.queue.backoffDelay ((state.session.queue.memory ref).retryCount + 1) =
      doubledDelay initialDelay maxDelay ((state.session.queue.memory ref).retryCount + 1) := by
  have counted := steady.held_counted holds
  have isInitial := congrArg WorkQueue.Settings.initialRetryDelay steady.settings
  have isMax := congrArg WorkQueue.Settings.maxRetryDelay steady.settings
  exact backoffDelay_doubled configured fits isInitial isMax (by omega) within

/-- The three outcomes of a `Requeue`: a retry in the cycle, a cooldown, or none. -/
theorem Steady.retried_cases {worker : Nat} {ref : ItemRef} (now : Time)
    (steady : Steady maxRetries initialDelay maxDelay maxCycles state)
    (configured : Configured maxRetries initialDelay maxDelay)
    (fits : DelayFits maxRetries initialDelay) (holds : state.session.held worker = some ref) :
    (∃ item, state.session.queue.retryItem (state.session.queue.memory ref) now = some item ∧
        item.retryCount = (state.session.queue.memory ref).retryCount + 1 ∧
        item.retryCycle = (state.session.queue.memory ref).retryCycle ∧
        item.retryCount ≤ maxRetries ∧
        item.scheduledAt - now = doubledDelay initialDelay maxDelay item.retryCount) ∨
      (∃ item, state.session.queue.retryItem (state.session.queue.memory ref) now = some item ∧
        item.retryCount = 0 ∧
        item.retryCycle ≠ (state.session.queue.memory ref).retryCycle ∧
        item.scheduledAt - now = maxDelay) ∨
      state.session.queue.retryItem (state.session.queue.memory ref) now = none := by
  have limit := congrArg WorkQueue.Settings.maxRetries steady.settings
  have isMax := congrArg WorkQueue.Settings.maxRetryDelay steady.settings
  dsimp only [WorkQueue.settings] at limit isMax
  have cases := WorkQueue.retryItem_retry state.session.queue (state.session.queue.memory ref) now
  generalize state.session.queue.retryItem (state.session.queue.memory ref) now = answer at cases
  cases cases with
  | backoff within =>
      rw [limit] at within
      have delay := steady.backoff_delay configured fits holds within
      refine .inl ⟨_, rfl, rfl, rfl, within, ?_⟩
      dsimp only
      rw [← delay]
      lia
  | cooldown beyond more =>
      refine .inr (.inl ⟨_, rfl, rfl, ?_, ?_⟩)
      · dsimp only
        omega
      · dsimp only
        rw [isMax]
        lia
  | givenUp beyond spent => exact .inr (.inr rfl)

theorem Steady.delayRight (steady : Steady maxRetries initialDelay maxDelay maxCycles state)
    (configured : Configured maxRetries initialDelay maxDelay)
    (fits : DelayFits maxRetries initialDelay) (operation : Operation) :
    DelayRight maxDelay state operation := by
  cases operation with
  | enqueue key priority now => trivial
  | dequeue worker now => trivial
  | done worker => trivial
  | requeue worker now =>
      intro delay isDelay
      unfold Paced.delay retried at isDelay
      cases holds : state.session.held worker with
      | none =>
          rw [holds] at isDelay
          cases isDelay
      | some ref =>
          rw [holds, Option.bind_some] at isDelay
          have counted := steady.held_counted holds
          have before : ∀ other last, some ref = some other → state.lastDelay other = some last →
              ∃ count, 1 ≤ count ∧ count ≤ (state.session.queue.memory ref).retryCount ∧
                last = doubledDelay initialDelay maxDelay count := by
            intro other last same found
            cases same
            obtain ⟨count, one, _within, reached, isLast⟩ := steady.earlier ref last found
            exact ⟨count, one, reached, isLast⟩
          rcases steady.retried_cases now configured fits holds with
            ⟨item, isItem, next, _cycle, _within, isNew⟩ | ⟨item, isItem, _zero, _cycle, isNew⟩ |
              none
          · rw [isItem] at isDelay
            cases isDelay
            dsimp only
            rw [isNew, next]
            obtain ⟨positive, bounded⟩ := doubledDelay_bounds configured
              (show 1 ≤ (state.session.queue.memory ref).retryCount + 1 by omega)
            refine ⟨positive, bounded, ?_⟩
            intro other last same found
            obtain ⟨count, one, reached, rfl⟩ := before other last same found
            exact doubledDelay_mono configured one (by omega)
          · rw [isItem] at isDelay
            cases isDelay
            dsimp only
            rw [isNew]
            refine ⟨configured.max_pos, Int.le_refl _, ?_⟩
            intro other last same found
            obtain ⟨count, one, reached, rfl⟩ := before other last same found
            exact (doubledDelay_bounds configured one).2
          · rw [none] at isDelay
            cases isDelay

structure ItemRecorded (maxRetries initialDelay maxDelay : Int) (state : Paced) (worker : Nat)
    (ref : ItemRef) (now : Time) : Prop where
  nonnegative : 0 ≤ ((state.session.queue.requeue ref now).attempts ref).1
  elsewhere : ∀ other, other ≠ ref →
    state.record (.requeue worker now) other = state.lastDelay other
  last : ∀ last, state.record (.requeue worker now) ref = some last →
    ∃ count, 1 ≤ count ∧ count ≤ maxRetries ∧
      count ≤ ((state.session.queue.requeue ref now).attempts ref).1 ∧
      last = doubledDelay initialDelay maxDelay count

private theorem requeue_retried_count (queue : WorkQueue) (ref : ItemRef) (now : Time)
    (item : WorkItem)
    (isItem : queue.retryItem (queue.memory ref) now = some item) :
    ((queue.requeue ref now).attempts ref).1 = item.retryCount := by
  obtain ⟨index, same⟩ := WorkQueue.requeue_retried queue ref now item isItem
  unfold WorkQueue.attempts
  rw [same]
  rfl

section Record

variable {state : Paced} {worker : Nat} {ref other : ItemRef} {now : Time}

private theorem record_elsewhere (holds : state.session.held worker = some ref)
    (different : other ≠ ref) :
    state.record (.requeue worker now) other = state.lastDelay other := by
  simp only [record, retried, holds, Option.bind_some]
  cases state.session.queue.retryItem (state.session.queue.memory ref) now with
  | none => rfl
  | some item => exact if_neg different

private theorem record_retried {item : WorkItem} (holds : state.session.held worker = some ref)
    (isItem : state.session.queue.retryItem (state.session.queue.memory ref) now = some item) :
    state.record (.requeue worker now) ref =
      if item.retryCycle = (state.session.queue.memory ref).retryCycle then
        some (item.scheduledAt - now)
      else none := by
  simp only [record, retried, holds, Option.bind_some, isItem, Option.map_some, if_true]

private theorem record_givenUp (holds : state.session.held worker = some ref)
    (givenUp : state.session.queue.retryItem (state.session.queue.memory ref) now = none) :
    state.record (.requeue worker now) ref = state.lastDelay ref := by
  simp only [record, retried, holds, Option.bind_some, givenUp, Option.map_none]

end Record

theorem Steady.recorded {worker : Nat} {ref : ItemRef} (now : Time)
    (steady : Steady maxRetries initialDelay maxDelay maxCycles state)
    (configured : Configured maxRetries initialDelay maxDelay)
    (fits : DelayFits maxRetries initialDelay) (holds : state.session.held worker = some ref) :
    ItemRecorded maxRetries initialDelay maxDelay state worker ref now := by
  have counted := steady.held_counted holds
  have elsewhere := fun other => @record_elsewhere state worker ref other now holds
  rcases steady.retried_cases now configured fits holds with
    ⟨item, isItem, next, cycle, within, isNew⟩ | ⟨item, isItem, zero, cycle, _isNew⟩ | none
  · have count := requeue_retried_count state.session.queue ref now item isItem
    refine ⟨by omega, elsewhere, ?_⟩
    intro last found
    rw [record_retried holds isItem, if_pos cycle, isNew] at found
    cases found
    exact ⟨item.retryCount, by omega, within, Int.le_of_eq count.symm, rfl⟩
  · have count := requeue_retried_count state.session.queue ref now item isItem
    refine ⟨by omega, elsewhere, ?_⟩
    intro last found
    rw [record_retried holds isItem, if_neg cycle] at found
    cases found
  · have spent := congrArg Prod.fst
      (WorkQueue.requeue_givenUp_attempts state.session.queue ref now none)
    have isCount : (state.session.queue.attempts ref).1 =
        (state.session.queue.memory ref).retryCount := rfl
    dsimp only at spent
    refine ⟨by omega, elsewhere, ?_⟩
    intro last found
    rw [record_givenUp holds none] at found
    obtain ⟨count, one, within, reached, isLast⟩ := steady.earlier ref last found
    exact ⟨count, one, within, by omega, isLast⟩

private theorem requeue_allocated (queue : WorkQueue) (ref : ItemRef) (now : Time) :
    (queue.requeue ref now).allocated = queue.allocated := by
  cases again : queue.retries ref now with
  | true => exact (WorkQueue.requeue_putBack queue ref now again).allocated
  | false => exact (WorkQueue.requeue_givenUp queue ref now again).allocated

theorem Steady.requeued {worker : Nat} {ref : ItemRef} (now : Time)
    (steady : Steady maxRetries initialDelay maxDelay maxCycles state)
    (configured : Configured maxRetries initialDelay maxDelay)
    (fits : DelayFits maxRetries initialDelay) (holds : state.session.held worker = some ref)
    (valid : Session.Valid
      { queue := state.session.queue.requeue ref now
        held := setHeld state.session.held worker none }) :
    Steady maxRetries initialDelay maxDelay maxCycles
      { session :=
          { queue := state.session.queue.requeue ref now
            held := setHeld state.session.held worker none }
        lastDelay := state.record (.requeue worker now) } := by
  have item := steady.recorded now configured fits holds
  have others := WorkQueue.requeue_attempts_other state.session.queue ref
  have allocated := requeue_allocated state.session.queue ref now
  have below := steady.valid.heldBelow worker ref holds
  constructor
  · exact valid
  · exact (WorkQueue.requeue_settings _ ref now).trans steady.settings
  · intro other made
    by_cases same : other = ref
    · rw [same]
      exact item.nonnegative
    · dsimp only at made ⊢
      rw [others other now same]
      exact steady.counted other (allocated ▸ made)
  · intro other above
    dsimp only at above ⊢
    rw [allocated] at above
    rw [item.elsewhere other (Nat.ne_of_gt (Nat.lt_of_lt_of_le below above))]
    exact steady.unmade other above
  · intro other last found
    by_cases same : other = ref
    · rw [same] at found ⊢
      exact item.last last found
    · dsimp only at found ⊢
      rw [item.elsewhere other same] at found
      rw [others other now same]
      exact steady.earlier other last found

private theorem step_steady (configured : Configured maxRetries initialDelay maxDelay)
    (fits : DelayFits maxRetries initialDelay) (state : Paced) (operation : Operation)
    (next : Paced) (steady : Steady maxRetries initialDelay maxDelay maxCycles state)
    (taken : state.step operation = some next) :
    Steady maxRetries initialDelay maxDelay maxCycles next := by
  obtain ⟨session, stepped, rfl⟩ := Option.map_eq_some_iff.mp taken
  have valid := Session.step_valid _ _ _ steady.valid stepped
  cases operation with
  | enqueue key priority now =>
      cases stepped
      exact steady.enqueued key priority now valid
  | dequeue worker now =>
      obtain ⟨ref, rest, _free, hands, rfl⟩ := Session.step_hands stepped
      obtain ⟨settings, attempts⟩ := WorkQueue.dequeue_settings _ _ _ _ hands
      exact steady.moved valid settings (WorkQueue.dequeue_take _ _ _ _ hands).allocated
        (fun other _ => attempts other)
  | requeue worker now =>
      obtain ⟨ref, holds, rfl⟩ := Session.step_requeue stepped
      exact steady.requeued now configured fits holds valid
  | done worker =>
      rw [Session.step_done stepped] at valid ⊢
      exact steady.moved valid rfl rfl (fun _ _ => rfl)

end Runs

/-- In every run with a configuration whose largest product fits, every delay is
positive, at most the maximum, and not below the one before it in the cycle. -/
theorem delays_right (maxRetries initialDelay maxDelay maxCycles : Int)
    (configured : Configured maxRetries initialDelay maxDelay)
    (fits : DelayFits maxRetries initialDelay) (operations : List Operation) :
    Along step (DelayRight maxDelay) (start maxRetries initialDelay maxDelay maxCycles)
      operations := by
  have steady := throughout_of_preserved step
    (Steady maxRetries initialDelay maxDelay maxCycles)
    (fun state operation next holds taken =>
      step_steady configured fits state operation next holds taken)
    (start maxRetries initialDelay maxDelay maxCycles) operations (start_steady _ _ _ _)
  exact steady.along (fun state operation holds => holds.delayRight configured fits operation)

/-- The defaults of the operator, and a template that fails twice. -/
theorem delays_right_default :
    Configured 5 1000000000 300000000000 ∧ DelayFits 5 1000000000 ∧
      Along step (DelayRight 300000000000) (start 5 1000000000 300000000000 3)
        [.enqueue ⟨"team-a", "web"⟩ 0 0, .dequeue 0 0, .requeue 0 0,
          .dequeue 0 1000000000, .requeue 0 1000000000] := by
  have configured : Configured 5 1000000000 300000000000 :=
    { retries := by decide
      initialSeconds := ⟨1, by decide, by decide⟩
      maxSeconds := ⟨300, by decide, by decide⟩
      initialFits := by decide
      maxFits := by decide }
  have fits : DelayFits 5 1000000000 := by
    unfold DelayFits
    decide
  exact ⟨configured, fits, delays_right 5 1000000000 300000000000 3 configured fits _⟩

def slowFailures : List Operation :=
  .enqueue ⟨"team-a", "web"⟩ 0 0 ::
    (List.range 30).flatMap (fun turn =>
      [.dequeue 0 (300000000000 * turn), .requeue 0 (300000000000 * turn)]) ++
    [.dequeue 0 9000000000000]

/-- With an initial delay of ten seconds the thirty-first failure gets a negative delay. -/
theorem slowFailures_negative :
    Configured 31 10000000000 300000000000 ∧
      ∃ final, run step (start 31 10000000000 300000000000 3) slowFailures = some final ∧
        final.delay 0 9000000000000 = some (-7709325833709551616) ∧
        ¬ DelayRight 300000000000 final (.requeue 0 9000000000000) := by
  refine ⟨{
      retries := by decide
      initialSeconds := ⟨10, by decide, by decide⟩
      maxSeconds := ⟨300, by decide, by decide⟩
      initialFits := by decide
      maxFits := by decide }, ?_⟩
  have negative : (run step (start 31 10000000000 300000000000 3) slowFailures).bind
      (fun final => final.delay 0 9000000000000) = some (-7709325833709551616) := by
    decide +kernel
  obtain ⟨final, ends, isDelay⟩ := Option.bind_eq_some_iff.mp negative
  refine ⟨final, ends, isDelay, ?_⟩
  intro right
  have positive := (right _ isDelay).1
  revert positive
  decide

end Paced

end KubeTemplater.Queue
