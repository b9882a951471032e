/-
The sift loops restore the order of a binary heap.

Positions are compared through the interface alone: the order test is a strict
weak order on the positions in use and an exchange permutes them.  A heap in
which one element may be out of place is described by the pairs that do not
touch its position and by the pairs across it; a sift up needs in addition that
the element is in order with its children, a sift down repairs these.
-/

import KubeTemplater.Library.BinaryHeap
import Mathlib.Logic.Equiv.Basic

namespace KubeTemplater.Library.HeapInterface

variable {σ : Type} (heap : HeapInterface σ)

structure Lawful : Prop where
  asymm : ∀ state i j, heap.less state i j = true → heap.less state j i = false
  trans : ∀ state i j k, j < heap.len state → heap.less state j i = false →
    heap.less state k j = false → heap.less state k i = false
  len_swap : ∀ state i j, heap.len (heap.swap state i j) = heap.len state
  less_swap : ∀ state i j a b, i < heap.len state → j < heap.len state →
    heap.less (heap.swap state i j) a b =
      heap.less state (Equiv.swap i j a) (Equiv.swap i j b)

def parent (k : Nat) : Nat := (k - 1) / 2

theorem parent_lt {k : Nat} (positive : 0 < k) : parent k < k := by
  unfold parent
  omega

def IsHeap (state : σ) (n : Nat) : Prop :=
  ∀ k, 0 < k → k < n → heap.less state k (parent k) = false

structure OrderedBut (state : σ) (n hole : Nat) : Prop where
  apart : ∀ k, 0 < k → k < n → k ≠ hole → parent k ≠ hole → heap.less state k (parent k) = false
  across : 0 < hole → ∀ k, 0 < k → k < n → parent k = hole →
    heap.less state k (parent hole) = false

def Above (state : σ) (hole : Nat) : Prop :=
  0 < hole → heap.less state hole (parent hole) = false

def Below (state : σ) (n hole : Nat) : Prop :=
  ∀ k, 0 < k → k < n → parent k = hole → heap.less state k hole = false

/-- Where the loop of `down` ends everything is in order, except that an element
which has not moved may still be less than its parent. -/
structure Sunk (before : σ) (start n : Nat) (after : σ) (hole : Nat) : Prop where
  ordered : heap.OrderedBut after n hole
  below : heap.Below after n hole
  moved : (hole = start ∧ after = before) ∨ (start < hole ∧ heap.Above after hole)

variable {heap}

theorem Lawful.irrefl (lawful : heap.Lawful) (state : σ) (k : Nat) :
    heap.less state k k = false := by
  cases self : heap.less state k k with
  | false => rfl
  | true =>
      rw [lawful.asymm state k k self] at self
      cases self

theorem OrderedBut.isHeap {state : σ} {n hole : Nat} (ordered : heap.OrderedBut state n hole)
    (above : heap.Above state hole) (below : heap.Below state n hole) : heap.IsHeap state n := by
  intro k positive inside
  by_cases here : k = hole
  · subst k
    exact above positive
  · by_cases child : parent k = hole
    · rw [child]
      exact below k positive inside child
    · exact ordered.apart k positive inside here child

variable (lawful : heap.Lawful)
include lawful

theorem IsHeap.root {state : σ} {n : Nat} (isHeap : heap.IsHeap state n)
    (bound : n ≤ heap.len state) (k : Nat) (inside : k < n) : heap.less state k 0 = false := by
  induction k using Nat.strongRecOn with
  | ind k ih =>
      rcases Nat.eq_zero_or_pos k with zero | positive
      · subst k
        exact lawful.irrefl state 0
      · have smaller := parent_lt positive
        exact lawful.trans state 0 (parent k) k (by omega)
          (ih (parent k) smaller (by omega)) (isHeap k positive inside)

theorem OrderedBut.raise {state : σ} {n hole : Nat} (ordered : heap.OrderedBut state n hole)
    (bound : n ≤ heap.len state) (inside : hole < n)
    (positive : 0 < hole) (smaller : heap.less state hole (parent hole) = true) :
    heap.OrderedBut (heap.swap state (parent hole) hole) n (parent hole) ∧
      heap.Below (heap.swap state (parent hole) hole) n (parent hole) := by
  have up := parent_lt positive
  have exchanged (a b : Nat) := lawful.less_swap state (parent hole) hole a b
    (by omega) (by omega)
  have reversed := lawful.asymm _ _ _ smaller
  refine ⟨⟨?_, ?_⟩, ?_⟩
  · intro k kPositive kInside kNot kChild
    have kHole : k ≠ hole := fun same => kChild (congrArg parent same)
    rw [exchanged, Equiv.swap_apply_of_ne_of_ne kNot kHole]
    by_cases child : parent k = hole
    · rw [child, Equiv.swap_apply_right]
      exact ordered.across positive k kPositive kInside child
    · rw [Equiv.swap_apply_of_ne_of_ne kChild child]
      exact ordered.apart k kPositive kInside kHole child
  · intro upPositive k kPositive kInside kChild
    have higher := parent_lt upPositive
    have upOrdered := ordered.apart (parent hole) upPositive (by omega) (by omega) (by omega)
    rw [exchanged, Equiv.swap_apply_of_ne_of_ne (x := parent (parent hole)) (by omega) (by omega)]
    by_cases kHole : k = hole
    · rw [kHole, Equiv.swap_apply_right]
      exact upOrdered
    · have kNot : k ≠ parent hole := by
        have := parent_lt kPositive
        omega
      rw [Equiv.swap_apply_of_ne_of_ne kNot kHole]
      have sibling := ordered.apart k kPositive kInside kHole (by omega)
      rw [kChild] at sibling
      exact lawful.trans state _ (parent hole) k (by omega) upOrdered sibling
  · intro k kPositive kInside kChild
    rw [exchanged, Equiv.swap_apply_left]
    by_cases kHole : k = hole
    · rw [kHole, Equiv.swap_apply_right]
      exact reversed
    · have kNot : k ≠ parent hole := by
        have := parent_lt kPositive
        omega
      rw [Equiv.swap_apply_of_ne_of_ne kNot kHole]
      have sibling := ordered.apart k kPositive kInside kHole (by omega)
      rw [kChild] at sibling
      exact lawful.trans state hole (parent hole) k (by omega) reversed sibling

theorem upLoop_isHeap (turns : Nat) (state : σ) (n hole : Nat) (enough : hole < turns)
    (ordered : heap.OrderedBut state n hole) (below : heap.Below state n hole)
    (bound : n ≤ heap.len state) (inside : hole < n) :
    heap.IsHeap (heap.upLoop turns state hole) n := by
  induction turns generalizing state hole with
  | zero => omega
  | succ turns ih =>
      unfold upLoop
      dsimp only
      split
      · rename_i stops
        refine ordered.isHeap ?_ below
        intro positive
        have different : (hole - 1) / 2 ≠ hole := by omega
        rw [Bool.or_eq_true, decide_eq_true_eq, Bool.not_eq_true'] at stops
        exact stops.resolve_left different
      · rename_i goesOn
        rw [Bool.or_eq_true, decide_eq_true_eq, Bool.not_eq_true', not_or,
          Bool.not_eq_false] at goesOn
        have positive : 0 < hole := by omega
        obtain ⟨raised, raisedBelow⟩ := ordered.raise lawful bound inside positive goesOn.2
        refine ih _ _ ?_ raised raisedBelow ?_ ?_
        · exact Nat.lt_of_lt_of_le (parent_lt positive) (Nat.le_of_lt_succ enough)
        · rw [lawful.len_swap]
          exact bound
        · exact Nat.lt_trans (parent_lt positive) inside

theorem siftLast_isHeap (state : σ) (n : Nat) (length : heap.len state = n + 1)
    (isHeap : heap.IsHeap state n) : heap.IsHeap (heap.siftLast state) (n + 1) := by
  unfold siftLast up
  rw [length, Nat.add_sub_cancel]
  refine upLoop_isHeap lawful (n + 1) state (n + 1) n (Nat.lt_succ_self n) ⟨?_, ?_⟩ ?_
    (Nat.le_of_eq length.symm) (Nat.lt_succ_self n)
  · intro k positive inside different _child
    exact isHeap k positive (by omega)
  · intro _positive k positive inside child
    have := parent_lt positive
    omega
  · intro k positive inside child
    have := parent_lt positive
    omega

theorem smallerChild_spec (state : σ) (i n : Nat) (inside : 2 * i + 1 < n) :
    parent (heap.smallerChild state i n) = i ∧ 0 < heap.smallerChild state i n ∧
      heap.smallerChild state i n < n ∧
      ∀ k, 0 < k → k < n → parent k = i →
        heap.less state k (heap.smallerChild state i n) = false := by
  have children (k : Nat) (positive : 0 < k) (child : parent k = i) :
      k = 2 * i + 1 ∨ k = 2 * i + 1 + 1 := by
    unfold parent at child
    omega
  unfold smallerChild
  dsimp only
  split
  · rename_i right
    rw [Bool.and_eq_true, decide_eq_true_eq] at right
    refine ⟨by unfold parent; omega, by omega, right.1, ?_⟩
    intro k positive _inside child
    rcases children k positive child with rfl | rfl
    · exact lawful.asymm _ _ _ right.2
    · exact lawful.irrefl state _
  · rename_i left
    rw [Bool.and_eq_true, decide_eq_true_eq] at left
    refine ⟨by unfold parent; omega, by omega, inside, ?_⟩
    intro k positive kInside child
    rcases children k positive child with rfl | rfl
    · exact lawful.irrefl state _
    · exact Bool.eq_false_iff.mpr (fun isLess => left ⟨kInside, isLess⟩)

theorem OrderedBut.sink {state : σ} {n hole child : Nat}
    (ordered : heap.OrderedBut state n hole) (bound : n ≤ heap.len state)
    (isChild : parent child = hole) (positive : 0 < child) (inside : child < n)
    (least : ∀ k, 0 < k → k < n → parent k = hole → heap.less state k child = false)
    (smaller : heap.less state child hole = true) :
    heap.OrderedBut (heap.swap state hole child) n child ∧
      heap.Above (heap.swap state hole child) child := by
  have up : hole < child := isChild ▸ parent_lt positive
  have exchanged (a b : Nat) := lawful.less_swap state hole child a b (by omega) (by omega)
  refine ⟨⟨?_, ?_⟩, ?_⟩
  · intro k kPositive kInside kNot kChild
    have higher := parent_lt kPositive
    rw [exchanged]
    by_cases kHole : k = hole
    · subst k
      rw [Equiv.swap_apply_left, Equiv.swap_apply_of_ne_of_ne (by omega) (by omega)]
      exact ordered.across kPositive child positive inside isChild
    · rw [Equiv.swap_apply_of_ne_of_ne kHole kNot]
      by_cases sibling : parent k = hole
      · rw [sibling, Equiv.swap_apply_left]
        exact least k kPositive kInside sibling
      · rw [Equiv.swap_apply_of_ne_of_ne sibling kChild]
        exact ordered.apart k kPositive kInside kHole sibling
  · intro _positive k kPositive kInside kChild
    have higher := parent_lt kPositive
    rw [exchanged, isChild, Equiv.swap_apply_left,
      Equiv.swap_apply_of_ne_of_ne (by omega) (by omega), ← kChild]
    exact ordered.apart k kPositive kInside (by omega) (by omega)
  · intro _positive
    rw [exchanged, isChild, Equiv.swap_apply_left, Equiv.swap_apply_right]
    exact lawful.asymm _ _ _ smaller

theorem downLoop_sunk (turns : Nat) (state : σ) (n hole : Nat) (enough : n ≤ hole + turns)
    (ordered : heap.OrderedBut state n hole) (bound : n ≤ heap.len state) :
    heap.Sunk state hole n (heap.downLoop turns state hole n).1
      (heap.downLoop turns state hole n).2 := by
  induction turns generalizing state hole with
  | zero =>
      refine ⟨ordered, ?_, .inl ⟨rfl, rfl⟩⟩
      intro k positive inside child
      have up : parent k < k := parent_lt positive
      have here : parent k = hole := child
      omega
  | succ turns ih =>
      unfold downLoop
      dsimp only
      split
      · rename_i leaf
        refine ⟨ordered, ?_, .inl ⟨rfl, rfl⟩⟩
        intro k positive inside child
        unfold parent at child
        omega
      · rename_i inner
        obtain ⟨isChild, positive, inside, least⟩ :=
          smallerChild_spec lawful state hole n (by omega)
        split
        · rename_i stops
          rw [Bool.not_eq_true'] at stops
          refine ⟨ordered, ?_, .inl ⟨rfl, rfl⟩⟩
          intro k kPositive kInside kChild
          exact lawful.trans state hole _ k (by omega) stops (least k kPositive kInside kChild)
        · rename_i goesOn
          rw [Bool.not_eq_true', Bool.not_eq_false] at goesOn
          have up : hole < heap.smallerChild state hole n := by
            have := parent_lt positive
            omega
          obtain ⟨sunk, above⟩ := ordered.sink lawful bound isChild positive inside least goesOn
          have rest := ih _ _ (by omega) sunk (by rw [lawful.len_swap]; exact bound)
          refine ⟨rest.ordered, rest.below, .inr ?_⟩
          rcases rest.moved with ⟨same, unchanged⟩ | ⟨further, aboveThere⟩
          · rw [same, unchanged]
            exact ⟨up, above⟩
          · exact ⟨Nat.lt_trans up further, aboveThere⟩

/-- `fix` restores the order when one element has changed. -/
theorem fix_isHeap (state : σ) (i : Nat) (inside : i < heap.len state)
    (ordered : heap.OrderedBut state (heap.len state) i) :
    heap.IsHeap (heap.fix state i) (heap.len state) := by
  have sunk := downLoop_sunk lawful (heap.len state) state (heap.len state) i
    (Nat.le_add_left _ _) ordered (Nat.le_refl _)
  unfold fix
  rw [if_neg (by omega), Int.toNat_natCast]
  dsimp only [down]
  split
  · rename_i moved
    rcases sunk.moved with ⟨same, _unchanged⟩ | ⟨_further, above⟩
    · rw [same, decide_eq_true_eq] at moved
      exact absurd moved (Nat.lt_irrefl i)
    · exact sunk.ordered.isHeap above sunk.below
  · rename_i stayed
    rcases sunk.moved with ⟨same, unchanged⟩ | ⟨further, _above⟩
    · have below := sunk.below
      rw [same, unchanged] at below
      rw [unchanged]
      exact upLoop_isHeap lawful (i + 1) state _ i (Nat.lt_succ_self i) ordered below
        (Nat.le_refl _) inside
    · exact absurd (decide_eq_true further) stayed

theorem rootToLast_isHeap (state : σ) (nonempty : 0 < heap.len state)
    (isHeap : heap.IsHeap state (heap.len state)) :
    heap.IsHeap (heap.rootToLast state) (heap.len state - 1) := by
  have ordered : heap.OrderedBut (heap.swap state 0 (heap.len state - 1))
      (heap.len state - 1) 0 := by
    constructor
    · intro k positive inside _here child
      have higher := parent_lt positive
      rw [lawful.less_swap state 0 (heap.len state - 1) k (parent k) (by omega) (by omega),
        Equiv.swap_apply_of_ne_of_ne (by omega) (by omega),
        Equiv.swap_apply_of_ne_of_ne child (by omega)]
      exact isHeap k positive (by omega)
    · intro impossible
      omega
  have sunk := downLoop_sunk lawful (heap.len state - 1) _ (heap.len state - 1) 0
    (Nat.le_add_left _ _) ordered (by rw [lawful.len_swap]; exact Nat.sub_le _ _)
  refine sunk.ordered.isHeap ?_ sunk.below
  rcases sunk.moved with ⟨same, _unchanged⟩ | ⟨_further, above⟩
  · intro positive
    exact absurd same (Nat.pos_iff_ne_zero.mp positive)
  · exact above

end KubeTemplater.Library.HeapInterface
