/-
The sift loops of a binary heap kept in a sequence, over an interface of three
operations: the length, the order test between two positions and the exchange
of two positions.

Each loop moves to a parent or to a child, so the position bounds the number of
its turns and is used as the recursion argument.
-/

import Mathlib.Logic.Basic

namespace KubeTemplater.Library

structure HeapInterface (σ : Type) where
  len : σ → Nat
  less : σ → Nat → Nat → Bool
  swap : σ → Nat → Nat → σ

namespace HeapInterface

variable {σ : Type} (heap : HeapInterface σ)

def upLoop : Nat → σ → Nat → σ
  | 0, state, _ => state
  | turns + 1, state, j =>
      let i := (j - 1) / 2
      if i = j || !heap.less state j i then state
      else upLoop turns (heap.swap state i j) i

def up (state : σ) (j : Nat) : σ := heap.upLoop (j + 1) state j

def smallerChild (state : σ) (i n : Nat) : Nat :=
  let left := 2 * i + 1
  if left + 1 < n && heap.less state (left + 1) left then left + 1 else left

def downLoop : Nat → σ → Nat → Nat → σ × Nat
  | 0, state, i, _ => (state, i)
  | turns + 1, state, i, n =>
      if n ≤ 2 * i + 1 then (state, i)
      else
        let j := heap.smallerChild state i n
        if !heap.less state j i then (state, i)
        else downLoop turns (heap.swap state i j) j n

/-- The flag says whether the element moved. -/
def down (state : σ) (start n : Nat) : σ × Bool :=
  let result := heap.downLoop n state start n
  (result.1, decide (start < result.2))

/-- Restores the order after the element at `i` has changed.  The parent of
position `-1` is itself and its children do not exist, so nothing moves there. -/
def fix (state : σ) (i : Int) : σ :=
  if i < 0 then state
  else
    let result := heap.down state i.toNat (heap.len state)
    if result.2 then result.1 else heap.up result.1 i.toNat

def siftLast (state : σ) : σ := heap.up state (heap.len state - 1)

def rootToLast (state : σ) : σ :=
  let n := heap.len state - 1
  (heap.down (heap.swap state 0 n) 0 n).1

section Related

variable {heap} {related : σ → σ → Prop}
  (reflexive : ∀ state, related state state)
  (transitive : ∀ first second third, related first second → related second third →
    related first third)

include reflexive transitive

/-- The exchanges of `down` stay below its bound. -/
theorem downLoop_related (turns i n : Nat) (state : σ)
    (exchange : ∀ state i j, i < n → j < n → related state (heap.swap state i j)) :
    related state (heap.downLoop turns state i n).1 := by
  induction turns generalizing state i with
  | zero => exact reflexive state
  | succ turns ih =>
      unfold downLoop
      dsimp only
      split
      · exact reflexive state
      · rename_i inside
        split
        · exact reflexive state
        · have chosen : heap.smallerChild state i n < n := by
            unfold smallerChild
            dsimp only
            split
            · rename_i right
              rw [Bool.and_eq_true, decide_eq_true_eq] at right
              exact right.1
            · omega
          exact transitive _ _ _ (exchange state i _ (by omega) chosen) (ih _ _)

variable (exchange : ∀ state i j, related state (heap.swap state i j))

include exchange

theorem upLoop_related (turns : Nat) (state : σ) (j : Nat) :
    related state (heap.upLoop turns state j) := by
  induction turns generalizing state j with
  | zero => exact reflexive state
  | succ turns ih =>
      unfold upLoop
      dsimp only
      split
      · exact reflexive state
      · exact transitive _ _ _ (exchange state _ j) (ih _ _)

theorem siftLast_related (state : σ) : related state (heap.siftLast state) :=
  upLoop_related reflexive transitive exchange _ state _

theorem rootToLast_related (state : σ) : related state (heap.rootToLast state) :=
  transitive _ _ _ (exchange state 0 (heap.len state - 1))
    (downLoop_related reflexive transitive _ _ _ _
      (fun current i j _ _ => exchange current i j))

theorem fix_related (state : σ) (i : Int) : related state (heap.fix state i) := by
  have moved := downLoop_related reflexive transitive (heap.len state) i.toNat
    (heap.len state) state (fun current i j _ _ => exchange current i j)
  unfold fix
  dsimp only [down]
  split
  · exact reflexive state
  · split
    · exact moved
    · exact transitive _ _ _ moved (upLoop_related reflexive transitive exchange _ _ _)

end Related

end HeapInterface

end KubeTemplater.Library
