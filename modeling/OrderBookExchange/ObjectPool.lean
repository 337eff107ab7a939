import Mathlib.Logic.Function.Basic
import Mathlib.Data.List.Nodup
import Mathlib.Tactic

/-!
# The object pool

Storage that hands out stable pointers.  A pointer is a position of the backing
deque, which only ever grows at its end, so pointers are natural numbers.
Released positions go to a free list and the most recently released one is
handed out first.
-/

namespace OrderBookExchange

/-- The pool: the objects, how many of them were ever constructed, and the
free list with its back element first. -/
structure ObjectPool (T : Type) where
  storage : Nat → T
  capacity : Nat
  freeList : List Nat

namespace ObjectPool

variable {T : Type}

/-- The free list after the constructor pushed the objects in order. -/
def initialFreeList : Nat → List Nat
  | 0 => []
  | size + 1 => size :: initialFreeList size

def new [Inhabited T] (initialCapacity : Nat) : ObjectPool T where
  storage := fun _ => default
  capacity := initialCapacity
  freeList := initialFreeList initialCapacity

/-- Take an object from the free list, growing the pool if it is empty. -/
def acquire (pool : ObjectPool T) : Nat × ObjectPool T :=
  match pool.freeList with
  | [] => (pool.capacity, { pool with capacity := pool.capacity + 1 })
  | ptr :: rest => (ptr, { pool with freeList := rest })

def release (pool : ObjectPool T) (ptr : Nat) : ObjectPool T :=
  { pool with freeList := ptr :: pool.freeList }

def load (pool : ObjectPool T) (ptr : Nat) : T :=
  pool.storage ptr

/-- Overwrite the object behind a pointer. -/
def store (pool : ObjectPool T) (ptr : Nat) (value : T) : ObjectPool T :=
  { pool with storage := Function.update pool.storage ptr value }

def activeCount (pool : ObjectPool T) : Nat :=
  pool.capacity - pool.freeList.length

@[simp]
theorem load_store_self (pool : ObjectPool T) (ptr : Nat) (value : T) :
    (pool.store ptr value).load ptr = value := by
  simp [store, load]

theorem load_store_of_ne (pool : ObjectPool T) {ptr other : Nat} (value : T)
    (different : other ≠ ptr) :
    (pool.store ptr value).load other = pool.load other := by
  simp [store, load, different]

@[simp]
theorem load_release (pool : ObjectPool T) (ptr other : Nat) :
    (pool.release ptr).load other = pool.load other :=
  rfl

@[simp]
theorem load_acquire (pool : ObjectPool T) (other : Nat) :
    pool.acquire.2.load other = pool.load other := by
  unfold acquire
  split <;> rfl

theorem acquire_of_empty {pool : ObjectPool T} (empty : pool.freeList = []) :
    pool.acquire.1 = pool.capacity ∧ pool.acquire.2.capacity = pool.capacity + 1 := by
  rw [acquire, empty]
  exact ⟨rfl, rfl⟩

/-- The free list holds distinct constructed objects. -/
structure Sound (pool : ObjectPool T) : Prop where
  free_nodup : pool.freeList.Nodup
  free_lt : ∀ ptr ∈ pool.freeList, ptr < pool.capacity

/-- A pointer that was handed out and not released since. -/
def InUse (pool : ObjectPool T) (ptr : Nat) : Prop :=
  ptr < pool.capacity ∧ ptr ∉ pool.freeList

theorem mem_initialFreeList {size ptr : Nat} :
    ptr ∈ initialFreeList size ↔ ptr < size := by
  induction size with
  | zero => simp [initialFreeList]
  | succ size ih =>
      simp only [initialFreeList, List.mem_cons, ih]
      omega

theorem initialFreeList_nodup (size : Nat) : (initialFreeList size).Nodup := by
  induction size with
  | zero => simp [initialFreeList]
  | succ size ih => simp [initialFreeList, ih, mem_initialFreeList]

theorem sound_new [Inhabited T] (initialCapacity : Nat) :
    (new initialCapacity : ObjectPool T).Sound where
  free_nodup := initialFreeList_nodup initialCapacity
  free_lt := fun _ member => mem_initialFreeList.mp member

section Acquire

variable {pool : ObjectPool T}

theorem Sound.acquire (sound : pool.Sound) : pool.acquire.2.Sound := by
  unfold ObjectPool.acquire
  split
  · next empty =>
      constructor
      · simp [empty]
      · simp [empty]
  · next ptr rest shape =>
      have nodup := sound.free_nodup
      rw [shape, List.nodup_cons] at nodup
      constructor
      · exact nodup.2
      · intro other member
        exact sound.free_lt other (by simp [shape, member])

theorem Sound.acquired_inUse (sound : pool.Sound) :
    pool.acquire.2.InUse pool.acquire.1 ∧ ¬ pool.InUse pool.acquire.1 := by
  unfold ObjectPool.acquire
  split
  · next empty => simp [InUse, empty]
  · next ptr rest shape =>
      have nodup := sound.free_nodup
      rw [shape, List.nodup_cons] at nodup
      have bound := sound.free_lt ptr (by simp [shape])
      simp [InUse, shape, nodup.1, bound]

theorem InUse.acquire {ptr : Nat} (inUse : pool.InUse ptr) :
    pool.acquire.2.InUse ptr := by
  unfold ObjectPool.acquire
  split
  · next empty =>
      exact ⟨Nat.lt_succ_of_lt inUse.1, by simp [empty]⟩
  · next head rest shape =>
      obtain ⟨bound, notFree⟩ := inUse
      exact ⟨bound, fun member => notFree (by simp [shape, member])⟩

theorem Sound.release (sound : pool.Sound) {ptr : Nat} (inUse : pool.InUse ptr) :
    (pool.release ptr).Sound where
  free_nodup := List.nodup_cons.mpr ⟨inUse.2, sound.free_nodup⟩
  free_lt := by
    intro other member
    rcases List.mem_cons.mp member with rfl | member
    · exact inUse.1
    · exact sound.free_lt other member

theorem InUse.release {ptr other : Nat} (inUse : pool.InUse other)
    (different : other ≠ ptr) : (pool.release ptr).InUse other :=
  ⟨inUse.1, by simp [ObjectPool.release, different, inUse.2]⟩

end Acquire

end ObjectPool

end OrderBookExchange
