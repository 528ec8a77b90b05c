import Mathlib.Data.List.Basic

/-!
# A bounded queue between threads

`Queue α` is a first-in first-out queue with a bound and a count of unfinished tasks.  Each of its
operations is one step and fails instead of waiting:

* `put?`    at the end, unless the queue is full (a bound of `0` is no bound);
* `get?`    from the front, unless the queue is empty;
* `done?`   one task is finished, unless none is left.

The lemmas say what a successful operation has done (`put?_eq_some`, `get?_eq_some`,
`done?_eq_some`) and when there is one.
-/

namespace Fifo

structure Queue (α : Type) where
  maxsize : Nat
  items : List α
  unfinished : Nat
deriving DecidableEq, Repr

namespace Queue
variable {α : Type}

def empty (maxsize : Nat) : Queue α := ⟨maxsize, [], 0⟩

def full (q : Queue α) : Bool := decide (0 < q.maxsize ∧ q.maxsize ≤ q.items.length)

def put? (q : Queue α) (x : α) : Option (Queue α) :=
  if q.full then none
  else some { q with items := q.items ++ [x], unfinished := q.unfinished + 1 }

def get? (q : Queue α) : Option (α × Queue α) :=
  match q.items with
  | [] => none
  | x :: rest => some (x, { q with items := rest })

def done? (q : Queue α) : Option (Queue α) :=
  if q.unfinished = 0 then none else some { q with unfinished := q.unfinished - 1 }

variable {q q' : Queue α} {x : α}

theorem put?_eq_some :
    q.put? x = some q' ↔ q.full = false ∧
      q' = { q with items := q.items ++ [x], unfinished := q.unfinished + 1 } := by
  unfold put?
  cases hfull : q.full <;> simp [eq_comm]

theorem get?_eq_some :
    q.get? = some (x, q') ↔ q.items = x :: q'.items ∧ q' = { q with items := q'.items } := by
  unfold get?
  cases hitems : q.items with
  | nil => simp
  | cons y rest =>
    simp only [Option.some.injEq, Prod.mk.injEq, List.cons.injEq]
    constructor
    · intro h
      obtain ⟨rfl, rfl⟩ := h
      exact ⟨⟨rfl, rfl⟩, rfl⟩
    · intro h
      obtain ⟨⟨rfl, rfl⟩, h⟩ := h
      exact ⟨rfl, h.symm⟩

theorem get?_eq_none : q.get? = none ↔ q.items = [] := by
  unfold get?
  cases hitems : q.items <;> simp

theorem done?_eq_some :
    q.done? = some q' ↔ 0 < q.unfinished ∧ q' = { q with unfinished := q.unfinished - 1 } := by
  unfold done?
  by_cases h : q.unfinished = 0
  · simp [h]
  · simp [h, eq_comm, Nat.pos_of_ne_zero h]

theorem length_put? (hpos : 0 < q.maxsize) (h : q.put? x = some q') :
    q'.items.length ≤ q'.maxsize := by
  obtain ⟨hfull, rfl⟩ := put?_eq_some.mp h
  have hlt : ¬ (0 < q.maxsize ∧ q.maxsize ≤ q.items.length) := of_decide_eq_false hfull
  show (q.items ++ [x]).length ≤ q.maxsize
  rw [List.length_append]
  show q.items.length + 1 ≤ q.maxsize
  omega

end Queue

end Fifo
