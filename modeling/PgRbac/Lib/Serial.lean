import PgRbac.Lib.Run
import PgRbac.Lib.Except
import Mathlib.Logic.Function.Basic

/-!
# Transactions that first take one guard

A transaction is a program of statements.  A statement reads the committed state with the writes of
its own transaction (`READ COMMITTED`), or adds a write; the writes reach the committed state at the
end, all at once.  Sessions interleave statement by statement.  The guard is one lock that a
transaction keeps until it ends.

* `Txn`, `Txn.run`     programs, and what a program does alone;
* `next`, `system`     the sessions, with calls that are prepared outside their transaction;
* `Alone`              a session with the guard will end as if it ran alone from here;
* `serial`, `commit_serial`  when every program starts with the guard, a committed state is what one
                       program makes, alone, of the committed state before it.
-/

set_option linter.unusedVariables false
set_option linter.unusedSectionVars false

namespace Serial

open Trace Fallible

/-! ## programs -/

inductive Txn (σ ε α : Type) where
  | done (a : α)
  | fail (e : ε)
  /-- takes the guard, or waits for it -/
  | lock (rest : Txn σ ε α)
  | read (rest : σ → Txn σ ε α)
  | write (change : σ → Except ε σ) (rest : Txn σ ε α)

namespace Txn
variable {σ ε α β : Type}

def bind : Txn σ ε α → (α → Txn σ ε β) → Txn σ ε β
  | done a, f => f a
  | fail e, _ => fail e
  | lock rest, f => lock (rest.bind f)
  | read rest, f => read fun s => (rest s).bind f
  | write change rest, f => write change (rest.bind f)

instance instMonad : Monad (Txn σ ε) where
  pure := done
  bind := bind

/-- what a program does alone -/
def run : Txn σ ε α → σ → Except ε (α × σ)
  | done a, s => .ok (a, s)
  | fail e, _ => .error e
  | lock rest, s => rest.run s
  | read rest, s => (rest s).run s
  | write change rest, s => change s >>= rest.run

def guard : Txn σ ε Unit := lock (done ())

def ask (f : σ → α) : Txn σ ε α := read fun s => done (f s)

def lift : Except ε α → Txn σ ε α
  | .ok a => done a
  | .error e => fail e

/-- a read that may raise -/
def query (f : σ → Except ε α) : Txn σ ε α := read fun s => lift (f s)

def modify (change : σ → Except ε σ) : Txn σ ε Unit := write change (done ())

@[simp] theorem run_pure (a : α) (s : σ) : (pure a : Txn σ ε α).run s = .ok (a, s) := rfl

@[simp] theorem run_bind (p : Txn σ ε α) (f : α → Txn σ ε β) (s : σ) :
    (p >>= f).run s = p.run s >>= fun r => (f r.1).run r.2 := by
  show (p.bind f).run s = _
  induction p generalizing s with
  | done a => rfl
  | fail e => rfl
  | lock rest ih => exact ih s
  | read rest ih => exact ih s s
  | write change rest ih =>
    show (change s >>= (rest.bind f).run) = (change s >>= rest.run) >>= _
    cases change s with
    | ok s' => exact ih s'
    | error e => rfl

@[simp] theorem run_guard (s : σ) : (guard : Txn σ ε Unit).run s = .ok ((), s) := rfl

@[simp] theorem run_ask (f : σ → α) (s : σ) : (ask f : Txn σ ε α).run s = .ok (f s, s) := rfl

@[simp] theorem run_lift (x : Except ε α) (s : σ) :
    (lift x : Txn σ ε α).run s = x.map fun a => (a, s) := by
  cases x <;> rfl

@[simp] theorem run_query (f : σ → Except ε α) (s : σ) :
    (query f).run s = (f s).map fun a => (a, s) := run_lift (f s) s

@[simp] theorem run_modify (change : σ → Except ε σ) (s : σ) :
    (modify change).run s = (change s).map fun s' => ((), s') := by
  show (change s >>= fun s' => .ok ((), s')) = _
  cases change s <;> rfl

end Txn

/-! ## sessions -/

inductive Session (σ ε α κ : Type) where
  | idle
  /-- outside a transaction -/
  | preparing (call : κ)
  | running (call : κ) (program : Txn σ ε α) (writes : List (σ → Except ε σ))

structure Sessions (ι σ ε α κ : Type) where
  committed : σ
  lock : Option ι
  session : ι → Session σ ε α κ

inductive Move (ι κ : Type) where
  | call (i : ι) (call : κ)
  | prepare (i : ι)
  /-- the next statement, or the `COMMIT` -/
  | step (i : ι)
  | rollback (i : ι)

section
variable {ι σ ε α κ : Type} [DecidableEq ι]

/-- the committed state with the writes of a transaction -/
def view : List (σ → Except ε σ) → σ → Except ε σ
  | [], s => .ok s
  | change :: writes, s => change s >>= view writes

theorem view_concat (writes : List (σ → Except ε σ)) (change : σ → Except ε σ) (s : σ) :
    view (writes ++ [change]) s = view writes s >>= change := by
  induction writes generalizing s with
  | nil =>
    show (change s >>= fun s' => .ok s') = change s
    cases change s <;> rfl
  | cons first writes ih =>
    show (first s >>= view (writes ++ [change])) = (first s >>= view writes) >>= change
    cases first s with
    | ok s' => exact ih s'
    | error e => rfl

namespace Sessions

def put (s : Sessions ι σ ε α κ) (i : ι) (x : Session σ ε α κ) : Sessions ι σ ε α κ :=
  { s with session := Function.update s.session i x }

/-- a transaction ends, and its guard is free -/
def finish (s : Sessions ι σ ε α κ) (i : ι) (committed : σ) : Sessions ι σ ε α κ where
  committed := committed
  lock := if s.lock = some i then none else s.lock
  session := Function.update s.session i .idle

end Sessions

variable (prepare : κ → Except ε (Txn σ ε α))

/-- the next statement of a program -/
def statement (s : Sessions ι σ ε α κ) (i : ι) (call : κ) (writes : List (σ → Except ε σ)) :
    Txn σ ε α → Option (Sessions ι σ ε α κ)
  | .done _ =>
    match view writes s.committed with
    | .ok committed => some (s.finish i committed)
    | .error _ => some (s.finish i s.committed)
  | .fail _ => some (s.finish i s.committed)
  | .lock rest =>
    if s.lock = none ∨ s.lock = some i then
      some { s.put i (.running call rest writes) with lock := some i }
    else none
  | .read rest =>
    match view writes s.committed with
    | .ok seen => some (s.put i (.running call (rest seen) writes))
    | .error _ => some (s.finish i s.committed)
  | .write change rest =>
    match view writes s.committed >>= change with
    | .ok _ => some (s.put i (.running call rest (writes ++ [change])))
    | .error _ => some (s.finish i s.committed)

def next (s : Sessions ι σ ε α κ) : Move ι κ → Option (Sessions ι σ ε α κ)
  | .call i call =>
    match s.session i with
    | .idle => some (s.put i (.preparing call))
    | _ => none
  | .prepare i =>
    match s.session i with
    | .preparing call =>
      match prepare call with
      | .ok program => some (s.put i (.running call program []))
      | .error _ => some (s.put i .idle)
    | _ => none
  | .step i =>
    match s.session i with
    | .running call program writes => statement s i call writes program
    | _ => none
  | .rollback i =>
    match s.session i with
    | .running _ _ _ => some (s.finish i s.committed)
    | _ => none

/-- no call is under way in the given state -/
def quiet (s : σ) : Sessions ι σ ε α κ := ⟨s, none, fun _ => .idle⟩

def system (start : σ) : System (Sessions ι σ ε α κ) (Move ι κ) where
  init s := s = quiet start
  step s move s' := next prepare s move = some s'

/-- the step is the `COMMIT` of a call, with its result -/
def Commits (s : Sessions ι σ ε α κ) (move : Move ι κ) (call : κ) (a : α) : Prop :=
  ∃ i writes, move = .step i ∧ s.session i = .running call (.done a) writes

/-- every program takes the guard before anything else -/
def Guarded : Prop := ∀ call program, prepare call = .ok program → ∃ rest, program = .lock rest

/-! ## what a session will end as -/

/-- a transaction has done nothing yet, or it has the guard and ends as its whole program would,
alone, from the committed state -/
def Alone (s : Sessions ι σ ε α κ) (i : ι) : Session σ ε α κ → Prop
  | .idle => True
  | .preparing _ => True
  | .running call program writes => (writes = [] ∧ prepare call = .ok program) ∨
      (s.lock = some i ∧ ∃ start seen, prepare call = .ok start ∧
        view writes s.committed = .ok seen ∧ program.run seen = start.run s.committed)

variable {prepare} {s s' : Sessions ι σ ε α κ}

/-- a session whose guard is kept is not disturbed while nothing commits -/
theorem Alone.frame {i : ι} {x : Session σ ε α κ} (h : Alone prepare s i x)
    (hcommitted : s'.committed = s.committed) (hlock : s.lock = some i → s'.lock = some i) :
    Alone prepare s' i x := by
  cases x with
  | idle => trivial
  | preparing call => trivial
  | running call program writes =>
    rcases h with hfresh | ⟨hheld, hends⟩
    · exact .inl hfresh
    · refine .inr ⟨hlock hheld, ?_⟩
      rw [hcommitted]
      exact hends

theorem Alone.fresh {i : ι} {x : Session σ ε α κ} (h : Alone prepare s i x)
    (hlock : s.lock ≠ some i) : Alone prepare s' i x := by
  cases x with
  | idle => trivial
  | preparing call => trivial
  | running call program writes =>
    rcases h with hfresh | ⟨hheld, -⟩
    · exact .inl hfresh
    · exact absurd hheld hlock

/-- a program that is past its guard has it -/
theorem Alone.held (hguard : Guarded prepare) {i : ι} {call : κ} {program : Txn σ ε α}
    {writes : List (σ → Except ε σ)} (h : Alone prepare s i (.running call program writes))
    (hpast : ∀ rest, program ≠ .lock rest) : s.lock = some i ∧ ∃ start seen,
      prepare call = .ok start ∧ view writes s.committed = .ok seen ∧
        program.run seen = start.run s.committed := by
  rcases h with ⟨-, hprepared⟩ | hheld
  · obtain ⟨rest, he⟩ := hguard call program hprepared
    exact absurd he (hpast rest)
  · exact hheld

theorem finish_lock (s : Sessions ι σ ε α κ) {i j : ι} (h : j ≠ i) (committed : σ)
    (hlock : s.lock = some j) : (s.finish i committed).lock = some j := by
  have hne : s.lock ≠ some i := fun he => h (Option.some.inj (hlock.symm.trans he))
  show (if s.lock = some i then none else s.lock) = some j
  rw [if_neg hne]
  exact hlock

/-- a transaction that ends without a commit leaves the others as they are -/
theorem alone_abort {i : ι} (h : ∀ j, Alone prepare s j (s.session j)) (j : ι) :
    Alone prepare (s.finish i s.committed) j ((s.finish i s.committed).session j) := by
  show Alone prepare _ j (Function.update s.session i .idle j)
  by_cases hj : j = i
  · rw [hj, Function.update_self]
    trivial
  · rw [Function.update_of_ne hj]
    exact (h j).frame rfl (finish_lock s hj s.committed)

theorem alone_put {i : ι} {x : Session σ ε α κ} (h : ∀ j, Alone prepare s j (s.session j))
    (hx : Alone prepare (s.put i x) i x) (j : ι) :
    Alone prepare (s.put i x) j ((s.put i x).session j) := by
  show Alone prepare _ j (Function.update s.session i x j)
  by_cases hj : j = i
  · rw [hj, Function.update_self]
    exact hx
  · rw [Function.update_of_ne hj]
    exact (h j).frame rfl id

theorem alone_statement (hguard : Guarded prepare) {i : ι} {call : κ} {program : Txn σ ε α}
    {writes : List (σ → Except ε σ)} (h : ∀ j, Alone prepare s j (s.session j))
    (hi : s.session i = .running call program writes)
    (hnext : statement s i call writes program = some s') :
    ∀ j, Alone prepare s' j (s'.session j) := by
  have hself : Alone prepare s i (.running call program writes) := hi ▸ h i
  cases program with
  | done a =>
    obtain ⟨hlock, -⟩ := hself.held hguard nofun
    unfold statement at hnext
    dsimp only at hnext
    cases hview : view writes s.committed with
    | error e =>
      rw [hview] at hnext
      cases hnext
      exact alone_abort h
    | ok committed =>
      rw [hview] at hnext
      cases hnext
      intro j
      show Alone prepare _ j (Function.update s.session i .idle j)
      by_cases hj : j = i
      · rw [hj, Function.update_self]
        trivial
      · rw [Function.update_of_ne hj]
        exact (h j).fresh fun he => hj (Option.some.inj (he.symm.trans hlock))
  | fail e =>
    cases hnext
    exact alone_abort h
  | lock rest =>
    unfold statement at hnext
    dsimp only at hnext
    split at hnext
    · rename_i hfree
      cases hnext
      intro j
      show Alone prepare _ j (Function.update s.session i _ j)
      by_cases hj : j = i
      · rw [hj, Function.update_self]
        refine .inr ⟨rfl, ?_⟩
        rcases hself with ⟨rfl, hprepared⟩ | ⟨-, start, seen, hprepared, hview, hends⟩
        · exact ⟨_, _, hprepared, rfl, rfl⟩
        · exact ⟨start, seen, hprepared, hview, hends⟩
      · rw [Function.update_of_ne hj]
        refine (h j).fresh fun he => ?_
        rcases hfree with hnone | hsome
        · rw [hnone] at he
          cases he
        · exact hj (Option.some.inj (he.symm.trans hsome))
    · cases hnext
  | read rest =>
    obtain ⟨hlock, start, seen, hprepared, hview, hends⟩ := hself.held hguard nofun
    unfold statement at hnext
    dsimp only at hnext
    rw [hview] at hnext
    cases hnext
    exact alone_put h (.inr ⟨hlock, start, seen, hprepared, hview, hends⟩)
  | write change rest =>
    obtain ⟨hlock, start, seen, hprepared, hview, hends⟩ := hself.held hguard nofun
    unfold statement at hnext
    dsimp only at hnext
    rw [hview] at hnext
    cases hchange : change seen with
    | error e =>
      rw [show (Except.ok seen >>= change) = .error e from hchange] at hnext
      cases hnext
      exact alone_abort h
    | ok seen' =>
      rw [show (Except.ok seen >>= change) = .ok seen' from hchange] at hnext
      cases hnext
      have hview' : view (writes ++ [change]) s.committed = .ok seen' := by
        rw [view_concat, hview]
        exact hchange
      have hrest : (Txn.write change rest).run seen = rest.run seen' := by
        show (change seen >>= rest.run) = _
        rw [hchange]
        rfl
      exact alone_put h (.inr ⟨hlock, start, seen', hprepared, hview', hrest.symm.trans hends⟩)

theorem alone_next (hguard : Guarded prepare) {move : Move ι κ}
    (h : ∀ j, Alone prepare s j (s.session j)) (hnext : next prepare s move = some s') :
    ∀ j, Alone prepare s' j (s'.session j) := by
  cases move with
  | call i call =>
    unfold next at hnext
    dsimp only at hnext
    split at hnext
    · cases hnext
      exact alone_put h trivial
    · cases hnext
  | prepare i =>
    unfold next at hnext
    dsimp only at hnext
    split at hnext
    · rename_i call hi
      cases hprepared : prepare call with
      | ok program =>
        rw [hprepared] at hnext
        cases hnext
        exact alone_put h (.inl ⟨rfl, hprepared⟩)
      | error e =>
        rw [hprepared] at hnext
        cases hnext
        exact alone_put h trivial
    · cases hnext
  | step i =>
    unfold next at hnext
    dsimp only at hnext
    split at hnext
    · rename_i call program writes hi
      exact alone_statement hguard h hi hnext
    · cases hnext
  | rollback i =>
    unfold next at hnext
    dsimp only at hnext
    split at hnext
    · cases hnext
      exact alone_abort h
    · cases hnext

/-! ## every run -/

theorem committed_next {move : Move ι κ} (hnext : next prepare s move = some s') :
    s'.committed = s.committed ∨ ∃ call a, Commits s move call a := by
  cases move with
  | call i call =>
    unfold next at hnext
    dsimp only at hnext
    split at hnext
    · cases hnext
      exact .inl rfl
    · cases hnext
  | prepare i =>
    unfold next at hnext
    dsimp only at hnext
    split at hnext
    · split at hnext
      · cases hnext
        exact .inl rfl
      · cases hnext
        exact .inl rfl
    · cases hnext
  | step i =>
    unfold next at hnext
    dsimp only at hnext
    split at hnext
    · rename_i call program writes hi
      cases program with
      | done a => exact .inr ⟨call, a, i, writes, rfl, hi⟩
      | fail e =>
        cases hnext
        exact .inl rfl
      | lock rest =>
        unfold statement at hnext
        dsimp only at hnext
        split at hnext
        · cases hnext
          exact .inl rfl
        · cases hnext
      | read rest =>
        unfold statement at hnext
        dsimp only at hnext
        split at hnext
        · cases hnext
          exact .inl rfl
        · cases hnext
          exact .inl rfl
      | write change rest =>
        unfold statement at hnext
        dsimp only at hnext
        split at hnext
        · cases hnext
          exact .inl rfl
        · cases hnext
          exact .inl rfl
    · cases hnext
  | rollback i =>
    unfold next at hnext
    dsimp only at hnext
    split at hnext
    · cases hnext
      exact .inl rfl
    · cases hnext

/-- the `COMMIT` of a session with the guard writes what its program makes alone -/
theorem commit_alone (hguard : Guarded prepare) (h : ∀ j, Alone prepare s j (s.session j))
    {move : Move ι κ} (hnext : next prepare s move = some s') {call : κ} {a : α}
    (hcommits : Commits s move call a) :
    ∃ program, prepare call = .ok program ∧ program.run s.committed = .ok (a, s'.committed) := by
  obtain ⟨i, writes, rfl, hi⟩ := hcommits
  have hself : Alone prepare s i (.running call (.done a) writes) := hi ▸ h i
  obtain ⟨-, start, seen, hprepared, hview, hends⟩ := hself.held hguard nofun
  refine ⟨start, hprepared, ?_⟩
  rw [← hends]
  unfold next at hnext
  dsimp only at hnext
  rw [hi] at hnext
  unfold statement at hnext
  dsimp only at hnext
  rw [hview] at hnext
  cases hnext
  rfl

variable {start : σ} {st : Nat → Sessions ι σ ε α κ} {lab : Nat → Move ι κ} {n : Nat}

theorem alone_run (hguard : Guarded prepare) (h : IsRun (system prepare start) st lab n) {i : Nat}
    (hi : i ≤ n) : ∀ j, Alone prepare (st i) j ((st i).session j) := by
  refine h.invariant (P := fun s => ∀ j, Alone prepare s j (s.session j)) ?_ ?_ hi
  · rintro s rfl j
    trivial
  · intro s move s' hs hnext
    exact alone_next hguard hs hnext

/-- **the committed states are those of the calls one after another**, each alone -/
theorem commit_serial (hguard : Guarded prepare) (h : IsRun (system prepare start) st lab n)
    {i : Nat} (hi : i < n) {call : κ} {a : α} (hcommits : Commits (st i) (lab i) call a) :
    ∃ program, prepare call = .ok program ∧
      program.run (st i).committed = .ok (a, (st (i + 1)).committed) :=
  commit_alone hguard (alone_run hguard h (Nat.le_of_lt hi)) (h.next i hi) hcommits

theorem serial (hguard : Guarded prepare) (h : IsRun (system prepare start) st lab n) {i : Nat}
    (hi : i < n) : (st (i + 1)).committed = (st i).committed ∨
      ∃ call a program, Commits (st i) (lab i) call a ∧ prepare call = .ok program ∧
        program.run (st i).committed = .ok (a, (st (i + 1)).committed) := by
  rcases committed_next (h.next i hi) with hsame | ⟨call, a, hcommits⟩
  · exact .inl hsame
  · obtain ⟨program, hprepared, hrun⟩ := commit_serial hguard h hi hcommits
    exact .inr ⟨call, a, program, hcommits, hprepared, hrun⟩

/-- the sessions under the given moves -/
def states (prepare : κ → Except ε (Txn σ ε α)) (start : σ) (moves : Nat → Move ι κ) :
    Nat → Sessions ι σ ε α κ
  | 0 => quiet start
  | i + 1 => (next prepare (states prepare start moves i) (moves i)).getD
      (states prepare start moves i)

theorem isRun_states {moves : Nat → Move ι κ}
    (h : ∀ i < n, (next prepare (states prepare start moves i) (moves i)).isSome = true) :
    IsRun (system prepare start) (states prepare start moves) moves n := by
  refine ⟨rfl, fun i hi => ?_⟩
  obtain ⟨s, hs⟩ := Option.isSome_iff_exists.mp (h i hi)
  show next prepare _ _ = some ((next prepare _ _).getD _)
  rw [hs]
  rfl

end

end Serial
