import PgRbac.Lib.Pool
import PgRbac.Lib.Run

/-!
# Password work under cancellation

`PasswordManager._run_bounded` takes a slot of a semaphore, runs its operation in a thread and
waits for it behind a shield.  Its caller can be cancelled at any time and any number of times; the
task of the worker never is.  Callers, workers and the event loop take turns in any order:

* `Call`               one call: where it stands, its worker, and what has been asked of it;
* `Call.grant`, `Call.cancel`, `Call.resume`, `Call.work`    what happens to one call;
* `passwordWork`       the runs of all calls on one semaphore;
* `Sound`              the stages a call goes through;
* `password_work_bounded`   slots, workers and endings in every state that is reached.

The semaphore is the counter that its documentation promises: it never goes below zero, and a free
slot goes to any of the calls that wait.  The order of the waiters is left open.
-/

set_option linter.unusedVariables false

namespace PgRbac

open Trace

namespace PasswordWork

/-! ## one call -/

/-- what the operation did in its thread: a result, or an `Exception` -/
inductive Outcome (ν ε : Type) where
  | returned (value : ν)
  | raised (error : ε)
deriving DecidableEq

inductive Fut (α : Type) where
  | pending
  | cancelled
  | completed (value : α)
deriving DecidableEq

/-- the task of `asyncio.to_thread(operation)` -/
inductive Worker (ν ε : Type) where
  | created
  /-- the native call runs -/
  | running
  /-- the native call has ended and the loop does not know it yet -/
  | stopped (outcome : Outcome ν ε)
  | done (outcome : Outcome ν ε)
deriving DecidableEq

inductive Ending (ν ε : Type) where
  | cancelledError
  | outcome (outcome : Outcome ν ε)
deriving DecidableEq

/-- where the caller stands in `_run_bounded` -/
inductive Stage (ν ε : Type) where
  /-- `async with self._semaphore`, at the future of the waiter -/
  | acquiring (waiter : Fut Unit)
  /-- `return await asyncio.shield(worker)`, at the outer future -/
  | awaiting (outer : Fut (Outcome ν ε))
  /-- `await asyncio.shield(worker)` in the handler -/
  | draining (outer : Fut (Outcome ν ε))
  | ended (ending : Ending ν ε)
deriving DecidableEq

structure Call (ν ε : Type) where
  stage : Stage ν ε
  worker : Option (Worker ν ε)
  /-- `_must_cancel`: the next resumption throws `CancelledError` -/
  mustCancel : Bool
  /-- `cancel` was called before the end -/
  requested : Bool
  acquired : Nat
  released : Nat
deriving DecidableEq

namespace Call
variable {ν ε : Type}

def queued : Call ν ε := ⟨.acquiring .pending, none, false, false, 0, 0⟩

/-- past the semaphore: the worker is created and awaited -/
def begin (c : Call ν ε) : Call ν ε :=
  { c with stage := .awaiting .pending, worker := some .created, mustCancel := false }

def immediate : Call ν ε := { queued with acquired := 1 }.begin

def finish (c : Call ν ε) (ending : Ending ν ε) : Call ν ε :=
  { c with stage := .ended ending, mustCancel := false }

/-- the end of the `async with` block -/
def leave (free : Nat) (c : Call ν ε) (ending : Ending ν ε) : Nat × Call ν ε :=
  (free + 1, { c.finish ending with released := c.released + 1 })

def grant (free : Nat) (c : Call ν ε) : Option (Nat × Call ν ε) :=
  match free, c.stage with
  | free + 1, .acquiring .pending =>
    some (free, { c with stage := .acquiring (.completed ()), acquired := c.acquired + 1 })
  | _, _ => none

/-- `task.cancel()` of the caller: it cancels the future that is awaited, else the resumption -/
def cancel (c : Call ν ε) : Call ν ε :=
  match c.stage with
  | .acquiring .pending => { c with stage := .acquiring .cancelled, requested := true }
  | .awaiting .pending => { c with stage := .awaiting .cancelled, requested := true }
  | .draining .pending => { c with stage := .draining .cancelled, requested := true }
  | .ended _ => c
  | _ => { c with mustCancel := true, requested := true }

/-- `while not worker.done()`, and what follows it -/
def drain (free : Nat) (c : Call ν ε) : Nat × Call ν ε :=
  match c.worker with
  | some (.done _) => c.leave free .cancelledError
  | _ => (free, { c with stage := .draining .pending, mustCancel := false })

/-- the loop steps the caller, whose future is done -/
def resume (free : Nat) (c : Call ν ε) : Option (Nat × Call ν ε) :=
  match c.stage with
  | .acquiring .pending => none
  | .acquiring .cancelled => some (free, c.finish .cancelledError)
  | .acquiring (.completed ()) =>
    -- a slot that was granted and not taken is given back
    if c.mustCancel then some (c.leave free .cancelledError) else some (free, c.begin)
  | .awaiting .pending => none
  | .awaiting .cancelled => some (c.drain free)
  | .awaiting (.completed outcome) =>
    if c.mustCancel then some (c.drain free) else some (c.leave free (.outcome outcome))
  | .draining .pending => none
  | .draining .cancelled => some (c.drain free)
  | .draining (.completed (.returned _)) => some (c.drain free)
  | .draining (.completed (.raised _)) =>
    -- `except Exception: break`
    if c.mustCancel then some (c.drain free) else some (c.leave free .cancelledError)
  | .ended _ => none

inductive Work (ν ε : Type) where
  | start
  /-- the executor takes no work -/
  | refuse (error : ε)
  | stop (outcome : Outcome ν ε)
  | settle
  /-- the callback of the shield -/
  | notify
deriving DecidableEq

def Worker.next : Worker ν ε → Work ν ε → Option (Worker ν ε)
  | .created, .start => some .running
  | .created, .refuse error => some (.done (.raised error))
  | .running, .stop outcome => some (.stopped outcome)
  | .stopped outcome, .settle => some (.done outcome)
  | _, _ => none

/-- the shield hands the outcome on -/
def notify (c : Call ν ε) : Option (Call ν ε) :=
  match c.worker, c.stage with
  | some (.done outcome), .awaiting .pending => some { c with stage := .awaiting (.completed outcome) }
  | some (.done outcome), .draining .pending => some { c with stage := .draining (.completed outcome) }
  | _, _ => none

def work (c : Call ν ε) : Work ν ε → Option (Call ν ε)
  | .notify => c.notify
  | w => (c.worker.bind fun worker => Worker.next worker w).map fun worker =>
      { c with worker := some worker }

end Call

/-! ## all calls -/

/-- the manager, with a bound that passes the check of its constructor -/
structure PasswordManager where
  maxConcurrentOperations : Nat
  bounded : 1 ≤ maxConcurrentOperations ∧ maxConcurrentOperations ≤ 32

def PasswordManager.init (maxConcurrentOperations : Int) : Except String PasswordManager :=
  if h : 1 ≤ maxConcurrentOperations.toNat ∧ maxConcurrentOperations.toNat ≤ 32 then
    .ok ⟨maxConcurrentOperations.toNat, h⟩
  else .error "max_concurrent_operations must be between 1 and 32"

inductive Move (ν ε : Type) where
  /-- a new call, which takes a free slot at once or waits -/
  | call (immediate : Bool)
  | grant (i : Nat)
  | cancel (i : Nat)
  | resume (i : Nat)
  | work (i : Nat) (work : Call.Work ν ε)
deriving DecidableEq

section
variable {ν ε : Type}

def change (p : Pool (Call ν ε)) (i : Nat) (f : Call ν ε → Option (Nat × Call ν ε)) :
    Option (Pool (Call ν ε)) :=
  (p.parties[i]?).bind fun c => (f c).map fun r => p.set i r.1 r.2

def step (p : Pool (Call ν ε)) : Move ν ε → Option (Pool (Call ν ε))
  | .call true => if 0 < p.free then some (p.append (p.free - 1) Call.immediate) else none
  | .call false => some (p.append p.free Call.queued)
  | .grant i => change p i fun c => c.grant p.free
  | .cancel i => change p i fun c => some (p.free, c.cancel)
  | .resume i => change p i fun c => c.resume p.free
  | .work i w => change p i fun c => (c.work w).map fun c' => (p.free, c')

def passwordWork (ν ε : Type) (manager : PasswordManager) : System (Pool (Call ν ε)) (Move ν ε) where
  init p := p = ⟨manager.maxConcurrentOperations, []⟩
  step p move p' := step p move = some p'

/-! ## the stages of a call -/

def Call.native (c : Call ν ε) : Bool :=
  match c.worker with
  | some .running => true
  | _ => false

def Call.held (c : Call ν ε) : Nat := c.acquired - c.released

/-- where a call can stand, with its worker, its cancellations and its slot -/
inductive Sound : Call ν ε → Prop
  | queued : Sound ⟨.acquiring .pending, none, false, false, 0, 0⟩
  | withdrawn (mustCancel : Bool) : Sound ⟨.acquiring .cancelled, none, mustCancel, true, 0, 0⟩
  | granted (mustCancel : Bool) :
      Sound ⟨.acquiring (.completed ()), none, mustCancel, mustCancel, 1, 0⟩
  | awaiting (worker : Worker ν ε) : Sound ⟨.awaiting .pending, some worker, false, false, 1, 0⟩
  | interrupted (worker : Worker ν ε) (mustCancel : Bool) :
      Sound ⟨.awaiting .cancelled, some worker, mustCancel, true, 1, 0⟩
  | answered (outcome : Outcome ν ε) (mustCancel : Bool) :
      Sound ⟨.awaiting (.completed outcome), some (.done outcome), mustCancel, mustCancel, 1, 0⟩
  | draining (worker : Worker ν ε) : Sound ⟨.draining .pending, some worker, false, true, 1, 0⟩
  | drainInterrupted (worker : Worker ν ε) (mustCancel : Bool) :
      Sound ⟨.draining .cancelled, some worker, mustCancel, true, 1, 0⟩
  | drained (outcome : Outcome ν ε) (mustCancel : Bool) :
      Sound ⟨.draining (.completed outcome), some (.done outcome), mustCancel, true, 1, 0⟩
  | abandoned : Sound ⟨.ended .cancelledError, none, false, true, 0, 0⟩
  | givenBack : Sound ⟨.ended .cancelledError, none, false, true, 1, 1⟩
  | finished (outcome : Outcome ν ε) :
      Sound ⟨.ended (.outcome outcome), some (.done outcome), false, false, 1, 1⟩
  | cancelled (outcome : Outcome ν ε) :
      Sound ⟨.ended .cancelledError, some (.done outcome), false, true, 1, 1⟩

variable {free free' : Nat} {c c' : Call ν ε}

theorem Sound.grant (hc : Sound c) (h : c.grant free = some (free', c')) :
    Sound c' ∧ free' + c'.held = free + c.held := by
  cases free with
  | zero => cases h
  | succ free =>
    cases hc with
    | queued =>
      cases h
      exact ⟨.granted false, rfl⟩
    | _ => cases h

theorem Sound.cancel (hc : Sound c) : Sound c.cancel ∧ c.cancel.held = c.held := by
  cases hc with
  | queued => exact ⟨.withdrawn false, rfl⟩
  | withdrawn mustCancel => exact ⟨.withdrawn true, rfl⟩
  | granted mustCancel => exact ⟨.granted true, rfl⟩
  | awaiting worker => exact ⟨.interrupted worker false, rfl⟩
  | interrupted worker mustCancel => exact ⟨.interrupted worker true, rfl⟩
  | answered outcome mustCancel => exact ⟨.answered outcome true, rfl⟩
  | draining worker => exact ⟨.drainInterrupted worker false, rfl⟩
  | drainInterrupted worker mustCancel => exact ⟨.drainInterrupted worker true, rfl⟩
  | drained outcome mustCancel => exact ⟨.drained outcome true, rfl⟩
  | abandoned => exact ⟨.abandoned, rfl⟩
  | givenBack => exact ⟨.givenBack, rfl⟩
  | finished outcome => exact ⟨.finished outcome, rfl⟩
  | cancelled outcome => exact ⟨.cancelled outcome, rfl⟩

theorem drain_sound {stage : Stage ν ε} {worker : Worker ν ε} {mustCancel : Bool}
    (h : Call.drain free ⟨stage, some worker, mustCancel, true, 1, 0⟩ = (free', c')) :
    Sound c' ∧ free' + c'.held = free + 1 := by
  cases worker with
  | done outcome =>
    cases h
    exact ⟨.cancelled outcome, rfl⟩
  | created =>
    cases h
    exact ⟨.draining .created, rfl⟩
  | running =>
    cases h
    exact ⟨.draining .running, rfl⟩
  | stopped outcome =>
    cases h
    exact ⟨.draining (.stopped outcome), rfl⟩

theorem Sound.resume (hc : Sound c) (h : c.resume free = some (free', c')) :
    Sound c' ∧ free' + c'.held = free + c.held := by
  cases hc with
  | withdrawn mustCancel =>
    cases h
    exact ⟨.abandoned, rfl⟩
  | granted mustCancel =>
    cases mustCancel with
    | true =>
      cases h
      exact ⟨.givenBack, rfl⟩
    | false =>
      cases h
      exact ⟨.awaiting .created, rfl⟩
  | interrupted worker mustCancel => exact drain_sound (Option.some_inj.mp h)
  | answered outcome mustCancel =>
    cases mustCancel with
    | true => exact drain_sound (Option.some_inj.mp h)
    | false =>
      cases h
      exact ⟨.finished outcome, rfl⟩
  | drainInterrupted worker mustCancel => exact drain_sound (Option.some_inj.mp h)
  | drained outcome mustCancel =>
    cases outcome with
    | returned value => exact drain_sound (Option.some_inj.mp h)
    | raised error =>
      cases mustCancel with
      | true => exact drain_sound (Option.some_inj.mp h)
      | false =>
        cases h
        exact ⟨.cancelled (.raised error), rfl⟩
  | queued => cases h
  | awaiting worker => cases h
  | draining worker => cases h
  | abandoned => cases h
  | givenBack => cases h
  | finished outcome => cases h
  | cancelled outcome => cases h

theorem next_sound {worker' : Worker ν ε} {w : Call.Work ν ε} (hc : Sound c)
    (h : (c.worker.bind fun worker => Call.Worker.next worker w) = some worker') :
    Sound { c with worker := some worker' } := by
  cases hc with
  | awaiting worker => exact .awaiting worker'
  | interrupted worker mustCancel => exact .interrupted worker' mustCancel
  | draining worker => exact .draining worker'
  | drainInterrupted worker mustCancel => exact .drainInterrupted worker' mustCancel
  | _ => cases w <;> cases h

theorem notify_sound (hc : Sound c) (h : c.notify = some c') :
    Sound c' ∧ c'.held = c.held := by
  cases hc with
  | awaiting worker =>
    cases worker with
    | done outcome =>
      cases h
      exact ⟨.answered outcome false, rfl⟩
    | _ => cases h
  | draining worker =>
    cases worker with
    | done outcome =>
      cases h
      exact ⟨.drained outcome false, rfl⟩
    | _ => cases h
  | interrupted worker mustCancel => cases worker <;> cases h
  | drainInterrupted worker mustCancel => cases worker <;> cases h
  | _ => cases h

theorem Sound.work (hc : Sound c) {w : Call.Work ν ε} (h : c.work w = some c') :
    Sound c' ∧ c'.held = c.held := by
  cases w with
  | notify => exact notify_sound hc h
  | _ =>
    obtain ⟨worker, hworker, rfl⟩ := Option.map_eq_some_iff.mp h
    exact ⟨next_sound hc hworker, rfl⟩

/-! ## runs -/

structure Bounded (manager : PasswordManager) (p : Pool (Call ν ε)) : Prop where
  sound : ∀ c ∈ p.parties, Sound c
  slots : p.total Call.held = manager.maxConcurrentOperations

variable {manager : PasswordManager} {p p' : Pool (Call ν ε)}

theorem Bounded.change (hp : Bounded manager p) {i : Nat} {f : Call ν ε → Option (Nat × Call ν ε)}
    (hf : ∀ c free' c', Sound c → f c = some (free', c') →
      Sound c' ∧ free' + c'.held = p.free + c.held)
    (h : change p i f = some p') : Bounded manager p' := by
  obtain ⟨c, hget, hmap⟩ := Option.bind_eq_some_iff.mp h
  obtain ⟨r, hr, rfl⟩ := Option.map_eq_some_iff.mp hmap
  obtain ⟨hsound, hheld⟩ := hf c r.1 r.2 (hp.sound c (List.mem_of_getElem? hget)) hr
  refine ⟨fun d hd => ?_, (Pool.total_set hget hheld).trans hp.slots⟩
  rcases List.mem_or_eq_of_mem_set hd with hold | rfl
  · exact hp.sound d hold
  · exact hsound

/-- **every move keeps the slots** -/
theorem Bounded.step (hp : Bounded manager p) {move : Move ν ε}
    (h : PasswordWork.step p move = some p') : Bounded manager p' := by
  cases move with
  | call immediate =>
    cases immediate with
    | true =>
      unfold PasswordWork.step at h
      rw [Option.ite_none_right_eq_some, Option.some_inj] at h
      obtain ⟨hfree, rfl⟩ := h
      refine ⟨fun c hc => ?_, (Pool.total_append ?_).trans hp.slots⟩
      · rcases List.mem_append.mp hc with hold | hnew
        · exact hp.sound c hold
        · rw [List.mem_singleton.mp hnew]
          exact .awaiting .created
      · show p.free - 1 + 1 = p.free
        omega
    | false =>
      cases h
      refine ⟨fun c hc => ?_, (Pool.total_append rfl).trans hp.slots⟩
      rcases List.mem_append.mp hc with hold | hnew
      · exact hp.sound c hold
      · rw [List.mem_singleton.mp hnew]
        exact .queued
  | grant i => exact hp.change (fun c free' c' hc hf => hc.grant hf) h
  | cancel i =>
    refine hp.change (fun c free' c' hc hf => ?_) h
    cases hf
    exact ⟨hc.cancel.1, by rw [hc.cancel.2]⟩
  | resume i => exact hp.change (fun c free' c' hc hf => hc.resume hf) h
  | work i w =>
    refine hp.change (fun c free' c' hc hf => ?_) h
    obtain ⟨next, hnext, hpair⟩ := Option.map_eq_some_iff.mp hf
    cases hpair
    obtain ⟨hsound, hheld⟩ := hc.work hnext
    exact ⟨hsound, by rw [hheld]⟩

theorem bounded_of_reachable (h : Reachable (passwordWork ν ε manager) p) : Bounded manager p := by
  refine h.invariant (fun p hp => ?_) (fun p move p' hp hstep => hp.step hstep)
  cases hp
  exact ⟨fun c hc => absurd hc List.not_mem_nil, rfl⟩

theorem Sound.native_held (hc : Sound c) (h : c.native = true) : 1 ≤ c.held := by
  cases hc with
  | awaiting worker => exact Nat.le_refl 1
  | interrupted worker mustCancel => exact Nat.le_refl 1
  | draining worker => exact Nat.le_refl 1
  | drainInterrupted worker mustCancel => exact Nat.le_refl 1
  | _ => exact Bool.noConfusion h

def Call.Stopped (c : Call ν ε) : Prop :=
  c.worker = none ∨ ∃ outcome, c.worker = some (.done outcome)

/-- a slot is released once, and behind the worker -/
theorem Sound.slot (hc : Sound c) : c.released ≤ c.acquired ∧ c.acquired ≤ 1 ∧
    (0 < c.released → c.Stopped) ∧
    ∀ ending, c.stage = .ended ending → c.released = c.acquired := by
  cases hc with
  | abandoned => exact ⟨Nat.le_refl 0, Nat.zero_le 1, fun _ => .inl rfl, fun _ _ => rfl⟩
  | givenBack => exact ⟨Nat.le_refl 1, Nat.le_refl 1, fun _ => .inl rfl, fun _ _ => rfl⟩
  | finished outcome => exact ⟨Nat.le_refl 1, Nat.le_refl 1, fun _ => .inr ⟨outcome, rfl⟩, fun _ _ => rfl⟩
  | cancelled outcome => exact ⟨Nat.le_refl 1, Nat.le_refl 1, fun _ => .inr ⟨outcome, rfl⟩, fun _ _ => rfl⟩
  | queued => exact ⟨Nat.le_refl 0, Nat.zero_le 1, fun h => absurd h (Nat.lt_irrefl 0), fun _ h => by cases h⟩
  | withdrawn mustCancel =>
    exact ⟨Nat.le_refl 0, Nat.zero_le 1, fun h => absurd h (Nat.lt_irrefl 0), fun _ h => by cases h⟩
  | _ => exact ⟨Nat.zero_le 1, Nat.le_refl 1, fun h => absurd h (Nat.lt_irrefl 0), fun _ h => by cases h⟩

theorem Sound.stopped (hc : Sound c) {ending : Ending ν ε} (h : c.stage = .ended ending) :
    c.Stopped := by
  cases hc with
  | abandoned => exact .inl rfl
  | givenBack => exact .inl rfl
  | finished outcome => exact .inr ⟨outcome, rfl⟩
  | cancelled outcome => exact .inr ⟨outcome, rfl⟩
  | _ => cases h

theorem Sound.ending (hc : Sound c) {ending : Ending ν ε} (h : c.stage = .ended ending) :
    (c.requested = true → ending = .cancelledError) ∧
      (c.requested = false → ∃ outcome, c.worker = some (.done outcome) ∧
        ending = .outcome outcome) := by
  cases hc with
  | abandoned =>
    cases h
    exact ⟨fun _ => rfl, fun hr => Bool.noConfusion hr⟩
  | givenBack =>
    cases h
    exact ⟨fun _ => rfl, fun hr => Bool.noConfusion hr⟩
  | finished outcome =>
    cases h
    exact ⟨fun hr => Bool.noConfusion hr, fun _ => ⟨outcome, rfl, rfl⟩⟩
  | cancelled outcome =>
    cases h
    exact ⟨fun _ => rfl, fun hr => Bool.noConfusion hr⟩
  | _ => cases h

theorem Sound.ends (hc : Sound c) {outcome : Outcome ν ε} (h : c.worker = some (.done outcome))
    (free : Nat) : (∃ ending, c.stage = .ended ending) ∨ (∃ c', c.work .notify = some c') ∨
      ∃ r ending, c.resume free = some r ∧ r.2.stage = .ended ending := by
  cases hc with
  | awaiting worker =>
    cases h
    exact .inr (.inl ⟨_, rfl⟩)
  | draining worker =>
    cases h
    exact .inr (.inl ⟨_, rfl⟩)
  | interrupted worker mustCancel =>
    cases h
    exact .inr (.inr ⟨_, _, rfl, rfl⟩)
  | answered o mustCancel =>
    cases mustCancel with
    | true => exact .inr (.inr ⟨_, _, rfl, rfl⟩)
    | false => exact .inr (.inr ⟨_, _, rfl, rfl⟩)
  | drainInterrupted worker mustCancel =>
    cases h
    exact .inr (.inr ⟨_, _, rfl, rfl⟩)
  | drained o mustCancel =>
    cases o with
    | returned value => exact .inr (.inr ⟨_, _, rfl, rfl⟩)
    | raised error =>
      cases mustCancel with
      | true => exact .inr (.inr ⟨_, _, rfl, rfl⟩)
      | false => exact .inr (.inr ⟨_, _, rfl, rfl⟩)
  | finished o => exact .inl ⟨_, rfl⟩
  | cancelled o => exact .inl ⟨_, rfl⟩
  | queued => cases h
  | withdrawn mustCancel => cases h
  | granted mustCancel => cases h
  | abandoned => cases h
  | givenBack => cases h

/-- a call waits for a slot only while another one has it -/
theorem Bounded.waits (hp : Bounded manager p) : 0 < p.free ∨ ∃ c ∈ p.parties, 1 ≤ c.held := by
  by_contra hnone
  have hfree : p.free = p.total Call.held := by
    refine Pool.free_eq_total fun c hc => ?_
    by_contra hheld
    exact hnone (.inr ⟨c, hc, Nat.pos_of_ne_zero hheld⟩)
  have hone := manager.bounded.1
  rw [← hp.slots, ← hfree] at hone
  exact hnone (.inl hone)

/-- **no more native calls than slots; every slot is released once, behind its worker; and a call
ends as it was asked to, once its worker is done** -/
theorem password_work_bounded (h : Reachable (passwordWork ν ε manager) p) :
    p.parties.countP Call.native ≤ manager.maxConcurrentOperations ∧
    (0 < p.free ∨ ∃ c ∈ p.parties, 1 ≤ c.held) ∧
    ((∀ c ∈ p.parties, ∃ ending, c.stage = .ended ending) →
      p.free = manager.maxConcurrentOperations) ∧
    ∀ c ∈ p.parties,
      (c.released ≤ c.acquired ∧ c.acquired ≤ 1 ∧ (0 < c.released → c.Stopped)) ∧
      (∀ ending, c.stage = .ended ending →
        c.released = c.acquired ∧ c.Stopped ∧
        (c.requested = true → ending = .cancelledError) ∧
        (c.requested = false → ∃ outcome, c.worker = some (.done outcome) ∧
          ending = .outcome outcome)) ∧
      ∀ outcome, c.worker = some (.done outcome) →
        (∃ ending, c.stage = .ended ending) ∨ (∃ c', c.work .notify = some c') ∨
          ∃ r ending, c.resume p.free = some r ∧ r.2.stage = .ended ending := by
  have hp := bounded_of_reachable h
  refine ⟨?_, hp.waits, fun hended => ?_, fun c hc => ?_⟩
  · rw [← hp.slots]
    exact Pool.countP_le_total fun c hc => (hp.sound c hc).native_held
  · rw [← hp.slots]
    refine Pool.free_eq_total fun c hc => ?_
    obtain ⟨ending, hending⟩ := hended c hc
    show c.acquired - c.released = 0
    rw [(hp.sound c hc).slot.2.2.2 ending hending, Nat.sub_self]
  · obtain ⟨hle, hone, hstopped, hreleased⟩ := (hp.sound c hc).slot
    refine ⟨⟨hle, hone, hstopped⟩, fun ending hending => ?_,
      fun outcome houtcome => (hp.sound c hc).ends houtcome p.free⟩
    obtain ⟨hcancelled, houtcome⟩ := (hp.sound c hc).ending hending
    exact ⟨hreleased ending hending, (hp.sound c hc).stopped hending, hcancelled, houtcome⟩

theorem reachable_moves {moves : List (Move ν ε)} (hp : Reachable (passwordWork ν ε manager) p)
    (h : moves.foldlM step p = some p') : Reachable (passwordWork ν ε manager) p' := by
  induction moves generalizing p with
  | nil =>
    cases h
    exact hp
  | cons move moves ih =>
    rw [List.foldlM_cons] at h
    obtain ⟨next, hnext, hrest⟩ := Option.bind_eq_some_iff.mp h
    exact ih (.step move hp hnext) hrest

end

def oneSlot : PasswordManager := ⟨1, by decide⟩

/-- a call is cancelled three times while its worker runs, and another one waits for its slot -/
def cancelledMoves : List (Move String String) :=
  [.call true, .call false, .cancel 0, .work 0 .start, .resume 0, .cancel 0, .cancel 0, .resume 0,
    .work 0 (.stop (.raised "memory")), .work 0 .settle, .work 0 .notify, .resume 0, .grant 1,
    .resume 1, .work 1 .start, .work 1 (.stop (.returned "hash")), .work 1 .settle, .work 1 .notify,
    .resume 1]

/-- the first call ends with `CancelledError`, the second one with its hash -/
def cancelledPool : Pool (Call String String) :=
  ⟨1, [⟨.ended .cancelledError, some (.done (.raised "memory")), false, true, 1, 1⟩,
    ⟨.ended (.outcome (.returned "hash")), some (.done (.returned "hash")), false, false, 1, 1⟩]⟩

theorem cancelledPool_reachable :
    Reachable (passwordWork String String oneSlot) cancelledPool := by
  have hmoves : cancelledMoves.foldlM step ⟨1, []⟩ = some cancelledPool := rfl
  exact reachable_moves (.init rfl) hmoves

theorem password_work_bounded_cancelled :
    cancelledPool.parties.countP Call.native ≤ 1 ∧
      (0 < cancelledPool.free ∨ ∃ c ∈ cancelledPool.parties, 1 ≤ c.held) :=
  ⟨(password_work_bounded cancelledPool_reachable).1,
    (password_work_bounded cancelledPool_reachable).2.1⟩

end PasswordWork

end PgRbac
