import PgRbac.Lib.Reservoir
import PgRbac.Lib.Except
import PgRbac.Lib.IpAddress
import PgRbac.Provisioning
import Mathlib.Data.Int.CardIntervalMod

/-!
# The load probe: `scripts/load_test.py`

`run_load` starts a number of workers on one event loop.  A worker takes the next number of a
shared counter, sends one request, and counts what came of it, until the requests or the time are
used up.  Between two waits nothing else runs, so that a run is a sequence of two kinds of events:
a worker at the head of its loop, and a call that comes to its end.

* `checkArguments`       what is refused before anything is sent;
* `Exchange`             what a call meets, and what it records of it;
* `step`, `execute`      the events, in any order that the workers allow;
* `Tallied`              the counters in terms of the calls that have ended;
* `probe_report`         what the report of a finished run says;
* `probe_sample`         the latencies in it are a uniform sample.

Latencies are members of any total preorder.  Left out of the report are what floats make of the
clock (the elapsed time, the rates, the rounding) and the arguments that it repeats.
-/

set_option linter.unusedVariables false

namespace PgRbac

open Fallible

namespace LoadProbe

def maxResponseBytes : Nat := 2 * 1024 * 1024
def maxLatencySamples : Nat := 10000
def maxDurationSeconds : Nat := 3600

/-! ## the arguments -/

/-- a number of Python that stands for seconds -/
inductive Seconds where
  | number (q : Rat)
  | notFinite
  | boolean (b : Bool)

/-- its value, if it is finite -/
def Seconds.value : Seconds → Option Rat
  | .number q => some q
  | .notFinite => none
  | .boolean b => some (if b then 1 else 0)

/-- `math.isfinite(s) and 0 < s <= most` -/
def Seconds.within (s : Seconds) (most : Nat) : Bool :=
  s.value.any fun q : Rat => decide (0 < q) && decide (q ≤ (most : Rat))

structure Arguments where
  urls : List String
  requests : Option Int
  durationSeconds : Option Seconds
  concurrency : Int
  timeoutSeconds : Seconds
  token : Option String

section
variable (urlsplit : String → Option Ip.SplitUrl)

/-- `urlsplit` answers `none` where it, or the reading of the port, raises `ValueError` -/
def validateUrl (value : String) : Except String Unit :=
  match urlsplit value with
  | none => .error "Use an HTTP(S) endpoint without credentials, query, or fragment"
  | some parsed =>
    require ((parsed.scheme == "http" || parsed.scheme == "https") &&
        parsed.hostname.any (fun host => host != "") && parsed.username.isNone &&
        parsed.password.isNone && parsed.fragment == "" && parsed.query == "" &&
        parsed.port != some 0)
      "Use an HTTP(S) endpoint without credentials, query, or fragment"

def checkArguments (args : Arguments) : Except String Unit := do
  require (!args.urls.isEmpty && decide (1 ≤ args.concurrency) && decide (args.concurrency ≤ 200))
    "Require endpoints and 1..200 workers"
  require (args.requests.isNone != args.durationSeconds.isNone)
    "Choose exactly one request count or duration"
  require (args.requests.all fun n => decide (1 ≤ n) && decide (n ≤ 100000))
    "Request count must be an integer within 1..100000"
  require (args.durationSeconds.all fun s => s matches .number _ && s.within maxDurationSeconds)
    "Duration must be finite and within (0, 3600] seconds"
  require (args.timeoutSeconds.within 300) "Timeout must be finite and within (0, 300] seconds"
  checkAll (validateUrl urlsplit) args.urls
  require (args.token.all fun token => token != "" && !token.toList.any isPySpace)
    "The bearer token must be nonempty without whitespace"

end

/-! ## one call -/

inductive Fault where
  /-- `TimeoutError` or `httpx.TimeoutException` -/
  | timeout
  /-- any other `httpx.HTTPError` -/
  | transport
  /-- anything else: it ends the worker -/
  | other
deriving DecidableEq, Repr

/-- what a call meets -/
inductive Exchange where
  | unopened (fault : Fault)
  /-- the sizes of the chunks, what broke off the stream after them, and what the closing of the
  stream raised -/
  | streamed (status : Nat) (chunks : List Nat) (broken closing : Option Fault)
deriving DecidableEq, Repr

/-- the loop over the chunks stops because too much was received -/
def overflows (received : Nat) : List Nat → Bool
  | [] => false
  | chunk :: rest =>
    if maxResponseBytes < received + chunk then true else overflows (received + chunk) rest

namespace Exchange

def tooLarge : Exchange → Bool
  | unopened _ => false
  | streamed _ chunks _ _ => overflows 0 chunks

/-- the status that is counted, in the `else` of the loop -/
def status : Exchange → Option Nat
  | unopened _ => none
  | streamed status chunks broken _ =>
    if overflows 0 chunks || broken.isSome then none else some status

/-- the exception that leaves the block -/
def fault : Exchange → Option Fault
  | unopened fault => some fault
  | streamed _ chunks broken closing =>
    if overflows 0 chunks then closing else closing <|> broken

end Exchange

/-! ## the counters -/

/-- `counter[key] += 1` -/
def bump {κ : Type} [DecidableEq κ] (key : κ) : List (κ × Nat) → List (κ × Nat)
  | [] => [(key, 1)]
  | (key', n) :: rest => if key' = key then (key', n + 1) :: rest else (key', n) :: bump key rest

/-- the sum of the counts of the keys that satisfy `p` -/
def total {κ : Type} (p : κ → Bool) (counter : List (κ × Nat)) : Nat :=
  ((counter.filter fun entry => p entry.1).map Prod.snd).sum

def Fault.key : Fault → Option String
  | timeout => some "timeout"
  | transport => some "transport_error"
  | other => none

/-! ## the workers -/

inductive Worker where
  | ready
  | inFlight (index : Nat)
  | returned
  | raised
deriving DecidableEq, Repr

def Worker.ended : Worker → Bool
  | returned | raised => true
  | _ => false

structure Sent where
  index : Nat
  url : String
  now : Rat

structure Probe (τ : Type) where
  nextRequest : Nat
  /-- the requests in the order in which they were sent -/
  sent : List Sent
  completed : Nat
  statuses : List (Nat × Nat)
  errors : List (String × Nat)
  latencies : List τ
  workers : List Worker

/-- what decides when the workers stop -/
structure Plan where
  urls : List String
  requests : Option Nat
  deadline : Option Rat

def Arguments.plan (args : Arguments) (started : Rat) : Plan where
  urls := args.urls
  requests := args.requests.map Int.toNat
  deadline := (args.durationSeconds.bind Seconds.value).map fun duration => started + duration

def Arguments.workerCount (args : Arguments) : Nat :=
  match args.requests with
  | some requests => min args.concurrency.toNat requests.toNat
  | none => args.concurrency.toNat

def begun (τ : Type) (workers : Nat) : Probe τ where
  nextRequest := 0
  sent := []
  completed := 0
  statuses := []
  errors := []
  latencies := []
  workers := List.replicate workers .ready

inductive Event (τ : Type) where
  /-- a worker at the head of its loop, at a time -/
  | turn (worker : Nat) (now : Rat)
  /-- the call of a worker ends, after some time, and `draw` is drawn if the sample is full -/
  | settle (worker : Nat) (exchange : Exchange) (latency : τ) (draw : Nat)

section
variable {τ : Type} (plan : Plan)

def Plan.due (now : Rat) : Bool := plan.deadline.any fun deadline => decide (deadline ≤ now)

def Plan.exhausted (index : Nat) : Bool := plan.requests.any fun requests => decide (requests ≤ index)

def Plan.url (index : Nat) : String := plan.urls.getD (index % plan.urls.length) ""

def turn (worker : Nat) (now : Rat) (p : Probe τ) : Probe τ :=
  if plan.due now then { p with workers := p.workers.set worker .returned }
  else if plan.exhausted p.nextRequest then
    { p with
      nextRequest := p.nextRequest + 1
      workers := p.workers.set worker .returned }
  else
    { p with
      nextRequest := p.nextRequest + 1
      sent := p.sent ++ [⟨p.nextRequest, plan.url p.nextRequest, now⟩]
      workers := p.workers.set worker (.inFlight p.nextRequest) }

/-- the errors that one call counts: it may be too large and still fail when it is closed -/
def countErrors (exchange : Exchange) (errors : List (String × Nat)) : List (String × Nat) :=
  let errors := if exchange.tooLarge then bump "response_too_large" errors else errors
  match exchange.fault.bind Fault.key with
  | some key => bump key errors
  | none => errors

def countStatus (exchange : Exchange) (statuses : List (Nat × Nat)) : List (Nat × Nat) :=
  match exchange.status with
  | some status => bump status statuses
  | none => statuses

def settle (worker : Nat) (exchange : Exchange) (latency : τ) (draw : Nat) (p : Probe τ) : Probe τ :=
  { p with
    completed := p.completed + 1
    statuses := countStatus exchange p.statuses
    errors := countErrors exchange p.errors
    latencies := Reservoir.keep maxLatencySamples p.latencies latency draw
    workers := p.workers.set worker (if exchange.fault = some .other then .raised else .ready) }

/-- the numbers from which `randrange` draws when one more call has completed; while the sample is
not full nothing is drawn -/
def drawBound (completed : Nat) : Nat := if completed < maxLatencySamples then 1 else completed + 1

def step (p : Probe τ) : Event τ → Option (Probe τ)
  | .turn worker now => if p.workers[worker]? = some .ready then some (turn plan worker now p) else none
  | .settle worker exchange latency draw =>
    match p.workers[worker]? with
    | some (.inFlight _) =>
      if draw < drawBound p.completed then some (settle worker exchange latency draw p) else none
    | _ => none

def execute (p : Probe τ) : List (Event τ) → Option (Probe τ)
  | [] => some p
  | event :: events => (step plan p event).bind fun p' => execute p' events

end

/-! ## the report -/

/-- `latencies[math.ceil(len(latencies) * percentile / 100) - 1]` of the sorted latencies -/
def percentile {τ : Type} (le : τ → τ → Bool) (latencies : List τ) (percent : Nat) : Option τ :=
  (latencies.mergeSort le)[(latencies.length * percent + 99) / 100 - 1]?

/-- `dict(sorted(counter.items()))`: a counter has each key once, so that the texts decide -/
def sortedItems {κ : Type} (text : κ → String) (counter : List (κ × Nat)) : List (κ × Nat) :=
  counter.mergeSort fun a b => decide (text a.1 ≤ text b.1)

structure Report (τ : Type) where
  requests : Nat
  concurrency : Int
  endpointCount : Nat
  successful : Nat
  failed : Nat
  httpStatusCounts : List (Nat × Nat)
  transportErrors : List (String × Nat)
  latencySamples : Nat
  latencyPercentilesEstimated : Bool
  latencyMs : List (Nat × Option τ)

def success (status : Nat) : Bool := decide (200 ≤ status) && decide (status < 300)

/-- `asyncio.gather` returns when every worker has; an exception of one is the end of the probe -/
def report {τ : Type} (le : τ → τ → Bool) (args : Arguments) (p : Probe τ) : Option (Report τ) :=
  if p.workers.all (· == .returned) then
    some {
      requests := p.completed
      concurrency := args.concurrency
      endpointCount := args.urls.length
      successful := total success p.statuses
      failed := p.completed - total success p.statuses
      httpStatusCounts := sortedItems Nat.repr p.statuses
      transportErrors := sortedItems id p.errors
      latencySamples := p.latencies.length
      latencyPercentilesEstimated := decide (p.latencies.length < p.completed)
      latencyMs := [50, 95, 99].map fun percent => (percent, percentile le p.latencies percent) }
  else none

/-- the exit status of `main` -/
def exitStatus {τ : Type} (r : Report τ) : Nat := if r.failed = 0 ∧ r.requests ≠ 0 then 0 else 1

/-! ## counting -/

section
variable {κ : Type} [DecidableEq κ]

theorem total_bump (p : κ → Bool) (key : κ) (counter : List (κ × Nat)) :
    total p (bump key counter) = total p counter + if p key = true then 1 else 0 := by
  induction counter with
  | nil =>
    unfold total bump
    by_cases hp : p key = true <;> simp [hp]
  | cons entry rest ih =>
    obtain ⟨key', n⟩ := entry
    unfold total at ih ⊢
    unfold bump
    by_cases hkey : key' = key
    · rw [if_pos hkey]
      subst hkey
      by_cases hp : p key' = true
      · simp only [List.filter_cons, hp, if_pos, List.map_cons, List.sum_cons]
        omega
      · simp only [List.filter_cons, hp, if_neg, Bool.false_eq_true, not_false_eq_true, Nat.add_zero]
    · rw [if_neg hkey]
      by_cases hp : p key' = true
      · simp only [List.filter_cons, hp, if_pos, List.map_cons, List.sum_cons, ih]
        omega
      · simp only [List.filter_cons, hp, if_neg, Bool.false_eq_true, not_false_eq_true, ih]

end

theorem total_sortedItems {κ : Type} (p : κ → Bool) (text : κ → String) (counter : List (κ × Nat)) :
    total p (sortedItems text counter) = total p counter := by
  have hperm : (sortedItems text counter).Perm counter := List.mergeSort_perm _ _
  exact ((hperm.filter _).map _).sum_nat

theorem sortedItems_ordered {κ : Type} (text : κ → String) (counter : List (κ × Nat)) :
    (sortedItems text counter).Pairwise fun a b => text a.1 ≤ text b.1 := by
  have htrans : ∀ a b c : κ × Nat, decide (text a.1 ≤ text b.1) = true →
      decide (text b.1 ≤ text c.1) = true → decide (text a.1 ≤ text c.1) = true := by
    intro a b c hab hbc
    exact decide_eq_true (String.le_trans (of_decide_eq_true hab) (of_decide_eq_true hbc))
  have htotal : ∀ a b : κ × Nat,
      (decide (text a.1 ≤ text b.1) || decide (text b.1 ≤ text a.1)) = true := by
    intro a b
    rw [Bool.or_eq_true, decide_eq_true_iff, decide_eq_true_iff]
    exact String.le_total _ _
  exact (List.pairwise_mergeSort htrans htotal counter).imp of_decide_eq_true

/-- how many errors whose keys satisfy `p` one call counts -/
def Exchange.errorCount (p : String → Bool) (exchange : Exchange) : Nat :=
  (if exchange.tooLarge && p "response_too_large" then 1 else 0) +
    if (exchange.fault.bind Fault.key).any p then 1 else 0

theorem total_countErrors (p : String → Bool) (exchange : Exchange) (errors : List (String × Nat)) :
    total p (countErrors exchange errors) = total p errors + exchange.errorCount p := by
  unfold countErrors Exchange.errorCount
  have hfirst : total p (if exchange.tooLarge then bump "response_too_large" errors else errors) =
      total p errors + if exchange.tooLarge && p "response_too_large" then 1 else 0 := by
    by_cases h : exchange.tooLarge = true
    · rw [if_pos h, total_bump, h, Bool.true_and]
    · rw [if_neg h, Bool.eq_false_of_not_eq_true h, Bool.false_and]
      rfl
  cases hfault : exchange.fault.bind Fault.key with
  | none =>
    rw [Option.any_none]
    exact hfirst
  | some key =>
    rw [Option.any_some]
    show total p (bump key _) = _
    rw [total_bump, hfirst, Nat.add_assoc]

theorem total_countStatus (p : Nat → Bool) (exchange : Exchange) (statuses : List (Nat × Nat)) :
    total p (countStatus exchange statuses) =
      total p statuses + if exchange.status.any p = true then 1 else 0 := by
  unfold countStatus
  cases exchange.status with
  | none => rfl
  | some status => exact total_bump p status statuses

theorem countP_set_of {q : Worker → Bool} {l : List Worker} {i : Nat} {old new : Worker}
    (h : l[i]? = some old) :
    (l.set i new).countP q + (if q old = true then 1 else 0) =
      l.countP q + if q new = true then 1 else 0 := by
  obtain ⟨hi, e⟩ := List.getElem?_eq_some_iff.mp h
  have hpos : (if q old = true then 1 else 0) ≤ l.countP q := by
    by_cases hq : q old = true
    · rw [if_pos hq]
      exact List.countP_pos_iff.mpr ⟨old, e ▸ List.getElem_mem hi, hq⟩
    · rw [if_neg hq]
      exact Nat.zero_le _
  rw [List.countP_set hi, e]
  omega

/-! ## what a run keeps -/

/-- a call that has ended -/
structure Settled (τ : Type) where
  exchange : Exchange
  latency : τ
  draw : Nat

def Event.settled {τ : Type} : Event τ → Option (Settled τ)
  | .turn _ _ => none
  | .settle _ exchange latency draw => some ⟨exchange, latency, draw⟩

def Worker.flying : Worker → Bool
  | inFlight _ => true
  | _ => false

section
variable {τ : Type} {plan : Plan}

/-- the calls of a run that have ended, in order -/
def settled (events : List (Event τ)) : List (Settled τ) := events.filterMap Event.settled

theorem settled_concat_turn (events : List (Event τ)) (worker : Nat) (now : Rat) :
    settled (events ++ [.turn worker now]) = settled events := by
  unfold settled
  rw [List.filterMap_append]
  exact List.append_nil _

theorem settled_concat_settle (events : List (Event τ)) (worker : Nat) (exchange : Exchange)
    (latency : τ) (draw : Nat) : settled (events ++ [.settle worker exchange latency draw]) =
      settled events ++ [⟨exchange, latency, draw⟩] := by
  unfold settled
  rw [List.filterMap_append]
  rfl

theorem execute_concat (p : Probe τ) (events : List (Event τ)) (event : Event τ) :
    execute plan p (events ++ [event]) =
      (execute plan p events).bind fun p' => step plan p' event := by
  induction events generalizing p with
  | nil =>
    show (step plan p event).bind (fun p' => some p') = step plan p event
    exact Option.bind_fun_some _
  | cons first events ih =>
    show ((step plan p first).bind fun p' => execute plan p' (events ++ [event])) =
      ((step plan p first).bind fun p' => execute plan p' events).bind _
    rw [Option.bind_assoc]
    exact congrArg _ (funext ih)

/-- the number of requests that the counter has let through -/
def Plan.admitted (plan : Plan) (counted : Nat) : Nat :=
  match plan.requests with
  | some requests => min requests counted
  | none => counted

theorem Plan.admitted_succ {counted : Nat} :
    plan.admitted (counted + 1) =
      if plan.exhausted counted = true then plan.admitted counted else plan.admitted counted + 1 := by
  unfold admitted exhausted
  cases plan.requests with
  | none => rfl
  | some requests =>
    rw [Option.any_some]
    show min requests (counted + 1) = if _ then min requests counted else min requests counted + 1
    by_cases h : requests ≤ counted
    · rw [if_pos (decide_eq_true h)]
      omega
    · rw [if_neg (by rw [decide_eq_true_iff]; exact h)]
      omega

theorem Plan.admitted_of_not_exhausted {counted : Nat} (h : ¬ plan.exhausted counted = true) :
    plan.admitted counted = counted := by
  unfold exhausted at h
  unfold admitted
  cases hr : plan.requests with
  | none => rfl
  | some requests =>
    rw [hr, Option.any_some, decide_eq_true_iff] at h
    show min requests counted = counted
    omega

theorem raised_mem_set {l : List Worker} {i : Nat} {old new : Worker} (h : l[i]? = some old)
    (hold : old ≠ .raised) (hnew : new ≠ .raised) : .raised ∈ l.set i new ↔ .raised ∈ l := by
  obtain ⟨hi, e⟩ := List.getElem?_eq_some_iff.mp h
  constructor
  · intro hmem
    exact (List.mem_or_eq_of_mem_set hmem).resolve_right fun h => hnew h.symm
  · intro hmem
    obtain ⟨j, hj, hraised⟩ := List.mem_iff_getElem.mp hmem
    have hne : i ≠ j := by
      rintro rfl
      exact hold (e.symm.trans hraised)
    refine List.mem_iff_getElem.mpr ⟨j, by rw [List.length_set]; exact hj, ?_⟩
    rw [List.getElem_set_ne hne]
    exact hraised

/-- the state of a probe in terms of the events so far -/
structure Tallied (plan : Plan) (workers : Nat) (events : List (Event τ)) (p : Probe τ) : Prop where
  completed : p.completed = (settled events).length
  statuses : ∀ q, total q p.statuses = (settled events).countP fun call => call.exchange.status.any q
  errors : ∀ q, total q p.errors = ((settled events).map fun call => call.exchange.errorCount q).sum
  latencies : p.latencies =
    Reservoir.sampled maxLatencySamples ((settled events).map fun call => (call.latency, call.draw))
  drawn : (settled events).map Settled.draw ∈
    Reservoir.draws maxLatencySamples (settled events).length
  sent : p.sent.map (fun s => (s.index, s.url)) =
    (List.range (plan.admitted p.nextRequest)).map fun i => (i, plan.url i)
  early : ∀ s ∈ p.sent, plan.due s.now = false
  flight : p.sent.length = p.completed + p.workers.countP Worker.flying
  workers : p.workers.length = workers
  /-- a worker gives up when there is nothing more to send, unless its time is over -/
  stopped : plan.deadline = none → .returned ∈ p.workers → plan.exhausted p.nextRequest = true
  turns : events.length = p.sent.length + p.completed + p.workers.countP (· == .returned)
  raised : .raised ∈ p.workers ↔ ∃ call ∈ settled events, call.exchange.fault = some .other

theorem Tallied.length_sent {workers : Nat} {events : List (Event τ)} {p : Probe τ}
    (h : Tallied plan workers events p) : p.sent.length = plan.admitted p.nextRequest := by
  have e := congrArg List.length h.sent
  rwa [List.length_map, List.length_map, List.length_range] at e

theorem Tallied.begun (plan : Plan) (workers : Nat) :
    Tallied plan workers ([] : List (Event τ)) (begun τ workers) where
  completed := rfl
  statuses := fun q => rfl
  errors := fun q => rfl
  latencies := rfl
  drawn := List.mem_singleton.mpr rfl
  sent := by
    have h : plan.admitted 0 = 0 := by
      unfold Plan.admitted
      cases plan.requests with
      | none => rfl
      | some requests => exact Nat.min_zero requests
    show [] = (List.range (plan.admitted 0)).map _
    rw [h]
    rfl
  early := fun s hs => absurd hs List.not_mem_nil
  flight := by
    show 0 = 0 + (List.replicate workers Worker.ready).countP Worker.flying
    rw [List.countP_replicate]
    rfl
  workers := List.length_replicate
  stopped := fun _ h => by cases (List.mem_replicate.mp h).2
  turns := by
    show 0 = 0 + 0 + (List.replicate workers Worker.ready).countP (· == .returned)
    rw [List.countP_replicate]
    rfl
  raised := by
    constructor
    · intro h
      cases (List.mem_replicate.mp h).2
    · rintro ⟨call, hcall, _⟩
      exact absurd hcall List.not_mem_nil

theorem exhausted_mono {counted : Nat} (h : plan.exhausted counted = true) :
    plan.exhausted (counted + 1) = true := by
  unfold Plan.exhausted at h ⊢
  cases hr : plan.requests with
  | none =>
    rw [hr] at h
    cases h
  | some requests =>
    rw [hr, Option.any_some, decide_eq_true_iff] at h
    rw [Option.any_some]
    exact decide_eq_true (by omega)

variable {workers : Nat} {events : List (Event τ)} {p : Probe τ}

theorem Tallied.stop (h : Tallied plan workers events p) {worker : Nat} {now : Rat} {counted : Nat}
    (hready : p.workers[worker]? = some .ready)
    (hcount : plan.admitted counted = plan.admitted p.nextRequest)
    (hstop : plan.deadline = none → plan.exhausted counted = true) :
    Tallied plan workers (events ++ [.turn worker now])
      { p with nextRequest := counted, workers := p.workers.set worker .returned } := by
  have hflying := @countP_set_of Worker.flying p.workers worker .ready .returned hready
  have hreturned := @countP_set_of (· == .returned) p.workers worker .ready .returned hready
  have hsettled := settled_concat_turn events worker now
  refine { h with
    completed := ?_
    statuses := ?_
    errors := ?_
    latencies := ?_
    drawn := ?_
    sent := ?_
    flight := ?_
    workers := ?_
    stopped := fun hdeadline _ => hstop hdeadline
    turns := ?_
    raised := ?_ }
  · rw [hsettled]
    exact h.completed
  · rw [hsettled]
    exact h.statuses
  · rw [hsettled]
    exact h.errors
  · rw [hsettled]
    exact h.latencies
  · rw [hsettled]
    exact h.drawn
  · show p.sent.map _ = (List.range (plan.admitted counted)).map _
    rw [hcount]
    exact h.sent
  · have h1 := h.flight
    show p.sent.length = p.completed + (p.workers.set worker .returned).countP Worker.flying
    simp only [Worker.flying, Bool.false_eq_true, if_false] at hflying
    omega
  · rw [List.length_set]
    exact h.workers
  · have h1 := h.turns
    rw [List.length_append, List.length_singleton]
    show events.length + 1 =
      p.sent.length + p.completed + (p.workers.set worker .returned).countP (· == .returned)
    rw [if_neg (by decide), if_pos (by decide)] at hreturned
    omega
  · rw [hsettled, ← h.raised]
    exact raised_mem_set hready nofun nofun

theorem Tallied.send (h : Tallied plan workers events p) {worker : Nat} {now : Rat}
    (hready : p.workers[worker]? = some .ready) (hdue : ¬ plan.due now = true)
    (hleft : ¬ plan.exhausted p.nextRequest = true) :
    Tallied plan workers (events ++ [.turn worker now])
      { p with
        nextRequest := p.nextRequest + 1
        sent := p.sent ++ [⟨p.nextRequest, plan.url p.nextRequest, now⟩]
        workers := p.workers.set worker (.inFlight p.nextRequest) } := by
  have hflying := @countP_set_of Worker.flying p.workers worker .ready (.inFlight p.nextRequest) hready
  have hreturned :=
    @countP_set_of (· == .returned) p.workers worker .ready (.inFlight p.nextRequest) hready
  have hsettled := settled_concat_turn events worker now
  have hadmitted := Plan.admitted_of_not_exhausted hleft
  refine { h with
    completed := ?_
    statuses := ?_
    errors := ?_
    latencies := ?_
    drawn := ?_
    sent := ?_
    early := ?_
    flight := ?_
    workers := ?_
    stopped := ?_
    turns := ?_
    raised := ?_ }
  · rw [hsettled]
    exact h.completed
  · rw [hsettled]
    exact h.statuses
  · rw [hsettled]
    exact h.errors
  · rw [hsettled]
    exact h.latencies
  · rw [hsettled]
    exact h.drawn
  · show (p.sent ++ [_]).map _ = (List.range (plan.admitted (p.nextRequest + 1))).map _
    rw [Plan.admitted_succ, if_neg hleft, List.map_append, h.sent, List.range_succ, List.map_append,
      hadmitted]
    rfl
  · intro s hs
    rcases List.mem_append.mp hs with hs | hs
    · exact h.early s hs
    · rw [List.mem_singleton.mp hs]
      exact Bool.eq_false_of_not_eq_true hdue
  · have h1 := h.flight
    show (p.sent ++ [_]).length = p.completed + (p.workers.set worker _).countP Worker.flying
    rw [List.length_append, List.length_singleton]
    simp only [Worker.flying, Bool.false_eq_true, if_false, if_true] at hflying
    omega
  · rw [List.length_set]
    exact h.workers
  · intro hdeadline hmem
    rcases List.mem_or_eq_of_mem_set hmem with hmem | hmem
    · exact exhausted_mono (h.stopped hdeadline hmem)
    · cases hmem
  · have h1 := h.turns
    rw [List.length_append, List.length_singleton]
    show events.length + 1 = (p.sent ++ [_]).length + p.completed +
      (p.workers.set worker _).countP (· == .returned)
    rw [List.length_append, List.length_singleton]
    rw [if_neg (by decide), if_neg (by rw [beq_iff_eq]; exact nofun)] at hreturned
    omega
  · rw [hsettled, ← h.raised]
    exact raised_mem_set hready nofun nofun

theorem Tallied.turn (h : Tallied plan workers events p) {worker : Nat} (now : Rat)
    (hready : p.workers[worker]? = some .ready) :
    Tallied plan workers (events ++ [.turn worker now]) (turn plan worker now p) := by
  unfold LoadProbe.turn
  by_cases hdue : plan.due now = true
  · rw [if_pos hdue]
    apply h.stop hready rfl
    intro hdeadline
    unfold Plan.due at hdue
    rw [hdeadline] at hdue
    cases hdue
  · rw [if_neg hdue]
    by_cases hleft : plan.exhausted p.nextRequest = true
    · rw [if_pos hleft]
      apply h.stop hready
      · rw [Plan.admitted_succ, if_pos hleft]
      · exact fun _ => exhausted_mono hleft
    · rw [if_neg hleft]
      exact h.send hready hdue hleft

theorem Tallied.settle (h : Tallied plan workers events p) {worker index : Nat} (exchange : Exchange)
    (latency : τ) {draw : Nat} (hflight : p.workers[worker]? = some (.inFlight index))
    (hdraw : draw < drawBound p.completed) :
    Tallied plan workers (events ++ [.settle worker exchange latency draw])
      (settle worker exchange latency draw p) := by
  have hsettled := settled_concat_settle events worker exchange latency draw
  have hnext : ∀ q : Worker → Bool, q .ready = false → q .raised = false →
      q (if exchange.fault = some .other then .raised else .ready) = false := by
    intro q hready hraised
    by_cases hother : exchange.fault = some .other
    · rw [if_pos hother]
      exact hraised
    · rw [if_neg hother]
      exact hready
  refine { h with
    completed := ?_
    statuses := ?_
    errors := ?_
    latencies := ?_
    drawn := ?_
    flight := ?_
    workers := ?_
    stopped := ?_
    turns := ?_
    raised := ?_ }
  · rw [hsettled, List.length_append, List.length_singleton, ← h.completed]
    rfl
  · intro q
    show total q (countStatus exchange p.statuses) = _
    rw [hsettled, List.countP_append, List.countP_singleton, ← h.statuses q, total_countStatus]
  · intro q
    show total q (countErrors exchange p.errors) = _
    rw [hsettled, List.map_append, List.sum_append, ← h.errors q, total_countErrors,
      List.map_singleton, List.sum_singleton]
  · show Reservoir.keep maxLatencySamples p.latencies latency draw = _
    rw [hsettled, List.map_append, List.map_singleton, Reservoir.sampled_concat, ← h.latencies]
  · rw [hsettled, List.map_append, List.map_singleton, List.length_append, List.length_singleton]
    refine Reservoir.mem_draws_succ.mpr ⟨_, h.drawn, draw, ?_, rfl⟩
    rw [← h.completed]
    exact hdraw
  · have h1 := h.flight
    have h2 := @countP_set_of Worker.flying p.workers worker _
      (if exchange.fault = some .other then .raised else .ready) hflight
    rw [hnext Worker.flying rfl rfl] at h2
    simp only [Worker.flying, Bool.false_eq_true, if_false, if_true] at h2
    show p.sent.length = p.completed + 1 + (p.workers.set worker _).countP Worker.flying
    omega
  · exact List.length_set.trans h.workers
  · intro hdeadline hmem
    rcases List.mem_or_eq_of_mem_set hmem with hmem | hmem
    · exact h.stopped hdeadline hmem
    · by_cases hother : exchange.fault = some .other
      · rw [if_pos hother] at hmem
        cases hmem
      · rw [if_neg hother] at hmem
        cases hmem
  · have h1 := h.turns
    have h2 := @countP_set_of (· == .returned) p.workers worker _
      (if exchange.fault = some .other then .raised else .ready) hflight
    have hne : (Worker.inFlight index == .returned) = false := beq_false_of_ne nofun
    rw [hnext (· == .returned) (by decide) (by decide), hne] at h2
    simp only [Bool.false_eq_true, if_false] at h2
    rw [List.length_append, List.length_singleton]
    show events.length + 1 = p.sent.length + (p.completed + 1) +
      (p.workers.set worker _).countP (· == .returned)
    omega
  · rw [hsettled]
    by_cases hother : exchange.fault = some .other
    · refine iff_of_true ?_ ⟨⟨exchange, latency, draw⟩,
        List.mem_append_right _ (List.mem_singleton.mpr rfl), hother⟩
      show .raised ∈ p.workers.set worker (if exchange.fault = some .other then .raised else .ready)
      rw [if_pos hother]
      exact List.mem_set (List.getElem?_eq_some_iff.mp hflight).1 _
    · have hsame : .raised ∈ (LoadProbe.settle worker exchange latency draw p).workers ↔
          .raised ∈ p.workers := by
        show .raised ∈ p.workers.set worker (if exchange.fault = some .other then .raised else .ready) ↔ _
        rw [if_neg hother]
        exact raised_mem_set hflight nofun nofun
      rw [hsame, h.raised]
      constructor
      · rintro ⟨call, hcall, hfault⟩
        exact ⟨call, List.mem_append_left _ hcall, hfault⟩
      · rintro ⟨call, hcall, hfault⟩
        rcases List.mem_append.mp hcall with hcall | hcall
        · exact ⟨call, hcall, hfault⟩
        · rw [List.mem_singleton.mp hcall] at hfault
          exact absurd hfault hother

theorem step_settle {worker : Nat} {exchange : Exchange} {latency : τ} {draw : Nat} {p' : Probe τ}
    (h : step plan p (.settle worker exchange latency draw) = some p') :
    ∃ index, p.workers[worker]? = some (.inFlight index) ∧ draw < drawBound p.completed ∧
      LoadProbe.settle worker exchange latency draw p = p' := by
  simp only [LoadProbe.step] at h
  split at h
  · rename_i index hflight
    by_cases hdraw : draw < drawBound p.completed
    · rw [if_pos hdraw] at h
      exact ⟨index, hflight, hdraw, Option.some.inj h⟩
    · rw [if_neg hdraw] at h
      cases h
  · cases h

theorem Tallied.step (h : Tallied plan workers events p) {event : Event τ} {p' : Probe τ}
    (hstep : step plan p event = some p') : Tallied plan workers (events ++ [event]) p' := by
  cases event with
  | turn worker now =>
    change (if p.workers[worker]? = some .ready then some (LoadProbe.turn plan worker now p)
      else none) = some p' at hstep
    by_cases hready : p.workers[worker]? = some .ready
    · rw [if_pos hready] at hstep
      exact Option.some.inj hstep ▸ h.turn now hready
    · rw [if_neg hready] at hstep
      cases hstep
  | settle worker exchange latency draw =>
    obtain ⟨index, hflight, hdraw, rfl⟩ := step_settle hstep
    exact h.settle exchange latency hflight hdraw

/-- the run lemma -/
theorem execute_tallied (h : execute plan (begun τ workers) events = some p) :
    Tallied plan workers events p := by
  induction events using List.reverseRecOn generalizing p with
  | nil => exact Option.some.inj h ▸ Tallied.begun plan workers
  | append_singleton events event ih =>
    rw [execute_concat] at h
    obtain ⟨p', hrun, hstep⟩ := Option.bind_eq_some_iff.mp h
    exact (ih hrun).step hstep

end

/-! ## the finished probe -/

/-- a call that counts a status, or its size, and then an error of the closing stream as well -/
def Exchange.twice (exchange : Exchange) : Bool :=
  (exchange.status.isSome || exchange.tooLarge) && exchange.fault.isSome

theorem Exchange.recorded (exchange : Exchange) (h : exchange.fault ≠ some .other) :
    (if exchange.status.any (fun _ => true) = true then 1 else 0) +
        exchange.errorCount (fun _ => true) =
      1 + if exchange.twice = true then 1 else 0 := by
  have hkey : ∀ fault : Option Fault, fault ≠ some .other →
      ((fault.bind Fault.key).any fun _ => true) = fault.isSome := by
    intro fault hfault
    cases fault with
    | none => rfl
    | some fault =>
      cases fault with
      | timeout => rfl
      | transport => rfl
      | other => exact absurd rfl hfault
  unfold errorCount twice
  rw [hkey exchange.fault h]
  cases exchange with
  | unopened fault => rfl
  | streamed status chunks broken closing =>
    simp only [Exchange.status, Exchange.tooLarge, Exchange.fault]
    by_cases hlarge : overflows 0 chunks = true
    · cases broken <;> cases closing <;> simp [hlarge]
    · cases broken <;> cases closing <;> simp [hlarge]

theorem recorded_sum {τ : Type} (calls : List (Settled τ))
    (h : ∀ call ∈ calls, call.exchange.fault ≠ some .other) :
    (calls.countP fun call => call.exchange.status.any fun _ => true) +
        (calls.map fun call => call.exchange.errorCount fun _ => true).sum =
      calls.length + calls.countP fun call => call.exchange.twice := by
  induction calls with
  | nil => rfl
  | cons call calls ih =>
    have h1 := call.exchange.recorded (h call List.mem_cons_self)
    have h2 := ih fun call' hcall' => h call' (List.mem_cons_of_mem call hcall')
    rw [List.countP_cons, List.countP_cons, List.map_cons, List.sum_cons, List.length_cons]
    omega

/-- the nearest rank: enough of the sample is at most the value, and not too much is below it -/
theorem percentile_spec {τ : Type} {le : τ → τ → Bool}
    (trans : ∀ a b c, le a b = true → le b c = true → le a c = true)
    (total : ∀ a b, (le a b || le b a) = true) {latencies : List τ} {percent : Nat}
    (hne : latencies ≠ []) (hpos : 0 < percent) (hle : percent ≤ 100) :
    ∃ v, percentile le latencies percent = some v ∧ v ∈ latencies ∧
      percent * latencies.length ≤ 100 * latencies.countP (fun x => le x v) ∧
      100 * latencies.countP (fun x => !le v x) < percent * latencies.length := by
  have hlength : 0 < latencies.length := List.length_pos_iff.mpr hne
  have hsort := List.mergeSort_perm latencies le
  have hpair := List.pairwise_mergeSort trans total latencies
  have hproduct : 0 < latencies.length * percent := Nat.mul_pos hlength hpos
  have hproduct' : latencies.length * percent ≤ latencies.length * 100 :=
    Nat.mul_le_mul_left _ hle
  have hi : (latencies.length * percent + 99) / 100 - 1 < (latencies.mergeSort le).length := by
    rw [hsort.length_eq]
    omega
  generalize hs : latencies.mergeSort le = sorted at hsort hpair hi
  generalize hr : (latencies.length * percent + 99) / 100 - 1 = rank at hi
  refine ⟨sorted[rank], ?_, hsort.mem_iff.mp (List.getElem_mem hi), ?_, ?_⟩
  · unfold percentile
    rw [hs, hr, List.getElem?_eq_getElem hi]
  · have h1 : rank + 1 ≤ sorted.countP fun x => le x sorted[rank] := by
      have h2 : (sorted.take (rank + 1)).countP (fun x => le x sorted[rank]) = rank + 1 := by
        refine Eq.trans (List.countP_eq_length.mpr ?_) (List.length_take_of_le hi)
        intro x hx
        obtain ⟨j, hj, rfl⟩ := List.mem_iff_getElem.mp hx
        rw [List.length_take] at hj
        rw [List.getElem_take]
        by_cases hjr : j = rank
        · subst hjr
          have h3 := total sorted[j] sorted[j]
          rwa [Bool.or_self] at h3
        · exact List.pairwise_iff_getElem.mp hpair j rank (by omega) hi (by omega)
      rw [← h2]
      exact (List.take_sublist _ _).countP_le
    rw [hsort.countP_eq] at h1
    rw [Nat.mul_comm percent]
    omega
  · have h1 : (sorted.countP fun x => !le sorted[rank] x) ≤ rank := by
      have h2 : (sorted.drop rank).countP (fun x => !le sorted[rank] x) = 0 := by
        rw [List.countP_eq_zero]
        intro x hx
        obtain ⟨j, hj, rfl⟩ := List.mem_iff_getElem.mp hx
        rw [List.length_drop] at hj
        rw [List.getElem_drop]
        by_cases hj0 : j = 0
        · subst hj0
          have h3 := total sorted[rank] sorted[rank]
          rw [Bool.or_self] at h3
          simp only [Nat.add_zero, h3, Bool.not_true, Bool.false_eq_true, not_false_eq_true]
        · rw [List.pairwise_iff_getElem.mp hpair rank (rank + j) hi (by omega) (by omega)]
          simp only [Bool.not_true, Bool.false_eq_true, not_false_eq_true]
      have h3 : (sorted.take rank).countP (fun x => !le sorted[rank] x) ≤ rank :=
        List.countP_le_length.trans (List.length_take_le rank sorted)
      have h4 : sorted.countP (fun x => !le sorted[rank] x) =
          (sorted.take rank).countP (fun x => !le sorted[rank] x) +
            (sorted.drop rank).countP (fun x => !le sorted[rank] x) := by
        rw [← List.countP_append, List.take_append_drop]
      omega
    rw [hsort.countP_eq] at h1
    rw [Nat.mul_comm percent]
    omega

/-- what is known of accepted arguments -/
structure Accepted (args : Arguments) : Prop where
  urls : args.urls ≠ []
  atLeast : 1 ≤ args.concurrency
  atMost : args.concurrency ≤ 200
  either : args.requests.isNone ≠ args.durationSeconds.isNone
  requests : ∀ n, args.requests = some n → 1 ≤ n ∧ n ≤ 100000

theorem checkArguments_accepted {urlsplit : String → Option Ip.SplitUrl} {args : Arguments}
    (h : checkArguments urlsplit args = .ok ()) : Accepted args := by
  unfold checkArguments at h
  simp only [bind_ok, require_ok] at h
  obtain ⟨_, hfirst, _, heither, _, hrequests, _⟩ := h
  rw [Bool.and_eq_true, Bool.and_eq_true, decide_eq_true_iff, decide_eq_true_iff, Bool.not_eq_true',
    List.isEmpty_eq_false_iff] at hfirst
  refine ⟨hfirst.1.1, hfirst.1.2, hfirst.2, bne_iff_ne.mp heither, ?_⟩
  intro n hn
  rw [hn, Option.all_some, Bool.and_eq_true, decide_eq_true_iff, decide_eq_true_iff] at hrequests
  exact hrequests

section
variable {τ : Type} {args : Arguments} {started : Rat} {events : List (Event τ)} {p : Probe τ}

theorem Accepted.deadline (h : Accepted args) {n : Int} (hn : args.requests = some n) :
    (args.plan started).deadline = none := by
  have h1 := h.either
  rw [hn] at h1
  have h2 : args.durationSeconds = none := by
    cases hd : args.durationSeconds with
    | none => rfl
    | some duration =>
      rw [hd] at h1
      exact absurd rfl h1
  show (args.durationSeconds.bind Seconds.value).map _ = none
  rw [h2]
  rfl

theorem Accepted.workerCount (h : Accepted args) :
    0 < args.workerCount ∧ (args.workerCount : Int) ≤ args.concurrency := by
  have h1 := h.atLeast
  unfold Arguments.workerCount
  cases hn : args.requests with
  | none =>
    show 0 < args.concurrency.toNat ∧ (args.concurrency.toNat : Int) ≤ args.concurrency
    omega
  | some n =>
    have h2 := h.requests n hn
    show 0 < min args.concurrency.toNat n.toNat ∧
      ((min args.concurrency.toNat n.toNat : Nat) : Int) ≤ args.concurrency
    omega

/-- how many requests went to the endpoint at the place `u` -/
def load (args : Arguments) (p : Probe τ) (u : Nat) : Nat :=
  p.sent.countP fun s => s.index % args.urls.length == u

theorem load_eq {requests : Nat}
    (h : p.sent.map (fun s => (s.index, s.url)) =
      (List.range requests).map fun i => (i, (args.plan started).url i)) {u : Nat}
    (hu : u < args.urls.length) :
    load args p u = requests / args.urls.length + if u < requests % args.urls.length then 1 else 0 := by
  have hpos : 0 < args.urls.length := by omega
  have h1 : load args p u = (List.range requests).countP fun i => i % args.urls.length == u := by
    have h2 := congrArg (List.countP fun entry : Nat × String => entry.1 % args.urls.length == u) h
    rw [List.countP_map, List.countP_map] at h2
    exact h2
  have h3 := Nat.count_modEq_card requests hpos u
  rw [Nat.mod_eq_of_lt hu] at h3
  rw [h1, ← h3]
  unfold Nat.count
  apply List.countP_congr
  intro i _
  rw [beq_iff_eq, decide_eq_true_iff]
  show i % args.urls.length = u ↔ i % args.urls.length = u % args.urls.length
  rw [Nat.mod_eq_of_lt hu]

/-- what a report says of the calls -/
structure Exact (le : τ → τ → Bool) (args : Arguments) (events : List (Event τ)) (p : Probe τ)
    (r : Report τ) : Prop where
  /-- in the count mode every request has been sent -/
  requests : ∀ n, args.requests = some n → (r.requests : Int) = n
  /-- the requests have been sent once each, to the endpoints in turn -/
  sent : p.sent.map (fun s => (s.index, s.url)) =
    (List.range r.requests).map fun i => (i, args.urls.getD (i % args.urls.length) "")
  balanced : ∀ u v, u < args.urls.length → v < args.urls.length → load args p u ≤ load args p v + 1
  successful : r.successful = (settled events).countP fun call => call.exchange.status.any success
  failed : r.failed = (settled events).countP fun call => !call.exchange.status.any success
  statuses : ∀ q, total q r.httpStatusCounts =
    (settled events).countP fun call => call.exchange.status.any q
  errors : ∀ q, total q r.transportErrors =
    ((settled events).map fun call => call.exchange.errorCount q).sum
  ordered : (r.httpStatusCounts.Pairwise fun a b => Nat.repr a.1 ≤ Nat.repr b.1) ∧
    r.transportErrors.Pairwise fun a b => a.1 ≤ b.1
  /-- a call counts one status or one error, and a failing close of a counted call one more -/
  recorded : total (fun _ => true) r.httpStatusCounts + total (fun _ => true) r.transportErrors =
    r.requests + (settled events).countP fun call => call.exchange.twice
  samples : r.latencySamples = min maxLatencySamples r.requests
  estimated : r.latencyPercentilesEstimated = decide (maxLatencySamples < r.requests)
  percentiles : ∀ entry ∈ r.latencyMs, r.requests ≠ 0 → ∃ v, entry.2 = some v ∧ v ∈ p.latencies ∧
    entry.1 * r.latencySamples ≤ 100 * p.latencies.countP (fun x => le x v) ∧
    100 * p.latencies.countP (fun x => !le v x) < entry.1 * r.latencySamples
  exit : exitStatus r = 0 ↔ settled events ≠ [] ∧
    ∀ call ∈ settled events, call.exchange.status.any success = true

theorem exitStatus_eq_zero (r : Report τ) : exitStatus r = 0 ↔ r.failed = 0 ∧ r.requests ≠ 0 := by
  unfold exitStatus
  by_cases h : r.failed = 0 ∧ r.requests ≠ 0
  · rw [if_pos h]
    exact iff_of_true rfl h
  · rw [if_neg h]
    exact iff_of_false (Nat.succ_ne_zero 0) h

theorem returned_of_report {le : τ → τ → Bool} {r : Report τ} (h : report le args p = some r) :
    ∀ w ∈ p.workers, w = .returned := by
  unfold report at h
  by_cases hall : p.workers.all (· == .returned) = true
  · intro w hw
    exact eq_of_beq (List.all_eq_true.mp hall w hw)
  · rw [if_neg hall] at h
    cases h

theorem Tallied.finished {workers : Nat} (h : Tallied (args.plan started) workers events p)
    (hall : ∀ w ∈ p.workers, w = .returned) : p.sent.length = p.completed := by
  have h1 : p.workers.countP Worker.flying = 0 := by
    rw [List.countP_eq_zero]
    intro w hw
    rw [hall w hw]
    exact Bool.false_ne_true
  rw [h.flight, h1, Nat.add_zero]

theorem Tallied.count_mode {workers : Nat} (accepted : Accepted args) (hworkers : 0 < workers)
    (h : Tallied (args.plan started) workers events p) (hall : ∀ w ∈ p.workers, w = .returned)
    {n : Int} (hn : args.requests = some n) : (p.completed : Int) = n := by
  have hmem : .returned ∈ p.workers := by
    have hlength := h.workers
    cases hw : p.workers with
    | nil =>
      rw [hw] at hlength
      exact absurd hlength (by rw [List.length_nil]; omega)
    | cons w rest =>
      rw [hw] at hall
      rw [hall w List.mem_cons_self]
      exact List.mem_cons_self
  have hrequests : (args.plan started).requests = some n.toNat := by
    show args.requests.map Int.toNat = _
    rw [hn]
    rfl
  have hstop := h.stopped (accepted.deadline hn) hmem
  have hsent := h.length_sent
  have hrange := accepted.requests n hn
  unfold Plan.exhausted at hstop
  rw [hrequests, Option.any_some, decide_eq_true_iff] at hstop
  unfold Plan.admitted at hsent
  rw [hrequests] at hsent
  rw [← h.finished hall, hsent]
  show ((min n.toNat p.nextRequest : Nat) : Int) = n
  omega

theorem countP_not_add {α : Type} (q : α → Bool) (l : List α) :
    l.countP q + (l.countP fun x => !q x) = l.length := by
  induction l with
  | nil => rfl
  | cons x l ih =>
    rw [List.countP_cons, List.countP_cons, List.length_cons]
    cases q x
    · simp only [Bool.false_eq_true, if_false, Bool.not_false, if_true]
      omega
    · simp only [if_true, Bool.not_true, Bool.false_eq_true, if_false]
      omega

theorem Tallied.exact {le : τ → τ → Bool} {workers : Nat}
    (trans : ∀ a b c, le a b = true → le b c = true → le a c = true)
    (order : ∀ a b, (le a b || le b a) = true) (accepted : Accepted args) (hworkers : 0 < workers)
    (h : Tallied (args.plan started) workers events p) {r : Report τ}
    (hr : report le args p = some r) : Exact le args events p r := by
  have hall := returned_of_report hr
  have hfinished := h.finished hall
  have hcall : p.workers.all (· == .returned) = true :=
    List.all_eq_true.mpr fun w hw => beq_iff_eq.mpr (hall w hw)
  unfold report at hr
  rw [if_pos hcall] at hr
  have e := (Option.some.inj hr).symm
  subst e
  have hsent : p.sent.map (fun s => (s.index, s.url)) =
      (List.range p.completed).map fun i => (i, (args.plan started).url i) := by
    rw [h.sent, ← h.length_sent, hfinished]
  have hsamples : p.latencies.length = min maxLatencySamples p.completed := by
    rw [h.latencies, Reservoir.length_sampled, List.length_map, h.completed]
  have hsplit := countP_not_add (fun call : Settled τ => call.exchange.status.any success)
    (settled events)
  have hsuccess := h.statuses success
  have hcompleted := h.completed
  have hquiet : ∀ call ∈ settled events, call.exchange.fault ≠ some .other := by
    intro call hcall hfault
    cases hall _ (h.raised.mpr ⟨call, hcall, hfault⟩)
  refine ⟨fun n hn => h.count_mode accepted hworkers hall hn, hsent, ?_, hsuccess, ?_,
    fun q => (total_sortedItems q _ _).trans (h.statuses q),
    fun q => (total_sortedItems q _ _).trans (h.errors q),
    ⟨sortedItems_ordered Nat.repr _, sortedItems_ordered id _⟩, ?_, hsamples, ?_, ?_, ?_⟩
  · intro u v hu hv
    rw [load_eq hsent hu, load_eq hsent hv]
    split_ifs <;> omega
  · show p.completed - total success p.statuses = _
    omega
  · show total _ (sortedItems _ p.statuses) + total _ (sortedItems _ p.errors) = p.completed + _
    rw [total_sortedItems, total_sortedItems, h.statuses, h.errors, recorded_sum _ hquiet, h.completed]
  · show decide (p.latencies.length < p.completed) = decide (maxLatencySamples < p.completed)
    rw [hsamples]
    exact decide_eq_decide.mpr (by omega)
  · intro entry hentry hne
    obtain ⟨percent, hpercent, rfl⟩ := List.mem_map.mp hentry
    have hrange : 0 < percent ∧ percent ≤ 100 := by
      rw [List.mem_cons, List.mem_cons, List.mem_singleton] at hpercent
      omega
    apply percentile_spec trans order _ hrange.1 hrange.2
    rw [← List.length_pos_iff, hsamples]
    have hpos : p.completed ≠ 0 := hne
    have hlimit : 0 < maxLatencySamples := by decide
    omega
  · rw [exitStatus_eq_zero, ← List.countP_eq_length, ← List.length_pos_iff]
    show p.completed - total success p.statuses = 0 ∧ p.completed ≠ 0 ↔ _
    omega

theorem ended_of_stuck {plan : Plan} (latency : τ) (h : ∀ event, step plan p event = none) :
    ∀ w ∈ p.workers, w.ended = true := by
  intro w hw
  obtain ⟨i, hi, e⟩ := List.mem_iff_getElem.mp hw
  have hget : p.workers[i]? = some w := by rw [List.getElem?_eq_getElem hi, e]
  cases w with
  | returned => rfl
  | raised => rfl
  | ready =>
    have h1 := h (.turn i 0)
    change (if p.workers[i]? = some .ready then some (turn plan i 0 p) else none) = none at h1
    rw [if_pos hget] at h1
    cases h1
  | inFlight index =>
    have h1 := h (.settle i (.unopened .timeout) latency 0)
    have hbound : 0 < drawBound p.completed := by
      unfold drawBound
      split <;> omega
    simp only [step, hget, if_pos hbound] at h1
    cases h1

theorem report_of_stuck {le : τ → τ → Bool} {plan : Plan} {workers : Nat} (latency : τ)
    (h : Tallied plan workers events p) (hstuck : ∀ event, step plan p event = none)
    (hquiet : ∀ call ∈ settled events, call.exchange.fault ≠ some .other) :
    (report le args p).isSome = true := by
  have hall : p.workers.all (· == .returned) = true := by
    rw [List.all_eq_true]
    intro w hw
    have hended := ended_of_stuck latency hstuck w hw
    cases w with
    | returned => rfl
    | raised =>
      obtain ⟨call, hcall, hfault⟩ := h.raised.mp hw
      exact absurd hfault (hquiet call hcall)
    | ready => cases hended
    | inFlight index => cases hended
  unfold report
  rw [if_pos hall]
  rfl

theorem Tallied.bounded {workers : Nat} (h : Tallied (args.plan started) workers events p) {n : Int}
    (hn : args.requests = some n) : events.length ≤ 2 * n.toNat + workers := by
  have h1 := h.turns
  have h2 := h.flight
  have h3 := h.length_sent
  have h4 : p.workers.countP (· == .returned) ≤ p.workers.length := List.countP_le_length
  have h5 := h.workers
  have h6 : (args.plan started).admitted p.nextRequest ≤ n.toNat := by
    unfold Plan.admitted
    have hrequests : (args.plan started).requests = some n.toNat := by
      show args.requests.map Int.toNat = _
      rw [hn]
      rfl
    rw [hrequests]
    exact Nat.min_le_left _ _
  omega

/-- **The report of the load probe is exact.**  For accepted arguments and any order of the events:
no more calls are under way than the concurrency asks for, nothing is sent after the deadline, a
counted run ends, and the report of a finished run says what its calls met. -/
theorem probe_report {urlsplit : String → Option Ip.SplitUrl} {le : τ → τ → Bool}
    (trans : ∀ a b c, le a b = true → le b c = true → le a c = true)
    (order : ∀ a b, (le a b || le b a) = true)
    (accepted : checkArguments urlsplit args = .ok ())
    (run : execute (args.plan started) (begun τ args.workerCount) events = some p) :
    ((p.workers.countP Worker.flying : Nat) : Int) ≤ args.concurrency ∧
    (∀ s ∈ p.sent, (args.plan started).due s.now = false) ∧
    (∀ n, args.requests = some n → events.length ≤ 2 * n.toNat + args.workerCount) ∧
    (∀ latency : τ, (∀ event, step (args.plan started) p event = none) →
      (∀ call ∈ settled events, call.exchange.fault ≠ some .other) →
      (report le args p).isSome = true) ∧
    ∀ r, report le args p = some r → Exact le args events p r := by
  have haccepted := checkArguments_accepted accepted
  have h := execute_tallied run
  refine ⟨?_, h.early, fun n hn => h.bounded hn, fun latency hstuck hquiet =>
    report_of_stuck latency h hstuck hquiet, fun r hr =>
    h.exact trans order haccepted haccepted.workerCount.1 hr⟩
  have h1 : p.workers.countP Worker.flying ≤ p.workers.length := List.countP_le_length
  have h2 := h.workers
  have h3 := haccepted.workerCount.2
  omega

/-- two endpoints, three calls, two workers -/
def sampleArguments : Arguments where
  urls := ["https://a.example/health", "https://b.example/health"]
  requests := some 3
  durationSeconds := none
  concurrency := 2
  timeoutSeconds := .number 10
  token := none

def sampleSplit (value : String) : Option Ip.SplitUrl :=
  let host := if value = "https://a.example/health" then "a.example" else "b.example"
  some ⟨"https", some host, none, none, none, "/health", "", ""⟩

/-- the first call times out, the last one is answered and fails when it is closed -/
def sampleEvents : List (Event Nat) :=
  [.turn 0 0, .turn 1 0, .settle 1 (.streamed 200 [512] none none) 7 0, .turn 1 1,
    .settle 0 (.unopened .timeout) 90 0, .turn 0 2,
    .settle 1 (.streamed 200 [512, 512] none (some .transport)) 8 0, .turn 1 3]

def sampleProbe : Probe Nat :=
  (execute (sampleArguments.plan 0) (begun Nat sampleArguments.workerCount) sampleEvents).getD
    (begun Nat 0)

theorem sampleProbe_run :
    execute (sampleArguments.plan 0) (begun Nat sampleArguments.workerCount) sampleEvents =
      some sampleProbe := rfl

theorem probe_report_sample : ∃ r, report (fun a b => decide (a ≤ b)) sampleArguments sampleProbe = some r ∧
    r.requests = 3 ∧ total (fun status => status == 200) r.httpStatusCounts = 2 ∧
    total (fun key => key == "timeout") r.transportErrors = 1 ∧
    total (fun key => key == "transport_error") r.transportErrors = 1 ∧
    Exact (fun a b => decide (a ≤ b)) sampleArguments sampleEvents sampleProbe r := by
  have haccepted : checkArguments sampleSplit sampleArguments = .ok () := by decide +kernel
  have htrans : ∀ a b c : Nat, decide (a ≤ b) = true → decide (b ≤ c) = true →
      decide (a ≤ c) = true := by
    intro a b c hab hbc
    exact decide_eq_true (Nat.le_trans (of_decide_eq_true hab) (of_decide_eq_true hbc))
  have horder : ∀ a b : Nat, (decide (a ≤ b) || decide (b ≤ a)) = true := by
    intro a b
    rw [Bool.or_eq_true, decide_eq_true_iff, decide_eq_true_iff]
    exact Nat.le_total a b
  have hreport := probe_report htrans horder haccepted sampleProbe_run
  have hexact := hreport.2.2.2.2 _ rfl
  exact ⟨_, rfl, rfl, hexact.statuses _, hexact.errors _, hexact.errors _, hexact⟩

/-! ## the sample -/

/-- the same run with other numbers drawn -/
def redraw : List Nat → List (Event τ) → List (Event τ)
  | draw :: drawn, .settle worker exchange latency _ :: events =>
    .settle worker exchange latency draw :: redraw drawn events
  | drawn, event :: events => event :: redraw drawn events
  | _, [] => []

theorem redraw_turn (drawn : List Nat) (worker : Nat) (now : Rat) (events : List (Event τ)) :
    redraw drawn (.turn worker now :: events) = .turn worker now :: redraw drawn events := by
  cases drawn <;> rfl

theorem settled_redraw (drawn : List Nat) (events : List (Event τ))
    (h : drawn.length = (settled events).length) :
    (settled (redraw drawn events)).map (fun call => (call.latency, call.draw)) =
      ((settled events).map Settled.latency).zip drawn := by
  induction events generalizing drawn with
  | nil =>
    rw [List.eq_nil_of_length_eq_zero h]
    rfl
  | cons event events ih =>
    cases event with
    | turn worker now =>
      rw [redraw_turn]
      exact ih drawn h
    | settle worker exchange latency draw =>
      cases drawn with
      | nil => exact absurd h (Nat.succ_ne_zero _).symm
      | cons draw' drawn =>
        exact congrArg ((latency, draw') :: ·) (ih drawn (Nat.succ.inj h))

/-- the draws change nothing but the sample -/
theorem execute_redraw {plan : Plan} {q : Probe τ} (drawn : List Nat) (sample : List τ)
    (hlength : drawn.length = (settled events).length)
    (hrange : ∀ i draw, drawn[i]? = some draw → draw < drawBound (p.completed + i))
    (run : execute plan p events = some q) :
    ∃ sample', execute plan { p with latencies := sample } (redraw drawn events) =
      some { q with latencies := sample' } := by
  induction events generalizing p drawn sample with
  | nil =>
    rw [List.eq_nil_of_length_eq_zero hlength]
    exact ⟨sample, by rw [← Option.some.inj run]; rfl⟩
  | cons event events ih =>
    obtain ⟨p', hstep, hrest⟩ := Option.bind_eq_some_iff.mp run
    cases event with
    | turn worker now =>
      change (if p.workers[worker]? = some .ready then some (turn plan worker now p) else none) =
        some p' at hstep
      by_cases hready : p.workers[worker]? = some .ready
      · rw [if_pos hready] at hstep
        have e := Option.some.inj hstep
        subst e
        have hsame : turn plan worker now { p with latencies := sample } =
            { turn plan worker now p with latencies := sample } := by
          unfold turn
          split
          · rfl
          · split <;> rfl
        have hcompleted : (turn plan worker now p).completed = p.completed := by
          unfold turn
          split
          · rfl
          · split <;> rfl
        rw [redraw_turn]
        show ∃ sample', ((if p.workers[worker]? = some .ready then
          some (turn plan worker now { p with latencies := sample }) else none).bind fun p' =>
            execute plan p' (redraw drawn events)) = _
        rw [if_pos hready, Option.bind_some, hsame]
        exact ih drawn sample hlength (by rw [hcompleted]; exact hrange) hrest
      · rw [if_neg hready] at hstep
        cases hstep
    | settle worker exchange latency draw =>
      cases drawn with
      | nil => exact absurd hlength (Nat.succ_ne_zero _).symm
      | cons draw' drawn =>
        obtain ⟨index, hflight, hdraw, rfl⟩ := step_settle hstep
        have hdraw' : draw' < drawBound p.completed := hrange 0 draw' rfl
        have hnext : step plan { p with latencies := sample } (.settle worker exchange latency draw') =
            some (settle worker exchange latency draw' { p with latencies := sample }) := by
          simp only [step, hflight, if_pos hdraw']
        show ∃ sample', ((step plan { p with latencies := sample }
          (.settle worker exchange latency draw')).bind fun p' =>
            execute plan p' (redraw drawn events)) = _
        rw [hnext, Option.bind_some]
        refine ih drawn (Reservoir.keep maxLatencySamples sample latency draw') (Nat.succ.inj hlength)
          ?_ hrest
        intro i draw'' hi
        have h1 := hrange (i + 1) draw'' hi
        rwa [← Nat.add_assoc, Nat.add_right_comm] at h1

/-- **The latencies of a report are a uniform sample.**  Whatever the order of the events, the same
events are a run for every sequence of numbers that `randrange` can draw, all sequences being
equally likely; only the sample differs.  It consists of the latencies of some of the calls, and
over all sequences every one of the `n` completed calls is among them equally often: in
`min(limit, n)` out of `n`. -/
theorem probe_sample (plan : Plan) (workers : Nat)
    (run : execute plan (begun τ workers) events = some p) :
    (∀ drawn, drawn ∈ Reservoir.draws maxLatencySamples p.completed ↔ drawn.length = p.completed ∧
      ∀ i draw, drawn[i]? = some draw → draw < drawBound i) ∧
    (Reservoir.draws maxLatencySamples p.completed).Nodup ∧
    (settled events).map Settled.draw ∈ Reservoir.draws maxLatencySamples p.completed ∧
    (∀ drawn ∈ Reservoir.draws maxLatencySamples p.completed, ∃ sample,
      execute plan (begun τ workers) (redraw drawn events) = some { p with latencies := sample } ∧
      sample.map some = (Reservoir.positions maxLatencySamples drawn).map fun i =>
        (settled events)[i]?.map Settled.latency) ∧
    ∀ i < p.completed, ((Reservoir.draws maxLatencySamples p.completed).countP fun drawn =>
        decide (i ∈ Reservoir.positions maxLatencySamples drawn)) * p.completed =
      min maxLatencySamples p.completed * (Reservoir.draws maxLatencySamples p.completed).length := by
  have h := execute_tallied run
  refine ⟨fun drawn => Reservoir.mem_draws, Reservoir.nodup_draws _ _, h.completed ▸ h.drawn, ?_,
    fun i hi => Reservoir.sampled_uniform maxLatencySamples hi⟩
  intro drawn hdrawn
  obtain ⟨hlength, hrange⟩ := Reservoir.mem_draws.mp hdrawn
  rw [h.completed] at hlength
  obtain ⟨sample, hrun⟩ := execute_redraw drawn [] hlength (by
    intro i draw hi
    show draw < drawBound (0 + i)
    rw [Nat.zero_add]
    exact hrange i draw hi) run
  refine ⟨sample, hrun, ?_⟩
  have hsample : sample = Reservoir.sampled maxLatencySamples _ := (execute_tallied hrun).latencies
  rw [hsample, settled_redraw drawn events hlength,
    Reservoir.sampled_positions _ (by rw [List.length_map, hlength])]
  apply List.map_congr_left
  intro i _
  exact List.getElem?_map

/-- one worker, more calls than the sample holds -/
def longPlan : Plan := ⟨["https://a.example/health"], some 10001, none⟩

/-- `n` calls one after the other, each of another latency -/
def rounds : Nat → List (Event Nat)
  | 0 => []
  | n + 1 => rounds n ++ [.turn 0 0] ++ [.settle 0 (.streamed 200 [] none none) n 0]

theorem rounds_run {n : Nat} (h : n ≤ 10001) : ∃ q, execute longPlan (begun Nat 1) (rounds n) = some q ∧
    q.completed = n ∧ q.nextRequest = n ∧ q.workers = [.ready] := by
  induction n with
  | zero => exact ⟨_, rfl, rfl, rfl, rfl⟩
  | succ n ih =>
    obtain ⟨q, hrun, hcompleted, hnext, hworkers⟩ := ih (Nat.le_of_succ_le h)
    have hleft : ¬ longPlan.exhausted q.nextRequest = true := by
      show ¬ decide (10001 ≤ q.nextRequest) = true
      rw [decide_eq_true_iff]
      omega
    have hready : q.workers[0]? = some .ready := by
      rw [hworkers]
      rfl
    have hdraw : 0 < drawBound q.completed := by
      unfold drawBound
      split <;> omega
    rw [rounds, execute_concat, execute_concat, hrun]
    show ∃ q', ((if q.workers[0]? = some .ready then some (turn longPlan 0 0 q) else none).bind
      fun q' => step longPlan q' (.settle 0 (.streamed 200 [] none none) n 0)) = some q' ∧ _
    rw [if_pos hready, Option.bind_some, turn, if_neg (show ¬ longPlan.due 0 = true from Bool.false_ne_true),
      if_neg hleft, hworkers]
    exact ⟨_, if_pos hdraw, congrArg Nat.succ hcompleted, congrArg Nat.succ hnext, rfl⟩

/-- each of 10001 calls is in the sample of 10000 in all but one of 10001 sequences of draws -/
theorem probe_sample_sample : ∃ q, execute longPlan (begun Nat 1) (rounds 10001) = some q ∧
    ((Reservoir.draws maxLatencySamples q.completed).countP fun drawn =>
      decide (1 ∈ Reservoir.positions maxLatencySamples drawn)) * 10001 =
        10000 * (Reservoir.draws maxLatencySamples q.completed).length := by
  obtain ⟨q, hrun, hcompleted, -, -⟩ := rounds_run (Nat.le_refl 10001)
  have huniform := (probe_sample longPlan 1 hrun).2.2.2.2 1 (by omega)
  have hmin : min maxLatencySamples q.completed = 10000 := by
    rw [hcompleted]
    rfl
  rw [hmin] at huniform
  have hproduct : ∀ c : Nat, c * q.completed = c * 10001 := fun c => by rw [hcompleted]
  exact ⟨q, hrun, (hproduct _).symm.trans huniform⟩

end

end LoadProbe

end PgRbac
