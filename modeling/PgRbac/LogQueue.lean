import PgRbac.Lib.Queue
import PgRbac.Lib.Run

/-!
# The queue of the log handler

`BufferedLogHandler` of `app/core/observability.py`: emitting threads put formatted lines into a
bounded queue, one writer thread takes them out and writes them, and a shutdown drains what is
left.  The parties take turns in any order, one step at a time:

* `Handler.emit`                    a record handed to the handler, under the handler lock;
* `Writer`                          where the writer stands in `_write_loop`;
* `Call`                            where a call of `shutdown` stands;
* `Handler.step`                    what one move does, `none` if it cannot be taken;
* `bufferedLogHandler`              the runs of all this.

A call of `shutdown` holds the lock while it drains, and takes one line in a step; the writer goes
on in between, up to the block in which it counts a line.  Waiting ends at any time: the deadline,
a cancellation and the end of the writer are one move.
-/

set_option linter.unusedVariables false

namespace PgRbac

open Fifo Trace

namespace LogQueue

/-! ## the handler -/

def maxLineBytes : Nat := 16384

/-- a line in the queue, with the number of lines that were put before it -/
structure Line where
  nth : Nat
  text : String
deriving DecidableEq, Repr

/-- the next thing that the writer does -/
inductive Writer where
  | testStop
  | testEmpty
  | get
  | write (line : Line)
  | count (failed dies : Bool)
  | taskDone (dies : Bool)
  | ended
deriving DecidableEq, Repr

inductive Call where
  | waiting
  | draining
  /-- the drain met an empty queue and released the lock -/
  | returned
  /-- `task_done` raised `ValueError` in the drain -/
  | raised
deriving DecidableEq, Repr

structure Handler where
  queue : Queue Line
  stopping : Bool
  written : Nat
  dropped : Nat
  writeFailures : Nat
  formatFailures : Nat
  writer : Writer
  calls : List Call
  /-- records handed to `emit` so far -/
  handed : Nat
  /-- every line that was put, in order -/
  enqueued : List Line
  /-- every line that was handed to the stream, in order -/
  output : List Line
deriving DecidableEq, Repr

namespace Handler

/-- `__init__`, with a thread that starts -/
def init (capacity : Nat) : Except String Handler :=
  if 1 ≤ capacity ∧ capacity ≤ 10000 then
    .ok {
      queue := Queue.empty capacity
      stopping := false
      written := 0
      dropped := 0
      writeFailures := 0
      formatFailures := 0
      writer := .testStop
      calls := []
      handed := 0
      enqueued := []
      output := [] }
  else .error "log queue capacity must be within 1..10000"

/-- a call of `shutdown` that drains holds the handler lock -/
def locked (s : Handler) : Bool := s.calls.contains .draining

def drop (s : Handler) : Handler := { s with dropped := s.dropped + 1 }

/-- the lines past the stop flag: `none` stands for a record whose format or encoding raises -/
def enqueue (s : Handler) : Option String → Handler
  | none => { s with formatFailures := s.formatFailures + 1 }
  | some text =>
    if maxLineBytes < text.utf8ByteSize then s.drop
    else
      match s.queue.put? ⟨s.enqueued.length, text⟩ with
      | none => s.drop
      | some queue =>
        { s with queue := queue, enqueued := s.enqueued ++ [⟨s.enqueued.length, text⟩] }

def emit (s : Handler) (formatted : Option String) : Handler :=
  let s := { s with handed := s.handed + 1 }
  if s.stopping then s.drop else s.enqueue formatted

def close (s : Handler) : Handler := { s with stopping := true }

/-- one turn of the drain of call `k` -/
def drain (s : Handler) (k : Nat) : Handler :=
  match s.queue.get? with
  | none => { s with calls := s.calls.set k .returned }
  | some (line, queue) =>
    match queue.done? with
    | none => { s with queue := queue, calls := s.calls.set k .raised }
    | some queue => { s with queue := queue }.drop

/-- the counting block of the writer -/
def count (s : Handler) (failed dies : Bool) : Handler :=
  let s := { s with writer := .taskDone dies }
  if failed then { s with writeFailures := s.writeFailures + 1 }
  else { s with written := s.written + 1 }

/-- the call of `task_done` after the block; a `ValueError` would end the thread -/
def taskDone (s : Handler) (dies : Bool) : Handler :=
  match s.queue.done? with
  | none => { s with writer := .ended }
  | some queue => { s with queue := queue, writer := if dies then .ended else .testStop }

end Handler

/-! ## moves -/

inductive Move where
  | emit (formatted : Option String)
  | close
  | shutdown
  | endWait (k : Nat)
  | drain (k : Nat)
  | testStop
  | testEmpty
  | get
  /-- `failed` is the flag after the `try`; `dies` if what it raised is no `Exception` -/
  | write (failed dies : Bool)
  | count
  | taskDone
deriving DecidableEq, Repr

/-- one turn of the loop of the writer, by where it stands -/
def Handler.write? (s : Handler) : Move → Option Handler
  | .testStop =>
    if s.writer = .testStop then
      some { s with writer := if s.stopping then .testEmpty else .get }
    else none
  | .testEmpty =>
    if s.writer = .testEmpty then
      some { s with writer := if s.queue.items.isEmpty then .ended else .get }
    else none
  | .get =>
    if s.writer = .get then
      match s.queue.get? with
      | none => some { s with writer := .testStop }
      | some (line, queue) => some { s with queue := queue, writer := .write line }
    else none
  | .write failed dies =>
    match s.writer with
    | .write line => some { s with output := s.output ++ [line], writer := .count failed dies }
    | _ => none
  | .count =>
    match s.writer with
    | .count failed dies => if s.locked then none else some (s.count failed dies)
    | _ => none
  | .taskDone =>
    match s.writer with
    | .taskDone dies => some (s.taskDone dies)
    | _ => none
  | _ => none

def Handler.step (s : Handler) : Move → Option Handler
  | .emit formatted => if s.locked then none else some (s.emit formatted)
  | .close => if s.locked then none else some s.close
  | .shutdown =>
    if s.locked then none else some { s.close with calls := s.calls ++ [.waiting] }
  | .endWait k =>
    if s.locked ∨ s.calls[k]? ≠ some .waiting then none
    else some { s with calls := s.calls.set k .draining }
  | .drain k => if s.calls[k]? = some .draining then some (s.drain k) else none
  | move => s.write? move

def bufferedLogHandler (capacity : Nat) : System Handler Move where
  init s := Handler.init capacity = .ok s
  step s move s' := s.step move = some s'

/-! ## what is accounted for -/

/-- lines that the writer has taken and not yet counted -/
def Writer.taken : Writer → Nat
  | .write _ => 1
  | .count _ _ => 1
  | _ => 0

/-- the line in the hand of the writer, before it is written -/
def Writer.held : Writer → List Line
  | .write line => [line]
  | _ => []

/-- tasks that the writer has yet to finish -/
def Writer.tasks : Writer → Nat
  | .write _ => 1
  | .count _ _ => 1
  | .taskDone _ => 1
  | _ => 0

def Handler.counted (s : Handler) : Nat :=
  s.written + s.dropped + s.writeFailures + s.formatFailures

/-- what holds between any two moves -/
structure Sound (capacity : Nat) (s : Handler) : Prop where
  positive : 0 < capacity
  maxsize : s.queue.maxsize = capacity
  bounded : s.queue.items.length ≤ capacity
  accounted : s.handed = s.counted + s.queue.items.length + s.writer.taken
  unfinished : s.queue.unfinished = s.queue.items.length + s.writer.tasks
  order : ∃ gone, s.enqueued = gone ++ s.queue.items ∧
    (s.output ++ s.writer.held).Sublist gone
  numbered : s.enqueued.map Line.nth = List.range s.enqueued.length
  closed : s.calls ≠ [] → s.stopping = true
  drained : Call.returned ∈ s.calls → s.queue.items = []

theorem sound_init {capacity : Nat} {s : Handler} (h : Handler.init capacity = .ok s) :
    Sound capacity s := by
  unfold Handler.init at h
  split at h
  · rename_i hcapacity
    cases h
    exact ⟨hcapacity.1, rfl, Nat.zero_le _, rfl, rfl, ⟨[], rfl, List.Sublist.refl _⟩, rfl,
      fun hcalls => absurd rfl hcalls, fun _ => rfl⟩
  · cases h

/-! ## emitting -/

/-- what handing over a record does: a counter goes up or a line is put -/
theorem Handler.emit_cases (s : Handler) (formatted : Option String) :
    s.emit formatted = { s with handed := s.handed + 1, dropped := s.dropped + 1 } ∨
    s.emit formatted = { s with handed := s.handed + 1, formatFailures := s.formatFailures + 1 } ∨
    ∃ text queue, s.stopping = false ∧ s.queue.put? ⟨s.enqueued.length, text⟩ = some queue ∧
      s.emit formatted = { s with
        handed := s.handed + 1
        queue := queue
        enqueued := s.enqueued ++ [⟨s.enqueued.length, text⟩] } := by
  by_cases hstop : s.stopping = true
  · refine .inl ?_
    show (if s.stopping = true then _ else _) = _
    rw [if_pos hstop]
    rfl
  · have hemit : s.emit formatted = Handler.enqueue { s with handed := s.handed + 1 } formatted := by
      show (if s.stopping = true then _ else _) = _
      rw [if_neg hstop]
    rw [hemit]
    cases formatted with
    | none => exact .inr (.inl rfl)
    | some text =>
      simp only [Handler.enqueue]
      by_cases hlong : maxLineBytes < text.utf8ByteSize
      · rw [if_pos hlong]
        exact .inl rfl
      · rw [if_neg hlong]
        cases hput : s.queue.put? ⟨s.enqueued.length, text⟩ with
        | none => exact .inl rfl
        | some queue => exact .inr (.inr ⟨text, queue, by simpa using hstop, hput, rfl⟩)

variable {capacity : Nat} {s s' : Handler}

theorem Sound.emit (h : Sound capacity s) (formatted : Option String) :
    Sound capacity (s.emit formatted) := by
  have haccounted := h.accounted
  unfold Handler.counted at haccounted
  obtain heq | heq | ⟨text, queue, hstop, hput, heq⟩ := s.emit_cases formatted
  · rw [heq]
    refine { h with accounted := ?_ }
    show s.handed + 1 = s.written + (s.dropped + 1) + s.writeFailures + s.formatFailures +
      s.queue.items.length + s.writer.taken
    omega
  · rw [heq]
    refine { h with accounted := ?_ }
    show s.handed + 1 = s.written + s.dropped + s.writeFailures + (s.formatFailures + 1) +
      s.queue.items.length + s.writer.taken
    omega
  · rw [heq]
    have hmax : 0 < s.queue.maxsize := h.maxsize ▸ h.positive
    have hbound := Queue.length_put? hmax hput
    obtain ⟨-, rfl⟩ := Queue.put?_eq_some.mp hput
    have hlength : (s.queue.items ++ [Line.mk s.enqueued.length text]).length =
        s.queue.items.length + 1 := List.length_append
    refine { h with
        bounded := ?_
        accounted := ?_
        unfinished := ?_
        order := ?_
        numbered := ?_
        drained := ?_ }
    · exact h.maxsize ▸ hbound
    · show s.handed + 1 = s.written + s.dropped + s.writeFailures + s.formatFailures +
        (s.queue.items ++ [Line.mk s.enqueued.length text]).length + s.writer.taken
      omega
    · have htasks := h.unfinished
      show s.queue.unfinished + 1 =
        (s.queue.items ++ [Line.mk s.enqueued.length text]).length + s.writer.tasks
      omega
    · obtain ⟨gone, hgone, hsub⟩ := h.order
      refine ⟨gone, ?_, hsub⟩
      show s.enqueued ++ [_] = gone ++ (s.queue.items ++ [_])
      rw [hgone, List.append_assoc]
    · show (s.enqueued ++ [_]).map Line.nth = List.range (s.enqueued ++ [_]).length
      rw [List.map_append, h.numbered, List.length_append]
      exact List.range_succ.symm
    · -- a returned call has closed the handler before
      intro hreturned
      have hcalls : s.calls ≠ [] := List.ne_nil_of_mem hreturned
      rw [h.closed hcalls] at hstop
      cases hstop

/-! ## closing and draining -/

theorem Sound.close (h : Sound capacity s) : Sound capacity s.close :=
  { h with closed := fun _ => rfl }

theorem returned_of_set {calls : List Call} {k : Nat} {call : Call} (hne : call ≠ .returned)
    (h : Call.returned ∈ calls.set k call) : Call.returned ∈ calls := by
  rcases List.mem_or_eq_of_mem_set h with hmem | heq
  · exact hmem
  · exact absurd heq.symm hne

theorem ne_nil_of_getElem? {calls : List Call} {k : Nat} {call : Call}
    (h : calls[k]? = some call) : calls ≠ [] :=
  List.ne_nil_of_mem (List.mem_of_getElem? h)

theorem Sound.shutdown (h : Sound capacity s) :
    Sound capacity { s.close with calls := s.calls ++ [.waiting] } :=
  { h with
    closed := fun _ => rfl
    drained := fun hreturned => h.drained (by
      rcases List.mem_append.mp hreturned with hmem | hmem
      · exact hmem
      · cases List.mem_singleton.mp hmem) }

theorem Sound.endWait (h : Sound capacity s) {k : Nat} (hk : s.calls[k]? = some .waiting) :
    Sound capacity { s with calls := s.calls.set k .draining } :=
  { h with
    closed := fun _ => h.closed (ne_nil_of_getElem? hk)
    drained := fun hreturned => h.drained (returned_of_set (by decide) hreturned) }

theorem Sound.front (h : Sound capacity s) {line : Line} {rest : List Line}
    (hitems : s.queue.items = line :: rest) :
    ∃ gone, s.enqueued = (gone ++ [line]) ++ rest ∧ (s.output ++ s.writer.held).Sublist gone := by
  obtain ⟨gone, hgone, hsub⟩ := h.order
  refine ⟨gone, ?_, hsub⟩
  rw [hgone, hitems, List.append_assoc]
  rfl

theorem Sound.drain (h : Sound capacity s) {k : Nat} (hk : s.calls[k]? = some .draining) :
    Sound capacity (s.drain k) := by
  unfold Handler.drain
  cases hget : s.queue.get? with
  | none =>
    exact { h with
      closed := fun _ => h.closed (ne_nil_of_getElem? hk)
      drained := fun _ => Queue.get?_eq_none.mp hget }
  | some taken =>
    obtain ⟨line, queue⟩ := taken
    obtain ⟨hitems, hqueue⟩ := Queue.get?_eq_some.mp hget
    have hlength : s.queue.items.length = queue.items.length + 1 := congrArg List.length hitems
    have hunfinished : queue.unfinished = s.queue.unfinished := by rw [hqueue]
    have hmaxsize : queue.maxsize = s.queue.maxsize := by rw [hqueue]
    have htasks := h.unfinished
    have hbounded := h.bounded
    -- the line that was taken is unfinished, so `task_done` does not raise
    show Sound capacity (match queue.done? with | none => _ | some queue => _)
    cases hdone : queue.done? with
    | none =>
      have hzero : queue.unfinished = 0 := by
        by_contra hne
        rw [Queue.done?, if_neg hne] at hdone
        cases hdone
      omega
    | some queue' =>
      obtain ⟨-, rfl⟩ := Queue.done?_eq_some.mp hdone
      refine { h with
          maxsize := hmaxsize.trans h.maxsize
          bounded := ?_
          accounted := ?_
          unfinished := ?_
          order := ?_
          drained := ?_ }
      · show queue.items.length ≤ capacity
        omega
      · have haccounted := h.accounted
        unfold Handler.counted at haccounted
        show s.handed = s.written + (s.dropped + 1) + s.writeFailures + s.formatFailures +
          queue.items.length + s.writer.taken
        omega
      · show queue.unfinished - 1 = queue.items.length + s.writer.tasks
        omega
      · obtain ⟨gone, hgone, hsub⟩ := h.front hitems
        exact ⟨gone ++ [line], hgone, hsub.trans (List.sublist_append_left _ _)⟩
      · intro hreturned
        have hnone := h.drained hreturned
        rw [hitems] at hnone
        cases hnone

/-! ## the writer -/

theorem Sound.turn (h : Sound capacity s) {writer : Writer}
    (htaken : writer.taken = s.writer.taken) (hheld : writer.held = s.writer.held)
    (htasks : writer.tasks = s.writer.tasks) : Sound capacity { s with writer := writer } := by
  refine { h with
      accounted := ?_
      unfinished := ?_
      order := ?_ }
  · show s.handed = s.counted + s.queue.items.length + writer.taken
    rw [htaken]
    exact h.accounted
  · show s.queue.unfinished = s.queue.items.length + writer.tasks
    rw [htasks]
    exact h.unfinished
  · show ∃ gone, s.enqueued = gone ++ s.queue.items ∧ (s.output ++ writer.held).Sublist gone
    rw [hheld]
    exact h.order

theorem Sound.get (h : Sound capacity s) (hwriter : s.writer = .get) {line : Line}
    {queue : Queue Line} (hget : s.queue.get? = some (line, queue)) :
    Sound capacity { s with queue := queue, writer := .write line } := by
  obtain ⟨hitems, hqueue⟩ := Queue.get?_eq_some.mp hget
  have hlength : s.queue.items.length = queue.items.length + 1 := congrArg List.length hitems
  have hunfinished : queue.unfinished = s.queue.unfinished := by rw [hqueue]
  have hmaxsize : queue.maxsize = s.queue.maxsize := by rw [hqueue]
  have hbounded := h.bounded
  refine { h with
      maxsize := hmaxsize.trans h.maxsize
      bounded := ?_
      accounted := ?_
      unfinished := ?_
      order := ?_
      drained := ?_ }
  · show queue.items.length ≤ capacity
    omega
  · have haccounted := h.accounted
    rw [hwriter] at haccounted
    show s.handed = s.counted + queue.items.length + 1
    change s.handed = s.counted + s.queue.items.length + 0 at haccounted
    omega
  · have htasks := h.unfinished
    rw [hwriter] at htasks
    show queue.unfinished = queue.items.length + 1
    change s.queue.unfinished = s.queue.items.length + 0 at htasks
    omega
  · obtain ⟨gone, hgone, hsub⟩ := h.front hitems
    rw [hwriter] at hsub
    refine ⟨gone ++ [line], hgone, ?_⟩
    show (s.output ++ [line]).Sublist (gone ++ [line])
    have hout : s.output.Sublist gone := by simpa [Writer.held] using hsub
    exact hout.append (List.Sublist.refl _)
  · intro hreturned
    have hnone := h.drained hreturned
    rw [hitems] at hnone
    cases hnone

theorem Sound.write (h : Sound capacity s) {line : Line} (hwriter : s.writer = .write line)
    (failed dies : Bool) :
    Sound capacity { s with output := s.output ++ [line], writer := .count failed dies } := by
  refine { h with
      accounted := ?_
      unfinished := ?_
      order := ?_ }
  · have haccounted := h.accounted
    rw [hwriter] at haccounted
    exact haccounted
  · have htasks := h.unfinished
    rw [hwriter] at htasks
    exact htasks
  · obtain ⟨gone, hgone, hsub⟩ := h.order
    rw [hwriter] at hsub
    refine ⟨gone, hgone, ?_⟩
    show (s.output ++ [line] ++ []).Sublist gone
    rw [List.append_nil]
    exact hsub

theorem Sound.count (h : Sound capacity s) {failed dies : Bool}
    (hwriter : s.writer = .count failed dies) : Sound capacity (s.count failed dies) := by
  have haccounted := h.accounted
  rw [hwriter] at haccounted
  change s.handed = s.written + s.dropped + s.writeFailures + s.formatFailures +
    s.queue.items.length + 1 at haccounted
  have htasks : s.queue.unfinished = s.queue.items.length + 1 := by
    rw [h.unfinished, hwriter]
    rfl
  have horder : ∃ gone, s.enqueued = gone ++ s.queue.items ∧ (s.output ++ []).Sublist gone := by
    have hheld := h.order
    rw [hwriter] at hheld
    exact hheld
  cases failed with
  | true =>
    refine { h with
        accounted := ?_
        unfinished := htasks
        order := horder }
    show s.handed = s.written + s.dropped + (s.writeFailures + 1) + s.formatFailures +
      s.queue.items.length + 0
    omega
  | false =>
    refine { h with
        accounted := ?_
        unfinished := htasks
        order := horder }
    show s.handed = s.written + 1 + s.dropped + s.writeFailures + s.formatFailures +
      s.queue.items.length + 0
    omega

theorem Sound.taskDone (h : Sound capacity s) {dies : Bool}
    (hwriter : s.writer = .taskDone dies) : Sound capacity (s.taskDone dies) := by
  have htasks : s.queue.unfinished = s.queue.items.length + 1 := by
    rw [h.unfinished, hwriter]
    rfl
  have haccounted := h.accounted
  rw [hwriter] at haccounted
  have horder := h.order
  rw [hwriter] at horder
  have hdone : s.queue.done? = some { s.queue with unfinished := s.queue.unfinished - 1 } :=
    Queue.done?_eq_some.mpr ⟨by omega, rfl⟩
  have hless : s.queue.unfinished - 1 = s.queue.items.length + 0 := by omega
  unfold Handler.taskDone
  rw [hdone]
  cases dies with
  | true => exact { h with accounted := haccounted, unfinished := hless, order := horder }
  | false => exact { h with accounted := haccounted, unfinished := hless, order := horder }

/-! ## every step, every run -/

/-- what a move that can be taken does -/
inductive Taken (s : Handler) : Handler → Prop
  | emit (formatted : Option String) : Taken s (s.emit formatted)
  | close : Taken s s.close
  | shutdown : Taken s { s.close with calls := s.calls ++ [.waiting] }
  | endWait {k : Nat} (hk : s.calls[k]? = some .waiting) :
      Taken s { s with calls := s.calls.set k .draining }
  | drain {k : Nat} (hk : s.calls[k]? = some .draining) : Taken s (s.drain k)
  | turn {writer : Writer} (htaken : writer.taken = s.writer.taken)
      (hheld : writer.held = s.writer.held) (htasks : writer.tasks = s.writer.tasks) :
      Taken s { s with writer := writer }
  | get {line : Line} {queue : Queue Line} (hwriter : s.writer = .get)
      (hget : s.queue.get? = some (line, queue)) :
      Taken s { s with queue := queue, writer := .write line }
  | write {line : Line} (hwriter : s.writer = .write line) (failed dies : Bool) :
      Taken s { s with output := s.output ++ [line], writer := .count failed dies }
  | count {failed dies : Bool} (hwriter : s.writer = .count failed dies) :
      Taken s (s.count failed dies)
  | taskDone {dies : Bool} (hwriter : s.writer = .taskDone dies) : Taken s (s.taskDone dies)

theorem taken_of_write {move : Move} (h : s.write? move = some s') : Taken s s' := by
  cases move with
  | testStop =>
    simp only [Handler.write?, Option.ite_none_right_eq_some, Option.some.injEq] at h
    obtain ⟨hwriter, rfl⟩ := h
    split <;> exact .turn (hwriter ▸ rfl) (hwriter ▸ rfl) (hwriter ▸ rfl)
  | testEmpty =>
    simp only [Handler.write?, Option.ite_none_right_eq_some, Option.some.injEq] at h
    obtain ⟨hwriter, rfl⟩ := h
    split <;> exact .turn (hwriter ▸ rfl) (hwriter ▸ rfl) (hwriter ▸ rfl)
  | get =>
    simp only [Handler.write?, Option.ite_none_right_eq_some] at h
    obtain ⟨hwriter, h⟩ := h
    cases hget : s.queue.get? with
    | none =>
      rw [hget] at h
      cases h
      exact .turn (hwriter ▸ rfl) (hwriter ▸ rfl) (hwriter ▸ rfl)
    | some taken =>
      rw [hget] at h
      cases h
      exact .get hwriter hget
  | write failed dies =>
    cases hwriter : s.writer <;> simp only [Handler.write?, hwriter] at h <;> cases h
    exact .write hwriter failed dies
  | count =>
    cases hwriter : s.writer <;> simp only [Handler.write?, hwriter] at h <;> try cases h
    simp only [Option.ite_none_left_eq_some, Option.some.injEq] at h
    obtain ⟨-, rfl⟩ := h
    exact .count hwriter
  | taskDone =>
    cases hwriter : s.writer <;> simp only [Handler.write?, hwriter] at h <;> cases h
    exact .taskDone hwriter
  | emit formatted => cases h
  | close => cases h
  | shutdown => cases h
  | endWait k => cases h
  | drain k => cases h

theorem taken_of_step {move : Move} (h : s.step move = some s') : Taken s s' := by
  cases move with
  | emit formatted =>
    simp only [Handler.step, Option.ite_none_left_eq_some, Option.some.injEq] at h
    obtain ⟨-, rfl⟩ := h
    exact .emit formatted
  | close =>
    simp only [Handler.step, Option.ite_none_left_eq_some, Option.some.injEq] at h
    obtain ⟨-, rfl⟩ := h
    exact .close
  | shutdown =>
    simp only [Handler.step, Option.ite_none_left_eq_some, Option.some.injEq] at h
    obtain ⟨-, rfl⟩ := h
    exact .shutdown
  | endWait k =>
    simp only [Handler.step, Option.ite_none_left_eq_some, Option.some.injEq, not_or,
      not_not] at h
    obtain ⟨⟨-, hk⟩, rfl⟩ := h
    exact .endWait hk
  | drain k =>
    simp only [Handler.step, Option.ite_none_right_eq_some, Option.some.injEq] at h
    obtain ⟨hk, rfl⟩ := h
    exact .drain hk
  | testStop => exact taken_of_write (show s.write? .testStop = some s' from h)
  | testEmpty => exact taken_of_write (show s.write? .testEmpty = some s' from h)
  | get => exact taken_of_write (show s.write? .get = some s' from h)
  | write failed dies => exact taken_of_write (show s.write? (.write failed dies) = some s' from h)
  | count => exact taken_of_write (show s.write? .count = some s' from h)
  | taskDone => exact taken_of_write (show s.write? .taskDone = some s' from h)

theorem Sound.step (h : Sound capacity s) (ht : Taken s s') : Sound capacity s' := by
  cases ht with
  | emit formatted => exact h.emit formatted
  | close => exact h.close
  | shutdown => exact h.shutdown
  | endWait hk => exact h.endWait hk
  | drain hk => exact h.drain hk
  | turn htaken hheld htasks => exact h.turn htaken hheld htasks
  | get hwriter hget => exact h.get hwriter hget
  | write hwriter failed dies => exact h.write hwriter failed dies
  | count hwriter => exact h.count hwriter
  | taskDone hwriter => exact h.taskDone hwriter

theorem Taken.stopped (ht : Taken s s') (hstop : s.stopping = true) :
    s'.stopping = true ∧ s'.enqueued = s.enqueued := by
  cases ht with
  | emit formatted =>
    obtain heq | heq | ⟨text, queue, hopen, -, -⟩ := s.emit_cases formatted
    · exact ⟨heq ▸ hstop, heq ▸ rfl⟩
    · exact ⟨heq ▸ hstop, heq ▸ rfl⟩
    · rw [hstop] at hopen
      cases hopen
  | close => exact ⟨rfl, rfl⟩
  | shutdown => exact ⟨rfl, rfl⟩
  | endWait hk => exact ⟨hstop, rfl⟩
  | drain hk =>
    unfold Handler.drain
    cases s.queue.get? with
    | none => exact ⟨hstop, rfl⟩
    | some taken =>
      obtain ⟨line, queue⟩ := taken
      simp only []
      cases queue.done? with
      | none => exact ⟨hstop, rfl⟩
      | some queue => exact ⟨hstop, rfl⟩
  | turn htaken hheld htasks => exact ⟨hstop, rfl⟩
  | get hwriter hget => exact ⟨hstop, rfl⟩
  | write hwriter failed dies => exact ⟨hstop, rfl⟩
  | @count failed dies hwriter => cases failed <;> exact ⟨hstop, rfl⟩
  | taskDone hwriter =>
    unfold Handler.taskDone
    cases s.queue.done? with
    | none => exact ⟨hstop, rfl⟩
    | some queue => exact ⟨hstop, rfl⟩

variable {st : Nat → Handler} {lab : Nat → Move} {n : Nat}

theorem sound_run (h : IsRun (bufferedLogHandler capacity) st lab n) {i : Nat} (hi : i ≤ n) :
    Sound capacity (st i) := by
  refine h.invariant (P := Sound capacity) (fun s hs => sound_init hs) ?_ hi
  intro s move s' hs hstep
  exact hs.step (taken_of_step hstep)

theorem stopped_run (h : IsRun (bufferedLogHandler capacity) st lab n) {i j : Nat} (hij : i ≤ j)
    (hj : j ≤ n) (hstop : (st i).stopping = true) :
    (st j).stopping = true ∧ (st j).enqueued = (st i).enqueued := by
  induction j with
  | zero =>
    have hzero : i = 0 := Nat.le_zero.mp hij
    exact hzero ▸ ⟨hzero ▸ hstop, rfl⟩
  | succ j ih =>
    rcases Nat.eq_or_lt_of_le hij with heq | hlt
    · exact heq ▸ ⟨hstop, rfl⟩
    · obtain ⟨hbefore, hsame⟩ := ih (Nat.le_of_lt_succ hlt) (Nat.le_of_succ_le hj)
      obtain ⟨hafter, hkept⟩ := (taken_of_step (h.next j hj)).stopped hbefore
      exact ⟨hafter, hkept.trans hsame⟩

/-- **no line is lost and none is counted twice**, however emitters, the writer, `close` and
`shutdown` take turns -/
theorem log_queue_conserved (h : IsRun (bufferedLogHandler capacity) st lab n) {i : Nat}
    (hi : i ≤ n) :
    (st i).handed = (st i).written + (st i).dropped + (st i).writeFailures +
        (st i).formatFailures + (st i).queue.items.length + (st i).writer.taken ∧
      (st i).queue.items.length ≤ capacity ∧
      ((st i).output.Sublist (st i).enqueued ∧
        (st i).enqueued.map Line.nth = List.range (st i).enqueued.length) ∧
      ((st i).stopping = true → ∀ j, i ≤ j → j ≤ n → (st j).enqueued = (st i).enqueued) ∧
      ((st i).writer = .ended → Call.returned ∈ (st i).calls →
        (st i).queue.items = [] ∧
        (st i).handed = (st i).written + (st i).dropped + (st i).writeFailures +
          (st i).formatFailures) := by
  have hsound := sound_run h hi
  refine ⟨hsound.accounted, hsound.bounded, ⟨?_, hsound.numbered⟩, ?_, ?_⟩
  · obtain ⟨gone, hgone, hsub⟩ := hsound.order
    rw [hgone]
    exact ((List.sublist_append_left _ _).trans hsub).trans (List.sublist_append_left _ _)
  · intro hstop j hij hj
    exact (stopped_run h hij hj hstop).2
  · intro hended hreturned
    have hnone := hsound.drained hreturned
    refine ⟨hnone, ?_⟩
    have haccounted := hsound.accounted
    rw [hnone, hended] at haccounted
    exact haccounted

/-- two records are handed over and the writer takes one; the shutdown drains the other -/
def sampleMoves : List Move :=
  [.emit (some "a"), .testStop, .emit (some "b"), .get, .emit none, .shutdown, .endWait 0,
    .write false false, .drain 0, .drain 0, .count, .taskDone, .emit (some "c"), .testStop,
    .testEmpty]

def sampleStart : Handler :=
  ⟨Queue.empty 2, false, 0, 0, 0, 0, .testStop, [], 0, [], []⟩

/-- the state after the first `i` moves of the sample -/
def sampleState (i : Nat) : Handler :=
  (sampleMoves.take i).foldl (fun s move => (s.step move).getD s) sampleStart

theorem log_queue_conserved_drained :
    (sampleState 15).writer = .ended ∧ Call.returned ∈ (sampleState 15).calls ∧
      (sampleState 15).handed = 4 ∧ (sampleState 15).written = 1 ∧ (sampleState 15).dropped = 2 ∧
      (sampleState 15).formatFailures = 1 ∧
      (sampleState 15).handed = (sampleState 15).written + (sampleState 15).dropped +
        (sampleState 15).writeFailures + (sampleState 15).formatFailures := by
  have hrun : IsRun (bufferedLogHandler 2) sampleState (fun i => sampleMoves.getD i .close) 15 :=
    ⟨rfl, by
      show ∀ i, i < 15 → (sampleState i).step (sampleMoves.getD i .close) =
        some (sampleState (i + 1))
      decide +kernel⟩
  have hended : (sampleState 15).writer = .ended := by decide +kernel
  have hreturned : Call.returned ∈ (sampleState 15).calls := by decide +kernel
  have hall := log_queue_conserved hrun (Nat.le_refl 15)
  exact ⟨hended, hreturned, by decide +kernel, by decide +kernel, by decide +kernel,
    by decide +kernel, (hall.2.2.2.2 hended hreturned).2⟩

end LogQueue

end PgRbac
