import Mathlib.Data.List.Basic

/-!
# The completion record of a request

`RequestObservabilityMiddleware.__call__` of `app/main.py`.  The application calls `receive` and
`send` through the wrappers of the middleware, and ends by a return or by an exception.

* `Call`                          a call that has ended, with what the server gave;
* `receiveWithObservability`, `sendWithObservability`   the wrappers;
* `finish`                        the branches behind `await self.app(…)`;
* `Observed.logs`                 the records, each with the number of calls that ended before it.

The calls stand in the order in which they end: a call that is still open has done nothing yet.
The records leave out `duration_ms`.
-/

set_option linter.unusedVariables false

namespace PgRbac

namespace Observation

variable {ε : Type}

/-! ## messages, calls and records -/

inductive Raised (ε : Type) where
  /-- `asyncio.CancelledError` -/
  | cancelled (e : ε)
  | exception (e : ε)
  /-- an exception of the wrapper, which could not read the message -/
  | malformed
deriving DecidableEq, Repr

/-- a message of the application, as the wrapper reads it -/
structure Message where
  type : Option String
  /-- `int(message["status"])`, if that is a number -/
  status : Option Int
  /-- whether the headers can be extended -/
  headers : Bool
  moreBody : Bool
deriving DecidableEq, Repr

/-- what the application leaves on the scope and on `request.state` -/
structure Attributes where
  route : Option String
  businessCode : Option Int
  actorUserId : Option String
deriving DecidableEq, Repr

inductive Call (ε : Type) where
  /-- the type of the message, if it has one -/
  | receive (result : Except (Raised ε) (Option String))
  | send (message : Message) (result : Except (Raised ε) Unit)
  | assign (attributes : Attributes)

inductive Level where
  | info
  | warning
  | error
deriving DecidableEq, Repr

inductive Outcome where
  | success
  | failure
  | error
deriving DecidableEq, Repr

inductive FailurePhase where
  | responseWithoutStart
  | clientDisconnect
  | responseIncomplete
  | requestCancelledAfterResponse
  | requestCancelled
  | postResponse
  | send
  | receive
  | responseBody
  | application
deriving DecidableEq, Repr

/-- the fields that both records have -/
structure Fields where
  requestId : String
  httpMethod : String
  route : String
  httpStatusCode : Option Int
  businessCode : Option Int
  actorUserId : Option String
  responseStarted : Bool
  responseCompleted : Bool
  clientDisconnected : Bool
deriving DecidableEq, Repr

inductive Record (ε : Type) where
  /-- `http.request.completed` -/
  | completed (fields : Fields) (level : Level) (outcome : Outcome)
      (failurePhase : Option FailurePhase) (exception : Option (Raised ε))
  /-- `http.request.post_response_failed`, at level `ERROR` -/
  | postResponseFailed (fields : Fields) (failurePhase : FailurePhase) (exception : Raised ε)
deriving DecidableEq, Repr

def Record.fields : Record ε → Fields
  | .completed fields _ _ _ _ => fields
  | .postResponseFailed fields _ _ => fields

/-! ## the middleware -/

structure Observed (ε : Type) where
  requestId : String
  httpMethod : String
  attributes : Attributes
  requestCompletionRecorded : Bool
  responseStatusCode : Option Int
  responseStarted : Bool
  responseCompleted : Bool
  clientDisconnected : Bool
  sendFailed : Bool
  receiveFailed : Bool
  contextActive : Bool
  contextIsBound : Bool
  /-- calls that have ended -/
  ended : Nat
  logs : List (Nat × Record ε)
deriving DecidableEq, Repr

def internalError : Int := 500000

/-- the request before the application is called -/
def begin (requestId httpMethod : String) (attributes : Attributes) : Observed ε where
  requestId := requestId
  httpMethod := httpMethod
  attributes := attributes
  requestCompletionRecorded := false
  responseStatusCode := none
  responseStarted := false
  responseCompleted := false
  clientDisconnected := false
  sendFailed := false
  receiveFailed := false
  contextActive := true
  contextIsBound := true
  ended := 0
  logs := []

def requestLogLevel (statusCode : Int) : Level :=
  if statusCode ≥ 500 then .error else if statusCode ≥ 400 then .warning else .info

def completionLevel (outcome : Outcome) : Option Int → Level
  | none => .error
  | some statusCode => if outcome = .error then .error else requestLogLevel statusCode

namespace Observed

def fields (s : Observed ε) (statusCode : Option Int) : Fields where
  requestId := s.requestId
  httpMethod := s.httpMethod
  route := s.attributes.route.getD "<unmatched>"
  httpStatusCode := statusCode
  businessCode := s.attributes.businessCode
  actorUserId := s.attributes.actorUserId
  responseStarted := s.responseStarted
  responseCompleted := s.responseCompleted
  clientDisconnected := s.clientDisconnected

def logRequestCompletion (s : Observed ε) (statusCode : Option Int) (outcome : Outcome)
    (exception : Option (Raised ε)) (failurePhase : Option FailurePhase) : Observed ε :=
  if s.requestCompletionRecorded then s
  else
    { s with
      requestCompletionRecorded := true
      logs := s.logs ++ [(s.ended, .completed (s.fields statusCode)
        (completionLevel outcome statusCode) outcome failurePhase exception)] }

def logPostResponseFailure (s : Observed ε) (exception : Raised ε) (failurePhase : FailurePhase) :
    Observed ε :=
  { s with
    logs := s.logs ++ [(s.ended,
      .postResponseFailed (s.fields s.responseStatusCode) failurePhase exception)] }

def receiveWithObservability (s : Observed ε) :
    Except (Raised ε) (Option String) → Observed ε × Except (Raised ε) String
  | .error (.cancelled e) => (s, .error (.cancelled e))
  | .error e => ({ s with receiveFailed := true }, .error e)
  | .ok none => (s, .error .malformed)
  | .ok (some type) =>
    (if type = "http.disconnect" then { s with clientDisconnected := true } else s, .ok type)

end Observed

/-- the lines of the wrapper before `await send(message)`: the pending status code -/
def Message.pendingStatusCode (message : Message) : Except (Raised ε) (Option Int) :=
  match message.type with
  | none => .error .malformed
  | some type =>
    if type = "http.response.start" then
      match message.status with
      | none => .error .malformed
      | some statusCode => if message.headers then .ok (some statusCode) else .error .malformed
    else .ok none

def Message.final (message : Message) : Bool :=
  message.type == some "http.response.body" && !message.moreBody

namespace Observed

/-- the lines behind `await send(message)` for the last message of a body -/
def complete (s : Observed ε) : Observed ε :=
  let s := { s with responseCompleted := true }
  let statusCode := if s.responseStarted then s.responseStatusCode else none
  let s := s.logRequestCompletion statusCode
    (match statusCode with
      | none => .error
      | some code => if code < 400 then .success else .failure)
    none
    (match statusCode with
      | none => some .responseWithoutStart
      | some _ => none)
  { s with contextActive := false }

def started (s : Observed ε) : Option Int → Observed ε
  | none => s
  | some statusCode =>
    { s with responseStatusCode := some statusCode, responseStarted := true }

def sendWithObservability (s : Observed ε) (message : Message)
    (result : Except (Raised ε) Unit) : Observed ε × Except (Raised ε) Unit :=
  match message.pendingStatusCode with
  | .error e => (s, .error e)
  | .ok pending =>
    match result with
    | .error e => ({ s with sendFailed := true }, .error e)
    | .ok () =>
      let s := s.started pending
      (if message.final then s.complete else s, .ok ())

/-- one call that ends -/
def observe (s : Observed ε) (call : Call ε) : Observed ε :=
  let s := { s with ended := s.ended + 1 }
  match call with
  | .receive result => (s.receiveWithObservability result).1
  | .send message result => (s.sendWithObservability message result).1
  | .assign attributes => { s with attributes := attributes }

def releaseRequestContext (s : Observed ε) : Observed ε :=
  if s.contextIsBound then { s with contextIsBound := false } else s

def cancelledPhase (s : Observed ε) : FailurePhase :=
  if s.sendFailed then .send
  else if s.receiveFailed then .receive
  else if s.clientDisconnected then .clientDisconnect
  else .requestCancelled

def failedPhase (s : Observed ε) : FailurePhase :=
  if s.sendFailed then .send
  else if s.receiveFailed then .receive
  else if s.clientDisconnected then .clientDisconnect
  else if s.responseStarted then .responseBody
  else .application

/-- the `except Exception` branch, up to its `raise` -/
def failed (s : Observed ε) (e : Raised ε) : Observed ε :=
  if s.requestCompletionRecorded then s.logPostResponseFailure e .postResponse
  else
    let s :=
      if !s.sendFailed && !s.responseStarted then
        { s with attributes := { s.attributes with businessCode := some internalError } }
      else s
    s.logRequestCompletion
      (if s.responseStarted || s.sendFailed then s.responseStatusCode else some 500)
      .error (some e) (some s.failedPhase)

/-- the `except asyncio.CancelledError` branch, up to its `raise` -/
def cancelled (s : Observed ε) (e : Raised ε) : Observed ε :=
  if s.requestCompletionRecorded then s.logPostResponseFailure e .requestCancelledAfterResponse
  else s.logRequestCompletion s.responseStatusCode .error (some e) (some s.cancelledPhase)

def returned (s : Observed ε) : Observed ε :=
  if s.requestCompletionRecorded then s
  else
    s.logRequestCompletion s.responseStatusCode .error none
      (some (if s.clientDisconnected then .clientDisconnect else .responseIncomplete))

/-- how `__call__` ends, by how the application ends -/
def finish (s : Observed ε) : Except (Raised ε) Unit → Observed ε × Except (Raised ε) Unit
  | .ok () => (s.returned.releaseRequestContext, .ok ())
  | .error (.cancelled e) =>
    ((s.cancelled (.cancelled e)).releaseRequestContext, .error (.cancelled e))
  | .error e => ((s.failed e).releaseRequestContext, .error e)

end Observed

/-- `__call__` on an application that makes these calls and ends in this way -/
def handle (requestId httpMethod : String) (attributes : Attributes) (calls : List (Call ε))
    (ending : Except (Raised ε) Unit) : Observed ε × Except (Raised ε) Unit :=
  (calls.foldl Observed.observe (begin requestId httpMethod attributes)).finish ending

/-! ## what a record says of the calls before it -/

/-- a `send` of a start message that returned -/
def Call.starts : Call ε → Bool
  | .send message (.ok ()) =>
    match Message.pendingStatusCode (ε := ε) message with
    | .ok (some _) => true
    | _ => false
  | _ => false

/-- a `send` of the last message of a body that returned -/
def Call.finishes : Call ε → Bool
  | .send message (.ok ()) => message.final
  | _ => false

structure Truthful (calls : List (Call ε)) (fields : Fields) : Prop where
  started : fields.responseStarted = calls.any Call.starts
  completed : fields.responseCompleted = calls.any Call.finishes

/-- what holds after the calls: the flags are those of the calls, and there is one completion
record if the request was recorded, none otherwise -/
structure Follows (calls : List (Call ε)) (s : Observed ε) : Prop where
  ended : s.ended = calls.length
  started : s.responseStarted = calls.any Call.starts
  completed : s.responseCompleted = calls.any Call.finishes
  silent : s.requestCompletionRecorded = false → s.logs = []
  recorded : s.requestCompletionRecorded = true →
    ∃ k fields level outcome phase exception,
      s.logs = [(k, .completed fields level outcome phase exception)] ∧ k ≤ calls.length ∧
      Truthful (calls.take k) fields

/-! ## one call -/

variable {calls : List (Call ε)} {s s' : Observed ε}

theorem Truthful.append {k : Nat} {fields : Fields} (h : Truthful (calls.take k) fields)
    (hk : k ≤ calls.length) (call : Call ε) : Truthful ((calls ++ [call]).take k) fields := by
  rw [List.take_append_of_le_length hk]
  exact h

theorem pendingStatusCode_of_final {message : Message} (h : message.final = true) :
    message.pendingStatusCode (ε := ε) = .ok none := by
  have htype : message.type = some "http.response.body" := by
    unfold Message.final at h
    rw [Bool.and_eq_true, beq_iff_eq] at h
    exact h.1
  unfold Message.pendingStatusCode
  rw [htype]
  rfl

theorem Follows.noted (h : Follows calls s) {call : Call ε} (hended : s'.ended = s.ended + 1)
    (hstarted : s'.responseStarted = (s.responseStarted || call.starts))
    (hcompleted : s'.responseCompleted = (s.responseCompleted || call.finishes))
    (hrecorded : s'.requestCompletionRecorded = s.requestCompletionRecorded)
    (hlogs : s'.logs = s.logs) : Follows (calls ++ [call]) s' := by
  refine ⟨?_, ?_, ?_, ?_, ?_⟩
  · rw [hended, h.ended, List.length_append]
    rfl
  · rw [hstarted, h.started, List.any_append, List.any_cons, List.any_nil, Bool.or_false]
  · rw [hcompleted, h.completed, List.any_append, List.any_cons, List.any_nil, Bool.or_false]
  · intro hsilent
    rw [hlogs]
    exact h.silent (hrecorded ▸ hsilent)
  · intro hdone
    obtain ⟨k, fields, level, outcome, phase, exception, hone, hk, htruth⟩ :=
      h.recorded (hrecorded ▸ hdone)
    refine ⟨k, fields, level, outcome, phase, exception, hlogs.trans hone, ?_, htruth.append hk call⟩
    rw [List.length_append]
    exact Nat.le_add_right_of_le hk

theorem Follows.log (h : Follows calls s) (statusCode : Option Int) (outcome : Outcome)
    (exception : Option (Raised ε)) (failurePhase : Option FailurePhase) :
    Follows calls (s.logRequestCompletion statusCode outcome exception failurePhase) := by
  unfold Observed.logRequestCompletion
  cases hrecorded : s.requestCompletionRecorded with
  | true => exact h
  | false =>
    have hlogs := h.silent hrecorded
    refine ⟨h.ended, h.started, h.completed, fun hsilent => (by cases hsilent), fun _ => ?_⟩
    refine ⟨s.ended, s.fields statusCode, completionLevel outcome statusCode, outcome,
      failurePhase, exception, ?_, Nat.le_of_eq h.ended, ?_⟩
    · show s.logs ++ [_] = [_]
      rw [hlogs]
      rfl
    · rw [h.ended, List.take_length]
      exact ⟨h.started, h.completed⟩

theorem Follows.deactivate (h : Follows calls s) : Follows calls { s with contextActive := false } :=
  ⟨h.ended, h.started, h.completed, h.silent, h.recorded⟩

theorem Follows.receive (h : Follows calls s) (result : Except (Raised ε) (Option String)) :
    Follows (calls ++ [.receive result]) (s.observe (.receive result)) := by
  have hstarted : s.responseStarted = (s.responseStarted || false) := (Bool.or_false _).symm
  have hcompleted : s.responseCompleted = (s.responseCompleted || false) := (Bool.or_false _).symm
  cases result with
  | error e => cases e <;> exact h.noted rfl hstarted hcompleted rfl rfl
  | ok type =>
    cases type with
    | none => exact h.noted rfl hstarted hcompleted rfl rfl
    | some type =>
      by_cases htype : type = "http.disconnect"
      · have hflag : s.observe (.receive (.ok (some type))) =
            { s with ended := s.ended + 1, clientDisconnected := true } := by
          show (if type = "http.disconnect" then _ else _) = _
          rw [if_pos htype]
        rw [hflag]
        exact h.noted rfl hstarted hcompleted rfl rfl
      · have hflag : s.observe (.receive (.ok (some type))) = { s with ended := s.ended + 1 } := by
          show (if type = "http.disconnect" then _ else _) = _
          rw [if_neg htype]
        rw [hflag]
        exact h.noted rfl hstarted hcompleted rfl rfl

theorem Follows.send (h : Follows calls s) (message : Message) (result : Except (Raised ε) Unit) :
    Follows (calls ++ [.send message result]) (s.observe (.send message result)) := by
  have hstarted : s.responseStarted = (s.responseStarted || false) := (Bool.or_false _).symm
  have hcompleted : s.responseCompleted = (s.responseCompleted || false) := (Bool.or_false _).symm
  show Follows _ (Observed.sendWithObservability { s with ended := s.ended + 1 } message result).1
  unfold Observed.sendWithObservability
  cases hpending : message.pendingStatusCode (ε := ε) with
  | error e =>
    -- the wrapper raised before the server was called
    cases result with
    | error e' => exact h.noted rfl hstarted hcompleted rfl rfl
    | ok u =>
      have hnot : message.final = false := by
        by_contra hfinal
        rw [pendingStatusCode_of_final (by simpa using hfinal)] at hpending
        cases hpending
      refine h.noted rfl ?_ ?_ rfl rfl
      · show s.responseStarted = (s.responseStarted || Call.starts (.send message (.ok ())))
        simp [Call.starts, hpending]
      · show s.responseCompleted = (s.responseCompleted || message.final)
        rw [hnot, Bool.or_false]
  | ok pending =>
    cases result with
    | error e => exact h.noted rfl hstarted hcompleted rfl rfl
    | ok u =>
      cases hfinal : message.final with
      | false =>
        simp only [Bool.false_eq_true, if_false]
        cases pending with
        | none =>
          refine h.noted rfl ?_ ?_ rfl rfl
          · show s.responseStarted = (s.responseStarted || Call.starts (.send message (.ok ())))
            simp [Call.starts, hpending]
          · show s.responseCompleted = (s.responseCompleted || message.final)
            rw [hfinal, Bool.or_false]
        | some statusCode =>
          refine h.noted rfl ?_ ?_ rfl rfl
          · show true = (s.responseStarted || Call.starts (.send message (.ok ())))
            simp [Call.starts, hpending]
          · show s.responseCompleted = (s.responseCompleted || message.final)
            rw [hfinal, Bool.or_false]
      | true =>
        rw [pendingStatusCode_of_final hfinal] at hpending
        cases hpending
        simp only [if_true]
        refine (Follows.log (s := { s with ended := s.ended + 1, responseCompleted := true })
          ?_ _ _ _ _).deactivate
        refine h.noted rfl ?_ ?_ rfl rfl
        · show s.responseStarted = (s.responseStarted || Call.starts (.send message (.ok ())))
          simp [Call.starts, pendingStatusCode_of_final hfinal]
        · show true = (s.responseCompleted || message.final)
          rw [hfinal, Bool.or_true]

theorem Follows.observe (h : Follows calls s) (call : Call ε) :
    Follows (calls ++ [call]) (s.observe call) := by
  cases call with
  | receive result => exact h.receive result
  | send message result => exact h.send message result
  | assign attributes => exact h.noted rfl (Bool.or_false _).symm (Bool.or_false _).symm rfl rfl

/-! ## the whole request -/

theorem follows_begin (requestId httpMethod : String) (attributes : Attributes) :
    Follows [] (begin (ε := ε) requestId httpMethod attributes) :=
  ⟨rfl, rfl, rfl, fun _ => rfl, fun hrecorded => (by cases hrecorded)⟩

theorem Follows.foldl {earlier : List (Call ε)} (h : Follows earlier s) (calls : List (Call ε)) :
    Follows (earlier ++ calls) (calls.foldl Observed.observe s) := by
  induction calls generalizing earlier s with
  | nil =>
    rw [List.append_nil]
    exact h
  | cons call calls ih =>
    have hstep := ih (h.observe call)
    rw [List.append_assoc] at hstep
    exact hstep

/-- one completion record, and behind it at most the record of an exception -/
def OneCompletion (calls : List (Call ε)) (ending : Except (Raised ε) Unit)
    (logs : List (Nat × Record ε)) : Prop :=
  ∃ k fields level outcome phase exception rest,
    logs = (k, .completed fields level outcome phase exception) :: rest ∧
    k ≤ calls.length ∧ Truthful (calls.take k) fields ∧
    (rest = [] ∨ ∃ late failurePhase e, ending = .error e ∧ Truthful calls late ∧
      rest = [(calls.length, .postResponseFailed late failurePhase e)])

theorem Follows.alone (h : Follows calls s) (hrecorded : s.requestCompletionRecorded = true)
    (ending : Except (Raised ε) Unit) : OneCompletion calls ending s.logs := by
  obtain ⟨k, fields, level, outcome, phase, exception, hlogs, hk, htruth⟩ := h.recorded hrecorded
  exact ⟨k, fields, level, outcome, phase, exception, [], hlogs, hk, htruth, .inl rfl⟩

theorem recorded_log (s : Observed ε) (statusCode : Option Int) (outcome : Outcome)
    (exception : Option (Raised ε)) (failurePhase : Option FailurePhase) :
    (s.logRequestCompletion statusCode outcome exception failurePhase).requestCompletionRecorded =
      true := by
  unfold Observed.logRequestCompletion
  cases hrecorded : s.requestCompletionRecorded with
  | true => exact hrecorded
  | false => rfl

/-- an exception behind the completion record -/
theorem Follows.late (h : Follows calls s) (hrecorded : s.requestCompletionRecorded = true)
    (e : Raised ε) (failurePhase : FailurePhase) :
    OneCompletion calls (.error e) (s.logPostResponseFailure e failurePhase).logs := by
  obtain ⟨k, fields, level, outcome, phase, exception, hlogs, hk, htruth⟩ := h.recorded hrecorded
  refine ⟨k, fields, level, outcome, phase, exception, _, ?_, hk, htruth,
    .inr ⟨s.fields s.responseStatusCode, failurePhase, e, rfl, ⟨h.started, h.completed⟩, rfl⟩⟩
  show s.logs ++ [(s.ended, _)] = _
  rw [hlogs, h.ended]
  rfl

theorem Follows.returned (h : Follows calls s) : OneCompletion calls (.ok ()) s.returned.logs := by
  unfold Observed.returned
  cases hrecorded : s.requestCompletionRecorded with
  | true => exact h.alone hrecorded _
  | false => exact (h.log _ _ _ _).alone (recorded_log s _ _ _ _) _

theorem Follows.cancelled (h : Follows calls s) (e : Raised ε) :
    OneCompletion calls (.error e) (s.cancelled e).logs := by
  unfold Observed.cancelled
  cases hrecorded : s.requestCompletionRecorded with
  | true => exact h.late hrecorded e _
  | false => exact (h.log _ _ _ _).alone (recorded_log s _ _ _ _) _

theorem Follows.failed (h : Follows calls s) (e : Raised ε) :
    OneCompletion calls (.error e) (s.failed e).logs := by
  unfold Observed.failed
  by_cases hrecorded : s.requestCompletionRecorded = true
  · rw [if_pos hrecorded]
    exact h.late hrecorded e _
  · rw [if_neg hrecorded]
    have hcoded : Follows calls (if !s.sendFailed && !s.responseStarted then
        { s with attributes := { s.attributes with businessCode := some internalError } }
        else s) := by
      split
      · exact ⟨h.ended, h.started, h.completed, h.silent, h.recorded⟩
      · exact h
    exact (hcoded.log _ _ _ _).alone (recorded_log _ _ _ _ _) _

theorem logs_release (s : Observed ε) : s.releaseRequestContext.logs = s.logs := by
  unfold Observed.releaseRequestContext
  split <;> rfl

/-- **a request has one completion record**, whatever calls the application makes and however they
and the application end; the exception of the application goes on as it is -/
theorem completed_once (requestId httpMethod : String) (attributes : Attributes)
    (calls : List (Call ε)) (ending : Except (Raised ε) Unit) :
    (handle requestId httpMethod attributes calls ending).2 = ending ∧
      OneCompletion calls ending (handle requestId httpMethod attributes calls ending).1.logs := by
  have h : Follows calls (calls.foldl Observed.observe (begin requestId httpMethod attributes)) :=
    (follows_begin requestId httpMethod attributes).foldl calls
  unfold handle
  cases ending with
  | ok u => exact ⟨rfl, (logs_release _).symm ▸ h.returned⟩
  | error e =>
    cases e with
    | cancelled e => exact ⟨rfl, (logs_release _).symm ▸ h.cancelled (.cancelled e)⟩
    | exception e => exact ⟨rfl, (logs_release _).symm ▸ h.failed (.exception e)⟩
    | malformed => exact ⟨rfl, (logs_release _).symm ▸ h.failed .malformed⟩

end Observation

end PgRbac
