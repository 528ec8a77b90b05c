import PgRbac.Lib.Run
import PgRbac.Captcha

/-!
# The life of a challenge

Any number of `issue` and `consume` calls, one command of Redis at a time, at nondecreasing times
and from a keyspace without a challenge.

* `CaptchaTraffic.system`   the system: each call has its phase, each command its delivery;
* `Named`                   a live private challenge is the one that its owner's pointer names;
* `Stored`                  a challenge that is stored was written by its own `issue` call, and has
                            been there ever since;
* `one_time_challenges`     a challenge is accepted once, from its owner and with its answer.
-/

set_option linter.unusedVariables false
set_option linter.unusedSectionVars false

namespace PgRbac

open Redis Trace

/-! ## one command of a call -/

/-- the pointer with which the next command of the call is the script -/
def IssueRequest.script (r : IssueRequest) : IssuePhase → Option (Option Uuid)
  | .start attempt =>
    if (captchaOwner r.scene r.ownerId).isOk = true ∧
        ¬ (r.ownerId.isSome ∧ r.previousCaptchaId = none) then some none
    else none
  | .pointed attempt currentId => some currentId
  | .finished outcome => none

/-- the next command is the script, and it returns 1 -/
def CaptchaService.writes (s : CaptchaService) (r : IssueRequest) (now : Nat) (delivery : Delivery)
    (phase : IssuePhase) (keys : CaptchaKeys) : Prop :=
  ∃ currentId, r.script phase = some currentId ∧ delivery ≠ .unexecuted ∧
    (s.evalIssue r now currentId keys).1 = 1

section
variable {s : CaptchaService}

theorem captchaOwner_ok {scene : String} {ownerId owner : Option Uuid}
    (h : captchaOwner scene ownerId = .ok owner) : owner = ownerId := by
  unfold captchaOwner at h
  split at h
  · cases h
  · exact (Except.ok.inj h).symm

theorem answered_one (r : IssueRequest) (attempt : Nat) :
    r.answered attempt 1 = .finished (.ok r.captchaId) := rfl

/-- what a command of an `issue` call writes -/
structure Written (s : CaptchaService) (r : IssueRequest) (now : Nat) (keys keys' : CaptchaKeys)
    (base : CaptchaKeys) : Prop where
  cleared : Cleared now r.ownerId (captchaIndex r.scene r.ownerId) keys base
  keys : keys' = writeChallenge now captchaTtlSeconds (.challenge r.captchaId)
    (captchaIndex r.scene r.ownerId) r.ownerId r.captchaId (.record (s.record r)) base

theorem runIssue_cases {r : IssueRequest} {now attempt : Nat} {currentId : Option Uuid}
    {delivery : Delivery} {phase' : IssuePhase} {keys keys' : CaptchaKeys}
    (h : s.runIssue r attempt currentId now delivery keys = (phase', keys')) :
    (keys' = keys ∧ ¬ (delivery ≠ .unexecuted ∧ (s.evalIssue r now currentId keys).1 = 1)) ∨
      ((delivery ≠ .unexecuted ∧ (s.evalIssue r now currentId keys).1 = 1) ∧
        (∃ outcome, phase' = .finished outcome) ∧ ∃ base, Written s r now keys keys' base) := by
  unfold CaptchaService.runIssue at h
  cases hout : s.evalIssue r now currentId keys with
  | mk result keys'' =>
    have hcases := issueScript_cases hout
    rw [hout] at h
    cases delivery with
    | unexecuted =>
      cases h
      exact Or.inl ⟨rfl, fun hw => hw.1 rfl⟩
    | unanswered =>
      cases h
      rcases hcases with ⟨hne, he⟩ | ⟨hone, base, hclear, he⟩
      · exact Or.inl ⟨he, fun hw => hne hw.2⟩
      · exact Or.inr ⟨⟨by simp, hone⟩, ⟨_, rfl⟩, base, hclear, he⟩
    | answered =>
      cases h
      rcases hcases with ⟨hne, he⟩ | ⟨hone, base, hclear, he⟩
      · exact Or.inl ⟨he, fun hw => hne hw.2⟩
      · refine Or.inr ⟨⟨by simp, hone⟩, ⟨.ok r.captchaId, ?_⟩, base, hclear, he⟩
        rw [hone]
        exact answered_one r attempt

/-- a command of an `issue` call changes no key, or it is the script that returns 1, and the last -/
theorem issue_cases {r : IssueRequest} {now : Nat} {delivery : Delivery}
    {phase phase' : IssuePhase} {keys keys' : CaptchaKeys}
    (h : s.issue r now delivery phase keys = (phase', keys')) :
    (keys' = keys ∧ ¬ s.writes r now delivery phase keys) ∨
      (s.writes r now delivery phase keys ∧ (∃ outcome, phase' = .finished outcome) ∧
        ∃ base, Written s r now keys keys' base) := by
  have hrun : ∀ attempt currentId, r.script phase = some currentId →
      s.runIssue r attempt currentId now delivery keys = (phase', keys') →
      (keys' = keys ∧ ¬ s.writes r now delivery phase keys) ∨
        (s.writes r now delivery phase keys ∧ (∃ outcome, phase' = .finished outcome) ∧
          ∃ base, Written s r now keys keys' base) := by
    intro attempt currentId hscript he
    rcases runIssue_cases he with ⟨hsame, hnot⟩ | ⟨hw, hrest⟩
    · refine Or.inl ⟨hsame, ?_⟩
      rintro ⟨c, hc, hw⟩
      rw [hscript] at hc
      cases hc
      exact hnot hw
    · exact Or.inr ⟨⟨currentId, hscript, hw⟩, hrest⟩
  have hsilent : r.script phase = none → keys' = keys →
      keys' = keys ∧ ¬ s.writes r now delivery phase keys := by
    intro hscript he
    refine ⟨he, ?_⟩
    rintro ⟨c, hc, -⟩
    rw [hscript] at hc
    cases hc
  cases phase with
  | finished outcome =>
    cases h
    exact Or.inl (hsilent rfl rfl)
  | pointed attempt currentId => exact hrun attempt currentId rfl h
  | start attempt =>
    unfold CaptchaService.issue at h
    dsimp only at h
    cases howner : captchaOwner r.scene r.ownerId with
    | error e =>
      rw [howner] at h
      cases h
      refine Or.inl (hsilent ?_ rfl)
      show (if (captchaOwner r.scene r.ownerId).isOk = true ∧ _ then _ else _) = _
      rw [howner]
      exact if_neg fun hp => Bool.false_ne_true hp.1
    | ok owner =>
      rw [howner] at h
      dsimp only at h
      have he := captchaOwner_ok howner
      by_cases hread : owner.isSome ∧ r.previousCaptchaId = none
      · rw [if_pos hread] at h
        have hscript : r.script (.start attempt) = none := by
          show (if _ ∧ ¬ (r.ownerId.isSome ∧ r.previousCaptchaId = none) then _ else _) = _
          rw [← he]
          exact if_neg fun hp => hp.2 hread
        split at h
        · cases h
          exact Or.inl (hsilent hscript rfl)
        · cases h
          exact Or.inl (hsilent hscript rfl)
      · rw [if_neg hread] at h
        refine hrun attempt none ?_ h
        show (if (captchaOwner r.scene r.ownerId).isOk = true ∧
          ¬ (r.ownerId.isSome ∧ r.previousCaptchaId = none) then _ else _) = _
        rw [howner, ← he]
        exact if_pos ⟨rfl, hread⟩

/-- a command of a `consume` call changes no key, or it is the script on the current record -/
theorem consume_cases {r : ConsumeRequest} {now : Nat} {delivery : Delivery}
    {phase phase' : ConsumePhase} {keys keys' : CaptchaKeys}
    (h : s.consume r now delivery phase keys = (phase', keys')) :
    (keys' = keys ∧ (phase' = .finished (.ok ()) → phase = .finished (.ok ()))) ∨
      ∃ record, phase = .read record ∧
        (keys (.challenge r.captchaId)).get now = some (.record record) ∧
        Consumed now (.challenge r.captchaId) r.captchaId keys keys' ∧
        (phase' = .finished (.ok ()) → record.scene = r.scene ∧ record.owner = r.ownerId ∧
          record.digest = s.digest r.captchaId r.answer) := by
  cases phase with
  | finished outcome =>
    cases h
    exact Or.inl ⟨rfl, id⟩
  | start =>
    unfold CaptchaService.consume at h
    dsimp only at h
    refine Or.inl ?_
    split at h
    · cases h
      exact ⟨rfl, fun he => by cases he⟩
    · split at h
      · cases h
        exact ⟨rfl, fun he => by cases he⟩
      · split at h
        · cases h
          exact ⟨rfl, fun he => by cases he⟩
        · cases h
          exact ⟨rfl, fun he => by cases he⟩
      · cases h
        exact ⟨rfl, fun he => by cases he⟩
  | read record =>
    unfold CaptchaService.consume at h
    dsimp only at h
    cases hout : s.evalConsume r now record keys with
    | mk result keys'' =>
      rw [hout] at h
      have hcases := consumeScript_cases hout
      cases delivery with
      | unexecuted =>
        cases h
        exact Or.inl ⟨rfl, fun he => by cases he⟩
      | unanswered =>
        cases h
        rcases hcases with ⟨-, he, -⟩ | ⟨hget, hconsumed, -⟩
        · exact Or.inl ⟨he, fun he => by cases he⟩
        · exact Or.inr ⟨record, rfl, hget, hconsumed, fun he => by cases he⟩
      | answered =>
        cases h
        rcases hcases with ⟨hzero, he, -⟩ | ⟨hget, hconsumed, hone⟩
        · refine Or.inl ⟨he, ?_⟩
          rw [hzero]
          intro he
          cases he
        · refine Or.inr ⟨record, rfl, hget, hconsumed, ?_⟩
          intro he
          refine hone ?_
          by_contra hne
          have hbad : consumeAnswered result = .ok () := ConsumePhase.finished.inj he
          unfold consumeAnswered at hbad
          rw [if_neg hne] at hbad
          split at hbad
          · cases hbad
          · cases hbad

/-- a script that is executed on the current record removes it, whatever the answer -/
theorem consume_removes {r : ConsumeRequest} {now : Nat} {delivery : Delivery}
    {record : CaptchaRecord} {keys : CaptchaKeys} (hd : delivery ≠ .unexecuted)
    (hget : (keys (.challenge r.captchaId)).get now = some (.record record)) :
    (s.consume r now delivery (.read record) keys).2 (.challenge r.captchaId) = none := by
  have hkeys : (s.consume r now delivery (.read record) keys).2 =
      (s.evalConsume r now record keys).2 := by
    cases delivery with
    | answered => rfl
    | unanswered => rfl
    | unexecuted => exact absurd rfl hd
  rw [hkeys]
  cases hout : s.evalConsume r now record keys with
  | mk result keys' =>
    rcases consumeScript_cases hout with ⟨-, -, hne⟩ | ⟨-, hconsumed, -⟩
    · exact absurd hget hne
    · exact hconsumed.removed

/-! ## pointers -/

/-- a live private challenge is the one that the pointer of its owner names, as long as it lives -/
def Named (now : Nat) (keys : CaptchaKeys) : Prop :=
  ∀ x r d o, keys (.challenge x) = some ⟨.record r, some d⟩ → now ≤ d → r.owner = some o →
    keys (.owner r.scene o) = some ⟨.id x, some d⟩

theorem Named.later {now now' : Nat} {keys : CaptchaKeys} (h : Named now keys) (hle : now ≤ now') :
    Named now' keys :=
  fun x r d o hx hd ho => h x r d o hx (Nat.le_trans hle hd) ho

theorem get_of_live {now d : Nat} {value : CaptchaValue} {c : Cell CaptchaValue}
    (h : c = some ⟨value, some d⟩) (hd : now ≤ d) : c.get now = some value := by
  rw [h, Cell.get, Cell.alive_some, if_pos hd]
  rfl

theorem live_of_get {now d : Nat} {value value' : CaptchaValue} {c : Cell CaptchaValue}
    (h : c = some ⟨value, some d⟩) (hget : c.get now = some value') : value = value' ∧ now ≤ d := by
  rw [h, Cell.get, Cell.alive_some] at hget
  by_cases hd : now ≤ d
  · rw [if_pos hd] at hget
    exact ⟨Option.some.inj hget, hd⟩
  · rw [if_neg hd] at hget
    cases hget

theorem exists_of_shrinks {c c' : Cell CaptchaValue} {e : Entry CaptchaValue}
    (h : c' = c ∨ c' = none) (he : c' = some e) : c = some e := by
  rcases h with hc | hc
  · exact hc ▸ he
  · rw [hc] at he
    cases he

theorem writeChallenge_other {now ttl : Nat} {newId x : Uuid} {scene : String}
    {owner : Option Uuid} {record : CaptchaValue} {keys : CaptchaKeys} (h : x ≠ newId) :
    writeChallenge now ttl (.challenge newId) (captchaIndex scene owner) owner newId record keys
      (.challenge x) = keys (.challenge x) := by
  have hne : CaptchaKey.challenge x ≠ .challenge newId := fun he => h (CaptchaKey.challenge.inj he)
  unfold writeChallenge
  cases owner with
  | none => exact keys.set_of_ne record now ttl hne
  | some o =>
    show ((keys.set (.challenge newId) record now ttl).set (.owner scene o) (.id newId) now ttl)
      (.challenge x) = _
    rw [CaptchaKeys.set_of_ne _ _ _ _ (by simp), keys.set_of_ne record now ttl hne]

theorem writeChallenge_self {now ttl : Nat} {newId : Uuid} {scene : String} {owner : Option Uuid}
    {record : CaptchaValue} {keys : CaptchaKeys} :
    writeChallenge now ttl (.challenge newId) (captchaIndex scene owner) owner newId record keys
      (.challenge newId) = Cell.setEx record now ttl := by
  unfold writeChallenge
  cases owner with
  | none => exact keys.set_self _ record now ttl
  | some o =>
    show ((keys.set (.challenge newId) record now ttl).set (.owner scene o) (.id newId) now ttl)
      (.challenge newId) = _
    rw [CaptchaKeys.set_of_ne _ _ _ _ (by simp), keys.set_self]

theorem writeChallenge_pointer {now ttl : Nat} {newId o : Uuid} {scene : String}
    {record : CaptchaValue} {keys : CaptchaKeys} :
    writeChallenge now ttl (.challenge newId) (captchaIndex scene (some o)) (some o) newId record
      keys (.owner scene o) = Cell.setEx (.id newId) now ttl := by
  show ((keys.set (.challenge newId) record now ttl).set (.owner scene o) (.id newId) now ttl)
    (.owner scene o) = _
  exact CaptchaKeys.set_self _ _ _ now ttl

theorem writeChallenge_pointer_other {now ttl : Nat} {newId o : Uuid} {scene scene' : String}
    {owner : Option Uuid} {record : CaptchaValue} {keys : CaptchaKeys}
    (h : ¬ (owner = some o ∧ scene = scene')) :
    writeChallenge now ttl (.challenge newId) (captchaIndex scene owner) owner newId record keys
      (.owner scene' o) = keys (.owner scene' o) := by
  unfold writeChallenge
  cases owner with
  | none => exact keys.set_of_ne record now ttl (by simp)
  | some o' =>
    have hne : CaptchaKey.owner scene' o ≠ .owner scene o' := by
      intro he
      obtain ⟨hs, ho⟩ := CaptchaKey.owner.inj he
      exact h ⟨by rw [ho], hs.symm⟩
    show ((keys.set (.challenge newId) record now ttl).set (.owner scene o') (.id newId) now ttl)
      (.owner scene' o) = _
    rw [CaptchaKeys.set_of_ne _ _ _ _ hne, keys.set_of_ne record now ttl (by simp)]

theorem Named.written {r : IssueRequest} {now : Nat} {keys keys' base : CaptchaKeys}
    (h : Named now keys) (hw : Written s r now keys keys' base) : Named now keys' := by
  intro x rec d o hx hd ho
  rw [hw.keys] at hx ⊢
  by_cases hid : x = r.captchaId
  · rw [hid, writeChallenge_self] at hx
    have he := Option.some.inj hx
    have hrec : s.record r = rec := CaptchaValue.record.inj (congrArg Entry.value he)
    have hdeadline : now + captchaTtlSeconds * 1000 = d :=
      Option.some.inj (congrArg Entry.deadline he)
    have howner : r.ownerId = some o := by
      rw [← ho, ← hrec]
      rfl
    have hscene : rec.scene = r.scene := by
      rw [← hrec]
      rfl
    rw [howner, hscene, writeChallenge_pointer, hid, ← hdeadline]
    rfl
  · rw [writeChallenge_other hid] at hx
    have hbefore := exists_of_shrinks (hw.cleared.shrinks _) hx
    have hpointer := h x rec d o hbefore hd ho
    by_cases hmine : r.ownerId = some o ∧ r.scene = rec.scene
    · -- the script has cleared what this pointer named
      have hindex : captchaIndex r.scene r.ownerId = .owner rec.scene o := by
        rw [hmine.1, hmine.2]
        rfl
      have hnone := hw.cleared.named (by rw [hmine.1]; rfl) x
        (by rw [hindex]; exact get_of_live hpointer hd)
      rw [hnone] at hx
      cases hx
    · rw [writeChallenge_pointer_other hmine, hw.cleared.pointer, hpointer]

theorem Named.consumed {now : Nat} {id : Uuid} {keys keys' : CaptchaKeys} (h : Named now keys)
    (hc : Consumed now (.challenge id) id keys keys') : Named now keys' := by
  intro x rec d o hx hd ho
  have hpointer := h x rec d o (exists_of_shrinks (hc.shrinks _) hx) hd ho
  rw [← hpointer]
  by_contra hne
  have hget := hc.pointer (.owner rec.scene o) (by simp) hne
  have hid : x = id := CaptchaValue.id.inj (live_of_get hpointer hget).1
  rw [hid, hc.removed] at hx
  cases hx

end

/-! ## the system -/

structure CaptchaTraffic (ι κ : Type) where
  service : CaptchaService
  issues : ι → IssueRequest
  consumes : κ → ConsumeRequest

structure CaptchaState (ι κ : Type) where
  clock : Nat
  keys : CaptchaKeys
  issuing : ι → IssuePhase
  consuming : κ → ConsumePhase

/-- one command of Redis, of an `issue` or a `consume` call -/
structure CaptchaCommand (ι κ : Type) where
  now : Nat
  delivery : Delivery
  call : ι ⊕ κ

section
variable {ι κ : Type} [DecidableEq ι] [DecidableEq κ] (c : CaptchaTraffic ι κ)

namespace CaptchaTraffic

def issueNext (e : CaptchaCommand ι κ) (i : ι) (st : CaptchaState ι κ) : CaptchaState ι κ :=
  let (phase, keys) := c.service.issue (c.issues i) e.now e.delivery (st.issuing i) st.keys
  { st with clock := e.now, keys := keys, issuing := Function.update st.issuing i phase }

def consumeNext (e : CaptchaCommand ι κ) (k : κ) (st : CaptchaState ι κ) : CaptchaState ι κ :=
  let (phase, keys) := c.service.consume (c.consumes k) e.now e.delivery (st.consuming k) st.keys
  { st with clock := e.now, keys := keys, consuming := Function.update st.consuming k phase }

def system : System (CaptchaState ι κ) (CaptchaCommand ι κ) where
  init st := st.keys = (fun _ => none) ∧ (∀ i, st.issuing i = .start 0) ∧
    ∀ k, st.consuming k = .start
  step st e st' := st.clock ≤ e.now ∧
    match e.call with
    | .inl i => (∀ outcome, st.issuing i ≠ .finished outcome) ∧ st' = c.issueNext e i st
    | .inr k => (∀ outcome, st.consuming k ≠ .finished outcome) ∧ st' = c.consumeNext e k st

/-- the script of call `i` runs in step `m` and returns 1 -/
def Writes (st : Nat → CaptchaState ι κ) (lab : Nat → CaptchaCommand ι κ) (m : Nat) (i : ι) : Prop :=
  (lab m).call = .inl i ∧
    c.service.writes (c.issues i) (lab m).now (lab m).delivery ((st m).issuing i) (st m).keys

end CaptchaTraffic

/-- call `k` accepts its challenge in step `j` -/
def Accepts (st : Nat → CaptchaState ι κ) (lab : Nat → CaptchaCommand ι κ) (j : Nat) (k : κ) : Prop :=
  (lab j).call = .inr k ∧ (st (j + 1)).consuming k = .finished (.ok ())

end

section
variable {ι κ : Type} [DecidableEq ι] [DecidableEq κ] {c : CaptchaTraffic ι κ}
  {st : Nat → CaptchaState ι κ} {lab : Nat → CaptchaCommand ι κ} {n : Nat}

theorem issue_step (hrun : IsRun c.system st lab n) {j : Nat} (hj : j < n) {i : ι}
    (hi : (lab j).call = .inl i) :
    ∃ phase keys, c.service.issue (c.issues i) (lab j).now (lab j).delivery ((st j).issuing i)
        (st j).keys = (phase, keys) ∧ (∀ outcome, (st j).issuing i ≠ .finished outcome) ∧
      (st j).clock ≤ (lab j).now ∧ (st (j + 1)).clock = (lab j).now ∧ (st (j + 1)).keys = keys ∧
      (st (j + 1)).issuing = Function.update (st j).issuing i phase ∧
      (st (j + 1)).consuming = (st j).consuming := by
  obtain ⟨hclock, hstep⟩ := hrun.next j hj
  rw [hi] at hstep
  obtain ⟨hpending, he⟩ := hstep
  refine ⟨_, _, rfl, hpending, hclock, ?_, ?_, ?_, ?_⟩
  · rw [he]
    rfl
  · rw [he]
    rfl
  · rw [he]
    rfl
  · rw [he]
    rfl

theorem consume_step (hrun : IsRun c.system st lab n) {j : Nat} (hj : j < n) {k : κ}
    (hk : (lab j).call = .inr k) :
    ∃ phase keys, c.service.consume (c.consumes k) (lab j).now (lab j).delivery ((st j).consuming k)
        (st j).keys = (phase, keys) ∧ (∀ outcome, (st j).consuming k ≠ .finished outcome) ∧
      (st j).clock ≤ (lab j).now ∧ (st (j + 1)).clock = (lab j).now ∧ (st (j + 1)).keys = keys ∧
      (st (j + 1)).consuming = Function.update (st j).consuming k phase ∧
      (st (j + 1)).issuing = (st j).issuing := by
  obtain ⟨hclock, hstep⟩ := hrun.next j hj
  rw [hk] at hstep
  obtain ⟨hpending, he⟩ := hstep
  refine ⟨_, _, rfl, hpending, hclock, ?_, ?_, ?_, ?_⟩
  · rw [he]
    rfl
  · rw [he]
    rfl
  · rw [he]
    rfl
  · rw [he]
    rfl

/-! ## a call writes once -/

theorem finished_stays (hrun : IsRun c.system st lab n) {i : ι} {outcome : Except Failure Uuid}
    {a b : Nat} (hab : a ≤ b) (hb : b ≤ n) (ha : (st a).issuing i = .finished outcome) :
    (st b).issuing i = .finished outcome := by
  induction b with
  | zero =>
    have he : a = 0 := by omega
    rw [← he]
    exact ha
  | succ b ih =>
    rcases Nat.lt_or_eq_of_le hab with hlt | he
    · have hold := ih (by omega) (by omega)
      cases hcall : (lab b).call with
      | inr k =>
        obtain ⟨phase, keys, -, -, -, -, -, -, hsame⟩ := consume_step hrun hb hcall
        rw [hsame]
        exact hold
      | inl i' =>
        obtain ⟨phase, keys, -, hpending, -, -, -, hphase, -⟩ := issue_step hrun hb hcall
        have hne : i ≠ i' := by
          intro he
          rw [he] at hold
          exact hpending outcome hold
        rw [hphase, Function.update_of_ne hne]
        exact hold
    · rw [← he]
      exact ha

theorem writes_finished (hrun : IsRun c.system st lab n) {m : Nat} (hm : m < n) {i : ι}
    (hw : c.Writes st lab m i) : ∃ outcome, (st (m + 1)).issuing i = .finished outcome := by
  obtain ⟨phase, keys, he, -, -, -, -, hphase, -⟩ := issue_step hrun hm hw.1
  rcases issue_cases he with ⟨-, hnot⟩ | ⟨-, ⟨outcome, ho⟩, -⟩
  · exact absurd hw.2 hnot
  · refine ⟨outcome, ?_⟩
    rw [hphase, Function.update_self, ho]

theorem writes_once (hrun : IsRun c.system st lab n) {m m' : Nat} (hm : m < n) (hm' : m' < n)
    {i : ι} (hw : c.Writes st lab m i) (hw' : c.Writes st lab m' i) : m = m' := by
  have hlate : ∀ a b, a < n → b < n → c.Writes st lab a i → c.Writes st lab b i → ¬ a < b := by
    intro a b ha hb hwa hwb hlt
    obtain ⟨outcome, ho⟩ := writes_finished hrun ha hwa
    obtain ⟨phase, keys, -, hpending, -⟩ := issue_step hrun hb hwb.1
    exact hpending outcome (finished_stays hrun hlt (Nat.le_of_lt hb) ho)
  have h1 := hlate m m' hm hm' hw hw'
  have h2 := hlate m' m hm' hm hw' hw
  omega

/-! ## what is stored -/

/-- what call `i` writes under the key of its id -/
def CaptchaTraffic.entry (c : CaptchaTraffic ι κ) (now : Nat) (i : ι) : Entry CaptchaValue :=
  ⟨.record (c.service.record (c.issues i)), some (now + captchaTtlSeconds * 1000)⟩

structure Stored (c : CaptchaTraffic ι κ) (st : Nat → CaptchaState ι κ)
    (lab : Nat → CaptchaCommand ι κ) (j : Nat) : Prop where
  issued : ∀ x e, (st j).keys (.challenge x) = some e → ∃ m i, m < j ∧ c.Writes st lab m i ∧
    (c.issues i).captchaId = x ∧ e = c.entry (lab m).now i ∧
    ∀ l, m < l → l ≤ j → (st l).keys (.challenge x) = some e
  named : Named (st j).clock (st j).keys

theorem issued_next {j : Nat} {x : Uuid} {e : Entry CaptchaValue} (h : Stored c st lab j)
    (hnow : (st (j + 1)).keys (.challenge x) = some e)
    (hbefore : (st j).keys (.challenge x) = some e) :
    ∃ m i, m < j + 1 ∧ c.Writes st lab m i ∧ (c.issues i).captchaId = x ∧
      e = c.entry (lab m).now i ∧
      ∀ l, m < l → l ≤ j + 1 → (st l).keys (.challenge x) = some e := by
  obtain ⟨m, i, hm, hw, hid, he, hsince⟩ := h.issued x e hbefore
  refine ⟨m, i, by omega, hw, hid, he, ?_⟩
  intro l hl hl'
  rcases Nat.lt_or_eq_of_le hl' with hlt | heq
  · exact hsince l hl (by omega)
  · rw [heq]
    exact hnow

theorem stored_next (hrun : IsRun c.system st lab n) {j : Nat} (hj : j < n)
    (h : Stored c st lab j) : Stored c st lab (j + 1) := by
  cases hcall : (lab j).call with
  | inl i =>
    obtain ⟨phase, keys, he, -, hle, hclock, hkeys, -⟩ := issue_step hrun hj hcall
    have hnamed := h.named.later hle
    rcases issue_cases he with ⟨hsame, -⟩ | ⟨hw, -, base, hwritten⟩
    · rw [hsame] at hkeys
      refine ⟨?_, by rw [hclock, hkeys]; exact hnamed⟩
      intro x e hx
      exact issued_next h hx (by rw [← hkeys]; exact hx)
    · refine ⟨?_, by rw [hclock, hkeys]; exact hnamed.written hwritten⟩
      intro x e hx
      have hx' := hx
      rw [hkeys, hwritten.keys] at hx'
      by_cases hid : x = (c.issues i).captchaId
      · rw [hid, writeChallenge_self] at hx'
        refine ⟨j, i, Nat.lt_succ_self j, ⟨hcall, hw⟩, hid.symm, (Option.some.inj hx').symm, ?_⟩
        intro l hl hl'
        have heq : l = j + 1 := by omega
        rw [heq]
        exact hx
      · rw [writeChallenge_other hid] at hx'
        exact issued_next h hx (exists_of_shrinks (hwritten.cleared.shrinks _) hx')
  | inr k =>
    obtain ⟨phase, keys, he, -, hle, hclock, hkeys, -⟩ := consume_step hrun hj hcall
    have hnamed := h.named.later hle
    rcases consume_cases he with ⟨hsame, -⟩ | ⟨record, -, -, hconsumed, -⟩
    · rw [hsame] at hkeys
      refine ⟨?_, by rw [hclock, hkeys]; exact hnamed⟩
      intro x e hx
      exact issued_next h hx (by rw [← hkeys]; exact hx)
    · refine ⟨?_, by rw [hclock, hkeys]; exact hnamed.consumed hconsumed⟩
      intro x e hx
      refine issued_next h hx (exists_of_shrinks (hconsumed.shrinks _) ?_)
      rw [← hkeys]
      exact hx

theorem stored (hrun : IsRun c.system st lab n) {j : Nat} (hj : j ≤ n) : Stored c st lab j := by
  refine IsRun.history (n := n) ?_ (fun i hi h => stored_next hrun hi h) hj
  have hempty : ∀ k, (st 0).keys k = none := fun k => congrFun hrun.start.1 k
  refine ⟨?_, ?_⟩
  · intro x e hx
    rw [hempty] at hx
    cases hx
  · intro x r d o hx
    rw [hempty] at hx
    cases hx

/-! ## answers -/

theorem toNat_ofNat_valid {k : Nat} (h : k.isValidChar) : (Char.ofNat k).toNat = k := by
  unfold Char.ofNat
  rw [dif_pos h]
  rfl

theorem escaped_letter : ∀ a ∈ alphabet, (codePoint a).escaped = [a] := by
  have h : alphabet.all (fun a => decide ((codePoint a).escaped = [a])) = true := by decide +kernel
  intro a ha
  exact of_decide_eq_true (List.all_eq_true.mp h a ha)

theorem escaped_letters {letters : List Char} (h : ∀ a ∈ letters, a ∈ alphabet) :
    Text.escaped (letters.map codePoint) = letters := by
  induction letters with
  | nil => rfl
  | cons a letters ih =>
    have hhead := escaped_letter a (h a List.mem_cons_self)
    have htail := ih fun b hb => h b (List.mem_cons_of_mem a hb)
    show (codePoint a).escaped ++ Text.escaped (letters.map codePoint) = _
    rw [hhead, htail]
    rfl

theorem eq_of_escaped {t : Text} {letters : List Char} (h : ∀ a ∈ letters, a ∈ alphabet)
    (he : t.escaped = letters) : t = letters.map codePoint := by
  induction t generalizing letters with
  | nil =>
    have hnil : letters = [] := he.symm
    rw [hnil]
    rfl
  | cons p t ih =>
    have hcons : p.escaped ++ Text.escaped t = letters := he
    unfold CodePoint.escaped at hcons
    by_cases hsurrogate : 0xd800 ≤ p.val ∧ p.val ≤ 0xdfff
    · -- a backslash is no letter
      rw [if_pos hsurrogate] at hcons
      have hmem : '\\' ∈ letters := by
        rw [← hcons]
        exact List.mem_cons_self
      exact absurd (h _ hmem) (by decide)
    · rw [if_neg hsurrogate] at hcons
      have hvalid : p.val.isValidChar := by
        have hp := p.isLt
        unfold Nat.isValidChar
        omega
      have hpoint : codePoint (Char.ofNat p.val) = p := by
        apply Fin.ext
        show (Char.ofNat p.val).toNat % 0x110000 = p.val
        rw [toNat_ofNat_valid hvalid, Nat.mod_eq_of_lt p.isLt]
      rw [← hcons]
      show p :: t = codePoint (Char.ofNat p.val) :: (Text.escaped t).map codePoint
      rw [hpoint]
      congr 1
      refine ih ?_ rfl
      intro a ha
      refine h a ?_
      rw [← hcons]
      exact List.mem_cons_of_mem _ ha

/-- the digest separates the answers of the run -/
def CaptchaTraffic.CollisionFree (c : CaptchaTraffic ι κ) : Prop :=
  ∀ i k, c.service.digest (c.issues i).captchaId (c.issues i).answer =
      c.service.digest (c.consumes k).captchaId (c.consumes k).answer →
    c.service.message (c.issues i).captchaId (c.issues i).answer =
      c.service.message (c.consumes k).captchaId (c.consumes k).answer

/-- `str.upper` keeps the letters of the alphabet -/
def CaptchaService.KeepsLetters (s : CaptchaService) : Prop :=
  ∀ letters : List Char, (∀ a ∈ letters, a ∈ alphabet) →
    s.upper (letters.map codePoint) = letters.map codePoint

theorem upper_of_message {s : CaptchaService} (hs : s.KeepsLetters) {r : IssueRequest}
    {answer : Text} (h : s.message r.captchaId r.answer = s.message r.captchaId answer) :
    s.upper answer = r.answer := by
  have hletters := r.drawn.2
  have hupper : s.upper r.answer = r.answer := hs r.letters hletters
  unfold CaptchaService.message at h
  rw [hupper] at h
  have hlist : Text.escaped r.answer = Text.escaped (s.upper answer) :=
    String.ofList_inj.mp ((String.append_right_inj _).mp h)
  exact eq_of_escaped hletters (hlist.symm.trans (escaped_letters hletters))

/-! ## acceptance -/

/-- an accepting step found the record that some call has written -/
theorem accepts_written (hrun : IsRun c.system st lab n) {j : Nat} (hj : j < n) {k : κ}
    (h : Accepts st lab j k) :
    (st (j + 1)).keys (.challenge (c.consumes k).captchaId) = none ∧
      ∃ m i, m < j ∧ c.Writes st lab m i ∧ (c.issues i).captchaId = (c.consumes k).captchaId ∧
        (c.issues i).scene = (c.consumes k).scene ∧ (c.issues i).ownerId = (c.consumes k).ownerId ∧
        c.service.digest (c.issues i).captchaId (c.issues i).answer =
          c.service.digest (c.consumes k).captchaId (c.consumes k).answer ∧
        (lab j).now ≤ (lab m).now + captchaTtlSeconds * 1000 ∧
        ∀ l, m < l → l ≤ j → ∃ e, (st l).keys (.challenge (c.consumes k).captchaId) = some e := by
  obtain ⟨phase, keys, he, hpending, -, -, hkeys, hphase, -⟩ := consume_step hrun hj h.1
  have hphase' : phase = .finished (.ok ()) := by
    rw [← h.2, hphase, Function.update_self]
  rcases consume_cases he with ⟨-, hsame⟩ | ⟨record, -, hget, hconsumed, hok⟩
  · exact absurd (hsame hphase') (hpending _)
  · obtain ⟨hscene, howner, hdigest⟩ := hok hphase'
    refine ⟨by rw [hkeys]; exact hconsumed.removed, ?_⟩
    cases hcell : (st j).keys (.challenge (c.consumes k).captchaId) with
    | none =>
      rw [hcell] at hget
      cases hget
    | some e =>
      obtain ⟨m, i, hm, hw, hid, hentry, hsince⟩ := (stored hrun (Nat.le_of_lt hj)).issued _ e hcell
      rw [hentry] at hcell
      obtain ⟨hvalue, hlive⟩ := live_of_get hcell hget
      have hrecord : c.service.record (c.issues i) = record := CaptchaValue.record.inj hvalue
      rw [← hrecord] at hscene howner hdigest
      exact ⟨m, i, hm, hw, hid, hscene, howner, hdigest, hlive, fun l hl hl' => ⟨e, hsince l hl hl'⟩⟩

theorem accepts_once (hunique : Function.Injective fun i => (c.issues i).captchaId)
    (hrun : IsRun c.system st lab n) {j j' : Nat} {k k' : κ} (hj' : j' < n)
    (h : Accepts st lab j k) (h' : Accepts st lab j' k')
    (hid : (c.consumes k).captchaId = (c.consumes k').captchaId) : ¬ j < j' := by
  intro hlt
  have hj : j < n := Nat.lt_trans hlt hj'
  obtain ⟨hgone, m, i, hm, hw, hi, -⟩ := accepts_written hrun hj h
  obtain ⟨-, m', i', hm', hw', hi', -, -, -, -, hsince⟩ := accepts_written hrun hj' h'
  have hsame : i = i' := hunique (hi.trans (hid.trans hi'.symm))
  have hm'' : m = m' :=
    writes_once hrun (Nat.lt_trans hm hj) (Nat.lt_trans hm' hj') hw (hsame ▸ hw')
  -- the record has been there since it was written, although the first acceptance removed it
  obtain ⟨e, he⟩ := hsince (j + 1) (by omega) hlt
  rw [← hid, hgone] at he
  cases he

/-- **a challenge is used once**, by its owner, with its answer and before it expires -/
theorem one_time_challenges (hletters : c.service.KeepsLetters) (hdigest : c.CollisionFree)
    (hunique : Function.Injective fun i => (c.issues i).captchaId)
    (hrun : IsRun c.system st lab n) :
    (∀ j k, j < n → Accepts st lab j k → ∃ m i, m < j ∧ c.Writes st lab m i ∧
      (c.issues i).captchaId = (c.consumes k).captchaId ∧
      (c.issues i).scene = (c.consumes k).scene ∧ (c.issues i).ownerId = (c.consumes k).ownerId ∧
      c.service.upper (c.consumes k).answer = (c.issues i).answer ∧
      (lab j).now ≤ (lab m).now + captchaTtlSeconds * 1000) ∧
    (∀ j j' k k', j < n → j' < n → Accepts st lab j k → Accepts st lab j' k' →
      (c.consumes k).captchaId = (c.consumes k').captchaId → j = j' ∧ k = k') ∧
    (∀ j k record, j < n → (lab j).call = .inr k → (st j).consuming k = .read record →
      (lab j).delivery ≠ .unexecuted →
      ((st j).keys (.challenge (c.consumes k).captchaId)).get (lab j).now = some (.record record) →
      (st (j + 1)).keys (.challenge (c.consumes k).captchaId) = none) ∧
    (∀ j, j ≤ n → ∀ t x value, (st j).clock ≤ t →
      ((st j).keys (.challenge x)).get t = some value → ∃ r, value = .record r ∧
      ∀ o, r.owner = some o → ((st j).keys (.owner r.scene o)).get t = some (.id x) ∧
        ∀ x' r', ((st j).keys (.challenge x')).get t = some (.record r') → r'.scene = r.scene →
          r'.owner = some o → x' = x) ∧
    (∀ j i, j < n → (lab j).call = .inl i → ¬ c.Writes st lab j i →
      (st (j + 1)).keys = (st j).keys) := by
  have hlive : ∀ j, j ≤ n → ∀ t x value, (st j).clock ≤ t →
      ((st j).keys (.challenge x)).get t = some value → ∃ r, value = .record r ∧
        ∀ o, r.owner = some o → ((st j).keys (.owner r.scene o)).get t = some (.id x) := by
    intro j hj t x value ht hget
    have hstored := stored hrun hj
    cases hcell : (st j).keys (.challenge x) with
    | none =>
      rw [hcell] at hget
      cases hget
    | some e =>
      obtain ⟨m, i, -, -, -, hentry, -⟩ := hstored.issued x e hcell
      rw [hentry] at hcell
      obtain ⟨hvalue, hd⟩ := live_of_get hcell hget
      refine ⟨_, hvalue.symm, ?_⟩
      intro o ho
      have hpointer := hstored.named x _ _ o hcell (Nat.le_trans ht hd) ho
      exact get_of_live hpointer hd
  refine ⟨?_, ?_, ?_, ?_, ?_⟩
  · intro j k hj h
    obtain ⟨-, m, i, hm, hw, hid, hscene, howner, hd, htime, -⟩ := accepts_written hrun hj h
    refine ⟨m, i, hm, hw, hid, hscene, howner, ?_, htime⟩
    have hmessage := hdigest i k hd
    rw [← hid] at hmessage
    exact upper_of_message hletters hmessage
  · intro j j' k k' hj hj' h h' hid
    have h1 := accepts_once hunique hrun hj' h h' hid
    have h2 := accepts_once hunique hrun hj h' h hid.symm
    have he : j = j' := by omega
    refine ⟨he, ?_⟩
    have hcall := h.1
    rw [he, h'.1] at hcall
    exact (Sum.inr.inj hcall).symm
  · intro j k record hj hcall hphase hdelivery hget
    obtain ⟨phase, keys, he, -, -, -, hkeys, -⟩ := consume_step hrun hj hcall
    rw [hphase] at he
    rw [hkeys]
    have hremoved := consume_removes (s := c.service) hdelivery hget
    rw [he] at hremoved
    exact hremoved
  · intro j hj t x value ht hget
    obtain ⟨r, hvalue, hnamed⟩ := hlive j hj t x value ht hget
    refine ⟨r, hvalue, ?_⟩
    intro o ho
    refine ⟨hnamed o ho, ?_⟩
    intro x' r' hget' hscene ho'
    obtain ⟨r'', hvalue', hnamed'⟩ := hlive j hj t x' _ ht hget'
    have hsame : r' = r'' := CaptchaValue.record.inj hvalue'
    have h1 := hnamed o ho
    have h2 := hnamed' o (by rw [← hsame]; exact ho')
    rw [← hsame, hscene, h1] at h2
    exact (CaptchaValue.id.inj (Option.some.inj h2)).symm
  · intro j i hj hcall hnot
    obtain ⟨phase, keys, he, -, -, -, hkeys, -⟩ := issue_step hrun hj hcall
    rw [hkeys]
    rcases issue_cases he with ⟨hsame, -⟩ | ⟨hw, -⟩
    · exact hsame
    · exact absurd ⟨hcall, hw⟩ hnot

end

/-! ## one challenge -/

/-- `str.upper` on ASCII -/
def asciiUpper (p : CodePoint) : CodePoint :=
  if 97 ≤ p.val ∧ p.val ≤ 122 then Fin.ofNat _ (p.val - 32) else p

theorem sample_drawn : ∀ a ∈ ['A', 'B', '2', '3', '4'], a ∈ alphabet := by
  have h : ['A', 'B', '2', '3', '4'].all (fun a => decide (a ∈ alphabet)) = true := by decide +kernel
  intro a ha
  exact of_decide_eq_true (List.all_eq_true.mp h a ha)

/-- the digest of the answer, and of no other message -/
def answerHmac (secret message : String) : String :=
  if secret = "D7vL3qN9xR2mK8pT5sW1cF6hJ4yB0uGz" ∧
      message = "aaaaaaaa-bbbb-4ccc-8ddd-000000000001:AB234" then
    "e1bd67f25d5d03656aba7b08f3dd8421618d0b3241710de182fc410834fcc89c"
  else ""

/-- one owner asks for a challenge and submits its answer twice, once with a letter in lower case -/
def sampleTraffic : CaptchaTraffic Unit Bool where
  service :=
    { hmac := answerHmac
      rateLimitHmacKey := "D7vL3qN9xR2mK8pT5sW1cF6hJ4yB0uGz"
      upper := List.map asciiUpper }
  issues _ :=
    { scene := "self_change"
      ownerId := some 0x11111111222243338444555555555555
      previousCaptchaId := none
      captchaId := 0xaaaaaaaabbbb4ccc8ddd000000000001
      letters := ['A', 'B', '2', '3', '4']
      drawn := ⟨rfl, sample_drawn⟩ }
  consumes k :=
    { captchaId := 0xaaaaaaaabbbb4ccc8ddd000000000001
      answer := [if k then 'a' else 'A', 'B', '2', '3', '4'].map codePoint
      scene := "self_change"
      ownerId := some 0x11111111222243338444555555555555 }

/-- both submissions read the record, and then both run the script -/
def sampleCommands (j : Nat) : CaptchaCommand Unit Bool where
  now := 1000 * j
  delivery := .answered
  call := if j < 2 then .inl () else .inr (decide (j % 2 = 0))

def sampleStates : Nat → CaptchaState Unit Bool
  | 0 => ⟨0, fun _ => none, fun _ => .start 0, fun _ => .start⟩
  | j + 1 =>
    match (sampleCommands j).call with
    | .inl i => sampleTraffic.issueNext (sampleCommands j) i (sampleStates j)
    | .inr k => sampleTraffic.consumeNext (sampleCommands j) k (sampleStates j)

theorem sample_keepsLetters : sampleTraffic.service.KeepsLetters := by
  have hall : alphabet.all (fun a => decide (asciiUpper (codePoint a) = codePoint a)) = true := by
    decide +kernel
  have hletter : ∀ a ∈ alphabet, asciiUpper (codePoint a) = codePoint a := fun a ha =>
    of_decide_eq_true (List.all_eq_true.mp hall a ha)
  intro letters h
  show (letters.map codePoint).map asciiUpper = letters.map codePoint
  rw [List.map_map]
  exact List.map_congr_left fun a ha => hletter a (h a ha)

theorem step_issue {c : CaptchaTraffic Unit Bool} {st : CaptchaState Unit Bool}
    {e : CaptchaCommand Unit Bool} (hcall : e.call = .inl ()) (hclock : st.clock ≤ e.now)
    (hpending : ∀ outcome, st.issuing () ≠ .finished outcome) :
    c.system.step st e (c.issueNext e () st) := by
  refine ⟨hclock, ?_⟩
  rw [hcall]
  exact ⟨hpending, rfl⟩

theorem step_consume {c : CaptchaTraffic Unit Bool} {st : CaptchaState Unit Bool}
    {e : CaptchaCommand Unit Bool} {k : Bool} (hcall : e.call = .inr k) (hclock : st.clock ≤ e.now)
    (hpending : ∀ outcome, st.consuming k ≠ .finished outcome) :
    c.system.step st e (c.consumeNext e k st) := by
  refine ⟨hclock, ?_⟩
  rw [hcall]
  exact ⟨hpending, rfl⟩

theorem sample_run : IsRun sampleTraffic.system sampleStates sampleCommands 6 := by
  refine ⟨⟨rfl, fun i => rfl, fun k => rfl⟩, ?_⟩
  intro j hj
  have hcases : j = 0 ∨ j = 1 ∨ j = 2 ∨ j = 3 ∨ j = 4 ∨ j = 5 := by omega
  rcases hcases with h | h | h | h | h | h
  · rw [h]
    exact step_issue rfl (Nat.le_refl 0) fun outcome => by intro he; cases he
  · rw [h]
    exact step_issue rfl (Nat.zero_le 1000) fun outcome => by intro he; cases he
  · rw [h]
    exact step_consume (k := true) rfl (Nat.le_of_ble_eq_true rfl) fun outcome => by intro he; cases he
  · rw [h]
    exact step_consume (k := false) rfl (Nat.le_of_ble_eq_true rfl) fun outcome => by intro he; cases he
  · rw [h]
    exact step_consume (k := true) rfl (Nat.le_of_ble_eq_true rfl) fun outcome => by intro he; cases he
  · rw [h]
    exact step_consume (k := false) rfl (Nat.le_of_ble_eq_true rfl) fun outcome => by intro he; cases he

theorem sample_collisionFree : sampleTraffic.CollisionFree := by
  intro i k _
  cases k with
  | true => rfl
  | false => rfl

/-- the first of two submissions at the script is accepted, and it is the only one -/
theorem one_time_challenges_submitted :
    Accepts sampleStates sampleCommands 4 true ∧
    (∃ m, m < 4 ∧ sampleTraffic.Writes sampleStates sampleCommands m ()) ∧
    (∀ j k, j < 6 → Accepts sampleStates sampleCommands j k → j = 4 ∧ k = true) ∧
    (sampleStates 6).keys (.challenge 0xaaaaaaaabbbb4ccc8ddd000000000001) = none := by
  have h := one_time_challenges sample_keepsLetters sample_collisionFree
    (fun _ _ _ => rfl) sample_run
  have haccept : Accepts sampleStates sampleCommands 4 true := ⟨rfl, rfl⟩
  refine ⟨haccept, ?_, ?_, rfl⟩
  · obtain ⟨m, i, hm, hw, -⟩ := h.1 4 true (by omega) haccept
    exact ⟨m, hm, hw⟩
  · intro j k hj hj'
    refine h.2.1 j 4 k true hj (by omega) hj' haccept ?_
    cases k with
    | true => rfl
    | false => rfl

end PgRbac
