import PgRbac.Windows
import PgRbac.Logins

/-!
# How often a password can be tried

`IdentityAbuseFlow` admits a login by the window of its client, has its CAPTCHA checked, and only
then lets the credentials be verified.  Any number of requests of any clients are under way.

* `allowed`, `opens_spaced`     the admissions and the windows of one client;
* `Gate`, `gate`                the requests, each at its stage;
* `guesses_bounded`             how many verifications a client gets in a time;
* `tracedLogin`                 the work of one verification and its answer;
* `login_uniform`               they are the same for everybody who is not let in.
-/

set_option linter.unusedVariables false
set_option linter.unusedSectionVars false

namespace PgRbac

open Redis Trace Fallible Store

namespace Guesses

/-! ## admissions -/

section
variable {policy : RateLimitPolicy} {st : Nat → Limiter} {lab : Nat → Attempt} {n : Nat}

def admits (result : Except LimiterError RateLimitResult) : Bool :=
  match result with
  | .ok r => r.allowed
  | .error _ => false

def allowed (policy : RateLimitPolicy) (st : Nat → Limiter) (lab : Nat → Attempt) (i : Nat) : Bool :=
  decide ((lab i).kind = .check) && admits (checkRateLimit policy (lab i).now (st i).cell).1

def opens (st : Nat → Limiter) (lab : Nat → Attempt) (i : Nat) : Bool :=
  decide ((lab i).kind = .check) && ((st i).cell.alive (lab i).now).isNone

theorem opens_iff {i : Nat} : opens st lab i = true ↔ Opens st lab i := by
  unfold opens Opens
  rw [Bool.and_eq_true, decide_eq_true_iff, Option.isNone_iff_eq_none]

theorem allowed_charged (hrun : IsRun (limiter policy) st lab n) {j : Nat} (hj : j < n)
    (h : allowed policy st lab j = true) :
    returns policy st lab j = true ∧ ∃ s k, Charged policy st lab s j k ∧ k ≤ policy.limit := by
  unfold allowed at h
  rw [Bool.and_eq_true, decide_eq_true_iff] at h
  obtain ⟨hkind, hadmits⟩ := h
  cases hresult : (checkRateLimit policy (lab j).now (st j).cell).1 with
  | error e =>
    rw [hresult] at hadmits
    cases hadmits
  | ok r =>
    rw [hresult] at hadmits
    have hreturns := returns_of_ok hkind hresult
    obtain ⟨s, k, hc⟩ := charged_of_returns hrun hj hreturns
    have e : r = policy.answer k (windowEnd policy lab s - (lab j).now) :=
      Except.ok.inj (hresult.symm.trans hc.answer)
    rw [e] at hadmits
    exact ⟨hreturns, s, k, hc, of_decide_eq_true hadmits⟩

theorem opens_spaced (hrun : IsRun (limiter policy) st lab n) {s s' : Nat} (ho : Opens st lab s)
    (ho' : Opens st lab s') (hs : s < s') (hs' : s' < n) :
    (lab s).now + policy.span < (lab s').now := by
  rcases window_state hrun (Nat.le_of_lt hs') with hu | ⟨t, c, hw⟩
  · exact absurd ho (hu.never s hs)
  · have hle : s ≤ t := by
      by_contra hlt
      exact hw.latest s (by omega) hs ho
    have htime := times_mono hrun hle (Nat.lt_trans hw.lt hs')
    have hgone := ho'.2
    rw [hw.cell, Cell.alive_some] at hgone
    split at hgone
    · cases hgone
    · unfold windowEnd at *
      omega

/-- how many of the calls from `m` on, before `i`, satisfy `p` -/
def between (p : Nat → Bool) (m i : Nat) : Nat :=
  Nat.count (fun j => p j = true) i - Nat.count (fun j => p j = true) m

theorem count_mono (p : Nat → Bool) {m i : Nat} (h : m ≤ i) :
    Nat.count (fun j => p j = true) m ≤ Nat.count (fun j => p j = true) i :=
  Nat.count_monotone _ h

theorem count_le_of_imp {p q : Nat → Bool} {m i : Nat} (hmi : m ≤ i)
    (h : ∀ j, m ≤ j → j < i → p j = true → q j = true) :
    Nat.count (fun j => p j = true) i + Nat.count (fun j => q j = true) m ≤
      Nat.count (fun j => q j = true) i + Nat.count (fun j => p j = true) m := by
  induction i with
  | zero =>
    have e : m = 0 := Nat.le_zero.mp hmi
    subst e
    exact Nat.le_of_eq (Nat.add_comm _ _)
  | succ i ih =>
    by_cases hm : m = i + 1
    · subst hm
      exact Nat.le_of_eq (Nat.add_comm _ _)
    · have h1 := ih (by omega) fun j hj hji => h j hj (by omega)
      have h2 := h i (by omega) (Nat.lt_succ_self i)
      rw [Nat.count_succ, Nat.count_succ]
      by_cases hp : p i = true
      · rw [if_pos hp, if_pos (h2 hp)]
        omega
      · rw [if_neg hp]
        omega

theorem last_place (p : Nat → Bool) {m i : Nat} (hmi : m ≤ i) :
    Nat.count (fun j => p j = true) i = Nat.count (fun j => p j = true) m ∨
      ∃ j, m ≤ j ∧ j < i ∧ p j = true ∧
        Nat.count (fun j => p j = true) i = Nat.count (fun j => p j = true) (j + 1) := by
  induction i with
  | zero => exact .inl (by rw [Nat.le_zero.mp hmi])
  | succ i ih =>
    by_cases hm : m = i + 1
    · exact .inl (by rw [hm])
    · by_cases hp : p i = true
      · exact .inr ⟨i, by omega, Nat.lt_succ_self i, hp, rfl⟩
      · rw [Nat.count_succ, if_neg hp, Nat.add_zero]
        rcases ih (by omega) with h | ⟨j, hmj, hji, hpj, h⟩
        · exact .inl h
        · exact .inr ⟨j, hmj, Nat.lt_succ_of_lt hji, hpj, h⟩

/-- the admissions from `m` on by the windows opened from `m` on; `carried` bounds what an earlier
window still admits -/
theorem count_allowed_le (hrun : IsRun (limiter policy) st lab n) (m carried : Nat)
    (hcarried : ∀ s, s < m → policy.limit ≤ carried) {i : Nat} (hmi : m ≤ i) (hi : i ≤ n) :
    Nat.count (fun j => allowed policy st lab j = true) i ≤
      Nat.count (fun j => allowed policy st lab j = true) m +
        policy.limit * between (opens st lab) m i + carried := by
  induction i using Nat.strongRecOn with
  | ind i ih =>
    rcases last_place (allowed policy st lab) hmi with h | ⟨j, hmj, hji, hpj, h⟩
    · omega
    · obtain ⟨hreturns, s, k, hc, hk⟩ := allowed_charged hrun (by omega) hpj
      have hsj := hc.le
      have hcount := hc.count
      have hreturned := count_le_of_imp (p := allowed policy st lab) (q := returns policy st lab)
        (m := s) (i := j + 1) (by omega)
        fun j' hsj' hj' hp => (allowed_charged hrun (by omega) hp).1
      by_cases hsm : s < m
      · have hbound := hcarried s hsm
        have hmono := count_mono (allowed policy st lab) (Nat.le_of_lt hsm)
        omega
      · have hbefore := ih s (by omega) (by omega) (by omega)
        have hopen : opens st lab s = true := opens_iff.mpr hc.opens
        have hstep : Nat.count (fun j => opens st lab j = true) (s + 1) =
            Nat.count (fun j => opens st lab j = true) s + 1 := by
          rw [Nat.count_succ, if_pos hopen]
        have hmono := count_mono (opens st lab) (show s + 1 ≤ i by omega)
        have hmono' := count_mono (opens st lab) (show m ≤ s by omega)
        have hbetween : between (opens st lab) m s + 1 ≤ between (opens st lab) m i := by
          unfold between
          omega
        have hproduct := Nat.mul_le_mul_left policy.limit hbetween
        rw [Nat.mul_add, Nat.mul_one] at hproduct
        omega

theorem opens_clock (hrun : IsRun (limiter policy) st lab n) {m s : Nat} (hms : m ≤ s) (hs : s < n)
    (ho : Opens st lab s) :
    (st m).clock + policy.span * between (opens st lab) m s ≤ (lab s).now := by
  induction s using Nat.strongRecOn with
  | ind s ih =>
    rcases last_place (opens st lab) hms with h | ⟨j, hmj, hjs, hpj, h⟩
    · have hzero : between (opens st lab) m s = 0 := by
        unfold between
        omega
      rw [hzero, Nat.mul_zero, Nat.add_zero]
      exact Nat.le_trans (limiter_clock_mono hrun hms (Nat.le_of_lt hs)) (limiter_clock hrun hs).2
    · have hj := opens_iff.mp hpj
      have hbefore := ih j hjs hmj (by omega) hj
      have hspace := opens_spaced hrun hj ho hjs hs
      have hmono := count_mono (opens st lab) hmj
      have hsucc : between (opens st lab) m s = between (opens st lab) m j + 1 := by
        unfold between
        rw [h, Nat.count_succ, if_pos hpj]
        omega
      rw [hsucc, Nat.mul_add, Nat.mul_one]
      omega

theorem between_opens_le (hrun : IsRun (limiter policy) st lab n) {m i : Nat} (hmi : m ≤ i)
    (hi : i ≤ n) :
    between (opens st lab) m i ≤ ((st i).clock - (st m).clock) / policy.span + 1 := by
  rcases last_place (opens st lab) hmi with h | ⟨s, hms, hsi, hps, h⟩
  · have hzero : between (opens st lab) m i = 0 := by
      unfold between
      omega
    rw [hzero]
    exact Nat.zero_le _
  · have hclock := opens_clock hrun hms (by omega) (opens_iff.mp hps)
    have hlater := limiter_clock_mono hrun (show s + 1 ≤ i by omega) hi
    rw [(limiter_clock hrun (show s < n by omega)).1] at hlater
    have hmono := count_mono (opens st lab) hms
    have hsucc : between (opens st lab) m i = between (opens st lab) m s + 1 := by
      unfold between
      rw [h, Nat.count_succ, if_pos hps]
      omega
    rw [hsucc]
    apply Nat.succ_le_succ
    rw [Nat.le_div_iff_mul_le policy.span_pos, Nat.mul_comm]
    omega

/-- the admissions of any part of a run -/
theorem admissions_between (hrun : IsRun (limiter policy) st lab n) {m i : Nat} (hmi : m ≤ i)
    (hi : i ≤ n) :
    between (allowed policy st lab) m i ≤
      policy.limit * (((st i).clock - (st m).clock) / policy.span + 2) := by
  have h := count_allowed_le hrun m policy.limit (fun _ _ => Nat.le_refl _) hmi hi
  have hopen := Nat.mul_le_mul_left policy.limit (between_opens_le hrun hmi hi)
  have hmul : policy.limit * (((st i).clock - (st m).clock) / policy.span + 2) =
      policy.limit * (((st i).clock - (st m).clock) / policy.span + 1) + policy.limit := by
    rw [show ((st i).clock - (st m).clock) / policy.span + 2 =
      (((st i).clock - (st m).clock) / policy.span + 1) + 1 from rfl, Nat.mul_succ]
  unfold between at *
  omega

theorem admissions_total (hrun : IsRun (limiter policy) st lab n) :
    Nat.count (fun j => allowed policy st lab j = true) n ≤
      policy.limit * (((st n).clock - (st 0).clock) / policy.span + 1) := by
  have h := count_allowed_le hrun 0 0 (fun s hs => absurd hs (Nat.not_lt_zero s)) (Nat.zero_le n)
    (Nat.le_refl n)
  have hopen := Nat.mul_le_mul_left policy.limit (between_opens_le hrun (Nat.zero_le n) (Nat.le_refl n))
  rw [Nat.count_zero] at h
  omega

end

/-! ## requests at the gate -/

/-- how far `IdentityAbuseFlow` has brought a request -/
inductive Stage where
  | arrived
  | admitted
  /-- its CAPTCHA has been accepted -/
  | cleared
  | refused
  /-- its credentials have been verified -/
  | judged
deriving DecidableEq, Repr

inductive GateMove (ι : Type) where
  /-- `check_login_attempt` -/
  | ask (request : ι)
  /-- `post_admission_check` -/
  | captcha (request : ι) (accepted : Bool)
  /-- `verify_real_or_dummy_credentials` -/
  | verify (request : ι)
deriving DecidableEq

structure GateStep (ι : Type) where
  now : Nat
  move : GateMove ι

/-- the limiter's cell of every client, and the stages of the requests; every login has its CAPTCHA
checked behind the admission, and every reply of Redis arrives -/
structure Gate (ι κ : Type) where
  clock : Nat
  cells : κ → Cell String
  stage : ι → Stage

section
variable {ι κ : Type} [DecidableEq ι] [DecidableEq κ] (policy : RateLimitPolicy) (client : ι → κ)

def Gate.move (now : Nat) (g : Gate ι κ) : GateMove ι → Option (Gate ι κ)
  | .ask r =>
    if g.stage r = .arrived then
      let reply := checkRateLimit policy now (g.cells (client r))
      some { clock := now
             cells := Function.update g.cells (client r) reply.2
             stage := Function.update g.stage r (if admits reply.1 then .admitted else .refused) }
    else none
  | .captcha r accepted =>
    if g.stage r = .admitted then
      some { g with
        clock := now
        stage := Function.update g.stage r (if accepted then .cleared else .refused) }
    else none
  | .verify r =>
    if g.stage r = .cleared then
      some { g with
        clock := now
        stage := Function.update g.stage r .judged }
    else none

/-- the moves of all requests, at nondecreasing times, from an empty limiter -/
def gate : System (Gate ι κ) (GateStep ι) where
  init g := (∀ k, g.cells k = none) ∧ ∀ r, g.stage r = .arrived
  step g l g' := g.clock ≤ l.now ∧ g.move policy client l.now l.move = some g'

/-- the calls on the bucket of the client `k`; what is not one leaves the bucket alone -/
def attempt (client : ι → κ) (k : κ) (l : GateStep ι) : Attempt where
  now := l.now
  kind := match l.move with
    | .ask r => if client r = k then .check else .inspect
    | _ => .inspect

def bucketOf (k : κ) (g : Gate ι κ) : Limiter := ⟨g.clock, g.cells k⟩

/-- a verification of credentials that the client `k` has sent -/
def guess (client : ι → κ) (k : κ) (l : GateStep ι) : Bool :=
  match l.move with
  | .verify r => decide (client r = k)
  | _ => false

variable {policy client}
variable {st : Nat → Gate ι κ} {lab : Nat → GateStep ι} {n : Nat}

theorem bucket_step {g g' : Gate ι κ} {l : GateStep ι} (h : (gate policy client).step g l g') (k : κ) :
    (limiter policy).step (bucketOf k g) (attempt client k l) (bucketOf k g') := by
  obtain ⟨hclock, hmove⟩ := h
  refine ⟨hclock, ?_⟩
  obtain ⟨now, move⟩ := l
  cases move with
  | ask r =>
    simp only [Gate.move] at hmove
    split at hmove
    · rw [← Option.some.inj hmove]
      by_cases hk : client r = k
      · subst hk
        simp only [bucketOf, attempt, if_true, Attempt.after, Function.update_self]
      · simp only [bucketOf, attempt, if_neg hk, Attempt.after, Function.update_of_ne (Ne.symm hk)]
    · cases hmove
  | captcha r accepted =>
    simp only [Gate.move] at hmove
    split at hmove
    · rw [← Option.some.inj hmove]
      rfl
    · cases hmove
  | verify r =>
    simp only [Gate.move] at hmove
    split at hmove
    · rw [← Option.some.inj hmove]
      rfl
    · cases hmove

/-- every bucket of a run of the gate is a run of the limiter -/
theorem bucket_run (hrun : IsRun (gate policy client) st lab n) (k : κ) :
    IsRun (limiter policy) (fun i => bucketOf k (st i)) (fun i => attempt client k (lab i)) n :=
  ⟨hrun.start.1 k, fun i hi => bucket_step (hrun.next i hi) k⟩

theorem stage_step {g g' : Gate ι κ} {l : GateStep ι} (h : (gate policy client).step g l g') (r : ι) :
    g'.stage r = g.stage r ∨
      (g.stage r = .arrived ∧ l.move = .ask r ∧
        (g'.stage r = .admitted ∧ admits (checkRateLimit policy l.now (g.cells (client r))).1 = true ∨
          g'.stage r = .refused)) ∨
      (g.stage r = .admitted ∧ ((l.move = .captcha r true ∧ g'.stage r = .cleared) ∨
        g'.stage r = .refused)) ∨
      (g.stage r = .cleared ∧ l.move = .verify r ∧ g'.stage r = .judged) := by
  obtain ⟨-, hmove⟩ := h
  obtain ⟨now, move⟩ := l
  cases move with
  | ask r' =>
    simp only [Gate.move] at hmove
    split at hmove
    · rename_i hstage
      rw [← Option.some.inj hmove]
      by_cases hr : r = r'
      · subst hr
        refine .inr (.inl ⟨hstage, rfl, ?_⟩)
        simp only [Function.update_self]
        by_cases ha : admits (checkRateLimit policy now (g.cells (client r))).1 = true
        · exact .inl ⟨if_pos ha, ha⟩
        · exact .inr (if_neg ha)
      · exact .inl (Function.update_of_ne hr _ _)
    · cases hmove
  | captcha r' accepted =>
    simp only [Gate.move] at hmove
    split at hmove
    · rename_i hstage
      rw [← Option.some.inj hmove]
      by_cases hr : r = r'
      · subst hr
        refine .inr (.inr (.inl ⟨hstage, ?_⟩))
        simp only [Function.update_self]
        cases accepted with
        | true => exact .inl ⟨rfl, rfl⟩
        | false => exact .inr rfl
      · exact .inl (Function.update_of_ne hr _ _)
    · cases hmove
  | verify r' =>
    simp only [Gate.move] at hmove
    split at hmove
    · rename_i hstage
      rw [← Option.some.inj hmove]
      by_cases hr : r = r'
      · subst hr
        refine .inr (.inr (.inr ⟨hstage, rfl, ?_⟩))
        simp only [Function.update_self]
      · exact .inl (Function.update_of_ne hr _ _)
    · cases hmove

structure Admitted (policy : RateLimitPolicy) (client : ι → κ) (st : Nat → Gate ι κ)
    (lab : Nat → GateStep ι) (r : ι) (a : Nat) : Prop where
  move : (lab a).move = .ask r
  admits : admits (checkRateLimit policy (lab a).now ((st a).cells (client r))).1 = true

structure Past (policy : RateLimitPolicy) (client : ι → κ) (st : Nat → Gate ι κ)
    (lab : Nat → GateStep ι) (r : ι) (i : Nat) : Prop where
  admitted : (st i).stage r = .admitted → ∃ a < i, Admitted policy client st lab r a
  cleared : (st i).stage r = .cleared ∨ (st i).stage r = .judged →
    ∃ a c, a < c ∧ c < i ∧ Admitted policy client st lab r a ∧ (lab c).move = .captcha r true

theorem past (hrun : IsRun (gate policy client) st lab n) (r : ι) {i : Nat} (hi : i ≤ n) :
    Past policy client st lab r i := by
  induction i with
  | zero =>
    have hstage := hrun.start.2 r
    refine ⟨?_, ?_⟩
    · intro h
      rw [hstage] at h
      cases h
    · intro h
      rw [hstage] at h
      rcases h with h | h <;> cases h
  | succ i ih =>
    have hp := ih (Nat.le_of_succ_le hi)
    rcases stage_step (hrun.next i hi) r with h | ⟨hold, hmove, ⟨h, hadmits⟩ | h⟩ |
      ⟨hold, ⟨hmove, h⟩ | h⟩ | ⟨hold, hmove, h⟩
    · refine ⟨?_, ?_⟩
      · intro hadmitted
        obtain ⟨a, ha, hA⟩ := hp.admitted (h.symm.trans hadmitted)
        exact ⟨a, Nat.lt_succ_of_lt ha, hA⟩
      · intro hcleared
        rw [h] at hcleared
        obtain ⟨a, c, hac, hc, hA, hC⟩ := hp.cleared hcleared
        exact ⟨a, c, hac, Nat.lt_succ_of_lt hc, hA, hC⟩
    · refine ⟨fun _ => ⟨i, Nat.lt_succ_self i, hmove, hadmits⟩, ?_⟩
      rintro (hcleared | hcleared)
      · exact nomatch h.symm.trans hcleared
      · exact nomatch h.symm.trans hcleared
    · refine ⟨fun hadmitted => (nomatch h.symm.trans hadmitted), ?_⟩
      rintro (hcleared | hcleared)
      · exact nomatch h.symm.trans hcleared
      · exact nomatch h.symm.trans hcleared
    · obtain ⟨a, ha, hA⟩ := hp.admitted hold
      exact ⟨fun hadmitted => (nomatch h.symm.trans hadmitted),
        fun _ => ⟨a, i, ha, Nat.lt_succ_self i, hA, hmove⟩⟩
    · refine ⟨fun hadmitted => (nomatch h.symm.trans hadmitted), ?_⟩
      rintro (hcleared | hcleared)
      · exact nomatch h.symm.trans hcleared
      · exact nomatch h.symm.trans hcleared
    · obtain ⟨a, c, hac, hc, hA, hC⟩ := hp.cleared (.inl hold)
      exact ⟨fun hadmitted => (nomatch h.symm.trans hadmitted),
        fun _ => ⟨a, c, hac, Nat.lt_succ_of_lt hc, hA, hC⟩⟩

theorem verify_stage {g g' : Gate ι κ} {l : GateStep ι} (h : (gate policy client).step g l g') {r : ι}
    (hverify : l.move = .verify r) : g.stage r = .cleared ∧ g'.stage r = .judged := by
  obtain ⟨-, hmove⟩ := h
  rw [hverify] at hmove
  simp only [Gate.move] at hmove
  split at hmove
  · rename_i hstage
    rw [← Option.some.inj hmove]
    exact ⟨hstage, Function.update_self _ _ _⟩
  · cases hmove

theorem judged_of_verify (hrun : IsRun (gate policy client) st lab n) {j i : Nat} (hji : j < i)
    (hi : i ≤ n) {r : ι} (h : (lab j).move = .verify r) : (st i).stage r = .judged := by
  induction i with
  | zero => exact absurd hji (Nat.not_lt_zero j)
  | succ i ih =>
    rcases Nat.lt_succ_iff_lt_or_eq.mp hji with hlt | rfl
    · have hjudged := ih hlt (Nat.le_of_succ_le hi)
      rcases stage_step (hrun.next i hi) r with hsame | ⟨hold, -⟩ | ⟨hold, -⟩ | ⟨hold, -⟩
      · exact hsame.trans hjudged
      · exact nomatch hold.symm.trans hjudged
      · exact nomatch hold.symm.trans hjudged
      · exact nomatch hold.symm.trans hjudged
    · exact (verify_stage (hrun.next j hi) h).2

theorem verify_past (hrun : IsRun (gate policy client) st lab n) {j : Nat} (hj : j < n) {r : ι}
    (h : (lab j).move = .verify r) :
    (∃ a c, a < c ∧ c < j ∧ Admitted policy client st lab r a ∧ (lab c).move = .captcha r true) ∧
      ∀ j' < j, (lab j').move ≠ .verify r := by
  have hstage := (verify_stage (hrun.next j hj) h).1
  refine ⟨(past hrun r (Nat.le_of_lt hj)).cleared (.inl hstage), ?_⟩
  intro j' hj' h'
  exact nomatch hstage.symm.trans (judged_of_verify hrun hj' (Nat.le_of_lt hj) h')

theorem guess_iff {k : κ} {l : GateStep ι} :
    guess client k l = true ↔ ∃ r, l.move = .verify r ∧ client r = k := by
  unfold guess
  constructor
  · intro h
    split at h
    · rename_i r hmove
      exact ⟨r, hmove, of_decide_eq_true h⟩
    · cases h
  · rintro ⟨r, hmove, hr⟩
    rw [hmove]
    exact decide_eq_true hr

theorem Admitted.allowed {r : ι} {a : Nat} (h : Admitted policy client st lab r a) :
    allowed policy (fun i => bucketOf (client r) (st i)) (fun i => attempt client (client r) (lab i)) a =
      true := by
  unfold Guesses.allowed
  have hkind : (attempt client (client r) (lab a)).kind = .check := by
    simp only [attempt, h.move, if_true]
  rw [Bool.and_eq_true]
  exact ⟨decide_eq_true hkind, h.admits⟩

/-- every verification has an admission of its own -/
theorem guesses_le_admissions (hrun : IsRun (gate policy client) st lab n) (k : κ) :
    Nat.count (fun j => guess client k (lab j) = true) n ≤
      Nat.count (fun j => allowed policy (fun i => bucketOf k (st i))
        (fun i => attempt client k (lab i)) j = true) n := by
  classical
  rw [Nat.count_eq_card_filter_range, Nat.count_eq_card_filter_range]
  have hsome : ∀ j, j < n ∧ guess client k (lab j) = true →
      ∃ a, a < n ∧ allowed policy (fun i => bucketOf k (st i)) (fun i => attempt client k (lab i)) a =
        true ∧ ∃ r, (lab j).move = .verify r ∧ (lab a).move = .ask r := by
    rintro j ⟨hj, hguess⟩
    obtain ⟨r, hmove, rfl⟩ := guess_iff.mp hguess
    obtain ⟨⟨a, c, hac, hc, hA, -⟩, -⟩ := verify_past hrun hj hmove
    exact ⟨a, by omega, hA.allowed, r, hmove, hA.move⟩
  choose! admission hlt hallowed hsame using hsome
  apply Finset.card_le_card_of_injOn admission
  · intro j hj
    have h := Finset.mem_filter.mp hj
    have h' : j < n ∧ guess client k (lab j) = true := ⟨Finset.mem_range.mp h.1, h.2⟩
    exact Finset.mem_filter.mpr ⟨Finset.mem_range.mpr (hlt j h'), hallowed j h'⟩
  · intro j hj j' hj' e
    have h := Finset.mem_filter.mp hj
    have h' := Finset.mem_filter.mp hj'
    have h1 : j < n ∧ guess client k (lab j) = true := ⟨Finset.mem_range.mp h.1, h.2⟩
    have h2 : j' < n ∧ guess client k (lab j') = true := ⟨Finset.mem_range.mp h'.1, h'.2⟩
    obtain ⟨r, hverify, hadmit⟩ := hsame j h1
    obtain ⟨r', hverify', hadmit'⟩ := hsame j' h2
    rw [e, hadmit'] at hadmit
    have er : r' = r := GateMove.ask.inj hadmit
    subst er
    rcases Nat.lt_trichotomy j j' with hlt | e | hlt
    · exact absurd hverify ((verify_past hrun h2.1 hverify').2 j hlt)
    · exact e
    · exact absurd hverify' ((verify_past hrun h1.1 hverify).2 j' hlt)

/-- **How often a client can try a password.**  Whatever requests are under way and in whatever
order they go on: credentials are verified once for a request, after an admission and an accepted
CAPTCHA of the same request; in any part of a run a client is admitted no more than `limit` times
for every window that fits into its time and two more; and no more verifications are made for it
than `limit` for every window since the start and one more. -/
theorem guesses_bounded (hrun : IsRun (gate policy client) st lab n) :
    (∀ j < n, ∀ r, (lab j).move = .verify r →
      (∃ a c, a < c ∧ c < j ∧ Admitted policy client st lab r a ∧ (lab c).move = .captcha r true) ∧
        ∀ j' < j, (lab j').move ≠ .verify r) ∧
    (∀ k m i, m ≤ i → i ≤ n →
      between (allowed policy (fun i => bucketOf k (st i)) fun i => attempt client k (lab i)) m i ≤
        policy.limit * (((st i).clock - (st m).clock) / policy.span + 2)) ∧
    ∀ k, Nat.count (fun j => guess client k (lab j) = true) n ≤
      policy.limit * (((st n).clock - (st 0).clock) / policy.span + 1) :=
  ⟨fun j hj r hmove => verify_past hrun hj hmove,
    fun k m i hmi hi => admissions_between (bucket_run hrun k) hmi hi,
    fun k => Nat.le_trans (guesses_le_admissions hrun k) (admissions_total (bucket_run hrun k))⟩

end

def sampleSteps (i : Nat) : GateStep Bool :=
  match i with
  | 0 => ⟨5, .ask false⟩
  | 1 => ⟨6, .ask true⟩
  | 2 => ⟨7, .captcha false true⟩
  | _ => ⟨9, .verify false⟩

def sampleGate : Nat → Gate Bool Unit
  | 0 => ⟨0, fun _ => none, fun _ => .arrived⟩
  | i + 1 => ((sampleGate i).move samplePolicy (fun _ => ()) (sampleSteps i).now
      (sampleSteps i).move).getD (sampleGate i)

theorem sampleGate_run :
    IsRun (gate samplePolicy fun _ : Bool => ()) sampleGate sampleSteps 4 := by
  refine ⟨⟨fun _ => rfl, fun _ => rfl⟩, ?_⟩
  intro i hi
  have hcases : i = 0 ∨ i = 1 ∨ i = 2 ∨ i = 3 := by omega
  rcases hcases with rfl | rfl | rfl | rfl
  · exact ⟨by decide, rfl⟩
  · exact ⟨by decide, rfl⟩
  · exact ⟨by decide, rfl⟩
  · exact ⟨by decide, rfl⟩

theorem guesses_bounded_sample :
    Nat.count (fun j => guess (fun _ : Bool => ()) () (sampleSteps j) = true) 4 ≤
      samplePolicy.limit * (((sampleGate 4).clock - (sampleGate 0).clock) / samplePolicy.span + 1) :=
  (guesses_bounded sampleGate_run).2.2 ()

/-! ## the verification of a login -/

inductive Work (α : Type) where
  | readAccount
  /-- one run of Argon2, with the parameters of its hash -/
  | argon2 (cost : α)
deriving DecidableEq, Repr

section
variable {α : Type} (lib : PasswordLibrary) (cost : String → α)

/-- `_verify_password_details` with its work: a missing hash is replaced by the dummy -/
def tracedVerify (password : String) (hash : Option String) :
    List (Work α) × Except Failure PasswordVerification :=
  (match validateLoginPasswordInput password with
    | .error _ => []
    | .ok _ =>
      if lib.parametersUsable (hash.getD dummyPasswordHash) then
        [.argon2 (cost (hash.getD dummyPasswordHash))]
      else [],
    verifyPasswordDetails lib password hash)

/-- what follows a verification, after the work `work`: an accepted login with an outdated hash gets
a new one from `hash_verified_password` -/
def tracedRehash (salt : Nat) (password : String) (work : List (Work α)) (v : PasswordVerification) :
    Option PasswordSnapshot → List (Work α) × Except Failure (Option (PasswordSnapshot × Option String))
  | none => (work, .ok none)
  | some s =>
    if v.needsRehash then
      (work ++ [.argon2 (cost (lib.hash salt password))],
        .ok (some (s, some (lib.hash salt password))))
    else (work, .ok (some (s, none)))

/-- `_verify_login_snapshot` up to its first lock, with its work -/
def tracedLogin (salt : Nat) (password : String) (temporary : Bool) (db : Db) (userName : String) :
    List (Work α) × Except Failure (Option (PasswordSnapshot × Option String)) :=
  let snapshot := loadSnapshotByUserName db userName
  let verification := tracedVerify lib cost password (snapshot.bind PasswordSnapshot.passwordHash)
  match verification.2 with
  | .error e => (.readAccount :: verification.1, .error e)
  | .ok v =>
    tracedRehash lib cost salt password (.readAccount :: verification.1) v
      (loginSnapshotAccepted snapshot v temporary)

/-- the hash that is stored under a name, if there is an account with one -/
def storedHash (db : Db) (userName : String) : Option String :=
  (loadSnapshotByUserName db userName).bind PasswordSnapshot.passwordHash

/-- the rejection that the client is sent at that point; `IdentityAbuseFlow` rejects `None` -/
def rejection {β : Type} : Except Failure (Option β) → Option Failure
  | .error e => some e
  | .ok none => some .invalidCredentials
  | .ok (some _) => none

/-- the work of a login to nobody's account -/
def dummyWork (password : String) : List (Work α) :=
  .readAccount ::
    match validateLoginPasswordInput password with
    | .error _ => []
    | .ok _ => [.argon2 (cost dummyPasswordHash)]

/-- somebody who is let in: with the password of a live, active account -/
structure LetIn (password : String) (temporary : Bool) (db : Db) (userName : String) : Prop where
  valid : validateLoginPasswordInput password = .ok ()
  account : ∃ snapshot hash, loadSnapshotByUserName db userName = some snapshot ∧
    snapshot.passwordHash = some hash ∧ lib.verify hash password = true ∧
    snapshot.isDeleted = false ∧ snapshot.isActive = true ∧
    (temporary = true → snapshot.mustChangePassword = true)

/-- the hash of an account can be verified, at the price of the dummy -/
structure Priced (hash : String) : Prop where
  usable : lib.parametersUsable hash = true
  cost : cost hash = cost dummyPasswordHash

variable {lib cost}
variable {salt : Nat} {password userName : String} {temporary : Bool} {db : Db}

theorem tracedRehash_snd {work : List (Work α)} {v : PasswordVerification}
    {accepted : Option PasswordSnapshot} :
    (tracedRehash lib cost salt password work v accepted).2 =
      .ok (accepted.map fun s => (s, if v.needsRehash then some (lib.hash salt password) else none)) := by
  cases accepted with
  | none => rfl
  | some s =>
    simp only [tracedRehash, Option.map_some]
    by_cases h : v.needsRehash = true
    · rw [if_pos h, if_pos h]
    · rw [if_neg h, if_neg h]

/-- the work goes along with the login of the transactions -/
theorem tracedLogin_checkLogin :
    (tracedLogin lib cost salt password temporary db userName).2 =
      checkLogin lib salt password temporary (loadSnapshotByUserName db userName) := by
  unfold tracedLogin checkLogin tracedVerify
  cases hv : verifyPasswordDetails lib password
      ((loadSnapshotByUserName db userName).bind PasswordSnapshot.passwordHash) with
  | error e =>
    simp only [hv]
    rfl
  | ok v =>
    simp only [hv]
    exact tracedRehash_snd

theorem tracedLogin_invalid (h : validateLoginPasswordInput password ≠ .ok ()) :
    tracedLogin lib cost salt password temporary db userName =
      (dummyWork cost password, .error .invalidCredentials) := by
  unfold tracedLogin dummyWork tracedVerify verifyPasswordDetails
  cases hv : validateLoginPasswordInput password with
  | error e => rfl
  | ok u => exact absurd hv h

variable (cost) in
theorem tracedVerify_valid {hash : Option String} (hin : validateLoginPasswordInput password = .ok ())
    (husable : lib.parametersUsable (hash.getD dummyPasswordHash) = true) :
    ∃ v, tracedVerify lib cost password hash =
        ([.argon2 (cost (hash.getD dummyPasswordHash))], .ok v) ∧
      v.usedDummy = hash.isNone ∧
      v.verified = (lib.verify (hash.getD dummyPasswordHash) password && !hash.isNone) := by
  unfold tracedVerify verifyPasswordDetails
  rw [hin]
  simp only [husable, if_true, not_true_eq_false, if_false]
  exact ⟨_, rfl, rfl, rfl⟩

theorem tracedLogin_unusable (hin : validateLoginPasswordInput password = .ok ())
    (husable : ¬ lib.parametersUsable ((storedHash db userName).getD dummyPasswordHash) = true) :
    tracedLogin lib cost salt password temporary db userName =
      ([.readAccount], .error (unavailable "password_credential_unavailable")) := by
  unfold tracedLogin tracedVerify verifyPasswordDetails
  rw [hin]
  unfold storedHash at husable
  simp only [if_neg husable, if_pos husable]

theorem accepted_iff {v : PasswordVerification} (hin : validateLoginPasswordInput password = .ok ())
    (hused : v.usedDummy = ((loadSnapshotByUserName db userName).bind PasswordSnapshot.passwordHash).isNone)
    (hv : v.verified = (lib.verify (((loadSnapshotByUserName db userName).bind
      PasswordSnapshot.passwordHash).getD dummyPasswordHash) password &&
        !((loadSnapshotByUserName db userName).bind PasswordSnapshot.passwordHash).isNone)) :
    (∃ s, loginSnapshotAccepted (loadSnapshotByUserName db userName) v temporary = some s) ↔
      LetIn lib password temporary db userName := by
  unfold loginSnapshotAccepted
  constructor
  · intro h
    obtain ⟨s, h⟩ := h
    obtain ⟨hs, hp⟩ := Option.filter_eq_some_iff.mp h
    rw [hs, Option.bind_some] at hv
    simp only [Bool.and_eq_true, Bool.not_eq_true', Bool.or_eq_true] at hp
    obtain ⟨⟨⟨⟨⟨hverified, -⟩, hhash⟩, hdeleted⟩, hactive⟩, htemporary⟩ := hp
    obtain ⟨hash, hhash⟩ := Option.isSome_iff_exists.mp hhash
    rw [hhash, hverified] at hv
    have hver := (Bool.and_eq_true _ _).mp hv.symm
    refine ⟨hin, s, hash, hs, hhash, hver.1, hdeleted, hactive, ?_⟩
    intro ht
    rcases htemporary with h | h
    · exact absurd (h.symm.trans ht) Bool.false_ne_true
    · exact h
  · intro hlet
    obtain ⟨s, hash, hs, hhash, hver, hdeleted, hactive, htemporary⟩ := hlet.account
    rw [hs, Option.bind_some, hhash] at hv hused
    refine ⟨s, Option.filter_eq_some_iff.mpr ⟨hs, ?_⟩⟩
    rw [hv, hused, hhash, hdeleted, hactive, Option.getD_some, hver]
    cases ht : temporary with
    | false => rfl
    | true =>
      rw [htemporary ht]
      rfl

variable (temporary) in
theorem tracedLogin_usable (hin : validateLoginPasswordInput password = .ok ())
    (husable : lib.parametersUsable ((storedHash db userName).getD dummyPasswordHash) = true) :
    (¬ LetIn lib password temporary db userName →
      tracedLogin lib cost salt password temporary db userName =
        ([.readAccount, .argon2 (cost ((storedHash db userName).getD dummyPasswordHash))],
          .ok none)) ∧
    (LetIn lib password temporary db userName →
      [.readAccount, .argon2 (cost ((storedHash db userName).getD dummyPasswordHash))] <+:
          (tracedLogin lib cost salt password temporary db userName).1 ∧
        rejection (tracedLogin lib cost salt password temporary db userName).2 = none) := by
  obtain ⟨v, htrace, hused, hv⟩ := tracedVerify_valid cost hin husable
  have hlogin : tracedLogin lib cost salt password temporary db userName =
      tracedRehash lib cost salt password
        [.readAccount, .argon2 (cost ((storedHash db userName).getD dummyPasswordHash))] v
        (loginSnapshotAccepted (loadSnapshotByUserName db userName) v temporary) := by
    unfold tracedLogin
    unfold storedHash at htrace ⊢
    simp only [htrace]
  have haccepted : (∃ s, loginSnapshotAccepted (loadSnapshotByUserName db userName) v temporary =
      some s) ↔ LetIn lib password temporary db userName := accepted_iff hin hused hv
  rw [hlogin]
  constructor
  · intro hout
    have hnone : loginSnapshotAccepted (loadSnapshotByUserName db userName) v temporary = none :=
      Option.eq_none_iff_forall_ne_some.mpr fun s hs => hout (haccepted.mp ⟨s, hs⟩)
    rw [hnone]
    rfl
  · intro hlet
    obtain ⟨s, hs⟩ := haccepted.mpr hlet
    rw [hs]
    refine ⟨?_, ?_⟩
    · simp only [tracedRehash]
      by_cases hrehash : v.needsRehash = true
      · rw [if_pos hrehash]
        exact List.prefix_append _ _
      · rw [if_neg hrehash]
    · rw [tracedRehash_snd]
      rfl

/-- a usable hash costs what the dummy costs when it is priced, and only then -/
theorem priced_iff_cost
    (husable : lib.parametersUsable ((storedHash db userName).getD dummyPasswordHash) = true) :
    cost ((storedHash db userName).getD dummyPasswordHash) = cost dummyPasswordHash ↔
      ∀ hash, storedHash db userName = some hash → Priced lib cost hash := by
  cases hstored : storedHash db userName with
  | none => exact iff_of_true rfl fun hash h => by cases h
  | some hash =>
    rw [hstored] at husable
    constructor
    · intro hcost hash' h
      cases h
      exact ⟨husable, hcost⟩
    · exact fun h => (h hash rfl).cost

theorem not_priced_of_unusable (hdummy : lib.parametersUsable dummyPasswordHash = true)
    (husable : ¬ lib.parametersUsable ((storedHash db userName).getD dummyPasswordHash) = true) :
    ¬ ∀ hash, storedHash db userName = some hash → Priced lib cost hash := by
  intro h
  cases hstored : storedHash db userName with
  | none =>
    rw [hstored] at husable
    exact husable hdummy
  | some hash =>
    rw [hstored] at husable
    exact husable (h hash hstored).usable

/-- **Everybody who is not let in looks the same, as long as the stored hash costs what the dummy
costs, and then alone.**  Whether there is no such account, or it has no password, another one, is
deactivated, deleted or not to be completed: the work done, down to the price of the one run of
Argon2, and the rejection sent are those of a login to nobody.  A usable hash of another price shows
in the work, an unusable one in the answer.  Somebody let in has had the same work done up to that
point, and is not rejected. -/
theorem login_uniform (hdummy : lib.parametersUsable dummyPasswordHash = true) :
    (¬ LetIn lib password temporary db userName →
      ((tracedLogin lib cost salt password temporary db userName).1 = dummyWork cost password ∧
          rejection (tracedLogin lib cost salt password temporary db userName).2 =
            some .invalidCredentials ↔
        (validateLoginPasswordInput password = .ok () →
          ∀ hash, storedHash db userName = some hash → Priced lib cost hash))) ∧
    (LetIn lib password temporary db userName →
      (dummyWork cost password <+: (tracedLogin lib cost salt password temporary db userName).1 ∧
          rejection (tracedLogin lib cost salt password temporary db userName).2 = none ↔
        ∀ hash, storedHash db userName = some hash → Priced lib cost hash)) := by
  by_cases hin : validateLoginPasswordInput password = .ok ()
  · have hwork : dummyWork cost password = [.readAccount, .argon2 (cost dummyPasswordHash)] := by
      unfold dummyWork
      rw [hin]
    rw [hwork]
    by_cases husable : lib.parametersUsable ((storedHash db userName).getD dummyPasswordHash) = true
    · obtain ⟨hrejected, hentered⟩ := tracedLogin_usable temporary hin husable
      have hpriced : cost ((storedHash db userName).getD dummyPasswordHash) = cost dummyPasswordHash ↔
          ∀ hash, storedHash db userName = some hash → Priced lib cost hash := priced_iff_cost husable
      constructor
      · intro hout
        rw [hrejected hout, ← hpriced]
        constructor
        · rintro ⟨h, -⟩ -
          exact Work.argon2.inj (List.cons.inj (List.cons.inj h).2).1
        · exact fun h => ⟨by rw [h hin], rfl⟩
      · intro hlet
        obtain ⟨hstart, hanswer⟩ := hentered hlet
        rw [← hpriced]
        constructor
        · rintro ⟨h, -⟩
          -- two prefixes of one length
          have hsame := (List.prefix_of_prefix_length_le hstart h (Nat.le_refl 2)).eq_of_length rfl
          exact Work.argon2.inj (List.cons.inj (List.cons.inj hsame).2).1
        · exact fun h => ⟨h ▸ hstart, hanswer⟩
    · have hno : ¬ ∀ hash, storedHash db userName = some hash → Priced lib cost hash :=
        not_priced_of_unusable hdummy husable
      rw [tracedLogin_unusable hin husable]
      refine ⟨fun _ => iff_of_false ?_ fun h => hno (h hin), fun _ => iff_of_false ?_ hno⟩
      · rintro ⟨-, h⟩
        cases h
      · rintro ⟨-, h⟩
        cases h
  · rw [tracedLogin_invalid hin]
    exact ⟨fun _ => iff_of_true ⟨rfl, rfl⟩ fun h => absurd h hin, fun hlet => absurd hlet.valid hin⟩

end

def sampleAccounts : Db :=
  (states agedLibrary (script [.register "alice" agedHash alice "request"]) 1).db

/-- memory and passes, those of production in every hash of the sample -/
def sampleCost (hash : String) : Nat × Nat := (65536, 3)

theorem login_uniform_sample :
    (tracedLogin agedLibrary sampleCost 0 "Mistaken1" false sampleAccounts "alice").1 =
        dummyWork sampleCost "Mistaken1" ∧
      (tracedLogin agedLibrary sampleCost 0 "Mistaken1" false sampleAccounts "bob").1 =
        dummyWork sampleCost "Mistaken1" := by
  have hdummy : agedLibrary.parametersUsable dummyPasswordHash = true := by decide +kernel
  have halice : storedHash sampleAccounts "alice" = some agedHash := by decide +kernel
  have hbob : storedHash sampleAccounts "bob" = none := by decide +kernel
  have haged : Priced agedLibrary sampleCost agedHash := ⟨by decide +kernel, rfl⟩
  refine ⟨(((login_uniform hdummy).1 ?_).mpr fun _ hash h => ?_).1,
    (((login_uniform hdummy).1 ?_).mpr fun _ hash h => ?_).1⟩
  · intro hlet
    obtain ⟨snapshot, hash, hsnapshot, hhash, hverify, -⟩ := hlet.account
    have hread : loadSnapshotByUserName sampleAccounts "alice" =
        some (snapshotFromUser agedAccount) := by decide +kernel
    cases hread.symm.trans hsnapshot
    cases hhash
    exact absurd hverify (by decide +kernel)
  · cases halice.symm.trans h
    exact haged
  · intro hlet
    obtain ⟨snapshot, hash, hsnapshot, -⟩ := hlet.account
    have hread : loadSnapshotByUserName sampleAccounts "bob" = none := by decide +kernel
    cases hread.symm.trans hsnapshot
  · cases hbob.symm.trans h

end Guesses

end PgRbac
