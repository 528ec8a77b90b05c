import PgRbac.RateLimit

/-!
# The windows of a limiter

Calls and inspections of one key at nondecreasing times, from a keyspace without the key.

* `Opens`            a call that finds no key;
* `WindowState`      between two calls the cell shows the last window: its end, and while it lasts
                     the number of its calls;
* `Charged`          the `k`-th call of a window;
* `fixed_window`     every call that the script answers is one, and is answered by `k` alone;
* `healthy_limiter`  a call is answered unless it comes in the very millisecond of the deadline.
-/

set_option linter.unusedVariables false

namespace PgRbac

open Redis Trace

/-! ## the system -/

inductive AttemptKind where
  | check | inspect
  deriving DecidableEq, Repr

structure Attempt where
  now : Nat
  kind : AttemptKind

structure Limiter where
  clock : Nat
  cell : Cell String

section
variable (policy : RateLimitPolicy) (other : String → Option Int)

def Attempt.reply (a : Attempt) (c : Cell String) : Except LimiterError RateLimitResult :=
  match a.kind with
  | .check => (checkRateLimit policy a.now c).1
  | .inspect => inspectRateLimit other policy a.now c

def Attempt.after (a : Attempt) (c : Cell String) : Cell String :=
  match a.kind with
  | .check => (checkRateLimit policy a.now c).2
  | .inspect => c

def limiter : System Limiter Attempt where
  init s := s.cell = none
  step s a s' := s.clock ≤ a.now ∧ s' = ⟨a.now, a.after policy s.cell⟩

/-- a call whose script returns a result -/
def returns (st : Nat → Limiter) (lab : Nat → Attempt) (i : Nat) : Bool :=
  decide ((lab i).kind = .check) &&
    (fixedWindowScript policy.limit policy.windowSeconds (lab i).now (st i).cell).1.isOk

end

section
variable {policy : RateLimitPolicy} {other : String → Option Int} {st : Nat → Limiter}
  {lab : Nat → Attempt} {n : Nat}

theorem limiter_clock (hrun : IsRun (limiter policy) st lab n) {i : Nat} (hi : i < n) :
    (st (i + 1)).clock = (lab i).now ∧ (st i).clock ≤ (lab i).now := by
  obtain ⟨hle, he⟩ := hrun.next i hi
  exact ⟨congrArg Limiter.clock he, hle⟩

theorem limiter_cell (hrun : IsRun (limiter policy) st lab n) {i : Nat} (hi : i < n) :
    (st (i + 1)).cell = (lab i).after policy (st i).cell :=
  congrArg Limiter.cell (hrun.next i hi).2

theorem limiter_clock_mono (hrun : IsRun (limiter policy) st lab n) {i j : Nat} (hij : i ≤ j)
    (hj : j ≤ n) : (st i).clock ≤ (st j).clock := by
  refine hrun.mono ?_ hij hj
  rintro s a s' - ⟨hle, he⟩
  rw [he]
  exact hle

theorem times_mono (hrun : IsRun (limiter policy) st lab n) {i j : Nat} (hij : i ≤ j)
    (hj : j < n) : (lab i).now ≤ (lab j).now := by
  have h := limiter_clock_mono hrun (show i + 1 ≤ j + 1 by omega) hj
  rw [(limiter_clock hrun (by omega)).1, (limiter_clock hrun hj).1] at h
  exact h

/-! ## windows -/

/-- a call that finds no key -/
def Opens (st : Nat → Limiter) (lab : Nat → Attempt) (s : Nat) : Prop :=
  (lab s).kind = .check ∧ (st s).cell.alive (lab s).now = none

/-- the end of the window that `s` opens -/
def windowEnd (policy : RateLimitPolicy) (lab : Nat → Attempt) (s : Nat) : Nat :=
  (lab s).now + policy.span

/-- `s` opened the last window before `i`, which shows `c` calls; an increment at its very end is
not one of them -/
structure WindowState (policy : RateLimitPolicy) (st : Nat → Limiter) (lab : Nat → Attempt)
    (s i c : Nat) : Prop where
  opens : Opens st lab s
  lt : s < i
  latest : ∀ m, s < m → m < i → ¬ Opens st lab m
  cell : (st i).cell = some ⟨Int.repr c, some (windowEnd policy lab s)⟩
  pos : 1 ≤ c
  bound : c < 2 ^ 63
  since : (lab s).now ≤ (st i).clock
  count : (st i).clock < windowEnd policy lab s →
    Nat.count (fun i => returns policy st lab i = true) i =
      Nat.count (fun i => returns policy st lab i = true) s + c

/-- no window has been opened yet -/
structure Unopened (st : Nat → Limiter) (lab : Nat → Attempt) (i : Nat) : Prop where
  never : ∀ m, m < i → ¬ Opens st lab m
  cell : (st i).cell = none

theorem after_check {a : Attempt} (ha : a.kind = .check) (c : Cell String) :
    a.after policy c = (fixedWindowScript policy.limit policy.windowSeconds a.now c).2 := by
  unfold Attempt.after
  rw [ha]
  rfl

theorem after_inspect {a : Attempt} (ha : a.kind = .inspect) (c : Cell String) : a.after policy c = c := by
  unfold Attempt.after
  rw [ha]

theorem returns_check (policy : RateLimitPolicy) (st : Nat → Limiter) {i : Nat} (ha : (lab i).kind = .check) :
    returns policy st lab i =
      (fixedWindowScript policy.limit policy.windowSeconds (lab i).now (st i).cell).1.isOk := by
  unfold returns
  rw [ha]
  rfl

theorem returns_inspect {i : Nat} (ha : (lab i).kind = .inspect) :
    returns policy st lab i = false := by
  unfold returns
  rw [ha]
  rfl

theorem opens_next (hrun : IsRun (limiter policy) st lab n) {i : Nat} (hi : i < n)
    (h : Opens st lab i) : WindowState policy st lab i (i + 1) 1 := by
  have hscript := script_missing policy h.2
  have hreturns : returns policy st lab i = true := by
    rw [returns_check policy st h.1, hscript]
    rfl
  refine ⟨h, Nat.lt_succ_self i, fun m hm hm' => absurd hm' (by omega), ?_, Nat.le_refl 1, by omega,
    ?_, ?_⟩
  · rw [limiter_cell hrun hi, after_check h.1, hscript]
    rfl
  · rw [(limiter_clock hrun hi).1]
  · intro _
    rw [Nat.count_succ, if_pos hreturns]

theorem stays_next (hrun : IsRun (limiter policy) st lab n) {s i c : Nat} (hi : i < n)
    (hw : WindowState policy st lab s i c) (h : ¬ Opens st lab i) :
    ∃ c', WindowState policy st lab s (i + 1) c' := by
  have hlatest : ∀ m, s < m → m < i + 1 → ¬ Opens st lab m := by
    intro m hm hm'
    rcases Nat.lt_succ_iff_lt_or_eq.mp hm' with hlt | he
    · exact hw.latest m hm hlt
    · exact he ▸ h
  obtain ⟨hclock, hle⟩ := limiter_clock hrun hi
  have hsince : (lab s).now ≤ (st (i + 1)).clock := by
    have := hw.since
    omega
  have hcell := limiter_cell hrun hi
  cases hk : (lab i).kind with
  | inspect =>
    refine ⟨c, hw.opens, by have := hw.lt; omega, hlatest, ?_, hw.pos, hw.bound, hsince, ?_⟩
    · rw [hcell, after_inspect hk, hw.cell]
    · intro hend
      rw [Nat.count_succ, if_neg (by rw [returns_inspect hk]; exact Bool.false_ne_true), Nat.add_zero]
      exact hw.count (by omega)
  | check =>
    -- the key is still there
    have hd : (lab i).now ≤ windowEnd policy lab s := by
      by_contra hlt
      refine h ⟨hk, ?_⟩
      rw [hw.cell, Cell.alive_some, if_neg hlt]
    rw [after_check hk, hw.cell] at hcell
    have hreturns := returns_check policy st hk
    rw [hw.cell] at hreturns
    by_cases hfull : c < 2 ^ 63 - 1
    · have hspan : windowEnd policy lab s ≤ (lab i).now + policy.span := by
        have := hw.since
        unfold windowEnd
        omega
      have hscript := script_open policy hw.pos hfull hd hspan
      rw [hscript] at hcell hreturns
      refine ⟨c + 1, hw.opens, by have := hw.lt; omega, hlatest, hcell, by omega, by omega, hsince,
        ?_⟩
      intro hend
      rw [hclock] at hend
      rw [if_pos hend] at hreturns
      have hprev := hw.count (by omega)
      rw [Nat.count_succ, if_pos (by rw [hreturns]; rfl)]
      omega
    · have he : c = 2 ^ 63 - 1 := by
        have := hw.bound
        omega
      have htext : Int.repr (c : Int) = Int.repr (2 ^ 63 - 1) := by
        rw [he]
        rfl
      have hscript := script_full policy hd
      rw [htext, hscript] at hcell hreturns
      refine ⟨c, hw.opens, by have := hw.lt; omega, hlatest, ?_, hw.pos, hw.bound, hsince, ?_⟩
      · rw [hcell, htext]
      · intro hend
        rw [Nat.count_succ, if_neg (by rw [hreturns]; exact Bool.false_ne_true), Nat.add_zero]
        exact hw.count (by omega)

/-- **between two calls the cell shows the last window** -/
theorem window_state (hrun : IsRun (limiter policy) st lab n) {i : Nat} (hi : i ≤ n) :
    Unopened st lab i ∨ ∃ s c, WindowState policy st lab s i c := by
  induction i with
  | zero => exact Or.inl ⟨fun m hm => absurd hm (Nat.not_lt_zero m), hrun.start⟩
  | succ i ih =>
    by_cases ho : Opens st lab i
    · exact Or.inr ⟨i, 1, opens_next hrun hi ho⟩
    · rcases ih (Nat.le_of_succ_le hi) with hu | ⟨s, c, hw⟩
      · -- a call would have found no key
        have hk : (lab i).kind = .inspect := by
          cases hk : (lab i).kind with
          | inspect => rfl
          | check =>
            refine absurd ⟨hk, ?_⟩ ho
            rw [hu.cell]
            rfl
        refine Or.inl ⟨?_, ?_⟩
        · intro m hm
          rcases Nat.lt_succ_iff_lt_or_eq.mp hm with hlt | he
          · exact hu.never m hlt
          · exact he ▸ ho
        · rw [limiter_cell hrun hi, after_inspect hk, hu.cell]
      · obtain ⟨c', hw'⟩ := stays_next hrun hi hw ho
        exact Or.inr ⟨s, c', hw'⟩

theorem window_of_latest (hrun : IsRun (limiter policy) st lab n) {s i : Nat} (hi : i ≤ n)
    (ho : Opens st lab s) (hs : s < i) (hlatest : ∀ m, s < m → m < i → ¬ Opens st lab m) :
    ∃ c, WindowState policy st lab s i c := by
  rcases window_state hrun hi with hu | ⟨s', c, hw⟩
  · exact absurd ho (hu.never s hs)
  · rcases Nat.lt_trichotomy s s' with hlt | he | hlt
    · exact absurd hw.opens (hlatest s' hlt hw.lt)
    · exact ⟨c, he ▸ hw⟩
    · exact absurd ho (hw.latest s hlt hs)

/-! ## the calls of a window -/

/-- the `k`-th call of the window that `s` opened -/
structure Charged (policy : RateLimitPolicy) (st : Nat → Limiter) (lab : Nat → Attempt)
    (s j k : Nat) : Prop where
  opens : Opens st lab s
  le : s ≤ j
  latest : ∀ m, s < m → m ≤ j → ¬ Opens st lab m
  since : (lab s).now ≤ (lab j).now
  before : (lab j).now < windowEnd policy lab s
  pos : 1 ≤ k
  count : Nat.count (fun i => returns policy st lab i = true) (j + 1) =
    Nat.count (fun i => returns policy st lab i = true) s + k
  answer : (checkRateLimit policy (lab j).now (st j).cell).1 =
    .ok (policy.answer k (windowEnd policy lab s - (lab j).now))

theorem check_answer {now k ttl : Nat} {c c' : Cell String} (hk : 1 ≤ k) (ht : 0 < ttl)
    (ht' : ttl ≤ policy.span)
    (h : fixedWindowScript policy.limit policy.windowSeconds now c =
      (.ok ((double k : Nat), (ttl : Nat)), c')) :
    checkRateLimit policy now c = (.ok (policy.answer k ttl), c') := by
  unfold checkRateLimit
  rw [h]
  exact Prod.ext (parseResult_answer policy hk ht ht') rfl

theorem check_error {now : Nat} {c c' : Cell String} {e : String}
    (h : fixedWindowScript policy.limit policy.windowSeconds now c = (.error e, c')) :
    (checkRateLimit policy now c).1 = .error (.unavailable "rate-limit store is unavailable") := by
  unfold checkRateLimit
  rw [h]
  rfl

theorem charged_opens {j : Nat} (ho : Opens st lab j) : Charged policy st lab j j 1 := by
  have hscript := script_missing policy ho.2
  have hpos := policy.span_pos
  refine ⟨ho, Nat.le_refl j, fun m hm hm' => absurd hm' (by omega), Nat.le_refl _,
    by unfold windowEnd; omega, Nat.le_refl 1, ?_, ?_⟩
  · rw [Nat.count_succ, if_pos (by rw [returns_check policy st ho.1, hscript]; rfl)]
  · have hone : (1 : Int) = (double 1 : Nat) := by rw [double_eq_self (by omega)]; rfl
    have hleft : windowEnd policy lab j - (lab j).now = policy.span := by
      unfold windowEnd
      omega
    rw [hone] at hscript
    rw [check_answer (Nat.le_refl 1) hpos (Nat.le_refl _) hscript, hleft]

theorem charged_open {s j c : Nat} (hw : WindowState policy st lab s j c)
    (hk : (lab j).kind = .check) (hclock : (st j).clock ≤ (lab j).now)
    (hend : (lab j).now < windowEnd policy lab s) (hfull : c < 2 ^ 63 - 1) :
    Charged policy st lab s j (c + 1) := by
  have hsince : (lab s).now ≤ (lab j).now := Nat.le_trans hw.since hclock
  have hspan : windowEnd policy lab s ≤ (lab j).now + policy.span := by
    unfold windowEnd
    omega
  have hscript := script_open policy hw.pos hfull (Nat.le_of_lt hend) hspan
  rw [if_pos hend, ← hw.cell] at hscript
  have hnot : ¬ Opens st lab j := by
    intro ho
    have halive := ho.2
    rw [hw.cell, Cell.alive_some, if_pos (Nat.le_of_lt hend)] at halive
    cases halive
  have hcount := hw.count (by omega)
  refine ⟨hw.opens, Nat.le_of_lt hw.lt, ?_, hsince, hend, by omega, ?_, ?_⟩
  · intro m hm hm'
    rcases Nat.lt_or_eq_of_le hm' with hlt | he
    · exact hw.latest m hm hlt
    · exact he ▸ hnot
  · rw [Nat.count_succ, if_pos (by rw [returns_check policy st hk, hscript]; rfl)]
    omega
  · rw [check_answer (by omega) (by omega) (by omega) hscript]

theorem cell_cases (hrun : IsRun (limiter policy) st lab n) {i : Nat} (hi : i < n) :
    (st i).cell.alive (lab i).now = none ∨
      ∃ s c, WindowState policy st lab s i c ∧ (lab i).now ≤ windowEnd policy lab s := by
  rcases window_state hrun (Nat.le_of_lt hi) with hu | ⟨s, c, hw⟩
  · rw [hu.cell]
    exact Or.inl rfl
  · by_cases hd : (lab i).now ≤ windowEnd policy lab s
    · exact Or.inr ⟨s, c, hw, hd⟩
    · rw [hw.cell, Cell.alive_some, if_neg hd]
      exact Or.inl rfl

theorem script_refused {s i c : Nat} (hw : WindowState policy st lab s i c)
    (hclock : (st i).clock ≤ (lab i).now) (hd : (lab i).now ≤ windowEnd policy lab s)
    (h : c = 2 ^ 63 - 1 ∨ (lab i).now = windowEnd policy lab s) :
    ∃ e c', fixedWindowScript policy.limit policy.windowSeconds (lab i).now (st i).cell =
      (.error e, c') := by
  by_cases hfull : c = 2 ^ 63 - 1
  · have htext : Int.repr (c : Int) = Int.repr (2 ^ 63 - 1) := by
      rw [hfull]
      rfl
    rw [hw.cell, htext]
    exact ⟨_, _, script_full policy hd⟩
  · have hend : (lab i).now = windowEnd policy lab s := h.resolve_left hfull
    have hbound := hw.bound
    have hscript := script_open policy hw.pos (by omega) hd (by omega)
    rw [if_neg (by omega), ← hw.cell] at hscript
    exact ⟨_, _, hscript⟩

/-- a call that the script answers is one of a window -/
theorem charged_of_returns (hrun : IsRun (limiter policy) st lab n) {j : Nat} (hj : j < n)
    (h : returns policy st lab j = true) : ∃ s k, Charged policy st lab s j k := by
  have hk : (lab j).kind = .check := by
    unfold returns at h
    rw [Bool.and_eq_true, decide_eq_true_eq] at h
    exact h.1
  obtain ⟨-, hclock⟩ := limiter_clock hrun hj
  rcases cell_cases hrun hj with hnone | ⟨s, c, hw, hd⟩
  · exact ⟨j, 1, charged_opens ⟨hk, hnone⟩⟩
  · by_cases hbad : c = 2 ^ 63 - 1 ∨ (lab j).now = windowEnd policy lab s
    · obtain ⟨e, c', hscript⟩ := script_refused hw hclock hd hbad
      rw [returns_check policy st hk, hscript] at h
      cases h
    · obtain ⟨hfull, hend⟩ := not_or.mp hbad
      have hbound := hw.bound
      exact ⟨s, c + 1, charged_open hw hk hclock (by omega) (by omega)⟩

theorem returns_of_ok {j : Nat} {r : RateLimitResult} (hk : (lab j).kind = .check)
    (h : (checkRateLimit policy (lab j).now (st j).cell).1 = .ok r) :
    returns policy st lab j = true := by
  rw [returns_check policy st hk]
  unfold checkRateLimit at h
  dsimp only at h
  cases hs : (fixedWindowScript policy.limit policy.windowSeconds (lab j).now (st j).cell).1 with
  | ok raw => rfl
  | error e =>
    rw [hs] at h
    cases h

/-- **a run is divided into windows**, and each call is answered by its place in its window -/
theorem fixed_window (hrun : IsRun (limiter policy) st lab n) :
    (∀ j, j < n → returns policy st lab j = true → ∃ s k, Charged policy st lab s j k) ∧
    (∀ s i, Opens st lab s → s < i → i ≤ n → (∀ m, s < m → m < i → ¬ Opens st lab m) →
      ∃ value, (st i).cell = some ⟨value, some (windowEnd policy lab s)⟩) ∧
    (∀ s s', Opens st lab s → Opens st lab s' → s < s' → s' < n →
      windowEnd policy lab s < (lab s').now) ∧
    (∀ j j' r seconds, (lab j).kind = .check → (lab j').kind = .check → j < j' → j' < n →
      (∀ m, j < m → m < j' → (lab m).kind = .inspect) →
      (checkRateLimit policy (lab j).now (st j).cell).1 = .ok r → r.allowed = false →
      ("Retry-After", Nat.repr seconds) ∈ rateLimitHeaders r true →
      (lab j).now + seconds * 1000 < (lab j').now →
      ∃ r', (checkRateLimit policy (lab j').now (st j').cell).1 = .ok r' ∧ r'.allowed = true) := by
  refine ⟨fun j => charged_of_returns hrun, ?_, ?_, ?_⟩
  · intro s i ho hs hi hlatest
    obtain ⟨c, hw⟩ := window_of_latest hrun hi ho hs hlatest
    exact ⟨_, hw.cell⟩
  · intro s s' ho ho' hs hs'
    rcases window_state hrun (Nat.le_of_lt hs') with hu | ⟨t, c, hw⟩
    · exact absurd ho (hu.never s hs)
    · -- the window before `s'` is that of `s` or a later one
      have hle : s ≤ t := by
        by_contra hlt
        exact hw.latest s (by omega) hs ho
      have htime := times_mono hrun hle (Nat.lt_trans hw.lt hs')
      have hgone := ho'.2
      rw [hw.cell, Cell.alive_some] at hgone
      split at hgone
      · cases hgone
      · unfold windowEnd at *
        omega
  · intro j j' r seconds hk hk' hlt hj' hbetween hr hdenied hheader hlate
    obtain ⟨s, k, hc⟩ := charged_of_returns hrun (Nat.lt_trans hlt hj') (returns_of_ok hk hr)
    have he : r = policy.answer k (windowEnd policy lab s - (lab j).now) :=
      Except.ok.inj (hr.symm.trans hc.answer)
    have hexceeds : ¬ k ≤ policy.limit := by
      rw [he] at hdenied
      exact of_decide_eq_false hdenied
    have hretry : r.retryAfterMs = windowEnd policy lab s - (lab j).now := by
      rw [he]
      exact if_neg hexceeds
    have hseconds := retryAfter_header hheader
    have hceil := le_headerSeconds r.retryAfterMs
    have hlatest : ∀ m, s < m → m < j' → ¬ Opens st lab m := by
      intro m hm hm' ho
      by_cases hmj : m ≤ j
      · exact hc.latest m hm hmj ho
      · have hkind := hbetween m (by omega) hm'
        rw [ho.1] at hkind
        cases hkind
    have hsj' : s < j' := by
      have := hc.le
      omega
    obtain ⟨c, hw⟩ := window_of_latest hrun (Nat.le_of_lt hj') hc.opens hsj' hlatest
    have hgone : (st j').cell.alive (lab j').now = none := by
      rw [hw.cell, Cell.alive_some, if_neg]
      rw [← hseconds, hretry] at hceil
      omega
    refine ⟨_, (charged_opens ⟨hk', hgone⟩).answer, ?_⟩
    exact decide_eq_true policy.limit_ok.1

/-- a policy of two calls in a second -/
def samplePolicy : RateLimitPolicy where
  name := "login"
  limit := 2
  windowSeconds := 1
  name_ok := by decide +kernel
  limit_ok := by decide
  window_ok := by decide

/-- what calls at the given times leave -/
def attempts (policy : RateLimitPolicy) (calls : Nat → Attempt) : Nat → Limiter
  | 0 => ⟨0, none⟩
  | i + 1 => ⟨(calls i).now, (calls i).after policy (attempts policy calls i).cell⟩

theorem isRun_attempts (policy : RateLimitPolicy) {calls : Nat → Attempt} {n : Nat}
    (h : ∀ i, i < n → (attempts policy calls i).clock ≤ (calls i).now) :
    IsRun (limiter policy) (attempts policy calls) calls n :=
  ⟨rfl, fun i hi => ⟨h i hi, rfl⟩⟩

/-- a call every 400 ms -/
def steady (i : Nat) : Attempt := ⟨400 * i, .check⟩

theorem fixed_window_steady :
    ∃ s k, Charged samplePolicy (attempts samplePolicy steady) steady s 2 k := by
  have hrun : IsRun (limiter samplePolicy) (attempts samplePolicy steady) steady 3 :=
    isRun_attempts samplePolicy fun i hi => by
      cases i with
      | zero => exact Nat.zero_le _
      | succ i =>
        show 400 * i ≤ 400 * (i + 1)
        omega
  exact (fixed_window hrun).1 2 (by omega) (by decide +kernel)

/-! ## calls that are answered at all -/

theorem parseInspection_answer {k ttl : Nat} (hk : 1 ≤ k) (ht : 0 < ttl) (ht' : ttl ≤ policy.span) :
    ∃ r, parseInspection policy ((double k : Nat), (ttl : Nat)) = .ok r := by
  have hpos : ¬ ((double k : Nat) : Int) < 1 := by
    have := double_pos hk
    omega
  unfold RateLimitPolicy.span at ht'
  unfold parseInspection
  dsimp only
  rw [if_neg (by omega), if_neg (by omega)]
  exact ⟨_, rfl⟩

theorem reply_missing {a : Attempt} {c : Cell String} (h : c.alive a.now = none) :
    ∃ r, a.reply policy other c = .ok r := by
  unfold Attempt.reply
  cases hk : a.kind with
  | check =>
    have hscript := script_missing policy h
    have hone : (1 : Int) = (double 1 : Nat) := by rw [double_eq_self (by omega)]; rfl
    rw [hone] at hscript
    dsimp only
    rw [check_answer (Nat.le_refl 1) policy.span_pos (Nat.le_refl _) hscript]
    exact ⟨_, rfl⟩
  | inspect =>
    dsimp only
    unfold inspectRateLimit
    rw [inspect_missing h]
    exact ⟨_, rfl⟩

theorem reply_open {s i c : Nat} (hw : WindowState policy st lab s i c)
    (hclock : (st i).clock ≤ (lab i).now) (hend : (lab i).now < windowEnd policy lab s)
    (hfull : (lab i).kind = .check → c < 2 ^ 63 - 1) :
    ∃ r, (lab i).reply policy other (st i).cell = .ok r := by
  have hsince : (lab s).now ≤ (lab i).now := Nat.le_trans hw.since hclock
  have hspan : windowEnd policy lab s ≤ (lab i).now + policy.span := by
    unfold windowEnd
    omega
  cases hk : (lab i).kind with
  | check =>
    have hanswer := (charged_open hw hk hclock hend (hfull hk)).answer
    unfold Attempt.reply
    rw [hk]
    exact ⟨_, hanswer⟩
  | inspect =>
    have hscript := inspect_open policy other hw.pos hw.bound
      (Nat.le_of_lt hend) hspan
    rw [if_pos hend, ← hw.cell] at hscript
    unfold Attempt.reply
    rw [hk]
    dsimp only
    unfold inspectRateLimit
    rw [hscript]
    exact parseInspection_answer hw.pos (by omega) (by omega)

theorem reply_end (other : String → Option Int) {s i c : Nat} (hw : WindowState policy st lab s i c)
    (hclock : (st i).clock ≤ (lab i).now) (hend : (lab i).now = windowEnd policy lab s) :
    ∃ e, (lab i).reply policy other (st i).cell = .error e := by
  have hd : (lab i).now ≤ windowEnd policy lab s := Nat.le_of_eq hend
  cases hk : (lab i).kind with
  | check =>
    obtain ⟨e, c', hscript⟩ := script_refused hw hclock hd (Or.inr hend)
    unfold Attempt.reply
    rw [hk]
    exact ⟨_, check_error hscript⟩
  | inspect =>
    have hscript := inspect_open policy other hw.pos hw.bound hd (by omega)
    rw [if_neg (by omega), ← hw.cell] at hscript
    unfold Attempt.reply
    rw [hk]
    dsimp only
    unfold inspectRateLimit
    rw [hscript]
    exact ⟨_, rfl⟩

/-- an attempt that comes in the millisecond of the deadline, or a call that would make the counter
overflow -/
def Undecided (a : Attempt) (c : Cell String) : Prop :=
  c.pttl a.now = 0 ∨ (a.kind = .check ∧ c.get a.now = some (Int.repr (2 ^ 63 - 1)))

theorem repr_eq_full {c : Nat} (h : Int.repr (c : Int) = Int.repr (2 ^ 63 - 1)) :
    c = 2 ^ 63 - 1 := by
  have hread := congrArg Cell.integer? h
  rw [Cell.integer?_repr, Cell.integer?_repr] at hread
  have := Option.some.inj hread
  omega

/-- **exactly the undecided attempts fail** -/
theorem healthy_limiter (other : String → Option Int) (hrun : IsRun (limiter policy) st lab n)
    {i : Nat} (hi : i < n) :
    (∃ r, (lab i).reply policy other (st i).cell = .ok r) ↔ ¬ Undecided (lab i) (st i).cell := by
  obtain ⟨-, hclock⟩ := limiter_clock hrun hi
  unfold Undecided
  rcases cell_cases hrun hi with hnone | ⟨s, c, hw, hd⟩
  · refine iff_of_true (reply_missing hnone) ?_
    rintro (h | ⟨-, h⟩)
    · rw [Cell.pttl, hnone] at h
      cases h
    · rw [Cell.get, hnone] at h
      cases h
  · have hpttl : (st i).cell.pttl (lab i).now = windowEnd policy lab s - (lab i).now := by
      rw [hw.cell, Cell.pttl_of_alive _ hd]
    have hget : (st i).cell.get (lab i).now = some (Int.repr c) := by
      rw [Cell.get, hw.cell, Cell.alive_some, if_pos hd]
      rfl
    rw [hpttl, hget]
    rcases Nat.lt_or_eq_of_le hd with hend | hend
    · by_cases hfull : (lab i).kind = .check ∧ c = 2 ^ 63 - 1
      · obtain ⟨hk, hc⟩ := hfull
        refine iff_of_false ?_ (not_not.mpr (Or.inr ⟨hk, ?_⟩))
        · rintro ⟨r, hr⟩
          obtain ⟨e, c', hscript⟩ := script_refused hw hclock hd (Or.inl hc)
          unfold Attempt.reply at hr
          rw [hk] at hr
          rw [check_error hscript] at hr
          cases hr
        · rw [hc]
          rfl
      · refine iff_of_true ?_ ?_
        · refine reply_open hw hclock hend fun hk => ?_
          have := hw.bound
          by_contra hc
          exact hfull ⟨hk, by omega⟩
        · rintro (h | ⟨hk, h⟩)
          · omega
          · exact hfull ⟨hk, repr_eq_full (Option.some.inj h)⟩
    · refine iff_of_false ?_ (not_not.mpr (Or.inl (by omega)))
      rintro ⟨r, hr⟩
      obtain ⟨e, he⟩ := reply_end other hw hclock hend
      rw [he] at hr
      cases hr

theorem healthy_limiter_steady :
    ∃ r, (steady 2).reply samplePolicy (fun _ => none) (attempts samplePolicy steady 2).cell =
      .ok r := by
  have hrun : IsRun (limiter samplePolicy) (attempts samplePolicy steady) steady 3 :=
    isRun_attempts samplePolicy fun i hi => by
      cases i with
      | zero => exact Nat.zero_le _
      | succ i =>
        show 400 * i ≤ 400 * (i + 1)
        omega
  refine (healthy_limiter (fun _ => none) hrun (show 2 < 3 by omega)).mpr ?_
  rintro (h | ⟨-, h⟩)
  · exact absurd h (by decide +kernel)
  · exact absurd h (by decide +kernel)

/-- a call that opens a window, and an attempt when it ends -/
def punctual (kind : AttemptKind) : Nat → Attempt
  | 0 => ⟨0, .check⟩
  | _ => ⟨1000, kind⟩

/-- at the deadline itself neither a call nor an inspection is answered -/
theorem punctual_refused (kind : AttemptKind) :
    (punctual kind 1).reply samplePolicy (fun _ => none)
      (attempts samplePolicy (punctual kind) 1).cell =
        .error (.unavailable "rate-limit store is unavailable") := by
  cases kind <;> decide +kernel

theorem healthy_limiter_fails :
    ∃ (policy : RateLimitPolicy) (other : String → Option Int) (st : Nat → Limiter)
      (lab : Nat → Attempt), IsRun (limiter policy) st lab 2 ∧
      ¬ ∃ r, (lab 1).reply policy other (st 1).cell = .ok r := by
  refine ⟨samplePolicy, fun _ => none, attempts samplePolicy (punctual .check), punctual .check,
    isRun_attempts samplePolicy fun i hi => ?_, ?_⟩
  · cases i with
    | zero => exact Nat.zero_le _
    | succ i =>
      have h0 : i = 0 := by omega
      rw [h0]
      exact Nat.zero_le _
  · rintro ⟨r, hr⟩
    rw [punctual_refused] at hr
    cases hr

end

end PgRbac
