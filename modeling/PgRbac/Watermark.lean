import PgRbac.Sessions
import PgRbac.Lib.Run

/-!
# Deadlines and the version watermark

The three keys of a user agree on their sessions and share one deadline, which no script lowers;
the version outlives its sessions until that deadline, and refuses every older one meanwhile.

* `Synced`          a session is under all three keys or under none;
* `Held`            the records key exists, with its version and the common deadline;
* `eval_held`       what a script does to a version and a deadline;
* `registry`        the runs of one user's scripts;
* `watermark`       deadlines cover their sessions, and older versions are refused.
-/

set_option linter.unusedSectionVars false

namespace PgRbac

open Redis Trace

variable {F : Type} [LinearOrder F]

/-! ## removing sessions -/

section
variable (k : SessionKeys F) (f : F)

@[simp] theorem version_removeSession :
    (removeSession k f).records.lookup .version = k.records.lookup .version := by
  rw [removeSession, Slot.lookup_erase, if_neg]
  exact fun h => by cases h

theorem record_removeSession (g : F) : (removeSession k f).records.lookup (.jti g) =
    if g = f then none else k.records.lookup (.jti g) := by
  rw [removeSession, Slot.lookup_erase]
  by_cases h : g = f
  · rw [if_pos h, if_pos (congrArg Field.jti h)]
  · rw [if_neg h, if_neg (fun e => h (Field.jti.inj e))]

theorem order_removeSession (g : F) :
    (removeSession k f).order.lookup g = if g = f then none else k.order.lookup g :=
  Slot.lookup_erase _ _ _

theorem expiry_removeSession (g : F) :
    (removeSession k f).expires.lookup g = if g = f then none else k.expires.lookup g :=
  Slot.lookup_erase _ _ _

theorem removeSessions_append (xs ys : List F) :
    removeSessions k (xs ++ ys) = removeSessions (removeSessions k xs) ys := List.foldl_append

@[simp] theorem version_removeSessions (fs : List F) :
    (removeSessions k fs).records.lookup .version = k.records.lookup .version := by
  induction fs generalizing k with
  | nil => rfl
  | cons f fs ih =>
    show (removeSessions (removeSession k f) fs).records.lookup .version = _
    rw [ih, version_removeSession]

theorem expiry_removeSessions (fs : List F) (g : F) : (removeSessions k fs).expires.lookup g =
    if g ∈ fs then none else k.expires.lookup g := by
  induction fs generalizing k with
  | nil => simp [removeSessions]
  | cons f fs ih =>
    show (removeSessions (removeSession k f) fs).expires.lookup g = _
    rw [ih, expiry_removeSession]
    by_cases hf : g = f <;> by_cases hfs : g ∈ fs <;> simp [hf, hfs]

theorem record_removeSessions (fs : List F) (g : F) :
    (removeSessions k fs).records.lookup (.jti g) =
      if g ∈ fs then none else k.records.lookup (.jti g) := by
  induction fs generalizing k with
  | nil => simp [removeSessions]
  | cons f fs ih =>
    show (removeSessions (removeSession k f) fs).records.lookup (.jti g) = _
    rw [ih, record_removeSession]
    by_cases hf : g = f <;> by_cases hfs : g ∈ fs <;> simp [hf, hfs]

theorem evictOldest_eq (maximum rounds : Nat) :
    ∃ fs, evictOldest maximum rounds k = removeSessions k fs := by
  induction rounds generalizing k with
  | zero => exact ⟨[], rfl⟩
  | succ rounds ih =>
    rw [evictOldest]
    by_cases hc : maximum < k.order.card
    · rw [if_pos hc]
      cases he : k.order.elements with
      | nil => exact ⟨[], rfl⟩
      | cons oldest rest =>
        obtain ⟨fs, hfs⟩ := ih (removeSession k oldest.1)
        exact ⟨oldest.1 :: fs, hfs⟩
    · rw [if_neg hc]
      exact ⟨[], rfl⟩

theorem listFields_eq (decode : String → Option DecodedRecord) (version : String) (now : Nat)
    (fields : List F) (result : List Int) :
    ∃ fs, (listFields decode version now fields result k).2 = removeSessions k fs := by
  induction fields generalizing result k with
  | nil => exact ⟨[], rfl⟩
  | cons field fields ih =>
    rw [listFields]
    cases k.records.lookup (.jti field) with
    | none =>
      obtain ⟨fs, hfs⟩ := ih (removeSession k field) result
      exact ⟨field :: fs, hfs⟩
    | some raw =>
      dsimp only
      cases listed? decode version now (k.expires.lookup field) raw with
      | none => exact ⟨[], rfl⟩
      | some iat => exact ih k (result ++ [iat])

end

theorem compareAndDelete_eq (field : F) (record : String) (clock : Nat) (k : SessionKeys F) :
    ∃ fs, (compareAndDelete field record clock k).2 = removeSessions k fs := by
  unfold compareAndDelete
  cases k.expires.lookup field with
  | none => exact ⟨[field], rfl⟩
  | some expiry =>
    by_cases he : expiry ≤ clock / 1000000
    · simp only [if_pos he]
      exact ⟨[field], rfl⟩
    · simp only [if_neg he]
      cases k.records.lookup (.jti field) with
      | none => exact ⟨[], rfl⟩
      | some current =>
        by_cases hc : current ≠ record
        · simp only [if_pos hc]
          exact ⟨[], rfl⟩
        · simp only [if_neg hc]
          exact ⟨[field], rfl⟩

theorem readActiveJti_eq (decode : String → Option DecodedRecord) (field : F) (clock : Nat)
    (k : SessionKeys F) : ∃ fs, (readActiveJti decode field clock k).2 = removeSessions k fs := by
  unfold readActiveJti
  cases k.expires.lookup field with
  | none => exact ⟨[field], rfl⟩
  | some expiry =>
    by_cases he : expiry ≤ clock / 1000000
    · simp only [if_pos he]
      exact ⟨[field], rfl⟩
    · simp only [if_neg he]
      cases k.records.lookup (.jti field) with
      | none => exact ⟨[], rfl⟩
      | some value => exact ⟨[], rfl⟩

theorem listUserSessions_eq (decode : String → Option DecodedRecord) (version : String)
    (clock : Nat) (k : SessionKeys F) :
    ∃ fs, (listUserSessions decode version clock k).2 = removeSessions k fs := by
  unfold listUserSessions
  by_cases hv : k.records.lookup .version ≠ some version
  · rw [if_pos hv]
    exact ⟨[], rfl⟩
  · rw [if_neg hv]
    obtain ⟨fs, hfs⟩ := listFields_eq (pruneExpired k (clock / 1000000)) decode version
      (clock / 1000000) ((pruneExpired k (clock / 1000000)).order.elements.map Prod.fst) []
    refine ⟨k.expires.upTo (clock / 1000000) ++ fs, ?_⟩
    rw [removeSessions_append]
    exact hfs

/-! ## the keys agree -/

structure Synced (k : SessionKeys F) : Prop where
  records : ∀ f, k.records.lookup (.jti f) = none ↔ k.order.lookup f = none
  expires : ∀ f, k.expires.lookup f = none ↔ k.order.lookup f = none

namespace Synced
variable {k : SessionKeys F}

theorem of_missing : Synced (SessionKeys.missing : SessionKeys F) :=
  ⟨fun _ => ⟨fun _ => rfl, fun _ => rfl⟩, fun _ => Iff.rfl⟩

theorem removeSession (h : Synced k) (f : F) : Synced (removeSession k f) := by
  refine ⟨fun g => ?_, fun g => ?_⟩
  · rw [record_removeSession, order_removeSession]
    by_cases hg : g = f
    · rw [if_pos hg, if_pos hg]
      exact Iff.intro (fun _ => rfl) (fun _ => rfl)
    · rw [if_neg hg, if_neg hg]
      exact h.records g
  · rw [expiry_removeSession, order_removeSession]
    by_cases hg : g = f
    · rw [if_pos hg, if_pos hg]
    · rw [if_neg hg, if_neg hg]
      exact h.expires g

theorem removeSessions (h : Synced k) (fs : List F) : Synced (removeSessions k fs) := by
  induction fs generalizing k with
  | nil => exact h
  | cons f fs ih => exact ih (h.removeSession f)

theorem store (h : Synced k) (f : F) (record version : String) (score expiry : Nat) :
    Synced ⟨(k.records.hset (.jti f) record).hset .version version, k.order.zadd f score,
      k.expires.zadd f expiry⟩ := by
  refine ⟨fun g => ?_, fun g => ?_⟩
  · show ((k.records.hset (.jti f) record).hset .version version).lookup (.jti g) = none ↔
      (k.order.zadd f score).lookup g = none
    rw [Slot.lookup_hset, if_neg (fun e => by cases e), Slot.lookup_hset, Slot.lookup_zadd]
    by_cases hg : g = f
    · rw [if_pos hg, if_pos (congrArg Field.jti hg)]
      simp
    · rw [if_neg hg, if_neg (fun e => hg (Field.jti.inj e))]
      exact h.records g
  · show (k.expires.zadd f expiry).lookup g = none ↔ (k.order.zadd f score).lookup g = none
    rw [Slot.lookup_zadd, Slot.lookup_zadd]
    by_cases hg : g = f
    · rw [if_pos hg, if_pos hg]
      simp
    · rw [if_neg hg, if_neg hg]
      exact h.expires g

theorem pexpireat (h : Synced k) {now deadline : Nat} (hd : now < deadline) :
    Synced (k.pexpireat now deadline) := by
  refine ⟨fun g => ?_, fun g => ?_⟩
  · show (k.records.pexpireat now deadline).lookup _ = none ↔
      (k.order.pexpireat now deadline).lookup g = none
    rw [Slot.lookup_pexpireat _ hd, Slot.lookup_pexpireat _ hd]
    exact h.records g
  · show (k.expires.pexpireat now deadline).lookup _ = none ↔
      (k.order.pexpireat now deadline).lookup g = none
    rw [Slot.lookup_pexpireat _ hd, Slot.lookup_pexpireat _ hd]
    exact h.expires g

end Synced

/-- every session that is registered ends by `d` milliseconds -/
def Within (k : SessionKeys F) (d : Nat) : Prop := ∀ f e, k.expires.lookup f = some e → e * 1000 ≤ d

theorem Within.removeSessions {k : SessionKeys F} {d : Nat} (h : Within k d) (fs : List F) :
    Within (removeSessions k fs) d := by
  intro f e he
  rw [expiry_removeSessions] at he
  by_cases hf : f ∈ fs
  · rw [if_pos hf] at he
    cases he
  · rw [if_neg hf] at he
    exact h f e he

section
variable {k : SessionKeys F} {d : Nat} (hr : k.records.Until d) (ho : k.order.Until d)
  (he : k.expires.Until d)
include hr ho he

theorem alive_of_until (now : Nat) : k.alive now = if d < now then SessionKeys.missing else k := by
  rw [SessionKeys.alive, hr.alive, ho.alive, he.alive]
  by_cases hd : d < now
  · rw [if_pos hd, if_pos hd, if_pos hd, if_pos hd]
    rfl
  · rw [if_neg hd, if_neg hd, if_neg hd, if_neg hd]

theorem until_removeSessions (fs : List F) : (removeSessions k fs).records.Until d ∧
    (removeSessions k fs).order.Until d ∧ (removeSessions k fs).expires.Until d := by
  induction fs generalizing k with
  | nil => exact ⟨hr, ho, he⟩
  | cons f fs ih => exact ih (hr.erase _) (ho.erase _) (he.erase _)

end

/-- `PEXPIREAT` takes the deadline as it is -/
def Expirable (argument : Nat → String) (d : Nat) : Prop :=
  double d = d ∧ expireArgument argument d = some d

/-- integers that doubles tell apart are written in digits -/
def WritesIntegers (argument : Nat → String) : Prop :=
  ∀ n < 2 ^ 53, decimal? (argument n) = some n

theorem WritesIntegers.expirable {argument : Nat → String} (h : WritesIntegers argument) {d : Nat}
    (hd : d < 2 ^ 53) : Expirable argument d := by
  refine ⟨double_eq_self hd, ?_⟩
  have hrange : d < 2 ^ 63 := by omega
  rw [expireArgument, h d hd, Option.filter_some, if_pos (decide_eq_true hrange)]

theorem writesIntegers_repr : WritesIntegers Nat.repr := fun n _ => decimal?_repr n

/-- the records key exists, with version `v` and deadline `d`; the other two share the deadline -/
structure Held (argument : Nat → String) (k : SessionKeys F) (v d : Nat) : Prop where
  synced : Synced k
  version : k.records.lookup .version = some (Nat.repr v)
  exact : double v = v
  accepted : Expirable argument d
  records_until : k.records.Until d
  order_until : k.order.Until d
  expires_until : k.expires.Until d
  within : Within k d

namespace Held
variable {argument : Nat → String} {k : SessionKeys F} {v d : Nat}

theorem records_deadline (h : Held argument k v d) : k.records.deadline = some d :=
  h.records_until.deadline_of_lookup (by rw [h.version]; exact Option.some_ne_none _)

theorem removeSession (h : Held argument k v d) (f : F) :
    Held argument (removeSession k f) v d where
  synced := h.synced.removeSession f
  version := by rw [version_removeSession, h.version]
  exact := h.exact
  accepted := h.accepted
  records_until := h.records_until.erase _
  order_until := h.order_until.erase _
  expires_until := h.expires_until.erase _
  within := h.within.removeSessions [f]

theorem removeSessions (h : Held argument k v d) (fs : List F) :
    Held argument (removeSessions k fs) v d := by
  induction fs generalizing k with
  | nil => exact h
  | cons f fs ih => exact ih (h.removeSession f)

theorem alive (h : Held argument k v d) (now : Nat) :
    k.alive now = if d < now then SessionKeys.missing else k :=
  alive_of_until h.records_until h.order_until h.expires_until now

end Held

@[simp] theorem alive_missing (now : Nat) :
    (SessionKeys.missing : SessionKeys F).alive now = SessionKeys.missing := rfl

/-! ## activation -/

/-- the numbers of the call are doubles, and `PEXPIREAT` takes the thousandfold expiry -/
structure Activation.Exact (argument : Nat → String) (a : Activation F) : Prop where
  version : double a.version = a.version
  expiresAt : double a.expiresAt.toNat = a.expiresAt.toNat
  deadline : Expirable argument (a.expiresAt.toNat * 1000)

/-- refused for its own arguments -/
def Activation.Rejected (a : Activation F) (now : Nat) : Prop :=
  tonumber a.maximum < 1 ∨ tonumber a.expiresAt ≤ now

instance (a : Activation F) (now : Nat) : Decidable (a.Rejected now) :=
  inferInstanceAs (Decidable (_ ∨ _))

theorem Expirable.max {argument : Nat → String} {d e : Nat} (hd : Expirable argument d)
    (he : Expirable argument e) : Expirable argument (Nat.max d e) := by
  by_cases hle : d ≤ e
  · rw [show Nat.max d e = e from Nat.max_eq_right hle]
    exact he
  · rw [show Nat.max d e = d from Nat.max_eq_left (Nat.le_of_not_le hle)]
    exact hd

theorem chosenDeadline_eq {argument : Nat → String} {a : Activation F} (ha : a.Exact argument)
    {k : SessionKeys F} (hk : ∀ d, k.records.deadline = some d → double d = d) :
    chosenDeadline a k = max (k.records.deadline.getD 0) (a.expiresAt.toNat * 1000) := by
  have hprevious : luaInteger k.records.pexpiretime = k.records.pexpiretime := by
    unfold luaInteger
    split
    · rfl
    · rename_i hneg
      cases hr : k.records with
      | missing =>
        rw [hr] at hneg
        exact absurd (show (-2 : Int) < 0 by omega) hneg
      | present key =>
        cases hd : key.deadline with
        | none =>
          rw [hr, Slot.pexpiretime, hd] at hneg
          exact absurd (show (-1 : Int) < 0 by omega) hneg
        | some d =>
          have hexact := hk d (by rw [hr]; exact hd)
          simp only [Slot.pexpiretime, hd, Int.toNat_natCast, hexact]
  unfold chosenDeadline
  rw [hprevious, show tonumber a.expiresAt = a.expiresAt.toNat from ha.expiresAt, ha.deadline.1]
  exact Slot.later_deadline _ _

theorem held_store {argument : Nat → String} {k : SessionKeys F} {a : Activation F} {clock d : Nat}
    (ha : a.Exact argument) (hacc : Expirable argument (max d (a.expiresAt.toNat * 1000)))
    (hk : Synced k) (hwithin : Within k d) (hlive : clock / 1000000 < a.expiresAt.toNat) :
    Held argument ((storeSession a clock k).pexpireat (clock / 1000)
      (max d (a.expiresAt.toNat * 1000))) a.version (max d (a.expiresAt.toNat * 1000)) := by
  have hnow : clock / 1000 < max d (a.expiresAt.toNat * 1000) := by omega
  unfold storeSession
  rw [show tonumber a.expiresAt = a.expiresAt.toNat from ha.expiresAt]
  have hstored : Within ⟨(k.records.hset (.jti a.field) a.record).hset .version
      (Nat.repr a.version), k.order.zadd a.field (activationScore clock k.order),
      k.expires.zadd a.field a.expiresAt.toNat⟩ (max d (a.expiresAt.toNat * 1000)) := by
    intro f e he
    have he' : (k.expires.zadd a.field a.expiresAt.toNat).lookup f = some e := he
    rw [Slot.lookup_zadd] at he'
    by_cases hf : f = a.field
    · rw [if_pos hf] at he'
      have := Option.some.inj he'
      omega
    · rw [if_neg hf] at he'
      have := hwithin f e he'
      omega
  have hsynced := hk.store a.field a.record (Nat.repr a.version) (activationScore clock k.order)
    a.expiresAt.toNat
  obtain ⟨fs, hfs⟩ := evictOldest_eq
    ⟨(k.records.hset (.jti a.field) a.record).hset .version (Nat.repr a.version),
      k.order.zadd a.field (activationScore clock k.order),
      k.expires.zadd a.field a.expiresAt.toNat⟩
    (tonumber a.maximum) (k.order.zadd a.field (activationScore clock k.order)).card
  simp only [hfs]
  refine ⟨(hsynced.removeSessions fs).pexpireat hnow, ?_, ha.version, hacc,
    .pexpireat _ _ _, .pexpireat _ _ _, .pexpireat _ _ _, ?_⟩
  · show (Slot.pexpireat _ _ _).lookup _ = _
    rw [Slot.lookup_pexpireat _ hnow, version_removeSessions, Slot.lookup_hset, if_pos rfl]
  · intro f e he
    refine hstored.removeSessions fs f e ?_
    rw [← he]
    exact (Slot.lookup_pexpireat _ hnow f).symm

/-- the keys that the new session is stored into -/
def activationBase (a : Activation F) (currentVersion : Option String) (now : Nat)
    (k : SessionKeys F) : SessionKeys F :=
  if currentVersion ≠ some (Nat.repr a.version) then SessionKeys.missing else pruneExpired k now

section
variable {argument : Nat → String} {a : Activation F} {clock : Nat} {k : SessionKeys F}

theorem registerSession_eq (ha : a.Exact argument) (currentVersion : Option String)
    (hk : ∀ d, (pruneExpired k (clock / 1000000)).records.deadline = some d → Expirable argument d) :
    registerSession argument a currentVersion clock k =
      if (pruneExpired k (clock / 1000000)).records.exists? (.jti a.field) then
        (.ok 0, pruneExpired k (clock / 1000000))
      else (.ok 1, (storeSession a clock
        (activationBase a currentVersion (clock / 1000000) k)).pexpireat (clock / 1000)
          (max ((pruneExpired k (clock / 1000000)).records.deadline.getD 0)
            (a.expiresAt.toNat * 1000))) := by
  have hacc : Expirable argument (max ((pruneExpired k (clock / 1000000)).records.deadline.getD 0)
      (a.expiresAt.toNat * 1000)) := by
    cases hd : (pruneExpired k (clock / 1000000)).records.deadline with
    | none => exact (Nat.zero_max (a.expiresAt.toNat * 1000)).symm ▸ ha.deadline
    | some d => exact (hk d hd).max ha.deadline
  unfold registerSession
  simp only [chosenDeadline_eq ha fun d hd => (hk d hd).1, hacc.2]
  by_cases hx : (pruneExpired k (clock / 1000000)).records.exists? (.jti a.field)
  · rw [if_pos hx, if_pos hx]
  · rw [if_neg hx, if_neg hx, if_neg]
    · rfl
    · by_cases hv : currentVersion ≠ some (Nat.repr a.version)
      · rw [if_pos hv]
        exact Bool.false_ne_true
      · rw [if_neg hv]
        exact hx

/-- the deadline of held keys is one that `PEXPIREAT` takes -/
theorem Held.expirable {v d : Nat} (h : Held argument k v d) (d' : Nat)
    (hd : k.records.deadline = some d') : Expirable argument d' := by
  rw [← Option.some.inj (h.records_deadline.symm.trans hd)]
  exact h.accepted

theorem registerSession_held {v d : Nat} (h : Held argument k v d) (ha : a.Exact argument)
    (hlive : clock / 1000000 < a.expiresAt.toNat) :
    (registerSession argument a (some (Nat.repr v)) clock k).1 = .ok 0 ∧
        Held argument (registerSession argument a (some (Nat.repr v)) clock k).2 v d ∨
      (registerSession argument a (some (Nat.repr v)) clock k).1 = .ok 1 ∧
        Held argument (registerSession argument a (some (Nat.repr v)) clock k).2 a.version
          (max d (a.expiresAt.toNat * 1000)) := by
  have hp : Held argument (pruneExpired k (clock / 1000000)) v d := h.removeSessions _
  rw [registerSession_eq ha _ hp.expirable, hp.records_deadline]
  by_cases hx : (pruneExpired k (clock / 1000000)).records.exists? (.jti a.field)
  · rw [if_pos hx]
    exact Or.inl ⟨rfl, hp⟩
  · rw [if_neg hx]
    refine Or.inr ⟨rfl, held_store ha (hp.accepted.max ha.deadline) ?_ ?_ hlive⟩
    · unfold activationBase
      split
      · exact Synced.of_missing
      · exact hp.synced
    · unfold activationBase
      split
      · intro f e he
        cases he
      · exact hp.within

theorem registerSession_missing (ha : a.Exact argument)
    (hlive : clock / 1000000 < a.expiresAt.toNat) :
    registerSession argument a none clock SessionKeys.missing =
        (.ok 1, (storeSession a clock SessionKeys.missing).pexpireat (clock / 1000)
          (max 0 (a.expiresAt.toNat * 1000))) ∧
      Held argument ((storeSession a clock SessionKeys.missing).pexpireat (clock / 1000)
        (max 0 (a.expiresAt.toNat * 1000))) a.version (max 0 (a.expiresAt.toNat * 1000)) := by
  have hacc : Expirable argument (max 0 (a.expiresAt.toNat * 1000)) :=
    (Nat.zero_max (a.expiresAt.toNat * 1000)).symm ▸ ha.deadline
  refine ⟨?_, held_store ha hacc Synced.of_missing (fun f e he => by cases he) hlive⟩
  rw [registerSession_eq ha none fun d hd => by cases hd]
  rfl

theorem activateJti_held {v d : Nat} (h : Held argument k v d) (ha : a.Exact argument)
    (clock : Nat) : activateJti argument a clock k =
      if a.Rejected (clock / 1000000) then (.ok (-1), k)
      else if a.version < v then (.ok (-2), k)
      else registerSession argument a (some (Nat.repr v)) clock k := by
  unfold activateJti
  simp only [h.version, decimal?_repr, h.exact, ha.version]
  by_cases hm : tonumber a.maximum < 1
  · have hr : a.Rejected (clock / 1000000) := Or.inl hm
    rw [if_pos hm, if_pos hr]
  · rw [if_neg hm]
    by_cases he : tonumber a.expiresAt ≤ clock / 1000000
    · have hr : a.Rejected (clock / 1000000) := Or.inr he
      rw [if_pos he, if_pos hr]
    · have hr : ¬ a.Rejected (clock / 1000000) := fun hr => hr.elim hm he
      rw [if_neg he, if_neg hr]

theorem activateJti_missing (argument : Nat → String) (a : Activation F) (clock : Nat) :
    activateJti argument a clock SessionKeys.missing =
      if a.Rejected (clock / 1000000) then (.ok (-1), SessionKeys.missing)
      else registerSession argument a none clock SessionKeys.missing := by
  unfold activateJti
  by_cases hm : tonumber a.maximum < 1
  · have hr : a.Rejected (clock / 1000000) := Or.inl hm
    rw [if_pos hm, if_pos hr]
  · rw [if_neg hm]
    by_cases he : tonumber a.expiresAt ≤ clock / 1000000
    · have hr : a.Rejected (clock / 1000000) := Or.inr he
      rw [if_pos he, if_pos hr]
    · have hr : ¬ a.Rejected (clock / 1000000) := fun hr => hr.elim hm he
      rw [if_neg he, if_neg hr]
      rfl

end

theorem Activation.Exact.live {argument : Nat → String} {a : Activation F} (ha : a.Exact argument)
    {now : Nat} (hr : ¬ a.Rejected now) : now < a.expiresAt.toNat := by
  have he : ¬ tonumber a.expiresAt ≤ now := fun he => hr (Or.inr he)
  rw [show tonumber a.expiresAt = a.expiresAt.toNat from ha.expiresAt] at he
  omega

/-! ## what a script does -/

def ScriptCall.Exact (argument : Nat → String) : ScriptCall F → Prop
  | .activate a => a.Exact argument
  | _ => True

/-- the script of an activation that returned 1 -/
def ScriptCall.Activates (decode : String → Option DecodedRecord) (argument : Nat → String)
    (call : ScriptCall F) (clock : Nat) (k : SessionKeys F) (a : Activation F) : Prop :=
  call = .activate a ∧ (call.eval decode argument clock k).1 = .integer 1

section
variable (decode : String → Option DecodedRecord) {argument : Nat → String} {call : ScriptCall F}
  {clock : Nat} {k : SessionKeys F}

theorem eval_removes (h : ∀ a, call ≠ .activate a) (argument : Nat → String) (clock : Nat)
    (k : SessionKeys F) :
    ∃ fs, (call.eval decode argument clock k).2 = removeSessions (k.alive (clock / 1000)) fs := by
  cases call with
  | activate a => exact absurd rfl (h a)
  | read field => exact readActiveJti_eq decode field clock _
  | revoke field record => exact compareAndDelete_eq field record clock _
  | list version => exact listUserSessions_eq decode (Nat.repr version) clock _

/-- **a script keeps version and deadline, unless it activates a session of no older version** -/
theorem eval_held {v d : Nat} (h : Held argument k v d) (hcall : call.Exact argument)
    (hd : clock / 1000 ≤ d) :
    (∀ a, ¬ call.Activates decode argument clock k a) ∧
        Held argument (call.eval decode argument clock k).2 v d ∨
      ∃ a, call.Activates decode argument clock k a ∧ v ≤ a.version ∧
        Held argument (call.eval decode argument clock k).2 a.version
          (max d (a.expiresAt.toNat * 1000)) := by
  have halive : k.alive (clock / 1000) = k := by
    rw [h.alive, if_neg (Nat.not_lt.mpr hd)]
  by_cases hact : ∀ a, call ≠ .activate a
  · obtain ⟨fs, hfs⟩ := eval_removes decode hact argument clock k
    rw [hfs, halive]
    exact Or.inl ⟨fun a ha => hact a ha.1, h.removeSessions fs⟩
  · rw [not_forall] at hact
    obtain ⟨a, hact⟩ := hact
    have hca : call = .activate a := not_not.mp hact
    subst hca
    simp only [ScriptCall.Activates, ScriptCall.eval, halive, activateJti_held h hcall, Prod.map]
    by_cases hr : a.Rejected (clock / 1000000)
    · rw [if_pos hr]
      exact Or.inl ⟨fun b hb => (by cases hb.2), h⟩
    · rw [if_neg hr]
      by_cases hv : a.version < v
      · rw [if_pos hv]
        exact Or.inl ⟨fun b hb => (by cases hb.2), h⟩
      · rw [if_neg hv]
        rcases registerSession_held h hcall (hcall.live hr) with ⟨h0, hk⟩ | ⟨h1, hk⟩
        · rw [h0]
          exact Or.inl ⟨fun b hb => (by cases hb.2), hk⟩
        · exact Or.inr ⟨a, ⟨rfl, congrArg Reply.ofExcept h1⟩, Nat.not_lt.mp hv, hk⟩

@[simp] theorem removeSessions_missing (fs : List F) :
    removeSessions SessionKeys.missing fs = SessionKeys.missing := by
  induction fs with
  | nil => rfl
  | cons f fs ih => exact ih

theorem eval_missing (hk : k.alive (clock / 1000) = SessionKeys.missing) (hcall : call.Exact argument) :
    (∀ a, ¬ call.Activates decode argument clock k a) ∧
        (call.eval decode argument clock k).2 = SessionKeys.missing ∨
      ∃ a, call.Activates decode argument clock k a ∧
        Held argument (call.eval decode argument clock k).2 a.version
          (max 0 (a.expiresAt.toNat * 1000)) := by
  by_cases hact : ∀ a, call ≠ .activate a
  · obtain ⟨fs, hfs⟩ := eval_removes decode hact argument clock k
    rw [hfs, hk, removeSessions_missing]
    exact Or.inl ⟨fun a ha => hact a ha.1, rfl⟩
  · rw [not_forall] at hact
    obtain ⟨a, hact⟩ := hact
    have hca : call = .activate a := not_not.mp hact
    subst hca
    simp only [ScriptCall.Activates, ScriptCall.eval, hk, activateJti_missing, Prod.map]
    by_cases hr : a.Rejected (clock / 1000000)
    · rw [if_pos hr]
      exact Or.inl ⟨fun b hb => (by cases hb.2), rfl⟩
    · rw [if_neg hr]
      obtain ⟨heq, hheld⟩ := registerSession_missing hcall (hcall.live hr)
      rw [heq]
      exact Or.inr ⟨a, ⟨rfl, rfl⟩, hheld⟩

theorem ScriptCall.Activates.unique {decode : String → Option DecodedRecord} {a b : Activation F}
    (ha : call.Activates decode argument clock k a) (hb : call.Activates decode argument clock k b) : a = b :=
  ScriptCall.activate.inj (ha.1.symm.trans hb.1)

end

/-! ## runs -/

/-- the scripts on one user's keys, at nondecreasing times of the clock -/
def registry (decode : String → Option DecodedRecord) (argument : Nat → String) :
    System (Nat × SessionKeys F) (Nat × ScriptCall F) where
  init s := s.2 = SessionKeys.missing
  step s l s' := s.1 ≤ l.1 ∧ s' = (l.1, (l.2.eval decode argument l.1 s.2).2)

/-- nothing is stored, or a version with a deadline -/
def Guarded (argument : Nat → String) (k : SessionKeys F) : Prop :=
  k = SessionKeys.missing ∨ ∃ v d, Held argument k v d

section
variable {argument : Nat → String}

theorem Guarded.alive {k : SessionKeys F} (h : Guarded argument k) (now : Nat) :
    k.alive now = SessionKeys.missing ∨ ∃ v d, Held argument k v d ∧ now ≤ d ∧ k.alive now = k := by
  rcases h with rfl | ⟨v, d, h⟩
  · exact Or.inl rfl
  · rw [h.alive]
    by_cases hd : d < now
    · exact Or.inl (if_pos hd)
    · exact Or.inr ⟨v, d, h, Nat.not_lt.mp hd, if_neg hd⟩

theorem Guarded.eval {decode : String → Option DecodedRecord} {k : SessionKeys F}
    (h : Guarded argument k) {call : ScriptCall F} (hcall : call.Exact argument) (clock : Nat) :
    Guarded argument (call.eval decode argument clock k).2 := by
  rcases h.alive (clock / 1000) with hk | ⟨v, d, hk, hd, -⟩
  · rcases eval_missing decode hk hcall with ⟨-, h'⟩ | ⟨a, -, h'⟩
    · exact Or.inl h'
    · exact Or.inr ⟨_, _, h'⟩
  · rcases eval_held decode hk hcall hd with ⟨-, h'⟩ | ⟨a, -, -, h'⟩
    · exact Or.inr ⟨_, _, h'⟩
    · exact Or.inr ⟨_, _, h'⟩

/-- every key that exists has a deadline, and it covers the expiry of every session in it -/
structure Covered (k : SessionKeys F) : Prop where
  records : k.records ≠ .missing → ∃ d, k.records.deadline = some d ∧
    ∀ f, k.records.lookup (.jti f) ≠ none → ∃ e, k.expires.lookup f = some e ∧ e * 1000 ≤ d
  order : k.order ≠ .missing → ∃ d, k.order.deadline = some d ∧
    ∀ f, k.order.lookup f ≠ none → ∃ e, k.expires.lookup f = some e ∧ e * 1000 ≤ d
  expires : k.expires ≠ .missing → ∃ d, k.expires.deadline = some d ∧
    ∀ f e, k.expires.lookup f = some e → e * 1000 ≤ d

theorem Held.covered {k : SessionKeys F} {v d : Nat} (h : Held argument k v d) : Covered k := by
  have hsession : ∀ f, k.order.lookup f ≠ none →
      ∃ e, k.expires.lookup f = some e ∧ e * 1000 ≤ d := by
    intro f hf
    obtain ⟨e, he⟩ := Option.ne_none_iff_exists'.mp (mt (h.synced.expires f).mp hf)
    exact ⟨e, he, h.within f e he⟩
  refine ⟨fun _ => ⟨d, h.records_deadline, fun f hf => ?_⟩, fun ho => ⟨d, ?_, hsession⟩,
    fun he => ⟨d, ?_, h.within⟩⟩
  · exact hsession f (mt (h.synced.records f).mpr hf)
  · exact h.order_until.resolve_left ho
  · exact h.expires_until.resolve_left he

theorem Guarded.activated {decode : String → Option DecodedRecord} {k : SessionKeys F}
    (h : Guarded argument k) {call : ScriptCall F} (hcall : call.Exact argument)
    {clock : Nat} {a : Activation F}
    (ha : call.Activates decode argument clock k a) :
    ∃ d, Held argument (call.eval decode argument clock k).2 a.version d ∧
      a.expiresAt.toNat * 1000 ≤ d := by
  rcases h.alive (clock / 1000) with hk | ⟨v, d, hk, hd, -⟩
  · rcases eval_missing decode hk hcall with ⟨hno, -⟩ | ⟨b, hb, h'⟩
    · exact absurd ha (hno a)
    · rw [ha.unique hb]
      exact ⟨_, h', Nat.le_max_right _ _⟩
  · rcases eval_held decode hk hcall hd with ⟨hno, -⟩ | ⟨b, hb, -, h'⟩
    · exact absurd ha (hno a)
    · rw [ha.unique hb]
      exact ⟨_, h', Nat.le_max_right _ _⟩

theorem Guarded.covered {k : SessionKeys F} (h : Guarded argument k) : Covered k := by
  rcases h with rfl | ⟨v, d, h⟩
  · exact ⟨fun hk => absurd rfl hk, fun hk => absurd rfl hk, fun hk => absurd rfl hk⟩
  · exact h.covered

/-- no key that exists before and after has its deadline moved to an earlier time -/
structure NotEarlier (k k' : SessionKeys F) : Prop where
  records : ∀ d d', k.records.deadline = some d → k'.records.deadline = some d' → d ≤ d'
  order : ∀ d d', k.order.deadline = some d → k'.order.deadline = some d' → d ≤ d'
  expires : ∀ d d', k.expires.deadline = some d → k'.expires.deadline = some d' → d ≤ d'

theorem Held.notEarlier {k k' : SessionKeys F} {v d v' d' : Nat} (h : Held argument k v d)
    (h' : Held argument k' v' d') (hd : d ≤ d') : NotEarlier k k' := by
  refine ⟨fun x y hx hy => ?_, fun x y hx hy => ?_, fun x y hx hy => ?_⟩
  · rw [h.records_until.eq_of_deadline hx, h'.records_until.eq_of_deadline hy]
    exact hd
  · rw [h.order_until.eq_of_deadline hx, h'.order_until.eq_of_deadline hy]
    exact hd
  · rw [h.expires_until.eq_of_deadline hx, h'.expires_until.eq_of_deadline hy]
    exact hd

theorem NotEarlier.of_missing (k : SessionKeys F) : NotEarlier SessionKeys.missing k := by
  refine ⟨fun x y hx hy => ?_, fun x y hx hy => ?_, fun x y hx hy => ?_⟩ <;> cases hx

theorem Guarded.notEarlier {decode : String → Option DecodedRecord} {k : SessionKeys F}
    (h : Guarded argument k) {call : ScriptCall F} (hcall : call.Exact argument) (clock : Nat) :
    NotEarlier (k.alive (clock / 1000)) (call.eval decode argument clock k).2 := by
  rcases h.alive (clock / 1000) with hk | ⟨v, d, hk, hd, halive⟩
  · rw [hk]
    exact .of_missing _
  · rw [halive]
    rcases eval_held decode hk hcall hd with ⟨-, h'⟩ | ⟨a, -, -, h'⟩
    · exact hk.notEarlier h' (Nat.le_refl d)
    · exact hk.notEarlier h' (Nat.le_max_left _ _)

variable {decode : String → Option DecodedRecord} {st : Nat → Nat × SessionKeys F}
  {lab : Nat → Nat × ScriptCall F} {n : Nat}

/-- a run whose activations carry numbers that doubles represent -/
structure ExactRun (decode : String → Option DecodedRecord) (argument : Nat → String)
    (st : Nat → Nat × SessionKeys F) (lab : Nat → Nat × ScriptCall F) (n : Nat) : Prop where
  run : IsRun (registry decode argument) st lab n
  exact : ∀ i, i < n → (lab i).2.Exact argument

theorem ExactRun.guarded (h : ExactRun decode argument st lab n) {i : Nat} (hi : i ≤ n) :
    Guarded argument (st i).2 := by
  induction i with
  | zero => exact Or.inl h.run.start
  | succ i ih =>
    obtain ⟨-, hst⟩ := h.run.next i hi
    rw [hst]
    exact (ih (Nat.le_of_succ_le hi)).eval (h.exact i hi) _

theorem clock_mono (h : IsRun (registry decode argument) st lab n) {i j : Nat} (hij : i ≤ j) (hj : j < n) :
    (lab i).1 ≤ (lab j).1 := by
  have hstep : ∀ m, m < n → (st m).1 ≤ (lab m).1 ∧ (st (m + 1)).1 = (lab m).1 := by
    intro m hm
    obtain ⟨hle, hst⟩ := h.next m hm
    exact ⟨hle, by rw [hst]⟩
  rcases Nat.eq_or_lt_of_le hij with rfl | hlt
  · exact Nat.le_refl _
  · have hmono : (st (i + 1)).1 ≤ (st j).1 := by
      refine h.mono (f := Prod.fst) ?_ hlt (Nat.le_of_lt hj)
      rintro s l s' - ⟨hle, rfl⟩
      exact hle
    rw [← (hstep i (by omega)).2]
    exact Nat.le_trans hmono (hstep j hj).1

/-- the version and the deadline that an activation leaves behind outlast the clock's way to the
expiry -/
theorem ExactRun.guard (h : ExactRun decode argument st lab n) {i j : Nat} {a : Activation F} (hij : i < j)
    (hj : j < n) (ha : (lab i).2.Activates decode argument (lab i).1 (st i).2 a)
    (hclock : (lab j).1 / 1000000 < a.expiresAt.toNat) :
    ∃ v d, Held argument (st j).2 v d ∧ a.version ≤ v ∧ a.expiresAt.toNat * 1000 ≤ d := by
  -- by induction on the number of calls since the activation
  obtain ⟨m, rfl⟩ : ∃ m, j = i + 1 + m := ⟨j - (i + 1), by omega⟩
  have hall : ∀ p, p ≤ m → ∃ v d, Held argument (st (i + 1 + p)).2 v d ∧ a.version ≤ v ∧
      a.expiresAt.toNat * 1000 ≤ d := by
    intro p hp
    induction p with
    | zero =>
      have hi : i < n := by omega
      obtain ⟨-, hst⟩ := h.run.next i hi
      obtain ⟨d, hheld, hd⟩ := (h.guarded (Nat.le_of_lt hi)).activated (h.exact i hi) ha
      rw [Nat.add_zero, hst]
      exact ⟨a.version, d, hheld, Nat.le_refl _, hd⟩
    | succ p ih =>
      obtain ⟨v, d, hheld, hv, hd⟩ := ih (Nat.le_of_succ_le hp)
      have hi : i + 1 + p < n := by omega
      obtain ⟨-, hst⟩ := h.run.next _ hi
      have htime : (lab (i + 1 + p)).1 / 1000 ≤ d := by
        have := clock_mono h.run (show i + 1 + p ≤ i + 1 + m by omega) hj
        omega
      rw [← Nat.add_assoc, hst]
      rcases eval_held decode hheld (h.exact _ hi) htime with ⟨-, h'⟩ | ⟨b, -, hb, h'⟩
      · exact ⟨v, d, h', hv, hd⟩
      · exact ⟨_, _, h', Nat.le_trans hv hb, Nat.le_trans hd (Nat.le_max_left _ _)⟩
  exact hall m (Nat.le_refl m)

/-- **deadlines cover the sessions and are never moved to an earlier time; until the expiry of an
accepted activation, an older version is refused and changes nothing** -/
theorem watermark (h : ExactRun decode argument st lab n) :
    (∀ i, i ≤ n → Covered (st i).2) ∧
    (∀ i, i < n → NotEarlier ((st i).2.alive ((lab i).1 / 1000)) (st (i + 1)).2) ∧
    ∀ i j a b, i < j → j < n → (lab i).2.Activates decode argument (lab i).1 (st i).2 a →
      (lab j).2 = .activate b → b.version < a.version → (lab j).1 / 1000000 < a.expiresAt.toNat →
      (st (j + 1)).2 = (st j).2 ∧ ((lab j).2.eval decode argument (lab j).1 (st j).2).1 =
        .integer (if b.Rejected ((lab j).1 / 1000000) then -1 else -2) := by
  refine ⟨fun i hi => (h.guarded hi).covered, fun i hi => ?_, ?_⟩
  · obtain ⟨-, hst⟩ := h.run.next i hi
    rw [hst]
    exact (h.guarded (Nat.le_of_lt hi)).notEarlier (h.exact i hi) _
  · intro i j a b hij hj ha hb hlt hclock
    obtain ⟨v, d, hheld, hv, hd⟩ := h.guard hij hj ha hclock
    obtain ⟨-, hst⟩ := h.run.next j hj
    have hexact := h.exact j hj
    rw [hb] at hexact
    have halive : (st j).2.alive ((lab j).1 / 1000) = (st j).2 := by
      rw [hheld.alive, if_neg (by omega)]
    rw [hst, hb]
    simp only [ScriptCall.eval, halive, activateJti_held hheld hexact, Prod.map]
    by_cases hr : b.Rejected ((lab j).1 / 1000000)
    · rw [if_pos hr, if_pos hr]
      exact ⟨rfl, rfl⟩
    · rw [if_neg hr, if_neg hr, if_pos (Nat.lt_of_lt_of_le hlt hv)]
      exact ⟨rfl, rfl⟩

end

/-! ## the limits of the watermark -/

/-- the run of given calls -/
def registryRun (decode : String → Option DecodedRecord) (argument : Nat → String)
    (calls : Nat → Nat × ScriptCall F) : Nat → Nat × SessionKeys F
  | 0 => (0, SessionKeys.missing)
  | i + 1 => ((calls i).1, ((calls i).2.eval decode argument (calls i).1
      (registryRun decode argument calls i).2).2)

theorem registryRun_isRun (decode : String → Option DecodedRecord) (argument : Nat → String)
    (calls : Nat → Nat × ScriptCall F) (h : ∀ i, (calls i).1 ≤ (calls (i + 1)).1) (n : Nat) :
    IsRun (registry decode argument) (registryRun decode argument calls) calls n := by
  refine ⟨rfl, fun i _ => ⟨?_, rfl⟩⟩
  cases i with
  | zero => exact Nat.zero_le _
  | succ i => exact h i

/-- a session of version 1 until second 100, its revocation, and a late activation of version 0 -/
def delayedIssuance (expiresAt : Int) : Nat → Nat × ScriptCall Nat
  | 0 => (10000000, .activate ⟨7, "first", 100, 1, 5⟩)
  | 1 => (20000000, .revoke 7 "first")
  | _ => (30000000, .activate ⟨8, "second", expiresAt, 0, 5⟩)

theorem delayedIssuance_exact (expiresAt : Int) (h : expiresAt.toNat < 1000) :
    ExactRun (fun _ => none) Nat.repr
      (registryRun (fun _ => none) Nat.repr (delayedIssuance expiresAt))
      (delayedIssuance expiresAt) 3 := by
  refine ⟨registryRun_isRun _ _ _ (fun i => ?_) 3, fun i _ => ?_⟩
  · match i with
    | 0 => show 10000000 ≤ 20000000; omega
    | 1 => show 20000000 ≤ 30000000; omega
    | i + 2 => exact Nat.le_refl _
  · match i with
    | 0 => exact ⟨by decide, by decide, writesIntegers_repr.expirable (by decide)⟩
    | 1 => trivial
    | i + 2 => exact ⟨by show double 0 = 0; decide, double_eq_self (by show expiresAt.toNat < _; omega),
        writesIntegers_repr.expirable (by show expiresAt.toNat * 1000 < _; omega)⟩

/-- the older version is refused although no session is left -/
theorem watermark_delayed :
    (registryRun (fun _ => none) Nat.repr (delayedIssuance 200) 3).2 =
        (registryRun (fun _ => none) Nat.repr (delayedIssuance 200) 2).2 ∧
      ((delayedIssuance 200 2).2.eval (fun _ => none) Nat.repr 30000000
        (registryRun (fun _ => none) Nat.repr (delayedIssuance 200) 2).2).1 = .integer (-2) :=
  (watermark (delayedIssuance_exact 200 (by decide))).2.2 0 2 ⟨7, "first", 100, 1, 5⟩
    ⟨8, "second", 200, 0, 5⟩ (by omega) (by omega) ⟨rfl, by decide +kernel⟩ rfl (by decide)
    (by decide)

/-- deadlines cover the sessions of every run whose activations are as `P` says -/
def CoversEveryExpiry (P : Activation Nat → Prop) : Prop :=
  ∀ (st : Nat → Nat × SessionKeys Nat) lab n, IsRun (registry (fun _ => none) Nat.repr) st lab n →
    (∀ i a, i < n → (lab i).2 = .activate a → P a) → ∀ i, i ≤ n → Covered (st i).2

/-- the version is exact, and `PEXPIREAT` takes the deadline -/
def InPexpireatRange (a : Activation Nat) : Prop :=
  double a.version = a.version ∧
    (expireArgument Nat.repr (double (tonumber a.expiresAt * 1000))).isSome = true

/-- the version, the expiry and the thousandfold expiry are doubles -/
def RepresentedExactly (a : Activation Nat) : Prop :=
  double a.version = a.version ∧ double a.expiresAt.toNat = a.expiresAt.toNat ∧
    double (a.expiresAt.toNat * 1000) = a.expiresAt.toNat * 1000

/-- an older version is always answered by `-2` -/
def RefusesEveryOlder : Prop := ∀ (st : Nat → Nat × SessionKeys Nat) lab n,
  ExactRun (fun _ => none) Nat.repr st lab n → ∀ i j a b, i < j → j < n →
    (lab i).2.Activates (fun _ => none) Nat.repr (lab i).1 (st i).2 a → (lab j).2 = .activate b →
    b.version < a.version → (lab j).1 / 1000000 < a.expiresAt.toNat →
    ((lab j).2.eval (fun _ => none) Nat.repr (lab j).1 (st j).2).1 = .integer (-2)

theorem CoversEveryExpiry.activation {P : Activation Nat → Prop} (h : CoversEveryExpiry P)
    {a : Activation Nat} (ha : P a) :
    Covered (registryRun (fun _ => none) Nat.repr (fun _ => (0, .activate a)) 1).2 := by
  have hrun := registryRun_isRun (fun _ => none) Nat.repr (fun _ => (0, .activate a))
    (fun _ => Nat.le_refl _) 1
  refine h _ _ 1 hrun (fun i b _ hb => ?_) 1 (Nat.le_refl 1)
  rw [← ScriptCall.activate.inj hb]
  exact ha

/-- beyond `2 ^ 56` milliseconds the deadline is rounded to a double; beyond 64 bits `PEXPIREAT` fails
behind the writes, and the keys have no deadline; an activation that is itself late is answered by
`-1` -/
theorem watermark_limits : ¬ CoversEveryExpiry InPexpireatRange ∧
    ¬ CoversEveryExpiry RepresentedExactly ∧ ¬ RefusesEveryOlder := by
  refine ⟨?_, ?_, ?_⟩
  · intro h
    have hcov := h.activation (a := ⟨7, "first", 72057594037929, 1, 5⟩)
      ⟨by decide, by decide +kernel⟩
    have hfar : (registryRun (fun _ => none) Nat.repr
        (fun _ => (0, .activate (⟨7, "first", 72057594037929, 1, 5⟩ : Activation Nat))) 1).2.expires.lookup
          7 = some 72057594037929 := by decide +kernel
    obtain ⟨d, hd, he⟩ := hcov.expires (fun hm => by rw [hm] at hfar; cases hfar)
    have hdeadline : some d = some 72057594037928992 := hd.symm.trans (by decide +kernel)
    have hlate := he 7 72057594037929 hfar
    rw [Option.some.inj hdeadline] at hlate
    omega
  · intro h
    have hcov := h.activation (a := ⟨7, "first", 2 ^ 60, 1, 5⟩)
      ⟨by decide, by decide +kernel, by decide +kernel⟩
    have hfar : (registryRun (fun _ => none) Nat.repr
        (fun _ => (0, .activate (⟨7, "first", 2 ^ 60, 1, 5⟩ : Activation Nat))) 1).2.expires.lookup
          7 = some (2 ^ 60) := by decide +kernel
    obtain ⟨d, hd, -⟩ := hcov.expires (fun hm => by rw [hm] at hfar; cases hfar)
    have hnone : some d = none := hd.symm.trans (by decide +kernel)
    cases hnone
  · intro h
    have hreply := h _ _ 3 (delayedIssuance_exact 25 (by decide)) 0 2
      ⟨7, "first", 100, 1, 5⟩ ⟨8, "second", 25, 0, 5⟩ (by omega) (by omega)
      ⟨rfl, by decide +kernel⟩ rfl (by decide) (by decide)
    have hlate : ((delayedIssuance 25 2).2.eval (fun _ => none) Nat.repr 30000000
        (registryRun (fun _ => none) Nat.repr (delayedIssuance 25) 2).2).1 = .integer (-1) := by
      decide +kernel
    exact absurd (hreply.symm.trans hlate) (by decide)

end PgRbac
