import PgRbac.Registry
import PgRbac.Revocation

/-!
# The numbers of the session registry

A version and an expiry go through Python's integers, the texts of arguments and of JSON, and the
doubles of Lua.  `tostring` prints 14 digits and `PEXPIREAT` takes integers alone; where a number is
too large for either the activation script stops in the middle or registers what nothing can read.

* `SessionCall`, `sessionRegistry`    the calls of one user's clients;
* `Fits`                 numbers that every step of the scripts keeps;
* `Ranged`               what the keys hold while all numbers fit;
* `session_range`        an issued token is accepted and listed until it ends.
-/

set_option linter.unusedSectionVars false
set_option linter.unusedVariables false

namespace PgRbac

open Redis Trace

variable {F : Type} [LinearOrder F]

/-! ## the calls of a user's clients -/

inductive SessionCall where
  | issue (claims : AccessTokenClaims) (version : Nat)
  | require (claims : AccessTokenClaims)
  | revoke (claims : AccessTokenClaims) (version : Nat)
  | list (version : Nat)

/-- an error of the script is one of the client -/
def replyOf : Except String Int → Option Reply
  | .ok n => some (.integer n)
  | .error _ => none

namespace TokenRegistry
variable (r : TokenRegistry F)

def serve (argument : Nat → String) (clock : Nat) (k : SessionKeys F) :
    SessionCall → Option Reply × SessionKeys F
  | .issue claims version =>
    (activateJti argument (r.activation claims version) clock (k.alive (clock / 1000))).map replyOf id
  | .require claims => ((r.checkCall claims).eval r.cjsonDecode argument clock k).map some id
  | .revoke claims version => ((r.revokeCall claims version).eval r.cjsonDecode argument clock k).map some id
  | .list version =>
    ((ScriptCall.list version : ScriptCall F).eval r.cjsonDecode argument clock k).map some id

def listActiveSessions (version clock : Nat) (k : SessionKeys F) : Except Failure (List Int) :=
  match (listUserSessions r.cjsonDecode (Nat.repr version) clock (k.alive (clock / 1000))).1 with
  | .error _ => .error registryUnavailable
  | .ok values => if values.any (· < 0) then .error registryUnavailable else .ok values

structure Accepted : Prop where
  ttl : 1 ≤ r.accessTokenTtlSeconds
  maximum : 1 ≤ r.maxActiveSessionsPerUser

/-- both readers of JSON read this record, the one of the scripts by doubles -/
structure Reads (claims : AccessTokenClaims) (version : Nat) : Prop where
  cjson : r.cjsonDecode (activeJtiValue claims version) = some ⟨some (double version : Nat),
    some (double claims.expiresAt : Nat), some (double claims.issuedAt : Nat)⟩
  json : r.parse (activeJtiValue claims version) =
    some (claims.userId, version, claims.issuedAt, claims.expiresAt)

end TokenRegistry

/-- the first microsecond behind the calendar of `datetime` -/
def calendarEnd : Nat := 253402300800 * 1000000

/-- what `issue_access_token` may activate: claims that were made no later, a version of a `bigint` -/
def Issuable (r : TokenRegistry F) (userId : Uuid) (clock : Nat) : SessionCall → Prop
  | .issue claims version => userId.isV4 = true ∧ version < 2 ^ 63 ∧
      ∃ tokenId now, claims = r.claims userId tokenId now ∧ now ≤ clock / 1000000
  | _ => True

/-- the runs of one user's calls, from empty keys, while both clocks show the same time -/
def sessionRegistry (r : TokenRegistry F) (argument : Nat → String) (userId : Uuid) :
    System (Nat × SessionKeys F) (Nat × SessionCall) where
  init s := s.2 = SessionKeys.missing
  step s e s' := s.1 ≤ e.1 ∧ e.1 < calendarEnd ∧ Issuable r userId e.1 e.2 ∧
    s' = (e.1, (r.serve argument e.1 s.2 e.2).2)

/-! ## numbers that fit -/

/-- a text of a double, when it is an integer, denotes this double again -/
def ReadsBack (argument : Nat → String) : Prop :=
  ∀ n d, decimal? (argument (double n)) = some d → double d = double n

/-- the version has at most 14 digits, and `PEXPIREAT` takes the deadline -/
def Fits (argument : Nat → String) (claims : AccessTokenClaims) (version : Nat) : Prop :=
  version < 10 ^ 14 ∧ (expireArgument argument (double (double claims.expiresAt * 1000))).isSome

theorem expireArgument_double {argument : Nat → String} (hback : ReadsBack argument) {n d : Nat}
    (h : expireArgument argument (double n) = some d) : double d = double n := by
  obtain ⟨hd, -⟩ := Option.filter_eq_some_iff.mp h
  exact hback n d hd

theorem tonumber_le_iff {e now : Nat} (hnow : now < 2 ^ 53) : tonumber (e : Int) ≤ now ↔ e ≤ now := by
  have hle := le_double_iff (m := now + 1) (n := e) hnow
  show double e ≤ now ↔ e ≤ now
  omega

theorem luaInteger_natCast (n : Nat) : luaInteger (n : Int) = (double n : Nat) := by
  unfold luaInteger
  rw [if_neg (by omega), Int.toNat_natCast]

/-! ## evictions -/

def evicted (a : Activation F) (clock : Nat) (k : SessionKeys F) : List F :=
  let order := k.order.zadd a.field (activationScore clock k.order)
  (order.elements.take (order.card - tonumber a.maximum)).map Prod.fst

theorem elements_removeSession_head {k : SessionKeys F} {oldest : F × Nat} {rest : List (F × Nat)}
    (h : k.order.elements = oldest :: rest) : (removeSession k oldest.1).order.elements = rest := by
  have hunique := k.order.unique
  rw [h, List.map_cons, List.nodup_cons] at hunique
  show (k.order.erase oldest.1).elements = rest
  rw [Slot.elements_erase, h, List.filter_cons_of_neg (by simp)]
  refine List.filter_eq_self.mpr fun p hp => decide_eq_true fun he => ?_
  exact hunique.1 (he ▸ List.mem_map_of_mem hp)

theorem evictOldest_take (maximum : Nat) {rounds : Nat} {k : SessionKeys F}
    (hr : k.order.card ≤ rounds) : evictOldest maximum rounds k =
      removeSessions k ((k.order.elements.take (k.order.card - maximum)).map Prod.fst) := by
  induction rounds generalizing k with
  | zero =>
    have hnone : k.order.card - maximum = 0 := by omega
    rw [evictOldest, hnone]
    rfl
  | succ rounds ih =>
    rw [evictOldest]
    by_cases hc : maximum < k.order.card
    · rw [if_pos hc]
      cases he : k.order.elements with
      | nil =>
        rw [Slot.card, he] at hc
        exact absurd hc (Nat.not_lt_zero _)
      | cons oldest rest =>
        have hrest := elements_removeSession_head he
        have hcard : k.order.card = rest.length + 1 := by rw [Slot.card, he, List.length_cons]
        have hcard' : (removeSession k oldest.1).order.card = rest.length := by
          rw [Slot.card, hrest]
        have htake : rest.length + 1 - maximum = (rest.length - maximum) + 1 := by omega
        dsimp only
        rw [ih (by omega), hrest, hcard', hcard, htake, List.take_succ_cons, List.map_cons]
        rfl
    · have hnone : k.order.card - maximum = 0 := by omega
      rw [if_neg hc, hnone]
      rfl

/-! ## what the keys hold -/

section
variable (r : TokenRegistry F) (userId : Uuid)

/-- every record is one of the user's, of version `v`, with its own expiry -/
def Recorded (k : SessionKeys F) (v : Nat) : Prop :=
  ∀ f value, k.records.lookup (.jti f) = some value → ∃ claims, claims.userId = userId ∧
    r.Reads claims v ∧ f = r.field claims.tokenId ∧ value = activeJtiValue claims v ∧
    k.expires.lookup f = some (double claims.expiresAt) ∧ claims.issuedAt < 2 ^ 53

/-- as far as numbers are exact, no session outlives `d` milliseconds -/
def Covers (k : SessionKeys F) (d : Nat) : Prop :=
  ∀ f e, k.expires.lookup f = some e → min (e * 1000) (2 ^ 53) ≤ d

/-- the keys of version `v` with the common deadline `d` -/
structure Ranged (argument : Nat → String) (k : SessionKeys F) (v d : Nat) : Prop where
  synced : Synced k
  version : k.records.lookup .version = some (Nat.repr v)
  small : v < 10 ^ 14
  records_until : k.records.Until d
  order_until : k.order.Until d
  expires_until : k.expires.Until d
  accepted : ∃ m, expireArgument argument (double m) = some d
  covers : Covers k d
  recorded : Recorded r userId k v

end

section
variable {r : TokenRegistry F} {userId : Uuid} {argument : Nat → String} {k : SessionKeys F}
  {v d : Nat}

theorem Recorded.removeSessions (h : Recorded r userId k v) (fs : List F) :
    Recorded r userId (removeSessions k fs) v := by
  intro f value hvalue
  rw [record_removeSessions] at hvalue
  split at hvalue
  · cases hvalue
  · rename_i hf
    obtain ⟨claims, hu, hreads, hfield, hv, hexpires, hissued⟩ := h f value hvalue
    refine ⟨claims, hu, hreads, hfield, hv, ?_, hissued⟩
    rw [expiry_removeSessions, if_neg hf]
    exact hexpires

theorem Covers.removeSessions (h : Covers k d) (fs : List F) : Covers (removeSessions k fs) d := by
  intro f e he
  rw [expiry_removeSessions] at he
  split at he
  · cases he
  · exact h f e he

theorem Recorded.of_missing : Recorded r userId (SessionKeys.missing : SessionKeys F) v := by
  intro f value hvalue
  cases hvalue

theorem Covers.of_missing : Covers (SessionKeys.missing : SessionKeys F) d := by
  intro f e he
  cases he

namespace Ranged

theorem removeSessions (h : Ranged r userId argument k v d) (fs : List F) :
    Ranged r userId argument (removeSessions k fs) v d where
  synced := h.synced.removeSessions fs
  version := by rw [version_removeSessions, h.version]
  small := h.small
  records_until := (until_removeSessions h.records_until h.order_until h.expires_until fs).1
  order_until := (until_removeSessions h.records_until h.order_until h.expires_until fs).2.1
  expires_until := (until_removeSessions h.records_until h.order_until h.expires_until fs).2.2
  accepted := h.accepted
  covers := h.covers.removeSessions fs
  recorded := h.recorded.removeSessions fs

theorem alive (h : Ranged r userId argument k v d) (now : Nat) :
    k.alive now = if d < now then SessionKeys.missing else k :=
  alive_of_until h.records_until h.order_until h.expires_until now

theorem pexpiretime (h : Ranged r userId argument k v d) : k.records.pexpiretime = d := by
  have hd := h.records_until.deadline_of_lookup (by rw [h.version]; exact Option.some_ne_none _)
  cases hk : k.records with
  | missing =>
    rw [hk] at hd
    cases hd
  | present key =>
    rw [hk] at hd
    have hdeadline : key.deadline = some d := hd
    simp only [Slot.pexpiretime, hdeadline]

end Ranged

theorem storeSession_spec {a : Activation F} {base : SessionKeys F} (clock : Nat)
    (hsynced : Synced base) :
    ∃ stored, storeSession a clock base = removeSessions stored (evicted a clock base) ∧
      Synced stored ∧ stored.records.lookup .version = some (Nat.repr a.version) ∧
      (∀ f, stored.records.lookup (.jti f) =
        if f = a.field then some a.record else base.records.lookup (.jti f)) ∧
      ∀ f, stored.expires.lookup f =
        if f = a.field then some (tonumber a.expiresAt) else base.expires.lookup f := by
  refine ⟨⟨(base.records.hset (.jti a.field) a.record).hset .version (Nat.repr a.version),
    base.order.zadd a.field (activationScore clock base.order),
    base.expires.zadd a.field (tonumber a.expiresAt)⟩, ?_, hsynced.store _ _ _ _ _, ?_, ?_, ?_⟩
  · exact evictOldest_take (tonumber a.maximum) (Nat.le_refl _)
  · show ((base.records.hset _ _).hset _ _).lookup _ = _
    rw [Slot.lookup_hset, if_pos rfl]
  · intro f
    show ((base.records.hset _ _).hset _ _).lookup _ = _
    rw [Slot.lookup_hset, if_neg (fun e => by cases e), Slot.lookup_hset]
    by_cases hf : f = a.field
    · rw [if_pos hf, if_pos (congrArg Field.jti hf)]
    · rw [if_neg hf, if_neg (fun e => hf (Field.jti.inj e))]
  · intro f
    exact Slot.lookup_zadd _ _ _ _

end

/-! ## activations -/

section
variable {r : TokenRegistry F} {userId : Uuid} {argument : Nat → String} {k : SessionKeys F}
  {v d clock : Nat} {claims : AccessTokenClaims} {version : Nat}

theorem Ranged.deadline (h : Ranged r userId argument k v d) (hback : ReadsBack argument)
    (hfits : Fits argument claims version) : ∃ d', expireArgument argument
      (chosenDeadline (r.activation claims version) k) = some d' ∧
      double d' = max (double d) (double (double claims.expiresAt * 1000)) ∧
      ∃ m, expireArgument argument (double m) = some d' := by
  have hchosen : chosenDeadline (r.activation claims version) k =
      max (double d) (double (double claims.expiresAt * 1000)) := by
    show (if luaInteger k.records.pexpiretime > (double (double claims.expiresAt * 1000) : Nat) then
      (luaInteger k.records.pexpiretime).toNat else double (double claims.expiresAt * 1000)) = _
    rw [h.pexpiretime, luaInteger_natCast, Int.toNat_natCast]
    split
    · omega
    · omega
  rw [hchosen]
  obtain ⟨m, hm⟩ := h.accepted
  have hd := expireArgument_double hback hm
  obtain ⟨d', hd'⟩ := Option.isSome_iff_exists.mp hfits.2
  by_cases hle : double d ≤ double (double claims.expiresAt * 1000)
  · rw [Nat.max_eq_right hle]
    exact ⟨d', hd', expireArgument_double hback hd', _, hd'⟩
  · rw [Nat.max_eq_left (by omega), hd]
    exact ⟨d, hm, hd, m, hm⟩

variable (r) in
theorem deadline_missing (hback : ReadsBack argument) (hfits : Fits argument claims version) :
    ∃ d', expireArgument argument
      (chosenDeadline (r.activation claims version) SessionKeys.missing) = some d' ∧
      double d' = double (double claims.expiresAt * 1000) ∧
      ∃ m, expireArgument argument (double m) = some d' := by
  obtain ⟨d', hd'⟩ := Option.isSome_iff_exists.mp hfits.2
  have hchosen : chosenDeadline (r.activation claims version) SessionKeys.missing =
      double (double claims.expiresAt * 1000) := by
    show (if luaInteger (-2) > (double (double claims.expiresAt * 1000) : Nat) then
      (luaInteger (-2)).toNat else double (double claims.expiresAt * 1000)) = _
    rw [if_neg]
    show ¬ ((double (double claims.expiresAt * 1000) : Nat) : Int) < -2
    omega
  rw [hchosen]
  exact ⟨d', hd', expireArgument_double hback hd', _, hd'⟩

theorem le_of_double {m d n : Nat} (h : n ≤ double d) (hm : m ≤ 2 ^ 53) (hle : m ≤ n) : m ≤ d :=
  (le_double_iff hm).mp (hle.trans h)

theorem expiry_ahead {e : Nat} (hclock : clock < calendarEnd) (hlive : clock / 1000000 < e)
    (hd : double (double e * 1000) ≤ double d) : clock / 1000 < d := by
  unfold calendarEnd at hclock
  have hdouble : clock / 1000000 + 1 ≤ double e := (le_double_iff (by omega)).mpr hlive
  have hround : (clock / 1000000 + 1) * 1000 ≤ double (double e * 1000) :=
    (le_double_iff (by omega)).mpr (Nat.mul_le_mul_right 1000 hdouble)
  have hle : (clock / 1000000 + 1) * 1000 ≤ d := le_of_double hd (by omega) hround
  omega

/-- **the keys behind an activation that has passed its tests** -/
theorem ranged_store {base : SessionKeys F} {d' : Nat} (hsynced : Synced base)
    (hrecorded : Recorded r userId base version) (hcovers : Covers base d')
    (hclock : clock < calendarEnd) (huser : claims.userId = userId)
    (hissued : claims.issuedAt ≤ clock / 1000000) (hlive : clock / 1000000 < claims.expiresAt)
    (hreads : r.Reads claims version) (hsmall : version < 10 ^ 14)
    (hd : double (double claims.expiresAt * 1000) ≤ double d')
    (hacc : ∃ m, expireArgument argument (double m) = some d') :
    Ranged r userId argument ((storeSession (r.activation claims version) clock base).pexpireat
      (clock / 1000) d') version d' ∧
    ∀ f, ((storeSession (r.activation claims version) clock base).pexpireat (clock / 1000)
      d').records.lookup (.jti f) =
        if f ∈ evicted (r.activation claims version) clock base then none
        else if f = r.field claims.tokenId then some (activeJtiValue claims version)
        else base.records.lookup (.jti f) := by
  have hnow := expiry_ahead hclock hlive hd
  obtain ⟨stored, hwrite, hsync, hversion, hrecord, hexpires⟩ :=
    storeSession_spec (a := r.activation claims version) clock hsynced
  have hstored : Recorded r userId stored version := by
    intro f value hvalue
    rw [hrecord] at hvalue
    rw [hexpires]
    by_cases hf : f = r.field claims.tokenId
    · have hf' : f = (r.activation claims version).field := hf
      rw [if_pos hf'] at hvalue ⊢
      refine ⟨claims, huser, hreads, hf, (Option.some.inj hvalue).symm, rfl, ?_⟩
      unfold calendarEnd at hclock
      omega
    · have hf' : ¬ f = (r.activation claims version).field := hf
      rw [if_neg hf'] at hvalue ⊢
      exact hrecorded f value hvalue
  have hcovered : Covers stored d' := by
    intro f e he
    rw [hexpires] at he
    split at he
    · have hexact : e = double claims.expiresAt := (Option.some.inj he).symm
      rw [hexact]
      have hround : min (double claims.expiresAt * 1000) (2 ^ 53) ≤
          double (double claims.expiresAt * 1000) := (le_double_iff (by omega)).mpr (by omega)
      exact le_of_double hd (by omega) hround
    · exact hcovers f e he
  rw [hwrite]
  refine ⟨⟨(hsync.removeSessions _).pexpireat hnow, ?_, hsmall, .pexpireat _ _ _,
    .pexpireat _ _ _, .pexpireat _ _ _, hacc, ?_, ?_⟩, ?_⟩
  · show (Slot.pexpireat _ _ _).lookup _ = _
    rw [Slot.lookup_pexpireat _ hnow, version_removeSessions, hversion]
    rfl
  · intro f e he
    refine hcovered.removeSessions (evicted (r.activation claims version) clock base) f e ?_
    rw [← he]
    exact (Slot.lookup_pexpireat _ hnow f).symm
  · intro f value hvalue
    have hvalue' : (Slot.pexpireat _ _ _).lookup _ = _ := hvalue
    rw [Slot.lookup_pexpireat _ hnow] at hvalue'
    obtain ⟨c, hu, hr, hf, hv, he, hi⟩ := hstored.removeSessions _ f value hvalue'
    refine ⟨c, hu, hr, hf, hv, ?_, hi⟩
    show (Slot.pexpireat _ _ _).lookup _ = _
    rw [Slot.lookup_pexpireat _ hnow]
    exact he
  · intro f
    show (Slot.pexpireat _ _ _).lookup _ = _
    rw [Slot.lookup_pexpireat _ hnow, record_removeSessions, hrecord]
    rfl

theorem activateJti_tests (hset : r.Accepted) (hclock : clock < calendarEnd) :
    activateJti argument (r.activation claims version) clock k =
      if claims.expiresAt ≤ clock / 1000000 then (.ok (-1), k)
      else match k.records.lookup .version with
        | none => registerSession argument (r.activation claims version) none clock k
        | some currentVersion =>
          match decimal? currentVersion with
          | none => (.ok (-1), k)
          | some parsed =>
            if double parsed > double version then (.ok (-2), k)
            else registerSession argument (r.activation claims version) (some currentVersion) clock k := by
  have hmax : 1 ≤ tonumber (r.activation claims version).maximum :=
    (tonumber_maximum (by
      show (1 : Int) ≤ (r.maxActiveSessionsPerUser : Int)
      have := hset.maximum
      omega)).1
  have hlive : tonumber (r.activation claims version).expiresAt ≤ clock / 1000000 ↔
      claims.expiresAt ≤ clock / 1000000 := by
    unfold calendarEnd at hclock
    exact tonumber_le_iff (by omega)
  unfold activateJti
  rw [if_neg (by omega)]
  by_cases he : claims.expiresAt ≤ clock / 1000000
  · rw [if_pos (hlive.mpr he), if_pos he]
  · rw [if_neg (fun h => he (hlive.mp h)), if_neg he]
    rfl

end

section
variable {r : TokenRegistry F} {userId : Uuid} {argument : Nat → String} {k : SessionKeys F}
  {v d clock : Nat} {claims : AccessTokenClaims} {version : Nat}

/-- a call of `issue_access_token` that is made in time, with numbers that fit -/
structure Timely (r : TokenRegistry F) (userId : Uuid) (argument : Nat → String) (clock : Nat)
    (claims : AccessTokenClaims) (version : Nat) : Prop where
  calendar : clock < calendarEnd
  user : claims.userId = userId
  issued : claims.issuedAt ≤ clock / 1000000
  reads : r.Reads claims version
  fits : Fits argument claims version

def issueBase (r : TokenRegistry F) (claims : AccessTokenClaims) (version clock : Nat)
    (k : SessionKeys F) : SessionKeys F :=
  activationBase (r.activation claims version) (k.records.lookup .version) (clock / 1000000) k

/-- what an activation that returned 1 has stored, and what it has left -/
structure Activated (r : TokenRegistry F) (userId : Uuid) (argument : Nat → String)
    (claims : AccessTokenClaims) (version clock : Nat) (k k' : SessionKeys F) : Prop where
  fresh : (issueBase r claims version clock k).records.lookup (.jti (r.field claims.tokenId)) = none
  ranged : ∃ d, Ranged r userId argument k' version d
  records : ∀ f, k'.records.lookup (.jti f) =
    if f ∈ evicted (r.activation claims version) clock (issueBase r claims version clock k) then none
    else if f = r.field claims.tokenId then some (activeJtiValue claims version)
    else (issueBase r claims version clock k).records.lookup (.jti f)

theorem registerSession_ranged (h : Ranged r userId argument k v d) (hback : ReadsBack argument)
    (ht : Timely r userId argument clock claims version)
    (hlive : clock / 1000000 < claims.expiresAt) :
    registerSession argument (r.activation claims version) (some (Nat.repr v)) clock k =
        (.ok 0, pruneExpired k (clock / 1000000)) ∨
      (registerSession argument (r.activation claims version) (some (Nat.repr v)) clock k).1 = .ok 1 ∧
        Activated r userId argument claims version clock k
          (registerSession argument (r.activation claims version) (some (Nat.repr v)) clock k).2 := by
  have hp : Ranged r userId argument (pruneExpired k (clock / 1000000)) v d := h.removeSessions _
  by_cases hx : (pruneExpired k (clock / 1000000)).records.exists?
      (.jti (r.activation claims version).field) = true
  · refine Or.inl ?_
    unfold registerSession
    rw [if_pos hx]
  · refine Or.inr ?_
    obtain ⟨d', hd', hmax, hacc⟩ := hp.deadline hback ht.fits
    have hbase : issueBase r claims version clock k =
        if some (Nat.repr v) ≠ some (Nat.repr (r.activation claims version).version) then
          SessionKeys.missing else pruneExpired k (clock / 1000000) := by
      unfold issueBase
      rw [h.version]
      rfl
    have hnone : ¬ (issueBase r claims version clock k).records.exists?
        (.jti (r.activation claims version).field) = true := by
      rw [hbase]
      split
      · exact Bool.false_ne_true
      · exact hx
    have heq : registerSession argument (r.activation claims version) (some (Nat.repr v)) clock k =
        (.ok 1, (storeSession (r.activation claims version) clock
          (issueBase r claims version clock k)).pexpireat (clock / 1000) d') := by
      rw [hbase] at hnone ⊢
      unfold registerSession
      rw [if_neg hx]
      dsimp only
      rw [if_neg hnone, hd']
    rw [heq]
    have hkept : Synced (issueBase r claims version clock k) ∧
        Recorded r userId (issueBase r claims version clock k) version ∧
        Covers (issueBase r claims version clock k) d' := by
      rw [hbase]
      by_cases hv : some (Nat.repr v) ≠ some (Nat.repr (r.activation claims version).version)
      · rw [if_pos hv]
        exact ⟨.of_missing, .of_missing, .of_missing⟩
      · rw [if_neg hv]
        have hsame : v = version := Nat.repr_inj.mp (Option.some.inj (not_ne_iff.mp hv))
        refine ⟨hp.synced, hsame ▸ hp.recorded, fun f e he => ?_⟩
        have hcovered := hp.covers f e he
        have hdouble : min (e * 1000) (2 ^ 53) ≤ double d :=
          (le_double_iff (Nat.min_le_right _ _)).mpr hcovered
        exact le_of_double (n := double d) (by omega) (Nat.min_le_right _ _) hdouble
    obtain ⟨hranged, hrecords⟩ := ranged_store hkept.1 hkept.2.1 hkept.2.2 ht.calendar ht.user ht.issued
      hlive ht.reads ht.fits.1 (by omega) hacc
    refine ⟨rfl, ?_, ⟨d', hranged⟩, hrecords⟩
    cases hlookup : (issueBase r claims version clock k).records.lookup
        (.jti (r.field claims.tokenId)) with
    | none => rfl
    | some value => exact absurd (congrArg Option.isSome hlookup) hnone

theorem registerSession_first (hback : ReadsBack argument)
    (ht : Timely r userId argument clock claims version)
    (hlive : clock / 1000000 < claims.expiresAt) :
    (registerSession argument (r.activation claims version) none clock SessionKeys.missing).1 = .ok 1 ∧
      Activated r userId argument claims version clock SessionKeys.missing
        (registerSession argument (r.activation claims version) none clock SessionKeys.missing).2 := by
  obtain ⟨d', hd', hdouble, hacc⟩ := deadline_missing r hback ht.fits
  have hbase : issueBase r claims version clock (SessionKeys.missing : SessionKeys F) =
      SessionKeys.missing := by
    unfold issueBase activationBase
    rw [if_pos (fun e => by cases e)]
  have heq : registerSession argument (r.activation claims version) none clock SessionKeys.missing =
      (.ok 1, (storeSession (r.activation claims version) clock SessionKeys.missing).pexpireat
        (clock / 1000) d') := by
    have hpruned : pruneExpired (SessionKeys.missing : SessionKeys F) (clock / 1000000) =
        SessionKeys.missing := removeSessions_missing _
    have hempty : ¬ (SessionKeys.missing : SessionKeys F).records.exists?
        (.jti (r.activation claims version).field) = true := Bool.false_ne_true
    unfold registerSession
    rw [hpruned, if_neg hempty]
    dsimp only
    rw [if_pos (fun e => by cases e), if_neg hempty, hd']
  obtain ⟨hranged, hrecords⟩ := ranged_store
    (show Synced (SessionKeys.missing : SessionKeys F) from .of_missing) .of_missing .of_missing
    ht.calendar ht.user ht.issued hlive ht.reads ht.fits.1 (by omega) hacc
  rw [heq]
  refine ⟨rfl, ?_, ⟨d', hranged⟩, fun f => ?_⟩
  · rw [hbase]
    rfl
  · rw [hbase]
    exact hrecords f

/-- **an activation over keys in range** -/
theorem issue_ranged (h : Ranged r userId argument k v d) (hset : r.Accepted)
    (hback : ReadsBack argument) (ht : Timely r userId argument clock claims version) :
    (claims.expiresAt ≤ clock / 1000000 ∧
      activateJti argument (r.activation claims version) clock k = (.ok (-1), k)) ∨
    (version < v ∧ activateJti argument (r.activation claims version) clock k = (.ok (-2), k)) ∨
    (v ≤ version ∧ activateJti argument (r.activation claims version) clock k =
      (.ok 0, pruneExpired k (clock / 1000000))) ∨
    (v ≤ version ∧ (activateJti argument (r.activation claims version) clock k).1 = .ok 1 ∧
      Activated r userId argument claims version clock k
        (activateJti argument (r.activation claims version) clock k).2) := by
  rw [activateJti_tests hset ht.calendar, h.version]
  by_cases he : claims.expiresAt ≤ clock / 1000000
  · rw [if_pos he]
    exact Or.inl ⟨he, rfl⟩
  · have hv : double v = v := double_eq_self (by have := h.small; omega)
    have hversion : double version = version := double_eq_self (by have := ht.fits.1; omega)
    rw [if_neg he]
    simp only [decimal?_repr, hv, hversion]
    by_cases hlt : v > version
    · rw [if_pos hlt]
      exact Or.inr (Or.inl ⟨hlt, rfl⟩)
    · rw [if_neg hlt]
      have hle : v ≤ version := Nat.not_lt.mp hlt
      rcases registerSession_ranged h hback ht (Nat.not_le.mp he) with h0 | h1
      · exact Or.inr (Or.inr (Or.inl ⟨hle, h0⟩))
      · exact Or.inr (Or.inr (Or.inr ⟨hle, h1⟩))

theorem issue_missing (hset : r.Accepted) (hback : ReadsBack argument)
    (ht : Timely r userId argument clock claims version) :
    (claims.expiresAt ≤ clock / 1000000 ∧
      activateJti argument (r.activation claims version) clock SessionKeys.missing =
        (.ok (-1), SessionKeys.missing)) ∨
    ((activateJti argument (r.activation claims version) clock SessionKeys.missing).1 = .ok 1 ∧
      Activated r userId argument claims version clock SessionKeys.missing
        (activateJti argument (r.activation claims version) clock SessionKeys.missing).2) := by
  rw [activateJti_tests hset ht.calendar]
  by_cases he : claims.expiresAt ≤ clock / 1000000
  · rw [if_pos he]
    exact Or.inl ⟨he, rfl⟩
  · rw [if_neg he]
    exact Or.inr (registerSession_first hback ht (Nat.not_le.mp he))

end

/-! ## the other scripts -/

section
variable {r : TokenRegistry F} {userId : Uuid} {argument : Nat → String} {k : SessionKeys F}
  {v d clock : Nat} {claims : AccessTokenClaims} {f : F} {value : String} {e : Nat}

theorem record_readActiveJti {decode : String → Option DecodedRecord} {field : F}
    (hvalue : k.records.lookup (.jti f) = some value) (he : k.expires.lookup f = some e)
    (hlive : clock / 1000000 < e) :
    (readActiveJti decode field clock k).2.records.lookup (.jti f) = some value := by
  unfold readActiveJti
  cases hx : k.expires.lookup field with
  | none =>
    have hne : f ≠ field := fun h => by
      rw [h, hx] at he
      cases he
    dsimp only
    rw [record_removeSession, if_neg hne]
    exact hvalue
  | some expiry =>
    dsimp only
    by_cases hexpired : expiry ≤ clock / 1000000
    · have hne : f ≠ field := fun h => by
        rw [h, hx] at he
        have := Option.some.inj he
        omega
      rw [if_pos hexpired, record_removeSession, if_neg hne]
      exact hvalue
    · rw [if_neg hexpired]
      cases k.records.lookup (.jti field) with
      | none => exact hvalue
      | some stored => exact hvalue

theorem record_pruneExpired (hvalue : k.records.lookup (.jti f) = some value)
    (he : k.expires.lookup f = some e) (hlive : clock / 1000000 < e) :
    (pruneExpired k (clock / 1000000)).records.lookup (.jti f) = some value := by
  unfold pruneExpired
  rw [record_removeSessions, if_neg, hvalue]
  intro hmem
  obtain ⟨score, hscore, hle⟩ := Slot.mem_upTo.mp hmem
  have := Option.some.inj (he.symm.trans hscore)
  omega

theorem record_listFields {decode : String → Option DecodedRecord} {version : String} {now : Nat}
    {fields : List F} {result : List Int} (hvalue : k.records.lookup (.jti f) = some value) :
    (listFields decode version now fields result k).2.records.lookup (.jti f) = some value := by
  induction fields generalizing k result with
  | nil => exact hvalue
  | cons field fields ih =>
    rw [listFields]
    cases hx : k.records.lookup (.jti field) with
    | none =>
      have hne : f ≠ field := fun h => by
        rw [h, hx] at hvalue
        cases hvalue
      refine ih ?_
      rw [record_removeSession, if_neg hne]
      exact hvalue
    | some raw =>
      dsimp only
      cases listed? decode version now (k.expires.lookup field) raw with
      | none => exact hvalue
      | some iat => exact ih hvalue

theorem record_listUserSessions {decode : String → Option DecodedRecord} {version : String}
    (hvalue : k.records.lookup (.jti f) = some value) (he : k.expires.lookup f = some e)
    (hlive : clock / 1000000 < e) :
    (listUserSessions decode version clock k).2.records.lookup (.jti f) = some value := by
  unfold listUserSessions
  by_cases hv : k.records.lookup .version ≠ some version
  · rw [if_pos hv]
    exact hvalue
  · rw [if_neg hv]
    exact record_listFields (record_pruneExpired hvalue he hlive)

/-! ## reading what is registered -/

theorem live_double {e : Nat} (hclock : clock < calendarEnd) (hlive : clock / 1000000 < e) :
    clock / 1000000 < double e := by
  unfold calendarEnd at hclock
  exact (le_double_iff (m := clock / 1000000 + 1) (by omega)).mpr hlive

namespace Ranged

theorem expiry (h : Ranged r userId argument k v d) (huser : claims.userId = userId)
    (hvalue : k.records.lookup (.jti (r.field claims.tokenId)) = some (activeJtiValue claims v)) :
    k.expires.lookup (r.field claims.tokenId) = some (double claims.expiresAt) ∧
      r.Reads claims v ∧ claims.issuedAt < 2 ^ 53 := by
  obtain ⟨c, hu, hreads, -, hv, he, hissued⟩ := h.recorded _ _ hvalue
  obtain ⟨hexp, hiat, -⟩ := activeJtiValue_inj (hu.trans huser.symm) hv
  rw [← hexp] at he
  refine ⟨he, ?_, hiat ▸ hissued⟩
  refine ⟨?_, ?_⟩
  · rw [hv, hreads.cjson, hexp, hiat]
  · rw [hv, hreads.json, hexp, hiat, hu, huser]

theorem alive_of_live (h : Ranged r userId argument k v d) (hclock : clock < calendarEnd)
    (he : k.expires.lookup f = some (double e)) (hlive : clock / 1000000 < e) :
    k.alive (clock / 1000) = k := by
  have hcovers := h.covers f _ he
  have hdouble := live_double hclock hlive
  unfold calendarEnd at hclock
  rw [h.alive, if_neg (by omega)]

theorem requireActiveJti (h : Ranged r userId argument k v d) (hclock : clock < calendarEnd)
    (huser : claims.userId = userId)
    (hvalue : k.records.lookup (.jti (r.field claims.tokenId)) = some (activeJtiValue claims v))
    (hlive : clock / 1000000 < claims.expiresAt) : r.requireActiveJti claims clock k = .ok v := by
  obtain ⟨he, hreads, -⟩ := h.expiry huser hvalue
  have hv : double v = v := double_eq_self (by have := h.small; omega)
  have hnot : ¬ double claims.expiresAt ≤ clock / 1000000 :=
    Nat.not_le.mpr (live_double hclock hlive)
  have horder : k.order.exists? (r.field claims.tokenId) = true := by
    unfold Slot.exists?
    rw [Option.isSome_iff_ne_none]
    intro hnone
    rw [(h.synced.records _).mpr hnone] at hvalue
    cases hvalue
  have hreadable : readable r.cjsonDecode k (r.field claims.tokenId) (double claims.expiresAt)
      (activeJtiValue claims v) = true := by
    unfold readable
    rw [hreads.cjson, hv]
    simp [h.version, tostring_eq h.small, horder]
  have hread : (readActiveJti r.cjsonDecode (r.field claims.tokenId) clock k).1 =
      some (activeJtiValue claims v) := by
    unfold readActiveJti
    rw [he]
    dsimp only
    rw [if_neg hnot, hvalue]
    exact if_pos hreadable
  show r.checkActiveJti claims (readActiveJti r.cjsonDecode (r.field claims.tokenId) clock
    (k.alive (clock / 1000))).1 = .ok v
  rw [h.alive_of_live hclock he hlive, hread]
  unfold TokenRegistry.checkActiveJti
  dsimp only
  rw [hreads.json]
  simp

theorem listActiveSessions (h : Ranged r userId argument k v d) (hclock : clock < calendarEnd)
    (huser : claims.userId = userId)
    (hvalue : k.records.lookup (.jti (r.field claims.tokenId)) = some (activeJtiValue claims v))
    (hlive : clock / 1000000 < claims.expiresAt) :
    ∃ times, r.listActiveSessions v clock k = .ok times ∧ (claims.issuedAt : Int) ∈ times := by
  obtain ⟨he, hreads, hissued⟩ := h.expiry huser hvalue
  have hp : Ranged r userId argument (pruneExpired k (clock / 1000000)) v d := h.removeSessions _
  have hexact : double v = v := double_eq_self (by have := h.small; omega)
  have hsessions : ∀ s ∈ sessions (pruneExpired k (clock / 1000000)),
      ((pruneExpired k (clock / 1000000)).records.lookup (.jti s.field) = some s.record ∧
        (pruneExpired k (clock / 1000000)).expires.lookup s.field = some s.expiresAt) ∧
      clock / 1000000 < s.expiresAt ∧ ∃ iat : Nat, issuedAt r.cjsonDecode s.record = iat ∧
        r.cjsonDecode s.record = some ⟨some (v : Int), some (s.expiresAt : Int), some (iat : Int)⟩ := by
    intro s hs
    obtain ⟨hrecord, hexpires⟩ := hp.synced.mem_sessions.mp hs
    obtain ⟨c, -, hc, -, hv, hexp, hiat⟩ := hp.recorded _ _ hrecord
    have hsame : s.expiresAt = double c.expiresAt := Option.some.inj (hexpires.symm.trans hexp)
    rw [sessions_pruneExpired] at hs
    have hdecode := hc.cjson
    rw [← hv, hexact, double_eq_self hiat, ← hsame] at hdecode
    refine ⟨⟨hrecord, hexpires⟩, of_decide_eq_true (List.mem_filter.mp hs).2, c.issuedAt, ?_, hdecode⟩
    unfold issuedAt
    rw [hdecode]
    rfl
  have hlist : (listUserSessions r.cjsonDecode (Nat.repr v) clock k).1 =
      .ok ((sessions (pruneExpired k (clock / 1000000))).map fun s =>
        issuedAt r.cjsonDecode s.record) := by
    unfold listUserSessions
    rw [h.version, if_neg (not_not.mpr rfl)]
    dsimp only
    rw [← hp.synced.fields, listFields_sessions h.small [] hsessions]
    rfl
  unfold TokenRegistry.listActiveSessions
  rw [h.alive_of_live hclock he hlive, hlist]
  dsimp only
  rw [if_neg]
  · refine ⟨_, rfl, List.mem_map.mpr ⟨⟨r.field claims.tokenId, activeJtiValue claims v,
      double claims.expiresAt⟩, ?_, ?_⟩⟩
    · rw [hp.synced.mem_sessions]
      have hlive' := live_double hclock hlive
      refine ⟨record_pruneExpired hvalue he hlive', ?_⟩
      unfold pruneExpired
      rw [expiry_removeSessions, if_neg]
      · exact he
      · intro hmem
        obtain ⟨score, hscore, hle⟩ := Slot.mem_upTo.mp hmem
        have := Option.some.inj (he.symm.trans hscore)
        omega
    · unfold issuedAt
      rw [hreads.cjson, double_eq_self hissued]
      rfl
  · rw [List.any_map, List.any_eq_true]
    rintro ⟨s, hs, hneg⟩
    obtain ⟨-, -, iat, hiat, -⟩ := hsessions s hs
    have hneg' : issuedAt r.cjsonDecode s.record < 0 := of_decide_eq_true hneg
    omega

end Ranged

end

/-! ## steps -/

def InRange (r : TokenRegistry F) (userId : Uuid) (argument : Nat → String) (k : SessionKeys F) :
    Prop :=
  k = SessionKeys.missing ∨ ∃ v d, Ranged r userId argument k v d

/-- whatever is held afterwards was held before -/
structure RegistersNothing (k k' : SessionKeys F) : Prop where
  records : ∀ field value, k'.records.lookup field = some value → k.records.lookup field = some value
  order : ∀ f score, k'.order.lookup f = some score → k.order.lookup f = some score
  expires : ∀ f e, k'.expires.lookup f = some e → k.expires.lookup f = some e

/-- a call ends a session: its revocation, a newer version, or its eviction -/
def EndsSession (r : TokenRegistry F) (argument : Nat → String) (claims : AccessTokenClaims)
    (version clock : Nat) (k : SessionKeys F) : SessionCall → Prop
  | .issue c w => (r.serve argument clock k (.issue c w)).1 = some (.integer 1) ∧
      (version < w ∨ r.field claims.tokenId ∈ evicted (r.activation c w) clock
        (issueBase r c w clock (k.alive (clock / 1000))))
  | .revoke c w => r.field c.tokenId = r.field claims.tokenId ∧
      activeJtiValue c w = activeJtiValue claims version
  | _ => False

namespace RegistersNothing
variable {k k' k'' : SessionKeys F}

theorem refl (k : SessionKeys F) : RegistersNothing k k :=
  ⟨fun _ _ h => h, fun _ _ h => h, fun _ _ h => h⟩

theorem trans (h : RegistersNothing k k') (h' : RegistersNothing k' k'') : RegistersNothing k k'' :=
  ⟨fun f v hv => h.records f v (h'.records f v hv), fun f s hs => h.order f s (h'.order f s hs),
    fun f e he => h.expires f e (h'.expires f e he)⟩

theorem alive (k : SessionKeys F) (now : Nat) : RegistersNothing k (k.alive now) :=
  ⟨fun _ _ h => Slot.lookup_of_alive h, fun _ _ h => Slot.lookup_of_alive h,
    fun _ _ h => Slot.lookup_of_alive h⟩

theorem removeSession (k : SessionKeys F) (f : F) : RegistersNothing k (removeSession k f) := by
  refine ⟨fun field value h => ?_, fun g score h => ?_, fun g e h => ?_⟩
  · have herase : (k.records.erase (.jti f)).lookup field = some value := h
    rw [Slot.lookup_erase] at herase
    split at herase
    · cases herase
    · exact herase
  · rw [order_removeSession] at h
    split at h
    · cases h
    · exact h
  · rw [expiry_removeSession] at h
    split at h
    · cases h
    · exact h

theorem removeSessions (k : SessionKeys F) (fs : List F) :
    RegistersNothing k (removeSessions k fs) := by
  induction fs generalizing k with
  | nil => exact refl k
  | cons f fs ih => exact (removeSession k f).trans (ih _)

end RegistersNothing

section
variable {r : TokenRegistry F} {userId : Uuid} {argument : Nat → String} {k : SessionKeys F}
  {v d clock : Nat} {claims c : AccessTokenClaims} {version w : Nat}

theorem InRange.alive (h : InRange r userId argument k) (now : Nat) :
    InRange r userId argument (k.alive now) := by
  rcases h with rfl | ⟨v, d, h⟩
  · exact Or.inl rfl
  · rw [h.alive]
    split
    · exact Or.inl rfl
    · exact Or.inr ⟨v, d, h⟩

theorem InRange.removeSessions (h : InRange r userId argument k) (fs : List F) :
    InRange r userId argument (removeSessions k fs) := by
  rcases h with rfl | ⟨v, d, h⟩
  · exact Or.inl (removeSessions_missing fs)
  · exact Or.inr ⟨v, d, h.removeSessions fs⟩

theorem InRange.issue (h : InRange r userId argument k) (hset : r.Accepted)
    (hback : ReadsBack argument) (ht : Timely r userId argument clock c w) :
    ((∃ n, n ≠ 1 ∧ ∃ fs, activateJti argument (r.activation c w) clock k =
        (.ok n, PgRbac.removeSessions k fs))) ∨
      (activateJti argument (r.activation c w) clock k).1 = .ok 1 ∧
        (∀ v d, Ranged r userId argument k v d → v ≤ w) ∧
        Activated r userId argument c w clock k
          (activateJti argument (r.activation c w) clock k).2 := by
  rcases h with rfl | ⟨v, d, h⟩
  · rcases issue_missing hset hback ht with ⟨-, he⟩ | ⟨h1, hstored⟩
    · exact Or.inl ⟨-1, by decide, [], he⟩
    · refine Or.inr ⟨h1, fun v d hv => ?_, hstored⟩
      cases hv.version
  · rcases issue_ranged h hset hback ht with ⟨-, he⟩ | ⟨-, he⟩ | ⟨-, he⟩ | ⟨hle, h1, hstored⟩
    · exact Or.inl ⟨-1, by decide, [], he⟩
    · exact Or.inl ⟨-2, by decide, [], he⟩
    · exact Or.inl ⟨0, by decide, _, he⟩
    · refine Or.inr ⟨h1, fun v' d' hv => ?_, hstored⟩
      have hsame := Nat.repr_inj.mp (Option.some.inj (hv.version.symm.trans h.version))
      omega

theorem serve_issue : (r.serve argument clock k (.issue c w)).1 =
      replyOf (activateJti argument (r.activation c w) clock (k.alive (clock / 1000))).1 ∧
    (r.serve argument clock k (.issue c w)).2 =
      (activateJti argument (r.activation c w) clock (k.alive (clock / 1000))).2 := ⟨rfl, rfl⟩

theorem serve_removes {call : SessionCall} (h : ∀ c w, call ≠ .issue c w) :
    ∃ fs, (r.serve argument clock k call).2 = removeSessions (k.alive (clock / 1000)) fs := by
  cases call with
  | issue c w => exact absurd rfl (h c w)
  | require c =>
    have hread : ∀ a, r.checkCall c ≠ .activate a := fun a e => by cases e
    exact eval_removes r.cjsonDecode hread argument clock k
  | revoke c w =>
    have hrevoke : ∀ a, r.revokeCall c w ≠ .activate a := fun a e => by cases e
    exact eval_removes r.cjsonDecode hrevoke argument clock k
  | list w =>
    have hlist : ∀ a, (ScriptCall.list w : ScriptCall F) ≠ .activate a := fun a e => by cases e
    exact eval_removes r.cjsonDecode hlist argument clock k

/-- what makes a call one that the theorem is about -/
def Timed (r : TokenRegistry F) (userId : Uuid) (argument : Nat → String) (clock : Nat)
    (call : SessionCall) : Prop :=
  clock < calendarEnd ∧ ∀ c w, call = .issue c w → Timely r userId argument clock c w

theorem InRange.serve (h : InRange r userId argument k) (hset : r.Accepted)
    (hback : ReadsBack argument) {call : SessionCall} (ht : Timed r userId argument clock call) :
    InRange r userId argument (r.serve argument clock k call).2 := by
  by_cases hcall : ∀ c w, call ≠ .issue c w
  · obtain ⟨fs, hfs⟩ : ∃ fs, (r.serve argument clock k call).2 =
        PgRbac.removeSessions (k.alive (clock / 1000)) fs := serve_removes hcall
    rw [hfs]
    exact (h.alive _).removeSessions fs
  · simp only [not_forall, not_not] at hcall
    obtain ⟨c, w, rfl⟩ := hcall
    rw [serve_issue.2]
    rcases (h.alive (clock / 1000)).issue hset hback (ht.2 c w rfl) with
      ⟨n, -, fs, he⟩ | ⟨-, -, hstored⟩
    · rw [he]
      exact (h.alive _).removeSessions fs
    · obtain ⟨d, hd⟩ := hstored.ranged
      exact Or.inr ⟨w, d, hd⟩

/-- **a registered session survives every call that does not end it** -/
theorem InRange.keeps (h : InRange r userId argument k) (hset : r.Accepted)
    (hback : ReadsBack argument) {call : SessionCall} (ht : Timed r userId argument clock call)
    (hranged : ∃ d, Ranged r userId argument k v d) (huser : claims.userId = userId)
    (hvalue : k.records.lookup (.jti (r.field claims.tokenId)) = some (activeJtiValue claims v))
    (hlive : clock / 1000000 < claims.expiresAt) (hends : ¬ EndsSession r argument claims v clock k call) :
    (∃ d, Ranged r userId argument (r.serve argument clock k call).2 v d) ∧
      (r.serve argument clock k call).2.records.lookup (.jti (r.field claims.tokenId)) =
        some (activeJtiValue claims v) := by
  obtain ⟨d, hd⟩ := hranged
  obtain ⟨he, -, -⟩ := hd.expiry huser hvalue
  have halive := hd.alive_of_live ht.1 he hlive
  have hlive' := live_double ht.1 hlive
  by_cases hcall : ∀ c w, call ≠ .issue c w
  · obtain ⟨fs, hfs⟩ : ∃ fs, (r.serve argument clock k call).2 =
        PgRbac.removeSessions (k.alive (clock / 1000)) fs := serve_removes hcall
    refine ⟨⟨d, by rw [hfs, halive]; exact hd.removeSessions fs⟩, ?_⟩
    cases call with
    | issue c w => exact absurd rfl (hcall c w)
    | require c =>
      show (readActiveJti r.cjsonDecode (r.field c.tokenId) clock
        (k.alive (clock / 1000))).2.records.lookup _ = _
      rw [halive]
      exact record_readActiveJti hvalue he hlive'
    | list w =>
      show (listUserSessions r.cjsonDecode (Nat.repr w) clock
        (k.alive (clock / 1000))).2.records.lookup _ = _
      rw [halive]
      exact record_listUserSessions hvalue he hlive'
    | revoke c w =>
      show (compareAndDelete (r.field c.tokenId) (activeJtiValue c w) clock
        (k.alive (clock / 1000))).2.records.lookup _ = _
      rw [halive]
      obtain ⟨gs, hgs⟩ := compareAndDelete_eq (r.field c.tokenId) (activeJtiValue c w) clock k
      cases hafter : (compareAndDelete (r.field c.tokenId) (activeJtiValue c w) clock
          k).2.records.lookup (.jti (r.field claims.tokenId)) with
      | none =>
        obtain ⟨hfield, hrecord⟩ := compareAndDelete_removes hvalue hafter
        rcases hrecord with hsame | hexpired
        · exact absurd ⟨hfield.symm, hsame.symm⟩ hends
        · have := hexpired _ he
          omega
      | some value =>
        rw [hgs] at hafter
        rw [← hvalue]
        exact ((RegistersNothing.removeSessions k gs).records _ _ hafter).symm
  · simp only [not_forall, not_not] at hcall
    obtain ⟨c, w, rfl⟩ := hcall
    rw [serve_issue.2, halive]
    rcases issue_ranged hd hset hback (ht.2 c w rfl) with ⟨-, hr⟩ | ⟨-, hr⟩ | ⟨-, hr⟩ | ⟨hle, h1, hr⟩
    · rw [hr]
      exact ⟨⟨d, hd⟩, hvalue⟩
    · rw [hr]
      exact ⟨⟨d, hd⟩, hvalue⟩
    · rw [hr]
      exact ⟨⟨d, hd.removeSessions _⟩, record_pruneExpired hvalue he hlive'⟩
    · have hreply : (r.serve argument clock k (.issue c w)).1 = some (.integer 1) := by
        rw [serve_issue.1, halive, h1]
        rfl
      have hversion : w = v := by
        by_contra hne
        exact hends ⟨hreply, Or.inl (by omega)⟩
      have hkept : r.field claims.tokenId ∉ evicted (r.activation c w) clock
          (issueBase r c w clock k) := fun hmem => hends ⟨hreply, Or.inr (by rw [halive]; exact hmem)⟩
      have hbase : issueBase r c w clock k = pruneExpired k (clock / 1000000) := by
        have hsame : ¬ some (Nat.repr v) ≠ some (Nat.repr (r.activation c v).version) :=
          not_not.mpr rfl
        unfold issueBase activationBase
        rw [hd.version, hversion, if_neg hsame]
      have hpruned := record_pruneExpired hvalue he hlive'
      have hfield : r.field claims.tokenId ≠ r.field c.tokenId := by
        intro hsame
        have hfresh := hr.fresh
        rw [← hsame, hbase, hpruned] at hfresh
        cases hfresh
      obtain ⟨d', hd'⟩ := hr.ranged
      refine ⟨⟨d', hversion ▸ hd'⟩, ?_⟩
      rw [hr.records, if_neg hkept, if_neg hfield, hbase]
      exact hpruned

end

/-! ## runs -/

section
variable {r : TokenRegistry F} {userId : Uuid} {argument : Nat → String}
  {st : Nat → Nat × SessionKeys F} {lab : Nat → Nat × SessionCall} {n : Nat}

theorem timed_run (hrun : IsRun (sessionRegistry r argument userId) st lab n)
    (hreads : ∀ i < n, ∀ c w, (lab i).2 = .issue c w → r.Reads c w)
    (hfits : ∀ i < n, ∀ c w, (lab i).2 = .issue c w → Fits argument c w) {i : Nat} (hi : i < n) :
    Timed r userId argument (lab i).1 (lab i).2 := by
  obtain ⟨-, hcalendar, hissuable, -⟩ := hrun.next i hi
  refine ⟨hcalendar, fun c w hcall => ?_⟩
  rw [hcall] at hissuable
  obtain ⟨-, -, tokenId, now, hclaims, hnow⟩ := hissuable
  refine ⟨hcalendar, ?_, ?_, hreads i hi c w hcall, hfits i hi c w hcall⟩
  · rw [hclaims]
    rfl
  · rw [hclaims]
    exact hnow

theorem inRange_run (hset : r.Accepted) (hback : ReadsBack argument)
    (hrun : IsRun (sessionRegistry r argument userId) st lab n)
    (htimed : ∀ i < n, Timed r userId argument (lab i).1 (lab i).2) {i : Nat} (hi : i ≤ n) :
    InRange r userId argument (st i).2 := by
  refine IsRun.history (P := fun i => InRange r userId argument (st i).2) (Or.inl hrun.start) ?_ hi
  intro i hi h
  obtain ⟨-, -, -, hnext⟩ := hrun.next i hi
  rw [hnext]
  exact h.serve hset hback (htimed i hi)

theorem clock_run (hrun : IsRun (sessionRegistry r argument userId) st lab n) {i j : Nat}
    (hij : i < j) (hj : j ≤ n) : (lab i).1 ≤ (st j).1 := by
  have hmono := hrun.mono (f := Prod.fst) (fun s e s' _ h => by
    rw [h.2.2.2]
    exact h.1) (show i + 1 ≤ j from hij) hj
  obtain ⟨-, -, -, hnext⟩ := hrun.next i (hij.trans_le hj)
  rw [hnext] at hmono
  exact hmono

theorem reply_one {user : AuthenticatedPasswordUser} {attempt : Nat} {c : AccessTokenClaims}
    {reply : Except String Int} (h : afterRegister user attempt c (replyOf reply) = .finished (.ok c)) :
    reply = .ok 1 := by
  unfold replyOf at h
  cases reply with
  | error message => cases h
  | ok m =>
    dsimp only at h
    unfold afterRegister at h
    split at h
    · rename_i heq
      cases heq
      rfl
    · cases h
    · split at h
      · cases h
      · cases h
    · cases h

/-- **In every run whose numbers fit, a token that `issue_access_token` returns is accepted with its
version, and listed with it, until it expires or a call ends it; an activation of a smaller version
is answered by `-2`; and one that is not answered by 1 registers nothing.** -/
theorem session_range (hset : r.Accepted) (hback : ReadsBack argument)
    (hrun : IsRun (sessionRegistry r argument userId) st lab n)
    (hreads : ∀ i < n, ∀ c w, (lab i).2 = .issue c w → r.Reads c w)
    (hfits : ∀ i < n, ∀ c w, (lab i).2 = .issue c w → Fits argument c w) :
    (∀ i j c v user attempt t, i < j → j ≤ n → (lab i).2 = .issue c v →
      afterRegister user attempt c (r.serve argument (lab i).1 (st i).2 (lab i).2).1 =
        .finished (.ok c) →
      (∀ m, i ≤ m → m < j → ¬ EndsSession r argument c v (lab m).1 (st m).2 (lab m).2) →
      (st j).1 ≤ t → t / 1000000 < c.expiresAt → t < calendarEnd →
      r.requireActiveJti c t (st j).2 = .ok v ∧
        ∃ times, r.listActiveSessions v t (st j).2 = .ok times ∧ (c.issuedAt : Int) ∈ times) ∧
    (∀ i < n, ∀ c v w, (lab i).2 = .issue c v →
      ((st i).2.alive ((lab i).1 / 1000)).records.lookup .version = some (Nat.repr w) → v < w →
      (lab i).1 / 1000000 < c.expiresAt →
      (r.serve argument (lab i).1 (st i).2 (lab i).2).1 = some (.integer (-2))) ∧
    ∀ i < n, ∀ c v, (lab i).2 = .issue c v →
      (r.serve argument (lab i).1 (st i).2 (lab i).2).1 ≠ some (.integer 1) →
      RegistersNothing (st i).2 (st (i + 1)).2 := by
  have htimed : ∀ i < n, Timed r userId argument (lab i).1 (lab i).2 :=
    fun i hi => timed_run hrun hreads hfits hi
  have hrange : ∀ i ≤ n, InRange r userId argument (st i).2 :=
    fun i hi => inRange_run hset hback hrun htimed hi
  refine ⟨?_, ?_, ?_⟩
  · intro i j c v user attempt t hij hj hcall hissued hends hclock hlive hcalendar
    have hi : i < n := hij.trans_le hj
    have ht := (htimed i hi).2 c v hcall
    have hlater : ∀ m < j, (lab m).1 / 1000000 < c.expiresAt := fun m hm => by
      have := clock_run hrun hm hj
      omega
    -- the session is registered behind the activation, and from then on no call ends it
    have hkept : ∀ m, i + 1 ≤ m → m ≤ j → (∃ d, Ranged r userId argument (st m).2 v d) ∧
        (st m).2.records.lookup (.jti (r.field c.tokenId)) = some (activeJtiValue c v) := by
      intro m him
      induction m, him using Nat.le_induction with
      | base =>
        intro _
        obtain ⟨-, -, -, hnext⟩ := hrun.next i hi
        rw [hcall] at hissued hnext
        rw [hnext, serve_issue.2]
        rw [serve_issue.1] at hissued
        have hone := reply_one hissued
        rcases ((hrange i (Nat.le_of_lt hi)).alive ((lab i).1 / 1000)).issue hset hback ht with
          ⟨m, hm, fs, he⟩ | ⟨-, -, hstored⟩
        · rw [he] at hone
          exact absurd (Except.ok.inj hone) hm
        · refine ⟨hstored.ranged, ?_⟩
          have hnot := hends i (Nat.le_refl i) hij
          rw [hcall] at hnot
          have hreply : (r.serve argument (lab i).1 (st i).2 (.issue c v)).1 =
              some (.integer 1) := by
            rw [serve_issue.1, hone]
            rfl
          rw [hstored.records, if_neg (fun hmem => hnot ⟨hreply, Or.inr hmem⟩), if_pos rfl]
      | succ m him ih =>
        intro hm
        obtain ⟨hranged, hvalue⟩ := ih (Nat.le_of_succ_le hm)
        have hmn : m < n := Nat.lt_of_lt_of_le hm hj
        obtain ⟨-, -, -, hnext⟩ := hrun.next m hmn
        rw [hnext]
        exact (hrange m (Nat.le_of_lt hmn)).keeps hset hback (htimed m hmn) hranged ht.user hvalue
          (hlater m hm) (hends m (by omega) hm)
    obtain ⟨⟨d, hd⟩, hvalue⟩ := hkept j hij (Nat.le_refl j)
    exact ⟨hd.requireActiveJti hcalendar ht.user hvalue hlive,
      hd.listActiveSessions hcalendar ht.user hvalue hlive⟩
  · intro i hi c v w hcall hversion hlt hlive
    rw [hcall, serve_issue.1]
    rcases (hrange i (Nat.le_of_lt hi)).alive ((lab i).1 / 1000) with hmissing | ⟨v', d, hd⟩
    · rw [hmissing] at hversion
      cases hversion
    · have hsame : v' = w := Nat.repr_inj.mp (Option.some.inj (hd.version.symm.trans hversion))
      rcases issue_ranged hd hset hback ((htimed i hi).2 c v hcall) with
        ⟨he, -⟩ | ⟨-, he⟩ | ⟨hle, -⟩ | ⟨hle, -⟩
      · omega
      · rw [he]
        rfl
      · omega
      · omega
  · intro i hi c v hcall hreply
    obtain ⟨-, -, -, hnext⟩ := hrun.next i hi
    rw [hnext, hcall, serve_issue.2]
    rw [hcall, serve_issue.1] at hreply
    rcases ((hrange i (Nat.le_of_lt hi)).alive ((lab i).1 / 1000)).issue hset hback
        ((htimed i hi).2 c v hcall) with ⟨m, -, fs, he⟩ | ⟨hone, -, -⟩
    · rw [he]
      exact (RegistersNothing.alive _ _).trans (.removeSessions _ fs)
    · rw [hone] at hreply
      exact absurd rfl hreply

end

/-! ## numbers that do not fit -/

theorem tostring_large {n : Nat} (h : 10 ^ 14 ≤ n) (m : Nat) : tostring (n : Int) ≠ Nat.repr m := by
  intro heq
  have hdigits : ∀ c ∈ (Nat.repr m).toList, c.isDigit = true := fun c hc => by
    rw [Nat.toList_repr] at hc
    exact Nat.isDigit_of_mem_toDigits (by omega) (by omega) hc
  have hplus : '+' ∈ (tostring (n : Int)).toList ∨ tostring (n : Int) = "" := by
    rw [tostring, if_neg (by omega), Int.natAbs_natCast, tostring.unsigned, if_neg (by omega)]
    unfold scientific
    dsimp only
    split
    · exact Or.inr rfl
    · refine Or.inl ?_
      rw [String.toList_append, String.toList_append]
      exact List.mem_append_left _ (List.mem_append_right _ (by decide))
  rw [heq] at hplus
  rcases hplus with hmem | hempty
  · exact absurd (hdigits '+' hmem) (by decide)
  · have hread := decimal?_repr m
    rw [hempty] at hread
    cases hread

/-- **a token of a version with more than 14 digits is never accepted** -/
theorem version_unreadable {r : TokenRegistry F} {c : AccessTokenClaims} {v w clock : Nat}
    {k : SessionKeys F} (hreads : r.Reads c v) (hv : 10 ^ 14 ≤ v)
    (hversion : (k.alive (clock / 1000)).records.lookup .version = some (Nat.repr w))
    (hvalue : (k.alive (clock / 1000)).records.lookup (.jti (r.field c.tokenId)) =
      some (activeJtiValue c v)) :
    r.requireActiveJti c clock k = .error (unauthenticated "inactive_access_token") := by
  have hlarge : 10 ^ 14 ≤ double v := (le_double_iff (by decide)).mpr hv
  have hread : (readActiveJti r.cjsonDecode (r.field c.tokenId) clock (k.alive (clock / 1000))).1 =
      none := by
    unfold readActiveJti
    cases (k.alive (clock / 1000)).expires.lookup (r.field c.tokenId) with
    | none => rfl
    | some expiry =>
      dsimp only
      split
      · rfl
      · rw [hvalue]
        dsimp only
        rw [if_neg]
        unfold readable
        rw [hreads.cjson]
        simp only [hversion, decide_eq_true_eq]
        intro hall
        exact tostring_large hlarge w (Option.some.inj hall.2.1).symm
  show r.checkActiveJti c (readActiveJti r.cjsonDecode (r.field c.tokenId) clock
    (k.alive (clock / 1000))).1 = _
  rw [hread]
  rfl

/-! ## a version in range, and one beyond it -/

def oneRecord (version : Nat) : TokenRegistry Nat where
  field := BitVec.toNat
  accessTokenTtlSeconds := 86400
  maxActiveSessionsPerUser := 5
  cjsonDecode := fun text =>
    if text = activeJtiValue aliceToken version then
      some ⟨some (double version : Nat), some (double 86500 : Nat), some (double 100 : Nat)⟩
    else none
  parse := fun text =>
    if text = activeJtiValue aliceToken version then some (alice, version, 100, 86500) else none

theorem oneRecord_reads (version : Nat) : (oneRecord version).Reads aliceToken version :=
  ⟨if_pos rfl, if_pos rfl⟩

theorem readsBack_repr : ReadsBack Nat.repr := by
  intro n d h
  rw [decimal?_repr] at h
  rw [← Option.some.inj h, double_double]

def oneLogin (version : Nat) (i : Nat) : Nat × SessionCall := (100000000, .issue aliceToken version)

def oneLoginStates (version : Nat) : Nat → Nat × SessionKeys Nat
  | 0 => (0, .missing)
  | i + 1 => ((oneLogin version i).1, ((oneRecord version).serve Nat.repr (oneLogin version i).1
      (oneLoginStates version i).2 (oneLogin version i).2).2)

theorem oneLogin_run {version : Nat} (h : version < 2 ^ 63) :
    IsRun (sessionRegistry (oneRecord version) Nat.repr alice) (oneLoginStates version)
      (oneLogin version) 1 := by
  refine ⟨rfl, fun i hi => ?_⟩
  have hzero : i = 0 := by omega
  subst hzero
  have hexpiry : 100 + (oneRecord version).accessTokenTtlSeconds = 86500 := by
    show 100 + 86400 = 86500
    omega
  have hclaims : aliceToken = (oneRecord version).claims alice bob 100 := by
    unfold TokenRegistry.claims
    rw [hexpiry]
    rfl
  have hcalendar : 100000000 < calendarEnd := by decide
  have hnow : 100 ≤ 100000000 / 1000000 := by decide
  exact ⟨Nat.zero_le _, hcalendar, ⟨by decide, h, bob, 100, hclaims, hnow⟩, rfl⟩

theorem session_range_login : (oneRecord 7).requireActiveJti aliceToken 150000000
      (oneLoginStates 7 1).2 = .ok 7 ∧
    ∃ times, (oneRecord 7).listActiveSessions 7 150000000 (oneLoginStates 7 1).2 = .ok times ∧
      (100 : Int) ∈ times := by
  have hone : (activateJti Nat.repr ((oneRecord 7).activation aliceToken 7) 100000000
      SessionKeys.missing).1 = .ok 1 := by decide +kernel
  have hkept : (evicted ((oneRecord 7).activation aliceToken 7) 100000000
      (issueBase (oneRecord 7) aliceToken 7 100000000 SessionKeys.missing)) = [] := by decide +kernel
  have hcalls : ∀ i < 1, ∀ c w, (oneLogin 7 i).2 = .issue c w → c = aliceToken ∧ w = 7 := by
    intro i _ c w h
    cases h
    exact ⟨rfl, rfl⟩
  refine (session_range ⟨by decide, by decide⟩ readsBack_repr (oneLogin_run (by decide)) ?_ ?_).1
    0 1 aliceToken 7 ⟨alice, 7, false⟩ 0 150000000 (by decide) (by decide) rfl ?_ ?_ (by decide)
    (by decide) (by decide)
  · intro i hi c w h
    obtain ⟨rfl, rfl⟩ := hcalls i hi c w h
    exact oneRecord_reads 7
  · intro i hi c w h
    obtain ⟨rfl, rfl⟩ := hcalls i hi c w h
    exact ⟨by decide, by decide +kernel⟩
  · exact congrArg (fun reply => afterRegister _ 0 aliceToken (replyOf reply)) hone
  · intro m _ hm hends
    have hzero : m = 0 := by omega
    subst hzero
    rcases hends.2 with hlt | hmem
    · exact absurd hlt (by decide)
    · have hmem' : _ ∈ evicted ((oneRecord 7).activation aliceToken 7) 100000000
        (issueBase (oneRecord 7) aliceToken 7 100000000 SessionKeys.missing) := hmem
      rw [hkept] at hmem'
      cases hmem'

/-- the first version with 15 digits is registered, and refused at once -/
theorem fifteen_digits_unreadable :
    (oneRecord (10 ^ 14)).Accepted ∧ ReadsBack Nat.repr ∧
    IsRun (sessionRegistry (oneRecord (10 ^ 14)) Nat.repr alice) (oneLoginStates (10 ^ 14))
      (oneLogin (10 ^ 14)) 1 ∧
    (oneRecord (10 ^ 14)).Reads aliceToken (10 ^ 14) ∧
    afterRegister ⟨alice, 10 ^ 14, false⟩ 0 aliceToken ((oneRecord (10 ^ 14)).serve Nat.repr
      (oneLogin (10 ^ 14) 0).1 (oneLoginStates (10 ^ 14) 0).2 (oneLogin (10 ^ 14) 0).2).1 =
        .finished (.ok aliceToken) ∧
    evicted ((oneRecord (10 ^ 14)).activation aliceToken (10 ^ 14)) 100000000
      (issueBase (oneRecord (10 ^ 14)) aliceToken (10 ^ 14) 100000000 SessionKeys.missing) = [] ∧
    100000000 / 1000000 < aliceToken.expiresAt ∧
    (oneRecord (10 ^ 14)).requireActiveJti aliceToken 100000000 (oneLoginStates (10 ^ 14) 1).2 =
      .error (unauthenticated "inactive_access_token") := by
  have hone : (activateJti Nat.repr ((oneRecord (10 ^ 14)).activation aliceToken (10 ^ 14))
      100000000 SessionKeys.missing).1 = .ok 1 := by decide +kernel
  refine ⟨⟨by decide, by decide⟩, readsBack_repr, oneLogin_run (by decide), oneRecord_reads _, ?_,
    by decide +kernel, by decide, ?_⟩
  · exact congrArg (fun reply => afterRegister _ 0 aliceToken (replyOf reply)) hone
  · have hversion : ((oneLoginStates (10 ^ 14) 1).2.alive (100000000 / 1000)).records.lookup .version =
        some (Nat.repr (10 ^ 14)) := by decide +kernel
    have hvalue : ((oneLoginStates (10 ^ 14) 1).2.alive (100000000 / 1000)).records.lookup
        (.jti ((oneRecord (10 ^ 14)).field aliceToken.tokenId)) =
          some (activeJtiValue aliceToken (10 ^ 14)) := by decide +kernel
    exact version_unreadable (oneRecord_reads _) (Nat.le_refl _) hversion hvalue

end PgRbac
