import PgRbac.Watermark

/-!
# What the session registry is for

A registry keeps one token version until a deadline, and the sessions of that version in the order
of their activation.  The four scripts refine it: whatever the three keys still hold of expired
sessions, every script answers as the registry does.

* `Registry`, `Registry.eval`    the plain model;
* `sessions`                     the sessions that the keys hold, in order of activation;
* `Simulates`                    the keys stand for a registry;
* `scripts_refine`               the answers of a run of scripts are those of the registry.
-/

set_option linter.unusedSectionVars false

namespace PgRbac

open Redis Trace

variable {F : Type} [LinearOrder F]

/-! ## the plain model -/

@[ext] structure Session (F : Type) where
  field : F
  record : String
  expiresAt : Nat

def Activation.session (a : Activation F) : Session F := ⟨a.field, a.record, a.expiresAt.toNat⟩

/-- a version with the time, in milliseconds, until which it is kept, and the live sessions -/
structure Registry (F : Type) where
  version : Option (Nat × Nat)
  sessions : List (Session F)

namespace Registry

def empty : Registry F := ⟨none, []⟩

/-- what is left of a registry when the clock has moved on -/
def at' (clock : Nat) (r : Registry F) : Registry F where
  version := r.version.filter fun v => clock / 1000 ≤ v.2
  sessions := r.sessions.filter fun s => clock / 1000000 < s.expiresAt

def activate (a : Activation F) (clock : Nat) (r : Registry F) : Int × Registry F :=
  if a.expiresAt.toNat ≤ clock / 1000000 then (-1, r)
  else if ∃ v ∈ r.version, a.version < v.1 then (-2, r)
  else
    let kept := if r.version.map Prod.fst = some a.version then r.sessions else []
    let all := kept ++ [a.session]
    (1, ⟨some (a.version, max ((r.version.map Prod.snd).getD 0) (a.expiresAt.toNat * 1000)),
      all.drop (all.length - a.maximum.toNat)⟩)

def session? (r : Registry F) (field : F) : Option (Session F) :=
  r.sessions.find? (·.field = field)

def revoke (field : F) (record : String) (r : Registry F) : Int × Registry F :=
  match r.session? field with
  | none => (0, r)
  | some s =>
    if s.record ≠ record then (-1, r)
    else (1, { r with sessions := r.sessions.filter (·.field ≠ field) })

def list (issuedAt : String → Int) (version : Nat) (r : Registry F) : List Int :=
  if r.version.map Prod.fst = some version then r.sessions.map (issuedAt ·.record) else []

def eval (issuedAt : String → Int) (call : ScriptCall F) (clock : Nat) (r : Registry F) :
    Reply × Registry F :=
  let r := r.at' clock
  match call with
  | .activate a => (r.activate a clock).map .integer id
  | .read field => (.value ((r.session? field).map Session.record), r)
  | .revoke field record => (r.revoke field record).map .integer id
  | .list version => (.listing (.ok (r.list issuedAt version)), r)

end Registry

/-! ## the sessions that the keys hold -/

def sessionAt (k : SessionKeys F) (field : F) : Option (Session F) :=
  match k.records.lookup (.jti field), k.expires.lookup field with
  | some record, some expiresAt => some ⟨field, record, expiresAt⟩
  | _, _ => none

def sessions (k : SessionKeys F) : List (Session F) :=
  (k.order.elements.map Prod.fst).filterMap (sessionAt k)

section
variable {k : SessionKeys F}

theorem sessionAt_eq_some {f : F} {s : Session F} : sessionAt k f = some s ↔
    s.field = f ∧ k.records.lookup (.jti f) = some s.record ∧
      k.expires.lookup f = some s.expiresAt := by
  unfold sessionAt
  cases hr : k.records.lookup (.jti f) with
  | none => simp
  | some record =>
    cases he : k.expires.lookup f with
    | none => simp
    | some expiresAt =>
      constructor
      · intro h
        have hs := Option.some.inj h
        exact hs ▸ ⟨rfl, rfl, rfl⟩
      · rintro ⟨rfl, hr', he'⟩
        rw [Option.some.inj hr', Option.some.inj he']

theorem lookup_order_iff {f : F} : k.order.lookup f ≠ none ↔ f ∈ k.order.elements.map Prod.fst := by
  rw [Ne, Slot.lookup_eq_none, not_not]

theorem mem_sessions {s : Session F} : s ∈ sessions k ↔ k.order.lookup s.field ≠ none ∧
    k.records.lookup (.jti s.field) = some s.record ∧
      k.expires.lookup s.field = some s.expiresAt := by
  rw [sessions, List.mem_filterMap]
  constructor
  · rintro ⟨f, hf, hs⟩
    obtain ⟨rfl, hr, he⟩ := sessionAt_eq_some.mp hs
    exact ⟨lookup_order_iff.mpr hf, hr, he⟩
  · rintro ⟨ho, hr, he⟩
    exact ⟨s.field, lookup_order_iff.mp ho, sessionAt_eq_some.mpr ⟨rfl, hr, he⟩⟩

theorem Synced.sessionAt (h : Synced k) {f : F} (hf : k.order.lookup f ≠ none) :
    ∃ s, sessionAt k f = some s ∧ s.field = f := by
  obtain ⟨record, hr⟩ := Option.ne_none_iff_exists'.mp (mt (h.records f).mp hf)
  obtain ⟨e, he⟩ := Option.ne_none_iff_exists'.mp (mt (h.expires f).mp hf)
  exact ⟨⟨f, record, e⟩, sessionAt_eq_some.mpr ⟨rfl, hr, he⟩, rfl⟩

theorem Synced.mem_sessions (h : Synced k) {s : Session F} : s ∈ sessions k ↔
    k.records.lookup (.jti s.field) = some s.record ∧
      k.expires.lookup s.field = some s.expiresAt := by
  rw [PgRbac.mem_sessions]
  constructor
  · exact And.right
  · rintro ⟨hr, he⟩
    refine ⟨fun ho => ?_, hr, he⟩
    rw [(h.records s.field).mpr ho] at hr
    cases hr

theorem Synced.fields (h : Synced k) :
    (sessions k).map Session.field = k.order.elements.map Prod.fst := by
  have hall : ∀ fs : List F, (∀ f ∈ fs, k.order.lookup f ≠ none) →
      (fs.filterMap (PgRbac.sessionAt k)).map Session.field = fs := by
    intro fs hfs
    induction fs with
    | nil => rfl
    | cons f fs ih =>
      obtain ⟨s, hs, hf⟩ := h.sessionAt (hfs f List.mem_cons_self)
      rw [List.filterMap_cons_some hs, List.map_cons, hf,
        ih fun g hg => hfs g (List.mem_cons_of_mem f hg)]
  exact hall _ fun f hf => lookup_order_iff.mpr hf

theorem Synced.length_sessions (h : Synced k) : (sessions k).length = k.order.card := by
  have hlen := congrArg List.length h.fields
  rw [List.length_map, List.length_map] at hlen
  exact hlen

theorem Synced.fields_nodup (h : Synced k) : ((sessions k).map Session.field).Nodup := by
  rw [h.fields]
  exact k.order.unique

theorem sessions_removeSession (f : F) :
    sessions (removeSession k f) = (sessions k).filter (·.field ≠ f) := by
  have hall : ∀ es : List (F × Nat),
      ((es.filter (·.1 ≠ f)).map Prod.fst).filterMap (sessionAt (removeSession k f)) =
        ((es.map Prod.fst).filterMap (sessionAt k)).filter (·.field ≠ f) := by
    intro es
    induction es with
    | nil => rfl
    | cons p es ih =>
      by_cases hp : p.1 = f
      · rw [List.filter_cons_of_neg (by simpa using hp), ih, List.map_cons, List.filterMap_cons]
        cases hs : sessionAt k p.1 with
        | none => rfl
        | some s =>
          have hsf : s.field = f := (sessionAt_eq_some.mp hs).1.trans hp
          exact (List.filter_cons_of_neg (by simpa using hsf)).symm
      · have hsame : sessionAt (removeSession k f) p.1 = sessionAt k p.1 := by
          rw [sessionAt, sessionAt, record_removeSession, expiry_removeSession, if_neg hp, if_neg hp]
        rw [List.filter_cons_of_pos (by simpa using hp), List.map_cons, List.map_cons,
          List.filterMap_cons, List.filterMap_cons, hsame]
        cases hs : sessionAt k p.1 with
        | none => exact ih
        | some s =>
          have hsf : s.field ≠ f := (sessionAt_eq_some.mp hs).1 ▸ hp
          show s :: _ = (s :: _).filter _
          rw [List.filter_cons_of_pos (by simpa using hsf), ih]
  rw [sessions, removeSession, Slot.elements_erase]
  exact hall _

theorem sessions_removeSessions (fs : List F) :
    sessions (removeSessions k fs) = (sessions k).filter (·.field ∉ fs) := by
  induction fs generalizing k with
  | nil => simp [removeSessions]
  | cons f fs ih =>
    show sessions (removeSessions (removeSession k f) fs) = _
    rw [ih, sessions_removeSession, List.filter_filter]
    refine List.filter_congr fun s _ => ?_
    simp [Bool.and_comm]

theorem sessions_pruneExpired (now : Nat) :
    sessions (pruneExpired k now) = (sessions k).filter (now < ·.expiresAt) := by
  rw [pruneExpired, sessions_removeSessions]
  refine List.filter_congr fun s hs => ?_
  obtain ⟨-, -, he⟩ := mem_sessions.mp hs
  refine decide_eq_decide.mpr ?_
  rw [Slot.mem_upTo]
  constructor
  · intro h
    by_contra hle
    exact h ⟨s.expiresAt, he, Nat.not_lt.mp hle⟩
  · rintro hlt ⟨e, he', hle⟩
    have : e = s.expiresAt := Option.some.inj (he'.symm.trans he)
    omega

theorem sessions_evictOldest (h : Synced k) (maximum : Nat) {rounds : Nat}
    (hr : k.order.card ≤ rounds) : sessions (evictOldest maximum rounds k) =
      (sessions k).drop ((sessions k).length - maximum) := by
  induction rounds generalizing k with
  | zero =>
    have hlen := h.length_sessions
    rw [evictOldest, show (sessions k).length - maximum = 0 by omega]
    rfl
  | succ rounds ih =>
    rw [evictOldest]
    by_cases hc : maximum < k.order.card
    · rw [if_pos hc]
      cases he : k.order.elements with
      | nil =>
        rw [Slot.card, he] at hc
        exact absurd hc (Nat.not_lt_zero _)
      | cons oldest rest =>
        have hfields := h.fields
        rw [he, List.map_cons] at hfields
        obtain ⟨s, ss, hs⟩ : ∃ s ss, sessions k = s :: ss := by
          refine List.exists_cons_of_ne_nil fun hnil => ?_
          rw [hnil] at hfields
          cases hfields
        have hnodup := h.fields_nodup
        rw [hs, List.map_cons] at hfields hnodup
        obtain ⟨hhead, -⟩ := List.cons.inj hfields
        have htail : sessions (removeSession k oldest.1) = ss := by
          rw [sessions_removeSession, hs, ← hhead, List.filter_cons_of_neg (by simp)]
          refine List.filter_eq_self.mpr fun t ht => decide_eq_true fun e => ?_
          exact (List.nodup_cons.mp hnodup).1 (e ▸ List.mem_map_of_mem ht)
        have hlen : (s :: ss).length = k.order.card := hs ▸ h.length_sessions
        have hrest : (removeSession k oldest.1).order.card ≤ rounds := by
          rw [← (h.removeSession oldest.1).length_sessions, htail]
          rw [List.length_cons] at hlen
          omega
        show sessions (evictOldest maximum rounds (removeSession k oldest.1)) = _
        rw [ih (h.removeSession oldest.1) hrest, htail, hs, List.length_cons,
          show ss.length + 1 - maximum = ss.length - maximum + 1 by
            rw [List.length_cons] at hlen; omega,
          List.drop_succ_cons]
    · have hlen := h.length_sessions
      rw [if_neg hc, show (sessions k).length - maximum = 0 by omega]
      rfl

theorem sessions_pexpireat {now deadline : Nat} (h : now < deadline) :
    sessions (k.pexpireat now deadline) = sessions k := by
  have hat : sessionAt (k.pexpireat now deadline) = sessionAt k := by
    funext f
    unfold sessionAt SessionKeys.pexpireat
    rw [Slot.lookup_pexpireat _ h, Slot.lookup_pexpireat _ h]
  unfold sessions
  rw [hat]
  unfold SessionKeys.pexpireat
  rw [Slot.elements_pexpireat _ h]

end

/-! ## activation order -/

/-- the scores ascend below `bound`, and every record is the one of its session -/
structure Ordered (decode : String → Option DecodedRecord) (k : SessionKeys F) (v bound count : Nat) :
    Prop where
  ascending : k.order.elements.Pairwise (·.2 < ·.2)
  below : ∀ p ∈ k.order.elements, p.2 < bound
  card : k.order.card ≤ count
  canonical : ∀ s ∈ sessions k, ∃ iat : Nat,
    decode s.record = some ⟨some (v : Int), some (s.expiresAt : Int), some (iat : Int)⟩

namespace Ordered
variable {decode : String → Option DecodedRecord} {k : SessionKeys F} {v bound count : Nat}

theorem of_missing : Ordered decode (SessionKeys.missing : SessionKeys F) v bound count :=
  ⟨List.Pairwise.nil, fun _ h => (by cases h), Nat.zero_le _, fun _ h => (by cases h)⟩

theorem removeSession (h : Ordered decode k v bound count) (f : F) :
    Ordered decode (removeSession k f) v bound count := by
  have hsub : (PgRbac.removeSession k f).order.elements.Sublist k.order.elements := by
    rw [PgRbac.removeSession, Slot.elements_erase]
    exact List.filter_sublist
  refine ⟨h.ascending.sublist hsub, fun p hp => h.below p (hsub.subset hp),
    Nat.le_trans hsub.length_le h.card, fun s hs => ?_⟩
  rw [sessions_removeSession] at hs
  exact h.canonical s (List.mem_of_mem_filter hs)

theorem removeSessions (h : Ordered decode k v bound count) (fs : List F) :
    Ordered decode (removeSessions k fs) v bound count := by
  induction fs generalizing k with
  | nil => exact h
  | cons f fs ih => exact ih (h.removeSession f)

theorem mono (h : Ordered decode k v bound count) {bound' count' : Nat} (hb : bound ≤ bound')
    (hc : count ≤ count') : Ordered decode k v bound' count' :=
  ⟨h.ascending, fun p hp => Nat.lt_of_lt_of_le (h.below p hp) hb, Nat.le_trans h.card hc,
    h.canonical⟩

theorem pexpireat (h : Ordered decode k v bound count) {now deadline : Nat} (hd : now < deadline) :
    Ordered decode (k.pexpireat now deadline) v bound count := by
  have helements : (k.pexpireat now deadline).order.elements = k.order.elements :=
    Slot.elements_pexpireat _ hd
  refine ⟨?_, ?_, ?_, ?_⟩
  · rw [helements]
    exact h.ascending
  · rw [helements]
    exact h.below
  · rw [Slot.card, helements]
    exact h.card
  · rw [sessions_pexpireat hd]
    exact h.canonical

end Ordered

theorem activationScore_spec {order : Slot F Nat} {clock count : Nat}
    (hasc : order.elements.Pairwise (·.2 < ·.2)) (hbelow : ∀ p ∈ order.elements, p.2 < clock + count)
    (hexact : clock + count < 2 ^ 53) :
    (∀ p ∈ order.elements, p.2 < activationScore clock order) ∧
      activationScore clock order < clock + (count + 1) := by
  have hclock : double (double (clock / 1000000 * 1000000) + clock % 1000000) = clock := by
    rw [double_eq_self (n := clock / 1000000 * 1000000) (by omega)]
    have hsum : clock / 1000000 * 1000000 + clock % 1000000 = clock := by omega
    rw [hsum]
    exact double_eq_self (by omega)
  unfold activationScore
  rw [hclock]
  cases hl : order.elements.getLast? with
  | none =>
    have hnil : order.elements = [] := List.getLast?_eq_none_iff.mp hl
    rw [hnil]
    exact ⟨fun p hp => (by cases hp), by show clock < _; omega⟩
  | some top =>
    obtain ⟨init, hinit⟩ := List.getLast?_eq_some_iff.mp hl
    -- the last score is the greatest
    have htop : ∀ p ∈ order.elements, p.2 ≤ top.2 := by
      intro p hp
      rw [hinit] at hp hasc
      rcases List.mem_append.mp hp with hp | hp
      · exact Nat.le_of_lt ((List.pairwise_append.mp hasc).2.2 p hp top List.mem_cons_self)
      · rw [List.mem_singleton.mp hp]
    have hlast : top.2 < clock + count :=
      hbelow top (hinit ▸ List.mem_append_right _ List.mem_cons_self)
    show (∀ p ∈ order.elements, p.2 < if clock ≤ top.2 then double (top.2 + 1) else clock) ∧
      (if clock ≤ top.2 then double (top.2 + 1) else clock) < _
    by_cases hle : clock ≤ top.2
    · rw [if_pos hle, double_eq_self (by omega)]
      refine ⟨fun p hp => ?_, by omega⟩
      have := htop p hp
      omega
    · rw [if_neg hle]
      refine ⟨fun p hp => ?_, by omega⟩
      have := htop p hp
      omega

/-! ## storing a session -/

/-- the arguments of an issued token: its record, and numbers in range -/
structure Activation.Canonical (decode : String → Option DecodedRecord) (a : Activation F) :
    Prop where
  record : ∃ iat : Nat,
    decode a.record = some ⟨some (a.version : Int), some a.expiresAt, some (iat : Int)⟩
  version : a.version < 10 ^ 14
  expiresAt : a.expiresAt < 2 ^ 43
  maximum : 1 ≤ a.maximum

theorem Activation.Canonical.tonumber_expiresAt {decode : String → Option DecodedRecord}
    {a : Activation F} (h : a.Canonical decode) : tonumber a.expiresAt = a.expiresAt.toNat := by
  have he := h.expiresAt
  exact double_eq_self (by omega)

theorem Activation.Canonical.exact {decode : String → Option DecodedRecord}
    {argument : Nat → String} {a : Activation F} (h : a.Canonical decode)
    (hw : WritesIntegers argument) : a.Exact argument := by
  have hv := h.version
  have he := h.expiresAt
  exact ⟨double_eq_self (by omega), double_eq_self (by omega), hw.expirable (by omega)⟩

theorem tonumber_maximum {m : Int} (h : 1 ≤ m) :
    1 ≤ tonumber m ∧ ∀ n, n ≤ 2 ^ 53 → n - tonumber m = n - m.toNat := by
  unfold tonumber
  by_cases hm : m.toNat < 2 ^ 53
  · rw [double_eq_self hm]
    exact ⟨by omega, fun n _ => rfl⟩
  · have := le_double (Nat.not_lt.mp hm)
    exact ⟨by omega, fun n hn => by omega⟩

theorem Activation.Canonical.rejected_iff {decode : String → Option DecodedRecord}
    {a : Activation F} (h : a.Canonical decode) (now : Nat) :
    a.Rejected now ↔ a.expiresAt.toNat ≤ now := by
  have hmax := (tonumber_maximum h.maximum).1
  have he := h.tonumber_expiresAt
  unfold Activation.Rejected
  rw [he]
  omega

section
variable {decode : String → Option DecodedRecord} {k : SessionKeys F} {a : Activation F}
  {v clock count deadline : Nat}

section
variable {field : F} {record version : String} {score expiry : Nat}

theorem sessions_written (hfresh : k.order.lookup field = none)
    (habove : ∀ p ∈ k.order.elements, p.2 < score) :
    sessions ⟨(k.records.hset (.jti field) record).hset .version version,
        k.order.zadd field score, k.expires.zadd field expiry⟩ =
      sessions k ++ [⟨field, record, expiry⟩] := by
  have hold : ∀ f ∈ k.order.elements.map Prod.fst,
      sessionAt ⟨(k.records.hset (.jti field) record).hset .version version,
        k.order.zadd field score, k.expires.zadd field expiry⟩ f = sessionAt k f := by
    intro f hf
    have hne : f ≠ field := fun e => lookup_order_iff.mpr hf (e ▸ hfresh)
    unfold sessionAt
    rw [Slot.lookup_hset, if_neg (fun e => by cases e), Slot.lookup_hset,
      if_neg (fun e => hne (Field.jti.inj e)), Slot.lookup_zadd, if_neg hne]
  have hnew : sessionAt ⟨(k.records.hset (.jti field) record).hset .version version,
      k.order.zadd field score, k.expires.zadd field expiry⟩ field =
        some ⟨field, record, expiry⟩ := by
    refine sessionAt_eq_some.mpr ⟨rfl, ?_, ?_⟩
    · show ((k.records.hset (.jti field) record).hset .version _).lookup _ = _
      rw [Slot.lookup_hset, if_neg (fun e => by cases e), Slot.lookup_hset, if_pos rfl]
    · show (k.expires.zadd field expiry).lookup _ = _
      rw [Slot.lookup_zadd, if_pos rfl]
  rw [sessions, Slot.elements_zadd_last hfresh habove, List.map_append, List.filterMap_append,
    List.filterMap_congr hold, List.map_singleton, List.filterMap_cons_some hnew]
  rfl

/-- the last session is the new one, and its record is canonical -/
theorem Ordered.written {v' bound' : Nat} (hord : Ordered decode k v (clock + count) count)
    (hversion : ∀ s ∈ sessions k, v = v') (hfresh : k.order.lookup field = none)
    (habove : ∀ p ∈ k.order.elements, p.2 < score) (hscore : score < bound')
    (hrecord : ∃ iat : Nat,
      decode record = some ⟨some (v' : Int), some (expiry : Int), some (iat : Int)⟩) :
    Ordered decode ⟨(k.records.hset (.jti field) record).hset .version version,
      k.order.zadd field score, k.expires.zadd field expiry⟩ v' bound' (count + 1) := by
  have horder := Slot.elements_zadd_last hfresh habove
  refine ⟨?_, ?_, ?_, ?_⟩
  · show (k.order.zadd field score).elements.Pairwise _
    rw [horder, List.pairwise_append]
    refine ⟨hord.ascending, List.pairwise_singleton _ _, fun p hp q hq => ?_⟩
    rw [List.mem_singleton.mp hq]
    exact habove p hp
  · intro p hp
    rw [horder] at hp
    rcases List.mem_append.mp hp with hp | hp
    · exact Nat.lt_trans (habove p hp) hscore
    · rw [List.mem_singleton.mp hp]
      exact hscore
  · rw [Slot.card, horder, List.length_append]
    exact Nat.succ_le_succ hord.card
  · intro s hs
    rw [sessions_written hfresh habove] at hs
    rcases List.mem_append.mp hs with hs | hs
    · rw [← hversion s hs]
      exact hord.canonical s hs
    · rw [List.mem_singleton.mp hs]
      exact hrecord

end

theorem store_spec (ha : a.Canonical decode) (hk : Synced k)
    (hord : Ordered decode k v (clock + count) count)
    (hversion : ∀ s ∈ sessions k, v = a.version) (hfresh : k.order.lookup a.field = none)
    (hexact : clock + count < 2 ^ 53) (hlive : clock / 1000000 < a.expiresAt.toNat)
    (hdeadline : clock / 1000 < deadline) :
    sessions ((storeSession a clock k).pexpireat (clock / 1000) deadline) =
        (sessions k ++ [a.session]).drop
          ((sessions k).length + 1 - a.maximum.toNat) ∧
      Ordered decode ((storeSession a clock k).pexpireat (clock / 1000) deadline) a.version
        (clock + (count + 1)) (count + 1) ∧
      ∀ f, ((storeSession a clock k).pexpireat (clock / 1000) deadline).order.lookup f ≠ none →
        k.order.lookup f ≠ none ∨ f = a.field := by
  obtain ⟨habove, hscore⟩ := activationScore_spec hord.ascending hord.below hexact
  have hrecord : ∃ iat : Nat, decode a.record =
      some ⟨some (a.version : Int), some (a.expiresAt.toNat : Int), some (iat : Int)⟩ := by
    obtain ⟨iat, hiat⟩ := ha.record
    have he : ((a.expiresAt.toNat : Nat) : Int) = a.expiresAt := by omega
    exact ⟨iat, by rw [he, hiat]⟩
  -- the keys before the loop
  obtain ⟨k', hk'⟩ : ∃ k' : SessionKeys F, k' =
      ⟨(k.records.hset (.jti a.field) a.record).hset .version (Nat.repr a.version),
        k.order.zadd a.field (activationScore clock k.order),
        k.expires.zadd a.field a.expiresAt.toNat⟩ := ⟨_, rfl⟩
  have hstored : Synced k' := hk' ▸ hk.store a.field a.record (Nat.repr a.version)
    (activationScore clock k.order) a.expiresAt.toNat
  have hsessions : sessions k' = sessions k ++ [a.session] :=
    hk' ▸ sessions_written hfresh habove
  have hordered : Ordered decode k' a.version (clock + (count + 1)) (count + 1) :=
    hk' ▸ hord.written hversion hfresh habove hscore hrecord
  have hstore : storeSession a clock k = evictOldest (tonumber a.maximum) k'.order.card k' := by
    subst hk'
    unfold storeSession
    rw [ha.tonumber_expiresAt]
  obtain ⟨fs, hfs⟩ := evictOldest_eq k' (tonumber a.maximum) k'.order.card
  refine ⟨?_, ?_, ?_⟩
  · have hlen : (sessions k).length + 1 ≤ 2 ^ 53 := by
      have := hk.length_sessions
      have := hord.card
      omega
    rw [hstore, sessions_pexpireat hdeadline, sessions_evictOldest hstored _ (Nat.le_refl _),
      hsessions, List.length_append, List.length_singleton,
      (tonumber_maximum ha.maximum).2 _ hlen]
  · rw [hstore, hfs]
    exact (hordered.removeSessions fs).pexpireat hdeadline
  · intro f hf
    rw [hstore, hfs] at hf
    have hf' : (removeSessions k' fs).order.lookup f ≠ none := by
      rw [← Slot.lookup_pexpireat (removeSessions k' fs).order hdeadline]
      exact hf
    have hkept : k'.order.lookup f ≠ none := by
      intro hnone
      refine hf' (((hstored.removeSessions fs).records f).mp ?_)
      rw [record_removeSessions, (hstored.records f).mpr hnone, ite_self]
    subst hk'
    by_cases he : f = a.field
    · exact Or.inr he
    · refine Or.inl ?_
      rw [← Slot.lookup_zadd_of_ne k.order (activationScore clock k.order) he]
      exact hkept

end

/-! ## the keys stand for a registry -/

/-- the keys hold version, deadline and sessions of a registry, beside sessions that have expired;
`used` are the fields activated so far -/
structure Stands (decode : String → Option DecodedRecord) (argument : Nat → String) (clock : Nat)
    (used : List F) (k : SessionKeys F) (r : Registry F) (v d : Nat) : Prop where
  held : Held argument k v d
  ordered : Ordered decode k v (clock + used.length) used.length
  used : ∀ f, k.order.lookup f ≠ none → f ∈ used
  small : v < 10 ^ 14
  version : r.version = some (v, d)
  sessions : r.sessions = (sessions k).filter (clock / 1000000 < ·.expiresAt)

/-- nothing is stored, or what the registry has -/
def Simulates (decode : String → Option DecodedRecord) (argument : Nat → String) (clock : Nat)
    (used : List F) (k : SessionKeys F) (r : Registry F) : Prop :=
  (k = SessionKeys.missing ∧ r = Registry.empty) ∨ ∃ v d, Stands decode argument clock used k r v d

section
variable {decode : String → Option DecodedRecord} {argument : Nat → String} {clock clock' : Nat}
  {used : List F} {k : SessionKeys F} {r : Registry F} {v d : Nat}

/-- the clock moves on: keys expire together with the last session -/
theorem Simulates.advance (h : Simulates decode argument clock used k r) (hle : clock ≤ clock') :
    Simulates decode argument clock' used (k.alive (clock' / 1000)) (r.at' clock') := by
  rcases h with ⟨rfl, rfl⟩ | ⟨v, d, h⟩
  · exact Or.inl ⟨rfl, rfl⟩
  · have hlive : ((sessions k).filter (clock / 1000000 < ·.expiresAt)).filter
        (clock' / 1000000 < ·.expiresAt) = (sessions k).filter (clock' / 1000000 < ·.expiresAt) := by
      rw [List.filter_filter]
      refine List.filter_congr fun s _ => ?_
      by_cases hs : clock' / 1000000 < s.expiresAt
      · have : clock / 1000000 < s.expiresAt := by omega
        simp [hs, this]
      · simp [hs]
    rw [h.held.alive, Registry.at', h.version, h.sessions, hlive]
    by_cases hd : d < clock' / 1000
    · rw [if_pos hd]
      refine Or.inl ⟨rfl, ?_⟩
      have hnone : (sessions k).filter (clock' / 1000000 < ·.expiresAt) = [] := by
        refine List.filter_eq_nil_iff.mpr fun s hs => ?_
        have := h.held.within s.field s.expiresAt (mem_sessions.mp hs).2.2
        simp only [decide_eq_true_eq]
        omega
      rw [hnone, Option.filter_some, if_neg (by simpa using hd)]
      rfl
    · rw [if_neg hd, Option.filter_some, if_pos (by simpa using hd)]
      refine Or.inr ⟨v, d, h.held, h.ordered.mono (by omega) (Nat.le_refl _), h.used, h.small, rfl,
        rfl⟩

theorem Stands.removeSession (h : Stands decode argument clock used k r v d) {f : F}
    (hf : ∀ e, k.expires.lookup f = some e → e ≤ clock / 1000000) :
    Stands decode argument clock used (removeSession k f) r v d where
  held := h.held.removeSession f
  ordered := h.ordered.removeSession f
  used g hg := by
    rw [order_removeSession] at hg
    split at hg
    · exact absurd rfl hg
    · exact h.used g hg
  small := h.small
  version := h.version
  sessions := by
    rw [h.sessions, sessions_removeSession, List.filter_filter]
    refine List.filter_congr fun s hs => ?_
    by_cases hlive : clock / 1000000 < s.expiresAt
    · have hne : s.field ≠ f := by
        intro e
        have := hf s.expiresAt (e ▸ (mem_sessions.mp hs).2.2)
        omega
      simp [hlive, hne]
    · simp [hlive]

theorem Stands.removeSessions (h : Stands decode argument clock used k r v d) {fs : List F}
    (hfs : ∀ f ∈ fs, ∀ e, k.expires.lookup f = some e → e ≤ clock / 1000000) :
    Stands decode argument clock used (removeSessions k fs) r v d := by
  induction fs generalizing k with
  | nil => exact h
  | cons f fs ih =>
    refine ih (h.removeSession (hfs f List.mem_cons_self)) fun g hg e he => ?_
    rw [expiry_removeSession] at he
    split at he
    · cases he
    · exact hfs g (List.mem_cons_of_mem f hg) e he

theorem Stands.pruneExpired (h : Stands decode argument clock used k r v d) :
    Stands decode argument clock used (pruneExpired k (clock / 1000000)) r v d := by
  refine h.removeSessions fun f hf e he => ?_
  obtain ⟨e', he', hle⟩ := Slot.mem_upTo.mp hf
  rw [Option.some.inj (he.symm.trans he')]
  exact hle

theorem Stands.mem_sessions (h : Stands decode argument clock used k r v d) {s : Session F} :
    s ∈ r.sessions ↔ (k.records.lookup (.jti s.field) = some s.record ∧
      k.expires.lookup s.field = some s.expiresAt) ∧ clock / 1000000 < s.expiresAt := by
  rw [h.sessions, List.mem_filter, h.held.synced.mem_sessions, decide_eq_true_eq]

theorem Stands.session?_eq_some (h : Stands decode argument clock used k r v d) {f : F} {s : Session F} :
    r.session? f = some s ↔ s.field = f ∧ s ∈ r.sessions := by
  constructor
  · intro hs
    exact ⟨by simpa using List.find?_some hs, List.mem_of_find?_eq_some hs⟩
  · rintro ⟨rfl, hs⟩
    cases hfind : r.session? s.field with
    | none => simpa using List.find?_eq_none.mp hfind s hs
    | some t =>
      have htf : t.field = s.field := by simpa using List.find?_some hfind
      obtain ⟨⟨htr, hte⟩, -⟩ := h.mem_sessions.mp (List.mem_of_find?_eq_some hfind)
      obtain ⟨⟨hsr, hse⟩, -⟩ := h.mem_sessions.mp hs
      rw [htf] at htr hte
      exact congrArg some (Session.ext htf (Option.some.inj (htr.symm.trans hsr))
        (Option.some.inj (hte.symm.trans hse)))

theorem Stands.session?_eq_none (h : Stands decode argument clock used k r v d) {f : F}
    (hf : ∀ e, k.expires.lookup f = some e → e ≤ clock / 1000000) : r.session? f = none := by
  cases hs : r.session? f with
  | none => rfl
  | some s =>
    obtain ⟨hfield, hmem⟩ := h.session?_eq_some.mp hs
    obtain ⟨⟨-, he⟩, hlive⟩ := h.mem_sessions.mp hmem
    have := hf _ (hfield ▸ he)
    omega

end

/-! ## the scripts -/

def issuedAt (decode : String → Option DecodedRecord) (record : String) : Int :=
  ((decode record).bind DecodedRecord.iat).getD 0

section
variable {decode : String → Option DecodedRecord} {argument : Nat → String} {clock : Nat}
  {used : List F} {k : SessionKeys F} {r : Registry F} {v d : Nat}

theorem Stands.canonical (h : Stands decode argument clock used k r v d) {s : Session F}
    (hs : s ∈ r.sessions) : ∃ iat : Nat, issuedAt decode s.record = iat ∧
      decode s.record = some ⟨some (v : Int), some (s.expiresAt : Int), some (iat : Int)⟩ := by
  rw [h.sessions] at hs
  obtain ⟨iat, hiat⟩ := h.ordered.canonical s (List.mem_of_mem_filter hs)
  refine ⟨iat, ?_, hiat⟩
  rw [issuedAt, hiat]
  rfl

theorem tostring_eq (h : v < 10 ^ 14) : tostring (v : Int) = Nat.repr v := by
  rw [tostring, if_neg (by omega), Int.natAbs_natCast, tostring.unsigned, if_pos h]

theorem Stands.live (h : Stands decode argument clock used k r v d) {field : F} {e : Nat}
    (he : k.expires.lookup field = some e) (hlive : clock / 1000000 < e) :
    ∃ record, k.records.lookup (.jti field) = some record ∧
      r.session? field = some ⟨field, record, e⟩ ∧ k.order.exists? field := by
  have ho : k.order.lookup field ≠ none := by
    intro hnone
    rw [(h.held.synced.expires field).mpr hnone] at he
    cases he
  obtain ⟨record, hr⟩ := Option.ne_none_iff_exists'.mp (mt (h.held.synced.records field).mp ho)
  refine ⟨record, hr, ?_, Option.isSome_iff_ne_none.mpr ho⟩
  exact h.session?_eq_some.mpr ⟨rfl, h.mem_sessions.mpr ⟨⟨hr, he⟩, hlive⟩⟩

theorem Stands.read (h : Stands decode argument clock used k r v d) (field : F) :
    (readActiveJti decode field clock k).1 = (r.session? field).map Session.record ∧
      Stands decode argument clock used (readActiveJti decode field clock k).2 r v d := by
  unfold readActiveJti
  cases he : k.expires.lookup field with
  | none =>
    have hno : ∀ e, k.expires.lookup field = some e → e ≤ clock / 1000000 := by
      intro e he'
      rw [he] at he'
      cases he'
    rw [h.session?_eq_none hno]
    exact ⟨rfl, h.removeSession hno⟩
  | some e =>
    by_cases hle : e ≤ clock / 1000000
    · have hno : ∀ e', k.expires.lookup field = some e' → e' ≤ clock / 1000000 := by
        intro e' he'
        rw [Option.some.inj (he'.symm.trans he)]
        exact hle
      simp only [if_pos hle, h.session?_eq_none hno]
      exact ⟨rfl, h.removeSession hno⟩
    · obtain ⟨record, hr, hs, ho⟩ := h.live he (Nat.not_le.mp hle)
      obtain ⟨iat, -, hdec⟩ := h.canonical (h.session?_eq_some.mp hs).2
      have hreadable : readable decode k field e record = true := by
        rw [readable, show decode record = _ from hdec]
        simp [h.held.version, tostring_eq h.small, ho]
      simp only [if_neg hle, hr, hs, hreadable, if_true]
      exact ⟨rfl, h⟩

theorem Stands.revoke (h : Stands decode argument clock used k r v d) (field : F) (record : String) :
    (compareAndDelete field record clock k).1 = (r.revoke field record).1 ∧
      Stands decode argument clock used (compareAndDelete field record clock k).2
        (r.revoke field record).2 v d := by
  unfold compareAndDelete Registry.revoke
  cases he : k.expires.lookup field with
  | none =>
    have hno : ∀ e, k.expires.lookup field = some e → e ≤ clock / 1000000 := by
      intro e he'
      rw [he] at he'
      cases he'
    rw [h.session?_eq_none hno]
    exact ⟨rfl, h.removeSession hno⟩
  | some e =>
    by_cases hle : e ≤ clock / 1000000
    · have hno : ∀ e', k.expires.lookup field = some e' → e' ≤ clock / 1000000 := by
        intro e' he'
        rw [Option.some.inj (he'.symm.trans he)]
        exact hle
      simp only [if_pos hle, h.session?_eq_none hno]
      exact ⟨trivial, h.removeSession hno⟩
    · obtain ⟨current, hr, hs, -⟩ := h.live he (Nat.not_le.mp hle)
      simp only [if_neg hle, hr, hs]
      by_cases hc : current ≠ record
      · rw [if_pos hc, if_pos hc]
        exact ⟨rfl, h⟩
      · rw [if_neg hc, if_neg hc]
        refine ⟨rfl, h.held.removeSession field, h.ordered.removeSession field, fun g hg => ?_,
          h.small, h.version, ?_⟩
        · rw [order_removeSession] at hg
          split at hg
          · exact absurd rfl hg
          · exact h.used g hg
        · show r.sessions.filter _ = _
          rw [h.sessions, sessions_removeSession, List.filter_filter, List.filter_filter]
          exact List.filter_congr fun s _ => Bool.and_comm _ _

theorem listFields_sessions (hsmall : v < 10 ^ 14) {ss : List (Session F)} (result : List Int)
    (hss : ∀ s ∈ ss, (k.records.lookup (.jti s.field) = some s.record ∧
      k.expires.lookup s.field = some s.expiresAt) ∧ clock / 1000000 < s.expiresAt ∧
      ∃ iat : Nat, issuedAt decode s.record = iat ∧
        decode s.record = some ⟨some (v : Int), some (s.expiresAt : Int), some (iat : Int)⟩) :
    listFields decode (Nat.repr v) (clock / 1000000) (ss.map Session.field) result k =
      (.ok (result ++ ss.map fun s => issuedAt decode s.record), k) := by
  induction ss generalizing result with
  | nil => simp [listFields]
  | cons s ss ih =>
    obtain ⟨⟨hr, he⟩, hlive, iat, hiat, hdec⟩ := hss s List.mem_cons_self
    have hlisted : listed? decode (Nat.repr v) (clock / 1000000) (k.expires.lookup s.field)
        s.record = some (iat : Int) := by
      unfold listed?
      rw [he, hdec]
      simp [hlive, tostring_eq hsmall]
    rw [List.map_cons, listFields, hr]
    simp only [hlisted]
    rw [ih _ fun t ht => hss t (List.mem_cons_of_mem s ht), List.map_cons, hiat,
      List.append_assoc]
    rfl

theorem Stands.list (h : Stands decode argument clock used k r v d) (version : Nat) :
    (listUserSessions decode (Nat.repr version) clock k).1 =
        .ok (r.list (issuedAt decode) version) ∧
      Stands decode argument clock used (listUserSessions decode (Nat.repr version) clock k).2 r v d := by
  unfold listUserSessions Registry.list
  rw [h.held.version, h.version]
  by_cases hv : v = version
  · subst hv
    have hp := h.pruneExpired
    have hfields : (PgRbac.pruneExpired k (clock / 1000000)).order.elements.map Prod.fst =
        r.sessions.map Session.field := by
      rw [← hp.held.synced.fields, h.sessions, sessions_pruneExpired]
    have hlist : listFields decode (Nat.repr v) (clock / 1000000) (r.sessions.map Session.field) []
        (PgRbac.pruneExpired k (clock / 1000000)) =
          (.ok (r.sessions.map fun s => issuedAt decode s.record),
            PgRbac.pruneExpired k (clock / 1000000)) := by
      refine listFields_sessions h.small [] fun s hs => ?_
      obtain ⟨hlookup, hl⟩ := hp.mem_sessions.mp hs
      exact ⟨hlookup, hl, h.canonical hs⟩
    rw [if_neg (by simp), if_pos (by simp)]
    dsimp only
    rw [hfields, hlist]
    exact ⟨rfl, hp⟩
  · have hrepr : ¬ Nat.repr v = Nat.repr version := fun e => hv (Nat.repr_inj.mp e)
    rw [if_pos (by simpa using hrepr), if_neg (by simpa using hv)]
    exact ⟨rfl, h⟩

/-- the state after an accepted activation -/
theorem stands_store {a : Activation F} (ha : a.Canonical decode) (hw : WritesIntegers argument)
    {base : SessionKeys F} {kept : List (Session F)} {d : Nat}
    (hacc : Expirable argument (max d (a.expiresAt.toNat * 1000))) (hk : Synced base)
    (hwithin : Within base d)
    (hord : Ordered decode base v (clock + used.length) used.length)
    (hused : ∀ f, base.order.lookup f ≠ none → f ∈ used)
    (hversion : ∀ s ∈ PgRbac.sessions base, v = a.version)
    (hkept : PgRbac.sessions base = kept)
    (hlivekept : ∀ s ∈ kept, clock / 1000000 < s.expiresAt) (hfresh : a.field ∉ used)
    (hexact : clock + used.length < 2 ^ 53) (hlive : clock / 1000000 < a.expiresAt.toNat) :
    Stands decode argument clock (a.field :: used)
      ((storeSession a clock base).pexpireat (clock / 1000) (max d (a.expiresAt.toNat * 1000)))
      ⟨some (a.version, max d (a.expiresAt.toNat * 1000)),
        (kept ++ [a.session]).drop ((kept ++ [a.session]).length - a.maximum.toNat)⟩
      a.version (max d (a.expiresAt.toNat * 1000)) := by
  have hnone : base.order.lookup a.field = none := by
    by_contra hne
    exact hfresh (hused a.field hne)
  obtain ⟨hsessions, hordered, horder⟩ := store_spec ha hk hord hversion hnone hexact hlive
    (show clock / 1000 < max d (a.expiresAt.toNat * 1000) by omega)
  refine ⟨held_store (ha.exact hw) hacc hk hwithin hlive, hordered, ?_, ha.version, rfl, ?_⟩
  · intro f hf
    rcases horder f hf with h | rfl
    · exact List.mem_cons_of_mem _ (hused f h)
    · exact List.mem_cons_self
  · rw [hsessions, hkept, List.length_append, List.length_singleton]
    refine (List.filter_eq_self.mpr fun s hs => decide_eq_true ?_).symm
    rcases List.mem_append.mp (List.mem_of_mem_drop hs) with hs | hs
    · exact hlivekept s hs
    · rw [List.mem_singleton.mp hs]
      exact hlive

/-- **an activation does what the registry does** -/
theorem Simulates.activate {a : Activation F} (h : Simulates decode argument clock used k r)
    (hw : WritesIntegers argument) (ha : a.Canonical decode) (hfresh : a.field ∉ used)
    (hexact : clock + used.length < 2 ^ 53) :
    (activateJti argument a clock k).1 = .ok (r.activate a clock).1 ∧
      Simulates decode argument clock (a.field :: used) (activateJti argument a clock k).2
        (r.activate a clock).2 := by
  have hlater : ∀ {k : SessionKeys F} {r : Registry F} {v d : Nat},
      Stands decode argument clock used k r v d →
        Stands decode argument clock (a.field :: used) k r v d := by
    intro k r v d h
    refine ⟨h.held, h.ordered.mono ?_ (Nat.le_succ _), fun f hf => ?_, h.small, h.version,
      h.sessions⟩
    · rw [List.length_cons]
      omega
    · exact List.mem_cons_of_mem _ (h.used f hf)
  unfold Registry.activate
  rcases h with ⟨rfl, rfl⟩ | ⟨v, d, h⟩
  · rw [activateJti_missing]
    by_cases he : a.expiresAt.toNat ≤ clock / 1000000
    · rw [if_pos ((ha.rejected_iff _).mpr he), if_pos he]
      exact ⟨rfl, Or.inl ⟨rfl, rfl⟩⟩
    · have hlive := Nat.not_le.mp he
      rw [if_neg (mt (ha.rejected_iff _).mp he), if_neg he, if_neg (by rintro ⟨w, hw, -⟩; cases hw),
        (registerSession_missing (ha.exact hw) hlive).1]
      refine ⟨rfl, Or.inr ⟨_, _, stands_store (v := 0) ha hw
        ((Nat.zero_max (a.expiresAt.toNat * 1000)).symm ▸ (ha.exact hw).deadline)
        Synced.of_missing (fun f e he => by cases he) .of_missing (fun f hf => absurd rfl hf) (fun s hs => by cases hs) rfl
        (fun s hs => ?_) hfresh hexact hlive⟩⟩
      have hnil : s ∈ (if Option.map Prod.fst (Registry.empty : Registry F).version = some a.version
          then [] else []) := hs
      rw [ite_self] at hnil
      cases hnil
  · rw [activateJti_held h.held (ha.exact hw)]
    by_cases he : a.expiresAt.toNat ≤ clock / 1000000
    · rw [if_pos ((ha.rejected_iff _).mpr he), if_pos he]
      exact ⟨rfl, Or.inr ⟨v, d, hlater h⟩⟩
    · have hlive := Nat.not_le.mp he
      rw [if_neg (mt (ha.rejected_iff _).mp he), if_neg he, h.version]
      by_cases hv : a.version < v
      · rw [if_pos hv, if_pos ⟨(v, d), rfl, hv⟩]
        exact ⟨rfl, Or.inr ⟨v, d, hlater h⟩⟩
      · have hp := h.pruneExpired
        have hno : (PgRbac.pruneExpired k (clock / 1000000)).records.exists? (.jti a.field) = false := by
          rw [Slot.exists?, Option.isSome_eq_false_iff, Option.isNone_iff_eq_none,
            hp.held.synced.records]
          by_contra hne
          exact hfresh (hp.used a.field hne)
        have hsessions : PgRbac.sessions (PgRbac.pruneExpired k (clock / 1000000)) = r.sessions := by
          rw [h.sessions, sessions_pruneExpired]
        have hlivekept : ∀ s ∈ r.sessions, clock / 1000000 < s.expiresAt :=
          fun s hs => (h.mem_sessions.mp hs).2
        have hacc := hp.held.accepted.max (ha.exact hw).deadline
        rw [if_neg hv, if_neg (by rintro ⟨w, hw, hlt⟩; cases hw; exact hv hlt),
          registerSession_eq (ha.exact hw) _ hp.held.expirable, hno, if_neg Bool.false_ne_true,
          hp.held.records_deadline]
        refine ⟨rfl, Or.inr ⟨a.version, max d (a.expiresAt.toNat * 1000), ?_⟩⟩
        unfold activationBase
        by_cases hsame : v = a.version
        · rw [if_neg (by simp [hsame]), if_pos (by simp [hsame])]
          exact stands_store ha hw hacc hp.held.synced hp.held.within hp.ordered hp.used
            (fun _ _ => hsame) hsessions hlivekept hfresh hexact hlive
        · have hrepr : ¬ Nat.repr v = Nat.repr a.version := fun e => hsame (Nat.repr_inj.mp e)
          rw [if_pos (by simpa using hrepr), if_neg (by simpa using hsame)]
          exact stands_store (v := v) ha hw hacc Synced.of_missing (fun f e he => by cases he) .of_missing
            (fun f hf => absurd rfl hf) (fun s hs => by cases hs) rfl (fun s hs => by cases hs)
            hfresh hexact hlive

end

/-! ## runs -/

def runScripts (decode : String → Option DecodedRecord) (argument : Nat → String) :
    List (Nat × ScriptCall F) → SessionKeys F → List Reply
  | [], _ => []
  | (clock, call) :: calls, k =>
    (call.eval decode argument clock k).1 ::
      runScripts decode argument calls (call.eval decode argument clock k).2

def Registry.run (issuedAt : String → Int) : List (Nat × ScriptCall F) → Registry F → List Reply
  | [], _ => []
  | (clock, call) :: calls, r =>
    (r.eval issuedAt call clock).1 :: Registry.run issuedAt calls (r.eval issuedAt call clock).2

def ScriptCall.activated? : ScriptCall F → Option F
  | .activate a => some a.field
  | _ => none

/-- the fields that the calls activate -/
def activatedFields (calls : List (Nat × ScriptCall F)) : List F :=
  calls.filterMap fun c => c.2.activated?

/-- the calls of an application whose clock does not go back and whose token ids are fresh -/
structure Admissible (decode : String → Option DecodedRecord) (calls : List (Nat × ScriptCall F)) :
    Prop where
  clock : calls.Pairwise (·.1 ≤ ·.1)
  fresh : (activatedFields calls).Nodup
  canonical : ∀ c ∈ calls, ∀ a, c.2 = .activate a → a.Canonical decode

/-- scores stay exact: the microseconds of the clock and the activations are below `2 ^ 53` -/
def ExactScores (calls : List (Nat × ScriptCall F)) : Prop :=
  ∀ c ∈ calls, c.1 + (activatedFields calls).length < 2 ^ 53

section
variable {decode : String → Option DecodedRecord} {argument : Nat → String} {clock : Nat}
  {used : List F} {k : SessionKeys F} {r : Registry F}

/-- **one script answers as the registry does, and stands for it afterwards** -/
theorem Simulates.eval (h : Simulates decode argument clock used k r)
    (hw : WritesIntegers argument) {call : ScriptCall F} {now : Nat}
    (hle : clock ≤ now) (hcanonical : ∀ a, call = .activate a → a.Canonical decode)
    (hfresh : ∀ f, call.activated? = some f → f ∉ used)
    (hexact : call.activated? ≠ none → now + used.length < 2 ^ 53) :
    (call.eval decode argument now k).1 = (r.eval (issuedAt decode) call now).1 ∧
      Simulates decode argument now (call.activated?.toList ++ used) (call.eval decode argument now k).2
        (r.eval (issuedAt decode) call now).2 := by
  have h' := h.advance hle
  cases call with
  | activate a =>
    obtain ⟨h1, h2⟩ := h'.activate hw (hcanonical a rfl) (hfresh a.field rfl)
      (hexact (Option.some_ne_none _))
    exact ⟨congrArg Reply.ofExcept h1, h2⟩
  | read field =>
    rcases h' with ⟨hk, hr⟩ | ⟨v, d, h'⟩
    · simp only [ScriptCall.eval, Registry.eval, hk, hr]
      exact ⟨rfl, Or.inl ⟨rfl, rfl⟩⟩
    · obtain ⟨h1, h2⟩ := h'.read field
      exact ⟨congrArg Reply.value h1, Or.inr ⟨v, d, h2⟩⟩
  | revoke field record =>
    rcases h' with ⟨hk, hr⟩ | ⟨v, d, h'⟩
    · simp only [ScriptCall.eval, Registry.eval, hk, hr]
      exact ⟨rfl, Or.inl ⟨rfl, rfl⟩⟩
    · obtain ⟨h1, h2⟩ := h'.revoke field record
      exact ⟨congrArg Reply.integer h1, Or.inr ⟨v, d, h2⟩⟩
  | list version =>
    rcases h' with ⟨hk, hr⟩ | ⟨v, d, h'⟩
    · simp only [ScriptCall.eval, Registry.eval, hk, hr]
      exact ⟨rfl, Or.inl ⟨rfl, rfl⟩⟩
    · obtain ⟨h1, h2⟩ := h'.list version
      exact ⟨congrArg Reply.listing h1, Or.inr ⟨v, d, h2⟩⟩

theorem Simulates.run {calls : List (Nat × ScriptCall F)}
    (h : Simulates decode argument clock used k r) (hw : WritesIntegers argument)
    (hclock : ∀ c ∈ calls, clock ≤ c.1) (hmono : calls.Pairwise (·.1 ≤ ·.1))
    (hfresh : (used ++ activatedFields calls).Nodup)
    (hcanonical : ∀ c ∈ calls, ∀ a, c.2 = .activate a → a.Canonical decode)
    (hexact : ∀ c ∈ calls, c.1 + (used.length + (activatedFields calls).length) < 2 ^ 53) :
    runScripts decode argument calls k = Registry.run (issuedAt decode) calls r := by
  induction calls generalizing clock used k r with
  | nil => rfl
  | cons c calls ih =>
    obtain ⟨now, call⟩ := c
    obtain ⟨hafter, hmono⟩ := List.pairwise_cons.mp hmono
    -- the fields of all calls are those of this one and those of the rest
    have hfields : activatedFields ((now, call) :: calls) =
        call.activated?.toList ++ activatedFields calls := by
      unfold activatedFields
      rw [List.filterMap_cons]
      cases call.activated? <;> rfl
    have hlen : (call.activated?.toList ++ used).length + (activatedFields calls).length =
        used.length + (activatedFields ((now, call) :: calls)).length := by
      rw [hfields, List.length_append, List.length_append]
      omega
    rw [hfields] at hfresh
    obtain ⟨heq, hsim⟩ := h.eval hw (hclock (now, call) List.mem_cons_self)
      (hcanonical (now, call) List.mem_cons_self)
      (fun f hf hu => (List.nodup_append.mp hfresh).2.2 f hu f
        (List.mem_append_left _ (hf ▸ List.mem_singleton_self f)) rfl)
      (fun _ => by
        have := hexact (now, call) List.mem_cons_self
        omega)
    rw [runScripts, Registry.run, heq]
    refine congrArg _ (ih hsim hafter hmono ?_ ?_ ?_)
    · refine (List.Perm.nodup_iff ?_).mp hfresh
      rw [← List.append_assoc]
      exact List.perm_append_comm.append_right _
    · exact fun c hc => hcanonical c (List.mem_cons_of_mem _ hc)
    · intro c hc
      rw [hlen]
      exact hexact c (List.mem_cons_of_mem _ hc)

/-- **the scripts refine the registry** -/
theorem scripts_refine (hw : WritesIntegers argument) (calls : List (Nat × ScriptCall F))
    (h : Admissible decode calls) (hexact : ExactScores calls) :
    runScripts decode argument calls SessionKeys.missing =
      Registry.run (issuedAt decode) calls Registry.empty := by
  have hstart : Simulates decode argument 0 [] (SessionKeys.missing : SessionKeys F) Registry.empty :=
    Or.inl ⟨rfl, rfl⟩
  refine hstart.run hw (fun _ _ => Nat.zero_le _) h.clock h.fresh h.canonical fun c hc => ?_
  rw [List.length_nil, Nat.zero_add]
  exact hexact c hc

end

/-! ## two logins of one user -/

def firstRecord : String :=
  "\x7b\"exp\":9007200000,\"iat\":5,\"sub\":\"11111111-1111-4111-8111-111111111111\",\"token_version\":3,\"typ\":\"access\"\x7d"

def secondRecord : String :=
  "\x7b\"exp\":9007200001,\"iat\":6,\"sub\":\"11111111-1111-4111-8111-111111111111\",\"token_version\":3,\"typ\":\"access\"\x7d"

def decodeLogins (text : String) : Option DecodedRecord :=
  if text = firstRecord then some ⟨some 3, some 9007200000, some 5⟩
  else if text = secondRecord then some ⟨some 3, some 9007200001, some 6⟩
  else none

/-- at most one session: the second login ends the first -/
def twoLogins (clock : Nat) : List (Nat × ScriptCall Nat) :=
  [(clock, .activate ⟨9, firstRecord, 9007200000, 3, 1⟩),
    (clock, .activate ⟨7, secondRecord, 9007200001, 3, 1⟩),
    (clock, .read 7), (clock, .list 3)]

theorem twoLogins_admissible (clock : Nat) : Admissible decodeLogins (twoLogins clock) where
  clock := by simp [twoLogins]
  fresh := show [9, 7].Nodup by decide
  canonical := by
    have h₁ : Activation.Canonical decodeLogins
        (⟨9, firstRecord, 9007200000, 3, 1⟩ : Activation Nat) :=
      ⟨⟨5, by decide +kernel⟩, by decide, by decide, by decide⟩
    have h₂ : Activation.Canonical decodeLogins
        (⟨7, secondRecord, 9007200001, 3, 1⟩ : Activation Nat) :=
      ⟨⟨6, by decide +kernel⟩, by decide, by decide, by decide⟩
    intro c hc a ha
    simp only [twoLogins, List.mem_cons, List.not_mem_nil, or_false] at hc
    rcases hc with rfl | rfl | rfl | rfl
    · exact ScriptCall.activate.inj ha ▸ h₁
    · exact ScriptCall.activate.inj ha ▸ h₂
    · cases ha
    · cases ha

theorem scripts_refine_logins :
    runScripts decodeLogins Nat.repr (twoLogins 5000000) SessionKeys.missing =
    [.integer 1, .integer 1, .value (some secondRecord), .listing (.ok [6])] :=
  (scripts_refine writesIntegers_repr (twoLogins 5000000) (twoLogins_admissible 5000000) (by
    intro c hc
    have hclock : c.1 = 5000000 := by
      simp only [twoLogins, List.mem_cons, List.not_mem_nil, or_false] at hc
      rcases hc with rfl | rfl | rfl | rfl <;> rfl
    rw [hclock]
    decide)).trans (by decide +kernel)

/-- a clock of more than `2 ^ 53` microseconds: the second login gets the score of the first, and is
the one that is evicted -/
theorem scripts_diverge : ∃ (decode : String → Option DecodedRecord) (argument : Nat → String)
    (calls : List (Nat × ScriptCall Nat)), WritesIntegers argument ∧ Admissible decode calls ∧
    runScripts decode argument calls SessionKeys.missing ≠
      Registry.run (issuedAt decode) calls Registry.empty := by
  refine ⟨decodeLogins, Nat.repr, twoLogins 9007199255000000, writesIntegers_repr,
    twoLogins_admissible 9007199255000000, ?_⟩
  decide +kernel

end PgRbac
