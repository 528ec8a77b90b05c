import Mathlib.Data.List.Forall2

/-!
# Programs that may fail: how a success or a failure comes about

A command is a chain of reads, guards and writes in `Except ε`.  `require c e` is the guard
"raise `e` unless `c`".  The simp lemmas below take a finished chain apart:

* `bind_ok`, `bind_error`    the two ways a sequence ends;
* `require_ok`, `require_error`  what a guard says;
* `collect_ok`, `checkAll_ok`    a loop over a list that may stop at any element;
* `FailsIn`                  the failures that a chain is limited to.
-/

namespace Fallible

variable {ε α β : Type}

/-- raise `e` unless `c` holds -/
def require (c : Prop) [Decidable c] (e : ε) : Except ε Unit := if c then .ok () else .error e

@[simp] theorem require_ok (c : Prop) [Decidable c] (e : ε) (u : Unit) :
    require c e = .ok u ↔ c := by
  unfold require
  by_cases h : c <;> simp [h]

@[simp] theorem require_error (c : Prop) [Decidable c] (e e' : ε) :
    require c e = .error e' ↔ ¬ c ∧ e = e' := by
  unfold require
  by_cases h : c <;> simp [h]

@[simp] theorem bind_ok (x : Except ε α) (f : α → Except ε β) (b : β) :
    (x >>= f) = .ok b ↔ ∃ a, x = .ok a ∧ f a = .ok b := by
  cases x with
  | error e => simp [bind, Except.bind]
  | ok a => simp [bind, Except.bind]

theorem map_ok (f : α → β) (x : Except ε α) (b : β) :
    x.map f = .ok b ↔ ∃ a, x = .ok a ∧ f a = b := by
  cases x with
  | error e => simp [Except.map]
  | ok a => simp [Except.map]

@[simp] theorem bind_error (x : Except ε α) (f : α → Except ε β) (e : ε) :
    (x >>= f) = .error e ↔ x = .error e ∨ ∃ a, x = .ok a ∧ f a = .error e := by
  cases x with
  | error e => simp [bind, Except.bind]
  | ok a => simp [bind, Except.bind]

@[simp] theorem pure_ok (a b : α) : (pure a : Except ε α) = .ok b ↔ a = b := by
  simp [pure, Except.pure]

@[simp] theorem pure_error (a : α) (e : ε) : ¬ (pure a : Except ε α) = .error e := by
  simp [pure, Except.pure]

@[simp] theorem throw_ok (e : ε) (b : α) : ¬ (throw e : Except ε α) = .ok b := by
  simp [throw, throwThe, MonadExceptOf.throw]

@[simp] theorem throw_error (e e' : ε) : (throw e : Except ε α) = .error e' ↔ e = e' := by
  simp [throw, throwThe, MonadExceptOf.throw]

/-- the value, or `e` when there is none -/
def orRaise (o : Option α) (e : ε) : Except ε α :=
  match o with
  | some a => .ok a
  | none => .error e

@[simp] theorem orRaise_ok (o : Option α) (e : ε) (a : α) : orRaise o e = .ok a ↔ o = some a := by
  cases o <;> simp [orRaise]

@[simp] theorem orRaise_error (o : Option α) (e e' : ε) :
    orRaise o e = .error e' ↔ o = none ∧ e = e' := by
  cases o <;> simp [orRaise]

/-- run the guard `f` on every element, in order -/
def checkAll (f : α → Except ε Unit) : List α → Except ε Unit
  | [] => .ok ()
  | a :: l => f a >>= fun _ => checkAll f l

@[simp] theorem checkAll_ok (f : α → Except ε Unit) (l : List α) (u : Unit) :
    checkAll f l = .ok u ↔ ∀ a ∈ l, f a = .ok () := by
  induction l with
  | nil => simp [checkAll]
  | cons a l ih =>
    rw [checkAll, bind_ok, List.forall_mem_cons]
    simp only [ih]
    exact ⟨fun ⟨_, ha, hl⟩ => ⟨ha, hl⟩, fun ⟨ha, hl⟩ => ⟨(), ha, hl⟩⟩

theorem checkAll_error (f : α → Except ε Unit) (l : List α) (e : ε) (h : checkAll f l = .error e) :
    ∃ a ∈ l, f a = .error e := by
  induction l with
  | nil => cases h
  | cons a l ih =>
    rcases (bind_error _ _ _).mp h with ha | ⟨-, -, hl⟩
    · exact ⟨a, List.mem_cons_self, ha⟩
    · obtain ⟨a', ha', hf⟩ := ih hl
      exact ⟨a', List.mem_cons_of_mem _ ha', hf⟩

/-- run `f` on every element, in order, and stop at the first failure -/
def collect (f : α → Except ε β) : List α → Except ε (List β)
  | [] => .ok []
  | a :: l =>
    match f a with
    | .error e => .error e
    | .ok b =>
      match collect f l with
      | .error e => .error e
      | .ok bs => .ok (b :: bs)

theorem collect_ok (f : α → Except ε β) (l : List α) (bs : List β) (h : collect f l = .ok bs) :
    List.Forall₂ (fun a b => f a = .ok b) l bs := by
  induction l generalizing bs with
  | nil =>
    cases h
    exact .nil
  | cons a l ih =>
    unfold collect at h
    cases ha : f a with
    | error e => rw [ha] at h; cases h
    | ok b =>
      rw [ha] at h
      cases hl : collect f l with
      | error e => rw [hl] at h; cases h
      | ok bs' =>
        rw [hl] at h
        cases h
        exact .cons ha (ih bs' hl)

theorem collect_of_forall₂ (f : α → Except ε β) {l : List α} {bs : List β}
    (h : List.Forall₂ (fun a b => f a = .ok b) l bs) : collect f l = .ok bs := by
  induction h with
  | nil => rfl
  | cons hab _ ih =>
    unfold collect
    rw [hab, ih]

theorem collect_mem (f : α → Except ε β) {l : List α} {bs : List β} (h : collect f l = .ok bs)
    {b : β} (hb : b ∈ bs) : ∃ a ∈ l, f a = .ok b := by
  have hall := collect_ok f l bs h
  clear h
  induction hall with
  | nil => cases hb
  | cons hab _ ih =>
    rcases List.mem_cons.mp hb with rfl | hb'
    · exact ⟨_, List.mem_cons_self, hab⟩
    · obtain ⟨a, ha, hf⟩ := ih hb'
      exact ⟨a, List.mem_cons_of_mem _ ha, hf⟩

theorem mem_collect (f : α → Except ε β) (l : List α) (bs : List β) (h : collect f l = .ok bs)
    (a : α) (ha : a ∈ l) : ∃ b ∈ bs, f a = .ok b := by
  have hall := collect_ok f l bs h
  clear h
  induction hall with
  | nil => cases ha
  | cons hab _ ih =>
    rcases List.mem_cons.mp ha with rfl | ha'
    · exact ⟨_, List.mem_cons_self, hab⟩
    · obtain ⟨b, hb, hf⟩ := ih ha'
      exact ⟨b, List.mem_cons_of_mem _ hb, hf⟩

theorem collect_error (f : α → Except ε β) (l : List α) (e : ε) (h : collect f l = .error e) :
    ∃ a ∈ l, f a = .error e := by
  induction l with
  | nil => cases h
  | cons a l ih =>
    unfold collect at h
    cases ha : f a with
    | error e' =>
      rw [ha] at h
      cases h
      exact ⟨a, List.mem_cons_self, ha⟩
    | ok b =>
      rw [ha] at h
      cases hl : collect f l with
      | error e' =>
        rw [hl] at h
        cases h
        obtain ⟨a', ha', hf⟩ := ih hl
        exact ⟨a', List.mem_cons_of_mem _ ha', hf⟩
      | ok bs => rw [hl] at h; cases h

/-! ## the failures of a chain -/

/-- every failure of a command is one of these -/
def FailsIn (errors : List ε) (x : Except ε α) : Prop := ∀ e, x = .error e → e ∈ errors

section
variable {errors : List ε}

theorem failsIn_ok (a : α) : FailsIn errors (.ok a) := by
  intro e h
  cases h

theorem failsIn_error {e : ε} (he : e ∈ errors) : FailsIn errors (.error e : Except ε α) := by
  intro e' h
  cases h
  exact he

theorem FailsIn.bind {x : Except ε α} {f : α → Except ε β} (hx : FailsIn errors x)
    (hf : ∀ a, FailsIn errors (f a)) : FailsIn errors (x >>= f) := by
  intro e h
  rcases (bind_error _ _ _).mp h with hxe | ⟨a, -, hfe⟩
  · exact hx e hxe
  · exact hf a e hfe

theorem failsIn_require {c : Prop} [Decidable c] {e : ε} (he : e ∈ errors) :
    FailsIn errors (require c e) := by
  intro e' h
  rw [← ((require_error c e e').mp h).2]
  exact he

theorem failsIn_orRaise {o : Option α} {e : ε} (he : e ∈ errors) :
    FailsIn errors (orRaise o e) := by
  intro e' h
  rw [← ((orRaise_error o e e').mp h).2]
  exact he

end

end Fallible
