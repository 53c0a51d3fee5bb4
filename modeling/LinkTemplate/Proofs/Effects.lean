/-!
# Programs that fail

A program over a state can do something and fail afterwards, and what it has done stays done.
`Fails` is how it fails. A program is `Atomic` if it does nothing where it fails : what may fail
and changes nothing goes first (`Atomic.bind_of_readOnly`), and behind something atomic comes only
what cannot fail (`Atomic.bind_of_neverFails`).
-/

namespace LinkTemplate

variable {ε σ α β : Type}

/-- The program fails in a state with an error. -/
def Fails (x : EStateM ε σ α) (s : σ) (e : ε) : Prop :=
  ∃ t, x.run s = .error e t

/-- The program does not fail, whatever the state. -/
def NeverFails (x : EStateM ε σ α) : Prop :=
  ∀ s e, ¬Fails x s e

/-- Where the program fails, the state is as it was in front of the program. -/
def Atomic (x : EStateM ε σ α) : Prop :=
  ∀ s e t, x.run s = .error e t → t = s

/-- The program leaves the state as it is, whether it fails or not. -/
structure ReadOnly (x : EStateM ε σ α) : Prop where
  atomic : Atomic x
  eq_of_ok : ∀ s a t, x.run s = .ok a t → t = s

theorem NeverFails.atomic {x : EStateM ε σ α} (h : NeverFails x) : Atomic x :=
  fun s e t hrun => absurd ⟨t, hrun⟩ (h s e)

/-! ## One behind the other -/

section Bind

variable {x : EStateM ε σ α} {f : α → EStateM ε σ β}

theorem run_bind_of_ok {s t : σ} {a : α} (h : x.run s = .ok a t) :
    (x >>= f).run s = (f a).run t := by
  rw [EStateM.run_bind, h]

theorem run_bind_of_error {s t : σ} {e : ε} (h : x.run s = .error e t) :
    (x >>= f).run s = .error e t := by
  rw [EStateM.run_bind, h]

/-- One program behind the other fails as the first of them that fails. -/
theorem fails_bind_iff {s : σ} {e : ε} :
    Fails (x >>= f) s e ↔ Fails x s e ∨ ∃ a t, x.run s = .ok a t ∧ Fails (f a) t e := by
  cases hrun : x.run s with
  | ok a t => simp [Fails, run_bind_of_ok hrun, hrun, and_assoc]
  | error e' t => simp [Fails, run_bind_of_error hrun, hrun]

/-- One program behind the other succeeds if both of them do. -/
theorem run_bind_eq_ok_iff {s t : σ} {b : β} :
    (x >>= f).run s = .ok b t ↔ ∃ a r, x.run s = .ok a r ∧ (f a).run r = .ok b t := by
  cases hrun : x.run s with
  | ok a r => simp [run_bind_of_ok hrun, and_assoc]
  | error e r => simp [run_bind_of_error hrun]

theorem NeverFails.bind (hx : NeverFails x) (hf : ∀ a, NeverFails (f a)) :
    NeverFails (x >>= f) := by
  intro s e h
  rcases fails_bind_iff.mp h with h | ⟨a, t, -, h⟩
  · exact hx s e h
  · exact hf a t e h

theorem Atomic.bind_of_readOnly (hx : ReadOnly x) (hf : ∀ a, Atomic (f a)) : Atomic (x >>= f) := by
  intro s e t h
  cases hrun : x.run s with
  | ok a r =>
    rw [run_bind_of_ok hrun] at h
    exact (hf a r e t h).trans (hx.eq_of_ok s a r hrun)
  | error e' r =>
    rw [run_bind_of_error hrun] at h
    obtain ⟨rfl, rfl⟩ := EStateM.Result.error.inj h
    exact hx.atomic s _ _ hrun

theorem Atomic.bind_of_neverFails (hx : Atomic x) (hf : ∀ a, NeverFails (f a)) :
    Atomic (x >>= f) := by
  intro s e t h
  cases hrun : x.run s with
  | ok a r =>
    rw [run_bind_of_ok hrun] at h
    exact absurd ⟨t, h⟩ (hf a r e)
  | error e' r =>
    rw [run_bind_of_error hrun] at h
    obtain ⟨rfl, rfl⟩ := EStateM.Result.error.inj h
    exact hx s _ _ hrun

theorem ReadOnly.bind (hx : ReadOnly x) (hf : ∀ a, ReadOnly (f a)) : ReadOnly (x >>= f) where
  atomic := .bind_of_readOnly hx fun a => (hf a).atomic
  eq_of_ok s b t h := by
    obtain ⟨a, r, hrun, h⟩ := run_bind_eq_ok_iff.mp h
    exact ((hf a).eq_of_ok r b t h).trans (hx.eq_of_ok s a r hrun)

end Bind

/-! ## Single steps -/

theorem bind_eq_ok_iff {x : Except ε α} {f : α → Except ε β} {b : β} :
    (x >>= f) = .ok b ↔ ∃ a, x = .ok a ∧ f a = .ok b := by
  cases x <;> simp [bind, Except.bind]

theorem bind_eq_error_iff {x : Except ε α} {f : α → Except ε β} {e : ε} :
    (x >>= f) = .error e ↔ x = .error e ∨ ∃ a, x = .ok a ∧ f a = .error e := by
  cases x <;> simp [bind, Except.bind]

theorem mapError_eq_ok_iff {ε' : Type} {g : ε → ε'} {x : Except ε α} {a : α} :
    x.mapError g = .ok a ↔ x = .ok a := by
  cases x <;> constructor <;> intro h <;> cases h <;> rfl

theorem mapError_eq_error_iff {ε' : Type} {g : ε → ε'} {x : Except ε α} {e : ε'} :
    x.mapError g = .error e ↔ ∃ e', x = .error e' ∧ g e' = e := by
  cases x with
  | ok a =>
    constructor
    · intro h
      cases h
    · rintro ⟨e', ⟨⟩, -⟩
  | error e' =>
    constructor
    · intro h
      exact ⟨e', rfl, Except.error.inj h⟩
    · rintro ⟨_, ⟨⟩, rfl⟩
      rfl

@[simp] theorem run_ofExcept_ok (a : α) (s : σ) :
    (ofExcept (.ok a) : EStateM ε σ α).run s = .ok a s := rfl

@[simp] theorem run_ofExcept_error (e : ε) (s : σ) :
    (ofExcept (.error e) : EStateM ε σ α).run s = .error e s := rfl

theorem run_ofExcept_eq_ok_iff {x : Except ε α} {s t : σ} {a : α} :
    (ofExcept x : EStateM ε σ α).run s = .ok a t ↔ x = .ok a ∧ t = s := by
  cases x <;> simp [eq_comm]

theorem run_ofExcept_bind_eq_ok_iff {x : Except ε α} {f : α → EStateM ε σ β} {s t : σ} {b : β} :
    (ofExcept x >>= f).run s = .ok b t ↔ ∃ a, x = .ok a ∧ (f a).run s = .ok b t := by
  simp only [run_bind_eq_ok_iff, run_ofExcept_eq_ok_iff, and_assoc, exists_and_left, exists_eq_left]

theorem fails_ofExcept_iff {x : Except ε α} {s : σ} {e : ε} :
    Fails (ofExcept x : EStateM ε σ α) s e ↔ x = .error e := by
  cases x <;> simp [Fails]

theorem fails_ofExcept_bind_iff {x : Except ε α} {f : α → EStateM ε σ β} {s : σ} {e : ε} :
    Fails (ofExcept x >>= f) s e ↔ x = .error e ∨ ∃ a, x = .ok a ∧ Fails (f a) s e := by
  simp only [fails_bind_iff, fails_ofExcept_iff, run_ofExcept_eq_ok_iff, and_assoc, exists_and_left,
    exists_eq_left]

theorem fails_get_bind_iff {f : σ → EStateM ε σ β} {s : σ} {e : ε} :
    Fails (get >>= f) s e ↔ Fails (f s) s e := Iff.rfl

theorem NeverFails.of_run_eq_ok {x : EStateM ε σ α} {a : α} {g : σ → σ}
    (h : ∀ s, x.run s = .ok a (g s)) : NeverFails x := by
  rintro s e ⟨t, ht⟩
  rw [h] at ht
  cases ht

theorem NeverFails.pure (a : α) : NeverFails (pure a : EStateM ε σ α) := by
  rintro s e ⟨t, ⟨⟩⟩

theorem NeverFails.modify (g : σ → σ) : NeverFails (modify g : EStateM ε σ PUnit) := by
  rintro s e ⟨t, ⟨⟩⟩

theorem ReadOnly.pure (a : α) : ReadOnly (pure a : EStateM ε σ α) where
  atomic := by rintro s e t ⟨⟩
  eq_of_ok := by
    rintro s a t ⟨⟩
    rfl

theorem ReadOnly.throw (e : ε) : ReadOnly (throw e : EStateM ε σ α) where
  atomic := by
    rintro s e t ⟨⟩
    rfl
  eq_of_ok := by rintro s a t ⟨⟩

theorem ReadOnly.get : ReadOnly (get : EStateM ε σ σ) where
  atomic := by rintro s e t ⟨⟩
  eq_of_ok := by
    rintro s a t ⟨⟩
    rfl

theorem ReadOnly.ofExcept (x : Except ε α) : ReadOnly (ofExcept x : EStateM ε σ α) where
  atomic := by
    rintro s e t h
    cases x <;> cases h
    rfl
  eq_of_ok _ _ _ h := (run_ofExcept_eq_ok_iff.mp h).2

end LinkTemplate
