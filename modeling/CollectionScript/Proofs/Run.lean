import CollectionScript.Run

/-! When a run succeeds, and with what. -/
namespace CollectionScript

instance {α : Type} [DecidableEq α] : DecidableEq (Except Error α)
  | .ok a, .ok b => decidable_of_iff (a = b) (by simp)
  | .error e, .error e' => decidable_of_iff (e = e') (by simp)
  | .ok _, .error _ => isFalse (by simp)
  | .error _, .ok _ => isFalse (by simp)

theorem except_ok_bind {α β : Type} (a : α) (f : α → Except Error β) :
    ((.ok a : Except Error α) >>= f) = f a := rfl

theorem except_bind_eq_ok_iff {ε α β : Type} {x : Except ε α} {f : α → Except ε β} {b : β} :
    (x >>= f) = .ok b ↔ ∃ a, x = .ok a ∧ f a = .ok b := by
  cases x <;> simp [bind, Except.bind]

theorem except_bind_eq_error_iff {α β : Type} {x : Except Error α} {f : α → Except Error β} {e : Error} :
    (x >>= f) = .error e ↔ x = .error e ∨ ∃ a, x = .ok a ∧ f a = .error e := by
  cases x <;> simp [bind, Except.bind]

theorem except_map_eq_ok_iff {α β : Type} {x : Except Error α} {f : α → β} {b : β} :
    x.map f = .ok b ↔ ∃ a, x = .ok a ∧ b = f a := by
  cases x <;> simp [Except.map, eq_comm]

namespace Run

variable {α β : Type}

@[simp] theorem outcome_ofExcept (x : Except Error α) : (ofExcept x).outcome = x := rfl

@[simp] theorem outcome_emit (event : Event) : (emit event).outcome = .ok () := rfl

@[simp] theorem outcome_ask (name : Text) (answer : α) : (ask name answer).outcome = .ok answer := rfl

@[simp] theorem outcome_fail (e : Error) : (fail e : Run α).outcome = .error e := rfl

theorem outcome_bind_eq_ok_iff {x : Run α} {f : α → Run β} {b : β} :
    (x >>= f).outcome = .ok b ↔ ∃ a, x.outcome = .ok a ∧ (f a).outcome = .ok b := by
  cases hx : x.outcome with
  | ok a => simp [bind_of_ok hx]
  | error e => simp [bind_of_error hx]

theorem outcome_then_eq_ok_iff {x : Run Unit} {f : Unit → Run β} {b : β} :
    (x >>= f).outcome = .ok b ↔ x.outcome = .ok () ∧ (f ()).outcome = .ok b := by
  rw [outcome_bind_eq_ok_iff]
  constructor
  · rintro ⟨⟨⟩, h⟩
    exact h
  · intro h
    exact ⟨(), h⟩

theorem outcome_bind_of_ok {x : Run α} {a : α} (h : x.outcome = .ok a) (f : α → Run β) :
    (x >>= f).outcome = (f a).outcome := by
  rw [bind_of_ok h]

theorem outcome_atLine_eq_ok_iff {x : Run α} {n : Nat} {a : α} :
    (x.atLine n).outcome = .ok a ↔ x.outcome = .ok a := by
  obtain ⟨outcome, events, reads⟩ := x
  cases outcome with
  | ok b => exact Iff.rfl
  | error e =>
    constructor
    · intro h
      cases h
    · intro h
      cases h

theorem outcome_atLine_of_error {x : Run α} {e : Error} (h : x.outcome = .error e) (n : Nat) :
    (x.atLine n).outcome = .error (e.atLine n) := by
  rw [atLine, h]
  rfl

theorem outcome_bind (x : Run α) (f : α → Run β) :
    (x >>= f).outcome = x.outcome >>= fun a => (f a).outcome := by
  cases hx : x.outcome with
  | ok a =>
    rw [bind_of_ok hx]
    rfl
  | error e =>
    rw [bind_of_error hx]
    rfl

theorem ofExcept_map (f : α → β) (x : Except Error α) :
    ofExcept (x.map f) = ofExcept x >>= fun a => pure (f a) := by
  cases x <;> rfl

theorem atLine_bind (n : Nat) (x : Run α) (f : α → Run β) :
    (x >>= f).atLine n = x.atLine n >>= fun a => (f a).atLine n := by
  obtain ⟨outcome, events, reads⟩ := x
  cases outcome <;> rfl

theorem reads_bind_eq_nil {x : Run α} {f : α → Run β} (hx : x.reads = [])
    (hf : ∀ a, x.outcome = .ok a → (f a).reads = []) : (x >>= f).reads = [] := by
  cases h : x.outcome with
  | ok a => rw [bind_of_ok h, hx, hf a h, List.append_nil]
  | error e => rw [bind_of_error h, hx]

theorem reads_bind_of_ok {x : Run α} {a : α} (h : x.outcome = .ok a) (f : α → Run β) :
    (x >>= f).reads = x.reads ++ (f a).reads := by
  rw [bind_of_ok h]

theorem reads_bind_of_error {x : Run α} {e : Error} (h : x.outcome = .error e) (f : α → Run β) :
    (x >>= f).reads = x.reads := by
  rw [bind_of_error h]

theorem ofExcept_ok_bind (a : α) (f : α → Run β) : ofExcept (.ok a) >>= f = f a := rfl

/-- What asks for nothing may follow. -/
theorem reads_bind_left {x : Run α} {f : α → Run β} (h : ∀ a, (f a).reads = []) :
    (x >>= f).reads = x.reads := by
  cases hx : x.outcome with
  | ok a => rw [reads_bind_of_ok hx, h a, List.append_nil]
  | error e => rw [reads_bind_of_error hx]

theorem events_bind_of_ok {x : Run α} {a : α} (h : x.outcome = .ok a) (f : α → Run β) :
    (x >>= f).events = x.events ++ (f a).events := by
  rw [bind_of_ok h]

theorem events_bind_left {x : Run α} {f : α → Run β} (h : ∀ a, (f a).events = []) :
    (x >>= f).events = x.events := by
  cases hx : x.outcome with
  | ok a => rw [events_bind_of_ok hx, h a, List.append_nil]
  | error e => rw [bind_of_error hx]

end Run
end CollectionScript
