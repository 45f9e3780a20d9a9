import CollectionScript.Proofs.Run

/-! What the events of a run have in common. -/
namespace CollectionScript
namespace Run

variable {α β : Type} {P : Event → Prop}

def Logs (P : Event → Prop) (x : Run α) : Prop := ∀ event ∈ x.events, P event

theorem Logs.append {x : Run α} (h : x.Logs P) {events : List Event} (hevents : ∀ event ∈ events, P event) :
    ∀ event ∈ x.events ++ events, P event := by
  intro event hevent
  rcases List.mem_append.1 hevent with hevent | hevent
  · exact h event hevent
  · exact hevents event hevent

theorem logs_pure (a : α) : (pure a : Run α).Logs P := by simp [Logs]

theorem logs_ofExcept (x : Except Error α) : (ofExcept x).Logs P := by simp [Logs, ofExcept]

theorem logs_fail (e : Error) : (fail e : Run α).Logs P := by simp [Logs, fail]

theorem logs_emit {event : Event} (h : P event) : (emit event).Logs P := by simpa [Logs, emit] using h

theorem Logs.bind {x : Run α} {f : α → Run β} (hx : x.Logs P)
    (hf : ∀ a, x.outcome = .ok a → (f a).Logs P) : (x >>= f).Logs P := by
  cases h : x.outcome with
  | ok a =>
    rw [bind_of_ok h]
    exact hx.append (hf a h)
  | error e =>
    rw [bind_of_error h]
    exact hx

end Run
end CollectionScript
