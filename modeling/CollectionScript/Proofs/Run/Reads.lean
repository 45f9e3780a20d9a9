import CollectionScript.Proofs.Run

/-! Runs that differ in nothing but what they ask the environment for. -/
namespace CollectionScript
namespace Run

variable {α β : Type}

structure EqButReads (x y : Run α) : Prop where
  outcome_eq : x.outcome = y.outcome
  events_eq : x.events = y.events

namespace EqButReads

variable {x y : Run α}

theorem refl (x : Run α) : EqButReads x x := ⟨rfl, rfl⟩

theorem bind {f g : α → Run β} (h : EqButReads x y)
    (hf : ∀ a, x.outcome = .ok a → EqButReads (f a) (g a)) : EqButReads (x >>= f) (y >>= g) := by
  obtain ⟨houtcome, hevents⟩ := h
  cases hx : x.outcome with
  | error e =>
    rw [bind_of_error hx, bind_of_error (houtcome ▸ hx)]
    exact ⟨rfl, hevents⟩
  | ok a =>
    rw [bind_of_ok hx, bind_of_ok (houtcome ▸ hx)]
    obtain ⟨houtcome', hevents'⟩ := hf a hx
    have hall : x.events ++ (f a).events = y.events ++ (g a).events := by rw [hevents, hevents']
    exact ⟨houtcome', hall⟩

theorem atLine (h : EqButReads x y) (number : Nat) : EqButReads (x.atLine number) (y.atLine number) :=
  ⟨congrArg (Except.mapError _) h.outcome_eq, h.events_eq⟩

end EqButReads
end Run
end CollectionScript
