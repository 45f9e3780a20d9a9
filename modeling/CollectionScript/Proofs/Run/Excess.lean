import CollectionScript.Proofs.Run

/-! Runs that differ in the limits they keep to: the one with the tighter limits does what the other does,
unless it exceeds a limit. -/
namespace CollectionScript

def Error.IsExcess (e : Error) : Prop := ∃ excess, e.kind = .limitExceeded excess

theorem Error.isExcess_limitExceeded (excess : Excess) : (limitExceeded excess).IsExcess := ⟨excess, rfl⟩

theorem Error.IsExcess.atLine {e : Error} (h : e.IsExcess) (number : Nat) : (e.atLine number).IsExcess := by
  obtain ⟨excess, hexcess⟩ := h
  exact ⟨excess, (kind_atLine number e).trans hexcess⟩

namespace Run

variable {α β : Type}

/-- The first run is the second one, events and reads included, or it exceeds a limit. -/
def EqUnlessExcess (x y : Run α) : Prop := x = y ∨ ∃ e, x.outcome = .error e ∧ e.IsExcess

namespace EqUnlessExcess

variable {x y : Run α}

theorem refl (x : Run α) : EqUnlessExcess x x := .inl rfl

theorem bind {f g : α → Run β} (h : EqUnlessExcess x y) (hf : ∀ a, EqUnlessExcess (f a) (g a)) :
    EqUnlessExcess (x >>= f) (y >>= g) := by
  rcases h with rfl | ⟨e, he, hexcess⟩
  · cases hx : x.outcome with
    | error e =>
      rw [bind_of_error hx, bind_of_error hx]
      exact .inl rfl
    | ok a =>
      rw [bind_of_ok hx, bind_of_ok hx]
      rcases hf a with heq | ⟨e, he, hexcess⟩
      · exact .inl (by rw [heq])
      · exact .inr ⟨e, he, hexcess⟩
  · rw [bind_of_error he]
    exact .inr ⟨e, rfl, hexcess⟩

theorem atLine (h : EqUnlessExcess x y) (number : Nat) :
    EqUnlessExcess (x.atLine number) (y.atLine number) := by
  rcases h with rfl | ⟨e, he, hexcess⟩
  · exact .inl rfl
  · exact .inr ⟨_, outcome_atLine_of_error he number, hexcess.atLine number⟩

theorem check {small large : Nat} (h : small ≤ large) (count : Nat) (excess excess' : Excess) :
    EqUnlessExcess (ofExcept (if count ≤ small then .ok () else .error (.limitExceeded excess)))
      (ofExcept (if count ≤ large then .ok () else .error (.limitExceeded excess'))) := by
  by_cases hsmall : count ≤ small
  · rw [if_pos hsmall, if_pos (Nat.le_trans hsmall h)]
    exact .inl rfl
  · rw [if_neg hsmall]
    exact .inr ⟨_, rfl, Error.isExcess_limitExceeded excess⟩

theorem eq_of_ok (h : EqUnlessExcess x y) {a : α} (hx : x.outcome = .ok a) : x = y := by
  rcases h with heq | ⟨e, he, -⟩
  · exact heq
  · rw [hx] at he
    cases he

theorem eq_of_error (h : EqUnlessExcess x y) {e : Error} (hx : x.outcome = .error e)
    (hother : ¬ e.IsExcess) : x = y := by
  rcases h with heq | ⟨e', he', hexcess⟩
  · exact heq
  · rw [hx] at he'
    exact absurd hexcess (Except.error.inj he' ▸ hother)

end EqUnlessExcess
end Run
end CollectionScript
