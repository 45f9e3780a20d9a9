import CollectionScript.Proofs.Run

/-! Two runs side by side, on inputs that differ in some values only. They are alike if they log the same
and both succeed, with results that are related, or both fail, with errors that are alike. A failure that
is excused may end one of the two earlier, and then what it has logged is a part of what the other logs. -/
namespace CollectionScript

/-- The same error, but for the text of an argument that is left over. -/
inductive Error.Alike : Error → Error → Prop
  | refl (e : Error) : Alike e e
  | leftOver (command : Text) (index : Nat) (argument argument' : Text) :
    Alike (.tooManyArguments command index argument) (.tooManyArguments command index argument')

/-- Both outcomes are results that are related, or errors that are alike, or one is an error that is
excused. -/
inductive Agree {α β : Type} (excused : Error → Prop) (R : α → β → Prop) :
    Except Error α → Except Error β → Prop
  | ok {a : α} {b : β} (h : R a b) : Agree excused R (.ok a) (.ok b)
  | error {e e' : Error} (h : e.Alike e') : Agree excused R (.error e) (.error e')
  | left {e : Error} (h : excused e) (y : Except Error β) : Agree excused R (.error e) y
  | right {e : Error} (x : Except Error α) (h : excused e) : Agree excused R x (.error e)

namespace Agree

variable {α β γ δ : Type} {excused : Error → Prop} {R : α → β → Prop} {S : γ → δ → Prop}

theorem same (x : Except Error α) : Agree excused Eq x x := by
  cases x with
  | ok a => exact .ok rfl
  | error e => exact .error (.refl e)

theorem of_excused {x : Except Error α} {y : Except Error β} (hx : ∀ e, x = .error e → excused e)
    (hy : ∀ e, y = .error e → excused e) : Agree excused (fun _ _ => True) x y := by
  cases x with
  | error e => exact .left (hx e rfl) y
  | ok a =>
    cases y with
    | error e => exact .right _ (hy e rfl)
    | ok b => exact .ok trivial

theorem map {x : Except Error α} {y : Except Error β} {f : α → γ} {g : β → δ}
    (h : Agree excused R x y) (hf : ∀ a b, R a b → S (f a) (g b)) :
    Agree excused S (x.map f) (y.map g) := by
  cases h with
  | ok h => exact .ok (hf _ _ h)
  | error h => exact .error h
  | left h y => exact .left h _
  | right x h => exact .right _ h

theorem bind {x : Except Error α} {y : Except Error β} {f : α → Except Error γ} {g : β → Except Error δ}
    (h : Agree excused R x y)
    (hf : ∀ a b, x = .ok a → y = .ok b → R a b → Agree excused S (f a) (g b)) :
    Agree excused S (x >>= f) (y >>= g) := by
  cases h with
  | ok h => exact hf _ _ rfl rfl h
  | error h => exact .error h
  | left h y => exact .left h _
  | right x h => exact .right _ h

end Agree

namespace Run

variable {α β γ δ : Type} {excused : Error → Prop} {R : α → β → Prop} {S : γ → δ → Prop}

/-- The failure of one run may cut its events short only if it is excused. -/
inductive Alike (excused : Error → Prop) (R : α → β → Prop) (x : Run α) (y : Run β) : Prop
  | ok {a : α} {b : β} (hx : x.outcome = .ok a) (hy : y.outcome = .ok b) (hevents : x.events = y.events)
    (h : R a b)
  | error {e e' : Error} (hx : x.outcome = .error e) (hy : y.outcome = .error e')
    (hevents : x.events = y.events) (h : e.Alike e')
  | left {e : Error} (hx : x.outcome = .error e) (hevents : x.events <+: y.events) (h : excused e)
  | right {e : Error} (hy : y.outcome = .error e) (hevents : y.events <+: x.events) (h : excused e)

theorem events_prefix_bind (x : Run α) (f : α → Run γ) : x.events <+: (x >>= f).events := by
  cases hx : x.outcome with
  | ok a =>
    rw [bind_of_ok hx]
    exact List.prefix_append _ _
  | error e =>
    have hevents : (x >>= f).events = x.events := by rw [bind_of_error hx]
    exact hevents ▸ List.prefix_refl _

namespace Alike

theorem pure {a : α} {b : β} (h : R a b) : Alike excused R (pure a) (pure b) := .ok rfl rfl rfl h

theorem fail {e e' : Error} (h : e.Alike e') : Alike excused R (fail e) (fail e') :=
  .error rfl rfl rfl h

theorem emit (event : Event) : Alike excused Eq (emit event) (emit event) := .ok rfl rfl rfl rfl

theorem ofExcept {x : Except Error α} {y : Except Error β} (h : Agree excused R x y) :
    Alike excused R (ofExcept x) (ofExcept y) := by
  cases h with
  | ok h => exact .ok rfl rfl rfl h
  | error h => exact .error rfl rfl rfl h
  | left h y => exact .left rfl (List.prefix_refl _) h
  | right x h => exact .right rfl (List.prefix_refl _) h

variable {x : Run α} {y : Run β}

theorem agree (h : Alike excused R x y) : Agree excused R x.outcome y.outcome := by
  cases h with
  | ok hx hy _ h => rw [hx, hy]; exact .ok h
  | error hx hy _ h => rw [hx, hy]; exact .error h
  | left hx _ h => rw [hx]; exact .left h _
  | right hy _ h => rw [hy]; exact .right _ h

theorem mono {R' : α → β → Prop} (h : Alike excused R x y) (hR : ∀ a b, R a b → R' a b) :
    Alike excused R' x y := by
  cases h with
  | ok hx hy hevents h => exact .ok hx hy hevents (hR _ _ h)
  | error hx hy hevents h => exact .error hx hy hevents h
  | left hx hevents h => exact .left hx hevents h
  | right hy hevents h => exact .right hy hevents h

theorem bind {f : α → Run γ} {g : β → Run δ} (h : Alike excused R x y)
    (hf : ∀ a b, R a b → Alike excused S (f a) (g b)) : Alike excused S (x >>= f) (y >>= g) := by
  cases h with
  | @ok a b hx hy hevents h =>
    rw [bind_of_ok hx, bind_of_ok hy, hevents]
    cases hf a b h with
    | ok hfa hgb hrest h' => exact .ok hfa hgb (congrArg (y.events ++ ·) hrest) h'
    | error hfa hgb hrest h' => exact .error hfa hgb (congrArg (y.events ++ ·) hrest) h'
    | left hfa hrest h' => exact .left hfa ((List.prefix_append_right_inj _).2 hrest) h'
    | right hgb hrest h' => exact .right hgb ((List.prefix_append_right_inj _).2 hrest) h'
  | error hx hy hevents h =>
    rw [bind_of_error hx, bind_of_error hy]
    exact .error rfl rfl hevents h
  | left hx hevents h =>
    rw [bind_of_error hx]
    exact .left rfl (hevents.trans (events_prefix_bind y g)) h
  | right hy hevents h =>
    rw [bind_of_error hy]
    exact .right rfl (hevents.trans (events_prefix_bind x f)) h

/-- Where every failure is excused, the number of the line is of no account. -/
theorem atLine (h : Alike (fun _ => True) R x y) (number : Nat) :
    Alike (fun _ => True) R (x.atLine number) (y.atLine number) := by
  cases h with
  | ok hx hy hevents h =>
    exact .ok (outcome_atLine_eq_ok_iff.2 hx) (outcome_atLine_eq_ok_iff.2 hy) hevents h
  | error hx _ hevents _ =>
    exact .left (outcome_atLine_of_error hx number) (hevents ▸ List.prefix_refl _) trivial
  | left hx hevents _ => exact .left (outcome_atLine_of_error hx number) hevents trivial
  | right hy hevents _ => exact .right (outcome_atLine_of_error hy number) hevents trivial

theorem events_eq_of_ok (h : Alike excused R x y) {a : α} {b : β} (hx : x.outcome = .ok a)
    (hy : y.outcome = .ok b) : x.events = y.events := by
  cases h with
  | ok _ _ hevents _ => exact hevents
  | error _ _ hevents _ => exact hevents
  | left hx' => rw [hx] at hx'; cases hx'
  | right hy' => rw [hy] at hy'; cases hy'

theorem events_comparable (h : Alike excused R x y) : x.events <+: y.events ∨ y.events <+: x.events := by
  cases h with
  | ok _ _ hevents _ => exact .inl (hevents ▸ List.prefix_refl _)
  | error _ _ hevents _ => exact .inl (hevents ▸ List.prefix_refl _)
  | left _ hevents _ => exact .inl hevents
  | right _ hevents _ => exact .inr hevents

end Alike
end Run
end CollectionScript
