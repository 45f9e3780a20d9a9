import CollectionScript.Proofs.Run.Alike
import CollectionScript.Proofs.Schema.Binding
import Mathlib.Data.List.Forall2

/-! Binding two lists of arguments that go to the same parameters, one after another. First for any relation
of the values that binding keeps; then for arguments that stand for the same words under different values
of the variables. Only a reference stands for different texts, and its value goes to the default parameter,
whatever it is; so the same parameters are bound, in the same order, and all but the default one to the
same values. -/
namespace CollectionScript

inductive Argument.Alike : Argument → Argument → Prop
  | written (text : Text) : Alike (.written text) (.written text)
  | substituted (text text' : Text) : Alike (.substituted text) (.substituted text')

namespace Schema

/-- Values of the same parameters, which differ at most for the default one. -/
structure Alike (schema : Schema) (bound bound' : Dictionary Text) : Prop where
  isSome_eq (name : Text) : (bound.get? name).isSome = (bound'.get? name).isSome
  get?_eq {name : Text} (h : ∀ p, schema.default? = some p → p.name ≠ name) :
    bound.get? name = bound'.get? name

/-- A relation `T` of arguments and a relation `S` of what is bound that fit together: arguments that are
related go to one parameter, and binding them to it keeps what is bound related. -/
structure Parallel (schema : Schema) (T : Argument → Argument → Prop)
    (S : Dictionary Text → Dictionary Text → Prop) : Prop where
  empty : S ∅ ∅
  isSome_eq {bound bound' : Dictionary Text} (h : S bound bound') (name : Text) :
    (bound.get? name).isSome = (bound'.get? name).isSome
  place? {a a' : Argument} (h : T a a') :
    schema.place? a = none ∧ schema.place? a' = none ∨
      ∃ p p' value value', schema.place? a = some (p, value) ∧ schema.place? a' = some (p', value') ∧
        p.name = p'.name ∧ ∀ {bound bound'}, S bound bound' →
          S (bound.insert p.name value) (bound'.insert p.name value')

structure AlikeBindings (schema : Schema) (bindings bindings' : Bindings) : Prop where
  command_eq : bindings.command = bindings'.command
  values : schema.Alike bindings.values bindings'.values

variable {schema : Schema} {bound bound' : Dictionary Text} {excused : Error → Prop}

theorem Alike.refl (schema : Schema) (bound : Dictionary Text) : schema.Alike bound bound where
  isSome_eq _ := rfl
  get?_eq _ := rfl

theorem Alike.insert (h : schema.Alike bound bound') {p : Parameter} {value value' : Text}
    (hvalue : value = value' ∨ schema.default? = some p) :
    schema.Alike (bound.insert p.name value) (bound'.insert p.name value') where
  isSome_eq name := by
    rw [Dictionary.get?_insert, Dictionary.get?_insert]
    by_cases hname : name = p.name
    · simp [hname]
    · simp only [hname, if_false, h.isSome_eq]
  get?_eq {name} hother := by
    rw [Dictionary.get?_insert, Dictionary.get?_insert]
    by_cases hname : name = p.name
    · rcases hvalue with rfl | hdefault
      · simp only [hname, if_true]
      · exact absurd hname.symm (hother p hdefault)
    · simp only [hname, if_false, h.get?_eq hother]

namespace Parallel

variable {T : Argument → Argument → Prop} {S : Dictionary Text → Dictionary Text → Prop}
  {arguments arguments' : List Argument}

/-- Binding on from related values. The index and the parameter of every argument are the same. -/
theorem bindFrom (h : schema.Parallel T S) (hbound : S bound bound')
    (harguments : List.Forall₂ T arguments arguments') (command : Text) (index : Nat) :
    Run.Alike excused S (schema.bindFrom command index bound arguments)
      (schema.bindFrom command index bound' arguments') := by
  induction harguments generalizing bound bound' index with
  | nil => exact .pure hbound
  | cons ha _ ih =>
    rw [Schema.bindFrom, Schema.bindFrom]
    rcases h.place? ha with ⟨hplace, hplace'⟩ | ⟨p, p', value, value', hplace, hplace', hname, hinsert⟩
    · rw [hplace, hplace']
      exact .fail (.leftOver _ _ _ _)
    · simp only [hplace, hplace', ← hname, h.isSome_eq hbound p.name]
      split
      · exact .fail (.leftOver _ _ _ _)
      · exact (Run.Alike.emit _).bind fun _ _ _ => ih (hinsert hbound) (index + 1)

theorem missing?_eq (h : schema.Parallel T S) (hbound : S bound bound')
    (harguments : List.Forall₂ T arguments arguments') :
    schema.missing? arguments bound = schema.missing? arguments' bound' := by
  have hnone : ∀ name, (bound.get? name).isNone = (bound'.get? name).isNone := fun name => by
    rw [← Option.not_isSome, ← Option.not_isSome, h.isSome_eq hbound]
  cases harguments with
  | nil => rfl
  | cons _ _ => simp only [missing?, hnone]

theorem bind (h : schema.Parallel T S) (harguments : List.Forall₂ T arguments arguments')
    (command : Text) :
    Run.Alike excused
      (fun bindings bindings' => bindings.command = bindings'.command ∧ S bindings.values bindings'.values)
      (schema.bind command arguments) (schema.bind command arguments') := by
  refine (h.bindFrom h.empty harguments command 1).bind fun bound bound' hbound => ?_
  rw [h.missing?_eq hbound harguments]
  cases schema.missing? arguments' bound' with
  | none => exact .pure ⟨rfl, hbound⟩
  | some p => exact .fail (.refl _)

end Parallel

theorem AlikeBindings.eq_of_no_default {bindings bindings' : Bindings}
    (h : schema.AlikeBindings bindings bindings') (hdefault : schema.default? = none) :
    bindings = bindings' := by
  obtain ⟨command, values⟩ := bindings
  obtain ⟨command', values'⟩ := bindings'
  obtain rfl : command = command' := h.command_eq
  obtain rfl : values = values' := Dictionary.ext_get? fun name => h.values.get?_eq fun p hp => by
    rw [hdefault] at hp
    cases hp
  rfl

theorem place?_alike {a a' : Argument} (h : a.Alike a') :
    schema.place? a = none ∧ schema.place? a' = none ∨
      ∃ p value value', schema.place? a = some (p, value) ∧ schema.place? a' = some (p, value') ∧
        (value = value' ∨ schema.default? = some p) := by
  cases h with
  | written text =>
    cases hplace : schema.place? (.written text) with
    | none => exact .inl ⟨rfl, rfl⟩
    | some place => exact .inr ⟨place.1, place.2, place.2, rfl, rfl, .inl rfl⟩
  | substituted text text' =>
    cases hdefault : schema.default? with
    | none => exact .inl (by simp [place?, named?, hdefault])
    | some p => exact .inr ⟨p, text, text', by simp [place?, named?, hdefault, Argument.text]⟩

theorem parallel_alike (schema : Schema) : schema.Parallel Argument.Alike schema.Alike where
  empty := .refl schema ∅
  isSome_eq h := h.isSome_eq
  place? h := by
    rcases place?_alike h with hnone | ⟨p, value, value', ha, ha', hvalue⟩
    · exact .inl hnone
    · exact .inr ⟨p, p, value, value', ha, ha', rfl, fun hbound => hbound.insert hvalue⟩

theorem forall₂_alike {f g : Text → Argument} (hfg : ∀ word, (f word).Alike (g word)) (ws : List Text) :
    List.Forall₂ Argument.Alike (ws.map f) (ws.map g) := by
  simp [hfg]

theorem alike_bind {f g : Text → Argument} (hfg : ∀ word, (f word).Alike (g word)) (command : Text)
    (ws : List Text) :
    Run.Alike excused schema.AlikeBindings (schema.bind command (ws.map f))
      (schema.bind command (ws.map g)) :=
  ((parallel_alike schema).bind (forall₂_alike hfg ws) command).mono fun _ _ h => ⟨h.1, h.2⟩

end Schema
end CollectionScript
