import CollectionScript.Proofs.Form.Builtin
import CollectionScript.Proofs.Schema.Alike

/-! The commands that a built-in form builds from values which differ for its default parameter only. They
differ in what the default parameter gives them and in nothing else, unless its value is refused. -/
namespace CollectionScript

/-- Commands of one kind that differ at most in what the default parameter gives them. -/
inductive Command.Alike : Command → Command → Prop
  | output (path path' : Text) : Alike (.output path) (.output path')
  | workdir (path path' : Text) : Alike (.workdir path) (.workdir path')
  | source (hosts hosts' : List Text) (port : Nat) :
    Alike (.source ⟨hosts, port⟩) (.source ⟨hosts', port⟩)
  | runAs (user user' : Text) (group : Option Text) :
    Alike (.runAs ⟨user, group⟩) (.runAs ⟨user', group⟩)
  | kubeconfig (path path' : Text) : Alike (.kubeconfig path) (.kubeconfig path')
  /-- A login has no default parameter. -/
  | login (login : Login) : Alike (.login login) (.login login)
  | exports (assignments assignments' : List Assignment) :
    Alike (.exports assignments) (.exports assignments')
  | copy (paths paths' : List Text) : Alike (.copy paths) (.copy paths')
  | capture (text text' : Text) (shell : Option Text) :
    Alike (.capture ⟨text, shell⟩) (.capture ⟨text', shell⟩)
  | run (text text' : Text) (shell : Option Text) : Alike (.run ⟨text, shell⟩) (.run ⟨text', shell⟩)

namespace Form

variable {schema : Schema} {bindings bindings' : Bindings} {excused : Error → Prop}

theorem agree_require (h : schema.AlikeBindings bindings bindings') (parameter : Text) :
    Agree excused (fun _ _ => True) (bindings.require parameter) (bindings'.require parameter) := by
  have hsome : (bindings.get? parameter).isSome = (bindings'.get? parameter).isSome :=
    h.values.isSome_eq parameter
  cases hvalue : bindings.get? parameter with
  | none =>
    have hvalue' : bindings'.get? parameter = none := by simpa [hvalue] using hsome
    rw [Bindings.require, Bindings.require, hvalue, hvalue', h.command_eq]
    exact .error (.refl _)
  | some value =>
    obtain ⟨value', hvalue'⟩ : ∃ value', bindings'.get? parameter = some value' := by
      rw [← Option.isSome_iff_exists, ← hsome, hvalue]
      rfl
    rw [Bindings.require, Bindings.require, hvalue, hvalue']
    exact .ok trivial

theorem agree_readList (command parameter value value' : Text) :
    Agree Error.IsInvalid (fun _ _ => True) (readList command parameter value)
      (readList command parameter value') :=
  .of_excused (fun _ => isInvalid_of_readList) fun _ => isInvalid_of_readList

theorem get?_shell (h : shellSchema.AlikeBindings bindings bindings') :
    bindings.get? "shell" = bindings'.get? "shell" :=
  h.values.get?_eq (by rintro p ⟨⟩; decide)

theorem agree_build {form : Form} (hform : form ∈ builtins)
    (h : form.schema.AlikeBindings bindings bindings') :
    Agree Error.IsInvalid Command.Alike (form.build bindings) (form.build bindings') := by
  cases hform using builtins_cases with
  | output => exact (agree_require h "path").bind fun path path' _ _ _ => .ok (.output path path')
  | workdir => exact (agree_require h "path").bind fun path path' _ _ _ => .ok (.workdir path path')
  | source =>
    have hport : bindings.get? "port" = bindings'.get? "port" :=
      h.values.get?_eq (by rintro p ⟨⟩; decide)
    refine (agree_require h "hosts").bind fun value value' _ _ _ => ?_
    refine (agree_readList "FROM" "hosts" value value').bind fun hosts hosts' _ _ _ => ?_
    rw [hport]
    cases bindings'.get? "port" with
    | none => exact .ok (.source hosts hosts' _)
    | some value =>
      refine (Agree.same (readPort value)).bind fun port port' _ _ heq => ?_
      exact heq ▸ .ok (.source hosts hosts' port)
  | runAs =>
    have hgroup : bindings.get? "groupid" = bindings'.get? "groupid" :=
      h.values.get?_eq (by rintro p ⟨⟩; decide)
    refine (agree_require h "userid").bind fun user user' _ _ _ => ?_
    rw [hgroup]
    exact .ok (.runAs user user' _)
  | kubeconfig => exact (agree_require h "path").bind fun path path' _ _ _ => .ok (.kubeconfig path path')
  | login =>
    obtain rfl := h.eq_of_no_default rfl
    refine (Agree.same (bindings.require "username")).bind fun username username' _ _ heq => ?_
    exact heq ▸ .ok (.login _)
  | exports =>
    refine (agree_require h "vars").bind fun value value' _ _ _ => ?_
    refine (agree_readList "ENV" "vars" value value').bind fun items items' _ _ _ => ?_
    have hread : Agree Error.IsInvalid (fun _ _ => True) (readAssignments items) (readAssignments items') :=
      .of_excused (fun _ => isInvalid_of_readAssignments) fun _ => isInvalid_of_readAssignments
    exact hread.bind fun assignments assignments' _ _ _ => .ok (.exports assignments assignments')
  | copy =>
    refine (agree_require h "paths").bind fun value value' _ _ _ => ?_
    exact (agree_readList "COPY" "paths" value value').bind fun paths paths' _ _ _ => .ok (.copy paths paths')
  | capture =>
    refine (agree_require h "cmd").bind fun text text' _ _ _ => ?_
    rw [get?_shell h]
    exact .ok (.capture text text' _)
  | run =>
    refine (agree_require h "cmd").bind fun text text' _ _ _ => ?_
    rw [get?_shell h]
    exact .ok (.run text text' _)

theorem alike_construct {form : Form} (hform : form ∈ builtins) {f g : Text → Argument}
    (hfg : ∀ word, (f word).Alike (g word)) (ws : List Text) :
    Run.Alike Error.IsInvalid Command.Alike (form.construct (ws.map f)) (form.construct (ws.map g)) :=
  (Schema.alike_bind hfg form.keyword ws).bind fun _ _ h => .ofExcept (agree_build hform h)

end Form
end CollectionScript
