import CollectionScript.Form.Builtin
import CollectionScript.Proofs.Schema.Alike
import CollectionScript.Proofs.Schema.Validation

/-! Giving the default parameter by its name. An argument that names no parameter goes to the default one
with all of its text; so does the text after the name of the default one and a colon, if no other parameter
can be meant. -/
namespace CollectionScript
namespace Schema

/-- An argument that names no parameter. If it has a colon, what is before it is a part of the value. -/
inductive Unqualified (schema : Schema) : Argument → Prop
  | substituted (text : Text) : Unqualified schema (.substituted text)
  | plain {text : Text} (h : ':' ∉ text) : Unqualified schema (.written text)
  | undeclared {front value : Text} (hcolon : ':' ∉ front) (h : ∀ p ∈ schema.parameters, p.name ≠ front) :
    Unqualified schema (.written (front ++ ':' :: value))

/-- The same argument or, of one that names no parameter, its text given to `d` by name. -/
inductive Respelled (schema : Schema) (d : Parameter) : Argument → Argument → Prop
  | same (a : Argument) : Respelled schema d a a
  | qualified {a : Argument} (h : schema.Unqualified a) :
    Respelled schema d a (.written (d.name ++ ':' :: a.text))

variable {schema : Schema} {d : Parameter} {a a' : Argument} {arguments arguments' : List Argument}

theorem unqualified_iff : schema.Unqualified a ↔ ∀ name value, ¬ schema.Names a name value := by
  constructor
  · intro h name value hnames
    cases hnames with
    | @intro p value hmem hcolon =>
      generalize htext : p.name ++ ':' :: value = text at h
      cases h with
      | plain h => exact h (by simp [← htext])
      | @undeclared front value' hcolon' hnot =>
        have hcut : Text.cut? ':' (p.name ++ ':' :: value) = some (p.name, value) :=
          Text.cut?_eq_some_iff.2 ⟨rfl, hcolon⟩
        have hcut' : Text.cut? ':' (p.name ++ ':' :: value) = some (front, value') :=
          Text.cut?_eq_some_iff.2 ⟨htext, hcolon'⟩
        rw [hcut] at hcut'
        exact hnot p hmem (Prod.mk.inj (Option.some.inj hcut')).1
  · intro h
    cases a with
    | substituted text => exact .substituted text
    | written text =>
      cases hcut : Text.cut? ':' text with
      | none => exact .plain (Text.cut?_eq_none_iff.1 hcut)
      | some place =>
        obtain ⟨rfl, hcolon⟩ := Text.cut?_eq_some_iff.1 hcut
        refine .undeclared hcolon fun p hmem hname => ?_
        rw [← hname] at h hcolon
        exact h _ _ (.intro hmem hcolon)

theorem target_unqualified (hd : schema.default? = some d) (h : schema.Unqualified a) :
    schema.Target a d.name a.text := .default (unqualified_iff.1 h) hd

theorem WellFormed.target_qualified (hschema : schema.WellFormed) (hd : schema.default? = some d)
    (text : Text) : schema.Target (.written (d.name ++ ':' :: text)) d.name text := by
  have hmem : d ∈ schema.parameters := List.mem_of_find?_eq_some hd
  exact .named (.intro hmem (hschema.names d hmem).2)

/-- However an argument is spelled, it is for the same parameter with the same value, or for none. -/
theorem WellFormed.target_iff_of_respelled (hschema : schema.WellFormed) (hd : schema.default? = some d)
    (h : schema.Respelled d a a') {name value : Text} :
    schema.Target a name value ↔ schema.Target a' name value := by
  cases h with
  | same => rfl
  | qualified h =>
    have htarget : schema.Target a d.name a.text := target_unqualified hd h
    have htarget' := hschema.target_qualified hd a.text
    constructor
    · intro hname
      obtain ⟨rfl, rfl⟩ := hname.unique htarget
      exact htarget'
    · intro hname
      obtain ⟨rfl, rfl⟩ := hname.unique htarget'
      exact htarget

theorem WellFormed.parallel_respelled (hschema : schema.WellFormed) (hd : schema.default? = some d) :
    schema.Parallel (schema.Respelled d) Eq where
  empty := rfl
  isSome_eq h _ := by rw [h]
  place? {a a'} h := by
    have htarget (name value : Text) : schema.Target a name value ↔ schema.Target a' name value :=
      hschema.target_iff_of_respelled hd h
    cases hplace : schema.place? a with
    | some place =>
      obtain ⟨p', hplace', hname⟩ :=
        place?_eq_some_iff.2 ((htarget _ _).1 (place?_eq_some_iff.1 ⟨place.1, hplace, rfl⟩))
      exact .inr ⟨place.1, p', place.2, place.2, rfl, hplace', hname.symm, fun hbound => by rw [hbound]⟩
    | none =>
      cases hplace' : schema.place? a' with
      | none => exact .inl ⟨rfl, rfl⟩
      | some place =>
        obtain ⟨p, hsome, -⟩ :=
          place?_eq_some_iff.2 ((htarget _ _).2 (place?_eq_some_iff.1 ⟨place.1, hplace', rfl⟩))
        rw [hplace] at hsome
        cases hsome

/-- A list of arguments is too long for the command that it is bound for, and for no other. -/
theorem command_of_tooMany {command command' token : Text} {index : Nat}
    (h : (schema.bind command arguments).outcome = .error (.tooManyArguments command' index token)) :
    command' = command := by
  rcases @placed_or_surplus schema arguments with hplaced | ⟨before, a, after, rfl, hbefore, ha⟩
  · obtain ⟨bound, -, hrun⟩ := bind_of_placed command hplaced
    rw [h] at hrun
    split at hrun <;> cases hrun
  · rw [bind_of_surplus command hbefore ha] at h
    cases h
    rfl

/-- Whether the default parameter is given by its name makes no difference to what is bound, to what is
missing, to how many arguments there is a place for, or to what is logged. Only the text that is reported
as left over is the one that is written. -/
theorem bind_respelled {name : Text} (hvalid : schema.validate name = .ok ())
    (hd : schema.default? = some d) (h : List.Forall₂ (schema.Respelled d) arguments arguments')
    (command : Text) :
    ((schema.bind command arguments).outcome = (schema.bind command arguments').outcome ∨
      ∃ index token token',
        (schema.bind command arguments).outcome = .error (.tooManyArguments command index token) ∧
        (schema.bind command arguments').outcome = .error (.tooManyArguments command index token')) ∧
    (schema.bind command arguments).events = (schema.bind command arguments').events := by
  have hschema : schema.WellFormed := validate_eq_ok_iff.1 hvalid
  have halike : Run.Alike (fun _ => False) _ (schema.bind command arguments) (schema.bind command arguments') :=
    (hschema.parallel_respelled hd).bind h command
  cases halike with
  | @ok bindings bindings' hx hy hevents heq =>
    have hbindings : bindings = bindings' := by
      cases bindings
      cases bindings'
      exact congrArg₂ Bindings.mk heq.1 heq.2
    exact ⟨.inl (by rw [hx, hy, hbindings]), hevents⟩
  | error hx hy hevents heq =>
    cases heq with
    | refl => exact ⟨.inl (hx.trans hy.symm), hevents⟩
    | leftOver command' index token token' =>
      obtain rfl := command_of_tooMany hx
      exact ⟨.inr ⟨index, token, token', hx, hy⟩, hevents⟩
  | left _ _ hfalse => exact hfalse.elim
  | right _ _ hfalse => exact hfalse.elim

/-- A value with a colon in it stays whole when it is written after the name. -/
theorem bind_respelled_hosts :
    Form.source.schema.validate "FROM" = .ok () ∧
    List.Forall₂ (Form.source.schema.Respelled ⟨"hosts", true, true⟩)
      [.written "port:22", .substituted "a:b"] [.written "port:22", .written "hosts:a:b"] ∧
    (Form.source.schema.bind "FROM" [.written "port:22", .written "hosts:a:b"]).outcome =
      .ok ⟨"FROM", .ofList [("hosts", "a:b"), ("port", "22")]⟩ := by
  have hvalid : Form.source.schema.validate "FROM" = .ok () := by decide +kernel
  have h : List.Forall₂ (Form.source.schema.Respelled ⟨"hosts", true, true⟩)
      [.written "port:22", .substituted "a:b"] [.written "port:22", .written "hosts:a:b"] :=
    .cons (.same _) (.cons (.qualified (.substituted _)) .nil)
  have hbind : (Form.source.schema.bind "FROM" [.written "port:22", .substituted "a:b"]).outcome =
      .ok ⟨"FROM", .ofList [("hosts", "a:b"), ("port", "22")]⟩ := by decide +kernel
  refine ⟨hvalid, h, ?_⟩
  rcases (bind_respelled hvalid rfl h "FROM").1 with heq | ⟨index, token, token', hx, -⟩
  · rw [← heq, hbind]
  · rw [hbind] at hx
    cases hx

end Schema
end CollectionScript
