import CollectionScript.Bindings
import CollectionScript.Proofs.Dictionary
import CollectionScript.Proofs.Run

/-! Binding arguments to the parameters of a schema. Where an argument goes is a relation; binding succeeds
if every argument has a parameter for itself and none is lacking, and otherwise names the first argument
that is left over, or the parameter that is lacking. -/
namespace CollectionScript
namespace Schema

/-- A written argument names a declared parameter before its first colon. -/
inductive Names (schema : Schema) : Argument → Text → Text → Prop
  | intro {p : Parameter} {value : Text} (hmem : p ∈ schema.parameters) (hcolon : ':' ∉ p.name) :
    Names schema (.written (p.name ++ ':' :: value)) p.name value

inductive Target (schema : Schema) : Argument → Text → Text → Prop
  | named {a : Argument} {name value : Text} (h : schema.Names a name value) :
    Target schema a name value
  | default {a : Argument} {p : Parameter} (h : ∀ name value, ¬ schema.Names a name value)
    (hp : schema.default? = some p) : Target schema a p.name a.text

/-- After the arguments `before`, the argument has no parameter, or one that is taken. -/
def Surplus (schema : Schema) (before : List Argument) (a : Argument) : Prop :=
  (¬ ∃ name value, schema.Target a name value) ∨
    ∃ name value, schema.Target a name value ∧ ∃ b ∈ before, ∃ w, schema.Target b name w

def Placed (schema : Schema) (arguments : List Argument) : Prop :=
  ∀ before a after, arguments = before ++ a :: after → ¬ schema.Surplus before a

inductive Lacks (schema : Schema) : List Argument → Parameter → Prop
  | default {p : Parameter} (h : schema.default? = some p) : Lacks schema [] p
  | required {p : Parameter} (h : schema.default? = none) (hp : schema.required.head? = some p) :
    Lacks schema [] p
  | unbound {arguments : List Argument} {p : Parameter} {front back : List Parameter}
    (hne : arguments ≠ []) (hsplit : schema.parameters = front ++ p :: back)
    (hrequired : p.isRequired = true)
    (hp : ∀ a ∈ arguments, ∀ value, ¬ schema.Target a p.name value)
    (hfront : ∀ q ∈ front, q.isRequired = true → ∃ a ∈ arguments, ∃ value,
      schema.Target a q.name value) : Lacks schema arguments p

def name? (schema : Schema) (a : Argument) : Option Text := (schema.place? a).map (·.1.name)

def names (schema : Schema) (arguments : List Argument) : List Text := arguments.filterMap schema.name?

/-- What is logged when parameters of these names take one argument each, from place `index` on. -/
def boundEvents (command : Text) (index : Nat) (names : List Text) : List Event :=
  (names.zipIdx index).map fun place => .boundArgument command place.1 place.2

variable {schema : Schema} {command : Text}

theorem find?_eq_some {name : Text} {p : Parameter} (h : schema.find? name = some p) :
    p ∈ schema.parameters ∧ p.name = name := by
  refine ⟨List.mem_of_find?_eq_some h, ?_⟩
  simpa using List.find?_some h

theorem named?_eq_some_iff {a : Argument} {name value : Text} :
    (∃ p, schema.named? a = some (p, value) ∧ p.name = name) ↔ schema.Names a name value := by
  constructor
  · rintro ⟨p, h, rfl⟩
    cases a with
    | substituted text => cases h
    | written text =>
      simp only [named?] at h
      split at h
      · next name' value' hcut =>
        obtain ⟨rfl, hcolon⟩ := Text.cut?_eq_some_iff.1 hcut
        obtain ⟨q, hq, heq⟩ := Option.map_eq_some_iff.1 h
        obtain ⟨rfl, rfl⟩ := Prod.mk.inj heq
        obtain ⟨hmem, rfl⟩ := find?_eq_some hq
        exact .intro hmem hcolon
      · cases h
  · rintro @⟨p, value, hmem, hcolon⟩
    have hcut : Text.cut? ':' (p.name ++ ':' :: value) = some (p.name, value) :=
      Text.cut?_eq_some_iff.2 ⟨rfl, hcolon⟩
    have hfound : (schema.find? p.name).isSome := by
      rw [find?, List.find?_isSome]
      exact ⟨p, hmem, by simp⟩
    obtain ⟨q, hq⟩ := Option.isSome_iff_exists.1 hfound
    refine ⟨q, ?_, (find?_eq_some hq).2⟩
    simp [named?, hcut, hq]

theorem named?_eq_none_iff {a : Argument} :
    schema.named? a = none ↔ ∀ name value, ¬ schema.Names a name value := by
  constructor
  · intro h name value hnames
    obtain ⟨p, hp, _⟩ := named?_eq_some_iff.2 hnames
    rw [h] at hp
    cases hp
  · intro h
    cases hnamed : schema.named? a with
    | none => rfl
    | some place => exact absurd (named?_eq_some_iff.1 ⟨place.1, hnamed, rfl⟩) (h _ _)

theorem place?_eq_some_iff {a : Argument} {name value : Text} :
    (∃ p, schema.place? a = some (p, value) ∧ p.name = name) ↔ schema.Target a name value := by
  constructor
  · rintro ⟨p, h, rfl⟩
    cases hnamed : schema.named? a with
    | some place =>
      simp only [place?, hnamed, Option.some.injEq] at h
      subst h
      exact .named (named?_eq_some_iff.1 ⟨p, hnamed, rfl⟩)
    | none =>
      simp only [place?, hnamed, Option.map_eq_some_iff, Prod.mk.injEq] at h
      obtain ⟨q, hq, rfl, rfl⟩ := h
      exact .default (named?_eq_none_iff.1 hnamed) hq
  · rintro (h | ⟨h, hp⟩)
    · obtain ⟨p, hp, rfl⟩ := named?_eq_some_iff.2 h
      exact ⟨p, by simp [place?, hp], rfl⟩
    · next p => exact ⟨p, by simp [place?, named?_eq_none_iff.2 h, hp], rfl⟩

theorem Target.unique {a : Argument} {name name' value value' : Text}
    (h : schema.Target a name value) (h' : schema.Target a name' value') :
    name = name' ∧ value = value' := by
  obtain ⟨p, hp, rfl⟩ := place?_eq_some_iff.2 h
  obtain ⟨p', hp', rfl⟩ := place?_eq_some_iff.2 h'
  obtain ⟨rfl, rfl⟩ := Prod.mk.inj (Option.some.inj (hp.symm.trans hp'))
  exact ⟨rfl, rfl⟩

theorem name?_eq_some_iff {a : Argument} {name : Text} :
    schema.name? a = some name ↔ ∃ value, schema.Target a name value := by
  rw [name?, Option.map_eq_some_iff]
  constructor
  · rintro ⟨⟨p, value⟩, hplace, rfl⟩
    exact ⟨value, place?_eq_some_iff.1 ⟨p, hplace, rfl⟩⟩
  · rintro ⟨value, htarget⟩
    obtain ⟨p, hplace, rfl⟩ := place?_eq_some_iff.2 htarget
    exact ⟨(p, value), hplace, rfl⟩

@[simp] theorem placed_nil : schema.Placed [] := by
  intro before a after h
  simp at h

theorem placed_concat_iff {before : List Argument} {a : Argument} :
    schema.Placed (before ++ [a]) ↔ schema.Placed before ∧ ¬ schema.Surplus before a := by
  constructor
  · intro h
    refine ⟨fun front b back hsplit => ?_, h before a [] rfl⟩
    exact h front b (back ++ [a]) (by simp [hsplit])
  · rintro ⟨hbefore, ha⟩ front b back hsplit
    rcases List.eq_nil_or_concat back with rfl | ⟨back', c, rfl⟩
    · obtain ⟨rfl, heq⟩ := List.append_inj' hsplit rfl
      obtain rfl := (List.cons.inj heq).1
      exact ha
    · have hfront : before ++ [a] = (front ++ b :: back') ++ [c] := by simpa using hsplit
      exact hbefore front b back' (List.append_inj' hfront rfl).1

theorem placed_of_append {before after : List Argument} (h : schema.Placed (before ++ after)) :
    schema.Placed before := by
  intro front a back hsplit
  exact h front a (back ++ after) (by simp [hsplit])

theorem placed_or_surplus (arguments : List Argument) :
    schema.Placed arguments ∨ ∃ before a after, arguments = before ++ a :: after ∧
      schema.Placed before ∧ schema.Surplus before a := by
  induction hn : arguments.length generalizing arguments with
  | zero =>
    obtain rfl := List.length_eq_zero_iff.1 hn
    exact .inl placed_nil
  | succ n ih =>
    rcases List.eq_nil_or_concat arguments with rfl | ⟨front, a, rfl⟩
    · exact .inl placed_nil
    · rcases ih front (by simpa using hn) with hfront | ⟨before, b, after, rfl, hbefore, hb⟩
      · by_cases ha : schema.Surplus front a
        · exact .inr ⟨front, a, [], by simp, hfront, ha⟩
        · exact .inl (by simpa using placed_concat_iff.2 ⟨hfront, ha⟩)
      · exact .inr ⟨before, b, after ++ [a], by simp, hbefore, hb⟩

/-- What is bound after the arguments `before`: their targets, each once. -/
structure Holds (schema : Schema) (before : List Argument) (bound : Dictionary Text) : Prop where
  get?_iff (name value : Text) :
    bound.get? name = some value ↔ ∃ a ∈ before, schema.Target a name value
  size_eq : bound.size = before.length

theorem Holds.isSome_iff {before : List Argument} {bound : Dictionary Text}
    (h : schema.Holds before bound) (name : Text) :
    (bound.get? name).isSome ↔ ∃ a ∈ before, ∃ value, schema.Target a name value := by
  rw [Option.isSome_iff_exists]
  constructor
  · rintro ⟨value, hvalue⟩
    obtain ⟨a, ha, htarget⟩ := (h.get?_iff name value).1 hvalue
    exact ⟨a, ha, value, htarget⟩
  · rintro ⟨a, ha, value, htarget⟩
    exact ⟨value, (h.get?_iff name value).2 ⟨a, ha, htarget⟩⟩

theorem Holds.isNone_iff {before : List Argument} {bound : Dictionary Text}
    (h : schema.Holds before bound) (name : Text) :
    (bound.get? name).isNone ↔ ∀ a ∈ before, ∀ value, ¬ schema.Target a name value := by
  rw [← Option.not_isSome, Bool.not_eq_true', ← Bool.not_eq_true, h.isSome_iff]
  simp only [not_exists, not_and]

theorem holds_empty : schema.Holds [] ∅ where
  get?_iff name value := by simp
  size_eq := rfl

theorem Holds.insert {before : List Argument} {bound : Dictionary Text}
    (h : schema.Holds before bound) {a : Argument} {name value : Text}
    (htarget : schema.Target a name value) (hfree : bound.get? name = none) :
    schema.Holds (before ++ [a]) (bound.insert name value) where
  get?_iff name' value' := by
    rw [Dictionary.get?_insert]
    by_cases hname : name' = name
    · subst hname
      rw [if_pos rfl, Option.some.injEq]
      constructor
      · rintro rfl
        exact ⟨a, by simp, htarget⟩
      · rintro ⟨b, hb, hb'⟩
        rcases List.mem_append.1 hb with hb | hb
        · have hbound := (h.get?_iff name' value').2 ⟨b, hb, hb'⟩
          rw [hfree] at hbound
          cases hbound
        · obtain rfl := List.mem_singleton.1 hb
          exact (htarget.unique hb').2
    · rw [if_neg hname, h.get?_iff]
      constructor
      · rintro ⟨b, hb, hb'⟩
        exact ⟨b, List.mem_append_left _ hb, hb'⟩
      · rintro ⟨b, hb, hb'⟩
        rcases List.mem_append.1 hb with hb | hb
        · exact ⟨b, hb, hb'⟩
        · obtain rfl := List.mem_singleton.1 hb
          exact absurd (hb'.unique htarget).1 hname
  size_eq := by
    rw [Dictionary.size_insert hfree, h.size_eq, List.length_append, List.length_singleton]

/-- An argument is surplus exactly where no parameter is left for it. -/
theorem Holds.surplus_iff {before : List Argument} {bound : Dictionary Text}
    (h : schema.Holds before bound) (a : Argument) :
    schema.Surplus before a ↔
      ∀ name value, schema.Target a name value → (bound.get? name).isSome := by
  constructor
  · rintro (hnone | ⟨name, value, htarget, b, hb, w, hw⟩) name' value' htarget'
    · exact absurd ⟨name', value', htarget'⟩ hnone
    · obtain ⟨rfl, -⟩ := htarget.unique htarget'
      exact (h.isSome_iff name).2 ⟨b, hb, w, hw⟩
  · intro htaken
    by_cases hsome : ∃ name value, schema.Target a name value
    · obtain ⟨name, value, htarget⟩ := hsome
      obtain ⟨b, hb, w, hw⟩ := (h.isSome_iff name).1 (htaken name value htarget)
      exact .inr ⟨name, value, htarget, b, hb, w, hw⟩
    · exact .inl hsome

theorem bindFrom_of_surplus {before : List Argument} {bound : Dictionary Text}
    (h : schema.Holds before bound) {a : Argument} (ha : schema.Surplus before a) (index : Nat)
    (arguments : List Argument) :
    schema.bindFrom command index bound (a :: arguments) =
      Run.fail (.tooManyArguments command index a.text) := by
  have htaken := (h.surplus_iff a).1 ha
  rw [bindFrom]
  split
  · rfl
  · next p value hplace =>
    rw [if_pos (htaken p.name value (place?_eq_some_iff.1 ⟨p, hplace, rfl⟩))]

theorem bindFrom_of_target {bound : Dictionary Text} {a : Argument} {name value : Text}
    (htarget : schema.Target a name value) (hfree : bound.get? name = none) (index : Nat)
    (arguments : List Argument) :
    schema.bindFrom command index bound (a :: arguments) =
      (Run.emit (.boundArgument command name index) >>= fun _ =>
        schema.bindFrom command (index + 1) (bound.insert name value) arguments) := by
  obtain ⟨p, hplace, rfl⟩ := place?_eq_some_iff.2 htarget
  rw [bindFrom]
  simp [hplace, hfree]

/-- Binding passes over arguments that have their places, and logs the places. -/
theorem bindFrom_append {before : List Argument} {bound : Dictionary Text}
    (h : schema.Holds before bound) (command : Text) (index : Nat)
    {arguments : List Argument} (hplaced : schema.Placed (before ++ arguments))
    (rest : List Argument) :
    ∃ bound', schema.Holds (before ++ arguments) bound' ∧
      (schema.bindFrom command index bound (arguments ++ rest)).outcome =
        (schema.bindFrom command (index + arguments.length) bound' rest).outcome ∧
      (schema.bindFrom command index bound (arguments ++ rest)).events =
        boundEvents command index (schema.names arguments) ++
          (schema.bindFrom command (index + arguments.length) bound' rest).events := by
  induction arguments generalizing before bound index with
  | nil => exact ⟨bound, by simpa using h, rfl, rfl⟩
  | cons a arguments ih =>
    have happend : before ++ a :: arguments = before ++ [a] ++ arguments := by simp
    rw [happend] at hplaced ⊢
    have ha : ¬ schema.Surplus before a := (placed_concat_iff.1 (placed_of_append hplaced)).2
    obtain ⟨name, value, htarget, hfree⟩ : ∃ name value, schema.Target a name value ∧
        bound.get? name = none := by
      rw [h.surplus_iff] at ha
      simpa using ha
    obtain ⟨bound', hholds, hrun, hevents⟩ := ih (h.insert htarget hfree) (index + 1) hplaced
    have hstep : schema.bindFrom command index bound (a :: (arguments ++ rest)) =
        (Run.emit (.boundArgument command name index) >>= fun _ =>
          schema.bindFrom command (index + 1) (bound.insert name value) (arguments ++ rest)) :=
      bindFrom_of_target htarget hfree index (arguments ++ rest)
    have hnames : schema.names (a :: arguments) = name :: schema.names arguments :=
      List.filterMap_cons_some (name?_eq_some_iff.2 ⟨value, htarget⟩)
    have hindex : index + (a :: arguments).length = index + 1 + arguments.length := by
      rw [List.length_cons, Nat.add_assoc, Nat.add_comm 1]
    rw [List.cons_append, hstep, Run.bind_of_ok rfl, hindex, hrun, hevents, hnames]
    exact ⟨bound', hholds, rfl, rfl⟩

theorem missing?_eq_some_iff {arguments : List Argument} {bound : Dictionary Text}
    (h : schema.Holds arguments bound) {p : Parameter} :
    schema.missing? arguments bound = some p ↔ schema.Lacks arguments p := by
  cases arguments with
  | nil =>
    rw [missing?, Option.or_eq_some_iff]
    constructor
    · rintro (hp | ⟨hnone, hp⟩)
      · exact .default hp
      · exact .required hnone hp
    · rintro (hp | ⟨hnone, hp⟩ | hne)
      · exact .inl hp
      · exact .inr ⟨hnone, hp⟩
      · exact absurd rfl hne
  | cons a arguments =>
    rw [missing?, required, List.find?_filter, List.find?_eq_some_iff_append]
    simp only [decide_eq_true_eq, Bool.not_eq_true', decide_eq_false_iff_not, not_and, h.isNone_iff,
      Classical.not_forall, Classical.not_not, exists_prop]
    constructor
    · rintro ⟨⟨hrequired, hp⟩, front, back, hsplit, hfront⟩
      exact .unbound (by simp) hsplit hrequired hp hfront
    · rintro (_ | _ | ⟨_, hsplit, hrequired, hp, hfront⟩)
      exact ⟨⟨hrequired, hp⟩, _, _, hsplit, hfront⟩

theorem bind_of_surplus (command : Text) {before : List Argument} {a : Argument}
    (hbefore : schema.Placed before) (ha : schema.Surplus before a) (after : List Argument) :
    (schema.bind command (before ++ a :: after)).outcome =
      .error (.tooManyArguments command (before.length + 1) a.text) := by
  obtain ⟨bound, hholds, hrun, -⟩ := bindFrom_append holds_empty command 1 hbefore (a :: after)
  have herror : (schema.bindFrom command 1 ∅ (before ++ a :: after)).outcome =
      .error (.tooManyArguments command (before.length + 1) a.text) := by
    rw [hrun, bindFrom_of_surplus hholds ha, Nat.add_comm]
    rfl
  rw [bind, Run.bind_of_error herror]

theorem bind_of_placed (command : Text) {arguments : List Argument}
    (h : schema.Placed arguments) :
    ∃ bound, schema.Holds arguments bound ∧ (schema.bind command arguments).outcome =
      match schema.missing? arguments bound with
      | some p => .error (.missingArgument command p.name)
      | none => .ok ⟨command, bound⟩ := by
  obtain ⟨bound, hholds, hrun, -⟩ := bindFrom_append holds_empty command 1 h []
  have hbound : (schema.bindFrom command 1 ∅ arguments).outcome = .ok bound := by
    rw [← List.append_nil arguments, hrun]
    rfl
  refine ⟨bound, hholds, ?_⟩
  rw [bind, Run.bind_of_ok hbound]
  cases schema.missing? arguments bound <;> rfl

theorem events_bind (schema : Schema) (command : Text) (arguments : List Argument) :
    (schema.bind command arguments).events = (schema.bindFrom command 1 ∅ arguments).events :=
  Run.events_bind_left fun bound => by cases schema.missing? arguments bound <;> rfl

theorem events_bind_of_surplus (command : Text) {before : List Argument} {a : Argument}
    (hbefore : schema.Placed before) (ha : schema.Surplus before a) (after : List Argument) :
    (schema.bind command (before ++ a :: after)).events = boundEvents command 1 (schema.names before) := by
  obtain ⟨bound, hholds, -, hevents⟩ := bindFrom_append holds_empty command 1 hbefore (a :: after)
  rw [events_bind, hevents, bindFrom_of_surplus hholds ha]
  exact List.append_nil _

theorem events_bind_of_placed (command : Text) {arguments : List Argument} (h : schema.Placed arguments) :
    (schema.bind command arguments).events = boundEvents command 1 (schema.names arguments) := by
  obtain ⟨bound, -, -, hevents⟩ := bindFrom_append holds_empty command 1 h []
  rw [events_bind, ← List.append_nil arguments, hevents, List.append_nil]
  exact List.append_nil _

theorem bind_of_lacks (command : Text) {arguments : List Argument}
    (h : schema.Placed arguments) {p : Parameter} (hp : schema.Lacks arguments p) :
    (schema.bind command arguments).outcome = .error (.missingArgument command p.name) := by
  obtain ⟨bound, hholds, hrun⟩ := bind_of_placed command h
  rw [hrun, (missing?_eq_some_iff hholds).2 hp]

theorem bind_of_complete (command : Text) {arguments : List Argument}
    (h : schema.Placed arguments) (hcomplete : ∀ p, ¬ schema.Lacks arguments p) :
    ∃ bound, schema.Holds arguments bound ∧
      (schema.bind command arguments).outcome = .ok ⟨command, bound⟩ := by
  obtain ⟨bound, hholds, hrun⟩ := bind_of_placed command h
  refine ⟨bound, hholds, ?_⟩
  cases hmissing : schema.missing? arguments bound with
  | none => rw [hrun, hmissing]
  | some p => exact absurd ((missing?_eq_some_iff hholds).1 hmissing) (hcomplete p)

theorem holds_of_bind {arguments : List Argument} {bindings : Bindings}
    (h : (schema.bind command arguments).outcome = .ok bindings) :
    schema.Placed arguments ∧ schema.Holds arguments bindings.values := by
  rcases @placed_or_surplus schema arguments with hplaced | ⟨before, a, after, rfl, hbefore, ha⟩
  · obtain ⟨bound, hholds, hrun⟩ := bind_of_placed command hplaced
    rw [h] at hrun
    split at hrun
    · cases hrun
    · obtain rfl := Except.ok.inj hrun
      exact ⟨hplaced, hholds⟩
  · rw [bind_of_surplus command hbefore ha] at h
    cases h

theorem Placed.exists_target {arguments : List Argument} (h : schema.Placed arguments) {a : Argument} (ha : a ∈ arguments) :
    ∃ name value, schema.Target a name value := by
  obtain ⟨before, after, rfl⟩ := List.append_of_mem ha
  exact Classical.byContradiction fun hnone => h before a after rfl (.inl hnone)

/-- Binding fails at the first argument that is left over; else for the parameter that is lacking; else
every argument is bound to the parameter that it is for. -/
theorem bind_outcome (schema : Schema) (command : Text) (arguments : List Argument) :
    (¬ schema.Placed arguments ↔ ∃ index token,
      (schema.bind command arguments).outcome =
        .error (.tooManyArguments command index token)) ∧
    (∀ index token,
      (schema.bind command arguments).outcome = .error (.tooManyArguments command index token) ↔
        ∃ before a after, arguments = before ++ a :: after ∧ schema.Placed before ∧
          schema.Surplus before a ∧ index = before.length + 1 ∧ token = a.text) ∧
    (schema.Placed arguments → ∀ p, schema.Lacks arguments p →
      (schema.bind command arguments).outcome = .error (.missingArgument command p.name)) ∧
    (schema.Placed arguments → (∀ p, ¬ schema.Lacks arguments p) →
      ∃ bindings, (schema.bind command arguments).outcome = .ok bindings ∧
        bindings.command = command ∧
        (∀ name value, bindings.get? name = some value ↔
          ∃ a ∈ arguments, schema.Target a name value) ∧
        bindings.values.size = arguments.length) := by
  have hsurplus : ∀ index token,
      (schema.bind command arguments).outcome = .error (.tooManyArguments command index token) ↔
        ∃ before a after, arguments = before ++ a :: after ∧ schema.Placed before ∧
          schema.Surplus before a ∧ index = before.length + 1 ∧ token = a.text := by
    intro index token
    constructor
    · intro herror
      rcases placed_or_surplus arguments with h | ⟨before, a, after, rfl, hbefore, ha⟩
      · obtain ⟨bound, -, hrun⟩ := bind_of_placed command h
        rw [herror] at hrun
        split at hrun <;> simp at hrun
      · rw [bind_of_surplus command hbefore ha] at herror
        simp only [Except.error.injEq, Error.tooManyArguments.injEq] at herror
        exact ⟨before, a, after, rfl, hbefore, ha, herror.2.1.symm, herror.2.2.symm⟩
    · rintro ⟨before, a, after, rfl, hbefore, ha, rfl, rfl⟩
      exact bind_of_surplus command hbefore ha after
  refine ⟨⟨fun h => ?_, ?_⟩, hsurplus, fun h p => bind_of_lacks command h, fun h hcomplete => ?_⟩
  · rcases placed_or_surplus arguments with hplaced | ⟨before, a, after, hsplit, hbefore, ha⟩
    · exact absurd hplaced h
    · exact ⟨_, _, (hsurplus _ _).2 ⟨before, a, after, hsplit, hbefore, ha, rfl, rfl⟩⟩
  · rintro ⟨index, token, herror⟩ hplaced
    obtain ⟨before, a, after, hsplit, -, ha, -, -⟩ := (hsurplus index token).1 herror
    exact hplaced before a after hsplit ha
  · obtain ⟨bound, hholds, hrun⟩ := bind_of_complete command h hcomplete
    exact ⟨⟨command, bound⟩, hrun, rfl, hholds.get?_iff, hholds.size_eq⟩

end Schema
end CollectionScript
