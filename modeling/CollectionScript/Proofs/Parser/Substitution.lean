import CollectionScript.Proofs.Form.Alike
import CollectionScript.Proofs.Parser.Faults

/-! Reading one line under different values of the variables. The words of the line settle which command
it gives and which parameters are bound; the value of a reference stays one value, and goes to the default
parameter whatever it looks like. -/
namespace CollectionScript
namespace Parser

structure Bound (parser : Parser) (line : Text) (form : Form) (ws : List Text) (bindings : Bindings) :
    Prop where
  calls : parser.Calls line form ws
  bind_eq : (form.schema.bind form.keyword (ws.map parser.argument)).outcome = .ok bindings

/-- Values of variables are values only: every word is one argument, the value of a reference goes as a
whole to the default parameter, and any other parameter is given its value by name in the line itself. -/
structure Substituted (parser : Parser) (schema : Schema) (ws : List Text) (bindings : Bindings) :
    Prop where
  size_eq : bindings.values.size = ws.length
  reference {word name : Text} (hword : word ∈ ws) (h : Variable.reference? word = some name) :
    ∃ p, schema.default? = some p ∧ bindings.get? p.name = some ((parser.value? name).getD [])
  written {name value : Text} (h : bindings.get? name = some value)
    (hother : ∀ p, schema.default? = some p → p.name ≠ name) :
    name ++ ':' :: value ∈ ws ∧ Variable.reference? (name ++ ':' :: value) = none

def RefersByDefault (parser : Parser) (line : Text) : Prop :=
  ∃ form ws bindings, parser.Bound line form ws bindings ∧ ∃ word ∈ ws, ∃ name p,
    Variable.reference? word = some name ∧ form.schema.default? = some p ∧
      bindings.get? p.name = some ((parser.value? name).getD [])

/-- What a line gives under different values. The commands are the same but for a default parameter that
is bound to the value of a reference. -/
inductive GivesAlike (parser : Parser) (line : Text) : Option Command → Option Command → Prop
  | none : GivesAlike parser line none none
  | some {command command' : Command} (h : command.Alike command')
    (hvalue : command = command' ∨ parser.RefersByDefault line) :
    GivesAlike parser line (some command) (some command')

variable {p q : Parser} {line : Text} {form : Form} {ws : List Text} {bindings : Bindings}

theorem argument_eq_written_iff {word text : Text} :
    p.argument word = .written text ↔ Variable.reference? word = none ∧ word = text := by
  unfold argument
  cases Variable.reference? word <;> simp

theorem alike_argument (p q : Parser) (word : Text) : (p.argument word).Alike (q.argument word) := by
  unfold argument
  cases Variable.reference? word with
  | none => exact .written word
  | some name => exact .substituted _ _

theorem Bound.substituted (h : p.Bound line form ws bindings) :
    p.Substituted form.schema ws bindings := by
  obtain ⟨hplaced, hholds⟩ := Schema.holds_of_bind h.bind_eq
  constructor
  case size_eq => rw [hholds.size_eq, List.length_map]
  case reference =>
    intro word name hword hname
    have hargument : p.argument word = .substituted ((p.value? name).getD []) := by
      rw [argument, hname]
    have hmem : p.argument word ∈ ws.map p.argument := List.mem_map_of_mem hword
    obtain ⟨parameter, value, htarget⟩ := hplaced.exists_target hmem
    have hvalue := (hholds.get?_iff parameter value).2 ⟨_, hmem, htarget⟩
    rw [hargument] at htarget
    cases htarget with
    | named hnames => cases hnames
    | default _ hdefault => exact ⟨_, hdefault, hvalue⟩
  case written =>
    intro name value hvalue hother
    obtain ⟨a, ha, htarget⟩ := (hholds.get?_iff name value).1 hvalue
    obtain ⟨word, hword, rfl⟩ := List.mem_map.1 ha
    generalize hargument : p.argument word = a at htarget
    cases htarget with
    | default _ hdefault => exact absurd rfl (hother _ hdefault)
    | named hnames =>
      cases hnames
      obtain ⟨hwritten, rfl⟩ := argument_eq_written_iff.1 hargument
      exact ⟨hword, hwritten⟩

theorem map_argument_eq (h : ∀ word ∈ ws, Variable.reference? word = none) :
    ws.map p.argument = ws.map q.argument := by
  refine List.map_congr_left fun word hword => ?_
  rw [argument_eq_written_iff.2 ⟨h word hword, rfl⟩, argument_eq_written_iff.2 ⟨h word hword, rfl⟩]

theorem exists_bind_of_construct {arguments : List Argument} {command : Command}
    (h : (form.construct arguments).outcome = .ok command) :
    ∃ bindings, (form.schema.bind form.keyword arguments).outcome = .ok bindings := by
  obtain ⟨bindings, hbindings, -⟩ := Run.outcome_bind_eq_ok_iff.1 h
  exact ⟨bindings, hbindings⟩

theorem givesAlike_of_construct (hcalls : p.Calls line form ws) {command command' : Command}
    (hp : (form.construct (ws.map p.argument)).outcome = .ok command)
    (hq : (form.construct (ws.map q.argument)).outcome = .ok command') (h : command.Alike command') :
    p.GivesAlike line (some command) (some command') := by
  refine .some h ?_
  by_cases hreference : ∀ word ∈ ws, Variable.reference? word = none
  · rw [map_argument_eq (q := q) hreference, hq] at hp
    exact .inl (Except.ok.inj hp).symm
  · simp only [Classical.not_forall] at hreference
    obtain ⟨word, hword, hsome⟩ := hreference
    obtain ⟨name, hname⟩ := Option.ne_none_iff_exists'.1 hsome
    obtain ⟨bindings, hbindings⟩ := exists_bind_of_construct hp
    have hbound : p.Bound line form ws bindings := ⟨hcalls, hbindings⟩
    obtain ⟨parameter, hdefault, hvalue⟩ := hbound.substituted.reference hword hname
    exact .inr ⟨form, ws, bindings, hbound, word, hword, name, parameter, hname, hdefault, hvalue⟩

/-- The policy of redeclaration has no part in building a command. -/
theorem alike_construct_of_standard (hstandard : p.vocabulary.Standard) {keyword : Text}
    (hform : p.vocabulary.find keyword = .ok form) (q : Parser) (ws : List Text) :
    Run.Alike Error.IsInvalid Command.Alike (form.construct (ws.map p.argument))
      (form.construct (ws.map q.argument)) := by
  obtain ⟨builtin, hbuiltin, redeclare, rfl⟩ := hstandard.exists_builtin hform
  exact Form.alike_construct hbuiltin (alike_argument p q) ws

/-- Unless a constructor refuses a value, a line gives the same under all values of the variables, up to
the value of a reference; and the value of a reference never does more than to be the value of a default
parameter. -/
theorem parseLine_alike (hstandard : p.vocabulary.Standard) (hvocabulary : p.vocabulary = q.vocabulary)
    (hlimits : p.limits = q.limits) (line : Text) :
    Agree Error.IsInvalid (p.GivesAlike line) (p.parseLine line).outcome (q.parseLine line).outcome ∧
    ∀ form ws bindings, p.Bound line form ws bindings → p.Substituted form.schema ws bindings := by
  refine ⟨?_, fun form ws bindings h => h.substituted⟩
  rw [outcome_parseLine, outcome_parseLine]
  refine Agree.map ?_ fun _ _ h => h
  rw [outcome_bindLine, outcome_bindLine, ← hvocabulary, ← hlimits]
  refine (Agree.same _).bind fun _ _ _ _ _ => ?_
  cases hcomment : isComment line with
  | true => exact .ok .none
  | false =>
    refine (Agree.same _).bind fun split _ hsplit _ heq => ?_
    subst heq
    cases split with
    | none => exact .ok .none
    | some split =>
      obtain ⟨keyword, ws⟩ := split
      refine (Agree.same _).bind fun form _ hform _ heq => ?_
      subst heq
      refine (Agree.same _).bind fun _ _ _ _ _ => ?_
      have hcalls : p.Calls line form ws :=
        ⟨keyword, ⟨hcomment, splitLine_eq_ok_iff.1 hsplit⟩, hform⟩
      refine (alike_construct_of_standard hstandard hform q ws).agree.bind ?_
      intro command command' hp hq h
      exact .ok (givesAlike_of_construct hcalls hp hq h)

theorem parseLine_alike_port :
    ∃ p q : Parser, p.value? "HOSTS" = some "a b" ∧ q.value? "HOSTS" = some "port:99 \"$HOME" ∧
      (p.parseLine "FROM $HOSTS port:2222").outcome = .ok (some (.source ⟨["a", "b"], 2222⟩)) ∧
      (q.parseLine "FROM $HOSTS port:2222").outcome =
        .ok (some (.source ⟨["port:99", "\"$HOME"], 2222⟩)) ∧
      p.GivesAlike "FROM $HOSTS port:2222" (some (.source ⟨["a", "b"], 2222⟩))
        (some (.source ⟨["port:99", "\"$HOME"], 2222⟩)) := by
  let p : Parser := { environment := .ofList [("HOSTS", "a b")] }
  let q : Parser := { environment := .ofList [("HOSTS", "port:99 \"$HOME")] }
  have hp : (p.parseLine "FROM $HOSTS port:2222").outcome =
      .ok (some (.source ⟨["a", "b"], 2222⟩)) := by decide +kernel
  have hq : (q.parseLine "FROM $HOSTS port:2222").outcome =
      .ok (some (.source ⟨["port:99", "\"$HOME"], 2222⟩)) := by decide +kernel
  have h := (parseLine_alike (p := p) (q := q) .builtin rfl rfl "FROM $HOSTS port:2222").1
  rw [hp, hq] at h
  cases h with
  | ok h => exact ⟨p, q, by decide, by decide, hp, hq, h⟩

end Parser
end CollectionScript
