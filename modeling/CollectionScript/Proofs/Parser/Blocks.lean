import CollectionScript.Proofs.Parser.Events
import CollectionScript.Proofs.Parser.Failing
import CollectionScript.Proofs.Schema.Reordering

/-! What one line logs, and in which order: that its command is bound, the values of its references, the
parameters that its arguments are for, and a warning if an earlier declaration is lost. A line that fails
logs this as far as it has got. -/
namespace CollectionScript

/-- Each of the arguments is for a parameter of its own, and these are the names of the parameters. -/
structure Schema.Fills (schema : Schema) (arguments : List Argument) (names : List Text) : Prop where
  names_eq : names = schema.names arguments
  length_eq : names.length = arguments.length
  distinct : names.Nodup

theorem Schema.Placed.fills {schema : Schema} {arguments : List Argument} (h : schema.Placed arguments) :
    schema.Fills arguments (schema.names arguments) where
  names_eq := rfl
  length_eq := (placed_iff.1 h).1
  distinct := (placed_iff.1 h).2

theorem Form.events_construct (form : Form) (arguments : List Argument) :
    (form.construct arguments).events = (form.schema.bind form.keyword arguments).events :=
  Run.events_bind_left fun _ => rfl

namespace Parser

def expansions (parser : Parser) (ws : List Text) : List Event :=
  (ws.filterMap Variable.reference?).map fun name =>
    .expandedVariable name (parser.value? name).isSome
      (parser.log.renderVariable name ((parser.value? name).getD []))

/-- What a line with the words `ws` after its keyword logs, up to the binding of the first arguments to the
parameters of these names. -/
def opening (parser : Parser) (line : Text) (form : Form) (ws names : List Text) : List Event :=
  .bindingCommand form.keyword ws.length (parser.log.renderLine line) ::
    (parser.expansions ws ++ Schema.boundEvents form.keyword 1 names)

/-- A command line that is read, with all that it logs: its arguments are bound, its command is built and
added to the script. -/
inductive Block (parser : Parser) (script : Script) (line : Text) : List Event → Script → Prop
  | intro {form : Form} {ws names : List Text} {command : Command} {next : Script}
    (hcalls : parser.Calls line form ws) (hnames : form.schema.Fills (ws.map parser.argument) names)
    (hcommand : (parser.parseLine line).outcome = .ok (some command))
    (hadd : (script.add form command).outcome = .ok next) :
    Block parser script line
      (parser.opening line form ws names ++ script.warnings next form command) next

/-- What a line logs that fails a check: nothing if the line is not bound at all; else of its arguments
those before the one that is left over, or all of them; and no warning. -/
inductive Fragment (parser : Parser) (line : Text) : Check → Error → List Event → Prop
  | unbound {check : Check} {e : Error} (h : check.rank ≤ Check.rank .argumentCount) :
    Fragment parser line check e []
  | leftOver {form : Form} {ws names : List Text} {front back : List Argument} {a : Argument}
    (hcalls : parser.Calls line form ws) (hsplit : ws.map parser.argument = front ++ a :: back)
    (hnames : form.schema.Fills front names) :
    Fragment parser line .placement (.tooManyArguments form.keyword (front.length + 1) a.text)
      (parser.opening line form ws names)
  | bound {check : Check} {e : Error} {form : Form} {ws names : List Text}
    (h : Check.rank .completeness ≤ check.rank) (hcalls : parser.Calls line form ws)
    (hnames : form.schema.Fills (ws.map parser.argument) names) :
    Fragment parser line check e (parser.opening line form ws names)

variable {parser : Parser} {before : List Text} {line keyword : Text} {ws : List Text} {form : Form}
  {command : Command} {check : Check} {e : Error} {progress next : Progress}

theorem expansions_cons (word : Text) (ws : List Text) :
    parser.expansions (word :: ws) = parser.expansions [word] ++ parser.expansions ws := by
  rw [expansions, expansions, expansions, ← List.map_append, ← List.filterMap_append]
  rfl

theorem events_ofWord (word : Text) :
    (Argument.ofWord parser.lookup parser.log word).events = parser.expansions [word] := by
  rw [Argument.ofWord, expansions]
  cases hname : Variable.reference? word with
  | none => simp [hname]
  | some name =>
    rw [List.filterMap_cons_some hname, List.filterMap_nil]
    refine (Run.events_bind_of_ok (parser.outcome_lookup name) _).trans ?_
    rw [events_lookup]
    rfl

theorem events_ofWords (ws : List Text) :
    (Argument.ofWords parser.lookup parser.log ws).events = parser.expansions ws := by
  induction ws with
  | nil => rfl
  | cons word ws ih =>
    have hrest : (Argument.ofWords parser.lookup parser.log ws >>= fun arguments =>
        pure (parser.argument word :: arguments)).events = parser.expansions ws := by
      rw [Run.events_bind_left fun _ => rfl, ih]
    rw [Argument.ofWords, Run.events_bind_of_ok (outcome_ofWord word), events_ofWord, hrest, ← expansions_cons]

/-! Lines that pass the checks before binding, and what binding makes of them. -/

theorem events_bindLine_of_calls (hsize : parser.limits.checkLine line = .ok ())
    (hcalls : parser.Calls line form ws) (hcount : parser.limits.checkArguments ws.length = .ok ()) :
    (parser.bindLine line).events =
      .bindingCommand form.keyword ws.length (parser.log.renderLine line) ::
        (parser.expansions ws ++ (form.schema.bind form.keyword (ws.map parser.argument)).events) := by
  obtain ⟨keyword, hinvokes, hform⟩ := hcalls
  have hbuilt : (form.construct (ws.map parser.argument) >>= fun command =>
      pure (some (form, command))).events =
        (form.schema.bind form.keyword (ws.map parser.argument)).events := by
    rw [Run.events_bind_left fun _ => rfl, form.events_construct]
  rw [bindLine_of_invokes hinvokes, hsize, hform, hcount, Run.ofExcept_ok_bind, Run.ofExcept_ok_bind,
    Run.ofExcept_ok_bind, Run.events_bind_of_ok (Run.outcome_emit _),
    Run.events_bind_of_ok (outcome_ofWords ws), events_ofWords, hbuilt]
  rfl

theorem events_bindLine_of_placed (hsize : parser.limits.checkLine line = .ok ())
    (hcalls : parser.Calls line form ws) (hcount : parser.limits.checkArguments ws.length = .ok ())
    (hplaced : form.schema.Placed (ws.map parser.argument)) :
    (parser.bindLine line).events =
      parser.opening line form ws (form.schema.names (ws.map parser.argument)) := by
  rw [events_bindLine_of_calls hsize hcalls hcount, Schema.events_bind_of_placed _ hplaced, opening]

theorem skipped_of_bindLine (h : (parser.bindLine line).outcome = .ok none) :
    Skipped line ∧ (parser.bindLine line).events = [] := by
  obtain ⟨hbytes, hempty⟩ := outcome_bindLine_eq_none_iff.1 h
  have hskipped : Skipped line := hempty.imp_right words_eq_nil_iff.1
  rw [bindLine_of_skipped hskipped, Limits.checkLine_eq_ok_iff.2 hbytes]
  exact ⟨hskipped, rfl⟩

theorem opening_of_bindLine (h : (parser.bindLine line).outcome = .ok (some (form, command))) :
    ∃ ws names, parser.Calls line form ws ∧ form.schema.Fills (ws.map parser.argument) names ∧
      (parser.bindLine line).events = parser.opening line form ws names := by
  obtain ⟨hbytes, hcomment, keyword, ws, hwords, hform, hlength, arguments, harguments, hconstruct⟩ :=
    outcome_bindLine_eq_some_iff.1 h
  have hcalls : parser.Calls line form ws := ⟨keyword, ⟨hcomment, hwords⟩, hform⟩
  obtain rfl : ws.map parser.argument = arguments :=
    Except.ok.inj ((outcome_ofWords ws).symm.trans harguments)
  obtain ⟨bindings, hbind, -⟩ := Run.outcome_bind_eq_ok_iff.1 hconstruct
  have hplaced := (Schema.holds_of_bind hbind).1
  exact ⟨ws, _, hcalls, hplaced.fills, events_bindLine_of_placed (Limits.checkLine_eq_ok_iff.2 hbytes) hcalls
    (Limits.checkArguments_eq_ok_iff.2 hlength) hplaced⟩

/-! Steps. -/

theorem events_readLine_of_command (h : (parser.bindLine line).outcome = .ok (some (form, command)))
    (hcheck : parser.limits.checkCommands (progress.commands + 1) = .ok ()) :
    (parser.readLine progress line).events =
      (parser.bindLine line).events ++ (progress.script.add form command).events := by
  have hadd : (progress.script.add form command >>= fun script =>
      (pure ⟨progress.commands + 1, script⟩ : Run Progress)).events =
        (progress.script.add form command).events := Run.events_bind_left fun _ => rfl
  rw [readLine, Run.bind_of_ok h]
  simp only [hcheck, Run.ofExcept_ok_bind, hadd]

/-- A step that succeeds passes a line over in silence, or logs the block of a command. -/
theorem readLine_of_ok (h : (parser.readLine progress line).outcome = .ok next) :
    (Skipped line ∧ next = progress ∧ (parser.readLine progress line).events = []) ∨
      parser.Block progress.script line (parser.readLine progress line).events next.script := by
  obtain ⟨bound, hbound, hstep⟩ := Run.outcome_bind_eq_ok_iff.1 h
  cases bound with
  | none =>
    obtain ⟨hskipped, hevents⟩ := skipped_of_bindLine hbound
    refine .inl ⟨hskipped, (Except.ok.inj hstep).symm, ?_⟩
    rw [readLine, Run.bind_of_ok hbound, hevents]
    rfl
  | some p =>
    obtain ⟨form, command⟩ := p
    obtain ⟨hcheck, hrest⟩ := Run.outcome_then_eq_ok_iff.1 hstep
    obtain ⟨script, hadd, hnext⟩ := Run.outcome_bind_eq_ok_iff.1 hrest
    obtain rfl := Except.ok.inj hnext
    obtain ⟨ws, names, hcalls, hnames, hevents⟩ := opening_of_bindLine hbound
    have hcommand : (parser.parseLine line).outcome = .ok (some command) := by
      rw [outcome_parseLine, hbound]
      rfl
    rw [events_readLine_of_command hbound hcheck, hevents, Script.events_add_of_ok hadd]
    exact .inr (.intro hcalls hnames hcommand hadd)

/-- A step that fails once its command is built logs no more than the building has. -/
theorem events_readLine_of_error (h : (parser.bindLine line).outcome = .ok (some (form, command)))
    (he : (parser.readLine progress line).outcome = .error e) :
    (parser.readLine progress line).events = (parser.bindLine line).events := by
  cases hcheck : parser.limits.checkCommands (progress.commands + 1) with
  | error e =>
    rw [readLine, Run.bind_of_ok h]
    simp only [hcheck]
    exact List.append_nil _
  | ok =>
    rw [outcome_readLine_of_command h, hcheck] at he
    have hadd : ∃ e, (progress.script.add form command).outcome = .error e := by
      cases hadd : (progress.script.add form command).outcome with
      | error e => exact ⟨e, rfl⟩
      | ok script =>
        rw [hadd] at he
        cases he
    obtain ⟨e, hadd⟩ := hadd
    rw [events_readLine_of_command h hcheck, Script.events_add_of_error hadd, List.append_nil]

theorem FirstFault.fragment_bindLine (h : parser.FirstFault before line check e)
    (hlocal : check.isLocal = true) : parser.Fragment line check e (parser.bindLine line).events := by
  obtain ⟨hfault, hclears⟩ := h
  have hsize (hrank : Check.rank .lineSize < check.rank) : parser.limits.checkLine line = .ok () :=
    (hclears .lineSize hrank).checkLine_eq
  have hcount {form : Form} {ws : List Text} (hrank : Check.rank .argumentCount < check.rank)
      (hcalls : parser.Calls line form ws) : parser.limits.checkArguments ws.length = .ok () := by
    obtain ⟨keyword, hinvokes, -⟩ := hcalls
    exact (hclears .argumentCount hrank).checkArguments_eq hinvokes
  -- The first event is that of binding, which comes after four of the checks.
  cases hfault with
  | lineSize hlt =>
    have hevents : (parser.bindLine line).events = [] := by
      rw [bindLine, Limits.checkLine, if_neg (Nat.not_le_of_lt hlt)]
      rfl
    exact hevents ▸ .unbound (by decide)
  | quotes hcomment hline hfront hquote =>
    have hevents : (parser.bindLine line).events = [] := by
      rw [bindLine, hsize (by decide), hcomment, splitLine, hline, words_of_unclosed hfront hquote]
      rfl
    exact hevents ▸ .unbound (by decide)
  | keyword hinvokes hunknown =>
    have hevents : (parser.bindLine line).events = [] := by
      rw [bindLine_of_invokes hinvokes, hsize (by decide), Vocabulary.find_of_not_contains hunknown]
      rfl
    exact hevents ▸ .unbound (by decide)
  | argumentCount hinvokes hlt =>
    obtain ⟨form, hform⟩ := (hclears .keyword (by decide)).exists_find hinvokes
    have hevents : (parser.bindLine line).events = [] := by
      rw [bindLine_of_invokes hinvokes, hsize (by decide), hform, Limits.checkArguments,
        if_neg (Nat.not_le_of_lt hlt)]
      rfl
    exact hevents ▸ .unbound (by decide)
  | placement hcalls hsplit hfront ha =>
    rw [events_bindLine_of_calls (hsize (by decide)) hcalls (hcount (by decide) hcalls), hsplit,
      Schema.events_bind_of_surplus _ hfront ha]
    exact .leftOver hcalls hsplit hfront.fills
  | completeness hcalls _ =>
    have hplaced := (hclears .placement (by decide)).placed hcalls
    rw [events_bindLine_of_placed (hsize (by decide)) hcalls (hcount (by decide) hcalls) hplaced]
    exact .bound (by decide) hcalls hplaced.fills
  | construction hcalls _ _ =>
    have hplaced := (hclears .placement (by decide)).placed hcalls
    rw [events_bindLine_of_placed (hsize (by decide)) hcalls (hcount (by decide) hcalls) hplaced]
    exact .bound (by decide) hcalls hplaced.fills
  | commandCount => cases hlocal
  | redeclaration => cases hlocal

theorem FirstFault.fragment (hreached : parser.Reached before progress)
    (h : parser.FirstFault before line check e) :
    parser.Fragment line check e (parser.readLine progress line).events := by
  cases hlocal : check.isLocal with
  | true =>
    rw [readLine, Run.bind_of_error (h.outcome_bindLine hlocal)]
    exact h.fragment_bindLine hlocal
  | false =>
    obtain ⟨form, -, command, -, hbound⟩ := h.exists_command hlocal
    obtain ⟨ws, names, hcalls, hnames, hevents⟩ := opening_of_bindLine hbound
    rw [events_readLine_of_error hbound (h.outcome_readLine hreached), hevents]
    exact .bound (Nat.le_of_lt (Check.rank_lt_of_isLocal rfl hlocal)) hcalls hnames

end Parser
end CollectionScript
