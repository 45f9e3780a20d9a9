import CollectionScript.Proofs.Parser.Faults
import CollectionScript.Proofs.Run.Logging
import CollectionScript.Proofs.Script.Overwriting

/-! All that reading a document can log: one constructor for each place that logs something, with what is
known of the data there. What every event has in common is then a matter of these cases. -/
namespace CollectionScript

namespace Schema

variable {P : Event → Prop}

theorem mem_of_place? {schema : Schema} {a : Argument} {p : Parameter} {value : Text}
    (h : schema.place? a = some (p, value)) : p ∈ schema.parameters := by
  rw [place?] at h
  split at h
  · next place hnamed =>
    obtain rfl := Option.some.inj h
    cases a with
    | substituted text => cases hnamed
    | written text =>
      simp only [named?] at hnamed
      split at hnamed
      · obtain ⟨q, hq, heq⟩ := Option.map_eq_some_iff.1 hnamed
        obtain ⟨rfl, -⟩ := Prod.mk.inj heq
        exact (find?_eq_some hq).1
      · cases hnamed
  · obtain ⟨q, hq, heq⟩ := Option.map_eq_some_iff.1 h
    obtain ⟨rfl, -⟩ := Prod.mk.inj heq
    exact List.mem_of_find?_eq_some hq

theorem logs_bindFrom {schema : Schema} {command : Text}
    (h : ∀ p ∈ schema.parameters, ∀ index, P (.boundArgument command p.name index))
    (index : Nat) (bound : Dictionary Text) (arguments : List Argument) :
    (schema.bindFrom command index bound arguments).Logs P := by
  induction arguments generalizing index bound with
  | nil => exact Run.logs_pure _
  | cons a arguments ih =>
    rw [bindFrom]
    split
    · exact Run.logs_fail _
    · next p value hplace =>
      split
      · exact Run.logs_fail _
      · exact (Run.logs_emit (h p (mem_of_place? hplace) index)).bind fun _ _ => ih _ _

end Schema

theorem Form.logs_construct {P : Event → Prop} {form : Form}
    (h : ∀ p ∈ form.schema.parameters, ∀ index, P (.boundArgument form.keyword p.name index))
    (arguments : List Argument) : (form.construct arguments).Logs P := by
  have hbind : (form.schema.bind form.keyword arguments).Logs P := by
    refine (Schema.logs_bindFrom h 1 ∅ arguments).bind fun bound _ => ?_
    split
    · exact Run.logs_fail _
    · exact Run.logs_pure _
  exact hbind.bind fun _ _ => Run.logs_ofExcept _

namespace Parser

inductive LineEvent (parser : Parser) (line : Text) : Event → Prop
  | binding {form : Form} {ws : List Text} (h : parser.Calls line form ws) :
    LineEvent parser line (.bindingCommand form.keyword ws.length (parser.log.renderLine line))
  | expanded {form : Form} {ws : List Text} {word name : Text} (h : parser.Calls line form ws)
    (hword : word ∈ ws) (hname : Variable.reference? word = some name) :
    LineEvent parser line (.expandedVariable name (parser.value? name).isSome
      (parser.log.renderVariable name ((parser.value? name).getD [])))
  | bound {form : Form} {ws : List Text} {p : Parameter} (h : parser.Calls line form ws)
    (hp : p ∈ form.schema.parameters) (index : Nat) :
    LineEvent parser line (.boundArgument form.keyword p.name index)

/-- What a document logs: its size, then its lines one after another, and each declaration that takes the
place of an earlier one. -/
inductive DocumentEvent (parser : Parser) (source : Text) : Event → Prop
  | start : DocumentEvent parser source (.parsingScript (Text.lines source).length source.byteSize)
  | line {line : Text} {event : Event} (hline : line ∈ Text.lines source)
    (h : parser.LineEvent line event) : DocumentEvent parser source event
  | overwriting {line : Text} {form : Form} {ws : List Text} (hline : line ∈ Text.lines source)
    (h : parser.Calls line form ws) (hrole : form.role = .preamble)
    (hcardinality : form.cardinality = .singleton) :
    DocumentEvent parser source (.overwriting form.keyword)

variable {parser : Parser} {line : Text} {ws : List Text} {P : Event → Prop}

theorem events_lookup (parser : Parser) (name : Text) : (parser.lookup name).events = [] := by
  cases h : parser.overrides.get? name <;> simp [lookup, h, Run.ask]

theorem logs_ofWords (h : ∀ word ∈ ws, ∀ name, Variable.reference? word = some name →
      P (.expandedVariable name (parser.value? name).isSome
        (parser.log.renderVariable name ((parser.value? name).getD [])))) :
    (Argument.ofWords parser.lookup parser.log ws).Logs P := by
  induction ws with
  | nil => exact Run.logs_pure _
  | cons word ws ih =>
    obtain ⟨hword, hws⟩ := List.forall_mem_cons.1 h
    refine Run.Logs.bind ?_ fun _ _ => (ih hws).bind fun _ _ => Run.logs_pure _
    rw [Argument.ofWord]
    split
    · exact Run.logs_pure _
    · next name hname =>
      have hquiet : (parser.lookup name).Logs P := by simp [Run.Logs, events_lookup]
      refine hquiet.bind fun value hvalue => ?_
      obtain rfl : parser.value? name = value := Except.ok.inj ((parser.outcome_lookup name).symm.trans hvalue)
      exact (Run.logs_emit (hword name hname)).bind fun _ _ => Run.logs_pure _

theorem logs_bindLine (parser : Parser) (line : Text) :
    (parser.bindLine line).Logs (parser.LineEvent line) := by
  refine (Run.logs_ofExcept _).bind fun _ _ => ?_
  cases hcomment : isComment line with
  | true => exact Run.logs_pure _
  | false =>
    refine (Run.logs_ofExcept _).bind fun split hsplit => ?_
    cases split with
    | none => exact Run.logs_pure _
    | some p =>
      obtain ⟨keyword, ws⟩ := p
      refine (Run.logs_ofExcept _).bind fun form hform => (Run.logs_ofExcept _).bind fun _ _ => ?_
      have hcalls : parser.Calls line form ws :=
        ⟨keyword, ⟨hcomment, splitLine_eq_ok_iff.1 hsplit⟩, hform⟩
      refine (Run.logs_emit (.binding hcalls)).bind fun _ _ => ?_
      refine (logs_ofWords fun word hword name hname => .expanded hcalls hword hname).bind fun _ _ => ?_
      exact (Form.logs_construct (fun p hp index => .bound hcalls hp index) _).bind fun _ _ =>
        Run.logs_pure _

theorem logs_readLine (parser : Parser) (progress : Progress) (line : Text) :
    (parser.readLine progress line).Logs fun event => parser.LineEvent line event ∨
      ∃ form ws, parser.Calls line form ws ∧ form.role = .preamble ∧ form.cardinality = .singleton ∧
        event = .overwriting form.keyword := by
  refine Run.Logs.bind (fun event hevent => .inl (logs_bindLine parser line event hevent)) fun bound hbound => ?_
  cases bound with
  | none => exact Run.logs_pure _
  | some p =>
    obtain ⟨form, command⟩ := p
    obtain ⟨-, hcomment, keyword, ws, hwords, hform, -⟩ := outcome_bindLine_eq_some_iff.1 hbound
    refine (Run.logs_ofExcept _).bind fun _ _ => Run.Logs.bind ?_ fun _ _ => Run.logs_pure _
    by_cases hclash : progress.script.Clashes form
    · rw [Script.add_of_clashes hclash]
      cases form.redeclare with
      | reject => exact Run.logs_fail _
      | overwrite =>
        refine (Run.logs_emit (.inr ⟨form, ws, ?_, hclash.1, hclash.2.1, rfl⟩)).bind fun _ _ =>
          Run.logs_pure _
        exact ⟨keyword, ⟨hcomment, hwords⟩, hform⟩
    · rw [Script.add_of_not_clashes hclash]
      exact Run.logs_pure _

theorem logs_readFrom {lines : List Text} (number : Nat) (progress : Progress)
    (h : ∀ line ∈ lines, ∀ progress, (parser.readLine progress line).Logs P) :
    (parser.readFrom number progress lines).Logs P := by
  induction lines generalizing number progress with
  | nil => exact Run.logs_pure _
  | cons line lines ih =>
    obtain ⟨hline, hlines⟩ := List.forall_mem_cons.1 h
    rw [readFrom_cons]
    exact Run.Logs.bind (hline progress) fun next _ => ih (number + 1) next hlines

theorem logs_parse (parser : Parser) (source : Text) :
    (parser.parse source).Logs (parser.DocumentEvent source) := by
  refine (Run.logs_emit .start).bind fun _ _ => logs_readFrom 1 {} fun line hline progress event hevent => ?_
  rcases logs_readLine parser progress line event hevent with
    h | ⟨form, ws, hcalls, hrole, hcardinality, rfl⟩
  · exact .line hline h
  · exact .overwriting hline hcalls hrole hcardinality

end Parser
end CollectionScript
