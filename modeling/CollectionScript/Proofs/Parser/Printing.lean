import CollectionScript.Proofs.Log.Rendering
import CollectionScript.Proofs.Parser.Events

/-! Control characters in what a reading logs. None comes from the script itself; one in the value of a
variable is passed on. -/
namespace CollectionScript

def Event.texts : Event → List Text
  | .parsingScript .. => []
  | .bindingCommand command _ line => [command, line]
  | .expandedVariable name _ value => [name, value]
  | .boundArgument command parameter _ => [command, parameter]
  | .overwriting command => [command]

def Form.Printable (form : Form) : Prop :=
  form.keyword.Printable ∧ ∀ p ∈ form.schema.parameters, p.name.Printable

instance (form : Form) : Decidable form.Printable := inferInstanceAs (Decidable (_ ∧ _))

theorem Form.printable_of_mem_builtins : ∀ form ∈ Form.builtins, form.Printable := by decide +kernel

def Vocabulary.Printable (vocabulary : Vocabulary) : Prop :=
  ∀ {keyword form}, vocabulary.find keyword = .ok form → form.Printable

theorem Vocabulary.Standard.printable {vocabulary : Vocabulary} (h : vocabulary.Standard) :
    vocabulary.Printable := by
  intro keyword form hform
  obtain ⟨builtin, hbuiltin, redeclare, rfl⟩ := h.exists_builtin hform
  exact Form.printable_of_mem_builtins builtin hbuiltin

namespace Parser

/-- The text is the value of a variable in this event, with its control characters. -/
structure Forges (parser : Parser) (event : Event) (name value text : Text) : Prop where
  control : ¬ value.Printable
  set : parser.value? name = some value
  shown : parser.log.hides name = false
  event : event = .expandedVariable name true text
  text : text = parser.log.truncate value

variable {parser : Parser} {line source text : Text} {event : Event}

theorem Calls.printable (hforms : parser.vocabulary.Printable) {form : Form} {ws : List Text}
    (h : parser.Calls line form ws) : form.Printable := by
  obtain ⟨keyword, -, hform⟩ := h
  exact hforms hform

theorem LineEvent.forges (hforms : parser.vocabulary.Printable) (h : parser.LineEvent line event)
    (htext : text ∈ event.texts) (hcontrol : ¬ text.Printable) :
    ∃ name value, parser.Forges event name value text := by
  cases h with
  | @binding form ws hcalls =>
    have hkeyword : form.keyword.Printable := (hcalls.printable hforms).1
    have hline : (parser.log.renderLine line).Printable := LogPolicy.printable_renderLine _ _
    rcases List.mem_cons.1 htext with rfl | htext
    · exact absurd hkeyword hcontrol
    · exact absurd (List.mem_singleton.1 htext ▸ hline) hcontrol
  | @expanded form ws word name hcalls hword hname =>
    have hprintable : name.Printable := Variable.printable_of_isName (Variable.isName_of_reference? hname)
    rcases List.mem_cons.1 htext with rfl | htext
    · exact absurd hprintable hcontrol
    · obtain rfl := List.mem_singleton.1 htext
      obtain ⟨hvalue, hshown, htruncate⟩ := LogPolicy.not_printable_renderVariable hcontrol
      cases hset : parser.value? name with
      | none =>
        rw [hset] at hvalue
        exact absurd (List.forall_mem_nil _) hvalue
      | some value =>
        simp only [hset, Option.getD_some, Option.isSome_some] at hvalue htruncate ⊢
        exact ⟨name, value, hvalue, hset, hshown, rfl, htruncate⟩
  | @bound form ws p hcalls hp index =>
    obtain ⟨hkeyword, hparameters⟩ := hcalls.printable hforms
    rcases List.mem_cons.1 htext with rfl | htext
    · exact absurd hkeyword hcontrol
    · exact absurd (List.mem_singleton.1 htext ▸ hparameters p hp) hcontrol

/-- With the built-in forms, keywords, parameters, names of variables and lines of the script are logged
without control characters. A text that has one is the value of a variable that is not hidden by its name. -/
theorem forges_of_parse (h : parser.vocabulary.Standard) (hevent : event ∈ (parser.parse source).events)
    (htext : text ∈ event.texts) (hcontrol : ¬ text.Printable) :
    ∃ name value, parser.Forges event name value text := by
  have hforms : parser.vocabulary.Printable := h.printable
  cases logs_parse parser source event hevent with
  | start => cases htext
  | line _ hline => exact hline.forges hforms htext hcontrol
  | overwriting _ hcalls =>
    obtain rfl := List.mem_singleton.1 htext
    exact absurd (hcalls.printable hforms).1 hcontrol

def twoLined : Parser := { environment := .ofList [("X".toList, "a\nb".toList)] }

theorem forges_of_parse_two_lines :
    .expandedVariable "X" true "a\nb".toList ∈ (twoLined.parse "OUTPUT $X".toList).events ∧
      ∃ name value, twoLined.Forges (.expandedVariable "X" true "a\nb".toList) name value "a\nb".toList :=
  have hevent : .expandedVariable "X" true "a\nb".toList ∈ (twoLined.parse "OUTPUT $X".toList).events := by
    decide +kernel
  ⟨hevent, forges_of_parse .builtin hevent (by decide) (by decide)⟩

/-- Not all that is logged can be printed. -/
theorem not_printable_parse : ¬ ∀ (parser : Parser) (source : Text), parser.vocabulary = .builtin →
    ∀ event ∈ (parser.parse source).events, ∀ text ∈ event.texts, text.Printable := by
  intro h
  have hvalue : ¬ Text.Printable "a\nb".toList := by decide
  have hevent : .expandedVariable "X" true "a\nb".toList ∈ (twoLined.parse "OUTPUT $X".toList).events := by
    decide +kernel
  exact hvalue (h twoLined _ rfl _ hevent _ (by decide))

end Parser
end CollectionScript
