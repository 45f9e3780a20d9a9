import CollectionScript.Proofs.Parser.Events
import CollectionScript.Proofs.Parser.Reads
import CollectionScript.Proofs.Schema.Named
import CollectionScript.Proofs.Word.Quoting

/-! Giving every value by name and every word in quotes. Then a line says what the constructor of a form is to
be given, whatever the keyword, the names and the values look like: none of them can be taken for a comment,
for several words, for a reference or for another name. It is enough that the form could be registered. -/
namespace CollectionScript

namespace Schema

structure Assigns (schema : Schema) (fields : List (Text × Text)) : Prop where
  ne_nil : fields ≠ []
  distinct : (fields.map (·.1)).Nodup
  declared : ∀ field ∈ fields, ∃ p ∈ schema.parameters, p.name = field.1
  required : ∀ p ∈ schema.parameters, p.isRequired = true → p.name ∈ fields.map (·.1)

/-- In a well-formed schema no name has a colon that a value by name could be cut at. -/
theorem Assigns.fits {schema : Schema} {fields : List (Text × Text)} (h : schema.Assigns fields)
    (hschema : schema.WellFormed) : schema.Fits fields where
  ne_nil := h.ne_nil
  distinct := h.distinct
  declared field hfield := by
    obtain ⟨p, hp, hname⟩ := h.declared field hfield
    exact ⟨hname ▸ (hschema.names p hp).2, p, hp, hname⟩
  required := h.required

end Schema

namespace Parser

variable {parser : Parser} {line keyword : Text} {ws : List Text} {form : Form}
  {fields : List (Text × Text)}

def namedWord (field : Text × Text) : Text := field.1 ++ ':' :: field.2

theorem colon_mem_namedWord (field : Text × Text) : ':' ∈ namedWord field :=
  List.mem_append_right _ List.mem_cons_self

theorem argument_namedWord (parser : Parser) (field : Text × Text) :
    parser.argument (namedWord field) = .named field := by
  rw [argument, Variable.reference?_of_colon (colon_mem_namedWord field)]
  rfl

theorem isComment_of_quotedLine (h : Word.QuotedLine ws line) : isComment line = false := by
  obtain ⟨r, rfl⟩ := List.head?_eq_some_iff.1 h.head?_eq
  have hblank : Text.isBlank '"' = false := by decide
  simp [isComment, Text.trimStart, hblank]

theorem invokes_of_quotedLine (h : Word.QuotedLine (keyword :: ws) line) : Invokes line keyword ws where
  not_comment := isComment_of_quotedLine h
  words_eq := words_of_line (.of_spaced h.spaced)

theorem outcome_construct_named (h : form.schema.Fits fields) :
    ∃ bindings : Bindings, bindings.command = form.keyword ∧
      (∀ name value, bindings.get? name = some value ↔ (name, value) ∈ fields) ∧
      (form.construct (fields.map .named)).outcome = form.build bindings := by
  obtain ⟨bindings, hbind, hcommand, hget⟩ := h.bind form.keyword
  refine ⟨bindings, hcommand, fun name value => ?_, Form.outcome_construct_of_bind hbind⟩
  rw [hget, Schema.lookup_eq_some_iff_of_nodup h.distinct]

theorem quiet_parseLine (h : Invokes line keyword ws)
    (hwords : ∀ word ∈ ws, Variable.reference? word = none) :
    (parser.parseLine line).reads = [] ∧
      ∀ name isSet value, .expandedVariable name isSet value ∉ (parser.parseLine line).events := by
  have hsame : ∀ {keyword' ws'}, words line = .ok (keyword' :: ws') → ws' = ws := by
    intro keyword' ws' hwords'
    exact (List.cons.inj (Except.ok.inj (hwords'.symm.trans h.words_eq))).2
  have hlogs : (parser.parseLine line).Logs (parser.LineEvent line) :=
    (logs_bindLine parser line).bind fun _ _ => Run.logs_pure _
  constructor
  · have hreads : (parser.bindLine line).reads = [] :=
      reads_bindLine fun _ _ hwords' => hsame hwords' ▸ hwords
    exact Run.reads_bind_eq_nil hreads fun _ _ => rfl
  · intro name isSet value hevent
    cases hlogs _ hevent with
    | expanded hcalls hword hname =>
      obtain ⟨_, hinvokes, _⟩ := hcalls
      obtain rfl := hsame hinvokes.words_eq
      rw [hwords _ hword] at hname
      cases hname

/-- A form that has been registered can be given any values for any of its parameters, if the required ones
are among them: with keyword and arguments in quotes, a line that keeps to the limits has the constructor
called on these values and nothing else, and no variable is looked up. -/
theorem parseLine_quoted {vocabulary vocabulary' : Vocabulary} {form : Form}
    (hregister : vocabulary.register form = .ok vocabulary') :
    vocabulary'.find form.keyword = .ok form ∧
      ∀ (parser : Parser) (redeclare : Redeclare) (fields : List (Text × Text)) (line : Text),
        parser.vocabulary.find form.keyword = .ok { form with redeclare } → form.schema.Assigns fields →
        Word.QuotedLine (form.keyword :: fields.map namedWord) line →
        line.byteSize ≤ parser.limits.lineBytes → fields.length ≤ parser.limits.lineArguments →
        ∃ bindings : Bindings, bindings.command = form.keyword ∧
          (∀ name value, bindings.get? name = some value ↔ (name, value) ∈ fields) ∧
          (parser.parseLine line).outcome = (form.build bindings).map some ∧
          (parser.parseLine line).reads = [] ∧
          ∀ name isSet value, .expandedVariable name isSet value ∉ (parser.parseLine line).events := by
  obtain ⟨hform, -⟩ := Vocabulary.register_eq_ok_iff.1 hregister
  refine ⟨by rw [Vocabulary.find_register hregister, if_pos rfl], ?_⟩
  intro parser redeclare fields line hfind hfields hline hbytes hcount
  have hinvokes : Invokes line form.keyword (fields.map namedWord) := invokes_of_quotedLine hline
  have hreferences : ∀ word ∈ fields.map namedWord, Variable.reference? word = none := by
    intro word hword
    obtain ⟨field, -, rfl⟩ := List.mem_map.1 hword
    exact Variable.reference?_of_colon (colon_mem_namedWord field)
  have harguments : (fields.map namedWord).map parser.argument = fields.map .named := by
    rw [List.map_map]
    exact List.map_congr_left fun field _ => parser.argument_namedWord field
  have hlength : parser.limits.checkArguments (fields.map namedWord).length = .ok () := by
    rw [List.length_map]
    exact Limits.checkArguments_eq_ok_iff.2 hcount
  have hfits : Schema.Fits ({ form with redeclare } : Form).schema fields := hfields.fits hform.schema
  obtain ⟨bindings, hcommand, hget, hbuild⟩ := outcome_construct_named hfits
  refine ⟨bindings, hcommand, hget, ?_, quiet_parseLine hinvokes hreferences⟩
  rw [outcome_parseLine, outcome_bindLine_of_calls (Limits.checkLine_eq_ok_iff.2 hbytes)
    ⟨form.keyword, hinvokes, hfind⟩ hlength, harguments, hbuild]
  cases form.build bindings <;> rfl

def noteForm : Form :=
  { Form.run with keyword := "#note", schema := ⟨[⟨"cmd", false, true⟩, ⟨"$x", true, false⟩]⟩ }

def noteParser : Parser := { vocabulary := ⟨Dictionary.empty.insert noteForm.keyword noteForm⟩ }

theorem parseLine_quoted_note :
    (noteParser.parseLine (Word.quoteAll ["#note", "$x:a \"b\": \\", "cmd:$HOME"])).outcome =
        .ok (some (.run ⟨"$HOME", none⟩)) ∧
      (noteParser.parseLine (Word.quoteAll ["#note", "$x:a \"b\": \\", "cmd:$HOME"])).reads = [] := by
  have hregister : Vocabulary.empty.register noteForm = .ok noteParser.vocabulary :=
    Vocabulary.register_eq_ok_iff.2 ⟨by decide, rfl⟩
  have hassigns : noteForm.schema.Assigns [("$x", "a \"b\": \\"), ("cmd", "$HOME")] :=
    ⟨by decide, by decide, by decide, by decide⟩
  obtain ⟨bindings, -, hget, houtcome, hreads, -⟩ := (parseLine_quoted hregister).2 noteParser .overwrite
    [("$x", "a \"b\": \\"), ("cmd", "$HOME")] _ rfl hassigns
    (Word.quotedLine_quoteAll (List.cons_ne_nil _ _)) (by decide) (by decide)
  have hcommand : bindings.get? "cmd" = some "$HOME".toList := (hget _ _).2 (by decide)
  have hshell : bindings.get? "shell" = none := by
    refine Option.eq_none_iff_forall_not_mem.2 fun value hvalue => ?_
    have hmem := (hget _ _).1 hvalue
    simp at hmem
  have hbuild : noteForm.build bindings = .ok (.run ⟨"$HOME", none⟩) := by
    have hrequire : bindings.require "cmd" = .ok "$HOME".toList := by rw [Bindings.require, hcommand]
    change (do .ok (Command.run ⟨← bindings.require "cmd", bindings.get? "shell"⟩)) = _
    rw [hrequire, hshell]
    rfl
  rw [hbuild] at houtcome
  exact ⟨houtcome, hreads⟩

end Parser
end CollectionScript
