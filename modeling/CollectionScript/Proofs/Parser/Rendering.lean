import CollectionScript.Proofs.Command.Rendering
import CollectionScript.Proofs.Parser.Reads
import CollectionScript.Proofs.Vocabulary.Reachable

/-! Rendered commands are read back, and nothing is asked of the environment. A script that is written in
this way is the script that storing its commands makes. -/
namespace CollectionScript

namespace Parser

variable {parser : Parser}

def Allows (parser : Parser) (command : Command) : Prop :=
  command.render.byteSize ≤ parser.limits.lineBytes ∧
    command.fields.length ≤ parser.limits.lineArguments

instance (parser : Parser) (command : Command) : Decidable (parser.Allows command) :=
  inferInstanceAs (Decidable (_ ∧ _))

theorem isComment_render (command : Command) : isComment command.render = false := by
  obtain ⟨c, r, hrender, hblank, hhash⟩ := command.exists_cons_render
  simp [isComment, Text.trimStart, hrender, hblank, hhash]

theorem bindLine_render (hvocabulary : parser.vocabulary = .builtin) {command : Command}
    (h : command.WellFormed) (hallows : parser.Allows command) :
    (parser.bindLine command.render).outcome = .ok (some (command.form, command)) := by
  obtain ⟨hbytes, hlength⟩ := hallows
  have hform : parser.vocabulary.find command.keyword = .ok command.form := by
    rw [hvocabulary, ← command.keyword_form]
    exact Vocabulary.find_builtin command.form_mem
  have hnone : ∀ word ∈ command.fields.map fun field => field.1 ++ ':' :: field.2,
      Variable.reference? word = none := by
    intro word hword
    obtain ⟨field, hfield, rfl⟩ := List.mem_map.1 hword
    exact Variable.reference?_of_colon (by simp)
  have harguments : (Argument.ofWords parser.lookup parser.log
      (command.fields.map fun field => field.1 ++ ':' :: field.2)).outcome =
      .ok (command.fields.map .named) := by
    rw [Argument.ofWords_eq_pure hnone, List.map_map]
    rfl
  have hcount : (command.fields.map fun field => field.1 ++ ':' :: field.2).length ≤
      parser.limits.lineArguments := by
    rw [List.length_map]
    exact hlength
  exact outcome_bindLine_eq_some_iff.2 ⟨hbytes, isComment_render command, command.keyword, _,
    command.words_render, hform, hcount, _, harguments, Command.construct_fields h⟩

theorem reads_parseLine_render (parser : Parser) (command : Command) :
    (parser.parseLine command.render).reads = [] := by
  have hreads : (parser.bindLine command.render).reads = [] := by
    apply reads_bindLine
    intro keyword ws hwords word hword
    rw [command.words_render] at hwords
    obtain ⟨rfl, rfl⟩ := List.cons.inj (Except.ok.inj hwords)
    obtain ⟨field, hfield, rfl⟩ := List.mem_map.1 hword
    exact Variable.reference?_of_colon (by simp)
  exact Run.reads_bind_eq_nil hreads fun _ _ => rfl

end Parser

namespace Command

theorem redeclare_form (command : Command) : command.form.redeclare = .overwrite := by
  cases command <;> rfl

theorem not_refuses (script : Script) (command : Command) : ¬ script.Refuses command.form := by
  intro h
  have hreject : command.form.redeclare = .reject := h.2.2.1
  rw [redeclare_form] at hreject
  cases hreject

end Command

namespace Parser

variable {parser : Parser}

theorem yields_render (hvocabulary : parser.vocabulary = .builtin) {commands : List Command}
    (h : ∀ command ∈ commands, command.WellFormed ∧ parser.Allows command) :
    parser.Yields (commands.map Command.render)
      (commands.map fun command => (command.form, command)) := by
  induction commands with
  | nil => exact .nil
  | cons command commands ih =>
    obtain ⟨⟨hwellFormed, hallows⟩, hcommands⟩ := List.forall_mem_cons.1 h
    exact .command (bindLine_render hvocabulary hwellFormed hallows) (ih hcommands)

/-- Whatever the environment holds, a rendered command is read back without a look at it; and commands
rendered line by line make the script that storing them makes. -/
theorem parse_render (hvocabulary : parser.vocabulary = .builtin) :
    (∀ command : Command, command.WellFormed → parser.Allows command →
      (parser.parseLine command.render).outcome = .ok (some command) ∧
        (parser.parseLine command.render).reads = []) ∧
    ∀ commands : List Command,
      (∀ command ∈ commands, command.WellFormed ∧ command.OneLine ∧ parser.Allows command) →
      commands.length ≤ parser.limits.commandLines →
      ∃ script : Script,
        ((∅ : Script).addAll (commands.map fun command => (command.form, command))).outcome =
          .ok script ∧
        (parser.parse (Command.renderAll commands)).outcome = .ok script := by
  constructor
  · intro command h hallows
    refine ⟨?_, parser.reads_parseLine_render command⟩
    rw [outcome_parseLine, bindLine_render hvocabulary h hallows]
    rfl
  · intro commands h hlength
    have hyields : parser.Yields (Text.lines (Command.renderAll commands))
        (commands.map fun command => (command.form, command)) := by
      rw [Command.lines_renderAll fun command hcommand => (h command hcommand).2.1]
      apply yields_render hvocabulary
      intro command hcommand
      exact ⟨(h command hcommand).1, (h command hcommand).2.2⟩
    have hadmits : (∅ : Script).Admits (commands.map fun command => (command.form, command)) := by
      intro before p after hsplit
      have hp : p ∈ commands.map fun command => (command.form, command) := by simp [hsplit]
      obtain ⟨command, -, rfl⟩ := List.mem_map.1 hp
      exact command.not_refuses _
    have hcount : (commands.map fun command => (command.form, command)).length ≤
        parser.limits.commandLines := by
      rw [List.length_map]
      exact hlength
    exact ⟨_, Script.outcome_addAll_eq_ok_iff.2 ⟨hadmits, rfl⟩,
      outcome_parse_eq_ok_iff.2 ⟨_, hyields, hcount, hadmits, rfl⟩⟩

theorem parse_render_hosts_and_quotes :
    ∃ script : Script,
      ((∅ : Script).addAll [(.source, .source ⟨["a", "b"], 2222⟩),
        (.run, .run ⟨"#\\ a:b\"", some "sh"⟩)]).outcome = .ok script ∧
      (parse {} (Command.renderAll [.source ⟨["a", "b"], 2222⟩,
        .run ⟨"#\\ a:b\"", some "sh"⟩])).outcome = .ok script := by
  have hcommands : ∀ command ∈ ([.source ⟨["a", "b"], 2222⟩,
      .run ⟨"#\\ a:b\"", some "sh"⟩] : List Command),
      command.WellFormed ∧ command.OneLine ∧ Allows {} command := by decide
  exact (parse_render rfl).2 _ hcommands (by decide)

end Parser
end CollectionScript
