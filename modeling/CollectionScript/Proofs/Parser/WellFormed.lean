import CollectionScript.Proofs.Form.Building
import CollectionScript.Proofs.Parser.Storage

/-! What every script that has been read with the built-in forms is like, whatever the source was. -/
namespace CollectionScript

def Script.preambleKeywords : List Text :=
  ["OUTPUT", "WORKDIR", "FROM", "AS", "KUBECONFIG", "AUTHCONFIG", "ENV"]

def Script.actionKeywords : List Text := ["COPY", "CAPTURE", "RUN"]

/-- What an execution of the script relies on. -/
structure Script.WellFormed (script : Script) : Prop where
  declared (keyword : Text) : ∀ command ∈ script.preambles.get keyword,
    command.keyword = keyword ∧ command.WellFormed
  keywords : ∀ keyword ∈ script.preambles.keywords, keyword ∈ preambleKeywords
  occupied : ∀ keyword ∈ script.preambles.keywords, script.preambles.get keyword ≠ []
  single : ∀ keyword ∈ script.preambles.keywords, keyword ≠ "ENV".toList →
    ∃ command, script.preambles.get keyword = [command]
  actions : ∀ command ∈ script.actions, command.keyword ∈ actionKeywords ∧ command.WellFormed

namespace Form

def IsStandard (form : Form) : Prop := ∃ builtin ∈ builtins, ∃ redeclare, form = { builtin with redeclare }

variable {form : Form} {command : Command}

/-- Where a built-in form keeps its commands, and which form keeps more than one. -/
theorem placement_of_mem : ∀ form ∈ builtins,
    (form.role = .preamble → form.keyword ∈ Script.preambleKeywords ∧
      (form.keyword ≠ "ENV".toList → form.cardinality = .singleton)) ∧
    (form.role = .action → form.keyword ∈ Script.actionKeywords) := by
  decide

theorem IsStandard.placement (h : form.IsStandard) :
    (form.role = .preamble → form.keyword ∈ Script.preambleKeywords ∧
      (form.keyword ≠ "ENV".toList → form.cardinality = .singleton)) ∧
    (form.role = .action → form.keyword ∈ Script.actionKeywords) := by
  obtain ⟨builtin, hbuiltin, redeclare, rfl⟩ := h
  exact placement_of_mem builtin hbuiltin

theorem mem_keep {earlier : List Command} {other : Command} (h : other ∈ form.keep earlier command) :
    other ∈ earlier ∨ other = command := by
  rw [keep] at h
  split at h
  · exact (List.mem_append.1 h).imp_right List.mem_singleton.1
  · exact .inr (List.mem_singleton.1 h)

end Form

namespace Script

variable {script : Script} {form : Form} {command : Command}

theorem wellFormed_empty : (∅ : Script).WellFormed where
  declared _ _ h := absurd h List.not_mem_nil
  keywords _ h := absurd h List.not_mem_nil
  occupied _ h := absurd h List.not_mem_nil
  single _ h := absurd h List.not_mem_nil
  actions _ h := absurd h List.not_mem_nil

theorem WellFormed.store (h : script.WellFormed) (hform : form.IsStandard)
    (hcommand : command.keyword = form.keyword ∧ command.WellFormed) :
    (script.store form command).WellFormed := by
  obtain ⟨hpreamble, haction⟩ := hform.placement
  constructor
  case declared =>
    intro keyword other hother
    rw [get_store] at hother
    split at hother
    · next hkeyword =>
      rcases Form.mem_keep hother with hother | rfl
      · exact h.declared keyword other hother
      · exact ⟨hcommand.1.trans hkeyword.2, hcommand.2⟩
    · exact h.declared keyword other hother
  case keywords =>
    intro keyword hkeyword
    rcases mem_keywords_store.1 hkeyword with ⟨hrole, rfl⟩ | hkeyword
    · exact (hpreamble hrole).1
    · exact h.keywords keyword hkeyword
  case occupied =>
    intro keyword hkeyword
    rw [get_store]
    split
    · exact keep_ne_nil form _ command
    · next hother =>
      exact h.occupied keyword ((mem_keywords_store.1 hkeyword).resolve_left hother)
  case single =>
    intro keyword hkeyword hne
    rw [get_store]
    split
    · next hown =>
      obtain ⟨hrole, rfl⟩ := hown
      exact ⟨command, by rw [Form.keep, (hpreamble hrole).2 hne]⟩
    · next hother =>
      exact h.single keyword ((mem_keywords_store.1 hkeyword).resolve_left hother) hne
  case actions =>
    intro other hother
    rw [actions_store] at hother
    rcases List.mem_append.1 hother with hother | hother
    · exact h.actions other hother
    · split at hother
      · next hrole =>
        obtain rfl := List.mem_singleton.1 hother
        exact ⟨hcommand.1 ▸ haction hrole, hcommand.2⟩
      · cases hother

theorem WellFormed.storeAll (h : script.WellFormed) {commands : List (Form × Command)}
    (hcommands : ∀ p ∈ commands,
      p.1.IsStandard ∧ p.2.keyword = p.1.keyword ∧ p.2.WellFormed) :
    (script.storeAll commands).WellFormed := by
  induction commands generalizing script with
  | nil => exact h
  | cons p commands ih =>
    obtain ⟨⟨hform, hcommand⟩, hrest⟩ := List.forall_mem_cons.1 hcommands
    exact ih (h.store hform hcommand) hrest

end Script

namespace Parser

variable {parser : Parser} {line : Text}

theorem isStandard_of_bindLine (hvocabulary : parser.vocabulary.Standard) {form : Form}
    {command : Command} (h : (parser.bindLine line).outcome = .ok (some (form, command))) :
    form.IsStandard ∧ command.keyword = form.keyword ∧ command.WellFormed := by
  have hkeyword : command.keyword = form.keyword := keyword_of_standard hvocabulary h
  obtain ⟨builtin, hbuiltin, redeclare, bindings, rfl, hbuild⟩ := exists_build_of_standard hvocabulary h
  exact ⟨⟨builtin, hbuiltin, redeclare, rfl⟩, hkeyword, Form.wellFormed_of_build hbuiltin hbuild⟩

/-- A script that has been read with the built-in forms is well-formed. Of these forms, each finds the
values that it requires among its bound arguments, so that it fails for a value that it does not take. -/
theorem wellFormed_of_parse (hvocabulary : parser.vocabulary.Standard) :
    (∀ source script, (parser.parse source).outcome = .ok script → script.WellFormed) ∧
    ∀ keyword form, parser.vocabulary.find keyword = .ok form →
      ∀ command arguments bindings, (form.schema.bind command arguments).outcome = .ok bindings →
        (∀ p ∈ form.schema.required, ∃ value, bindings.require p.name = .ok value) ∧
        ∀ e, form.build bindings = .error e → form.IsValueFault e := by
  constructor
  · intro source script h
    obtain ⟨commands, hyields, -, -, rfl⟩ := outcome_parse_eq_ok_iff.1 h
    refine Script.wellFormed_empty.storeAll fun p hp => ?_
    obtain ⟨line, -, hline⟩ := hyields.mem_iff.1 hp
    exact isStandard_of_bindLine hvocabulary hline
  · intro keyword form hform command arguments bindings hbind
    refine ⟨fun p hp => Schema.require_of_bind hbind hp, fun e he => ?_⟩
    obtain ⟨builtin, hbuiltin, redeclare, rfl⟩ := hvocabulary.exists_builtin hform
    exact Form.isValueFault_of_bind hbuiltin hbind he

theorem wellFormed_of_parse_hosts :
    (∃ script, (parse {} "FROM 'a b' port:65535\nENV A=1\nFROM c\nENV 'B=2 C='\nCOPY '/x  /y'".toList).outcome =
      .ok script ∧ script.WellFormed) ∧
    ∃ bindings, (Form.source.schema.bind "FROM" [.written "a", .written "port:0"]).outcome = .ok bindings ∧
      (∃ value, bindings.require "hosts" = .ok value) ∧
      ∃ e, Form.source.build bindings = .error e ∧ Form.source.IsValueFault e := by
  obtain ⟨hscripts, hforms⟩ := @wellFormed_of_parse {} .builtin
  have hparse : (parse {} "FROM 'a b' port:65535\nENV A=1\nFROM c\nENV 'B=2 C='\nCOPY '/x  /y'".toList).outcome =
      .ok ((∅ : Script).storeAll [(.source, .source ⟨["a", "b"], 65535⟩), (.exports, .exports [⟨"A", "1"⟩]),
        (.source, .source ⟨["c"], 22⟩), (.exports, .exports [⟨"B", "2"⟩, ⟨"C", ""⟩]),
        (.copy, .copy ["/x", "/y"])]) := by
    decide +kernel
  have hbind : (Form.source.schema.bind "FROM" [.written "a", .written "port:0"]).outcome =
      .ok ⟨"FROM", ((∅ : Dictionary Text).insert "hosts" "a").insert "port" "0"⟩ := by
    decide +kernel
  obtain ⟨hrequired, hfault⟩ := hforms "FROM" .source rfl "FROM" _ _ hbind
  exact ⟨⟨_, hparse, hscripts _ _ hparse⟩, _, hbind, hrequired ⟨"hosts", true, true⟩ (by decide), _, rfl,
    hfault _ rfl⟩

end Parser
end CollectionScript
