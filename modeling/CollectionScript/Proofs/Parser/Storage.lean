import CollectionScript.Proofs.Parser.Settings
import CollectionScript.Proofs.Text.Order
import CollectionScript.Proofs.Vocabulary.Reachable

/-! A script that has been read holds the commands of its lines: the actions in the order of the lines, the
preambles under their keywords. -/
namespace CollectionScript
namespace Parser

/-- What the lines of a script yield one by one is what the script holds. -/
structure Stores (parser : Parser) (lines : List Text) (script : Script) : Prop where
  yields : ∀ line ∈ lines,
    keyword? line = none ∧ (parser.parseLine line).outcome = .ok none ∨
      ∃ form command, keyword? line = some form.keyword ∧
        parser.vocabulary.find form.keyword = .ok form ∧
        (parser.parseLine line).outcome = .ok (some command)
  actions : script.actions = parser.select (·.role = .action) lines
  preambles : ∀ keyword form, parser.vocabulary.find keyword = .ok form → form.role = .preamble →
    form.keyword = keyword ∧ script.Keeps form (parser.select (·.keyword = keyword) lines)
  /-- Each keyword once, in the order of its bytes. -/
  increasing : (script.preambles.keywords.map Text.bytes).Pairwise (· < ·)
  keywords : ∀ keyword, keyword ∈ script.preambles.keywords ↔
    ∃ line ∈ lines, keyword? line = some keyword ∧
      ∃ form, parser.vocabulary.find keyword = .ok form ∧ form.role = .preamble
  settings : parser.vocabulary.Standard →
    script.ReadsOff fun keyword => parser.select (·.keyword = keyword) lines

variable {parser : Parser} {line : Text} {lines : List Text} {commands : List (Form × Command)}

theorem keyword?_eq_of_some (hvocabulary : parser.vocabulary.Reachable) {form : Form}
    {command : Command} (h : (parser.bindLine line).outcome = .ok (some (form, command))) :
    keyword? line = some form.keyword ∧ parser.vocabulary.find form.keyword = .ok form := by
  obtain ⟨keyword, hkeyword, hform⟩ := keyword?_of_some h
  have hsame : form.keyword = keyword := hvocabulary.keyword_eq hform
  rw [hsame]
  exact ⟨hkeyword, hform⟩

theorem Yields.find_eq (hvocabulary : parser.vocabulary.Reachable)
    (h : parser.Yields lines commands) {p : Form × Command} (hp : p ∈ commands) :
    parser.vocabulary.find p.1.keyword = .ok p.1 := by
  obtain ⟨line, -, hline⟩ := h.mem_iff.1 hp
  exact (keyword?_eq_of_some hvocabulary hline).2

theorem Yields.form_eq (hvocabulary : parser.vocabulary.Reachable)
    (h : parser.Yields lines commands) {form : Form}
    (hform : parser.vocabulary.find form.keyword = .ok form) {p : Form × Command}
    (hp : p ∈ commands) (hkeyword : p.1.keyword = form.keyword) : p.1 = form := by
  have hfind := h.find_eq hvocabulary hp
  rw [hkeyword, hform] at hfind
  exact (Except.ok.inj hfind).symm

theorem Yields.keeps (hvocabulary : parser.vocabulary.Reachable)
    (h : parser.Yields lines commands) {form : Form}
    (hform : parser.vocabulary.find form.keyword = .ok form) (hrole : form.role = .preamble) :
    ((∅ : Script).storeAll commands).Keeps form
      (parser.select (·.keyword = form.keyword) lines) := by
  have hfilter : (commands.filter fun p => p.1.role = .preamble ∧ p.1.keyword = form.keyword) =
      commands.filter fun p => p.1.keyword = form.keyword := by
    apply List.filter_congr
    intro p hp
    by_cases hkeyword : p.1.keyword = form.keyword
    · have hsame : p.1 = form := h.form_eq hvocabulary hform hp hkeyword
      simp [hsame, hrole]
    · simp [hkeyword]
  have hsame : ∀ p ∈ commands.filter (·.1.keyword = form.keyword), p.1 = form := by
    intro p hp
    obtain ⟨hp, hkeyword⟩ := List.mem_filter.1 hp
    exact h.form_eq hvocabulary hform hp (by simpa using hkeyword)
  rw [Script.Keeps, Script.get_storeAll, hfilter, h.select_eq]
  cases hcardinality : form.cardinality with
  | multi =>
    have hmulti : ∀ p ∈ commands.filter (·.1.keyword = form.keyword), p.1.cardinality = .multi := by
      intro p hp
      rw [hsame p hp, hcardinality]
    exact Script.foldl_keep_of_multi hmulti []
  | singleton =>
    have hsingleton : ∀ p ∈ commands.filter (·.1.keyword = form.keyword),
        p.1.cardinality = .singleton := by
      intro p hp
      rw [hsame p hp, hcardinality]
    exact Script.foldl_keep_of_singleton hsingleton

theorem exists_build_of_standard (hvocabulary : parser.vocabulary.Standard) {form : Form}
    {command : Command} (h : (parser.bindLine line).outcome = .ok (some (form, command))) :
    ∃ builtin ∈ Form.builtins, ∃ redeclare bindings, form = { builtin with redeclare } ∧
      builtin.build bindings = .ok command := by
  obtain ⟨-, -, keyword, ws, -, hform, -, arguments, -, hconstruct⟩ :=
    outcome_bindLine_eq_some_iff.1 h
  obtain ⟨builtin, hbuiltin, redeclare, rfl⟩ := hvocabulary.exists_builtin hform
  obtain ⟨bindings, -, hbuild⟩ := Run.outcome_bind_eq_ok_iff.1 hconstruct
  exact ⟨builtin, hbuiltin, redeclare, bindings, rfl, hbuild⟩

theorem keyword_of_standard (hvocabulary : parser.vocabulary.Standard) {form : Form}
    {command : Command} (h : (parser.bindLine line).outcome = .ok (some (form, command))) :
    command.keyword = form.keyword := by
  obtain ⟨builtin, hbuiltin, redeclare, bindings, rfl, hbuild⟩ := exists_build_of_standard hvocabulary h
  exact Form.keyword_of_build hbuiltin hbuild

theorem Yields.keyword_of_select (hvocabulary : parser.vocabulary.Standard)
    (h : parser.Yields lines commands) (keyword : Text) :
    ∀ command ∈ parser.select (·.keyword = keyword) lines, command.keyword = keyword := by
  intro command hcommand
  rw [h.select_eq] at hcommand
  obtain ⟨p, hp, rfl⟩ := List.mem_map.1 hcommand
  obtain ⟨hp, hkeyword⟩ := List.mem_filter.1 hp
  obtain ⟨line, -, hline⟩ := h.mem_iff.1 hp
  have hsame : p.2.keyword = p.1.keyword := keyword_of_standard hvocabulary hline
  rw [hsame]
  simpa using hkeyword

theorem Yields.readsOff (hreachable : parser.vocabulary.Reachable)
    (hvocabulary : parser.vocabulary.Standard) (h : parser.Yields lines commands) :
    ((∅ : Script).storeAll commands).ReadsOff
      fun keyword => parser.select (·.keyword = keyword) lines := by
  apply Script.readsOff_of_keeps (h.keyword_of_select hvocabulary)
  intro form hform hrole
  obtain ⟨policy, hpolicy⟩ := hvocabulary.exists_policy
  have hfind : parser.vocabulary.find form.keyword =
      .ok { form with redeclare := policy form } := by
    rw [hpolicy, Vocabulary.find_builtin hform]
    rfl
  have hkeeps : ((∅ : Script).storeAll commands).Keeps { form with redeclare := policy form }
      (parser.select (·.keyword = form.keyword) lines) := h.keeps hreachable hfind hrole
  exact hkeeps

theorem Yields.parseLine_of_mem (hvocabulary : parser.vocabulary.Reachable)
    (h : parser.Yields lines commands) (hline : line ∈ lines) :
    keyword? line = none ∧ (parser.parseLine line).outcome = .ok none ∨
      ∃ form command, keyword? line = some form.keyword ∧
        parser.vocabulary.find form.keyword = .ok form ∧
        (parser.parseLine line).outcome = .ok (some command) := by
  obtain ⟨bound, hbound⟩ := h.exists_of_mem hline
  cases bound with
  | none =>
    refine .inl ⟨keyword?_of_none hbound, ?_⟩
    rw [outcome_parseLine, hbound]
    rfl
  | some p =>
    obtain ⟨hkeyword, hform⟩ := keyword?_eq_of_some hvocabulary hbound
    refine .inr ⟨p.1, p.2, hkeyword, hform, ?_⟩
    rw [outcome_parseLine, hbound]
    rfl

theorem Yields.mem_keywords_iff (hvocabulary : parser.vocabulary.Reachable)
    (h : parser.Yields lines commands) {keyword : Text} :
    keyword ∈ ((∅ : Script).storeAll commands).preambles.keywords ↔
      ∃ line ∈ lines, keyword? line = some keyword ∧
        ∃ form, parser.vocabulary.find keyword = .ok form ∧ form.role = .preamble := by
  have hempty : keyword ∉ (∅ : Script).preambles.keywords := List.not_mem_nil
  rw [Script.mem_keywords_storeAll, or_iff_left hempty]
  constructor
  · rintro ⟨p, hp, hrole, rfl⟩
    obtain ⟨line, hline, hbound⟩ := h.mem_iff.1 hp
    obtain ⟨hkeyword, hform⟩ := keyword?_eq_of_some hvocabulary hbound
    exact ⟨line, hline, hkeyword, p.1, hform, hrole⟩
  · rintro ⟨line, hline, hkeyword, form, hform, hrole⟩
    obtain ⟨bound, hbound⟩ := h.exists_of_mem hline
    cases bound with
    | none =>
      rw [keyword?_of_none hbound] at hkeyword
      cases hkeyword
    | some p =>
      obtain ⟨hkeyword', hform'⟩ := keyword?_eq_of_some hvocabulary hbound
      rw [hkeyword'] at hkeyword
      obtain rfl := Option.some.inj hkeyword
      obtain rfl := Except.ok.inj (hform'.symm.trans hform)
      exact ⟨p, h.mem_iff.2 ⟨line, hline, hbound⟩, hrole, rfl⟩

/-- Whatever the vocabulary, the environment and the limits are, a script that has been read stores its
lines. -/
theorem stores_of_parse {source : Text} {script : Script}
    (hvocabulary : parser.vocabulary.Reachable)
    (h : (parser.parse source).outcome = .ok script) :
    parser.Stores (Text.lines source) script := by
  obtain ⟨commands, hyields, -, -, rfl⟩ := outcome_parse_eq_ok_iff.1 h
  constructor
  case yields =>
    intro line hline
    exact hyields.parseLine_of_mem hvocabulary hline
  case actions =>
    rw [Script.actions_storeAll, hyields.select_eq]
    rfl
  case preambles =>
    intro keyword form hform hrole
    obtain rfl := hvocabulary.keyword_eq hform
    exact ⟨rfl, hyields.keeps hvocabulary hform hrole⟩
  case increasing =>
    rw [List.pairwise_map]
    exact (Dictionary.sorted_keys _).imp Text.bytes_lt_iff.2
  case keywords =>
    intro keyword
    exact hyields.mem_keywords_iff hvocabulary
  case settings =>
    intro hstandard
    exact hyields.readsOff hvocabulary hstandard

theorem stores_of_parse_overwritten :
    ∃ script, (parse {} "OUTPUT a\n# b\nENV A=1\nOUTPUT b\nRUN ls\nENV B=2".toList).outcome = .ok script ∧
      Stores {} (Text.lines "OUTPUT a\n# b\nENV A=1\nOUTPUT b\nRUN ls\nENV B=2") script := by
  have h : (parse {} "OUTPUT a\n# b\nENV A=1\nOUTPUT b\nRUN ls\nENV B=2".toList).outcome =
      .ok ((∅ : Script).storeAll [(.output, .output "a"), (.exports, .exports [⟨"A", "1"⟩]),
        (.output, .output "b"), (.run, .run ⟨"ls", none⟩), (.exports, .exports [⟨"B", "2"⟩])]) := by
    decide +kernel
  exact ⟨_, h, stores_of_parse .builtin h⟩

end Parser
end CollectionScript
