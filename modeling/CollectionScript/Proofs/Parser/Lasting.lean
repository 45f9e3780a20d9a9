import CollectionScript.Proofs.Parser.Storage

/-! How many of the commands of a keyword a script holds. Each of them comes from a line of its own, and a
line of a preamble of which one is kept gives way to a later line of that preamble. -/
namespace CollectionScript

def Form.IsSole (form : Form) : Prop := form.role = .preamble ∧ form.cardinality = .singleton

instance (form : Form) : Decidable form.IsSole := inferInstanceAs (Decidable (_ ∧ _))

namespace Parser

def linesOf (keyword : Text) (lines : List Text) : List Text :=
  lines.filter fun line => keyword? line = some keyword

/-- The declaration of a line is replaced by that of a later one. -/
def GivesWay (parser : Parser) (line : Text) (later : List Text) : Prop :=
  (∃ form ∈ parser.form? line, form.IsSole) ∧ ∃ other ∈ later, keyword? other = keyword? line

instance (parser : Parser) (line : Text) (later : List Text) : Decidable (parser.GivesWay line later) :=
  inferInstanceAs (Decidable (_ ∧ _))

def lasting (parser : Parser) : List Text → List Text
  | [] => []
  | line :: lines => if parser.GivesWay line lines then parser.lasting lines else line :: parser.lasting lines

/-- The script holds the commands of these lines, each of them once, and no others. -/
structure Holds (parser : Parser) (lines : List Text) (script : Script) : Prop where
  actions : script.actions = parser.select (·.role = .action) lines
  preambles : ∀ keyword, script.preambles.get keyword =
    parser.select (fun form => form.role = .preamble ∧ form.keyword = keyword) lines

variable {parser : Parser} {line keyword : Text} {lines : List Text} {form : Form}
  {commands : List (Form × Command)}

theorem linesOf_cons (keyword line : Text) (lines : List Text) :
    linesOf keyword (line :: lines) =
      if keyword? line = some keyword then line :: linesOf keyword lines else linesOf keyword lines := by
  by_cases h : keyword? line = some keyword <;> simp [linesOf, h]

theorem lasting_sublist (parser : Parser) (lines : List Text) : (parser.lasting lines).Sublist lines := by
  induction lines with
  | nil => exact List.Sublist.refl _
  | cons line lines ih =>
    rw [lasting]
    split
    · exact ih.cons line
    · exact ih.cons_cons line

theorem linesOf_lasting_cons_of_ne (h : keyword? line ≠ some keyword) (lines : List Text) :
    linesOf keyword (parser.lasting (line :: lines)) = linesOf keyword (parser.lasting lines) := by
  rw [lasting]
  split
  · rfl
  · rw [linesOf_cons, if_neg h]

theorem linesOf_lasting_of_isSole (hform : parser.vocabulary.find keyword = .ok form) (hsole : form.IsSole)
    (lines : List Text) :
    linesOf keyword (parser.lasting lines) = (linesOf keyword lines).getLast?.toList := by
  induction lines with
  | nil => rfl
  | cons line lines ih =>
    by_cases hkeyword : keyword? line = some keyword
    · rw [lasting, linesOf_cons, if_pos hkeyword]
      by_cases hlater : ∃ other ∈ lines, keyword? other = some keyword
      · have hway : parser.GivesWay line lines :=
          ⟨⟨form, form?_eq_some_iff.2 ⟨keyword, hkeyword, hform⟩, hsole⟩, hkeyword ▸ hlater⟩
        have hne : linesOf keyword lines ≠ [] := by
          simpa [linesOf, List.filter_eq_nil_iff] using hlater
        rw [if_pos hway, ih, List.getLast?_cons_of_ne_nil hne]
      · have hway : ¬ parser.GivesWay line lines := fun h => hlater (hkeyword ▸ h.2)
        have hnil : linesOf keyword lines = [] := by
          simpa [linesOf, List.filter_eq_nil_iff] using hlater
        rw [if_neg hway, linesOf_cons, if_pos hkeyword, ih, hnil]
        rfl
    · rw [linesOf_lasting_cons_of_ne hkeyword, linesOf_cons, if_neg hkeyword, ih]

/-- Of an action and of a preamble that may be declared many times all lines last. -/
theorem linesOf_lasting_of_not_isSole (hform : parser.vocabulary.find keyword = .ok form)
    (hsole : ¬ form.IsSole) (lines : List Text) :
    linesOf keyword (parser.lasting lines) = linesOf keyword lines := by
  induction lines with
  | nil => rfl
  | cons line lines ih =>
    by_cases hkeyword : keyword? line = some keyword
    · have hsame : parser.form? line = some form := form?_eq_some_iff.2 ⟨keyword, hkeyword, hform⟩
      have hway : ¬ parser.GivesWay line lines := by
        rintro ⟨⟨form', hform', hsole'⟩, -⟩
        obtain rfl := Option.some.inj (hsame.symm.trans hform')
        exact hsole hsole'
      rw [lasting, if_neg hway, linesOf_cons, linesOf_cons, if_pos hkeyword, if_pos hkeyword, ih]
    · rw [linesOf_lasting_cons_of_ne hkeyword, linesOf_cons, if_neg hkeyword, ih]

theorem select_eq_filterMap {selected : Form → Bool} (hform : parser.vocabulary.find keyword = .ok form)
    (h : ∀ keyword' form', parser.vocabulary.find keyword' = .ok form' →
      (selected form' = true ↔ keyword' = keyword)) (lines : List Text) :
    parser.select selected lines = (linesOf keyword lines).filterMap parser.command? := by
  rw [select, linesOf, List.filterMap_filter]
  refine congrArg (List.filterMap · lines) (funext fun line => ?_)
  have hiff : (parser.form? line).any selected = true ↔ keyword? line = some keyword := by
    rw [Option.any_eq_true]
    constructor
    · rintro ⟨form', hform', hselected⟩
      obtain ⟨keyword', hkeyword', hfind⟩ := form?_eq_some_iff.1 hform'
      rw [hkeyword', (h keyword' form' hfind).1 hselected]
    · intro hkeyword
      exact ⟨form, form?_eq_some_iff.2 ⟨keyword, hkeyword, hform⟩, (h keyword form hform).2 rfl⟩
  simp [hiff]

theorem select_action_lasting (parser : Parser) (lines : List Text) :
    parser.select (·.role = .action) (parser.lasting lines) = parser.select (·.role = .action) lines := by
  induction lines with
  | nil => rfl
  | cons line lines ih =>
    rw [lasting]
    split
    · next hway =>
      obtain ⟨⟨form, hform, hrole, -⟩, -⟩ := hway
      have hother : (parser.form? line).any (·.role = .action) = false := by
        rw [Option.mem_def.1 hform]
        simp [hrole]
      rw [ih, select, select, List.filterMap_cons]
      simp only [hother, Bool.false_eq_true, if_false]
    · simp only [select, List.filterMap_cons] at ih ⊢
      rw [ih]

theorem Yields.filterMap_getLast? (h : parser.Yields lines commands) (keyword : Text) :
    (linesOf keyword lines).getLast?.toList.filterMap parser.command? =
      ((linesOf keyword lines).filterMap parser.command?).getLast?.toList := by
  rcases List.eq_nil_or_concat (linesOf keyword lines) with hnil | ⟨front, line, hfront⟩
  · rw [hnil]
    rfl
  · have hmem : line ∈ linesOf keyword lines := by simp [hfront]
    obtain ⟨hline, hkeyword⟩ := List.mem_filter.1 hmem
    obtain ⟨bound, hbound⟩ := h.exists_of_mem hline
    cases bound with
    | none =>
      rw [keyword?_of_none hbound] at hkeyword
      simp at hkeyword
    | some p =>
      have hcommand : parser.command? line = some p.2 := command?_of_ok hbound
      simp [hfront, hcommand]

theorem Yields.get_eq (hvocabulary : parser.vocabulary.Reachable) (h : parser.Yields lines commands)
    (hform : parser.vocabulary.find keyword = .ok form) (hrole : form.role = .preamble) :
    ((∅ : Script).storeAll commands).preambles.get keyword =
      (linesOf keyword (parser.lasting lines)).filterMap parser.command? := by
  obtain rfl := hvocabulary.keyword_eq hform
  have hkeeps := h.keeps hvocabulary hform hrole
  have hselect : parser.select (·.keyword = form.keyword) lines =
      (linesOf form.keyword lines).filterMap parser.command? := by
    refine select_eq_filterMap hform (fun keyword' form' hform' => ?_) lines
    rw [← hvocabulary.keyword_eq hform', decide_eq_true_eq]
  rw [Script.Keeps, hselect] at hkeeps
  rw [hkeeps]
  cases hcardinality : form.cardinality with
  | multi =>
    have hsole : ¬ form.IsSole := by simp [Form.IsSole, hcardinality]
    rw [linesOf_lasting_of_not_isSole hform hsole]
  | singleton => rw [linesOf_lasting_of_isSole hform ⟨hrole, hcardinality⟩, h.filterMap_getLast?]

/-- What is stored is what the lasting lines yield. -/
theorem Yields.holds_lasting (hvocabulary : parser.vocabulary.Reachable)
    (h : parser.Yields lines commands) :
    parser.Holds (parser.lasting lines) ((∅ : Script).storeAll commands) where
  actions := by
    rw [select_action_lasting, Script.actions_storeAll, h.select_eq]
    rfl
  preambles keyword := by
    by_cases hpreamble : ∃ form, parser.vocabulary.find keyword = .ok form ∧ form.role = .preamble
    · obtain ⟨form, hform, hrole⟩ := hpreamble
      rw [h.get_eq hvocabulary hform hrole]
      refine (select_eq_filterMap hform (fun keyword' form' hform' => ?_) _).symm
      rw [decide_eq_true_eq, hvocabulary.keyword_eq hform', and_iff_right_iff_imp]
      rintro rfl
      rwa [Except.ok.inj (hform'.symm.trans hform)]
    · have hget : ((∅ : Script).storeAll commands).preambles.get keyword = [] := by
        refine Classical.byContradiction fun hne => ?_
        obtain ⟨p, hp, hrole, rfl⟩ := Script.get_storeAll_ne_nil_iff.1 hne
        exact hpreamble ⟨p.1, h.find_eq hvocabulary hp, hrole⟩
      rw [hget, eq_comm, select, List.filterMap_eq_nil_iff]
      intro line _
      rw [if_neg]
      rw [Option.any_eq_true]
      rintro ⟨form, hform, hselected⟩
      obtain ⟨keyword', -, hfind⟩ := form?_eq_some_iff.1 hform
      obtain ⟨hrole, rfl⟩ := of_decide_eq_true hselected
      exact hpreamble ⟨form, hvocabulary.keyword_eq hfind ▸ hfind, hrole⟩

/-- Every command of a script that has been read comes from a line of its own. At most one line of a preamble
that is a singleton counts, as its last one replaces the others; every line of any other form counts, and so
does every line of an action that is declared to be a singleton. -/
theorem holds_lasting_of_parse {source : Text} {script : Script}
    (hvocabulary : parser.vocabulary.Reachable) (h : (parser.parse source).outcome = .ok script) :
    (parser.lasting (Text.lines source)).Sublist (Text.lines source) ∧
    parser.Holds (parser.lasting (Text.lines source)) script ∧
    ∀ keyword form, parser.vocabulary.find keyword = .ok form →
      (form.IsSole → (linesOf keyword (parser.lasting (Text.lines source))).length ≤ 1) ∧
      (¬ form.IsSole →
        linesOf keyword (parser.lasting (Text.lines source)) = linesOf keyword (Text.lines source)) := by
  obtain ⟨commands, hyields, -, -, rfl⟩ := outcome_parse_eq_ok_iff.1 h
  refine ⟨lasting_sublist parser _, hyields.holds_lasting hvocabulary, fun keyword form hform => ⟨?_, ?_⟩⟩
  · intro hsole
    rw [linesOf_lasting_of_isSole hform hsole]
    exact Option.length_toList_le
  · intro hsole
    exact linesOf_lasting_of_not_isSole hform hsole _

def runOnce : Form := { Form.run with cardinality := .singleton }

def runningOnce : Parser := { vocabulary := ⟨Vocabulary.builtin.forms.insert "RUN" runOnce⟩ }

theorem reachable_runningOnce : runningOnce.vocabulary.Reachable :=
  have hregister : Vocabulary.builtin.register runOnce = .ok runningOnce.vocabulary := rfl
  .register .builtin hregister

theorem holds_lasting_of_parse_run_once :
    ∃ script, (runningOnce.parse "OUTPUT a\nRUN a\nOUTPUT b\nRUN b".toList).outcome = .ok script ∧
      runningOnce.Holds ["RUN a".toList, "OUTPUT b".toList, "RUN b".toList] script := by
  have h : (runningOnce.parse "OUTPUT a\nRUN a\nOUTPUT b\nRUN b".toList).outcome =
      .ok ((∅ : Script).storeAll [(.output, .output "a"), (runOnce, .run ⟨"a", none⟩),
        (.output, .output "b"), (runOnce, .run ⟨"b", none⟩)]) := by decide +kernel
  have hlasting : runningOnce.lasting (Text.lines "OUTPUT a\nRUN a\nOUTPUT b\nRUN b".toList) =
      ["RUN a".toList, "OUTPUT b".toList, "RUN b".toList] := by decide +kernel
  exact ⟨_, h, hlasting ▸ (holds_lasting_of_parse reachable_runningOnce h).2.1⟩

/-- Being a singleton does not limit an action. -/
theorem not_linesOf_length_le_one : ¬ ∀ (parser : Parser) (source : Text) (script : Script),
    parser.vocabulary.Reachable → (parser.parse source).outcome = .ok script →
      ∃ lines, lines.Sublist (Text.lines source) ∧ parser.Holds lines script ∧
        ∀ keyword form, parser.vocabulary.find keyword = .ok form → form.cardinality = .singleton →
          (linesOf keyword lines).length ≤ 1 := by
  intro h
  have hparse : (runningOnce.parse "RUN a\nRUN b".toList).outcome =
      .ok ⟨∅, [.run ⟨"a", none⟩, .run ⟨"b", none⟩]⟩ := by decide +kernel
  obtain ⟨lines, hsublist, hholds, hone⟩ := h _ _ _ reachable_runningOnce hparse
  have hkeyword : ∀ line ∈ Text.lines "RUN a\nRUN b".toList, keyword? line = some "RUN".toList := by
    decide +kernel
  have hall : linesOf "RUN" lines = lines :=
    List.filter_eq_self.2 fun line hline => decide_eq_true (hkeyword line (hsublist.subset hline))
  have hlength : lines.length ≤ 1 := hall ▸ hone "RUN" runOnce rfl rfl
  have hactions : 2 = (runningOnce.select (·.role = .action) lines).length :=
    congrArg List.length hholds.actions
  have hselect : (runningOnce.select (·.role = .action) lines).length ≤ lines.length :=
    List.length_filterMap_le _ _
  omega

end Parser
end CollectionScript
