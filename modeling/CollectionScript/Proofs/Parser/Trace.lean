import CollectionScript.Proofs.Parser.Blocks
import CollectionScript.Proofs.Script.Size

/-! What a document logs: the blocks of its command lines, in the order of the lines. A preamble line either
adds to what the script has declared or warns that something is lost, so that what is declared in the end
and the warnings together are as many as the preamble lines. -/
namespace CollectionScript
namespace Script

/-- Under the keyword of a singleton of the vocabulary, there is one command at most. -/
def Sparse (script : Script) (vocabulary : Vocabulary) : Prop :=
  ∀ keyword form, vocabulary.find keyword = .ok form → form.cardinality = .singleton →
    (script.preambles.get keyword).length ≤ 1

variable {script : Script} {vocabulary : Vocabulary} {form : Form}

theorem sparse_empty (vocabulary : Vocabulary) : (∅ : Script).Sparse vocabulary :=
  fun _ _ _ _ => Nat.zero_le 1

theorem Sparse.store (h : script.Sparse vocabulary) (hvocabulary : vocabulary.Reachable) {keyword : Text}
    (hform : vocabulary.find keyword = .ok form) (command : Command) :
    (script.store form command).Sparse vocabulary := by
  intro other singleton hsingleton hcardinality
  rw [get_store]
  split
  · next hown =>
    -- Each keyword has one form, so the form that is stored is the singleton itself.
    obtain rfl : keyword = other := (hvocabulary.keyword_eq hform).symm.trans hown.2
    obtain rfl : form = singleton := Except.ok.inj (hform.symm.trans hsingleton)
    simp [Form.keep, hcardinality]
  · exact h other singleton hsingleton hcardinality

theorem length_warnings_store (command : Command)
    (h : form.cardinality = .singleton → (script.preambles.get form.keyword).length ≤ 1) :
    (script.warnings (script.store form command) form command).length +
        (script.store form command).preambles.commands.length =
      script.preambles.commands.length + if form.role = .preamble then 1 else 0 := by
  cases hrole : form.role with
  | action => simp [warnings, Loses, store, hrole]
  | preamble =>
    have hset := script.preambles.length_commands_set form.keyword
      (form.keep (script.preambles.get form.keyword) command)
    have hstore : (script.store form command).preambles = script.preambles.set form.keyword
        (form.keep (script.preambles.get form.keyword) command) := by simp only [store, hrole]
    rw [warnings, hstore, if_pos rfl]
    by_cases hclash : script.Clashes form
    · obtain ⟨-, hcardinality, hearlier⟩ := id hclash
      have hkeep : (form.keep (script.preambles.get form.keyword) command).length = 1 := by
        simp [Form.keep, hcardinality]
      have hone := h hcardinality
      have hpos := List.length_pos_of_ne_nil hearlier
      rw [if_pos (loses_store_iff.2 hclash), List.length_singleton]
      omega
    · have hkeep : (form.keep (script.preambles.get form.keyword) command).length =
          (script.preambles.get form.keyword).length + 1 := by
        cases hcardinality : form.cardinality with
        | multi => simp [Form.keep, hcardinality]
        | singleton =>
          have hearlier : script.preambles.get form.keyword = [] :=
            Classical.byContradiction fun hne => hclash ⟨hrole, hcardinality, hne⟩
          simp [Form.keep, hcardinality, hearlier]
      rw [if_neg (mt loses_store_iff.1 hclash), List.length_nil]
      omega

end Script

namespace Parser

/-- The lines one after another, with what each of them logs and makes of the script. -/
inductive Trace (parser : Parser) : Script → List Text → List Event → Script → Prop
  | nil (script : Script) : Trace parser script [] [] script
  | skip {script last : Script} {line : Text} {lines : List Text} {events : List Event}
    (h : Skipped line) (hs : Trace parser script lines events last) :
    Trace parser script (line :: lines) events last
  | block {script next last : Script} {line : Text} {lines : List Text} {events rest : List Event}
    (h : parser.Block script line events next) (hs : Trace parser next lines rest last) :
    Trace parser script (line :: lines) (events ++ rest) last

def warningCount (events : List Event) : Nat := events.countP fun event => event.level = .warn

def preambleCount (parser : Parser) (lines : List Text) : Nat :=
  lines.countP fun line => (parser.form? line).any fun form => form.role = .preamble

variable {parser : Parser} {script next last : Script} {line : Text} {lines : List Text}
  {events : List Event} {form : Form} {ws names : List Text}

theorem Calls.form?_eq (h : parser.Calls line form ws) : parser.form? line = some form := by
  obtain ⟨keyword, hinvokes, hform⟩ := h
  exact form?_eq_some_iff.2 ⟨keyword, hinvokes.keyword?_eq, hform⟩

theorem Skipped.form?_eq (h : Skipped line) (parser : Parser) : parser.form? line = none := by
  have hkeyword : keyword? line = none := by
    rcases h with hcomment | hblank
    · simp [keyword?, hcomment]
    · simp [keyword?, words_eq_nil_iff.2 hblank]
  simp [form?, hkeyword]

theorem warningCount_opening : warningCount (parser.opening line form ws names) = 0 := by
  refine List.countP_eq_zero.2 fun event hevent => ?_
  simp only [opening, expansions, Schema.boundEvents, List.mem_cons, List.mem_append, List.mem_map] at hevent
  rcases hevent with rfl | ⟨name, -, rfl⟩ | ⟨place, -, rfl⟩ <;> simp [Event.level]

theorem warningCount_warnings (command : Command) :
    warningCount (script.warnings next form command) = (script.warnings next form command).length := by
  rw [Script.warnings]
  split <;> rfl

theorem Block.count (h : parser.Block script line events next) (hvocabulary : parser.vocabulary.Reachable)
    (hscript : script.Sparse parser.vocabulary) :
    next.Sparse parser.vocabulary ∧ warningCount events + next.preambles.commands.length =
      script.preambles.commands.length +
        if (parser.form? line).any fun form => form.role = .preamble then 1 else 0 := by
  cases h with
  | @intro form ws names command _ hcalls _ _ hadd =>
    obtain ⟨-, rfl⟩ := Script.outcome_add_eq_ok_iff.1 hadd
    obtain ⟨keyword, -, hform⟩ := id hcalls
    have hsingle : form.cardinality = .singleton → (script.preambles.get form.keyword).length ≤ 1 := by
      rw [hvocabulary.keyword_eq hform]
      exact hscript keyword form hform
    refine ⟨hscript.store hvocabulary hform command, ?_⟩
    have hcount := Script.length_warnings_store command hsingle
    rw [warningCount, List.countP_append, ← warningCount, ← warningCount, warningCount_opening, Nat.zero_add,
      warningCount_warnings, hcount, hcalls.form?_eq]
    simp

/-- What is declared before counts, too. -/
theorem Trace.count (h : parser.Trace script lines events last)
    (hvocabulary : parser.vocabulary.Reachable) (hscript : script.Sparse parser.vocabulary) :
    warningCount events + last.preambles.commands.length =
      script.preambles.commands.length + parser.preambleCount lines := by
  induction h with
  | nil => exact Nat.add_comm _ _
  | skip h _ ih => simpa [preambleCount, h.form?_eq] using ih hscript
  | @block script next last line lines events rest h _ ih =>
    obtain ⟨hnext, hblock⟩ := h.count hvocabulary hscript
    have hrest := ih hnext
    have happend : warningCount (events ++ rest) = warningCount events + warningCount rest :=
      List.countP_append
    have hcons : parser.preambleCount (line :: lines) = parser.preambleCount lines +
        if (parser.form? line).any fun form => form.role = .preamble then 1 else 0 := List.countP_cons
    omega

theorem trace_of_readLines {progress next : Progress}
    (h : (parser.readLines progress lines).outcome = .ok next) :
    parser.Trace progress.script lines (parser.readLines progress lines).events next.script := by
  induction lines generalizing progress with
  | nil =>
    obtain rfl : progress = next := Except.ok.inj h
    exact .nil _
  | cons line lines ih =>
    rw [readLines_cons] at h
    obtain ⟨middle, hstep, hlines⟩ := Run.outcome_bind_eq_ok_iff.1 h
    have hrest := ih hlines
    rw [readLines_cons, Run.events_bind_of_ok hstep]
    rcases readLine_of_ok hstep with ⟨hskipped, rfl, hevents⟩ | hblock
    · rw [hevents]
      exact .skip hskipped hrest
    · exact .block hblock hrest

theorem eventsOf_eq (lines : List Text) : parser.eventsOf lines = (parser.readLines {} lines).events :=
  (effects_readFrom 1 {} lines).1

/-- A document that is read logs its size and then a trace of its lines, in which there is a warning for each
preamble line whose command is not among those declared in the end. One that fails logs the trace of the
lines before the first with a fault, and of that line as much as it has got through. -/
theorem parse_trace (parser : Parser) (source : Text) :
    (∀ script, (parser.parse source).outcome = .ok script →
      (∃ events, (parser.parse source).events =
          .parsingScript (Text.lines source).length source.byteSize :: events ∧
        parser.Trace ∅ (Text.lines source) events script) ∧
      (parser.vocabulary.Reachable →
        warningCount (parser.parse source).events + script.preambles.commands.length =
          parser.preambleCount (Text.lines source))) ∧
    ∀ e, (parser.parse source).outcome = .error e →
      ∃ before line check cause events script fragment,
        parser.FailsOn source e before line check cause ∧ parser.Trace ∅ before events script ∧
        parser.Fragment line check cause fragment ∧
        (parser.parse source).events =
          .parsingScript (Text.lines source).length source.byteSize :: (events ++ fragment) := by
  rw [events_parse, eventsOf_eq]
  constructor
  · intro script h
    rw [outcome_parse, outcome_readFrom_eq_ok_iff] at h
    obtain ⟨progress, hread, rfl⟩ := h
    have htrace := trace_of_readLines hread
    refine ⟨⟨_, rfl, htrace⟩, fun hvocabulary => ?_⟩
    have hcount := htrace.count hvocabulary (Script.sparse_empty _)
    have hempty : (∅ : Script).preambles.commands.length = 0 := rfl
    rwa [hempty, Nat.zero_add] at hcount
  · intro e he
    obtain ⟨before, line, check, cause, h⟩ := outcome_parse_eq_error_iff_failsOn.1 he
    obtain ⟨after, hsplit⟩ := h.split
    obtain ⟨progress, hread, hreached⟩ := h.passes.readLines (reached_nil parser)
    refine ⟨before, line, check, cause, _, _, _, h, trace_of_readLines hread, h.fault.fragment hreached, ?_⟩
    rw [hsplit, readLines_append, Run.events_bind_of_ok hread, readLines_cons,
      Run.bind_of_error (h.fault.outcome_readLine hreached)]

/-- Three preamble lines, of which the last takes the place of the first; and a line that fails with its
second argument. -/
theorem parse_trace_output_twice :
    (∃ script events, (parse {} "OUTPUT a\n\nENV A=1\nOUTPUT path:b".toList).outcome = .ok script ∧
      Trace {} ∅ (Text.lines "OUTPUT a\n\nENV A=1\nOUTPUT path:b".toList) events script ∧
      Vocabulary.builtin.Reachable ∧ script.preambles.commands.length = 2 ∧
      warningCount (parse {} "OUTPUT a\n\nENV A=1\nOUTPUT path:b".toList).events + 2 = 3) ∧
    ∃ e before line check cause events script fragment,
      (parse {} "OUTPUT a\nOUTPUT b c".toList).outcome = .error e ∧
      FailsOn {} "OUTPUT a\nOUTPUT b c".toList e before line check cause ∧
      Trace {} ∅ before events script ∧ Fragment {} line check cause fragment := by
  have hok : (parse {} "OUTPUT a\n\nENV A=1\nOUTPUT path:b".toList).outcome =
      .ok ((∅ : Script).storeAll [(.exports, .exports [⟨"A", "1"⟩]), (.output, .output "b")]) := by
    decide +kernel
  have herror : (parse {} "OUTPUT a\nOUTPUT b c".toList).outcome =
      .error (.onLine 2 (.tooManyArguments "OUTPUT" 2 "c")) := by decide +kernel
  obtain ⟨⟨events, -, htrace⟩, hcount⟩ := (parse_trace {} _).1 _ hok
  have hwarnings := hcount .builtin
  have hkept : ((∅ : Script).storeAll
      [(.exports, .exports [⟨"A", "1"⟩]), (.output, .output "b")]).preambles.commands.length = 2 := by
    decide +kernel
  have hpreambles : preambleCount {} (Text.lines "OUTPUT a\n\nENV A=1\nOUTPUT path:b".toList) = 3 := by
    decide +kernel
  rw [hkept, hpreambles] at hwarnings
  obtain ⟨before, line, check, cause, rest, script, fragment, hfails, hbefore, hfragment, -⟩ :=
    (parse_trace {} _).2 _ herror
  exact ⟨⟨_, events, hok, htrace, .builtin, hkept, hwarnings⟩,
    _, before, line, check, cause, rest, script, fragment, herror, hfails, hbefore, hfragment⟩

example : (parse { environment := .ofList [("DIR", "/x")] } "OUTPUT ${DIR}\nOUTPUT b c".toList).events =
    [.parsingScript 2 24, .bindingCommand "OUTPUT" 1 "[13 bytes]", .expandedVariable "DIR" true "/x",
      .boundArgument "OUTPUT" "path" 1, .bindingCommand "OUTPUT" 2 "[10 bytes]",
      .boundArgument "OUTPUT" "path" 1] := by decide +kernel

end Parser
end CollectionScript
