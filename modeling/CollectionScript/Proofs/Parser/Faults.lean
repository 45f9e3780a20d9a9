import CollectionScript.Proofs.Form.Builtin
import CollectionScript.Proofs.Parser.Outcome
import CollectionScript.Proofs.Parser.Steps
import CollectionScript.Proofs.Schema.Binding
import CollectionScript.Proofs.Vocabulary.Reachable
import CollectionScript.Proofs.Word.Reading

/-! What can be wrong with a line of a document. Each check has its own condition, which does not ask
whether an earlier check has failed; what is reported is the fault of the first check that fails. -/
namespace CollectionScript

/-- The checks that a line has to pass. -/
inductive Check where
  | lineSize | quotes | keyword | argumentCount | placement | completeness | construction
  | commandCount | redeclaration
  deriving DecidableEq, Repr

namespace Check

def rank : Check → Nat
  | .lineSize => 0
  | .quotes => 1
  | .keyword => 2
  | .argumentCount => 3
  | .placement => 4
  | .completeness => 5
  | .construction => 6
  | .commandCount => 7
  | .redeclaration => 8

def isLocal : Check → Bool
  | .commandCount => false
  | .redeclaration => false
  | _ => true

theorem rank_lt_of_isLocal {earlier check : Check} (hearlier : earlier.isLocal = true)
    (h : check.isLocal = false) : earlier.rank < check.rank := by
  cases check <;> cases earlier <;> simp_all [isLocal, rank]

end Check

/-- No error of the form's constructor carries a line number. -/
def Form.Unnumbered (form : Form) : Prop :=
  ∀ bindings e, form.build bindings = .error e → e.line? = none

def Vocabulary.Unnumbered (vocabulary : Vocabulary) : Prop :=
  ∀ {keyword form}, vocabulary.find keyword = .ok form → form.Unnumbered

theorem Error.atLine_of_line? {e : Error} (h : e.line? = none) (number : Nat) :
    e.atLine number = .onLine number e := by
  cases e with
  | onLine => cases h
  | _ => rfl

theorem Error.atLine_of_line?_ne {e : Error} (h : e.line? ≠ none) (number : Nat) : e.atLine number = e := by
  cases e with
  | onLine => rfl
  | _ => exact absurd rfl h

namespace Schema

/-- The values of the parameters that the arguments are for. -/
structure Binds (schema : Schema) (command : Text) (arguments : List Argument) (bindings : Bindings) :
    Prop where
  command_eq : bindings.command = command
  get?_iff (name value : Text) :
    bindings.get? name = some value ↔ ∃ a ∈ arguments, schema.Target a name value

theorem Binds.unique {schema : Schema} {command : Text} {arguments : List Argument}
    {bindings bindings' : Bindings} (h : schema.Binds command arguments bindings)
    (h' : schema.Binds command arguments bindings') : bindings = bindings' := by
  obtain ⟨command₁, values⟩ := bindings
  obtain ⟨command₂, values'⟩ := bindings'
  obtain rfl : command₁ = command₂ := h.command_eq.trans h'.command_eq.symm
  have hvalues : values = values' := Dictionary.ext_get? fun name => Option.ext fun value =>
    (h.get?_iff name value).trans (h'.get?_iff name value).symm
  rw [hvalues]

end Schema

namespace Parser

structure Invokes (line keyword : Text) (ws : List Text) : Prop where
  not_comment : isComment line = false
  words_eq : words line = .ok (keyword :: ws)

def Skipped (line : Text) : Prop := isComment line = true ∨ Word.Blank line

def Calls (parser : Parser) (line : Text) (form : Form) (ws : List Text) : Prop :=
  ∃ keyword, Invokes line keyword ws ∧ parser.vocabulary.find keyword = .ok form

def commandCount (lines : List Text) : Nat := lines.countP fun line => (keyword? line).isSome

/-- What a check finds wrong with a line that comes after the lines `before`. -/
inductive Fault (parser : Parser) (before : List Text) (line : Text) : Check → Error → Prop
  | lineSize (h : parser.limits.lineBytes < line.byteSize) :
    Fault parser before line .lineSize
      (.limitExceeded (.lineBytes line.byteSize parser.limits.lineBytes))
  | quotes {front back : Text} {quote : Char} {ts : List Text} (hcomment : isComment line = false)
    (hline : line = front ++ quote :: back) (hfront : Word.Line front ts)
    (hquote : Word.Unclosed quote back) :
    Fault parser before line .quotes (.malformedQuote quote (front.length + 1))
  | keyword {keyword : Text} {ws : List Text} (h : Invokes line keyword ws)
    (hunknown : parser.vocabulary.contains keyword = false) :
    Fault parser before line .keyword (.unknownCommand keyword)
  | argumentCount {keyword : Text} {ws : List Text} (h : Invokes line keyword ws)
    (hcount : parser.limits.lineArguments < ws.length) :
    Fault parser before line .argumentCount
      (.limitExceeded (.lineArguments parser.limits.lineArguments))
  | placement {form : Form} {ws : List Text} {front back : List Argument} {a : Argument}
    (h : parser.Calls line form ws) (hsplit : ws.map parser.argument = front ++ a :: back)
    (hfront : form.schema.Placed front) (ha : form.schema.Surplus front a) :
    Fault parser before line .placement (.tooManyArguments form.keyword (front.length + 1) a.text)
  | completeness {form : Form} {ws : List Text} {p : Parameter} (h : parser.Calls line form ws)
    (hp : form.schema.Lacks (ws.map parser.argument) p) :
    Fault parser before line .completeness (.missingArgument form.keyword p.name)
  | construction {form : Form} {ws : List Text} {bindings : Bindings} {e : Error}
    (h : parser.Calls line form ws)
    (hbindings : form.schema.Binds form.keyword (ws.map parser.argument) bindings)
    (hbuild : form.build bindings = .error e) :
    Fault parser before line .construction e
  | commandCount {keyword : Text} {ws : List Text} (h : Invokes line keyword ws)
    (hcount : commandCount before = parser.limits.commandLines) :
    Fault parser before line .commandCount (.limitExceeded (.commandLines parser.limits.commandLines))
  | redeclaration {form earlier : Form} {ws words : List Text} {other : Text}
    (h : parser.Calls line form ws) (hrole : form.role = .preamble)
    (hcardinality : form.cardinality = .singleton) (hreject : form.redeclare = .reject)
    (hother : other ∈ before) (hearlier : parser.Calls other earlier words)
    (hkept : earlier.role = .preamble) (hkeyword : earlier.keyword = form.keyword) :
    Fault parser before line .redeclaration (.duplicateCommand form.keyword)

def Clears (parser : Parser) (before : List Text) (line : Text) (check : Check) : Prop :=
  ∀ e, ¬ parser.Fault before line check e

def Passes (parser : Parser) (before : List Text) (line : Text) : Prop :=
  ∀ check, parser.Clears before line check

structure FirstFault (parser : Parser) (before : List Text) (line : Text) (check : Check) (e : Error) :
    Prop where
  fault : parser.Fault before line check e
  clears : ∀ earlier : Check, earlier.rank < check.rank → parser.Clears before line earlier

variable {parser : Parser} {before : List Text} {line keyword : Text} {ws : List Text} {form : Form}
  {check : Check} {e : Error}

theorem exists_firstFault (h : parser.Fault before line check e) :
    ∃ check e, parser.FirstFault before line check e := by
  induction hrank : check.rank using Nat.strongRecOn generalizing check e with
  | ind n ih =>
    subst hrank
    by_cases hclears : ∀ earlier : Check, earlier.rank < check.rank → parser.Clears before line earlier
    · exact ⟨check, e, h, hclears⟩
    · simp only [Clears, Classical.not_forall, Classical.not_not] at hclears
      obtain ⟨earlier, hlt, e', he'⟩ := hclears
      exact ih earlier.rank hlt he' rfl

theorem passes_or_firstFault (parser : Parser) (before : List Text) (line : Text) :
    parser.Passes before line ∨ ∃ check e, parser.FirstFault before line check e := by
  by_cases h : parser.Passes before line
  · exact .inl h
  · simp only [Passes, Clears, Classical.not_forall, Classical.not_not] at h
    obtain ⟨check, e, he⟩ := h
    exact .inr (exists_firstFault he)

/-! What a check that is passed says about the line. -/

theorem Clears.checkLine_eq (h : parser.Clears before line .lineSize) :
    parser.limits.checkLine line = .ok () := by
  refine Limits.checkLine_eq_ok_iff.2 (Nat.le_of_not_lt fun hlt => ?_)
  exact h _ (.lineSize hlt)

theorem Clears.exists_words (h : parser.Clears before line .quotes) (hcomment : isComment line = false) :
    ∃ ts, words line = .ok ts := by
  rcases Word.line_or_unclosed line with ⟨ts, hts⟩ | ⟨front, quote, back, ts, hline, hfront, hquote⟩
  · exact ⟨ts, words_of_line hts⟩
  · exact absurd (.quotes hcomment hline hfront hquote) (h _)

theorem Clears.exists_find (h : parser.Clears before line .keyword) (hinvokes : Invokes line keyword ws) :
    ∃ form, parser.vocabulary.find keyword = .ok form := by
  cases hform : parser.vocabulary.forms.get? keyword with
  | some form => exact ⟨form, Vocabulary.find_eq_ok_iff.2 hform⟩
  | none => exact absurd (.keyword hinvokes (by simp [Vocabulary.contains, hform])) (h _)

theorem Clears.checkArguments_eq (h : parser.Clears before line .argumentCount)
    (hinvokes : Invokes line keyword ws) : parser.limits.checkArguments ws.length = .ok () := by
  refine Limits.checkArguments_eq_ok_iff.2 (Nat.le_of_not_lt fun hlt => ?_)
  exact h _ (.argumentCount hinvokes hlt)

theorem Clears.placed (h : parser.Clears before line .placement) (hcalls : parser.Calls line form ws) :
    form.schema.Placed (ws.map parser.argument) := by
  rcases Schema.placed_or_surplus (ws.map parser.argument) with
    hplaced | ⟨front, a, back, hsplit, hfront, ha⟩
  · exact hplaced
  · exact absurd (.placement hcalls hsplit hfront ha) (h _)

theorem Clears.complete (h : parser.Clears before line .completeness)
    (hcalls : parser.Calls line form ws) (p : Parameter) :
    ¬ form.schema.Lacks (ws.map parser.argument) p :=
  fun hp => h _ (.completeness hcalls hp)

/-! What a line comes to, step by step and then once its first checks are passed. -/

theorem bindLine_of_skipped (h : Skipped line) :
    parser.bindLine line = Run.ofExcept (parser.limits.checkLine line) >>= fun _ => pure none := by
  rw [bindLine]
  refine congrArg _ (funext fun _ => ?_)
  cases hcomment : isComment line with
  | true => rfl
  | false =>
    have hblank : Word.Blank line := h.resolve_left (by simp [hcomment])
    have hsplit : splitLine line = .ok none := splitLine_eq_ok_iff.2 (words_eq_nil_iff.2 hblank)
    rw [if_neg (by simp), hsplit]
    rfl

theorem bindLine_of_invokes (h : Invokes line keyword ws) :
    parser.bindLine line = (do
      Run.ofExcept (parser.limits.checkLine line)
      let form ← Run.ofExcept (parser.vocabulary.find keyword)
      Run.ofExcept (parser.limits.checkArguments ws.length)
      Run.emit (.bindingCommand form.keyword ws.length (parser.log.renderLine line))
      let arguments ← Argument.ofWords parser.lookup parser.log ws
      let command ← form.construct arguments
      pure (some (form, command))) := by
  have hsplit : splitLine line = .ok (some (keyword, ws)) := splitLine_eq_ok_iff.2 h.words_eq
  rw [bindLine, h.not_comment, hsplit]
  rfl

theorem outcome_bindLine_of_words (hsize : parser.limits.checkLine line = .ok ())
    (hcomment : isComment line = false) (hwords : words line = .error e) :
    (parser.bindLine line).outcome = .error e := by
  have hsplit : splitLine line = .error e := by
    rw [splitLine, hwords]
    rfl
  rw [outcome_bindLine, hsize, hcomment, hsplit]
  rfl

theorem outcome_bindLine_of_invokes (hsize : parser.limits.checkLine line = .ok ())
    (h : Invokes line keyword ws) :
    (parser.bindLine line).outcome = (do
      let form ← parser.vocabulary.find keyword
      parser.limits.checkArguments ws.length
      let command ← (form.construct (ws.map parser.argument)).outcome
      .ok (some (form, command))) := by
  have hsplit : splitLine line = .ok (some (keyword, ws)) := splitLine_eq_ok_iff.2 h.words_eq
  rw [outcome_bindLine, hsize, h.not_comment, hsplit]
  rfl

theorem outcome_bindLine_of_calls (hsize : parser.limits.checkLine line = .ok ())
    (hcalls : parser.Calls line form ws) (hcount : parser.limits.checkArguments ws.length = .ok ()) :
    (parser.bindLine line).outcome =
      (form.construct (ws.map parser.argument)).outcome.map fun command => some (form, command) := by
  obtain ⟨keyword, hinvokes, hform⟩ := hcalls
  rw [outcome_bindLine_of_invokes hsize hinvokes, hform, hcount, except_ok_bind, except_ok_bind]
  cases (form.construct (ws.map parser.argument)).outcome <;> rfl

theorem outcome_construct_of_complete (hplaced : form.schema.Placed (ws.map parser.argument))
    (hcomplete : ∀ p, ¬ form.schema.Lacks (ws.map parser.argument) p) :
    ∃ bindings, form.schema.Binds form.keyword (ws.map parser.argument) bindings ∧
      (form.construct (ws.map parser.argument)).outcome = form.build bindings := by
  obtain ⟨bound, hholds, hbind⟩ := Schema.bind_of_complete form.keyword hplaced hcomplete
  exact ⟨⟨form.keyword, bound⟩, ⟨rfl, hholds.get?_iff⟩, Form.outcome_construct_of_bind hbind⟩

/-- What a check of the line alone finds first is what reading the line by itself reports. -/
theorem FirstFault.outcome_bindLine (h : parser.FirstFault before line check e)
    (hlocal : check.isLocal = true) : (parser.bindLine line).outcome = .error e := by
  obtain ⟨hfault, hclears⟩ := h
  have hcalls : ∀ {form ws}, Check.rank .argumentCount < check.rank → parser.Calls line form ws →
      (parser.bindLine line).outcome =
        (form.construct (ws.map parser.argument)).outcome.map fun command => some (form, command) := by
    intro form ws hrank hcalls
    obtain ⟨keyword, hinvokes, -⟩ := id hcalls
    have hsize := (hclears .lineSize (Nat.lt_trans (by decide) hrank)).checkLine_eq
    exact outcome_bindLine_of_calls hsize hcalls
      ((hclears .argumentCount hrank).checkArguments_eq hinvokes)
  cases hfault with
  | lineSize hlt =>
    have hsize : parser.limits.checkLine line =
        .error (.limitExceeded (.lineBytes line.byteSize parser.limits.lineBytes)) :=
      if_neg (Nat.not_le_of_lt hlt)
    rw [Parser.outcome_bindLine, hsize]
    rfl
  | quotes hcomment hline hfront hquote =>
    have hsize := (hclears .lineSize (by decide)).checkLine_eq
    exact outcome_bindLine_of_words hsize hcomment (hline ▸ words_of_unclosed hfront hquote)
  | keyword hinvokes hunknown =>
    have hsize := (hclears .lineSize (by decide)).checkLine_eq
    have hfind : parser.vocabulary.find _ = .error (.unknownCommand _) :=
      Vocabulary.find_of_not_contains hunknown
    rw [outcome_bindLine_of_invokes hsize hinvokes, hfind]
    rfl
  | argumentCount hinvokes hcount =>
    have hsize := (hclears .lineSize (by decide)).checkLine_eq
    obtain ⟨form, hform⟩ := (hclears .keyword (by decide)).exists_find hinvokes
    have hexceeds : parser.limits.checkArguments _ =
        .error (.limitExceeded (.lineArguments parser.limits.lineArguments)) :=
      if_neg (Nat.not_le_of_lt hcount)
    rw [outcome_bindLine_of_invokes hsize hinvokes, hform, hexceeds]
    rfl
  | placement h hsplit hfront ha =>
    rw [hcalls (by decide) h, hsplit,
      Form.outcome_construct_of_error (Schema.bind_of_surplus _ hfront ha _)]
    rfl
  | completeness h hp =>
    have hplaced := (hclears .placement (by decide)).placed h
    rw [hcalls (by decide) h, Form.outcome_construct_of_error (Schema.bind_of_lacks _ hplaced hp)]
    rfl
  | construction h hbindings hbuild =>
    have hplaced := (hclears .placement (by decide)).placed h
    obtain ⟨bindings, hbinds, hconstruct⟩ := outcome_construct_of_complete hplaced
      ((hclears .completeness (by decide)).complete h)
    rw [hcalls (by decide) h, hconstruct, hbinds.unique hbindings, hbuild]
    rfl
  | commandCount => cases hlocal
  | redeclaration => cases hlocal

theorem outcome_bindLine_of_clears
    (h : ∀ check : Check, check.isLocal = true → parser.Clears before line check) :
    (keyword? line = none ∧ (parser.bindLine line).outcome = .ok none) ∨
      ∃ form ws command, parser.Calls line form ws ∧
        (parser.bindLine line).outcome = .ok (some (form, command)) := by
  have hsize := (h .lineSize rfl).checkLine_eq
  have hskip : isComment line ∨ words line = .ok [] →
      keyword? line = none ∧ (parser.bindLine line).outcome = .ok none := by
    intro hempty
    have hnone : (parser.bindLine line).outcome = .ok none :=
      outcome_bindLine_eq_none_iff.2 ⟨Limits.checkLine_eq_ok_iff.1 hsize, hempty⟩
    exact ⟨keyword?_of_none hnone, hnone⟩
  cases hcomment : isComment line with
  | true => exact .inl (hskip (.inl hcomment))
  | false =>
    obtain ⟨ts, hwords⟩ := (h .quotes rfl).exists_words hcomment
    cases ts with
    | nil => exact .inl (hskip (.inr hwords))
    | cons keyword ws =>
      have hinvokes : Invokes line keyword ws := ⟨hcomment, hwords⟩
      obtain ⟨form, hform⟩ := (h .keyword rfl).exists_find hinvokes
      have hcalls : parser.Calls line form ws := ⟨keyword, hinvokes, hform⟩
      have hcount := (h .argumentCount rfl).checkArguments_eq hinvokes
      have hplaced := (h .placement rfl).placed hcalls
      obtain ⟨bindings, hbinds, hconstruct⟩ :=
        outcome_construct_of_complete hplaced ((h .completeness rfl).complete hcalls)
      cases hbuild : form.build bindings with
      | error e => exact absurd (.construction hcalls hbinds hbuild) (h .construction rfl e)
      | ok command =>
        refine .inr ⟨form, ws, command, hcalls, ?_⟩
        rw [outcome_bindLine_of_calls hsize hcalls hcount, hconstruct, hbuild]
        rfl

end Parser
end CollectionScript
