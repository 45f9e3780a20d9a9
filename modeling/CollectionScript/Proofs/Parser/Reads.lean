import CollectionScript.Proofs.Form.Values
import CollectionScript.Proofs.Parser.Faults

/-! What reading a line asks of the environment: values for the references among its arguments, all of them
once the line has passed the checks that come before, and none otherwise. -/
namespace CollectionScript

theorem Schema.reads_bindFrom (schema : Schema) (command : Text) (index : Nat)
    (bound : Dictionary Text) (arguments : List Argument) :
    (schema.bindFrom command index bound arguments).reads = [] := by
  induction arguments generalizing index bound with
  | nil => rfl
  | cons a arguments ih =>
    rw [bindFrom]
    split
    · rfl
    · split
      · rfl
      · exact Run.reads_bind_eq_nil rfl fun _ _ => ih _ _

theorem Form.reads_construct (form : Form) (arguments : List Argument) :
    (form.construct arguments).reads = [] := by
  have hbind : (form.schema.bind form.keyword arguments).reads = [] := by
    apply Run.reads_bind_eq_nil (form.schema.reads_bindFrom form.keyword 1 ∅ arguments)
    intro bound _
    split <;> rfl
  exact Run.reads_bind_eq_nil hbind fun _ _ => rfl

/-- Words that are no references stand for themselves. -/
theorem Argument.ofWords_eq_pure {lookup : Text → Run (Option Text)} {log : LogPolicy}
    {ws : List Text} (h : ∀ word ∈ ws, Variable.reference? word = none) :
    ofWords lookup log ws = pure (ws.map .written) := by
  induction ws with
  | nil => rfl
  | cons word ws ih =>
    obtain ⟨hword, hws⟩ := List.forall_mem_cons.1 h
    have hwritten : ofWord lookup log word = pure (.written word) := by
      rw [ofWord, hword]
    rw [ofWords, hwritten, ih hws, pure_bind, pure_bind]
    rfl

namespace Variable

theorem not_mem_of_isName {name : Text} (h : isName name = true) {c : Char} (hc : c.isAlphanum = false)
    (hmark : c ≠ '_') : c ∉ name := by
  intro hmem
  rcases mem_of_isName h hmem with halphanum | hunderscore
  · rw [hc] at halphanum
    cases halphanum
  · exact hmark hunderscore

theorem reference?_eq_some_iff {word name : Text} :
    reference? word = some name ↔
      isName name = true ∧ (word = '$' :: name ∨ word = '$' :: '{' :: (name ++ ['}'])) := by
  rw [reference?, Option.filter_eq_some_iff]
  constructor
  · rintro ⟨hreferent, hname⟩
    refine ⟨hname, ?_⟩
    unfold referent? at hreferent
    split at hreferent
    · next r =>
      split at hreferent
      · next hlast =>
        obtain ⟨inner, rfl⟩ := List.getLast?_eq_some_iff.1 hlast
        obtain rfl : inner = name := by simpa using hreferent
        exact .inr rfl
      · cases hreferent
    · obtain rfl := Option.some.inj hreferent
      exact .inl rfl
    · cases hreferent
  · rintro ⟨hname, rfl | rfl⟩
    · refine ⟨?_, hname⟩
      have hbrace : '{' ∉ name := not_mem_of_isName hname (by decide) (by decide)
      unfold referent?
      split
      · next heq =>
        obtain rfl := (List.cons.inj heq).2
        exact absurd List.mem_cons_self hbrace
      · next heq => rw [(List.cons.inj heq).2]
      · next hother => exact absurd rfl (hother name)
    · exact ⟨by simp [referent?], hname⟩

/-- A word that could give a value by name is no reference. -/
theorem reference?_of_colon {word : Text} (h : ':' ∈ word) : reference? word = none := by
  refine Option.eq_none_iff_forall_ne_some.2 fun name hreference => ?_
  obtain ⟨hname, hword⟩ := reference?_eq_some_iff.1 hreference
  have hcolon : ':' ∈ name := by rcases hword with rfl | rfl <;> simpa using h
  exact not_mem_of_isName hname (by decide) (by decide) hcolon

end Variable

namespace Parser

/-- The variables that the words refer to, once for each reference, without those that an override settles. -/
def unsettled (parser : Parser) (ws : List Text) : List Text :=
  (ws.filterMap Variable.reference?).filter fun name => (parser.overrides.get? name).isNone

/-- What reading the line asks the environment for. The line has to be a command line that keeps to the
limits and has a known keyword, and need not be fit for anything else. -/
def asks (parser : Parser) (line : Text) : List Text :=
  match words line with
  | .ok (keyword :: ws) =>
    if line.byteSize ≤ parser.limits.lineBytes ∧ isComment line = false ∧
        parser.vocabulary.contains keyword = true ∧ ws.length ≤ parser.limits.lineArguments then
      parser.unsettled ws
    else []
  | _ => []

variable {parser : Parser} {line keyword : Text} {ws : List Text}

theorem reads_ofWord (word : Text) :
    (Argument.ofWord parser.lookup parser.log word).reads = parser.unsettled [word] := by
  rw [Argument.ofWord, unsettled]
  cases hname : Variable.reference? word with
  | none => simp [hname]
  | some name =>
    have hreads : (parser.lookup name).reads = [name].filter fun name => (parser.overrides.get? name).isNone := by
      cases hvalue : parser.overrides.get? name <;> simp [lookup, hvalue, Run.ask]
    rw [List.filterMap_cons_some hname, List.filterMap_nil, ← hreads]
    exact Run.reads_bind_left fun _ => rfl

/-- All references are followed before anything is made of their values. -/
theorem reads_ofWords (ws : List Text) :
    (Argument.ofWords parser.lookup parser.log ws).reads = parser.unsettled ws := by
  induction ws with
  | nil => rfl
  | cons word ws ih =>
    have hrest : ((Argument.ofWords parser.lookup parser.log ws) >>= fun arguments =>
        pure (parser.argument word :: arguments)).reads = parser.unsettled ws := by
      rw [Run.reads_bind_left fun _ => rfl, ih]
    rw [Argument.ofWords, Run.reads_bind_of_ok (outcome_ofWord word), reads_ofWord, hrest, unsettled, unsettled,
      unsettled, ← List.filter_append, ← List.filterMap_append]
    rfl

theorem reads_bindLine_of_invokes (h : Invokes line keyword ws) :
    (parser.bindLine line).reads = parser.asks line := by
  rw [bindLine_of_invokes h, asks, h.words_eq]
  simp only [h.not_comment, true_and]
  by_cases hbytes : line.byteSize ≤ parser.limits.lineBytes
  case neg =>
    rw [Limits.checkLine, if_neg hbytes, if_neg fun hall => hbytes hall.1]
    rfl
  by_cases hknown : parser.vocabulary.contains keyword = true
  case neg =>
    rw [Limits.checkLine_eq_ok_iff.2 hbytes, Vocabulary.find_of_not_contains (by simpa using hknown),
      if_neg fun hall => hknown hall.2.1]
    rfl
  obtain ⟨form, hform⟩ := Option.isSome_iff_exists.1 hknown
  by_cases hcount : ws.length ≤ parser.limits.lineArguments
  case neg =>
    rw [Limits.checkLine_eq_ok_iff.2 hbytes, Vocabulary.find_eq_ok_iff.2 hform, Limits.checkArguments,
      if_neg hcount, if_neg fun hall => hcount hall.2.2]
    rfl
  rw [Limits.checkLine_eq_ok_iff.2 hbytes, Vocabulary.find_eq_ok_iff.2 hform,
    Limits.checkArguments_eq_ok_iff.2 hcount, if_pos ⟨hbytes, hknown, hcount⟩, Run.ofExcept_ok_bind,
    Run.ofExcept_ok_bind, Run.ofExcept_ok_bind, Run.reads_bind_of_ok (Run.outcome_emit _),
    Run.reads_bind_left, reads_ofWords]
  · rfl
  · intro arguments
    exact Run.reads_bind_eq_nil (form.reads_construct arguments) fun _ _ => rfl

theorem reads_bindLine_eq (parser : Parser) (line : Text) : (parser.bindLine line).reads = parser.asks line := by
  have hnone (h : ∀ keyword ws, ¬ Invokes line keyword ws) : parser.asks line = [] := by
    rw [asks]
    split
    · next keyword ws hwords =>
      have hcomment : isComment line ≠ false := fun hcomment => h keyword ws ⟨hcomment, hwords⟩
      rw [if_neg fun hall => hcomment hall.2.1]
    · rfl
  by_cases hinvokes : ∃ keyword ws, Invokes line keyword ws
  · obtain ⟨keyword, ws, hinvokes⟩ := hinvokes
    exact reads_bindLine_of_invokes hinvokes
  · rw [hnone fun keyword ws h => hinvokes ⟨keyword, ws, h⟩, bindLine]
    refine Run.reads_bind_eq_nil rfl fun _ _ => ?_
    cases hcomment : isComment line with
    | true => rfl
    | false =>
      refine Run.reads_bind_eq_nil rfl fun split hsplit => ?_
      cases split with
      | none => rfl
      | some p => exact absurd ⟨p.1, p.2, hcomment, splitLine_eq_ok_iff.1 hsplit⟩ hinvokes

theorem reads_bindLine (h : ∀ keyword ws, words line = .ok (keyword :: ws) →
    ∀ word ∈ ws, Variable.reference? word = none) : (parser.bindLine line).reads = [] := by
  rw [reads_bindLine_eq, asks]
  split
  · next keyword ws hwords =>
    have hnone : parser.unsettled ws = [] := by
      rw [unsettled, List.filterMap_eq_nil_iff.2 (h keyword ws hwords), List.filter_nil]
    rw [hnone, ite_self]
  · rfl

end Parser
end CollectionScript
