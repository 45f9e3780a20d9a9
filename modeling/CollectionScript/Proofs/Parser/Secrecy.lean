import CollectionScript.Proofs.Parser.Alike
import CollectionScript.Proofs.Parser.Events
import CollectionScript.Proofs.Parser.Substitution

/-! What the log gives away. Two readings under values that differ only where the log leaves them out go
side by side: they bind the same parameters, keep the same forms and log the same events. Only a
constructor sees the values themselves, and all it can do about the log is to end it by failing. -/
namespace CollectionScript

namespace Parser

/-- Parsers that differ in nothing but the values of variables that their log leaves out. -/
structure Indistinct (p q : Parser) : Prop where
  vocabulary_eq : p.vocabulary = q.vocabulary
  limits_eq : p.limits = q.limits
  log_eq : p.log = q.log
  value?_eq {name : Text} (h : p.log.hides name = false) : p.value? name = q.value? name
  isSome_eq (name : Text) : (p.value? name).isSome = (q.value? name).isSome

variable {p q : Parser} {excused : Error → Prop}

theorem indistinct_of_environment (p : Parser) {environment : Environment}
    (hpublic : ∀ name, p.log.hides name = false → p.environment name = environment name)
    (hset : ∀ name, (p.environment name).isSome = (environment name).isSome) :
    p.Indistinct { p with environment } where
  vocabulary_eq := rfl
  limits_eq := rfl
  log_eq := rfl
  value?_eq {name} h := by simp only [value?, hpublic name h]
  isSome_eq name := by simp only [value?, Option.isSome_or, hset name]

theorem Indistinct.renderVariable_eq (h : p.Indistinct q) (name : Text) :
    p.log.renderVariable name ((p.value? name).getD []) =
      q.log.renderVariable name ((q.value? name).getD []) := by
  rw [← h.log_eq]
  cases hhides : p.log.hides name with
  | true => simp only [LogPolicy.renderVariable, hhides, if_true]
  | false => rw [h.value?_eq hhides]

theorem Indistinct.alike_ofWord (h : p.Indistinct q) (word : Text) :
    Run.Alike excused (fun a a' => a = p.argument word ∧ a' = q.argument word)
      (Argument.ofWord p.lookup p.log word) (Argument.ofWord q.lookup q.log word) := by
  refine .ok (outcome_ofWord word) (outcome_ofWord word) ?_ ⟨rfl, rfl⟩
  rw [Argument.ofWord, Argument.ofWord]
  cases Variable.reference? word with
  | none => rfl
  | some name =>
    simp only [Run.bind_of_ok (p.outcome_lookup name), Run.bind_of_ok (q.outcome_lookup name),
      events_lookup, h.renderVariable_eq, h.isSome_eq]
    rfl

theorem Indistinct.alike_ofWords (h : p.Indistinct q) (ws : List Text) :
    Run.Alike excused (fun as as' => as = ws.map p.argument ∧ as' = ws.map q.argument)
      (Argument.ofWords p.lookup p.log ws) (Argument.ofWords q.lookup q.log ws) := by
  induction ws with
  | nil => exact .pure ⟨rfl, rfl⟩
  | cons word ws ih =>
    refine (h.alike_ofWord word).bind fun a a' ha => ih.bind fun as as' has => .pure ?_
    rw [ha.1, ha.2, has.1, has.2]
    exact ⟨rfl, rfl⟩

/-- The bindings are logged alike, and any constructor may fail. -/
theorem alike_construct (p q : Parser) (form : Form) (ws : List Text) :
    Run.Alike (fun _ => True) (fun _ _ => True) (form.construct (ws.map p.argument))
      (form.construct (ws.map q.argument)) :=
  (Schema.alike_bind (alike_argument p q) form.keyword ws).bind fun _ _ _ =>
    .ofExcept (.of_excused (fun _ _ => trivial) fun _ _ => trivial)

theorem Indistinct.alike_bindLine (h : p.Indistinct q) (line : Text) : p.ReadsAlike q line line := by
  rw [ReadsAlike, bindLine, bindLine, ← h.vocabulary_eq, ← h.limits_eq]
  refine (Run.Alike.ofExcept (.same _)).bind fun _ _ _ => ?_
  cases isComment line with
  | true => exact .pure rfl
  | false =>
    refine (Run.Alike.ofExcept (.same _)).bind fun split _ heq => ?_
    subst heq
    cases split with
    | none => exact .pure rfl
    | some split =>
      obtain ⟨keyword, ws⟩ := split
      refine (Run.Alike.ofExcept (.same _)).bind fun form _ heq => ?_
      subst heq
      refine (Run.Alike.ofExcept (.same _)).bind fun _ _ _ => ?_
      have hline : p.log.renderLine line = q.log.renderLine line := by rw [h.log_eq]
      rw [hline]
      refine (Run.Alike.emit _).bind fun _ _ _ => (h.alike_ofWords ws).bind fun as as' has => ?_
      rw [has.1, has.2]
      exact (alike_construct p q form ws).bind fun _ _ _ => .pure rfl

theorem Indistinct.alike_parse (h : p.Indistinct q) (source : Text) :
    Run.Alike (fun _ => True) Script.Alike (p.parse source) (q.parse source) :=
  Parser.alike_parse h.limits_eq rfl (List.forall₂_same.2 fun line _ => h.alike_bindLine line)

/-- The values of variables that the log leaves out never show in it: readings that succeed log the same,
and otherwise what one logs is the start of what the other logs. -/
theorem parse_events_eq (h : p.Indistinct q) (source : Text) :
    (∀ script script', (p.parse source).outcome = .ok script → (q.parse source).outcome = .ok script' →
      (p.parse source).events = (q.parse source).events) ∧
    ((p.parse source).events <+: (q.parse source).events ∨
      (q.parse source).events <+: (p.parse source).events) := by
  have hparse := h.alike_parse source
  constructor
  · intro script script' hp hq
    exact hparse.events_eq_of_ok hp hq
  · exact hparse.events_comparable

theorem parse_events_eq_token :
    ∃ p q : Parser, p.value? "API_TOKEN" = some "one" ∧ q.value? "API_TOKEN" = some "two words" ∧
      (∃ script, (p.parse "OUTPUT a\nRUN $API_TOKEN".toList).outcome = .ok script) ∧
      (∃ script, (q.parse "OUTPUT a\nRUN $API_TOKEN".toList).outcome = .ok script) ∧
      (p.parse "OUTPUT a\nRUN $API_TOKEN".toList).events =
        (q.parse "OUTPUT a\nRUN $API_TOKEN".toList).events := by
  let environment (value : Text) : Environment := fun name => if name = "API_TOKEN" then some value else none
  let p : Parser := { environment := environment "one" }
  let q : Parser := { p with environment := environment "two words" }
  have h : p.Indistinct q := by
    refine p.indistinct_of_environment (fun name hpublic => ?_) fun name => ?_
    · have hname : name ≠ "API_TOKEN" := by
        rintro rfl
        exact absurd hpublic (by decide)
      exact (if_neg hname).trans (if_neg hname).symm
    · by_cases hname : name = "API_TOKEN"
      · rw [hname]
        rfl
      · exact congrArg Option.isSome ((if_neg hname).trans (if_neg hname).symm)
  have hp : (p.parse "OUTPUT a\nRUN $API_TOKEN".toList).outcome = .ok
      ((∅ : Script).storeAll [(.output, .output "a"), (.run, .run ⟨"one", none⟩)]) := by decide +kernel
  have hq : (q.parse "OUTPUT a\nRUN $API_TOKEN".toList).outcome = .ok
      ((∅ : Script).storeAll [(.output, .output "a"), (.run, .run ⟨"two words", none⟩)]) := by
    decide +kernel
  exact ⟨p, q, by decide, by decide, ⟨_, hp⟩, ⟨_, hq⟩, (parse_events_eq h _).1 _ _ hp hq⟩

end Parser
end CollectionScript
