import CollectionScript.Proofs.Text.Order
import CollectionScript.Proofs.Vocabulary.Reachable

/-! What a vocabulary is after any operations, read off the operations: under each keyword stands the form
that was registered last, with the policy that was set last since then. The vocabulary is changed in place, and a
call that is refused is broken off before it changes anything. -/
namespace CollectionScript

/-- The form after a policy is set, if one is: it bears on singletons only. -/
def Form.under (form : Form) (policy? : Option Redeclare) : Form :=
  match form.cardinality with
  | .singleton => { form with redeclare := policy?.getD form.redeclare }
  | .multi => form

@[simp] theorem Form.under_none (form : Form) : form.under none = form := by
  obtain ⟨_, _, cardinality, _, _, _⟩ := form
  cases cardinality <;> rfl

theorem Form.under_under (form : Form) (first second : Option Redeclare) :
    (form.under first).under second = form.under (second.or first) := by
  obtain ⟨_, _, cardinality, _, _, _⟩ := form
  cases cardinality <;> cases second <;> rfl

@[simp] theorem Form.keyword_under (form : Form) (policy? : Option Redeclare) :
    (form.under policy?).keyword = form.keyword := by
  unfold under
  split <;> rfl

theorem Form.WellFormed.under {form : Form} (h : form.WellFormed) (policy? : Option Redeclare) :
    (form.under policy?).WellFormed := by
  unfold Form.under
  split
  · exact ⟨h.keyword_ne_nil, h.not_blank, h.schema⟩
  · exact h

namespace Vocabulary

inductive Operation where
  | register (form : Form)
  | withRedeclare (redeclare : Redeclare)

namespace Operation

def policy? : Operation → Option Redeclare
  | .register _ => none
  | .withRedeclare redeclare => some redeclare

def Registers (keyword : Text) : Operation → Prop
  | .register form => form.WellFormed ∧ form.keyword = keyword
  | .withRedeclare _ => False

instance (keyword : Text) : (operation : Operation) → Decidable (operation.Registers keyword)
  | .register form => inferInstanceAs (Decidable (form.WellFormed ∧ form.keyword = keyword))
  | .withRedeclare _ => inferInstanceAs (Decidable False)

end Operation

/-- The steps of a call that registers a form. What a step has changed stays if a later one fails. -/
def entering (form : Form) : ExceptT Error (StateM Vocabulary) Unit := do
  if form.keyword = [] ∨ form.keyword.any Text.isBlank then
    throw (.invalidSchema form.keyword "keyword must be a single word")
  MonadExcept.ofExcept (form.schema.validate form.keyword)
  modify fun vocabulary => ⟨vocabulary.forms.insert form.keyword form⟩

/-- How a call that registers a form ends, and the vocabulary that it leaves behind. -/
def enter (vocabulary : Vocabulary) (form : Form) : Except Error Unit × Vocabulary :=
  (entering form).run.run vocabulary

def perform (vocabulary : Vocabulary) : Operation → Vocabulary
  | .register form => (vocabulary.enter form).2
  | .withRedeclare redeclare => vocabulary.withRedeclare redeclare

def performAll (vocabulary : Vocabulary) (operations : List Operation) : Vocabulary :=
  operations.foldl perform vocabulary

def lastPolicy? : List Operation → Option Redeclare
  | [] => none
  | operation :: operations => (lastPolicy? operations).or operation.policy?

/-- The form was put under the keyword before the operations `since`, and none of these put another one in
its place. -/
inductive Stored (start : Vocabulary) : List Operation → Text → Form → List Operation → Prop
  | initial {operations : List Operation} {keyword : Text} {form : Form}
    (h : start.find keyword = .ok form) (hkept : ∀ operation ∈ operations, ¬ operation.Registers keyword) :
    Stored start operations keyword form operations
  | registered {before since : List Operation} {form : Form} (h : form.WellFormed)
    (hkept : ∀ operation ∈ since, ¬ operation.Registers form.keyword) :
    Stored start (before ++ .register form :: since) form.keyword form since

structure Follows (start : Vocabulary) (operations : List Operation) (vocabulary : Vocabulary) : Prop where
  wellFormed {keyword : Text} {form : Form} (h : vocabulary.find keyword = .ok form) :
    form.keyword = keyword ∧ form.WellFormed
  /-- Where the vocabulary is handed on, it is the one that the call leaves behind. -/
  register_eq (form : Form) :
    vocabulary.register form = (vocabulary.enter form).1.map fun _ => (vocabulary.enter form).2
  refuses_iff (form : Form) : (∃ e, vocabulary.register form = .error e) ↔ ¬ form.WellFormed
  unchanged {form : Form} {e : Error} (h : vocabulary.register form = .error e) :
    start.performAll (operations ++ [.register form]) = vocabulary
  /-- The form under a keyword is the one stored last, but for the policy of a singleton. -/
  find_iff (keyword : Text) (form : Form) : vocabulary.find keyword = .ok form ↔
    ∃ stored since, Stored start operations keyword stored since ∧ form = stored.under (lastPolicy? since)
  increasing : (vocabulary.keywords.map Text.bytes).Pairwise (· < ·)
  mem_keywords_iff (keyword : Text) : keyword ∈ vocabulary.keywords ↔ vocabulary.contains keyword = true
  contains_iff (keyword : Text) :
    vocabulary.contains keyword = true ↔ ∃ form, vocabulary.find keyword = .ok form
  size_eq : vocabulary.size = vocabulary.keywords.length

variable {start vocabulary : Vocabulary} {operation : Operation} {operations : List Operation} {keyword : Text}
  {form : Form}

/-- Both checks come before the one step that changes the vocabulary. -/
theorem enter_eq (vocabulary : Vocabulary) (form : Form) :
    vocabulary.enter form =
      match vocabulary.register form with
      | .ok vocabulary' => (.ok (), vocabulary')
      | .error e => (.error e, vocabulary) := by
  rw [enter, entering, register]
  by_cases hword : form.keyword = [] ∨ form.keyword.any Text.isBlank
  · rw [if_pos hword, if_pos hword]
    rfl
  · rw [if_neg hword, if_neg hword]
    cases form.schema.validate form.keyword <;> rfl

theorem register_eq_enter (vocabulary : Vocabulary) (form : Form) :
    vocabulary.register form = (vocabulary.enter form).1.map fun _ => (vocabulary.enter form).2 := by
  rw [enter_eq]
  cases vocabulary.register form <;> rfl

theorem perform_register (h : form.WellFormed) (vocabulary : Vocabulary) :
    vocabulary.perform (.register form) = ⟨vocabulary.forms.insert form.keyword form⟩ := by
  rw [perform, enter_eq, register_of_wellFormed h]

theorem perform_register_of_error {e : Error} (h : vocabulary.register form = .error e) :
    vocabulary.perform (.register form) = vocabulary := by
  rw [perform, enter_eq, h]

theorem register_eq_error_iff : (∃ e, vocabulary.register form = .error e) ↔ ¬ form.WellFormed := by
  constructor
  · rintro ⟨e, he⟩ h
    rw [register_of_wellFormed h] at he
    cases he
  · intro h
    obtain ⟨reason, hreason⟩ := register_of_not_wellFormed h vocabulary
    exact ⟨_, hreason⟩

theorem find_perform_register (h : form.WellFormed) (vocabulary : Vocabulary) :
    (vocabulary.perform (.register form)).find form.keyword = .ok form := by
  rw [perform_register h, find_eq_ok_iff, Dictionary.get?_insert_self]

theorem find_perform (h : ¬ operation.Registers keyword) (vocabulary : Vocabulary) :
    (vocabulary.perform operation).find keyword =
      (vocabulary.find keyword).map (·.under operation.policy?) := by
  cases operation with
  | register form =>
    have hsame : (vocabulary.perform (.register form)).find keyword = vocabulary.find keyword := by
      by_cases hform : form.WellFormed
      · have hne : keyword ≠ form.keyword := fun heq => h ⟨hform, heq.symm⟩
        rw [perform_register hform, find, Dictionary.get?_insert_of_ne _ _ hne, find]
      · obtain ⟨e, he⟩ := register_eq_error_iff.2 hform
        rw [perform_register_of_error he]
    rw [hsame]
    cases vocabulary.find keyword <;> simp [Except.map, Operation.policy?]
  | withRedeclare redeclare =>
    rw [perform, find_withRedeclare]
    cases vocabulary.find keyword with
    | error e => rfl
    | ok form =>
      obtain ⟨_, _, cardinality, _, _, _⟩ := form
      cases cardinality <;> rfl

theorem find_performAll (h : ∀ operation ∈ operations, ¬ operation.Registers keyword)
    (vocabulary : Vocabulary) :
    (vocabulary.performAll operations).find keyword =
      (vocabulary.find keyword).map (·.under (lastPolicy? operations)) := by
  induction operations generalizing vocabulary with
  | nil => cases hfind : vocabulary.find keyword <;> simp [performAll, hfind, lastPolicy?, Except.map]
  | cons operation operations ih =>
    obtain ⟨hfirst, hrest⟩ := List.forall_mem_cons.1 h
    have hstep : vocabulary.performAll (operation :: operations) =
        (vocabulary.perform operation).performAll operations := rfl
    rw [hstep, ih hrest, find_perform hfirst]
    cases vocabulary.find keyword <;> simp [Except.map, lastPolicy?, Form.under_under]

theorem performAll_append (vocabulary : Vocabulary) (before since : List Operation) :
    vocabulary.performAll (before ++ since) = (vocabulary.performAll before).performAll since :=
  List.foldl_append

theorem Stored.find_eq {since : List Operation} (h : Stored start operations keyword form since) :
    (start.performAll operations).find keyword = .ok (form.under (lastPolicy? since)) := by
  cases h with
  | initial h hkept =>
    rw [find_performAll hkept, h]
    rfl
  | @registered before since form h hkept =>
    have hsplit : start.performAll (before ++ .register form :: since) =
        ((start.performAll before).perform (.register form)).performAll since := by
      rw [performAll_append]
      rfl
    rw [hsplit, find_performAll hkept, find_perform_register h]
    rfl

theorem kept_or_registered (operations : List Operation) (keyword : Text) :
    (∀ operation ∈ operations, ¬ operation.Registers keyword) ∨
      ∃ before form since, operations = before ++ .register form :: since ∧ form.WellFormed ∧
        form.keyword = keyword ∧ ∀ operation ∈ since, ¬ operation.Registers keyword := by
  induction operations with
  | nil => exact .inl (List.forall_mem_nil _)
  | cons operation operations ih =>
    rcases ih with hkept | ⟨before, form, since, rfl, hform, hkeyword, hkept⟩
    · by_cases hfirst : operation.Registers keyword
      · cases operation with
        | register form => exact .inr ⟨[], form, operations, rfl, hfirst.1, hfirst.2, hkept⟩
        | withRedeclare redeclare => exact hfirst.elim
      · exact .inl (List.forall_mem_cons.2 ⟨hfirst, hkept⟩)
    · exact .inr ⟨operation :: before, form, since, rfl, hform, hkeyword, hkept⟩

theorem find_performAll_iff :
    (start.performAll operations).find keyword = .ok form ↔
      ∃ stored since, Stored start operations keyword stored since ∧
        form = stored.under (lastPolicy? since) := by
  constructor
  · intro hfind
    rcases kept_or_registered operations keyword with
      hkept | ⟨before, stored, since, rfl, hstored, rfl, hkept⟩
    · rw [find_performAll hkept] at hfind
      obtain ⟨stored, hstored, heq⟩ := except_map_eq_ok_iff.1 hfind
      exact ⟨stored, operations, .initial hstored hkept, heq⟩
    · have h : Stored start (before ++ .register stored :: since) stored.keyword stored since :=
        .registered hstored hkept
      exact ⟨stored, since, h, Except.ok.inj (hfind.symm.trans h.find_eq)⟩
  · rintro ⟨stored, since, h, rfl⟩
    exact h.find_eq

theorem wellFormed_of_mem_builtins (h : form ∈ Form.builtins) : form.WellFormed := by
  have hall : ∀ form ∈ Form.builtins, form.WellFormed := by decide
  exact hall form h

theorem find_start (hstart : start = .empty ∨ start = .builtin) (hfind : start.find keyword = .ok form) :
    form.keyword = keyword ∧ form.WellFormed := by
  rcases hstart with rfl | rfl
  · cases hfind
  · obtain ⟨hmem, hkeyword⟩ := keyword_of_find_builtin hfind
    exact ⟨hkeyword, wellFormed_of_mem_builtins hmem⟩

theorem contains_iff_find : vocabulary.contains keyword = true ↔ ∃ form, vocabulary.find keyword = .ok form := by
  simp only [contains, Option.isSome_iff_exists, find_eq_ok_iff]

/-- Operations of any number in any order, refused ones among them, lead to a vocabulary that their history
describes. -/
theorem follows_performAll (hstart : start = .empty ∨ start = .builtin) (operations : List Operation) :
    Follows start operations (start.performAll operations) := by
  constructor
  case wellFormed =>
    intro keyword form hfind
    obtain ⟨stored, since, hstored, rfl⟩ := find_performAll_iff.1 hfind
    have hform : stored.keyword = keyword ∧ stored.WellFormed := by
      cases hstored with
      | initial h _ => exact find_start hstart h
      | registered h _ => exact ⟨rfl, h⟩
    exact ⟨(stored.keyword_under _).trans hform.1, hform.2.under _⟩
  case register_eq =>
    intro form
    exact register_eq_enter _ form
  case refuses_iff =>
    intro form
    exact register_eq_error_iff
  case unchanged =>
    intro form e he
    rw [performAll_append]
    exact perform_register_of_error he
  case find_iff =>
    intro keyword form
    exact find_performAll_iff
  case increasing =>
    rw [List.pairwise_map]
    exact (Dictionary.sorted_keys _).imp Text.bytes_lt_iff.2
  case mem_keywords_iff =>
    intro keyword
    exact Dictionary.mem_keys_iff
  case contains_iff =>
    intro keyword
    exact contains_iff_find
  case size_eq => exact (Dictionary.length_keys _).symm

/-- The schema has the name `path` twice, so the second form is refused and the policy still reaches the
first. -/
theorem follows_performAll_refused :
    (empty.performAll [.withRedeclare .overwrite, .register { Form.output with keyword := "OUT" },
        .withRedeclare .reject, .register { Form.copy with
          keyword := "OUT", schema := ⟨Form.pathSchema.parameters ++ [⟨"path", false, false⟩]⟩ }]).find "OUT" =
      .ok { Form.output with keyword := "OUT", redeclare := .reject } := by
  have hstart : empty = empty ∨ empty = builtin := .inl rfl
  have hstored : Stored empty ([.withRedeclare .overwrite] ++
      .register { Form.output with keyword := "OUT" } :: [.withRedeclare .reject,
        .register { Form.copy with
          keyword := "OUT", schema := ⟨Form.pathSchema.parameters ++ [⟨"path", false, false⟩]⟩ }])
      "OUT" { Form.output with keyword := "OUT" } _ := .registered (by decide) (by decide)
  exact ((follows_performAll hstart _).find_iff _ _).2 ⟨_, _, hstored, rfl⟩

end Vocabulary
end CollectionScript
