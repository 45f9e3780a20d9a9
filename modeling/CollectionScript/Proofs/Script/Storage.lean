import CollectionScript.Proofs.Dictionary
import CollectionScript.Proofs.Run
import CollectionScript.Script

/-! Storing commands in a script. A command is refused, or it is stored by a function that has no failure;
what a script holds after many commands is read off the commands themselves. -/
namespace CollectionScript

def Form.keep (form : Form) (earlier : List Command) (command : Command) : List Command :=
  match form.cardinality with
  | .multi => earlier ++ [command]
  | .singleton => [command]

namespace Declarations

def Refuses (declarations : Declarations) (form : Form) : Prop :=
  form.cardinality = .singleton ∧ form.redeclare = .reject ∧ declarations.get form.keyword ≠ []

theorem declare_of_refuses {declarations : Declarations} {form : Form}
    (h : declarations.Refuses form) (command : Command) :
    declarations.declare form command = Run.fail (.duplicateCommand form.keyword) := by
  obtain ⟨hcardinality, hredeclare, hearlier⟩ := h
  have hempty : (declarations.get form.keyword).isEmpty = false := by simpa using hearlier
  simp [declare, hcardinality, hredeclare, hempty]

theorem outcome_declare {declarations : Declarations} {form : Form}
    (h : ¬ declarations.Refuses form) (command : Command) :
    (declarations.declare form command).outcome = .ok (declarations.set form.keyword
      (form.keep (declarations.get form.keyword) command)) := by
  cases hcardinality : form.cardinality with
  | multi => simp [declare, Form.keep, hcardinality]
  | singleton =>
    by_cases hearlier : declarations.get form.keyword = []
    · simp [declare, Form.keep, hcardinality, hearlier]
    · cases hredeclare : form.redeclare with
      | reject => exact absurd ⟨hcardinality, hredeclare, hearlier⟩ h
      | overwrite =>
        have hempty : (declarations.get form.keyword).isEmpty = false := by simpa using hearlier
        simp only [declare, Form.keep, hcardinality, hempty, hredeclare]
        rw [if_neg (by simp), Run.outcome_bind_of_ok rfl]
        rfl

theorem mem_keywords_set {declarations : Declarations} {keyword k : Text}
    {commands : List Command} :
    k ∈ (declarations.set keyword commands).keywords ↔ k = keyword ∨ k ∈ declarations.keywords := by
  rw [keywords, keywords, Dictionary.mem_keys_iff, Dictionary.mem_keys_iff, set,
    Dictionary.get?_insert]
  by_cases hk : k = keyword <;> simp [hk]

end Declarations

namespace Script

variable {script script' : Script} {form : Form} {command : Command}

def Refuses (script : Script) (form : Form) : Prop :=
  form.role = .preamble ∧ script.preambles.Refuses form

/-- The script with one more command, which takes the place of an earlier one where it has to. -/
def store (script : Script) (form : Form) (command : Command) : Script :=
  match form.role with
  | .preamble => { script with
      preambles := script.preambles.set form.keyword
        (form.keep (script.preambles.get form.keyword) command) }
  | .action => { script with actions := script.actions ++ [command] }

theorem outcome_add_of_refuses (h : script.Refuses form) (command : Command) :
    (script.add form command).outcome = .error (.duplicateCommand form.keyword) := by
  obtain ⟨hrole, hrefuses⟩ := h
  simp only [add, hrole, Declarations.declare_of_refuses hrefuses]
  rfl

theorem outcome_add (h : ¬ script.Refuses form) (command : Command) :
    (script.add form command).outcome = .ok (script.store form command) := by
  cases hrole : form.role with
  | action => simp [add, store, hrole]
  | preamble =>
    have hrefuses : ¬ script.preambles.Refuses form := fun h' => h ⟨hrole, h'⟩
    simp only [add, store, hrole]
    rw [Run.outcome_bind_of_ok (Declarations.outcome_declare hrefuses command)]
    rfl

theorem outcome_add_eq_ok_iff :
    (script.add form command).outcome = .ok script' ↔
      ¬ script.Refuses form ∧ script' = script.store form command := by
  by_cases h : script.Refuses form
  · simp [outcome_add_of_refuses h, h]
  · simp [outcome_add h, h, eq_comm]

theorem actions_store :
    (script.store form command).actions =
      script.actions ++ if form.role = .action then [command] else [] := by
  cases hrole : form.role <;> simp [store, hrole]

theorem get_store (k : Text) :
    (script.store form command).preambles.get k =
      if form.role = .preamble ∧ form.keyword = k then form.keep (script.preambles.get k) command
      else script.preambles.get k := by
  cases hrole : form.role with
  | action => simp [store, hrole]
  | preamble =>
    by_cases hk : form.keyword = k
    · subst hk
      simp [store, hrole, Declarations.get_set]
    · simp [store, hrole, Declarations.get_set, hk, Ne.symm hk]

theorem mem_keywords_store {k : Text} :
    k ∈ (script.store form command).preambles.keywords ↔
      form.role = .preamble ∧ form.keyword = k ∨ k ∈ script.preambles.keywords := by
  cases hrole : form.role with
  | action => simp [store, hrole]
  | preamble => simp [store, hrole, Declarations.mem_keywords_set, eq_comm]

def storeAll (script : Script) (commands : List (Form × Command)) : Script :=
  commands.foldl (fun script p => script.store p.1 p.2) script

@[simp] theorem storeAll_nil : script.storeAll [] = script := rfl

@[simp] theorem storeAll_cons (p : Form × Command) (commands : List (Form × Command)) :
    script.storeAll (p :: commands) = (script.store p.1 p.2).storeAll commands := rfl

theorem storeAll_concat (script : Script) (commands : List (Form × Command)) (p : Form × Command) :
    script.storeAll (commands ++ [p]) = (script.storeAll commands).store p.1 p.2 := by
  simp [storeAll]

/-- No command is refused when its turn comes. -/
def Admits (script : Script) (commands : List (Form × Command)) : Prop :=
  ∀ before p after, commands = before ++ p :: after → ¬ (script.storeAll before).Refuses p.1

@[simp] theorem admits_nil : script.Admits [] := by
  intro before p after h
  simp at h

theorem admits_cons_iff {p : Form × Command} {commands : List (Form × Command)} :
    script.Admits (p :: commands) ↔
      ¬ script.Refuses p.1 ∧ (script.store p.1 p.2).Admits commands := by
  constructor
  · intro h
    refine ⟨h [] p commands rfl, fun before q after hsplit => ?_⟩
    exact h (p :: before) q after (by rw [hsplit]; rfl)
  · rintro ⟨hp, h⟩ before q after hsplit
    cases before with
    | nil =>
      obtain ⟨rfl, rfl⟩ := List.cons.inj hsplit
      exact hp
    | cons r before =>
      obtain ⟨rfl, hrest⟩ := List.cons.inj hsplit
      exact h before q after hrest

def addAll (script : Script) (commands : List (Form × Command)) : Run Script :=
  commands.foldlM (fun script p => script.add p.1 p.2) script

theorem outcome_addAll_eq_ok_iff {commands : List (Form × Command)} :
    (script.addAll commands).outcome = .ok script' ↔
      script.Admits commands ∧ script' = script.storeAll commands := by
  induction commands generalizing script with
  | nil => simp [addAll, eq_comm]
  | cons p commands ih =>
    rw [admits_cons_iff, and_assoc, storeAll_cons, ← ih, addAll, List.foldlM_cons,
      Run.outcome_bind_eq_ok_iff]
    constructor
    · rintro ⟨next, hnext, h⟩
      obtain ⟨hrefuses, rfl⟩ := outcome_add_eq_ok_iff.1 hnext
      exact ⟨hrefuses, h⟩
    · rintro ⟨hrefuses, h⟩
      exact ⟨script.store p.1 p.2, outcome_add hrefuses p.2, h⟩

theorem actions_storeAll (script : Script) (commands : List (Form × Command)) :
    (script.storeAll commands).actions =
      script.actions ++ (commands.filter (·.1.role = .action)).map (·.2) := by
  induction commands generalizing script with
  | nil => simp
  | cons p commands ih =>
    rw [storeAll_cons, ih, actions_store]
    by_cases hrole : p.1.role = .action <;> simp [hrole]

/-- Only the commands with a keyword of their own bear on what stands under it. -/
theorem get_storeAll (script : Script) (commands : List (Form × Command)) (k : Text) :
    (script.storeAll commands).preambles.get k =
      (commands.filter fun p => p.1.role = .preamble ∧ p.1.keyword = k).foldl
        (fun group p => p.1.keep group p.2) (script.preambles.get k) := by
  induction commands generalizing script with
  | nil => simp
  | cons p commands ih =>
    rw [storeAll_cons, ih, get_store]
    by_cases hp : p.1.role = .preamble ∧ p.1.keyword = k <;> simp [hp]

theorem mem_keywords_storeAll {commands : List (Form × Command)} {k : Text} :
    k ∈ (script.storeAll commands).preambles.keywords ↔
      (∃ p ∈ commands, p.1.role = .preamble ∧ p.1.keyword = k) ∨ k ∈ script.preambles.keywords := by
  induction commands generalizing script with
  | nil => simp
  | cons p commands ih =>
    rw [storeAll_cons, ih, mem_keywords_store]
    simp only [List.mem_cons, exists_eq_or_imp]
    rw [← or_assoc, or_comm (a := ∃ q ∈ commands, _)]

theorem foldl_keep_of_multi {commands : List (Form × Command)}
    (h : ∀ p ∈ commands, p.1.cardinality = .multi) (group : List Command) :
    commands.foldl (fun group p => p.1.keep group p.2) group = group ++ commands.map (·.2) := by
  induction commands generalizing group with
  | nil => simp
  | cons p commands ih =>
    obtain ⟨hp, hcommands⟩ := List.forall_mem_cons.1 h
    rw [List.foldl_cons, ih hcommands]
    simp [Form.keep, hp]

theorem foldl_keep_of_singleton {commands : List (Form × Command)}
    (h : ∀ p ∈ commands, p.1.cardinality = .singleton) :
    commands.foldl (fun group p => p.1.keep group p.2) [] =
      (commands.map (·.2)).getLast?.toList := by
  rcases List.eq_nil_or_concat commands with rfl | ⟨front, p, rfl⟩
  · rfl
  · have hp : p.1.cardinality = .singleton := h p (by simp)
    simp [Form.keep, hp]

theorem keep_ne_nil (form : Form) (earlier : List Command) (command : Command) :
    form.keep earlier command ≠ [] := by
  cases hcardinality : form.cardinality <;> simp [Form.keep, hcardinality]

theorem get_storeAll_ne_nil_iff {commands : List (Form × Command)} {keyword : Text} :
    ((∅ : Script).storeAll commands).preambles.get keyword ≠ [] ↔
      ∃ p ∈ commands, p.1.role = .preamble ∧ p.1.keyword = keyword := by
  have hexists : (∃ p ∈ commands, p.1.role = .preamble ∧ p.1.keyword = keyword) ↔
      (commands.filter fun p => p.1.role = .preamble ∧ p.1.keyword = keyword) ≠ [] := by
    rw [Ne, List.filter_eq_nil_iff]
    simp
  have hempty : (∅ : Script).preambles.get keyword = [] := rfl
  rw [hexists, get_storeAll, hempty]
  rcases List.eq_nil_or_concat
    (commands.filter fun p => p.1.role = .preamble ∧ p.1.keyword = keyword) with hnil | ⟨front, p, hfront⟩
  · rw [hnil, List.foldl_nil]
    exact iff_of_false (fun h => h rfl) fun h => h rfl
  · rw [hfront, List.concat_eq_append, List.foldl_append]
    exact iff_of_true (keep_ne_nil _ _ _) (by simp)

end Script
end CollectionScript
