import CollectionScript.Proofs.Script.Storage

/-! Adding a command to a script, its event included. A singleton that is declared already clashes with
its earlier declaration, and the policy of its form decides; any other command is just stored. So there is
a warning where an earlier declaration is lost, and nowhere else. -/
namespace CollectionScript
namespace Script

variable {script : Script} {form : Form}

def Clashes (script : Script) (form : Form) : Prop :=
  form.role = .preamble ∧ form.cardinality = .singleton ∧ script.preambles.get form.keyword ≠ []

/-- Of the preambles of the keyword, `next` does not have all that the script has beside the command. -/
def Loses (script next : Script) (form : Form) (command : Command) : Prop :=
  form.role = .preamble ∧
    next.preambles.get form.keyword ≠ script.preambles.get form.keyword ++ [command]

instance (script next : Script) (form : Form) (command : Command) :
    Decidable (script.Loses next form command) := inferInstanceAs (Decidable (_ ∧ _))

def warnings (script next : Script) (form : Form) (command : Command) : List Event :=
  if script.Loses next form command then [.overwriting form.keyword] else []

theorem refuses_iff : script.Refuses form ↔ script.Clashes form ∧ form.redeclare = .reject := by
  simp only [Refuses, Declarations.Refuses, Clashes]
  constructor
  · rintro ⟨hrole, hcardinality, hreject, hearlier⟩
    exact ⟨⟨hrole, hcardinality, hearlier⟩, hreject⟩
  · rintro ⟨⟨hrole, hcardinality, hearlier⟩, hreject⟩
    exact ⟨hrole, hcardinality, hreject, hearlier⟩

theorem add_of_not_clashes (h : ¬ script.Clashes form) (command : Command) :
    script.add form command = pure (script.store form command) := by
  cases hrole : form.role with
  | action => simp only [add, store, hrole]
  | preamble =>
    cases hcardinality : form.cardinality with
    | multi =>
      simp only [add, store, Declarations.declare, Form.keep, hrole, hcardinality, pure_bind]
    | singleton =>
      have hearlier : script.preambles.get form.keyword = [] :=
        Classical.byContradiction fun hne => h ⟨hrole, hcardinality, hne⟩
      simp only [add, store, Declarations.declare, Form.keep, hrole, hcardinality, hearlier,
        List.isEmpty_nil, if_true, pure_bind]

theorem add_of_clashes (h : script.Clashes form) (command : Command) :
    script.add form command =
      match form.redeclare with
      | .reject => Run.fail (.duplicateCommand form.keyword)
      | .overwrite => Run.emit (.overwriting form.keyword) >>= fun _ =>
          pure (script.store form command) := by
  obtain ⟨hrole, hcardinality, hearlier⟩ := h
  have hempty : (script.preambles.get form.keyword).isEmpty = false := by simpa using hearlier
  cases hredeclare : form.redeclare <;>
    simp only [add, store, Declarations.declare, Form.keep, hrole, hcardinality, hempty, hredeclare,
      Bool.false_eq_true, if_false, bind_assoc, pure_bind]
  rfl

/-- What clashes is lost, and nothing else is. -/
theorem loses_store_iff {command : Command} :
    script.Loses (script.store form command) form command ↔ script.Clashes form := by
  rw [Loses, Clashes]
  refine and_congr_right fun hrole => ?_
  rw [get_store, if_pos ⟨hrole, rfl⟩]
  cases hcardinality : form.cardinality <;> simp [Form.keep, hcardinality]

theorem events_add_of_ok {next : Script} {command : Command}
    (h : (script.add form command).outcome = .ok next) :
    (script.add form command).events = script.warnings next form command := by
  obtain ⟨hrefuses, rfl⟩ := outcome_add_eq_ok_iff.1 h
  rw [warnings]
  by_cases hclash : script.Clashes form
  · rw [if_pos (loses_store_iff.2 hclash), add_of_clashes hclash]
    cases hredeclare : form.redeclare with
    | reject => exact absurd (refuses_iff.2 ⟨hclash, hredeclare⟩) hrefuses
    | overwrite => rfl
  · rw [if_neg (mt loses_store_iff.1 hclash), add_of_not_clashes hclash]
    rfl

theorem events_add_of_error {e : Error} {command : Command}
    (h : (script.add form command).outcome = .error e) : (script.add form command).events = [] := by
  have hrefuses : script.Refuses form := Classical.byContradiction fun hnot => by
    rw [outcome_add hnot] at h
    cases h
  obtain ⟨hclash, hreject⟩ := refuses_iff.1 hrefuses
  rw [add_of_clashes hclash, hreject]
  rfl

end Script
end CollectionScript
