import CollectionScript.Form.Builtin
import CollectionScript.Proofs.Script.Storage
import CollectionScript.Proofs.Text.Order

/-! The declarations as a table that is changed in place, call after call. A call makes room under its keyword
before it knows whether it is refused; but only what stands there already can have it refused, so that a refusal
changes nothing in any table. That no keyword is ever left without a command is a property of the tables that
calls lead to, and not of all tables. -/
namespace CollectionScript
namespace Declarations

variable {declarations : Declarations} {form : Form} {keyword : Text}

/-- The table with room under the keyword, empty if there was none. -/
def reserve (declarations : Declarations) (keyword : Text) : Declarations :=
  declarations.set keyword (declarations.get keyword)

def clear (declarations : Declarations) (keyword : Text) : Declarations := declarations.set keyword []

def push (declarations : Declarations) (keyword : Text) (command : Command) : Declarations :=
  declarations.set keyword (declarations.get keyword ++ [command])

/-- What a call logs and how it ends, and the table that it leaves behind even if it is refused. -/
def insert (declarations : Declarations) (form : Form) (command : Command) : Run Unit × Declarations :=
  let reserved := declarations.reserve form.keyword
  if form.cardinality = .singleton ∧ reserved.get form.keyword ≠ [] then
    match form.redeclare with
    | .reject => (Run.fail (.duplicateCommand form.keyword), reserved)
    | .overwrite =>
      (Run.emit (.overwriting form.keyword), (reserved.clear form.keyword).push form.keyword command)
  else (pure (), reserved.push form.keyword command)

def Occupied (declarations : Declarations) : Prop :=
  ∀ keyword, declarations.groups.get? keyword ≠ some []

/-- What one call does to the table, given the outcome and the events of its run and the table after it. -/
structure Settles (table : Declarations) (form : Form) (command : Command) (run : Run Unit)
    (table' : Declarations) : Prop where
  fails_iff : (∃ e, run.outcome = .error e) ↔
    form.cardinality = .singleton ∧ form.redeclare = .reject ∧ table.get form.keyword ≠ []
  refused {e : Error} (h : run.outcome = .error e) : e = .duplicateCommand form.keyword ∧ table' = table
  own (h : run.outcome = .ok ()) : table'.get form.keyword =
    match form.cardinality with
    | .singleton => [command]
    | .multi => table.get form.keyword ++ [command]
  others (h : run.outcome = .ok ()) {keyword : Text} (hne : keyword ≠ form.keyword) :
    table'.groups.get? keyword = table.groups.get? keyword
  /-- The loss of what stood there before is all that is logged. -/
  events_eq : run.events =
    if run.outcome = .ok () ∧ form.cardinality = .singleton ∧ table.get form.keyword ≠ [] then
      [.overwriting form.keyword]
    else []
  /-- Where the table is handed on, it is this one. -/
  declare_eq : table.declare form command = run >>= fun _ => pure table'

/-- What holds of a table that calls lead to, and of any call that comes next. -/
structure Regular (table : Declarations) : Prop where
  occupied : table.Occupied
  mem_keywords_iff (keyword : Text) : keyword ∈ table.keywords ↔ table.get keyword ≠ []
  increasing : (table.keywords.map Text.bytes).Pairwise (· < ·)
  size_eq : table.size = table.keywords.length
  settles (form : Form) (command : Command) :
    table.Settles form command (table.insert form command).1 (table.insert form command).2

def insertAll (declarations : Declarations) (calls : List (Form × Command)) : Declarations :=
  calls.foldl (fun table call => (table.insert call.1 call.2).2) declarations

theorem set_set (declarations : Declarations) (keyword : Text) (commands commands' : List Command) :
    (declarations.set keyword commands).set keyword commands' = declarations.set keyword commands' := by
  refine congrArg Declarations.mk (Dictionary.ext_get? fun k => ?_)
  simp only [set, Dictionary.get?_insert]
  split <;> rfl

@[simp] theorem get_set_self (declarations : Declarations) (keyword : Text) (commands : List Command) :
    (declarations.set keyword commands).get keyword = commands := by
  simp [get_set]

@[simp] theorem get_reserve (declarations : Declarations) (keyword k : Text) :
    (declarations.reserve keyword).get k = declarations.get k := by
  rw [reserve, get_set]
  split
  · next hk => rw [hk]
  · rfl

theorem reserve_of_ne_nil (h : declarations.get keyword ≠ []) : declarations.reserve keyword = declarations := by
  have hroom : declarations.groups.get? keyword = some (declarations.get keyword) := by
    cases hgroup : declarations.groups.get? keyword with
    | none => exact absurd (by simp [get, hgroup]) h
    | some group => simp [get, hgroup]
  refine congrArg Declarations.mk (Dictionary.ext_get? fun k => ?_)
  rw [Dictionary.get?_insert]
  split
  · next hk => rw [hk, hroom]
  · rfl

theorem push_reserve (declarations : Declarations) (keyword : Text) (command : Command) :
    (declarations.reserve keyword).push keyword command = declarations.push keyword command := by
  rw [push, get_reserve, reserve, set_set, push]

theorem push_clear (declarations : Declarations) (keyword : Text) (command : Command) :
    (declarations.clear keyword).push keyword command = declarations.set keyword [command] := by
  rw [push, clear, set_set, get_set_self, List.nil_append]

theorem insert_of_refuses (h : declarations.Refuses form) (command : Command) :
    declarations.insert form command = (Run.fail (.duplicateCommand form.keyword), declarations) := by
  obtain ⟨hcardinality, hredeclare, hearlier⟩ := h
  have hclash : form.cardinality = .singleton ∧
      (declarations.reserve form.keyword).get form.keyword ≠ [] := ⟨hcardinality, by simpa using hearlier⟩
  rw [insert, if_pos hclash, hredeclare, reserve_of_ne_nil hearlier]

/-- A call that is not refused stores the command, and says so where another one is lost. -/
theorem insert_of_not_refuses (h : ¬ declarations.Refuses form) (command : Command) :
    declarations.insert form command =
      (if form.cardinality = .singleton ∧ declarations.get form.keyword ≠ [] then
        Run.emit (.overwriting form.keyword) else pure (),
        declarations.set form.keyword (form.keep (declarations.get form.keyword) command)) := by
  rw [insert, get_reserve]
  by_cases hclash : form.cardinality = .singleton ∧ declarations.get form.keyword ≠ []
  · have hredeclare : form.redeclare = .overwrite := by
      cases hpolicy : form.redeclare with
      | overwrite => rfl
      | reject => exact absurd ⟨hclash.1, hpolicy, hclash.2⟩ h
    rw [if_pos hclash, if_pos hclash, hredeclare, push_clear, reserve, set_set, Form.keep, hclash.1]
  · rw [if_neg hclash, if_neg hclash, push_reserve, push, Form.keep]
    cases hcardinality : form.cardinality with
    | multi => rfl
    | singleton =>
      have hearlier : declarations.get form.keyword = [] :=
        Classical.byContradiction fun hne => hclash ⟨hcardinality, hne⟩
      rw [hearlier, List.nil_append]

theorem declare_eq_insert (declarations : Declarations) (form : Form) (command : Command) :
    declarations.declare form command =
      (declarations.insert form command).1 >>= fun _ => pure (declarations.insert form command).2 := by
  by_cases h : declarations.Refuses form
  · rw [declare_of_refuses h, insert_of_refuses h, Run.bind_of_error (Run.outcome_fail _)]
    rfl
  · rw [insert_of_not_refuses h]
    cases hcardinality : form.cardinality with
    | multi => simp [declare, Form.keep, hcardinality, Run.bind_eq, Run.bind]
    | singleton =>
      by_cases hearlier : declarations.get form.keyword = []
      · simp [declare, Form.keep, hcardinality, hearlier, Run.bind_eq, Run.bind]
      · cases hredeclare : form.redeclare with
        | reject => exact absurd ⟨hcardinality, hredeclare, hearlier⟩ h
        | overwrite =>
          simp [declare, Form.keep, hcardinality, hearlier, hredeclare]

theorem occupied_empty : (∅ : Declarations).Occupied := fun _ h => Option.some_ne_none _ h.symm

theorem Occupied.set (h : declarations.Occupied) (keyword : Text) {commands : List Command}
    (hcommands : commands ≠ []) : (declarations.set keyword commands).Occupied := by
  intro k hk
  rw [Declarations.set, Dictionary.get?_insert] at hk
  split at hk
  · exact hcommands (Option.some.inj hk)
  · exact h k hk

/-- Room that a call makes is filled by the end of the call. -/
theorem Occupied.insert (h : declarations.Occupied) (form : Form) (command : Command) :
    (declarations.insert form command).2.Occupied := by
  by_cases hrefuses : declarations.Refuses form
  · rw [insert_of_refuses hrefuses]
    exact h
  · rw [insert_of_not_refuses hrefuses]
    exact h.set form.keyword (Script.keep_ne_nil form _ command)

theorem Occupied.insertAll (h : declarations.Occupied) (calls : List (Form × Command)) :
    (declarations.insertAll calls).Occupied := by
  induction calls generalizing declarations with
  | nil => exact h
  | cons call calls ih => exact ih (h.insert call.1 call.2)

theorem Occupied.mem_keywords_iff (h : declarations.Occupied) :
    keyword ∈ declarations.keywords ↔ declarations.get keyword ≠ [] := by
  rw [keywords, Dictionary.mem_keys_iff, get]
  have hroom := h keyword
  cases hgroup : declarations.groups.get? keyword with
  | none => simp
  | some group =>
    rw [hgroup] at hroom
    simpa using fun hnil => hroom (congrArg some hnil)

theorem settles_insert (table : Declarations) (form : Form) (command : Command) :
    table.Settles form command (table.insert form command).1 (table.insert form command).2 := by
  have hdeclare := table.declare_eq_insert form command
  by_cases h : table.Refuses form
  · rw [insert_of_refuses h] at hdeclare ⊢
    exact {
      fails_iff := ⟨fun _ => h, fun _ => ⟨_, rfl⟩⟩
      refused := fun he => ⟨(Except.error.inj he).symm, rfl⟩
      own := fun hok => by cases hok
      others := fun hok => by cases hok
      events_eq := by simp [Run.fail]
      declare_eq := hdeclare }
  · rw [insert_of_not_refuses h] at hdeclare ⊢
    have hok : (if form.cardinality = .singleton ∧ table.get form.keyword ≠ [] then
        Run.emit (.overwriting form.keyword) else pure () : Run Unit).outcome = .ok () := by
      split <;> rfl
    exact {
      fails_iff := iff_of_false (fun ⟨e, he⟩ => by rw [hok] at he; cases he) h
      refused := fun he => by rw [hok] at he; cases he
      own := fun _ => by
        rw [get_set_self, Form.keep]
        cases form.cardinality <;> rfl
      others := fun _ {keyword} hne => Dictionary.get?_insert_of_ne _ _ hne
      events_eq := by
        simp only [hok, true_and]
        split <;> rfl
      declare_eq := hdeclare }

/-- Whatever the calls were, refused ones among them, the table is regular, and so is the next call. -/
theorem regular_insertAll (calls : List (Form × Command)) :
    ((∅ : Declarations).insertAll calls).Regular where
  occupied := occupied_empty.insertAll calls
  mem_keywords_iff _ := (occupied_empty.insertAll calls).mem_keywords_iff
  increasing := by
    rw [List.pairwise_map]
    exact (Dictionary.sorted_keys _).imp Text.bytes_lt_iff.2
  size_eq := (Dictionary.length_keys _).symm
  settles := settles_insert _

-- A list that a singleton empties, a refusal that leaves it alone, and the list again.
example :
    let once : Form := { Form.output with keyword := "ENV" }
    let calls : List (Form × Command) := [(.exports, .exports []), (once, .output "a"),
      ({ once with redeclare := .reject }, .output "b"), (.exports, .exports [])]
    ((∅ : Declarations).insertAll calls).get "ENV" = [.output "a", .exports []] := by decide

end Declarations
end CollectionScript
