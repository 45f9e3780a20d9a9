import CollectionScript.Proofs.Script.Storage

/-! How many commands a script holds. The commands under the other keywords stay when those under one are
set anew, so storing one command adds at most one, whatever it replaces. -/
namespace CollectionScript

/-- A group that is inserted counts in place of the one that stood under its key. -/
theorem Dictionary.length_flatMap_insertEntry {α : Type} {k : Text} {l : List (Text × List α)}
    (hl : l.Pairwise (·.1 < ·.1)) (group : List α) :
    ((insertEntry k group l).flatMap (·.2)).length + ((l.lookup k).getD []).length =
      (l.flatMap (·.2)).length + group.length := by
  induction l with
  | nil => simp [insertEntry]
  | cons e r ih =>
    obtain ⟨i, earlier⟩ := e
    obtain ⟨hi, hr⟩ := List.pairwise_cons.1 hl
    rw [insertEntry]
    split
    · next hlt =>
      have hnone : ((i, earlier) :: r).lookup k = none :=
        lookup_of_lt (List.forall_mem_cons.2 ⟨hlt, fun e he => List.lt_trans hlt (hi e he)⟩)
      rw [hnone]
      simp only [List.flatMap_cons, List.length_append, Option.getD_none, List.length_nil]
      omega
    · split
      · next heq =>
        obtain rfl : k = i := heq
        simp only [List.lookup_cons_self, Option.getD_some, List.flatMap_cons, List.length_append]
        omega
      · next hne =>
        have hrest := ih hr
        rw [List.lookup_cons, beq_eq_false_iff_ne.2 hne]
        simp only [List.flatMap_cons, List.length_append]
        omega

namespace Declarations

/-- All that is declared, keyword by keyword. -/
def commands (declarations : Declarations) : List Command := declarations.groups.entries.flatMap (·.2)

theorem length_commands_set (declarations : Declarations) (keyword : Text) (commands : List Command) :
    (declarations.set keyword commands).commands.length + (declarations.get keyword).length =
      declarations.commands.length + commands.length :=
  Dictionary.length_flatMap_insertEntry declarations.groups.sorted commands

end Declarations

theorem Form.length_keep_le (form : Form) (earlier : List Command) (command : Command) :
    (form.keep earlier command).length ≤ earlier.length + 1 := by
  rw [keep]
  cases form.cardinality <;> simp

namespace Script

/-- All commands of a script: the preambles by keyword, and the actions. -/
def commands (script : Script) : List Command :=
  script.preambles.groups.entries.flatMap (·.2) ++ script.actions

variable {script : Script} {form : Form} {command : Command}

theorem length_commands_store_le (script : Script) (form : Form) (command : Command) :
    (script.store form command).commands.length ≤ script.commands.length + 1 := by
  cases hrole : form.role with
  | action => simp [store, hrole, commands, Nat.add_assoc]
  | preamble =>
    have hkeep := form.length_keep_le (script.preambles.get form.keyword) command
    have hset := script.preambles.length_commands_set form.keyword
      (form.keep (script.preambles.get form.keyword) command)
    rw [Declarations.commands, Declarations.commands] at hset
    simp only [store, hrole, commands, List.length_append]
    omega

theorem length_commands_storeAll_le (script : Script) (commands : List (Form × Command)) :
    (script.storeAll commands).commands.length ≤ script.commands.length + commands.length := by
  induction commands generalizing script with
  | nil => exact Nat.le_refl _
  | cons p commands ih =>
    have hfirst := script.length_commands_store_le p.1 p.2
    have hrest := ih (script.store p.1 p.2)
    rw [storeAll_cons, List.length_cons]
    omega

end Script
end CollectionScript
