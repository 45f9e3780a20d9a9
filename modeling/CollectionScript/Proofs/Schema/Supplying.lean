import CollectionScript.Proofs.Schema.Reordering

/-! What the parameters of a schema are supplied with. If the arguments are for different parameters, the required
ones among them, then these are bound to their values, however an argument says which parameter it is for, and
in whatever order the arguments stand. -/
namespace CollectionScript
namespace Schema

def Supplies (schema : Schema) (arguments : List Argument) (fields : List (Text × Text)) : Prop :=
  List.Forall₂ (fun a field => schema.Target a field.1 field.2) arguments fields

variable {schema : Schema} {arguments : List Argument} {fields : List (Text × Text)}

theorem Supplies.names_eq (h : schema.Supplies arguments fields) :
    schema.names arguments = fields.map (·.1) := by
  induction h with
  | nil => rfl
  | cons ha _ ih =>
    rw [List.map_cons, ← ih]
    exact List.filterMap_cons_some (name?_eq_some_iff.2 ⟨_, ha⟩)

theorem Supplies.exists_target_iff (h : schema.Supplies arguments fields) {name value : Text} :
    (∃ a ∈ arguments, schema.Target a name value) ↔ (name, value) ∈ fields := by
  induction h with
  | nil => simp
  | @cons a field arguments fields ha _ ih =>
    have hhead : schema.Target a name value ↔ (name, value) = field := by
      constructor
      · intro htarget
        exact Prod.ext (htarget.unique ha).1 (htarget.unique ha).2
      · rintro rfl
        exact ha
    simp [hhead, ih]

theorem Supplies.placed (h : schema.Supplies arguments fields) (hdistinct : (fields.map (·.1)).Nodup) :
    schema.Placed arguments := by
  rw [placed_iff, h.names_eq, List.length_map, List.Forall₂.length_eq h]
  exact ⟨rfl, hdistinct⟩

theorem Supplies.complete (h : schema.Supplies arguments fields) (hne : fields ≠ [])
    (hrequired : ∀ p ∈ schema.parameters, p.isRequired = true → p.name ∈ fields.map (·.1)) (p : Parameter) :
    ¬ schema.Lacks arguments p := by
  have hne' : arguments ≠ [] := by
    rintro rfl
    cases h
    exact hne rfl
  rintro (_ | _ | ⟨_, hsplit, hp, hnone, _⟩)
  · exact hne' rfl
  · exact hne' rfl
  · have hname := hrequired p (by simp [hsplit]) hp
    rw [← h.names_eq, mem_names_iff] at hname
    obtain ⟨a, ha, value, htarget⟩ := hname
    exact hnone a ha value htarget

theorem lookup_eq_some_iff_of_nodup (h : (fields.map (·.1)).Nodup) {name value : Text} :
    fields.lookup name = some value ↔ (name, value) ∈ fields := by
  induction fields with
  | nil => simp
  | cons field fields ih =>
    obtain ⟨n, v⟩ := field
    obtain ⟨hn, hfields⟩ := List.nodup_cons.1 h
    by_cases hname : name = n
    · subst hname
      have hnot : (name, value) ∉ fields := fun hmem => hn (List.mem_map.2 ⟨_, hmem, rfl⟩)
      simp [hnot, eq_comm]
    · rw [List.lookup_cons, beq_eq_false_iff_ne.2 hname, ih hfields]
      simp [hname]

theorem Supplies.bind {supplied : List Argument} (h : schema.Supplies supplied fields)
    (hperm : arguments.Perm supplied) (hne : fields ≠ []) (hdistinct : (fields.map (·.1)).Nodup)
    (hrequired : ∀ p ∈ schema.parameters, p.isRequired = true → p.name ∈ fields.map (·.1)) (command : Text) :
    ∃ bindings, (schema.bind command arguments).outcome = .ok bindings ∧
      bindings.command = command ∧ ∀ name, bindings.get? name = fields.lookup name := by
  have hplaced := h.placed hdistinct
  obtain ⟨bound, hholds, hbind⟩ := bind_of_complete command hplaced (h.complete hne hrequired)
  rw [hplaced.outcome_bind_perm hperm.symm] at hbind
  refine ⟨⟨command, bound⟩, hbind, rfl, fun name => Option.ext fun value => ?_⟩
  rw [Bindings.get?, hholds.get?_iff, h.exists_target_iff, lookup_eq_some_iff_of_nodup hdistinct]

end Schema
end CollectionScript
