import CollectionScript.Proofs.Run
import CollectionScript.Schema

/-! Which schemas are valid. The check goes through the parameters once, with the names that it has seen;
what it accepts is said here without any order. -/
namespace CollectionScript
namespace Schema

/-- Every parameter can be told by its name, and one of them at most is the default. -/
structure WellFormed (schema : Schema) : Prop where
  names : ∀ p ∈ schema.parameters, p.name ≠ [] ∧ ':' ∉ p.name
  distinct : (schema.parameters.map (·.name)).Nodup
  default : (schema.parameters.filter (·.isDefault)).length ≤ 1

theorem wellFormed_iff {schema : Schema} :
    schema.WellFormed ↔ (∀ p ∈ schema.parameters, p.name ≠ [] ∧ ':' ∉ p.name) ∧
      (schema.parameters.map (·.name)).Nodup ∧ (schema.parameters.filter (·.isDefault)).length ≤ 1 :=
  ⟨fun h => ⟨h.names, h.distinct, h.default⟩, fun h => ⟨h.1, h.2.1, h.2.2⟩⟩

instance (schema : Schema) : Decidable schema.WellFormed := decidable_of_iff' _ wellFormed_iff

/-- The names seen before are those that none of the parameters may have. -/
theorem nameFault?_eq_none_iff {seen : List Text} {ps : List Parameter} :
    nameFault? seen ps = none ↔ (∀ p ∈ ps, p.name ≠ [] ∧ ':' ∉ p.name) ∧
      (ps.map (·.name)).Nodup ∧ ∀ p ∈ ps, p.name ∉ seen := by
  induction ps generalizing seen with
  | nil => simp [nameFault?]
  | cons p ps ih =>
    rw [nameFault?]
    by_cases hname : p.name = [] ∨ ':' ∈ p.name
    · have hbad : ¬ (p.name ≠ [] ∧ ':' ∉ p.name) := fun h => hname.elim h.1 h.2
      simp [hname, hbad]
    · have hgood : p.name ≠ [] ∧ ':' ∉ p.name := not_or.1 hname
      by_cases hseen : p.name ∈ seen
      · simp [hname, hseen]
      · rw [if_neg hname, if_neg hseen, ih, List.forall_mem_cons, List.forall_mem_cons, List.map_cons,
          List.nodup_cons]
        constructor
        · rintro ⟨hnames, hdistinct, hfresh⟩
          have hp : p.name ∉ ps.map (·.name) := by
            intro hmem
            obtain ⟨q, hq, hqp⟩ := List.mem_map.1 hmem
            exact hfresh q hq (hqp ▸ List.mem_cons_self)
          exact ⟨⟨hgood, hnames⟩, ⟨hp, hdistinct⟩, hseen, fun q hq hmem => hfresh q hq (List.mem_cons_of_mem _ hmem)⟩
        · rintro ⟨⟨-, hnames⟩, ⟨hp, hdistinct⟩, -, hps⟩
          refine ⟨hnames, hdistinct, fun q hq hmem => ?_⟩
          rcases List.mem_cons.1 hmem with hqp | hmem
          · exact hp (List.mem_map.2 ⟨q, hq, hqp⟩)
          · exact hps q hq hmem

theorem defaultFault?_eq_none_iff {schema : Schema} :
    schema.defaultFault? = none ↔ (schema.parameters.filter (·.isDefault)).length ≤ 1 := by
  rw [defaultFault?, List.countP_eq_length_filter]
  by_cases h : (schema.parameters.filter (·.isDefault)).length ≤ 1 <;> simp [h]

theorem validate_eq_ok_iff {schema : Schema} {command : Text} :
    schema.validate command = .ok () ↔ schema.WellFormed := by
  have hnone : (nameFault? [] schema.parameters).or schema.defaultFault? = none ↔ schema.WellFormed := by
    rw [Option.or_eq_none_iff, nameFault?_eq_none_iff, defaultFault?_eq_none_iff, wellFormed_iff]
    simp [and_assoc]
  rw [← hnone, validate]
  cases (nameFault? [] schema.parameters).or schema.defaultFault? <;> simp

theorem validate_of_not_wellFormed {schema : Schema} (h : ¬ schema.WellFormed) (command : Text) :
    ∃ reason, schema.validate command = .error (.invalidSchema command reason) := by
  have hrefused : schema.validate command ≠ .ok () := fun hok => h (validate_eq_ok_iff.1 hok)
  rw [validate] at hrefused ⊢
  cases hreason : (nameFault? [] schema.parameters).or schema.defaultFault? with
  | none => exact absurd (by rw [hreason]) hrefused
  | some reason => exact ⟨reason, rfl⟩

end Schema
end CollectionScript
