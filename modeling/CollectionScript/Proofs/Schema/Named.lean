import CollectionScript.Proofs.Schema.Supplying

/-! Giving every value by name. The arguments then go where their names say, and the order of the
parameters in the schema does not matter. -/
namespace CollectionScript

def Argument.named (field : Text × Text) : Argument := .written (field.1 ++ ':' :: field.2)

namespace Schema

structure Fits (schema : Schema) (fields : List (Text × Text)) : Prop where
  ne_nil : fields ≠ []
  distinct : (fields.map (·.1)).Nodup
  declared : ∀ field ∈ fields, ':' ∉ field.1 ∧ ∃ p ∈ schema.parameters, p.name = field.1
  required : ∀ p ∈ schema.parameters, p.isRequired = true → p.name ∈ fields.map (·.1)

variable {schema : Schema} {fields : List (Text × Text)}

theorem Fits.target (h : schema.Fits fields) {field : Text × Text} (hfield : field ∈ fields) :
    schema.Target (.named field) field.1 field.2 := by
  obtain ⟨hcolon, p, hp, hname⟩ := h.declared field hfield
  have hnames : schema.Names (.written (p.name ++ ':' :: field.2)) p.name field.2 :=
    .intro hp (hname ▸ hcolon)
  rw [hname] at hnames
  exact .named hnames

theorem Fits.supplies (h : schema.Fits fields) : schema.Supplies (fields.map .named) fields :=
  List.forall₂_map_left_iff.2 (List.forall₂_same.2 fun _ hfield => h.target hfield)

theorem Fits.bind (h : schema.Fits fields) (command : Text) :
    ∃ bindings, (schema.bind command (fields.map .named)).outcome = .ok bindings ∧
      bindings.command = command ∧ ∀ name, bindings.get? name = fields.lookup name :=
  h.supplies.bind (.refl _) h.ne_nil h.distinct h.required command

end Schema
end CollectionScript
