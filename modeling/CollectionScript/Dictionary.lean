import CollectionScript.Text

/-! Dictionaries from texts to values: lists of entries with strictly increasing keys. Two dictionaries
that answer every look-up alike are equal. -/
namespace CollectionScript

structure Dictionary (α : Type) where
  entries : List (Text × α)
  sorted : entries.Pairwise (·.1 < ·.1)

namespace Dictionary

variable {α β : Type}

def empty : Dictionary α := ⟨[], .nil⟩

instance : EmptyCollection (Dictionary α) := ⟨empty⟩

instance : Inhabited (Dictionary α) := ⟨empty⟩

instance [DecidableEq α] : DecidableEq (Dictionary α) := fun d e =>
  decidable_of_iff (d.entries = e.entries) (by cases d; cases e; simp)

def get? (d : Dictionary α) (k : Text) : Option α := d.entries.lookup k

def keys (d : Dictionary α) : List Text := d.entries.map (·.1)

def size (d : Dictionary α) : Nat := d.entries.length

/-- The entry goes before the first greater key and replaces an equal one. -/
def insertEntry (k : Text) (v : α) : List (Text × α) → List (Text × α)
  | [] => [(k, v)]
  | e :: r => if k < e.1 then (k, v) :: e :: r else if k = e.1 then (k, v) :: r
      else e :: insertEntry k v r

theorem mem_insertEntry {k : Text} {v : α} {e : Text × α} {l : List (Text × α)}
    (h : e ∈ insertEntry k v l) : e = (k, v) ∨ e ∈ l := by
  induction l with
  | nil => simpa [insertEntry] using h
  | cons f r ih =>
    rw [insertEntry] at h
    split at h
    · simpa using h
    · split at h
      · rcases List.mem_cons.1 h with h | h <;> simp [h]
      · rcases List.mem_cons.1 h with h | h
        · simp [h]
        · rcases ih h with h | h <;> simp [h]

theorem lt_of_not_lt {a b : Text} (h : ¬ a < b) (hne : a ≠ b) : b < a :=
  Decidable.byContradiction fun h' => hne (List.le_antisymm (List.not_lt.1 h') (List.not_lt.1 h))

theorem pairwise_insertEntry (k : Text) (v : α) {l : List (Text × α)}
    (h : l.Pairwise (·.1 < ·.1)) : (insertEntry k v l).Pairwise (·.1 < ·.1) := by
  induction l with
  | nil => simp [insertEntry]
  | cons e r ih =>
    have ⟨he, hr⟩ := List.pairwise_cons.1 h
    rw [insertEntry]
    split
    · next hk =>
      refine List.pairwise_cons.2 ⟨fun f hf => ?_, h⟩
      rcases List.mem_cons.1 hf with rfl | hf
      · exact hk
      · exact List.lt_trans hk (he f hf)
    · next hk =>
      split
      · next heq => exact List.pairwise_cons.2 ⟨fun f hf => heq ▸ he f hf, hr⟩
      · next hne =>
        refine List.pairwise_cons.2 ⟨fun f hf => ?_, ih hr⟩
        rcases mem_insertEntry hf with rfl | hf
        · exact lt_of_not_lt hk hne
        · exact he f hf

def insert (d : Dictionary α) (k : Text) (v : α) : Dictionary α :=
  ⟨insertEntry k v d.entries, pairwise_insertEntry k v d.sorted⟩

/-- Later entries replace earlier ones of the same key. -/
def ofList (l : List (Text × α)) : Dictionary α := l.foldl (fun d e => d.insert e.1 e.2) ∅

def map (f : α → β) (d : Dictionary α) : Dictionary β :=
  ⟨d.entries.map fun e => (e.1, f e.2), by simpa [List.pairwise_map] using d.sorted⟩

@[simp] theorem get?_empty (k : Text) : (∅ : Dictionary α).get? k = none := rfl

@[simp] theorem keys_empty : (∅ : Dictionary α).keys = [] := rfl

theorem lookup_insertEntry (k j : Text) (v : α) (l : List (Text × α)) :
    (insertEntry k v l).lookup j = if j = k then some v else l.lookup j := by
  induction l with
  | nil => by_cases h : j = k <;> simp [insertEntry, List.lookup_cons, h, beq_eq_false_iff_ne.2]
  | cons e r ih =>
    obtain ⟨i, w⟩ := e
    rw [insertEntry]
    split
    · by_cases h : j = k <;> simp [List.lookup_cons, h, beq_eq_false_iff_ne.2]
    · split
      · next heq =>
        simp only at heq
        subst heq
        by_cases h : j = k <;> simp [List.lookup_cons, h, beq_eq_false_iff_ne.2]
      · next hne =>
        by_cases h : j = i
        · subst h
          simp [Ne.symm hne]
        · simp [List.lookup_cons, beq_eq_false_iff_ne.2 h, ih]

theorem get?_insert (d : Dictionary α) (k j : Text) (v : α) :
    (d.insert k v).get? j = if j = k then some v else d.get? j :=
  lookup_insertEntry k j v d.entries

@[simp] theorem get?_insert_self (d : Dictionary α) (k : Text) (v : α) :
    (d.insert k v).get? k = some v := by simp [get?_insert]

theorem get?_insert_of_ne (d : Dictionary α) {k j : Text} (v : α) (h : j ≠ k) :
    (d.insert k v).get? j = d.get? j := by simp [get?_insert, h]

@[simp] theorem get?_map (f : α → β) (d : Dictionary α) (k : Text) :
    (d.map f).get? k = (d.get? k).map f := by
  obtain ⟨l, hl⟩ := d
  simp only [get?, map]
  clear hl
  induction l with
  | nil => rfl
  | cons e r ih =>
    obtain ⟨i, w⟩ := e
    by_cases h : k = i
    · simp [h]
    · simp [List.lookup_cons, beq_eq_false_iff_ne.2 h, ih]

@[simp] theorem keys_map (f : α → β) (d : Dictionary α) : (d.map f).keys = d.keys := by
  simp [keys, map]

theorem sorted_keys (d : Dictionary α) : d.keys.Pairwise (· < ·) := by
  simpa [keys, List.pairwise_map] using d.sorted

theorem mem_keys_iff {d : Dictionary α} {k : Text} : k ∈ d.keys ↔ (d.get? k).isSome := by
  obtain ⟨l, hl⟩ := d
  simp only [get?, keys]
  clear hl
  induction l with
  | nil => simp
  | cons e r ih =>
    obtain ⟨i, w⟩ := e
    by_cases h : k = i
    · simp [h]
    · simp [List.lookup_cons, beq_eq_false_iff_ne.2 h, ← ih, h]

@[simp] theorem length_keys (d : Dictionary α) : d.keys.length = d.size := by
  simp [keys, size]

end Dictionary
end CollectionScript
