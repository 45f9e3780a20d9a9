import CollectionScript.Dictionary

/-! What look-ups say about a dictionary as a whole. -/
namespace CollectionScript
namespace Dictionary

variable {α : Type}

theorem length_insertEntry {k : Text} {l : List (Text × α)} (h : l.lookup k = none) (v : α) :
    (insertEntry k v l).length = l.length + 1 := by
  induction l with
  | nil => rfl
  | cons e r ih =>
    obtain ⟨i, w⟩ := e
    have hne : k ≠ i := by
      rintro rfl
      simp at h
    have hr : r.lookup k = none := by simpa [List.lookup_cons, beq_eq_false_iff_ne.2 hne] using h
    rw [insertEntry]
    split
    · rfl
    · simp [ih hr]

theorem size_insert {d : Dictionary α} {k : Text} (h : d.get? k = none) (v : α) :
    (d.insert k v).size = d.size + 1 := length_insertEntry h v

theorem get?_foldl_insert {l : List (Text × α)} {d : Dictionary α} {k : Text} {v : α}
    (h : (l.foldl (fun d e => d.insert e.1 e.2) d).get? k = some v) :
    (k, v) ∈ l ∨ d.get? k = some v := by
  induction l generalizing d with
  | nil => exact .inr h
  | cons e l ih =>
    rcases ih h with hmem | hd
    · exact .inl (List.mem_cons_of_mem _ hmem)
    · rw [get?_insert] at hd
      split at hd
      · next hk =>
        obtain rfl := Option.some.inj hd
        exact .inl (by simp [hk])
      · exact .inr hd

theorem mem_of_get?_ofList {l : List (Text × α)} {k : Text} {v : α}
    (h : (ofList l).get? k = some v) : (k, v) ∈ l := by
  rcases get?_foldl_insert h with hmem | hempty
  · exact hmem
  · simp at hempty

theorem lookup_of_lt {l : List (Text × α)} {k : Text} (h : ∀ e ∈ l, k < e.1) : l.lookup k = none := by
  rw [List.lookup_eq_none_iff]
  intro e he
  have hne : k ≠ e.1 := fun heq => List.lt_irrefl e.1 (heq ▸ h e he)
  simpa using hne

/-- No key is before the first. -/
theorem not_lt_of_lookup {k k' : Text} {v v' : α} {r r' : List (Text × α)}
    (hr' : ((k', v') :: r').Pairwise (·.1 < ·.1))
    (h : ((k, v) :: r).lookup k = ((k', v') :: r').lookup k) : ¬ k < k' := by
  intro hlt
  have hnone : ((k', v') :: r').lookup k = none := by
    refine lookup_of_lt (List.forall_mem_cons.2 ⟨hlt, fun e he => ?_⟩)
    exact List.lt_trans hlt ((List.pairwise_cons.1 hr').1 e he)
  rw [List.lookup_cons_self, hnone] at h
  cases h

theorem entries_eq_of_lookup {l l' : List (Text × α)} (hl : l.Pairwise (·.1 < ·.1))
    (hl' : l'.Pairwise (·.1 < ·.1)) (h : ∀ k, l.lookup k = l'.lookup k) : l = l' := by
  induction l generalizing l' with
  | nil =>
    cases l' with
    | nil => rfl
    | cons e r =>
      obtain ⟨k, v⟩ := e
      simpa using h k
  | cons e r ih =>
    obtain ⟨k, v⟩ := e
    cases l' with
    | nil => simpa using h k
    | cons e' r' =>
      obtain ⟨k', v'⟩ := e'
      have hkey : k = k' :=
        List.le_antisymm (List.not_lt.1 (not_lt_of_lookup hl (h k').symm))
          (List.not_lt.1 (not_lt_of_lookup hl' (h k)))
      subst hkey
      have hvalue : v = v' := by simpa using h k
      obtain ⟨hk, hr⟩ := List.pairwise_cons.1 hl
      obtain ⟨hk', hr'⟩ := List.pairwise_cons.1 hl'
      have hrest : ∀ j, r.lookup j = r'.lookup j := by
        intro j
        by_cases hj : j = k
        · rw [hj, lookup_of_lt hk, lookup_of_lt hk']
        · simpa [List.lookup_cons, beq_eq_false_iff_ne.2 hj] using h j
      rw [hvalue, ih hr hr' hrest]

theorem ext_get? {d d' : Dictionary α} (h : ∀ k, d.get? k = d'.get? k) : d = d' := by
  obtain ⟨l, hl⟩ := d
  obtain ⟨l', hl'⟩ := d'
  obtain rfl : l = l' := entries_eq_of_lookup hl hl' h
  rfl

end Dictionary
end CollectionScript
