import CollectionScript.Proofs.Word.Grammar

/-! Writing words so that they are read back: any text may stand between double quotes if a backslash
stands before each double quote and each backslash of it. -/
namespace CollectionScript
namespace Word

def escape : Text → Text
  | [] => []
  | c :: t => if c = '"' ∨ c = '\\' then '\\' :: c :: escape t else c :: escape t

def quote (t : Text) : Text := '"' :: (escape t ++ ['"'])

inductive QuotedLine : List Text → Text → Prop
  | last (word : Text) : QuotedLine [word] (quote word)
  | cons {gap t : Text} {ws : List Text} (word : Text) (hne : gap ≠ []) (hgap : ∀ c ∈ gap, c = ' ')
    (h : QuotedLine ws t) : QuotedLine (word :: ws) (quote word ++ (gap ++ t))

def quoteAll (ws : List Text) : Text := [' '].intercalate (ws.map quote)

def Plain (t : Text) : Prop := ∀ c ∈ t, Text.isBlank c = false ∧ c ≠ '\'' ∧ c ≠ '"'

instance (t : Text) : Decidable (Plain t) := List.decidableBAll _ t

theorem body_escape (t : Text) : Body (escape t) t := by
  induction t with
  | nil => exact .nil
  | cons c t ih =>
    rw [escape]
    by_cases hc : c = '"' ∨ c = '\\'
    · rw [if_pos hc]
      exact .escape hc ih
    · rw [if_neg hc]
      have hquote : c ≠ '"' := fun h => hc (.inl h)
      have hslash : c ≠ '\\' := fun h => hc (.inr h)
      exact .plain hquote hslash ih

theorem segment_quote (t : Text) : Segment (quote t) t := .double (body_escape t)

theorem spells_quote (t : Text) : Spells (quote t) t := by
  have hquote : Spells (quote t ++ []) (t ++ []) := .intro (segment_quote t) .nil
  simpa using hquote

theorem QuotedLine.spaced {ws : List Text} {t : Text} (h : QuotedLine ws t) : Spaced t ws := by
  induction h with
  | last word => exact .last (spells_quote word)
  | cons word hne hgap _ ih =>
    refine .cons (spells_quote word) hne (fun c hc => ?_) ih
    rw [hgap c hc]
    decide

theorem quotedLine_quoteAll {ws : List Text} (hne : ws ≠ []) : QuotedLine ws (quoteAll ws) := by
  induction ws with
  | nil => exact absurd rfl hne
  | cons word ws ih =>
    cases ws with
    | nil =>
      rw [quoteAll, List.map_singleton, List.intercalate_singleton]
      exact .last word
    | cons next ws =>
      rw [quoteAll, List.map_cons, List.map_cons, List.intercalate_cons_cons, List.append_assoc]
      exact .cons word (List.cons_ne_nil _ _) (fun c hc => List.mem_singleton.1 hc) (ih (List.cons_ne_nil _ _))

theorem QuotedLine.head?_eq {ws : List Text} {t : Text} (h : QuotedLine ws t) : t.head? = some '"' := by
  cases h <;> rfl

theorem mem_of_mem_escape {c : Char} {t : Text} (h : c ∈ escape t) : c = '\\' ∨ c ∈ t := by
  induction t with
  | nil => cases h
  | cons d t ih =>
    rw [escape] at h
    split at h
    · rcases List.mem_cons.1 h with rfl | h
      · exact .inl rfl
      · rcases List.mem_cons.1 h with rfl | h
        · exact .inr List.mem_cons_self
        · exact (ih h).imp_right (List.mem_cons_of_mem _)
    · rcases List.mem_cons.1 h with rfl | h
      · exact .inr List.mem_cons_self
      · exact (ih h).imp_right (List.mem_cons_of_mem _)

/-- Quoting adds quotes and backslashes only. -/
theorem mem_of_mem_quote {c : Char} {t : Text} (h : c ∈ quote t) :
    c = '"' ∨ c = '\\' ∨ c ∈ t := by
  rcases List.mem_cons.1 h with rfl | h
  · exact .inl rfl
  · rcases List.mem_append.1 h with h | h
    · exact .inr (mem_of_mem_escape h)
    · exact .inl (List.mem_singleton.1 h)

theorem getLast?_quote (t : Text) : (quote t).getLast? = some '"' := by
  rw [quote, ← List.cons_append, List.getLast?_concat]

theorem Plain.segments {t : Text} (h : Plain t) : Segments t t := by
  induction t with
  | nil => exact .nil
  | cons c t ih =>
    obtain ⟨⟨hblank, hsingle, hdouble⟩, ht⟩ := List.forall_mem_cons.1 h
    have hc : Segment [c] [c] := .bare hblank hsingle hdouble
    have hs : Segments ([c] ++ t) ([c] ++ t) := .cons hc (ih ht)
    exact hs

theorem Plain.spells {t : Text} (h : Plain t) (hne : t ≠ []) : Spells t t := h.segments.spells hne

theorem Plain.spells_append_quote {t : Text} (h : Plain t) (value : Text) :
    Spells (t ++ quote value) (t ++ value) := by
  have hquote : Segments (quote value ++ []) (value ++ []) := .cons (segment_quote value) .nil
  rw [List.append_nil, List.append_nil] at hquote
  have hne : t ++ quote value ≠ [] := List.append_ne_nil_of_right_ne_nil t (List.cons_ne_nil _ _)
  exact (h.segments.append hquote).spells hne

theorem Spells.spaced {w v : Text} (h : Spells w v) {ws : List (Text × Text)}
    (hs : ∀ p ∈ ws, Spells p.1 p.2) :
    Spaced (w ++ ws.flatMap fun p => ' ' :: p.1) (v :: ws.map (·.2)) := by
  induction ws generalizing w v with
  | nil =>
    rw [List.flatMap_nil, List.append_nil]
    exact .last h
  | cons p ws ih =>
    obtain ⟨hp, hws⟩ := List.forall_mem_cons.1 hs
    have hgap : Blank [' '] := by
      intro c hc
      obtain rfl := List.mem_singleton.1 hc
      decide
    have hspaced : Spaced (w ++ ([' '] ++ (p.1 ++ ws.flatMap fun p => ' ' :: p.1)))
        (v :: p.2 :: ws.map (·.2)) := .cons h (List.cons_ne_nil _ _) hgap (ih hp hws)
    exact hspaced

end Word
end CollectionScript
