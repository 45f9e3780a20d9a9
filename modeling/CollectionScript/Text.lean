/-! Text as lists of characters, so that a law about a line is a law about its characters. The order of
texts is that of their code points, which is also the order of their UTF-8 bytes. -/
namespace CollectionScript

abbrev Text := List Char

instance : Coe String Text := ⟨String.toList⟩

namespace Text

/-- Size under UTF-8, the unit of every limit on length. -/
def byteSize : Text → Nat
  | [] => 0
  | c :: t => c.utf8Size + byteSize t

@[simp] theorem byteSize_nil : byteSize [] = 0 := rfl

@[simp] theorem byteSize_cons (c : Char) (t : Text) :
    byteSize (c :: t) = c.utf8Size + byteSize t := rfl

@[simp] theorem byteSize_append (s t : Text) :
    byteSize (s ++ t) = byteSize s + byteSize t := by
  induction s with
  | nil => simp
  | cons c s ih => simp [ih, Nat.add_assoc]

/-- Whether the part stands somewhere in the text. -/
def contains (part : Text) : Text → Bool
  | [] => part.isEmpty
  | c :: t => part.isPrefixOf (c :: t) || contains part t

theorem contains_iff {part t : Text} : contains part t ↔ part <:+: t := by
  induction t with
  | nil => simp [contains]
  | cons c t ih => simp [contains, ih, List.infix_cons_iff]

/-- The text before the first `c` and the text after it. -/
def cut? (c : Char) : Text → Option (Text × Text)
  | [] => none
  | d :: r => if d = c then some ([], r) else (cut? c r).map fun p => (d :: p.1, p.2)

theorem cut?_eq_none_iff {c : Char} {t : Text} : cut? c t = none ↔ c ∉ t := by
  induction t with
  | nil => simp [cut?]
  | cons d r ih =>
    by_cases h : d = c
    · simp [cut?, h]
    · simp [cut?, h, ih, Ne.symm h]

theorem cut?_eq_some_iff {c : Char} {t a b : Text} :
    cut? c t = some (a, b) ↔ t = a ++ c :: b ∧ c ∉ a := by
  induction t generalizing a with
  | nil => simp [cut?]
  | cons d r ih =>
    by_cases h : d = c
    · subst h
      cases a with
      | nil => simp [cut?, eq_comm]
      | cons e a => simp [cut?]; rintro rfl; simp
    · cases a with
      | nil => simp [cut?, h]
      | cons e a =>
        simp only [cut?, h, if_false, Option.map_eq_some_iff, Prod.mk.injEq, List.cons.injEq,
          List.cons_append, List.mem_cons, not_or, Prod.exists]
        constructor
        · rintro ⟨x, y, hxy, ⟨rfl, rfl⟩, rfl⟩
          have := ih.1 hxy
          exact ⟨⟨rfl, this.1⟩, Ne.symm h, this.2⟩
        · rintro ⟨⟨rfl, hr⟩, _, ha⟩
          exact ⟨a, b, ih.2 ⟨hr, ha⟩, ⟨rfl, rfl⟩, rfl⟩

/-- Membership in a table of runs of code points, each given by its first and its last. -/
def inRuns (runs : List (Nat × Nat)) (c : Char) : Bool :=
  runs.any fun run => run.1 ≤ c.toNat && c.toNat ≤ run.2

end Text
end CollectionScript
