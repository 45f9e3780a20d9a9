import CollectionScript.Json

/-! The compact text of a JSON value tells where it ends, whatever text comes after it. So it can be found
again in a list or in an object, and it belongs to one value only. -/
namespace CollectionScript
namespace Json

def Stops (s : Text) : Prop := ∀ c ∈ s.head?, c.isDigit = false

/-- In a longer text, what the value is written as determines the value and where it ends. -/
def SelfDelimiting {α : Type} (write : α → Text) (a : α) : Prop :=
  ∀ b s t, Stops s → Stops t → write a ++ s = write b ++ t → a = b ∧ s = t

theorem stops_cons {c : Char} (h : c.isDigit = false) (s : Text) : Stops (c :: s) := by
  rintro d ⟨⟩
  exact h

def hexDigit? (c : Char) : Option Nat := (List.range 16).find? (Nat.digitChar · = c)

theorem hexDigit?_digitChar : ∀ n < 16, hexDigit? (Nat.digitChar n) = some n := by decide

def readEscape : Text → Option (Char × Text)
  | 'n' :: s => some ('\n', s)
  | 'r' :: s => some ('\r', s)
  | 't' :: s => some ('\t', s)
  | 'b' :: s => some ('\x08', s)
  | 'f' :: s => some ('\x0c', s)
  | 'u' :: '0' :: '0' :: high :: low :: s => do
    let h ← hexDigit? high
    let l ← hexDigit? low
    some (Char.ofNat (16 * h + l), s)
  | c :: s => some (c, s)
  | [] => none

/-- The first character of a quoted text, and the text after what it is written as. -/
def readChar : Text → Option (Char × Text)
  | [] => none
  | c :: s => if c = '"' then none else if c = '\\' then readEscape s else some (c, s)

theorem readChar_escapeCode {c : Char} (h : c.toNat < 0x20) (s : Text) :
    readChar (escapeCode c ++ s) = some (c, s) := by
  have hhigh : hexDigit? (Nat.digitChar (c.toNat / 16)) = some (c.toNat / 16) :=
    hexDigit?_digitChar _ (by omega)
  have hlow : hexDigit? (Nat.digitChar (c.toNat % 16)) = some (c.toNat % 16) :=
    hexDigit?_digitChar _ (by omega)
  have hchar : Char.ofNat (16 * (c.toNat / 16) + c.toNat % 16) = c := by
    rw [Nat.div_add_mod, Char.ofNat_toNat]
  change (do
    let h ← hexDigit? (Nat.digitChar (c.toNat / 16))
    let l ← hexDigit? (Nat.digitChar (c.toNat % 16))
    some (Char.ofNat (16 * h + l), s)) = some (c, s)
  rw [hhigh, hlow]
  exact congrArg (fun d => some (d, s)) hchar

theorem readChar_escapeChar (c : Char) (s : Text) : readChar (escapeChar c ++ s) = some (c, s) := by
  unfold escapeChar
  split
  · next h => subst h; rfl
  split
  · next h => subst h; rfl
  split
  · next h => subst h; rfl
  split
  · next h => subst h; rfl
  split
  · next h => subst h; rfl
  split
  · next h => subst h; rfl
  split
  · next h => subst h; rfl
  split
  · next h => exact readChar_escapeCode h s
  · next hquote hbackslash _ _ _ _ _ _ =>
    rw [List.singleton_append, readChar, if_neg hquote, if_neg hbackslash]

theorem escaped_inj {a b s t : Text}
    (h : a.flatMap escapeChar ++ '"' :: s = b.flatMap escapeChar ++ '"' :: t) : a = b ∧ s = t := by
  induction a generalizing b with
  | nil =>
    cases b with
    | nil => exact ⟨rfl, (List.cons.inj h).2⟩
    | cons d b =>
      have hread := congrArg readChar h
      rw [List.flatMap_cons, List.append_assoc, readChar_escapeChar] at hread
      cases hread
  | cons c a ih =>
    have hread := congrArg readChar h
    rw [List.flatMap_cons, List.append_assoc, readChar_escapeChar] at hread
    cases b with
    | nil => cases hread
    | cons d b =>
      rw [List.flatMap_cons, List.append_assoc, readChar_escapeChar] at hread
      obtain ⟨rfl, hrest⟩ := Prod.mk.inj (Option.some.inj hread)
      obtain ⟨rfl, hst⟩ := ih hrest
      exact ⟨rfl, hst⟩

theorem quote_append (a s : Text) : quote a ++ s = '"' :: (a.flatMap escapeChar ++ '"' :: s) := by
  simp [quote]

theorem quote_append_inj {a b s t : Text} (h : quote a ++ s = quote b ++ t) : a = b ∧ s = t := by
  rw [quote_append, quote_append] at h
  exact escaped_inj (List.cons.inj h).2

theorem isDigit_of_mem_decimal {n : Nat} {c : Char} (h : c ∈ Text.decimal n) : c.isDigit = true :=
  Nat.isDigit_of_mem_toDigits (by decide) (by decide) h

theorem takeWhile_decimal (n : Nat) {s : Text} (hs : Stops s) :
    (Text.decimal n ++ s).takeWhile Char.isDigit = Text.decimal n := by
  have hrest : s.takeWhile Char.isDigit = [] := by
    cases s with
    | nil => rfl
    | cons c s => rw [List.takeWhile_cons_of_neg (by simp [hs c rfl])]
  rw [List.takeWhile_append_of_pos fun c hc => isDigit_of_mem_decimal hc, hrest, List.append_nil]

theorem selfDelimiting_decimal (n : Nat) : SelfDelimiting Text.decimal n := by
  intro m s t hs ht h
  have hdecimal : Text.decimal n = Text.decimal m := by
    rw [← takeWhile_decimal n hs, h, takeWhile_decimal m ht]
  have hnumber : some n = some m := by
    rw [← Text.natural?_decimal n, hdecimal, Text.natural?_decimal]
  rw [hdecimal] at h
  exact ⟨Option.some.inj hnumber, List.append_cancel_left h⟩

section List

variable {α : Type} {write : α → Text} {close : Char}

/-- Pieces that are each preceded by a comma, up to a closing bracket. -/
theorem preceded_inj (hcomma : close ≠ ',') (hclose : close.isDigit = false) {as bs : List α} {s t : Text}
    (has : ∀ a ∈ as, SelfDelimiting write a)
    (h : as.flatMap (fun a => ',' :: write a) ++ close :: s =
      bs.flatMap (fun b => ',' :: write b) ++ close :: t) : as = bs ∧ s = t := by
  have hstops : ∀ (cs : List α) (r : Text), Stops (cs.flatMap (fun c => ',' :: write c) ++ close :: r) := by
    intro cs r
    cases cs with
    | nil => exact stops_cons hclose r
    | cons c cs => exact stops_cons (by decide) _
  induction as generalizing bs with
  | nil =>
    cases bs with
    | nil => exact ⟨rfl, (List.cons.inj h).2⟩
    | cons b bs => exact absurd (List.cons.inj h).1 hcomma
  | cons a as ih =>
    obtain ⟨ha, has⟩ := List.forall_mem_cons.1 has
    cases bs with
    | nil => exact absurd (List.cons.inj h).1.symm hcomma
    | cons b bs =>
      simp only [List.flatMap_cons, List.cons_append, List.append_assoc, List.cons.injEq, true_and] at h
      obtain ⟨rfl, hrest⟩ := ha b _ _ (hstops as s) (hstops bs t) h
      obtain ⟨rfl, hst⟩ := ih has hrest
      exact ⟨rfl, hst⟩

theorem intercalate_cons (separator : Char) (piece : Text) (pieces : List Text) :
    [separator].intercalate (piece :: pieces) = piece ++ pieces.flatMap (separator :: ·) := by
  induction pieces generalizing piece with
  | nil => simp
  | cons next pieces ih => simp [List.intercalate_cons_cons, ih]

/-- Pieces with commas between them, up to a closing bracket that no piece starts with. -/
theorem joined_inj (hcomma : close ≠ ',') (hclose : close.isDigit = false)
    (hstart : ∀ (a : α) (s : Text), (write a ++ s).head? ≠ some close) {as bs : List α} {s t : Text}
    (has : ∀ a ∈ as, SelfDelimiting write a)
    (h : [','].intercalate (as.map write) ++ close :: s = [','].intercalate (bs.map write) ++ close :: t) :
    as = bs ∧ s = t := by
  cases as with
  | nil =>
    cases bs with
    | nil => exact ⟨rfl, (List.cons.inj h).2⟩
    | cons b bs =>
      rw [List.map_cons, intercalate_cons, List.append_assoc] at h
      exact absurd (congrArg List.head? h).symm (hstart b _)
  | cons a as =>
    cases bs with
    | nil =>
      rw [List.map_cons, intercalate_cons, List.append_assoc] at h
      exact absurd (congrArg List.head? h) (hstart a _)
    | cons b bs =>
      have hpreceded : ',' :: (write a ++ (as.map write).flatMap (',' :: ·) ++ close :: s) =
          ',' :: (write b ++ (bs.map write).flatMap (',' :: ·) ++ close :: t) := by
        rw [← intercalate_cons, ← intercalate_cons, ← List.map_cons, ← List.map_cons, h]
      refine preceded_inj hcomma hclose has ?_
      simpa [List.flatMap_map] using hpreceded

end List

inductive Kind where
  | string | number | array | object
  deriving DecidableEq

def kind : Json → Kind
  | .string _ => .string
  | .number _ => .number
  | .array _ => .array
  | .object _ => .object

def kindOf? (c : Char) : Option Kind :=
  if c = '"' then some .string
  else if c = '[' then some .array
  else if c = '{' then some .object
  else if c.isDigit then some .number
  else none

theorem kindOf?_of_isDigit {c : Char} (h : c.isDigit = true) : kindOf? c = some .number := by
  have hne : ∀ d : Char, d.isDigit = false → c ≠ d := by
    rintro d hd rfl
    rw [h] at hd
    cases hd
  rw [kindOf?, if_neg (hne _ (by decide)), if_neg (hne _ (by decide)), if_neg (hne _ (by decide)), if_pos h]

theorem kindOf?_head (a : Json) (s : Text) : (a.compact ++ s).head?.bind kindOf? = some a.kind := by
  cases a with
  | string value => rfl
  | number n =>
    obtain ⟨c, r, hdecimal⟩ := List.exists_cons_of_ne_nil (show Text.decimal n ≠ [] from Nat.toDigits_ne_nil)
    have hc : c.isDigit = true := isDigit_of_mem_decimal (hdecimal ▸ List.mem_cons_self)
    rw [compact, hdecimal]
    exact kindOf?_of_isDigit hc
  | array items => rfl
  | object members => rfl

theorem head?_ne_of_kindOf? {c : Char} (h : kindOf? c = none) (a : Json) (s : Text) :
    (a.compact ++ s).head? ≠ some c := by
  intro hhead
  have hkind := kindOf?_head a s
  rw [hhead, Option.bind_some, h] at hkind
  cases hkind

theorem kind_eq {a b : Json} {s t : Text} (h : a.compact ++ s = b.compact ++ t) : a.kind = b.kind := by
  have hkind := kindOf?_head a s
  rw [h, kindOf?_head] at hkind
  exact (Option.some.inj hkind).symm

theorem selfDelimiting_member {name : Text} {value : Json} (hvalue : SelfDelimiting compact value) :
    SelfDelimiting (fun m : Text × Json => quote m.1 ++ ':' :: m.2.compact) (name, value) := by
  rintro ⟨name', value'⟩ s t hs ht h
  simp only [List.append_assoc, List.cons_append] at h
  obtain ⟨rfl, hrest⟩ := quote_append_inj h
  obtain ⟨rfl, hst⟩ := hvalue value' s t hs ht (List.cons.inj hrest).2
  exact ⟨rfl, hst⟩

mutual

theorem selfDelimiting_compact : (a : Json) → SelfDelimiting compact a
  | .string value => by
    intro b s t _ _ h
    cases b with
    | string value' =>
      obtain ⟨rfl, hst⟩ := quote_append_inj h
      exact ⟨rfl, hst⟩
    | _ => cases kind_eq h
  | .number n => by
    intro b s t hs ht h
    cases b with
    | number m =>
      obtain ⟨rfl, hst⟩ := selfDelimiting_decimal n m s t hs ht h
      exact ⟨rfl, hst⟩
    | _ => cases kind_eq h
  | .array items => by
    intro b s t _ _ h
    cases b with
    | array items' =>
      simp only [compact, compactItems_eq_map, List.cons_append, List.append_assoc, List.cons.injEq,
        true_and, List.nil_append] at h
      obtain ⟨rfl, hst⟩ := joined_inj (by decide) (by decide) (head?_ne_of_kindOf? (by decide))
        (selfDelimiting_items items) h
      exact ⟨rfl, hst⟩
    | _ => cases kind_eq h
  | .object members => by
    intro b s t _ _ h
    cases b with
    | object members' =>
      simp only [compact, compactMembers_eq_map, List.cons_append, List.append_assoc, List.cons.injEq,
        true_and, List.nil_append] at h
      have hstart : ∀ (m : Text × Json) (r : Text),
          ((quote m.1 ++ ':' :: m.2.compact) ++ r).head? ≠ some '}' := by
        rintro m r ⟨⟩
      obtain ⟨rfl, hst⟩ := joined_inj (by decide) (by decide) hstart (selfDelimiting_members members) h
      exact ⟨rfl, hst⟩
    | _ => cases kind_eq h

theorem selfDelimiting_items : (items : List Json) → ∀ item ∈ items, SelfDelimiting compact item
  | [] => fun _ h => absurd h List.not_mem_nil
  | item :: items => List.forall_mem_cons.2 ⟨selfDelimiting_compact item, selfDelimiting_items items⟩

theorem selfDelimiting_members : (members : List (Text × Json)) →
    ∀ m ∈ members, SelfDelimiting (fun m : Text × Json => quote m.1 ++ ':' :: m.2.compact) m
  | [] => fun _ h => absurd h List.not_mem_nil
  | (_, value) :: members =>
    List.forall_mem_cons.2 ⟨selfDelimiting_member (selfDelimiting_compact value), selfDelimiting_members members⟩

end

theorem compact_injective : Function.Injective compact := by
  intro a b h
  have hnil : Stops [] := fun c hc => by cases hc
  exact (selfDelimiting_compact a b [] [] hnil hnil (by rw [h])).1

end Json
end CollectionScript
