import CollectionScript.Proofs.Text.Splitting
import CollectionScript.Text.Control

/-! Texts that differ in how they are laid out: in lines that have been put in, in what ends a line, and in
whether the last line is ended. -/
namespace CollectionScript

inductive Origin where
  | own | added
  deriving DecidableEq, Repr

/-- How many lines have been put in before the own line that has `n` own lines before it. -/
def addedBefore : List Origin → Nat → Nat
  | [], _ => 0
  | .added :: origins, n => addedBefore origins n + 1
  | .own :: _, 0 => 0
  | .own :: origins, n + 1 => addedBefore origins n

namespace Text

/-- A text and the same text with further lines put in between its lines or at either end, line by line
for as long as the origins go. A line may be put in after a last line that is not ended, which it then is;
a line that is put in last may itself be left without an end. -/
inductive Padded (P : Text → Prop) : List Origin → Text → Text → Prop
  | rest (s : Text) : Padded P [] s s
  | own {origins : List Origin} {l s t : Text} (hl : '\n' ∉ l) (h : Padded P origins s t) :
    Padded P (.own :: origins) (l ++ '\n' :: s) (l ++ '\n' :: t)
  | ownLast {origins : List Origin} {l t : Text} (hl : '\n' ∉ l) (hne : l ≠ []) (h : Padded P origins [] t) :
    Padded P (.own :: origins) l (l ++ '\n' :: t)
  | added {origins : List Origin} {l s t : Text} (hl : '\n' ∉ l) (hP : P l) (h : Padded P origins s t) :
    Padded P (.added :: origins) s (l ++ '\n' :: t)
  | addedLast {l : Text} (hl : '\n' ∉ l) (hne : l ≠ []) (hP : P l) : Padded P [.added] [] l

inductive Interspersed (P : Text → Prop) : List Origin → List Text → List Text → Prop
  | rest (lines : List Text) : Interspersed P [] lines lines
  | own {origins : List Origin} {lines more : List Text} (line : Text) (h : Interspersed P origins lines more) :
    Interspersed P (.own :: origins) (line :: lines) (line :: more)
  | added {origins : List Origin} {line : Text} {lines more : List Text} (hP : P line)
    (h : Interspersed P origins lines more) : Interspersed P (.added :: origins) lines (line :: more)

variable {P : Text → Prop} {origins : List Origin} {s t : Text}

theorem getLast?_append_cons (front : Text) (c : Char) (hne : t ≠ []) : (front ++ c :: t).getLast? = t.getLast? := by
  obtain ⟨d, t, rfl⟩ := List.exists_cons_of_ne_nil hne
  simp [List.getLast?_append, List.getLast?_cons]

theorem dropReturn_eq (h : t.getLast? ≠ some '\r') : dropReturn t = t := if_neg h

theorem dropReturn_concat (t : Text) : dropReturn (t ++ ['\r']) = t := by simp [dropReturn]

theorem isPrefix_dropReturn (t : Text) : dropReturn t <+: t := by
  rw [dropReturn]
  split
  · exact List.dropLast_prefix t
  · exact List.prefix_rfl

/-- Only what comes after a character other than a carriage return can lose its end. -/
theorem dropReturn_append_cons (front : Text) {c : Char} (hc : c ≠ '\r') (t : Text) :
    dropReturn (front ++ c :: t) = front ++ c :: dropReturn t := by
  cases t with
  | nil => simp [dropReturn, hc]
  | cons d t =>
    rw [dropReturn, dropReturn, getLast?_append_cons front c (List.cons_ne_nil d t)]
    split
    · simp
    · rfl

/-- What is put into the text is put in between its lines. The last line of the text must not end in a
carriage return, which a line feed after it would take along. -/
theorem Padded.interspersed (hP : ∀ l, P l → P (dropReturn l)) (h : Padded P origins s t)
    (hs : s.getLast? ≠ some '\r') : Interspersed P origins (lines s) (lines t) := by
  induction h with
  | rest s => exact .rest _
  | @own origins l s t hl _ ih =>
    have hlast : s.getLast? ≠ some '\r' := by
      by_cases hne : s = []
      · simp [hne]
      · rwa [getLast?_append_cons l '\n' hne] at hs
    rw [lines_line hl, lines_line hl]
    exact .own _ (ih hlast)
  | ownLast hl hne _ ih =>
    rw [lines_rest hl hne, lines_line hl, dropReturn_eq hs]
    exact .own _ (ih (by simp))
  | added hl hf _ ih =>
    rw [lines_line hl]
    exact .added (hP _ hf) (ih hs)
  | addedLast hl hne hf =>
    rw [lines_rest hl hne]
    exact .added hf (.rest [])

theorem Interspersed.exists_split {before after more : List Text} {line : Text}
    (h : Interspersed P origins (before ++ line :: after) more) :
    ∃ before' after' origins', more = before' ++ line :: after' ∧
      before'.length = before.length + addedBefore origins before.length ∧
      Interspersed P origins' before before' := by
  generalize hall : before ++ line :: after = all at h
  induction h generalizing before with
  | rest lines => exact ⟨before, after, [], hall.symm, rfl, .rest before⟩
  | @own origins lines more first _ ih =>
    cases before with
    | nil =>
      obtain ⟨rfl, -⟩ := List.cons.inj hall
      exact ⟨[], more, [], rfl, rfl, .rest []⟩
    | cons other before =>
      obtain ⟨rfl, hrest⟩ := List.cons.inj hall
      obtain ⟨before', after', origins', rfl, hlength, hbefore⟩ := ih hrest
      refine ⟨other :: before', after', _, rfl, ?_, .own other hbefore⟩
      rw [List.length_cons, List.length_cons, addedBefore, hlength]
      omega
  | @added origins first lines more hfirst _ ih =>
    obtain ⟨before', after', origins', rfl, hlength, hbefore⟩ := ih hall
    refine ⟨first :: before', after', _, rfl, ?_, .added hfirst hbefore⟩
    rw [List.length_cons, addedBefore, hlength]
    omega

theorem replace_of_not_mem {c : Char} (new : Text) (h : c ∉ t) : replace c new t = t := by
  induction t with
  | nil => rfl
  | cons d t ih =>
    have hne : d ≠ c := fun hd => h (hd ▸ List.mem_cons_self)
    have ht : c ∉ t := fun hc => h (List.mem_cons_of_mem d hc)
    have hd : replace c new (d :: t) = (if d = c then new else [d]) ++ replace c new t := List.flatMap_cons
    rw [hd, if_neg hne, ih ht, List.singleton_append]

theorem replace_append_cons {c : Char} (new : Text) {l : Text} (h : c ∉ l) (s : Text) :
    replace c new (l ++ c :: s) = l ++ (new ++ replace c new s) := by
  have hsplit : replace c new (l ++ c :: s) = replace c new l ++ replace c new (c :: s) := List.flatMap_append
  have hc : replace c new (c :: s) = (if c = c then new else [c]) ++ replace c new s := List.flatMap_cons
  rw [hsplit, replace_of_not_mem new h, hc, if_pos rfl]

theorem lines_replace_newline (h : ¬ ['\r', '\n'] <:+: t) : lines (replace '\n' "\r\n" t) = lines t := by
  induction t using line_induction with
  | rest l hl => rw [replace_of_not_mem _ hl]
  | line l s hl ih =>
    have hs : ¬ ['\r', '\n'] <:+: s := by
      rintro ⟨front, back, rfl⟩
      exact h ⟨l ++ '\n' :: front, back, by simp⟩
    have hlast : l.getLast? ≠ some '\r' := by
      intro hr
      obtain ⟨front, rfl⟩ := List.getLast?_eq_some_iff.1 hr
      exact h ⟨front, s, by simp⟩
    have hreturn : '\n' ∉ l ++ ['\r'] := by simpa using hl
    have hreplace : replace '\n' "\r\n" (l ++ '\n' :: s) = (l ++ ['\r']) ++ '\n' :: replace '\n' "\r\n" s := by
      rw [replace_append_cons _ hl]
      simp
    rw [hreplace, lines_line hreturn, lines_line hl, dropReturn_concat, dropReturn_eq hlast, ih hs]

theorem lines_concat_newline (hne : t ≠ []) (hfeed : t.getLast? ≠ some '\n') (hreturn : t.getLast? ≠ some '\r') :
    lines (t ++ ['\n']) = lines t := by
  induction t using line_induction with
  | rest l hl => rw [lines_line hl, lines_rest hl hne, dropReturn_eq hreturn, lines_nil]
  | line l s hl ih =>
    have hs : s ≠ [] := by
      rintro rfl
      exact hfeed (by simp)
    rw [getLast?_append_cons l '\n' hs] at hfeed hreturn
    rw [List.append_assoc, List.cons_append, lines_line hl, lines_line hl, ih hs hfeed hreturn]

end Text
end CollectionScript
