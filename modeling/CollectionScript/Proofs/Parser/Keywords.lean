import CollectionScript.Proofs.Parser.Faults
import CollectionScript.Proofs.Word.Joining
import CollectionScript.Proofs.Word.Sizes

/-! Calling a form by its keyword as it stands, with a space and the arguments behind it. Registration sees
to it that a keyword has no white space in it. What it does not look for are quotes, which no word keeps as
they are written, and a number sign at the front, which makes the line a comment. A keyword with neither
always works, and one with either never does. -/
namespace CollectionScript

namespace Word

/-! White space that stands within a word is part of its value. -/

theorem Body.mem_of_isBlank {b v : Text} (h : Body b v) {c : Char} (hc : c ∈ b)
    (hblank : Text.isBlank c = true) : c ∈ v := by
  induction h with
  | nil => cases hc
  | escape hescape _ ih =>
    rcases List.mem_cons.1 hc with rfl | hc
    · cases hblank
    rcases List.mem_cons.1 hc with rfl | hc
    · exact List.mem_cons_self
    · exact List.mem_cons_of_mem _ (ih hc)
  | backslash _ _ _ ih =>
    rcases List.mem_cons.1 hc with rfl | hc
    · cases hblank
    · exact List.mem_cons_of_mem _ (ih hc)
  | plain _ _ _ ih =>
    rcases List.mem_cons.1 hc with rfl | hc
    · exact List.mem_cons_self
    · exact List.mem_cons_of_mem _ (ih hc)

theorem Segment.mem_of_isBlank {s v : Text} (h : Segment s v) {c : Char} (hc : c ∈ s)
    (hblank : Text.isBlank c = true) : c ∈ v := by
  have hsingle : c ≠ '\'' := by
    rintro rfl
    cases hblank
  have hdouble : c ≠ '"' := by
    rintro rfl
    cases hblank
  cases h with
  | bare _ _ _ => exact hc
  | single _ => simpa [hsingle] using hc
  | double hb =>
    exact hb.mem_of_isBlank (by simpa [hdouble] using hc) hblank

theorem Segments.mem_of_isBlank {w v : Text} (h : Segments w v) {c : Char} (hc : c ∈ w)
    (hblank : Text.isBlank c = true) : c ∈ v := by
  induction h with
  | nil => cases hc
  | cons h _ ih =>
    rcases List.mem_append.1 hc with hc | hc
    · exact List.mem_append_left _ (h.mem_of_isBlank hc hblank)
    · exact List.mem_append_right _ (ih hc)

theorem Line.exists_first {t v : Text} {ts : List Text} (h : Line t (v :: ts))
    (hhead : ∀ c ∈ t.head?, Text.isBlank c = false) : ∃ w r, Segments w v ∧ t = w ++ r := by
  obtain @⟨gap, t, _, hgap, hs⟩ := h
  cases gap with
  | nil =>
    cases hs with
    | last h => exact ⟨_, [], h.segments, by simp⟩
    | cons h _ _ _ => exact ⟨_, _, h.segments, rfl⟩
  | cons c gap =>
    have hc := (blank_cons.1 hgap).1
    rw [hhead c rfl] at hc
    cases hc

/-- A text without white space that reads as itself at the front of a line has no quotes in it: the word that it
is the value of would be longer than it, and the white space behind it part of that word. -/
theorem Line.plain_of_append {keyword args : Text} {ts : List Text}
    (h : Line (keyword ++ ' ' :: args) (keyword :: ts)) (hne : keyword ≠ [])
    (hblank : ∀ c ∈ keyword, Text.isBlank c = false) : Plain keyword := by
  have hhead : ∀ c ∈ (keyword ++ ' ' :: args).head?, Text.isBlank c = false := by
    obtain ⟨c, r, rfl⟩ := List.exists_cons_of_ne_nil hne
    simpa using hblank c List.mem_cons_self
  obtain ⟨w, r, hw, heq⟩ := h.exists_first hhead
  have hspace : ' ' ∉ w := by
    intro hmem
    have hkeyword := hw.mem_of_isBlank hmem (by decide)
    cases hblank _ hkeyword
  rcases hw.plain_or_byteSize_lt with ⟨hplain, rfl⟩ | hlt
  · exact hplain
  rcases List.append_eq_append_iff.1 heq with ⟨w', rfl, hrest⟩ | ⟨w', rfl, -⟩
  · -- A word that goes on behind the keyword takes the space in.
    cases w' with
    | nil => simp at hlt
    | cons c w' =>
      obtain ⟨rfl, -⟩ := List.cons.inj hrest
      exact absurd (List.mem_append_right _ List.mem_cons_self) hspace
  · -- A word that ends within the keyword is no longer than its value.
    rw [Text.byteSize_append] at hlt
    omega

theorem Plain.words_append_iff {keyword args : Text} {ts : List Text} (h : Plain keyword)
    (hne : keyword ≠ []) : words (keyword ++ ' ' :: args) = .ok (keyword :: ts) ↔ words args = .ok ts := by
  have hkeyword : words keyword = .ok [keyword] := words_of_line (.of_spells (h.spells hne))
  have hline := words_append_spaced hkeyword (blank_cons.2 ⟨by decide, blank_nil⟩ : Blank [' ']) (by simp) args
  rw [List.append_assoc, List.singleton_append] at hline
  rw [hline]
  cases words args <;> simp [Except.map, Except.mapError]

end Word

/-- The errors of a line that is not split into words or whose first word is no keyword. -/
inductive Error.Unread : Error → Prop
  | quote (quote : Char) (column : Nat) : Unread (.malformedQuote quote column)
  | keyword (keyword : Text) : Unread (.unknownCommand keyword)

namespace Parser

variable {parser : Parser} {form : Form} {keyword args line : Text} {ws : List Text} {e : Error}

def callLine (keyword args : Text) : Text := keyword ++ ' ' :: args

/-- A keyword that is no comment and is read as it is written. -/
structure Verbatim (keyword : Text) : Prop where
  no_single : '\'' ∉ keyword
  no_double : '"' ∉ keyword
  not_comment : keyword.head? ≠ some '#'

/-- The line goes to the constructor of the form, with these words as arguments. An error about quotes or an
unknown keyword could only be one that the form itself reports. -/
structure Dispatches (parser : Parser) (form : Form) (line : Text) (ws : List Text) : Prop where
  split : splitLine line = .ok (some (form.keyword, ws))
  outcome : (parser.parseLine line).outcome = (form.construct (ws.map parser.argument)).outcome.map some
  ne_none : (parser.parseLine line).outcome ≠ .ok none
  of_unread (e : Error) : e.Unread → (parser.parseLine line).outcome = .error e →
    ∃ bindings, form.schema.Binds form.keyword (ws.map parser.argument) bindings ∧
      form.build bindings = .error e

theorem isComment_callLine_iff (hform : form.WellFormed) (args : Text) :
    isComment (callLine form.keyword args) = true ↔ form.keyword.head? = some '#' := by
  obtain ⟨c, r, hkeyword⟩ := List.exists_cons_of_ne_nil hform.keyword_ne_nil
  have hc : Text.isBlank c = false := hform.not_blank c (hkeyword ▸ List.mem_cons_self)
  rw [callLine, hkeyword, isComment, Text.trimStart, List.cons_append, List.dropWhile_cons_of_neg (by simp [hc])]
  simp

theorem plain_keyword_iff (hform : form.WellFormed) :
    Word.Plain form.keyword ↔ '\'' ∉ form.keyword ∧ '"' ∉ form.keyword := by
  constructor
  · intro h
    exact ⟨fun hmem => (h _ hmem).2.1 rfl, fun hmem => (h _ hmem).2.2 rfl⟩
  · rintro ⟨hsingle, hdouble⟩ c hc
    exact ⟨hform.not_blank c hc, ne_of_mem_of_not_mem hc hsingle, ne_of_mem_of_not_mem hc hdouble⟩

theorem splitLine_callLine_iff (hform : form.WellFormed) :
    splitLine (callLine form.keyword args) = .ok (some (form.keyword, ws)) ↔
      ('\'' ∉ form.keyword ∧ '"' ∉ form.keyword) ∧ words args = .ok ws := by
  rw [splitLine_eq_ok_iff, ← plain_keyword_iff hform]
  constructor
  · intro h
    have hplain := (words_eq_ok_iff.1 h).plain_of_append hform.keyword_ne_nil hform.not_blank
    exact ⟨hplain, (hplain.words_append_iff hform.keyword_ne_nil).1 h⟩
  · rintro ⟨hplain, hargs⟩
    exact (hplain.words_append_iff hform.keyword_ne_nil).2 hargs

/-- What the constructor says about quotes or keywords comes from the form, as binding never does. -/
theorem exists_build_of_unread (he : e.Unread)
    (h : (form.construct (ws.map parser.argument)).outcome = .error e) :
    ∃ bindings, form.schema.Binds form.keyword (ws.map parser.argument) bindings ∧
      form.build bindings = .error e := by
  rcases Schema.placed_or_surplus (ws.map parser.argument) with
    hplaced | ⟨front, a, back, hsplit, hfront, ha⟩
  · by_cases hcomplete : ∀ p, ¬ form.schema.Lacks (ws.map parser.argument) p
    · obtain ⟨bindings, hbinds, hbuild⟩ := outcome_construct_of_complete hplaced hcomplete
      exact ⟨bindings, hbinds, hbuild ▸ h⟩
    · obtain ⟨p, hp⟩ := Classical.not_forall_not.1 hcomplete
      rw [Form.outcome_construct_of_error (Schema.bind_of_lacks _ hplaced hp)] at h
      obtain rfl := Except.error.inj h
      cases he
  · rw [hsplit, Form.outcome_construct_of_error (Schema.bind_of_surplus _ hfront ha _)] at h
    obtain rfl := Except.error.inj h
    cases he

theorem dispatches_of_invokes {redeclare : Redeclare} (h : Invokes line form.keyword ws)
    (hfind : parser.vocabulary.find form.keyword = .ok { form with redeclare })
    (hbytes : line.byteSize ≤ parser.limits.lineBytes) (hcount : ws.length ≤ parser.limits.lineArguments) :
    parser.Dispatches form line ws := by
  have houtcome : (parser.parseLine line).outcome =
      (form.construct (ws.map parser.argument)).outcome.map some := by
    rw [outcome_parseLine, outcome_bindLine_of_calls (Limits.checkLine_eq_ok_iff.2 hbytes)
      ⟨form.keyword, h, hfind⟩ (Limits.checkArguments_eq_ok_iff.2 hcount)]
    -- The policy for declaring it again plays no part in how a command is built.
    change ((form.construct (ws.map parser.argument)).outcome.map _).map _ = _
    cases (form.construct (ws.map parser.argument)).outcome <;> rfl
  refine ⟨splitLine_eq_ok_iff.2 h.words_eq, houtcome, ?_, fun e he herror => ?_⟩
  · rw [houtcome]
    cases (form.construct (ws.map parser.argument)).outcome <;> simp [Except.map]
  · rw [houtcome] at herror
    refine exists_build_of_unread he ?_
    cases hconstruct : (form.construct (ws.map parser.argument)).outcome with
    | ok command => simp [hconstruct, Except.map] at herror
    | error e' => simpa [hconstruct, Except.map] using herror

/-- A registered form is called by its keyword as it stands, a space and any text that has words, within the
limits, just if there is no quote in the keyword and no number sign before it. With a number sign the line is
a comment; with a quote its first word is not the keyword, if it has words at all. -/
theorem dispatches_registered_iff {vocabulary vocabulary' : Vocabulary} {form : Form}
    (hregister : vocabulary.register form = .ok vocabulary') :
    vocabulary'.find form.keyword = .ok form ∧
      ∀ (parser : Parser) (redeclare : Redeclare) (args : Text) (ts : List Text),
        parser.vocabulary.find form.keyword = .ok { form with redeclare } → words args = .ok ts →
        (callLine form.keyword args).byteSize ≤ parser.limits.lineBytes →
        ts.length ≤ parser.limits.lineArguments →
        (parser.Dispatches form (callLine form.keyword args) ts ↔ Verbatim form.keyword) ∧
        (form.keyword.head? = some '#' →
          (parser.parseLine (callLine form.keyword args)).outcome = .ok none) ∧
        ('\'' ∈ form.keyword ∨ '"' ∈ form.keyword →
          ∀ us, splitLine (callLine form.keyword args) ≠ .ok (some (form.keyword, us))) := by
  obtain ⟨hform, -⟩ := Vocabulary.register_eq_ok_iff.1 hregister
  refine ⟨by rw [Vocabulary.find_register hregister, if_pos rfl], ?_⟩
  intro parser redeclare args ts hfind hargs hbytes hcount
  have hcomment : form.keyword.head? = some '#' →
      (parser.parseLine (callLine form.keyword args)).outcome = .ok none := by
    intro hhead
    have hline := (isComment_callLine_iff hform args).2 hhead
    rw [outcome_parseLine, outcome_bindLine_eq_none_iff.2 ⟨hbytes, .inl hline⟩]
    rfl
  refine ⟨⟨fun h => ?_, fun h => ?_⟩, hcomment, ?_⟩
  · obtain ⟨⟨hsingle, hdouble⟩, -⟩ := (splitLine_callLine_iff hform).1 h.split
    exact ⟨hsingle, hdouble, fun hhead => h.ne_none (hcomment hhead)⟩
  · have hsplit := (splitLine_callLine_iff hform).2 ⟨⟨h.no_single, h.no_double⟩, hargs⟩
    have hnumber : isComment (callLine form.keyword args) = false := by
      rw [Bool.eq_false_iff, ne_eq, isComment_callLine_iff hform]
      exact h.not_comment
    exact dispatches_of_invokes ⟨hnumber, splitLine_eq_ok_iff.1 hsplit⟩ hfind hbytes hcount
  · intro hquote us hsplit
    obtain ⟨⟨hsingle, hdouble⟩, -⟩ := (splitLine_callLine_iff hform).1 hsplit
    exact hquote.elim hsingle hdouble

def runForm (keyword : Text) : Form := { Form.run with keyword }

def runParser (keyword : Text) : Parser := { vocabulary := ⟨Dictionary.empty.insert keyword (runForm keyword)⟩ }

theorem register_runForm (h : (runForm keyword).WellFormed) :
    Vocabulary.empty.register (runForm keyword) = .ok (runParser keyword).vocabulary :=
  Vocabulary.register_eq_ok_iff.2 ⟨h, rfl⟩

theorem dispatches_registered_iff_number_sign :
    (runParser "SAY#1").Dispatches (runForm "SAY#1") (callLine "SAY#1" "'a b'") ["a b"] ∧
      ((runParser "#don't").parseLine (callLine "#don't" "x")).outcome = .ok none ∧
      ∀ us, splitLine (callLine "#don't" "x") ≠ .ok (some ("#don't".toList, us)) := by
  have hsay : (runForm "SAY#1").WellFormed := by decide
  have hdont : (runForm "#don't").WellFormed := by decide
  have hverbatim : Verbatim "SAY#1".toList := ⟨by decide, by decide, by decide⟩
  obtain ⟨hiff, -, -⟩ := (dispatches_registered_iff (register_runForm hsay)).2 (runParser "SAY#1") .overwrite
    "'a b'" ["a b"] rfl (by decide +kernel) (by decide) (by decide)
  obtain ⟨-, hcomment, hquote⟩ := (dispatches_registered_iff (register_runForm hdont)).2 (runParser "#don't") .overwrite
    "x" ["x"] rfl (by decide +kernel) (by decide) (by decide)
  exact ⟨hiff.2 hverbatim, hcomment rfl, hquote (.inl (by decide))⟩

/-- A keyword with an apostrophe can be registered, but opens a quote where it stands. -/
theorem not_dispatches_registered :
    ¬ ∀ (vocabulary vocabulary' : Vocabulary) (form : Form), vocabulary.register form = .ok vocabulary' →
      ∀ (parser : Parser) (redeclare : Redeclare) (args : Text) (ts : List Text),
        parser.vocabulary.find form.keyword = .ok { form with redeclare } → words args = .ok ts →
        (callLine form.keyword args).byteSize ≤ parser.limits.lineBytes →
        ts.length ≤ parser.limits.lineArguments →
        parser.Dispatches form (callLine form.keyword args) ts := by
  intro h
  have hform : (runForm "DON'T").WellFormed := by decide
  have hdispatches := h _ _ _ (register_runForm hform) (runParser "DON'T") .overwrite "x" ["x"] rfl
    (by decide +kernel) (by decide) (by decide)
  have herror : splitLine (callLine "DON'T" "x") = .error (.malformedQuote '\'' 4) := by decide +kernel
  cases herror.symm.trans hdispatches.split

end Parser
end CollectionScript
