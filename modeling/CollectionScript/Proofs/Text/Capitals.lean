import CollectionScript.Text.Upper

/-! Capitals have no capitals of their own. So upper case is reached in one step, and every part of a text in
upper case is in upper case. -/
namespace CollectionScript
namespace Text

def bits (ns : List Nat) : Nat := ns.foldr (fun n set => set ||| 1 <<< n) 0

theorem testBit_bits {ns : List Nat} {n : Nat} : (bits ns).testBit n = true ↔ n ∈ ns := by
  induction ns with
  | nil => simp [bits]
  | cons m ns ih =>
    rw [bits, List.foldr_cons, ← bits, Nat.testBit_or, Bool.or_eq_true, ih, Nat.one_shiftLeft,
      Nat.testBit_two_pow]
    simp [or_comm, eq_comm]

theorem not_mem_of_bits {ms ns : List Nat} (h : bits ms &&& bits ns = 0) {n : Nat} (hm : n ∈ ms) :
    n ∉ ns := by
  intro hn
  have hbit : (bits ms &&& bits ns).testBit n = true := by
    rw [Nat.testBit_and, testBit_bits.2 hm, testBit_bits.2 hn]
    rfl
  rw [h] at hbit
  simp at hbit

namespace CaseRun

variable {run : CaseRun} {m n : Nat}

def size (run : CaseRun) : Nat := (run.last - run.first) / run.step + 1

def letters (run : CaseRun) : List Nat := List.range' run.first run.size run.step

def capitals (run : CaseRun) : List Nat := List.range' run.image run.size run.step

theorem exists_of_capital? (h : run.capital? n = some m) :
    ∃ i < run.size, n = run.first + run.step * i ∧ m = run.image + run.step * i := by
  rw [capital?] at h
  split at h
  · next hrun =>
    obtain ⟨hfirst, hlast, hstep⟩ := hrun
    have hmul : run.step * ((n - run.first) / run.step) = n - run.first :=
      Nat.mul_div_cancel' (Nat.dvd_of_mod_eq_zero hstep)
    have hle : (n - run.first) / run.step ≤ (run.last - run.first) / run.step :=
      Nat.div_le_div_right (by omega)
    refine ⟨(n - run.first) / run.step, Nat.lt_succ_of_le hle, ?_, ?_⟩
    · omega
    · rw [hmul]
      exact (Option.some.inj h).symm
  · cases h

theorem mem_letters (h : run.capital? n = some m) : n ∈ run.letters := by
  obtain ⟨i, hi, hn, -⟩ := exists_of_capital? h
  exact List.mem_range'.2 ⟨i, hi, hn⟩

theorem mem_capitals (h : run.capital? n = some m) : m ∈ run.capitals := by
  obtain ⟨i, hi, -, hm⟩ := exists_of_capital? h
  exact List.mem_range'.2 ⟨i, hi, hm⟩

end CaseRun

def letterCodes : List Nat := caseRuns.flatMap CaseRun.letters ++ longCapitals.map (·.1)

/-- The code points that capitals are made of. A number that is no code point would be read as zero. -/
def capitalCodes : List Nat :=
  0 :: (caseRuns.flatMap CaseRun.capitals ++ longCapitals.flatMap (·.2))

/-- The table in one look: nothing that it gives as a capital has a capital in it. -/
theorem not_mem_letterCodes {n : Nat} (h : n ∈ capitalCodes) : n ∉ letterCodes := by
  have hbits : bits capitalCodes &&& bits letterCodes = 0 := by decide +kernel
  exact not_mem_of_bits hbits h

theorem toNat_ofNat {n : Nat} (h : n.isValidChar) : (Char.ofNat n).toNat = n := by
  have hchar : Char.ofNat n = Char.ofNatAux n h := dif_pos h
  rw [hchar]
  rfl

theorem toNat_ofNat_mem {n : Nat} (h : n ∈ capitalCodes) : (Char.ofNat n).toNat ∈ capitalCodes := by
  by_cases hvalid : n.isValidChar
  · rwa [toNat_ofNat hvalid]
  · have hzero : Char.ofNat n = Char.ofNat 0 := dif_neg hvalid
    rw [hzero]
    exact List.mem_cons_self

theorem upperChar_eq_self {c : Char} (h : c.toNat ∉ letterCodes) : upperChar c = [c] := by
  have hrun : caseRuns.findSome? (·.capital? c.toNat) = none := by
    rw [List.findSome?_eq_none_iff]
    intro run hrun
    cases hcapital : run.capital? c.toNat with
    | none => rfl
    | some n =>
      refine absurd (List.mem_append_left _ ?_) h
      exact List.mem_flatMap.2 ⟨run, hrun, CaseRun.mem_letters hcapital⟩
  have hlong : longCapitals.lookup c.toNat = none := by
    rw [List.lookup_eq_none_iff]
    intro p hp
    rw [bne_iff_ne]
    rintro hc
    refine absurd (List.mem_append_right _ ?_) h
    exact List.mem_map.2 ⟨p, hp, hc.symm⟩
  simp only [upperChar, hrun, hlong]

theorem upperChar_of_lt {c : Char} (h : c.toNat < 0x61) : upperChar c = [c] := by
  have hcodes : ∀ n ∈ letterCodes, 0x61 ≤ n := by decide +kernel
  exact upperChar_eq_self fun hc => absurd (hcodes _ hc) (Nat.not_le_of_lt h)

theorem upperChar_of_mem {c d : Char} (h : d ∈ upperChar c) : upperChar d = [d] := by
  rw [upperChar] at h
  split at h
  · next n hn =>
    obtain ⟨run, hrun, hcapital⟩ := List.exists_of_findSome?_eq_some hn
    obtain rfl := List.mem_singleton.1 h
    have hmem : n ∈ capitalCodes := by
      refine List.mem_cons_of_mem 0 (List.mem_append_left _ ?_)
      exact List.mem_flatMap.2 ⟨run, hrun, CaseRun.mem_capitals hcapital⟩
    exact upperChar_eq_self (not_mem_letterCodes (toNat_ofNat_mem hmem))
  · next hrun =>
    split at h
    · next ns hns =>
      obtain ⟨n, hn, rfl⟩ := List.mem_map.1 h
      have hlong : (c.toNat, ns) ∈ longCapitals := by
        obtain ⟨before, after, htable, -⟩ := List.lookup_eq_some_iff.1 hns
        simp [htable]
      have hmem : n ∈ capitalCodes := by
        refine List.mem_cons_of_mem 0 (List.mem_append_right _ ?_)
        exact List.mem_flatMap.2 ⟨(c.toNat, ns), hlong, hn⟩
      exact upperChar_eq_self (not_mem_letterCodes (toNat_ofNat_mem hmem))
    · next hlong =>
      obtain rfl := List.mem_singleton.1 h
      simp only [upperChar, hrun, hlong]

theorem upperChar_of_mem_upper {c : Char} {t : Text} (h : c ∈ upper t) : upperChar c = [c] := by
  obtain ⟨d, _, hc⟩ := List.mem_flatMap.1 h
  exact upperChar_of_mem hc

theorem upper_eq_self {t : Text} (h : ∀ c ∈ t, upperChar c = [c]) : upper t = t := by
  induction t with
  | nil => rfl
  | cons c t ih =>
    obtain ⟨hc, ht⟩ := List.forall_mem_cons.1 h
    rw [upper, List.flatMap_cons, hc, ← upper, ih ht, List.singleton_append]

theorem upper_of_infix {s t : Text} (h : s <:+: upper t) : upper s = s :=
  upper_eq_self fun _ hc => upperChar_of_mem_upper (h.subset hc)

@[simp] theorem upper_upper (t : Text) : upper (upper t) = upper t := upper_of_infix List.infix_rfl

end Text
end CollectionScript
