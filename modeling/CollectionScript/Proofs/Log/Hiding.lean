import CollectionScript.Log.Policy
import CollectionScript.Proofs.Text.Capitals

/-! Which variables have their values left out of the log. A name is looked at in upper case, so the case of
its letters does not matter; nor does it for a fragment that is added to a policy. But a fragment that stands
in a policy with a small letter is part of no name in upper case, and hides nothing. -/
namespace CollectionScript
namespace LogPolicy

variable {policy : LogPolicy} {name : Text}

def InCapitals (policy : LogPolicy) : Prop := ∀ fragment ∈ policy.fragments, fragment.upper = fragment

def addFragments (policy : LogPolicy) (added : List Text) : LogPolicy := added.foldl addFragment policy

theorem hides_iff :
    policy.hides name = true ↔
      policy.redacts = true ∧ ∃ fragment ∈ policy.fragments, fragment <:+: name.upper := by
  simp [hides, Text.contains_iff]

@[simp] theorem redacts_addFragment (fragment : Text) :
    (policy.addFragment fragment).redacts = policy.redacts := rfl

theorem mem_fragments_addFragment {fragment added : Text} :
    fragment ∈ (policy.addFragment added).fragments ↔
      fragment = added.upper ∨ fragment ∈ policy.fragments := by
  simp [addFragment, List.mem_insert_iff]

/-- The fragments of a new policy have characters that come before the small letters. -/
theorem inCapitals_default : InCapitals {} := by
  have hbefore : ({} : LogPolicy).fragments.all (·.all fun c => decide (c.toNat < 0x61)) = true := by
    decide +kernel
  intro fragment hfragment
  have hfragment := List.all_eq_true.1 hbefore fragment hfragment
  apply Text.upper_eq_self
  intro c hc
  exact Text.upperChar_of_lt (of_decide_eq_true (List.all_eq_true.1 hfragment c hc))

theorem InCapitals.addFragment (h : policy.InCapitals) (added : Text) :
    (policy.addFragment added).InCapitals := by
  intro fragment hfragment
  rcases mem_fragments_addFragment.1 hfragment with rfl | hold
  · exact Text.upper_upper added
  · exact h fragment hold

/-- A fragment with a small letter is no part of a name in upper case. -/
theorem hides_iff_of_capitals :
    policy.hides name = true ↔ policy.redacts = true ∧
      ∃ fragment ∈ policy.fragments, fragment.upper = fragment ∧ fragment.upper <:+: name.upper := by
  rw [hides_iff]
  refine and_congr_right fun _ => exists_congr fun fragment => and_congr_right fun _ => ?_
  constructor
  · intro h
    have hupper : fragment.upper = fragment := Text.upper_of_infix h
    exact ⟨hupper, by rwa [hupper]⟩
  · rintro ⟨hupper, h⟩
    rwa [hupper] at h

theorem hides_eq_false (h : ∀ fragment ∈ policy.fragments, fragment.upper ≠ fragment) :
    policy.hides name = false := by
  rw [Bool.eq_false_iff, Ne, hides_iff_of_capitals]
  rintro ⟨-, fragment, hfragment, hupper, -⟩
  exact h fragment hfragment hupper

theorem hides_addFragment {added : Text} :
    (policy.addFragment added).hides name = true ↔
      policy.hides name = true ∨ policy.redacts = true ∧ added.upper <:+: name.upper := by
  simp only [hides_iff, redacts_addFragment, mem_fragments_addFragment, or_and_right, exists_or,
    exists_eq_left, and_or_left]
  exact or_comm

theorem hides_addFragments {added : List Text} :
    (policy.addFragments added).hides name = true ↔ policy.hides name = true ∨
      policy.redacts = true ∧ ∃ fragment ∈ added, fragment.upper <:+: name.upper := by
  induction added generalizing policy with
  | nil => simp [addFragments]
  | cons fragment added ih =>
    have hcons : policy.addFragments (fragment :: added) =
        (policy.addFragment fragment).addFragments added := rfl
    rw [hcons, ih, hides_addFragment, redacts_addFragment]
    simp [and_or_left, or_assoc]

theorem hides_congr {name' : Text} (h : name.upper = name'.upper) : policy.hides name = policy.hides name' := by
  simp only [hides, h]

theorem hides_of_subset {policy' : LogPolicy} (hredacts : policy'.redacts = true)
    (hsub : policy.fragments ⊆ policy'.fragments) (h : policy.hides name = true) : policy'.hides name = true := by
  obtain ⟨-, fragment, hfragment, hpart⟩ := hides_iff.1 h
  exact hides_iff.2 ⟨hredacts, fragment, hsub hfragment, hpart⟩

/-- A policy that redacts hides a name if one of its fragments that are in upper case is part of the name in
upper case. Those are all of its fragments, unless one was put in by hand in another form. Whichever
fragments it has, an added one counts in any case of its letters, names that differ in case only are treated
alike, more fragments hide no fewer names, and nothing of the value of a hidden name is shown. -/
theorem hides_in_capitals (policy : LogPolicy) (hredacts : policy.redacts = true) :
    (∀ name, policy.hides name = true ↔
      ∃ fragment ∈ policy.fragments, fragment.upper = fragment ∧ fragment.upper <:+: name.upper) ∧
    (policy.InCapitals → ∀ name, policy.hides name = true ↔
      ∃ fragment ∈ policy.fragments, fragment.upper <:+: name.upper) ∧
    InCapitals {} ∧
    (∀ added, policy.InCapitals → (policy.addFragment added).InCapitals) ∧
    (∀ added name, (policy.addFragments added).hides name = true ↔
      policy.hides name = true ∨ ∃ fragment ∈ added, fragment.upper <:+: name.upper) ∧
    (∀ name name', name.upper = name'.upper → policy.hides name = policy.hides name') ∧
    (∀ name, policy.hides name.upper = policy.hides name) ∧
    (∀ policy' : LogPolicy, policy'.redacts = true → policy.fragments ⊆ policy'.fragments →
      ∀ name, policy.hides name = true → policy'.hides name = true) ∧
    ∀ name value, policy.hides name = true → policy.renderVariable name value = redacted := by
  have hcapitals (name : Text) : policy.hides name = true ↔
      ∃ fragment ∈ policy.fragments, fragment.upper = fragment ∧ fragment.upper <:+: name.upper := by
    rw [hides_iff_of_capitals]
    simp [hredacts]
  refine ⟨hcapitals, fun hall name => ?_, inCapitals_default, fun added hall => hall.addFragment added,
    fun added name => ?_, fun _ _ => hides_congr, fun name => hides_congr (Text.upper_upper name),
    fun _ hredacts' hsub _ => hides_of_subset hredacts' hsub, fun name value h => ?_⟩
  · rw [hcapitals]
    refine exists_congr fun fragment => and_congr_right fun hfragment => ?_
    simp [hall fragment hfragment]
  · rw [hides_addFragments]
    simp [hredacts]
  · rw [renderVariable, if_pos h]

/-- The same fragment, put in by hand and added. -/
theorem hides_in_capitals_added :
    ({ fragments := ["kubeconfig"] } : LogPolicy).redacts = true ∧
      ({ fragments := ["kubeconfig"] } : LogPolicy).hides "my_kubeconfig".toList = false ∧
      (addFragments { fragments := ["kubeconfig"] } ["kubeconfig".toList]).hides
        "my_kubeconfig".toList = true := by
  obtain ⟨-, -, -, -, hadded, -⟩ := hides_in_capitals { fragments := ["kubeconfig"] } rfl
  refine ⟨rfl, ?_, ?_⟩
  · exact hides_eq_false (by decide +kernel)
  · rw [hadded]
    refine .inr ⟨_, List.mem_singleton_self _, ?_⟩
    exact Text.contains_iff.1 (by decide +kernel)

/-- Small letters in a fragment matter, although those in a name do not. -/
theorem not_hides_iff_in_any_case :
    ¬ ∀ (policy : LogPolicy) (name : Text), policy.redacts = true →
      (policy.hides name = true ↔ ∃ fragment ∈ policy.fragments, fragment.upper <:+: name.upper) := by
  intro h
  have hpart : Text.upper "kubeconfig".toList <:+: Text.upper "my_kubeconfig".toList :=
    Text.contains_iff.1 (by decide +kernel)
  have hhides := (h { fragments := ["kubeconfig"] } "my_kubeconfig".toList rfl).2
    ⟨_, List.mem_singleton_self _, hpart⟩
  have hnot : hides { fragments := ["kubeconfig"] } "my_kubeconfig".toList = false :=
    hides_eq_false (by decide +kernel)
  exact absurd hhides (Bool.eq_false_iff.1 hnot)

end LogPolicy
end CollectionScript
