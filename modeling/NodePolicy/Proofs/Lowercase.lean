import NodePolicy.Text.Lowercase

/-!
Lower case where it needs no context. In ASCII the Unicode mapping is the plain one, and a text whose
characters map one by one is put into lower case character by character.
-/

namespace NodePolicy.Text

theorem later_runs_above_ascii : ∀ run ∈ lowerRuns.tail, 128 ≤ run.first := by
  decide +kernel

theorem capital_iff (c : Char) : (⟨0x41, 0x5A, 1, 32⟩ : CaseRun).holds c.toNat = true ↔
    65 ≤ c.toNat ∧ c.toNat ≤ 90 := by
  simp only [CaseRun.holds, Bool.and_eq_true, decide_eq_true_eq, Nat.mod_one, beq_self_eq_true,
    and_true]

theorem capital_toLower : ∀ code < 26,
    Char.ofNat (65 + code + 32) = (Char.ofNat (65 + code)).toLower := by decide

theorem toLower_eq_self (c : Char) (other : ¬ (65 ≤ c.toNat ∧ c.toNat ≤ 90)) : c.toLower = c :=
  dif_neg other

theorem lowerChar_ascii (c : Char) (ascii : c.toNat < 128) : lowerChar c = [c.toLower] := by
  have noDotted : c ≠ 'İ' := by
    rintro rfl
    exact absurd ascii (by decide)
  -- Past the run of the Latin capitals no run reaches down to ASCII.
  have noLater : lowerRuns.tail.find? (·.holds c.toNat) = none := by
    rw [List.find?_eq_none]
    intro run member holds
    have above := later_runs_above_ascii run member
    simp only [CaseRun.holds, Bool.and_eq_true, decide_eq_true_eq] at holds
    omega
  have runs : lowerRuns = ⟨0x41, 0x5A, 1, 32⟩ :: lowerRuns.tail := rfl
  rw [lowerChar, if_neg noDotted, runs, List.find?_cons]
  by_cases capital : 65 ≤ c.toNat ∧ c.toNat ≤ 90
  · have lowered := capital_toLower (c.toNat - 65) (by omega)
    rw [show 65 + (c.toNat - 65) = c.toNat by omega, Char.ofNat_toNat] at lowered
    rw [(capital_iff c).mpr capital, ← lowered]
    rfl
  · have skipped : (⟨0x41, 0x5A, 1, 32⟩ : CaseRun).holds c.toNat = false :=
      Bool.eq_false_iff.mpr fun holds => capital ((capital_iff c).mp holds)
    rw [skipped, noLater, toLower_eq_self c capital]

/-- A character that is its own mapping, or the ASCII letter that goes with it. -/
def LowersAlone (c : Char) : Prop := c ≠ 'Σ' ∧ lowerChar c = [c.toLower]

theorem lowersAlone_ascii (c : Char) (ascii : c.toNat < 128) : LowersAlone c := by
  refine ⟨?_, lowerChar_ascii c ascii⟩
  rintro rfl
  exact absurd ascii (by decide)

theorem lowercaseAfter_alone (before text : List Char) (alone : ∀ c ∈ text, LowersAlone c) :
    lowercaseAfter before text = text.map Char.toLower := by
  induction text generalizing before with
  | nil => rfl
  | cons c rest ih =>
      obtain ⟨noSigma, lowered⟩ := alone c List.mem_cons_self
      have later := ih (c :: before) fun d member => alone d (List.mem_cons_of_mem c member)
      simp only [lowercaseAfter, if_neg noSigma, lowered, later, List.map_cons, List.cons_append,
        List.nil_append]

theorem mem_lowercaseAfter (before text : List Char) (c lowered : Char) (member : c ∈ text)
    (noSigma : c ≠ 'Σ') (mapped : lowered ∈ lowerChar c) : lowered ∈ lowercaseAfter before text := by
  induction text generalizing before with
  | nil => cases member
  | cons d rest ih =>
      rw [lowercaseAfter, List.mem_append]
      rcases List.mem_cons.mp member with rfl | later
      · rw [if_neg noSigma]
        exact Or.inl mapped
      · exact Or.inr (ih (d :: before) later)

end NodePolicy.Text
