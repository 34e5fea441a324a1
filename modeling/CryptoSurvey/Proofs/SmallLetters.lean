import CryptoSurvey.Proofs.Lowering

namespace CryptoSurvey.Text

/-- Lowering leaves the character as it is, wherever it stands. -/
def IsLowered (c : Char) : Prop :=
  c ≠ 'Σ' ∧ lowerChar c = [c]

def CaseRun.letters (r : CaseRun) : List Nat :=
  (List.range ((r.last - r.first) / r.step + 1)).map fun k => r.first + r.step * k

/-- The capital letters: those of ASCII, dotted capital I, capital sigma, and the listed ones. -/
def capitalLetters : List Nat :=
  List.range' 0x41 26 ++ [0x130, 0x3a3] ++ capitalRuns.flatMap CaseRun.letters

def bitSet (ns : List Nat) : Nat :=
  ns.foldr (fun n bits => bits ||| 1 <<< n) 0

/-- The capital letters as a set of bits, in which a letter is found in one step. -/
def capitalBits : Nat :=
  bitSet capitalLetters

def isSmall (c : Char) : Bool :=
  !capitalBits.testBit c.toNat

section Small

variable {c : Char}

theorem testBit_bitSet {ns : List Nat} {n : Nat} : (bitSet ns).testBit n = true ↔ n ∈ ns := by
  induction ns with
  | nil => simp [bitSet]
  | cons k ns ih =>
    have hcons : bitSet (k :: ns) = bitSet ns ||| 1 <<< k := rfl
    rw [hcons, Nat.testBit_or, Bool.or_eq_true, ih, Nat.one_shiftLeft, Nat.testBit_two_pow,
      decide_eq_true_iff, List.mem_cons, eq_comm, or_comm]

theorem isSmall_iff : isSmall c = true ↔ c.toNat ∉ capitalLetters := by
  rw [isSmall, Bool.not_eq_true', ← Bool.not_eq_true, capitalBits, testBit_bitSet]

theorem CaseRun.mem_letters {r : CaseRun} {n : Nat} (h : r.contains n = true) : n ∈ r.letters := by
  simp only [contains, Bool.and_eq_true, decide_eq_true_eq, beq_iff_eq] at h
  obtain ⟨⟨hfirst, hlast⟩, hstep⟩ := h
  refine List.mem_map.2 ⟨(n - r.first) / r.step, ?_, ?_⟩
  · rw [List.mem_range, Nat.lt_succ_iff]
    exact Nat.div_le_div_right (Nat.sub_le_sub_right hlast r.first)
  · rw [Nat.mul_div_cancel' (Nat.dvd_of_mod_eq_zero hstep)]
    omega

theorem exists_of_lowerCode? {n k : Nat} (h : lowerCode? n = some k) :
    ∃ r ∈ capitalRuns, n ∈ r.letters ∧ k = (n + r.shift).toNat := by
  obtain ⟨r, hr, rfl⟩ := Option.map_eq_some_iff.1 h
  have hcontains := List.find?_some hr
  exact ⟨r, List.mem_of_find?_eq_some hr, CaseRun.mem_letters hcontains, rfl⟩

theorem toLower_of_isSmall (h : isSmall c = true) : c.toLower = c := by
  refine dif_neg ?_
  rintro ⟨hfirst, hlast⟩
  have hge : 0x41 ≤ c.toNat := UInt32.le_iff_toNat_le.1 hfirst
  have hle : c.toNat ≤ 0x5a := UInt32.le_iff_toNat_le.1 hlast
  refine isSmall_iff.1 h (List.mem_append_left _ (List.mem_append_left _ ?_))
  rw [List.mem_range'_1]
  omega

theorem isLowered_of_isSmall (h : isSmall c = true) : IsLowered c := by
  have hcapital : c.toNat ∉ capitalLetters := isSmall_iff.1 h
  have hspecial : ∀ n ∈ [0x130, 0x3a3], c.toNat ≠ n := by
    rintro n hn rfl
    exact hcapital (List.mem_append_left _ (List.mem_append_right _ hn))
  constructor
  · rintro rfl
    exact hspecial 0x3a3 (by decide) rfl
  · unfold lowerChar
    split
    · rw [toLower_of_isSmall h]
    · split
      · rename_i hdotted
        rw [beq_iff_eq.1 hdotted] at hspecial
        exact absurd rfl (hspecial 0x130 (by decide))
      · split
        · rename_i k hcode
          obtain ⟨r, hr, hmem, _⟩ := exists_of_lowerCode? hcode
          exact absurd (List.mem_append_right _ (List.mem_flatMap.2 ⟨r, hr, hmem⟩)) hcapital
        · rfl

end Small

theorem isSmall_lowered :
    ((List.range 0x80).all fun n => isSmall (Char.ofNat n).toLower) = true ∧
      ['i', '\u0307', 'σ', 'ς'].all isSmall = true ∧
      (capitalRuns.all fun r => r.letters.all fun n => isSmall (Char.ofNat (n + r.shift).toNat)) =
        true := by
  decide +kernel

theorem isLowered_of_mem_lowerChar {c d : Char} (hc : c ≠ 'Σ') (hd : d ∈ lowerChar c) :
    IsLowered d := by
  obtain ⟨hascii, hspecial, hlisted⟩ := isSmall_lowered
  rw [List.all_eq_true] at hascii hspecial hlisted
  have hfixed : lowerChar c = [c] → IsLowered d := by
    intro h
    rw [h, List.mem_singleton] at hd
    rw [hd]
    exact ⟨hc, h⟩
  unfold lowerChar at hd hfixed
  split at hd
  · rename_i hlt
    have hsmall := hascii c.toNat (List.mem_range.2 hlt)
    rw [Char.ofNat_toNat, ← List.mem_singleton.1 hd] at hsmall
    exact isLowered_of_isSmall hsmall
  · rename_i hlt
    rw [if_neg hlt] at hfixed
    split at hd
    · refine isLowered_of_isSmall (hspecial d ?_)
      exact List.mem_append_left _ hd
    · rename_i hdotted
      rw [if_neg hdotted] at hfixed
      split at hd
      · rename_i k hcode
        obtain ⟨r, hr, hmem, rfl⟩ := exists_of_lowerCode? hcode
        rw [List.mem_singleton.1 hd]
        exact isLowered_of_isSmall (List.all_eq_true.1 (hlisted r hr) _ hmem)
      · rename_i hcode
        rw [hcode] at hfixed
        exact hfixed rfl

theorem isLowered_lowerSigma (before after : List Char) : IsLowered (lowerSigma before after) := by
  have hspecial := List.all_eq_true.1 isSmall_lowered.2.1
  unfold lowerSigma
  split
  · exact isLowered_of_isSmall (hspecial 'ς' (by decide))
  · exact isLowered_of_isSmall (hspecial 'σ' (by decide))

theorem isLowered_of_mem_lowerFrom {before cs : List Char} {d : Char}
    (hd : d ∈ lowerFrom before cs) : IsLowered d := by
  induction cs generalizing before with
  | nil => cases hd
  | cons c rest ih =>
    rw [lowerFrom] at hd
    split at hd
    · rcases List.mem_cons.1 hd with rfl | hd
      · exact isLowered_lowerSigma before rest
      · exact ih hd
    · rename_i hc
      rcases List.mem_append.1 hd with hd | hd
      · exact isLowered_of_mem_lowerChar (fun h => hc (beq_iff_eq.2 h)) hd
      · exact ih hd

theorem lowerFrom_of_isLowered {cs : List Char} (h : ∀ c ∈ cs, IsLowered c) (before : List Char) :
    lowerFrom before cs = cs := by
  induction cs generalizing before with
  | nil => rfl
  | cons c rest ih =>
    rw [List.forall_mem_cons] at h
    have hsigma : (c == 'Σ') = false := beq_eq_false_iff_ne.2 h.1.1
    rw [lowerFrom, hsigma, if_neg Bool.false_ne_true, h.1.2, ih h.2]
    rfl

theorem lowerCase_lowerCase (s : String) : lowerCase (lowerCase s) = lowerCase s := by
  have hlowered : ∀ c ∈ (lowerCase s).toList, IsLowered c := by
    intro c hc
    rw [toList_lowerCase] at hc
    exact isLowered_of_mem_lowerFrom hc
  rw [← String.toList_inj, toList_lowerCase, lowerFrom_of_isLowered hlowered]

end CryptoSurvey.Text
