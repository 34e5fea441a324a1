import CryptoSurvey.Text.LowerCase
import Mathlib.Data.List.Infix

namespace CryptoSurvey.Text

def IsAscii (s : String) : Prop :=
  ∀ c ∈ s.toList, c.toNat < 0x80

/-- The texts differ in the case of ASCII letters at most. -/
def EqUpToCase (s t : String) : Prop :=
  s.toList.map Char.toLower = t.toList.map Char.toLower

instance (s : String) : Decidable (IsAscii s) :=
  List.decidableBAll (fun c : Char => c.toNat < 0x80) s.toList

instance (s t : String) : Decidable (EqUpToCase s t) :=
  inferInstanceAs (Decidable (s.toList.map Char.toLower = t.toList.map Char.toLower))

theorem toNat_toLower_lt_iff {c : Char} : c.toLower.toNat < 0x80 ↔ c.toNat < 0x80 := by
  unfold Char.toLower
  split
  · rename_i h
    have hle : c.toNat ≤ 90 := UInt32.le_iff_toNat_le.1 h.2
    have hge : 65 ≤ c.toNat := UInt32.le_iff_toNat_le.1 h.1
    have hsum : (c.val + ('a'.val - 'A'.val)).toNat = c.toNat + 32 := by
      rw [UInt32.toNat_add]
      exact Nat.mod_eq_of_lt (by change c.toNat + 32 < 2 ^ 32; omega)
    change (c.val + ('a'.val - 'A'.val)).toNat < 0x80 ↔ _
    omega
  · rfl

theorem IsAscii.of_eqUpToCase {s t : String} (h : EqUpToCase s t) (ht : IsAscii t) : IsAscii s := by
  intro c hc
  have hmem : c.toLower ∈ t.toList.map Char.toLower := h ▸ List.mem_map_of_mem hc
  obtain ⟨d, hd, heq⟩ := List.mem_map.1 hmem
  rw [← toNat_toLower_lt_iff, ← heq, toNat_toLower_lt_iff]
  exact ht d hd

theorem lowerChar_ne_nil (c : Char) : lowerChar c ≠ [] := by
  unfold lowerChar
  repeat' split
  all_goals exact List.cons_ne_nil _ _

theorem exists_lowerFrom_cons (before : List Char) (c : Char) (rest : List Char) :
    ∃ u, u ≠ [] ∧ lowerFrom before (c :: rest) = u ++ lowerFrom (c :: before) rest := by
  rw [lowerFrom]
  split
  · exact ⟨[lowerSigma before rest], List.cons_ne_nil _ _, rfl⟩
  · exact ⟨lowerChar c, lowerChar_ne_nil c, rfl⟩

theorem exists_lowerFrom_append (before cs rest : List Char) :
    ∃ u, lowerFrom before (cs ++ rest) = u ++ lowerFrom (cs.reverse ++ before) rest := by
  induction cs generalizing before with
  | nil => exact ⟨[], rfl⟩
  | cons c cs ih =>
    obtain ⟨u, _, hu⟩ := exists_lowerFrom_cons before c (cs ++ rest)
    obtain ⟨v, hv⟩ := ih (c :: before)
    refine ⟨u ++ v, ?_⟩
    rw [List.cons_append, hu, hv, List.reverse_cons, List.append_assoc, List.append_assoc]
    rfl

/-- Neither what precedes ASCII text nor what follows it has an influence on its lower case. -/
theorem lowerFrom_append_of_ascii {cs : List Char} (h : ∀ c ∈ cs, c.toNat < 0x80)
    (before rest : List Char) :
    lowerFrom before (cs ++ rest) =
      cs.map Char.toLower ++ lowerFrom (cs.reverse ++ before) rest := by
  induction cs generalizing before with
  | nil => rfl
  | cons c cs ih =>
    rw [List.forall_mem_cons] at h
    have hsigma : (c == 'Σ') = false := by
      rw [beq_eq_false_iff_ne]
      rintro rfl
      exact absurd h.1 (by decide)
    rw [List.cons_append, lowerFrom, hsigma, if_neg Bool.false_ne_true, lowerChar, if_pos h.1,
      ih h.2, List.reverse_cons, List.append_assoc]
    rfl

theorem toList_lowerCase (s : String) : (lowerCase s).toList = lowerFrom [] s.toList :=
  String.toList_ofList

theorem toList_lowerCase_of_ascii {s : String} (h : IsAscii s) :
    (lowerCase s).toList = s.toList.map Char.toLower := by
  rw [toList_lowerCase, ← List.append_nil s.toList, lowerFrom_append_of_ascii h, lowerFrom]
  simp

theorem lowerCase_ne_nil {s : String} (h : s.toList ≠ []) : (lowerCase s).toList ≠ [] := by
  rw [toList_lowerCase]
  cases hs : s.toList with
  | nil => exact absurd hs h
  | cons c rest =>
    obtain ⟨u, hne, hu⟩ := exists_lowerFrom_cons [] c rest
    rw [hu]
    exact List.append_ne_nil_of_left_ne_nil hne _

theorem infix_lowerCase_append {s t : String} (ht : IsAscii t) (h : EqUpToCase s t) (x y : String) :
    (lowerCase t).toList <:+: (lowerCase (x ++ s ++ y)).toList := by
  have hs : IsAscii s := ht.of_eqUpToCase h
  obtain ⟨u, hu⟩ := exists_lowerFrom_append [] x.toList (s.toList ++ y.toList)
  rw [toList_lowerCase_of_ascii ht, toList_lowerCase, String.toList_append, String.toList_append,
    List.append_assoc, hu, lowerFrom_append_of_ascii hs, h, ← List.append_assoc]
  exact List.infix_append u _ _

end CryptoSurvey.Text
