import CryptoSurvey.Hex
import CryptoSurvey.Json.Reader
import CryptoSurvey.Proofs.Failure
import Mathlib.Data.List.Induction

namespace CryptoSurvey.Hex

open Json (hexValue?)

/-- Two digits for each byte, of either case. -/
inductive Spells : List Char → List UInt8 → Prop
  | nil : Spells [] []
  | cons {b : UInt8} {bytes : List UInt8} {high low : Char} {cs : List Char}
      (hhigh : hexValue? high = some (b.toNat / 16)) (hlow : hexValue? low = some (b.toNat % 16))
      (hs : Spells cs bytes) : Spells (high :: low :: cs) (b :: bytes)

def EvenDigits (cs : List Char) : Prop :=
  cs.length % 2 = 0 ∧ ∀ c ∈ cs, (hexValue? c).isSome = true

section Digit

theorem lt_of_hexValue? {c : Char} {n : Nat} (h : hexValue? c = some n) :
    n < 16 ∧ c.toNat < 0x80 := by
  have hle {a b : Char} : a ≤ b ↔ a.toNat ≤ b.toNat := by
    rw [Char.le_def, UInt32.le_iff_toNat_le]
    rfl
  simp only [hexValue?, Char.isDigit_iff_toNat, Bool.and_eq_true, decide_eq_true_eq, hle] at h
  split at h
  · rename_i hc
    cases h
    have hlow : 0x30 ≤ c.toNat := hc.1
    have hhigh : c.toNat ≤ 0x39 := hc.2
    omega
  · split at h
    · rename_i hc
      cases h
      have hlow : 0x61 ≤ c.toNat := hc.1
      have hhigh : c.toNat ≤ 0x66 := hc.2
      omega
    · split at h
      · rename_i hc
        cases h
        have hlow : 0x41 ≤ c.toNat := hc.1
        have hhigh : c.toNat ≤ 0x46 := hc.2
        omega
      · cases h

theorem digit?_ofNat_toNat {c : Char} (h : c.toNat < 0x80) :
    digit? (UInt8.ofNat c.toNat) = (hexValue? c).map UInt8.ofNat := by
  have hall : ∀ n < 0x80, digit? (UInt8.ofNat n) = (hexValue? (Char.ofNat n)).map UInt8.ofNat := by
    decide
  have hc := hall c.toNat h
  rwa [Char.ofNat_toNat] at hc

theorem digit?_of_le {b : UInt8} (h : 0x80 ≤ b) : digit? b = none := by
  have hb : 0x80 ≤ b.toNat := UInt8.le_iff_toNat_le.1 h
  have hgreater {n : UInt8} (hn : n.toNat < 0x80) : decide (b ≤ n) = false := by
    rw [decide_eq_false_iff_not, UInt8.le_iff_toNat_le]
    omega
  rw [digit?, hgreater (by decide), hgreater (by decide), hgreater (by decide)]
  simp

theorem utf8EncodeChar_of_lt {c : Char} (hc : c.toNat < 0x80) :
    String.utf8EncodeChar c = [UInt8.ofNat c.toNat] := by
  have hle : c.val.toNat ≤ 127 := Nat.le_of_lt_succ hc
  rw [String.utf8EncodeChar, if_pos hle]
  rfl

theorem le_of_mem_utf8EncodeChar {c : Char} (hc : 0x80 ≤ c.toNat) {b : UInt8}
    (hb : b ∈ String.utf8EncodeChar c) : 0x80 ≤ b := by
  have hbyte {n : Nat} (hle : 0x80 ≤ n) (hlt : n < 0x100) : 0x80 ≤ UInt8.ofNat n := by
    rw [UInt8.le_iff_toNat_le, UInt8.toNat_ofNat_of_lt' hlt]
    exact hle
  have hlarge : ¬c.val.toNat ≤ 127 := Nat.not_le.2 hc
  rw [String.utf8EncodeChar, if_neg hlarge] at hb
  split at hb
  · simp only [List.mem_cons, List.not_mem_nil, or_false] at hb
    rcases hb with rfl | rfl
    all_goals apply hbyte <;> omega
  · split at hb
    · simp only [List.mem_cons, List.not_mem_nil, or_false] at hb
      rcases hb with rfl | rfl | rfl
      all_goals apply hbyte <;> omega
    · simp only [List.mem_cons, List.not_mem_nil, or_false] at hb
      rcases hb with rfl | rfl | rfl | rfl
      all_goals apply hbyte <;> omega

theorem digitAt_eq_ok_iff {b d : UInt8} {i : Nat} : digitAt b i = .ok d ↔ digit? b = some d := by
  rw [digitAt]
  cases digit? b with
  | none => simp
  | some e => simp

theorem toNat_pair {high low : Nat} (hhigh : high < 16) (hlow : low < 16) :
    (16 * UInt8.ofNat high + UInt8.ofNat low).toNat = 16 * high + low := by
  have hsize : UInt8.size = 256 := rfl
  have hsixteen : (16 : UInt8).toNat = 16 := rfl
  rw [UInt8.toNat_add, UInt8.toNat_mul, UInt8.toNat_ofNat_of_lt' (by omega),
    UInt8.toNat_ofNat_of_lt' (by omega), hsixteen]
  omega

end Digit

section Decode

variable {bytes : List UInt8} {cs : List Char}

theorem Spells.pair {high low : Char} {x y : Nat} (hx : hexValue? high = some x)
    (hy : hexValue? low = some y) (hs : Spells cs bytes) :
    Spells (high :: low :: cs) ((16 * UInt8.ofNat x + UInt8.ofNat y) :: bytes) := by
  have hlt := (lt_of_hexValue? hy).1
  have hpair := toNat_pair (lt_of_hexValue? hx).1 hlt
  refine .cons ?_ ?_ hs
  · rw [hx, hpair, Option.some_inj]
    omega
  · rw [hy, hpair, Option.some_inj]
    omega

theorem hexValue?_digitChar {d : UInt8} (h : d.toNat < 16) :
    hexValue? (digitChar d) = some d.toNat := by
  have hall : ∀ n < 16, hexValue? (digitChar (UInt8.ofNat n)) = some n := by decide
  have hd := hall d.toNat h
  rw [UInt8.ofNat_toNat] at hd
  exact hd

theorem spells_encode (bytes : List UInt8) : Spells (encode bytes).toList bytes := by
  rw [encode, String.toList_ofList]
  induction bytes with
  | nil => exact .nil
  | cons b bytes ih =>
    have hlt := b.toNat_lt
    have hsixteen : (16 : UInt8).toNat = 16 := rfl
    refine .cons ?_ ?_ ih
    · rw [hexValue?_digitChar, UInt8.toNat_div, hsixteen]
      rw [UInt8.toNat_div, hsixteen]
      omega
    · rw [hexValue?_digitChar, UInt8.toNat_mod, hsixteen]
      rw [UInt8.toNat_mod, hsixteen]
      omega

def ascii (cs : List Char) : List UInt8 :=
  cs.map fun c => UInt8.ofNat c.toNat

theorem flatMap_utf8EncodeChar (h : ∀ c ∈ cs, c.toNat < 0x80) :
    cs.flatMap String.utf8EncodeChar = ascii cs := by
  induction cs with
  | nil => rfl
  | cons c cs ih =>
    rw [List.forall_mem_cons] at h
    rw [List.flatMap_cons, utf8EncodeChar_of_lt h.1, ih h.2]
    rfl

theorem isSome_digit?_of_decodeFrom {i : Nat} {bs : List UInt8} (h : decodeFrom i bs = .ok bytes) :
    ∀ b ∈ bs, (digit? b).isSome = true := by
  induction bs using List.twoStepInduction generalizing i bytes with
  | nil => exact fun b hb => absurd hb List.not_mem_nil
  | singleton a => cases h
  | cons_cons a b rest ih _ =>
    obtain ⟨high, hhigh, h⟩ := exists_of_bind_eq_ok h
    obtain ⟨low, hlow, h⟩ := exists_of_bind_eq_ok h
    obtain ⟨bytes', hrest, _⟩ := exists_of_bind_eq_ok h
    rw [List.forall_mem_cons, List.forall_mem_cons, digitAt_eq_ok_iff.1 hhigh,
      digitAt_eq_ok_iff.1 hlow]
    exact ⟨rfl, rfl, ih hrest⟩

theorem toNat_lt_of_decodeFrom {i : Nat}
    (h : decodeFrom i (cs.flatMap String.utf8EncodeChar) = .ok bytes) :
    ∀ c ∈ cs, c.toNat < 0x80 := by
  intro c hc
  rcases Nat.lt_or_ge c.toNat 0x80 with hlt | hge
  · exact hlt
  · have hne : String.utf8EncodeChar c ≠ [] := by
      rw [← List.length_pos_iff, String.length_utf8EncodeChar]
      exact c.utf8Size_pos
    obtain ⟨b, hb⟩ := List.exists_mem_of_ne_nil _ hne
    have hsome := isSome_digit?_of_decodeFrom h b (List.mem_flatMap.2 ⟨c, hc, hb⟩)
    rw [digit?_of_le (le_of_mem_utf8EncodeChar hge hb)] at hsome
    cases hsome

theorem decodeFrom_of_spells (h : Spells cs bytes) (i : Nat) :
    decodeFrom i (ascii cs) = .ok bytes := by
  induction h generalizing i with
  | nil => rfl
  | @cons b bytes high low cs hhigh hlow _ ih =>
    have hhigh' := digit?_ofNat_toNat (lt_of_hexValue? hhigh).2
    have hlow' := digit?_ofNat_toNat (lt_of_hexValue? hlow).2
    rw [hhigh] at hhigh'
    rw [hlow] at hlow'
    have hb : 16 * UInt8.ofNat (b.toNat / 16) + UInt8.ofNat (b.toNat % 16) = b := by
      rw [← UInt8.toNat_inj, toNat_pair (by have := b.toNat_lt; omega) (by omega)]
      omega
    change decodeFrom i (UInt8.ofNat high.toNat :: UInt8.ofNat low.toNat :: ascii cs) = _
    rw [decodeFrom, digitAt_eq_ok_iff.2 hhigh', digitAt_eq_ok_iff.2 hlow', ih (i + 2)]
    change Except.ok ((16 * UInt8.ofNat (b.toNat / 16) + UInt8.ofNat (b.toNat % 16)) :: bytes) = _
    rw [hb]

theorem spells_of_decodeFrom {i : Nat} (hcs : ∀ c ∈ cs, c.toNat < 0x80)
    (h : decodeFrom i (ascii cs) = .ok bytes) : Spells cs bytes := by
  induction cs using List.twoStepInduction generalizing i bytes with
  | nil =>
    cases h
    exact .nil
  | singleton c => cases h
  | cons_cons c d cs ih _ =>
    rw [List.forall_mem_cons, List.forall_mem_cons] at hcs
    obtain ⟨high, hhigh, h⟩ := exists_of_bind_eq_ok h
    obtain ⟨low, hlow, h⟩ := exists_of_bind_eq_ok h
    obtain ⟨bytes', hrest, h⟩ := exists_of_bind_eq_ok h
    cases h
    rw [digitAt_eq_ok_iff, digit?_ofNat_toNat hcs.1] at hhigh
    rw [digitAt_eq_ok_iff, digit?_ofNat_toNat hcs.2.1] at hlow
    obtain ⟨x, hx, rfl⟩ := Option.map_eq_some_iff.1 hhigh
    obtain ⟨y, hy, rfl⟩ := Option.map_eq_some_iff.1 hlow
    exact .pair hx hy (ih hcs.2.2 hrest)

theorem Spells.evenDigits (h : Spells cs bytes) : EvenDigits cs := by
  induction h with
  | nil => exact ⟨rfl, fun c hc => absurd hc List.not_mem_nil⟩
  | @cons b bytes high low cs hhigh hlow _ ih =>
    refine ⟨?_, ?_⟩
    · rw [List.length_cons, List.length_cons]
      have := ih.1
      omega
    · rw [List.forall_mem_cons, List.forall_mem_cons, hhigh, hlow]
      exact ⟨rfl, rfl, ih.2⟩

theorem EvenDigits.exists_spells (h : EvenDigits cs) : ∃ bytes, Spells cs bytes := by
  induction cs using List.twoStepInduction with
  | nil => exact ⟨[], .nil⟩
  | singleton c => cases h.1
  | cons_cons c d cs ih _ =>
    obtain ⟨hlength, hdigits⟩ := h
    rw [List.forall_mem_cons, List.forall_mem_cons] at hdigits
    obtain ⟨x, hx⟩ := Option.isSome_iff_exists.1 hdigits.1
    obtain ⟨y, hy⟩ := Option.isSome_iff_exists.1 hdigits.2.1
    rw [List.length_cons, List.length_cons] at hlength
    obtain ⟨bytes, hbytes⟩ := ih ⟨by omega, hdigits.2.2⟩
    exact ⟨_, .pair hx hy hbytes⟩

theorem EvenDigits.toNat_lt (h : EvenDigits cs) : ∀ c ∈ cs, c.toNat < 0x80 := by
  intro c hc
  obtain ⟨n, hn⟩ := Option.isSome_iff_exists.1 (h.2 c hc)
  exact (lt_of_hexValue? hn).2

theorem decode_eq_ok_iff {s : String} : decode s = .ok bytes ↔ Spells s.toList bytes := by
  constructor
  · intro h
    simp only [decode] at h
    split at h
    · cases h
    · -- No byte of a longer character is a digit, so every character takes one byte.
      have hlt := toNat_lt_of_decodeFrom h
      rw [Text.utf8, flatMap_utf8EncodeChar hlt] at h
      exact spells_of_decodeFrom hlt h
  · intro h
    have heven := h.evenDigits
    have hutf8 : Text.utf8 s = ascii s.toList := flatMap_utf8EncodeChar heven.toNat_lt
    have hlength : (ascii s.toList).length % 2 = 0 := by
      rw [ascii, List.length_map]
      exact heven.1
    simp only [decode, hutf8, hlength]
    exact decodeFrom_of_spells h 0

theorem exists_decode_eq_ok_iff {s : String} :
    (∃ bytes, decode s = .ok bytes) ↔ EvenDigits s.toList := by
  simp only [decode_eq_ok_iff]
  constructor
  · rintro ⟨bytes, h⟩
    exact h.evenDigits
  · exact EvenDigits.exists_spells

end Decode

end CryptoSurvey.Hex
