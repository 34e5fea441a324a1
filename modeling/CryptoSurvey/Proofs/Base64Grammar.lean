import CryptoSurvey.Matching.Matcher

namespace CryptoSurvey

namespace Base64

def alphabet : List Char :=
  ['A', 'B', 'C', 'D', 'E', 'F', 'G', 'H', 'I', 'J', 'K', 'L', 'M', 'N', 'O', 'P', 'Q', 'R', 'S',
   'T', 'U', 'V', 'W', 'X', 'Y', 'Z', 'a', 'b', 'c', 'd', 'e', 'f', 'g', 'h', 'i', 'j', 'k', 'l',
   'm', 'n', 'o', 'p', 'q', 'r', 's', 't', 'u', 'v', 'w', 'x', 'y', 'z', '0', '1', '2', '3', '4',
   '5', '6', '7', '8', '9', '+', '/']

/-- What may follow the complete groups of a text. -/
inductive Ending : List Char → Prop
  | none : Ending []
  | two {a b : Char} (ha : a ∈ alphabet) (hb : b ∈ alphabet) : Ending [a, b]
  | three {a b c : Char} (ha : a ∈ alphabet) (hb : b ∈ alphabet) (hc : c ∈ alphabet) :
      Ending [a, b, c]
  | twoPadded {a b : Char} (ha : a ∈ alphabet) (hb : b ∈ alphabet) : Ending [a, b, '=', '=']
  | threePadded {a b c : Char} (ha : a ∈ alphabet) (hb : b ∈ alphabet) (hc : c ∈ alphabet) :
      Ending [a, b, c, '=']

/-- Complete groups of four digits, and an ending. -/
inductive Encoded : List Char → Prop
  | ending {cs : List Char} (h : Ending cs) : Encoded cs
  | group {a b c d : Char} {cs : List Char} (ha : a ∈ alphabet) (hb : b ∈ alphabet)
      (hc : c ∈ alphabet) (hd : d ∈ alphabet) (h : Encoded cs) : Encoded (a :: b :: c :: d :: cs)

section Digits

variable {c : Char}

/-- Capital letters, small letters, decimal digits and two signs. -/
def IsDigitCode (n : Nat) : Prop :=
  0x41 ≤ n ∧ n ≤ 0x5A ∨ 0x61 ≤ n ∧ n ≤ 0x7A ∨ 0x30 ≤ n ∧ n ≤ 0x39 ∨ n = 0x2B ∨ n = 0x2F

instance (n : Nat) : Decidable (IsDigitCode n) := instDecidableOr

theorem isDigit_iff_code : isDigit c = true ↔ IsDigitCode c.toNat := by
  have hle {a b : UInt32} : decide (a ≤ b) = true ↔ a.toNat ≤ b.toNat :=
    decide_eq_true_iff.trans UInt32.le_iff_toNat_le
  have hupper : c.isUpper = true ↔ 0x41 ≤ c.toNat ∧ c.toNat ≤ 0x5A :=
    decide_eq_true_iff.trans (and_congr UInt32.le_iff_toNat_le UInt32.le_iff_toNat_le)
  have hlower : c.isLower = true ↔ 0x61 ≤ c.toNat ∧ c.toNat ≤ 0x7A :=
    Bool.and_eq_true_iff.trans (and_congr hle hle)
  have hplus : c = '+' ↔ c.toNat = 0x2B := Char.toNat_inj.symm
  have hslash : c = '/' ↔ c.toNat = 0x2F := Char.toNat_inj.symm
  change ((((c.isUpper || c.isLower) || c.isDigit) || c == '+') || c == '/') = true ↔ _
  simp only [Bool.or_eq_true, beq_iff_eq, hupper, hlower, Char.isDigit_iff_toNat, hplus, hslash,
    or_assoc]
  rfl

theorem mem_alphabet_iff_code : c ∈ alphabet ↔ IsDigitCode c.toNat := by
  have hcodes : ∀ n ∈ alphabet.map Char.toNat, n < 0x80 := by decide
  have hall : ∀ n < 0x80, n ∈ alphabet.map Char.toNat ↔ IsDigitCode n := by
    decide +kernel
  have hcode : c ∈ alphabet ↔ c.toNat ∈ alphabet.map Char.toNat := by
    simp only [List.mem_map, Char.toNat_inj, exists_eq_right]
  rw [hcode]
  constructor
  · intro h
    exact (hall _ (hcodes _ h)).1 h
  · intro h
    have hlt : c.toNat < 0x80 := by
      unfold IsDigitCode at h
      omega
    exact (hall _ hlt).2 h

theorem isDigit_iff : isDigit c = true ↔ c ∈ alphabet :=
  isDigit_iff_code.trans mem_alphabet_iff_code.symm

theorem toNat_lt_of_mem_alphabet (h : c ∈ alphabet) : c.toNat < 0x80 := by
  have hcode := mem_alphabet_iff_code.1 h
  unfold IsDigitCode at hcode
  omega

theorem ne_padding_of_isDigit (h : isDigit c = true) : c ≠ '=' := by
  rintro rfl
  revert h
  decide

end Digits

section Shape

variable {ds cs : List Char} {k : Nat}

/-- So many digits have so much padding: as much as completes their last group, or none. -/
def Completes (n k : Nat) : Prop :=
  k = 0 ∧ n % 4 ≠ 1 ∨ 0 < k ∧ k ≤ 2 ∧ (n + k) % 4 = 0

theorem encoded_of_completes (hds : ∀ c ∈ ds, c ∈ alphabet) (h : Completes ds.length k) :
    Encoded (ds ++ List.replicate k '=') := by
  induction hn : ds.length using Nat.strongRecOn generalizing ds with
  | ind n ih =>
    rcases ds with _ | ⟨a, _ | ⟨b, _ | ⟨c, _ | ⟨d, ds⟩⟩⟩⟩
    · have hk : k = 0 := by
        simp only [Completes, List.length_nil] at h
        omega
      subst hk
      exact .ending .none
    · simp only [Completes, List.length_singleton] at h
      omega
    · simp only [List.forall_mem_cons] at hds
      obtain ⟨ha, hb, _⟩ := hds
      have hk : k = 0 ∨ k = 2 := by
        simp only [Completes, List.length_cons, List.length_nil] at h
        omega
      rcases hk with rfl | rfl
      · exact .ending (.two ha hb)
      · exact .ending (.twoPadded ha hb)
    · simp only [List.forall_mem_cons] at hds
      obtain ⟨ha, hb, hc, _⟩ := hds
      have hk : k = 0 ∨ k = 1 := by
        simp only [Completes, List.length_cons, List.length_nil] at h
        omega
      rcases hk with rfl | rfl
      · exact .ending (.three ha hb hc)
      · exact .ending (.threePadded ha hb hc)
    · simp only [List.forall_mem_cons] at hds
      obtain ⟨ha, hb, hc, hd, hds⟩ := hds
      have hrest : Completes ds.length k := by
        simp only [Completes, List.length_cons] at h ⊢
        omega
      refine .group ha hb hc hd (ih ds.length ?_ hds hrest rfl)
      simp only [List.length_cons] at hn
      omega

theorem Encoded.exists_completes (h : Encoded cs) :
    ∃ ds k, cs = ds ++ List.replicate k '=' ∧ (∀ c ∈ ds, c ∈ alphabet) ∧ Completes ds.length k := by
  induction h with
  | ending h =>
    cases h with
    | none => exact ⟨[], 0, rfl, by simp, by simp [Completes]⟩
    | @two a b ha hb => exact ⟨[a, b], 0, rfl, by simp [ha, hb], by simp [Completes]⟩
    | @three a b c ha hb hc =>
      exact ⟨[a, b, c], 0, rfl, by simp [ha, hb, hc], by simp [Completes]⟩
    | @twoPadded a b ha hb => exact ⟨[a, b], 2, rfl, by simp [ha, hb], by simp [Completes]⟩
    | @threePadded a b c ha hb hc =>
      exact ⟨[a, b, c], 1, rfl, by simp [ha, hb, hc], by simp [Completes]⟩
  | @group a b c d _ ha hb hc hd _ ih =>
    obtain ⟨ds, k, rfl, hds, hcomplete⟩ := ih
    refine ⟨a :: b :: c :: d :: ds, k, rfl, ?_, ?_⟩
    · simp only [List.forall_mem_cons]
      exact ⟨ha, hb, hc, hd, hds⟩
    · simp only [Completes, List.length_cons] at hcomplete ⊢
      omega

theorem body_append_replicate (hds : ∀ c ∈ ds, isDigit c = true) :
    body (ds ++ List.replicate k '=') = ds := by
  have hpadding : ∀ c ∈ List.replicate k '=', (c == '=') = true := by
    intro c hc
    exact beq_iff_eq.2 (List.eq_of_mem_replicate hc)
  have hdigits : ∀ c ∈ ds.reverse, ¬ (c == '=') = true := by
    intro c hc h
    exact ne_padding_of_isDigit (hds c (List.mem_reverse.1 hc)) (beq_iff_eq.1 h)
  have hkept : ds.reverse.dropWhile (· == '=') = ds.reverse := by
    cases hrev : ds.reverse with
    | nil => rfl
    | cons c cs =>
      rw [hrev] at hdigits
      exact List.dropWhile_cons_of_neg (hdigits c List.mem_cons_self)
  rw [body, List.reverse_append, List.reverse_replicate, List.dropWhile_append_of_pos hpadding,
    hkept, List.reverse_reverse]

theorem exists_eq_body_append (cs : List Char) : ∃ k, cs = body cs ++ List.replicate k '=' := by
  have hpadding : ∀ c ∈ cs.reverse.takeWhile (· == '='), c = '=' := by
    intro c hc
    exact beq_iff_eq.1 (List.all_eq_true.1 List.all_takeWhile c hc)
  refine ⟨(cs.reverse.takeWhile (· == '=')).length, ?_⟩
  rw [body, ← List.reverse_replicate, ← List.eq_replicate_of_mem hpadding, ← List.reverse_append,
    List.takeWhile_append_dropWhile, List.reverse_reverse]

end Shape

section Looks

variable {n k : Nat} {value : String} {ds : List Char}

theorem utf8ByteSize_ofList {cs : List Char} (h : ∀ c ∈ cs, c.toNat < 0x80) :
    (String.ofList cs).utf8ByteSize = cs.length := by
  induction cs with
  | nil => rfl
  | cons c cs ih =>
    rw [List.forall_mem_cons] at h
    have hc : c.utf8Size = 1 := Char.utf8Size_eq_one_iff.2 (Nat.le_of_lt_succ h.1)
    rw [String.ofList_cons, String.utf8ByteSize_append, String.utf8ByteSize_singleton, ih h.2, hc,
      List.length_cons, Nat.add_comm]

theorem Encoded.utf8ByteSize_eq (h : Encoded value.toList) : value.utf8ByteSize = value.length := by
  obtain ⟨ds, k, hvalue, hds, _⟩ := h.exists_completes
  have hascii : ∀ c ∈ value.toList, c.toNat < 0x80 := by
    intro c hc
    rw [hvalue, List.mem_append] at hc
    rcases hc with hc | hc
    · exact toNat_lt_of_mem_alphabet (hds c hc)
    · rw [List.eq_of_mem_replicate hc]
      decide
  have hsize := utf8ByteSize_ofList hascii
  rwa [String.ofList_toList, String.length_toList] at hsize

theorem looksEncoded_of_body (hvalue : value.toList = ds ++ List.replicate k '=')
    (hbody : body value.toList = ds) : looksEncoded n value = true ↔
      max n 1 ≤ value.utf8ByteSize ∧ ds ≠ [] ∧ (∀ c ∈ ds, c ∈ alphabet) ∧
        Completes ds.length k := by
  have hlength : value.toList.length = ds.length + k := by
    rw [hvalue, List.length_append, List.length_replicate]
  have hpadding : value.toList.length - ds.length = k := by
    rw [hlength, Nat.add_sub_cancel_left]
  have hcompletes : k ≤ 2 ∧
      (if k == 0 then ds.length % 4 != 1 else (ds.length + k) % 4 == 0) = true ↔
        Completes ds.length k := by
    cases k with
    | zero => simp [Completes]
    | succ k => simp [Completes]
  have hdigits : ds.all isDigit = true ↔ ∀ c ∈ ds, c ∈ alphabet := by
    simp only [List.all_eq_true, isDigit_iff]
  have hne : (!ds.isEmpty) = true ↔ ds ≠ [] := by simp
  simp only [looksEncoded, hbody, hpadding, Bool.and_eq_true, hdigits, hne, decide_eq_true_eq]
  rw [← hcompletes, hlength]
  constructor
  · rintro ⟨⟨⟨⟨hsize, hk⟩, hne⟩, hdigits⟩, hgroups⟩
    exact ⟨hsize, hne, hdigits, hk, hgroups⟩
  · rintro ⟨hsize, hne, hdigits, hk, hgroups⟩
    exact ⟨⟨⟨⟨hsize, hk⟩, hne⟩, hdigits⟩, hgroups⟩

/-- A text looks like base64 if and only if it is long enough and has the form of an encoding. -/
theorem looksEncoded_iff : looksEncoded n value = true ↔
    max 1 n ≤ value.length ∧ Encoded value.toList := by
  rw [Nat.max_comm]
  constructor
  · intro h
    obtain ⟨k, hvalue⟩ := exists_eq_body_append value.toList
    obtain ⟨hsize, _, hds, hcompletes⟩ := (looksEncoded_of_body hvalue rfl).1 h
    have hencoded : Encoded value.toList := hvalue ▸ encoded_of_completes hds hcompletes
    exact ⟨hencoded.utf8ByteSize_eq ▸ hsize, hencoded⟩
  · rintro ⟨hsize, hencoded⟩
    obtain ⟨ds, k, hvalue, hds, hcompletes⟩ := hencoded.exists_completes
    have hbody : body value.toList = ds := by
      rw [hvalue, body_append_replicate fun c hc => isDigit_iff.2 (hds c hc)]
    have hne : ds ≠ [] := by
      rintro rfl
      have hk : k = 0 := by
        simp only [Completes, List.length_nil] at hcompletes
        omega
      rw [← String.length_toList, hvalue, hk] at hsize
      exact absurd (Nat.le_trans (Nat.le_max_right n 1) hsize) (by decide)
    exact (looksEncoded_of_body hvalue hbody).2
      ⟨hencoded.utf8ByteSize_eq.symm ▸ hsize, hne, hds, hcompletes⟩

end Looks

section Encode

theorem length_alphabet : alphabet.length = 64 := by decide

/-- The digit of a value, of which the last six bits count. -/
def digit (n : Nat) : Char :=
  alphabet.get ⟨n % 64, length_alphabet ▸ Nat.mod_lt n (by decide)⟩

def digits (a b c : UInt8) : List Char :=
  let n := 0x10000 * a.toNat + 0x100 * b.toNat + c.toNat
  [digit (n / 0x40000), digit (n / 0x1000), digit (n / 0x40), digit n]

/-- The text of bytes, with or without padding. Of an incomplete group only the digits that its bytes
reach are written. -/
def encode (padded : Bool) : List UInt8 → List Char
  | [] => []
  | [a] => (digits a 0 0).take 2 ++ if padded then ['=', '='] else []
  | [a, b] => (digits a b 0).take 3 ++ if padded then ['='] else []
  | a :: b :: c :: rest => digits a b c ++ encode padded rest

theorem digit_mem_alphabet (n : Nat) : digit n ∈ alphabet :=
  List.get_mem alphabet _

theorem encoded_encode (padded : Bool) (bytes : List UInt8) : Encoded (encode padded bytes) := by
  have hdigit := digit_mem_alphabet
  fun_induction encode padded bytes with
  | case1 => exact .ending .none
  | case2 a =>
    cases padded with
    | false => exact .ending (.two (hdigit _) (hdigit _))
    | true => exact .ending (.twoPadded (hdigit _) (hdigit _))
  | case3 a b =>
    cases padded with
    | false => exact .ending (.three (hdigit _) (hdigit _) (hdigit _))
    | true => exact .ending (.threePadded (hdigit _) (hdigit _) (hdigit _))
  | case4 a b c rest ih => exact .group (hdigit _) (hdigit _) (hdigit _) (hdigit _) ih

theorem encode_ne_nil (padded : Bool) {bytes : List UInt8} (h : bytes ≠ []) :
    encode padded bytes ≠ [] := by
  fun_cases encode padded bytes with
  | case1 => exact absurd rfl h
  | case2 a => exact List.cons_ne_nil _ _
  | case3 a b => exact List.cons_ne_nil _ _
  | case4 a b c rest => exact List.cons_ne_nil _ _

example : encode true (Text.utf8 "abcdefghijklmnopqrstuv") =
    "YWJjZGVmZ2hpamtsbW5vcHFyc3R1dg==".toList := by
  decide +kernel

end Encode

end Base64

/-- Under all filters, a text looks like base64 if and only if it has at least the least number of
characters, and one, and consists of complete groups of four digits and one of the five endings. So
every encoding of bytes, padded or not, looks like base64 if it is not too short. -/
theorem Matcher.looksLikeBase64_exact (m : Matcher) :
    (∀ value : String, m.looksLikeBase64 value = true ↔
      max 1 m.exclusions.base64MinLength ≤ value.length ∧ Base64.Encoded value.toList) ∧
    ∀ (padded : Bool) (bytes : List UInt8), bytes ≠ [] →
      m.exclusions.base64MinLength ≤ (Base64.encode padded bytes).length →
      m.looksLikeBase64 (String.ofList (Base64.encode padded bytes)) = true := by
  refine ⟨fun value => Base64.looksEncoded_iff, ?_⟩
  intro padded bytes hne hlength
  have hpos := List.length_pos_iff.2 (Base64.encode_ne_nil padded hne)
  refine Base64.looksEncoded_iff.2 ⟨?_, ?_⟩
  · rw [String.length_ofList]
    exact Nat.max_le.2 ⟨hpos, hlength⟩
  · rw [String.toList_ofList]
    exact Base64.encoded_encode padded bytes

/-- Twenty-two bytes have an encoding of thirty digits, which needs all its padding or none. -/
theorem Matcher.looksLikeBase64_exact_paddings :
    let m : Matcher := ⟨[], {}⟩
    let bytes := Text.utf8 "abcdefghijklmnopqrstuv"
    m.looksLikeBase64 (String.ofList (Base64.encode true bytes)) = true ∧
      m.looksLikeBase64 (String.ofList (Base64.encode false bytes)) = true ∧
      ¬ Base64.Encoded "YWJjZGVmZ2hpamtsbW5vcHFyc3R1dg=".toList := by
  obtain ⟨hexact, hencodings⟩ := looksLikeBase64_exact ⟨[], {}⟩
  refine ⟨hencodings true _ (by decide +kernel) (by decide +kernel),
    hencodings false _ (by decide +kernel) (by decide +kernel), ?_⟩
  intro h
  have hlooks := (hexact "YWJjZGVmZ2hpamtsbW5vcHFyc3R1dg=").2 ⟨by decide +kernel, h⟩
  revert hlooks
  decide +kernel

end CryptoSurvey
