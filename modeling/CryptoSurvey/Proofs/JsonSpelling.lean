import CryptoSurvey.Json.Decode
import CryptoSurvey.Json.Value

namespace CryptoSurvey.Json

variable {α : Type}

def Blank (s : List Char) : Prop :=
  ∀ c ∈ s, isSpace c = true

section Text

inductive SpellsUnit : List Char → Nat → Prop
  | mk {a b c d : Char} {i j k l : Nat} (ha : hexValue? a = some i) (hb : hexValue? b = some j)
      (hc : hexValue? c = some k) (hd : hexValue? d = some l) :
      SpellsUnit [a, b, c, d] (((i * 16 + j) * 16 + k) * 16 + l)

/-- A character inside quotes: itself, a backslash with a letter, or its code units. -/
inductive SpellsChar : List Char → Char → Prop
  | plain {c : Char} (hquote : c ≠ '"') (hbackslash : c ≠ '\\') (hcontrol : 0x20 ≤ c.toNat) :
      SpellsChar [c] c
  | letter {c e : Char} (h : shortEscape? e = some c) : SpellsChar ['\\', e] c
  | unit {t : List Char} {c : Char} (h : SpellsUnit t c.toNat) : SpellsChar ('\\' :: 'u' :: t) c
  | pair {t u : List Char} {c : Char} (hwide : 0x10000 ≤ c.toNat)
      (hlead : SpellsUnit t (0xD800 + (c.toNat - 0x10000) / 0x400))
      (htrail : SpellsUnit u (0xDC00 + (c.toNat - 0x10000) % 0x400)) :
      SpellsChar ('\\' :: 'u' :: (t ++ '\\' :: 'u' :: u)) c

inductive SpellsChars : List Char → List Char → Prop
  | nil : SpellsChars [] []
  | cons {t ts cs : List Char} {c : Char} (hc : SpellsChar t c) (hcs : SpellsChars ts cs) :
      SpellsChars (t ++ ts) (c :: cs)

inductive SpellsText : List Char → String → Prop
  | mk {body : List Char} {s : String} (h : SpellsChars body s.toList) :
      SpellsText ('"' :: (body ++ ['"'])) s

end Text

section Value

inductive Padded (spells : List Char → α → Prop) : List Char → α → Prop
  | mk {before t after : List Char} {a : α} (hbefore : Blank before) (ht : spells t a)
      (hafter : Blank after) : Padded spells (before ++ (t ++ after)) a

inductive Continued (spells : List Char → α → Prop) : List Char → List α → Prop
  | nil : Continued spells [] []
  | cons {t ts : List Char} {a : α} {as : List α} (ha : spells t a)
      (has : Continued spells ts as) : Continued spells (',' :: (t ++ ts)) (a :: as)

/-- Parts with commas between them, or blanks if there are none. -/
inductive Separated (spells : List Char → α → Prop) : List Char → List α → Prop
  | nil {t : List Char} (ht : Blank t) : Separated spells t []
  | cons {t ts : List Char} {a : α} {as : List α} (ha : spells t a)
      (has : Continued spells ts as) : Separated spells (t ++ ts) (a :: as)

inductive SpellsMember (spells : List Char → Json → Prop) : List Char → String × Json → Prop
  | mk {t u : List Char} {k : String} {v : Json} (ht : Padded SpellsText t k)
      (hu : Padded spells u v) : SpellsMember spells (t ++ ':' :: u) (k, v)

/-- The texts of a value. -/
inductive Spells : List Char → Json → Prop
  | null : Spells ['n', 'u', 'l', 'l'] .null
  | isTrue : Spells ['t', 'r', 'u', 'e'] (.boolean true)
  | isFalse : Spells ['f', 'a', 'l', 's', 'e'] (.boolean false)
  | integer (n : Int) : Spells (toString n).toList (.integer n)
  | text {t : List Char} {s : String} (h : SpellsText t s) : Spells t (.text s)
  | list {t : List Char} {items : List Json} (h : Separated (Padded Spells) t items) :
      Spells ('[' :: (t ++ [']'])) (.list items)
  | object {t : List Char} {members : List (String × Json)}
      (h : Separated (SpellsMember Spells) t members) :
      Spells ('\x7b' :: (t ++ ['\x7d'])) (.object members)

end Value

section ReadText

theorem skipSpace_append {w : List Char} (hw : Blank w) (s : List Char) :
    skipSpace (w ++ s) = skipSpace s :=
  List.dropWhile_append_of_pos hw

theorem skipSpace_cons {c : Char} (h : isSpace c = false) (s : List Char) :
    skipSpace (c :: s) = c :: s :=
  List.dropWhile_cons_of_neg (by simp [h])

theorem codeUnit_append {t : List Char} {n : Nat} (h : SpellsUnit t n) (rest : List Char) :
    codeUnit (t ++ rest) = .ok n ∧ (t ++ rest).drop 4 = rest := by
  cases h with
  | @mk a b c d i j k l ha hb hc hd =>
    refine ⟨?_, rfl⟩
    have hsize : ¬a.utf8Size + b.utf8Size + c.utf8Size + d.utf8Size < 4 := by
      have := a.utf8Size_pos
      have := b.utf8Size_pos
      have := c.utf8Size_pos
      have := d.utf8Size_pos
      omega
    simp [codeUnit, hsize, ha, hb, hc, hd]

theorem toNat_valid (c : Char) : c.toNat < 0xD800 ∨ 0xDFFF < c.toNat ∧ c.toNat < 0x110000 :=
  c.valid

theorem escaped_unit {t : List Char} {c : Char} (h : SpellsUnit t c.toNat) (rest : List Char) :
    escaped ('u' :: (t ++ rest)) = .ok (c, rest) := by
  obtain ⟨hunit, hdrop⟩ := codeUnit_append h rest
  have hvalid := toNat_valid c
  have hlead : isLeadSurrogate c.toNat = false := by
    simp [isLeadSurrogate]
    omega
  have htrail : isTrailSurrogate c.toNat = false := by
    simp [isTrailSurrogate]
    omega
  rw [escaped, unicodeEscape, hunit, hdrop]
  simp [bind, Except.bind, htrail, hlead, Char.ofNat_toNat]

theorem unicodeEscape_pair {s rest : List Char} {n m : Nat} (hn : codeUnit s = .ok n)
    (htrail : isTrailSurrogate n = false) (hlead : isLeadSurrogate n = true)
    (hdrop : s.drop 4 = '\\' :: 'u' :: rest) (hm : codeUnit rest = .ok m)
    (htrail' : isTrailSurrogate m = true) :
    unicodeEscape s =
      .ok (Char.ofNat (0x10000 + (n - 0xD800) * 0x400 + (m - 0xDC00)), rest.drop 4) := by
  simp only [unicodeEscape, bind, Except.bind, hn, htrail, hlead, hdrop, hm, htrail',
    Bool.false_eq_true, Bool.not_true, if_false, if_true]

theorem escaped_pair {t u : List Char} {c : Char} (hwide : 0x10000 ≤ c.toNat)
    (hlead : SpellsUnit t (0xD800 + (c.toNat - 0x10000) / 0x400))
    (htrail : SpellsUnit u (0xDC00 + (c.toNat - 0x10000) % 0x400)) (rest : List Char) :
    escaped ('u' :: (t ++ '\\' :: 'u' :: (u ++ rest))) = .ok (c, rest) := by
  obtain ⟨hn, hdrop⟩ := codeUnit_append hlead ('\\' :: 'u' :: (u ++ rest))
  obtain ⟨hm, hdrop'⟩ := codeUnit_append htrail rest
  have hvalid := toNat_valid c
  have htrails (n : Nat) : isTrailSurrogate n = true ↔ 0xDC00 ≤ n ∧ n ≤ 0xDFFF := by
    simp [isTrailSurrogate]
  have hleads (n : Nat) : isLeadSurrogate n = true ↔ 0xD800 ≤ n ∧ n ≤ 0xDBFF := by
    simp [isLeadSurrogate]
  rw [escaped, unicodeEscape_pair hn ?_ ?_ hdrop hm ?_, hdrop']
  · have hvalue : 0x10000 + (0xD800 + (c.toNat - 0x10000) / 0x400 - 0xD800) * 0x400 +
        (0xDC00 + (c.toNat - 0x10000) % 0x400 - 0xDC00) = c.toNat := by omega
    rw [hvalue, Char.ofNat_toNat]
  · rw [Bool.eq_false_iff, ne_eq, htrails]
    omega
  · rw [hleads]
    omega
  · rw [htrails]
    omega

theorem textFrom_backslash {c : Char} {s rest : List Char} (h : escaped s = .ok (c, rest)) (n : Nat)
    (done : List Char) : textFrom (n + 1) done ('\\' :: s) = textFrom n (c :: done) rest := by
  change (escaped s >>= fun p => textFrom n (p.1 :: done) p.2) = _
  rw [h]
  rfl

theorem textFrom_append {t : List Char} {c : Char} (h : SpellsChar t c) (n : Nat)
    (done rest : List Char) : textFrom (n + 1) done (t ++ rest) = textFrom n (c :: done) rest := by
  cases h with
  | plain hquote hbackslash hcontrol =>
    have hquote' : (c == '"') = false := beq_eq_false_iff_ne.2 hquote
    have hbackslash' : (c == '\\') = false := beq_eq_false_iff_ne.2 hbackslash
    rw [List.singleton_append, textFrom, hquote', hbackslash', if_neg Bool.false_ne_true,
      if_neg Bool.false_ne_true, if_neg (Nat.not_lt.2 hcontrol)]
  | @letter _ e he =>
    have hu : e ≠ 'u' := by
      rintro rfl
      cases he
    have hescaped : escaped (e :: rest) = .ok (c, rest) := by
      rw [escaped]
      · rw [he]
      · exact hu
    exact textFrom_backslash hescaped n done
  | unit h => exact textFrom_backslash (escaped_unit h rest) n done
  | pair hwide hlead htrail =>
    rw [List.cons_append, List.cons_append, List.append_assoc]
    exact textFrom_backslash (escaped_pair hwide hlead htrail rest) n done

theorem textFrom_of_spells {body cs : List Char} (h : SpellsChars body cs) (done rest : List Char)
    (spare : Nat) : textFrom (spare + cs.length + 1) done (body ++ '"' :: rest) =
      .ok (String.ofList (done.reverse ++ cs), rest) := by
  induction h generalizing done with
  | nil =>
    rw [List.append_nil]
    rfl
  | @cons t ts cs c hc _ ih =>
    rw [List.append_assoc, List.length_cons, ← Nat.add_assoc, textFrom_append hc]
    refine (ih (c :: done)).trans ?_
    rw [List.reverse_cons, List.append_assoc]
    rfl

theorem SpellsChar.ne_nil {t : List Char} {c : Char} (h : SpellsChar t c) : t ≠ [] := by
  cases h with
  | plain => exact List.cons_ne_nil _ _
  | letter => exact List.cons_ne_nil _ _
  | unit => exact List.cons_ne_nil _ _
  | pair => exact List.cons_ne_nil _ _

theorem SpellsChars.length_le {body cs : List Char} (h : SpellsChars body cs) :
    cs.length ≤ body.length := by
  induction h with
  | nil => exact Nat.le_refl 0
  | cons hc _ ih =>
    have hpos := List.length_pos_iff.2 hc.ne_nil
    rw [List.length_append, List.length_cons]
    omega

theorem textBody_of_spells {body : List Char} {s : String} (h : SpellsChars body s.toList)
    (rest : List Char) : textBody (body ++ '"' :: rest) = .ok (s, rest) := by
  have hlength : s.toList.length + 1 ≤ (body ++ '"' :: rest).length := by
    have hbody := h.length_le
    rw [List.length_append, List.length_cons]
    omega
  obtain ⟨spare, hspare⟩ := Nat.exists_eq_add_of_le' hlength
  rw [textBody, hspare]
  refine (textFrom_of_spells h [] rest spare).trans ?_
  rw [List.reverse_nil, List.nil_append, String.ofList_toList]

end ReadText

section ReadNumber

theorem toList_toString_natural (n : Nat) : (toString (n : Int)).toList = Nat.toDigits 10 n := by
  change (toString n).toList = _
  rw [Nat.toString_eq_ofList_toDigits, String.toList_ofList]

theorem exists_toDigits_eq_cons (n : Nat) :
    ∃ c cs, Nat.toDigits 10 n = c :: cs ∧ c.isDigit = true := by
  cases hdigits : Nat.toDigits 10 n with
  | nil => exact absurd hdigits Nat.toDigits_ne_nil
  | cons c cs =>
    have hmem : c ∈ Nat.toDigits 10 n := hdigits ▸ List.mem_cons_self
    exact ⟨c, cs, rfl, Nat.isDigit_of_mem_toDigits (by decide) (by decide) hmem⟩

theorem exists_toDigits_eq_cons_of_pos {n : Nat} (hn : 0 < n) :
    ∃ c cs, Nat.toDigits 10 n = c :: cs ∧ c.isDigit = true ∧ c ≠ '0' := by
  induction n using Nat.strongRecOn with
  | _ n ih =>
    rcases Nat.lt_or_ge n 10 with hlt | hge
    · rw [Nat.toDigits_of_lt_base hlt]
      refine ⟨n.digitChar, [], rfl, ?_⟩
      have hall : ∀ d < 10, 0 < d → d.digitChar.isDigit = true ∧ d.digitChar ≠ '0' := by decide
      exact hall n hlt hn
    · obtain ⟨c, cs, hcs, hc⟩ := ih (n / 10) (by omega) (by omega)
      rw [Nat.toDigits_of_base_le (by decide) hge, hcs]
      exact ⟨c, cs ++ [(n % 10).digitChar], rfl, hc⟩

theorem le_ofDigitChars (cs : List Char) (value : Nat) :
    value ≤ Nat.ofDigitChars 10 cs value := by
  induction cs generalizing value with
  | nil => exact Nat.le_refl value
  | cons c cs ih =>
    have h := ih (10 * value + (c.toNat - '0'.toNat))
    rw [Nat.ofDigitChars, List.foldl_cons, ← Nat.ofDigitChars]
    omega

theorem significandFrom_of_le (cs : List Char) {value : Nat}
    (h : Nat.ofDigitChars 10 cs value ≤ maxWord) :
    significandFrom value cs = (Nat.ofDigitChars 10 cs value, cs.length, false) := by
  induction cs generalizing value with
  | nil => rfl
  | cons c cs ih =>
    have hstep : Nat.ofDigitChars 10 (c :: cs) value =
        Nat.ofDigitChars 10 cs (10 * value + digitValue c) := rfl
    rw [hstep] at h ⊢
    have hle := Nat.le_trans (le_ofDigitChars cs _) h
    rw [significandFrom, if_pos hle, ih h]
    rfl

/-- What can follow a value: a blank, a comma, a closing bracket or the end of the text. -/
def Ends (rest : List Char) : Prop :=
  ∀ c ∈ rest.head?, isSpace c = true ∨ c = ',' ∨ c = ']' ∨ c = '\x7d'

theorem Ends.cases {rest : List Char} (h : Ends rest) {c : Char} (hc : rest.head? = some c) :
    c ∈ [' ', '\n', '\t', '\r', ',', ']', '\x7d'] := by
  have hc' := h c hc
  simp only [isSpace, Bool.or_eq_true, beq_iff_eq] at hc'
  simp only [List.mem_cons, List.not_mem_nil, or_false]
  grind

theorem Ends.isDigit_eq_false {rest : List Char} (h : Ends rest) {c : Char}
    (hc : rest.head? = some c) : c.isDigit = false := by
  have hall : [' ', '\n', '\t', '\r', ',', ']', '\x7d'].all (fun c => c.isDigit == false) = true := by
    decide
  exact beq_iff_eq.1 (List.all_eq_true.1 hall c (h.cases hc))

theorem numberEnd_of_ends {rest : List Char} (h : Ends rest) (n dropped : Nat) :
    numberEnd true n dropped false rest = .ok (.natural n, rest) := by
  cases rest with
  | nil => rfl
  | cons c cs =>
    have hc := h.cases rfl
    simp only [List.mem_cons, List.not_mem_nil, or_false] at hc
    rcases hc with rfl | rfl | rfl | rfl | rfl | rfl | rfl
    all_goals rfl

theorem digits_append {ds rest : List Char} (hds : ∀ c ∈ ds, c.isDigit = true) (h : Ends rest) :
    digits (ds ++ rest) = (ds, rest) := by
  have hrest : rest.takeWhile Char.isDigit = [] ∧ rest.dropWhile Char.isDigit = rest := by
    cases rest with
    | nil => exact ⟨rfl, rfl⟩
    | cons c cs => simp [h.isDigit_eq_false rfl]
  rw [digits, List.takeWhile_append_of_pos hds, List.dropWhile_append_of_pos hds, hrest.1, hrest.2,
    List.append_nil]

theorem number_toDigits {n : Nat} (hn : n ≤ maxWord) {rest : List Char} (h : Ends rest) :
    number true (Nat.toDigits 10 n ++ rest) = .ok (.natural n, rest) := by
  rcases Nat.eq_zero_or_pos n with rfl | hpos
  · have hhead : (rest.head?.map Char.isDigit).getD false = false := by
      cases rest with
      | nil => rfl
      | cons c cs => exact h.isDigit_eq_false rfl
    rw [Nat.toDigits_zero, List.singleton_append, number, if_pos (beq_self_eq_true '0'), hhead,
      if_neg Bool.false_ne_true, numberEnd_of_ends h]
  · obtain ⟨c, cs, hcs, hdigit, hne⟩ := exists_toDigits_eq_cons_of_pos hpos
    have hall : ∀ c ∈ Nat.toDigits 10 n, c.isDigit = true := fun c hc =>
      Nat.isDigit_of_mem_toDigits (by decide) (by decide) hc
    have hdigits := digits_append hall h
    have hvalue : Nat.ofDigitChars 10 (Nat.toDigits 10 n) 0 = n := Nat.ofDigitChars_ten_toDigits
    have hsignificand := significandFrom_of_le _ (Nat.le_trans (Nat.le_of_eq hvalue) hn)
    rw [hvalue] at hsignificand
    rw [hcs] at hdigits hsignificand ⊢
    have hzero : (c == '0') = false := beq_eq_false_iff_ne.2 hne
    rw [List.cons_append] at hdigits ⊢
    simp only [number, hzero, hdigit, hdigits, hsignificand, Bool.false_eq_true, if_false, if_true]
    exact numberEnd_of_ends h _ _

end ReadNumber

end CryptoSurvey.Json
