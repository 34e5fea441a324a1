import CryptoSurvey.Proofs.JsonSpelling

namespace CryptoSurvey.Json

section Escape

theorem hexDigit_spec : ∀ d < 16, hexValue? (hexDigit d) = some d ∧ hexDigit d ≠ '\n' := by
  decide

/-- A character is written as itself, or as a backslash with a letter or with its number. -/
theorem escape_cases (c : Char) :
    (∃ e, escape c = ['\\', e] ∧ e ≠ 'u' ∧ shortEscape? e = some c) ∨
      (escape c = ['\\', 'u', '0', '0', hexDigit (c.toNat / 16), hexDigit (c.toNat % 16)] ∧
        c.toNat < 0x20) ∨
      escape c = [c] ∧ c ≠ '"' ∧ c ≠ '\\' ∧ 0x20 ≤ c.toNat := by
  by_cases h₁ : c = '"'
  · exact .inl ⟨'"', by rw [h₁]; rfl, by decide, by rw [h₁]; rfl⟩
  by_cases h₂ : c = '\\'
  · exact .inl ⟨'\\', by rw [h₂]; rfl, by decide, by rw [h₂]; rfl⟩
  by_cases h₃ : c = '\x08'
  · exact .inl ⟨'b', by rw [h₃]; rfl, by decide, by rw [h₃]; rfl⟩
  by_cases h₄ : c = '\x0c'
  · exact .inl ⟨'f', by rw [h₄]; rfl, by decide, by rw [h₄]; rfl⟩
  by_cases h₅ : c = '\n'
  · exact .inl ⟨'n', by rw [h₅]; rfl, by decide, by rw [h₅]; rfl⟩
  by_cases h₆ : c = '\r'
  · exact .inl ⟨'r', by rw [h₆]; rfl, by decide, by rw [h₆]; rfl⟩
  by_cases h₇ : c = '\t'
  · exact .inl ⟨'t', by rw [h₇]; rfl, by decide, by rw [h₇]; rfl⟩
  have hescape : escape c = if c.toNat < 0x20 then
      ['\\', 'u', '0', '0', hexDigit (c.toNat / 16), hexDigit (c.toNat % 16)] else [c] := by
    simp only [escape, beq_iff_eq, h₁, h₂, h₃, h₄, h₅, h₆, h₇, if_false]
  rcases Nat.lt_or_ge c.toNat 0x20 with h | h
  · exact .inr (.inl ⟨hescape.trans (if_pos h), h⟩)
  · exact .inr (.inr ⟨hescape.trans (if_neg (Nat.not_lt.2 h)), h₁, h₂, h⟩)

theorem newline_not_mem_escape (c : Char) : '\n' ∉ escape c := by
  rcases escape_cases c with ⟨e, hc, _, he⟩ | ⟨hc, hlt⟩ | ⟨hc, _, _, hle⟩
  · have hne : e ≠ '\n' := by
      rintro rfl
      cases he
    simp [hc, hne.symm]
  · have hhigh := (hexDigit_spec (c.toNat / 16) (by omega)).2
    have hlow := (hexDigit_spec (c.toNat % 16) (by omega)).2
    simp [hc, hhigh.symm, hlow.symm]
  · have hne : c ≠ '\n' := by
      rintro rfl
      revert hle
      decide
    simp [hc, hne.symm]

theorem newline_not_mem_quote (s : String) : '\n' ∉ quote s := by
  simp [quote, newline_not_mem_escape]

end Escape

section Spelling

theorem spellsChar_escape (c : Char) : SpellsChar (escape c) c := by
  rcases escape_cases c with ⟨e, hc, _, he⟩ | ⟨hc, hlt⟩ | ⟨hc, hquote, hbackslash, hle⟩
  · rw [hc]
    exact .letter he
  · have hhigh := (hexDigit_spec (c.toNat / 16) (by omega)).1
    have hlow := (hexDigit_spec (c.toNat % 16) (by omega)).1
    have hunit := SpellsUnit.mk (show hexValue? '0' = some 0 from rfl)
      (show hexValue? '0' = some 0 from rfl) hhigh hlow
    have hvalue : ((0 * 16 + 0) * 16 + c.toNat / 16) * 16 + c.toNat % 16 = c.toNat := by omega
    rw [hvalue] at hunit
    rw [hc]
    exact .unit hunit
  · rw [hc]
    exact .plain hquote hbackslash hle

theorem spellsText_quote (s : String) : SpellsText (quote s) s := by
  have hchars (cs : List Char) : SpellsChars (cs.flatMap escape) cs := by
    induction cs with
    | nil => exact .nil
    | cons c cs ih => exact .cons (spellsChar_escape c) ih
  exact .mk (hchars s.toList)

theorem padded_self {α : Type} {spells : List Char → α → Prop} {t : List Char} {a : α}
    (h : spells t a) : Padded spells t a := by
  have hpadded : Padded spells ([] ++ (t ++ [])) a := .mk (by simp [Blank]) h (by simp [Blank])
  rwa [List.nil_append, List.append_nil] at hpadded

theorem Separated.continued {α : Type} {spells : List Char → α → Prop} {t : List Char} {as : List α}
    (h : Separated spells t as) (hne : as ≠ []) : Continued spells (',' :: t) as := by
  cases h with
  | nil => exact absurd rfl hne
  | cons ha has => exact .cons ha has

theorem separated_singleton {α : Type} {spells : List Char → α → Prop} {t : List Char} {a : α}
    (h : spells t a) : Separated spells t [a] := by
  have hone := Separated.cons h .nil
  rwa [List.append_nil] at hone

theorem spells_write (v : Json) : Spells (write v) v := by
  refine write.induct (fun v => Spells (write v) v)
    (fun ms => Separated (SpellsMember Spells) (writeMembers ms) ms)
    (fun vs => Separated (Padded Spells) (writeItems vs) vs)
    ?null ?isTrue ?isFalse ?integer ?text ?list ?object ?noItems ?lastItem ?item ?noMembers
    ?lastMember ?member v
  case null => exact .null
  case isTrue => exact .isTrue
  case isFalse => exact .isFalse
  case integer => exact fun n => .integer n
  case text => exact fun s => .text (spellsText_quote s)
  case list => exact fun items ih => .list ih
  case object => exact fun members ih => .object ih
  case noItems => exact .nil (by simp [Blank, writeItems])
  case lastItem =>
    intro v ih
    rw [writeItems]
    exact separated_singleton (padded_self ih)
  case item =>
    intro v rest hne ih ihrest
    rw [writeItems]
    · exact .cons (padded_self ih) (ihrest.continued hne)
    · exact hne
  case noMembers => exact .nil (by simp [Blank, writeMembers])
  case lastMember =>
    intro k v ih
    rw [writeMembers]
    exact separated_singleton (.mk (padded_self (spellsText_quote k)) (padded_self ih))
  case member =>
    intro k v rest hne ih ihrest
    rw [writeMembers]
    · exact .cons (.mk (padded_self (spellsText_quote k)) (padded_self ih)) (ihrest.continued hne)
    · exact hne

end Spelling

section Line

theorem newline_not_mem_toDigits (n : Nat) : '\n' ∉ Nat.toDigits 10 n := by
  intro h
  have hdigit := Nat.isDigit_of_mem_toDigits (by decide) (by decide) h
  cases hdigit

theorem newline_not_mem_write_integer (n : Int) : '\n' ∉ write (.integer n) := by
  cases n with
  | ofNat n =>
    rw [Int.ofNat_eq_natCast, write, toList_toString_natural]
    exact newline_not_mem_toDigits n
  | negSucc n =>
    rw [write]
    change '\n' ∉ ("-" ++ toString (n + 1)).toList
    rw [String.toList_append, List.mem_append, not_or]
    refine ⟨by decide, ?_⟩
    rw [Nat.toString_eq_ofList_toDigits, String.toList_ofList]
    exact newline_not_mem_toDigits (n + 1)

theorem newline_not_mem_write (v : Json) : '\n' ∉ write v := by
  refine write.induct (fun v => '\n' ∉ write v) (fun ms => '\n' ∉ writeMembers ms)
    (fun vs => '\n' ∉ writeItems vs)
    ?null ?isTrue ?isFalse ?integer ?text ?list ?object ?noItems ?lastItem ?item ?noMembers
    ?lastMember ?member v
  case null => decide
  case isTrue => decide
  case isFalse => decide
  case integer => exact newline_not_mem_write_integer
  case text => exact newline_not_mem_quote
  case list =>
    intro items ih
    simpa [write] using ih
  case object =>
    intro members ih
    simpa [write] using ih
  case noItems => simp [writeItems]
  case lastItem =>
    intro v ih
    simpa [writeItems] using ih
  case item =>
    intro v rest hne ih ihrest
    rw [writeItems]
    · simp [ih, ihrest]
    · exact hne
  case noMembers => simp [writeMembers]
  case lastMember =>
    intro k v ih
    simp [writeMembers, newline_not_mem_quote, ih]
  case member =>
    intro k v rest hne ih ihrest
    rw [writeMembers]
    · simp [newline_not_mem_quote, ih, ihrest]
    · exact hne

end Line

end CryptoSurvey.Json
