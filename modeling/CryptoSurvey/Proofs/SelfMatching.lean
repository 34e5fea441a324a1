import CryptoSurvey.Proofs.Identifiers
import CryptoSurvey.Proofs.SmallLetters

namespace CryptoSurvey

namespace Text

def PassedOver (cs : List Char) : Prop :=
  ∀ c ∈ cs, isCaseIgnorable c = true

/-- A capital sigma between the two texts, the first of which is given in reverse, can be lowered
differently if something is put around them. -/
def Wavers (before after : List Char) : Prop :=
  PassedOver before ∧ nextIsCased after = false ∨ nextIsCased before = true ∧ PassedOver after

def Steady (s : String) : Prop :=
  ∀ before after, s.toList = before ++ 'Σ' :: after → ¬ Wavers before.reverse after

section Nearest

variable {cs more before after : List Char}

theorem nextIsCased_cons (c : Char) (cs : List Char) :
    nextIsCased (c :: cs) = if isCaseIgnorable c then nextIsCased cs else isCased c := by
  by_cases hc : isCaseIgnorable c = true
  · simp only [nextIsCased, List.dropWhile_cons_of_pos hc, if_pos hc]
  · simp only [nextIsCased, List.dropWhile_cons_of_neg hc, if_neg hc]

theorem nextIsCased_append_of_passedOver (h : PassedOver cs) :
    nextIsCased (cs ++ more) = nextIsCased more := by
  induction cs with
  | nil => rfl
  | cons c cs ih =>
    rw [PassedOver, List.forall_mem_cons] at h
    rw [List.cons_append, nextIsCased_cons, if_pos h.1, ih h.2]

theorem nextIsCased_append_of_not (h : ¬ PassedOver cs) :
    nextIsCased (cs ++ more) = nextIsCased cs := by
  induction cs with
  | nil => exact absurd (fun c hc => absurd hc List.not_mem_nil) h
  | cons c cs ih =>
    rw [PassedOver, List.forall_mem_cons, not_and] at h
    rw [List.cons_append, nextIsCased_cons, nextIsCased_cons]
    split
    · rename_i hc
      exact ih (h hc)
    · rfl

theorem nextIsCased_of_passedOver (h : PassedOver cs) : nextIsCased cs = false := by
  rw [← List.append_nil cs, nextIsCased_append_of_passedOver h]
  rfl

theorem nextIsCased_append (h : nextIsCased cs = true) : nextIsCased (cs ++ more) = true := by
  rw [nextIsCased_append_of_not, h]
  intro hover
  rw [nextIsCased_of_passedOver hover] at h
  cases h

theorem lowerSigma_eq_final_iff :
    lowerSigma before after = 'ς' ↔ nextIsCased before = true ∧ nextIsCased after = false := by
  unfold lowerSigma
  cases nextIsCased before <;> cases nextIsCased after <;> decide

theorem lowerSigma_eq_inner_iff : lowerSigma before after = 'σ' ↔ lowerSigma before after ≠ 'ς' := by
  unfold lowerSigma
  cases nextIsCased before <;> cases nextIsCased after <;> decide

theorem lowerSigma_append (h : ¬ Wavers before after) (x y : List Char) :
    lowerSigma (before ++ x) (after ++ y) = lowerSigma before after := by
  rw [Wavers, not_or, not_and, not_and] at h
  obtain ⟨hover, hcased⟩ := h
  by_cases hb : PassedOver before
  · have ha : nextIsCased after = true := by simpa using hover hb
    have hinner : ∀ b a, nextIsCased a = true → lowerSigma b a = 'σ' := by
      intro b a ha
      rw [lowerSigma_eq_inner_iff, Ne, lowerSigma_eq_final_iff, ha]
      simp
    rw [hinner _ _ ha, hinner _ _ (nextIsCased_append ha)]
  · unfold lowerSigma
    rw [nextIsCased_append_of_not hb]
    cases hn : nextIsCased before with
    | false => rfl
    | true => rw [nextIsCased_append_of_not (hcased hn)]

end Nearest

def lowerAt (before : List Char) (c : Char) (after : List Char) : List Char :=
  if c == 'Σ' then [lowerSigma before after] else lowerChar c

theorem lowerFrom_cons (before : List Char) (c : Char) (rest : List Char) :
    lowerFrom before (c :: rest) = lowerAt before c rest ++ lowerFrom (c :: before) rest := by
  rw [lowerFrom, lowerAt]
  split
  · rfl
  · rfl

section Around

variable {x y : List Char}

theorem lowerAt_append {before : List Char} {c : Char} {after : List Char}
    (h : c = 'Σ' → ¬ Wavers before after) :
    lowerAt (before ++ x) c (after ++ y) = lowerAt before c after := by
  rw [lowerAt, lowerAt]
  split
  · rename_i hc
    rw [lowerSigma_append (h (beq_iff_eq.1 hc))]
  · rfl

theorem lowerFrom_append_of_steady {before cs : List Char}
    (h : ∀ l after, cs = l ++ 'Σ' :: after → ¬ Wavers (l.reverse ++ before) after) :
    lowerFrom (before ++ x) (cs ++ y) =
      lowerFrom before cs ++ lowerFrom (cs.reverse ++ (before ++ x)) y := by
  induction cs generalizing before with
  | nil => rfl
  | cons c rest ih =>
    have hhead : c = 'Σ' → ¬ Wavers before rest := by
      rintro rfl
      exact h [] rest rfl
    have hrest : ∀ l after, rest = l ++ 'Σ' :: after →
        ¬ Wavers (l.reverse ++ c :: before) after := by
      intro l after hl
      have hcons := h (c :: l) after (congrArg (c :: ·) hl)
      rwa [List.reverse_cons, List.append_assoc] at hcons
    rw [List.cons_append, lowerFrom_cons, lowerFrom_cons, lowerAt_append hhead, ← List.cons_append,
      ih hrest, List.append_assoc, List.reverse_cons, List.append_assoc]
    rfl

variable {d : Char}
variable (h : ∀ before after, lowerSigma (before ++ x) (after ++ y) = d → lowerSigma before after = d)
include h

theorem count_lowerAt_le (before : List Char) (c : Char) (after : List Char) :
    (lowerAt (before ++ x) c (after ++ y)).count d ≤ (lowerAt before c after).count d := by
  rw [lowerAt, lowerAt]
  split
  · rw [List.count_singleton, List.count_singleton]
    split
    · rename_i hd
      rw [if_pos (beq_iff_eq.2 (h before after (beq_iff_eq.1 hd)))]
    · exact Nat.zero_le _
  · exact Nat.le_refl _

theorem count_lowerFrom_le (before cs : List Char) :
    (lowerFrom (before ++ x) (cs ++ y)).count d ≤
      (lowerFrom before cs).count d + (lowerFrom (cs.reverse ++ (before ++ x)) y).count d := by
  induction cs generalizing before with
  | nil => exact Nat.le_add_left _ _
  | cons c rest ih =>
    have hhead := count_lowerAt_le h before c rest
    have hrest := ih (c :: before)
    simp only [List.nil_append, List.cons_append, lowerFrom_cons, List.count_append,
      List.reverse_cons, List.append_assoc] at hrest ⊢
    omega

theorem count_lowerFrom_lt (before l after : List Char)
    (hd : lowerSigma (l.reverse ++ before) after = d)
    (hne : lowerSigma (l.reverse ++ before ++ x) (after ++ y) ≠ d) :
    (lowerFrom (before ++ x) (l ++ 'Σ' :: after ++ y)).count d <
      (lowerFrom before (l ++ 'Σ' :: after)).count d +
        (lowerFrom ((l ++ 'Σ' :: after).reverse ++ (before ++ x)) y).count d := by
  induction l generalizing before with
  | nil =>
    have hhead : (lowerAt (before ++ x) 'Σ' (after ++ y)).count d <
        (lowerAt before 'Σ' after).count d := by
      have hmissing : d ∉ lowerAt (before ++ x) 'Σ' (after ++ y) := mt List.mem_singleton.1 hne.symm
      have hhere : d ∈ lowerAt before 'Σ' after := List.mem_singleton.2 hd.symm
      rw [List.count_eq_zero.2 hmissing]
      exact List.count_pos_iff.2 hhere
    have hrest := count_lowerFrom_le h ('Σ' :: before) after
    simp only [List.nil_append, List.cons_append, lowerFrom_cons, List.count_append,
      List.reverse_cons, List.append_assoc] at hrest ⊢
    omega
  | cons c l ih =>
    have hhead := count_lowerAt_le h before c (l ++ 'Σ' :: after)
    have hrest := ih (c :: before) (by simpa using hd) (by simpa using hne)
    simp only [List.nil_append, List.cons_append, lowerFrom_cons, List.count_append,
      List.reverse_cons, List.append_assoc] at hhead hrest ⊢
    omega

end Around

theorem Steady.infix_lowerCase {s : String} (h : Steady s) (x y : String) :
    (lowerCase s).toList <:+: (lowerCase (x ++ s ++ y)).toList := by
  obtain ⟨u, hu⟩ := exists_lowerFrom_append [] x.toList (s.toList ++ y.toList)
  have hs : ∀ l after, s.toList = l ++ 'Σ' :: after → ¬ Wavers (l.reverse ++ []) after := by
    intro l after hl
    rw [List.append_nil]
    exact h l after hl
  rw [toList_lowerCase, toList_lowerCase, String.toList_append, String.toList_append,
    List.append_assoc, hu, List.append_nil, ← List.nil_append x.toList.reverse,
    lowerFrom_append_of_steady hs, ← List.append_assoc]
  exact List.infix_append u _ _

section Letter

variable {before after : List Char}

theorem nextIsCased_letter : nextIsCased ['a'] = true := by
  decide +kernel

theorem lowerFrom_letter (before : List Char) (rest : List Char) :
    lowerFrom before ('a' :: rest) = 'a' :: lowerFrom ('a' :: before) rest :=
  lowerFrom_cons before 'a' rest

theorem lowerSigma_eq_inner_of_letter_before
    (h : lowerSigma (before ++ ['a']) (after ++ []) = 'σ') : lowerSigma before after = 'σ' := by
  rw [List.append_nil] at h
  rw [lowerSigma_eq_inner_iff, Ne, lowerSigma_eq_final_iff] at h ⊢
  rintro ⟨hbefore, hafter⟩
  exact h ⟨nextIsCased_append hbefore, hafter⟩

theorem lowerSigma_eq_final_of_letter_after
    (h : lowerSigma (before ++ []) (after ++ ['a']) = 'ς') : lowerSigma before after = 'ς' := by
  rw [List.append_nil, lowerSigma_eq_final_iff] at h
  rw [lowerSigma_eq_final_iff]
  refine ⟨h.1, Bool.eq_false_iff.2 ?_⟩
  intro hafter
  rw [nextIsCased_append hafter] at h
  cases h.2

end Letter

/-- A letter put before the text, or after it, makes a wavering sigma of the text change, and this leaves
too few of the kind that it was. -/
theorem exists_context_of_wavers {l after : List Char} (h : Wavers l.reverse after) :
    ∃ x y, ¬ lowerFrom [] (l ++ 'Σ' :: after) <:+: lowerFrom [] (x ++ (l ++ 'Σ' :: after) ++ y) := by
  rcases h with ⟨hover, hafter⟩ | ⟨hbefore, hover⟩
  · have hinner : lowerSigma (l.reverse ++ []) after = 'σ' := by
      rw [List.append_nil, lowerSigma_eq_inner_iff, Ne, lowerSigma_eq_final_iff,
        nextIsCased_of_passedOver hover]
      simp
    have hfinal : lowerSigma (l.reverse ++ [] ++ ['a']) (after ++ []) ≠ 'σ' := by
      rw [Ne, lowerSigma_eq_inner_iff, not_not, lowerSigma_eq_final_iff, List.append_nil,
        List.append_nil, nextIsCased_append_of_passedOver hover]
      exact ⟨nextIsCased_letter, hafter⟩
    have hfewer := count_lowerFrom_lt (fun _ _ => lowerSigma_eq_inner_of_letter_before) [] l after
      hinner hfinal
    refine ⟨['a'], [], ?_⟩
    intro hinfix
    have hcount := hinfix.count_le 'σ'
    rw [List.append_assoc, List.singleton_append, lowerFrom_letter,
      List.count_cons_of_ne (by decide)] at hcount
    exact Nat.not_lt.2 hcount hfewer
  · have hfinal : lowerSigma (l.reverse ++ []) after = 'ς' := by
      rw [List.append_nil, lowerSigma_eq_final_iff]
      exact ⟨hbefore, nextIsCased_of_passedOver hover⟩
    have hinner : lowerSigma (l.reverse ++ [] ++ []) (after ++ ['a']) ≠ 'ς' := by
      rw [Ne, lowerSigma_eq_final_iff, nextIsCased_append_of_passedOver hover, nextIsCased_letter]
      simp
    have hfewer := count_lowerFrom_lt (fun _ _ => lowerSigma_eq_final_of_letter_after) [] l after
      hfinal hinner
    refine ⟨[], ['a'], ?_⟩
    intro hinfix
    have hcount := hinfix.count_le 'ς'
    rw [lowerFrom_letter, List.count_cons_of_ne (by decide)] at hfewer
    exact Nat.not_lt.2 hcount hfewer

/-- Exactly the texts in which no sigma wavers are found in lower case wherever they stand. -/
theorem steady_iff_infix_lowerCase {s : String} :
    Steady s ↔ ∀ x y : String, (lowerCase s).toList <:+: (lowerCase (x ++ s ++ y)).toList := by
  refine ⟨fun h x y => h.infix_lowerCase x y, ?_⟩
  intro h before after hs hwavers
  obtain ⟨x, y, hnot⟩ := exists_context_of_wavers hwavers
  have hinfix := h (String.ofList x) (String.ofList y)
  rw [toList_lowerCase, toList_lowerCase, String.toList_append, String.toList_append,
    String.toList_ofList, String.toList_ofList, hs] at hinfix
  exact hnot hinfix

theorem isBlankText_lowerCase_of_sigma {s : String} {before after : List Char}
    (h : s.toList = before ++ 'Σ' :: after) : isBlankText (lowerCase s) = false := by
  obtain ⟨u, hu⟩ := exists_lowerFrom_append [] before ('Σ' :: after)
  have hblank : isBlank (lowerSigma (before.reverse ++ []) after) = false := by
    unfold lowerSigma
    split
    · decide
    · decide
  rw [isBlankText, List.all_eq_false, toList_lowerCase, h, hu, lowerFrom_cons]
  refine ⟨_, List.mem_append_right u (List.mem_append_left _ List.mem_cons_self), ?_⟩
  exact Bool.eq_false_iff.1 hblank

end Text

/-- The text was given as the name of the algorithm or as one of its aliases. -/
def Algorithm.ConfiguredWith (a : Algorithm) (text : String) : Prop :=
  ∃ name aliases constants, a = configured name aliases constants ∧ text ∈ name :: aliases

theorem Algorithm.ConfiguredWith.mem_patterns {a : Algorithm} {text : String}
    (h : a.ConfiguredWith text) : Text.lowerCase text ∈ a.patterns := by
  obtain ⟨name, aliases, constants, rfl, htext⟩ := h
  exact List.mem_map_of_mem (f := Text.lowerCase) htext

namespace Matcher

/-- Whatever the registry, a name is attributed to the algorithm that was configured with the text or to
one before it. -/
def FindsConfigured (text name : String) : Prop :=
  ∀ (r : Registry) (exclusions : Exclusions), ∀ a ∈ r.algorithms, a.ConfiguredWith text →
    ∃ b, (ofRegistry r exclusions).algorithm? name .identifier = some b ∧ r.NoLater b a.name

variable {text name : String}

theorem findsConfigured_of_lowered
    (h : (Text.lowerCase text).toList <:+: (Text.lowerCase name).toList) :
    FindsConfigured text name := by
  intro r exclusions a ha hconfigured
  refine exists_substring?_noLater ha ⟨_, hconfigured.mem_patterns, ?_⟩
  rw [Text.lowerCase_lowerCase]
  exact h

theorem infix_of_findsConfigured (hblank : Text.isBlankText (Text.lowerCase text) = false)
    (h : FindsConfigured text name) :
    (Text.lowerCase text).toList <:+: (Text.lowerCase name).toList := by
  have hfaultless : RegistryFault.first? [] [] [.configured text [] []] = none := by
    simp [RegistryFault.first?, RegistryFault.ofAlgorithm?, RegistryFault.ofPatterns?,
      RegistryFault.ofConstants?, Algorithm.configured, Algorithm.patterns, hblank]
  obtain ⟨b, hb, _⟩ := h ⟨[.configured text [] []], hfaultless⟩ {} _ List.mem_cons_self
    ⟨text, [], [], rfl, List.mem_cons_self⟩
  obtain ⟨a, ha, _, ⟨p, hp, hinfix⟩, _⟩ := substring?_eq_some_iff.1 hb
  cases List.mem_singleton.1 ha
  have hpattern : p = Text.lowerCase text := List.mem_singleton.1 hp
  rw [hpattern, Text.lowerCase_lowerCase] at hinfix
  exact hinfix

/-- A configured text is found in itself. It is found in every name in which it stands if and only if
no sigma in it wavers. -/
theorem findsConfigured_iff_steady (text : String) :
    FindsConfigured text text ∧
      (Text.Steady text ↔ ∀ x y : String, FindsConfigured text (x ++ text ++ y)) := by
  refine ⟨findsConfigured_of_lowered List.infix_rfl, ?_⟩
  constructor
  · intro h x y
    exact findsConfigured_of_lowered (h.infix_lowerCase x y)
  · intro h before after hsigma
    have hblank := Text.isBlankText_lowerCase_of_sigma hsigma
    have hsteady : Text.Steady text :=
      Text.steady_iff_infix_lowerCase.2 fun x y => infix_of_findsConfigured hblank (h x y)
    exact hsteady before after hsigma

/-- The sigma at the front is followed by a letter, and so it is not final whatever precedes it. -/
theorem findsConfigured_iff_steady_leadingSigma :
    Text.Steady "ΣM4" ∧ FindsConfigured "ΣM4" ("ΟΔΟ" ++ "ΣM4" ++ "Σ") := by
  have hsteady : Text.Steady "ΣM4" := by
    have hchars : "ΣM4".toList = ['Σ', 'M', '4'] := by decide
    intro before after h
    rw [hchars] at h
    cases before with
    | nil =>
      cases h
      rintro (⟨_, hafter⟩ | ⟨hbefore, _⟩)
      · exact absurd hafter (by decide +kernel)
      · cases hbefore
    | cons c rest =>
      have hmem : 'Σ' ∈ ['M', '4'] := by
        rw [(List.cons.inj h).2]
        exact List.mem_append_right rest List.mem_cons_self
      exact absurd hmem (by decide)
  exact ⟨hsteady, (findsConfigured_iff_steady "ΣM4").2.1 hsteady "ΟΔΟ" "Σ"⟩

def finalSigma : Registry where
  algorithms := [.configured "ΟΔΟΣ" [] []]
  faultless := by decide +kernel

theorem finalSigma_unmatched :
    ∃ a ∈ finalSigma.algorithms, a.ConfiguredWith "ΟΔΟΣ" ∧
      (ofRegistry finalSigma {}).algorithm? ("" ++ "ΟΔΟΣ" ++ "Α") .identifier = none := by
  refine ⟨.configured "ΟΔΟΣ" [] [], List.mem_cons_self, ⟨_, _, _, rfl, List.mem_cons_self⟩, ?_⟩
  decide +kernel

end Matcher

end CryptoSurvey
