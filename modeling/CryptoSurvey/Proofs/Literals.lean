import CryptoSurvey.Proofs.Identifiers

namespace CryptoSurvey

/-- The text has letters and digits of ASCII only and stands in the other with none of them next to
it. -/
def StandsAlone (t s : List Char) : Prop :=
  (∀ c ∈ t, c.isAlphanum = true) ∧ ∃ u v, s = u ++ t ++ v ∧
    (∀ c ∈ u.getLast?, c.isAlphanum = false) ∧ ∀ c ∈ v.head?, c.isAlphanum = false

section StandsAlone

variable {t u v w rest : List Char} {c : Char}

theorem StandsAlone.occurs {s : List Char} (h : StandsAlone t s) : t <:+: s := by
  obtain ⟨_, u, v, rfl, _, _⟩ := h
  exact List.infix_append u t v

theorem eq_nil_of_getLast? (hu : ∀ c ∈ u, c.isAlphanum = true)
    (hlast : ∀ c ∈ u.getLast?, c.isAlphanum = false) : u = [] := by
  cases h : u.getLast? with
  | none => exact List.getLast?_eq_none_iff.1 h
  | some c =>
    have hc := hu c (List.mem_of_getLast? h)
    rw [hlast c h] at hc
    cases hc

theorem eq_nil_of_head? (hv : ∀ c ∈ v, c.isAlphanum = true)
    (hhead : ∀ c ∈ v.head?, c.isAlphanum = false) : v = [] := by
  cases v with
  | nil => rfl
  | cons c v =>
    have hc := hv c List.mem_cons_self
    rw [hhead c rfl] at hc
    cases hc

theorem standsAlone_run (hw : ∀ c ∈ w, c.isAlphanum = true) : StandsAlone t w ↔ t = w := by
  constructor
  · rintro ⟨_, u, v, rfl, hu, hv⟩
    have hnil : u = [] := eq_nil_of_getLast? (fun c hc => hw c (by simp [hc])) hu
    have hnil' : v = [] := eq_nil_of_head? (fun c hc => hw c (by simp [hc])) hv
    rw [hnil, hnil', List.nil_append, List.append_nil]
  · rintro rfl
    exact ⟨hw, [], [], by simp, by simp, by simp⟩

theorem standsAlone_run_append (hw : ∀ c ∈ w, c.isAlphanum = true) (hc : c.isAlphanum = false) :
    StandsAlone t (w ++ c :: rest) ↔ t = w ∨ StandsAlone t rest := by
  constructor
  · rintro ⟨ht, u, v, heq, hu, hv⟩
    have hct : c ∉ t := by
      intro hmem
      rw [ht c hmem] at hc
      cases hc
    rcases List.append_eq_append_iff.1 heq with ⟨as, has, hrest⟩ | ⟨bs, hbs, rfl⟩
    · cases as with
      | nil =>
        -- the occurrence ends where the run ends
        rw [List.append_nil] at has
        exact .inl ((standsAlone_run hw).1 ⟨ht, u, [], by rw [has, List.append_nil], hu, by simp⟩)
      | cons d as =>
        -- it ends beyond the run, and cannot contain the character that ends the run
        rw [List.cons_append, List.cons.injEq] at hrest
        obtain ⟨rfl, rfl⟩ := hrest
        rcases List.append_eq_append_iff.1 has.symm with ⟨bs, rfl, hbs⟩ | ⟨bs, _, rfl⟩
        · cases bs with
          | nil =>
            rw [List.nil_append] at hbs
            exact absurd (hbs ▸ List.mem_cons_self) hct
          | cons d bs =>
            rw [List.cons_append, List.cons.injEq] at hbs
            obtain ⟨rfl, rfl⟩ := hbs
            refine .inr ⟨ht, bs, v, rfl, ?_, hv⟩
            intro d hd
            apply hu
            rw [List.getLast?_append, List.getLast?_cons, hd]
            rfl
        · exact absurd (by simp) hct
    · -- it ends inside the run
      refine .inl ((standsAlone_run hw).1 ⟨ht, u, bs, hbs, hu, ?_⟩)
      intro d hd
      apply hv
      rw [List.head?_append, hd]
      rfl
  · rintro (rfl | ⟨ht, u, v, rfl, hu, hv⟩)
    · exact ⟨hw, [], c :: rest, rfl, by simp, by simpa using hc⟩
    · refine ⟨ht, w ++ c :: u, v, by simp, ?_, hv⟩
      intro d hd
      rw [List.getLast?_append, List.getLast?_cons, Option.some_or, Option.mem_some_iff] at hd
      cases hlast : u.getLast? with
      | none =>
        rw [hlast] at hd
        exact hd ▸ hc
      | some b =>
        rw [hlast] at hd
        exact hu d (hd ▸ hlast)

namespace Matcher

theorem mem_ended_run {run : List Char} {ts : List (List Char)} :
    t ∈ (if run.isEmpty then ts else run.reverse :: ts) ↔ t ≠ [] ∧ t = run.reverse ∨ t ∈ ts := by
  cases run with
  | nil => simp
  | cons c run =>
    have hne : (c :: run).reverse ≠ [] := by simp
    rw [List.isEmpty_cons, if_neg Bool.false_ne_true, List.mem_cons]
    exact or_congr_left ⟨fun h => ⟨h ▸ hne, h⟩, fun h => h.2⟩

/-- The tokens of a text, read from inside a run, are the pieces that stand alone in it. -/
theorem mem_tokensFrom {run cs : List Char} (hrun : ∀ c ∈ run, c.isAlphanum = true) :
    t ∈ tokensFrom run cs ↔ t ≠ [] ∧ StandsAlone t (run.reverse ++ cs) := by
  have hreverse {run : List Char} (hrun : ∀ c ∈ run, c.isAlphanum = true) :
      ∀ c ∈ run.reverse, c.isAlphanum = true :=
    fun c hc => hrun c (List.mem_reverse.1 hc)
  -- the open run counts as read, so that it can grow in the hypothesis of the induction
  induction cs generalizing run with
  | nil =>
    rw [List.append_nil, standsAlone_run (hreverse hrun), tokensFrom, mem_ended_run]
    exact or_iff_left List.not_mem_nil
  | cons c rest ih =>
    rw [tokensFrom]
    cases hc : c.isAlphanum with
    | true =>
      have hlonger := ih (List.forall_mem_cons.2 ⟨hc, hrun⟩)
      rw [List.reverse_cons, List.append_assoc] at hlonger
      exact hlonger
    | false =>
      have hrest := @ih [] (by simp)
      rw [if_neg Bool.false_ne_true, mem_ended_run, standsAlone_run_append (hreverse hrun) hc,
        and_or_left]
      exact or_congr_right hrest

end Matcher

end StandsAlone

namespace Exclusions

/-- The string falls to a filter: a marker or a text of the denylist stands in it, or it is too long. -/
def Excludes (e : Exclusions) (value : String) : Prop :=
  (∃ m ∈ e.certificateMarkers, m ≠ "" ∧ m.toList <:+: value.toList) ∨
    e.lengthThreshold < value.length ∨
    ∃ d ∈ e.denylist, Text.lowerCase d ≠ "" ∧
      (Text.lowerCase d).toList <:+: (Text.lowerCase value).toList

/-- The filters exclude whatever the others do, and take no less for base64. -/
structure Tightens (e' e : Exclusions) : Prop where
  markers : e.certificateMarkers ⊆ e'.certificateMarkers
  denylist : e.denylist ⊆ e'.denylist
  threshold : e'.lengthThreshold ≤ e.lengthThreshold
  minLength : e'.base64MinLength ≤ e.base64MinLength

variable {e e' : Exclusions} {value : String}

theorem Tightens.excludes (h : e'.Tightens e) (hx : e.Excludes value) : e'.Excludes value := by
  rcases hx with ⟨m, hm, hmarks⟩ | hlong | ⟨d, hd, hmarks⟩
  · exact .inl ⟨m, h.markers hm, hmarks⟩
  · exact .inr (.inl (Nat.lt_of_le_of_lt h.threshold hlong))
  · exact .inr (.inr ⟨d, h.denylist hd, hmarks⟩)

theorem marks_iff {marker : String} :
    marks value marker = true ↔ marker ≠ "" ∧ marker.toList <:+: value.toList := by
  rw [marks, Bool.and_eq_true, Search.occurs_iff_infix, Bool.not_eq_true',
    String.isEmpty_eq_false_iff]

theorem isSome_exclusion?_iff : (e.exclusion? value).isSome = true ↔ e.Excludes value := by
  have hmarkers : e.certificateMarkers.any (marks value) = true ↔
      ∃ m ∈ e.certificateMarkers, m ≠ "" ∧ m.toList <:+: value.toList := by
    simp only [List.any_eq_true, marks_iff]
  have hdenylist : (e.denylist.map Text.lowerCase).any (marks (Text.lowerCase value)) = true ↔
      ∃ d ∈ e.denylist, Text.lowerCase d ≠ "" ∧
        (Text.lowerCase d).toList <:+: (Text.lowerCase value).toList := by
    simp only [List.any_map, List.any_eq_true, Function.comp_apply, marks_iff]
  rw [Excludes, ← hmarkers, ← hdenylist, exclusion?]
  split
  · simp [*]
  · split
    · simp [*]
    · split
      · simp [*]
      · simp [*]

instance (e : Exclusions) (value : String) : Decidable (e.Excludes value) :=
  decidable_of_iff _ isSome_exclusion?_iff

end Exclusions

theorem Base64.looksEncoded_of_le {n n' : Nat} (h : n' ≤ n) {value : String}
    (hlooks : looksEncoded n value = true) : looksEncoded n' value = true := by
  simp only [looksEncoded, Bool.and_eq_true, decide_eq_true_eq] at hlooks ⊢
  obtain ⟨⟨⟨⟨hlength, hpadding⟩, hbody⟩, hdigits⟩, hgroups⟩ := hlooks
  exact ⟨⟨⟨⟨by omega, hpadding⟩, hbody⟩, hdigits⟩, hgroups⟩

namespace Matcher

section Literal

variable {m : Matcher} {value : String}

theorem algorithm?_of_excludes (h : m.exclusions.Excludes value) :
    m.algorithm? value .literal = none := by
  rw [algorithm?, if_pos (Exclusions.isSome_exclusion?_iff.2 h)]

theorem not_excludes_of_algorithm? {a : String} (h : m.algorithm? value .literal = some a) :
    ¬ m.exclusions.Excludes value := by
  intro hx
  rw [algorithm?_of_excludes hx] at h
  cases h

theorem algorithm?_of_looksLikeBase64 (h : ¬ m.exclusions.Excludes value)
    (hlooks : m.looksLikeBase64 value = true) :
    m.algorithm? value .literal = m.token? (Text.lowerCase value) := by
  rw [algorithm?, if_neg (mt Exclusions.isSome_exclusion?_iff.1 h), if_pos hlooks]

theorem algorithm?_of_not_looksLikeBase64 (h : ¬ m.exclusions.Excludes value)
    (hlooks : m.looksLikeBase64 value = false) :
    m.algorithm? value .literal = m.algorithm? value .identifier := by
  rw [algorithm?, algorithm?, if_neg (mt Exclusions.isSome_exclusion?_iff.1 h), hlooks,
    if_neg Bool.false_ne_true]

end Literal

section Token

variable {r : Registry} {exclusions : Exclusions} {lowered name : String}

/-- Registered patterns are not empty, so they are tokens just where they stand alone. -/
theorem contains_tokens_iff {a : Algorithm} (ha : a ∈ r.algorithms) {p : String}
    (hp : p ∈ a.patterns) : (tokens lowered).contains (Text.lowerCase p).toList = true ↔
      StandsAlone (Text.lowerCase p).toList lowered.toList := by
  have hne := Text.lowerCase_ne_nil (Registry.toList_ne_nil_of_mem_patterns ha hp)
  rw [List.contains_iff_mem, tokens, mem_tokensFrom fun c hc => absurd hc List.not_mem_nil]
  exact and_iff_right hne

theorem token?_eq_some_iff : (ofRegistry r exclusions).token? lowered = some name ↔
    r.First (·.HasPattern (StandsAlone · lowered.toList)) name := by
  rw [token?]
  apply find?_patterns_eq_some_iff fun p => (tokens lowered).contains p.toList
  intro a ha p hp
  exact contains_tokens_iff ha hp

theorem token?_eq_none_iff : (ofRegistry r exclusions).token? lowered = none ↔
    ∀ a ∈ r.algorithms, ¬ a.HasPattern (StandsAlone · lowered.toList) := by
  rw [token?]
  apply find?_patterns_eq_none_iff fun p => (tokens lowered).contains p.toList
  intro a ha p hp
  exact contains_tokens_iff ha hp

/-- A token is a part of the text, so a text with a token is attributed without looking for tokens
too, and to no weaker algorithm. -/
theorem exists_substring?_of_token? (h : (ofRegistry r exclusions).token? lowered = some name) :
    ∃ b, (ofRegistry r exclusions).substring? lowered = some b ∧ r.NoLater b name := by
  obtain ⟨a, ha, rfl, hpattern, _⟩ := token?_eq_some_iff.1 h
  exact exists_substring?_noLater ha (hpattern.imp fun p hp => hp.occurs)

end Token

/-- Literal strings are excluded, or matched by patterns that stand alone in them if they look like
base64, or else matched like identifiers. Patterns count in lower case. -/
theorem algorithm?_literal_exact (r : Registry) (exclusions : Exclusions) (value : String) :
    (exclusions.Excludes value → (ofRegistry r exclusions).algorithm? value .literal = none) ∧
    (¬ exclusions.Excludes value → (ofRegistry r exclusions).looksLikeBase64 value = true →
      (∀ name, (ofRegistry r exclusions).algorithm? value .literal = some name ↔
        r.First (·.HasPattern (StandsAlone · (Text.lowerCase value).toList)) name) ∧
      ((ofRegistry r exclusions).algorithm? value .literal = none ↔
        ∀ a ∈ r.algorithms, ¬ a.HasPattern (StandsAlone · (Text.lowerCase value).toList)) ∧
      ∀ a ∈ r.algorithms,
        (∀ p ∈ a.patterns, ∃ c ∈ (Text.lowerCase p).toList, c.isAlphanum = false) →
        (ofRegistry r exclusions).algorithm? value .literal ≠ some a.name) ∧
    (¬ exclusions.Excludes value → (ofRegistry r exclusions).looksLikeBase64 value = false →
      (ofRegistry r exclusions).algorithm? value .literal =
        (ofRegistry r exclusions).algorithm? value .identifier) := by
  refine ⟨fun hx => algorithm?_of_excludes hx, ?_,
    fun hx hlooks => algorithm?_of_not_looksLikeBase64 hx hlooks⟩
  intro hx hlooks
  rw [algorithm?_of_looksLikeBase64 hx hlooks]
  refine ⟨fun name => token?_eq_some_iff, token?_eq_none_iff, ?_⟩
  intro a ha hother hname
  obtain ⟨b, hb, hab, ⟨p, hp, halone⟩, _⟩ := token?_eq_some_iff.1 hname
  cases Registry.eq_of_name_eq hb ha hab
  obtain ⟨c, hc, hnot⟩ := hother p hp
  rw [halone.1 c hc] at hnot
  cases hnot

theorem algorithm?_literal_exact_transformations :
    (ofRegistry Managed.twoAlgorithms {}).algorithm? "#EXT-X-KEY:METHOD=AES-128" .literal = none ∧
    Managed.twoAlgorithms.First (·.HasPattern
      (StandsAlone · (Text.lowerCase "AES/CBC/PKCS5Padding/NoIVs").toList)) "aes" ∧
    (ofRegistry Managed.twoAlgorithms {}).algorithm? "AES/ECB/NoPadding" .literal =
      (ofRegistry Managed.twoAlgorithms {}).algorithm? "AES/ECB/NoPadding" .identifier := by
  obtain ⟨hnone, _, _⟩ :=
    algorithm?_literal_exact Managed.twoAlgorithms {} "#EXT-X-KEY:METHOD=AES-128"
  obtain ⟨_, hencoded, _⟩ :=
    algorithm?_literal_exact Managed.twoAlgorithms {} "AES/CBC/PKCS5Padding/NoIVs"
  obtain ⟨_, _, hplain⟩ := algorithm?_literal_exact Managed.twoAlgorithms {} "AES/ECB/NoPadding"
  obtain ⟨hsome, _⟩ := hencoded (by decide +kernel) (by decide +kernel)
  exact ⟨hnone (by decide +kernel), (hsome "aes").1 (by decide +kernel),
    hplain (by decide +kernel) (by decide +kernel)⟩

theorem exists_identifier_of_literal {r : Registry} {e : Exclusions} {value a : String}
    (h : (ofRegistry r e).algorithm? value .literal = some a) (e' : Exclusions) :
    ∃ b, (ofRegistry r e').algorithm? value .identifier = some b ∧ r.NoLater b a := by
  have hx := not_excludes_of_algorithm? h
  cases hlooks : (ofRegistry r e).looksLikeBase64 value with
  | true =>
    rw [algorithm?_of_looksLikeBase64 hx hlooks] at h
    exact exists_substring?_of_token? h
  | false =>
    rw [algorithm?_of_not_looksLikeBase64 hx hlooks] at h
    exact ⟨a, h, (names_of_algorithm? h).noLater_self⟩

/-- Tighter filters create no match. What matches under them matches without them, and to no weaker
algorithm. -/
theorem algorithm?_tightened (r : Registry) (value a : String) :
    (∀ e e' : Exclusions, e'.Tightens e → (ofRegistry r e').algorithm? value .literal = some a →
      ∃ b, (ofRegistry r e).algorithm? value .literal = some b ∧ r.NoLater b a ∧
        (e'.base64MinLength = e.base64MinLength → b = a)) ∧
    ∀ e e' : Exclusions, (ofRegistry r e).algorithm? value .literal = some a →
      ∃ b, (ofRegistry r e').algorithm? value .identifier = some b ∧ r.NoLater b a := by
  refine ⟨?_, fun e e' h => exists_identifier_of_literal h e'⟩
  intro e e' htight h
  have hself : r.NoLater a a := (names_of_algorithm? h).noLater_self
  have hx' : ¬ e'.Excludes value := not_excludes_of_algorithm? h
  have hx : ¬ e.Excludes value := mt htight.excludes hx'
  cases hlooks : (ofRegistry r e).looksLikeBase64 value with
  | true =>
    have hlooks' : (ofRegistry r e').looksLikeBase64 value = true :=
      Base64.looksEncoded_of_le htight.minLength hlooks
    rw [algorithm?_of_looksLikeBase64 hx' hlooks'] at h
    exact ⟨a, (algorithm?_of_looksLikeBase64 hx hlooks).trans h, hself, fun _ => rfl⟩
  | false =>
    rw [algorithm?_of_not_looksLikeBase64 hx hlooks]
    cases hlooks' : (ofRegistry r e').looksLikeBase64 value with
    | true =>
      -- the least length decides what looks like base64, so here it is not the same
      obtain ⟨b, hb, hle⟩ := exists_identifier_of_literal h e
      refine ⟨b, hb, hle, ?_⟩
      intro hsame
      rw [looksLikeBase64] at hlooks hlooks'
      change Base64.looksEncoded e'.base64MinLength value = true at hlooks'
      rw [hsame] at hlooks'
      cases hlooks.symm.trans hlooks'
    | false =>
      rw [algorithm?_of_not_looksLikeBase64 hx' hlooks'] at h
      exact ⟨a, h, hself, fun _ => rfl⟩

/-- With a lesser least length of base64, the weaker of two algorithms is left. -/
theorem algorithm?_tightened_shortBase64 :
    (ofRegistry Managed.twoAlgorithms { base64MinLength := 4 }).algorithm? "xSM4/AES" .literal =
        some "aes" ∧
      (ofRegistry Managed.twoAlgorithms {}).algorithm? "xSM4/AES" .literal = some "sm4" ∧
      Managed.twoAlgorithms.NoLater "sm4" "aes" := by
  have hmatch : (ofRegistry Managed.twoAlgorithms { base64MinLength := 4 }).algorithm? "xSM4/AES"
      .literal = some "aes" := by
    decide +kernel
  have hloose : (ofRegistry Managed.twoAlgorithms {}).algorithm? "xSM4/AES" .literal =
      some "sm4" := by
    decide +kernel
  obtain ⟨hkept, _⟩ := algorithm?_tightened Managed.twoAlgorithms "xSM4/AES" "aes"
  obtain ⟨b, hb, hle, _⟩ := hkept {} { base64MinLength := 4 }
    ⟨fun _ h => h, fun _ h => h, Nat.le_refl _, by decide⟩ hmatch
  rw [hloose, Option.some.injEq] at hb
  subst hb
  exact ⟨hmatch, hloose, hle⟩

end Matcher

end CryptoSurvey
