import CryptoSurvey.Proofs.Ordered
import CryptoSurvey.Proofs.Registry
import CryptoSurvey.Survey.Native

namespace CryptoSurvey

def Registry.Names (r : Registry) (name : String) : Prop :=
  ∃ a ∈ r.algorithms, a.name = name

namespace Matcher

theorem algorithm?_cases (exclusions : Exclusions) (value : String) (kind : TextKind) :
    (∀ patterns, (Matcher.mk patterns exclusions).algorithm? value kind = none) ∨
      ∃ test : String → Bool, ∀ patterns,
        (Matcher.mk patterns exclusions).algorithm? value kind =
          (patterns.find? fun p => test p.1).map (·.2) := by
  have hsubstring (patterns : List (String × String)) :
      (Matcher.mk patterns exclusions).substring? (Text.lowerCase value) =
        (patterns.find? fun p => Search.occurs p.1.toList (Text.lowerCase value).toList).map (·.2) := by
    rw [substring?]
  have htoken (patterns : List (String × String)) :
      (Matcher.mk patterns exclusions).token? (Text.lowerCase value) =
        (patterns.find? fun p => (tokens (Text.lowerCase value)).contains p.1.toList).map (·.2) := by
    rw [token?]
  cases kind with
  | identifier =>
    refine .inr ⟨fun p => Search.occurs p.toList (Text.lowerCase value).toList, ?_⟩
    intro patterns
    rw [algorithm?, hsubstring]
  | literal =>
    by_cases hx : (exclusions.exclusion? value).isSome = true
    · refine .inl fun patterns => ?_
      rw [algorithm?]
      exact if_pos hx
    · by_cases hb : Base64.looksEncoded exclusions.base64MinLength value = true
      · refine .inr ⟨fun p => (tokens (Text.lowerCase value)).contains p.toList, ?_⟩
        intro patterns
        rw [algorithm?, ← htoken]
        exact (if_neg hx).trans (if_pos hb)
      · refine .inr ⟨fun p => Search.occurs p.toList (Text.lowerCase value).toList, ?_⟩
        intro patterns
        rw [algorithm?, ← hsubstring]
        exact (if_neg hx).trans (if_neg hb)

theorem snd_of_mem_patterns {r : Registry} {exclusions : Exclusions} {p : String × String}
    (h : p ∈ (ofRegistry r exclusions).patterns) : r.Names p.2 := by
  obtain ⟨a, ha, hp⟩ := List.mem_flatMap.1 h
  obtain ⟨_, _, rfl⟩ := List.mem_map.1 hp
  exact ⟨a, ha, rfl⟩

theorem names_of_algorithm? {r : Registry} {exclusions : Exclusions} {value a : String}
    {kind : TextKind} (h : (ofRegistry r exclusions).algorithm? value kind = some a) :
    r.Names a := by
  rcases algorithm?_cases exclusions value kind with hnone | ⟨test, htest⟩
  · rw [ofRegistry, hnone] at h
    cases h
  · rw [ofRegistry, htest, Option.map_eq_some_iff] at h
    obtain ⟨p, hp, rfl⟩ := h
    exact @snd_of_mem_patterns r exclusions p (List.mem_of_find?_eq_some hp)

end Matcher

namespace Native

/-- One step of filing adds the symbol to the list of its algorithm and to no other. -/
theorem get?_fileSymbol (m : Matcher) (lists : OrderedMap String (List String))
    (symbol algorithm : String) :
    (fileSymbol m lists symbol).get? algorithm = (lists.get? algorithm).map
      (· ++ [symbol].filter fun s => m.algorithm? s .identifier == some algorithm) := by
  rw [fileSymbol, List.filter_cons, List.filter_nil]
  split
  · rename_i owner howner
    rw [OrderedMap.get?_map, howner]
    by_cases hname : algorithm = owner
    · simp [hname]
    · simp [hname, Ne.symm hname]
  · rename_i hnone
    simp [hnone]

theorem get?_foldl_fileSymbol (m : Matcher) (symbols : List String)
    (lists : OrderedMap String (List String)) (algorithm : String) :
    (symbols.foldl (fileSymbol m) lists).get? algorithm = (lists.get? algorithm).map
      (· ++ symbols.filter fun s => m.algorithm? s .identifier == some algorithm) := by
  induction symbols generalizing lists with
  | nil => simp
  | cons symbol rest ih =>
    have hfilter : (symbol :: rest).filter (fun s => m.algorithm? s .identifier == some algorithm) =
        [symbol].filter (fun s => m.algorithm? s .identifier == some algorithm) ++
          rest.filter (fun s => m.algorithm? s .identifier == some algorithm) :=
      List.filter_append [symbol] rest
    rw [List.foldl_cons, ih, get?_fileSymbol, Option.map_map, hfilter]
    simp only [Function.comp_def, List.append_assoc]

theorem get?_symbolsByAlgorithm {registry : Registry} {m : Matcher} {symbols own : List String}
    {algorithm : String} :
    (symbolsByAlgorithm registry m symbols).get? algorithm = some own ↔
      registry.Names algorithm ∧
        symbols.filter (fun s => m.algorithm? s .identifier == some algorithm) = own := by
  rw [symbolsByAlgorithm, get?_foldl_fileSymbol, Option.map_eq_some_iff]
  constructor
  · rintro ⟨start, hstart, hown⟩
    obtain ⟨a, ha, rfl, rfl⟩ := (OrderedMap.get?_ofList_map registry.nodup_names).1 hstart
    exact ⟨⟨a, ha, rfl⟩, hown⟩
  · rintro ⟨⟨a, ha, rfl⟩, hown⟩
    exact ⟨[], (OrderedMap.get?_ofList_map registry.nodup_names).2 ⟨a, ha, rfl, rfl⟩, hown⟩

end Native

end CryptoSurvey
