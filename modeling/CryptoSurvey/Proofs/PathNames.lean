import CryptoSurvey.FileTree

namespace CryptoSurvey.Path

def components (p : Path) : List String :=
  p.names.filter fun name => !isPassedOver name

def below (root : Path) (place : TreePath) : Path :=
  place.foldl (fun p name => p.join ⟨name⟩) root

def IsName (name : String) : Prop :=
  isPassedOver name = false ∧ name ≠ ".." ∧ '/' ∉ name.toList

instance : DecidablePred IsName :=
  fun _ => inferInstanceAs (Decidable (_ ∧ _ ∧ _))

variable {name stem extension : String} {place : TreePath}

theorem pieces_ne_nil (text : List Char) : pieces text ≠ [] := by
  cases text with
  | nil => exact List.cons_ne_nil _ _
  | cons c rest =>
    rw [pieces]
    split
    · exact List.cons_ne_nil _ _
    · split
      · exact List.cons_ne_nil _ _
      · exact List.cons_ne_nil _ _

theorem pieces_append_slash (before after : List Char) :
    pieces (before ++ '/' :: after) = pieces before ++ pieces after := by
  induction before with
  | nil => simp [pieces]
  | cons c rest ih =>
    rw [List.cons_append, pieces, pieces, ih]
    split
    · rfl
    · cases hrest : pieces rest with
      | nil => exact absurd hrest (pieces_ne_nil rest)
      | cons first others => rfl

theorem pieces_of_not_mem {text : List Char} (h : '/' ∉ text) : pieces text = [text] := by
  induction text with
  | nil => rfl
  | cons c rest ih =>
    rw [List.mem_cons, not_or] at h
    rw [pieces, ih h.2, if_neg (by simpa using Ne.symm h.1)]

theorem IsName.names (h : IsName name) : names ⟨name⟩ = [name] := by
  rw [Path.names, pieces_of_not_mem h.2.2, List.map_singleton, String.ofList_toList]

theorem IsName.isAbsolute (h : IsName name) : isAbsolute ⟨name⟩ = false := by
  rw [Path.isAbsolute, beq_eq_false_iff_ne]
  intro hhead
  exact h.2.2 (List.mem_of_mem_head? hhead)

theorem names_slash (before after : String) :
    names ⟨before ++ "/" ++ after⟩ = names ⟨before⟩ ++ names ⟨after⟩ := by
  simp only [names, String.toList_append, List.append_assoc]
  rw [← List.map_append, ← pieces_append_slash]
  rfl

theorem exists_names_join (p : Path) (h : IsName name) :
    ∃ before, (p.join ⟨name⟩).names = before ++ [name] ∧
      before.filter (fun name => !isPassedOver name) = p.components := by
  rw [join, h.isAbsolute, if_neg Bool.false_ne_true]
  cases hlast : p.text.toList.getLast? with
  | none =>
    have hempty : p.text = "" := by simpa using hlast
    refine ⟨[], h.names, ?_⟩
    rw [components, names, hempty]
    rfl
  | some c =>
    by_cases hc : c = '/'
    · -- The slash that the path ends in divides it from the name.
      subst hc
      obtain ⟨chars, hchars⟩ := List.getLast?_eq_some_iff.1 hlast
      have htext : p.text = String.ofList chars ++ "/" := by
        rw [← String.toList_inj, hchars]
        simp
      refine ⟨names ⟨String.ofList chars⟩, ?_, ?_⟩
      · rw [← h.names, ← names_slash, ← htext]
        rfl
      · have hp : p.names = names ⟨String.ofList chars⟩ ++ [""] := by
          have := names_slash (String.ofList chars) ""
          rw [String.append_empty, ← htext] at this
          exact this
        rw [components, hp, List.filter_append]
        simp [isPassedOver]
    · refine ⟨p.names, ?_, rfl⟩
      have hne : (c == '/') = false := beq_eq_false_iff_ne.2 hc
      simp only [hne, Bool.false_eq_true, if_false]
      rw [names_slash, h.names]

theorem components_join (p : Path) (h : IsName name) :
    (p.join ⟨name⟩).components = p.components ++ [name] := by
  obtain ⟨before, hnames, hbefore⟩ := exists_names_join p h
  rw [components, hnames, List.filter_append, hbefore]
  simp [h.1]

theorem getLast?_names_join (p : Path) (h : IsName name) :
    (p.join ⟨name⟩).names.getLast? = some name := by
  obtain ⟨before, hnames, -⟩ := exists_names_join p h
  rw [hnames, List.getLast?_concat]

theorem fileName?_join (p : Path) (h : IsName name) : (p.join ⟨name⟩).fileName? = some name := by
  obtain ⟨before, hnames, -⟩ := exists_names_join p h
  simp [fileName?, splitLast?, hnames, h.1, h.2.1]

theorem takeWhile_reverse_append {after : List Char} (h : '.' ∉ after) (before : List Char) :
    (after.reverse ++ before).takeWhile (· != '.') =
      after.reverse ++ before.takeWhile (· != '.') := by
  apply List.takeWhile_append_of_pos
  intro c hc
  exact bne_iff_ne.2 (ne_of_mem_of_not_mem (List.mem_reverse.1 hc) h)

theorem splitDot?_of_not_mem (h : '.' ∉ name.toList) : splitDot? name = none := by
  have htail : name.toList.reverse.takeWhile (· != '.') = name.toList.reverse := by
    simpa using takeWhile_reverse_append h []
  rw [splitDot?, htail, List.drop_length]

theorem splitDot?_dot (h : '.' ∉ extension.toList) :
    splitDot? (stem ++ "." ++ extension) = if stem = "" then none else some (stem, extension) := by
  have hreverse : (stem ++ "." ++ extension).toList.reverse =
      extension.toList.reverse ++ '.' :: stem.toList.reverse := by
    simp [String.toList_append]
  have htail : (extension.toList.reverse ++ '.' :: stem.toList.reverse).takeWhile (· != '.') =
      extension.toList.reverse := by
    simpa using takeWhile_reverse_append h ('.' :: stem.toList.reverse)
  rw [splitDot?, hreverse, htail, List.drop_left]
  simp

theorem splitDot?_eq_some_iff :
    splitDot? name = some (stem, extension) ↔
      stem ≠ "" ∧ '.' ∉ extension.toList ∧ name = stem ++ "." ++ extension := by
  constructor
  · intro h
    by_cases hdot : '.' ∈ name.toList.reverse
    · obtain ⟨after, before, hname, hafter⟩ := List.eq_append_cons_of_mem hdot
      have htext : name = String.ofList before.reverse ++ "." ++ String.ofList after.reverse := by
        rw [← String.toList_inj, ← List.reverse_inj, hname]
        simp
      have hlast : '.' ∉ (String.ofList after.reverse).toList := by simpa using hafter
      rw [htext, splitDot?_dot hlast] at h
      split at h
      · cases h
      · cases h
        exact ⟨‹_›, hlast, htext⟩
    · rw [List.mem_reverse] at hdot
      rw [splitDot?_of_not_mem hdot] at h
      cases h
  · rintro ⟨hstem, hextension, rfl⟩
    rw [splitDot?_dot hextension, if_neg hstem]

theorem components_below (root : Path) (h : ∀ name ∈ place, IsName name) :
    (root.below place).components = root.components ++ place := by
  induction place generalizing root with
  | nil => simp [below]
  | cons first rest ih =>
    rw [List.forall_mem_cons] at h
    calc (root.below (first :: rest)).components
        = (root.join ⟨first⟩).components ++ rest := ih _ h.2
      _ = root.components ++ first :: rest := by
        rw [components_join root h.1, List.append_assoc]
        rfl

theorem fileName?_below (root : Path) (h : ∀ name ∈ place, IsName name)
    (hlast : place.getLast? = some name) : (root.below place).fileName? = some name := by
  obtain ⟨before, rfl⟩ := List.getLast?_eq_some_iff.1 hlast
  rw [below, List.foldl_append]
  exact fileName?_join _ (h name (by simp))

end CryptoSurvey.Path
