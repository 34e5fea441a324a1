import CryptoSurvey.FileTree
import CryptoSurvey.Proofs.Failure

namespace CryptoSurvey

namespace FileNode

section SetEntry

variable {name other : String} {node : FileNode} {entries : List (String × FileNode)}

theorem lookup_setEntry_self : (setEntry name node entries).lookup name = some node := by
  induction entries with
  | nil => simp [setEntry]
  | cons e rest ih =>
    obtain ⟨first, child⟩ := e
    by_cases hname : first = name
    · simp [setEntry, hname]
    · have hne : (name == first) = false := beq_eq_false_iff_ne.2 (Ne.symm hname)
      simp [setEntry, hname, List.lookup_cons, hne, ih]

theorem lookup_setEntry_of_ne (h : other ≠ name) :
    (setEntry name node entries).lookup other = entries.lookup other := by
  induction entries with
  | nil => simp [setEntry, h]
  | cons e rest ih =>
    obtain ⟨first, child⟩ := e
    by_cases hname : first = name
    · have hne : (other == name) = false := beq_eq_false_iff_ne.2 h
      simp [setEntry, hname, List.lookup_cons, hne]
    · simp [setEntry, hname, List.lookup_cons, ih]

end SetEntry

variable {root new node : FileNode} {place : TreePath}

theorem at?_cons_eq_some {name : String} {rest : TreePath}
    (h : root.at? (name :: rest) = some node) :
    ∃ entries child, root = .directory entries ∧ entries.lookup name = some child ∧
      child.at? rest = some node := by
  rw [at?] at h
  obtain ⟨child, hchild, hnode⟩ := Option.bind_eq_some_iff.1 h
  cases root with
  | file contents => cases hchild
  | device => cases hchild
  | directory entries => exact ⟨entries, child, rfl, hchild, hnode⟩

theorem at?_put_self (h : root.at? place = some node) :
    (root.put place new).at? place = some new := by
  induction place generalizing root with
  | nil =>
    rw [put]
    rfl
  | cons name rest ih =>
    obtain ⟨entries, child, rfl, hchild, hnode⟩ := at?_cons_eq_some h
    rw [put, at?, entry?, lookup_setEntry_self, hchild]
    exact ih hnode

theorem at?_put_child {entries : List (String × FileNode)} {name : String}
    (h : root.at? place = some (.directory entries)) :
    (root.put (place ++ [name]) new).at? (place ++ [name]) = some new := by
  induction place generalizing root with
  | nil =>
    cases h
    rw [List.nil_append, put, at?, entry?, lookup_setEntry_self, put]
    rfl
  | cons first rest ih =>
    obtain ⟨siblings, child, rfl, hchild, hnode⟩ := at?_cons_eq_some h
    rw [List.cons_append, put, at?, entry?, lookup_setEntry_self, hchild]
    exact ih hnode

/-- What is no directory stays in its place when something else that is no directory is replaced. -/
theorem at?_put_of_ne {other : TreePath} (hne : place ≠ other)
    (hplace : ∀ entries, root.at? place ≠ some (.directory entries))
    (hnode : node.isDirectory = false) (hother : root.at? other = some node) :
    (root.put place new).at? other = some node := by
  induction place generalizing root other with
  | nil =>
    cases other with
    | nil => exact absurd rfl hne
    | cons name rest =>
      obtain ⟨entries, child, rfl, _⟩ := at?_cons_eq_some hother
      exact absurd rfl (hplace entries)
  | cons first rest ih =>
    cases other with
    | nil =>
      cases hother
      cases node with
      | file contents => rfl
      | device => rfl
      | directory entries => cases hnode
    | cons name below =>
      obtain ⟨entries, child, rfl, hchild, hbelow⟩ := at?_cons_eq_some hother
      rw [put, at?, entry?]
      by_cases hname : name = first
      · subst hname
        rw [lookup_setEntry_self, hchild]
        refine ih ?_ ?_ hbelow
        · intro hrest
          exact hne (hrest ▸ rfl)
        · intro siblings hsiblings
          refine hplace siblings ?_
          rw [at?, entry?, hchild]
          exact hsiblings
      · rw [lookup_setEntry_of_ne hname, hchild]
        exact hbelow

end FileNode

namespace FileTree

variable {t t' : FileTree} {place other : TreePath} {more contents : ByteArray} {node : FileNode}
variable {p : Path}

theorem at?_append_self (h : t.root.at? place = some (.file contents)) :
    (t.append place more).root.at? place = some (.file (contents ++ more)) := by
  rw [append, h]
  exact FileNode.at?_put_self h

theorem at?_append_of_ne (hne : place ≠ other) (hnode : node.isDirectory = false)
    (hother : t.root.at? other = some node) :
    (t.append place more).root.at? other = some node := by
  rw [append]
  split
  · rename_i old hplace
    refine FileNode.at?_put_of_ne hne ?_ hnode hother
    rw [hplace]
    intro entries h
    cases h
  · exact hother

theorem holder_eq_ok {name : String} (h : t.holder p = .ok (place, some name, false)) :
    p.names.getLast? = some name ∧ ∃ entries, t.root.at? place = some (.directory entries) := by
  unfold holder at h
  obtain ⟨_, _, h⟩ := exists_of_bind_eq_ok h
  simp only at h
  split at h
  · cases h
  · rename_i last before hlast
    obtain ⟨found, _, h⟩ := exists_of_bind_eq_ok h
    split at h
    · cases h
    · rename_i hdir
      simp only [pure, Except.pure, Except.ok.injEq, Prod.mk.injEq, Option.some.injEq] at h
      obtain ⟨rfl, rfl, hslash⟩ := h
      constructor
      · rw [← List.head?_reverse]
        cases hr : p.names.reverse with
        | nil =>
          rw [hr] at hlast
          cases hlast
        | cons first rest =>
          rw [hr, List.head?_cons] at hslash
          rw [hr, List.dropWhile_cons_of_neg (by simpa using hslash)] at hlast
          cases hlast
          rfl
      · cases hn : t.root.at? found with
        | none => simp [hn] at hdir
        | some node =>
          cases node with
          | file contents => simp [hn, FileNode.isDirectory] at hdir
          | device => simp [hn, FileNode.isDirectory] at hdir
          | directory entries => exact ⟨entries, rfl⟩

/-- A created file is empty unless it is a device, it carries the last name of the path, and nothing
but directories is affected elsewhere. -/
theorem createFile_eq_ok (h : t.createFile p = .ok (place, t')) :
    place.getLast? = p.names.getLast? ∧
      (t'.root.at? place = some (.file .empty) ∨ t'.root.at? place = some .device) ∧
      ∀ other node, place ≠ other → node.isDirectory = false → t.root.at? other = some node →
        t'.root.at? other = some node := by
  unfold createFile at h
  obtain ⟨⟨found, name?, slashes⟩, hholder, h⟩ := exists_of_bind_eq_ok h
  cases name? with
  | none => cases h
  | some name =>
    simp only at h
    split at h
    · cases h
    · rename_i hdots
      rw [Bool.or_eq_true, not_or, Bool.not_eq_true, Bool.not_eq_true] at hdots
      obtain ⟨hlast, entries, hdir⟩ := holder_eq_ok (hdots.2 ▸ hholder)
      have hname : (found ++ [name]).getLast? = p.names.getLast? := by
        rw [hlast, List.getLast?_concat]
      split at h
      · cases h
      · split at h
        · cases h
        · rename_i hdevice
          cases h
          exact ⟨hname, .inr hdevice, fun _ _ _ _ hother => hother⟩
        · rename_i hnone _
          cases h
          refine ⟨hname, .inl (FileNode.at?_put_child hdir), ?_⟩
          intro other node hne hnode hother
          exact FileNode.at?_put_of_ne hne hnone hnode hother

end FileTree

end CryptoSurvey
