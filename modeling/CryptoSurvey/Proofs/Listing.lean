import CryptoSurvey.CommandLine.Selection
import CryptoSurvey.Proofs.FileTree
import CryptoSurvey.Proofs.PathNames
import Mathlib.Data.List.Forall2
import Mathlib.Tactic.Choose

namespace CryptoSurvey

namespace FileNode

/-- The entries of every directory have proper names, each its own. -/
inductive WellFormed : FileNode → Prop
  | file (contents : ByteArray) : WellFormed (.file contents)
  | device : WellFormed .device
  | directory {entries : List (String × FileNode)} (unique : (entries.map (·.1)).Nodup)
      (names : ∀ e ∈ entries, Path.IsName e.1) (below : ∀ e ∈ entries, WellFormed e.2) :
      WellFormed (.directory entries)

/-- A name with the extension of archives. The extension alone is no such name. -/
def IsAppName (name : String) : Prop :=
  ∃ stem, stem ≠ "" ∧ name = stem ++ ".apk"

/-- A file stands at a place, and has the name of an archive. -/
def HoldsApp (node : FileNode) (place : TreePath) : Prop :=
  (∃ contents, node.at? place = some (.file contents)) ∧
    ∃ name, place.getLast? = some name ∧ IsAppName name

/-- The paths lead to the archives below a directory, to each by one path, and increase. -/
def Lists (node : FileNode) (root : Path) (paths : List Path) : Prop :=
  (∃ places : List TreePath, paths = places.map root.below ∧
    ∀ place, place ∈ places ↔ node.HoldsApp place) ∧
  paths.Pairwise fun p q => p.components < q.components

/-- A file stands at a place, and the path to it has the extension of archives. -/
def ReachesApp (node : FileNode) (root : Path) (place : TreePath) : Prop :=
  (∃ contents, node.at? place = some (.file contents)) ∧
    (root.below place).extension? = some appExtension

section Entries

variable {entries : List (String × FileNode)} {name : String} {child : FileNode}

/-- The entries of a directory in the order of their names. -/
def byName (entries : List (String × FileNode)) : List (String × FileNode) :=
  entries.mergeSort fun a b => decide (a.1 ≤ b.1)

theorem mem_byName {e : String × FileNode} : e ∈ byName entries ↔ e ∈ entries :=
  List.mem_mergeSort

theorem pairwise_byName (h : (entries.map (·.1)).Nodup) :
    (byName entries).Pairwise fun a b => a.1 < b.1 := by
  have hsorted : (byName entries).Pairwise fun a b => decide (a.1 ≤ b.1) = true := by
    apply List.pairwise_mergeSort
    · intro a b c hab hbc
      rw [decide_eq_true_eq] at hab hbc ⊢
      exact String.le_trans hab hbc
    · intro a b
      simpa using String.le_total a.1 b.1
  have hnodup : ((byName entries).map (·.1)).Nodup :=
    ((List.mergeSort_perm _ _).map _).nodup_iff.2 h
  refine hsorted.imp₂ ?_ (List.pairwise_map.1 hnodup)
  intro a b hle hne
  rw [← String.not_le]
  intro hge
  exact hne (String.le_antisymm (of_decide_eq_true hle) hge)

theorem appsOfEntries_eq_map (p : Path) (entries : List (String × FileNode)) :
    appsOfEntries p entries = entries.map fun e => (e.1, e.2.apps (p.join ⟨e.1⟩)) := by
  induction entries with
  | nil => rw [appsOfEntries, List.map_nil]
  | cons e rest ih => rw [appsOfEntries, ih, List.map_cons]

theorem apps_directory (p : Path) (entries : List (String × FileNode)) :
    (directory entries).apps p = (byName entries).flatMap fun e => e.2.apps (p.join ⟨e.1⟩) := by
  have hsort : (entries.map fun e => (e.1, e.2.apps (p.join ⟨e.1⟩))).mergeSort
      (fun a b => decide (a.1 ≤ b.1)) =
      (byName entries).map fun e => (e.1, e.2.apps (p.join ⟨e.1⟩)) := by
    symm
    apply List.map_mergeSort
    intro a _ b _
    rfl
  rw [apps, appsOfEntries_eq_map, hsort, List.flatMap_map]

theorem lookup_eq_some_iff_mem (h : (entries.map (·.1)).Nodup) :
    entries.lookup name = some child ↔ (name, child) ∈ entries := by
  induction entries with
  | nil => simp
  | cons e rest ih =>
    obtain ⟨first, node⟩ := e
    rw [List.map_cons, List.nodup_cons] at h
    by_cases hname : name = first
    · subst hname
      have hrest : (name, child) ∉ rest := by
        intro hmem
        exact h.1 (List.mem_map.2 ⟨_, hmem, rfl⟩)
      simp [hrest, eq_comm]
    · have hne : (name == first) = false := beq_eq_false_iff_ne.2 hname
      simp [List.lookup_cons, hne, hname, ih h.2]

theorem at?_directory_cons (h : (entries.map (·.1)).Nodup) {rest : TreePath} {node : FileNode} :
    (directory entries).at? (name :: rest) = some node ↔
      ∃ child, (name, child) ∈ entries ∧ child.at? rest = some node := by
  rw [at?, entry?, Option.bind_eq_some_iff]
  simp only [lookup_eq_some_iff_mem h]

/-- The places below the entries of a directory, given those below each entry. -/
def placesBelow (entries : List (String × FileNode))
    (places : String × FileNode → List TreePath) : List TreePath :=
  (byName entries).flatMap fun e => (places e).map (e.1 :: ·)

section Places

variable {places : String × FileNode → List TreePath}

theorem mem_placesBelow {place : TreePath} :
    place ∈ placesBelow entries places ↔ ∃ e ∈ entries, ∃ rest ∈ places e, place = e.1 :: rest := by
  simp only [placesBelow, List.mem_flatMap, mem_byName, List.mem_map, eq_comm]

/-- Places in one entry are told apart below it, and places in two entries by the names. -/
theorem pairwise_placesBelow (unique : (entries.map (·.1)).Nodup)
    (h : ∀ e ∈ entries, (places e).Pairwise (· < ·)) :
    (placesBelow entries places).Pairwise (· < ·) := by
  rw [placesBelow, List.pairwise_flatMap]
  constructor
  · intro e he
    rw [List.pairwise_map]
    refine (h e (mem_byName.1 he)).imp fun hlt => ?_
    exact List.cons_lt_cons_iff.2 (.inr ⟨rfl, hlt⟩)
  · refine (pairwise_byName unique).imp fun hlt => ?_
    intro first hfirst second hsecond
    obtain ⟨_, _, rfl⟩ := List.mem_map.1 hfirst
    obtain ⟨_, _, rfl⟩ := List.mem_map.1 hsecond
    exact List.cons_lt_cons_iff.2 (.inl hlt)

theorem apps_directory_of_places {p : Path}
    (h : ∀ e ∈ entries, e.2.apps (p.join ⟨e.1⟩) = (places e).map (p.join ⟨e.1⟩).below) :
    (directory entries).apps p = (placesBelow entries places).map p.below := by
  rw [apps_directory, placesBelow, List.map_flatMap]
  apply List.flatMap_congr
  intro e he
  rw [h e (mem_byName.1 he), List.map_map]
  rfl

end Places

end Entries

variable {node : FileNode} {root : Path} {place : TreePath}

/-- What stands at a place of a proper tree is a proper tree, and proper names lead to it. -/
theorem WellFormed.at? (h : node.WellFormed) {found : FileNode}
    (hfound : node.at? place = some found) :
    found.WellFormed ∧ ∀ name ∈ place, Path.IsName name := by
  induction place generalizing node with
  | nil =>
    cases hfound
    exact ⟨h, List.forall_mem_nil _⟩
  | cons name rest ih =>
    obtain ⟨entries, child, rfl, hchild, hrest⟩ := at?_cons_eq_some hfound
    cases h with
    | directory unique names below =>
      have hmem := (lookup_eq_some_iff_mem unique).1 hchild
      obtain ⟨hwell, hnames⟩ := ih (below _ hmem) hrest
      exact ⟨hwell, List.forall_mem_cons.2 ⟨names _ hmem, hnames⟩⟩

theorem reachesApp_file {contents : ByteArray} :
    (file contents).ReachesApp root place ↔ place = [] ∧ root.extension? = some appExtension := by
  cases place with
  | nil => simp [ReachesApp, FileNode.at?, Path.below]
  | cons name rest => simp [ReachesApp, FileNode.at?, entry?]

theorem not_reachesApp_device : ¬ device.ReachesApp root place := by
  cases place with
  | nil => simp [ReachesApp, FileNode.at?]
  | cons name rest => simp [ReachesApp, FileNode.at?, entry?]

theorem reachesApp_directory {entries : List (String × FileNode)}
    (unique : (entries.map (·.1)).Nodup) :
    (directory entries).ReachesApp root place ↔
      ∃ e ∈ entries, ∃ rest, e.2.ReachesApp (root.join ⟨e.1⟩) rest ∧ place = e.1 :: rest := by
  constructor
  · rintro ⟨⟨contents, hfile⟩, hextension⟩
    cases place with
    | nil => cases hfile
    | cons name rest =>
      obtain ⟨child, hmem, hrest⟩ := (at?_directory_cons unique).1 hfile
      exact ⟨(name, child), hmem, rest, ⟨⟨contents, hrest⟩, hextension⟩, rfl⟩
  · rintro ⟨⟨name, child⟩, hmem, rest, ⟨⟨contents, hrest⟩, hextension⟩, rfl⟩
    exact ⟨⟨contents, (at?_directory_cons unique).2 ⟨child, hmem, hrest⟩⟩, hextension⟩

theorem exists_places_of_apps (h : node.WellFormed) (p : Path) :
    ∃ places : List TreePath, node.apps p = places.map p.below ∧ places.Pairwise (· < ·) ∧
      ∀ place, place ∈ places ↔ node.ReachesApp p place := by
  induction h generalizing p with
  | file contents =>
    by_cases hextension : p.extension? = some appExtension
    · refine ⟨[[]], ?_, List.pairwise_singleton _ _, ?_⟩
      · rw [apps, if_pos (beq_iff_eq.2 hextension)]
        rfl
      · simp [reachesApp_file, hextension]
    · refine ⟨[], ?_, List.Pairwise.nil, ?_⟩
      · rw [apps, if_neg (mt beq_iff_eq.1 hextension)]
        rfl
      · simp [reachesApp_file, hextension]
  | device =>
    refine ⟨[], ?_, List.Pairwise.nil, ?_⟩
    · rw [apps]
      rfl
    · simp [not_reachesApp_device]
  | @directory entries unique names below ih =>
    -- The places below each entry are in order already, and the names put the entries in order.
    choose! places happs hsorted hmem using ih
    refine ⟨placesBelow entries fun e => places e (p.join ⟨e.1⟩), ?_, ?_, ?_⟩
    · exact apps_directory_of_places fun e he => happs e he _
    · exact pairwise_placesBelow unique fun e he => hsorted e he _
    · intro place
      rw [reachesApp_directory unique, mem_placesBelow]
      apply exists_congr
      intro e
      apply and_congr_right
      intro he
      simp only [hmem e he]

theorem isAppName_iff {name : String} :
    IsAppName name ↔ (Path.splitDot? name).map (·.2) = some appExtension := by
  have hdot (stem : String) : stem ++ "." ++ "apk" = stem ++ ".apk" := String.append_assoc ..
  simp [IsAppName, Path.splitDot?_eq_some_iff, appExtension, hdot]

/-- Below a directory, the last name on the way to a file decides about its extension. -/
theorem holdsApp_iff_reachesApp {entries : List (String × FileNode)}
    (h : (directory entries).WellFormed) :
    (directory entries).HoldsApp place ↔ (directory entries).ReachesApp root place := by
  apply and_congr_right
  rintro ⟨contents, hfile⟩
  cases hlast : place.getLast? with
  | none =>
    rw [List.getLast?_eq_none_iff.1 hlast] at hfile
    cases hfile
  | some name =>
    rw [Path.extension?, Path.fileName?_below root (h.at? hfile).2 hlast]
    simp [isAppName_iff]

theorem lists_apps {entries : List (String × FileNode)} (h : (directory entries).WellFormed)
    (root : Path) : (directory entries).Lists root ((directory entries).apps root) := by
  obtain ⟨places, happs, hsorted, hmem⟩ := exists_places_of_apps h root
  refine ⟨⟨places, happs, fun place => (hmem place).trans (holdsApp_iff_reachesApp h).symm⟩, ?_⟩
  rw [happs, List.pairwise_map]
  refine hsorted.imp_of_mem ?_
  intro first second hfirst hsecond hlt
  have hcomponents {place : TreePath} (hplace : place ∈ places) :
      (root.below place).components = root.components ++ place := by
    obtain ⟨⟨contents, hfile⟩, -⟩ := (hmem place).1 hplace
    exact Path.components_below root (h.at? hfile).2
  rw [hcomponents hfirst, hcomponents hsecond]
  exact List.append_left_lt hlt

end FileNode

namespace FileTree

/-- What a given path stands for: a directory for the archives below it, anything else for itself. -/
inductive Expands (tree : FileTree) (path : Path) : List Path → Prop
  | directory {entries : List (String × FileNode)} {paths : List Path}
      (found : tree.lookup path = .ok (.directory entries))
      (walked : tree.walk path = .ok paths) : Expands tree path paths
  | other (found : ∀ entries, tree.lookup path ≠ .ok (.directory entries)) :
      Expands tree path [path]

variable {tree : FileTree} {path : Path}

theorem exists_at?_of_lookup {node : FileNode} (h : tree.lookup path = .ok node) :
    ∃ place, tree.root.at? place = some node := by
  obtain ⟨place, _, hnode⟩ := exists_of_bind_eq_ok h
  split at hnode
  · cases hnode
    exact ⟨place, ‹_›⟩
  · cases hnode

theorem isDirectory_iff :
    tree.isDirectory path = true ↔ ∃ entries, tree.lookup path = .ok (.directory entries) := by
  constructor
  · intro h
    obtain ⟨node, hnode, hdirectory⟩ := exists_of_any_toOption h
    cases node with
    | file contents => cases hdirectory
    | device => cases hdirectory
    | directory entries => exact ⟨entries, hnode⟩
  · rintro ⟨entries, hentries⟩
    rw [isDirectory, hentries]
    rfl

theorem walk_of_lookup {node : FileNode} (h : tree.lookup path = .ok node) :
    tree.walk path = .ok (node.apps path) := by
  rw [walk, h]

theorem exists_expands (tree : FileTree) (path : Path) :
    ∃ own, Arguments.appsAt tree path = .ok own ∧ tree.Expands path own := by
  by_cases h : tree.isDirectory path = true
  · obtain ⟨entries, hentries⟩ := isDirectory_iff.1 h
    have hwalk := walk_of_lookup hentries
    refine ⟨_, ?_, .directory hentries hwalk⟩
    rw [Arguments.appsAt, if_pos h, hwalk]
  · refine ⟨[path], ?_, .other fun entries hentries => h (isDirectory_iff.2 ⟨entries, hentries⟩)⟩
    rw [Arguments.appsAt, if_neg h]

theorem collect_expands (tree : FileTree) (a : Arguments) :
    ∃ lists, a.collect tree = .ok lists.flatten ∧ List.Forall₂ tree.Expands a.apps lists := by
  choose own hown hexpands using exists_expands tree
  refine ⟨a.apps.map own, ?_, ?_⟩
  · have hlists : a.apps.mapM (Arguments.appsAt tree) = .ok (a.apps.map own) := by
      rw [mapM_eq_ok_iff fun _ _ => Iff.rfl, List.map_map]
      exact List.map_congr_left fun path _ => hown path
    rw [Arguments.collect, hlists]
    rfl
  · rw [List.forall₂_map_right_iff, List.forall₂_same]
    exact fun path _ => hexpands path

/-- In a proper tree, the search of a directory gives all archives below it in the order of their
paths, and the applications to analyse are those that the given paths stand for, path by path. -/
theorem listing_complete_sorted (tree : FileTree) (h : tree.root.WellFormed) :
    (∀ root entries, tree.lookup root = .ok (.directory entries) →
      ∃ paths, tree.walk root = .ok paths ∧ (FileNode.directory entries).Lists root paths) ∧
    ∀ a : Arguments, ∃ lists, a.collect tree = .ok lists.flatten ∧
      List.Forall₂ tree.Expands a.apps lists := by
  refine ⟨?_, collect_expands tree⟩
  intro root entries hentries
  obtain ⟨place, hplace⟩ := exists_at?_of_lookup hentries
  exact ⟨_, walk_of_lookup hentries, FileNode.lists_apps (h.at? hplace).1 root⟩

/-- Entries out of order, with a directory that is called like an archive and files that almost are. -/
def mixedEntries : List (String × FileNode) :=
  [("b.apk", .file .empty), ("a.apk", .directory [("c.apk", .file .empty)]),
    ("a", .directory [("x.APK", .file .empty), ("z.apk", .file .empty), (".apk", .file .empty)])]

def mixedTree : FileTree where
  root := .directory [("apps", .directory mixedEntries)]
  working := []

theorem wellFormed_mixedTree : mixedTree.root.WellFormed := by
  refine .directory (by decide) (by decide +kernel) (List.forall_mem_singleton.2 ?_)
  refine .directory (by decide) (by decide +kernel) ?_
  rw [mixedEntries, List.forall_mem_cons, List.forall_mem_cons, List.forall_mem_singleton]
  refine ⟨.file _, .directory (by decide) (by decide +kernel) ?_,
    .directory (by decide) (by decide +kernel) ?_⟩
  · exact List.forall_mem_singleton.2 (.file _)
  · rw [List.forall_mem_cons, List.forall_mem_cons, List.forall_mem_singleton]
    exact ⟨.file _, .file _, .file _⟩

theorem listing_complete_sorted_mixed :
    mixedTree.root.WellFormed ∧
    mixedTree.lookup ⟨"apps"⟩ = .ok (.directory mixedEntries) ∧
    ∃ paths, mixedTree.walk ⟨"apps"⟩ = .ok paths ∧
      (FileNode.directory mixedEntries).Lists ⟨"apps"⟩ paths ∧ ⟨"apps/a.apk/c.apk"⟩ ∈ paths := by
  have hlookup : mixedTree.lookup ⟨"apps"⟩ = .ok (.directory mixedEntries) := by rfl
  obtain ⟨paths, hwalk, hlists⟩ :=
    (listing_complete_sorted mixedTree wellFormed_mixedTree).1 _ _ hlookup
  refine ⟨wellFormed_mixedTree, hlookup, paths, hwalk, hlists, ?_⟩
  obtain ⟨⟨places, rfl, hplaces⟩, -⟩ := hlists
  have hholds : (FileNode.directory mixedEntries).HoldsApp ["a.apk", "c.apk"] :=
    ⟨⟨_, rfl⟩, _, rfl, "c", by decide, by decide⟩
  exact List.mem_map.2 ⟨_, (hplaces _).2 hholds, by decide +kernel⟩

end FileTree

end CryptoSurvey
