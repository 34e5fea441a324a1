import CryptoSurvey.Batch.Output
import CryptoSurvey.Proofs.Failure
import CryptoSurvey.Proofs.FileTree
import CryptoSurvey.Proofs.JsonText
import CryptoSurvey.Proofs.PathNames

namespace CryptoSurvey

section LinesOf

@[simp]
theorem append_linesOf_nil (text : String) : text ++ linesOf [] = text :=
  String.append_empty

theorem linesOf_append (rows more : List Json) :
    linesOf (rows ++ more) = linesOf rows ++ linesOf more := by
  rw [linesOf, List.map_append, String.join_append]
  rfl

theorem toList_linesOf (rows : List Json) :
    (linesOf rows).toList = rows.flatMap fun row => row.render.toList ++ ['\n'] := by
  rw [linesOf, String.toList_join]
  simp [List.flatMap_map]

theorem newline_not_mem_render (row : Json) : '\n' ∉ row.render.toList := by
  rw [Json.render, String.toList_ofList]
  exact Json.newline_not_mem_write row

end LinesOf

section LineFile

variable {f : LineFile} {tree : FileTree} {text : String} {rows : List Json}

theorem LineFile.at?_write_self (h : tree.root.at? f.place = some (.file text.toUTF8)) :
    (f.write rows tree).root.at? f.place = some (.file (text ++ linesOf rows).toUTF8) := by
  rw [write]
  split
  · rename_i hempty
    rw [List.isEmpty_iff.1 hempty, append_linesOf_nil]
    exact h
  · rw [FileTree.at?_append_self h]
    exact congrArg (some ∘ FileNode.file) (String.toByteArray_append).symm

theorem LineFile.at?_write_of_ne {place : TreePath} {node : FileNode} (hne : f.place ≠ place)
    (hnode : node.isDirectory = false) (h : tree.root.at? place = some node) :
    (f.write rows tree).root.at? place = some node := by
  rw [write]
  split
  · exact h
  · exact FileTree.at?_append_of_ne hne hnode h

end LineFile

namespace Outputs

section Create

variable {directory : Path} {kind other : RowKind} {tree tree' : FileTree} {f g : LineFile}

def Created (kind : RowKind) (f : LineFile) (tree : FileTree) : Prop :=
  f.place.getLast? = some kind.fileName ∧
    (tree.root.at? f.place = some (.file .empty) ∨ tree.root.at? f.place = some .device)

theorem Created.place_ne (hf : Created kind f tree) (hg : Created other g tree')
    (hne : kind ≠ other) : f.place ≠ g.place := by
  intro hplace
  have hname : some kind.fileName = some other.fileName := by rw [← hf.1, ← hg.1, hplace]
  cases kind <;> cases other <;> simp [RowKind.fileName] at hname hne

theorem created_of_createFile (h : createFile directory kind tree = (.ok f, tree')) :
    Created kind f tree' ∧ ∀ place node, f.place ≠ place → node.isDirectory = false →
      tree.root.at? place = some node → tree'.root.at? place = some node := by
  unfold createFile LineFile.create at h
  cases hc : tree.createFile (directory.join ⟨kind.fileName⟩) with
  | error e =>
    simp only [hc] at h
    cases h
  | ok created =>
    obtain ⟨place, tree₁⟩ := created
    simp only [hc] at h
    cases h
    obtain ⟨hlast, hnode, hframe⟩ := FileTree.createFile_eq_ok hc
    refine ⟨⟨hlast.trans ?_, hnode⟩, hframe⟩
    apply Path.getLast?_names_join
    cases kind <;> decide

theorem Created.createFile (hf : Created kind f tree)
    (h : createFile directory other tree = (.ok g, tree')) (hne : other ≠ kind) :
    Created kind f tree' := by
  obtain ⟨hg, hframe⟩ := created_of_createFile h
  have hplace := hg.place_ne hf hne
  refine ⟨hf.1, hf.2.imp ?_ ?_⟩
  · exact hframe _ _ hplace rfl
  · exact hframe _ _ hplace rfl

end Create

variable {outputs : Outputs} {tree : FileTree} {text : RowKind → String}

def Regular (outputs : Outputs) (tree : FileTree) : Prop :=
  ∀ kind f, outputs.file? kind = some f → ∃ contents, tree.root.at? f.place = some (.file contents)

def Apart (outputs : Outputs) : Prop :=
  ∀ kind other f g, outputs.file? kind = some f → outputs.file? other = some g → kind ≠ other →
    f.place ≠ g.place

/-- The file of each kind holds the text of the kind and nothing else. -/
def Holds (outputs : Outputs) (text : RowKind → String) (tree : FileTree) : Prop :=
  ∀ kind f, outputs.file? kind = some f → tree.root.at? f.place = some (.file (text kind).toUTF8)

theorem Holds.write (h : outputs.Holds text tree) (ha : outputs.Apart) (b : Block) :
    outputs.Holds (fun kind => if b.kind = kind then text kind ++ linesOf b.rows else text kind)
      (outputs.write tree b) := by
  intro kind f hf
  rw [Outputs.write]
  by_cases hkind : b.kind = kind
  · subst hkind
    simp only [hf, if_true]
    exact LineFile.at?_write_self (h b.kind f hf)
  · simp only [if_neg hkind]
    split
    · rename_i g hg
      exact LineFile.at?_write_of_ne (ha _ _ _ _ hg hf hkind) rfl (h kind f hf)
    · exact h kind f hf

end Outputs

def rowsOf (kind : RowKind) (blocks : List Block) : List Json :=
  (blocks.filter (·.kind = kind)).flatMap (·.rows)

theorem rowsOf_cons (kind : RowKind) (b : Block) (blocks : List Block) :
    rowsOf kind (b :: blocks) = (if b.kind = kind then b.rows else []) ++ rowsOf kind blocks := by
  rw [rowsOf, List.filter_cons]
  split
  · rename_i hkind
    rw [if_pos (of_decide_eq_true hkind), List.flatMap_cons]
    rfl
  · rename_i hkind
    rw [if_neg fun h => hkind (decide_eq_true h)]
    rfl

theorem Outputs.Holds.foldl_write {outputs : Outputs} {tree : FileTree} {text : RowKind → String}
    (h : outputs.Holds text tree) (ha : outputs.Apart) (blocks : List Block) :
    outputs.Holds (fun kind => text kind ++ linesOf (rowsOf kind blocks))
      (blocks.foldl outputs.write tree) := by
  induction blocks generalizing tree text with
  | nil => simpa [rowsOf] using h
  | cons b rest ih =>
    have htext (kind : RowKind) : text kind ++ linesOf (rowsOf kind (b :: rest)) =
        (if b.kind = kind then text kind ++ linesOf b.rows else text kind) ++
          linesOf (rowsOf kind rest) := by
      rw [rowsOf_cons, linesOf_append, ← String.append_assoc]
      split
      · rfl
      · rw [append_linesOf_nil]
    simp only [htext]
    exact ih (h.write ha b)

namespace UnitOutcome

def rows (registry : Registry) (o : UnitOutcome) : RowKind → List Json
  | .managed => o.report?.elim [] fun r => (r.managedRows registry).map ManagedRow.toJson
  | .native => o.report?.elim [] fun r => (r.nativeRows registry).map NativeRow.toJson
  | .summary => [(SummaryRow.ofOutcome o).toJson]

variable {registry : Registry} {o : UnitOutcome} {kind : RowKind} {b : Block}

theorem blocks_eq : o.blocks registry =
    (([.managed, .native, .summary] : List RowKind).map fun kind =>
      ⟨kind, o.rows registry kind⟩).filter fun b => !b.rows.isEmpty := by
  cases h : o.report? with
  | none => simp [blocks, rows, h]
  | some report => simp [blocks, rows, h]

theorem nodup_kinds_blocks : ((o.blocks registry).map (·.kind)).Nodup := by
  rw [blocks_eq]
  have hall : ([.managed, .native, .summary] : List RowKind).Nodup := by decide
  refine hall.sublist ?_
  have hkinds := (List.filter_sublist (p := fun b : Block => !b.rows.isEmpty)
    (l := [.managed, .native, .summary].map fun kind => ⟨kind, o.rows registry kind⟩)).map (·.kind)
  simpa using hkinds

theorem rows_of_mem_blocks (h : b ∈ o.blocks registry) : b.rows = o.rows registry b.kind := by
  rw [blocks_eq, List.mem_filter, List.mem_map] at h
  obtain ⟨⟨kind, _, rfl⟩, _⟩ := h
  rfl

end UnitOutcome

end CryptoSurvey
