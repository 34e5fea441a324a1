import CryptoSurvey.Proofs.JsonRecords
import CryptoSurvey.Proofs.Ordered
import CryptoSurvey.Proofs.RowFiles

namespace CryptoSurvey

theorem OrderedMap.ofList_entries {κ α : Type} [Ord κ] [Std.TransOrd κ] [Std.LawfulEqOrd κ]
    (m : OrderedMap κ α) : ofList m.entries = m := by
  apply ext_get?
  intro k
  apply Option.ext
  intro a
  have hkeys : (m.entries.map Prod.fst).Nodup := by
    rw [List.nodup_iff_pairwise_ne, List.pairwise_map]
    refine m.increasing.imp ?_
    intro a b hab heq
    rw [heq] at hab
    exact compare_self_ne_lt _ hab
  rw [get?_ofList hkeys, get?_eq_some_iff]

open Json (Field Shape Reader Reads)

section Readers

def flagsReader : Reader (List (String × Bool)) :=
  Reader.members Reader.boolean

def UnitStatus.ofName? (name : String) : Option UnitStatus :=
  [.completed, .timedOut, .skipped, .failed].find? (·.name == name)

def statusReader : Reader UnitStatus := fun s => do
  let (name, rest) ← Reader.text s
  match UnitStatus.ofName? name with
  | some status => return (status, rest)
  | none => .error (.wrongValue (.text name) "a status")

structure ManagedDraft where
  app? : Option String := none
  package? : Option (Option String) := none
  algorithm? : Option String := none
  className? : Option String := none
  method? : Option (Option String) := none
  primary? : Option (Option String) := none
  nameMatch? : Option Bool := none
  strings? : Option (List String) := none
  constants? : Option (List (String × Bool)) := none

def managedShape : Shape ManagedDraft ManagedRow where
  name := "ManagedRow"
  fields :=
    [.of "app" false (·.app?) (fun d v => { d with app? := some v }) Reader.text,
     .of "package" true (·.package?) (fun d v => { d with package? := some v })
      (Reader.optional Reader.text),
     .of "algorithm" false (·.algorithm?) (fun d v => { d with algorithm? := some v }) Reader.text,
     .of "class" false (·.className?) (fun d v => { d with className? := some v }) Reader.text,
     .of "method" true (·.method?) (fun d v => { d with method? := some v })
      (Reader.optional Reader.text),
     .of "primary" true (·.primary?) (fun d v => { d with primary? := some v })
      (Reader.optional Reader.text),
     .of "name_match" false (·.nameMatch?) (fun d v => { d with nameMatch? := some v })
      Reader.boolean,
     .of "strings" false (·.strings?) (fun d v => { d with strings? := some v })
      (Reader.list Reader.text),
     .of "constants" false (·.constants?) (fun d v => { d with constants? := some v }) flagsReader]
  start := {}
  finish d := do
    return { app := ← Json.required "app" d.app?,
             package? := d.package?.getD none,
             algorithm := ← Json.required "algorithm" d.algorithm?,
             className := ← Json.required "class" d.className?,
             method? := d.method?.getD none,
             primary? := d.primary?.getD none,
             nameMatch := ← Json.required "name_match" d.nameMatch?,
             strings := ← Json.required "strings" d.strings?,
             constants := .ofList (← Json.required "constants" d.constants?) }

structure NativeDraft where
  app? : Option String := none
  library? : Option String := none
  path? : Option String := none
  algorithm? : Option (Option String) := none
  symbols? : Option (List String) := none
  constants? : Option (List (String × Bool)) := none
  packer? : Option Bool := none

def nativeShape : Shape NativeDraft NativeRow where
  name := "NativeRow"
  fields :=
    [.of "app" false (·.app?) (fun d v => { d with app? := some v }) Reader.text,
     .of "library" false (·.library?) (fun d v => { d with library? := some v }) Reader.text,
     .of "path" false (·.path?) (fun d v => { d with path? := some v }) Reader.text,
     .of "algorithm" true (·.algorithm?) (fun d v => { d with algorithm? := some v })
      (Reader.optional Reader.text),
     .of "symbols" false (·.symbols?) (fun d v => { d with symbols? := some v })
      (Reader.list Reader.text),
     .of "constants" false (·.constants?) (fun d v => { d with constants? := some v }) flagsReader,
     .of "packer" false (·.packer?) (fun d v => { d with packer? := some v }) Reader.boolean]
  start := {}
  finish d := do
    return { app := ← Json.required "app" d.app?,
             library := ← Json.required "library" d.library?,
             path := ← Json.required "path" d.path?,
             algorithm? := d.algorithm?.getD none,
             symbols := ← Json.required "symbols" d.symbols?,
             constants := .ofList (← Json.required "constants" d.constants?),
             packer := ← Json.required "packer" d.packer? }

/-- The fields of a row of the summary read so far. -/
structure SummaryDraft where
  app? : Option String := none
  package? : Option (Option String) := none
  status? : Option UnitStatus := none
  reason? : Option (Option String) := none
  classesScanned? : Option Nat := none
  methodsScanned? : Option Nat := none
  librariesScanned? : Option Nat := none
  librariesSkipped? : Option Nat := none
  packers? : Option (List String) := none
  elapsed? : Option Nat := none

def summaryShape : Shape SummaryDraft SummaryRow where
  name := "SummaryRow"
  fields :=
    [.of "app" false (·.app?) (fun d v => { d with app? := some v }) Reader.text,
     .of "package" true (·.package?) (fun d v => { d with package? := some v })
      (Reader.optional Reader.text),
     .of "status" false (·.status?) (fun d v => { d with status? := some v }) statusReader,
     .of "reason" true (·.reason?) (fun d v => { d with reason? := some v })
      (Reader.optional Reader.text),
     .of "classes_scanned" false (·.classesScanned?)
      (fun d v => { d with classesScanned? := some v }) Reader.size,
     .of "methods_scanned" false (·.methodsScanned?)
      (fun d v => { d with methodsScanned? := some v }) Reader.size,
     .of "libraries_scanned" false (·.librariesScanned?)
      (fun d v => { d with librariesScanned? := some v }) Reader.size,
     .of "libraries_skipped" false (·.librariesSkipped?)
      (fun d v => { d with librariesSkipped? := some v }) Reader.size,
     .of "packers" false (·.packers?) (fun d v => { d with packers? := some v })
      (Reader.list Reader.text),
     .of "elapsed_ms" false (·.elapsed?) (fun d v => { d with elapsed? := some v }) Reader.size]
  start := {}
  finish d := do
    return { app := ← Json.required "app" d.app?,
             package? := d.package?.getD none,
             status := ← Json.required "status" d.status?,
             reason? := d.reason?.getD none,
             classesScanned := ← Json.required "classes_scanned" d.classesScanned?,
             methodsScanned := ← Json.required "methods_scanned" d.methodsScanned?,
             librariesScanned := ← Json.required "libraries_scanned" d.librariesScanned?,
             librariesSkipped := ← Json.required "libraries_skipped" d.librariesSkipped?,
             packers := ← Json.required "packers" d.packers?,
             elapsed := ← Json.required "elapsed_ms" d.elapsed? }

end Readers

section Reads

theorem reads_texts (l : List String) : Reads (Reader.list Reader.text) (.ofTexts l) l :=
  Json.reads_list fun s _ => Json.reads_text s

theorem reads_flags (m : OrderedMap String Bool) : Reads flagsReader (.ofFlags m) m.entries :=
  Json.reads_members fun e _ => Json.reads_boolean e.2

theorem reads_status (status : UnitStatus) :
    Reads statusReader (.text status.name) status := by
  intro before t rest hbefore ht hrest
  have hname : UnitStatus.ofName? status.name = some status := by
    cases status <;> decide
  unfold statusReader
  rw [Json.reads_text status.name before t rest hbefore ht hrest]
  change (match UnitStatus.ofName? status.name with
    | some status => .ok (status, rest)
    | none => .error (.wrongValue (.text status.name) "a status") :
      Except Json.Error (UnitStatus × List Char)) = _
  rw [hname]

theorem Json.Shape.Fills.optionalText {σ α : Type} {shape : Shape σ α} {g g' : σ} {k : String}
    {ms : List (String × Option Json)} {name : String} {optional : Bool}
    {get : σ → Option (Option String)} {set : σ → Option String → σ} (o : Option String)
    (put : σ → Option (Option String) → σ)
    (hfind : shape.fields.find? (·.name == k) =
      some (.of name optional get set (Reader.optional Reader.text)))
    (hset : (get g).isSome = false) (hnone : put g none = g)
    (hsome : ∀ s, put g (some (some s)) = set g (some s))
    (hms : Fills shape (put g (o.map some)) ms g') :
    Fills shape g ((k, o.map .text) :: ms) g' := by
  cases o with
  | none =>
    rw [Option.map_none, hnone] at hms
    exact .absent hms
  | some s =>
    rw [Option.map_some, hsome] at hms
    exact .present hfind hset (Json.reads_field (Json.reads_optional_text s) g) hms

theorem getD_map_some {α : Type} (o : Option α) : (o.map some).getD none = o := by
  cases o with
  | none => rfl
  | some a => rfl

theorem reads_managedRow (r : ManagedRow) : Reads managedShape.reader r.toJson r := by
  let draft : ManagedDraft :=
    { app? := some r.app, package? := r.package?.map some, algorithm? := some r.algorithm,
      className? := some r.className, method? := r.method?.map some,
      primary? := r.primary?.map some, nameMatch? := some r.nameMatch,
      strings? := some r.strings, constants? := some r.constants.entries }
  refine Json.Shape.Fills.reads (g := draft) ?_ ?_
  · refine .present rfl rfl (Json.reads_field (Json.reads_text r.app) _) ?_
    refine .optionalText r.package? (fun d v => { d with package? := v }) rfl rfl rfl
      (fun _ => rfl) ?_
    refine .present rfl rfl (Json.reads_field (Json.reads_text r.algorithm) _) ?_
    refine .present rfl rfl (Json.reads_field (Json.reads_text r.className) _) ?_
    refine .optionalText r.method? (fun d v => { d with method? := v }) rfl rfl rfl
      (fun _ => rfl) ?_
    refine .optionalText r.primary? (fun d v => { d with primary? := v }) rfl rfl rfl
      (fun _ => rfl) ?_
    refine .present rfl rfl (Json.reads_field (Json.reads_boolean r.nameMatch) _) ?_
    refine .present rfl rfl (Json.reads_field (reads_texts r.strings) _) ?_
    refine .present rfl rfl (Json.reads_field (reads_flags r.constants) _) ?_
    exact .nil _
  · change Except.ok (ManagedRow.mk r.app ((r.package?.map some).getD none) r.algorithm r.className
      ((r.method?.map some).getD none) ((r.primary?.map some).getD none) r.nameMatch r.strings
      (.ofList r.constants.entries)) = _
    rw [getD_map_some, getD_map_some, getD_map_some, OrderedMap.ofList_entries]

theorem reads_nativeRow (r : NativeRow) : Reads nativeShape.reader r.toJson r := by
  let draft : NativeDraft :=
    { app? := some r.app, library? := some r.library, path? := some r.path,
      algorithm? := some r.algorithm?, symbols? := some r.symbols,
      constants? := some r.constants.entries, packer? := some r.packer }
  refine Json.Shape.Fills.reads (g := draft) ?_ ?_
  · refine .present rfl rfl (Json.reads_field (Json.reads_text r.app) _) ?_
    refine .present rfl rfl (Json.reads_field (Json.reads_text r.library) _) ?_
    refine .present rfl rfl (Json.reads_field (Json.reads_text r.path) _) ?_
    refine .present rfl rfl (Json.reads_field (Json.reads_optionalText r.algorithm?) _) ?_
    refine .present rfl rfl (Json.reads_field (reads_texts r.symbols) _) ?_
    refine .present rfl rfl (Json.reads_field (reads_flags r.constants) _) ?_
    refine .present rfl rfl (Json.reads_field (Json.reads_boolean r.packer) _) ?_
    exact .nil _
  · change Except.ok (NativeRow.mk r.app r.library r.path r.algorithm? r.symbols
      (.ofList r.constants.entries) r.packer) = _
    rw [OrderedMap.ofList_entries]

structure SummaryRow.Fits (r : SummaryRow) : Prop where
  classesScanned : r.classesScanned ≤ Json.maxWord
  methodsScanned : r.methodsScanned ≤ Json.maxWord
  librariesScanned : r.librariesScanned ≤ Json.maxWord
  librariesSkipped : r.librariesSkipped ≤ Json.maxWord
  elapsed : r.elapsed ≤ Json.maxWord

theorem reads_summaryRow {r : SummaryRow} (h : r.Fits) : Reads summaryShape.reader r.toJson r := by
  let draft : SummaryDraft :=
    { app? := some r.app, package? := r.package?.map some, status? := some r.status,
      reason? := r.reason?.map some, classesScanned? := some r.classesScanned,
      methodsScanned? := some r.methodsScanned, librariesScanned? := some r.librariesScanned,
      librariesSkipped? := some r.librariesSkipped, packers? := some r.packers,
      elapsed? := some r.elapsed }
  refine Json.Shape.Fills.reads (g := draft) ?_ ?_
  · refine .present rfl rfl (Json.reads_field (Json.reads_text r.app) _) ?_
    refine .optionalText r.package? (fun d v => { d with package? := v }) rfl rfl rfl
      (fun _ => rfl) ?_
    refine .present rfl rfl (Json.reads_field (reads_status r.status) _) ?_
    refine .optionalText r.reason? (fun d v => { d with reason? := v }) rfl rfl rfl
      (fun _ => rfl) ?_
    refine .present rfl rfl (Json.reads_field (Json.reads_size h.classesScanned) _) ?_
    refine .present rfl rfl (Json.reads_field (Json.reads_size h.methodsScanned) _) ?_
    refine .present rfl rfl (Json.reads_field (Json.reads_size h.librariesScanned) _) ?_
    refine .present rfl rfl (Json.reads_field (Json.reads_size h.librariesSkipped) _) ?_
    refine .present rfl rfl (Json.reads_field (reads_texts r.packers) _) ?_
    refine .present rfl rfl (Json.reads_field (Json.reads_size h.elapsed) _) ?_
    exact .nil _
  · change Except.ok (SummaryRow.mk r.app ((r.package?.map some).getD none) r.status
      ((r.reason?.map some).getD none) r.classesScanned r.methodsScanned r.librariesScanned
      r.librariesSkipped r.packers r.elapsed) = _
    rw [getD_map_some, getD_map_some]

end Reads

/-- A row of any kind. -/
inductive Row where
  | managed (row : ManagedRow)
  | native (row : NativeRow)
  | summary (row : SummaryRow)

namespace Row

def kind : Row → RowKind
  | .managed _ => .managed
  | .native _ => .native
  | .summary _ => .summary

def toJson : Row → Json
  | .managed row => row.toJson
  | .native row => row.toJson
  | .summary row => row.toJson

def line (r : Row) : String :=
  r.toJson.render

def ofLine (kind : RowKind) (line : String) : Except Json.Error Row :=
  match kind with
  | .managed => (Json.document managedShape.reader line).map .managed
  | .native => (Json.document nativeShape.reader line).map .native
  | .summary => (Json.document summaryShape.reader line).map .summary

def Fits : Row → Prop
  | .managed _ => True
  | .native _ => True
  | .summary row => row.Fits

theorem ofLine_line {r : Row} (h : r.Fits) : ofLine r.kind r.line = .ok r := by
  cases r with
  | managed row =>
    change (Json.document managedShape.reader row.toJson.render).map Row.managed = _
    rw [(reads_managedRow row).document]
    rfl
  | native row =>
    change (Json.document nativeShape.reader row.toJson.render).map Row.native = _
    rw [(reads_nativeRow row).document]
    rfl
  | summary row =>
    change (Json.document summaryShape.reader row.toJson.render).map Row.summary = _
    rw [(reads_summaryRow h).document]
    rfl

theorem newline_not_mem_line (r : Row) : '\n' ∉ r.line.toList :=
  newline_not_mem_render r.toJson

end Row

theorem splitOn_flatMap_newline {lines : List (List Char)} (h : ∀ l ∈ lines, '\n' ∉ l) :
    (lines.flatMap (· ++ ['\n'])).splitOn '\n' = lines ++ [[]] := by
  induction lines with
  | nil => rfl
  | cons l lines ih =>
    rw [List.forall_mem_cons] at h
    rw [List.flatMap_cons, List.append_assoc, List.singleton_append,
      List.splitOn_append_cons_self_of_not_mem h.1, ih h.2]
    rfl

theorem toList_linesOf_rows (rows : List Row) :
    (linesOf (rows.map Row.toJson)).toList =
      (rows.map fun r => r.line.toList).flatMap (· ++ ['\n']) := by
  rw [toList_linesOf, List.flatMap_map, List.flatMap_map]
  rfl

theorem LineFile.at?_foldl_write {f : LineFile} {tree : FileTree} {text : String}
    (h : tree.root.at? f.place = some (.file text.toUTF8)) (calls : List (List Row)) :
    (calls.foldl (fun tree rows => f.write (rows.map Row.toJson) tree) tree).root.at? f.place =
      some (.file (text ++ linesOf (calls.flatten.map Row.toJson)).toUTF8) := by
  induction calls generalizing tree text with
  | nil => simpa using h
  | cons call calls ih =>
    rw [List.foldl_cons, ih (LineFile.at?_write_self h), List.flatten_cons, List.map_append,
      linesOf_append, String.append_assoc]

theorem LineFile.at?_of_create {tree tree' : FileTree} {path : Path} {f : LineFile}
    (h : create tree path = .ok (f, tree'))
    (hregular : ∃ contents, tree'.root.at? f.place = some (.file contents)) :
    tree'.root.at? f.place = some (.file "".toUTF8) := by
  unfold create at h
  cases hc : tree.createFile path with
  | error e =>
    simp only [hc] at h
    cases h
  | ok created =>
    simp only [hc] at h
    cases h
    rcases (FileTree.createFile_eq_ok hc).2.1 with hfile | hdevice
    · exact hfile
    · obtain ⟨contents, hcontents⟩ := hregular
      rw [hdevice] at hcontents
      cases hcontents

/-- A regular file that was created and written to in any number of calls holds the lines of all rows
in their order, each followed by one line break. No line has a line break in it, so the file is cut at
its line breaks into exactly these lines, and each is read as the row that it was written for. -/
theorem LineFile.written_read (tree tree' : FileTree) (path : Path) (f : LineFile)
    (hcreate : create tree path = .ok (f, tree'))
    (hregular : ∃ contents, tree'.root.at? f.place = some (.file contents))
    (calls : List (List Row)) (hfits : ∀ r ∈ calls.flatten, r.Fits) :
    ∃ text : String,
      (calls.foldl (fun tree rows => f.write (rows.map Row.toJson) tree) tree').root.at? f.place =
        some (.file text.toUTF8) ∧
      text = String.join (calls.flatten.map fun r => r.line ++ "\n") ∧
      (∀ r ∈ calls.flatten, '\n' ∉ r.line.toList) ∧
      text.toList.splitOn '\n' = calls.flatten.map (fun r => r.line.toList) ++ [[]] ∧
      ∀ r ∈ calls.flatten, Row.ofLine r.kind r.line = .ok r := by
  refine ⟨linesOf (calls.flatten.map Row.toJson), ?_, ?_, ?_, ?_, ?_⟩
  · have hwritten := LineFile.at?_foldl_write (LineFile.at?_of_create hcreate hregular) calls
    rwa [String.empty_append] at hwritten
  · rw [linesOf, List.map_map]
    rfl
  · intro r _
    exact r.newline_not_mem_line
  · rw [toList_linesOf_rows, splitOn_flatMap_newline]
    intro l hl
    obtain ⟨r, _, rfl⟩ := List.mem_map.1 hl
    exact r.newline_not_mem_line
  · intro r hr
    exact Row.ofLine_line (hfits r hr)

/-- Rows of every kind with quotes, backslashes, line breaks and other control characters, in two calls
with an empty one between them. -/
def awkwardRows : List (List Row) :=
  [[.managed
      { app := "a\"b\\c", package? := none, algorithm := "sm4\n", className := "L\x01;",
        method? := some "\x1f", primary? := none, nameMatch := true, strings := ["\r\n", ""],
        constants := .ofList [("k\t", true), ("\x7f", false)] },
    .native
      { app := "é", library := "\u2028", path := "/", algorithm? := none, symbols := [],
        constants := ∅, packer := false }],
   [],
   [.summary { app := "\n", status := .timedOut, reason? := some "\"", elapsed := Json.maxWord }]]

theorem LineFile.written_read_awkwardRows :
    ∃ text : String,
      (awkwardRows.foldl (fun tree rows =>
        LineFile.write ⟨⟨"./rows.jsonl"⟩, ["work", "rows.jsonl"]⟩ (rows.map Row.toJson) tree)
        { FileTree.bare with root := .directory [("dev", .directory [("null", .device)]),
            ("work", .directory [("rows.jsonl", .file .empty)])] }).root.at?
          ["work", "rows.jsonl"] = some (.file text.toUTF8) ∧
      text.toList.splitOn '\n' = awkwardRows.flatten.map (fun r => r.line.toList) ++ [[]] ∧
      ∀ r ∈ awkwardRows.flatten, Row.ofLine r.kind r.line = .ok r := by
  have hfits : ∀ r ∈ awkwardRows.flatten, r.Fits := by
    simp only [awkwardRows, List.flatten_cons, List.flatten_nil, List.append_nil, List.nil_append,
      List.cons_append, List.forall_mem_cons]
    refine ⟨trivial, trivial, ?_, fun r hr => absurd hr List.not_mem_nil⟩
    constructor <;> decide
  obtain ⟨text, hfile, _, _, hlines, hread⟩ := written_read .bare _ ⟨"./rows.jsonl"⟩ _ rfl
    ⟨_, rfl⟩ awkwardRows hfits
  exact ⟨text, hfile, hlines, hread⟩

end CryptoSurvey
