import CryptoSurvey.Batch.Run
import CryptoSurvey.Proofs.Budget
import CryptoSurvey.Proofs.Extraction
import CryptoSurvey.Proofs.Ordered

namespace CryptoSurvey

structure Heading where
  path : String
  name : String
  packer : Bool
  deriving DecidableEq

def LibraryRecord.heading (r : LibraryRecord) : Heading := ⟨r.path, r.name, r.packer⟩

def SkippedLibrary.heading (s : SkippedLibrary) : Heading := ⟨s.path, s.name, s.packer⟩

/-- The record of why the file of a library cannot be analysed, unless it is an image. -/
def Native.unparsed? (rules : RuleSet) (l : Library) : Option SkippedLibrary :=
  match Image.parse l.data with
  | .error fault => some (skipped rules.packers l.path
      (InputError.badBinary (baseName l.path) "ELF" fault.message).message)
  | .ok _ => none

namespace Entry

variable (rules : RuleSet) (limit : Nat) (e : Entry)

def heading : Heading :=
  ⟨e.name, baseName e.name, rules.packers.isPacker (baseName e.name)⟩

/-- The record of an entry that is extracted and is an image. -/
def record? : Option LibraryRecord :=
  (e.library? limit).bind fun l =>
    (Native.examine rules (.ofRegistry rules.registry rules.exclusions) l).toOption

/-- The record of an entry that is extracted and is no image. -/
def unparsed? : Option SkippedLibrary :=
  (e.library? limit).bind (Native.unparsed? rules)

def rejected? : Option SkippedLibrary :=
  (e.rejection? limit).map fun r => Native.skipped rules.packers r.path r.reason

variable {limit e}

theorem heading_cases {outcome : Except Rejection ByteArray} (h : e.extract limit = .ok outcome) :
    (∃ r, e.record? rules limit = some r ∧ e.unparsed? rules limit = none ∧
      e.rejected? rules limit = none ∧ r.heading = e.heading rules) ∨
    (∃ s, e.record? rules limit = none ∧ e.unparsed? rules limit = some s ∧
      e.rejected? rules limit = none ∧ s.heading = e.heading rules) ∨
    (∃ s, e.record? rules limit = none ∧ e.unparsed? rules limit = none ∧
      e.rejected? rules limit = some s ∧ s.heading = e.heading rules) := by
  rw [record?, unparsed?, rejected?, library?, rejection?, h]
  cases outcome with
  | error rejection => exact .inr (.inr ⟨_, rfl, rfl, rfl, rfl⟩)
  | ok data =>
    simp only [Option.bind_some, Native.examine, Native.unparsed?]
    cases Image.parse data with
    | error fault => exact .inr (.inl ⟨_, rfl, rfl, rfl, rfl⟩)
    | ok image => exact .inl ⟨_, rfl, rfl, rfl, rfl⟩

theorem heading_eq (rules : RuleSet) (limit : Nat) (e : Entry) :
    (∀ r, e.record? rules limit = some r → r.heading = e.heading rules) ∧
    (∀ s, e.unparsed? rules limit = some s → s.heading = e.heading rules) ∧
    (∀ s, e.rejected? rules limit = some s → s.heading = e.heading rules) := by
  cases ho : e.extract limit with
  | error fault => simp [record?, unparsed?, rejected?, library?, rejection?, ho]
  | ok outcome =>
    rcases heading_cases rules ho with ⟨r, hr, hu, hx, hh⟩ | ⟨s, hr, hu, hx, hh⟩ |
      ⟨s, hr, hu, hx, hh⟩
    · simp [hr, hu, hx, hh]
    · simp [hr, hu, hx, hh]
    · simp [hr, hu, hx, hh]

end Entry

theorem headings_perm (rules : RuleSet) {limit : Nat} {entries : List Entry}
    (h : ∀ e ∈ entries, ∃ outcome, e.extract limit = .ok outcome) :
    ((entries.filterMap (Entry.record? rules limit)).map (·.heading) ++
      (entries.filterMap (Entry.unparsed? rules limit) ++
        entries.filterMap (Entry.rejected? rules limit)).map (·.heading)).Perm
      (entries.map (Entry.heading rules)) := by
  induction entries with
  | nil => exact .nil
  | cons e rest ih =>
    rw [List.forall_mem_cons] at h
    obtain ⟨outcome, ho⟩ := h.1
    simp only [List.filterMap_cons, List.map_cons]
    rcases Entry.heading_cases rules ho with ⟨r, hr, hu, hx, hh⟩ | ⟨s, hr, hu, hx, hh⟩ |
      ⟨s, hr, hu, hx, hh⟩
    · simp only [hr, hu, hx, List.map_cons, hh, List.cons_append]
      exact (ih h.2).cons _
    · simp only [hr, hu, hx, List.cons_append, List.map_cons, hh]
      exact List.perm_middle.trans ((ih h.2).cons _)
    · simp only [hr, hu, hx, List.map_append, List.map_cons, hh, ← List.append_assoc]
      refine List.perm_middle.trans (.cons _ ?_)
      rw [List.append_assoc, ← List.map_append]
      exact ih h.2

namespace Native

variable {rules : RuleSet} {m : Matcher}

theorem take_eq (p : NativePass) (l : Library) :
    take rules m p l =
      { libraries := p.libraries ++ (examine rules m l).toOption.toList
        skipped := p.skipped ++ (unparsed? rules l).toList
        librariesScanned := p.librariesScanned + 1 } := by
  rw [take, unparsed?, examine]
  cases Image.parse l.data with
  | error fault => simp [Except.toOption, Library.fileName]
  | ok image => simp [Except.toOption]

theorem foldl_take (libraries : List Library) (p : NativePass) :
    libraries.foldl (take rules m) p =
      { libraries := p.libraries ++ libraries.filterMap fun l => (examine rules m l).toOption
        skipped := p.skipped ++ libraries.filterMap (unparsed? rules)
        librariesScanned := p.librariesScanned + libraries.length } := by
  induction libraries generalizing p with
  | nil => simp
  | cons l rest ih =>
    rw [List.foldl_cons, ih, take_eq]
    congr 1
    · cases h : (examine rules m l).toOption <;> simp [h]
    · cases h : unparsed? rules l <;> simp [h]
    · simp [Nat.add_right_comm, Nat.add_assoc]

end Native

namespace Application

/-- A survey that nothing stops: the archive opens, its libraries are extracted, the decompiled code
is read, and the budget lasts. -/
structure Unhindered (options : SurveyOptions) (app : Path) (tree : FileTree) (clocks : Clocks)
    (archive : Archive) (package? : Option Package) : Prop where
  load : Archive.load app (tree.read app) options.unpackers = .ok archive
  extract : ∃ extraction, archive.extract options.maxLibrarySize = .ok extraction
  sidecar : readSidecar tree options app = .ok package?
  managedTime : ∀ i, options.deadline.isExpired (clocks.managed i) = false
  nativeTime : ∀ i, options.deadline.isExpired (clocks.native i) = false

def nativeFindings (rules : RuleSet) (limit : Nat) (entries : List Entry) : NativePass where
  libraries := entries.filterMap (Entry.record? rules limit)
  skipped := entries.filterMap (Entry.unparsed? rules limit) ++
    entries.filterMap (Entry.rejected? rules limit)
  librariesScanned := entries.length

theorem nativeFindings_eq (rules : RuleSet) {limit : Nat} {entries : List Entry}
    (h : ∀ e ∈ entries, ∃ outcome, e.extract limit = .ok outcome) :
    ((entries.filterMap (Entry.library? limit)).foldl
      (Native.take rules (.ofRegistry rules.registry rules.exclusions)) {}).withSkipped
        ((entries.filterMap (Entry.rejection? limit)).map fun r =>
          Native.skipped rules.packers r.path r.reason) =
      nativeFindings rules limit entries := by
  rw [Native.foldl_take]
  simp only [NativePass.withSkipped, nativeFindings, List.nil_append, Nat.zero_add,
    List.length_map, Entry.length_library?_add_length_rejection? h]
  rw [List.filterMap_filterMap, List.filterMap_filterMap, List.map_filterMap]
  rfl

/-- What a survey reports is put together from the decompiled code and the native entries. -/
theorem exists_survey_eq_ok (rules : RuleSet) (options : SurveyOptions) (app : Path)
    (package? : Option Package) :
    ∃ managed, ∀ tree clocks archive, Unhindered options app tree clocks archive package? →
      survey rules tree options clocks app =
        .ok (.assemble rules.registry ⟨app.displayName, package?.bind (·.name?)⟩ [managed]
          (nativeFindings rules options.maxLibrarySize archive.nativeEntries) clocks.finish) := by
  refine ⟨managedFindings rules package?, ?_⟩
  intro tree clocks archive h
  obtain ⟨x, hx⟩ := h.extract
  obtain ⟨hlibraries, hrejected, houtcome⟩ := Archive.of_extract_eq_ok hx
  have hextract : extract tree options app = .ok x := by
    rw [extract, h.load]
    simp only [hx]
  have hinputs : inputs rules tree options app =
      .ok { identity := ⟨app.displayName, package?.bind (·.name?)⟩
            package?
            libraries := x.libraries
            rejected := x.rejected.map fun r => Native.skipped rules.packers r.path r.reason } := by
    rw [inputs, hextract, h.sidecar]
    rfl
  rw [survey, hinputs, ← nativeFindings_eq rules houtcome, ← hlibraries, ← hrejected]
  exact surveyInputs_eq_ok _ _ _ (Deadline.not_findsSpent h.managedTime)
    (Deadline.not_findsSpent h.nativeTime)

end Application

section Others

variable {β : Type} {f : Entry → Option β} {pathOf : β → String}

theorem filter_filterMap_entries (hf : ∀ e b, f e = some b → pathOf b = e.name) (path : String)
    (entries : List Entry) :
    (entries.filterMap f).filter (fun b => pathOf b != path) =
      (entries.filter fun e => e.name != path).filterMap f := by
  induction entries with
  | nil => rfl
  | cons e rest ih =>
    rw [List.filterMap_cons, List.filter_cons]
    cases he : f e with
    | none =>
      simp only [ih]
      split
      · rw [List.filterMap_cons, he]
      · rfl
    | some b =>
      simp only [List.filter_cons, hf e b he, ih]
      split
      · rw [List.filterMap_cons, he]
      · rfl

end Others

namespace Report

/-- The report accounts for native entries: each has one heading, analysed libraries keep the order
of the entries, and skipped ones are those that are no images and then those that were rejected. -/
structure Accounts (rules : RuleSet) (limit : Nat) (entries : List Entry) (r : Report) : Prop where
  headings : (r.libraries.map (·.heading) ++ r.skippedLibraries.map (·.heading)).Perm
    (entries.map (Entry.heading rules))
  distinct : ((r.libraries.map (·.path)) ++ (r.skippedLibraries.map (·.path))).Nodup
  libraries : r.libraries = entries.filterMap (Entry.record? rules limit)
  skipped : r.skippedLibraries = entries.filterMap (Entry.unparsed? rules limit) ++
    entries.filterMap (Entry.rejected? rules limit)
  scanned : r.counters.librariesScanned = r.libraries.length + r.skippedLibraries.length

/-- Two reports differ at most in what they say of the library at a path and in the time they took.
-/
structure AgreesApartFrom (path : String) (r r' : Report) : Prop where
  identity : r'.identity = r.identity
  classes : r'.classes = r.classes
  libraries : r'.libraries.filter (fun l => l.path != path) =
    r.libraries.filter (fun l => l.path != path)
  skipped : r'.skippedLibraries.filter (fun l => l.path != path) =
    r.skippedLibraries.filter (fun l => l.path != path)
  counters : { r'.counters with elapsed := r.counters.elapsed } = r.counters

theorem mem_packers {r : Report} {name : String} :
    name ∈ r.packers ↔ ∃ h ∈ r.libraries.map (·.heading) ++ r.skippedLibraries.map (·.heading),
      h.name = name ∧ h.packer = true := by
  rw [packers, ← OrderedSet.mem_iff, OrderedSet.mem_ofList]
  simp only [List.mem_append, List.mem_map, List.mem_filter]
  constructor
  · rintro (⟨l, ⟨hl, hp⟩, rfl⟩ | ⟨l, ⟨hl, hp⟩, rfl⟩)
    · exact ⟨l.heading, .inl ⟨l, hl, rfl⟩, rfl, hp⟩
    · exact ⟨l.heading, .inr ⟨l, hl, rfl⟩, rfl, hp⟩
  · rintro ⟨h, ⟨l, hl, rfl⟩ | ⟨l, hl, rfl⟩, hn, hp⟩
    · exact .inl ⟨l, ⟨hl, hp⟩, hn⟩
    · exact .inr ⟨l, ⟨hl, hp⟩, hn⟩

theorem packers_increasing (r : Report) : r.packers.Pairwise (· < ·) :=
  OrderedSet.pairwise_lt _

variable {rules : RuleSet} {limit : Nat} {entries : List Entry}

theorem Accounts.mem_packers {r : Report} (h : r.Accounts rules limit entries) {name : String} :
    name ∈ r.packers ↔
      ∃ e ∈ entries, baseName e.name = name ∧ rules.packers.isPacker (baseName e.name) = true := by
  simp only [Report.mem_packers, h.headings.mem_iff, List.mem_map]
  constructor
  · rintro ⟨_, ⟨e, he, rfl⟩, hn, hp⟩
    exact ⟨e, he, hn, hp⟩
  · rintro ⟨e, he, hn, hp⟩
    exact ⟨e.heading rules, ⟨e, he, rfl⟩, hn, hp⟩

theorem accounts_assemble {registry : Registry} {identity : Identity} {passes : List ManagedPass}
    {elapsed : Nat} (hnames : (entries.map (·.name)).Nodup)
    (h : ∀ e ∈ entries, ∃ outcome, e.extract limit = .ok outcome) :
    (assemble registry identity passes (Application.nativeFindings rules limit entries)
      elapsed).Accounts rules limit entries where
  headings := headings_perm rules h
  distinct := by
    have hpaths := ((headings_perm rules h).map Heading.path).nodup_iff
    rw [List.map_append, List.map_map, List.map_map, List.map_map] at hpaths
    exact hpaths.2 hnames
  libraries := rfl
  skipped := rfl
  scanned := by
    have hlength := (headings_perm rules h).length_eq
    rw [List.length_append, List.length_map, List.length_map, List.length_map] at hlength
    exact hlength.symm

theorem agreesApartFrom_assemble {registry : Registry} {identity : Identity}
    {passes : List ManagedPass} {elapsed elapsed' : Nat} {entries' : List Entry} {path : String}
    (hothers : entries'.filter (fun e => e.name != path) = entries.filter fun e => e.name != path)
    (hlength : entries'.length = entries.length) :
    AgreesApartFrom path
      (assemble registry identity passes (Application.nativeFindings rules limit entries) elapsed)
      (assemble registry identity passes (Application.nativeFindings rules limit entries')
        elapsed') where
  identity := rfl
  classes := rfl
  libraries := by
    have hpath (e : Entry) (r : LibraryRecord) (h : e.record? rules limit = some r) :
        r.path = e.name :=
      congrArg Heading.path ((e.heading_eq rules limit).1 r h)
    exact (filter_filterMap_entries hpath path entries').trans
      (hothers ▸ (filter_filterMap_entries hpath path entries).symm)
  skipped := by
    have hunparsed (e : Entry) (s : SkippedLibrary) (h : e.unparsed? rules limit = some s) :
        s.path = e.name :=
      congrArg Heading.path ((e.heading_eq rules limit).2.1 s h)
    have hrejected (e : Entry) (s : SkippedLibrary) (h : e.rejected? rules limit = some s) :
        s.path = e.name :=
      congrArg Heading.path ((e.heading_eq rules limit).2.2 s h)
    simp only [assemble, Application.nativeFindings, List.filter_append,
      filter_filterMap_entries hunparsed, filter_filterMap_entries hrejected, hothers]
  counters := by simp only [assemble, Application.nativeFindings, hlength]

end Report

namespace Application

/-- The report of a survey that nothing stops accounts for the native entries of the archive.
Another entry in the place of one of them changes nothing in the rest of the report, and the summary
names the packers among them. -/
theorem survey_accounts (rules : RuleSet) (options : SurveyOptions) (app : Path) (tree : FileTree)
    (clocks : Clocks) (archive : Archive) (package? : Option Package)
    (h : Unhindered options app tree clocks archive package?) :
    (∀ e, e ∈ archive.nativeEntries ↔
      e ∈ archive.entries ∧ "lib".toList <+: e.name.toList ∧ ".so".toList <:+ e.name.toList) ∧
    ∃ report, survey rules tree options clocks app = .ok report ∧
      report.Accounts rules options.maxLibrarySize archive.nativeEntries ∧
      (∀ before e after tree' clocks' archive' e',
        Unhindered options app tree' clocks' archive' package? →
        archive.entries = before ++ e :: after → archive'.entries = before ++ e' :: after →
        e'.name = e.name →
        ∃ report', survey rules tree' options clocks' app = .ok report' ∧
          report.AgreesApartFrom e.name report') ∧
      (SummaryRow.ofOutcome (Batch.unit rules options clocks tree app)).packers.Pairwise (· < ·) ∧
      (∀ name, name ∈ (SummaryRow.ofOutcome (Batch.unit rules options clocks tree app)).packers ↔
        ∃ e ∈ archive.nativeEntries,
          baseName e.name = name ∧ rules.packers.isPacker (baseName e.name) = true) := by
  obtain ⟨managed, hmanaged⟩ :=
    exists_survey_eq_ok rules options app package?
  obtain ⟨x, hx⟩ := h.extract
  have hnames : (archive.nativeEntries.map (·.name)).Nodup :=
    (Archive.nodup_names_of_load h.load).sublist (List.filter_sublist.map _)
  have hsurvey := hmanaged tree clocks archive h
  have houtcome := (Archive.of_extract_eq_ok hx).2.2
  refine ⟨fun e => Archive.mem_nativeEntries, _, hsurvey, ?_, ?_, ?_, ?_⟩
  · exact Report.accounts_assemble hnames houtcome
  · intro before e after tree' clocks' archive' e' h' ha ha' hn
    refine ⟨_, hmanaged tree' clocks' archive' h', ?_⟩
    apply Report.agreesApartFrom_assemble
    · exact Archive.nativeEntries_others ha ha' hn
    · have hlength := congrArg List.length (Archive.map_name_nativeEntries ha ha' hn)
      rwa [List.length_map, List.length_map] at hlength
  · rw [Batch.unit, hsurvey]
    exact Report.packers_increasing _
  · intro name
    rw [Batch.unit, hsurvey]
    exact (Report.accounts_assemble hnames houtcome).mem_packers

/-- An archive of two libraries. The first is stored and is no image, the second is encrypted. -/
def guardedArchive : ByteArray := ⟨#[
  0x50, 0x4b, 3, 4, 20, 0, 0, 0, 0, 0, 0, 0, 0, 0, 0x2e, 0x7a, 0x66, 0x4c, 1, 0, 0, 0, 1, 0, 0, 0,
  8, 0, 0, 0, 0x6c, 0x69, 0x62, 0x2f, 0x61, 0x2e, 0x73, 0x6f, 7,
  0x50, 0x4b, 1, 2, 20, 0, 20, 0, 0, 0, 0, 0, 0, 0, 0, 0, 0x2e, 0x7a, 0x66, 0x4c, 1, 0, 0, 0,
  1, 0, 0, 0, 8, 0, 0, 0, 0, 0, 0, 0, 0, 0, 0, 0, 0, 0, 0, 0, 0, 0,
  0x6c, 0x69, 0x62, 0x2f, 0x61, 0x2e, 0x73, 0x6f,
  0x50, 0x4b, 1, 2, 20, 0, 20, 0, 1, 0, 0, 0, 0, 0, 0, 0, 0, 0, 0, 0, 0, 0, 0, 0,
  0, 0, 0, 0, 8, 0, 0, 0, 0, 0, 0, 0, 0, 0, 0, 0, 0, 0, 0, 0, 0, 0,
  0x6c, 0x69, 0x62, 0x2f, 0x70, 0x2e, 0x73, 0x6f,
  0x50, 0x4b, 5, 6, 0, 0, 0, 0, 2, 0, 2, 0, 108, 0, 0, 0, 39, 0, 0, 0, 0, 0]⟩

def guardedTree : FileTree := ⟨.directory [("app.apk", .file guardedArchive)], []⟩

def guardedRules : RuleSet where
  registry := ∅
  exclusions := {}
  regions := []
  packers := ⟨.ofList ["p.so"], []⟩

theorem survey_accounts_guarded :
    ∃ report, survey guardedRules guardedTree {} .stopped ⟨"app.apk"⟩ = .ok report ∧
      (report.libraries.map (·.heading) ++ report.skippedLibraries.map (·.heading)).Perm
        [⟨"lib/a.so", "a.so", false⟩, ⟨"lib/p.so", "p.so", true⟩] ∧
      report.counters.librariesScanned =
        report.libraries.length + report.skippedLibraries.length := by
  have heval : (Archive.ofBytes .none guardedArchive).toOption.any (fun a =>
      (a.extract defaultMaxLibrarySize).toOption.isSome &&
        a.nativeEntries.map (Entry.heading guardedRules) ==
          [⟨"lib/a.so", "a.so", false⟩, ⟨"lib/p.so", "p.so", true⟩]) = true := by
    decide +kernel
  cases ha : Archive.ofBytes .none guardedArchive with
  | error fault =>
    rw [ha] at heval
    cases heval
  | ok archive =>
    rw [ha, Except.toOption, Option.any_some, Bool.and_eq_true, beq_iff_eq] at heval
    obtain ⟨hextract, hheadings⟩ := heval
    have hrun : Unhindered {} ⟨"app.apk"⟩ guardedTree .stopped archive none := by
      refine ⟨?_, ?_, rfl, fun _ => rfl, fun _ => rfl⟩
      · change Archive.load _ (.ok guardedArchive) .none = _
        simp only [Archive.load, ha]
      · cases hx : archive.extract defaultMaxLibrarySize with
        | error fault =>
          rw [hx] at hextract
          cases hextract
        | ok x => exact ⟨x, rfl⟩
    obtain ⟨_, report, hreport, haccounts, _⟩ := survey_accounts guardedRules {} ⟨"app.apk"⟩
      guardedTree .stopped archive none hrun
    exact ⟨report, hreport, hheadings ▸ haccounts.headings, haccounts.scanned⟩

end Application

end CryptoSurvey
