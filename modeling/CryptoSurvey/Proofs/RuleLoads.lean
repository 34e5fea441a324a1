import CryptoSurvey.Proofs.Failure
import CryptoSurvey.Proofs.HexConstants
import CryptoSurvey.Proofs.Validation
import CryptoSurvey.Rules.Bundled
import Mathlib.Data.List.Induction

namespace CryptoSurvey

namespace Rules

/-- A file with the extension and the text describes the document. -/
inductive Describes (text : String) (d : Document) : String → Prop
  | json (h : Document.ofJson text = .ok d) : Describes text d "json"
  | yaml (h : Document.ofYaml? text = some d) : Describes text d "yaml"
  | yml (h : Document.ofYaml? text = some d) : Describes text d "yml"

/-- The entry is that of the algorithm: the name and the aliases are the algorithm's in small letters,
and the constants come in the order of their names, each with the bytes that the last digits under its
name spell. -/
structure AlgorithmEntry.Gives (e : AlgorithmEntry) (a : Algorithm) : Prop where
  name : a.name = Text.lowerCase e.name
  aliases : a.aliases = e.aliases.map Text.lowerCase
  increasing : a.constants.Pairwise (·.name < ·.name)
  constants : ∀ c, c ∈ a.constants ↔ ∃ digits, OrderedMap.LastEntry e.constants c.name digits ∧
    Hex.Spells (Text.solid digits.toList) c.bytes
  spelled : ∀ name digits, OrderedMap.LastEntry e.constants name digits →
    ∃ bytes, Hex.Spells (Text.solid digits.toList) bytes

/-- The entries are those of the registry's algorithms, which keep the rules. -/
def Builds (entries : List AlgorithmEntry) (r : Registry) : Prop :=
  List.Forall₂ AlgorithmEntry.Gives entries r.algorithms ∧ Registry.Acceptable r.algorithms

/-- The packers have the names, and patterns that the texts are read as. -/
def PackerEntry.Compiles (e : PackerEntry) (p : Packers) : Prop :=
  (∀ name, name ∈ p.names ↔ name ∈ e.names) ∧
    List.Forall₂ (fun text q => Pattern.parse text = .ok q) e.patterns p.patterns

namespace AlgorithmEntry

variable {e : AlgorithmEntry} {a a' : Algorithm}

theorem Gives.unique (h : e.Gives a) (h' : e.Gives a') : a = a' := by
  have hconstants : a.constants = a'.constants :=
    eq_of_increasing (·.name) (h.increasing.imp compare_eq_lt_iff.2)
      (h'.increasing.imp compare_eq_lt_iff.2) fun c => (h.constants c).trans (h'.constants c).symm
  calc a = ⟨Text.lowerCase e.name, e.aliases.map Text.lowerCase, a.constants⟩ := by
        rw [← h.name, ← h.aliases]
    _ = a' := by rw [← h'.name, ← h'.aliases, hconstants]

theorem mem_entries_iff {name digits : String} :
    (name, digits) ∈ (OrderedMap.ofList e.constants).entries ↔
      OrderedMap.LastEntry e.constants name digits := by
  rw [← OrderedMap.get?_eq_some_iff, OrderedMap.get?_ofList_eq_some_iff]

theorem gives_of_algorithm (h : e.algorithm = .ok a) : e.Gives a := by
  obtain ⟨constants, hread, h⟩ := exists_of_bind_eq_ok h
  cases h
  refine { name := rfl, aliases := rfl, increasing := ?increasing, constants := ?constants,
           spelled := ?spelled }
  case increasing =>
    refine pairwise_of_mapM_eq_ok hread (OrderedMap.ofList e.constants).increasing ?_
    intro p q c d hc hd hlt
    rw [(Constant.read_eq_ok_iff.1 hc).1, (Constant.read_eq_ok_iff.1 hd).1]
    exact compare_eq_lt_iff.1 hlt
  case constants =>
    intro c
    refine (mem_iff_of_mapM_eq_ok hread).trans ⟨?_, ?_⟩
    · rintro ⟨⟨name, digits⟩, hp, hc⟩
      obtain ⟨rfl, hspells⟩ := Constant.read_eq_ok_iff.1 hc
      exact ⟨digits, mem_entries_iff.1 hp, hspells⟩
    · rintro ⟨digits, hlast, hspells⟩
      exact ⟨(c.name, digits), mem_entries_iff.2 hlast, Constant.read_eq_ok_iff.2 ⟨rfl, hspells⟩⟩
  case spelled =>
    intro name digits hlast
    obtain ⟨c, hc⟩ := exists_of_mapM_eq_ok hread (mem_entries_iff.2 hlast)
    exact ⟨c.bytes, (Constant.read_eq_ok_iff.1 hc).2⟩

theorem algorithm_eq_ok_iff : e.algorithm = .ok a ↔ e.Gives a := by
  refine ⟨gives_of_algorithm, ?_⟩
  intro hgives
  cases halgorithm : e.algorithm with
  | ok a' => rw [(gives_of_algorithm halgorithm).unique hgives]
  | error fault =>
    -- only digits that spell no bytes are refused
    rcases bind_eq_error_iff.1 halgorithm with h | ⟨_, _, h⟩
    · obtain ⟨⟨name, digits⟩, hp, hfault⟩ := exists_of_mapM_eq_error h
      obtain ⟨bytes, hspells⟩ := hgives.spelled name digits (mem_entries_iff.1 hp)
      have hread : Constant.read name digits = .ok ⟨name, bytes⟩ :=
        Constant.read_eq_ok_iff.2 ⟨rfl, hspells⟩
      rw [hread] at hfault
      cases hfault
    · cases h

end AlgorithmEntry

theorem readDocument_eq_ok_iff (path : Path) {text extension : String} {d : Document} :
    (∃ format, RuleSet.Format.ofExtension? extension = some format ∧
        RuleSet.readDocument path text format = .ok d) ↔ Describes text d extension := by
  have hjson : RuleSet.readDocument path text .json = .ok d ↔ Document.ofJson text = .ok d := by
    rw [RuleSet.readDocument]
    cases Document.ofJson text with
    | ok _ => simp
    | error _ => simp
  have hyaml : RuleSet.readDocument path text .yaml = .ok d ↔ Document.ofYaml? text = some d := by
    rw [RuleSet.readDocument]
    cases Document.ofYaml? text with
    | some _ => simp
    | none => simp
  constructor
  · rintro ⟨format, hformat, hread⟩
    unfold RuleSet.Format.ofExtension? at hformat
    split at hformat
    · cases hformat
      exact .json (hjson.1 hread)
    · cases hformat
      exact .yaml (hyaml.1 hread)
    · cases hformat
      exact .yml (hyaml.1 hread)
    · cases hformat
  · intro h
    cases h with
    | json h => exact ⟨.json, rfl, hjson.2 h⟩
    | yaml h => exact ⟨.yaml, rfl, hyaml.2 h⟩
    | yml h => exact ⟨.yaml, rfl, hyaml.2 h⟩

theorem registryOf_eq_ok_iff {entries : List AlgorithmEntry} {r : Registry} :
    registryOf entries = .ok r ↔ Builds entries r := by
  rw [registryOf, bind_eq_ok_iff]
  simp only [Registry.read_eq_ok_iff, exists_eq_right', Builds,
    mapM_eq_ok_iff_forall₂ fun _ _ => AlgorithmEntry.algorithm_eq_ok_iff,
    Registry.acceptable_iff.2 r.faultless, and_true]

theorem ofTexts_eq_ok_iff {e : PackerEntry} {p : Packers} :
    Packers.ofTexts e.names e.patterns = .ok p ↔ e.Compiles p := by
  have hnames : p.names = .ofList e.names ↔ ∀ name, name ∈ p.names ↔ name ∈ e.names := by
    constructor
    · intro h name
      rw [h, OrderedSet.mem_ofList]
    · intro h
      exact OrderedSet.ext_mem fun name => (h name).trans OrderedSet.mem_ofList.symm
  have hpure (patterns : List Pattern) :
      (pure { names := .ofList e.names, patterns } : Except RulesError Packers) = .ok p ↔
        p.names = .ofList e.names ∧ patterns = p.patterns := by
    cases p
    simp [pure, Except.pure, eq_comm]
  rw [Packers.ofTexts, bind_eq_ok_iff, PackerEntry.Compiles, and_comm, ← hnames]
  simp only [hpure, exists_eq_right_right]
  refine and_congr (mapM_eq_ok_iff_forall₂ fun text q => ?_) Iff.rfl
  cases Pattern.parse text with
  | ok _ => simp
  | error _ => simp

theorem invalidPattern_of_ofTexts_eq_error {names patterns : List String} {e : RulesError}
    (h : Packers.ofTexts names patterns = .error e) :
    ∃ text reason, e = .invalidPattern text reason := by
  rcases bind_eq_error_iff.1 h with h | ⟨_, _, h⟩
  · obtain ⟨text, _, hfail⟩ := exists_of_mapM_eq_error h
    cases hparse : Pattern.parse text with
    | ok _ => simp [hparse] at hfail
    | error reason => exact ⟨text, reason.message, by simpa [hparse, eq_comm] using hfail⟩
  · cases h

end Rules

/-- A file of rules: its path, and what came of reading it. -/
structure RuleFile where
  path : Path
  contents : Except OsError ByteArray

namespace RuleFile

/-- The file is read, and with its extension its text describes the document. -/
def Holds (f : RuleFile) (d : Rules.Document) : Prop :=
  ∃ bytes text extension, f.contents = .ok bytes ∧ Text.decode? bytes = some text ∧
    f.path.extension? = some extension ∧ Rules.Describes text d extension

/-- The file holds the document, and its algorithms are accepted if it has any. -/
def Applies (f : RuleFile) (d : Rules.Document) : Prop :=
  f.Holds d ∧ ∀ entries, d.algorithms? = some entries → ∃ r, Rules.Builds entries r

def SuppliesRegistry (f : RuleFile) (r : Registry) : Prop :=
  ∃ d entries, f.Applies d ∧ d.algorithms? = some entries ∧ Rules.Builds entries r

/-- The document has the part, whose value needs no check of its own. -/
def Supplies {α : Type} (part? : Rules.Document → Option α) (f : RuleFile) (a : α) : Prop :=
  ∃ d, f.Applies d ∧ part? d = some a

def SuppliesPackers (f : RuleFile) (p : Packers) : Prop :=
  ∃ d entry, f.Applies d ∧ d.packers? = some entry ∧ entry.Compiles p

theorem documentIn_eq_ok_iff {f : RuleFile} {d : Rules.Document} :
    RuleSet.documentIn f.path f.contents = .ok d ↔ f.Holds d := by
  unfold RuleSet.documentIn Holds
  cases f.contents with
  | error e => simp
  | ok bytes =>
    cases hbytes : Text.decode? bytes with
    | none => simp [hbytes]
    | some text =>
      cases hextension : f.path.extension? with
      | none => simp [hbytes, RuleSet.Format.ofExtension?]
      | some extension =>
        simp only [Except.ok.injEq, exists_and_left, exists_eq_left', hbytes, Option.some.injEq,
          Option.getD_some, ← Rules.readDocument_eq_ok_iff f.path]
        cases RuleSet.Format.ofExtension? extension with
        | none => simp
        | some format => simp

theorem Holds.unique {f : RuleFile} {d d' : Rules.Document} (h : f.Holds d) (h' : f.Holds d') :
    d = d' := by
  have hd := documentIn_eq_ok_iff.2 h
  rw [documentIn_eq_ok_iff.2 h', Except.ok.injEq] at hd
  exact hd.symm

theorem Applies.unique {f : RuleFile} {d d' : Rules.Document} (h : f.Applies d)
    (h' : f.Applies d') : d = d' :=
  h.1.unique h'.1

theorem Applies.supplies_or {α : Type} {f : RuleFile} {d : Rules.Document} (h : f.Applies d)
    (part? : Rules.Document → Option α) (a : α) :
    f.Supplies part? ((part? d).getD a) ∨
      (part? d).getD a = a ∧ ∀ b, ¬ f.Supplies part? b := by
  cases hpart : part? d with
  | some b => exact .inl ⟨d, h, hpart⟩
  | none =>
    refine .inr ⟨rfl, ?_⟩
    rintro b ⟨d', hd', hb⟩
    rw [h.unique hd', hb] at hpart
    cases hpart

end RuleFile

namespace RuleSet

/-- The rules with the filters and regions that a document has. -/
def applied (rules : RuleSet) (d : Rules.Document) (registry : Registry) (packers : Packers) :
    RuleSet where
  registry := registry
  exclusions := d.exclusions?.getD rules.exclusions
  regions := d.regions?.getD rules.regions
  packers := packers

/-- The document of the file applies, and the registry is in force from then on. -/
structure Takes (rules : RuleSet) (f : RuleFile) (d : Rules.Document) (r : Registry) : Prop where
  applies : f.Applies d
  built : ∀ entries, d.algorithms? = some entries → Rules.Builds entries r
  kept : d.algorithms? = none → r = rules.registry

/-- What loading a file can do to rules, and what it can answer. -/
inductive Loads (rules : RuleSet) (f : RuleFile) : RuleSet × Except RulesError Unit → Prop
  | refused {e : RulesError} (hno : ∀ d, ¬ f.Applies d) : Loads rules f (rules, .error e)
  | withoutPackers {d : Rules.Document} {r : Registry} (h : rules.Takes f d r)
      (hp : d.packers? = none) : Loads rules f (rules.applied d r rules.packers, .ok ())
  | withPackers {d : Rules.Document} {r : Registry} {entry : Rules.PackerEntry} {p : Packers}
      (h : rules.Takes f d r) (hp : d.packers? = some entry) (hc : entry.Compiles p) :
      Loads rules f (rules.applied d r p, .ok ())
  | badPattern {d : Rules.Document} {r : Registry} {entry : Rules.PackerEntry}
      {text reason : String} (h : rules.Takes f d r) (hp : d.packers? = some entry)
      (hc : ∀ p, ¬ entry.Compiles p) :
      Loads rules f (rules.applied d r rules.packers, .error (.invalidPattern text reason))

section Replace

variable {rules : RuleSet} {f : RuleFile} {d : Rules.Document} (hd : f.Holds d)
include hd

theorem not_applies_of_registry {e : RulesError}
    (hr : (d.algorithms?.map Rules.registryOf).getD (.ok rules.registry) = .error e)
    (d' : Rules.Document) : ¬ f.Applies d' := by
  rintro ⟨hd', hbuilds⟩
  cases hd.unique hd'
  cases halgorithms : d.algorithms? with
  | none =>
    rw [halgorithms] at hr
    cases hr
  | some entries =>
    obtain ⟨r, hbuilds⟩ := hbuilds entries halgorithms
    rw [halgorithms, Option.map_some, Option.getD_some, Rules.registryOf_eq_ok_iff.2 hbuilds] at hr
    cases hr

theorem takes_of_registry {r : Registry}
    (hr : (d.algorithms?.map Rules.registryOf).getD (.ok rules.registry) = .ok r) :
    rules.Takes f d r := by
  have hbuilt : ∀ entries, d.algorithms? = some entries → Rules.Builds entries r := by
    intro entries he
    rw [he] at hr
    exact Rules.registryOf_eq_ok_iff.1 hr
  refine ⟨⟨hd, fun entries he => ⟨r, hbuilt entries he⟩⟩, hbuilt, ?_⟩
  intro hnone
  rw [hnone] at hr
  cases hr
  rfl

theorem loads_replace : rules.Loads f (rules.replace d) := by
  unfold replace
  cases hr : (d.algorithms?.map Rules.registryOf).getD (.ok rules.registry) with
  | error e => exact .refused (not_applies_of_registry hd hr)
  | ok r =>
    have htakes := takes_of_registry hd hr
    cases hp : d.packers? with
    | none => exact .withoutPackers htakes hp
    | some entry =>
      cases hpackers : Packers.ofTexts entry.names entry.patterns with
      | ok p =>
        simp only [hpackers]
        exact .withPackers htakes hp (Rules.ofTexts_eq_ok_iff.1 hpackers)
      | error e =>
        obtain ⟨text, reason, rfl⟩ := Rules.invalidPattern_of_ofTexts_eq_error hpackers
        simp only [hpackers]
        refine .badPattern htakes hp fun p hc => ?_
        rw [Rules.ofTexts_eq_ok_iff.2 hc] at hpackers
        cases hpackers

end Replace

theorem loads_load (rules : RuleSet) (f : RuleFile) :
    rules.Loads f (rules.load f.path f.contents) := by
  rw [load]
  cases hd : documentIn f.path f.contents with
  | error e =>
    refine .refused fun d h => ?_
    rw [RuleFile.documentIn_eq_ok_iff.2 h.1] at hd
    cases hd
  | ok d => exact loads_replace (RuleFile.documentIn_eq_ok_iff.1 hd)

theorem Takes.registry {rules : RuleSet} {f : RuleFile} {d : Rules.Document} {r : Registry}
    (h : rules.Takes f d r) :
    f.SuppliesRegistry r ∨ r = rules.registry ∧ ∀ s, ¬ f.SuppliesRegistry s := by
  cases halgorithms : d.algorithms? with
  | some entries => exact .inl ⟨d, entries, h.applies, halgorithms, h.built entries halgorithms⟩
  | none =>
    refine .inr ⟨h.kept halgorithms, ?_⟩
    rintro s ⟨d', entries, hd', he, _⟩
    rw [h.applies.unique hd', he] at halgorithms
    cases halgorithms

section Parts

variable {rules : RuleSet} {f : RuleFile} {result : RuleSet × Except RulesError Unit}

theorem Loads.registry (h : rules.Loads f result) :
    f.SuppliesRegistry result.1.registry ∨
      result.1.registry = rules.registry ∧ ∀ r, ¬ f.SuppliesRegistry r := by
  cases h with
  | refused hno => exact .inr ⟨rfl, fun r ⟨d, _, hd, _⟩ => hno d hd⟩
  | withoutPackers h _ => exact h.registry
  | withPackers h _ _ => exact h.registry
  | badPattern h _ _ => exact h.registry

/-- A part that needs no check of its own is the one of the document, if this has one. -/
theorem Loads.part {α : Type} {part? : Rules.Document → Option α} {part : RuleSet → α}
    (h : rules.Loads f result)
    (hpart : ∀ d r p, part (rules.applied d r p) = (part? d).getD (part rules)) :
    f.Supplies part? (part result.1) ∨
      part result.1 = part rules ∧ ∀ a, ¬ f.Supplies part? a := by
  cases h with
  | refused hno => exact .inr ⟨rfl, fun a ⟨d, hd, _⟩ => hno d hd⟩
  | withoutPackers h _ =>
    rw [hpart]
    exact h.applies.supplies_or part? (part rules)
  | withPackers h _ _ =>
    rw [hpart]
    exact h.applies.supplies_or part? (part rules)
  | badPattern h _ _ =>
    rw [hpart]
    exact h.applies.supplies_or part? (part rules)

theorem Loads.exclusions (h : rules.Loads f result) :
    f.Supplies (·.exclusions?) result.1.exclusions ∨
      result.1.exclusions = rules.exclusions ∧ ∀ x, ¬ f.Supplies (·.exclusions?) x :=
  h.part fun _ _ _ => rfl

theorem Loads.regions (h : rules.Loads f result) :
    f.Supplies (·.regions?) result.1.regions ∨
      result.1.regions = rules.regions ∧ ∀ x, ¬ f.Supplies (·.regions?) x :=
  h.part fun _ _ _ => rfl

theorem Loads.packers (h : rules.Loads f result) :
    f.SuppliesPackers result.1.packers ∨
      result.1.packers = rules.packers ∧ ∀ p, ¬ f.SuppliesPackers p := by
  cases h with
  | refused hno => exact .inr ⟨rfl, fun p ⟨d, _, hd, _⟩ => hno d hd⟩
  | withoutPackers h hp =>
    refine .inr ⟨rfl, ?_⟩
    rintro p ⟨d', entry, hd', he, _⟩
    rw [h.applies.unique hd', he] at hp
    cases hp
  | withPackers h hp hc => exact .inl ⟨_, _, h.applies, hp, hc⟩
  | badPattern h hp hc =>
    refine .inr ⟨rfl, ?_⟩
    rintro p ⟨d', entry, hd', he, hc'⟩
    rw [h.applies.unique hd', he, Option.some.injEq] at hp
    exact hc p (hp ▸ hc')

theorem Loads.eq_ok_iff (h : rules.Loads f result) :
    result.2 = .ok () ↔
      ∃ d, f.Applies d ∧ ∀ entry, d.packers? = some entry → ∃ p, entry.Compiles p := by
  cases h with
  | refused hno => simp [hno]
  | withoutPackers h hp => exact iff_of_true rfl ⟨_, h.applies, by simp [hp]⟩
  | withPackers h hp hc => exact iff_of_true rfl ⟨_, h.applies, by simpa [hp] using ⟨_, hc⟩⟩
  | badPattern h hp hc =>
    refine iff_of_false nofun ?_
    rintro ⟨d', hd', hall⟩
    obtain ⟨p, hp'⟩ := hall _ (h.applies.unique hd' ▸ hp)
    exact hc p hp'

/-- A failed load leaves the rules as they were, or at least the packers if a pattern is bad. -/
theorem Loads.of_error (h : rules.Loads f result) {e : RulesError} (he : result.2 = .error e) :
    result.1 = rules ∨
      (∃ text reason, e = .invalidPattern text reason) ∧ result.1.packers = rules.packers := by
  cases h with
  | refused _ => exact .inl rfl
  | withoutPackers _ _ => cases he
  | withPackers _ _ _ => cases he
  | badPattern _ _ _ =>
    cases he
    exact .inr ⟨⟨_, _, rfl⟩, rfl⟩

end Parts

end RuleSet

/-- The value is what the last of the files that supply one supplies, or the first value if no file
does. -/
def LastSupplied {α : Type} (supplies : RuleFile → α → Prop) (start : α) (files : List RuleFile)
    (a : α) : Prop :=
  (∃ earlier f later, files = earlier ++ f :: later ∧ supplies f a ∧
      ∀ g ∈ later, ∀ b, ¬ supplies g b) ∨
    a = start ∧ ∀ f ∈ files, ∀ b, ¬ supplies f b

namespace LastSupplied

variable {α : Type} {supplies : RuleFile → α → Prop} {start a : α} {files : List RuleFile}

theorem of_last {f : RuleFile} (h : supplies f a) :
    LastSupplied supplies start (files ++ [f]) a := by
  refine .inl ⟨files, f, [], rfl, h, ?_⟩
  intro g hg
  cases hg

theorem append_of_not {f : RuleFile} (h : LastSupplied supplies start files a)
    (hno : ∀ b, ¬ supplies f b) : LastSupplied supplies start (files ++ [f]) a := by
  rcases h with ⟨earlier, g, later, rfl, hg, hlater⟩ | ⟨rfl, hnone⟩
  · refine .inl ⟨earlier, g, later ++ [f], by simp, hg, ?_⟩
    simpa [or_imp, forall_and] using ⟨hlater, hno⟩
  · refine .inr ⟨rfl, ?_⟩
    simpa [or_imp, forall_and] using ⟨hnone, hno⟩

theorem of_pair {f g : RuleFile} (h : LastSupplied supplies start [f, g] a) :
    ((∃ b, supplies g b) → supplies g a) ∧
      ((∃ b, supplies f b) → (∀ b, ¬ supplies g b) → supplies f a) := by
  rcases h with ⟨earlier, x, later, hfiles, hx, hlater⟩ | ⟨_, hnone⟩
  · rcases List.cons_eq_append_iff.1 hfiles with ⟨_, hfg⟩ | ⟨rest, _, hfg⟩
    · cases hfg
      exact ⟨fun ⟨b, hb⟩ => absurd hb (hlater g List.mem_cons_self b), fun _ _ => hx⟩
    · rcases List.cons_eq_append_iff.1 hfg with ⟨_, hg⟩ | ⟨_, _, hg⟩
      · cases hg
        exact ⟨fun _ => hx, fun _ hno => absurd hx (hno a)⟩
      · simp at hg
  · simp only [List.forall_mem_cons] at hnone
    exact ⟨fun ⟨b, hb⟩ => absurd hb (hnone.2.1 b), fun ⟨b, hb⟩ => absurd hb (hnone.1 b)⟩

end LastSupplied

namespace RuleSet

/-- Loads files one after the other, whether or not they can be used. -/
def loadAll (rules : RuleSet) (files : List RuleFile) : RuleSet :=
  files.foldl (fun rules f => (rules.load f.path f.contents).1) rules

theorem loadAll_append (rules : RuleSet) (files : List RuleFile) (f : RuleFile) :
    rules.loadAll (files ++ [f]) =
      ((rules.loadAll files).load f.path f.contents).1 := by
  rw [loadAll, List.foldl_append]
  rfl

theorem lastSupplied_loadAll {α : Type} {supplies : RuleFile → α → Prop} {part : RuleSet → α}
    (hpart : ∀ {rules : RuleSet} {f result}, rules.Loads f result →
      supplies f (part result.1) ∨ part result.1 = part rules ∧ ∀ a, ¬ supplies f a)
    (rules : RuleSet) (files : List RuleFile) :
    LastSupplied supplies (part rules) files (part (rules.loadAll files)) := by
  induction files using List.reverseRecOn with
  | nil => exact .inr ⟨rfl, fun f hf => absurd hf List.not_mem_nil⟩
  | append_singleton files f ih =>
    rw [loadAll_append]
    rcases hpart ((rules.loadAll files).loads_load f) with h | ⟨heq, hno⟩
    · exact .of_last h
    · rw [heq]
      exact ih.append_of_not hno

/-- After any number of loads, whether they succeeded or not, every part of the rules is the one that
the last file with an applicable part supplies, or the bundled one. A further load succeeds if and only
if all of the file applies; if it fails for another reason than a pattern, all rules stay, and if it
fails for a pattern, the packers stay. The registry in force is always an accepted one. -/
theorem loadAll_bundled (files : List RuleFile) :
    let rules := bundled.loadAll files
    LastSupplied RuleFile.SuppliesRegistry bundled.registry files rules.registry ∧
    LastSupplied (RuleFile.Supplies (·.exclusions?)) bundled.exclusions files rules.exclusions ∧
    LastSupplied (RuleFile.Supplies (·.regions?)) bundled.regions files rules.regions ∧
    LastSupplied RuleFile.SuppliesPackers bundled.packers files rules.packers ∧
    Registry.Acceptable rules.registry.algorithms ∧
    ∀ f : RuleFile,
      ((rules.load f.path f.contents).2 = .ok () ↔
        ∃ d, f.Applies d ∧ ∀ entry, d.packers? = some entry → ∃ p, entry.Compiles p) ∧
      ∀ e, (rules.load f.path f.contents).2 = .error e →
        ((∀ text reason, e ≠ .invalidPattern text reason) →
          (rules.load f.path f.contents).1 = rules) ∧
        (rules.load f.path f.contents).1.packers = rules.packers := by
  refine ⟨lastSupplied_loadAll Loads.registry _ files,
    lastSupplied_loadAll Loads.exclusions _ files, lastSupplied_loadAll Loads.regions _ files,
    lastSupplied_loadAll Loads.packers _ files, Registry.acceptable_iff.2 (Registry.faultless _), ?_⟩
  intro f
  refine ⟨(loads_load _ f).eq_ok_iff, ?_⟩
  intro e he
  rcases (loads_load _ f).of_error he with hsame | ⟨⟨text, reason, rfl⟩, hpackers⟩
  · exact ⟨fun _ => hsame, congrArg packers hsame⟩
  · exact ⟨fun hno => absurd rfl (hno text reason), hpackers⟩

def namedRules : RuleFile where
  path := ⟨"named.json"⟩
  contents := .ok <| String.toUTF8 <|
    "\x7b\"algorithms\":[\x7b\"name\":\"SM4\"," ++
    "\"constants\":\x7b\"fk\":\"00\",\"fk\":\"A3 b1\"\x7d\x7d]," ++
    "\"packers\":\x7b\"names\":[\"x.so\"],\"patterns\":[\"^p\"]\x7d\x7d"

def brokenRules : RuleFile where
  path := ⟨"broken.yml"⟩
  contents := .ok "regions: [.text]\npackers:\n  patterns: ['(']\n".toUTF8

def namedDocument : Rules.Document where
  algorithms? := some [⟨"SM4", [], [("fk", "00"), ("fk", "A3 b1")]⟩]
  exclusions? := none
  regions? := none
  packers? := some ⟨["x.so"], ["^p"]⟩

def brokenDocument : Rules.Document where
  algorithms? := none
  exclusions? := none
  regions? := some [".text"]
  packers? := some ⟨[], ["("]⟩

theorem namedRules_applies : namedRules.Applies namedDocument := by
  refine ⟨RuleFile.documentIn_eq_ok_iff.1 (toOption_eq_some_iff.1 (by decide +kernel)), ?_⟩
  rintro _ ⟨⟩
  have hsome : (Rules.registryOf [⟨"SM4", [], [("fk", "00"), ("fk", "A3 b1")]⟩]).toOption.any
      (fun _ => true) = true := by decide +kernel
  obtain ⟨r, hr, _⟩ := exists_of_any_toOption hsome
  exact ⟨r, Rules.registryOf_eq_ok_iff.1 hr⟩

theorem namedRules_compiles : ∃ p, (Rules.PackerEntry.mk ["x.so"] ["^p"]).Compiles p := by
  have hsome : (Packers.ofTexts ["x.so"] ["^p"]).toOption.any (fun _ => true) = true := by
    decide +kernel
  obtain ⟨p, hp, _⟩ := exists_of_any_toOption hsome
  exact ⟨p, Rules.ofTexts_eq_ok_iff.1 hp⟩

theorem brokenRules_applies : brokenRules.Applies brokenDocument := by
  refine ⟨RuleFile.documentIn_eq_ok_iff.1 (toOption_eq_some_iff.1 (by decide +kernel)), ?_⟩
  rintro _ ⟨⟩

theorem not_compiles_brokenRules (p : Packers) : ¬ (Rules.PackerEntry.mk [] ["("]).Compiles p := by
  rintro ⟨_, hpatterns⟩
  obtain ⟨_, _, hparse, _⟩ := List.forall₂_cons_left_iff.1 hpatterns
  have hnone : (Pattern.parse "(").toOption = none := by decide +kernel
  rw [hparse] at hnone
  cases hnone

/-- All parts of the first file are in force; the second is refused for its pattern but replaces the
regions. -/
theorem loadAll_bundled_broken :
    let rules := bundled.loadAll [namedRules, brokenRules]
    (bundled.load namedRules.path namedRules.contents).2 = .ok () ∧
    ((bundled.loadAll [namedRules]).load brokenRules.path brokenRules.contents).2 ≠ .ok () ∧
    namedRules.SuppliesRegistry rules.registry ∧
    rules.registry.algorithms = [⟨"sm4", [], [⟨"fk", [0xa3, 0xb1]⟩]⟩] ∧
    brokenRules.Supplies (·.regions?) rules.regions ∧
    namedRules.SuppliesPackers rules.packers := by
  intro rules
  obtain ⟨hregistry, _, hregions, hpackers, _⟩ := loadAll_bundled [namedRules, brokenRules]
  have hnamed := (loadAll_bundled []).2.2.2.2.2 namedRules
  have hbroken := (loadAll_bundled [namedRules]).2.2.2.2.2 brokenRules
  obtain ⟨r, hr⟩ := namedRules_applies.2 _ rfl
  obtain ⟨p, hp⟩ := namedRules_compiles
  refine ⟨hnamed.1.2 ⟨_, namedRules_applies, ?compiles⟩, ?refused, ?registry, by decide +kernel,
    hregions.of_pair.1 ⟨_, _, brokenRules_applies, rfl⟩, ?packers⟩
  case compiles =>
    rintro _ ⟨⟩
    exact ⟨p, hp⟩
  case refused =>
    intro hok
    obtain ⟨d, hd, hcompiles⟩ := hbroken.1.1 hok
    cases brokenRules_applies.unique hd
    obtain ⟨p, hp⟩ := hcompiles _ rfl
    exact not_compiles_brokenRules p hp
  case registry =>
    refine hregistry.of_pair.2 ⟨r, _, _, namedRules_applies, rfl, hr⟩ ?_
    rintro _ ⟨d, _, hd, hentries, _⟩
    cases brokenRules_applies.unique hd
    cases hentries
  case packers =>
    refine hpackers.of_pair.2 ⟨p, _, _, namedRules_applies, rfl, hp⟩ ?_
    rintro p ⟨d, _, hd, hentry, hp⟩
    cases brokenRules_applies.unique hd
    cases hentry
    exact not_compiles_brokenRules p hp

end RuleSet

end CryptoSurvey
