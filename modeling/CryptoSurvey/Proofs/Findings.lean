import CryptoSurvey.Proofs.Assembly
import CryptoSurvey.Proofs.Libraries

namespace CryptoSurvey.Application

def table (rules : RuleSet) (package? : Option Package) : ClassTable :=
  Managed.table rules.registry rules.matcher (code package?).classes (code package?).strings

variable {rules : RuleSet} {identity : Identity} {package? : Option Package}
variable {libraries : List Library} {rejected : List SkippedLibrary} {elapsed : Nat}
variable {name n : String} {e : Evidence}

theorem wellFiled_emitted : ((table rules package?).emitted rules.registry).WellFiled :=
  Managed.tidy_table.1.emitted rules.registry

theorem classes_findings :
    (findings rules identity package? libraries rejected elapsed).classes =
      ((table rules package?).emitted rules.registry).values := by
  have htable : (managedFindings rules package?).classes.foldl ClassTable.take ∅ =
      table rules package? := Managed.tidy_table.1.named.foldl_take_values
  rw [findings, Report.assemble_classes, List.flatMap_singleton, htable]

theorem shownInClass_findings :
    ShownInClass (findings rules identity package? libraries rejected elapsed).classes name e ↔
      Managed.ClassFact rules.matcher (code package?).classes name e := by
  rw [classes_findings, wellFiled_emitted.named.shownInClass_values, ClassTable.classShows_emitted]
  exact Managed.classShows_table

theorem shownInMethod_findings :
    ShownInMethod (findings rules identity package? libraries rejected elapsed).classes name n e ↔
      Managed.MethodFact rules.registry rules.matcher (code package?).classes
        (code package?).strings name n e := by
  rw [classes_findings, wellFiled_emitted.named.shownInMethod_values, ClassTable.methodShows_emitted]
  exact Managed.methodShows_table

theorem libraries_findings :
    (findings rules identity package? libraries rejected elapsed).libraries =
      libraries.filterMap fun l => (Native.examine rules rules.matcher l).toOption := by
  change (libraryFindings rules libraries).libraries = _
  rw [libraryFindings, Native.foldl_take]
  rfl

theorem skippedLibraries_findings :
    (findings rules identity package? libraries rejected elapsed).skippedLibraries =
      libraries.filterMap (Native.unparsed? rules) ++ rejected := by
  change (libraryFindings rules libraries).skipped ++ rejected = _
  rw [libraryFindings, Native.foldl_take]
  rfl

theorem counters_findings :
    (findings rules identity package? libraries rejected elapsed).counters =
      { classesScanned := (code package?).classes.length
        methodsScanned := ((code package?).classes.flatMap (·.methods)).length
        librariesScanned := libraries.length + rejected.length
        elapsed } := by
  change Counters.mk (0 + _) (0 + _) ((libraryFindings rules libraries).librariesScanned + _) _ = _
  rw [libraryFindings, Native.foldl_take]
  simp only [Nat.zero_add]
  rfl

end CryptoSurvey.Application
