import CryptoSurvey.Proofs.Ordered
import CryptoSurvey.Proofs.PatternSearch
import CryptoSurvey.Proofs.RuleLoads

namespace CryptoSurvey

namespace Pattern

variable {a b : Cursor}

theorem spans_times_set_iff {s : Text.CodeSet} : (Pattern.times (.set s) 0 none).Spans a b ↔
    ∃ cs, (∀ c ∈ cs, s.contains c.toNat = true) ∧ a.Reads cs b := by
  constructor
  · rintro ⟨n, -, -, h⟩
    induction h with
    | zero a => exact ⟨[], by simp, .nil a⟩
    | succ hab _ ih =>
      obtain ⟨c, hc, hab⟩ := hab
      obtain ⟨cs, hcs, hreads⟩ := ih
      exact ⟨c :: cs, List.forall_mem_cons.2 ⟨hc, hcs⟩, hab.append hreads⟩
  · rintro ⟨cs, hcs, hreads⟩
    refine ⟨cs.length, Nat.zero_le _, by simp, ?_⟩
    induction hreads with
    | nil a => exact .zero a
    | cons _ ih =>
      rw [List.forall_mem_cons] at hcs
      exact .succ ⟨_, hcs.1, .cons (.nil _)⟩ (ih hcs.2)

end Pattern

namespace Bundled

open Text (CodeSet)

theorem contains_digit_iff {c : Char} :
    CodeSet.contains ⟨[('0'.toNat, '9'.toNat)]⟩ c.toNat = true ↔ c.isDigit = true := by
  rw [Char.isDigit_iff_toNat]
  simp [CodeSet.contains]

theorem contains_digitOrDot_iff {c : Char} :
    CodeSet.contains ⟨[('.'.toNat, '.'.toNat), ('0'.toNat, '9'.toNat)]⟩ c.toNat = true ↔
      c.isDigit = true ∨ c = '.' := by
  rw [Char.isDigit_iff_toNat, ← Char.toNat_inj]
  simp [CodeSet.contains]
  omega

/-- The text is `libshellx-`, a digit, any digits and dots, and the extension. -/
def IsVersionedShell (cs : List Char) : Prop :=
  ∃ d ds, d.isDigit = true ∧ (∀ c ∈ ds, c.isDigit = true ∨ c = '.') ∧
    cs = "libshellx-".toList ++ (d :: ds ++ ".so".toList)

theorem spans_versionedShell_iff {a b : Cursor} : versionedShell.Spans a b ↔
    a.before = none ∧ b.rest = [] ∧ ∃ cs, IsVersionedShell cs ∧ a.Reads cs b := by
  constructor
  · rintro ⟨_, ⟨rfl, hstart⟩, _, hname, _, ⟨d, hd, hdigit⟩, _, hversion, _, hextension, rfl, hend⟩
    obtain ⟨ds, hds, hversion⟩ := Pattern.spans_times_set_iff.1 hversion
    have hall := hname.append ((hdigit.append hversion).append hextension)
    refine ⟨Option.isNone_iff_eq_none.1 hstart, ?_, _, ⟨d, ds, ?_, ?_, rfl⟩, hall⟩
    · exact List.head?_eq_none_iff.1 (Option.isNone_iff_eq_none.1 hend)
    · exact contains_digit_iff.1 hd
    · exact fun c hc => contains_digitOrDot_iff.1 (hds c hc)
  · rintro ⟨hstart, hend, _, ⟨d, ds, hd, hds, rfl⟩, hall⟩
    obtain ⟨_, hname, hall⟩ := hall.exists_of_append
    obtain ⟨_, hversion, hextension⟩ := hall.exists_of_append
    have hsplit : Cursor.Reads _ ([d] ++ ds) _ := hversion
    obtain ⟨_, hdigit, hversion⟩ := hsplit.exists_of_append
    refine ⟨_, ⟨rfl, ?_⟩, _, hname, _, ⟨d, contains_digit_iff.2 hd, hdigit⟩, _, ?_, _, hextension,
      rfl, ?_⟩
    · exact Option.isNone_iff_eq_none.2 hstart
    · refine Pattern.spans_times_set_iff.2 ⟨ds, ?_, hversion⟩
      exact fun c hc => contains_digitOrDot_iff.2 (hds c hc)
    · exact Option.isNone_iff_eq_none.2 (List.head?_eq_none_iff.2 hend)

theorem occursIn_versionedShell_iff {f : String} :
    versionedShell.occursIn f = true ↔ IsVersionedShell f.toList := by
  rw [Pattern.occursIn_iff]
  constructor
  · rintro ⟨_, a, b, hreads, hspans⟩
    obtain ⟨hstart, hend, cs, hcs, hall⟩ := spans_versionedShell_iff.1 hspans
    cases hreads.eq_of_before_eq_none hstart
    have hrest : f.toList = cs ++ b.rest := hall.rest_eq
    rw [hrest, hend, List.append_nil]
    exact hcs
  · intro h
    have hrest : (Cursor.start f).rest = f.toList ++ [] := (List.append_nil _).symm
    obtain ⟨b, hall, hend⟩ := Cursor.exists_reads hrest
    exact ⟨[], _, b, .nil _, spans_versionedShell_iff.2 ⟨rfl, hend, _, h, hall⟩⟩

example : versionedShell.occursIn "libshellx-2.10.6.0.so" = true := by decide +kernel

example : versionedShell.occursIn "libshellx-3.0.so\n" = false := by decide +kernel

theorem parse_versionedShell :
    Pattern.parse "^libshellx-[0-9][0-9.]*\\.so$" = .ok versionedShell :=
  toOption_eq_some_iff.1 (by decide +kernel)

end Bundled

/-- The bundled packers are those of the listed names and of the pattern's text. A file is taken for
one of theirs if and only if its name is listed or is `libshellx-`, a digit, any digits and dots, and
`.so`, with nothing before or after it. -/
theorem Packers.isPacker_bundled :
    Packers.ofTexts Bundled.packerNames ["^libshellx-[0-9][0-9.]*\\.so$"] =
        .ok RuleSet.bundled.packers ∧
      ∀ f : String, RuleSet.bundled.packers.isPacker f = true ↔
        f ∈ Bundled.packerNames ∨ ∃ d ds, d.isDigit = true ∧
          (∀ c ∈ ds, c.isDigit = true ∨ c = '.') ∧
          f = "libshellx-" ++ String.ofList (d :: ds) ++ ".so" := by
  constructor
  · have hentry : (Rules.PackerEntry.mk Bundled.packerNames
        ["^libshellx-[0-9][0-9.]*\\.so$"]).Compiles RuleSet.bundled.packers :=
      ⟨fun _ => OrderedSet.mem_ofList, .cons Bundled.parse_versionedShell .nil⟩
    exact Rules.ofTexts_eq_ok_iff.2 hentry
  · intro f
    have hnames : RuleSet.bundled.packers.names = .ofList Bundled.packerNames := rfl
    have hpatterns : RuleSet.bundled.packers.patterns = [Bundled.versionedShell] := rfl
    rw [isPacker, hnames, hpatterns, List.any_cons, List.any_nil, Bool.or_false, Bool.or_eq_true,
      Bundled.occursIn_versionedShell_iff, OrderedSet.contains, List.contains_iff_mem,
      ← OrderedSet.mem_iff, OrderedSet.mem_ofList]
    simp only [Bundled.IsVersionedShell, ← String.toList_inj, String.toList_append,
      String.toList_ofList, List.append_assoc]

end CryptoSurvey
