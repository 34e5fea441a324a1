import CryptoSurvey.Proofs.Directory
import CryptoSurvey.Proofs.Extraction
import Mathlib.Data.List.Nodup

namespace CryptoSurvey

namespace Archive

variable {unpackers : Unpackers} {data : ByteArray} {a : Archive} {e : Entry}

theorem size_lt_of_mem_entries (h : ofBytes unpackers data = .ok a) (he : e ∈ a.entries) :
    e.size < wordLimit := by
  obtain ⟨headers, hread, header, hheader, rfl⟩ := exists_header_of_mem_entries h he
  exact Directory.size_lt_of_read hread header hheader

theorem eq_of_name_eq (h : ofBytes unpackers data = .ok a) {e' : Entry} (he : e ∈ a.nativeEntries)
    (he' : e' ∈ a.nativeEntries) (hname : e.name = e'.name) : e = e' :=
  List.inj_on_of_nodup_map (nodup_names_nativeEntries h) he he' hname

end Archive

/-- The entry is rejected for its size: the one that it declares, or that of its contents. -/
inductive Rejection.ForSize (limit : Nat) : Rejection → Prop
  | declared (size : Nat) : ForSize limit (.declaredTooLarge size limit)
  | actual : ForSize limit (.tooLarge limit)

theorem head?_toList_append {s t : String} {c : Char} (h : s.toList.head? = some c) :
    (s ++ t).toList.head? = some c := by
  rw [String.toList_append, List.head?_append, h]
  rfl

theorem Rejection.ForSize.message_ne {limit : Nat} {r : Rejection} (hr : r.ForSize limit) :
    (∀ fault, (unreadable fault).message ≠ r.message) ∧
      ∀ fault, (broken fault).message ≠ r.message := by
  have hfirst : r.message.toList.head? = some 'l' := by
    cases hr with
    | declared size =>
      iterate 4 apply head?_toList_append
      decide
    | actual =>
      iterate 2 apply head?_toList_append
      decide
  have hunreadable (fault : EntryFault) :
      (unreadable fault).message.toList.head? = some 'u' :=
    head?_toList_append (by decide)
  have hbroken (fault : ContentsFault) : (broken fault).message.toList.head? = some 'f' :=
    head?_toList_append (by decide)
  constructor
  · intro fault h
    cases (h ▸ hunreadable fault).symm.trans hfirst
  · intro fault h
    cases (h ▸ hbroken fault).symm.trans hfirst

namespace Entry

variable {limit : Nat} {e : Entry}

/-- The declared size is within the limit, but there is no buffer of that size. -/
def Overflows (limit : Nat) (e : Entry) : Prop :=
  (∃ p, e.packed = .ok p) ∧ bufferLimit ≤ e.size ∧ e.size ≤ limit

theorem extract_eq_error_iff :
    e.extract limit = .error .capacityOverflow ↔ e.Overflows limit := by
  unfold extract Overflows
  cases e.packed with
  | error fault => simp
  | ok p =>
    simp only [Except.ok.injEq, exists_eq', true_and]
    split
    · simp only [reduceCtorEq, false_iff]
      omega
    · split
      · simp only [true_iff]
        omega
      · simp only [reduceCtorEq, false_iff]
        omega

/-- What can come of an entry, and when. -/
inductive Outcome (limit : Nat) (e : Entry) : Except Rejection ByteArray → Prop
  | unreadable {fault : EntryFault} (hpacked : e.packed = .error fault) :
    Outcome limit e (.error (.unreadable fault))
  | declaredTooLarge {p : Packed} (hpacked : e.packed = .ok p) (hsize : limit < e.size) :
    Outcome limit e (.error (.declaredTooLarge e.size limit))
  | tooLarge {p : Packed} (hpacked : e.packed = .ok p) (hsize : e.size ≤ limit)
    (hlength : limit < p.contents.bytes.length) : Outcome limit e (.error (.tooLarge limit))
  | broken {p : Packed} {fault : ContentsFault} (hpacked : e.packed = .ok p)
    (hsize : e.size ≤ limit) (hlength : p.contents.bytes.length ≤ limit)
    (hfault : p.contents.fault? = some fault) : Outcome limit e (.error (.broken fault))
  | whole {p : Packed} (hpacked : e.packed = .ok p) (hsize : e.size ≤ limit)
    (hlength : p.contents.bytes.length ≤ limit) (hfault : p.contents.fault? = none) :
    Outcome limit e (.ok ⟨p.contents.bytes.toArray⟩)

theorem outcome_of_extract {outcome : Except Rejection ByteArray}
    (h : e.extract limit = .ok outcome) : Outcome limit e outcome := by
  unfold extract at h
  split at h
  · rename_i fault hpacked
    cases h
    exact .unreadable hpacked
  · rename_i p hpacked
    split at h
    · rename_i hsize
      cases h
      exact .declaredTooLarge hpacked hsize
    · rename_i hsize
      rw [Nat.not_lt] at hsize
      split at h
      · cases h
      · cases h
        unfold Contents.readUpTo
        split
        · rename_i hlength
          exact .tooLarge hpacked hsize hlength
        · rename_i hlength
          rw [Nat.not_lt] at hlength
          split
          · rename_i fault hfault
            exact .broken hpacked hsize hlength hfault
          · rename_i hfault
            exact .whole hpacked hsize hlength hfault

end Entry

namespace Extraction

/-- The library at a path is stored with such contents, and nothing else is told of the path. -/
structure Stores (x : Extraction) (path : String) (contents : ByteArray) : Prop where
  stored : ⟨path, contents⟩ ∈ x.libraries
  unique : ∀ l ∈ x.libraries, l.path = path → l = ⟨path, contents⟩
  notRejected : ∀ r ∈ x.rejected, r.path ≠ path

/-- The library at a path is rejected for a reason, and nothing else is told of the path. -/
structure Rejects (x : Extraction) (path reason : String) : Prop where
  rejected : ⟨path, reason⟩ ∈ x.rejected
  unique : ∀ r ∈ x.rejected, r.path = path → r = ⟨path, reason⟩
  notStored : ∀ l ∈ x.libraries, l.path ≠ path

/-- An entry with such contents is treated as the limit demands. -/
structure Obeys (limit : Nat) (x : Extraction) (e : Entry) (c : Contents) : Prop where
  tooLarge : limit < e.size ∨ limit < c.bytes.length →
    ∃ r : Rejection, r.ForSize limit ∧ x.Rejects e.name r.message
  whole : e.size ≤ limit → c.bytes.length ≤ limit → c.fault? = none →
    x.Stores e.name ⟨c.bytes.toArray⟩
  broken : e.size ≤ limit → c.bytes.length ≤ limit → ∀ fault, c.fault? = some fault →
    x.Rejects e.name (Rejection.broken fault).message

/-- Every entry is told of once, and what is told of it comes from that entry alone. -/
structure Reports (limit : Nat) (x : Extraction) (entries : List Entry) : Prop where
  paths : (x.libraries.map (·.path) ++ x.rejected.map (·.path)).Perm (entries.map (·.name))
  distinct : (x.libraries.map (·.path) ++ x.rejected.map (·.path)).Nodup
  libraries : x.libraries = entries.filterMap (Entry.library? limit)
  rejected : x.rejected = entries.filterMap (Entry.rejection? limit)

end Extraction

namespace Archive

variable {unpackers : Unpackers} {data : ByteArray} {a : Archive} {limit : Nat} {x : Extraction}
variable {e : Entry}

theorem mem_libraries (hx : a.extract limit = .ok x) {l : Library} :
    l ∈ x.libraries ↔
      ∃ e ∈ a.nativeEntries, l.path = e.name ∧ e.extract limit = .ok (.ok l.data) := by
  rw [(of_extract_eq_ok hx).1, List.mem_filterMap]
  constructor
  · rintro ⟨e, he, hl⟩
    exact ⟨e, he, Entry.path_of_library? hl⟩
  · rintro ⟨e, he, hpath, hdata⟩
    refine ⟨e, he, ?_⟩
    rw [Entry.library?, hdata, ← hpath]

theorem mem_rejected (hx : a.extract limit = .ok x) {r : RejectedLibrary} :
    r ∈ x.rejected ↔
      ∃ e ∈ a.nativeEntries, r.path = e.name ∧ ∃ rejection, r.reason = rejection.message ∧
        e.extract limit = .ok (.error rejection) := by
  rw [(of_extract_eq_ok hx).2.1, List.mem_filterMap]
  constructor
  · rintro ⟨e, he, hr⟩
    exact ⟨e, he, Entry.path_of_rejection? hr⟩
  · rintro ⟨e, he, hpath, rejection, hreason, hrejection⟩
    refine ⟨e, he, ?_⟩
    rw [Entry.rejection?, hrejection]
    simp only [← hpath, ← hreason]

section Native

variable (ha : ofBytes unpackers data = .ok a) (hx : a.extract limit = .ok x) (he : e ∈ a.nativeEntries)

include ha hx he

theorem stores_of_extract {contents : ByteArray} (h : e.extract limit = .ok (.ok contents)) :
    x.Stores e.name contents where
  stored := (mem_libraries hx).2 ⟨e, he, rfl, h⟩
  unique l hl hpath := by
    obtain ⟨e', he', hname, hdata⟩ := (mem_libraries hx).1 hl
    obtain rfl := eq_of_name_eq ha he he' (hpath.symm.trans hname)
    cases l with
    | mk path contents' =>
      cases hpath
      cases h.symm.trans hdata
      rfl
  notRejected r hr hpath := by
    obtain ⟨e', he', hname, rejection, _, hrejection⟩ := (mem_rejected hx).1 hr
    obtain rfl := eq_of_name_eq ha he he' (hpath.symm.trans hname)
    cases h.symm.trans hrejection

theorem rejects_of_extract {rejection : Rejection}
    (h : e.extract limit = .ok (.error rejection)) : x.Rejects e.name rejection.message where
  rejected := (mem_rejected hx).2 ⟨e, he, rfl, rejection, rfl, h⟩
  unique r hr hpath := by
    obtain ⟨e', he', hname, rejection', hreason, hrejection⟩ := (mem_rejected hx).1 hr
    obtain rfl := eq_of_name_eq ha he he' (hpath.symm.trans hname)
    cases r with
    | mk path reason =>
      cases hpath
      cases h.symm.trans hrejection
      cases hreason
      rfl
  notStored l hl hpath := by
    obtain ⟨e', he', hname, hdata⟩ := (mem_libraries hx).1 hl
    obtain rfl := eq_of_name_eq ha he he' (hpath.symm.trans hname)
    cases h.symm.trans hdata

theorem obeys_of_extract {p : Packed} (hp : e.packed = .ok p) : x.Obeys limit e p.contents := by
  obtain ⟨outcome, houtcome⟩ := (of_extract_eq_ok hx).2.2 e he
  have hrejects {r : Rejection} (h : outcome = .error r) : x.Rejects e.name r.message :=
    rejects_of_extract ha hx he (h ▸ houtcome)
  have hstores {contents : ByteArray} (h : outcome = .ok contents) : x.Stores e.name contents :=
    stores_of_extract ha hx he (h ▸ houtcome)
  -- Each outcome meets one of the demands; the conditions of the others contradict it.
  cases Entry.outcome_of_extract houtcome with
  | unreadable hpacked => cases hp.symm.trans hpacked
  | declaredTooLarge _ hsize =>
    exact ⟨fun _ => ⟨_, .declared e.size, hrejects rfl⟩, by omega, by omega⟩
  | tooLarge hpacked hsize hlength =>
    cases hp.symm.trans hpacked
    exact ⟨fun _ => ⟨_, .actual, hrejects rfl⟩, by omega, by omega⟩
  | broken hpacked hsize hlength hfault =>
    cases hp.symm.trans hpacked
    refine ⟨by omega, ?_, ?_⟩
    · intro _ _ hnone
      cases hfault.symm.trans hnone
    · intro _ _ fault hsome
      cases hfault.symm.trans hsome
      exact hrejects rfl
  | whole hpacked hsize hlength hfault =>
    cases hp.symm.trans hpacked
    refine ⟨by omega, fun _ _ _ => hstores rfl, ?_⟩
    intro _ _ fault hsome
    cases hfault.symm.trans hsome

end Native

theorem size_le_of_mem_libraries (hx : a.extract limit = .ok x) {l : Library}
    (hl : l ∈ x.libraries) : l.data.size ≤ limit := by
  obtain ⟨e, _, _, hdata⟩ := (mem_libraries hx).1 hl
  generalize l.data = contents at hdata
  cases Entry.outcome_of_extract hdata with
  | whole _ _ hlength _ => exact hlength

theorem reason_ne_of_le (hx : a.extract limit = .ok x)
    (hsize : ∀ e ∈ a.nativeEntries, e.size ≤ limit)
    (hlength : ∀ e ∈ a.nativeEntries, ∀ p, e.packed = .ok p → p.contents.bytes.length ≤ limit)
    {r : RejectedLibrary} (hr : r ∈ x.rejected) {reason : Rejection} (hreason : reason.ForSize limit) :
    r.reason ≠ reason.message := by
  obtain ⟨e, he, _, rejection, htext, hrejection⟩ := (mem_rejected hx).1 hr
  rw [htext]
  have hs := hsize e he
  cases Entry.outcome_of_extract hrejection with
  | unreadable _ => exact hreason.message_ne.1 _
  | declaredTooLarge _ hlarge => omega
  | tooLarge hpacked _ hlarge =>
    have hl := hlength e he _ hpacked
    omega
  | broken _ _ _ _ => exact hreason.message_ne.2 _

theorem extract_eq_error_iff :
    a.extract limit = .error .capacityOverflow ↔ ∃ e ∈ a.nativeEntries, e.Overflows limit := by
  constructor
  · intro h
    rcases bind_eq_error_iff.1 h with h | ⟨_, _, h⟩
    · obtain ⟨e, he, h⟩ := exists_of_mapM_eq_error h
      rcases bind_eq_error_iff.1 h with h | ⟨_, _, h⟩
      · exact ⟨e, he, Entry.extract_eq_error_iff.1 h⟩
      · cases h
    · cases h
  · rintro ⟨e, he, hoverflows⟩
    cases hx : a.extract limit with
    | error fault => rfl
    | ok x =>
      obtain ⟨outcome, houtcome⟩ := (of_extract_eq_ok hx).2.2 e he
      have herror := Entry.extract_eq_error_iff.2 hoverflows
      cases houtcome.symm.trans herror

theorem exists_extract_eq_ok (h : ∀ e ∈ a.nativeEntries, ¬e.Overflows limit) :
    ∃ x, a.extract limit = .ok x := by
  cases hx : a.extract limit with
  | error fault =>
    obtain ⟨e, he, hoverflows⟩ := extract_eq_error_iff.1 hx
    exact absurd hoverflows (h e he)
  | ok x => exact ⟨x, rfl⟩

theorem not_overflows_of_lt (h : limit < bufferLimit) (a : Archive) :
    ∀ e ∈ a.nativeEntries, ¬e.Overflows limit := by
  rintro e _ ⟨_, hbuffer, hsize⟩
  omega

theorem reports_of_extract (ha : ofBytes unpackers data = .ok a) (hx : a.extract limit = .ok x) :
    x.Reports limit a.nativeEntries := by
  obtain ⟨hlibraries, hrejected, houtcome⟩ := of_extract_eq_ok hx
  have hpaths := Entry.paths_perm houtcome
  rw [← hlibraries, ← hrejected] at hpaths
  exact ⟨hpaths, hpaths.nodup_iff.2 (nodup_names_nativeEntries ha), hlibraries, hrejected⟩

/-- An archive of two stored libraries. The first declares half of all words as its size. -/
def overstatedArchive : ByteArray := ⟨#[
  0x50, 0x4b, 3, 4, 20, 0, 0, 0, 0, 0, 0, 0, 33, 0, 0xe5, 0xe8, 0xa2, 0x5c, 6, 0, 0, 0, 0xff, 0xff,
  0xff, 0xff, 15, 0, 0, 0, 0x6c, 0x69, 0x62, 47, 0x61, 47, 0x6c, 0x69, 0x62, 0x65, 0x6e, 0x63, 46,
  0x73, 0x6f, 0x73, 0x65, 0x63, 0x72, 0x65, 0x74,
  0x50, 0x4b, 3, 4, 20, 0, 0, 0, 0, 0, 0, 0, 33, 0, 0xcf, 0x62, 32, 25, 5, 0, 0, 0, 5, 0, 0, 0, 17,
  0, 0, 0, 0x6c, 0x69, 0x62, 47, 0x61, 47, 0x6c, 0x69, 0x62, 0x70, 0x6c, 0x61, 0x69, 0x6e, 46,
  0x73, 0x6f, 0x70, 0x6c, 0x61, 0x69, 0x6e,
  0x50, 0x4b, 1, 2, 20, 0, 20, 0, 0, 0, 0, 0, 0, 0, 33, 0, 0xe5, 0xe8, 0xa2, 0x5c, 6, 0, 0, 0,
  0xff, 0xff, 0xff, 0xff, 15, 0, 12, 0, 0, 0, 0, 0, 0, 0, 0, 0, 0, 0, 0, 0, 0, 0, 0x6c, 0x69, 0x62,
  47, 0x61, 47, 0x6c, 0x69, 0x62, 0x65, 0x6e, 0x63, 46, 0x73, 0x6f, 1, 0, 8, 0, 0, 0, 0, 0, 0, 0,
  0, 0x80,
  0x50, 0x4b, 1, 2, 20, 0, 20, 0, 0, 0, 0, 0, 0, 0, 33, 0, 0xcf, 0x62, 32, 25, 5, 0, 0, 0, 5, 0, 0,
  0, 17, 0, 0, 0, 0, 0, 0, 0, 0, 0, 0, 0, 0, 0, 51, 0, 0, 0, 0x6c, 0x69, 0x62, 47, 0x61, 47, 0x6c,
  0x69, 0x62, 0x70, 0x6c, 0x61, 0x69, 0x6e, 46, 0x73, 0x6f,
  0x50, 0x4b, 5, 6, 0, 0, 0, 0, 2, 0, 2, 0, 0x88, 0, 0, 0, 0x67, 0, 0, 0, 0, 0]⟩

theorem exists_ofBytes_overstatedArchive :
    ∃ a, ofBytes .none overstatedArchive = .ok a ∧
      a.nativeEntries.map (·.name) = ["lib/a/libenc.so", "lib/a/libplain.so"] ∧
      ∃ e ∈ a.nativeEntries, e.size = bufferLimit ∧ ∃ p, e.packed = .ok p := by
  have heval : (ofBytes .none overstatedArchive).toOption.any (fun a =>
      a.nativeEntries.map (·.name) == ["lib/a/libenc.so", "lib/a/libplain.so"] &&
      a.nativeEntries.any fun e => e.size == bufferLimit &&
        e.packed.toOption.any fun _ => true) = true := by
    decide +kernel
  obtain ⟨a, ha, heval⟩ := exists_of_any_toOption heval
  simp only [Bool.and_eq_true, List.any_eq_true, beq_iff_eq] at heval
  obtain ⟨hnames, e, he, hsize, hpacked⟩ := heval
  obtain ⟨p, hp, _⟩ := exists_of_any_toOption hpacked
  exact ⟨a, ha, hnames, e, he, hsize, p, hp⟩

/-- Six bytes as one library for a foreign packing writes them. -/
def bzip2Secret : List UInt8 :=
  [0x42, 0x5a, 0x68, 49, 49, 0x41, 0x59, 38, 0x53, 0x59, 0x87, 0xcd, 0x77, 22, 0, 0, 2, 1, 0x80, 10,
   0, 28, 0, 32, 0, 48, 0xcd, 0, 0xc3, 0x44, 3, 0x6e, 46, 0xe4, 0x8a, 0x70, 0xa1, 33, 15, 0x9a,
   0xee, 44]

def secretUnpackers : Unpackers := fun packing bytes =>
  if packing == .bzip2 && bytes == bzip2Secret then
    { bytes := [0x73, 0x65, 0x63, 0x72, 0x65, 0x74] }
  else { bytes := [], fault? := some "bz2 header missing" }

/-- An archive of two libraries in a foreign packing. The first has no contents and declares half of all
words as its size. -/
def foreignArchive : ByteArray := .mk <| .mk <|
  [0x50, 0x4b, 3, 4, 46, 0, 0, 0, 12, 0, 0, 0, 33, 0, 0xe5, 0xe8, 0xa2, 0x5c, 0, 0, 0, 0, 0xff,
   0xff, 0xff, 0xff, 8, 0, 0, 0, 0x6c, 0x69, 0x62, 47, 0x62, 46, 0x73, 0x6f,
   0x50, 0x4b, 3, 4, 46, 0, 0, 0, 12, 0, 0, 0, 33, 0, 0xe5, 0xe8, 0xa2, 0x5c, 42, 0, 0, 0, 6, 0, 0,
   0, 8, 0, 0, 0, 0x6c, 0x69, 0x62, 47, 0x70, 46, 0x73, 0x6f] ++ bzip2Secret ++
  [0x50, 0x4b, 1, 2, 46, 0, 46, 0, 0, 0, 12, 0, 0, 0, 33, 0, 0xe5, 0xe8, 0xa2, 0x5c, 0, 0, 0, 0,
   0xff, 0xff, 0xff, 0xff, 8, 0, 12, 0, 0, 0, 0, 0, 0, 0, 0, 0, 0, 0, 0, 0, 0, 0, 0x6c, 0x69, 0x62,
   47, 0x62, 46, 0x73, 0x6f, 1, 0, 8, 0, 0, 0, 0, 0, 0, 0, 0, 0x80,
   0x50, 0x4b, 1, 2, 46, 0, 46, 0, 0, 0, 12, 0, 0, 0, 33, 0, 0xe5, 0xe8, 0xa2, 0x5c, 42, 0, 0, 0, 6,
   0, 0, 0, 8, 0, 0, 0, 0, 0, 0, 0, 0, 0, 0, 0, 0, 0, 38, 0, 0, 0, 0x6c, 0x69, 0x62, 47, 0x70, 46,
   0x73, 0x6f,
   0x50, 0x4b, 5, 6, 0, 0, 0, 0, 2, 0, 2, 0, 0x78, 0, 0, 0, 0x76, 0, 0, 0, 0, 0]

theorem exists_ofBytes_foreignArchive :
    ∃ a, ofBytes secretUnpackers foreignArchive = .ok a ∧
      a.nativeEntries.map (·.name) = ["lib/b.so", "lib/p.so"] ∧
      (∃ e ∈ a.nativeEntries, e.name = "lib/b.so" ∧ e.size = bufferLimit ∧
        ∃ p, e.packed = .ok p) ∧
      ∃ e ∈ a.nativeEntries, e.name = "lib/p.so" ∧ e.size = 6 ∧
        ∃ p, e.packed = .ok p ∧ p.contents.bytes = [0x73, 0x65, 0x63, 0x72, 0x65, 0x74] ∧
          p.contents.fault? = none := by
  have heval : (ofBytes secretUnpackers foreignArchive).toOption.any (fun a =>
      a.nativeEntries.map (·.name) == ["lib/b.so", "lib/p.so"] &&
      a.nativeEntries.any (fun e => e.name == "lib/b.so" && (e.size == bufferLimit &&
        e.packed.toOption.any fun _ => true)) &&
      a.nativeEntries.any (fun e => e.name == "lib/p.so" && (e.size == 6 &&
        e.packed.toOption.any fun p =>
          p.contents.bytes == [0x73, 0x65, 0x63, 0x72, 0x65, 0x74] &&
            p.contents.fault? == none))) = true := by
    decide +kernel
  obtain ⟨a, ha, heval⟩ := exists_of_any_toOption heval
  simp only [Bool.and_eq_true, List.any_eq_true, beq_iff_eq] at heval
  obtain ⟨⟨hnames, e₁, he₁, hname₁, hsize₁, hpacked₁⟩, e₂, he₂, hname₂, hsize₂, hpacked₂⟩ := heval
  obtain ⟨p₁, hp₁, _⟩ := exists_of_any_toOption hpacked₁
  obtain ⟨p₂, hp₂, hcontents⟩ := exists_of_any_toOption hpacked₂
  rw [Bool.and_eq_true, beq_iff_eq, beq_iff_eq] at hcontents
  exact ⟨a, ha, hnames, ⟨e₁, he₁, hname₁, hsize₁, p₁, hp₁⟩, e₂, he₂, hname₂, hsize₂, p₂, hp₂,
    hcontents⟩

/-- An extraction that returns treats every native entry that can be opened as the limit demands,
whatever unpacks it, so no library is beyond the limit. Nothing is rejected for its size under the
greatest limit: declared sizes are words, and contents are shorter than the longest buffer. -/
theorem extract_obeys_limit (unpackers : Unpackers) (data : ByteArray) (a : Archive)
    (ha : ofBytes unpackers data = .ok a) (limit : Nat) (x : Extraction)
    (hx : a.extract limit = .ok x) :
    (∀ e ∈ a.nativeEntries, ∀ p, e.packed = .ok p → x.Obeys limit e p.contents) ∧
    (∀ l ∈ x.libraries, l.data.size ≤ limit) ∧
    (limit = wordLimit - 1 →
      ∀ r ∈ x.rejected, ∀ reason : Rejection, reason.ForSize limit → r.reason ≠ reason.message) := by
  refine ⟨?_, ?_, ?_⟩
  · intro e he p hp
    exact obeys_of_extract ha hx he hp
  · intro l hl
    exact size_le_of_mem_libraries hx hl
  · intro hlimit r hr reason hreason
    refine reason_ne_of_le hx ?_ ?_ hr hreason
    · intro e he
      have hsize := size_lt_of_mem_entries ha (List.mem_of_mem_filter he)
      omega
    · intro e he p hp
      have hfits := p.contents.fits
      have hword : bufferLimit < wordLimit := by decide
      omega

/-- The contents of the second library are as long as the limit and are stored as a whole. -/
theorem extract_obeys_limit_foreign :
    ∃ a x, ofBytes secretUnpackers foreignArchive = .ok a ∧ a.extract 6 = .ok x ∧
      x.Stores "lib/p.so" ⟨#[0x73, 0x65, 0x63, 0x72, 0x65, 0x74]⟩ ∧
      (∃ r : Rejection, r.ForSize 6 ∧ x.Rejects "lib/b.so" r.message) ∧
      ∀ l ∈ x.libraries, l.data.size ≤ 6 := by
  obtain ⟨a, ha, _, ⟨e₁, he₁, hname₁, hsize₁, p₁, hp₁⟩, e₂, he₂, hname₂, hsize₂, p₂, hp₂, hbytes,
    hfault⟩ := exists_ofBytes_foreignArchive
  obtain ⟨x, hx⟩ := exists_extract_eq_ok (not_overflows_of_lt (show 6 < bufferLimit by decide) a)
  obtain ⟨hobeys, hstored, _⟩ := extract_obeys_limit secretUnpackers foreignArchive a ha 6 x hx
  refine ⟨a, x, ha, hx, ?_, ?_, hstored⟩
  · have hwhole := (hobeys e₂ he₂ p₂ hp₂).whole
    rw [hname₂, hsize₂, hbytes] at hwhole
    exact hwhole (Nat.le_refl 6) (Nat.le_refl 6) hfault
  · have hlarge := (hobeys e₁ he₁ p₁ hp₁).tooLarge
    rw [hname₁, hsize₁] at hlarge
    exact hlarge (.inl (by decide))

/-- An extraction ends early if and only if a native entry that can be opened, whatever unpacks it,
declares a size that the limit allows and no buffer has. Otherwise, and always under a limit that
buffers reach, every native entry is told of once and by itself, whatever the others declare. -/
theorem extract_reports_unless_overflows (unpackers : Unpackers) (data : ByteArray) (a : Archive)
    (ha : ofBytes unpackers data = .ok a) (limit : Nat) :
    (a.extract limit = .error .capacityOverflow ↔ ∃ e ∈ a.nativeEntries, e.Overflows limit) ∧
    ((∀ e ∈ a.nativeEntries, ¬e.Overflows limit) →
      ∃ x, a.extract limit = .ok x ∧ x.Reports limit a.nativeEntries) ∧
    (limit < bufferLimit → ∃ x, a.extract limit = .ok x ∧ x.Reports limit a.nativeEntries) := by
  have hreports (h : ∀ e ∈ a.nativeEntries, ¬e.Overflows limit) :
      ∃ x, a.extract limit = .ok x ∧ x.Reports limit a.nativeEntries := by
    obtain ⟨x, hx⟩ := exists_extract_eq_ok h
    exact ⟨x, hx, reports_of_extract ha hx⟩
  refine ⟨extract_eq_error_iff, hreports, ?_⟩
  intro hlimit
  exact hreports (not_overflows_of_lt hlimit a)

theorem extract_reports_foreign :
    ∃ a, ofBytes secretUnpackers foreignArchive = .ok a ∧
      a.extract bufferLimit = .error .capacityOverflow ∧
      ∃ x, a.extract (bufferLimit - 1) = .ok x ∧
        (x.libraries.map (·.path) ++ x.rejected.map (·.path)).Perm
          ["lib/b.so", "lib/p.so"] := by
  obtain ⟨a, ha, hnames, ⟨e, he, _, hsize, hpacked⟩, _⟩ := exists_ofBytes_foreignArchive
  obtain ⟨hends, _⟩ :=
    extract_reports_unless_overflows secretUnpackers foreignArchive a ha bufferLimit
  obtain ⟨_, _, hreports⟩ :=
    extract_reports_unless_overflows secretUnpackers foreignArchive a ha (bufferLimit - 1)
  obtain ⟨x, hx, hreports⟩ := hreports (by decide)
  exact ⟨a, ha, hends.2 ⟨e, he, hpacked, by rw [hsize]; decide⟩, x, hx, hnames ▸ hreports.paths⟩

/-- Under the greatest limit the size that the first library declares ends the extraction, and
nothing is told of the second. -/
theorem overstatedArchive_ends_extraction :
    ∃ a, ofBytes .none overstatedArchive = .ok a ∧
      a.nativeEntries.map (·.name) = ["lib/a/libenc.so", "lib/a/libplain.so"] ∧
      a.extract (wordLimit - 1) = .error .capacityOverflow := by
  obtain ⟨a, ha, hnames, e, he, hsize, hpacked⟩ := exists_ofBytes_overstatedArchive
  refine ⟨a, ha, hnames, extract_eq_error_iff.2 ⟨e, he, hpacked, ?_⟩⟩
  rw [hsize]
  decide

end Archive

end CryptoSurvey
