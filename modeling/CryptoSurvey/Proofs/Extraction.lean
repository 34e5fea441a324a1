import CryptoSurvey.Archive.Extraction
import CryptoSurvey.Proofs.Failure

namespace CryptoSurvey

namespace Archive

theorem mem_names_put {e : Entry} {entries : List Entry} {name : String} :
    name ∈ (put e entries).map (·.name) ↔ name = e.name ∨ name ∈ entries.map (·.name) := by
  induction entries with
  | nil => simp [put]
  | cons f rest ih =>
    rw [put]
    split
    · rename_i hname
      rw [beq_iff_eq] at hname
      simp [hname]
    · rw [List.map_cons, List.mem_cons, ih, List.map_cons, List.mem_cons]
      exact or_left_comm

theorem nodup_names_put (e : Entry) {entries : List Entry}
    (h : (entries.map (·.name)).Nodup) : ((put e entries).map (·.name)).Nodup := by
  induction entries with
  | nil => simp [put]
  | cons f rest ih =>
    rw [List.map_cons, List.nodup_cons] at h
    rw [put]
    split
    · rename_i hname
      rw [List.map_cons, List.nodup_cons, ← beq_iff_eq.1 hname]
      exact h
    · rename_i hname
      rw [List.map_cons, List.nodup_cons, mem_names_put]
      refine ⟨?_, ih h.2⟩
      rintro (hsame | hmem)
      · exact hname (beq_iff_eq.2 hsame)
      · exact h.1 hmem

theorem mem_of_mem_put {e x : Entry} {entries : List Entry} (h : x ∈ put e entries) :
    x = e ∨ x ∈ entries := by
  induction entries with
  | nil => exact .inl (List.mem_singleton.1 h)
  | cons f rest ih =>
    rw [put] at h
    split at h
    · exact (List.mem_cons.1 h).imp_right (List.mem_cons_of_mem f)
    · rcases List.mem_cons.1 h with rfl | hx
      · exact .inr List.mem_cons_self
      · exact (ih hx).imp_right (List.mem_cons_of_mem f)

theorem nodup_names_of_ofBytes {unpackers : Unpackers} {data : ByteArray} {a : Archive}
    (h : ofBytes unpackers data = .ok a) :
    (a.entries.map (·.name)).Nodup := by
  obtain ⟨headers, _, hentries⟩ := exists_of_bind_eq_ok h
  cases hentries
  refine List.foldlRecOn (motive := fun entries => (List.map Entry.name entries).Nodup)
    headers _ List.nodup_nil ?_
  intro entries hnodup header _
  exact nodup_names_put _ hnodup

theorem nodup_names_of_load {path : Path} {contents : Except OsError ByteArray}
    {unpackers : Unpackers} {a : Archive} (h : load path contents unpackers = .ok a) :
    (a.entries.map (·.name)).Nodup := by
  unfold load at h
  split at h
  · cases h
  · cases h
  · split at h
    · cases h
    · rename_i archive hbytes
      cases h
      exact nodup_names_of_ofBytes hbytes

theorem exists_header_of_mem_entries {unpackers : Unpackers} {data : ByteArray} {a : Archive}
    (h : ofBytes unpackers data = .ok a) {e : Entry} (he : e ∈ a.entries) :
    ∃ headers, Directory.read data = .ok headers ∧
      ∃ header ∈ headers, e = entry unpackers data header := by
  obtain ⟨headers, hread, hentries⟩ := exists_of_bind_eq_ok h
  cases hentries
  refine ⟨headers, hread, ?_⟩
  revert e
  refine List.foldlRecOn (motive := fun entries : List Entry =>
    ∀ {e}, e ∈ entries → ∃ header ∈ headers, e = entry unpackers data header) headers _ ?_ ?_
  · exact fun he => absurd he List.not_mem_nil
  · intro entries ih header hheader e he
    rcases mem_of_mem_put he with rfl | he
    · exact ⟨header, hheader, rfl⟩
    · exact ih he

theorem nodup_names_nativeEntries {unpackers : Unpackers} {data : ByteArray} {a : Archive}
    (h : ofBytes unpackers data = .ok a) :
    (a.nativeEntries.map (·.name)).Nodup :=
  (nodup_names_of_ofBytes h).sublist (List.filter_sublist.map _)

theorem mem_nativeEntries {a : Archive} {e : Entry} :
    e ∈ a.nativeEntries ↔
      e ∈ a.entries ∧ "lib".toList <+: e.name.toList ∧ ".so".toList <:+ e.name.toList := by
  rw [nativeEntries, List.mem_filter, isNativeLibrary, Bool.and_eq_true,
    List.isPrefixOf_iff_prefix, List.isSuffixOf_iff_suffix]

section Others

variable {a a' : Archive} {before after : List Entry} {e e' : Entry}

theorem nativeEntries_others (ha : a.entries = before ++ e :: after)
    (ha' : a'.entries = before ++ e' :: after) (hn : e'.name = e.name) :
    a'.nativeEntries.filter (fun x => x.name != e.name) =
      a.nativeEntries.filter (fun x => x.name != e.name) := by
  rw [nativeEntries, nativeEntries, ha, ha', List.filter_filter, List.filter_filter,
    List.filter_append, List.filter_append, List.filter_cons, List.filter_cons]
  simp [hn]

theorem map_name_nativeEntries (ha : a.entries = before ++ e :: after)
    (ha' : a'.entries = before ++ e' :: after) (hn : e'.name = e.name) :
    a'.nativeEntries.map (·.name) = a.nativeEntries.map (·.name) := by
  rw [nativeEntries, nativeEntries, ha, ha', List.filter_append, List.filter_append,
    List.filter_cons, List.filter_cons, hn]
  split <;> simp [hn]

end Others

end Archive

namespace Entry

def library? (limit : Nat) (e : Entry) : Option Library :=
  match e.extract limit with
  | .ok (.ok data) => some ⟨e.name, data⟩
  | _ => none

def rejection? (limit : Nat) (e : Entry) : Option RejectedLibrary :=
  match e.extract limit with
  | .ok (.error rejection) => some ⟨e.name, rejection.message⟩
  | _ => none

theorem path_of_library? {limit : Nat} {e : Entry} {l : Library} (h : e.library? limit = some l) :
    l.path = e.name ∧ e.extract limit = .ok (.ok l.data) := by
  unfold library? at h
  split at h
  · rename_i data hdata
    cases h
    exact ⟨rfl, hdata⟩
  · cases h

theorem path_of_rejection? {limit : Nat} {e : Entry} {r : RejectedLibrary}
    (h : e.rejection? limit = some r) :
    r.path = e.name ∧ ∃ rejection, r.reason = rejection.message ∧
      e.extract limit = .ok (.error rejection) := by
  unfold rejection? at h
  split at h
  · rename_i rejection hrejection
    cases h
    exact ⟨rfl, rejection, rfl, hrejection⟩
  · cases h

theorem paths_perm {limit : Nat} {entries : List Entry}
    (h : ∀ e ∈ entries, ∃ outcome, e.extract limit = .ok outcome) :
    ((entries.filterMap (Entry.library? limit)).map (·.path) ++
      (entries.filterMap (Entry.rejection? limit)).map (·.path)).Perm
      (entries.map (·.name)) := by
  induction entries with
  | nil => exact .nil
  | cons e rest ih =>
    rw [List.forall_mem_cons] at h
    obtain ⟨outcome, ho⟩ := h.1
    rw [List.filterMap_cons, List.filterMap_cons, Entry.library?, Entry.rejection?, ho]
    cases outcome with
    | error rejection => exact List.perm_middle.trans ((ih h.2).cons e.name)
    | ok data => exact (ih h.2).cons e.name

theorem length_library?_add_length_rejection? {limit : Nat} {entries : List Entry}
    (h : ∀ e ∈ entries, ∃ outcome, e.extract limit = .ok outcome) :
    (entries.filterMap (Entry.library? limit)).length +
      (entries.filterMap (Entry.rejection? limit)).length = entries.length := by
  have hlength := (paths_perm h).length_eq
  rwa [List.length_append, List.length_map, List.length_map, List.length_map] at hlength

end Entry

theorem Archive.of_extract_eq_ok {a : Archive} {limit : Nat} {x : Extraction}
    (h : a.extract limit = .ok x) :
    x.libraries = a.nativeEntries.filterMap (Entry.library? limit) ∧
      x.rejected = a.nativeEntries.filterMap (Entry.rejection? limit) ∧
      ∀ e ∈ a.nativeEntries, ∃ outcome, e.extract limit = .ok outcome := by
  obtain ⟨outcomes, hm, h⟩ := exists_of_bind_eq_ok h
  cases h
  refine ⟨?_, ?_, ?_⟩
  · refine filterMap_of_mapM_eq_ok hm fun e => ?_
    rw [Entry.library?]
    cases e.extract limit with
    | error fault => rfl
    | ok outcome => cases outcome <;> rfl
  · refine filterMap_of_mapM_eq_ok hm fun e => ?_
    rw [Entry.rejection?]
    cases e.extract limit with
    | error fault => rfl
    | ok outcome => cases outcome <;> rfl
  · intro e he
    obtain ⟨b, hb⟩ := exists_of_mapM_eq_ok hm he
    obtain ⟨outcome, houtcome, _⟩ := exists_of_bind_eq_ok hb
    exact ⟨outcome, houtcome⟩

end CryptoSurvey
