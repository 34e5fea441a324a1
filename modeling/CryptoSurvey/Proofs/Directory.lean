import CryptoSurvey.Archive.Directory
import CryptoSurvey.Proofs.Failure
import Mathlib.Algebra.GroupWithZero.Nat

namespace CryptoSurvey

theorem wordOf_lt (bs : List UInt8) : wordOf bs < 256 ^ bs.length := by
  induction bs with
  | nil => exact Nat.one_pos
  | cons b bs ih =>
    have hb := b.toNat_lt
    rw [wordOf, List.length_cons, Nat.pow_succ]
    omega

theorem wordOf_lt_of_length_le {bs : List UInt8} {width : Nat} (h : bs.length ≤ width) :
    wordOf bs < 256 ^ width :=
  Nat.lt_of_lt_of_le (wordOf_lt bs) (Nat.pow_le_pow_right (by decide) h)

theorem Bytes.word?_lt {data : ByteArray} {offset width n : Nat}
    (h : word? data .leastFirst offset width = some n) : n < 256 ^ width := by
  obtain ⟨bs, hbs, rfl⟩ := Option.map_eq_some_iff.1 h
  apply wordOf_lt_of_length_le
  rw [(slice?_eq hbs).2]
  exact List.length_take_le _ _

namespace Directory

theorem takeNumber?_lt {width n : Nat} {bs rest : List UInt8}
    (h : takeNumber? width bs = some (n, rest)) : n < 256 ^ width := by
  unfold takeNumber? at h
  split at h
  · cases h
    exact wordOf_lt_of_length_le (List.length_take_le _ _)
  · cases h

/-- The declared size is a word in what an extra field leaves of a header. -/
inductive Extra.SizeFits : Extra → Prop
  | next {h : Header} (hsize : h.size < wordLimit) (rest : List UInt8) : SizeFits (.next h rest)
  | cutShort {h : Header} (hsize : h.size < wordLimit) : SizeFits (.cutShort h)
  | invalid : SizeFits .invalid

theorem WideField.size_set_lt {f : WideField} {n : Nat} {h : Header} (hn : n < wordLimit)
    (hsize : h.size < wordLimit) : (f.set n h).size < wordLimit := by
  cases f with
  | size => exact hn
  | packedSize => exact hsize
  | start => exact hsize

section Extras

variable {length : Nat} {h : Header} (hsize : h.size < wordLimit) (bs : List UInt8)

include hsize

theorem sizeFits_passOver (n : Nat) : (passOver h n bs).SizeFits := by
  unfold passOver
  split
  · exact .next hsize _
  · exact .cutShort hsize

theorem sizeFits_wideExtra {fields : List WideField} {used : Nat} :
    (wideExtra length fields used h bs).SizeFits := by
  induction fields generalizing used h bs with
  | nil =>
    rw [wideExtra]
    split
    · exact .invalid
    · exact sizeFits_passOver hsize bs _
  | cons f fs ih =>
    rw [wideExtra]
    split
    · split
      · exact .cutShort hsize
      · rename_i n rest hn
        exact ih (WideField.size_set_lt (takeNumber?_lt hn) hsize) rest
    · exact ih hsize bs

theorem sizeFits_fileTimesExtra : (fileTimesExtra length h bs).SizeFits := by
  unfold fileTimesExtra
  split
  · exact .invalid
  · split
    · exact .cutShort hsize
    · split
      · exact .cutShort hsize
      · split
        · exact .invalid
        · split
          · exact .cutShort hsize
          · split
            · exact .invalid
            · exact sizeFits_passOver hsize _ _

theorem sizeFits_cipherExtra : (cipherExtra length h bs).SizeFits := by
  simp only [cipherExtra]
  split
  · exact .invalid
  · split
    · exact .cutShort hsize
    · split
      · exact .invalid
      · apply Extra.SizeFits.next
        exact hsize

theorem sizeFits_timesExtra : (timesExtra length h bs).SizeFits := by
  cases bs with
  | nil => exact .cutShort hsize
  | cons flags bs =>
    simp only [timesExtra]
    split
    · exact .invalid
    · exact sizeFits_passOver hsize bs _

theorem sizeFits_replacement {replaced : List UInt8} {use : String → List UInt8 → Header}
    (huse : ∀ s raw, (use s raw).size = h.size) :
    (replacement length replaced h bs use).SizeFits := by
  simp only [replacement]
  split
  · exact .cutShort hsize
  · split
    · exact .invalid
    · split
      · exact .cutShort hsize
      · split
        · exact .invalid
        · split
          · exact .invalid
          · exact .next (huse _ _ ▸ hsize) _

theorem sizeFits_extra : (extra h bs).SizeFits := by
  unfold extra
  split
  · exact .cutShort hsize
  · split
    · exact .cutShort hsize
    · split
      · exact sizeFits_wideExtra hsize _
      · exact sizeFits_fileTimesExtra hsize _
      · exact sizeFits_cipherExtra hsize _
      · exact sizeFits_timesExtra hsize _
      · apply sizeFits_replacement hsize
        exact fun _ _ => rfl
      · apply sizeFits_replacement hsize
        exact fun _ _ => rfl
      · exact sizeFits_passOver hsize _ _

theorem size_lt_of_extras {fuel : Nat} {h' : Header} (hh : extras fuel h bs = some h') :
    h'.size < wordLimit := by
  induction fuel generalizing h bs with
  | zero =>
    cases hh
    exact hsize
  | succ fuel ih =>
    -- A field may replace the size, so each one is entered with the bound of the one before.
    have hfits := sizeFits_extra hsize bs
    rw [extras] at hh
    split at hh
    · cases hh
      exact hsize
    · generalize extra h bs = found at hh hfits
      cases hfits with
      | next hnext rest => exact ih hnext rest hh
      | cutShort hshort =>
        cases hh
        exact hshort
      | invalid => cases hh

end Extras

theorem size_lt_of_header? {data : ByteArray} {place : Place} {i next : Nat} {h : Header}
    (hh : header? data place i = some (h, next)) : h.size < wordLimit := by
  unfold header? at hh
  -- The size comes after the mark and four words, the extra fields after five more items.
  iterate 5 obtain ⟨_, _, hh⟩ := Option.bind_eq_some_iff.1 hh
  obtain ⟨size, hsize, hh⟩ := Option.bind_eq_some_iff.1 hh
  iterate 5 obtain ⟨_, _, hh⟩ := Option.bind_eq_some_iff.1 hh
  obtain ⟨extraBytes, _, hh⟩ := Option.bind_eq_some_iff.1 hh
  obtain ⟨rawComment, _, hh⟩ := Option.bind_eq_some_iff.1 hh
  obtain ⟨h₁, hextras, hh⟩ := Option.bind_eq_some_iff.1 hh
  iterate 3 obtain ⟨_, _, hh⟩ := Option.bind_eq_some_iff.1 hh
  cases hh
  have hnarrow : size < 256 ^ 4 := Bytes.word?_lt hsize
  have hwide : size < wordLimit := Nat.lt_of_lt_of_le hnarrow (by decide)
  have hread : h₁.size < wordLimit := size_lt_of_extras hwide extraBytes hextras
  exact hread

theorem size_lt_of_headersFrom? {data : ByteArray} {place : Place} {count i : Nat}
    {hs : List Header} (hhs : headersFrom? data place count i = some hs) :
    ∀ h ∈ hs, h.size < wordLimit := by
  induction count generalizing i hs with
  | zero =>
    cases hhs
    exact fun h hh => absurd hh List.not_mem_nil
  | succ count ih =>
    simp only [headersFrom?, Option.bind_eq_bind, Option.bind_eq_some_iff] at hhs
    obtain ⟨⟨h, next⟩, hh, rest, hrest, hhs⟩ := hhs
    cases hhs
    exact List.forall_mem_cons.2 ⟨size_lt_of_header? hh, ih hrest⟩

theorem size_lt_of_follow {data : ByteArray} {e : EndRecord} {hs : List Header}
    (hhs : follow data e = .ok (some hs)) : ∀ h ∈ hs, h.size < wordLimit := by
  have hlead (found : Except DirectoryFault Lead)
      (h : (do let lead ← found; return lead.bind (headers? data)) = .ok (some hs)) :
      ∀ h ∈ hs, h.size < wordLimit := by
    obtain ⟨lead, _, h⟩ := exists_of_bind_eq_ok h
    obtain ⟨place, _, h⟩ := Option.bind_eq_some_iff.1 (Except.ok.inj h)
    exact size_lt_of_headersFrom? h
  simp only [follow] at hhs
  split at hhs
  · exact hlead _ hhs
  · exact hlead _ hhs

theorem size_lt_of_search {data : ByteArray} {fuel stop : Nat} {fault : DirectoryFault}
    {hs : List Header} (hhs : search data fuel stop fault = .ok hs) :
    ∀ h ∈ hs, h.size < wordLimit := by
  induction fuel generalizing stop fault with
  | zero => cases hhs
  | succ fuel ih =>
    rw [search] at hhs
    split at hhs
    · cases hhs
    · split at hhs
      · exact ih hhs
      · split at hhs
        · exact ih hhs
        · exact ih hhs
        · rename_i hfollow
          cases hhs
          exact size_lt_of_follow hfollow

theorem size_lt_of_read {data : ByteArray} {hs : List Header} (hhs : read data = .ok hs) :
    ∀ h ∈ hs, h.size < wordLimit :=
  size_lt_of_search hhs

end Directory

end CryptoSurvey
