import CryptoSurvey.Proofs.Documents
import CryptoSurvey.Proofs.Lowering
import CryptoSurvey.Rules.RuleSet

namespace CryptoSurvey

namespace Text

/-- The text is the other with blanks put anywhere into it. -/
inductive Spaced : List Char → List Char → Prop
  | nil : Spaced [] []
  | blank {c : Char} {cs ds : List Char} (hc : isBlank c = true) (h : Spaced cs ds) :
      Spaced (c :: cs) ds
  | keep {c : Char} {cs ds : List Char} (h : Spaced cs ds) : Spaced (c :: cs) (c :: ds)

def solid (cs : List Char) : List Char :=
  cs.filter fun c => !isBlank c

theorem solid_of_forall {cs : List Char} (h : ∀ c ∈ cs, isBlank c = false) : solid cs = cs := by
  refine List.filter_eq_self.2 ?_
  intro c hc
  rw [h c hc]
  rfl

theorem Spaced.solid_eq {cs ds : List Char} (h : Spaced cs ds)
    (hds : ∀ c ∈ ds, isBlank c = false) : solid cs = ds := by
  induction h with
  | nil => rfl
  | blank hc _ ih =>
    rw [solid, List.filter_cons_of_neg (by simp [hc])]
    exact ih hds
  | keep _ ih =>
    rw [List.forall_mem_cons] at hds
    rw [solid, List.filter_cons_of_pos (by simp [hds.1])]
    exact congrArg _ (ih hds.2)

theorem solid_dropWhile (cs : List Char) : solid (cs.dropWhile isBlank) = solid cs := by
  induction cs with
  | nil => rfl
  | cons c cs ih =>
    cases hc : isBlank c with
    | false => rw [List.dropWhile_cons_of_neg (by simp [hc])]
    | true =>
      rw [List.dropWhile_cons_of_pos hc, ih, solid, solid, List.filter_cons_of_neg (by simp [hc])]

theorem solid_reverse (cs : List Char) : solid cs.reverse = (solid cs).reverse :=
  List.filter_reverse

theorem solid_trim (s : String) : solid (trim s).toList = solid s.toList := by
  rw [trim, String.toList_ofList, solid_reverse, solid_dropWhile, solid_reverse,
    List.reverse_reverse, solid_dropWhile]

end Text

namespace Hex

open Json (hexValue?)

variable {c : Char} {ds es : List Char} {bytes : List UInt8}

theorem hexValue?_of_le (h : 0x80 ≤ c.toNat) : hexValue? c = none := by
  rw [Option.eq_none_iff_forall_ne_some]
  intro n hn
  exact absurd (lt_of_hexValue? hn).2 (Nat.not_lt.2 h)

theorem hexValue?_toLower (c : Char) : hexValue? c.toLower = hexValue? c := by
  have hall : ∀ n < 0x80, hexValue? (Char.ofNat n).toLower = hexValue? (Char.ofNat n) := by decide
  rcases Nat.lt_or_ge c.toNat 0x80 with hlt | hge
  · have hc := hall c.toNat hlt
    rwa [Char.ofNat_toNat] at hc
  · have hge' : 0x80 ≤ c.toLower.toNat :=
      Nat.not_lt.1 (mt Text.toNat_toLower_lt_iff.1 (Nat.not_lt.2 hge))
    rw [hexValue?_of_le hge, hexValue?_of_le hge']

theorem Spells.of_values (hs : Spells es bytes) (h : ds.map hexValue? = es.map hexValue?) :
    Spells ds bytes := by
  induction hs generalizing ds with
  | nil =>
    cases List.map_eq_nil_iff.1 h
    exact .nil
  | cons hhigh hlow _ ih =>
    obtain ⟨high, ds, rfl, hhigh', h⟩ := List.map_eq_cons_iff.1 h
    obtain ⟨low, ds, rfl, hlow', h⟩ := List.map_eq_cons_iff.1 h
    exact .cons (hhigh'.trans hhigh) (hlow'.trans hlow) (ih h)

theorem spells_of_eqUpToCase {digits : String} (h : Text.EqUpToCase digits (encode bytes)) :
    Spells digits.toList bytes := by
  have hvalues (s : String) : s.toList.map hexValue? = (s.toList.map Char.toLower).map hexValue? := by
    rw [List.map_map]
    exact List.map_congr_left fun c _ => (hexValue?_toLower c).symm
  refine (spells_encode bytes).of_values ?_
  rw [hvalues digits, h, ← hvalues]

end Hex

theorem Constant.read_eq_ok_iff {name s : String} {c : Constant} :
    Constant.read name s = .ok c ↔ c.name = name ∧ Hex.Spells (Text.solid s.toList) c.bytes := by
  have hsolid : (Text.removeBlanks s).toList = Text.solid s.toList := String.toList_ofList
  have hspells : Hex.decode (Text.removeBlanks s) = .ok c.bytes ↔
      Hex.Spells (Text.solid s.toList) c.bytes := hsolid ▸ Hex.decode_eq_ok_iff
  unfold Constant.read Constant.ofHex
  rw [← hspells]
  cases Hex.decode (Text.removeBlanks s) with
  | error e =>
    refine iff_of_false ?_ ?_
    · rintro ⟨⟩
    · rintro ⟨_, ⟨⟩⟩
  | ok bytes =>
    constructor
    · rintro ⟨⟩
      exact ⟨rfl, rfl⟩
    · obtain ⟨_, _⟩ := c
      rintro ⟨rfl, ⟨⟩⟩
      rfl

/-- A method is taken from a document with the bytes that its code spells between blanks. -/
theorem Package.exists_spells_of_methodOf {className : String} {entry : MethodEntry}
    {method : CodeMethod} {s : String} (hcode : entry.code? = some s)
    (h : methodOf className entry = .ok method) :
    ∃ bytes, method.code = some bytes ∧ Hex.Spells (Text.trim s).toList bytes := by
  rw [methodOf, hcode] at h
  cases hdecode : Hex.decode (Text.trim s) with
  | error e =>
    simp only [hdecode] at h
    cases h
  | ok bytes =>
    simp only [hdecode] at h
    cases h
    exact ⟨bytes, rfl, Hex.decode_eq_ok_iff.1 hdecode⟩

/-- A constant is read from a text if and only if an even number of digits is left of it without its
blanks; it has the given name and the bytes that they spell. So every text of bytes, with any mix of
cases and blanks anywhere, gives these bytes, and code that a document may have for a method gives the
same bytes as it does there. -/
theorem Constant.read_exact_digits (name : String) :
    (∀ s, (∃ c, Constant.read name s = .ok c) ↔ Hex.EvenDigits (Text.solid s.toList)) ∧
    (∀ s c, Constant.read name s = .ok c ↔
      c.name = name ∧ Hex.Spells (Text.solid s.toList) c.bytes) ∧
    (∀ bytes digits s, Text.EqUpToCase digits (Hex.encode bytes) →
      Text.Spaced s.toList digits.toList → Constant.read name s = .ok ⟨name, bytes⟩) ∧
    ∀ className (entry : Package.MethodEntry) method s, entry.code? = some s →
      Package.methodOf className entry = .ok method →
      ∃ bytes, method.code = some bytes ∧ Constant.read name s = .ok ⟨name, bytes⟩ := by
  have hblank {ds : List Char} {bytes : List UInt8} (h : Hex.Spells ds bytes) :
      ∀ c ∈ ds, Text.isBlank c = false :=
    fun c hc => isBlank_of_hexValue? (h.evenDigits.2 c hc)
  refine ⟨?_, fun s c => Constant.read_eq_ok_iff, ?_, ?_⟩
  · intro s
    constructor
    · rintro ⟨c, hc⟩
      exact (Constant.read_eq_ok_iff.1 hc).2.evenDigits
    · intro h
      obtain ⟨bytes, hbytes⟩ := h.exists_spells
      exact ⟨⟨name, bytes⟩, Constant.read_eq_ok_iff.2 ⟨rfl, hbytes⟩⟩
  · intro bytes digits s hcase hspaced
    have hspells := Hex.spells_of_eqUpToCase hcase
    refine Constant.read_eq_ok_iff.2 ⟨rfl, ?_⟩
    rw [hspaced.solid_eq (hblank hspells)]
    exact hspells
  · intro className entry method s hcode h
    obtain ⟨bytes, hbytes, hspells⟩ := Package.exists_spells_of_methodOf hcode h
    refine ⟨bytes, hbytes, Constant.read_eq_ok_iff.2 ⟨rfl, ?_⟩⟩
    -- no digit is a blank, so what trimming leaves is all that is left without blanks
    rw [← Text.solid_trim, Text.solid_of_forall (hblank hspells)]
    exact hspells

/-- Digits of both cases with blanks between and inside bytes, and code with blanks around it. -/
theorem Constant.read_exact_digits_mixed :
    Constant.read "sm4_fk" "a3 B\u3000a\n" = .ok ⟨"sm4_fk", [0xA3, 0xBA]⟩ ∧
      Package.methodOf "Net" ⟨"run", false, some "\tdEAd "⟩ =
        .ok ⟨"run", false, some [0xDE, 0xAD]⟩ ∧
      Constant.read "sm4_fk" "\tdEAd " = .ok ⟨"sm4_fk", [0xDE, 0xAD]⟩ := by
  obtain ⟨_, _, hrendered, hcode⟩ := read_exact_digits "sm4_fk"
  have hspaced : Text.Spaced "a3 B\u3000a\n".toList "a3Ba".toList :=
    .keep (.keep (.blank rfl (.keep (.blank rfl (.keep (.blank rfl .nil))))))
  have hmethod : Package.methodOf "Net" ⟨"run", false, some "\tdEAd "⟩ =
      .ok ⟨"run", false, some [0xDE, 0xAD]⟩ := rfl
  obtain ⟨_, ⟨⟩, hread⟩ := hcode _ _ _ _ rfl hmethod
  exact ⟨hrendered [0xA3, 0xBA] "a3Ba" _ (by decide +kernel) hspaced, hmethod, hread⟩

end CryptoSurvey
