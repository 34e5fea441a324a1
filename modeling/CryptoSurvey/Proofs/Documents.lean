import CryptoSurvey.Proofs.DocumentText
import CryptoSurvey.Proofs.Failure
import CryptoSurvey.Proofs.HexDigits
import CryptoSurvey.Proofs.Ordered

namespace CryptoSurvey

section Trim

open Text (isBlank trim)

theorem isBlank_of_hexValue? {c : Char} (h : (Json.hexValue? c).isSome = true) :
    isBlank c = false := by
  have hall : ∀ n < 0x80, (Json.hexValue? (Char.ofNat n)).isSome = true →
      isBlank (Char.ofNat n) = false := by decide
  obtain ⟨n, hn⟩ := Option.isSome_iff_exists.1 h
  have hc := hall c.toNat (Hex.lt_of_hexValue? hn).2
  rw [Char.ofNat_toNat] at hc
  exact hc h

theorem toList_trim {before kept after : List Char} (hbefore : ∀ c ∈ before, isBlank c = true)
    (hkept : ∀ c ∈ kept, isBlank c = false) (hafter : ∀ c ∈ after, isBlank c = true) :
    (trim (String.ofList (before ++ (kept ++ after)))).toList = kept := by
  have hself {l : List Char} (hl : ∀ c ∈ l, isBlank c = false) : l.dropWhile isBlank = l := by
    cases l with
    | nil => rfl
    | cons c cs => exact List.dropWhile_cons_of_neg (by simp [hl c List.mem_cons_self])
  have hreverse : ∀ c ∈ after.reverse, isBlank c = true := by
    intro c hc
    exact hafter c (List.mem_reverse.1 hc)
  rw [trim, String.toList_ofList, String.toList_ofList, List.dropWhile_append_of_pos hbefore]
  cases kept with
  | nil =>
    rw [List.nil_append, ← List.append_nil after, List.dropWhile_append_of_pos hafter]
    rfl
  | cons c cs =>
    have hc : ¬isBlank c = true := by simp [hkept c List.mem_cons_self]
    rw [List.cons_append, List.dropWhile_cons_of_neg hc, ← List.cons_append, List.reverse_append,
      List.dropWhile_append_of_pos hreverse, hself, List.reverse_reverse]
    intro c hc
    exact hkept c (List.mem_reverse.1 hc)

end Trim

section Strings

def pairsOf (l : List (String × List Location)) : List (String × Location) :=
  l.flatMap fun e => e.2.map (e.1, ·)

namespace StringTable

theorem ofReferences_eq (l : List (String × List Location)) :
    ofReferences l = (pairsOf l).foldl (fun t p => t.insert p.1 p.2) ∅ := by
  rw [ofReferences, pairsOf, List.foldl_flatMap]
  simp only [List.foldl_map]

theorem mem_getD_insert {t : StringTable} {value key : String} {x location : Location} :
    x ∈ ((t.insert key location).get? value).getD ∅ ↔
      value = key ∧ x = location ∨ x ∈ (t.get? value).getD ∅ := by
  by_cases hkey : value = key
  · rw [hkey, insert, OrderedMap.get?_alter_self, Option.getD_some, OrderedSet.mem_insert]
    simp
  · rw [insert, OrderedMap.get?_alter_of_ne hkey]
    simp [hkey]

theorem isSome_get?_insert {t : StringTable} {value key : String} {location : Location} :
    ((t.insert key location).get? value).isSome = true ↔
      value = key ∨ (t.get? value).isSome = true := by
  by_cases hkey : value = key
  · rw [hkey, insert, OrderedMap.get?_alter_self]
    simp
  · rw [insert, OrderedMap.get?_alter_of_ne hkey]
    simp [hkey]

theorem foldl_insert_spec (ps : List (String × Location)) (t : StringTable) (value : String) :
    (∀ x, x ∈ ((ps.foldl (fun t p => t.insert p.1 p.2) t).get? value).getD ∅ ↔
      (value, x) ∈ ps ∨ x ∈ (t.get? value).getD ∅) ∧
    (((ps.foldl (fun t p => t.insert p.1 p.2) t).get? value).isSome = true ↔
      (∃ x, (value, x) ∈ ps) ∨ (t.get? value).isSome = true) := by
  induction ps generalizing t with
  | nil => simp
  | cons p ps ih =>
    obtain ⟨hmem, hsome⟩ := ih (t.insert p.1 p.2)
    refine ⟨?_, ?_⟩
    · intro x
      rw [List.foldl_cons, hmem, mem_getD_insert, List.mem_cons, Prod.ext_iff]
      exact or_left_comm.trans or_assoc.symm
    · have hfirst : (∃ x, (value, x) ∈ p :: ps) ↔ value = p.1 ∨ ∃ x, (value, x) ∈ ps := by
        simp [List.mem_cons, Prod.ext_iff, exists_or]
      rw [List.foldl_cons, hsome, isSome_get?_insert, hfirst]
      exact or_left_comm.trans or_assoc.symm

/-- A string is in the table if and only if there is a reference to it, and then with all of them. -/
theorem references?_ofReferences {l : List (String × List Location)} {value : String}
    {refs : OrderedSet Location} :
    (ofReferences l).references? value = some refs ↔
      (∃ x, (value, x) ∈ pairsOf l) ∧ ∀ x, x ∈ refs ↔ (value, x) ∈ pairsOf l := by
  obtain ⟨hmem, hsome⟩ := foldl_insert_spec (pairsOf l) ∅ value
  rw [← ofReferences_eq] at hmem hsome
  rw [references?]
  cases hget : (ofReferences l).get? value with
  | none =>
    have hnone : ¬∃ x, (value, x) ∈ pairsOf l := by
      intro hexists
      have hfound := hsome.2 (.inl hexists)
      rw [hget] at hfound
      cases hfound
    simp [hnone]
  | some found =>
    rw [hget] at hmem hsome
    simp only [OrderedMap.get?_empty, Option.getD_some, Option.getD_none, OrderedSet.not_mem_empty,
      Option.isSome_some, Option.isSome_none, Bool.false_eq_true, or_false, true_iff] at hmem hsome
    rw [Option.some_inj]
    constructor
    · rintro rfl
      exact ⟨hsome, hmem⟩
    · rintro ⟨_, hrefs⟩
      apply OrderedSet.ext_mem
      intro x
      rw [hmem, hrefs]

end StringTable

end Strings

namespace Package

/-- What a package is to hold: its classes in order, and the methods that refer to each string. -/
structure Listing where
  name? : Option String
  classes : List CodeClass
  strings : List (String × List Location)
  distinct : (strings.map Prod.fst).Nodup

/-- Code as it is written: two digits of either case for each byte, with blanks around them. -/
inductive SpellsCode : Option String → Option (List UInt8) → Prop
  | none : SpellsCode none none
  | some {before digits after : List Char} {bytes : List UInt8}
      (hbefore : ∀ c ∈ before, Text.isBlank c = true) (hdigits : Hex.Spells digits bytes)
      (hafter : ∀ c ∈ after, Text.isBlank c = true) :
      SpellsCode (some (String.ofList (before ++ (digits ++ after)))) (some bytes)

inductive DescribesMethod : MethodEntry → CodeMethod → Prop
  | mk {name : String} {external : Bool} {code? : Option String} {code : Option (List UInt8)}
      (hcode : SpellsCode code? code) : DescribesMethod ⟨name, external, code?⟩ ⟨name, external, code⟩

inductive DescribesClass : ClassEntry → CodeClass → Prop
  | mk {name : String} {entries : List MethodEntry} {methods : List CodeMethod}
      (hmethods : List.Forall₂ DescribesMethod entries methods) :
      DescribesClass ⟨name, entries⟩ ⟨name, methods⟩

/-- The document describes what is listed. -/
structure Describes (d : Document) (l : Listing) : Prop where
  name : d.name? = l.name?
  classes : List.Forall₂ DescribesClass d.classes l.classes
  strings : d.strings.Perm l.strings

/-- The code of the method, if any, is an even number of digits between blanks. -/
def MethodEntry.Decodable (e : MethodEntry) : Prop :=
  ∀ code, e.code? = some code → Hex.EvenDigits (Text.trim code).toList

section Methods

theorem methodOf_eq_ok (className : String) {e : MethodEntry} {m : CodeMethod}
    (h : DescribesMethod e m) : methodOf className e = .ok m := by
  cases h with
  | mk hcode =>
    cases hcode with
    | none => rfl
    | some hbefore hdigits hafter =>
      -- No digit is a blank, so trimming leaves the digits as they are.
      have hkept := fun c hc => isBlank_of_hexValue? (hdigits.evenDigits.2 c hc)
      have hdecode := Hex.decode_eq_ok_iff.2
        ((toList_trim hbefore hkept hafter).symm ▸ hdigits)
      simp only [methodOf, hdecode]
      rfl

theorem exists_methodOf_eq_ok (className : String) {e : MethodEntry} (h : e.Decodable) :
    ∃ m, methodOf className e = .ok m := by
  cases hcode : e.code? with
  | none => exact ⟨⟨e.name, e.external, none⟩, by simp only [methodOf, hcode]; rfl⟩
  | some code =>
    obtain ⟨bytes, hbytes⟩ := Hex.exists_decode_eq_ok_iff.2 (h code hcode)
    exact ⟨⟨e.name, e.external, some bytes⟩, by simp only [methodOf, hcode, hbytes]; rfl⟩

theorem methodOf_eq_error (className : String) {e : MethodEntry} (h : ¬e.Decodable) :
    ∃ code error, e.code? = some code ∧ Hex.decode (Text.trim code) = .error error ∧
      methodOf className e = .error (.code className e.name error) := by
  simp only [MethodEntry.Decodable, not_forall] at h
  obtain ⟨code, hcode, hdigits⟩ := h
  cases hdecode : Hex.decode (Text.trim code) with
  | ok bytes => exact absurd (Hex.exists_decode_eq_ok_iff.1 ⟨bytes, hdecode⟩) hdigits
  | error error =>
    refine ⟨code, error, hcode, hdecode, ?_⟩
    simp only [methodOf, hcode, hdecode]
    rfl

end Methods

section Classes

theorem mapM_eq_ok_of_forall₂ {α β ε : Type} {f : α → Except ε β} {as : List α} {bs : List β}
    (h : List.Forall₂ (fun a b => f a = .ok b) as bs) : as.mapM f = .ok bs := by
  induction h with
  | nil => rfl
  | cons hab _ ih =>
    rw [List.mapM_cons, hab, ih]
    rfl

theorem classOf_eq_ok {e : ClassEntry} {c : CodeClass} (h : DescribesClass e c) :
    classOf e = .ok c := by
  cases h with
  | @mk name _ _ hmethods =>
    have hmapM := mapM_eq_ok_of_forall₂ (hmethods.imp fun _ _ => methodOf_eq_ok name)
    simp only [classOf, hmapM]
    rfl

theorem exists_classOf_eq_ok {e : ClassEntry} (h : ∀ m ∈ e.methods, m.Decodable) :
    ∃ c, classOf e = .ok c := by
  cases hmapM : e.methods.mapM (methodOf e.name) with
  | error error =>
    obtain ⟨m, hm, herror⟩ := exists_of_mapM_eq_error hmapM
    obtain ⟨m', hm'⟩ := exists_methodOf_eq_ok e.name (h m hm)
    cases hm'.symm.trans herror
  | ok methods => exact ⟨⟨e.name, methods⟩, by simp only [classOf, hmapM]; rfl⟩

/-- In the order of the document, the code of this method is the first that cannot be decoded. -/
inductive FirstUndecodable (d : Document) (c : ClassEntry) (m : MethodEntry) : Prop
  | mk {before after : List ClassEntry} {earlier later : List MethodEntry}
      (hclasses : d.classes = before ++ c :: after) (hmethods : c.methods = earlier ++ m :: later)
      (hbefore : ∀ c' ∈ before, ∀ m' ∈ c'.methods, m'.Decodable)
      (hearlier : ∀ m' ∈ earlier, m'.Decodable) (hm : ¬m.Decodable)

theorem exists_first {α : Type} {P : α → Prop} {l : List α} (h : ∃ a ∈ l, ¬P a) :
    ∃ before a after, l = before ++ a :: after ∧ (∀ b ∈ before, P b) ∧ ¬P a := by
  classical
  have hfind : (l.find? fun a => !decide (P a)).isSome = true := by
    rw [List.find?_isSome]
    obtain ⟨a, ha, hP⟩ := h
    exact ⟨a, ha, by simp [hP]⟩
  obtain ⟨a, ha⟩ := Option.isSome_iff_exists.1 hfind
  obtain ⟨hP, before, after, hl, hbefore⟩ := List.find?_eq_some_iff_append.1 ha
  refine ⟨before, a, after, hl, ?_, by simpa using hP⟩
  intro b hb
  simpa using hbefore b hb

theorem exists_firstUndecodable {d : Document}
    (h : ∃ c ∈ d.classes, ∃ m ∈ c.methods, ¬m.Decodable) : ∃ c m, FirstUndecodable d c m := by
  have hclass : ∃ c ∈ d.classes, ¬∀ m ∈ c.methods, m.Decodable := by
    obtain ⟨c, hc, m, hm, hdecodable⟩ := h
    exact ⟨c, hc, fun hall => hdecodable (hall m hm)⟩
  obtain ⟨before, c, after, hclasses, hbefore, hc⟩ := exists_first hclass
  simp only [not_forall] at hc
  obtain ⟨m, hm, hdecodable⟩ := hc
  obtain ⟨earlier, m, later, hmethods, hearlier, hm⟩ := exists_first ⟨m, hm, hdecodable⟩
  exact ⟨c, m, .mk hclasses hmethods hbefore hearlier hm⟩

theorem ofDocument_eq_error {d : Document} {c : ClassEntry} {m : MethodEntry}
    (h : FirstUndecodable d c m) :
    ∃ code error, m.code? = some code ∧ Hex.decode (Text.trim code) = .error error ∧
      ofDocument d = .error (.code c.name m.name error) := by
  cases h with
  | mk hclasses hmethods hbefore hearlier hm =>
    obtain ⟨code, error, hcode, hdecode, hmethod⟩ := methodOf_eq_error c.name hm
    have hmethods' : c.methods.mapM (methodOf c.name) = .error (.code c.name m.name error) := by
      rw [hmethods]
      exact mapM_eq_error (fun m' hm' => exists_methodOf_eq_ok c.name (hearlier m' hm')) hmethod
    have hclass : classOf c = .error (.code c.name m.name error) := by
      simp only [classOf, hmethods']
      rfl
    have hclasses' : d.classes.mapM classOf = .error (.code c.name m.name error) := by
      rw [hclasses]
      exact mapM_eq_error (fun c' hc' => exists_classOf_eq_ok (hbefore c' hc')) hclass
    refine ⟨code, error, hcode, hdecode, ?_⟩
    simp only [ofDocument, hclasses']
    rfl

end Classes

section Reading

theorem mem_pairsOf {l : List (String × List Location)} {value : String} {x : Location} :
    (value, x) ∈ pairsOf l ↔ ∃ ls, (value, ls) ∈ l ∧ x ∈ ls := by
  simp only [pairsOf, List.mem_flatMap, List.mem_map, Prod.mk.injEq]
  constructor
  · rintro ⟨⟨value, ls⟩, hmem, x, hx, rfl, rfl⟩
    exact ⟨ls, hmem, hx⟩
  · rintro ⟨ls, hmem, hx⟩
    exact ⟨(value, ls), hmem, x, hx, rfl, rfl⟩

/-- The table of a document has the references that are listed, and no string without any. -/
theorem references?_of_describes {d : Document} {l : Listing} (h : Describes d l) {value : String}
    {refs : OrderedSet Location} :
    (StringTable.ofReferences (OrderedMap.ofList d.strings).entries).references? value =
        some refs ↔
      ∃ locations, (value, locations) ∈ l.strings ∧ locations ≠ [] ∧
        ∀ x, x ∈ refs ↔ x ∈ locations := by
  have hkeys : (d.strings.map Prod.fst).Nodup :=
    ((h.strings.map Prod.fst).nodup_iff).2 l.distinct
  have hget (ls : List Location) :
      (OrderedMap.ofList d.strings).get? value = some ls ↔ (value, ls) ∈ l.strings := by
    rw [OrderedMap.get?_ofList hkeys, h.strings.mem_iff]
  have hunique {ls ls' : List Location} (hls : (value, ls) ∈ l.strings)
      (hls' : (value, ls') ∈ l.strings) : ls = ls' := by
    rw [← hget] at hls hls'
    exact Option.some.inj (hls.symm.trans hls')
  -- Each string is listed once, so the references to it are those of its only list.
  have hmem {ls : List Location} (hls : (value, ls) ∈ l.strings) (x : Location) :
      (∃ ls', (value, ls') ∈ l.strings ∧ x ∈ ls') ↔ x ∈ ls := by
    constructor
    · rintro ⟨ls', hls', hx⟩
      exact hunique hls' hls ▸ hx
    · intro hx
      exact ⟨ls, hls, hx⟩
  simp only [StringTable.references?_ofReferences, mem_pairsOf, ← OrderedMap.get?_eq_some_iff, hget]
  constructor
  · rintro ⟨⟨x, ls, hls, hx⟩, hrefs⟩
    exact ⟨ls, hls, List.ne_nil_of_mem hx, fun y => (hrefs y).trans (hmem hls y)⟩
  · rintro ⟨ls, hls, hne, hrefs⟩
    obtain ⟨x, hx⟩ := List.exists_mem_of_ne_nil ls hne
    exact ⟨⟨x, ls, hls, hx⟩, fun y => (hrefs y).trans (hmem hls y).symm⟩

/-- The package holds what is listed. -/
structure Holds (p : Package) (l : Listing) : Prop where
  name : p.name? = l.name?
  classes : p.classes = l.classes
  strings : ∀ value refs, p.strings.references? value = some refs ↔
    ∃ locations, (value, locations) ∈ l.strings ∧ locations ≠ [] ∧
      ∀ x, x ∈ refs ↔ x ∈ locations

theorem exists_ofDocument_eq_ok {d : Document} {l : Listing} (h : Describes d l) :
    ∃ p, ofDocument d = .ok p ∧ Holds p l := by
  have hclasses := mapM_eq_ok_of_forall₂ (h.classes.imp fun _ _ => classOf_eq_ok)
  refine ⟨⟨d.name?, l.classes, .ofReferences (OrderedMap.ofList d.strings).entries⟩, ?_, h.name,
    rfl, fun _ _ => references?_of_describes h⟩
  simp only [ofDocument, hclasses]
  rfl

theorem read_of_writtenAs {text : String} {d : Document} (h : WrittenAs text d) (origin : Path) :
    (∀ p, ofDocument d = .ok p → read text origin = .ok p) ∧
    ∀ e, ofDocument d = .error e →
      read text origin = .error (.badDecompiledCode origin.text e.message) := by
  have hparse : parse text = ofDocument d := by
    simp only [parse, document_of_writtenAs h]
  refine ⟨?_, ?_⟩
  · intro p hp
    simp only [read, hparse, hp]
  · intro e he
    simp only [read, hparse, he]

end Reading

section Rendering

def methodEntry (m : CodeMethod) : MethodEntry :=
  ⟨m.name, m.external, m.code.map Hex.encode⟩

def classEntry (c : CodeClass) : ClassEntry :=
  ⟨c.name, c.methods.map methodEntry⟩

/-- The document of a listing, with its code in lower case. -/
def Listing.document (l : Listing) : Document :=
  ⟨l.name?, l.classes.map classEntry, l.strings⟩

theorem spellsCode_encode (code : Option (List UInt8)) :
    SpellsCode (code.map Hex.encode) code := by
  cases code with
  | none => exact .none
  | some bytes =>
    have hnone : ∀ c ∈ ([] : List Char), Text.isBlank c = true := by simp
    have hspells := SpellsCode.some hnone (Hex.spells_encode bytes) hnone
    rw [List.nil_append, List.append_nil, String.ofList_toList] at hspells
    exact hspells

theorem describes_document (l : Listing) : Describes l.document l where
  name := rfl
  classes := forall₂_map_self
    (fun c => .mk (forall₂_map_self (fun m => .mk (spellsCode_encode m.code)) c.methods)) l.classes
  strings := .refl _

/-- The text is one of those that describe what is listed. -/
def Renders (text : String) (l : Listing) : Prop :=
  ∃ d, WrittenAs text d ∧ Describes d l

theorem exists_renders (l : Listing) : ∃ text, Renders text l :=
  ⟨_, l.document, writtenAs_render (writes_documentJson _), describes_document l⟩

def shuffledMethod : MethodEntry :=
  ⟨"f", false, some " dEAd\n"⟩

/-- Digits of both cases, with blanks around them, and strings that are referred to twice or never. -/
def shuffledDocument : Document :=
  ⟨none, [⟨"La;", [shuffledMethod]⟩], [("AES", [⟨"La;", "f"⟩, ⟨"La;", "f"⟩]), ("", [])]⟩

def shuffledMethodJson : Json :=
  .object [("code", .text " dEAd\n"), ("name", .text "f")]

def shuffledJson : Json :=
  .object
    [("strings", .object (shuffledDocument.strings.map referencesJson)),
     ("classes", .list [.object [("methods", .list [shuffledMethodJson]), ("name", .text "La;")]])]

def shuffledListing : Listing where
  name? := none
  classes := [⟨"La;", [⟨"f", false, some [0xDE, 0xAD]⟩]⟩]
  strings := [("", []), ("AES", [⟨"La;", "f"⟩, ⟨"La;", "f"⟩])]
  distinct := by decide

/-- The second and the third method have code that cannot be decoded. -/
def brokenDocument : Document :=
  ⟨none, [⟨"La;", [⟨"f", true, none⟩, ⟨"g", false, some "0x"⟩, ⟨"h", false, some "0"⟩]⟩], []⟩

theorem writes_shuffledJson : WritesDocument shuffledJson shuffledDocument := by
  have hmethod : WritesMethod shuffledMethodJson shuffledMethod := by
    refine .mk ⟨by simp, ?_, ?_⟩
    · simpa using ⟨.code, .name⟩
    · rintro k (_ | hexternal | _)
      · simp
      · cases hexternal
      · simp
  have hclass : WritesClass (.object [("methods", .list [shuffledMethodJson]), ("name", .text "La;")])
      ⟨"La;", [shuffledMethod]⟩ := by
    refine .mk ⟨by simp, ?_, ?_⟩
    · simpa using ⟨.methods (.cons hmethod .nil), .name⟩
    · rintro k (_ | _) <;> simp
  have hstrings := forall₂_map_self writes_referencesJson shuffledDocument.strings
  refine .mk ⟨by simp, ?_, ?_⟩
  · simpa using ⟨.strings hstrings, .classes (.cons hclass .nil)⟩
  · rintro k (hname | _ | _)
    · exact absurd rfl hname
    · simp
    · simp

theorem renders_shuffledJson : Renders shuffledJson.render shuffledListing := by
  have hblank : ∀ c ∈ [' '], Text.isBlank c = true := List.forall_mem_singleton.2 rfl
  have hnewline : ∀ c ∈ ['\n'], Text.isBlank c = true := List.forall_mem_singleton.2 rfl
  have hdigits : Hex.Spells ['d', 'E', 'A', 'd'] [0xDE, 0xAD] :=
    .cons rfl rfl (.cons rfl rfl .nil)
  have hcode := SpellsCode.some hblank hdigits hnewline
  exact ⟨_, writtenAs_render writes_shuffledJson, rfl, .cons (.mk (.cons (.mk hcode) .nil)) .nil,
    .swap _ _ _⟩

theorem exists_undecodable_brokenDocument :
    ∃ c ∈ brokenDocument.classes, ∃ m ∈ c.methods, ¬m.Decodable := by
  refine ⟨_, List.mem_cons_self, _, List.mem_cons_of_mem _ List.mem_cons_self, ?_⟩
  intro h
  have hdigits := (h "0x" rfl).2 'x' (by decide +kernel)
  cases hdigits

/-- Each text of a listing is read as a package that holds it. A text with code that cannot be decoded
is refused, and the message names the first method that has such code. -/
theorem read_rendered (origin : Path) :
    (∀ l : Listing, (∃ text, Renders text l) ∧
      ∀ text, Renders text l → ∃ p, read text origin = .ok p ∧ Holds p l) ∧
    ∀ text d, WrittenAs text d → (∃ c ∈ d.classes, ∃ m ∈ c.methods, ¬m.Decodable) →
      ∃ c m code error, FirstUndecodable d c m ∧ m.code? = some code ∧
        Hex.decode (Text.trim code) = .error error ∧
        read text origin =
          .error (.badDecompiledCode origin.text (s!"{c.name}->{m.name}: " ++ error.message)) := by
  refine ⟨?_, ?_⟩
  · intro l
    refine ⟨exists_renders l, ?_⟩
    rintro text ⟨d, hwritten, hdescribes⟩
    obtain ⟨p, hp, hholds⟩ := exists_ofDocument_eq_ok hdescribes
    exact ⟨p, (read_of_writtenAs hwritten origin).1 p hp, hholds⟩
  · intro text d hwritten hundecodable
    obtain ⟨c, m, hfirst⟩ := exists_firstUndecodable hundecodable
    obtain ⟨code, error, hcode, hdecode, herror⟩ := ofDocument_eq_error hfirst
    exact ⟨c, m, code, error, hfirst, hcode, hdecode,
      (read_of_writtenAs hwritten origin).2 _ herror⟩

theorem read_rendered_shuffled :
    (Renders shuffledJson.render shuffledListing ∧
      ∃ p, read shuffledJson.render ⟨"app.json"⟩ = .ok p ∧ Holds p shuffledListing) ∧
    (∃ c ∈ brokenDocument.classes, ∃ m ∈ c.methods, ¬m.Decodable) ∧
      ∃ c m code error, FirstUndecodable brokenDocument c m ∧ m.code? = some code ∧
        Hex.decode (Text.trim code) = .error error ∧
        read (documentJson brokenDocument).render ⟨"app.json"⟩ =
          .error (.badDecompiledCode "app.json" (s!"{c.name}->{m.name}: " ++ error.message)) := by
  obtain ⟨hread, hrefused⟩ := read_rendered ⟨"app.json"⟩
  refine ⟨⟨renders_shuffledJson, (hread _).2 _ renders_shuffledJson⟩,
    exists_undecodable_brokenDocument, ?_⟩
  exact hrefused _ _ (writtenAs_render (writes_documentJson _)) exists_undecodable_brokenDocument

end Rendering

end Package

end CryptoSurvey
