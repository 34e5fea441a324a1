import CryptoSurvey.Package.Document
import CryptoSurvey.Proofs.JsonRecords

namespace CryptoSurvey.Package

open Json (Presents Reads)

section Format

inductive LocationMember (l : Location) : String → Json → Prop
  | className : LocationMember l "class" (.text l.className)
  | method : LocationMember l "method" (.text l.method)

inductive WritesLocation : Json → Location → Prop
  | mk {ms : List (String × Json)} {l : Location}
      (h : Presents (LocationMember l) (fun k => k = "class" ∨ k = "method") ms) :
      WritesLocation (.object ms) l

inductive MethodMember (e : MethodEntry) : String → Json → Prop
  | name : MethodMember e "name" (.text e.name)
  | external : MethodMember e "external" (.boolean e.external)
  | code : MethodMember e "code" (.ofText? e.code?)

inductive MethodNeeds (e : MethodEntry) : String → Prop
  | name : MethodNeeds e "name"
  | external (h : e.external = true) : MethodNeeds e "external"
  | code (h : e.code? ≠ none) : MethodNeeds e "code"

inductive WritesMethod : Json → MethodEntry → Prop
  | mk {ms : List (String × Json)} {e : MethodEntry}
      (h : Presents (MethodMember e) (MethodNeeds e) ms) : WritesMethod (.object ms) e

inductive ClassMember (e : ClassEntry) : String → Json → Prop
  | name : ClassMember e "name" (.text e.name)
  | methods {vs : List Json} (h : List.Forall₂ WritesMethod vs e.methods) :
      ClassMember e "methods" (.list vs)

inductive ClassNeeds (e : ClassEntry) : String → Prop
  | name : ClassNeeds e "name"
  | methods (h : e.methods ≠ []) : ClassNeeds e "methods"

inductive WritesClass : Json → ClassEntry → Prop
  | mk {ms : List (String × Json)} {e : ClassEntry}
      (h : Presents (ClassMember e) (ClassNeeds e) ms) : WritesClass (.object ms) e

inductive WritesReferences : String × Json → String × List Location → Prop
  | mk {value : String} {vs : List Json} {ls : List Location}
      (h : List.Forall₂ WritesLocation vs ls) : WritesReferences (value, .list vs) (value, ls)

inductive DocumentMember (d : Document) : String → Json → Prop
  | package : DocumentMember d "package" (.ofText? d.name?)
  | classes {vs : List Json} (h : List.Forall₂ WritesClass vs d.classes) :
      DocumentMember d "classes" (.list vs)
  | strings {vs : List (String × Json)} (h : List.Forall₂ WritesReferences vs d.strings) :
      DocumentMember d "strings" (.object vs)

inductive DocumentNeeds (d : Document) : String → Prop
  | package (h : d.name? ≠ none) : DocumentNeeds d "package"
  | classes (h : d.classes ≠ []) : DocumentNeeds d "classes"
  | strings (h : d.strings ≠ []) : DocumentNeeds d "strings"

inductive WritesDocument : Json → Document → Prop
  | mk {ms : List (String × Json)} {d : Document}
      (h : Presents (DocumentMember d) (DocumentNeeds d) ms) : WritesDocument (.object ms) d

/-- The text is one of those that a document is written as. -/
def WrittenAs (text : String) (d : Document) : Prop :=
  ∃ v, WritesDocument v d ∧ Json.SpellsDocument text v

end Format

section Writing

def locationJson (l : Location) : Json :=
  .object [("class", .text l.className), ("method", .text l.method)]

def methodJson (e : MethodEntry) : Json :=
  .object [("name", .text e.name), ("external", .boolean e.external), ("code", .ofText? e.code?)]

def classJson (e : ClassEntry) : Json :=
  .object [("name", .text e.name), ("methods", .list (e.methods.map methodJson))]

def referencesJson (m : String × List Location) : String × Json :=
  (m.1, .list (m.2.map locationJson))

def documentJson (d : Document) : Json :=
  .object [("package", .ofText? d.name?), ("classes", .list (d.classes.map classJson)),
    ("strings", .object (d.strings.map referencesJson))]

theorem forall₂_map_self {α β : Type} {R : β → α → Prop} {f : α → β} (h : ∀ a, R (f a) a)
    (l : List α) : List.Forall₂ R (l.map f) l := by
  rw [List.forall₂_map_left_iff, List.forall₂_same]
  exact fun a _ => h a

theorem writes_locationJson (l : Location) : WritesLocation (locationJson l) l := by
  refine .mk ⟨by simp, ?_, ?_⟩
  · simpa using ⟨.className, .method⟩
  · rintro k (rfl | rfl) <;> simp

theorem writes_methodJson (e : MethodEntry) : WritesMethod (methodJson e) e := by
  refine .mk ⟨by simp, ?_, ?_⟩
  · simpa using ⟨.name, .external, .code⟩
  · rintro k (_ | _ | _) <;> simp

theorem writes_classJson (e : ClassEntry) : WritesClass (classJson e) e := by
  have hmethods := forall₂_map_self writes_methodJson e.methods
  refine .mk ⟨by simp, ?_, ?_⟩
  · simpa using ⟨.name, .methods hmethods⟩
  · rintro k (_ | _) <;> simp

theorem writes_referencesJson (m : String × List Location) :
    WritesReferences (referencesJson m) m :=
  .mk (forall₂_map_self writes_locationJson m.2)

theorem writes_documentJson (d : Document) : WritesDocument (documentJson d) d := by
  have hclasses := forall₂_map_self writes_classJson d.classes
  have hstrings := forall₂_map_self writes_referencesJson d.strings
  refine .mk ⟨by simp, ?_, ?_⟩
  · simpa using ⟨.package, .classes hclasses, .strings hstrings⟩
  · rintro k (_ | _ | _) <;> simp

theorem writtenAs_render {v : Json} {d : Document} (h : WritesDocument v d) :
    WrittenAs v.render d :=
  ⟨v, h, Json.spellsDocument_render v⟩

end Writing

section Reading

-- A draft holds the fields whose keys have been seen.

def locationDraft (l : Location) (seen : String → Bool) : LocationDraft where
  className? := if seen "class" then some l.className else none
  method? := if seen "method" then some l.method else none

def methodDraft (e : MethodEntry) (seen : String → Bool) : MethodDraft where
  name? := if seen "name" then some e.name else none
  external? := if seen "external" then some e.external else none
  code? := if seen "code" then some e.code? else none

def classDraft (e : ClassEntry) (seen : String → Bool) : ClassDraft where
  name? := if seen "name" then some e.name else none
  methods? := if seen "methods" then some e.methods else none

def documentDraft (d : Document) (seen : String → Bool) : DocumentDraft where
  name? := if seen "package" then some d.name? else none
  classes? := if seen "classes" then some d.classes else none
  strings? := if seen "strings" then some d.strings else none

theorem getD_draft {α : Type} {a default : α} {seen : Bool} (h : a ≠ default → seen = true) :
    (if seen then some a else none).getD default = a := by
  cases seen with
  | true => rfl
  | false =>
    by_cases ha : a = default
    · exact ha.symm
    · cases h ha

theorem collects_location (l : Location) :
    locationShape.Collects (LocationMember l) (locationDraft l) where
  start := rfl
  step := by
    intro k v hk seen hseen
    cases hk with
    | className =>
      apply Json.Shape.takes_field rfl (Json.reads_text l.className)
      · simp [locationDraft, hseen]
      · simp [locationDraft]
    | method =>
      apply Json.Shape.takes_field rfl (Json.reads_text l.method)
      · simp [locationDraft, hseen]
      · simp [locationDraft]

theorem reads_location {v : Json} {l : Location} (h : WritesLocation v l) :
    Reads locationShape.reader v l := by
  cases h with
  | mk h =>
    apply (collects_location l).reads h
    intro seen hneeds
    have hclass : (locationDraft l seen).className? = some l.className :=
      if_pos (hneeds "class" (.inl rfl))
    have hmethod : (locationDraft l seen).method? = some l.method :=
      if_pos (hneeds "method" (.inr rfl))
    simp only [locationShape, hclass, hmethod]
    rfl

theorem collects_method (e : MethodEntry) :
    methodShape.Collects (MethodMember e) (methodDraft e) where
  start := rfl
  step := by
    intro k v hk seen hseen
    cases hk with
    | name =>
      apply Json.Shape.takes_field rfl (Json.reads_text e.name)
      · simp [methodDraft, hseen]
      · simp [methodDraft]
    | external =>
      apply Json.Shape.takes_field rfl (Json.reads_boolean e.external)
      · simp [methodDraft, hseen]
      · simp [methodDraft]
    | code =>
      apply Json.Shape.takes_field rfl (Json.reads_optionalText e.code?)
      · simp [methodDraft, hseen]
      · simp [methodDraft]

theorem reads_method {v : Json} {e : MethodEntry} (h : WritesMethod v e) :
    Reads methodShape.reader v e := by
  cases h with
  | mk h =>
    apply (collects_method e).reads h
    intro seen hneeds
    have hname : (methodDraft e seen).name? = some e.name := if_pos (hneeds "name" .name)
    have hexternal : (methodDraft e seen).external?.getD false = e.external := by
      apply getD_draft
      intro hne
      exact hneeds "external" (.external (eq_true_of_ne_false hne))
    have hcode : (methodDraft e seen).code?.getD none = e.code? := by
      apply getD_draft
      intro hne
      exact hneeds "code" (.code hne)
    simp only [methodShape, hname, hexternal, hcode]
    rfl

theorem collects_class (e : ClassEntry) :
    classShape.Collects (ClassMember e) (classDraft e) where
  start := rfl
  step := by
    intro k v hk seen hseen
    cases hk with
    | name =>
      apply Json.Shape.takes_field rfl (Json.reads_text e.name)
      · simp [classDraft, hseen]
      · simp [classDraft]
    | methods hvs =>
      apply Json.Shape.takes_field rfl (Json.reads_items (hvs.imp fun _ _ => reads_method))
      · simp [classDraft, hseen]
      · simp [classDraft]

theorem reads_class {v : Json} {e : ClassEntry} (h : WritesClass v e) :
    Reads classShape.reader v e := by
  cases h with
  | mk h =>
    apply (collects_class e).reads h
    intro seen hneeds
    have hname : (classDraft e seen).name? = some e.name := if_pos (hneeds "name" .name)
    have hmethods : (classDraft e seen).methods?.getD [] = e.methods := by
      apply getD_draft
      intro hne
      exact hneeds "methods" (.methods hne)
    simp only [classShape, hname, hmethods]
    rfl

theorem reads_references {v : String × Json} {m : String × List Location}
    (h : WritesReferences v m) :
    v.1 = m.1 ∧ Reads (Json.Reader.list locationShape.reader) v.2 m.2 := by
  cases h with
  | mk hvs => exact ⟨rfl, Json.reads_items (hvs.imp fun _ _ => reads_location)⟩

theorem collects_document (d : Document) :
    documentShape.Collects (DocumentMember d) (documentDraft d) where
  start := rfl
  step := by
    intro k v hk seen hseen
    cases hk with
    | package =>
      apply Json.Shape.takes_field rfl (Json.reads_optionalText d.name?)
      · simp [documentDraft, hseen]
      · simp [documentDraft]
    | classes hvs =>
      apply Json.Shape.takes_field rfl (Json.reads_items (hvs.imp fun _ _ => reads_class))
      · simp [documentDraft, hseen]
      · simp [documentDraft]
    | strings hvs =>
      apply Json.Shape.takes_field rfl (Json.reads_map (hvs.imp fun _ _ => reads_references))
      · simp [documentDraft, hseen]
      · simp [documentDraft]

theorem reads_document {v : Json} {d : Document} (h : WritesDocument v d) :
    Reads documentShape.reader v d := by
  cases h with
  | mk h =>
    apply (collects_document d).reads h
    intro seen hneeds
    have hname : (documentDraft d seen).name?.getD none = d.name? := by
      apply getD_draft
      intro hne
      exact hneeds "package" (.package hne)
    have hclasses : (documentDraft d seen).classes?.getD [] = d.classes := by
      apply getD_draft
      intro hne
      exact hneeds "classes" (.classes hne)
    have hstrings : (documentDraft d seen).strings?.getD [] = d.strings := by
      apply getD_draft
      intro hne
      exact hneeds "strings" (.strings hne)
    simp only [documentShape, hname, hclasses, hstrings]

theorem document_of_writtenAs {text : String} {d : Document} (h : WrittenAs text d) :
    Json.document documentShape.reader text = .ok d := by
  obtain ⟨v, hv, htext⟩ := h
  exact (reads_document hv).document_of_spells htext

end Reading

end CryptoSurvey.Package
