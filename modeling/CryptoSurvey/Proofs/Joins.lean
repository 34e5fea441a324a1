import CryptoSurvey.Proofs.Records
import Mathlib.Order.Lattice

namespace CryptoSurvey

namespace MethodRecord

/-- The second record shows all that the first does, and takes the method for external only if the
first does. -/
structure Within (r q : MethodRecord) : Prop where
  evidence : ∀ e ∈ r.evidence, e ∈ q.evidence
  external : q.external = true → r.external = true

theorem Within.refl (r : MethodRecord) : r.Within r :=
  ⟨fun _ he => he, id⟩

theorem Within.trans {r q s : MethodRecord} (h : r.Within q) (h' : q.Within s) : r.Within s :=
  ⟨fun e he => h'.evidence e (h.evidence e he), fun hs => h.external (h'.external hs)⟩

theorem within_merge_left (r q : MethodRecord) : r.Within (r.merge q) where
  evidence _ he := OrderedSet.mem_union.2 (.inl he)
  external h := (Bool.and_eq_true_iff.1 h).1

theorem within_merge_right (r q : MethodRecord) : q.Within (r.merge q) where
  evidence _ he := OrderedSet.mem_union.2 (.inr he)
  external h := (Bool.and_eq_true_iff.1 h).2

theorem Within.merge {r q s : MethodRecord} (hr : r.Within s) (hq : q.Within s) :
    (r.merge q).Within s where
  evidence e he := by
    rcases OrderedSet.mem_union.1 he with he | he
    · exact hr.evidence e he
    · exact hq.evidence e he
  external h := Bool.and_eq_true_iff.2 ⟨hr.external h, hq.external h⟩

theorem Within.antisymm {r q : MethodRecord} (h : r.Within q) (h' : q.Within r)
    (hname : r.name = q.name) (hclass : r.className = q.className)
    (hprimary : r.primary? = q.primary?) : r = q := by
  have hevidence : r.evidence = q.evidence :=
    OrderedSet.ext_mem fun e => ⟨h.evidence e, h'.evidence e⟩
  have hexternal : r.external = q.external := Bool.eq_iff_iff.2 ⟨h'.external, h.external⟩
  rw [MethodRecord.mk.injEq]
  exact ⟨hclass, hname, hexternal, hevidence, hprimary⟩

end MethodRecord

namespace ClassRecord

/-- The records of a class that creating, adding and merging build. A method may be added without
evidence. -/
inductive Collected (name : String) : ClassRecord → Prop
  | new : Collected name { name }
  | add {c : ClassRecord} (h : Collected name c) (e : Evidence) : Collected name (c.add e)
  | addToMethod {c : ClassRecord} (h : Collected name c) (m : String) (external : Bool)
      (es : List Evidence) : Collected name (c.addToMethod m external es)
  | merge {c d : ClassRecord} (hc : Collected name c) (hd : Collected name d) :
      Collected name (c.merge d)

section Collected

variable {name : String} {c d : ClassRecord}

theorem Collected.name_eq (h : Collected name c) : c.name = name := by
  induction h with
  | new => rfl
  | add _ _ ih => exact ih
  | addToMethod _ _ _ _ ih => exact ih
  | merge _ _ ihc _ => exact ihc

theorem Collected.wellFiled (h : Collected name c) : c.WellFiled := by
  induction h with
  | new =>
    intro m r hr
    cases hr
  | add _ _ ih => exact ih
  | addToMethod _ m external es ih => exact ih.addToMethod m external es
  | merge hc hd ihc ihd => exact ihc.merge ihd (hd.name_eq.trans hc.name_eq.symm)

theorem Collected.unlabelled (h : Collected name c) : c.Unlabelled := by
  induction h with
  | new =>
    refine ⟨rfl, ?_⟩
    intro m r hr
    cases hr
  | add _ _ ih => exact ih
  | addToMethod _ m external es ih => exact ih.addToMethod m external es
  | merge _ _ ihc ihd => exact ihc.merge ihd

theorem Collected.eq_of_within (hc : Collected name c) (hd : Collected name d) {m : String}
    {r q : MethodRecord} (hr : c.methods.get? m = some r) (hq : d.methods.get? m = some q)
    (h : r.Within q) (h' : q.Within r) : r = q := by
  obtain ⟨hrname, hrclass⟩ := hc.wellFiled m r hr
  obtain ⟨hqname, hqclass⟩ := hd.wellFiled m q hq
  apply h.antisymm h'
  · rw [hrname, hqname]
  · rw [hrclass, hqclass, hc.name_eq, hd.name_eq]
  · rw [hc.unlabelled.2 m r hr, hd.unlabelled.2 m q hq]

end Collected

/-- The second record shows all that the first does, in the class and in every method, and takes no
method for external that the first does not. -/
structure Within (c d : ClassRecord) : Prop where
  evidence : ∀ e ∈ c.evidence, e ∈ d.evidence
  methods : ∀ m r, c.methods.get? m = some r → ∃ q, d.methods.get? m = some q ∧ r.Within q

section Within

variable {b c d : ClassRecord}

theorem Within.refl (c : ClassRecord) : c.Within c :=
  ⟨fun _ he => he, fun _ r hr => ⟨r, hr, .refl r⟩⟩

theorem Within.trans (h : b.Within c) (h' : c.Within d) : b.Within d where
  evidence e he := h'.evidence e (h.evidence e he)
  methods m r hr := by
    obtain ⟨q, hq, hrq⟩ := h.methods m r hr
    obtain ⟨s, hs, hqs⟩ := h'.methods m q hq
    exact ⟨s, hs, hrq.trans hqs⟩

theorem within_merge_left (c d : ClassRecord) : c.Within (c.merge d) where
  evidence _ he := mem_evidence_merge.2 (.inl he)
  methods m r hr := by
    rw [get?_merge, hr]
    cases d.methods.get? m with
    | none => exact ⟨r, rfl, .refl r⟩
    | some q => exact ⟨r.merge q, rfl, r.within_merge_left q⟩

theorem within_merge_right (c d : ClassRecord) : d.Within (c.merge d) where
  evidence _ he := mem_evidence_merge.2 (.inr he)
  methods m r hr := by
    rw [get?_merge, hr]
    cases c.methods.get? m with
    | none => exact ⟨r, rfl, .refl r⟩
    | some q => exact ⟨q.merge r, rfl, q.within_merge_right r⟩

theorem Within.merge (hc : c.Within b) (hd : d.Within b) : (c.merge d).Within b where
  evidence e he := by
    rcases mem_evidence_merge.1 he with he | he
    · exact hc.evidence e he
    · exact hd.evidence e he
  methods m r hr := by
    rw [get?_merge] at hr
    cases hcm : c.methods.get? m with
    | none =>
      rw [hcm, Option.merge_none_left] at hr
      exact hd.methods m r hr
    | some q =>
      cases hdm : d.methods.get? m with
      | none =>
        rw [hcm, hdm, Option.merge_none_right] at hr
        exact hc.methods m r (hcm.trans hr)
      | some s =>
        rw [hcm, hdm, Option.merge_some_some, Option.some.injEq] at hr
        obtain ⟨t, ht, hqt⟩ := hc.methods m q hcm
        obtain ⟨t', ht', hst⟩ := hd.methods m s hdm
        rw [ht, Option.some.injEq] at ht'
        subst hr ht'
        exact ⟨t, ht, hqt.merge hst⟩

theorem Collected.antisymm {name : String} (hc : Collected name c) (hd : Collected name d)
    (h : c.Within d) (h' : d.Within c) : c = d := by
  have hmethods : c.methods = d.methods := by
    apply OrderedMap.ext_get?
    intro m
    cases hcm : c.methods.get? m with
    | none =>
      cases hdm : d.methods.get? m with
      | none => rfl
      | some q =>
        obtain ⟨r, hr, _⟩ := h'.methods m q hdm
        rw [hcm] at hr
        cases hr
    | some r =>
      obtain ⟨q, hq, hrq⟩ := h.methods m r hcm
      obtain ⟨r', hr', hqr⟩ := h'.methods m q hq
      rw [hcm, Option.some.injEq] at hr'
      subst hr'
      rw [hq, hc.eq_of_within hd hcm hq hrq hqr]
  have hevidence : c.evidence = d.evidence :=
    OrderedSet.ext_mem fun e => ⟨h.evidence e, h'.evidence e⟩
  rw [ClassRecord.mk.injEq]
  exact ⟨hc.name_eq.trans hd.name_eq.symm, hevidence, hmethods,
    hc.unlabelled.1.trans hd.unlabelled.1.symm⟩

end Within

instance (name : String) : SemilatticeSup { c : ClassRecord // Collected name c } where
  le c d := c.1.Within d.1
  le_refl c := .refl c.1
  le_trans _ _ _ := Within.trans
  le_antisymm c d h h' := Subtype.ext (c.2.antisymm d.2 h h')
  sup c d := ⟨c.1.merge d.1, c.2.merge d.2⟩
  le_sup_left c d := c.1.within_merge_left d.1
  le_sup_right c d := c.1.within_merge_right d.1
  sup_le _ _ _ := Within.merge

/-- Merging records of one class is a join: it may be regrouped, turned round and repeated, it keeps
all that either record shows, and it adds nothing that a record above both does not show. Every record
files its methods under their own names and its own, and has evidence just if it lists any. -/
theorem merge_isJoin (name : String) (a b c : ClassRecord) (ha : Collected name a)
    (hb : Collected name b) (hc : Collected name c) :
    (a.merge b).merge c = a.merge (b.merge c) ∧ a.merge b = b.merge a ∧ a.merge a = a ∧
      a.Within (a.merge b) ∧ b.Within (a.merge b) ∧
      ((a.merge b).Within c ↔ a.Within c ∧ b.Within c) ∧
      (a.name = name ∧
        ∀ m r, a.methods.get? m = some r → r.name = m ∧ r.className = name) ∧
      (a.hasEvidence = true ↔ a.allEvidence ≠ []) := by
  let a' : { c : ClassRecord // Collected name c } := ⟨a, ha⟩
  let b' : { c : ClassRecord // Collected name c } := ⟨b, hb⟩
  let c' : { c : ClassRecord // Collected name c } := ⟨c, hc⟩
  refine ⟨congrArg Subtype.val (sup_assoc a' b' c'), congrArg Subtype.val (sup_comm a' b'),
    congrArg Subtype.val (sup_idem a'), a.within_merge_left b, a.within_merge_right b,
    @sup_le_iff _ _ a' b' c', ⟨ha.name_eq, ?_⟩, hasEvidence_iff_allEvidence⟩
  intro m r hr
  rw [← ha.name_eq]
  exact ha.wellFiled m r hr

/-- Three records of one class: one of its name and of a method, one that takes the method for external,
and one that merging has built and that has a method without evidence. -/
theorem merge_isJoin_disputedMethod :
    ∃ a b c : ClassRecord, Collected "SM4Util" a ∧ Collected "SM4Util" b ∧ Collected "SM4Util" c ∧
      (a.merge b).methods.keys = ["decrypt", "encrypt"] ∧
      (a.merge b).merge c = a.merge (b.merge c) ∧ a.merge b = b.merge a ∧
      b.Within (a.merge b) ∧ ¬(a.merge b).Within b := by
  let new : ClassRecord := { name := "SM4Util" }
  let a := (new.add (.nameMatch "sm4")).addToMethod "encrypt" false [.constantMatch "sm4" "sbox"]
  let b := (new.addToMethod "encrypt" true [.nameMatch "aes"]).addToMethod "decrypt" true
    [.nameMatch "sm4"]
  let c := a.merge (new.addToMethod "noop" true [])
  have ha : Collected "SM4Util" a := .addToMethod (.add .new _) _ _ _
  have hb : Collected "SM4Util" b := .addToMethod (.addToMethod .new _ _ _) _ _ _
  have hc : Collected "SM4Util" c := .merge ha (.addToMethod .new _ _ _)
  obtain ⟨hassoc, hcomm, _, _, hwithin, _⟩ := merge_isJoin "SM4Util" a b c ha hb hc
  refine ⟨a, b, c, ha, hb, hc, by decide +kernel, hassoc, hcomm, hwithin, ?_⟩
  intro h
  have hmem := h.evidence (.nameMatch "sm4") (by decide +kernel)
  revert hmem
  decide +kernel

end ClassRecord

end CryptoSurvey
