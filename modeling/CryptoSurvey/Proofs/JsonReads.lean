import CryptoSurvey.Proofs.JsonText
import Mathlib.Data.List.Forall2

namespace CryptoSurvey.Json

variable {α σ : Type}

/-- The reader gives `a` for every text of `v`, whatever can follow a value. -/
def Reads (read : Reader α) (v : Json) (a : α) : Prop :=
  ∀ before t rest, Blank before → Spells t v → Ends rest → read (before ++ (t ++ rest)) = .ok (a, rest)

/-- The texts of a value in a file of its own. -/
def SpellsDocument (s : String) (v : Json) : Prop :=
  Padded Spells s.toList v

theorem ends_nil : Ends [] := by
  intro c hc
  cases hc

theorem ends_append {after rest : List Char} (hafter : Blank after) (h : Ends rest) :
    Ends (after ++ rest) := by
  cases after with
  | nil => exact h
  | cons c cs =>
    intro c' hc
    cases hc
    exact .inl (hafter c List.mem_cons_self)

theorem Reads.document_of_spells {read : Reader α} {v : Json} {a : α} (h : Reads read v a)
    {s : String} (hs : SpellsDocument s v) : document read s = .ok a := by
  unfold SpellsDocument at hs
  generalize htext : s.toList = text at hs
  cases hs with
  | @mk before t after _ hbefore ht hafter =>
    have hread := h before t after hbefore ht
      (List.append_nil after ▸ ends_append hafter ends_nil)
    have hskip : skipSpace after = [] := by
      have happend := skipSpace_append hafter []
      rwa [List.append_nil] at happend
    rw [Json.document, htext, hread]
    change (if (skipSpace after).isEmpty then Except.ok a
      else Except.error Error.trailingCharacters) = _
    rw [hskip]
    rfl

theorem spellsDocument_render (v : Json) : SpellsDocument (render v) v := by
  rw [SpellsDocument, render, String.toList_ofList]
  exact padded_self (spells_write v)

theorem Reads.document {read : Reader α} {v : Json} {a : α} (h : Reads read v a) :
    document read (render v) = .ok a :=
  h.document_of_spells (spellsDocument_render v)

section Simple

theorem reads_text (s : String) : Reads Reader.text (.text s) s := by
  intro before t rest hbefore ht _
  cases ht with
  | text h =>
    cases h with
    | mk hbody =>
      unfold Reader.text
      rw [skipSpace_append hbefore, List.cons_append, skipSpace_cons rfl, List.append_assoc]
      exact textBody_of_spells hbody rest

theorem reads_boolean (b : Bool) : Reads Reader.boolean (.boolean b) b := by
  intro before t rest hbefore ht _
  unfold Reader.boolean
  rw [skipSpace_append hbefore]
  cases ht with
  | isTrue => rfl
  | isFalse => rfl

theorem isSpace_of_isDigit {c : Char} (h : c.isDigit = true) : isSpace c = false := by
  rw [Bool.eq_false_iff]
  intro hspace
  simp only [isSpace, Bool.or_eq_true, beq_iff_eq] at hspace
  rcases hspace with ((rfl | rfl) | rfl) | rfl
  · cases h
  · cases h
  · cases h
  · cases h

theorem reads_size {n : Nat} (hn : n ≤ maxWord) : Reads Reader.size (.integer n) n := by
  intro before t rest hbefore ht hrest
  obtain ⟨c, cs, hdigits, hdigit⟩ := exists_toDigits_eq_cons n
  have hnumber := number_toDigits hn hrest
  rw [hdigits, List.cons_append] at hnumber
  have hminus : (c == '-') = false := by
    rw [beq_eq_false_iff_ne]
    rintro rfl
    cases hdigit
  cases ht with
  | integer =>
    unfold Reader.size
    rw [skipSpace_append hbefore, toList_toString_natural, hdigits, List.cons_append,
      skipSpace_cons (isSpace_of_isDigit hdigit)]
    simp only [hminus, hdigit, hnumber, Bool.false_eq_true, if_false, if_true]
    rfl

theorem reads_optional_none (item : Reader α) : Reads (Reader.optional item) .null none := by
  intro before t rest hbefore ht _
  cases ht with
  | null =>
    unfold Reader.optional
    rw [skipSpace_append hbefore]
    rfl

theorem reads_optional_text (s : String) :
    Reads (Reader.optional Reader.text) (.text s) (some s) := by
  intro before t rest hbefore ht hrest
  have htext := reads_text s [] t rest (fun c hc => absurd hc List.not_mem_nil) ht hrest
  cases ht with
  | text h =>
    cases h with
    | mk hbody =>
      rw [List.nil_append, List.cons_append] at htext
      unfold Reader.optional
      rw [skipSpace_append hbefore, List.cons_append, skipSpace_cons rfl]
      change (Reader.text _ >>= fun p => pure (some p.1, p.2)) = _
      rw [htext]
      rfl

theorem reads_optionalText (o : Option String) :
    Reads (Reader.optional Reader.text) (.ofText? o) o := by
  cases o with
  | none => exact reads_optional_none Reader.text
  | some s => exact reads_optional_text s

end Simple

section Separated

theorem Spells.exists_eq_cons {t : List Char} {v : Json} (h : Spells t v) :
    ∃ c cs, t = c :: cs ∧ isSpace c = false ∧ c ≠ ']' := by
  cases h with
  | null => exact ⟨'n', _, rfl, rfl, by decide⟩
  | isTrue => exact ⟨'t', _, rfl, rfl, by decide⟩
  | isFalse => exact ⟨'f', _, rfl, rfl, by decide⟩
  | integer n =>
    cases n with
    | ofNat n =>
      obtain ⟨c, cs, hdigits, hdigit⟩ := exists_toDigits_eq_cons n
      refine ⟨c, cs, (toList_toString_natural n).trans hdigits, isSpace_of_isDigit hdigit, ?_⟩
      rintro rfl
      cases hdigit
    | negSucc n =>
      change ∃ c cs, ("-" ++ toString (n + 1)).toList = c :: cs ∧ _
      rw [String.toList_append]
      exact ⟨'-', _, rfl, rfl, by decide⟩
  | text h =>
    cases h with
    | mk _ => exact ⟨'"', _, rfl, rfl, by decide⟩
  | list _ => exact ⟨'[', _, rfl, rfl, by decide⟩
  | object _ => exact ⟨'\x7b', _, rfl, rfl, by decide⟩

variable {spells : List Char → α → Prop} {t : List Char} {as : List α}

theorem Continued.length_le (h : Continued spells t as) : as.length ≤ t.length := by
  induction h with
  | nil => exact Nat.le_refl 0
  | cons _ _ ih =>
    rw [List.length_cons, List.length_cons, List.length_append]
    omega

theorem Separated.length_le (h : Separated spells t as) (close : Char) (rest : List Char) :
    as.length ≤ (t ++ close :: rest).length := by
  cases h with
  | nil => exact Nat.zero_le _
  | cons _ has =>
    have hlength := has.length_le
    rw [List.length_append, List.length_append, List.length_cons, List.length_cons]
    omega

theorem Continued.ends (h : Continued spells t as) {close : Char}
    (hclose : close = ']' ∨ close = '\x7d') (tail : List Char) : Ends (t ++ close :: tail) := by
  intro c hc
  cases h with
  | nil =>
    cases hc
    exact .inr (.inr hclose)
  | cons =>
    cases hc
    exact .inr (.inl rfl)

end Separated

section List

theorem nextItem?_first {before t : List Char} {v : Json} (hbefore : Blank before)
    (ht : Spells t v) (rest : List Char) :
    nextItem? true (before ++ (t ++ rest)) = .ok (some (t ++ rest)) := by
  obtain ⟨c, cs, rfl, hspace, hclose⟩ := ht.exists_eq_cons
  unfold nextItem?
  rw [skipSpace_append hbefore, List.cons_append, skipSpace_cons hspace]
  split
  · simp_all
  · simp_all
  · simp_all

theorem nextItem?_close (first : Bool) {gap : List Char} (hgap : Blank gap) (tail : List Char) :
    nextItem? first (gap ++ ']' :: tail) = .ok none := by
  unfold nextItem?
  rw [skipSpace_append hgap, skipSpace_cons rfl]
  rfl

theorem nextItem?_comma {gap before t : List Char} {v : Json} (hgap : Blank gap)
    (hbefore : Blank before) (ht : Spells t v) (rest : List Char) :
    nextItem? false (gap ++ ',' :: (before ++ (t ++ rest))) = .ok (some (t ++ rest)) := by
  obtain ⟨c, cs, rfl, hspace, hclose⟩ := ht.exists_eq_cons
  have hcomma : skipSpace (gap ++ ',' :: (before ++ (c :: cs ++ rest))) =
      ',' :: (before ++ (c :: cs ++ rest)) := by
    rw [skipSpace_append hgap, skipSpace_cons rfl]
  have hskip : skipSpace (before ++ (c :: cs ++ rest)) = c :: (cs ++ rest) := by
    rw [skipSpace_append hbefore, List.cons_append, skipSpace_cons hspace]
  unfold nextItem?
  rw [hcomma]
  split
  · simp_all
  · simp_all
  · rename_i heq
    cases heq
    rw [if_neg Bool.false_ne_true, if_pos (beq_self_eq_true ','), hskip]
    split
    · simp_all
    · simp_all
    · rfl

variable {item : Reader α} {vs : List Json} {as : List α}

theorem itemsFrom_step {first : Bool} {s t rest tail : List Char} {v : Json} {a : α} {n : Nat}
    (hnext : nextItem? first s = .ok (some (t ++ rest))) (ht : Spells t v) (hv : Reads item v a)
    (hends : Ends rest) (hrest : itemsFrom item n false rest = .ok (as, tail)) :
    itemsFrom item (n + 1) first s = .ok (a :: as, tail) := by
  have hitem : item (t ++ rest) = .ok (a, rest) :=
    hv [] t rest (fun c hc => absurd hc List.not_mem_nil) ht hends
  rw [itemsFrom, hnext]
  change (item (t ++ rest) >>= _) = _
  rw [hitem]
  change (itemsFrom item n false rest >>= _) = _
  rw [hrest]
  rfl

theorem itemsFrom_continued {t : List Char} (ht : Continued (Padded Spells) t vs)
    (h : List.Forall₂ (Reads item) vs as) {gap : List Char} (hgap : Blank gap) (tail : List Char)
    (spare : Nat) :
    ∃ after, Blank after ∧
      itemsFrom item (spare + as.length + 1) false (gap ++ (t ++ ']' :: tail)) =
        .ok (as, after ++ ']' :: tail) := by
  induction h generalizing t gap with
  | nil =>
    cases ht with
    | nil =>
      refine ⟨gap, hgap, ?_⟩
      rw [itemsFrom, List.nil_append, nextItem?_close false hgap]
      rfl
  | cons hv _ ih =>
    cases ht with
    | cons hpadded hmore =>
      cases hpadded with
      | mk hbefore ht hafter =>
        -- The blanks after an item are passed over with the comma or bracket that follows.
        obtain ⟨after, hblank, hitems⟩ := ih hmore hafter
        refine ⟨after, hblank, ?_⟩
        simp only [List.append_assoc, List.cons_append]
        exact itemsFrom_step (nextItem?_comma hgap hbefore ht _) ht hv
          (ends_append hafter (hmore.ends (.inl rfl) tail)) hitems

theorem itemsFrom_separated {t : List Char} (ht : Separated (Padded Spells) t vs)
    (h : List.Forall₂ (Reads item) vs as) (tail : List Char) (spare : Nat) :
    ∃ after, Blank after ∧
      itemsFrom item (spare + as.length + 1) true (t ++ ']' :: tail) =
        .ok (as, after ++ ']' :: tail) := by
  cases ht with
  | nil hblank =>
    cases h with
    | nil =>
      refine ⟨t, hblank, ?_⟩
      rw [itemsFrom, nextItem?_close true hblank]
      rfl
  | cons hpadded hmore =>
    cases h with
    | cons hv hvs =>
      cases hpadded with
      | mk hbefore ht hafter =>
        obtain ⟨after, hblank, hitems⟩ := itemsFrom_continued hmore hvs hafter tail spare
        refine ⟨after, hblank, ?_⟩
        simp only [List.append_assoc]
        exact itemsFrom_step (nextItem?_first hbefore ht _) ht hv
          (ends_append hafter (hmore.ends (.inl rfl) tail)) hitems

theorem reads_items (h : List.Forall₂ (Reads item) vs as) :
    Reads (Reader.list item) (.list vs) as := by
  intro before t rest hbefore ht _
  cases ht with
  | @list t _ ht =>
    have hlength := ht.length_le ']' rest
    rw [h.length_eq] at hlength
    obtain ⟨spare, hspare⟩ := Nat.exists_eq_add_of_le' hlength
    obtain ⟨after, hafter, hitems⟩ := itemsFrom_separated ht h rest spare
    have hend : listEnd (after ++ ']' :: rest) = .ok rest := by
      unfold listEnd
      rw [skipSpace_append hafter, skipSpace_cons rfl]
      rfl
    unfold Reader.list
    rw [skipSpace_append hbefore, List.cons_append, skipSpace_cons rfl, List.append_assoc]
    change (itemsFrom item ((t ++ ']' :: rest).length + 1) true (t ++ ']' :: rest) >>= _) = _
    rw [hspare, hitems]
    change (listEnd (after ++ ']' :: rest) >>= _) = _
    rw [hend]
    rfl

theorem reads_list {f : α → Json} (h : ∀ a ∈ as, Reads item (f a) a) :
    Reads (Reader.list item) (.list (as.map f)) as := by
  apply reads_items
  rw [List.forall₂_map_left_iff, List.forall₂_same]
  exact h

end List

section Object

variable {member : String → σ → Reader σ}

/-- The members are taken one after the other into what has been gathered. -/
inductive Gathers (member : String → σ → Reader σ) : σ → List (String × Json) → σ → Prop
  | nil (g : σ) : Gathers member g [] g
  | cons {g g' g'' : σ} {m : String × Json} {ms : List (String × Json)}
      (hm : ∀ gap before t rest, Blank gap → Blank before → Spells t m.2 → Ends rest →
        member m.1 g (gap ++ ':' :: (before ++ (t ++ rest))) = .ok (g', rest))
      (hms : Gathers member g' ms g'') : Gathers member g (m :: ms) g''

theorem nextKey?_first {before body : List Char} {k : String} (hbefore : Blank before)
    (hk : SpellsChars body k.toList) (rest : List Char) :
    nextKey? true (before ++ '"' :: (body ++ '"' :: rest)) = .ok (some (k, rest)) := by
  unfold nextKey?
  rw [skipSpace_append hbefore, skipSpace_cons rfl]
  change (textBody _ >>= fun p => pure (some p)) = _
  rw [textBody_of_spells hk]
  rfl

theorem nextKey?_close (first : Bool) {gap : List Char} (hgap : Blank gap) (tail : List Char) :
    nextKey? first (gap ++ '\x7d' :: tail) = .ok none := by
  unfold nextKey?
  rw [skipSpace_append hgap, skipSpace_cons rfl]
  rfl

theorem nextKey?_comma {gap before body : List Char} {k : String} (hgap : Blank gap)
    (hbefore : Blank before) (hk : SpellsChars body k.toList) (rest : List Char) :
    nextKey? false (gap ++ ',' :: (before ++ '"' :: (body ++ '"' :: rest))) =
      .ok (some (k, rest)) := by
  have hskip : skipSpace (before ++ '"' :: (body ++ '"' :: rest)) = '"' :: (body ++ '"' :: rest) := by
    rw [skipSpace_append hbefore, skipSpace_cons rfl]
  unfold nextKey?
  rw [skipSpace_append hgap, skipSpace_cons rfl]
  split
  · simp_all
  · simp_all
  · rename_i heq
    cases heq
    rw [if_neg Bool.false_ne_true, if_pos (beq_self_eq_true ','), hskip]
    change (textBody _ >>= fun p => pure (some p)) = _
    rw [textBody_of_spells hk]
    rfl

theorem membersFrom_step {first : Bool} {s gap before t rest : List Char} {m : String × Json}
    {g g' : σ} {n : Nat}
    (hnext : nextKey? first s = .ok (some (m.1, gap ++ ':' :: (before ++ (t ++ rest)))))
    (hm : member m.1 g (gap ++ ':' :: (before ++ (t ++ rest))) = .ok (g', rest)) :
    membersFrom member (n + 1) first g s = membersFrom member n false g' rest := by
  rw [membersFrom, hnext]
  change (member m.1 g _ >>= _) = _
  rw [hm]
  rfl

theorem Gathers.membersFrom_continued {g g' : σ} {ms : List (String × Json)}
    (h : Gathers member g ms g') {t : List Char} (ht : Continued (SpellsMember Spells) t ms)
    {gap : List Char} (hgap : Blank gap) (tail : List Char) (spare : Nat) :
    ∃ after, Blank after ∧
      membersFrom member (spare + ms.length + 1) false g (gap ++ (t ++ '\x7d' :: tail)) =
        .ok (g', after ++ '\x7d' :: tail) := by
  induction h generalizing t gap with
  | nil g =>
    cases ht with
    | nil =>
      refine ⟨gap, hgap, ?_⟩
      rw [membersFrom, List.nil_append, nextKey?_close false hgap]
      rfl
  | cons hm _ ih =>
    cases ht with
    | cons hmember hmore =>
      cases hmember with
      | mk hkey hvalue =>
        cases hkey with
        | mk hbefore hkey hgap' =>
          cases hkey with
          | mk hkey =>
            cases hvalue with
            | mk hbefore' hvalue hafter =>
              obtain ⟨after, hblank, hmembers⟩ := ih hmore hafter
              refine ⟨after, hblank, ?_⟩
              simp only [List.append_assoc, List.cons_append, List.nil_append]
              rw [membersFrom_step (nextKey?_comma hgap hbefore hkey _)
                (hm _ _ _ _ hgap' hbefore' hvalue
                  (ends_append hafter (hmore.ends (.inr rfl) tail)))]
              exact hmembers

theorem Gathers.membersFrom_separated {g g' : σ} {ms : List (String × Json)}
    (h : Gathers member g ms g') {t : List Char} (ht : Separated (SpellsMember Spells) t ms)
    (tail : List Char) (spare : Nat) :
    ∃ after, Blank after ∧
      membersFrom member (spare + ms.length + 1) true g (t ++ '\x7d' :: tail) =
        .ok (g', after ++ '\x7d' :: tail) := by
  cases ht with
  | nil hblank =>
    cases h with
    | nil =>
      refine ⟨t, hblank, ?_⟩
      rw [membersFrom, nextKey?_close true hblank]
      rfl
  | cons hmember hmore =>
    cases h with
    | cons hm hms =>
      cases hmember with
      | mk hkey hvalue =>
        cases hkey with
        | mk hbefore hkey hgap =>
          cases hkey with
          | mk hkey =>
            cases hvalue with
            | mk hbefore' hvalue hafter =>
              obtain ⟨after, hblank, hmembers⟩ := hms.membersFrom_continued hmore hafter tail spare
              refine ⟨after, hblank, ?_⟩
              simp only [List.append_assoc, List.cons_append, List.nil_append]
              rw [membersFrom_step (nextKey?_first hbefore hkey _)
                (hm _ _ _ _ hgap hbefore' hvalue
                  (ends_append hafter (hmore.ends (.inr rfl) tail)))]
              exact hmembers

theorem Gathers.membersFrom_object {g g' : σ} {ms : List (String × Json)}
    (h : Gathers member g ms g') {t : List Char} (ht : Separated (SpellsMember Spells) t ms)
    (rest : List Char) :
    ∃ tail, objectEnd tail = .ok rest ∧
      membersFrom member ((t ++ '\x7d' :: rest).length + 1) true g (t ++ '\x7d' :: rest) =
        .ok (g', tail) := by
  obtain ⟨spare, hspare⟩ := Nat.exists_eq_add_of_le' (ht.length_le '\x7d' rest)
  obtain ⟨after, hafter, hmembers⟩ := h.membersFrom_separated ht rest spare
  refine ⟨after ++ '\x7d' :: rest, ?_, hspare ▸ hmembers⟩
  unfold objectEnd
  rw [skipSpace_append hafter, skipSpace_cons rfl]
  rfl

theorem colon_append {gap : List Char} (hgap : Blank gap) (s : List Char) :
    colon (gap ++ ':' :: s) = .ok s := by
  unfold colon
  rw [skipSpace_append hgap, skipSpace_cons rfl]
  rfl

def takeMember (value : Reader α) (key : String) (done : List (String × α)) :
    Reader (List (String × α)) := fun s =>
  colon s >>= fun s => value s >>= fun p => pure ((key, p.1) :: done, p.2)

theorem gathers_takeMember {value : Reader α} {vs : List (String × Json)} {ms : List (String × α)}
    (h : List.Forall₂ (fun v m => v.1 = m.1 ∧ Reads value v.2 m.2) vs ms)
    (done : List (String × α)) : Gathers (takeMember value) done vs (ms.reverse ++ done) := by
  induction h generalizing done with
  | nil => exact .nil done
  | @cons v m vs ms hm _ ih =>
    rw [List.reverse_cons, List.append_assoc]
    refine .cons ?_ (ih (m :: done))
    intro gap before t rest hgap hbefore ht hrest
    change (colon _ >>= _) = _
    rw [colon_append hgap]
    change (value _ >>= _) = _
    rw [hm.2 before t rest hbefore ht hrest, hm.1]
    rfl

theorem reads_map {value : Reader α} {vs : List (String × Json)} {ms : List (String × α)}
    (h : List.Forall₂ (fun v m => v.1 = m.1 ∧ Reads value v.2 m.2) vs ms) :
    Reads (Reader.members value) (.object vs) ms := by
  intro before t rest hbefore ht _
  cases ht with
  | @object t _ ht =>
    obtain ⟨tail, hend, hmembers⟩ := (gathers_takeMember h []).membersFrom_object ht rest
    unfold Reader.members
    rw [skipSpace_append hbefore, List.cons_append, skipSpace_cons rfl, List.append_assoc]
    change (membersFrom (takeMember value) ((t ++ '\x7d' :: rest).length + 1) true []
      (t ++ '\x7d' :: rest) >>= _) = _
    rw [hmembers]
    change (objectEnd tail >>= _) = _
    rw [hend]
    change Except.ok ((ms.reverse ++ []).reverse, rest) = _
    rw [List.append_nil, List.reverse_reverse]

theorem reads_members {value : Reader α} {f : α → Json} {ms : List (String × α)}
    (h : ∀ m ∈ ms, Reads value (f m.2) m.2) :
    Reads (Reader.members value) (.object (ms.map fun m => (m.1, f m.2))) ms := by
  apply reads_map
  rw [List.forall₂_map_left_iff, List.forall₂_same]
  exact fun m hm => ⟨rfl, h m hm⟩

end Object

end CryptoSurvey.Json
