import CryptoSurvey.Pattern.Search

namespace CryptoSurvey

/-- A place in a text that is being read: the character before it, and what is left of the text. -/
structure Cursor where
  before : Option Char
  rest : List Char

namespace Cursor

def start (text : String) : Cursor := ⟨none, text.toList⟩

def place (a : Cursor) : Place := ⟨a.before, a.rest.head?⟩

inductive Reads : Cursor → List Char → Cursor → Prop
  | nil (a : Cursor) : Reads a [] a
  | cons {before : Option Char} {c : Char} {rest cs : List Char} {b : Cursor}
      (h : Reads ⟨some c, rest⟩ cs b) : Reads ⟨before, c :: rest⟩ (c :: cs) b

/-- The first place comes before the second in the same text. -/
def Precedes (a b : Cursor) : Prop := b.rest.length < a.rest.length

section Reads

variable {a b c : Cursor} {cs ds : List Char}

theorem Reads.rest_eq (h : a.Reads cs b) : a.rest = cs ++ b.rest := by
  induction h with
  | nil a => rfl
  | cons _ ih => exact congrArg _ ih

theorem Reads.append (h : a.Reads cs b) (h' : b.Reads ds c) : a.Reads (cs ++ ds) c := by
  induction h with
  | nil a => exact h'
  | cons _ ih => exact .cons (ih h')

theorem Reads.exists_of_append (h : a.Reads (cs ++ ds) c) :
    ∃ b, a.Reads cs b ∧ b.Reads ds c := by
  induction cs generalizing a with
  | nil => exact ⟨a, .nil a, h⟩
  | cons x cs ih =>
    cases h with
    | cons h =>
      obtain ⟨b, hcs, hds⟩ := ih h
      exact ⟨b, .cons hcs, hds⟩

theorem reads_append_iff : a.Reads (cs ++ ds) c ↔ ∃ b, a.Reads cs b ∧ b.Reads ds c := by
  constructor
  · exact Reads.exists_of_append
  · rintro ⟨b, hcs, hds⟩
    exact hcs.append hds

theorem exists_reads (h : a.rest = cs ++ ds) : ∃ b, a.Reads cs b ∧ b.rest = ds := by
  induction cs generalizing a with
  | nil => exact ⟨a, .nil a, h⟩
  | cons x cs ih =>
    obtain ⟨before, rest⟩ := a
    cases h
    obtain ⟨b, hb, hrest⟩ := @ih ⟨some x, cs ++ ds⟩ rfl
    exact ⟨b, .cons hb, hrest⟩

theorem Reads.eq_or_precedes (h : a.Reads cs b) : a = b ∨ a.Precedes b := by
  cases h with
  | nil => exact .inl rfl
  | @cons before c rest cs _ h =>
    have hlength : rest.length = (cs ++ b.rest).length := congrArg List.length h.rest_eq
    rw [List.length_append] at hlength
    exact .inr (Nat.lt_succ_of_le (hlength ▸ Nat.le_add_left _ _))

theorem Reads.eq_of_before_eq_none (h : a.Reads cs b) (hb : b.before = none) : a = b := by
  induction h with
  | nil a => rfl
  | cons _ ih =>
    cases ih hb
    cases hb

end Reads

end Cursor

section Forward

/-- The relation leads from a place to itself or to later places. -/
def Forward (r : Cursor → Cursor → Prop) : Prop :=
  ∀ ⦃a b⦄, r a b → a = b ∨ a.Precedes b

variable {r s : Cursor → Cursor → Prop} {a b c : Cursor} {m n : Nat}

theorem Forward.precedes (hs : Forward s) (hab : a.Precedes b) (hbc : s b c) : a.Precedes c := by
  rcases hs hbc with rfl | hlt
  · exact hab
  · exact Nat.lt_trans hlt hab

theorem Forward.comp (hr : Forward r) (hs : Forward s) :
    Forward fun a c => ∃ b, r a b ∧ s b c := by
  rintro a c ⟨b, hab, hbc⟩
  rcases hr hab with rfl | hlt
  · exact hs hbc
  · exact .inr (hs.precedes hlt hbc)

theorem Forward.comp_self_iff (hr : Forward r) (hs : Forward s) :
    (∃ b, r a b ∧ s b a) ↔ r a a ∧ s a a := by
  constructor
  · rintro ⟨b, hab, hba⟩
    rcases hr hab with rfl | hlt
    · exact ⟨hab, hba⟩
    · exact absurd (hs.precedes hlt hba) (Nat.lt_irrefl _)
  · rintro ⟨hr, hs⟩
    exact ⟨a, hr, hs⟩

theorem Forward.precedes_comp_iff (hr : Forward r) (hs : Forward s) :
    (a.Precedes c ∧ ∃ b, r a b ∧ s b c) ↔
      (∃ b, (a.Precedes b ∧ r a b) ∧ s b c) ∨ a.Precedes c ∧ r a a ∧ s a c := by
  constructor
  · rintro ⟨hac, b, hab, hbc⟩
    rcases hr hab with rfl | hlt
    · exact .inr ⟨hac, hab, hbc⟩
    · exact .inl ⟨b, ⟨hlt, hab⟩, hbc⟩
  · rintro (⟨b, ⟨hlt, hab⟩, hbc⟩ | ⟨hac, hr, hs⟩)
    · exact ⟨hs.precedes hlt hbc, b, hab, hbc⟩
    · exact ⟨hac, a, hr, hs⟩

inductive Copies (r : Cursor → Cursor → Prop) : Nat → Cursor → Cursor → Prop
  | zero (a : Cursor) : Copies r 0 a a
  | succ {n : Nat} {a b c : Cursor} (h : r a b) (hs : Copies r n b c) : Copies r (n + 1) a c

theorem copies_zero_iff : Copies r 0 a b ↔ a = b := by
  constructor
  · rintro ⟨⟩
    rfl
  · rintro rfl
    exact .zero a

theorem copies_succ_iff : Copies r (n + 1) a c ↔ ∃ b, r a b ∧ Copies r n b c := by
  constructor
  · rintro (_ | ⟨h, hs⟩)
    exact ⟨_, h, hs⟩
  · rintro ⟨b, h, hs⟩
    exact .succ h hs

theorem copies_one_iff : Copies r 1 a b ↔ r a b := by
  simp [copies_succ_iff, copies_zero_iff]

theorem copies_add_iff : Copies r (m + n) a c ↔ ∃ b, Copies r m a b ∧ Copies r n b c := by
  induction m generalizing a with
  | zero => simp [copies_zero_iff]
  | succ m ih =>
    rw [Nat.add_right_comm]
    simp only [copies_succ_iff, ih]
    constructor
    · rintro ⟨b, hb, d, hd, hn⟩
      exact ⟨d, ⟨b, hb, hd⟩, hn⟩
    · rintro ⟨d, ⟨b, hb, hd⟩, hn⟩
      exact ⟨b, hb, d, hd, hn⟩

theorem copies_optional_iff :
    Copies (fun a b => r a b ∨ a = b) n a c ↔ ∃ m ≤ n, Copies r m a c := by
  constructor
  · intro h
    induction h with
    | zero a => exact ⟨0, Nat.le_refl 0, .zero a⟩
    | succ hab _ ih =>
      obtain ⟨m, hm, hs⟩ := ih
      rcases hab with hab | rfl
      · exact ⟨m + 1, Nat.succ_le_succ hm, .succ hab hs⟩
      · exact ⟨m, Nat.le_succ_of_le hm, hs⟩
  · rintro ⟨m, hm, h⟩
    induction n generalizing m a with
    | zero =>
      cases Nat.le_zero.1 hm
      exact copies_zero_iff.2 (copies_zero_iff.1 h)
    | succ n ih =>
      cases h with
      | zero => exact .succ (.inr rfl) (ih 0 (Nat.zero_le n) (.zero _))
      | succ hab hs => exact .succ (.inl hab) (ih _ (Nat.le_of_succ_le_succ hm) hs)

theorem Forward.copies (hr : Forward r) : Forward fun a b => ∃ n, Copies r n a b := by
  rintro a b ⟨n, h⟩
  induction h with
  | zero a => exact .inl rfl
  | succ hab _ ih =>
    rcases hr hab with rfl | hlt
    · exact ih
    · rcases ih with rfl | hlt'
      · exact .inr hlt
      · exact .inr (Nat.lt_trans hlt' hlt)

theorem Forward.exists_first_copy (hr : Forward r) (h : Copies r n a c) (hac : a.Precedes c) :
    ∃ b, a.Precedes b ∧ r a b ∧ ∃ m, Copies r m b c := by
  induction h with
  | zero a => exact absurd hac (Nat.lt_irrefl _)
  | succ hab hs ih =>
    rcases hr hab with rfl | hlt
    · exact ih hac
    · exact ⟨_, hlt, hab, _, hs⟩

end Forward

/-- The pattern matches the stretch between two places. A greatest number of copies that is below the
least number has no effect. -/
def Pattern.Spans : Pattern → Cursor → Cursor → Prop
  | .empty, a, b => a = b
  | .literal text, a, b => a.Reads text b
  | .set s, a, b => ∃ c, s.contains c.toNat = true ∧ a.Reads [c] b
  | .look l, a, b => a = b ∧ l.holds a.place = true
  | .capture _ p, a, b => p.Spans a b
  | .seq p q, a, c => ∃ b, p.Spans a b ∧ q.Spans b c
  | .alt p q, a, b => p.Spans a b ∨ q.Spans a b
  | .times p least most, a, b =>
    ∃ n, least ≤ n ∧ (∀ m ∈ most, n ≤ max least m) ∧ Copies p.Spans n a b

namespace MarkedPattern

/-- The pattern matches the stretch between two places, whatever its marks. -/
def Spans : MarkedPattern → Cursor → Cursor → Prop
  | .empty, a, b => a = b
  | .set _ s, a, b => ∃ c, s.contains c.toNat = true ∧ a.Reads [c] b
  | .look l, a, b => a = b ∧ l.holds a.place = true
  | .seq _ p q, a, c => ∃ b, p.Spans a b ∧ q.Spans b c
  | .alt _ p q, a, b => p.Spans a b ∨ q.Spans a b
  | .star _ p, a, b => ∃ n, Copies p.Spans n a b

/-- A match that has got as far as the marks say goes on to another place. -/
def Resumes : MarkedPattern → Cursor → Cursor → Prop
  | .empty, _, _ => False
  | .set marked _, a, b => marked = true ∧ a = b
  | .look _, _, _ => False
  | .seq _ p q, a, c => (∃ b, p.Resumes a b ∧ q.Spans b c) ∨ q.Resumes a c
  | .alt _ p q, a, b => p.Resumes a b ∨ q.Resumes a b
  | .star _ p, a, c => ∃ b, p.Resumes a b ∧ ∃ n, Copies p.Spans n b c

/-- A match goes on to another place: one that begins here, if that is allowed, or one under way. -/
def Reaches (p : MarkedPattern) (enter : Bool) (a b : Cursor) : Prop :=
  enter = true ∧ p.Spans a b ∨ p.Resumes a b

def WellMarked : MarkedPattern → Prop
  | .seq m p q => m = (p.marked || q.marked) ∧ p.WellMarked ∧ q.WellMarked
  | .alt m p q => m = (p.marked || q.marked) ∧ p.WellMarked ∧ q.WellMarked
  | .star m p => m = p.marked ∧ p.WellMarked
  | _ => True

section Marks

variable {p q : MarkedPattern} {a b c : Cursor}

theorem forward_spans (p : MarkedPattern) : Forward p.Spans := by
  induction p with
  | empty => exact fun a b h => .inl h
  | set m s =>
    rintro a b ⟨c, _, h⟩
    exact h.eq_or_precedes
  | look l => exact fun a b h => .inl h.1
  | seq m p q hp hq => exact hp.comp hq
  | alt m p q hp hq =>
    rintro a b (h | h)
    · exact hp h
    · exact hq h
  | star m p hp => exact hp.copies

theorem forward_resumes (p : MarkedPattern) : Forward p.Resumes := by
  induction p with
  | empty => exact fun a b h => h.elim
  | set m s => exact fun a b h => .inl h.2
  | look l => exact fun a b h => h.elim
  | seq m p q hp hq =>
    rintro a c (h | h)
    · exact hp.comp q.forward_spans h
    · exact hq h
  | alt m p q hp hq =>
    rintro a b (h | h)
    · exact hp h
    · exact hq h
  | star m p hp => exact hp.comp p.forward_spans.copies

theorem forward_reaches (p : MarkedPattern) (enter : Bool) : Forward (p.Reaches enter) := by
  rintro a b (h | h)
  · exact p.forward_spans h.2
  · exact p.forward_resumes h

theorem WellMarked.not_resumes (hp : p.WellMarked) (hm : p.marked = false) : ¬ p.Resumes a b := by
  induction p generalizing a b with
  | empty => exact id
  | set m s =>
    rintro ⟨h, _⟩
    cases hm.symm.trans h
  | look l => exact id
  | seq m p q ihp ihq =>
    obtain ⟨hflag, hp, hq⟩ := hp
    obtain ⟨hpm, hqm⟩ := Bool.or_eq_false_iff.1 (hflag.symm.trans hm)
    rintro (⟨b, h, _⟩ | h)
    · exact ihp hp hpm h
    · exact ihq hq hqm h
  | alt m p q ihp ihq =>
    obtain ⟨hflag, hp, hq⟩ := hp
    obtain ⟨hpm, hqm⟩ := Bool.or_eq_false_iff.1 (hflag.symm.trans hm)
    rintro (h | h)
    · exact ihp hp hpm h
    · exact ihq hq hqm h
  | star m p ihp =>
    rintro ⟨b, h, _⟩
    exact ihp hp.2 (hp.1.symm.trans hm) h

theorem reaches_false_iff : p.Reaches false a b ↔ p.Resumes a b := by
  simp [Reaches]

theorem WellMarked.not_reaches {enter : Bool} (hp : p.WellMarked)
    (h : (enter || p.marked) = false) : ¬ p.Reaches enter a b := by
  obtain ⟨rfl, hm⟩ := Bool.or_eq_false_iff.1 h
  rintro (h | h)
  · cases h.1
  · exact hp.not_resumes hm h

theorem WellMarked.idle_iff {enter : Bool} {P : Prop} (hp : p.WellMarked)
    (h : ¬ (enter || p.marked) = true) : p.Resumes c b ↔ P ∧ p.Reaches enter a b := by
  have hguard := Bool.eq_false_iff.2 h
  refine iff_of_false (hp.not_resumes (Bool.or_eq_false_iff.1 hguard).2) ?_
  exact fun hreaches => hp.not_reaches hguard hreaches.2

theorem reaches_seq_iff {m enter : Bool} : (MarkedPattern.seq m p q).Reaches enter a c ↔
    (∃ b, p.Reaches enter a b ∧ q.Spans b c) ∨ q.Resumes a c := by
  simp only [Reaches, Spans, Resumes]
  grind

theorem reaches_alt_iff {m enter : Bool} : (MarkedPattern.alt m p q).Reaches enter a b ↔
    p.Reaches enter a b ∨ q.Reaches enter a b := by
  simp only [Reaches, Spans, Resumes]
  grind

/-- Copies lead on by the first of them that does: one that begins here, where a copy may begin or
another ends, or one under way. -/
theorem precedes_reaches_star_iff {m enter : Bool} :
    (a.Precedes c ∧ (MarkedPattern.star m p).Reaches enter a c) ↔
      ∃ b, (a.Precedes b ∧ ((enter = true ∨ p.Resumes a a) ∧ p.Spans a b ∨ p.Resumes a b)) ∧
        ∃ n, Copies p.Spans n b c := by
  constructor
  · rintro ⟨hac, ⟨henter, n, hs⟩ | ⟨b, hb, n, hs⟩⟩
    · obtain ⟨b, hlt, hab, hs⟩ := p.forward_spans.exists_first_copy hs hac
      exact ⟨b, ⟨hlt, .inl ⟨.inl henter, hab⟩⟩, hs⟩
    · rcases p.forward_resumes hb with rfl | hlt
      · obtain ⟨d, hlt, had, hs⟩ := p.forward_spans.exists_first_copy hs hac
        exact ⟨d, ⟨hlt, .inl ⟨.inr hb, had⟩⟩, hs⟩
      · exact ⟨b, ⟨hlt, .inr hb⟩, n, hs⟩
  · rintro ⟨b, ⟨hlt, hb⟩, n, hs⟩
    refine ⟨p.forward_spans.copies.precedes hlt ⟨n, hs⟩, ?_⟩
    rcases hb with ⟨henter | hself, hab⟩ | hb
    · exact .inl ⟨henter, n + 1, .succ hab hs⟩
    · exact .inr ⟨a, hself, n + 1, .succ hab hs⟩
    · exact .inr ⟨b, hb, n, hs⟩

end Marks

section Ends

variable {p : MarkedPattern} {a : Cursor} {enter : Bool}

theorem WellMarked.guard_iff (hp : p.WellMarked) {x : Bool} (hx : x = true ↔ p.Reaches enter a a) :
    ((enter || p.marked) && x) = true ↔ p.Reaches enter a a := by
  cases h : enter || p.marked with
  | true => simpa using hx
  | false => simpa using hp.not_reaches h

theorem ends_iff (hp : p.WellMarked) : p.ends a.place enter = true ↔ p.Reaches enter a a := by
  induction p generalizing enter with
  | empty => simp [ends, Reaches, Spans, Resumes]
  | set m s =>
    have hnot : ¬ (MarkedPattern.set m s).Spans a a := by
      rintro ⟨c, _, h⟩
      have hrest := h.rest_eq
      simp at hrest
    simp [ends, Reaches, Resumes, hnot]
  | look l => simp [ends, Reaches, Spans, Resumes]
  | seq m p q ihp ihq =>
    refine hp.guard_iff ?_
    rw [ihq hp.2.2, Reaches, ihp hp.2.1, reaches_seq_iff,
      (p.forward_reaches enter).comp_self_iff q.forward_spans]
  | alt m p q ihp ihq =>
    refine hp.guard_iff ?_
    rw [Bool.or_eq_true, ihp hp.2.1, ihq hp.2.2, reaches_alt_iff]
  | star m p ihp =>
    obtain ⟨rfl, hp⟩ := hp
    have hnone : ∃ n, Copies p.Spans n a a := ⟨0, .zero a⟩
    have hresumes : (MarkedPattern.star p.marked p).Resumes a a ↔ p.Resumes a a :=
      (p.forward_resumes.comp_self_iff p.forward_spans.copies).trans (and_iff_left hnone)
    have hends : ((false || p.marked) && p.ends a.place false) = true ↔ p.Reaches false a a :=
      hp.guard_iff (ihp hp)
    rw [reaches_false_iff, Bool.false_or] at hends
    rw [ends, Bool.or_eq_true, hends, Reaches, hresumes]
    exact or_congr_left (and_iff_left hnone).symm

end Ends

section Step

variable {p : MarkedPattern} {before : Option Char} {c : Char} {rest : List Char} {enter : Bool}

theorem spans_step (here : Place) (p : MarkedPattern) (enter : Bool) :
    (p.step here c enter).Spans = p.Spans := by
  induction p generalizing enter with
  | empty => rfl
  | set m s => rfl
  | look l => rfl
  | seq m p q ihp ihq =>
    rw [step]
    split
    · funext a b
      simp only [andThen, Spans, ihp, ihq]
    · rfl
  | alt m p q ihp ihq =>
    rw [step]
    split
    · funext a b
      simp only [orElse, Spans, ihp, ihq]
    · rfl
  | star m p ihp =>
    rw [step]
    split
    · funext a b
      simp only [anyNumber, Spans, ihp]
    · rfl

theorem WellMarked.step (hp : p.WellMarked) (here : Place) (enter : Bool) :
    (p.step here c enter).WellMarked := by
  induction p generalizing enter with
  | empty => trivial
  | set m s => trivial
  | look l => trivial
  | seq m p q ihp ihq =>
    rw [MarkedPattern.step]
    split
    · exact ⟨rfl, ihp hp.2.1 _, ihq hp.2.2 _⟩
    · exact hp
  | alt m p q ihp ihq =>
    rw [MarkedPattern.step]
    split
    · exact ⟨rfl, ihp hp.2.1 _, ihq hp.2.2 _⟩
    · exact hp
  | star m p ihp =>
    rw [MarkedPattern.step]
    split
    · exact ⟨rfl, ihp hp.2 _⟩
    · exact hp

theorem resumes_step_iff (hp : p.WellMarked) {b : Cursor} :
    (p.step (Cursor.place ⟨before, c :: rest⟩) c enter).Resumes ⟨some c, rest⟩ b ↔
      Cursor.Precedes ⟨before, c :: rest⟩ b ∧ p.Reaches enter ⟨before, c :: rest⟩ b := by
  induction p generalizing enter b with
  | empty =>
    refine iff_of_false id ?_
    rintro ⟨hlt, ⟨_, rfl⟩ | h⟩
    · exact Nat.lt_irrefl _ hlt
    · exact h
  | set m s =>
    constructor
    · rintro ⟨h, rfl⟩
      obtain ⟨henter, hc⟩ := (Bool.and_eq_true _ _).to_iff.1 h
      exact ⟨Nat.lt_succ_self _, .inl ⟨henter, c, hc, .cons (.nil _)⟩⟩
    · rintro ⟨hlt, ⟨henter, d, hd, h⟩ | ⟨_, rfl⟩⟩
      · cases h with
        | cons h =>
          cases h with
          | nil => exact ⟨(Bool.and_eq_true _ _).to_iff.2 ⟨henter, hd⟩, rfl⟩
      · exact absurd hlt (Nat.lt_irrefl _)
  | look l =>
    refine iff_of_false id ?_
    rintro ⟨hlt, ⟨_, rfl, _⟩ | h⟩
    · exact Nat.lt_irrefl _ hlt
    · exact h
  | seq m p q ihp ihq =>
    rw [step]
    split
    · -- the character belongs to the first part, or that part ends before it
      rw [reaches_seq_iff, and_or_left,
        (p.forward_reaches enter).precedes_comp_iff q.forward_spans, or_assoc]
      refine or_congr ?_ ?_
      · simp only [ihp hp.2.1, spans_step]
      · rw [ihq hp.2.2, Reaches, ends_iff hp.2.1, and_or_left]
    · rename_i hidle
      exact hp.idle_iff hidle
  | alt m p q ihp ihq =>
    rw [step]
    split
    · rw [reaches_alt_iff, and_or_left, ← ihp hp.2.1, ← ihq hp.2.2]
      rfl
    · rename_i hidle
      exact hp.idle_iff hidle
  | star m p ihp =>
    rw [step]
    split
    · rw [precedes_reaches_star_iff]
      refine exists_congr fun d => ?_
      rw [ihp hp.2, spans_step, Reaches, Bool.or_eq_true, ends_iff hp.2, reaches_false_iff]
    · rename_i hidle
      exact hp.idle_iff hidle

end Step

section Run

variable {p : MarkedPattern} {before : Option Char} {c : Char} {rest : List Char}

/-- A match is under way or begins in the rest of the text. -/
def Found (p : MarkedPattern) (a : Cursor) : Prop :=
  (∃ b, p.Resumes a b) ∨ ∃ cs d b, a.Reads cs d ∧ p.Spans d b

theorem Reaches.found {a b : Cursor} (h : p.Reaches true a b) : p.Found a := by
  rcases h with ⟨_, h⟩ | h
  · exact .inr ⟨[], a, b, .nil a, h⟩
  · exact .inl ⟨b, h⟩

theorem found_nil_iff : p.Found ⟨before, []⟩ ↔ p.Reaches true ⟨before, []⟩ ⟨before, []⟩ := by
  refine ⟨?_, Reaches.found⟩
  have hend {b : Cursor} (h : p.Reaches true ⟨before, []⟩ b) :
      p.Reaches true ⟨before, []⟩ ⟨before, []⟩ := by
    rcases p.forward_reaches true h with rfl | hlt
    · exact h
    · cases hlt
  rintro (⟨b, h⟩ | ⟨cs, a, b, hreads, h⟩)
  · exact hend (.inr h)
  · cases hreads with
    | nil => exact hend (.inl ⟨rfl, h⟩)

theorem found_cons_iff (hp : p.WellMarked) : p.Found ⟨before, c :: rest⟩ ↔
    p.Reaches true ⟨before, c :: rest⟩ ⟨before, c :: rest⟩ ∨
      (p.step (Cursor.place ⟨before, c :: rest⟩) c true).Found ⟨some c, rest⟩ := by
  constructor
  · have hnext {b : Cursor} (h : p.Reaches true ⟨before, c :: rest⟩ b) :
        p.Reaches true ⟨before, c :: rest⟩ ⟨before, c :: rest⟩ ∨
          (p.step (Cursor.place ⟨before, c :: rest⟩) c true).Found ⟨some c, rest⟩ := by
      rcases p.forward_reaches true h with rfl | hlt
      · exact .inl h
      · exact .inr (.inl ⟨b, (resumes_step_iff hp).2 ⟨hlt, h⟩⟩)
    rintro (⟨b, h⟩ | ⟨cs, a, b, hreads, h⟩)
    · exact hnext (.inr h)
    · cases hreads with
      | nil => exact hnext (.inl ⟨rfl, h⟩)
      | cons hreads => exact .inr (.inr ⟨_, a, b, hreads, spans_step _ p true ▸ h⟩)
  · rintro (h | ⟨b, h⟩ | ⟨cs, a, b, hreads, h⟩)
    · exact h.found
    · exact ((resumes_step_iff hp).1 h).2.found
    · exact .inr ⟨c :: cs, a, b, .cons hreads, spans_step _ p true ▸ h⟩

theorem occursFrom_iff (hp : p.WellMarked) (before : Option Char) (rest : List Char) :
    p.occursFrom before rest = true ↔ p.Found ⟨before, rest⟩ := by
  induction rest generalizing p before with
  | nil => exact (ends_iff hp).trans found_nil_iff.symm
  | cons c rest ih =>
    rw [found_cons_iff hp, ← ends_iff hp, ← ih (hp.step _ true), ← Bool.or_eq_true]
    rfl

end Run

section OfPattern

variable {p q : MarkedPattern} {a b : Cursor}

theorem spans_copies_iff (p : MarkedPattern) (n : Nat) :
    (p.copies n).Spans a b ↔ Copies p.Spans n a b := by
  induction n using Nat.strongRecOn generalizing a b with
  | ind n ih =>
    have htwice (half : Nat) (hhalf : half < n) {a b : Cursor} :
        ((p.copies half).andThen (p.copies half)).Spans a b ↔
          Copies p.Spans (half + half) a b := by
      simp only [andThen, Spans, ih half hhalf, copies_add_iff]
    rw [copies]
    split
    · split
      · rename_i h0
        rw [h0, copies_zero_iff]
        rfl
      · have h1 : n = 1 := by omega
        rw [h1, copies_one_iff]
    · have hhalf : n / 2 < n := by omega
      dsimp only
      split
      · have heven : n / 2 + n / 2 = n := by omega
        rw [htwice _ hhalf, heven]
      · have hodd : n / 2 + n / 2 + 1 = n := by omega
        have hsum := copies_add_iff (r := p.Spans) (m := n / 2 + n / 2) (n := 1) (a := a) (c := b)
        rw [hodd] at hsum
        simp only [hsum, copies_one_iff, ← htwice _ hhalf]
        rfl

theorem spans_times_iff (p : MarkedPattern) (least : Nat) (most : Option Nat) :
    (p.times least most).Spans a b ↔
      ∃ n, least ≤ n ∧ (∀ m ∈ most, n ≤ max least m) ∧ Copies p.Spans n a b := by
  cases most with
  | none =>
    simp only [times, andThen, anyNumber, Spans, spans_copies_iff]
    constructor
    · rintro ⟨d, hleast, n, hs⟩
      exact ⟨least + n, Nat.le_add_right _ _, by simp, copies_add_iff.2 ⟨d, hleast, hs⟩⟩
    · rintro ⟨n, hle, _, hs⟩
      rw [← Nat.add_sub_cancel' hle] at hs
      obtain ⟨d, hleast, hs⟩ := copies_add_iff.1 hs
      exact ⟨d, hleast, _, hs⟩
  | some most =>
    have hoptional : (p.orElse .empty).Spans = fun a b => p.Spans a b ∨ a = b := rfl
    simp only [times, andThen, Spans, spans_copies_iff, hoptional, copies_optional_iff]
    constructor
    · rintro ⟨d, hleast, n, hn, hs⟩
      refine ⟨least + n, Nat.le_add_right _ _, ?_, copies_add_iff.2 ⟨d, hleast, hs⟩⟩
      rintro m ⟨⟩
      omega
    · rintro ⟨n, hle, hmost, hs⟩
      have hn := hmost most rfl
      rw [← Nat.add_sub_cancel' hle] at hs
      obtain ⟨d, hleast, hs⟩ := copies_add_iff.1 hs
      exact ⟨d, hleast, _, by omega, hs⟩

theorem contains_single_iff {c d : Char} :
    (Text.CodeSet.single c.toNat).contains d.toNat = true ↔ d = c := by
  rw [← Char.toNat_inj]
  simp only [Text.CodeSet.single, Text.CodeSet.contains, List.any_cons, List.any_nil, Bool.or_false,
    Bool.and_eq_true, decide_eq_true_eq]
  omega

theorem spans_ofText_iff (text : List Char) : (ofText text).Spans a b ↔ a.Reads text b := by
  induction text generalizing a with
  | nil =>
    constructor
    · rintro rfl
      exact .nil a
    · rintro ⟨⟩
      rfl
  | cons c text ih =>
    rw [← List.singleton_append, Cursor.reads_append_iff]
    simp only [List.singleton_append, ofText, andThen, Spans, ih, contains_single_iff,
      exists_eq_left]

theorem spans_ofPattern (p : Pattern) : (ofPattern p).Spans = p.Spans := by
  induction p with
  | empty => rfl
  | literal text =>
    funext a b
    exact propext (spans_ofText_iff text)
  | set s => rfl
  | look l => rfl
  | capture i p ih => exact ih
  | seq p q ihp ihq =>
    funext a b
    simp only [ofPattern, andThen, Spans, Pattern.Spans, ihp, ihq]
  | alt p q ihp ihq =>
    funext a b
    simp only [ofPattern, orElse, Spans, Pattern.Spans, ihp, ihq]
  | times p least most ih =>
    funext a b
    rw [ofPattern, Pattern.Spans, spans_times_iff, ih]

def Unmarked (p : MarkedPattern) : Prop :=
  p.WellMarked ∧ p.marked = false

theorem Unmarked.andThen (hp : p.Unmarked) (hq : q.Unmarked) : (p.andThen q).Unmarked :=
  ⟨⟨rfl, hp.1, hq.1⟩, Bool.or_eq_false_iff.2 ⟨hp.2, hq.2⟩⟩

theorem Unmarked.orElse (hp : p.Unmarked) (hq : q.Unmarked) : (p.orElse q).Unmarked :=
  ⟨⟨rfl, hp.1, hq.1⟩, Bool.or_eq_false_iff.2 ⟨hp.2, hq.2⟩⟩

theorem unmarked_empty : MarkedPattern.empty.Unmarked := ⟨trivial, rfl⟩

theorem Unmarked.copies (hp : p.Unmarked) (n : Nat) : (p.copies n).Unmarked := by
  fun_induction MarkedPattern.copies p n with
  | case1 => exact unmarked_empty
  | case2 => exact hp
  | case3 n _ half _ ih => exact ih.andThen ih
  | case4 n _ half _ ih => exact (ih.andThen ih).andThen hp

theorem unmarked_ofText (text : List Char) : (ofText text).Unmarked := by
  induction text with
  | nil => exact unmarked_empty
  | cons c text ih => exact Unmarked.andThen ⟨trivial, rfl⟩ ih

theorem unmarked_ofPattern (p : Pattern) : (ofPattern p).Unmarked := by
  induction p with
  | empty => exact unmarked_empty
  | literal text => exact unmarked_ofText text
  | set s => exact ⟨trivial, rfl⟩
  | look l => exact ⟨trivial, rfl⟩
  | capture i p ih => exact ih
  | seq p q ihp ihq => exact ihp.andThen ihq
  | alt p q ihp ihq => exact ihp.orElse ihq
  | times p least most ih =>
    cases most with
    | none => exact (ih.copies least).andThen ⟨⟨rfl, ih.1⟩, ih.2⟩
    | some most => exact (ih.copies least).andThen ((ih.orElse unmarked_empty).copies _)

end OfPattern

end MarkedPattern

theorem Pattern.occursIn_iff {p : Pattern} {text : String} : p.occursIn text = true ↔
    ∃ cs a b, (Cursor.start text).Reads cs a ∧ p.Spans a b := by
  obtain ⟨hwell, hmarked⟩ := MarkedPattern.unmarked_ofPattern p
  rw [occursIn, MarkedPattern.occursFrom_iff hwell, MarkedPattern.Found,
    MarkedPattern.spans_ofPattern]
  refine or_iff_right ?_
  rintro ⟨b, h⟩
  exact hwell.not_resumes hmarked h

end CryptoSurvey
