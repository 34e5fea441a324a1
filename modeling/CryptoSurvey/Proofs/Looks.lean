import CryptoSurvey.Deadline
import Mathlib.Data.Nat.Find

namespace CryptoSurvey

section Order

variable {ε : Type} (look : Nat → Except ε Unit)

theorem forM_range_succ (n : Nat) :
    forM (List.range (n + 1)) look = forM (List.range n) look >>= fun _ => look n := by
  rw [List.range_succ, List.forM_append, List.forM_cons]
  congr 1
  funext _
  cases look n <;> rfl

theorem forM_range_add (m n : Nat) :
    forM (List.range (m + n)) look =
      forM (List.range m) look >>= fun _ => forM (List.range n) fun i => look (m + i) := by
  induction n with
  | zero => cases forM (List.range m) look <;> rfl
  | succ n ih =>
    rw [← Nat.add_assoc, forM_range_succ, ih, bind_assoc]
    congr 1
    funext _
    rw [forM_range_succ]

/-- Looks at every `k`-th of `n` items are as many as there are groups of `k` begun. -/
theorem forM_range_every {k : Nat} (hk : 0 < k) (n : Nat) :
    forM (List.range n) (fun i => if i % k = 0 then look (i / k) else .ok ()) =
      forM (List.range ((n + k - 1) / k)) look := by
  induction n with
  | zero =>
    have hgroups : (0 + k - 1) / k = 0 := Nat.div_eq_of_lt (by omega)
    rw [hgroups]
    rfl
  | succ n ih =>
    have hnext : (n + 1 + k - 1) / k = n / k + 1 := by
      rw [Nat.add_right_comm, Nat.add_sub_cancel, Nat.add_div_right n hk]
    rw [forM_range_succ, ih, hnext]
    by_cases hn : n % k = 0
    · have hgroups : (n + k - 1) / k = n / k := by
        obtain ⟨q, rfl⟩ := Nat.dvd_of_mod_eq_zero hn
        rw [Nat.add_sub_assoc hk, Nat.mul_add_div hk, Nat.mul_div_cancel_left q hk,
          Nat.div_eq_of_lt (Nat.sub_one_lt_of_lt hk), Nat.add_zero]
      rw [hgroups, forM_range_succ, if_pos hn]
    · have hgroups : (n + k - 1) / k = n / k + 1 := by
        cases n with
        | zero => exact absurd (Nat.zero_mod k) hn
        | succ m =>
          have hdvd : ¬ k ∣ m + 1 := mt Nat.mod_eq_zero_of_dvd hn
          rw [Nat.add_right_comm, Nat.add_sub_cancel, Nat.add_div_right m hk, Nat.succ_div,
            if_neg hdvd, Nat.add_zero]
      rw [hgroups, if_neg hn]
      cases forM (List.range (n / k + 1)) look <;> rfl

variable {look}

theorem foldlM_zipIdx_eq {α β : Type} {step : β → α × Nat → Except ε β} {f : β → α → β}
    (h : ∀ b p, step b p = look p.2 >>= fun _ => .ok (f b p.1)) (start : β) (items : List α) :
    items.zipIdx.foldlM step start =
      forM (List.range items.length) look >>= fun _ => .ok (items.foldl f start) := by
  -- the items that are left are numbered from where the fold stands
  have hfrom (i : Nat) : (items.zipIdx i).foldlM step start =
      forM (List.range' i items.length) look >>= fun _ => .ok (items.foldl f start) := by
    induction items generalizing start i with
    | nil => rfl
    | cons a rest ih =>
      rw [List.zipIdx_cons, List.foldlM_cons, h, List.length_cons, List.range'_succ,
        List.forM_cons, bind_assoc, bind_assoc]
      congr 1
      funext _
      exact ih (f start a) (i + 1)
  rw [hfrom 0, List.range_eq_range']

end Order

namespace Deadline

variable {d : Deadline} {clock : Clock} {n elapsed : Nat}

theorem check_eq_ok (h : d.isExpired elapsed = false) : d.check elapsed = .ok () := by
  rw [isExpired] at h
  rw [check]
  cases hb : d.budget? with
  | none => rfl
  | some budget =>
    rw [hb, Option.any_some, decide_eq_false_iff_not] at h
    exact if_neg h

theorem check_eq_timeout (h : d.isExpired elapsed = true) :
    ∃ budget, d.budget? = some budget ∧ d.check elapsed = .error (.timeout budget) := by
  rw [isExpired] at h
  cases hb : d.budget? with
  | none =>
    rw [hb] at h
    cases h
  | some budget =>
    rw [hb, Option.any_some, decide_eq_true_eq] at h
    refine ⟨budget, rfl, ?_⟩
    rw [check, hb]
    exact if_pos h

def watch (d : Deadline) (clock : Clock) (n : Nat) : Except AnalysisError Unit :=
  forM (List.range n) fun i => d.check (clock i)

theorem watch_succ : d.watch clock (n + 1) = d.watch clock n >>= fun _ => d.check (clock n) :=
  forM_range_succ _ n

theorem watch_add {m : Nat} :
    d.watch clock (m + n) = d.watch clock m >>= fun _ => d.watch (fun i => clock (m + i)) n :=
  forM_range_add _ m n

/-- Of `n` looks, look number `i` is made: none before it finds the budget spent. -/
def Makes (d : Deadline) (clock : Clock) (n i : Nat) : Prop :=
  i < n ∧ ∀ j < i, d.isExpired (clock j) = false

/-- One of the looks that are made finds the budget spent. -/
def FindsSpent (d : Deadline) (clock : Clock) (n : Nat) : Prop :=
  ∃ i, d.Makes clock n i ∧ d.isExpired (clock i) = true

theorem findsSpent_iff : d.FindsSpent clock n ↔ ∃ i < n, d.isExpired (clock i) = true := by
  constructor
  · rintro ⟨i, ⟨hi, _⟩, he⟩
    exact ⟨i, hi, he⟩
  · intro h
    -- the first look that would find the budget spent is made
    obtain ⟨hlt, he⟩ := Nat.find_spec h
    refine ⟨Nat.find h, ⟨hlt, ?_⟩, he⟩
    intro j hj
    have hnot := Nat.find_min h hj
    rw [not_and, Bool.not_eq_true] at hnot
    exact hnot (Nat.lt_trans hj hlt)

theorem watch_eq_ok (h : ¬ d.FindsSpent clock n) : d.watch clock n = .ok () := by
  rw [findsSpent_iff] at h
  induction n with
  | zero => rfl
  | succ n ih =>
    have hrest : ¬ ∃ i < n, d.isExpired (clock i) = true := by
      rintro ⟨i, hi, he⟩
      exact h ⟨i, Nat.lt_succ_of_lt hi, he⟩
    have hlast : d.isExpired (clock n) = false := by
      rw [← Bool.not_eq_true]
      intro he
      exact h ⟨n, Nat.lt_succ_self n, he⟩
    rw [watch_succ, ih hrest]
    exact check_eq_ok hlast

theorem watch_eq_timeout (h : d.FindsSpent clock n) :
    ∃ budget, d.budget? = some budget ∧ d.watch clock n = .error (.timeout budget) := by
  rw [findsSpent_iff] at h
  induction n with
  | zero =>
    obtain ⟨i, hi, _⟩ := h
    exact absurd hi (Nat.not_lt_zero i)
  | succ n ih =>
    rw [watch_succ]
    by_cases hrest : ∃ i < n, d.isExpired (clock i) = true
    · obtain ⟨budget, hb, hw⟩ := ih hrest
      rw [hw]
      exact ⟨budget, hb, rfl⟩
    · obtain ⟨i, hi, he⟩ := h
      have hin : i = n := by
        by_contra hne
        exact hrest ⟨i, by omega, he⟩
      obtain ⟨budget, hb, hc⟩ := check_eq_timeout (hin ▸ he)
      rw [watch_eq_ok (mt findsSpent_iff.1 hrest)]
      exact ⟨budget, hb, hc⟩

theorem not_findsSpent (h : ∀ i, d.isExpired (clock i) = false) : ¬ d.FindsSpent clock n := by
  rintro ⟨i, _, he⟩
  rw [h i] at he
  cases he

theorem findsSpent_of_expired (h : ∀ i, d.isExpired (clock i) = true) :
    d.FindsSpent clock n ↔ 0 < n := by
  rw [findsSpent_iff]
  constructor
  · rintro ⟨i, hi, _⟩
    exact Nat.zero_lt_of_lt hi
  · intro hn
    exact ⟨0, hn, h 0⟩

end Deadline

end CryptoSurvey
