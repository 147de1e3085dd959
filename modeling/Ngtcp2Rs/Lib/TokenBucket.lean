import Mathlib.Algebra.Order.Group.Nat
import Mathlib.Data.List.Basic
import Mathlib.Tactic.Ring

/-!
# Token buckets

A bucket of at most `burst` permissions, refilled at `rate` permissions in `unit` of time when it is
asked. A refill of `r` permissions moves the reference time by `r * unit / rate`, rounded down, so
that both divisions round in favour of the bucket by less than one.

* `interval`: the time one permission takes, rounded down.
* `potential_refill`: a refill does not raise the permissions there are, now or until `b`.
* `length_granted_window`: the permissions granted in a window of time, over any run.
* `acquired_of_le`: a request that comes late enough is granted.
-/

namespace Lib

/-- The parameters of a token bucket. A permission takes at least one unit of time. -/
structure TokenBucket where
  burst : ℕ
  rate : ℕ
  unit : ℕ
  burst_pos : 0 < burst
  rate_pos : 0 < rate
  rate_le : rate ≤ unit

namespace TokenBucket

/-- The permissions there are, and the time they were last refilled for. -/
@[ext] structure State where
  bucket : ℕ
  last : ℕ

variable (p : TokenBucket)

/-- The time one permission takes, rounded down. -/
def interval : ℕ := p.unit / p.rate

/-- Refill for the time up to `t`. -/
def refill (s : State) (t : ℕ) : State :=
  let r := (t - s.last) * p.rate / p.unit
  if r = 0 then s else ⟨min (s.bucket + r) p.burst, s.last + r * p.unit / p.rate⟩

/-- Ask for one permission at `t`. -/
def acquire (s : State) (t : ℕ) : Bool × State :=
  let s := p.refill s t
  if s.bucket = 0 then (false, s) else (true, { s with bucket := s.bucket - 1 })

/-- The times of `ts` at which a permission is granted. -/
def granted : State → List ℕ → List ℕ
  | _, [] => []
  | s, t :: ts =>
    if (p.acquire s t).1 then t :: granted (p.acquire s t).2 ts else granted (p.acquire s t).2 ts

/-- What every state keeps: the bucket does not overflow, and is not refilled for the future. -/
structure Valid (s : State) (t : ℕ) : Prop where
  bucket_le : s.bucket ≤ p.burst
  last_le : s.last ≤ t

/-- The permissions that can be granted up to `b`. -/
def potential (s : State) (b : ℕ) : ℕ := s.bucket + (b - s.last) / p.interval

variable {p} {s : State} {t b : ℕ}

theorem interval_pos : 0 < p.interval := Nat.div_pos p.rate_le p.rate_pos

theorem Valid.mono {t' : ℕ} (h : p.Valid s t) (ht : t ≤ t') : p.Valid s t' :=
  ⟨h.bucket_le, h.last_le.trans ht⟩

/-! ## The rounding -/

/-- The time of `r` permissions is at least `r` intervals. -/
theorem mul_interval_le (r : ℕ) : r * p.interval ≤ r * p.unit / p.rate := by
  rw [Nat.le_div_iff_mul_le p.rate_pos, Nat.mul_assoc]
  exact Nat.mul_le_mul_left r (Nat.div_mul_le_self _ _)

/-- A refill is not for more time than has passed. -/
theorem consumed_le (e : ℕ) : e * p.rate / p.unit * p.unit / p.rate ≤ e := by
  have hunit := Nat.div_mul_le_self (e * p.rate) p.unit
  exact Nat.div_le_of_le_mul (by rw [Nat.mul_comm p.rate]; exact hunit)

/-- A refill leaves little more than one interval. -/
theorem le_consumed (e : ℕ) :
    e ≤ e * p.rate / p.unit * p.unit / p.rate + (p.interval + 1) := by
  have hrate := p.rate_pos
  have hunit : 0 < p.unit := lt_of_lt_of_le p.rate_pos p.rate_le
  obtain ⟨r, hr⟩ : ∃ r, r = e * p.rate / p.unit := ⟨_, rfl⟩
  obtain ⟨c, hc⟩ : ∃ c, c = r * p.unit / p.rate := ⟨_, rfl⟩
  rw [← hr, ← hc]
  have h₁ : e * p.rate < (r + 1) * p.unit := by
    rw [hr, Nat.mul_comm _ p.unit]
    exact Nat.lt_mul_div_succ _ hunit
  have h₂ : r * p.unit < (c + 1) * p.rate := by
    rw [hc, Nat.mul_comm _ p.rate]
    exact Nat.lt_mul_div_succ _ hrate
  have h₃ : p.unit < (p.interval + 1) * p.rate := by
    rw [interval, Nat.mul_comm _ p.rate]
    exact Nat.lt_mul_div_succ _ hrate
  have h₄ : e * p.rate < (c + (p.interval + 1) + 1) * p.rate := by
    calc e * p.rate < (r + 1) * p.unit := h₁
      _ = r * p.unit + p.unit := by ring
      _ ≤ (c + 1) * p.rate + (p.interval + 1) * p.rate := Nat.add_le_add h₂.le h₃.le
      _ = (c + (p.interval + 1) + 1) * p.rate := by ring
  exact Nat.lt_succ_iff.mp (Nat.lt_of_mul_lt_mul_right h₄)

/-! ## One request -/

theorem Valid.refill (h : p.Valid s t) : p.Valid (p.refill s t) t := by
  unfold TokenBucket.refill
  simp only
  split_ifs
  · exact h
  · have hle := consumed_le (p := p) (t - s.last)
    have hlast := h.last_le
    exact ⟨Nat.min_le_right _ _, by simp only; omega⟩

/-- After a refill, the reference time is close. -/
theorem le_last_refill (h : s.last ≤ t) : t ≤ (p.refill s t).last + (p.interval + 1) := by
  have hle := le_consumed (p := p) (t - s.last)
  unfold TokenBucket.refill
  simp only
  split_ifs with hr
  · rw [hr, Nat.zero_mul, Nat.zero_div] at hle
    omega
  · simp only
    omega

/-- **A refill raises no potential**: the time it consumes would have given as much later. -/
theorem potential_refill (h : s.last ≤ t) (htb : t ≤ b) :
    p.potential (p.refill s t) b ≤ p.potential s b := by
  unfold TokenBucket.refill
  simp only
  split_ifs
  · exact le_refl _
  · obtain ⟨r, hr⟩ : ∃ r, r = (t - s.last) * p.rate / p.unit := ⟨_, rfl⟩
    have hle := consumed_le (p := p) (t - s.last)
    have hmul := mul_interval_le (p := p) r
    rw [← hr] at hle ⊢
    have hsub : b - (s.last + r * p.unit / p.rate) ≤ b - s.last - p.interval * r := by
      rw [Nat.mul_comm p.interval]
      omega
    have hfit : p.interval * r ≤ b - s.last := by
      rw [Nat.mul_comm]
      omega
    have hdiv : (b - (s.last + r * p.unit / p.rate)) / p.interval + r ≤
        (b - s.last) / p.interval := by
      have hmono := Nat.div_le_div_right (c := p.interval) hsub
      have hr_le : r ≤ (b - s.last) / p.interval := by
        rw [Nat.le_div_iff_mul_le interval_pos, Nat.mul_comm]
        exact hfit
      rw [Nat.sub_mul_div] at hmono
      omega
    have hmin := Nat.min_le_left (s.bucket + r) p.burst
    unfold potential
    simp only
    omega

theorem Valid.acquire (h : p.Valid s t) : p.Valid (p.acquire s t).2 t := by
  have hrefill := h.refill
  unfold TokenBucket.acquire
  simp only
  split_ifs
  · exact hrefill
  · exact ⟨le_trans (Nat.sub_le _ _) hrefill.bucket_le, hrefill.last_le⟩

/-- A permission costs one of the potential after the refill. -/
theorem potential_acquire :
    (p.acquire s t).1.toNat + p.potential (p.acquire s t).2 b = p.potential (p.refill s t) b := by
  unfold TokenBucket.acquire potential
  simp only
  split_ifs
  · simp
  · simp only [Bool.toNat_true]
    omega

/-- **Late enough.** A request more than an interval after a refill is granted. -/
theorem acquired_of_le (h : s.last + (p.interval + 1) ≤ t) : (p.acquire s t).1 = true := by
  have hunit : 0 < p.unit := lt_of_lt_of_le p.rate_pos p.rate_le
  have hburst := p.burst_pos
  have hinterval : p.unit ≤ (p.interval + 1) * p.rate := by
    rw [interval, Nat.mul_comm _ p.rate]
    exact (Nat.lt_mul_div_succ _ p.rate_pos).le
  have hr : 0 < (t - s.last) * p.rate / p.unit := by
    refine Nat.div_pos (hinterval.trans (Nat.mul_le_mul_right _ ?_)) hunit
    omega
  have hbucket : (p.refill s t).bucket ≠ 0 := by
    unfold TokenBucket.refill
    simp only
    rw [if_neg hr.ne']
    simp only
    omega
  unfold TokenBucket.acquire
  simp only
  rw [if_neg hbucket]

/-! ## Runs -/

/-- The state after requests at the times `ts`. -/
def after (p : TokenBucket) (s : State) (ts : List ℕ) : State :=
  ts.foldl (fun s t => (p.acquire s t).2) s

theorem mem_of_mem_granted {u : ℕ} : ∀ {ts : List ℕ} {s : State}, u ∈ p.granted s ts → u ∈ ts
  | [], _, h => h
  | t :: ts, s, h => by
    unfold granted at h
    split_ifs at h
    · obtain rfl | h := List.mem_cons.mp h
      · exact List.mem_cons_self
      · exact List.mem_cons_of_mem _ (mem_of_mem_granted h)
    · exact List.mem_cons_of_mem _ (mem_of_mem_granted h)

theorem granted_cons (s : State) (t : ℕ) (ts : List ℕ) :
    p.granted s (t :: ts) =
      (if (p.acquire s t).1 then [t] else []) ++ p.granted (p.acquire s t).2 ts := by
  rw [granted]
  split_ifs <;> rfl

/-- A request adds at most the permission it is granted. -/
theorem length_granted_cons {ts : List ℕ}
    (h : ((p.granted (p.acquire s t).2 ts).filter (· ≤ b)).length ≤
      p.potential (p.acquire s t).2 b) :
    ((p.granted s (t :: ts)).filter (· ≤ b)).length ≤ p.potential (p.refill s t) b := by
  have hcost := potential_acquire (p := p) (s := s) (t := t) (b := b)
  have hhead : ((if (p.acquire s t).1 then [t] else []).filter (· ≤ b)).length ≤
      (p.acquire s t).1.toNat := by
    refine (List.length_filter_le _ _).trans ?_
    cases (p.acquire s t).1 <;> simp
  rw [granted_cons, List.filter_append, List.length_append]
  omega

theorem granted_filter_eq_nil {ts : List ℕ} (hsorted : (t :: ts).Pairwise (· ≤ ·)) (hb : b < t) :
    (p.granted s (t :: ts)).filter (· ≤ b) = [] := by
  rw [List.filter_eq_nil_iff]
  intro u hu
  have hle : t ≤ u := by
    obtain rfl | hu := List.mem_cons.mp (mem_of_mem_granted hu)
    · exact le_refl _
    · exact (List.pairwise_cons.mp hsorted).1 u hu
  simp only [decide_eq_true_eq]
  omega

/-- **The potential bounds what is granted up to `b`.** -/
theorem length_granted_le : ∀ {ts : List ℕ} {s : State} {t : ℕ}, p.Valid s t →
    (t :: ts).Pairwise (· ≤ ·) → ((p.granted s ts).filter (· ≤ b)).length ≤ p.potential s b
  | [], _, _, _, _ => Nat.zero_le _
  | t' :: ts, s, t, h, hsorted => by
    obtain ⟨hle, htail⟩ := List.pairwise_cons.mp hsorted
    have hvalid := h.mono (hle t' List.mem_cons_self)
    rcases Nat.lt_or_ge b t' with hb | hb
    · rw [granted_filter_eq_nil htail hb]
      exact Nat.zero_le _
    · have hrec := length_granted_cons (length_granted_le hvalid.acquire htail)
      exact hrec.trans (potential_refill hvalid.last_le hb)

/-- From a refill at or after `a`, a window up to `b` has little more than its own time. -/
theorem potential_window {a : ℕ} (h : p.Valid s t) (hat : a ≤ t) :
    p.potential (p.refill s t) b ≤ p.burst + (b - a) / p.interval + 2 := by
  have hburst := h.refill.bucket_le
  have hlast := le_last_refill (p := p) h.last_le
  have hsub : b - (p.refill s t).last ≤ (b - a) + 1 + p.interval * 1 := by omega
  have hdiv : (b - (p.refill s t).last) / p.interval ≤ (b - a + 1) / p.interval + 1 := by
    have hmono := Nat.div_le_div_right (c := p.interval) hsub
    rwa [Nat.add_mul_div_left _ _ interval_pos] at hmono
  have hsucc : (b - a + 1) / p.interval ≤ (b - a) / p.interval + 1 := by
    rw [Nat.succ_div]
    split_ifs <;> omega
  unfold potential
  omega

/-- **The permissions of a window.** What any run grants between `a` and `b` is the burst and the
intervals of the window, and two for the rounding. -/
theorem length_granted_window {a : ℕ} : ∀ {ts : List ℕ} {s : State} {t : ℕ}, p.Valid s t →
    (t :: ts).Pairwise (· ≤ ·) →
    ((p.granted s ts).filter fun u => a ≤ u ∧ u ≤ b).length ≤
      p.burst + (b - a) / p.interval + 2
  | [], _, _, _, _ => Nat.zero_le _
  | t' :: ts, s, t, h, hsorted => by
    obtain ⟨hle, htail⟩ := List.pairwise_cons.mp hsorted
    have hvalid := h.mono (hle t' List.mem_cons_self)
    rcases Nat.lt_or_ge t' a with hat | hat
    · -- the window has not begun
      have hout : (if (p.acquire s t').1 then [t'] else []).filter (fun u => a ≤ u ∧ u ≤ b) = [] := by
        split_ifs
        · rw [List.filter_singleton, decide_eq_false (by omega)]
          rfl
        · rfl
      rw [granted_cons, List.filter_append, hout]
      exact length_granted_window hvalid.acquire htail
    · have hweaken : ((p.granted s (t' :: ts)).filter fun u => a ≤ u ∧ u ≤ b).length ≤
          ((p.granted s (t' :: ts)).filter (· ≤ b)).length := by
        refine (List.monotone_filter_right _ fun u hu => ?_).length_le
        simp only [decide_eq_true_eq] at hu ⊢
        exact hu.2
      exact hweaken.trans ((length_granted_cons (length_granted_le hvalid.acquire htail)).trans
        (potential_window hvalid hat))

/-- Every state of a run is valid at the time of the last request. -/
theorem Valid.after : ∀ {ts : List ℕ} {s : State} {t : ℕ}, p.Valid s t →
    (t :: ts).Pairwise (· ≤ ·) → p.Valid (p.after s ts) ((t :: ts).getLast (List.cons_ne_nil t ts))
  | [], _, _, h, _ => h
  | t' :: ts, s, t, h, hsorted => by
    obtain ⟨hle, htail⟩ := List.pairwise_cons.mp hsorted
    have hvalid := h.mono (hle t' List.mem_cons_self)
    rw [List.getLast_cons_cons]
    change p.Valid (p.after (p.acquire s t').2 ts) _
    exact Valid.after hvalid.acquire htail

end TokenBucket

end Lib
