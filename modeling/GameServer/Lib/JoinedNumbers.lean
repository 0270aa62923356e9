import GameServer.Lib.Positional
import Mathlib.Tactic.Ring

/-!
# GameServer.Lib.JoinedNumbers

Two numbers written one after the other without a fixed width, and filled up
with zeros on the right: what the result says about the numbers.

Where the first number ends cannot be seen, nor which of the last zeros
belong to the second one.

* `joined` — the result as a number
* `joined_mul_base`, `joined_shift` — pairs with the same result
* `joined_unshared_iff` — the pairs whose result no other pair has
-/

namespace GameServer

variable {b w x y x' y' : Nat}

/-- `x` and `y` behind each other, in `2 * w` places, the last ones zero. -/
def joined (b w x y : Nat) : Nat :=
  (x * b ^ (Nat.log b y + 1) + y) * b ^ (2 * w - (Nat.log b x + Nat.log b y + 2))

/-- No other pair of numbers of `w` places gives the same. -/
def Unshared (b w x y : Nat) : Prop :=
  ∀ x' < b ^ w, ∀ y' < b ^ w, joined b w x' y' = joined b w x y → x' = x ∧ y' = y

/-- Both numbers are zero; or the second one has a digit in its first and in
its last place and, behind the first, zeros down to where the leading digit of
the first number would stand. -/
def Delimits (b w x y : Nat) : Prop :=
  x = 0 ∧ y = 0 ∨
    b ^ (w - 1) ≤ y ∧ y % b ≠ 0 ∧ (x = 0 ∨ y % b ^ (w - 1) < b ^ Nat.log b x)

instance : Decidable (Delimits b w x y) := inferInstanceAs (Decidable (_ ∨ _))

/-! ## Leading digits -/

theorem log_lt_width (hw : 0 < w) (h : x < b ^ w) : Nat.log b x < w := by
  by_cases hx : x = 0
  · rw [hx, Nat.log_zero_right]
    exact hw
  · exact Nat.log_lt_of_lt_pow hx h

/-- A number with more digits behind it. -/
theorem log_mul_pow_add (hb : 1 < b) (hx : x ≠ 0) {d : Nat} (hy : y < b ^ d) :
    Nat.log b (x * b ^ d + y) = Nat.log b x + d := by
  refine Nat.log_eq_of_pow_le_of_lt_pow ?_ ?_
  · calc b ^ (Nat.log b x + d) = b ^ Nat.log b x * b ^ d := Nat.pow_add ..
      _ ≤ x * b ^ d := Nat.mul_le_mul_right _ (Nat.pow_log_le_self b hx)
      _ ≤ x * b ^ d + y := Nat.le_add_right _ _
  · have hlt : x + 1 ≤ b ^ (Nat.log b x + 1) := Nat.lt_pow_succ_log_self hb x
    calc x * b ^ d + y < x * b ^ d + b ^ d := Nat.add_lt_add_left hy _
      _ = (x + 1) * b ^ d := by rw [Nat.succ_mul]
      _ ≤ b ^ (Nat.log b x + 1) * b ^ d := Nat.mul_le_mul_right _ hlt
      _ = b ^ (Nat.log b x + d + 1) := by rw [← Nat.pow_add]; congr 1; omega

/-- A number of all `w` places. -/
theorem log_of_full (hw : 0 < w) (hfull : b ^ (w - 1) ≤ y) (hy : y < b ^ w) :
    Nat.log b y = w - 1 := by
  refine Nat.log_eq_of_pow_le_of_lt_pow hfull ?_
  rw [Nat.sub_add_cancel hw]
  exact hy

/-! ## Digits -/

/-- Both numbers with their own digits, and zeros behind them. -/
theorem digitsBE_joined (hb : 1 < b) (hx : Nat.log b x < w) (hy : Nat.log b y < w) :
    digitsBE b (2 * w) (joined b w x y) =
      digitsBE b (Nat.log b x + 1) x ++ digitsBE b (Nat.log b y + 1) y ++
        List.replicate (2 * w - (Nat.log b x + Nat.log b y + 2)) 0 := by
  have hplaces : 2 * w = Nat.log b x + 1 + (Nat.log b y + 1) +
      (2 * w - (Nat.log b x + Nat.log b y + 2)) := by omega
  rw [joined, ← digitsBE_mul_add (Nat.lt_pow_succ_log_self hb y), ← digitsBE_mul_pow (by omega),
    ← hplaces]

/-- Two numbers of `w` digits join to one of twice as many. -/
theorem joined_lt (hb : 1 < b) (hx : Nat.log b x < w) (hy : Nat.log b y < w) :
    joined b w x y < b ^ (2 * w) := by
  have hplaces : 2 * w = Nat.log b x + (Nat.log b y + 1) + 1 +
      (2 * w - (Nat.log b x + Nat.log b y + 2)) := by omega
  have hlt : x * b ^ (Nat.log b y + 1) + y < b ^ (Nat.log b x + (Nat.log b y + 1) + 1) := by
    by_cases hx0 : x = 0
    · rw [hx0, Nat.zero_mul, Nat.zero_add]
      exact (Nat.lt_pow_succ_log_self hb y).trans_le (Nat.pow_le_pow_right (by omega) (by omega))
    · rw [← log_mul_pow_add hb hx0 (Nat.lt_pow_succ_log_self hb y)]
      exact Nat.lt_pow_succ_log_self hb _
  rw [joined, hplaces, Nat.pow_add b _ (2 * w - _), ← hplaces]
  exact Nat.mul_lt_mul_of_pos_right hlt (Nat.pow_pos (by omega))

/-! ## Pairs with the same result -/

/-- A last zero may belong to the second number. -/
theorem joined_mul_base (hb : 1 < b) (hy : y ≠ 0) (hroom : Nat.log b x + Nat.log b y + 3 ≤ 2 * w) :
    joined b w x (y * b) = joined b w x y := by
  have hfill : 2 * w - (Nat.log b x + Nat.log b y + 2) =
      2 * w - (Nat.log b x + (Nat.log b y + 1) + 2) + 1 := by omega
  rw [joined, joined, Nat.log_mul_base hb hy, hfill, Nat.pow_succ b (2 * w - _)]
  ring

/-- Or to the first one, when the second is zero. -/
theorem joined_mul_base_zero (hb : 1 < b) (hx : x ≠ 0) (hroom : Nat.log b x + 3 ≤ 2 * w) :
    joined b w (x * b) 0 = joined b w x 0 := by
  have hfill : 2 * w - (Nat.log b x + 0 + 2) = 2 * w - (Nat.log b x + 1 + 0 + 2) + 1 := by omega
  rw [joined, joined, Nat.log_mul_base hb hx, Nat.log_zero_right, hfill, Nat.pow_succ b (2 * w - _)]
  ring

/-- The last digit of the first number may be the second one. -/
theorem joined_div_mod (hb : 1 < b) (hx : b ≤ x) (hroom : Nat.log b x + 2 ≤ 2 * w) :
    joined b w (x / b) (x % b) = joined b w x 0 := by
  have hlast : Nat.log b (x % b) = 0 := Nat.log_of_lt (Nat.mod_lt x (by omega))
  have hlog : Nat.log b x = Nat.log b (x / b) + 1 := Nat.log_of_one_lt_of_le hb hx
  have hfill : 2 * w - (Nat.log b (x / b) + 0 + 2) = 2 * w - (Nat.log b x + 0 + 2) + 1 := by omega
  have hwhole : x / b * b + x % b = x := by rw [Nat.mul_comm, Nat.div_add_mod]
  rw [joined, joined, hlast, Nat.log_zero_right, hfill, Nat.zero_add, Nat.pow_one, hwhole,
    Nat.pow_succ b (2 * w - _)]
  ring

/-- The first digits of the second number may belong to the first one. -/
theorem joined_shift (hb : 1 < b) (hx : x ≠ 0) {d hi lo : Nat} (hhi : hi < b ^ d)
    (hlog : Nat.log b (hi * b ^ (Nat.log b lo + 1) + lo) = d + Nat.log b lo) :
    joined b w (x * b ^ d + hi) lo = joined b w x (hi * b ^ (Nat.log b lo + 1) + lo) := by
  have hplaces : Nat.log b x + d + Nat.log b lo + 2 = Nat.log b x + (d + Nat.log b lo) + 2 := by
    omega
  rw [joined, joined, log_mul_pow_add hb hx hhi, hlog, hplaces]
  ring

theorem lt_pow_of_log_lt (hb : 1 < b) (h : Nat.log b x < w) : x < b ^ w :=
  (Nat.lt_pow_succ_log_self hb x).trans_le (Nat.pow_le_pow_right (by omega) h)

/-- The digits in front of the second number's rest move to the first number,
where there is room for them. -/
theorem exists_shared_of_full (hb : 1 < b) (hw : 1 < w) (hx0 : x ≠ 0) (hy : y < b ^ w)
    (hfull : b ^ (w - 1) ≤ y) (hlead : b ^ Nat.log b x ≤ y % b ^ (w - 1)) :
    ∃ x' < b ^ w, ∃ y' < b ^ w, joined b w x' y' = joined b w x y ∧ ¬(x' = x ∧ y' = y) := by
  have hlow : y % b ^ (w - 1) < b ^ (w - 1) := Nat.mod_lt _ (Nat.pow_pos (by omega))
  have hrest : y % b ^ (w - 1) ≤ y := Nat.mod_le y _
  generalize hlo : y % b ^ (w - 1) = lo at *
  have hr : Nat.log b lo < w - 1 := log_lt_width (by omega) hlow
  have hp : Nat.log b x ≤ Nat.log b lo := Nat.le_log_of_pow_le hb hlead
  have hylog := log_of_full (by omega) hfull hy
  obtain ⟨d, hd⟩ := Nat.exists_eq_add_of_lt hr
  -- below the leading digit of the rest nothing else is left of `y`
  have hmod : y % b ^ (Nat.log b lo + 1) = lo := by
    have hdvd : b ^ (Nat.log b lo + 1) ∣ b ^ (w - 1) := Nat.pow_dvd_pow b (by omega)
    rw [← Nat.mod_mod_of_dvd y hdvd, hlo]
    exact Nat.mod_eq_of_lt (Nat.lt_pow_succ_log_self hb lo)
  have hsplit : y / b ^ (Nat.log b lo + 1) * b ^ (Nat.log b lo + 1) + lo = y := by
    have hwhole := Nat.div_add_mod' y (b ^ (Nat.log b lo + 1))
    rw [hmod] at hwhole
    exact hwhole
  have hhi : y / b ^ (Nat.log b lo + 1) < b ^ (d + 1) := by
    rw [Nat.div_lt_iff_lt_mul (Nat.pow_pos (by omega)), ← Nat.pow_add]
    refine hy.trans_le (Nat.pow_le_pow_right (by omega) (by omega))
  have hlog : Nat.log b (y / b ^ (Nat.log b lo + 1) * b ^ (Nat.log b lo + 1) + lo) =
      d + 1 + Nat.log b lo := by
    rw [hsplit, hylog]
    omega
  have hsame := joined_shift (w := w) hb hx0 hhi hlog
  rw [hsplit] at hsame
  refine ⟨_, lt_pow_of_log_lt hb ?_, lo, hrest.trans_lt hy, hsame, fun heq => ?_⟩
  · rw [log_mul_pow_add hb hx0 hhi]
    omega
  · exact (hlow.trans_le hfull).ne heq.2

/-- A pair that does not delimit its numbers shares its result. -/
theorem exists_shared (hb : 1 < b) (hw : 1 < w) (hx : x < b ^ w) (hy : y < b ^ w)
    (h : ¬Delimits b w x y) :
    ∃ x' < b ^ w, ∃ y' < b ^ w, joined b w x' y' = joined b w x y ∧ ¬(x' = x ∧ y' = y) := by
  have hxlog := log_lt_width (by omega) hx
  have hylog := log_lt_width (by omega) hy
  rw [Delimits, not_or] at h
  by_cases hy0 : y = 0
  · have hx0 : x ≠ 0 := fun hx0 => h.1 ⟨hx0, hy0⟩
    rw [hy0] at hy ⊢
    by_cases hsmall : x < b
    · have hlog : Nat.log b x = 0 := Nat.log_of_lt hsmall
      refine ⟨x * b, lt_pow_of_log_lt hb ?_, 0, hy,
        joined_mul_base_zero hb hx0 (by omega), fun hsame => ?_⟩
      · rw [Nat.log_mul_base hb hx0]
        omega
      · exact (lt_mul_of_one_lt_right (Nat.pos_of_ne_zero hx0) hb).ne' hsame.1
    · have hle : b ≤ x := Nat.le_of_not_lt hsmall
      have hlt : x / b < x := Nat.div_lt_self (by omega) hb
      have hmod : x % b ≤ x := Nat.mod_le x b
      exact ⟨x / b, by omega, x % b, by omega, joined_div_mod hb hle (by omega),
        fun hsame => hlt.ne hsame.1⟩
  · by_cases hmod : y % b = 0
    · have hwhole : y / b * b = y := Nat.div_mul_cancel (Nat.dvd_of_mod_eq_zero hmod)
      have hne : y / b ≠ 0 := fun hzero => hy0 (by rw [← hwhole, hzero, Nat.zero_mul])
      have hlog : Nat.log b y = Nat.log b (y / b) + 1 := by
        rw [← Nat.log_mul_base hb hne, hwhole]
      have hlt : y / b < y := Nat.div_lt_self (Nat.pos_of_ne_zero hy0) hb
      have hsame : joined b w x (y / b * b) = joined b w x (y / b) :=
        joined_mul_base hb hne (by omega)
      rw [hwhole] at hsame
      exact ⟨x, hx, y / b, by omega, hsame.symm, fun hsame => hlt.ne hsame.2⟩
    · by_cases hfull : b ^ (w - 1) ≤ y
      · have hx0 : x ≠ 0 := fun hx0 => h.2 ⟨hfull, hmod, .inl hx0⟩
        have hlead : b ^ Nat.log b x ≤ y % b ^ (w - 1) :=
          Nat.le_of_not_lt fun hlt => h.2 ⟨hfull, hmod, .inr hlt⟩
        exact exists_shared_of_full hb hw hx0 hy hfull hlead
      · have hlog := log_lt_width (show 0 < w - 1 by omega) (Nat.lt_of_not_le hfull)
        refine ⟨x, hx, y * b, lt_pow_of_log_lt hb ?_, joined_mul_base hb hy0 (by omega),
          fun hsame => ?_⟩
        · rw [Nat.log_mul_base hb hy0]
          omega
        · exact (lt_mul_of_one_lt_right (Nat.pos_of_ne_zero hy0) hb).ne' hsame.2

/-! ## Pairs that share it with no other -/

/-- The digits of the second number and the zeros behind it. -/
def tail (b w x y : Nat) : Nat := y * b ^ (2 * w - (Nat.log b x + Nat.log b y + 2))

section Width

variable (hx : Nat.log b x < w) (hy : Nat.log b y < w)

include hx hy

/-- The places behind the first number. -/
theorem places_behind : 2 * w - (Nat.log b x + 1) =
    Nat.log b y + 1 + (2 * w - (Nat.log b x + Nat.log b y + 2)) := by omega

theorem joined_eq :
    joined b w x y = x * b ^ (2 * w - (Nat.log b x + 1)) + tail b w x y := by
  rw [joined, tail, places_behind hx hy, Nat.pow_add b (Nat.log b y + 1), Nat.add_mul,
    Nat.mul_assoc]

theorem tail_lt (hb : 1 < b) : tail b w x y < b ^ (2 * w - (Nat.log b x + 1)) := by
  rw [tail, places_behind hx hy, Nat.pow_add]
  exact Nat.mul_lt_mul_of_pos_right (Nat.lt_pow_succ_log_self hb y) (Nat.pow_pos (by omega))

/-- The leading digit stands in the first place, unless the first number is
zero. -/
theorem pow_le_joined_iff (hb : 1 < b) : b ^ (2 * w - 1) ≤ joined b w x y ↔ x ≠ 0 := by
  rw [joined_eq hx hy]
  constructor
  · rintro hle rfl
    have hlt := tail_lt hx hy hb
    rw [Nat.zero_mul, Nat.zero_add] at hle
    rw [Nat.log_zero_right] at hlt
    exact hlt.not_ge hle
  · intro hx0
    calc b ^ (2 * w - 1) = b ^ Nat.log b x * b ^ (2 * w - (Nat.log b x + 1)) := by
          rw [← Nat.pow_add]
          congr 1
          omega
      _ ≤ x * b ^ (2 * w - (Nat.log b x + 1)) :=
          Nat.mul_le_mul_right _ (Nat.pow_log_le_self b hx0)
      _ ≤ _ := Nat.le_add_right _ _

end Width

/-- A number that does not end in zero has the fewer zeros behind it. -/
theorem le_of_mul_pow_eq (hb : 0 < b) {m n j k : Nat} (hn : n % b ≠ 0)
    (h : m * b ^ j = n * b ^ k) : j ≤ k := by
  by_contra hlt
  obtain ⟨d, rfl⟩ := Nat.exists_eq_add_of_lt (Nat.lt_of_not_le hlt)
  have heq : m * b ^ d * b * b ^ k = n * b ^ k := by
    rw [← h]
    ring
  have hcancel := Nat.eq_of_mul_eq_mul_right (Nat.pow_pos hb) heq
  exact hn (by rw [← hcancel, Nat.mul_mod_left])

theorem eq_of_mul_add_eq {m x x' t t' : Nat} (ht : t < m) (ht' : t' < m)
    (h : x' * m + t' = x * m + t) : x' = x ∧ t' = t := by
  have hmod : (x' * m + t') % m = (x * m + t) % m := by rw [h]
  rw [Nat.mul_add_mod_of_lt ht', Nat.mul_add_mod_of_lt ht] at hmod
  rw [hmod] at h
  exact ⟨Nat.eq_of_mul_eq_mul_right (Nat.zero_lt_of_lt ht) (Nat.add_right_cancel h), hmod⟩

section Unshared

variable (hb : 1 < b) (hx : Nat.log b x < w) (hy : Nat.log b y = w - 1) (hmod : y % b ≠ 0)
  (hx' : Nat.log b x' < w) (hy' : Nat.log b y' < w)

include hb hx hy hmod hx' hy'

/-- The zeros behind a full second number are no more than the first leaves. -/
theorem log_le_add_log (h : joined b w x' y' = joined b w x y) :
    Nat.log b x + (w - 1) ≤ Nat.log b x' + Nat.log b y' := by
  have hlast : (x * b ^ (Nat.log b y + 1) + y) % b ≠ 0 := by
    rw [Nat.pow_succ, ← Nat.mul_assoc, Nat.mul_comm _ b, Nat.mul_add_mod]
    exact hmod
  have hfill := le_of_mul_pow_eq (by omega) hlast h
  omega

/-- The first number of a pair with the same result has no more digits: those
behind the leading one of `y` are zeros down to where `x` ends. -/
theorem log_first_le (hw : 1 < w) (hrest : y % b ^ (w - 1) < b ^ Nat.log b x)
    (h : joined b w x' y' = joined b w x y) : Nat.log b x' ≤ Nat.log b x := by
  by_contra hlt
  obtain ⟨d, hd⟩ := Nat.exists_eq_add_of_lt (Nat.lt_of_not_le hlt)
  have hplaces : 2 * w - (Nat.log b x' + 1) =
      w - (d + 1) + (2 * w - (Nat.log b x + Nat.log b y + 2)) := by omega
  -- what is below the first number's places, on both sides
  have htail : tail b w x' y' =
      y % b ^ (w - 1) * b ^ (2 * w - (Nat.log b x + Nat.log b y + 2)) := by
    have hlt' := tail_lt hx' hy' hb
    have hbelow : (x * b ^ (Nat.log b y + 1) + y) % b ^ (w - (d + 1)) = y % b ^ (w - 1) := by
      have hdvd : b ^ (w - (d + 1)) ∣ b ^ (Nat.log b y + 1) := Nat.pow_dvd_pow b (by omega)
      have hdvd' : b ^ (w - (d + 1)) ∣ b ^ (w - 1) := Nat.pow_dvd_pow b (by omega)
      have hsmall : y % b ^ (w - 1) < b ^ (w - (d + 1)) :=
        hrest.trans_le (Nat.pow_le_pow_right (by omega) (by omega))
      rw [Nat.add_mod, Nat.mod_eq_zero_of_dvd (Dvd.dvd.mul_left hdvd x), Nat.zero_add,
        Nat.mod_mod, ← Nat.mod_mod_of_dvd y hdvd', Nat.mod_eq_of_lt hsmall]
    have hmod' : joined b w x' y' % b ^ (2 * w - (Nat.log b x' + 1)) = tail b w x' y' := by
      rw [joined_eq hx' hy', Nat.mul_add_mod_of_lt hlt']
    rw [← hmod', h, hplaces, Nat.pow_add, joined, Nat.mul_mod_mul_right, hbelow]
  have hdigit : y % b ^ (w - 1) % b = y % b :=
    Nat.mod_mod_of_dvd y (dvd_pow_self b (by omega))
  have hne : y' ≠ 0 := by
    rintro rfl
    rw [tail, Nat.zero_mul] at htail
    rcases Nat.mul_eq_zero.mp htail.symm with hzero | hzero
    · rw [hzero, Nat.zero_mod] at hdigit
      exact hmod hdigit.symm
    · exact (Nat.pow_pos (show 0 < b by omega)).ne' hzero
  have hlow : b ^ (2 * w - (Nat.log b x' + 2)) ≤ tail b w x' y' := by
    calc b ^ (2 * w - (Nat.log b x' + 2))
        = b ^ Nat.log b y' * b ^ (2 * w - (Nat.log b x' + Nat.log b y' + 2)) := by
          rw [← Nat.pow_add]
          congr 1
          omega
      _ ≤ tail b w x' y' := Nat.mul_le_mul_right _ (Nat.pow_log_le_self b hne)
  have hhigh : tail b w x' y' < b ^ (w - 1) := by
    calc tail b w x' y'
        < b ^ Nat.log b x * b ^ (2 * w - (Nat.log b x + Nat.log b y + 2)) := by
          rw [htail]
          exact Nat.mul_lt_mul_of_pos_right hrest (Nat.pow_pos (by omega))
      _ = b ^ (w - 1) := by
          rw [← Nat.pow_add]
          congr 1
          omega
  have hexp := (Nat.pow_lt_pow_iff_right hb).mp (hlow.trans_lt hhigh)
  omega

end Unshared

/-- **The pairs whose result no other pair has.** -/
theorem joined_unshared_iff (hb : 1 < b) (hw : 1 < w) (hx : x < b ^ w) (hy : y < b ^ w) :
    Unshared b w x y ↔ Delimits b w x y := by
  constructor
  · intro h
    by_contra hnot
    obtain ⟨x', hx', y', hy', hsame, hother⟩ := exists_shared hb hw hx hy hnot
    exact hother (h x' hx' y' hy' hsame)
  · intro h x' hx' y' hy' hsame
    have hxlog := log_lt_width (by omega) hx
    have hxlog' := log_lt_width (by omega) hx'
    have hylog' := log_lt_width (by omega) hy'
    rcases h with ⟨rfl, rfl⟩ | ⟨hfull, hmod, hrest⟩
    · have hpow : ∀ k, b ^ k ≠ 0 := fun k => (Nat.pow_pos (by omega)).ne'
      rw [joined, joined, Nat.zero_mul, Nat.zero_add, Nat.zero_mul, Nat.mul_eq_zero,
        or_iff_left (hpow _), Nat.add_eq_zero_iff, Nat.mul_eq_zero, or_iff_left (hpow _)] at hsame
      exact hsame
    · have hylog := log_of_full (by omega) hfull hy
      have hle := log_le_add_log hb hxlog hylog hmod hxlog' hylog' hsame
      have hfirst : Nat.log b x' ≤ Nat.log b x := by
        rcases hrest with rfl | hrest
        · have hzero : ¬b ^ (2 * w - 1) ≤ joined b w 0 y := fun hle =>
            (pow_le_joined_iff hxlog (by omega) hb).mp hle rfl
          have hx0 : x' = 0 := by
            by_contra hne
            rw [← hsame] at hzero
            exact hzero ((pow_le_joined_iff hxlog' hylog' hb).mpr hne)
          rw [hx0]
        · exact log_first_le hb hxlog hylog hmod hxlog' hylog' hw hrest hsame
      have hplaces : Nat.log b x' = Nat.log b x := by omega
      have hplaces' : Nat.log b y' = Nat.log b y := by omega
      have htail := tail_lt hxlog (show Nat.log b y < w by omega) hb
      have htail' := tail_lt hxlog' hylog' hb
      rw [joined_eq hxlog' hylog', joined_eq hxlog (by omega), hplaces] at hsame
      rw [hplaces] at htail'
      obtain ⟨hxeq, hteq⟩ := eq_of_mul_add_eq htail htail' hsame
      rw [tail, tail, hplaces, hplaces'] at hteq
      exact ⟨hxeq, Nat.eq_of_mul_eq_mul_right (Nat.pow_pos (by omega)) hteq⟩

end GameServer
