import CreditHedge.Lib.DecimalRounding
import Mathlib.Algebra.Order.Floor.Div
import Mathlib.Data.Nat.Log

/-!
# A count taken back from its rounded share

Of `n` things `k` are counted, and the share `k / n` is rounded to `p` digits. The count is then
taken back as the whole part of the share times `n`, which is rounded to `p` digits itself.

The first rounding misses the share by what the division leaves over, so the product misses `k` by
as much, in units of the share's last digit. Above `k` that is harmless as long as `k` has fewer
than `p` digits: it is cut off. Below `k` it costs one unless the second rounding brings the product
back to `k` (`Absorbed`). That is all (`floor_share_eq_iff`), and it is a condition on the two
counts.
-/

set_option autoImplicit false

namespace Digits

/-! ## What the first rounding leaves -/

section Scale

variable {b p k n : ℕ}

/-- How far the point has to move for all `p` digits of the share to stand before it. -/
def shareScale (b p k n : ℕ) : ℕ := Nat.clog b (b ^ (p - 1) * n ⌈/⌉ k)

theorem shareScale_spec (hb : 1 < b) (hp : 0 < p) (hk : 0 < k) (hkn : k ≤ n) :
    b ^ (p - 1) * n ≤ b ^ shareScale b p k n * k ∧ b ^ shareScale b p k n * k < b ^ p * n := by
  constructor
  · rw [mul_comm (b ^ _) k]
    exact (ceilDiv_le_iff_le_mul hk).mp (Nat.le_pow_clog hb _)
  · cases hscale : shareScale b p k n with
    | zero =>
      have hpow : 1 < b ^ p := Nat.one_lt_pow hp.ne' hb
      nlinarith
    | succ m =>
      have hlt : b ^ m < b ^ (p - 1) * n ⌈/⌉ k := by
        refine (Nat.lt_clog_iff_pow_lt hb).mp ?_
        rw [shareScale] at hscale
        omega
      -- one place less is not enough
      have hless : k * b ^ m < b ^ (p - 1) * n := by
        by_contra hge
        exact hlt.not_ge ((ceilDiv_le_iff_le_mul hk).mpr (not_lt.mp hge))
      calc b ^ (m + 1) * k = b * (k * b ^ m) := by ring
        _ < b * (b ^ (p - 1) * n) := Nat.mul_lt_mul_of_pos_left hless (by omega)
        _ = b ^ p * n := by
          rw [← mul_assoc, mul_pow_sub_one hp.ne']

end Scale

section Share

variable {α : Type*} [Field α] [LinearOrder α] [IsStrictOrderedRing α] {b p k n : ℕ}

theorem hasUnit_share (hb : 1 < b) (hp : 0 < p) (hk : 0 < k) (hkn : k ≤ n) :
    HasUnit b p (-(shareScale b p k n : ℤ)) ((k : α) / n) := by
  have hn : (0 : α) < n := Nat.cast_pos.mpr (hk.trans_le hkn)
  have hscale : (0 : α) < (b ^ shareScale b p k n : ℕ) :=
    Nat.cast_pos.mpr (Nat.pow_pos (one_pos.trans hb))
  have hunit (d : ℕ) : (b : α) ^ (-(shareScale b p k n : ℤ) + d) =
      (b ^ d : ℕ) / (b ^ shareScale b p k n : ℕ) := by
    rw [unit_add hb, zpow_neg, zpow_natCast, div_eq_mul_inv]
    push_cast
    rfl
  obtain ⟨hlow, hhigh⟩ := shareScale_spec hb hp hk hkn
  constructor
  · rw [show -(shareScale b p k n : ℤ) + p - 1 = -(shareScale b p k n : ℤ) + (p - 1 : ℕ) by omega,
      hunit, div_le_div_iff₀ hscale hn, mul_comm (k : α)]
    exact_mod_cast hlow
  · rw [hunit, div_lt_div_iff₀ hn hscale, mul_comm (k : α)]
    exact_mod_cast hhigh

variable [FloorRing α]

/-- The share, rounded and multiplied out again. -/
theorem roundDigits_share_mul (hb : 1 < b) (hp : 0 < p) (hk : 0 < k) (hkn : k ≤ n) :
    roundDigits b p ((k : α) / n) * n =
      (n * roundHalfEven (((b ^ shareScale b p k n * k : ℕ) : α) / n) : ℤ) /
        (b ^ shareScale b p k n : ℕ) := by
  have hn : (0 : α) < n := Nat.cast_pos.mpr (hk.trans_le hkn)
  have hquotient : (k : α) / n / (b : α) ^ (-(shareScale b p k n : ℤ)) =
      ((b ^ shareScale b p k n * k : ℕ) : α) / n := by
    rw [zpow_neg, zpow_natCast, div_inv_eq_mul]
    push_cast
    ring
  rw [(hasUnit_share hb hp hk hkn).roundDigits_eq hb, hquotient, zpow_neg, zpow_natCast,
    Int.cast_mul]
  push_cast
  ring

/-- Where the share is rounded up the product is past the count, by less than half a unit for each
    thing counted. -/
theorem roundDigits_share_mul_of_carriesUp (hb : 1 < b) (hp : 0 < p) (hk : 0 < k) (hkn : k ≤ n)
    (h : CarriesUp (b ^ shareScale b p k n * k) n) :
    roundDigits b p ((k : α) / n) * n =
      ((b ^ shareScale b p k n * k + (n - b ^ shareScale b p k n * k % n) : ℕ) : α) /
        (b ^ shareScale b p k n : ℕ) := by
  have hn : 0 < n := hk.trans_le hkn
  rw [roundDigits_share_mul hb hp hk hkn, roundHalfEven_div_of_carriesUp hn h]
  congr 1
  generalize b ^ shareScale b p k n * k = a
  have hsplit := Nat.div_add_mod a n
  have hlt := Nat.mod_lt a hn
  have : n * (a / n + 1) = a + (n - a % n) := by
    rw [Nat.mul_succ]
    omega
  exact_mod_cast this

/-- Where it is not rounded up the product falls short by what the division leaves over. -/
theorem roundDigits_share_mul_of_not_carriesUp (hb : 1 < b) (hp : 0 < p) (hk : 0 < k)
    (hkn : k ≤ n) (h : ¬ CarriesUp (b ^ shareScale b p k n * k) n) :
    roundDigits b p ((k : α) / n) * n =
      ((b ^ shareScale b p k n * k - b ^ shareScale b p k n * k % n : ℕ) : α) /
        (b ^ shareScale b p k n : ℕ) := by
  have hn : 0 < n := hk.trans_le hkn
  rw [roundDigits_share_mul hb hp hk hkn, roundHalfEven_div_of_not_carriesUp hn h]
  congr 1
  generalize b ^ shareScale b p k n * k = a
  have : n * (a / n) = a - a % n := by
    have hsplit := Nat.div_add_mod a n
    omega
  exact_mod_cast this

end Share

/-! ## What the second rounding makes good -/

/-- A number that misses `k` by so many `b ^ m`-ths is rounded back to `k`, when `b ^ d` is the
    power of the base that `k` is read up to: `k` has no more than `p` digits, and the error is less
    than half of the last of them, or the half that goes to an even digit. -/
def Absorbed (b p k m d error : ℕ) : Prop :=
  b ^ d ∣ b ^ p * k ∧
    (2 * error * b ^ p < b ^ (m + d) ∨
      2 * error * b ^ p = b ^ (m + d) ∧ Even (b ^ p * k / b ^ d))

instance (b p k m d error : ℕ) : Decidable (Absorbed b p k m d error) :=
  inferInstanceAs (Decidable (_ ∧ _))

section Absorption

variable {α : Type*} [Field α] [LinearOrder α] [IsStrictOrderedRing α]
  {b p k m d a error c : ℕ}

theorem isNearest_scaled (hb : 1 < b) (hc : b ^ p * k = c * b ^ d)
    (herror : |(a : ℤ) - b ^ m * k| = error) :
    IsNearest ((a : α) / (b ^ m : ℕ) / (b : α) ^ ((d : ℤ) - p)) c ↔
      2 * error * b ^ p < b ^ (m + d) ∨ 2 * error * b ^ p = b ^ (m + d) ∧ Even c := by
  have hbase : (b : α) ≠ 0 := Nat.cast_ne_zero.mpr (one_pos.trans hb).ne'
  have hpos : 0 < b ^ (m + d) := Nat.pow_pos (one_pos.trans hb)
  have hquotient : (a : α) / (b ^ m : ℕ) / (b : α) ^ ((d : ℤ) - p) =
      ((a * b ^ p : ℕ) : ℤ) / (b ^ (m + d) : ℕ) := by
    rw [zpow_sub₀ hbase, zpow_natCast, zpow_natCast]
    push_cast
    rw [pow_add]
    field_simp
  have hmiss : |((a * b ^ p : ℕ) : ℤ) - (c : ℤ) * (b ^ (m + d) : ℕ)| = (error * b ^ p : ℕ) := by
    have hfactor : ((a * b ^ p : ℕ) : ℤ) - (c : ℤ) * (b ^ (m + d) : ℕ) =
        ((a : ℤ) - b ^ m * k) * (b ^ p : ℕ) := by
      have hcast : (b : ℤ) ^ p * k = c * b ^ d := by exact_mod_cast hc
      push_cast
      rw [pow_add]
      linear_combination (b : ℤ) ^ m * hcast
    rw [hfactor, abs_mul, herror, Nat.abs_cast]
    push_cast
    rfl
  rw [hquotient, isNearest_div_iff hpos, hmiss, mul_assoc]
  exact_mod_cast Iff.rfl

/-- A number of at most `p` digits, read up to the power of the base next to it. -/
theorem pow_dvd_of_eq_mul_zpow (hb : 1 < b) (hp : 0 < p) (hlow : b ^ d ≤ b * k) {e : ℤ}
    (hc : c ≤ b ^ p) (h : (k : α) = c * (b : α) ^ e) : b ^ d ∣ b ^ p * k := by
  have hpow : ((b ^ p * k : ℕ) : α) = c * (b : α) ^ (e + p) := by
    rw [unit_add hb]
    push_cast
    rw [h]
    ring
  rcases le_or_gt (d : ℤ) (e + p) with hle | hlt
  · obtain ⟨t, ht⟩ := Int.le.dest hle
    refine Dvd.intro_left (c * b ^ t) ?_
    have hcast : ((c * b ^ t * b ^ d : ℕ) : α) = (b ^ p * k : ℕ) := by
      rw [hpow, ← ht, unit_add hb, zpow_natCast]
      push_cast
      ring
    exact_mod_cast hcast
  · -- then `k` is at most, and so exactly, the next power below
    have htop : ((b * k : ℕ) : α) ≤ (b ^ d : ℕ) := by
      calc ((b * k : ℕ) : α) = c * (b : α) ^ (e + (1 : ℕ)) := by
            rw [unit_add hb]
            push_cast
            rw [h]
            ring
        _ ≤ (b ^ p : ℕ) * (b : α) ^ (e + (1 : ℕ)) :=
            mul_le_mul_of_nonneg_right (Nat.cast_le.mpr hc) (unit_pos hb _).le
        _ = (b : α) ^ (e + (1 : ℕ) + p) := (unit_add hb _ p).symm
        _ ≤ (b : α) ^ (d : ℤ) := unit_mono hb (by omega)
        _ = (b ^ d : ℕ) := by
            rw [zpow_natCast]
            push_cast
            rfl
    have heq : b * k = b ^ d := le_antisymm (by exact_mod_cast htop) hlow
    refine Dvd.intro_left (b ^ (p - 1)) ?_
    rw [← heq, ← mul_assoc, pow_sub_one_mul hp.ne']

theorem natCast_eq_mul_zpow (hb : 1 < b) (hc : b ^ p * k = c * b ^ d) :
    (k : α) = c * (b : α) ^ ((d : ℤ) - p) := by
  have hbase : (b : α) ≠ 0 := Nat.cast_ne_zero.mpr (one_pos.trans hb).ne'
  have hcast : (b : α) ^ p * k = c * (b : α) ^ d := by exact_mod_cast hc
  rw [zpow_sub₀ hbase, zpow_natCast, zpow_natCast, mul_div_assoc', ← hcast]
  field_simp

/-- Where `x` is `k` or more, `b ^ d` is the first power of the base past `k`; where it is `k` or
    less, the first that `k` is not past. The two differ at a power of the base, below which the
    unit is the smaller one. -/
def ReadUpTo (b k d : ℕ) (x : α) : Prop :=
  (k ≤ x ∧ b ^ d ≤ b * k ∧ k < b ^ d) ∨ (x ≤ k ∧ b ^ d < b * k ∧ k ≤ b ^ d)

omit [IsStrictOrderedRing α] in
theorem ReadUpTo.pow_le {x : α} (h : ReadUpTo b k d x) : b ^ d ≤ b * k := by
  rcases h with ⟨-, hlow, -⟩ | ⟨-, hlow, -⟩
  · exact hlow
  · exact hlow.le

variable [FloorRing α]

/-- A number goes to `k` when it is nearest to the digits of `k`. -/
theorem roundDigits_eq_natCast_iff_isNearest {x : α} (hb : 1 < b) (hp : 0 < p) (hx : 0 < x)
    (hc : b ^ p * k = c * b ^ d) (hread : ReadUpTo b k d x) :
    roundDigits b p x = k ↔ IsNearest (x / (b : α) ^ ((d : ℤ) - p)) c := by
  have hbase : 0 < b := one_pos.trans hb
  have hpower : 0 < b ^ d := Nat.pow_pos hbase
  have hdigits : (k : α) = c * (b : α) ^ ((d : ℤ) - p) := natCast_eq_mul_zpow hb hc
  have hshift : b ^ (p - 1) * (b * k) = c * b ^ d := by
    rw [← mul_assoc, pow_sub_one_mul hp.ne', hc]
  rw [hdigits]
  rcases hread with ⟨hle, hlow, hhigh⟩ | ⟨hle, hlow, hhigh⟩
  · refine roundDigits_eq_iff_of_le hb hp ?_ ?_ (hdigits ▸ hle)
    · exact Nat.le_of_mul_le_mul_right ((Nat.mul_le_mul_left _ hlow).trans_eq hshift) hpower
    · refine Nat.lt_of_mul_lt_mul_right (a := b ^ d) ?_
      rw [← hc]
      exact Nat.mul_lt_mul_of_pos_left hhigh (Nat.pow_pos hbase)
  · refine roundDigits_eq_iff_of_ge hb hp ?_ ?_ hx (hdigits ▸ hle)
    · refine Nat.lt_of_mul_lt_mul_right (a := b ^ d) ?_
      rw [← hshift]
      exact Nat.mul_lt_mul_of_pos_left hlow (Nat.pow_pos hbase)
    · refine Nat.le_of_mul_le_mul_right ?_ hpower
      rw [← hc]
      exact Nat.mul_le_mul_left _ hhigh

/-- **When the second rounding is back at the count**, from above and from below. -/
theorem roundDigits_eq_natCast_iff (hb : 1 < b) (hp : 0 < p) (ha : 0 < a)
    (herror : |(a : ℤ) - b ^ m * k| = error)
    (hread : ReadUpTo b k d ((a : α) / (b ^ m : ℕ))) :
    roundDigits b p ((a : α) / (b ^ m : ℕ)) = k ↔ Absorbed b p k m d error := by
  have hx : (0 : α) < (a : α) / (b ^ m : ℕ) :=
    div_pos (Nat.cast_pos.mpr ha) (Nat.cast_pos.mpr (Nat.pow_pos (one_pos.trans hb)))
  constructor
  · intro hround
    -- being the result of a rounding, `k` has at most `p` digits
    obtain ⟨c', e, -, hc', heq⟩ := exists_roundDigits_eq hb hp hx
    have hdvd := pow_dvd_of_eq_mul_zpow hb hp hread.pow_le hc' (hround.symm.trans heq)
    have hc := (Nat.div_mul_cancel hdvd).symm
    have hnear := (roundDigits_eq_natCast_iff_isNearest hb hp hx hc hread).mp hround
    exact ⟨hdvd, (isNearest_scaled hb hc herror).mp hnear⟩
  · rintro ⟨hdvd, habsorbed⟩
    have hc := (Nat.div_mul_cancel hdvd).symm
    have hnear := (isNearest_scaled (α := α) hb hc herror).mpr habsorbed
    exact (roundDigits_eq_natCast_iff_isNearest hb hp hx hc hread).mpr hnear

end Absorption

/-! ## The count -/

/-- Either nothing is counted, or the share is rounded up and the count has fewer than `p` digits,
    or the second rounding makes good what the first has missed. -/
def Recoverable (b p k n : ℕ) : Prop :=
  k = 0 ∨
    if CarriesUp (b ^ shareScale b p k n * k) n then
      k < b ^ (p - 1) ∨
        Absorbed b p k (shareScale b p k n) (Nat.log b k + 1)
          (n - b ^ shareScale b p k n * k % n)
    else
      Absorbed b p k (shareScale b p k n) (Nat.clog b k) (b ^ shareScale b p k n * k % n)

instance (b p k n : ℕ) : Decidable (Recoverable b p k n) := inferInstanceAs (Decidable (_ ∨ _))

section Count

variable {α : Type*} [Field α] [LinearOrder α] [IsStrictOrderedRing α] [FloorRing α]
  {b p k n : ℕ} {x : α}

@[simp] theorem roundDigits_zero (b p : ℕ) : roundDigits b p (0 : α) = 0 := by
  rw [roundDigits, zero_div, ← Int.cast_zero, roundHalfEven_intCast, Int.cast_zero, zero_mul]

/-- From `p` digits before the point on, none is left after it. -/
theorem exists_roundDigits_eq_natCast (hb : 1 < b) (hp : 0 < p) (hx : (b ^ (p - 1) : ℕ) ≤ x) :
    ∃ z : ℕ, roundDigits b p x = z := by
  have hpos : 0 < x :=
    (Nat.cast_pos.mpr (Nat.pow_pos (one_pos.trans hb))).trans_le hx
  obtain ⟨c, e, he, -, heq⟩ := exists_roundDigits_eq hb hp hpos
  have hlt : (b : α) ^ ((p - 1 : ℕ) : ℤ) < (b : α) ^ (e + p) := by
    refine lt_of_le_of_lt ?_ he.lt
    rw [zpow_natCast]
    exact_mod_cast hx
  have hexponent := (zpow_lt_zpow_iff_right₀ (Nat.one_lt_cast.mpr hb)).mp hlt
  obtain ⟨t, rfl⟩ := Int.eq_ofNat_of_zero_le (show 0 ≤ e by omega)
  exact ⟨c * b ^ t, by rw [heq, zpow_natCast]; push_cast; rfl⟩

/-- The whole part is the count only where nothing has to be cut off. -/
theorem floor_eq_natCast_iff (h : (∃ z : ℕ, x = z) ∨ x ≤ k) : ⌊x⌋ = k ↔ x = k := by
  constructor
  · intro hfloor
    rcases h with ⟨z, rfl⟩ | hle
    · rw [Int.floor_natCast] at hfloor
      exact_mod_cast hfloor
    · refine le_antisymm hle ?_
      have := Int.floor_le x
      rw [hfloor] at this
      exact_mod_cast this
  · rintro rfl
    exact Int.floor_natCast k

/-- Past the count by less than it takes to reach the next: cut off. -/
theorem floor_roundDigits_eq (hb : 1 < b) (hp : 0 < p) (hk : 0 < k) (hlt : k < b ^ (p - 1))
    (hle : (k : α) ≤ x) (hnear : 2 * (b ^ (p - 1) : ℕ) * (x - k) ≤ k) :
    ⌊roundDigits b p x⌋ = k := by
  have hbase : (k : α) + 1 ≤ (b ^ (p - 1) : ℕ) := by exact_mod_cast hlt
  have hcount : (0 : α) < k := Nat.cast_pos.mpr hk
  have hdigits : k ≤ b ^ p := hlt.le.trans (Nat.pow_le_pow_right (by omega) (Nat.sub_le p 1))
  refine Int.floor_eq_iff.mpr ⟨?_, ?_⟩
  · exact_mod_cast natCast_le_roundDigits hb hp hk hdigits hle
  · have herror := abs_roundDigits_sub_le hb hp (hcount.trans_le hle)
    have hself := le_abs_self (roundDigits b p x - x)
    have hhalf : x - k < 1 / 2 := by
      by_contra hge
      nlinarith
    have hrest : roundDigits b p x - x < 1 / 2 := by
      by_contra hge
      nlinarith
    push_cast
    linarith

theorem floor_roundDigits_eq_iff_above {m a : ℕ} (hb : 1 < b) (hp : 0 < p) (hk : 0 < k)
    (hle : b ^ m * k ≤ a) (hmiss : 2 * b ^ (p - 1) * (a - b ^ m * k) ≤ b ^ m * k) :
    ⌊roundDigits b p ((a : α) / (b ^ m : ℕ))⌋ = k ↔
      k < b ^ (p - 1) ∨ Absorbed b p k m (Nat.log b k + 1) (a - b ^ m * k) := by
  have hscale : (0 : α) < (b ^ m : ℕ) := Nat.cast_pos.mpr (Nat.pow_pos (one_pos.trans hb))
  have hcount : (k : α) ≤ (a : α) / (b ^ m : ℕ) := by
    rw [le_div_iff₀ hscale, mul_comm]
    exact_mod_cast hle
  rcases lt_or_ge k (b ^ (p - 1)) with hlt | hge
  · refine iff_of_true (floor_roundDigits_eq hb hp hk hlt hcount ?_) (.inl hlt)
    have hdiff : (a : α) / (b ^ m : ℕ) - k = (a - b ^ m * k : ℕ) / (b ^ m : ℕ) := by
      rw [Nat.cast_sub hle, sub_div, Nat.cast_mul, mul_div_cancel_left₀ _ hscale.ne']
    rw [hdiff, mul_div_assoc', div_le_iff₀ hscale, mul_comm (k : α)]
    exact_mod_cast hmiss
  · have hwhole := exists_roundDigits_eq_natCast hb hp ((Nat.cast_le.mpr hge).trans hcount)
    have hpos : 0 < a := (Nat.mul_pos (Nat.pow_pos (one_pos.trans hb)) hk).trans_le hle
    have herror : |(a : ℤ) - b ^ m * k| = (a - b ^ m * k : ℕ) := by
      rw [Nat.cast_sub hle, abs_of_nonneg (sub_nonneg.mpr (by exact_mod_cast hle))]
      push_cast
      rfl
    rw [floor_eq_natCast_iff (.inl hwhole), or_iff_right hge.not_gt]
    refine roundDigits_eq_natCast_iff hb hp hpos herror (.inl ⟨hcount, ?_, ?_⟩)
    · rw [pow_succ']
      exact Nat.mul_le_mul_left b (Nat.pow_log_le_self b hk.ne')
    · exact Nat.lt_pow_succ_log_self hb k

theorem floor_roundDigits_eq_iff_below {m a : ℕ} (hb : 1 < b) (hp : 0 < p) (hk : 0 < k)
    (ha : 0 < a) (hle : a ≤ b ^ m * k) :
    ⌊roundDigits b p ((a : α) / (b ^ m : ℕ))⌋ = k ↔
      Absorbed b p k m (Nat.clog b k) (b ^ m * k - a) := by
  have hscale : (0 : α) < (b ^ m : ℕ) := Nat.cast_pos.mpr (Nat.pow_pos (one_pos.trans hb))
  have hpos : (0 : α) < (a : α) / (b ^ m : ℕ) := div_pos (Nat.cast_pos.mpr ha) hscale
  have hcount : (a : α) / (b ^ m : ℕ) ≤ k := by
    rw [div_le_iff₀ hscale, mul_comm]
    exact_mod_cast hle
  have hdigits : b ^ (p - 1) ≤ b ^ p := Nat.pow_le_pow_right (by omega) (Nat.sub_le p 1)
  -- what is carried up is not carried past a number of at most `p` digits
  have hcapped {c : ℕ} (hc : c ≤ b ^ (p - 1)) (hx : (a : α) / (b ^ m : ℕ) ≤ c) :
      roundDigits b p ((a : α) / (b ^ m : ℕ)) ≤ c :=
    roundDigits_le_natCast hb hp hpos (hc.trans hdigits) hx
  have hcut : (∃ z : ℕ, roundDigits b p ((a : α) / (b ^ m : ℕ)) = z) ∨
      roundDigits b p ((a : α) / (b ^ m : ℕ)) ≤ k := by
    rcases le_total k (b ^ (p - 1)) with hfew | hmany
    · exact .inr (hcapped hfew hcount)
    · rcases le_total ((b ^ (p - 1) : ℕ) : α) ((a : α) / (b ^ m : ℕ)) with hge | hless
      · exact .inl (exists_roundDigits_eq_natCast hb hp hge)
      · exact .inr ((hcapped le_rfl hless).trans (Nat.cast_le.mpr hmany))
  have herror : |(a : ℤ) - b ^ m * k| = (b ^ m * k - a : ℕ) := by
    rw [Nat.cast_sub hle, abs_sub_comm, abs_of_nonneg (sub_nonneg.mpr (by exact_mod_cast hle))]
    push_cast
    rfl
  rw [floor_eq_natCast_iff hcut]
  refine roundDigits_eq_natCast_iff hb hp ha herror (.inr ⟨hcount, ?_, Nat.le_pow_clog hb k⟩)
  -- a count of one is the power itself
  rcases (show 1 ≤ k from hk).eq_or_lt with rfl | hmore
  · simpa using hb
  · have hbelow := Nat.pow_pred_clog_lt_self hb hmore
    rw [← mul_pow_sub_one (Nat.clog_pos hb hmore).ne']
    exact Nat.mul_lt_mul_of_pos_left hbelow (one_pos.trans hb)

/-- For a count of fewer than `p` digits of an even base there is only one thing to ask: whether the
    share was rounded up, or down by no more than the second rounding gives back. -/
theorem recoverable_iff_of_lt (hb : 1 < b) (heven : Even b) (hk : 0 < k)
    (hlt : k < b ^ (p - 1)) :
    Recoverable b p k n ↔
      CarriesUp (b ^ shareScale b p k n * k) n ∨
        2 * (b ^ shareScale b p k n * k % n) * b ^ p ≤ b ^ (shareScale b p k n + Nat.clog b k) := by
  have hdigits : Nat.clog b k ≤ p - 1 := Nat.clog_le_of_le_pow hlt.le
  have hp : p ≠ 0 := by
    rintro rfl
    rw [Nat.zero_sub, pow_zero] at hlt
    omega
  rw [Recoverable, or_iff_right hk.ne']
  split_ifs with hup
  · exact iff_of_true (.inl hlt) (.inl hup)
  · have hsplit : b ^ p * k = b ^ (p - Nat.clog b k) * k * b ^ Nat.clog b k := by
      rw [mul_right_comm, ← pow_add, Nat.sub_add_cancel (by omega)]
    have hwhole : b ^ p * k / b ^ Nat.clog b k = b ^ (p - Nat.clog b k) * k := by
      rw [hsplit, Nat.mul_div_cancel _ (Nat.pow_pos (one_pos.trans hb))]
    have hlast : Even (b ^ p * k / b ^ Nat.clog b k) := by
      rw [hwhole]
      exact (heven.pow_of_ne_zero (by omega)).mul_right k
    rw [or_iff_right hup, Absorbed, and_iff_right (Dvd.intro_left _ hsplit.symm),
      and_iff_left hlast, le_iff_lt_or_eq]

/-- Shares in a divisor of a power of the base have few enough digits: nothing is lost. -/
theorem recoverable_of_dvd (hb : 1 < b) (hp : 0 < p) (hkn : k ≤ n) (h : n ∣ b ^ (p - 1)) :
    Recoverable b p k n := by
  rcases Nat.eq_zero_or_pos k with rfl | hk
  · exact .inl rfl
  have hn : 0 < n := hk.trans_le hkn
  have hpow : 0 < b ^ (p - 1) := Nat.pow_pos (one_pos.trans hb)
  have hscale : b ^ (p - 1) ≤ b ^ shareScale b p k n := by
    refine Nat.le_of_mul_le_mul_right ?_ hn
    exact (shareScale_spec hb hp hk hkn).1.trans (Nat.mul_le_mul_left _ hkn)
  have hdvd : n ∣ b ^ shareScale b p k n * k :=
    (h.trans (pow_dvd_pow b ((Nat.pow_le_pow_iff_right hb).mp hscale))).mul_right k
  have hnone := Nat.mod_eq_zero_of_dvd hdvd
  have hdown : ¬ CarriesUp (b ^ shareScale b p k n * k) n := by
    rw [CarriesUp, hnone]
    omega
  have hdigits : k ≤ b ^ p :=
    (hkn.trans (Nat.le_of_dvd hpow h)).trans (Nat.pow_le_pow_right (by omega) (Nat.sub_le p 1))
  right
  rw [if_neg hdown, hnone]
  refine ⟨(pow_dvd_pow b (Nat.clog_le_of_le_pow hdigits)).mul_right k, .inl ?_⟩
  rw [Nat.mul_zero, Nat.zero_mul]
  exact Nat.pow_pos (one_pos.trans hb)

/-- **When the count is taken back from its share.** -/
theorem floor_share_eq_iff (hb : 1 < b) (hp : 0 < p) (hn : 0 < n) (hkn : k ≤ n) :
    ⌊roundDigits b p (roundDigits b p ((k : α) / n) * n)⌋ = k ↔ Recoverable b p k n := by
  rcases Nat.eq_zero_or_pos k with rfl | hk
  · refine iff_of_true ?_ (.inl rfl)
    simp
  obtain ⟨hlow, -⟩ := shareScale_spec hb hp hk hkn
  have hless := Nat.mod_lt (b ^ shareScale b p k n * k) hn
  rw [Recoverable, or_iff_right hk.ne']
  split_ifs with hup
  · rw [roundDigits_share_mul_of_carriesUp hb hp hk hkn hup,
      floor_roundDigits_eq_iff_above hb hp hk (Nat.le_add_right _ _), Nat.add_sub_cancel_left]
    -- rounded up, the division has left half of `n` or more
    have hhalf : 2 * (n - b ^ shareScale b p k n * k % n) ≤ n := by
      rcases hup with hmore | ⟨hhalf, -⟩
      · omega
      · omega
    rw [Nat.add_sub_cancel_left]
    calc 2 * b ^ (p - 1) * (n - b ^ shareScale b p k n * k % n)
        = b ^ (p - 1) * (2 * (n - b ^ shareScale b p k n * k % n)) := by ring
      _ ≤ b ^ (p - 1) * n := Nat.mul_le_mul_left _ hhalf
      _ ≤ b ^ shareScale b p k n * k := hlow
  · have hpos : 0 < b ^ shareScale b p k n * k - b ^ shareScale b p k n * k % n := by
      have hbase : n ≤ b ^ (p - 1) * n := Nat.le_mul_of_pos_left n (Nat.pow_pos (one_pos.trans hb))
      omega
    rw [roundDigits_share_mul_of_not_carriesUp hb hp hk hkn hup,
      floor_roundDigits_eq_iff_below hb hp hk hpos (Nat.sub_le _ _),
      Nat.sub_sub_self (Nat.mod_le _ _)]

end Count
end Digits
