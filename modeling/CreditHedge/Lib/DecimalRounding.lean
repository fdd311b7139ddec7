import Mathlib.Algebra.Order.Floor.Ring
import Mathlib.Algebra.Order.Field.Basic
import Mathlib.Data.Int.Log
import Mathlib.Tactic.Linarith
import Mathlib.Tactic.LinearCombination
import Mathlib.Tactic.Positivity
import Mathlib.Tactic.FieldSimp
import Mathlib.Tactic.Ring

/-!
# Rounding to digits

A number keeps `p` digits of a base `b`: it is divided by the unit of the last of them, the quotient
goes to the nearest integer, halves to the even one, and the unit is multiplied in again.

The unit is a power of the base and depends on the number, so everything is first said of one unit
(`HasUnit`) and then across units. What has at most `p` digits stays as it is and nothing is carried
past it (`roundDigits_le`, `le_roundDigits`). The numbers that are carried *onto* it lie within half
a unit of it, but the unit is a smaller one below a power of the base than above it, which is why
there are two statements of that (`roundDigits_eq_iff_of_le`, `roundDigits_eq_iff_of_ge`).
-/

set_option autoImplicit false

namespace Digits

variable {α : Type*} [Field α] [LinearOrder α]

/-! ## To the nearest integer -/

section Nearest

/-- Nothing is nearer, and a half is given to the even neighbour. -/
def IsNearest (x : α) (c : ℤ) : Prop := |x - c| < 1 / 2 ∨ |x - c| = 1 / 2 ∧ Even c

variable {x y : α} {c c' : ℤ}

theorem IsNearest.abs_sub_le (h : IsNearest x c) : |x - c| ≤ 1 / 2 := by
  rcases h with h | ⟨h, -⟩
  · exact h.le
  · exact h.le

variable [IsStrictOrderedRing α]

theorem IsNearest.lt_add_one (h : IsNearest x c) : x < c + 1 := by
  have := (abs_le.mp h.abs_sub_le).2
  linarith

theorem IsNearest.sub_one_lt (h : IsNearest x c) : (c : α) - 1 < x := by
  have := (abs_le.mp h.abs_sub_le).1
  linarith

theorem IsNearest.unique (h : IsNearest x c) (h' : IsNearest x c') : c = c' := by
  have hsplit : ((c - c' : ℤ) : α) = (x - c') - (x - c) := by push_cast; ring
  have htriangle : |((c - c' : ℤ) : α)| ≤ |x - c'| + |x - c| := by
    rw [hsplit]
    exact abs_sub _ _
  rcases lt_or_eq_of_le (htriangle.trans (add_le_add h'.abs_sub_le h.abs_sub_le)) with hlt | heq
  · have hone : |c - c'| < 1 := by
      have : ((|c - c'| : ℤ) : α) < 1 := by
        rw [Int.cast_abs]
        linarith
      exact_mod_cast this
    exact sub_eq_zero.mp (Int.abs_lt_one_iff.mp hone)
  · -- two neighbours at half a unit each, of which only one is even
    have hone : |c - c'| = 1 := by
      have : ((|c - c'| : ℤ) : α) = 1 := by
        rw [Int.cast_abs, heq]
        norm_num
      exact_mod_cast this
    have htie : |x - c'| = 1 / 2 ∧ |x - c| = 1 / 2 := by
      have := h.abs_sub_le
      have := h'.abs_sub_le
      constructor <;> linarith
    have heven : Even c := (h.resolve_left htie.2.not_lt).2
    have heven' : Even c' := (h'.resolve_left htie.1.not_lt).2
    have hdiff : Even |c - c'| := (even_abs (a := c - c')).mpr (heven.sub heven')
    rw [hone] at hdiff
    exact absurd hdiff (by decide)

/-- A quotient, without the division. -/
theorem isNearest_div_iff {a : ℤ} {n : ℕ} (hn : 0 < n) :
    IsNearest ((a : α) / n) c ↔ 2 * |a - c * n| < n ∨ 2 * |a - c * n| = n ∧ Even c := by
  have hpos : (0 : α) < n := Nat.cast_pos.mpr hn
  have habs : |(a : α) / n - c| = ((|a - c * n| : ℤ) : α) / n := by
    rw [div_sub' hpos.ne', abs_div, abs_of_pos hpos, Int.cast_abs]
    push_cast
    rw [mul_comm (n : α)]
  have hlt : |(a : α) / n - c| < 1 / 2 ↔ 2 * |a - c * n| < n := by
    rw [habs, div_lt_div_iff₀ hpos two_pos, one_mul, mul_comm]
    exact_mod_cast Iff.rfl
  have heq : |(a : α) / n - c| = 1 / 2 ↔ 2 * |a - c * n| = n := by
    rw [habs, div_eq_div_iff hpos.ne' two_ne_zero, one_mul, mul_comm]
    exact_mod_cast Iff.rfl
  rw [IsNearest, hlt, heq]

variable [FloorRing α]

/-- To the nearest integer, halves to the even one. -/
def roundHalfEven (x : α) : ℤ :=
  if Int.fract x < 1 / 2 then ⌊x⌋
  else if 1 / 2 < Int.fract x then ⌊x⌋ + 1
  else if Even ⌊x⌋ then ⌊x⌋
  else ⌊x⌋ + 1

theorem isNearest_roundHalfEven (x : α) : IsNearest x (roundHalfEven x) := by
  have hfloor : x - ⌊x⌋ = Int.fract x := rfl
  have hceil : x - ((⌊x⌋ + 1 : ℤ) : α) = -(1 - Int.fract x) := by
    push_cast
    rw [← hfloor]
    ring
  have hnonneg := Int.fract_nonneg x
  have hlt := Int.fract_lt_one x
  unfold roundHalfEven
  split_ifs with hdown hup heven
  · left
    rwa [hfloor, abs_of_nonneg hnonneg]
  · left
    rw [hceil, abs_neg, abs_of_pos (by linarith)]
    linarith
  · exact .inr ⟨by rw [hfloor, abs_of_nonneg hnonneg]; linarith, heven⟩
  · refine .inr ⟨?_, Int.even_add_one.mpr heven⟩
    rw [hceil, abs_neg, abs_of_pos (by linarith)]
    linarith

theorem roundHalfEven_eq_iff : roundHalfEven x = c ↔ IsNearest x c := by
  constructor
  · rintro rfl
    exact isNearest_roundHalfEven x
  · exact (isNearest_roundHalfEven x).unique

@[simp] theorem roundHalfEven_intCast (c : ℤ) : roundHalfEven (c : α) = c :=
  roundHalfEven_eq_iff.mpr (.inl (by simp))

theorem roundHalfEven_mono (h : x ≤ y) : roundHalfEven x ≤ roundHalfEven y := by
  by_contra hlt
  have hstep : ((roundHalfEven y : ℤ) : α) + 1 ≤ roundHalfEven x := by
    exact_mod_cast Int.add_one_le_iff.mpr (not_le.mp hlt)
  have hx := abs_le.mp (isNearest_roundHalfEven x).abs_sub_le
  have hy := abs_le.mp (isNearest_roundHalfEven y).abs_sub_le
  have heq : x = y := le_antisymm h (by linarith [hx.1, hy.2])
  exact hlt (heq ▸ le_rfl)

theorem roundHalfEven_le (h : x ≤ c) : roundHalfEven x ≤ c := by
  have := roundHalfEven_mono h
  rwa [roundHalfEven_intCast] at this

theorem le_roundHalfEven (h : (c : α) ≤ x) : c ≤ roundHalfEven x := by
  have := roundHalfEven_mono h
  rwa [roundHalfEven_intCast] at this

/-- What is left of a count by a division is more than half of it, or the odd half. -/
def CarriesUp (a n : ℕ) : Prop := n < 2 * (a % n) ∨ 2 * (a % n) = n ∧ Odd (a / n)

instance (a n : ℕ) : Decidable (CarriesUp a n) := inferInstanceAs (Decidable (_ ∨ _))

theorem roundHalfEven_div_of_carriesUp {a n : ℕ} (hn : 0 < n) (h : CarriesUp a n) :
    roundHalfEven ((a : α) / n) = (a / n : ℕ) + 1 := by
  have hsplit : (a : ℤ) - ((a / n : ℕ) + 1) * n = -((n : ℤ) - (a % n : ℕ)) := by
    have : (n : ℤ) * (a / n : ℕ) + (a % n : ℕ) = a := by exact_mod_cast Nat.div_add_mod a n
    linear_combination -this
  have hlt := Nat.mod_lt a hn
  rw [← Int.cast_natCast a, roundHalfEven_eq_iff, isNearest_div_iff hn, hsplit, abs_neg,
    abs_of_pos (by omega)]
  rcases h with hmore | ⟨hhalf, hodd⟩
  · left
    omega
  · exact .inr ⟨by omega, by exact_mod_cast hodd.add_one⟩

theorem roundHalfEven_div_of_not_carriesUp {a n : ℕ} (hn : 0 < n) (h : ¬ CarriesUp a n) :
    roundHalfEven ((a : α) / n) = (a / n : ℕ) := by
  have hsplit : (a : ℤ) - (a / n : ℕ) * n = (a % n : ℕ) := by
    have : (n : ℤ) * (a / n : ℕ) + (a % n : ℕ) = a := by exact_mod_cast Nat.div_add_mod a n
    linear_combination -this
  rw [← Int.cast_natCast a, roundHalfEven_eq_iff, isNearest_div_iff hn, hsplit, Nat.abs_cast]
  obtain ⟨hless, hodd⟩ := not_or.mp h
  rcases eq_or_ne (2 * (a % n)) n with hhalf | hne
  · have heven : Even (a / n) := Nat.not_odd_iff_even.mp fun ho => hodd ⟨hhalf, ho⟩
    exact .inr ⟨by omega, (Int.even_coe_nat _).mpr heven⟩
  · left
    omega

end Nearest

/-! ## To so many digits -/

section Rounding

variable [FloorRing α]

/-- The unit of the last of `p` digits. -/
def ulp (b p : ℕ) (x : α) : α := (b : α) ^ (Int.log b |x| + 1 - p)

def roundDigits (b p : ℕ) (x : α) : α := roundHalfEven (x / ulp b p x) * ulp b p x

end Rounding

/-- The last of the `p` digits of a positive number counts for `b ^ e`. -/
structure HasUnit (b p : ℕ) (e : ℤ) (x : α) : Prop where
  le : (b : α) ^ (e + p - 1) ≤ x
  lt : x < (b : α) ^ (e + p)

section Units

variable [IsStrictOrderedRing α] {b p : ℕ} {e e' : ℤ} {x y : α} {c : ℤ}

theorem unit_pos (hb : 1 < b) (e : ℤ) : 0 < (b : α) ^ e :=
  zpow_pos (Nat.cast_pos.mpr (one_pos.trans hb)) e

theorem unit_mono (hb : 1 < b) (h : e ≤ e') : (b : α) ^ e ≤ (b : α) ^ e' :=
  zpow_le_zpow_right₀ (Nat.one_le_cast.mpr hb.le) h

theorem unit_add (hb : 1 < b) (e : ℤ) (n : ℕ) : (b : α) ^ (e + n) = (b ^ n : ℕ) * (b : α) ^ e := by
  rw [zpow_add₀ (Nat.cast_ne_zero.mpr (one_pos.trans hb).ne'), zpow_natCast, mul_comm]
  push_cast
  rfl

namespace HasUnit

theorem pos (hb : 1 < b) (h : HasUnit b p e x) : 0 < x := (unit_pos hb _).trans_le h.le

theorem unit_le (hb : 1 < b) (h : HasUnit b p e x) (h' : HasUnit b p e' y) (hxy : x ≤ y) :
    e ≤ e' := by
  by_contra hlt
  have := h'.lt.trans_le ((unit_mono hb (by omega)).trans h.le)
  exact this.not_ge hxy

variable [FloorRing α]

theorem ulp_eq (hb : 1 < b) (h : HasUnit b p e x) : ulp b p x = (b : α) ^ e := by
  have hx := h.pos hb
  have hlog : Int.log b x = e + p - 1 := by
    have hlow := (Int.zpow_le_iff_le_log hb hx).mp h.le
    have hhigh := (Int.lt_zpow_iff_log_lt hb hx).mp h.lt
    omega
  rw [ulp, abs_of_pos hx, hlog]
  congr 1
  ring

theorem roundDigits_eq (hb : 1 < b) (h : HasUnit b p e x) :
    roundDigits b p x = roundHalfEven (x / (b : α) ^ e) * (b : α) ^ e := by
  rw [roundDigits, h.ulp_eq hb]

theorem roundDigits_eq_iff (hb : 1 < b) (h : HasUnit b p e x) :
    roundDigits b p x = c * (b : α) ^ e ↔ IsNearest (x / (b : α) ^ e) c := by
  rw [h.roundDigits_eq hb, mul_left_inj' (unit_pos hb e).ne', Int.cast_inj, roundHalfEven_eq_iff]

/-- A multiple of the unit stays as it is. -/
theorem roundDigits_eq_self (hb : 1 < b) (h : HasUnit b p e x) (hx : x = c * (b : α) ^ e) :
    roundDigits b p x = x := by
  have hquotient : x / (b : α) ^ e = c := by
    rw [hx]
    exact mul_div_cancel_right₀ _ (unit_pos hb e).ne'
  rw [h.roundDigits_eq hb, hquotient, roundHalfEven_intCast, hx]

end HasUnit

theorem exists_hasUnit [FloorRing α] (hb : 1 < b) (p : ℕ) (hx : 0 < x) :
    ∃ e, HasUnit b p e x := by
  refine ⟨Int.log b x + 1 - p, ?_, ?_⟩
  · rw [show Int.log b x + 1 - p + p - 1 = Int.log b x by ring]
    exact Int.zpow_log_le_self hb hx
  · rw [show Int.log b x + 1 - p + p = Int.log b x + 1 by ring]
    exact Int.lt_zpow_succ_log_self hb x

end Units

/-! ## Across units -/

section Across

variable [IsStrictOrderedRing α] [FloorRing α] {b p : ℕ} {e : ℤ} {x y : α} {c : ℕ}

/-- The rounded quotient by the unit has `p` digits, or is the least number with one more. -/
theorem HasUnit.coefficient_mem (hb : 1 < b) (hp : 0 < p) (h : HasUnit b p e x) :
    (b ^ (p - 1) : ℕ) ≤ roundHalfEven (x / (b : α) ^ e) ∧
      roundHalfEven (x / (b : α) ^ e) ≤ (b ^ p : ℕ) := by
  have hunit := unit_pos (α := α) hb e
  constructor
  · refine le_roundHalfEven ((le_div_iff₀ hunit).mpr ?_)
    rw [Int.cast_natCast, ← unit_add hb]
    refine le_trans (unit_mono hb ?_) h.le
    omega
  · refine roundHalfEven_le ((div_le_iff₀ hunit).mpr ?_)
    rw [Int.cast_natCast, ← unit_add hb]
    exact h.lt.le

theorem HasUnit.le_roundDigits (hb : 1 < b) (hp : 0 < p) (h : HasUnit b p e x) :
    (b : α) ^ (e + p - 1) ≤ roundDigits b p x := by
  have hcast : (b : α) ^ (e + p - 1) = (b ^ (p - 1) : ℕ) * (b : α) ^ e := by
    rw [← unit_add hb]
    congr 1
    omega
  rw [h.roundDigits_eq hb, hcast]
  refine mul_le_mul_of_nonneg_right ?_ (unit_pos hb e).le
  exact_mod_cast (h.coefficient_mem hb hp).1

theorem HasUnit.roundDigits_le (hb : 1 < b) (hp : 0 < p) (h : HasUnit b p e x) :
    roundDigits b p x ≤ (b : α) ^ (e + p) := by
  rw [h.roundDigits_eq hb, unit_add hb]
  refine mul_le_mul_of_nonneg_right ?_ (unit_pos hb e).le
  exact_mod_cast (h.coefficient_mem hb hp).2

theorem roundDigits_mono (hb : 1 < b) (hp : 0 < p) (hx : 0 < x) (hxy : x ≤ y) :
    roundDigits b p x ≤ roundDigits b p y := by
  obtain ⟨e, he⟩ := exists_hasUnit hb p hx
  obtain ⟨e', he'⟩ := exists_hasUnit hb p (hx.trans_le hxy)
  rcases (he.unit_le hb he' hxy).eq_or_lt with rfl | hlt
  · rw [he.roundDigits_eq hb, he'.roundDigits_eq hb]
    refine mul_le_mul_of_nonneg_right ?_ (unit_pos hb e).le
    have hquotient := (div_le_div_iff_of_pos_right (unit_pos hb e)).mpr hxy
    exact_mod_cast roundHalfEven_mono hquotient
  · -- a power of the base lies between the two
    calc roundDigits b p x ≤ (b : α) ^ (e + p) := he.roundDigits_le hb hp
      _ ≤ (b : α) ^ (e' + p - 1) := unit_mono hb (by omega)
      _ ≤ roundDigits b p y := he'.le_roundDigits hb hp

/-- **What has at most `p` digits stays as it is.** -/
theorem roundDigits_natCast_mul (hb : 1 < b) (hp : 0 < p) (hpos : 0 < c) (hc : c ≤ b ^ p) :
    roundDigits b p (c * (b : α) ^ e) = c * (b : α) ^ e := by
  have hx : 0 < c * (b : α) ^ e := mul_pos (Nat.cast_pos.mpr hpos) (unit_pos hb e)
  obtain ⟨e', he'⟩ := exists_hasUnit hb p hx
  rcases le_or_gt e' e with hle | hlt
  · obtain ⟨n, rfl⟩ := Int.le.dest hle
    refine he'.roundDigits_eq_self hb (c := (c * b ^ n : ℕ)) ?_
    rw [unit_add hb]
    push_cast
    ring
  · -- only the power of the base that the digits just reach has a greater unit
    have htop : c * (b : α) ^ e ≤ (b : α) ^ (e' + p - 1) := by
      calc c * (b : α) ^ e ≤ (b ^ p : ℕ) * (b : α) ^ e :=
            mul_le_mul_of_nonneg_right (Nat.cast_le.mpr hc) (unit_pos hb e).le
        _ = (b : α) ^ (e + p) := (unit_add hb e p).symm
        _ ≤ (b : α) ^ (e' + p - 1) := unit_mono hb (by omega)
    refine he'.roundDigits_eq_self hb (c := (b ^ (p - 1) : ℕ)) ?_
    rw [Int.cast_natCast, ← unit_add hb, le_antisymm htop he'.le]
    congr 1
    omega

theorem roundDigits_le (hb : 1 < b) (hp : 0 < p) (hx : 0 < x) (hc : c ≤ b ^ p)
    (hle : x ≤ c * (b : α) ^ e) : roundDigits b p x ≤ c * (b : α) ^ e := by
  have hpos : 0 < c := by
    rcases Nat.eq_zero_or_pos c with rfl | hpos
    · simp at hle
      exact absurd hle hx.not_ge
    · exact hpos
  exact (roundDigits_mono hb hp hx hle).trans_eq (roundDigits_natCast_mul hb hp hpos hc)

theorem le_roundDigits (hb : 1 < b) (hp : 0 < p) (hpos : 0 < c) (hc : c ≤ b ^ p)
    (hle : c * (b : α) ^ e ≤ x) : c * (b : α) ^ e ≤ roundDigits b p x := by
  have hx : 0 < c * (b : α) ^ e := mul_pos (Nat.cast_pos.mpr hpos) (unit_pos hb e)
  exact (roundDigits_natCast_mul hb hp hpos hc).symm.trans_le (roundDigits_mono hb hp hx hle)

theorem roundDigits_le_natCast (hb : 1 < b) (hp : 0 < p) (hx : 0 < x) (hc : c ≤ b ^ p)
    (hle : x ≤ c) : roundDigits b p x ≤ c := by
  have h := roundDigits_le (e := 0) hb hp hx hc
  rw [zpow_zero, mul_one] at h
  exact h hle

theorem natCast_le_roundDigits (hb : 1 < b) (hp : 0 < p) (hpos : 0 < c) (hc : c ≤ b ^ p)
    (hle : (c : α) ≤ x) : (c : α) ≤ roundDigits b p x := by
  have h := le_roundDigits (e := 0) (x := x) hb hp hpos hc
  rw [zpow_zero, mul_one] at h
  exact h hle

/-- What is rounded down onto a number lies within half of the unit it has from there on. -/
theorem roundDigits_eq_iff_of_le (hb : 1 < b) (hp : 0 < p) (hmin : b ^ (p - 1) ≤ c)
    (hmax : c < b ^ p) (hle : c * (b : α) ^ e ≤ x) :
    roundDigits b p x = c * (b : α) ^ e ↔ IsNearest (x / (b : α) ^ e) c := by
  have hunit := unit_pos (α := α) hb e
  rcases lt_or_ge x ((b : α) ^ (e + p)) with hlt | hge
  · have hlow : (b : α) ^ (e + p - 1) ≤ c * (b : α) ^ e := by
      rw [show e + p - 1 = e + (p - 1 : ℕ) by omega, unit_add hb]
      exact mul_le_mul_of_nonneg_right (Nat.cast_le.mpr hmin) hunit.le
    exact_mod_cast HasUnit.roundDigits_eq_iff (c := c) hb ⟨hlow.trans hle, hlt⟩
  · -- past the digits: too far, and rounded to no less than the power it has passed
    refine iff_of_false ?_ ?_
    · have hpast : ((1 : ℕ) : α) * (b : α) ^ (e + p) ≤ roundDigits b p x := by
        refine le_roundDigits hb hp one_pos (Nat.one_le_pow _ _ (by omega)) ?_
        rw [Nat.cast_one, one_mul]
        exact hge
      rw [Nat.cast_one, one_mul, unit_add hb] at hpast
      have hless := mul_lt_mul_of_pos_right (Nat.cast_lt (α := α).mpr hmax) hunit
      exact (hless.trans_le hpast).ne'
    · intro hnear
      have hfar : ((b ^ p : ℕ) : α) ≤ x / (b : α) ^ e := by
        rw [le_div_iff₀ hunit, ← unit_add hb]
        exact hge
      have hbelow : ((b ^ p : ℕ) : α) < c + 1 := by exact_mod_cast hfar.trans_lt hnear.lt_add_one
      have : b ^ p < c + 1 := by exact_mod_cast hbelow
      omega

/-- What is rounded up onto a number lies within half of the unit it has up to there. -/
theorem roundDigits_eq_iff_of_ge (hb : 1 < b) (hp : 0 < p) (hmin : b ^ (p - 1) < c)
    (hmax : c ≤ b ^ p) (hx : 0 < x) (hle : x ≤ c * (b : α) ^ e) :
    roundDigits b p x = c * (b : α) ^ e ↔ IsNearest (x / (b : α) ^ e) c := by
  have hunit := unit_pos (α := α) hb e
  rcases hle.eq_or_lt with rfl | hlt
  · rw [mul_div_cancel_right₀ _ hunit.ne']
    exact iff_of_true (roundDigits_natCast_mul hb hp (by omega) hmax) (.inl (by simp))
  have htop : c * (b : α) ^ e ≤ (b : α) ^ (e + p) := by
    rw [unit_add hb]
    exact mul_le_mul_of_nonneg_right (Nat.cast_le.mpr hmax) hunit.le
  have hpower : (b : α) ^ (e + p - 1) = (b ^ (p - 1) : ℕ) * (b : α) ^ e := by
    rw [show e + p - 1 = e + (p - 1 : ℕ) by omega, unit_add hb]
  rcases le_or_gt ((b : α) ^ (e + p - 1)) x with hge | hless
  · exact_mod_cast HasUnit.roundDigits_eq_iff (c := c) hb ⟨hge, hlt.trans_le htop⟩
  · -- short of the digits: too far, and rounded to no more than the power it falls short of
    refine iff_of_false ?_ ?_
    · have hshort := roundDigits_le hb hp hx (Nat.pow_le_pow_right (by omega) (Nat.sub_le p 1))
        (hless.le.trans_eq hpower)
      have hmore := mul_lt_mul_of_pos_right (Nat.cast_lt (α := α).mpr hmin) hunit
      exact (hshort.trans_lt hmore).ne
    · intro hnear
      have hfar : x / (b : α) ^ e < ((b ^ (p - 1) : ℕ) : α) := by
        rw [div_lt_iff₀ hunit, ← hpower]
        exact hless
      have habove : (c : α) - 1 < ((b ^ (p - 1) : ℕ) : α) := by
        exact_mod_cast hnear.sub_one_lt.trans hfar
      have : (c : α) < ((b ^ (p - 1) + 1 : ℕ) : α) := by push_cast at habove ⊢; linarith
      have : c < b ^ (p - 1) + 1 := by exact_mod_cast this
      omega

/-- The rounding moves a number by half a unit at most, which is little of the number itself. -/
theorem abs_roundDigits_sub_le (hb : 1 < b) (hp : 0 < p) (hx : 0 < x) :
    2 * (b ^ (p - 1) : ℕ) * |roundDigits b p x - x| ≤ x := by
  obtain ⟨e, he⟩ := exists_hasUnit hb p hx
  have hunit := unit_pos (α := α) hb e
  have herror : |roundDigits b p x - x| ≤ 1 / 2 * (b : α) ^ e := by
    have hnear := (isNearest_roundHalfEven (x / (b : α) ^ e)).abs_sub_le
    have hfactor : roundDigits b p x - x =
        -((x / (b : α) ^ e - roundHalfEven (x / (b : α) ^ e)) * (b : α) ^ e) := by
      rw [he.roundDigits_eq hb, sub_mul, div_mul_cancel₀ _ hunit.ne']
      ring
    rw [hfactor, abs_neg, abs_mul, abs_of_pos hunit]
    exact mul_le_mul_of_nonneg_right hnear hunit.le
  calc 2 * (b ^ (p - 1) : ℕ) * |roundDigits b p x - x|
      ≤ 2 * (b ^ (p - 1) : ℕ) * (1 / 2 * (b : α) ^ e) :=
        mul_le_mul_of_nonneg_left herror (by positivity)
    _ = (b : α) ^ (e + (p - 1 : ℕ)) := by
        rw [unit_add hb]
        ring
    _ ≤ x := by
        refine le_trans (unit_mono hb ?_) he.le
        omega

theorem exists_roundDigits_eq (hb : 1 < b) (hp : 0 < p) (hx : 0 < x) :
    ∃ (c : ℕ) (e : ℤ), HasUnit b p e x ∧ c ≤ b ^ p ∧ roundDigits b p x = c * (b : α) ^ e := by
  obtain ⟨e, he⟩ := exists_hasUnit hb p hx
  obtain ⟨hlow, hhigh⟩ := he.coefficient_mem hb hp
  obtain ⟨c, hc⟩ := Int.eq_ofNat_of_zero_le ((Int.natCast_nonneg _).trans hlow)
  refine ⟨c, e, he, ?_, ?_⟩
  · rw [hc] at hhigh
    exact_mod_cast hhigh
  · rw [he.roundDigits_eq hb, hc, Int.cast_natCast]

theorem roundDigits_nonneg (hb : 1 < b) (p : ℕ) (hx : 0 ≤ x) : 0 ≤ roundDigits b p x := by
  have hquotient : ((0 : ℤ) : α) ≤ x / ulp b p x := by
    rw [Int.cast_zero]
    exact div_nonneg hx (unit_pos hb _).le
  exact mul_nonneg (Int.cast_nonneg (le_roundHalfEven hquotient)) (unit_pos hb _).le

end Across
end Digits
