import Mathlib.Algebra.Order.Field.Power
import Mathlib.Algebra.Order.Floor.Semifield
import Mathlib.Tactic.FieldSimp
import Mathlib.Tactic.Linarith
import Mathlib.Tactic.Positivity
import NovenaGateway.Native.Json

/-!
# Rounding to binary64 keeps the order

The spacing of the binary64 values grows with the exponent. Inside one binade rounding is that of
natural numbers, and a value is never rounded out of the closed binade it lies in, so that a
greater number is not rounded to a smaller value. A binary64 value is rounded to itself.

Key results:
- `nearestSigned_mono`
- `roundDouble_self`
- `toFloat_rounds`
-/

namespace Novena

/-! ## Natural numbers -/

/-- The powers of two, as rational numbers. -/
theorem pow2_eq_zpow (e : Int) : pow2 e = (2 : ℚ) ^ e := by
  unfold pow2
  split
  · next h =>
    lift e to ℕ using h
    simp
  · next h =>
    obtain ⟨n, rfl⟩ : ∃ n : ℕ, e = -(n : Int) := ⟨(-e).toNat, by omega⟩
    simp

/-- The number rounds down to its floor or up to the next number, whichever is not farther. -/
theorem roundHalfEven_cases {q : ℚ} (h : 0 ≤ q) :
    (roundHalfEven q = ⌊q⌋₊ ∧ 2 * q ≤ 2 * ⌊q⌋₊ + 1) ∨
      (roundHalfEven q = ⌊q⌋₊ + 1 ∧ 2 * (⌊q⌋₊ : ℚ) + 1 ≤ 2 * q) := by
  have hden : (0 : ℚ) < q.den := by exact_mod_cast q.den_pos
  -- numerator and denominator of `q`, as the code divides them
  have hnum : (q.num.natAbs : ℚ) = q * q.den := by
    have habs : ((q.num.natAbs : ℤ) : ℚ) = q.num := by
      rw [Int.natAbs_of_nonneg (Rat.num_nonneg.mpr h)]
    rw [Rat.mul_den_eq_num, ← habs]
    rfl
  have hfloor : ⌊q⌋₊ = q.num.natAbs / q.den := by
    rw [← Nat.floor_div_eq_div (K := ℚ), hnum, mul_div_cancel_right₀ _ hden.ne']
  have hmod : (q.num.natAbs : ℚ) =
      q.den * (q.num.natAbs / q.den : ℕ) + (q.num.natAbs % q.den : ℕ) := by
    exact_mod_cast (Nat.div_add_mod q.num.natAbs q.den).symm
  rw [← hfloor, hnum] at hmod
  -- the remainder compared with half the denominator decides the direction
  have hlow : 2 * (q.num.natAbs % q.den) ≤ q.den → 2 * q ≤ 2 * ⌊q⌋₊ + 1 := by
    intro hr
    have hr : (2 : ℚ) * (q.num.natAbs % q.den : ℕ) ≤ q.den := by exact_mod_cast hr
    nlinarith
  have hhigh : q.den ≤ 2 * (q.num.natAbs % q.den) → 2 * (⌊q⌋₊ : ℚ) + 1 ≤ 2 * q := by
    intro hr
    have hr : (q.den : ℚ) ≤ 2 * (q.num.natAbs % q.den : ℕ) := by exact_mod_cast hr
    nlinarith
  unfold roundHalfEven
  rw [← hfloor]
  dsimp only
  split
  · next hr => exact .inl ⟨rfl, hlow hr.le⟩
  · split
    · next hr => exact .inr ⟨rfl, hhigh hr.le⟩
    -- a tie goes to the even neighbour, which is one of the two
    · split
      · exact .inl ⟨rfl, hlow (by omega)⟩
      · exact .inr ⟨rfl, hhigh (by omega)⟩

/-- A whole number is rounded to itself. -/
theorem roundHalfEven_natCast (n : Nat) : roundHalfEven (n : ℚ) = n := by
  have hcases := roundHalfEven_cases (Nat.cast_nonneg (α := ℚ) n)
  rw [Nat.floor_natCast] at hcases
  obtain ⟨h, _⟩ | ⟨_, h⟩ := hcases
  · exact h
  · linarith

/-- Rounding keeps the order. -/
theorem roundHalfEven_mono {x y : ℚ} (hx : 0 ≤ x) (h : x ≤ y) :
    roundHalfEven x ≤ roundHalfEven y := by
  have hfloor := Nat.floor_le_floor h
  obtain hlt | heq := hfloor.lt_or_eq
  · obtain ⟨hrx, _⟩ | ⟨hrx, _⟩ := roundHalfEven_cases hx <;>
      obtain ⟨hry, _⟩ | ⟨hry, _⟩ := roundHalfEven_cases (hx.trans h) <;> omega
  · obtain ⟨hrx, hlow⟩ | ⟨hrx, hlow⟩ := roundHalfEven_cases hx <;>
      obtain ⟨hry, hhigh⟩ | ⟨hry, hhigh⟩ := roundHalfEven_cases (hx.trans h)
    · omega
    · omega
    · -- only the midpoint can go both ways, and there the two are one number
      rw [← heq] at hhigh
      rw [le_antisymm h (by linarith)]
    · omega

/-! ## Binades -/

/-- The exponent `roundDouble` finds: the number lies in its binade. -/
def exponent (a : ℚ) : Int :=
  let e₀ : Int := (a.num.natAbs.log2 : Int) - (a.den.log2 : Int)
  if pow2 e₀ ≤ a then e₀ else e₀ - 1

/-- The exponent of the last digit that is kept. -/
def ulpExponent (a : ℚ) : Int := max (exponent a - 52) (-1074)

/-- What a positive number is rounded to, were there no greatest value. -/
def nearest (a : ℚ) : ℚ := roundHalfEven (a / 2 ^ ulpExponent a) * 2 ^ ulpExponent a

/-- The exponent is that of the power of two below. -/
theorem exponent_spec {a : ℚ} (h : 0 < a) :
    (2 : ℚ) ^ exponent a ≤ a ∧ a < 2 ^ (exponent a + 1) := by
  have hnum : 0 < a.num.natAbs := Int.natAbs_pos.mpr (Rat.num_pos.mpr h).ne'
  have heq : a = (a.num.natAbs : ℚ) / a.den := by
    have habs : ((a.num.natAbs : ℤ) : ℚ) = a.num := by
      rw [Int.natAbs_of_nonneg (Rat.num_nonneg.mpr h.le)]
    have habs : (a.num.natAbs : ℚ) = a.num := habs
    rw [habs, Rat.num_div_den]
  have hden : (0 : ℚ) < a.den := by exact_mod_cast a.den_pos
  -- both parts of the fraction lie between two powers of two
  have hn₁ : (2 : ℚ) ^ (a.num.natAbs.log2 : Int) ≤ a.num.natAbs := by
    rw [zpow_natCast]; exact_mod_cast Nat.log2_self_le hnum.ne'
  have hn₂ : (a.num.natAbs : ℚ) < 2 ^ ((a.num.natAbs.log2 : Int) + 1) := by
    have := Nat.lt_log2_self (n := a.num.natAbs)
    rw [zpow_add_one₀ two_ne_zero, zpow_natCast]
    exact_mod_cast (pow_succ 2 _ ▸ this)
  have hd₁ : (2 : ℚ) ^ (a.den.log2 : Int) ≤ a.den := by
    rw [zpow_natCast]; exact_mod_cast Nat.log2_self_le a.den_pos.ne'
  have hd₂ : (a.den : ℚ) < 2 ^ ((a.den.log2 : Int) + 1) := by
    have := Nat.lt_log2_self (n := a.den)
    rw [zpow_add_one₀ two_ne_zero, zpow_natCast]
    exact_mod_cast (pow_succ 2 _ ▸ this)
  set n : Int := (a.num.natAbs.log2 : Int) with hn
  set d : Int := (a.den.log2 : Int) with hd
  -- the quotient of the two parts is off by less than one binade
  have hlow : (2 : ℚ) ^ (n - d - 1) ≤ a := by
    rw [heq, le_div_iff₀ hden]
    calc (2 : ℚ) ^ (n - d - 1) * a.den ≤ 2 ^ (n - d - 1) * 2 ^ (d + 1) := by gcongr
      _ = 2 ^ n := by rw [← zpow_add₀ two_ne_zero]; congr 1; omega
      _ ≤ a.num.natAbs := hn₁
  have hhigh : a < (2 : ℚ) ^ (n - d + 1) := by
    rw [heq, div_lt_iff₀ hden]
    calc (a.num.natAbs : ℚ) < 2 ^ (n + 1) := hn₂
      _ = 2 ^ (n - d + 1) * 2 ^ d := by rw [← zpow_add₀ two_ne_zero]; congr 1; omega
      _ ≤ 2 ^ (n - d + 1) * a.den := by gcongr
  unfold exponent
  dsimp only
  rw [← hn, ← hd, pow2_eq_zpow]
  split
  · next hle => exact ⟨hle, hhigh⟩
  · next hlt => exact ⟨hlow, by rw [sub_add_cancel]; exact not_le.mp hlt⟩

/-- It grows with the number. -/
theorem exponent_mono {a b : ℚ} (ha : 0 < a) (h : a ≤ b) : exponent a ≤ exponent b := by
  have hlt : (2 : ℚ) ^ exponent a < 2 ^ (exponent b + 1) :=
    (exponent_spec ha).1.trans_lt (h.trans_lt (exponent_spec (ha.trans_le h)).2)
  have := (zpow_lt_zpow_iff_right₀ (by norm_num : (1 : ℚ) < 2)).mp hlt
  omega

/-- A power of two whose exponent is not below that of the last digit is a number of units. -/
theorem zpow_units {e j : Int} (h : j ≤ e) : ∃ n : Nat, (2 : ℚ) ^ e = n * 2 ^ j := by
  refine ⟨2 ^ (e - j).toNat, ?_⟩
  push_cast
  rw [← zpow_natCast, ← zpow_add₀ two_ne_zero]
  congr 1
  omega

/-- Rounding does not leave a bound that is a number of units. -/
theorem nearest_le {a : ℚ} (ha : 0 < a) {n : Nat} (h : a ≤ n * 2 ^ ulpExponent a) :
    nearest a ≤ n * 2 ^ ulpExponent a := by
  have hulp : (0 : ℚ) < 2 ^ ulpExponent a := by positivity
  have hle := roundHalfEven_mono (by positivity) ((div_le_iff₀ hulp).mpr h)
  rw [roundHalfEven_natCast] at hle
  unfold nearest
  gcongr

/-- A multiple of the unit below a number is below its nearest float. -/
theorem le_nearest {a : ℚ} {n : Nat} (h : n * 2 ^ ulpExponent a ≤ a) :
    n * 2 ^ ulpExponent a ≤ nearest a := by
  have hulp : (0 : ℚ) < 2 ^ ulpExponent a := by positivity
  have hle := roundHalfEven_mono (Nat.cast_nonneg n) ((le_div_iff₀ hulp).mpr h)
  rw [roundHalfEven_natCast] at hle
  unfold nearest
  gcongr

/-- Larger numbers have larger nearest floats. -/
theorem nearest_mono {a b : ℚ} (ha : 0 < a) (h : a ≤ b) : nearest a ≤ nearest b := by
  have hb := ha.trans_le h
  -- in one binade `roundHalfEven` is monotone; between two there is a power of two
  obtain heq | hlt : ulpExponent a = ulpExponent b ∨ ulpExponent a < ulpExponent b := by
    have := exponent_mono ha h
    unfold ulpExponent
    omega
  · have hulp : (0 : ℚ) < 2 ^ ulpExponent b := by positivity
    unfold nearest
    rw [heq]
    have hle := roundHalfEven_mono (x := a / 2 ^ ulpExponent b) (by positivity)
      ((div_le_div_iff_of_pos_right hulp).mpr h)
    gcongr
  · -- the binade of the greater number starts between the two results
    have hexp : exponent a + 1 ≤ exponent b := by unfold ulpExponent at hlt; omega
    obtain ⟨n, hn⟩ := zpow_units (e := exponent b) (j := ulpExponent a)
      (by unfold ulpExponent at hlt ⊢; omega)
    obtain ⟨m, hm⟩ := zpow_units (e := exponent b) (j := ulpExponent b)
      (by unfold ulpExponent at hlt ⊢; omega)
    calc nearest a ≤ n * 2 ^ ulpExponent a := nearest_le ha ?_
      _ = m * 2 ^ ulpExponent b := by rw [← hn, hm]
      _ ≤ nearest b := le_nearest (by rw [← hm]; exact (exponent_spec hb).1)
    rw [← hn]
    exact ((exponent_spec ha).2.trans_le
      ((zpow_le_zpow_iff_right₀ (by norm_num : (1 : ℚ) < 2)).mpr hexp)).le

/-- A number of units is rounded to itself. -/
theorem nearest_units {a : ℚ} {n : Nat} (h : a = n * 2 ^ ulpExponent a) : nearest a = a := by
  have hulp : (2 : ℚ) ^ ulpExponent a ≠ 0 := by positivity
  unfold nearest
  have hdiv : a / 2 ^ ulpExponent a = n := by rw [div_eq_iff hulp]; exact h
  rw [hdiv, roundHalfEven_natCast]
  exact h.symm

/-- A float is its own nearest. -/
theorem nearest_nearest {a : ℚ} (ha : 0 < a) (hr : nearest a ≠ 0) :
    nearest (nearest a) = nearest a := by
  have hpos : 0 < nearest a := lt_of_le_of_ne (by unfold nearest; positivity) hr.symm
  obtain ⟨hlow, hhigh⟩ := exponent_spec hpos
  have hbase : (1 : ℚ) < 2 := by norm_num
  -- one unit is the least positive value
  have hunit : (2 : ℚ) ^ ulpExponent a ≤ nearest a := by
    have hm : 1 ≤ roundHalfEven (a / 2 ^ ulpExponent a) := by
      rw [Nat.one_le_iff_ne_zero]
      intro h0
      exact hr (by rw [nearest, h0, Nat.cast_zero, zero_mul])
    unfold nearest
    nth_rewrite 1 [← one_mul ((2 : ℚ) ^ ulpExponent a)]
    have : (1 : ℚ) ≤ roundHalfEven (a / 2 ^ ulpExponent a) := by exact_mod_cast hm
    gcongr
  have hleast : ulpExponent a ≤ exponent (nearest a) := by
    have := (zpow_lt_zpow_iff_right₀ hbase).mp (hunit.trans_lt hhigh)
    omega
  have htop : nearest a ≤ (2 : ℚ) ^ max (exponent a + 1) (ulpExponent a) := by
    obtain ⟨n, hn⟩ := zpow_units (e := max (exponent a + 1) (ulpExponent a)) (j := ulpExponent a)
      (le_max_right _ _)
    rw [hn]
    refine nearest_le ha ?_
    rw [← hn]
    exact ((exponent_spec ha).2.trans_le
      ((zpow_le_zpow_iff_right₀ hbase).mpr (le_max_left _ _))).le
  -- the result stayed below the next power of two, or is that power
  obtain hlt | heq := htop.lt_or_eq
  · -- the exponent has not grown, and the units have become no coarser
    have hexp := (zpow_lt_zpow_iff_right₀ hbase).mp (hlow.trans_lt hlt)
    have hulp : ulpExponent (nearest a) ≤ ulpExponent a := by
      unfold ulpExponent at hexp hleast ⊢
      omega
    obtain ⟨n, hn⟩ := zpow_units hulp
    refine nearest_units (n := roundHalfEven (a / 2 ^ ulpExponent a) * n) ?_
    push_cast
    rw [mul_assoc, ← hn, nearest]
  -- a power of two is a whole number of its own units
  · obtain ⟨n, hn⟩ := zpow_units (e := max (exponent a + 1) (ulpExponent a))
      (j := ulpExponent (nearest a)) (by
        have hexp := (zpow_le_zpow_iff_right₀ hbase).mp (hlow.trans heq.le)
        have hulp : -1074 ≤ ulpExponent a := le_max_right _ _
        have hulp' : ulpExponent (nearest a) = max (exponent (nearest a) - 52) (-1074) := rfl
        omega)
    exact nearest_units (heq.trans hn)

/-! ## Signed numbers -/

/-- `nearest` on both sides of zero. -/
def nearestSigned (q : ℚ) : ℚ := if q < 0 then -nearest |q| else if q = 0 then 0 else nearest |q|

/-- None is negative. -/
theorem nearest_nonneg (a : ℚ) : 0 ≤ nearest a := by unfold nearest; positivity

/-- A number is rounded to a double unless it is too large. -/
theorem roundDouble_eq (q : ℚ) :
    roundDouble q = if 2 ^ (1024 : Int) ≤ |nearestSigned q| then none else
      some (nearestSigned q) := by
  by_cases h0 : q = 0
  · subst h0
    simp [roundDouble, nearestSigned]
  · have hnearest : |nearestSigned q| = nearest |q| := by
      unfold nearestSigned
      rw [if_neg h0]
      split
      · rw [abs_neg, abs_of_nonneg (nearest_nonneg _)]
      · rw [abs_of_nonneg (nearest_nonneg _)]
    rw [hnearest]
    simp only [roundDouble, if_neg h0, pow2_eq_zpow, nearestSigned, nearest, ulpExponent, exponent]

/-- The order is kept on both sides of zero. -/
theorem nearestSigned_mono {x y : ℚ} (h : x ≤ y) : nearestSigned x ≤ nearestSigned y := by
  unfold nearestSigned
  rcases lt_trichotomy x 0 with hx | rfl | hx
  · rw [if_pos hx]
    split
    · next hy =>
      rw [neg_le_neg_iff, abs_of_neg hx, abs_of_neg hy]
      exact nearest_mono (neg_pos.mpr hy) (neg_le_neg h)
    · split
      · exact neg_nonpos.mpr (nearest_nonneg _)
      · exact (neg_nonpos.mpr (nearest_nonneg _)).trans (nearest_nonneg _)
  · rw [if_neg (lt_irrefl _), if_pos rfl, if_neg (not_lt.mpr h)]
    split
    · exact le_rfl
    · exact nearest_nonneg _
  · have hy := hx.trans_le h
    rw [if_neg (not_lt.mpr hx.le), if_neg hx.ne', if_neg (not_lt.mpr hy.le), if_neg hy.ne',
      abs_of_pos hx, abs_of_pos hy]
    exact nearest_mono hx h

/-- And so is a float. -/
theorem nearestSigned_self (q : ℚ) : nearestSigned (nearestSigned q) = nearestSigned q := by
  have hnearest : ∀ {a : ℚ}, 0 < a → nearest a ≠ 0 → 0 < nearest a :=
    fun _ h => lt_of_le_of_ne (nearest_nonneg _) h.symm
  have hzero : nearestSigned 0 = 0 := by simp [nearestSigned]
  rcases lt_trichotomy q 0 with hq | rfl | hq
  · have hq' : nearestSigned q = -nearest |q| := if_pos hq
    by_cases h0 : nearest |q| = 0
    · rw [hq', h0, neg_zero, hzero]
    · have hpos := hnearest (abs_pos.mpr hq.ne) h0
      rw [hq', nearestSigned, if_pos (neg_neg_of_pos hpos), abs_neg, abs_of_pos hpos,
        nearest_nearest (abs_pos.mpr hq.ne) h0]
  · rw [hzero, hzero]
  · have hq' : nearestSigned q = nearest |q| := by
      rw [nearestSigned, if_neg (not_lt.mpr hq.le), if_neg hq.ne']
    by_cases h0 : nearest |q| = 0
    · rw [hq', h0, hzero]
    · have hpos := hnearest (abs_pos.mpr hq.ne') h0
      rw [hq', nearestSigned, if_neg (not_lt.mpr hpos.le), if_neg hpos.ne', abs_of_pos hpos,
        nearest_nearest (abs_pos.mpr hq.ne') h0]

/-- A binary64 value is rounded to itself. -/
theorem roundDouble_self {q r : ℚ} (h : roundDouble q = some r) : roundDouble r = some r := by
  rw [roundDouble_eq] at h ⊢
  split at h
  · cases h
  · next hsmall =>
    obtain rfl := Option.some.inj h
    rw [nearestSigned_self, if_neg hsmall]

/-! ## Numbers as they are written -/

/-- A number that was not rounded, or an infinite one. -/
inductive Amount where
  | inf (neg : Bool)
  | fin (q : ℚ)

/-- `x < y`, without any rounding. -/
def Amount.lt : Amount → Amount → Bool
  | .inf true, .inf true => false
  | .inf true, _ => true
  | _, .inf true => false
  | .inf false, _ => false
  | .fin _, .inf false => true
  | .fin x, .fin y => x < y

/-- The number a text stands for where `float()` takes it. -/
def amountOfStr (s : String) : Option Amount :=
  let (neg, cs) := sign (strip s.toList)
  let word := cs.map Char.toLower
  if word = "inf".toList ∨ word = "infinity".toList then some (.inf neg)
  else if word = "nan".toList then none
  else (decimalOfChars cs).map fun q => .fin (if neg then -q else q)

/-- The number a value stands for where `float()` takes it. NaN is no number. -/
def Json.amount? : Json → Option Amount
  | .int n => some (.fin n)
  | .bool b => some (.fin (if b then 1 else 0))
  | .float .nan => none
  | .float (.inf neg) => some (.inf neg)
  | .float (.fin x) => some (.fin x.val)
  | .str s => amountOfStr s
  | .null | .arr _ | .obj _ => none

/-- The float a number is rounded to. -/
def Amount.Rounds : Amount → F64 → Prop
  | .inf neg, f => f = .inf neg
  | .fin q, .fin x => x.val = nearestSigned q
  | .fin q, .inf false => 2 ^ (1024 : Int) ≤ nearestSigned q
  | .fin q, .inf true => nearestSigned q ≤ -2 ^ (1024 : Int)
  | .fin _, .nan => False

/-- A double lies below the largest exponent. -/
theorem Double.abs_lt (x : Double) : |x.val| < 2 ^ (1024 : Int) := by
  obtain ⟨q, hq⟩ := x.rounded
  rw [roundDouble_eq] at hq
  split at hq
  · cases hq
  · next hsmall => rw [← Option.some.inj hq]; exact not_le.mp hsmall

/-- And it is rounded to itself. -/
theorem Double.nearestSigned_val (x : Double) : nearestSigned x.val = x.val := by
  obtain ⟨q, hq⟩ := x.rounded
  have hself := roundDouble_self hq
  rw [roundDouble_eq] at hself
  split at hself
  · cases hself
  · exact Option.some.inj hself

/-- `float()` keeps the order: it makes no number the smaller one. -/
theorem Amount.Rounds.lt {x y : Amount} {f g : F64} (hx : x.Rounds f) (hy : y.Rounds g)
    (h : f.lt g = true) : x.lt y = true := by
  have hmono : ∀ {p q : ℚ}, nearestSigned p < nearestSigned q → p < q :=
    fun h => not_le.mp fun hle => absurd (nearestSigned_mono hle) (not_le.mpr h)
  -- an infinite amount is known by its sign, a finite one is compared rounded
  cases x with
  | inf neg =>
    obtain rfl := hx
    cases y with
    | inf neg' =>
      obtain rfl := hy
      cases neg <;> cases neg' <;> exact h
    | fin q =>
      cases neg with
      | true => rfl
      | false => rcases g with _ | ⟨_ | _⟩ | y <;> cases h
  -- a finite amount rounds to an infinite value only when it is beyond all finite ones
  | fin p =>
    cases y with
    | inf neg =>
      obtain rfl := hy
      cases neg with
      | true => rcases f with _ | ⟨_ | _⟩ | x <;> cases h
      | false => rfl
    | fin q =>
      refine decide_eq_true (hmono ?_)
      rcases f with _ | ⟨_ | _⟩ | x
      · cases hx
      · rcases g with _ | ⟨_ | _⟩ | y <;> cases h
      · rcases g with _ | ⟨_ | _⟩ | y
        · cases hy
        · exact (hx.trans_lt (by norm_num)).trans_le hy
        · cases h
        · exact hx.trans_lt ((neg_lt_of_abs_lt y.abs_lt).trans_eq hy)
      · rcases g with _ | ⟨_ | _⟩ | y
        · cases hy
        · exact hx.symm.trans_lt ((lt_of_abs_lt x.abs_lt).trans_le hy)
        · cases h
        · exact hx.symm.trans_lt ((of_decide_eq_true h).trans_eq hy)

/-- A rational number is rounded to a float. -/
theorem ofRat?_rounds {q : ℚ} {f : F64} (h : F64.ofRat? q = some f) : (Amount.fin q).Rounds f := by
  unfold F64.ofRat? at h
  split at h
  · next r hr =>
    obtain rfl := Option.some.inj h
    rw [roundDouble_eq] at hr
    split at hr
    · cases hr
    · exact (Option.some.inj hr).symm
  · cases h

/-- What is too large for a float is on the outer side of its numbers. -/
theorem nearestSigned_of_none {q : ℚ} (h : F64.ofRat? q = none) :
    2 ^ (1024 : Int) ≤ |nearestSigned q| := by
  unfold F64.ofRat? at h
  split at h
  · cases h
  · next hr =>
    rw [roundDouble_eq] at hr
    split at hr
    · next hbig => exact hbig
    · cases hr

/-- A decimal without sign is not negative. -/
theorem decimalOfChars_nonneg {cs : List Char} {q : ℚ} (h : decimalOfChars cs = some q) :
    0 ≤ q := by
  unfold decimalOfChars at h
  dsimp only at h
  -- with and without digits behind the point
  split at h
  all_goals
    split at h
    · cases h
    split at h
    · obtain rfl := Option.some.inj h
      positivity
    · split at h
      · split at h
        · obtain rfl := Option.some.inj h
          split <;> positivity
        · cases h
      · cases h

/-- `float` of a text rounds the amount that is written there. -/
theorem floatOfStr_rounds {s : String} {f : F64} (h : floatOfStr s = some f) (hnan : f ≠ .nan) :
    ∃ x, amountOfStr s = some x ∧ x.Rounds f := by
  unfold floatOfStr at h
  unfold amountOfStr
  -- sign and spaces are taken off first, as in the parser
  generalize sign (strip s.toList) = signed at h ⊢
  obtain ⟨neg, cs⟩ := signed
  dsimp only at h ⊢
  split at h
  · next hinf =>
    obtain rfl := Option.some.inj h
    exact ⟨_, if_pos hinf, rfl⟩
  next hinf =>
  split at h
  · exact absurd (Option.some.inj h).symm hnan
  next hnotNan =>
  rw [if_neg hinf, if_neg hnotNan]
  obtain ⟨q, hq, hf⟩ := Option.map_eq_some_iff.mp h
  refine ⟨.fin (if neg then -q else q), by rw [hq]; rfl, ?_⟩
  -- a decimal in range
  cases hround : F64.ofRat? (if neg then -q else q) with
  | some g =>
    rw [hround] at hf
    exact hf ▸ ofRat?_rounds hround
  | none =>
    -- a text is never refused for its size: it stands for an infinite value
    rw [hround] at hf
    obtain rfl : .inf neg = f := hf
    have hbig := nearestSigned_of_none hround
    have hnonneg := decimalOfChars_nonneg hq
    have hzero : nearestSigned 0 = 0 := by simp [nearestSigned]
    -- the sign of the text is that of the amount, which is too large on that side
    cases neg with
    | true =>
      have hsign := nearestSigned_mono (neg_nonpos.mpr hnonneg)
      rw [hzero] at hsign
      rw [if_pos rfl, abs_of_nonpos hsign] at hbig
      rw [if_pos rfl]
      exact le_neg.mpr hbig
    | false =>
      have hsign := nearestSigned_mono hnonneg
      rw [hzero] at hsign
      rw [if_neg Bool.false_ne_true, abs_of_nonneg hsign] at hbig
      rw [if_neg Bool.false_ne_true]
      exact hbig

/-- And `float` of a value rounds its amount. -/
theorem toFloat_rounds {v : Json} {f : F64} (h : v.toFloat = .ok f) (hnan : f ≠ .nan) :
    ∃ x, v.amount? = some x ∧ x.Rounds f := by
  cases v with
  | float x =>
    obtain rfl := Except.ok.inj h
    cases x with
    | nan => exact absurd rfl hnan
    | inf neg => exact ⟨_, rfl, rfl⟩
    | fin x => exact ⟨_, rfl, x.nearestSigned_val.symm⟩
  | int n =>
    simp only [Json.toFloat] at h
    split at h
    · next hround =>
      obtain rfl := Except.ok.inj h
      exact ⟨_, rfl, ofRat?_rounds hround⟩
    · cases h
  | bool b =>
    simp only [Json.toFloat] at h
    split at h
    · next hround =>
      obtain rfl := Except.ok.inj h
      exact ⟨_, rfl, ofRat?_rounds hround⟩
    · cases h
  | str s =>
    simp only [Json.toFloat] at h
    split at h
    · next hfloat => exact floatOfStr_rounds (Except.ok.inj h ▸ hfloat) hnan
    · cases h
  | _ => cases h

end Novena
