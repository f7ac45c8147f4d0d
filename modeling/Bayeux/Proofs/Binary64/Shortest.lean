import Bayeux.Binary64.Shortest

set_option autoImplicit false

namespace Bayeux.Binary64

theorem reaches_iff (num den : Nat) (exponent : Int) : reaches num den exponent = true ↔
    den * 10 ^ exponent.toNat ≤ num * 10 ^ (-exponent).toNat := by
  unfold reaches
  split
  next up =>
    have down : (-exponent).toNat = 0 := by omega
    simp [down]
  next down =>
    have up : exponent.toNat = 0 := by omega
    simp [up]

-- As long as `k` is at most `q`, powers of two compare with powers of ten as their exponents do.
section Ratio

variable {p q k guess : Nat}

theorem ten_pow_le_of_ratio (precise : 10 ^ p ≤ 2 ^ (q + 1)) (bounded : k ≤ q) (positive : q ≠ 0)
    (low : guess * q ≤ k * p) : 10 ^ guess ≤ 2 ^ (k + 1) := by
  rw [← Nat.pow_le_pow_iff_left positive, ← Nat.pow_mul, ← Nat.pow_mul]
  have exponents : (q + 1) * k ≤ (k + 1) * q := by
    rw [Nat.add_mul, Nat.add_mul, Nat.mul_comm q k]
    omega
  calc 10 ^ (guess * q) ≤ 10 ^ (k * p) := Nat.pow_le_pow_right (by decide) low
    _ = 10 ^ (p * k) := by rw [Nat.mul_comm]
    _ = (10 ^ p) ^ k := Nat.pow_mul _ _ _
    _ ≤ (2 ^ (q + 1)) ^ k := Nat.pow_le_pow_left precise k
    _ = 2 ^ ((q + 1) * k) := (Nat.pow_mul _ _ _).symm
    _ ≤ 2 ^ ((k + 1) * q) := Nat.pow_le_pow_right (by decide) exponents

theorem two_pow_le_of_ratio (precise : 2 ^ q ≤ 10 ^ p) (positive : q ≠ 0)
    (high : k * p ≤ guess * q) : 2 ^ k ≤ 10 ^ guess := by
  rw [← Nat.pow_le_pow_iff_left positive, ← Nat.pow_mul, ← Nat.pow_mul]
  calc 2 ^ (k * q) = (2 ^ q) ^ k := by rw [Nat.mul_comm, Nat.pow_mul]
    _ ≤ (10 ^ p) ^ k := Nat.pow_le_pow_left precise k
    _ = 10 ^ (k * p) := by rw [← Nat.pow_mul, Nat.mul_comm]
    _ ≤ 10 ^ (guess * q) := Nat.pow_le_pow_right (by decide) high

end Ratio

-- Ten to one less than the guessed exponent is at most the power of two below.
theorem guess_le {k guess : Int} (bounded : k ≤ 100000) (same : guess = (k * 30103).fdiv 100000) :
    10 ^ (guess - 1).toNat * 2 ^ (1 - k).toNat ≤ 2 ^ (k - 1).toNat * 10 ^ (1 - guess).toNat := by
  rw [Int.fdiv_eq_ediv_of_nonneg _ (by decide)] at same
  by_cases positive : 1 ≤ k
  · obtain ⟨n, rfl⟩ := Int.eq_ofNat_of_zero_le (show 0 ≤ k by omega)
    obtain ⟨m, rfl⟩ := Int.eq_ofNat_of_zero_le (show 0 ≤ guess by omega)
    have powers : 10 ^ m ≤ 2 ^ (n + 1) :=
      ten_pow_le_of_ratio (p := 30103) (q := 100000) (by decide +kernel) (by omega) (by decide)
        (by omega)
    obtain ⟨n, rfl⟩ := Nat.exists_eq_add_of_le' (show 1 ≤ n by omega)
    have flat : (1 - ((n + 1 : Nat) : Int)).toNat = 0 := by omega
    have down : (((n + 1 : Nat) : Int) - 1).toNat = n := by omega
    rw [flat, down]
    cases m with
    | zero => exact Nat.mul_le_mul (Nat.one_le_two_pow) (by decide)
    | succ m =>
      have up : (((m + 1 : Nat) : Int) - 1).toNat = m := by omega
      have none : (1 - ((m + 1 : Nat) : Int)).toNat = 0 := by omega
      rw [up, none]
      rw [Nat.pow_succ, Nat.pow_succ, Nat.pow_succ] at powers
      omega
  · obtain ⟨n, rfl⟩ := Int.exists_eq_neg_ofNat (show k ≤ 0 by omega)
    obtain ⟨m, rfl⟩ := Int.exists_eq_neg_ofNat (show guess ≤ 0 by omega)
    have powers : 2 ^ n ≤ 10 ^ m :=
      two_pow_le_of_ratio (p := 30103) (q := 100000) (by decide +kernel) (by decide) (by omega)
    have up : (-(m : Int) - 1).toNat = 0 := by omega
    have down : (-(n : Int) - 1).toNat = 0 := by omega
    have left : (1 - -(n : Int)).toNat = n + 1 := by omega
    have right : (1 - -(m : Int)).toNat = m + 1 := by omega
    rw [up, down, left, right, Nat.pow_succ, Nat.pow_succ]
    omega

theorem log2_ratio (num den : Nat) (positive : num ≠ 0) :
    den * 2 ^ ((num.log2 : Int) - den.log2 - 1).toNat ≤
      num * 2 ^ (1 - ((num.log2 : Int) - den.log2)).toNat := by
  have above : 2 ^ num.log2 ≤ num := Nat.log2_self_le positive
  have below : den < 2 ^ (den.log2 + 1) := Nat.lt_log2_self
  by_cases larger : den.log2 + 1 ≤ num.log2
  · have up : ((num.log2 : Int) - den.log2 - 1).toNat = num.log2 - (den.log2 + 1) := by omega
    have down : (1 - ((num.log2 : Int) - den.log2)).toNat = 0 := by omega
    rw [up, down, Nat.pow_zero, Nat.mul_one]
    calc den * 2 ^ (num.log2 - (den.log2 + 1))
        ≤ 2 ^ (den.log2 + 1) * 2 ^ (num.log2 - (den.log2 + 1)) :=
          Nat.mul_le_mul_right _ (Nat.le_of_lt below)
      _ = 2 ^ num.log2 := by rw [← Nat.pow_add, Nat.add_sub_cancel' larger]
      _ ≤ num := above
  · have up : ((num.log2 : Int) - den.log2 - 1).toNat = 0 := by omega
    have down : (1 - ((num.log2 : Int) - den.log2)).toNat = den.log2 + 1 - num.log2 := by omega
    rw [up, down, Nat.pow_zero, Nat.mul_one]
    calc den ≤ 2 ^ (den.log2 + 1) := Nat.le_of_lt below
      _ = 2 ^ num.log2 * 2 ^ (den.log2 + 1 - num.log2) := by
        rw [← Nat.pow_add, Nat.add_sub_cancel' (by omega)]
      _ ≤ num * 2 ^ (den.log2 + 1 - num.log2) := Nat.mul_le_mul_right _ above

theorem reaches_decimalExponent (num den : Nat) (positive : num ≠ 0)
    (bounded : num.log2 ≤ den.log2 + 100000) :
    reaches num den (decimalExponent num den) = true := by
  unfold decimalExponent
  extract_lets guess
  split
  next =>
    have powers := @guess_le (num.log2 - den.log2) guess (by omega) rfl
    have ratio := log2_ratio num den positive
    rw [reaches_iff]
    have flip : (-(guess - 1)).toNat = (1 - guess).toNat := by omega
    rw [flip]
    generalize 10 ^ (guess - 1).toNat = up at powers ⊢
    generalize 10 ^ (1 - guess).toNat = down at powers ⊢
    have positive : 0 < 2 ^ (1 - ((num.log2 : Int) - den.log2)).toNat := Nat.two_pow_pos _
    generalize 2 ^ (1 - ((num.log2 : Int) - den.log2)).toNat = small at *
    generalize 2 ^ ((num.log2 : Int) - den.log2 - 1).toNat = large at *
    apply Nat.le_of_mul_le_mul_right _ positive
    calc den * up * small = den * (up * small) := by ac_rfl
      _ ≤ den * (large * down) := Nat.mul_le_mul_left _ powers
      _ = den * large * down := by ac_rfl
      _ ≤ num * small * down := Nat.mul_le_mul_right _ ratio
      _ = num * down * small := by ac_rfl
  next reached =>
    split
    next more => exact more
    next => simpa using reached

namespace Interval

-- Either end is at least one part in `2 ^ 54` away from the middle.
structure Wide (i : Interval) : Prop where
  den : 0 < i.den
  positive : 0 < i.low
  low : i.low ≤ i.mid
  high : i.mid ≤ i.high
  below : i.mid ≤ (i.mid - i.low) * 2 ^ 54
  above : i.mid ≤ (i.high - i.mid) * 2 ^ 54

variable {i : Interval} {spacing : Int}

theorem contains_of_between {num den : Nat} (above : i.low * den < num * i.den)
    (below : num * i.den < i.high * den) : i.contains num den = true := by
  unfold contains
  split <;> simp only [Bool.and_eq_true, decide_eq_true_eq] <;> omega

theorem onGrid_contains {n : Nat} (found : i.onGrid spacing = some n) :
    i.contains (n * 10 ^ spacing.toNat) (10 ^ (-spacing).toNat) = true :=
  List.find?_some (p := fun n => i.contains (n * 10 ^ spacing.toNat) (10 ^ (-spacing).toNat)) found

theorem pos_of_contains {n up down : Nat} (wide : i.Wide) (positive : 0 < down)
    (inside : i.contains (n * up) down = true) : 0 < n := by
  refine Nat.pos_of_ne_zero fun zero => ?_
  have ends : 0 < i.low * down := Nat.mul_pos wide.positive positive
  unfold contains at inside
  split at inside <;>
    simp only [zero, Nat.zero_mul, Bool.and_eq_true, decide_eq_true_eq] at inside <;> omega

-- On a grid that is fine enough the point nearest to the middle is inside.
theorem onGrid_isSome (wide : i.Wide)
    (fine : i.den * 10 ^ spacing.toNat * 2 ^ 53 < i.mid * 10 ^ (-spacing).toNat) :
    (i.onGrid spacing).isSome := by
  unfold onGrid
  extract_lets up down num unit floor nearer
  have split : num = unit * floor + num % unit := (Nat.div_add_mod num unit).symm
  have below : unit < 2 * ((i.mid - i.low) * down) := by
    have := Nat.mul_le_mul_right down wide.below
    rw [Nat.mul_right_comm] at this
    change unit * 2 ^ 53 < i.mid * down at fine
    omega
  have above : unit < 2 * ((i.high - i.mid) * down) := by
    have := Nat.mul_le_mul_right down wide.above
    rw [Nat.mul_right_comm] at this
    change unit * 2 ^ 53 < i.mid * down at fine
    omega
  have middle : i.mid * down = num := rfl
  rw [Nat.sub_mul, middle] at below above
  have low : i.low * down ≤ num := Nat.mul_le_mul_right down wide.low
  have high : num ≤ i.high * down := Nat.mul_le_mul_right down wide.high
  have inside (n : Nat) (left : i.low * down < unit * n) (right : unit * n < i.high * down) :
      i.contains (n * up) down = true := by
    have same : n * up * i.den = unit * n := by simp only [unit]; ac_rfl
    exact contains_of_between (same ▸ left) (same ▸ right)
  rw [List.find?_isSome]
  have positive : 0 < unit := Nat.mul_pos wide.den (Nat.pow_pos (by decide))
  clear_value floor num unit
  by_cases near : 2 * (num % unit) < unit
  · refine ⟨floor, by simp [nearer, near], inside floor ?_ ?_⟩ <;> omega
  · have next : unit * (floor + 1) = unit * floor + unit := Nat.mul_succ _ _
    have remainder : num % unit < unit := Nat.mod_lt _ positive
    refine ⟨floor + 1, by simp [nearer, near], inside (floor + 1) ?_ ?_⟩ <;> omega

end Interval

-- A grid that is tried in the end yields a point unless an earlier one does.
theorem shortestFrom_found {i : Interval} {exponent : Int} {tries count : Nat}
    (last : (i.onGrid (exponent + 1 - (count + tries : Nat))).isSome) :
    i.onGrid (shortestFrom i exponent (tries + 1) count).2 =
      some (shortestFrom i exponent (tries + 1) count).1 := by
  induction tries generalizing count with
  | zero =>
    obtain ⟨n, found⟩ := Option.isSome_iff_exists.mp last
    simp only [Nat.add_zero] at found
    simp [shortestFrom, found]
  | succ tries ih =>
    rw [shortestFrom]
    split
    next n found => exact found
    next =>
      have same : count + 1 + tries = count + (tries + 1) := by omega
      exact ih (same ▸ last)

theorem significand_pos {x : Binary64} (notZero : x.isZero = false) : 1 ≤ x.significand := by
  unfold significand
  split
  · have : x.magnitudeBits ≠ 0 := by simpa [isZero] using notZero
    omega
  · have := Nat.two_pow_pos 52
    omega

theorem significand_lt (x : Binary64) : x.significand < 2 ^ 53 := by
  unfold significand
  split
  next small =>
    have := Nat.lt_of_div_eq_zero (Nat.two_pow_pos 52) small
    omega
  · have := Nat.mod_lt x.magnitudeBits (Nat.two_pow_pos 52)
    omega

theorem interval_wide {x : Binary64} (notZero : x.isZero = false) : x.interval.Wide := by
  have least := significand_pos notZero
  have most := x.significand_lt
  have positive := Nat.two_pow_pos x.scale
  unfold interval
  extract_lets m unit below
  change 1 ≤ m at least
  change m < 2 ^ 53 at most
  change 0 < unit at positive
  have below_cases : below = 1 ∧ m = 2 ^ 52 ∨ below = 2 := by
    simp only [below]
    split <;> simp_all
  have mid : 4 * m * unit - (4 * m - below) * unit = below * unit := by
    rw [← Nat.sub_mul]
    congr 1
    omega
  have high : (4 * m + 2) * unit - 4 * m * unit = 2 * unit := by
    rw [← Nat.sub_mul]
    congr 1
    omega
  refine ⟨by apply Nat.two_pow_pos, Nat.mul_pos (by omega) positive, Nat.mul_le_mul_right _ (by omega),
    Nat.mul_le_mul_right _ (by omega), ?_, ?_⟩
  · dsimp only
    rw [mid, Nat.mul_right_comm below]
    exact Nat.mul_le_mul_right _ (by omega)
  · dsimp only
    rw [high, Nat.mul_right_comm 2]
    exact Nat.mul_le_mul_right _ (by omega)

theorem fine_of_reaches {num den : Nat} {exponent : Int} (positive : 0 < den)
    (reached : reaches num den exponent = true) :
    den * 10 ^ (exponent - 16).toNat * 2 ^ 53 < num * 10 ^ (-(exponent - 16)).toNat := by
  have shift : 10 ^ (exponent - 16).toNat * 10 ^ 16 * 10 ^ (-exponent).toNat =
      10 ^ (-(exponent - 16)).toNat * 10 ^ exponent.toNat := by
    rw [← Nat.pow_add, ← Nat.pow_add, ← Nat.pow_add]
    congr 1
    omega
  rw [reaches_iff] at reached
  have up : 0 < 10 ^ (exponent - 16).toNat := Nat.pow_pos (by decide)
  have down : 0 < 10 ^ (-exponent).toNat := Nat.pow_pos (by decide)
  generalize 10 ^ (exponent - 16).toNat = coarse at *
  generalize 10 ^ (-(exponent - 16)).toNat = spread at *
  have spaced : den * coarse * 10 ^ 16 ≤ num * spread := by
    apply Nat.le_of_mul_le_mul_right _ down
    calc den * coarse * 10 ^ 16 * 10 ^ (-exponent).toNat
        = den * (coarse * 10 ^ 16 * 10 ^ (-exponent).toNat) := by ac_rfl
      _ = den * 10 ^ exponent.toNat * spread := by rw [shift]; ac_rfl
      _ ≤ num * 10 ^ (-exponent).toNat * spread := Nat.mul_le_mul_right _ reached
      _ = num * spread * 10 ^ (-exponent).toNat := by ac_rfl
  have unit : 0 < den * coarse := Nat.mul_pos positive up
  omega

-- Seventeen digits are enough, and what they stand for is inside.
theorem Interval.Wide.shortestFrom_contains {i : Interval} (wide : i.Wide)
    (bounded : i.mid.log2 ≤ i.den.log2 + 100000) :
    let found := shortestFrom i (decimalExponent i.mid i.den) 17 1
    0 < found.1 ∧ i.contains (found.1 * 10 ^ found.2.toNat) (10 ^ (-found.2).toNat) = true := by
  have notZero : i.mid ≠ 0 := Nat.ne_of_gt (Nat.lt_of_lt_of_le wide.positive wide.low)
  have reached := reaches_decimalExponent i.mid i.den notZero bounded
  generalize decimalExponent i.mid i.den = exponent at reached
  have last : (i.onGrid (exponent + 1 - (1 + 16 : Nat))).isSome := by
    have spacing : exponent + 1 - (1 + 16 : Nat) = exponent - 16 := by omega
    rw [spacing]
    exact Interval.onGrid_isSome wide (fine_of_reaches wide.den reached)
  have inside := Interval.onGrid_contains (shortestFrom_found last)
  exact ⟨Interval.pos_of_contains wide (Nat.pow_pos (by decide)) inside, inside⟩

theorem scale_le (x : Binary64) : x.scale ≤ 2 ^ 11 := by
  have bits : x.magnitudeBits < 2 ^ 63 := Nat.mod_lt _ (Nat.two_pow_pos 63)
  have field : x.exponentField < 2 ^ 11 := Nat.div_lt_of_lt_mul bits
  simp only [scale]
  omega

theorem log2_mid_le (x : Binary64) : x.interval.mid.log2 ≤ x.interval.den.log2 + 100000 := by
  have above : x.interval.mid < 2 ^ (55 + x.scale) := by
    have := Nat.mul_lt_mul_of_pos_right (Nat.mul_lt_mul_of_pos_left x.significand_lt (Nat.succ_pos 3))
      (Nat.two_pow_pos x.scale)
    rw [Nat.pow_add]
    exact this
  have scale := x.scale_le
  by_cases zero : x.interval.mid = 0
  · simp [zero]
  · have := (Nat.log2_lt zero).mpr above
    omega

theorem shortestFrom_contains {x : Binary64} (notZero : x.isZero = false) :
    let found := shortestFrom x.interval (decimalExponent x.interval.mid x.interval.den) 17 1
    0 < found.1 ∧
      x.interval.contains (found.1 * 10 ^ found.2.toNat) (10 ^ (-found.2).toNat) = true :=
  (interval_wide notZero).shortestFrom_contains x.log2_mid_le

theorem head_toDigits {n : Nat} (positive : 0 < n) (rest : List Char) :
    Nat.toDigits 10 n ≠ '0' :: rest := by
  induction n using Nat.strongRecOn generalizing rest with
  | ind n ih =>
    rw [Nat.toDigits_eq_if (by decide)]
    split
    next small =>
      have all : ∀ d < 10, 0 < d → Nat.digitChar d ≠ '0' := by decide
      simp [all n small positive]
    next large =>
      intro same
      cases upper : Nat.toDigits 10 (n / 10) with
      | nil => exact Nat.toDigits_ne_nil upper
      | cons c more =>
        rw [upper, List.cons_append, List.cons.injEq] at same
        exact ih (n / 10) (by omega) (by omega) more (same.1 ▸ upper)

structure Leading (digits : List Char) : Prop where
  all : ∀ c ∈ digits, c.isDigit
  first : ∃ c rest, digits = c :: rest ∧ c ≠ '0'

theorem leading_toDigits {n : Nat} (positive : 0 < n) : Leading (Nat.toDigits 10 n) := by
  refine ⟨fun c member => Nat.isDigit_of_mem_toDigits (by decide) (by decide) member, ?_⟩
  cases digits : Nat.toDigits 10 n with
  | nil => exact absurd digits Nat.toDigits_ne_nil
  | cons c rest =>
    refine ⟨c, rest, rfl, ?_⟩
    rintro rfl
    exact head_toDigits positive rest digits

theorem Leading.dropZeros {digits : List Char} (leading : Leading digits) :
    Leading (digits.reverse.dropWhile (· = '0')).reverse := by
  have start : (digits.reverse.dropWhile (· = '0')).reverse <+: digits := by
    have := List.reverse_prefix.mpr (List.dropWhile_suffix (l := digits.reverse) (· = '0'))
    rwa [List.reverse_reverse] at this
  refine ⟨fun c member => leading.all c (start.subset member), ?_⟩
  obtain ⟨c, rest, rfl, notZero⟩ := leading.first
  cases kept : ((c :: rest).reverse.dropWhile (· = '0')).reverse with
  | nil =>
    have whole := List.takeWhile_append_dropWhile (p := (· = '0')) (l := (c :: rest).reverse)
    rw [List.reverse_eq_nil_iff.mp kept, List.append_nil] at whole
    have zeros : (c :: rest).reverse.all (· = '0') := whole ▸ List.all_takeWhile
    exact absurd (by simpa using List.all_eq_true.mp zeros c (by simp)) notZero
  | cons d more =>
    rw [kept] at start
    exact ⟨d, more, rfl, (List.cons_prefix_cons.mp start).1 ▸ notZero⟩

theorem shortest_leading {x : Binary64} (notZero : x.isZero = false) : Leading x.shortest.digits := by
  have positive := (shortestFrom_contains notZero).1
  unfold shortest
  extract_lets i
  change 0 < (shortestFrom i (decimalExponent i.mid i.den) 17 1).1 at positive
  generalize shortestFrom i (decimalExponent i.mid i.den) 17 1 = found at positive
  exact (leading_toDigits positive).dropZeros

end Bayeux.Binary64
