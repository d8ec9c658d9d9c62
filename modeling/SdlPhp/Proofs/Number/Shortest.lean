import SdlPhp.Proofs.Number.Nearest

/-!
# Shortest decimals read back

The search for the shortest decimal goes down the grids to one that is finer than the interval around
the number, so that it ends with a point in the interval. Main statement: `ofDecimal_shortest`.
-/

namespace SdlPhp.Binary64

/-! ## Points of a grid -/

/-- The distance of the points of a grid, and that of the units in which the interval is measured, in
a common measure. -/
def gridStep (e k : Int) : Nat := Nat.pow 10 k.toNat * Nat.pow 2 (-(e - 2)).toNat

def unitStep (e k : Int) : Nat := Nat.pow 2 (e - 2).toNat * Nat.pow 10 (-k).toNat

/-- The point of the grid is in the interval. -/
def inside (m : Nat) (e k : Int) (d : Nat) : Bool :=
  let lo := (interval m e).2.1 * unitStep e k
  let hi := (interval m e).2.2 * unitStep e k
  if m % 2 = 0 then lo ≤ d * gridStep e k && d * gridStep e k ≤ hi
  else lo < d * gridStep e k && d * gridStep e k < hi

section Grid

variable {m d : Nat} {e k : Int}

theorem gridStep_pos (e k : Int) : 0 < gridStep e k :=
  Nat.mul_pos (Nat.pow_pos (by decide)) (Nat.pow_pos (by decide))

theorem unitStep_pos (e k : Int) : 0 < unitStep e k :=
  Nat.mul_pos (Nat.pow_pos (by decide)) (Nat.pow_pos (by decide))

theorem gridStep_div (e k : Int) : (gridStep e k / unitStep e k : ℚ) = 10 ^ k / 2 ^ (e - 2) := by
  rw [gridStep, unitStep, ten_zpow_eq, two_zpow_eq]
  simp only [Nat.pow_eq, Nat.cast_mul, Nat.cast_pow, Nat.cast_ofNat]
  field_simp

/-- Multiples of the two steps compare as the values they stand for. -/
theorem mul_unitStep_le_iff (a : Nat) : a * unitStep e k ≤ d * gridStep e k ↔
    (a * 2 ^ (e - 2) : ℚ) ≤ d * 10 ^ k := by
  have hunit : (0 : ℚ) < unitStep e k := by exact_mod_cast unitStep_pos e k
  have hpower : (0 : ℚ) < 2 ^ (e - 2) := by positivity
  have ratio := gridStep_div e k
  rw [← Nat.cast_le (α := ℚ), Nat.cast_mul, Nat.cast_mul, ← le_div_iff₀ hunit, mul_div_assoc,
    ratio, ← mul_div_assoc, le_div_iff₀ hpower]

theorem mul_gridStep_le_iff (a : Nat) : d * gridStep e k ≤ a * unitStep e k ↔
    (d * 10 ^ k : ℚ) ≤ a * 2 ^ (e - 2) := by
  have hunit : (0 : ℚ) < unitStep e k := by exact_mod_cast unitStep_pos e k
  have hpower : (0 : ℚ) < 2 ^ (e - 2) := by positivity
  have ratio := gridStep_div e k
  rw [← Nat.cast_le (α := ℚ), Nat.cast_mul, Nat.cast_mul, ← div_le_iff₀ hunit, mul_div_assoc,
    ratio, ← mul_div_assoc, div_le_iff₀ hpower]

theorem near_of_inside (h : inside m e k d = true) : Near m e (d * 10 ^ k) := by
  rw [inside] at h
  split at h
  · rename_i heven
    rw [Bool.and_eq_true, decide_eq_true_iff, decide_eq_true_iff, mul_unitStep_le_iff,
      mul_gridStep_le_iff] at h
    exact ⟨h.1, h.2, fun hodd => by omega⟩
  · rw [Bool.and_eq_true, decide_eq_true_iff, decide_eq_true_iff, ← Nat.not_le, ← Nat.not_le,
      mul_unitStep_le_iff, mul_gridStep_le_iff, not_le, not_le] at h
    exact ⟨h.1.le, h.2.le, fun _ => h⟩

/-- Of the two points next to a value, the one that has a property, or the nearer one. -/
def nearer? (p : Nat → Bool) (value step : Nat) : Option Nat :=
  let d := value / step
  let before := value - d * step
  let after := (d + 1) * step - value
  bif p d then
    bif p (d + 1) then
      some (if before < after || (before == after && d % 2 == 0) then d else d + 1)
    else some d
  else bif p (d + 1) then some (d + 1) else none

theorem gridPoint?_eq (m : Nat) (e k : Int) :
    gridPoint? m e k = nearer? (inside m e k) (4 * m * unitStep e k) (gridStep e k) := by
  rw [nearer?]
  cases h : inside m e k (4 * m * unitStep e k / gridStep e k) <;>
    cases hnext : inside m e k (4 * m * unitStep e k / gridStep e k + 1)
  all_goals
    unfold inside interval unitStep gridStep at h hnext
    dsimp only at h hnext
    unfold gridPoint? interval
    dsimp only
    simp only [h, hnext, cond_true, cond_false]
  all_goals rfl

theorem of_nearer? {p : Nat → Bool} {value step : Nat} (h : nearer? p value step = some d) :
    p d = true := by
  rw [nearer?] at h
  cases hd : p (value / step) <;> cases hnext : p (value / step + 1) <;>
    simp only [hd, hnext, cond_true, cond_false, Option.some.injEq, reduceCtorEq] at h
  · rwa [← h]
  · rwa [← h]
  · rw [← h]
    split
    · exact hd
    · exact hnext

theorem inside_of_gridPoint? (h : gridPoint? m e k = some d) : inside m e k d = true :=
  of_nearer? (gridPoint?_eq m e k ▸ h)

/-- Where the points of the grid are closer than the half of the interval above the number is wide,
the next point is in it. -/
theorem exists_gridPoint? (m : Nat) (h : gridStep e k < 2 * unitStep e k) :
    ∃ d, gridPoint? m e k = some d := by
  have next : inside m e k (4 * m * unitStep e k / gridStep e k + 1) = true := by
    have split := Nat.div_add_mod (4 * m * unitStep e k) (gridStep e k)
    have rest := Nat.mod_lt (4 * m * unitStep e k) (gridStep_pos e k)
    rw [Nat.mul_comm] at split
    have above : (interval m e).2.1 * unitStep e k ≤ 4 * m * unitStep e k :=
      Nat.mul_le_mul_right _ (Nat.sub_le _ _)
    have last : (interval m e).2.2 * unitStep e k = 4 * m * unitStep e k + 2 * unitStep e k :=
      Nat.add_mul _ _ _
    rw [inside, last, Nat.add_mul, Nat.one_mul]
    split <;> rw [Bool.and_eq_true, decide_eq_true_iff, decide_eq_true_iff] <;> omega
  rw [gridPoint?_eq, nearer?, next]
  cases inside m e k (4 * m * unitStep e k / gridStep e k)
  · exact ⟨_, rfl⟩
  · exact ⟨_, rfl⟩

theorem ne_zero_of_inside (hm : 0 < m) (h : inside m e k d = true) : d ≠ 0 := by
  rintro rfl
  have lower := (near_of_inside h).lower
  have first := le_cast_interval_lower hm e
  have hm' : (1 : ℚ) ≤ m := by exact_mod_cast hm
  have hpower : (0 : ℚ) < 2 ^ (e - 2) := by positivity
  rw [Nat.cast_zero, zero_mul, ← not_lt] at lower
  exact lower (mul_pos (by linarith) hpower)

/-- On a grid whose points are closer than half a unit of the number there is a point. -/
theorem exists_gridPoint?_of_lt (m : Nat) (h : (10 : ℚ) ^ k < 2 ^ (e - 1)) :
    ∃ d, gridPoint? m e k = some d := by
  refine exists_gridPoint? m ?_
  have step := mul_unitStep_le_iff (d := 1) (e := e) (k := k) 2
  have power : (2 : ℚ) ^ (e - 1) = 2 * 2 ^ (e - 2) := by
    rw [two_zpow_sub_one, two_zpow_sub_two]
    ring
  rw [Nat.one_mul, Nat.cast_one, one_mul, Nat.cast_ofNat, ← power, ← not_lt, ← not_lt] at step
  exact Decidable.byContradiction fun hlarge => step.1 hlarge h

/-! ## The search -/

/-- The value of a decimal. -/
def Decimal.value (x : Decimal) : ℚ := x.digits * 10 ^ x.exponent

/-- The decimal is positive and in the interval around the number. -/
def Decimal.NearTo (x : Decimal) (m : Nat) (e : Int) : Prop := x.digits ≠ 0 ∧ Near m e x.value

theorem nearTo_firstGrid (hm : 0 < m) {tries : Nat}
    (h : ∃ i : Nat, i < tries ∧ ∃ d, gridPoint? m e (k - i) = some d) :
    (firstGrid m e tries k).NearTo m e := by
  induction tries generalizing k with
  | zero =>
    obtain ⟨i, hi, -⟩ := h
    exact absurd hi (Nat.not_lt_zero i)
  | succ tries ih =>
    rw [firstGrid]
    split
    · rename_i d hd
      have inside := inside_of_gridPoint? hd
      exact ⟨ne_zero_of_inside hm inside, near_of_inside inside⟩
    · rename_i hnone
      obtain ⟨i, hi, d, hd⟩ := h
      cases i with
      | zero => simp [hnone] at hd
      | succ i =>
        refine ih ⟨i, Nat.lt_of_succ_lt_succ hi, d, ?_⟩
        rw [← hd]
        congr 1
        omega

theorem nearTo_strip {x : Decimal} (h : x.NearTo m e) (n : Nat) : (x.strip n).NearTo m e := by
  induction n generalizing x with
  | zero => exact h
  | succ n ih =>
    rw [Decimal.strip]
    split
    · rename_i hzero
      simp only [Bool.and_eq_true, decide_eq_true_iff] at hzero
      obtain ⟨hdigits, hnear⟩ := h
      have tens : x.digits = x.digits / 10 * 10 := by omega
      refine ih ⟨show x.digits / 10 ≠ 0 by omega, ?_⟩
      have value : (⟨x.digits / 10, x.exponent + 1⟩ : Decimal).value = x.value := by
        have cast : (x.digits : ℚ) = (x.digits / 10 : Nat) * 10 := by exact_mod_cast tens
        rw [Decimal.value, Decimal.value, cast]
        dsimp only
        rw [zpow_add_one₀ (by norm_num)]
        ring
      rwa [value]
    · exact h

/-! ## The size of a number -/

/-- A power of ten is not far above the power of two of the same size. -/
theorem ten_zpow_le {log power : Int} (h : 100000 * power ≤ 30103 * log) (hlower : -1100 ≤ log)
    (hupper : log ≤ 1100) : (10 : ℚ) ^ power ≤ 2 ^ (log + 4) := by
  rcases le_total 0 power with hpower | hpower
  · have cubes : ((10 : ℚ) ^ power) ^ 3 ≤ (2 ^ (log + 4)) ^ 3 := calc
      ((10 : ℚ) ^ power) ^ 3 = (10 ^ 3) ^ power := by
        rw [← zpow_natCast, ← zpow_natCast, ← zpow_mul, ← zpow_mul, mul_comm]
      _ ≤ (2 ^ 10) ^ power := zpow_le_zpow_left₀ hpower (by norm_num) (by norm_num)
      _ = 2 ^ (10 * power) := by rw [← zpow_natCast, ← zpow_mul]; rfl
      _ ≤ 2 ^ ((log + 4) * 3) := zpow_le_zpow_right₀ (by norm_num) (by omega)
      _ = (2 ^ (log + 4)) ^ 3 := by rw [← zpow_natCast, ← zpow_mul]; rfl
    exact le_of_pow_le_pow_left₀ (by norm_num) (by positivity) cubes
  · have powers : ((10 : ℚ) ^ power) ^ 28 ≤ (2 ^ (log + 4)) ^ 28 := calc
      ((10 : ℚ) ^ power) ^ 28 = (10 ^ 28) ^ power := by
        rw [← zpow_natCast, ← zpow_natCast, ← zpow_mul, ← zpow_mul, mul_comm]
      _ ≤ (2 ^ 93) ^ power := by
        obtain ⟨n, rfl⟩ := Int.exists_eq_neg_ofNat hpower
        rw [zpow_neg, zpow_neg, zpow_natCast, zpow_natCast]
        gcongr
        norm_num
      _ = 2 ^ (93 * power) := by rw [← zpow_natCast, ← zpow_mul]; rfl
      _ ≤ 2 ^ ((log + 4) * 28) := zpow_le_zpow_right₀ (by norm_num) (by omega)
      _ = (2 ^ (log + 4)) ^ 28 := by rw [← zpow_natCast, ← zpow_mul]; rfl
    exact le_of_pow_le_pow_left₀ (by norm_num) (by positivity) powers

/-- The last grid that is tried is fine enough. -/
theorem ten_zpow_lt {log e : Int} (hlower : -1100 ≤ log) (hupper : log ≤ 1100) (h : log ≤ e + 52) :
    (10 : ℚ) ^ (log * 30103 / 100000 - 19) < 2 ^ (e - 1) := by
  have rounded : 100000 * (log * 30103 / 100000) ≤ 30103 * log := by omega
  have size := ten_zpow_le rounded hlower hupper
  calc (10 : ℚ) ^ (log * 30103 / 100000 - 19)
      = 10 ^ (log * 30103 / 100000) / 10 ^ 19 := by
        rw [zpow_sub₀ (by norm_num)]
        rfl
    _ ≤ 2 ^ (log + 4) / 10 ^ 19 := by gcongr
    _ < 2 ^ (log + 4) / 2 ^ 63 := by
        gcongr
        norm_num
    _ = 2 ^ (log + 4 - 63) := by
        rw [zpow_sub₀ (by norm_num)]
        rfl
    _ ≤ 2 ^ (e - 1) := zpow_le_zpow_right₀ (by norm_num) (by omega)

theorem nearTo_shortest (hm : 0 < m) {negative : Bool} (hx : IsNumber (.finite negative m e)) :
    (shortest m e).NearTo m e := by
  obtain ⟨hsize, hleast, hgreatest, -⟩ := hx
  have log : m.log2 < 53 := (Nat.log2_lt (Nat.ne_of_gt hm)).2 hsize
  rw [leastExponent] at hleast
  rw [greatestExponent] at hgreatest
  refine nearTo_strip (nearTo_firstGrid hm ⟨21, by decide, exists_gridPoint?_of_lt m ?_⟩) 22
  have bound : (m.log2 : Int) + e ≤ e + 52 := by omega
  have fine := ten_zpow_lt (by omega) (by omega) bound
  convert fine using 2
  push_cast
  ring

/-- The shortest decimal is read back, also with zeros behind its digits. -/
theorem ofDecimal_shortest (hm : 0 < m) {negative : Bool} (hx : IsNumber (.finite negative m e))
    (n : Nat) : ofDecimal negative ((shortest m e).digits * 10 ^ n) ((shortest m e).exponent - n) =
      .finite negative m e := by
  obtain ⟨hdigits, hnear⟩ := nearTo_shortest hm hx
  refine ofDecimal_of_near hm (Nat.mul_ne_zero hdigits (by positivity)) hx ?_
  convert hnear using 1
  rw [Decimal.value, zpow_sub₀ (by norm_num), zpow_natCast]
  push_cast
  field_simp

end Grid

end SdlPhp.Binary64
