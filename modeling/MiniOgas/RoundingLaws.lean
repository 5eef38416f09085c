import MiniOgas.TelemetryInput
import Mathlib.Tactic.Linarith
import Mathlib.Tactic.FieldSimp
import Mathlib.Tactic.Ring
import Mathlib.Tactic.Positivity

namespace MiniOgas

variable {q r : ℚ} {n : Int} {scaled horizon : Nat}

theorem roundHalfEven_cases (q : ℚ) :
    roundHalfEven q = q.floor ∨ roundHalfEven q = q.floor + 1 := by
  unfold roundHalfEven
  dsimp only
  split
  next => exact .inl rfl
  split
  next => exact .inr rfl
  split
  next => exact .inl rfl
  next => exact .inr rfl

theorem le_roundHalfEven (h : (n : ℚ) ≤ q) : n ≤ roundHalfEven q := by
  have low : n ≤ q.floor := Rat.le_floor_iff.mpr h
  rcases roundHalfEven_cases q with same | up <;> omega

theorem roundHalfEven_le (h : q ≤ n) : roundHalfEven q ≤ n := by
  have low : (q.floor : ℚ) ≤ q := Rat.floor_le q
  have floor : q.floor ≤ n := by exact_mod_cast low.trans h
  by_cases same : q.floor = n
  · have whole : q = q.floor := le_antisymm (same ▸ h) low
    unfold roundHalfEven
    rw [if_pos]
    · exact floor
    · rw [← whole, sub_self]
      norm_num
  · rcases roundHalfEven_cases q with down | up <;> omega

theorem roundHalfEven_mono (h : q ≤ r) : roundHalfEven q ≤ roundHalfEven r := by
  have floors : q.floor ≤ r.floor := Rat.le_floor_iff.mpr ((Rat.floor_le q).trans h)
  rcases floors.lt_or_eq with below | same
  · have up : roundHalfEven q ≤ q.floor + 1 := by rcases roundHalfEven_cases q with h | h <;> omega
    have down : r.floor ≤ roundHalfEven r := by rcases roundHalfEven_cases r with h | h <;> omega
    omega
  · have rest : q - q.floor ≤ r - r.floor := by rw [same]; linarith
    unfold roundHalfEven
    dsimp only
    split_ifs <;> first | omega | linarith

theorem le_roundHalfEven_iff (even : n % 2 = 0) :
    n ≤ roundHalfEven q ↔ (n : ℚ) - 1 / 2 ≤ q := by
  have low := Rat.floor_le q
  have high : q < q.floor + 1 := by exact_mod_cast Rat.lt_floor_add_one q
  rcases lt_trichotomy n (q.floor + 1) with within | next | above
  · have reached : (n : ℚ) ≤ q.floor := by exact_mod_cast Int.le_of_lt_add_one within
    exact iff_of_true (le_roundHalfEven (reached.trans low)) (by linarith)
  · have cast : (n : ℚ) = q.floor + 1 := by exact_mod_cast next
    have odd : ¬q.floor % 2 = 0 := by omega
    unfold roundHalfEven
    dsimp only
    split
    next small => exact iff_of_false (by omega) (by linarith)
    next large => exact iff_of_true (by split <;> omega) (by linarith)
  · have far : (q.floor : ℚ) + 2 ≤ n := by exact_mod_cast (by omega : q.floor + 2 ≤ n)
    refine iff_of_false ?_ (by linarith)
    rcases roundHalfEven_cases q with down | up <;> omega

theorem lt_roundHalfEven_iff (even : n % 2 = 0) :
    n < roundHalfEven q ↔ (n : ℚ) + 1 / 2 < q := by
  have low := Rat.floor_le q
  have high : q < q.floor + 1 := by exact_mod_cast Rat.lt_floor_add_one q
  rcases lt_trichotomy n q.floor with within | same | above
  · have reached : (n : ℚ) + 1 ≤ q.floor := by exact_mod_cast within
    refine iff_of_true ?_ (by linarith)
    rcases roundHalfEven_cases q with down | up <;> omega
  · have cast : (n : ℚ) = q.floor := by exact_mod_cast same
    have kept : q.floor % 2 = 0 := same ▸ even
    unfold roundHalfEven
    dsimp only
    split
    next small => exact iff_of_false (by omega) (by linarith)
    split
    next large => exact iff_of_true (by omega) (by linarith)
    next small => exact iff_of_false (by omega) (by linarith)
  · have far : (q.floor : ℚ) + 1 ≤ n := by exact_mod_cast above
    refine iff_of_false ?_ (by linarith)
    rcases roundHalfEven_cases q with down | up <;> omega

section Places

variable {place : ℚ}

theorem div_le_rounded_iff (positive : 0 < place) :
    (n : ℚ) / place ≤ roundHalfEven (q * place) / place ↔ n ≤ roundHalfEven (q * place) := by
  rw [div_le_div_iff_of_pos_right positive, Int.cast_le]

theorem rounded_le (positive : 0 < place) (h : q ≤ (n : ℚ) / place) :
    roundHalfEven (q * place) / place ≤ (n : ℚ) / place := by
  rw [div_le_div_iff_of_pos_right positive, Int.cast_le]
  exact roundHalfEven_le ((le_div_iff₀ positive).mp h)

theorem rounded_mono (positive : 0 < place) (h : q ≤ r) :
    (roundHalfEven (q * place) : ℚ) / place ≤ roundHalfEven (r * place) / place := by
  rw [div_le_div_iff_of_pos_right positive, Int.cast_le]
  exact roundHalfEven_mono (mul_le_mul_of_nonneg_right h positive.le)

end Places

theorem binaryExponent_spec (nonzero : q ≠ 0) :
    (2 : ℚ) ^ binaryExponent q ≤ |q| ∧ |q| < 2 ^ (binaryExponent q + 1) := by
  have den : (0 : ℚ) < q.den := by exact_mod_cast q.den_pos
  have quotient : |q| = (q.num.natAbs : ℚ) / q.den := by
    rw [Rat.abs_def, Rat.divInt_eq_div, Int.cast_natCast, Int.cast_natCast]
  have numLow : (2 : ℚ) ^ (q.num.natAbs.log2 : Int) ≤ q.num.natAbs := by
    exact_mod_cast Nat.log2_self_le (Int.natAbs_ne_zero.mpr (Rat.num_ne_zero.mpr nonzero))
  have numHigh : (q.num.natAbs : ℚ) < 2 ^ ((q.num.natAbs.log2 : Int) + 1) := by
    exact_mod_cast Nat.lt_log2_self
  have denLow : (2 : ℚ) ^ (q.den.log2 : Int) ≤ q.den := by
    exact_mod_cast Nat.log2_self_le q.den_nz
  have denHigh : (q.den : ℚ) < 2 ^ ((q.den.log2 : Int) + 1) := by
    exact_mod_cast Nat.lt_log2_self
  have low : (2 : ℚ) ^ ((q.num.natAbs.log2 : Int) - q.den.log2 - 1) ≤ |q| := by
    rw [quotient, le_div_iff₀ den]
    calc
      _ ≤ (2 : ℚ) ^ ((q.num.natAbs.log2 : Int) - q.den.log2 - 1) * 2 ^ ((q.den.log2 : Int) + 1) :=
          mul_le_mul_of_nonneg_left denHigh.le (zpow_nonneg two_pos.le _)
      _ = 2 ^ (q.num.natAbs.log2 : Int) := by
          rw [← zpow_add₀ two_ne_zero]
          congr 1
          ring
      _ ≤ _ := numLow
  have high : |q| < (2 : ℚ) ^ ((q.num.natAbs.log2 : Int) - q.den.log2 + 1) := by
    rw [quotient, div_lt_iff₀ den]
    calc _ < (2 : ℚ) ^ ((q.num.natAbs.log2 : Int) + 1) := numHigh
      _ = 2 ^ ((q.num.natAbs.log2 : Int) - q.den.log2 + 1) * 2 ^ (q.den.log2 : Int) := by
          rw [← zpow_add₀ two_ne_zero]
          congr 1
          ring
      _ ≤ _ := mul_le_mul_of_nonneg_left denLow (zpow_nonneg two_pos.le _)
  unfold binaryExponent
  dsimp only
  split
  next reached => exact ⟨reached, high⟩
  next beyond => exact ⟨low, by rw [sub_add_cancel]; exact not_le.mp beyond⟩

/-- A number of a binade is rounded within its bounds. -/
theorem toDouble_binade (positive : 0 < q) :
    (2 : ℚ) ^ binaryExponent q ≤ toDouble q ∧ toDouble q ≤ 2 ^ (binaryExponent q + 1) := by
  obtain ⟨low, high⟩ := binaryExponent_spec positive.ne'
  rw [abs_of_pos positive] at low high
  have unit : (0 : ℚ) < 2 ^ (binaryExponent q - 52) := zpow_pos two_pos _
  have scale (k : Nat) : (2 : ℚ) ^ (binaryExponent q - 52 + k) =
      ((2 ^ k : Int) : ℚ) * 2 ^ (binaryExponent q - 52) := by
    rw [zpow_add₀ two_ne_zero, mul_comm]
    norm_cast
  have bottom := scale 52
  have top := scale 53
  rw [show binaryExponent q - 52 + (52 : Nat) = binaryExponent q by omega] at bottom
  rw [show binaryExponent q - 52 + (53 : Nat) = binaryExponent q + 1 by omega] at top
  rw [toDouble, if_neg positive.ne', bottom, top, mul_le_mul_iff_left₀ unit,
    mul_le_mul_iff_left₀ unit, Int.cast_le, Int.cast_le]
  exact ⟨le_roundHalfEven ((le_div_iff₀ unit).mpr (bottom ▸ low)),
    roundHalfEven_le ((div_le_iff₀ unit).mpr (top ▸ high.le))⟩

theorem toDouble_mono (positive : 0 < q) (h : q ≤ r) : toDouble q ≤ toDouble r := by
  have above := positive.trans_le h
  obtain ⟨low, -⟩ := binaryExponent_spec positive.ne'
  obtain ⟨-, high⟩ := binaryExponent_spec above.ne'
  rw [abs_of_pos positive] at low
  rw [abs_of_pos above] at high
  have ordered : binaryExponent q < binaryExponent r + 1 :=
    (zpow_lt_zpow_iff_right₀ one_lt_two).mp ((low.trans h).trans_lt high)
  rcases (Int.lt_add_one_iff.mp ordered).lt_or_eq with below | same
  · refine (toDouble_binade positive).2.trans (le_trans ?_ (toDouble_binade above).1)
    exact zpow_le_zpow_right₀ one_le_two below
  · have unit : (0 : ℚ) < 2 ^ (binaryExponent r - 52) := zpow_pos two_pos _
    rw [toDouble, if_neg positive.ne', toDouble, if_neg above.ne', same,
      mul_le_mul_iff_left₀ unit, Int.cast_le]
    exact roundHalfEven_mono (div_le_div_of_nonneg_right h unit.le)

theorem floor_div (scaled horizon : Nat) :
    ((scaled : ℚ) / horizon).floor = (scaled / horizon : Nat) := by
  have floor := Rat.floor_natCast_div_natCast scaled horizon
  exact floor

theorem sub_floor_div (positive : 0 < horizon) :
    (scaled : ℚ) / horizon - ((scaled : ℚ) / horizon).floor =
      (scaled % horizon : Nat) / horizon := by
  have split : (scaled : ℚ) = horizon * (scaled / horizon : Nat) + (scaled % horizon : Nat) := by
    exact_mod_cast (Nat.div_add_mod scaled horizon).symm
  rw [floor_div, Int.cast_natCast]
  field_simp
  linarith

/-- A ratio is not rounded down: it is whole, or its remainder is above one half, or one half
under an odd quotient. -/
def RoundsUp (scaled horizon : Nat) : Prop :=
  scaled % horizon = 0 ∨ horizon < 2 * (scaled % horizon) ∨
    2 * (scaled % horizon) = horizon ∧ scaled / horizon % 2 = 1

instance roundsUpDecidable (scaled horizon : Nat) : Decidable (RoundsUp scaled horizon) :=
  inferInstanceAs (Decidable (_ ∨ _ ∨ _))

theorem div_le_roundHalfEven_iff (positive : 0 < horizon) :
    (scaled : ℚ) / horizon ≤ roundHalfEven ((scaled : ℚ) / horizon) ↔
      RoundsUp scaled horizon := by
  have rest := @sub_floor_div scaled horizon positive
  have below : (0 : ℚ) < horizon := by exact_mod_cast positive
  have floor := floor_div scaled horizon
  have high : (scaled : ℚ) / horizon ≤ ((scaled / horizon : Nat) : ℚ) + 1 := by
    rw [div_le_iff₀ below]
    have bound := Nat.lt_div_mul_add positive (a := scaled)
    exact_mod_cast (by linarith : scaled ≤ (scaled / horizon + 1) * horizon)
  have half : ((scaled % horizon : Nat) : ℚ) / horizon < 1 / 2 ↔
      2 * (scaled % horizon) < horizon := by
    rw [div_lt_div_iff₀ below two_pos]
    norm_cast
    omega
  have above : 1 / 2 < ((scaled % horizon : Nat) : ℚ) / horizon ↔
      horizon < 2 * (scaled % horizon) := by
    rw [div_lt_div_iff₀ two_pos below]
    norm_cast
    omega
  have whole : (scaled : ℚ) / horizon ≤ ((scaled / horizon : Nat) : ℚ) ↔
      scaled % horizon = 0 := by
    rw [floor, Int.cast_natCast] at rest
    rw [← sub_nonpos, rest, div_le_iff₀ below, zero_mul]
    norm_cast
    omega
  have odd : ((scaled / horizon : Nat) : Int) % 2 = 0 ↔ ¬scaled / horizon % 2 = 1 := by omega
  unfold roundHalfEven
  dsimp only
  rw [rest, floor]
  unfold RoundsUp
  split
  next small =>
    rw [half] at small
    rw [Int.cast_natCast, whole]
    omega
  split
  next large =>
    rw [above] at large
    push_cast
    exact iff_of_true high (.inr (.inl large))
  next small large =>
    rw [half] at small
    rw [above] at large
    split
    next even =>
      rw [Int.cast_natCast, whole]
      omega
    next uneven =>
      rw [odd, not_not] at uneven
      push_cast
      exact iff_of_true high (.inr (.inr ⟨by omega, uneven⟩))

end MiniOgas
