import Mathlib.Algebra.Order.Field.Basic
import Mathlib.Algebra.Order.Ring.Abs
import Mathlib.Algebra.Order.Ring.Rat
import Mathlib.Data.Nat.Log
import Mathlib.Order.Monotone.Basic
import Mathlib.Tactic.FieldSimp
import Mathlib.Tactic.Linarith
import Mathlib.Tactic.Ring
import ScriptedRays.Number.Rounding

/-!
# Rounding — the nearest of all numbers of a format

Magnitude bits stand for units (`decode`): the larger the bits, the larger the number
(`strictMono_decode`).  Whole numbers are rounded to nearest, a tie going to the even one
(`nearest_nearestEven`), and so is a fraction of units to the numbers of a format
(`encode_nearestEven`), also where a largest number stands for all above it (`NearestEven.cap`).  A
number of the format is kept (`encode_of_eq`).
-/

namespace ScriptedRays.Rounding

/-! ### A sign above magnitude bits -/

section Signed

variable {b : Bool} {m top : Nat}

theorem decide_le_signed (h : m < top) : decide (top ≤ (if b then top else 0) + m) = b := by
  cases b with
  | false =>
    rw [if_neg Bool.false_ne_true, Nat.zero_add]
    exact decide_eq_false (Nat.not_le.2 h)
  | true => exact decide_eq_true (Nat.le_add_right _ _)

theorem signed_mod (h : m < top) : ((if b then top else 0) + m) % top = m := by
  cases b with
  | false => rw [if_neg Bool.false_ne_true, Nat.zero_add, Nat.mod_eq_of_lt h]
  | true => rw [if_pos rfl, Nat.add_mod_left, Nat.mod_eq_of_lt h]

end Signed

/-! ### What magnitude bits stand for -/

/-- The units that magnitude bits stand for: a field of zero has no leading bit, and each further
one doubles. -/
def decode (fractionBits m : Nat) : Nat :=
  if m / 2 ^ fractionBits = 0 then m % 2 ^ fractionBits
  else (2 ^ fractionBits + m % 2 ^ fractionBits) * 2 ^ (m / 2 ^ fractionBits - 1)

variable {f : Nat}

/-- A significand at a place.  One that has grown to the next power of two is carried into the
field, and counts there what it counted before. -/
theorem decode_add {s n : Nat} (hn : n ≤ 2 ^ (f + 1)) (hs : s ≠ 0 → 2 ^ f ≤ n) :
    decode f (s * 2 ^ f + n) = n * 2 ^ s := by
  have hpos := Nat.two_pow_pos f
  have hdouble : 2 ^ (f + 1) = 2 ^ f + 2 ^ f := by omega
  unfold decode
  rcases Nat.lt_or_ge n (2 ^ f) with hsmall | hlarge
  -- a significand with no leading bit is read in place zero only
  · obtain rfl : s = 0 := Decidable.not_not.1 fun h => absurd (hs h) (Nat.not_le.2 hsmall)
    rw [Nat.zero_mul, Nat.zero_add, if_pos (Nat.div_eq_of_lt hsmall), Nat.mod_eq_of_lt hsmall,
      Nat.pow_zero, Nat.mul_one]
  obtain ⟨k, rfl⟩ := Nat.exists_eq_add_of_le hlarge
  have hsum : s * 2 ^ f + (2 ^ f + k) = k + (s + 1) * 2 ^ f := by
    rw [Nat.succ_mul]
    omega
  rw [hsum, Nat.add_mul_div_right _ _ hpos, Nat.add_mul_mod_self_right]
  rcases Nat.lt_or_ge k (2 ^ f) with hk | hk
  · rw [Nat.div_eq_of_lt hk, Nat.mod_eq_of_lt hk, if_neg (by omega), Nat.zero_add,
      Nat.add_sub_cancel]
  -- the sum carries into the place, which doubles what is decoded
  · obtain rfl : k = 2 ^ f := by omega
    rw [Nat.div_self hpos, Nat.mod_self, if_neg (by omega), Nat.add_zero,
      show 1 + (s + 1) - 1 = s + 1 by omega, ← Nat.two_mul, Nat.pow_succ]
    ring

theorem decode_of_lt {n : Nat} (hn : n < 2 ^ (f + 1)) : decode f n = n := by
  have h := decode_add (s := 0) hn.le (absurd rfl)
  rwa [Nat.zero_mul, Nat.zero_add, Nat.pow_zero, Nat.mul_one] at h

/-- Magnitude bits are a significand at a place. -/
theorem exists_significand (f m : Nat) :
    ∃ s n, n < 2 ^ (f + 1) ∧ (s ≠ 0 → 2 ^ f ≤ n) ∧ m = s * 2 ^ f + n := by
  have hpos := Nat.two_pow_pos f
  have hmod := Nat.mod_lt m hpos
  have hsplit := Nat.div_add_mod' m (2 ^ f)
  cases hfield : m / 2 ^ f with
  | zero =>
    rw [hfield, Nat.zero_mul, Nat.zero_add] at hsplit
    exact ⟨0, m, by omega, absurd rfl, by omega⟩
  | succ s =>
    rw [hfield, Nat.succ_mul] at hsplit
    exact ⟨s, 2 ^ f + m % 2 ^ f, by omega, fun _ => Nat.le_add_right _ _, by omega⟩

theorem strictMono_decode (f : Nat) : StrictMono (decode f) := by
  refine strictMono_nat_of_lt_succ fun m => ?_
  obtain ⟨s, n, hn, hs, rfl⟩ := exists_significand f m
  rw [Nat.add_assoc, decode_add hn.le hs, decode_add hn fun h => (hs h).trans n.le_succ]
  exact Nat.mul_lt_mul_of_pos_right n.lt_succ_self (Nat.two_pow_pos s)

/-- A significand that fits has a number at every place. -/
theorem exists_decode_eq {n : Nat} (hn : n < 2 ^ (f + 1)) (s : Nat) :
    ∃ m, decode f m = n * 2 ^ s := by
  induction s generalizing n with
  | zero => exact ⟨n, by rw [decode_of_lt hn, Nat.pow_zero, Nat.mul_one]⟩
  | succ s ih =>
    rcases Nat.lt_or_ge n (2 ^ f) with hsmall | hlarge
    · obtain ⟨m, hm⟩ := ih (n := 2 * n) (by omega)
      exact ⟨m, by rw [hm, Nat.pow_succ]; ring⟩
    · exact ⟨_, decode_add hn.le fun _ => hlarge⟩

/-! ### The nearest point -/

/-- Of the points whose index is allowed one is nearest to `x`: where another is as near, the one
with the even index. -/
structure NearestEven (point : Nat → ℚ) (allowed : Nat → Prop) (x : ℚ) (m : Nat) : Prop where
  index : allowed m
  le : ∀ i, allowed i → |x - point m| ≤ |x - point i|
  even : ∀ i, allowed i → i ≠ m → |x - point m| = |x - point i| → m % 2 = 0

/-- The whole number that is found is off by a half at most, and by a half only if it is even. -/
theorem abs_sub_nearest_le (num : Nat) {den : Nat} (hden : 0 < den) :
    |(num / den : ℚ) - nearest num den| ≤ 1 / 2 ∧
      (|(num / den : ℚ) - nearest num den| = 1 / 2 → nearest num den % 2 = 0) := by
  have hpos : (0 : ℚ) < den := Nat.cast_pos.2 hden
  have hsplit : (num : ℚ) = den * (num / den : ℕ) + (num % den : ℕ) := by
    exact_mod_cast (Nat.div_add_mod num den).symm
  have hdiv : (num / den : ℚ) = (num / den : ℕ) + (num % den : ℕ) / den := by
    rw [hsplit, add_div, mul_div_cancel_left₀ _ hpos.ne']
  have hmod : ((num % den : ℕ) : ℚ) / den < 1 := by
    rw [div_lt_one hpos]
    exact_mod_cast Nat.mod_lt num hden
  have hnonneg : (0 : ℚ) ≤ (num % den : ℕ) / den := by positivity
  -- the remainder against half the denominator is the fractional part against one half
  have hhalf : den < 2 * (num % den) ↔ (1 / 2 : ℚ) < (num % den : ℕ) / den := by
    rw [lt_div_iff₀ hpos, ← @Nat.cast_lt ℚ]
    push_cast
    constructor <;> intro h <;> linarith
  have htie : 2 * (num % den) = den ↔ ((num % den : ℕ) / den : ℚ) = 1 / 2 := by
    rw [div_eq_iff hpos.ne', ← @Nat.cast_inj ℚ]
    push_cast
    constructor <;> intro h <;> linarith
  rw [hdiv]
  unfold nearest
  dsimp only
  simp only [hhalf, htie]
  generalize ((num % den : ℕ) : ℚ) / den = rest at hmod hnonneg
  generalize num / den = whole
  split
  next h =>
    have habs : |(whole : ℚ) + rest - (whole + 1 : ℕ)| = 1 - rest := by
      rw [abs_of_nonpos (by push_cast; linarith)]
      push_cast
      ring
    rw [habs]
    rcases h with h | ⟨h, hodd⟩
    · exact ⟨by linarith, fun heq => by linarith⟩
    · exact ⟨by linarith, fun _ => by omega⟩
  next h =>
    rw [not_or, not_lt, not_and] at h
    have habs : |(whole : ℚ) + rest - (whole : ℕ)| = rest := by
      rw [abs_of_nonneg (by linarith)]
      ring
    rw [habs]
    exact ⟨h.1, fun heq => by have := h.2 heq; omega⟩

theorem nearest_nearestEven (num : Nat) {den : Nat} (hden : 0 < den) :
    NearestEven (fun n => n) (fun _ => True) (num / den) (nearest num den) := by
  obtain ⟨hhalf, htie⟩ := abs_sub_nearest_le num hden
  generalize nearest num den = n at hhalf htie
  generalize (num / den : ℚ) = x at hhalf htie
  -- another whole number is a whole one away, so half of that from `x` at least
  have hother : ∀ i : ℕ, i ≠ n → 1 / 2 ≤ |x - i| := by
    intro i hi
    have hone : (1 : ℚ) ≤ |(i : ℚ) - n| := by
      have : (1 : ℤ) ≤ |(i : ℤ) - n| := Int.one_le_abs (by omega)
      exact_mod_cast this
    have htriangle : |(i : ℚ) - n| ≤ |x - n| + |x - i| := by
      rw [abs_sub_comm x i, add_comm]
      exact abs_sub_le _ _ _
    linarith
  refine ⟨trivial, fun i _ => ?_, fun i _ hi heq => ?_⟩
  · by_cases hi : i = n
    · rw [hi]
    · exact hhalf.trans (hother i hi)
  · exact htie (le_antisymm hhalf (heq ▸ hother i hi))

/-- Of two points below a number the higher one is nearer to it. -/
theorem abs_sub_lt_abs_sub {low high x : ℚ} (h : low < high) (hx : high ≤ x) :
    |x - high| < |x - low| := by
  rw [abs_of_nonneg (by linarith), abs_of_nonneg (by linarith)]
  linarith

/-- Where points grow with their index, a last point stands for all above it. -/
theorem NearestEven.cap {point : Nat → ℚ} {x : ℚ} {m : Nat} (hmono : StrictMono point)
    (h : NearestEven point (fun _ => True) x m) (limit : Nat) :
    NearestEven point (· ≤ limit) x (min limit m) := by
  rcases Nat.le_total m limit with hm | hm
  · rw [Nat.min_eq_right hm]
    exact ⟨hm, fun i _ => h.le i trivial, fun i _ => h.even i trivial⟩
  rw [Nat.min_eq_left hm]
  rcases hm.eq_or_lt with rfl | hlt
  · exact ⟨le_rfl, fun i _ => h.le i trivial, fun i _ => h.even i trivial⟩
  -- the nearest point lies above the last one, so `x` does too
  have habove : point limit ≤ x := by
    by_contra hbelow
    rw [not_le] at hbelow
    have hnear := h.le limit trivial
    have hpoint := hmono hlt
    rw [abs_of_neg (by linarith), abs_of_neg (by linarith)] at hnear
    linarith
  have hnearer : ∀ i ≤ limit, i ≠ limit → |x - point limit| < |x - point i| := fun i hi hne =>
    abs_sub_lt_abs_sub (hmono (lt_of_le_of_ne hi hne)) habove
  refine ⟨le_rfl, fun i hi => ?_, fun i hi hne heq => absurd heq (hnearer i hi hne).ne⟩
  by_cases hne : i = limit
  · rw [hne]
  · exact (hnearer i hi hne).le

/-! ### Encoding -/

theorem nearest_le {num den k : Nat} (h : num ≤ k * den) : nearest num den ≤ k := by
  rcases Nat.eq_zero_or_pos den with rfl | hden
  · have hzero : num = 0 := by simpa using h
    simp [nearest, hzero]
  have hle : num / den ≤ k := by
    rw [Nat.mul_comm] at h
    exact Nat.div_le_of_le_mul h
  unfold nearest
  dsimp only
  split
  next hup =>
    rcases hle.lt_or_eq with hlt | heq
    · exact hlt
    · -- nothing is left over where the quotient is reached
      have hsplit := Nat.div_add_mod num den
      rw [heq, Nat.mul_comm] at hsplit
      omega
  next => exact hle

theorem le_nearest {num den k : Nat} (hden : 0 < den) (h : k * den ≤ num) :
    k ≤ nearest num den := by
  have hle : k ≤ num / den := (Nat.le_div_iff_mul_le hden).2 h
  unfold nearest
  dsimp only
  split
  · exact hle.trans (Nat.le_succ _)
  · exact hle

/-- So many bits are dropped that the rest fits and, if any are, fills the precision. -/
theorem excess_bounds (f whole : Nat) :
    whole < 2 ^ (f + 1) * 2 ^ excess (f + 1) whole ∧
      (excess (f + 1) whole ≠ 0 → 2 ^ f * 2 ^ excess (f + 1) whole ≤ whole) := by
  unfold excess
  rw [Nat.shiftLeft_eq, Nat.one_mul]
  split
  next h => exact ⟨by rwa [Nat.pow_zero, Nat.mul_one], absurd rfl⟩
  next h =>
    rw [Nat.not_lt] at h
    have hne : whole ≠ 0 := ((Nat.two_pow_pos _).trans_le h).ne'
    have hlog : f + 1 ≤ Nat.log2 whole := (Nat.le_log2 hne).2 h
    have hsum : f + 1 + (Nat.log2 whole + 1 - (f + 1)) = Nat.log2 whole + 1 := by omega
    rw [← Nat.pow_add, ← Nat.pow_add, hsum]
    refine ⟨Nat.lt_log2_self, fun _ => ?_⟩
    rw [show f + (Nat.log2 whole + 1 - (f + 1)) = Nat.log2 whole by omega]
    exact Nat.log2_self_le hne

/-- What is encoded stands for the whole number nearest to the fraction at its place. -/
theorem exists_encode_eq (f num : Nat) {den : Nat} (hden : 0 < den) :
    ∃ shift, encode (f + 1) num den = shift * 2 ^ f + nearest num (den * 2 ^ shift) ∧
      decode f (encode (f + 1) num den) = nearest num (den * 2 ^ shift) * 2 ^ shift ∧
      (shift ≠ 0 → 2 ^ f * (den * 2 ^ shift) ≤ num) := by
  obtain ⟨hfit, hfill⟩ := excess_bounds f (num / den)
  have hencode : encode (f + 1) num den = excess (f + 1) (num / den) * 2 ^ f +
      nearest num (den * 2 ^ excess (f + 1) (num / den)) := by
    unfold encode
    dsimp only
    rw [Nat.add_sub_cancel, Nat.shiftLeft_eq, Nat.shiftLeft_eq]
  generalize excess (f + 1) (num / den) = shift at hfit hfill hencode
  have hplace : 0 < den * 2 ^ shift := Nat.mul_pos hden (Nat.two_pow_pos _)
  have hbelow : num ≤ 2 ^ (f + 1) * (den * 2 ^ shift) := by
    rw [Nat.div_lt_iff_lt_mul hden] at hfit
    calc num ≤ 2 ^ (f + 1) * 2 ^ shift * den := hfit.le
      _ = 2 ^ (f + 1) * (den * 2 ^ shift) := by ring
  have habove : shift ≠ 0 → 2 ^ f * (den * 2 ^ shift) ≤ num := by
    intro h
    calc 2 ^ f * (den * 2 ^ shift) = 2 ^ f * 2 ^ shift * den := by ring
      _ ≤ num := (Nat.le_div_iff_mul_le hden).1 (hfill h)
  refine ⟨shift, hencode, ?_, habove⟩
  rw [hencode]
  exact decode_add (nearest_le hbelow) fun h => le_nearest hplace (habove h)

/-- A number is a multiple of a place, or it lies below all that have their leading bit there. -/
theorem decode_multiple_or_lt (f i place : Nat) :
    (∃ k, decode f i = k * 2 ^ place) ∨ place ≠ 0 ∧ decode f i < 2 ^ f * 2 ^ place := by
  obtain ⟨s, n, hn, hs, rfl⟩ := exists_significand f i
  rw [decode_add hn.le hs]
  rcases Nat.lt_or_ge s place with hlt | hge
  · refine Or.inr ⟨Nat.ne_zero_of_lt hlt, ?_⟩
    calc n * 2 ^ s < 2 ^ (f + 1) * 2 ^ s := Nat.mul_lt_mul_of_pos_right hn (Nat.two_pow_pos s)
      _ = 2 ^ f * 2 ^ (s + 1) := by ring
      _ ≤ 2 ^ f * 2 ^ place := Nat.mul_le_mul_left _ (Nat.pow_le_pow_right (by decide) hlt)
  · left
    refine ⟨n * 2 ^ (s - place), ?_⟩
    rw [Nat.mul_assoc, ← Nat.pow_add, Nat.sub_add_cancel hge]

/-- At a place, distances are those between whole numbers. -/
theorem abs_sub_multiple (num : Nat) {den : Nat} (hden : 0 < den) (place k : Nat) :
    |(num / den : ℚ) - (k * 2 ^ place : ℕ)| =
      2 ^ place * |(num / (den * 2 ^ place : ℕ) : ℚ) - k| := by
  have hden' : (0 : ℚ) < den := Nat.cast_pos.2 hden
  have hunit : (0 : ℚ) < 2 ^ place := by positivity
  have hdistance : (num / den : ℚ) - (k * 2 ^ place : ℕ) =
      2 ^ place * (num / (den * 2 ^ place : ℕ) - k) := by
    push_cast
    field_simp
  rw [hdistance, abs_mul, abs_of_pos hunit]

/-- A number that is no multiple of a place lies farther off than the least one that has its leading bit
there. -/
theorem multiple_or_farther {num den place : Nat} (hden : 0 < den)
    (hleast : place ≠ 0 → 2 ^ f * (den * 2 ^ place) ≤ num) (i : Nat) :
    (∃ k, decode f i = k * 2 ^ place) ∨
      |(num / den : ℚ) - (2 ^ f * 2 ^ place : ℕ)| < |(num / den : ℚ) - decode f i| := by
  refine (decode_multiple_or_lt f i place).imp_right fun ⟨hplace, hlt⟩ => ?_
  refine abs_sub_lt_abs_sub (Nat.cast_lt.2 hlt) ?_
  rw [le_div_iff₀ (Nat.cast_pos.2 hden)]
  have h := hleast hplace
  rw [Nat.mul_comm den, ← Nat.mul_assoc] at h
  exact_mod_cast h

/-- **A fraction of units is rounded to the nearest number of the format.** -/
theorem encode_nearestEven (num : Nat) {den : Nat} (hf : f ≠ 0) (hden : 0 < den) :
    NearestEven (fun m => decode f m) (fun _ => True) (num / den) (encode (f + 1) num den) := by
  obtain ⟨shift, hencode, hdecode, habove⟩ := exists_encode_eq f num hden
  have hnearest := nearest_nearestEven num (Nat.mul_pos hden (Nat.two_pow_pos shift))
  have hparity : encode (f + 1) num den % 2 = nearest num (den * 2 ^ shift) % 2 := by
    obtain ⟨k, rfl⟩ := Nat.exists_eq_succ_of_ne_zero hf
    rw [hencode, Nat.pow_succ, ← Nat.mul_assoc, Nat.mul_add_mod_self_right]
  generalize nearest num (den * 2 ^ shift) = n at hdecode hnearest hparity
  have hinjective : ∀ i, n * 2 ^ shift = decode f i → encode (f + 1) num den = i := fun i hi =>
    (strictMono_decode f).injective (hdecode.trans hi)
  have hunit : (0 : ℚ) < 2 ^ shift := by positivity
  -- among the multiples of the place, the nearest whole number gives the nearest
  have hplace : ∀ k : ℕ, |(num / den : ℚ) - (n * 2 ^ shift : ℕ)| ≤
      |(num / den : ℚ) - (k * 2 ^ shift : ℕ)| := by
    intro k
    rw [abs_sub_multiple num hden, abs_sub_multiple num hden]
    exact mul_le_mul_of_nonneg_left (hnearest.le k trivial) hunit.le
  -- all other numbers are farther off than one of these multiples, so there is no tie with them
  have hothers := fun i => (multiple_or_farther hden habove i).imp_right ((hplace (2 ^ f)).trans_lt ·)
  refine ⟨trivial, fun i _ => ?_, fun i _ hi heq => ?_⟩
  · rw [hdecode]
    rcases hothers i with ⟨k, hk⟩ | hlt
    · rw [hk]
      exact hplace k
    · exact hlt.le
  · rw [hdecode] at heq
    rcases hothers i with ⟨k, hk⟩ | hlt
    · rw [hparity]
      refine hnearest.even k trivial (fun hkn => hi ?_) ?_
      · exact (hinjective i (by rw [hk, hkn])).symm
      · rw [hk, abs_sub_multiple num hden, abs_sub_multiple num hden] at heq
        exact mul_left_cancel₀ hunit.ne' heq
    · exact absurd heq hlt.ne

/-- A number of the format is kept. -/
theorem encode_of_eq {num den m : Nat} (hf : f ≠ 0) (hden : 0 < den)
    (h : num = decode f m * den) : encode (f + 1) num den = m := by
  have hnear := (encode_nearestEven num hf hden).le m trivial
  have hx : (num / den : ℚ) = decode f m := by
    rw [h, Nat.cast_mul, mul_div_cancel_right₀ _ (Nat.cast_ne_zero.2 hden.ne')]
  rw [hx, sub_self, abs_zero, abs_nonpos_iff, sub_eq_zero, Nat.cast_inj] at hnear
  exact (strictMono_decode f).injective hnear.symm

end ScriptedRays.Rounding
