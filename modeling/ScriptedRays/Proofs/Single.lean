import ScriptedRays.Number.Single
import ScriptedRays.Proofs.Double

/-!
# Single — doubles are narrowed to the nearest single, and singles widened as they are

A single denotes a rational number (`value`); an infinity stands where the next number of the format
would be.  A double becomes the nearest single, infinities among them, and where two are equally near
the one with even bits (`roundsTo_ofDouble`).  A single that is made a double denotes the same number
(`widensTo_toDouble`) and comes back as it was (`ofDouble_toDouble`).
-/

namespace ScriptedRays.Single

/-! ### Sign and magnitude -/

section SignMagnitude

variable {b : Bool} {m : Nat}

theorem toNat_bits_ofSignMagnitude (h : m < signBit) :
    (ofSignMagnitude b m).bits.toNat = (if b then signBit else 0) + m := by
  unfold ofSignMagnitude signBit at *
  dsimp only
  apply UInt32.toNat_ofNat_of_lt'
  simp only [UInt32.size]
  split <;> omega

theorem negative_ofSignMagnitude (h : m < signBit) : (ofSignMagnitude b m).negative = b := by
  unfold negative
  rw [toNat_bits_ofSignMagnitude h]
  exact Rounding.decide_le_signed h

theorem magnitude_ofSignMagnitude (h : m < signBit) : (ofSignMagnitude b m).magnitude = m := by
  unfold magnitude
  rw [toNat_bits_ofSignMagnitude h, Rounding.signed_mod h]

end SignMagnitude

/-- A single is its sign and its magnitude. -/
theorem ofSignMagnitude_self (s : Single) : ofSignMagnitude s.negative s.magnitude = s := by
  have hmagnitude : s.magnitude < signBit := Nat.mod_lt _ (by decide)
  have hbits : (ofSignMagnitude s.negative s.magnitude).bits = s.bits := by
    have hlt := s.bits.toNat_lt
    apply UInt32.toNat_inj.1
    rw [toNat_bits_ofSignMagnitude hmagnitude]
    unfold negative magnitude signBit
    by_cases h : 0x80000000 ≤ s.bits.toNat
    · rw [decide_eq_true h, if_pos rfl]
      omega
    · rw [decide_eq_false h, if_neg Bool.false_ne_true]
      omega
  cases s
  exact congrArg Single.mk hbits

/-- The parity of the bits is that of the magnitude. -/
theorem toNat_bits_mod_two (s : Single) : s.bits.toNat % 2 = s.magnitude % 2 := by
  unfold magnitude signBit
  omega

/-! ### Values -/

/-- The units of a single are those of its magnitude bits. -/
theorem units_eq_decode (s : Single) : s.units = Rounding.decode 23 s.magnitude := by
  have hlead : leadingBit = 2 ^ 23 := rfl
  unfold units exponentField fraction Rounding.decode
  rw [hlead, Nat.shiftLeft_eq]

/-- The rational number that a single denotes.  An infinity stands where the number after the largest
would be, at `2 ^ 128` from zero. -/
def value (s : Single) : ℚ := (if s.negative then -1 else 1) * (s.units / 2 ^ 149)

/-- How a double becomes a single.  A NaN stays one, an infinity stays one, the sign is kept; a
finite number becomes the nearest, an infinity if that is nearest, and where two are equally near the
one with even bits. -/
structure RoundsTo (x : Double) (s : Single) : Prop where
  nan : s.isNaN = x.isNaN
  sign : s.negative = x.negative
  infinity : x.magnitude = Double.infinityBits → s.magnitude = infinityBits
  nearest : x.isFinite = true → ∀ t : Single, t.isNaN = false →
    |x.value - s.value| ≤ |x.value - t.value|
  even : x.isFinite = true → ∀ t : Single, t.isNaN = false → t.value ≠ s.value →
    |x.value - s.value| = |x.value - t.value| → s.bits.toNat % 2 = 0

/-- How a single becomes a double: as the number that it is. -/
structure WidensTo (s : Single) (x : Double) : Prop where
  nan : x.isNaN = s.isNaN
  sign : x.negative = s.negative
  finite : x.isFinite = s.isFinite
  value : s.isFinite = true → x.value = s.value

/-! ### Narrowing -/

/-- The magnitude bits that a double is narrowed to. -/
theorem exists_ofDouble_eq (x : Double) :
    ∃ m < signBit, ofDouble x = ofSignMagnitude x.negative m ∧
      (x.isNaN = true → infinityBits < m) ∧
      (x.isNaN = false → m ≤ infinityBits) ∧
      (x.magnitude = Double.infinityBits → m = infinityBits) ∧
      (x.isFinite = true →
        m = min infinityBits (Rounding.encode 24 x.units (1 <<< unitRatio))) := by
  unfold ofDouble Double.isFinite
  cases hnan : x.isNaN with
  | true =>
    -- a NaN stays one, since its quiet bit is set whatever is cut off its fraction
    have hinfinite : Double.infinityBits < x.magnitude := of_decide_eq_true hnan
    have hfraction : x.fraction >>> extraBits < 2 ^ 23 := by
      have h : x.fraction < 2 ^ 52 := Nat.mod_lt _ (by decide)
      rw [Nat.shiftRight_eq_div_pow]
      unfold extraBits
      omega
    have hor : quietBit ||| x.fraction >>> extraBits < 2 ^ 23 :=
      Nat.or_lt_two_pow (by decide) hfraction
    have hquiet : quietBit ≤ quietBit ||| x.fraction >>> extraBits := Nat.left_le_or
    refine ⟨_, ?_, rfl, fun _ => ?_, nofun, fun h => absurd h hinfinite.ne', fun h => ?_⟩
    · rw [if_pos rfl]
      unfold infinityBits signBit
      omega
    · rw [if_pos rfl]
      exact Nat.lt_add_of_pos_right (lt_of_lt_of_le (by decide) hquiet)
    · exact absurd (of_decide_eq_true h) hinfinite.not_gt
  | false =>
    -- anything else gets no further than infinity, which stands for all that is too large
    have hle : x.magnitude ≤ Double.infinityBits := Nat.not_lt.1 (of_decide_eq_false hnan)
    refine ⟨_, ?_, rfl, nofun, fun _ => ?_, fun h => ?_, fun h => ?_⟩
    · rw [if_neg Bool.false_ne_true]
      split
      · exact lt_of_le_of_lt (Nat.min_le_left _ _) (by decide)
      · decide
    · rw [if_neg Bool.false_ne_true]
      split
      · exact Nat.min_le_left _ _
      · exact le_rfl
    · rw [if_neg Bool.false_ne_true, if_neg]
      rw [h]
      decide
    · rw [if_neg Bool.false_ne_true, if_pos h]

/-! ### Distances -/

section Distance

variable (x : Double) (t : Single)

/-- A double in units of binary32. -/
theorem value_double_eq : x.value =
    (if x.negative then -1 else 1) * ((x.units / 2 ^ unitRatio : ℚ) / 2 ^ 149) := by
  have hexponent : Double.unitExponent = unitRatio + 149 := rfl
  unfold Double.value
  rw [hexponent, pow_add, div_div]

theorem abs_value_sub_of_sign_eq (h : t.negative = x.negative) :
    |x.value - t.value| = |(x.units / 2 ^ unitRatio : ℚ) - t.units| / 2 ^ 149 := by
  have hunit : (0 : ℚ) < 2 ^ 149 := by positivity
  rw [value_double_eq, value, h]
  generalize (x.units / 2 ^ unitRatio : ℚ) = y
  generalize (2 ^ 149 : ℚ) = unit at hunit
  rw [← mul_sub, abs_mul, ← sub_div, abs_div, abs_of_pos hunit]
  cases x.negative with
  | false => rw [if_neg Bool.false_ne_true, abs_one, one_mul]
  | true => rw [if_pos rfl, abs_neg, abs_one, one_mul]

theorem abs_value_sub_of_sign_ne (h : t.negative ≠ x.negative) :
    |x.value - t.value| = ((x.units / 2 ^ unitRatio : ℚ) + t.units) / 2 ^ 149 := by
  have hunit : (0 : ℚ) < 2 ^ 149 := by positivity
  have hx : (0 : ℚ) ≤ x.units / 2 ^ unitRatio := by positivity
  have ht : (0 : ℚ) ≤ t.units := Nat.cast_nonneg _
  rw [value_double_eq, value, Bool.eq_not.2 h]
  generalize (x.units / 2 ^ unitRatio : ℚ) = y at hx
  generalize (2 ^ 149 : ℚ) = unit at hunit
  have habs : |(y + t.units) / unit| = (y + t.units) / unit :=
    abs_of_nonneg (div_nonneg (add_nonneg hx ht) hunit.le)
  rw [← habs]
  cases x.negative with
  | false =>
    rw [if_neg Bool.false_ne_true, Bool.not_false, if_pos rfl]
    congr 1
    ring
  | true =>
    rw [if_pos rfl, Bool.not_true, if_neg Bool.false_ne_true, ← abs_neg]
    congr 1
    ring

end Distance

theorem value_of_units_eq_zero {t : Single} (h : t.units = 0) : t.value = 0 := by
  rw [value, h, Nat.cast_zero, zero_div, mul_zero]

/-! ### The nearest single -/

section Nearest

variable {x : Double} {s : Single}

/-- The magnitude of `s` is nearest to that of `x`, infinity standing for all that is larger. -/
def NearestMagnitude (x : Double) (s : Single) : Prop :=
  Rounding.NearestEven (fun m => Rounding.decode 23 m) (· ≤ infinityBits)
    (x.units / 2 ^ unitRatio) s.magnitude

theorem NearestMagnitude.le (h : NearestMagnitude x s) {t : Single} (ht : t.isNaN = false) :
    |(x.units / 2 ^ unitRatio : ℚ) - s.units| ≤ |(x.units / 2 ^ unitRatio : ℚ) - t.units| := by
  rw [units_eq_decode, units_eq_decode]
  exact Rounding.NearestEven.le h _ (Nat.not_lt.1 (of_decide_eq_false ht))

theorem NearestMagnitude.even (h : NearestMagnitude x s) {t : Single} (ht : t.isNaN = false)
    (hne : t.magnitude ≠ s.magnitude)
    (heq : |(x.units / 2 ^ unitRatio : ℚ) - s.units| =
      |(x.units / 2 ^ unitRatio : ℚ) - t.units|) : s.bits.toNat % 2 = 0 := by
  rw [units_eq_decode, units_eq_decode] at heq
  rw [toNat_bits_mod_two]
  exact Rounding.NearestEven.even h _ (Nat.not_lt.1 (of_decide_eq_false ht)) hne heq

/-- Zero is a number of the format. -/
theorem NearestMagnitude.le_self (h : NearestMagnitude x s) :
    |(x.units / 2 ^ unitRatio : ℚ) - s.units| ≤ x.units / 2 ^ unitRatio := by
  have hx : (0 : ℚ) ≤ x.units / 2 ^ unitRatio := by positivity
  have hzero := h.le (t := zero) (by decide)
  have hunits : zero.units = 0 := by decide
  rwa [hunits, Nat.cast_zero, sub_zero, abs_of_nonneg hx] at hzero

theorem abs_value_sub_le (h : NearestMagnitude x s) (hsign : s.negative = x.negative) {t : Single}
    (ht : t.isNaN = false) : |x.value - s.value| ≤ |x.value - t.value| := by
  have hunit : (0 : ℚ) ≤ 2 ^ 149 := by positivity
  rw [abs_value_sub_of_sign_eq x s hsign]
  by_cases hsame : t.negative = x.negative
  · rw [abs_value_sub_of_sign_eq x t hsame]
    exact div_le_div_of_nonneg_right (h.le ht) hunit
  · rw [abs_value_sub_of_sign_ne x t hsame]
    exact div_le_div_of_nonneg_right
      (h.le_self.trans (le_add_of_nonneg_right (Nat.cast_nonneg _))) hunit

theorem even_of_abs_value_sub_eq (h : NearestMagnitude x s) (hsign : s.negative = x.negative)
    {t : Single} (ht : t.isNaN = false) (hne : t.value ≠ s.value)
    (heq : |x.value - s.value| = |x.value - t.value|) : s.bits.toNat % 2 = 0 := by
  have hunit : (2 ^ 149 : ℚ) ≠ 0 := by positivity
  rw [abs_value_sub_of_sign_eq x s hsign] at heq
  by_cases hsame : t.negative = x.negative
  · rw [abs_value_sub_of_sign_eq x t hsame, div_left_inj' hunit] at heq
    refine h.even ht (fun hmagnitude => hne ?_) heq
    rw [value, value, hsame, hsign, units_eq_decode, units_eq_decode, hmagnitude]
  · -- on the other side of zero only zero can be as near
    rw [abs_value_sub_of_sign_ne x t hsame, div_left_inj' hunit] at heq
    have hle := h.le_self
    have hnonneg : (0 : ℚ) ≤ t.units := Nat.cast_nonneg _
    have hzero : (t.units : ℚ) = 0 := by linarith
    have hx : (0 : ℚ) ≤ x.units / 2 ^ unitRatio := by positivity
    refine h.even ht (fun hmagnitude => hne ?_) ?_
    · have hsame : t.units = s.units := by rw [units_eq_decode, units_eq_decode, hmagnitude]
      have ht0 : t.units = 0 := Nat.cast_eq_zero.1 hzero
      rw [value_of_units_eq_zero ht0, value_of_units_eq_zero (hsame ▸ ht0)]
    · rw [heq, hzero, add_zero, sub_zero, abs_of_nonneg hx]

end Nearest

/-- **Narrowing is rounding to nearest.** -/
theorem roundsTo_ofDouble (x : Double) : RoundsTo x (ofDouble x) := by
  obtain ⟨m, hm, hof, hnan, hnumber, hinfinity, hfinite⟩ := exists_ofDouble_eq x
  rw [hof]
  have hsign := negative_ofSignMagnitude (b := x.negative) hm
  have hmagnitude := magnitude_ofSignMagnitude (b := x.negative) hm
  have hnearest : x.isFinite = true → NearestMagnitude x (ofSignMagnitude x.negative m) := by
    intro h
    have hpos : 0 < 1 <<< unitRatio := by decide
    have hratio : ((1 <<< unitRatio : ℕ) : ℚ) = 2 ^ unitRatio := by
      rw [Nat.shiftLeft_eq, Nat.one_mul, Nat.cast_pow, Nat.cast_ofNat]
    -- what the encoder finds is nearest, and stays so where it is cut off at infinity
    have hround := (Rounding.encode_nearestEven x.units (f := 23) (by decide) hpos).cap
      (fun i j hij => Nat.cast_lt.2 (Rounding.strictMono_decode 23 hij)) infinityBits
    unfold NearestMagnitude
    rw [hmagnitude, hfinite h]
    rwa [hratio] at hround
  refine ⟨?_, hsign, fun h => hmagnitude.trans (hinfinity h), fun h t ht => ?_,
    fun h t ht => ?_⟩
  · unfold isNaN
    rw [hmagnitude]
    cases h : x.isNaN with
    | true => exact decide_eq_true (hnan h)
    | false => exact decide_eq_false (Nat.not_lt.2 (hnumber h))
  · exact abs_value_sub_le (hnearest h) hsign ht
  · exact even_of_abs_value_sub_eq (hnearest h) hsign ht

/-! ### Widening -/

/-- The magnitude bits that a single is widened to. -/
theorem exists_toDouble_eq {s : Single} (h : s.isNaN = false) :
    ∃ m ≤ Double.infinityBits, s.toDouble = Double.ofSignMagnitude s.negative m ∧
      (m < Double.infinityBits ↔ s.isFinite = true) ∧
      (s.isFinite = true → Rounding.decode 52 m = s.units * 2 ^ unitRatio) := by
  unfold toDouble
  rw [if_neg (h ▸ Bool.false_ne_true)]
  cases hfinite : s.isFinite with
  | false =>
    rw [if_neg Bool.false_ne_true]
    exact ⟨_, le_rfl, rfl, iff_of_false (lt_irrefl _) Bool.false_ne_true, nofun⟩
  | true =>
    rw [if_pos rfl]
    have hlt : s.magnitude < infinityBits := of_decide_eq_true hfinite
    obtain ⟨k, n, hn, hk, hm⟩ := Rounding.exists_significand 23 s.magnitude
    have hunits : s.units = n * 2 ^ k := by
      rw [units_eq_decode, hm, Rounding.decode_add hn.le hk]
    -- the place of a single, moved by the ratio of the units, is one that a double has
    have hplace : k + unitRatio ≤ 2045 := by
      unfold infinityBits at hlt
      unfold unitRatio
      omega
    obtain ⟨hbelow, hdecode⟩ := Double.decode_encode (hn.trans (by decide)) hplace
    have hshift : s.units <<< unitRatio = n * 2 ^ (k + unitRatio) := by
      rw [Nat.shiftLeft_eq, hunits, Nat.mul_assoc, ← Nat.pow_add]
    rw [← hshift] at hbelow hdecode
    refine ⟨_, hbelow.le, rfl, iff_of_true hbelow rfl, fun _ => ?_⟩
    rw [hdecode, Nat.shiftLeft_eq]

/-- **Widening keeps the number.** -/
theorem widensTo_toDouble {s : Single} (h : s.isNaN = false) : WidensTo s s.toDouble := by
  obtain ⟨m, hle, hof, hfinite, hdecode⟩ := exists_toDouble_eq h
  have hm : m < Double.signBit := hle.trans_lt (by decide)
  have hsign := Double.negative_ofSignMagnitude (b := s.negative) hm
  have hmagnitude := Double.magnitude_ofSignMagnitude (b := s.negative) hm
  rw [hof]
  refine ⟨?_, hsign, ?_, fun hs => ?_⟩
  · unfold Double.isNaN
    rw [hmagnitude, h]
    exact decide_eq_false (Nat.not_lt.2 hle)
  · unfold Double.isFinite
    rw [hmagnitude, Bool.eq_iff_iff, decide_eq_true_iff]
    exact hfinite
  · have hunits : (Double.ofSignMagnitude s.negative m).units = s.units * 2 ^ unitRatio := by
      rw [Double.units_eq_decode, hmagnitude, hdecode hs]
    have hpower : (2 ^ unitRatio : ℚ) ≠ 0 := by positivity
    rw [value_double_eq, hsign, hunits, Nat.cast_mul, Nat.cast_pow, Nat.cast_ofNat,
      mul_div_cancel_right₀ _ hpower, value]

/-- A single that was widened is narrowed to itself. -/
theorem ofDouble_toDouble {s : Single} (h : s.isNaN = false) : ofDouble s.toDouble = s := by
  obtain ⟨m, hle, hof, hfinite, hdecode⟩ := exists_toDouble_eq h
  have hwide := widensTo_toDouble h
  have hm : m < Double.signBit := hle.trans_lt (by decide)
  have hnan : s.toDouble.isNaN = false := hwide.nan.trans h
  have hmagnitude : s.magnitude ≤ infinityBits := Nat.not_lt.1 (of_decide_eq_false h)
  unfold ofDouble
  rw [if_neg (hnan ▸ Bool.false_ne_true), hwide.finite, hwide.sign]
  refine Eq.trans (congrArg (ofSignMagnitude s.negative) ?_) s.ofSignMagnitude_self
  cases hs : s.isFinite with
  | false =>
    rw [if_neg Bool.false_ne_true]
    exact le_antisymm (Nat.not_lt.1 (of_decide_eq_false hs)) hmagnitude
  | true =>
    -- the double lies on a value of the narrow format, so the encoder has nothing to round
    have hunits : s.toDouble.units = Rounding.decode 23 s.magnitude * 1 <<< unitRatio := by
      rw [hof, Double.units_eq_decode, Double.magnitude_ofSignMagnitude hm, hdecode hs,
        units_eq_decode, Nat.shiftLeft_eq, Nat.one_mul]
    rw [if_pos rfl, Rounding.encode_of_eq (by decide) (by decide) hunits,
      Nat.min_eq_right hmagnitude]

end ScriptedRays.Single
