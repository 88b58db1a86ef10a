import ScriptedRays.Number.Double
import ScriptedRays.Proofs.Rounding

/-!
# Double — the numbers that doubles stand for

A double below its sign is magnitude bits with 52 fraction bits (`units_eq_decode`), and so denotes a
rational number (`value`), the one that its three fields say (`denotes_iff`).  A significand below
`2 ^ 53` is kept at every place that a finite double has (`decode_encode`); in particular a natural
number below `2 ^ 53` is a double of its own (`whole_ofNat`).
-/

namespace ScriptedRays.Double

/-! ### Sign and magnitude -/

section SignMagnitude

variable {b : Bool} {m : Nat}

theorem toNat_bits_ofSignMagnitude (h : m < signBit) :
    (ofSignMagnitude b m).bits.toNat = (if b then signBit else 0) + m := by
  unfold ofSignMagnitude signBit at *
  dsimp only
  apply UInt64.toNat_ofNat_of_lt'
  simp only [UInt64.size]
  split <;> omega

theorem negative_ofSignMagnitude (h : m < signBit) : (ofSignMagnitude b m).negative = b := by
  unfold negative
  rw [toNat_bits_ofSignMagnitude h]
  exact Rounding.decide_le_signed h

theorem magnitude_ofSignMagnitude (h : m < signBit) : (ofSignMagnitude b m).magnitude = m := by
  unfold magnitude
  rw [toNat_bits_ofSignMagnitude h, Rounding.signed_mod h]

end SignMagnitude

/-! ### Values -/

/-- The units of a double are those of its magnitude bits. -/
theorem units_eq_decode (x : Double) : x.units = Rounding.decode 52 x.magnitude := by
  have hlead : leadingBit = 2 ^ 52 := rfl
  unfold units significand place exponentField fraction Rounding.decode
  rw [hlead, Nat.shiftLeft_eq]
  split
  next h => rw [h, Nat.zero_sub, Nat.pow_zero, Nat.mul_one]
  next => rfl

/-- The rational number that a finite double denotes. -/
def value (x : Double) : ℚ := (if x.negative then -1 else 1) * (x.units / 2 ^ unitExponent)

theorem abs_value (x : Double) : |x.value| = x.units / 2 ^ unitExponent := by
  have hnonneg : (0 : ℚ) ≤ x.units / 2 ^ unitExponent := by positivity
  rw [value, abs_mul, abs_of_nonneg hnonneg]
  split
  · rw [abs_neg, abs_one, one_mul]
  · rw [abs_one, one_mul]

/-- A significand that fits is kept at every place that a finite number has. -/
theorem decode_encode {n s : Nat} (hn : n < 2 ^ 53) (hs : s ≤ 2045) :
    Rounding.encode 53 (n * 2 ^ s) 1 < infinityBits ∧
      Rounding.decode 52 (Rounding.encode 53 (n * 2 ^ s) 1) = n * 2 ^ s := by
  obtain ⟨m, hm⟩ := Rounding.exists_decode_eq (f := 52) hn s
  have hencode : Rounding.encode 53 (n * 2 ^ s) 1 = m :=
    Rounding.encode_of_eq (by decide) Nat.one_pos (by rw [hm, Nat.mul_one])
  rw [hencode]
  refine ⟨(Rounding.strictMono_decode 52).lt_iff_lt.1 ?_, hm⟩
  -- the place after the last is named, for `2 ^ 2046` must not be computed
  obtain ⟨top, htop⟩ : ∃ top, top = 2046 := ⟨2046, rfl⟩
  have hinfinity : infinityBits = top * 2 ^ 52 + 2 ^ 52 := by rw [htop]; decide
  rw [hm, hinfinity, Rounding.decode_add (by decide) fun _ => le_rfl]
  calc n * 2 ^ s < 2 ^ 53 * 2 ^ s := Nat.mul_lt_mul_of_pos_right hn (Nat.two_pow_pos s)
    _ = 2 ^ 52 * 2 ^ (s + 1) := by ring
    _ ≤ 2 ^ 52 * 2 ^ top := Nat.mul_le_mul_left _ (Nat.pow_le_pow_right (by decide) (by omega))

/-- **A natural number below `2 ^ 53` is a double of its own.** -/
theorem whole_ofNat {n : Nat} (h : n < 2 ^ 53) :
    (ofNat n).isFinite = true ∧ (ofNat n).negative = false ∧ (ofNat n).whole = n := by
  obtain ⟨hfinite, hunits⟩ := decode_encode h (s := unitExponent) (by decide)
  have hof : ofNat n = ofSignMagnitude false (Rounding.encode 53 (n * 2 ^ unitExponent) 1) := by
    unfold ofNat ofRatio
    rw [Nat.shiftLeft_eq, Nat.min_eq_right hfinite.le]
  have hsign : Rounding.encode 53 (n * 2 ^ unitExponent) 1 < signBit := hfinite.trans (by decide)
  rw [hof]
  refine ⟨?_, negative_ofSignMagnitude hsign, ?_⟩
  · unfold isFinite
    rw [magnitude_ofSignMagnitude hsign]
    exact decide_eq_true hfinite
  · unfold whole
    rw [units_eq_decode, magnitude_ofSignMagnitude hsign, hunits, Nat.shiftRight_eq_div_pow,
      Nat.mul_div_cancel _ (Nat.two_pow_pos _)]

theorem toUInt32?_ofNat {n : Nat} (h : n < UInt32.size) :
    (ofNat n).toUInt32? = some (UInt32.ofNat n) := by
  obtain ⟨hfinite, hsign, hwhole⟩ := whole_ofNat (n := n) (h.trans (by decide))
  unfold toUInt32?
  rw [hwhole, hsign, if_pos ⟨hfinite, h, nofun⟩]

/-! ### What a pattern denotes -/

/-- The rational number that a bit pattern denotes: a sign, eleven bits of exponent and 52 of
fraction.  An exponent of zero has no leading bit; the largest exponent is that of no number. -/
inductive Denotes (x : Double) : ℚ → Prop
  | subnormal {negative : Bool} {f : ℕ} (hf : f < 2 ^ 52)
      (hx : x.bits.toNat = (if negative then 2 ^ 63 else 0) + f) :
      Denotes x ((if negative then -1 else 1) * (f * 2 ^ (-1074 : ℤ)))
  | normal {negative : Bool} {e f : ℕ} (he : 0 < e) (hlast : e < 2047) (hf : f < 2 ^ 52)
      (hx : x.bits.toNat = (if negative then 2 ^ 63 else 0) + (e * 2 ^ 52 + f)) :
      Denotes x ((if negative then -1 else 1) * ((2 ^ 52 + f) * 2 ^ ((e : ℤ) - 1075)))

theorem sign_magnitude_of_bits {x : Double} {negative : Bool} {m : ℕ} (hm : m < signBit)
    (hx : x.bits.toNat = (if negative then signBit else 0) + m) :
    x.negative = negative ∧ x.magnitude = m := by
  unfold Double.negative magnitude
  rw [hx]
  exact ⟨Rounding.decide_le_signed hm, Rounding.signed_mod hm⟩

/-- A double is its sign above its magnitude. -/
theorem toNat_bits_eq (x : Double) :
    x.bits.toNat = (if x.negative then signBit else 0) + x.magnitude := by
  have hlt := x.bits.toNat_lt
  unfold negative magnitude signBit
  by_cases h : 0x8000000000000000 ≤ x.bits.toNat
  · rw [decide_eq_true h, if_pos rfl]
    omega
  · rw [decide_eq_false h, if_neg Bool.false_ne_true]
    omega

theorem ext_sign_magnitude {x y : Double} (hsign : x.negative = y.negative)
    (hmagnitude : x.magnitude = y.magnitude) : x = y := by
  have hbits : x.bits = y.bits := UInt64.toNat_inj.1 (by
    rw [toNat_bits_eq x, toNat_bits_eq y, hsign, hmagnitude])
  cases x
  exact congrArg Double.mk hbits

/-- Only zeros have no units. -/
theorem units_eq_zero_iff {x : Double} : x.units = 0 ↔ x.isZero = true := by
  have hzero : Rounding.decode 52 0 = 0 := by decide
  rw [units_eq_decode, ← hzero, (Rounding.strictMono_decode 52).injective.eq_iff]
  exact decide_eq_true_iff.symm

/-- A number apart from zero has one pattern. -/
theorem value_eq_iff {x y : Double} :
    x.value = y.value ↔ x = y ∨ x.isZero = true ∧ y.isZero = true := by
  have hpower : (2 ^ unitExponent : ℚ) ≠ 0 := by positivity
  constructor
  · intro h
    have hunits : x.units = y.units := by
      have habs := congrArg abs h
      rwa [abs_value, abs_value, div_left_inj' hpower, Nat.cast_inj] at habs
    -- only at zero does the sign make no difference
    by_cases hzero : x.units = 0
    · exact .inr ⟨units_eq_zero_iff.1 hzero, units_eq_zero_iff.1 (hunits ▸ hzero)⟩
    have hdistance : (y.units / 2 ^ unitExponent : ℚ) ≠ 0 :=
      div_ne_zero (Nat.cast_ne_zero.2 (hunits ▸ hzero)) hpower
    rw [value, value, hunits, mul_left_inj' hdistance] at h
    have hsign : x.negative = y.negative := by
      cases hx : x.negative <;> cases hy : y.negative <;> rw [hx, hy] at h
      · norm_num at h
      · norm_num at h
    refine .inl (ext_sign_magnitude hsign ((Rounding.strictMono_decode 52).injective ?_))
    rw [← units_eq_decode, ← units_eq_decode, hunits]
  · rintro (rfl | ⟨hx, hy⟩)
    · rfl
    · rw [value, value, units_eq_zero_iff.2 hx, units_eq_zero_iff.2 hy, Nat.cast_zero, zero_div,
        mul_zero, mul_zero]

/-- A significand at a place is the number that it says. -/
theorem value_of_significand {x : Double} {negative : Bool} {s n : ℕ} (hn : n < 2 ^ 53)
    (hs : s ≠ 0 → 2 ^ 52 ≤ n) (hsign : x.negative = negative)
    (hm : x.magnitude = s * 2 ^ 52 + n) :
    x.value = (if negative then -1 else 1) * (n * 2 ^ ((s : ℤ) - 1074)) := by
  have hunit : (1074 : ℤ) = (unitExponent : ℕ) := rfl
  have hpower : (2 : ℚ) ^ ((s : ℤ) - 1074) = 2 ^ s / 2 ^ unitExponent := by
    rw [hunit, zpow_sub₀ two_ne_zero, zpow_natCast, zpow_natCast]
  rw [value, hsign, units_eq_decode, hm, Rounding.decode_add hn.le hs, hpower, Nat.cast_mul,
    Nat.cast_pow, Nat.cast_ofNat, mul_div_assoc]

theorem Denotes.eq_value {x : Double} {q : ℚ} (h : x.Denotes q) :
    x.isFinite = true ∧ q = x.value := by
  cases h with
  | @subnormal negative f hf hx =>
    obtain ⟨hsign, hm⟩ := sign_magnitude_of_bits (hf.trans (by decide)) hx
    have hsplit : x.magnitude = 0 * 2 ^ 52 + f := by rw [hm, Nat.zero_mul, Nat.zero_add]
    refine ⟨decide_eq_true (hm ▸ hf.trans (by decide)), ?_⟩
    rw [value_of_significand (by omega) (absurd rfl) hsign hsplit, Nat.cast_zero, zero_sub]
  | @normal negative e f he hlast hf hx =>
    have hlt : e * 2 ^ 52 + f < infinityBits := by
      unfold infinityBits
      omega
    obtain ⟨hsign, hm⟩ := sign_magnitude_of_bits (hlt.trans (by decide)) hx
    refine ⟨decide_eq_true (hm ▸ hlt), ?_⟩
    obtain ⟨s, rfl⟩ := Nat.exists_eq_succ_of_ne_zero he.ne'
    have hsplit : x.magnitude = s * 2 ^ 52 + (2 ^ 52 + f) := by
      rw [hm, Nat.succ_mul, Nat.add_assoc]
    have hplace : (s.succ : ℤ) - 1075 = s - 1074 := by omega
    rw [value_of_significand (by omega) (fun _ => Nat.le_add_right _ _) hsign hsplit, hplace,
      Nat.cast_add, Nat.cast_pow, Nat.cast_ofNat]

theorem denotes_value {x : Double} (h : x.isFinite = true) : x.Denotes x.value := by
  have hm : x.magnitude < infinityBits := of_decide_eq_true h
  have hbits : x.bits.toNat = (if x.negative then 2 ^ 63 else 0) + x.magnitude := x.toNat_bits_eq
  obtain ⟨s, n, hn, hs, hsplit⟩ := Rounding.exists_significand 52 x.magnitude
  rw [value_of_significand hn hs rfl hsplit]
  unfold infinityBits at hm
  rcases Nat.lt_or_ge n (2 ^ 52) with hsmall | hlarge
  · obtain rfl : s = 0 := Decidable.not_not.1 fun h => absurd (hs h) (Nat.not_le.2 hsmall)
    rw [Nat.cast_zero, zero_sub]
    exact .subnormal hsmall (by omega)
  · obtain ⟨f, rfl⟩ := Nat.exists_eq_add_of_le hlarge
    have hplace : (s : ℤ) - 1074 = (s.succ : ℤ) - 1075 := by omega
    rw [hplace, Nat.cast_add, Nat.cast_pow, Nat.cast_ofNat]
    exact .normal s.succ_pos (by omega) (by omega) (by omega)

/-- A pattern denotes a number exactly if it is finite, and then its value. -/
theorem denotes_iff {x : Double} {q : ℚ} : x.Denotes q ↔ x.isFinite = true ∧ q = x.value :=
  ⟨Denotes.eq_value, fun ⟨hfinite, hq⟩ => hq ▸ denotes_value hfinite⟩

end ScriptedRays.Double
