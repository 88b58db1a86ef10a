import Mathlib.Algebra.Order.Floor.Ring
import Mathlib.Data.Rat.Floor
import ScriptedRays.Proofs.Wrapper

/-!
# Truncation — which numbers come to a word

A value comes to a word exactly if it is a number that denotes a rational between minus one and
`2 ^ 32`, neither of them included, and then to that rational without its fraction
(`word?_eq_some_iff`).  All others are told one by one (`Wordless`): what is no number, what is not
finite, what is too low and what is too high.
-/

namespace ScriptedRays

/-! ### Rational numbers without their fractions -/

/-- A rational number without its fraction, that is, rounded toward zero. -/
def truncate (q : ℚ) : ℤ := if 0 ≤ q then ⌊q⌋ else ⌈q⌉

theorem truncate_of_nonneg {q : ℚ} (h : 0 ≤ q) : truncate q = ⌊q⌋ := if_pos h

theorem truncate_neg (q : ℚ) : truncate (-q) = -truncate q := by
  unfold truncate
  rcases lt_trichotomy q 0 with h | rfl | h
  · rw [if_pos (by linarith), if_neg (by linarith), Int.floor_neg]
  · simp
  · rw [if_neg (by linarith), if_pos h.le, Int.ceil_neg]

theorem truncate_le_truncate {p q : ℚ} (h : p ≤ q) : truncate p ≤ truncate q := by
  unfold truncate
  by_cases hp : 0 ≤ p
  · rw [if_pos hp, if_pos (hp.trans h)]
    exact Int.floor_le_floor h
  · rw [if_neg hp]
    split
    next hq => exact (Int.ceil_nonpos.2 (not_le.1 hp).le).trans (Int.floor_nonneg.2 hq)
    next => exact Int.ceil_le_ceil h

/-- What lies between minus one and one is nothing but a fraction. -/
theorem truncate_eq_zero {q : ℚ} (hlow : -1 < q) (hhigh : q < 1) : truncate q = 0 := by
  unfold truncate
  split
  next h => exact Int.floor_eq_zero_iff.2 ⟨h, hhigh⟩
  next h => exact Int.ceil_eq_zero_iff.2 ⟨hlow, (not_le.1 h).le⟩

/-! ### Numbers of a script -/

namespace Double

section Whole

variable (x : Double)

/-- The whole part is that of the distance from zero. -/
theorem floor_units : ⌊(x.units / 2 ^ unitExponent : ℚ)⌋ = x.whole := by
  have hpower : (2 ^ unitExponent : ℚ) = (2 ^ unitExponent : ℕ) := by
    rw [Nat.cast_pow, Nat.cast_ofNat]
  unfold whole
  rw [hpower, Rat.floor_natCast_div_natCast, Nat.shiftRight_eq_div_pow, Int.natCast_ediv]

theorem whole_lt_iff (n : ℕ) : x.whole < n ↔ (x.units / 2 ^ unitExponent : ℚ) < n := by
  rw [← Nat.cast_lt (α := ℤ), ← floor_units, Int.floor_lt, Int.cast_natCast]

theorem truncate_value : truncate x.value = (if x.negative then -1 else 1) * x.whole := by
  have hnonneg : (0 : ℚ) ≤ x.units / 2 ^ unitExponent := by positivity
  unfold value
  cases x.negative with
  | false =>
    rw [if_neg Bool.false_ne_true, if_neg Bool.false_ne_true, one_mul, one_mul,
      truncate_of_nonneg hnonneg, floor_units]
  | true =>
    rw [if_pos rfl, if_pos rfl, neg_one_mul, neg_one_mul, truncate_neg,
      truncate_of_nonneg hnonneg, floor_units]

/-- What is asked of the whole part and the sign is that the number lies in range. -/
theorem whole_in_range_iff :
    (x.whole < UInt32.size ∧ (x.negative = true → x.whole = 0)) ↔
      -1 < x.value ∧ x.value < 2 ^ 32 := by
  have hsize : ((UInt32.size : ℕ) : ℚ) = 2 ^ 32 := by norm_num [UInt32.size]
  have hnonneg : (0 : ℚ) ≤ x.units / 2 ^ unitExponent := by positivity
  have hlt := x.whole_lt_iff UInt32.size
  have hzero := x.whole_lt_iff 1
  rw [hsize] at hlt
  rw [Nat.cast_one, Nat.lt_one_iff] at hzero
  rw [hlt, hzero, value]
  -- the sign decides which of the two bounds says something
  generalize (x.units / 2 ^ unitExponent : ℚ) = distance at hnonneg
  cases x.negative with
  | false =>
    rw [if_neg Bool.false_ne_true, one_mul]
    exact ⟨fun h => ⟨by linarith, h.1⟩, fun h => ⟨h.2, fun hn => absurd hn Bool.false_ne_true⟩⟩
  | true =>
    rw [if_pos rfl, neg_one_mul]
    exact ⟨fun h => ⟨by linarith [h.2 rfl], by linarith⟩,
      fun h => ⟨by linarith, fun _ => by linarith⟩⟩

end Whole

/-- In range a negative number has no whole part, so the sign does not count. -/
theorem truncate_value_eq_whole {x : Double} (h : x.negative = true → x.whole = 0) :
    truncate x.value = x.whole := by
  rw [truncate_value]
  cases hsign : x.negative with
  | false => rw [if_neg Bool.false_ne_true, one_mul]
  | true => rw [h hsign, Nat.cast_zero, mul_zero]

/-- **A double comes to a word exactly in range, and then toward zero.** -/
theorem toUInt32?_eq_some_iff {x : Double} {n : UInt32} :
    x.toUInt32? = some n ↔ ∃ q, x.Denotes q ∧ -1 < q ∧ q < 2 ^ 32 ∧ truncate q = n.toNat := by
  simp only [denotes_iff]
  unfold toUInt32?
  constructor
  · intro h
    split at h
    next hword =>
      obtain rfl := Option.some.inj h
      obtain ⟨hfinite, hlt, hsign⟩ := hword
      obtain ⟨hlow, hhigh⟩ := x.whole_in_range_iff.1 ⟨hlt, hsign⟩
      refine ⟨_, ⟨hfinite, rfl⟩, hlow, hhigh, ?_⟩
      rw [truncate_value_eq_whole hsign, UInt32.toNat_ofNat_of_lt' hlt]
    next => cases h
  · rintro ⟨_, ⟨hfinite, rfl⟩, hlow, hhigh, htruncate⟩
    obtain ⟨hlt, hsign⟩ := x.whole_in_range_iff.2 ⟨hlow, hhigh⟩
    rw [truncate_value_eq_whole hsign, Nat.cast_inj] at htruncate
    rw [if_pos ⟨hfinite, hlt, hsign⟩, htruncate, UInt32.ofNat_toNat]

/-- A double in range comes to some word. -/
theorem exists_toUInt32?_eq {x : Double} {q : ℚ} (h : x.Denotes q) (hlow : -1 < q)
    (hhigh : q < 2 ^ 32) : ∃ n, x.toUInt32? = some n := by
  obtain ⟨hfinite, rfl⟩ := denotes_iff.1 h
  obtain ⟨hlt, hsign⟩ := x.whole_in_range_iff.2 ⟨hlow, hhigh⟩
  exact ⟨_, if_pos ⟨hfinite, hlt, hsign⟩⟩

end Double

/-! ### Values of a script -/

namespace Value

/-- A value that comes to no word: it is no number, or one that is not finite or out of range. -/
inductive Wordless : Value → Prop
  | notNumber {v : Value} (h : ∀ x, v ≠ .number x) : Wordless v
  | nan {x : Double} (h : x.isNaN = true) : Wordless (.number x)
  | infinite {x : Double} (h : x.magnitude = Double.infinityBits) : Wordless (.number x)
  | low {x : Double} {q : ℚ} (hx : x.Denotes q) (hq : q ≤ -1) : Wordless (.number x)
  | high {x : Double} {q : ℚ} (hx : x.Denotes q) (hq : 2 ^ 32 ≤ q) : Wordless (.number x)

/-- A number is not a number, infinite, or denotes a rational. -/
theorem wordless_or_denotes (x : Double) : Wordless (.number x) ∨ ∃ q, x.Denotes q := by
  rcases lt_trichotomy x.magnitude Double.infinityBits with h | h | h
  · exact .inr ⟨_, Double.denotes_value (decide_eq_true h)⟩
  · exact .inl (.infinite h)
  · exact .inl (.nan (decide_eq_true h))

theorem word?_eq_some_iff {v : Value} {n : UInt32} :
    v.word? = some n ↔ ∃ x q, v = .number x ∧ x.Denotes q ∧ -1 < q ∧ q < 2 ^ 32 ∧
      truncate q = n.toNat := by
  unfold word?
  constructor
  · intro h
    obtain ⟨x, hx, hn⟩ := Option.bind_eq_some_iff.1 h
    obtain ⟨q, hq⟩ := Double.toUInt32?_eq_some_iff.1 hn
    exact ⟨x, q, number?_eq_some.1 hx, hq⟩
  · rintro ⟨x, q, rfl, hq⟩
    exact Double.toUInt32?_eq_some_iff.2 ⟨q, hq⟩

/-- No number that comes to a word is wordless. -/
theorem Wordless.not_in_range {x : Double} (h : Wordless (.number x)) {q : ℚ} (hq : x.Denotes q) :
    ¬ (-1 < q ∧ q < 2 ^ 32) := by
  rintro ⟨hlow, hhigh⟩
  obtain ⟨hfinite, hvalue⟩ := hq.eq_value
  have hmagnitude : x.magnitude < Double.infinityBits := of_decide_eq_true hfinite
  cases h with
  | notNumber h => exact h x rfl
  | nan h => exact lt_asymm hmagnitude (of_decide_eq_true h)
  | infinite h => exact hmagnitude.ne h
  | low hx hle => exact hlow.not_ge (hvalue.trans hx.eq_value.2.symm ▸ hle)
  | high hx hle => exact hhigh.not_ge (hvalue.trans hx.eq_value.2.symm ▸ hle)

theorem word?_eq_none_iff {v : Value} : v.word? = none ↔ v.Wordless := by
  constructor
  · intro hnone
    cases v with
    | number x =>
      rcases wordless_or_denotes x with h | ⟨q, hq⟩
      · exact h
      rcases le_or_gt q (-1) with hlow | hlow
      · exact .low hq hlow
      · refine .high hq (not_lt.1 fun hhigh => ?_)
        obtain ⟨n, hn⟩ := Double.exists_toUInt32?_eq hq hlow hhigh
        exact absurd (hnone.symm.trans hn) nofun
    | _ => exact .notNumber nofun
  · intro h
    refine Option.eq_none_iff_forall_not_mem.2 fun n hn => ?_
    obtain ⟨x, q, rfl, hq, hlow, hhigh, -⟩ := word?_eq_some_iff.1 hn
    exact h.not_in_range hq ⟨hlow, hhigh⟩

/-- **A value comes to a word exactly if it is a number between minus one and `2 ^ 32`**, and then to
that number without its fraction: to zero from all numbers around zero, from a word to that word, and
never from a larger number to a smaller word. -/
theorem word_truncates :
    (∀ x n, (number x).word? = some n ↔
      ∃ q, x.Denotes q ∧ -1 < q ∧ q < 2 ^ 32 ∧ truncate q = n.toNat) ∧
    (∀ v : Value, v.word? = none ↔ v.Wordless) ∧
    (∀ x q, x.Denotes q → -1 < q → q < 1 → (number x).word? = some 0) ∧
    (∀ n, (ofWord n).word? = some n) ∧
    ∀ x y p q m n, x.Denotes p → y.Denotes q → p ≤ q → (number x).word? = some m →
      (number y).word? = some n → m ≤ n := by
  refine ⟨fun x n => Double.toUInt32?_eq_some_iff, fun v => word?_eq_none_iff, ?_, word?_ofWord, ?_⟩
  · intro x q hq hlow hhigh
    have hzero : truncate q = (0 : UInt32).toNat := truncate_eq_zero hlow hhigh
    exact Double.toUInt32?_eq_some_iff.2 ⟨q, hq, hlow, hhigh.trans (by norm_num), hzero⟩
  · intro x y p q m n hp hq hle hm hn
    obtain ⟨p', hp', -, -, hm⟩ := Double.toUInt32?_eq_some_iff.1 hm
    obtain ⟨q', hq', -, -, hn⟩ := Double.toUInt32?_eq_some_iff.1 hn
    have hle' : p' ≤ q' := by
      rw [hp'.eq_value.2, hq'.eq_value.2, ← hp.eq_value.2, ← hq.eq_value.2]
      exact hle
    have hwords := truncate_le_truncate hle'
    rw [hm, hn, Nat.cast_le] at hwords
    exact UInt32.le_iff_toNat_le.2 hwords

/-- The last double below `2 ^ 32` comes to the last word and the next one to none; minus a half and
the negative zero come to zero, and minus one to nothing. -/
theorem word_truncates_bounds :
    (number ⟨0x41EFFFFFFFFFFFFF⟩).word? = some 0xFFFFFFFF ∧
    (number ⟨0x41F0000000000000⟩).word? = none ∧
    (number ⟨0xBFE0000000000000⟩).word? = some 0 ∧
    (number ⟨0x8000000000000000⟩).word? = some 0 ∧
    (number ⟨0xBFF0000000000000⟩).word? = none := by
  obtain ⟨hsome, hnone, hzero, -⟩ := word_truncates
  have hlast : Double.Denotes ⟨0x41EFFFFFFFFFFFFF⟩ _ :=
    @Double.Denotes.normal _ false 0x41E 0xFFFFFFFFFFFFF (by decide) (by decide)
      (by decide) rfl
  have hnext : Double.Denotes ⟨0x41F0000000000000⟩ _ :=
    @Double.Denotes.normal _ false 0x41F 0 (by decide) (by decide) (by decide) rfl
  have hhalf : Double.Denotes ⟨0xBFE0000000000000⟩ _ :=
    @Double.Denotes.normal _ true 0x3FE 0 (by decide) (by decide) (by decide) rfl
  have hminus : Double.Denotes ⟨0x8000000000000000⟩ _ :=
    @Double.Denotes.subnormal _ true 0 (by decide) rfl
  have hone : Double.Denotes ⟨0xBFF0000000000000⟩ _ :=
    @Double.Denotes.normal _ true 0x3FF 0 (by decide) (by decide) (by decide) rfl
  have hword : (0xFFFFFFFF : UInt32).toNat = 4294967295 := rfl
  refine ⟨(hsome _ _).2 ⟨_, hlast, ?_, ?_, ?_⟩, (hnone _).2 (.high hnext ?_),
    hzero _ _ hhalf ?_ ?_, hzero _ _ hminus ?_ ?_, (hnone _).2 (.low hone ?_)⟩
  all_goals norm_num [truncate, hword]

end Value

end ScriptedRays
