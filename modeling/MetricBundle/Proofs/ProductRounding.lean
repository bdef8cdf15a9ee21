import MetricBundle.Number
import Mathlib.Tactic.Ring

/-!
# Products of numbers

A product is the exact one, rounded: it is the nearest multiple of a unit that depends on where the
exact product lies among the powers of two, and of two nearest ones the even multiple.  This module
derives that from how products are computed, by shifts that keep two bits of what is shifted out.

Everything is counted in steps: a finite number that is not negative is a multiple of the least
positive one, `m * 2 ^ k` times it (`Spells`), and then an exact product is a multiple of the square
of that.  Rounding is monotone, so are products, and they are exact where the exact product is a
number (`Rounds.mono`, `Rounds.eq_of_dvd`).
-/

namespace MetricBundle.Number

open Float.Model Float.Model.UnpackedFloat

/-! ## The nearest multiple -/

/-- No multiple of the unit is nearer to `v` than `r * u`, and if another one is just as near, `r`
is even. -/
structure Nearest (v u r : ℕ) : Prop where
  below : 2 * (r * u) ≤ 2 * v + u
  above : 2 * v ≤ 2 * (r * u) + u
  even : 2 * (r * u) = 2 * v + u ∨ 2 * v = 2 * (r * u) + u → r % 2 = 0

theorem Nearest.mul_right {v u r : ℕ} (h : Nearest v u r) {c : ℕ} (hc : 0 < c) :
    Nearest (v * c) (u * c) r := by
  have hleft : 2 * (r * (u * c)) = 2 * (r * u) * c := by ring
  have hbelow : 2 * (v * c) + u * c = (2 * v + u) * c := by ring
  have habove : 2 * (r * (u * c)) + u * c = (2 * (r * u) + u) * c := by ring
  have hmiddle : 2 * (v * c) = 2 * v * c := by ring
  constructor
  · rw [hleft, hbelow]
    exact Nat.mul_le_mul_right c h.below
  · rw [hmiddle, habove]
    exact Nat.mul_le_mul_right c h.above
  · rw [habove, hbelow, hleft, hmiddle, Nat.mul_left_inj hc.ne', Nat.mul_left_inj hc.ne']
    exact h.even

/-- A multiple of the unit is nearest to itself. -/
theorem nearest_mul {u : ℕ} (hu : 0 < u) (r : ℕ) : Nearest (r * u) u r where
  below := by omega
  above := by omega
  even := by omega

theorem Nearest.mono {v v' u r r' : ℕ} (hu : 0 < u) (h : Nearest v u r) (h' : Nearest v' u r')
    (hle : v ≤ v') : r ≤ r' := by
  by_contra hlt
  obtain ⟨d, rfl⟩ : ∃ d, r = r' + 1 + d := ⟨r - (r' + 1), by omega⟩
  have hbelow := h.below
  have habove := h'.above
  have hmul : (r' + 1 + d) * u = r' * u + u + d * u := by ring
  rw [hmul] at hbelow
  -- only a tie at both ends is left, and then neighbours were both even
  obtain rfl : d = 0 := by
    by_contra hd
    have := Nat.le_mul_of_pos_left u (Nat.pos_of_ne_zero hd)
    omega
  have heven := h.even (.inl (by rw [hmul]; omega))
  have heven' := h'.even (.inr (by omega))
  omega

/-! ## Rounding -/

/-- The unit of numbers as large as `v`, which is counted in squares of the least one. -/
def unit (v : ℕ) : ℕ := 2 ^ max (v.log2 - 52) 1074

/-- Rounding leads from `v` to `w`. -/
def Rounds (v w : ℕ) : Prop := ∃ r, w = r * unit v ∧ Nearest v (unit v) r

theorem unit_pos (v : ℕ) : 0 < unit v := Nat.two_pow_pos _

theorem log2_mono {v v' : ℕ} (h : v ≤ v') : v.log2 ≤ v'.log2 := by
  by_cases hv : v = 0
  · subst hv
    exact Nat.zero_le _
  · exact (Nat.le_log2 (by omega)).mpr ((Nat.log2_self_le hv).trans h)

/-- A multiple of the unit that is no less than a value is no less than what it is rounded to. -/
theorem Rounds.le_of_dvd {v w b : ℕ} (h : Rounds v w) (hdvd : unit v ∣ b) (hle : v ≤ b) :
    w ≤ b := by
  obtain ⟨r, rfl, hr⟩ := h
  obtain ⟨c, rfl⟩ := hdvd
  rw [Nat.mul_comm _ c] at hle ⊢
  exact Nat.mul_le_mul_right _ (hr.mono (unit_pos v) (nearest_mul (unit_pos v) c) hle)

theorem Rounds.ge_of_dvd {v w b : ℕ} (h : Rounds v w) (hdvd : unit v ∣ b) (hle : b ≤ v) :
    b ≤ w := by
  obtain ⟨r, rfl, hr⟩ := h
  obtain ⟨c, rfl⟩ := hdvd
  rw [Nat.mul_comm _ c] at hle ⊢
  exact Nat.mul_le_mul_right _ ((nearest_mul (unit_pos v) c).mono (unit_pos v) hr hle)

/-- **A value that is a multiple of its unit is rounded to itself.** -/
theorem Rounds.eq_of_dvd {v w : ℕ} (h : Rounds v w) (hdvd : unit v ∣ v) : w = v :=
  Nat.le_antisymm (h.le_of_dvd hdvd le_rfl) (h.ge_of_dvd hdvd le_rfl)

/-- **Rounding is monotone.**  Where the unit changes, a power of two lies between the values, and
so between what they are rounded to. -/
theorem Rounds.mono {v v' w w' : ℕ} (h : Rounds v w) (h' : Rounds v' w') (hle : v ≤ v') :
    w ≤ w' := by
  have hlog := log2_mono hle
  by_cases hunit : max (v.log2 - 52) 1074 = max (v'.log2 - 52) 1074
  case pos =>
    obtain ⟨r, rfl, hr⟩ := h
    obtain ⟨r', rfl, hr'⟩ := h'
    have hsame : unit v = unit v' := by rw [unit, unit, hunit]
    rw [hsame] at hr ⊢
    exact Nat.mul_le_mul_right _ (hr.mono (unit_pos _) hr' hle)
  case neg =>
    have hv' : v' ≠ 0 := by
      rintro rfl
      exact hunit (by rw [Nat.le_zero.mp hle])
    have hbelow : v ≤ 2 ^ v'.log2 := by
      by_cases hv : v = 0
      · rw [hv]
        exact Nat.zero_le _
      · exact ((Nat.log2_lt hv).mp (by omega)).le
    calc
      w ≤ 2 ^ v'.log2 := h.le_of_dvd (pow_dvd_pow 2 (by omega)) hbelow
      _ ≤ w' := h'.ge_of_dvd (pow_dvd_pow 2 (by omega)) (Nat.log2_self_le hv')

/-! ## Shifts -/

/-- The mantissa and its two further bits tell where `v` lies: which multiple of `u` is below it,
and how it compares with the middle between that one and the next. -/
def Locates (em : ExtendedMantissa) (v u : ℕ) : Prop :=
  match em.roundBit, em.stickyBit with
  | false, false => v = em.mantissa * u
  | false, true => em.mantissa * u < v ∧ 2 * v < 2 * (em.mantissa * u) + u
  | true, false => 2 * v = 2 * (em.mantissa * u) + u
  | true, true => 2 * (em.mantissa * u) + u < 2 * v ∧ v < em.mantissa * u + u

theorem Locates.shiftRightOne {em : ExtendedMantissa} {v u : ℕ} (hu : 0 < u)
    (h : Locates em v u) : Locates em.shiftRightOne v (u * 2) := by
  obtain ⟨m, roundBit, stickyBit⟩ := em
  -- the last bit of the mantissa becomes the round bit, and both bits the sticky one
  obtain ⟨a, rfl | rfl⟩ : ∃ a, m = 2 * a ∨ m = 2 * a + 1 := ⟨m / 2, by omega⟩
  case inl =>
    have hshift : ExtendedMantissa.shiftRightOne ⟨2 * a, roundBit, stickyBit⟩ =
        ⟨a, false, roundBit || stickyBit⟩ := by
      simp [ExtendedMantissa.shiftRightOne]
    have hdouble : a * (u * 2) = 2 * a * u := by ring
    rw [hshift]
    cases roundBit <;> cases stickyBit <;>
      simp only [Locates, Bool.or_true, Bool.or_false, hdouble] at h ⊢ <;> omega
  case inr =>
    have hshift : ExtendedMantissa.shiftRightOne ⟨2 * a + 1, roundBit, stickyBit⟩ =
        ⟨a, true, roundBit || stickyBit⟩ := by
      simp [ExtendedMantissa.shiftRightOne]
      omega
    have hdouble : a * (u * 2) = 2 * a * u := by ring
    have hnext : (2 * a + 1) * u = 2 * a * u + u := by ring
    rw [hshift]
    cases roundBit <;> cases stickyBit <;>
      simp only [Locates, Bool.or_true, Bool.or_false, hdouble, hnext] at h ⊢ <;> omega

theorem Locates.shiftRight {em : ExtendedMantissa} {v : ℕ} (h : Locates em v 1) (s : ℕ) :
    Locates (em >>> s) v (2 ^ s) := by
  show Locates (s.repeat ExtendedMantissa.shiftRightOne em) v (2 ^ s)
  induction s with
  | zero => exact h
  | succ s ih => exact ih.shiftRightOne (Nat.two_pow_pos s)

theorem Locates.nearest {em : ExtendedMantissa} {v u : ℕ} (hu : 0 < u) (h : Locates em v u) :
    Nearest v u em.roundedMantissa := by
  obtain ⟨m, roundBit, stickyBit⟩ := em
  have hnext : (m + 1) * u = m * u + u := by ring
  cases roundBit <;> cases stickyBit <;>
    simp only [Locates, ExtendedMantissa.roundedMantissa, ExtendedMantissa.accuracy,
      Accuracy.roundToNearestEven] at h ⊢
  · rw [h]
    exact nearest_mul hu m
  · constructor <;> omega
  · rcases Nat.mod_two_eq_zero_or_one m with heven | hodd
    · rw [heven, Nat.add_zero]
      constructor <;> omega
    · rw [hodd]
      constructor <;> omega
  · constructor <;> omega

/-- Where the exact value of a mantissa has to be shifted, as a number of squares of the least
one: at least to the least number itself. -/
def target (m j : ℕ) : ℕ := max (m.log2 + j - 52) 1074

/-- A mantissa before anything is shifted out of it. -/
def whole (m : ℕ) : ExtendedMantissa := ⟨m, false, false⟩

theorem targetExponent_eq (m : ℕ) (e : ℤ) :
    Format.binary64.targetExponent (totalExponent m e) = max ((m.log2 : ℤ) + 1 + e - 53) (-1074) :=
  rfl

theorem shiftToTargetExponent_eq (m j : ℕ) :
    shiftToTargetExponent Format.binary64 m ((j : ℤ) - 2148) .exact =
      (whole m >>> (target m j - j), ((max j (target m j) : ℕ) : ℤ) - 2148) := by
  have htarget : Format.binary64.targetExponent (totalExponent m ((j : ℤ) - 2148)) =
      (target m j : ℤ) - 2148 := by
    rw [targetExponent_eq, target]
    omega
  have hshift : ((target m j : ℤ) - 2148 - ((j : ℤ) - 2148)).toNat = target m j - j := by omega
  have hend : (j : ℤ) - 2148 + (target m j - j : ℕ) =
      ((max j (target m j) : ℕ) : ℤ) - 2148 := by omega
  simp only [shiftToTargetExponent, htarget, shiftToExponent, hshift, hend]
  rfl

/-- The mantissa of a product, shifted and rounded. -/
def rounded (m j : ℕ) : ℕ := (whole m >>> (target m j - j)).roundedMantissa

section Rounded

variable {m j : ℕ}

theorem nearest_rounded (m j : ℕ) : Nearest m (2 ^ (target m j - j)) (rounded m j) := by
  have hwhole : Locates (whole m) m 1 := (Nat.mul_one m).symm
  exact (hwhole.shiftRight _).nearest (Nat.two_pow_pos _)

theorem rounded_le (m j : ℕ) : rounded m j ≤ 2 ^ 53 := by
  refine (nearest_rounded m j).mono (Nat.two_pow_pos _) (nearest_mul (Nat.two_pow_pos _) _) ?_
  rw [← Nat.pow_add]
  have hlog : m.log2 < 53 + (target m j - j) := by
    unfold target
    omega
  by_cases hm : m = 0
  · rw [hm]
    exact Nat.zero_le _
  · exact ((Nat.log2_lt hm).mp hlog).le

/-- The mantissa is a full one unless the result is among the least numbers. -/
theorem le_rounded_or (hm : m ≠ 0) (hj : j ≤ target m j) :
    2 ^ 52 ≤ rounded m j ∨ target m j = 1074 := by
  refine or_iff_not_imp_right.mpr fun htarget => ?_
  refine (nearest_mul (Nat.two_pow_pos _) _).mono (Nat.two_pow_pos _) (nearest_rounded m j) ?_
  have hlog : 52 + (target m j - j) = m.log2 := by
    unfold target at hj htarget ⊢
    omega
  rw [← Nat.pow_add, hlog]
  exact Nat.log2_self_le hm

/-- A number that is not negative, by its mantissa and exponent. -/
def multiple (m : ℕ) (e : ℤ) : UnpackedFloat :=
  if h : m = 0 then .zero .positive else .finite .positive m e (Nat.pos_of_ne_zero h)

theorem roundWithAccuracy_of_shifts {m : ℕ} {e e' e'' : ℤ} {em em' : ExtendedMantissa}
    (h : shiftToTargetExponent Format.binary64 m e .exact = (em, e'))
    (h' : shiftToTargetExponent Format.binary64 em.roundedMantissa e' .exact = (em', e'')) :
    roundWithAccuracy Format.binary64 .positive m e .exact = multiple em'.mantissa e'' := by
  unfold roundWithAccuracy
  rw [h]
  dsimp only
  rw [h']
  rfl

/-- What is rounded to has at most 53 bits, or it is the power of two next to these and is shifted
once more.  Nothing gets lost by that. -/
theorem roundWithAccuracy_eq (hm : m ≠ 0) (hj : j ≤ target m j) :
    ∃ r k, r * 2 ^ k = rounded m j * 2 ^ target m j ∧ r < 2 ^ 53 ∧ (2 ^ 52 ≤ r ∨ k = 1074) ∧
      1074 ≤ k ∧ k ≤ target m j + 1 ∧
      roundWithAccuracy Format.binary64 .positive m ((j : ℤ) - 2148) .exact =
        multiple r ((k : ℤ) - 2148) := by
  have hfirst := shiftToTargetExponent_eq m j
  rw [Nat.max_eq_right hj] at hfirst
  have hsecond := shiftToTargetExponent_eq (rounded m j) (target m j)
  have hleast : 1074 ≤ target m j := Nat.le_max_right _ _
  rcases Nat.lt_or_eq_of_le (rounded_le m j) with hlt | hfull
  case inl =>
    have hlog : (rounded m j).log2 ≤ 52 := by
      by_cases hzero : rounded m j = 0
      · rw [hzero]
        decide
      · exact Nat.le_of_lt_succ ((Nat.log2_lt hzero).mpr hlt)
    have hstay : target (rounded m j) (target m j) ≤ target m j := by
      rw [target]
      omega
    rw [Nat.max_eq_left hstay, Nat.sub_eq_zero_of_le hstay] at hsecond
    exact ⟨rounded m j, target m j, rfl, hlt, le_rounded_or hm hj, hleast, Nat.le_succ _,
      roundWithAccuracy_of_shifts hfirst hsecond⟩
  case inr =>
    have hmove : target (rounded m j) (target m j) = target m j + 1 := by
      rw [target, hfull, Nat.log2_two_pow]
      omega
    rw [hmove, Nat.max_eq_right (Nat.le_succ _), Nat.add_sub_cancel_left] at hsecond
    refine ⟨2 ^ 52, target m j + 1, ?_, by decide, .inl le_rfl, by omega, le_rfl, ?_⟩
    · rw [hfull]
      ring
    · rw [roundWithAccuracy_of_shifts hfirst hsecond, hfull]
      rfl

end Rounded

/-! ## Numbers as multiples of the least one -/

/-- The number is `m * 2 ^ k` times the least positive one, and `m` is a full mantissa unless the
number is among the least. -/
structure Spells (x : Number) (m k : ℕ) : Prop where
  bits : x.bits.toNat = k * 2 ^ 52 + m
  lt : m < 2 ^ 53
  normal : 2 ^ 52 ≤ m ∨ k = 0
  finite : k < 2046

/-- The number with the value of an unpacked one. -/
def ofUnpacked (u : UnpackedFloat) : Number := ofFloat (.ofModel (.pack u))

theorem toNat_packComponents (e : BitVec 11) (f : BitVec 52) :
    (packComponents Format.binary64 .positive e f).toNat = e.toNat * 2 ^ 52 + f.toNat := by
  have hhead : (0#1 ++ e).toNat = e.toNat := by
    rw [BitVec.toNat_append, ← Nat.shiftLeft_add_eq_or_of_lt e.isLt]
    simp
  show ((0#1 ++ e) ++ f).toNat = _
  rw [BitVec.toNat_append, ← Nat.shiftLeft_add_eq_or_of_lt f.isLt, hhead, Nat.shiftLeft_eq]

theorem pack_multiple {m k : ℕ} (hlt : m < 2 ^ 53) (hnormal : 2 ^ 52 ≤ m ∨ k = 0)
    (hk : k < 2046) : UnpackedFloat.pack Format.binary64 (multiple m ((k : ℤ) - 1074)) =
      packComponents Format.binary64 .positive (BitVec.ofNat 11 (k + m / 2 ^ 52))
        (BitVec.ofNat 52 m) := by
  by_cases hm : m = 0
  · subst hm
    obtain rfl : k = 0 := by simpa using hnormal
    rfl
  · have hbiased : ((k : ℤ) - 1074 + Format.binary64.exponentBias +
        Format.binary64.mantissaBitsWithoutImplicit).toNat = k + 1 := by
      show ((k : ℤ) - 1074 + 1023 + 52).toNat = k + 1
      omega
    have hwidth : Format.binary64.mantissaBits = 53 := rfl
    rw [multiple, dif_neg hm]
    unfold UnpackedFloat.pack
    simp only [hbiased, hwidth]
    rw [if_neg (show ¬(2 ^ 11 ≤ k + 1 + 1) by omega)]
    rcases Nat.lt_or_ge m (2 ^ 52) with hsmall | hfull
    case inl =>
      have hlog := (Nat.log2_lt hm).mpr hsmall
      have hexponent : k + m / 2 ^ 52 = 0 := by omega
      rw [if_neg (show ¬(m.log2 + 1 = 53) by omega), hexponent]
    case inr =>
      have hlog : m.log2 = 52 := (Nat.log2_eq_iff hm).mpr ⟨hfull, hlt⟩
      have hexponent : k + m / 2 ^ 52 = k + 1 := by omega
      rw [if_pos (show m.log2 + 1 = 53 by omega), hexponent]

theorem spells_ofUnpacked {m k : ℕ} (hlt : m < 2 ^ 53) (hnormal : 2 ^ 52 ≤ m ∨ k = 0)
    (hk : k < 2046) : Spells (ofUnpacked (multiple m ((k : ℤ) - 1074))) m k := by
  refine ⟨?_, hlt, hnormal, hk⟩
  show (UnpackedFloat.pack Format.binary64 (multiple m ((k : ℤ) - 1074))).toNat = _
  rw [pack_multiple hlt hnormal hk, toNat_packComponents, BitVec.toNat_ofNat, BitVec.toNat_ofNat]
  omega

theorem toNat_cons_one (f : BitVec 52) : (1#1 ++ f).toNat = 2 ^ 52 + f.toNat := by
  rw [BitVec.toNat_append, ← Nat.shiftLeft_add_eq_or_of_lt f.isLt]
  rfl

theorem unpackSign_packComponents (sign : Sign) (e : BitVec 11) (f : BitVec 52) :
    unpackSign (packComponents Format.binary64 sign e f) = sign.toBitVec := by
  show (sign.toBitVec ++ e ++ f).extractLsb' 63 1 = sign.toBitVec
  rw [BitVec.extractLsb'_append_eq_of_le (by decide),
    BitVec.extractLsb'_append_eq_of_le (by decide)]
  cases sign <;> rfl

/-- What a word is unpacked to, if it is no number beyond the finite ones and not negative. -/
theorem unpack_of_parts {b : BitVec Format.binary64.numBits}
    (hsign : unpackSign b = Sign.positive.toBitVec) (hfinite : (unpackExponent b).toNat < 2047) :
    UnpackedFloat.unpack Format.binary64 b =
      if (unpackExponent b).toNat = 0 then multiple (unpackMantissa b).toNat (-1074)
      else multiple (2 ^ 52 + (unpackMantissa b).toNat)
        (((unpackExponent b).toNat : ℤ) - 1075) := by
  have hne : unpackExponent b ≠ -1#11 := by
    intro hall
    rw [hall] at hfinite
    exact absurd hfinite (by decide)
  unfold UnpackedFloat.unpack
  rw [if_neg hne, hsign]
  by_cases hzero : unpackExponent b = 0#11
  case pos =>
    have hnone : (unpackExponent b).toNat = 0 := congrArg BitVec.toNat hzero
    rw [if_pos hzero, if_pos hnone, multiple]
    by_cases hf : unpackMantissa b = 0#52
    · have hzero : (unpackMantissa b).toNat = 0 := congrArg BitVec.toNat hf
      rw [dif_pos hf, dif_pos hzero]
      rfl
    · have hne : (unpackMantissa b).toNat ≠ 0 := fun h => hf (BitVec.eq_of_toNat_eq h)
      rw [dif_neg hf, dif_neg hne, hnone]
      rfl
  case neg =>
    have hne : (unpackExponent b).toNat ≠ 0 := fun h => hzero (BitVec.eq_of_toNat_eq h)
    rw [if_neg hzero, if_neg hne, multiple, dif_neg (by omega)]
    congr 1
    exact toNat_cons_one _

theorem unpack_packComponents {e : BitVec 11} (f : BitVec 52) (he : e.toNat < 2047) :
    UnpackedFloat.unpack Format.binary64 (packComponents Format.binary64 .positive e f) =
      if e.toNat = 0 then multiple f.toNat (-1074)
      else multiple (2 ^ 52 + f.toNat) ((e.toNat : ℤ) - 1075) := by
  have hparts := unpack_of_parts (unpackSign_packComponents .positive e f)
  rw [unpackExponent_packComponents, unpackMantissa_packComponents] at hparts
  exact hparts he

theorem unpack_pack {m k : ℕ} (hlt : m < 2 ^ 53) (hnormal : 2 ^ 52 ≤ m ∨ k = 0)
    (hk : k < 2046) : (Float.Model.pack (multiple m ((k : ℤ) - 1074))).unpack =
      multiple m ((k : ℤ) - 1074) := by
  have hexponent : (BitVec.ofNat 11 (k + m / 2 ^ 52)).toNat = k + m / 2 ^ 52 := by
    rw [BitVec.toNat_ofNat]
    omega
  have hmantissa : (BitVec.ofNat 52 m).toNat = m % 2 ^ 52 := BitVec.toNat_ofNat _ _
  show UnpackedFloat.unpack Format.binary64 (UnpackedFloat.pack Format.binary64 _) = _
  rw [pack_multiple hlt hnormal hk, unpack_packComponents _ (by omega), hexponent, hmantissa]
  rcases Nat.lt_or_ge m (2 ^ 52) with hsmall | hfull
  case inl =>
    obtain rfl : k = 0 := hnormal.resolve_left (by omega)
    rw [if_pos (by omega), Nat.mod_eq_of_lt hsmall]
    rfl
  case inr =>
    rw [if_neg (by omega)]
    congr 1 <;> omega

theorem Spells.eq_ofUnpacked {x : Number} {m k : ℕ} (h : Spells x m k) :
    x = ofUnpacked (multiple m ((k : ℤ) - 1074)) :=
  eq_of_bits (h.bits.trans (spells_ofUnpacked h.lt h.normal h.finite).bits.symm)

theorem Spells.unpack_bits {x : Number} {m k : ℕ} (h : Spells x m k) :
    UnpackedFloat.unpack Format.binary64 x.bits.toBitVec = multiple m ((k : ℤ) - 1074) := by
  rw [h.eq_ofUnpacked]
  exact unpack_pack h.lt h.normal h.finite

theorem Spells.unpack_toFloat {x : Number} {m k : ℕ} (h : Spells x m k) :
    x.toFloat.toModel.unpack = multiple m ((k : ℤ) - 1074) := by
  show (Float.Model.pack (UnpackedFloat.unpack Format.binary64 x.bits.toBitVec)).unpack = _
  rw [h.unpack_bits, unpack_pack h.lt h.normal h.finite]

/-- The least positive number is one halved so often. -/
@[irreducible] def depth : ℕ := 1074

theorem depth_eq : depth = 1074 := by unfold depth; rfl

/-- How many times the least positive number is one. -/
def scale : ℕ := 2 ^ depth

theorem scale_pos : 0 < scale := Nat.two_pow_pos _

/-! ## Products -/

theorem log2_mul_pow {m : ℕ} (hm : m ≠ 0) (j : ℕ) : (m * 2 ^ j).log2 = m.log2 + j := by
  rw [Nat.log2_eq_iff (Nat.mul_ne_zero hm (Nat.two_pow_pos j).ne'), Nat.add_right_comm,
    Nat.pow_add, Nat.pow_add]
  exact ⟨Nat.mul_le_mul_right _ (Nat.log2_self_le hm),
    Nat.mul_lt_mul_of_pos_right Nat.lt_log2_self (Nat.two_pow_pos j)⟩

/-- What is computed for a mantissa and an exponent is the rounded exact value. -/
theorem exists_spells_round {m j : ℕ} (hm : m ≠ 0) (hj : j ≤ target m j)
    (hsmall : (m * 2 ^ j).log2 < 3000) :
    ∃ r k, Rounds (m * 2 ^ j) (r * 2 ^ k * scale) ∧ Spells
      (ofUnpacked (roundWithAccuracy Format.binary64 .positive m ((j : ℤ) - 2148) .exact)) r k := by
  have hlog := log2_mul_pow hm j
  have htarget : target m j < 2948 := by
    rw [hlog] at hsmall
    unfold target
    omega
  obtain ⟨r, k, hvalue, hlt, hnormal, hleast, hmost, hround⟩ := roundWithAccuracy_eq hm hj
  obtain ⟨l, rfl⟩ : ∃ l, k = l + 1074 := ⟨k - 1074, by omega⟩
  refine ⟨r, l, ⟨rounded m j, ?value, ?nearest⟩, ?spells⟩
  case value =>
    rw [unit, hlog, scale, depth_eq, Nat.mul_assoc, ← Nat.pow_add]
    exact hvalue
  case nearest =>
    have hnearest := (nearest_rounded m j).mul_right (Nat.two_pow_pos j)
    rwa [← Nat.pow_add, Nat.sub_add_cancel hj, target, ← hlog] at hnearest
  case spells =>
    have hexponent : ((l + 1074 : ℕ) : ℤ) - 2148 = (l : ℤ) - 1074 := by omega
    rw [hround, hexponent]
    exact spells_ofUnpacked hlt (hnormal.imp_right (by omega)) (by omega)

theorem exists_spells_mul {m k m' k' : ℕ} (hm : m ≠ 0) (hm' : 2 ^ 52 ≤ m')
    (hsmall : (m * 2 ^ k * (m' * 2 ^ k')).log2 < 3000) :
    ∃ r l, Rounds (m * 2 ^ k * (m' * 2 ^ k')) (r * 2 ^ l * scale) ∧ Spells
      (ofUnpacked (UnpackedFloat.mul Format.binary64 (multiple m ((k : ℤ) - 1074))
        (multiple m' ((k' : ℤ) - 1074)))) r l := by
  have hne : m' ≠ 0 := by omega
  have hexact : m * 2 ^ k * (m' * 2 ^ k') = m * m' * 2 ^ (k + k') := by ring
  have hexponent : (k : ℤ) - 1074 + ((k' : ℤ) - 1074) = ((k + k' : ℕ) : ℤ) - 2148 := by omega
  have hlog : 52 ≤ (m * m').log2 :=
    (Nat.le_log2 (Nat.mul_ne_zero hm hne)).mpr
      (hm'.trans (Nat.le_mul_of_pos_left m' (Nat.pos_of_ne_zero hm)))
  rw [hexact] at hsmall ⊢
  rw [multiple, multiple, dif_neg hm, dif_neg hne]
  show ∃ r l, _ ∧ Spells (ofUnpacked (roundWithAccuracy Format.binary64 .positive (m * m')
    ((k : ℤ) - 1074 + ((k' : ℤ) - 1074)) .exact)) r l
  rw [hexponent]
  exact exists_spells_round (Nat.mul_ne_zero hm hne) (by unfold target; omega) hsmall

/-- **A product is the exact one, rounded.** -/
theorem Spells.exists_mul {x y : Number} {m k m' k' : ℕ} (hx : Spells x m k) (hy : Spells y m' k')
    (hm : m ≠ 0) (hm' : 2 ^ 52 ≤ m') (hsmall : (m * 2 ^ k * (m' * 2 ^ k')).log2 < 3000) :
    ∃ r l, Rounds (m * 2 ^ k * (m' * 2 ^ k')) (r * 2 ^ l * scale) ∧ Spells (x.mul y) r l := by
  have hmul : x.mul y = ofUnpacked (UnpackedFloat.mul Format.binary64 x.toFloat.toModel.unpack
    y.toFloat.toModel.unpack) := rfl
  rw [hmul, hx.unpack_toFloat, hy.unpack_toFloat]
  exact exists_spells_mul hm hm' hsmall

/-! ## Counts -/

theorem spells_one : Spells one (2 ^ 52) 1022 := ⟨by decide, by decide, .inl le_rfl, by decide⟩

theorem pow_mul_pow_one : 2 ^ 52 * 2 ^ 1022 = scale := by
  have hdepth : 52 + 1022 = depth := depth_eq.symm
  rw [← Nat.pow_add, hdepth, scale]

theorem log2_mul_scale {m : ℕ} (hm : m ≠ 0) : (m * scale).log2 = m.log2 + 1074 := by
  rw [scale, log2_mul_pow hm, depth_eq]

theorem log2_mul_square {n : ℕ} (hn : n ≠ 0) : (n * scale * scale).log2 = n.log2 + 2148 := by
  rw [log2_mul_scale (Nat.mul_ne_zero hn scale_pos.ne'), log2_mul_scale hn]

/-- A count of at most 53 bits is a multiple of its unit. -/
theorem unit_dvd {n : ℕ} (hn : n ≠ 0) (hlt : n < 2 ^ 53) :
    unit (n * scale * scale) ∣ n * scale * scale := by
  have hlog := (Nat.log2_lt hn).mpr hlt
  have hdepth := depth_eq
  have hsquare : n * scale * scale = n * 2 ^ (depth + depth) := by
    rw [scale, Nat.mul_assoc, ← Nat.pow_add]
  rw [unit, log2_mul_square hn, hsquare]
  exact (pow_dvd_pow 2 (by omega)).mul_left n

theorem exists_spells_count {n : ℕ} (hn : n ≠ 0) (hlt : n < 2 ^ 53) :
    ∃ m k, m * 2 ^ k = n * scale ∧
      Spells (ofUnpacked (UnpackedFloat.ofNat Format.binary64 n)) m k := by
  have hlog := (Nat.log2_lt hn).mpr hlt
  have hdepth := depth_eq
  obtain ⟨s, hs⟩ : ∃ s, s = 52 - n.log2 := ⟨_, rfl⟩
  obtain ⟨j, hj⟩ : ∃ j, s + j = depth + depth := ⟨depth + depth - s, by omega⟩
  have hcount : UnpackedFloat.ofNat Format.binary64 n =
      roundWithAccuracy Format.binary64 .positive (n * 2 ^ s) ((j : ℤ) - 2148) .exact := by
    have hpos : compare (n : ℤ) 0 = .gt := by
      rw [compare_gt_iff_gt]
      omega
    have htarget : Format.binary64.targetExponent (totalExponent n 0) = -(s : ℤ) := by
      rw [targetExponent_eq]
      omega
    have hshift : (0 - -(s : ℤ)).toNat = s := by omega
    have hexponent : 0 - (s : ℤ) = (j : ℤ) - 2148 := by omega
    simp only [UnpackedFloat.ofNat, UnpackedFloat.ofInt, UnpackedFloat.normalize, hpos,
      UnpackedFloat.round, Int.toNat_natCast, htarget, decreaseExponent, hshift, Nat.shiftLeft_eq,
      hexponent]
  have hne : n * 2 ^ s ≠ 0 := Nat.mul_ne_zero hn (Nat.two_pow_pos s).ne'
  have hfull : j ≤ target (n * 2 ^ s) j := by
    rw [target, log2_mul_pow hn]
    omega
  have hexact : n * 2 ^ s * 2 ^ j = n * scale * scale := by
    rw [Nat.mul_assoc, ← Nat.pow_add, hj, Nat.pow_add, ← Nat.mul_assoc]
    rfl
  have hsmall : (n * 2 ^ s * 2 ^ j).log2 < 3000 := by
    rw [hexact, log2_mul_square hn]
    omega
  obtain ⟨m, k, hrounds, hspells⟩ := exists_spells_round hne hfull hsmall
  rw [← hcount] at hspells
  rw [hexact] at hrounds
  have hvalue := hrounds.eq_of_dvd (unit_dvd hn hlt)
  exact ⟨m, k, Nat.eq_of_mul_eq_mul_right scale_pos hvalue, hspells⟩

theorem ofNat_eq_mul {n : ℕ} (hlt : n < 2 ^ 53) :
    ofNat n = ofUnpacked (UnpackedFloat.mul Format.binary64
      (Float.Model.pack (UnpackedFloat.ofNat Format.binary64 n)).unpack
      one.toFloat.toModel.unpack) := by
  have hword : n.toUInt64.toNat = n := by
    rw [Nat.toUInt64_eq, UInt64.toNat_ofNat']
    omega
  have hone : one.toFloat = Float.ofBits 0x3FF0000000000000 := rfl
  have hfloat : Float.ofNat n = n.toUInt64.toFloat * one.toFloat := by
    show Float.ofScientific n false 0 = _
    unfold Float.ofScientific
    rw [dif_pos ⟨hlt, by decide⟩, hone]
    rfl
  have hmodel : n.toUInt64.toFloat.toModel =
      Float.Model.pack (UnpackedFloat.ofNat Format.binary64 n.toUInt64.toNat) := rfl
  rw [ofNat, hfloat]
  show ofUnpacked (UnpackedFloat.mul Format.binary64 n.toUInt64.toFloat.toModel.unpack _) = _
  rw [hmodel, hword]

/-- **A count of at most 53 bits is turned into a number without being rounded.** -/
theorem exists_spells_ofNat {n : ℕ} (hn : n ≠ 0) (hlt : n < 2 ^ 53) :
    ∃ m k, 2 ^ 52 ≤ m ∧ m * 2 ^ k = n * scale ∧ Spells (ofNat n) m k := by
  obtain ⟨m, k, hvalue, hspells⟩ := exists_spells_count hn hlt
  have hm : m ≠ 0 := by
    rintro rfl
    rw [Nat.zero_mul] at hvalue
    exact Nat.mul_ne_zero hn scale_pos.ne' hvalue.symm
  have hsmall : (m * 2 ^ k * (2 ^ 52 * 2 ^ 1022)).log2 < 3000 := by
    have hlog := (Nat.log2_lt hn).mpr hlt
    rw [hvalue, pow_mul_pow_one, log2_mul_square hn]
    omega
  obtain ⟨r, l, hrounds, hproduct⟩ := exists_spells_mul hm le_rfl hsmall
  rw [hvalue, pow_mul_pow_one] at hrounds
  rw [← spells_one.unpack_toFloat, ← hspells.unpack_bits] at hproduct
  have hexact := Nat.eq_of_mul_eq_mul_right scale_pos (hrounds.eq_of_dvd (unit_dvd hn hlt))
  have hspells : Spells (ofNat n) r l := by
    rw [ofNat_eq_mul hlt]
    exact hproduct
  refine ⟨r, l, hspells.normal.resolve_right ?_, hexact, hspells⟩
  -- the least numbers are less than one
  rintro rfl
  have hlt := hproduct.lt
  have hle : 2 ^ 53 ≤ scale := Nat.pow_le_pow_right (by decide) (by rw [depth_eq]; decide)
  have hscale := Nat.le_mul_of_pos_left scale (Nat.pos_of_ne_zero hn)
  rw [Nat.pow_zero, Nat.mul_one] at hexact
  omega

/-! ## Rounding up -/

theorem Spells.isNegative {x : Number} {m k : ℕ} (h : Spells x m k) : x.isNegative = false := by
  have := h.bits
  have := h.lt
  have := h.finite
  simp only [Number.isNegative, signWeight]
  exact decide_eq_false (by omega)

theorem Spells.magnitude {x : Number} {m k : ℕ} (h : Spells x m k) :
    x.magnitude = k * 2 ^ 52 + m := by
  have := h.bits
  have := h.lt
  have := h.finite
  simp only [Number.magnitude, signWeight]
  omega

theorem Spells.decode {x : Number} {m k : ℕ} (h : Spells x m k) :
    x.decode = (m, (k : ℤ) - 1074) := by
  have hlt := h.lt
  simp only [Number.decode, h.magnitude, leastSignificand]
  rcases Nat.lt_or_ge m (2 ^ 52) with hsmall | hfull
  case inl =>
    obtain rfl : k = 0 := h.normal.resolve_left (by omega)
    rw [if_pos (by omega), Nat.mod_eq_of_lt (by omega)]
    simp
  case inr =>
    have hexponent : (k * 2 ^ 52 + m) / 0x10000000000000 = k + 1 := by omega
    have hfraction : 0x10000000000000 + (k * 2 ^ 52 + m) % 0x10000000000000 = m := by omega
    rw [hexponent, if_neg (Nat.succ_ne_zero k), hfraction, Prod.mk.injEq]
    exact ⟨rfl, by rw [Int.ofNat_eq_natCast]; omega⟩

/-- A number is at most a count if it is at most as many times the least one. -/
theorem Spells.ceilCount_le_iff {x : Number} {m k : ℕ} (h : Spells x m k) {c : ℕ} :
    x.ceilCount ≤ c ↔ m * 2 ^ k ≤ c * scale := by
  have hdepth := depth_eq
  have hmagnitude := h.magnitude
  have hlt := h.lt
  have hk := h.finite
  have hnan : x.isNaN = false := decide_eq_false (by unfold infiniteMagnitude; omega)
  have hinfinite : x.isInfinite = false :=
    beq_eq_false_iff_ne.mpr (by unfold infiniteMagnitude; omega)
  simp only [ceilCount, h.isNegative, hnan, hinfinite, h.decode, Bool.or_self, Bool.false_eq_true,
    if_false]
  rcases Nat.lt_or_ge k depth with hbelow | habove
  case inl =>
    have hunit : (-((k : ℤ) - 1074)).toNat = depth - k := by omega
    have hscale : scale = 2 ^ (depth - k) * 2 ^ k := by
      rw [← Nat.pow_add, Nat.sub_add_cancel hbelow.le, scale]
    have hpos := Nat.two_pow_pos (depth - k)
    rw [if_neg (by omega), hunit, hscale, ← Nat.mul_assoc,
      Nat.mul_le_mul_right_iff (Nat.two_pow_pos k)]
    show (m + 2 ^ (depth - k) - 1) / 2 ^ (depth - k) ≤ c ↔ _
    rw [Nat.div_le_iff_le_mul_add_pred hpos, Nat.mul_comm c]
    omega
  case inr =>
    have hunit : ((k : ℤ) - 1074).toNat = k - depth := by omega
    have hpow : 2 ^ k = 2 ^ (k - depth) * scale := by
      rw [scale, ← Nat.pow_add, Nat.sub_add_cancel habove]
    rw [if_pos (by omega), hunit, hpow, ← Nat.mul_assoc, Nat.mul_le_mul_right_iff scale_pos]
    rfl

/-- Numbers that are not negative are in the order of their bits. -/
theorem Spells.mono {x y : Number} {m k m' k' : ℕ} (hx : Spells x m k) (hy : Spells y m' k')
    (hle : x.bits.toNat ≤ y.bits.toNat) : m * 2 ^ k ≤ m' * 2 ^ k' := by
  rw [hx.bits, hy.bits] at hle
  have hlt := hx.lt
  have hlt' := hy.lt
  rcases Nat.lt_trichotomy k k' with hlow | rfl | hhigh
  · have hfull : 2 ^ 52 ≤ m' := hy.normal.resolve_right (by omega)
    calc
      m * 2 ^ k ≤ 2 ^ 53 * 2 ^ k := Nat.mul_le_mul_right _ hlt.le
      _ = 2 ^ 52 * 2 ^ (k + 1) := by ring
      _ ≤ m' * 2 ^ k' := Nat.mul_le_mul hfull (Nat.pow_le_pow_right (by decide) hlow)
  · exact Nat.mul_le_mul_right _ (by omega)
  · have hfull : 2 ^ 52 ≤ m := hx.normal.resolve_right (by omega)
    omega

/-! ## Shares of a count -/

/-- The number is so many times the least one; neither zero is any. -/
def Amounts (x : Number) (a : ℕ) : Prop :=
  (x = zero.neg ∧ a = 0) ∨ ∃ m k, Spells x m k ∧ a = m * 2 ^ k

theorem le_iff {x y : Number} :
    x.le y = true ↔ x.isNaN = false ∧ y.isNaN = false ∧ x.valueKey ≤ y.valueKey := by
  simp only [le, Bool.and_eq_true, Bool.not_eq_true', decide_eq_true_eq, and_assoc]

theorem Spells.valueKey {x : Number} {m k : ℕ} (h : Spells x m k) :
    x.valueKey = (x.bits.toNat : ℤ) := by
  rw [Number.valueKey, h.isNegative, h.magnitude, h.bits]
  rfl

theorem le_trans {x y z : Number} (hxy : x.le y = true) (hyz : y.le z = true) :
    x.le z = true := by
  obtain ⟨hx, -, hkey⟩ := le_iff.mp hxy
  obtain ⟨-, hz, hkey'⟩ := le_iff.mp hyz
  exact le_iff.mpr ⟨hx, hz, hkey.trans hkey'⟩

section Shares

variable {x y : Number} {a b n : ℕ}

/-- A number from zero to one is so many times the least one. -/
theorem exists_amounts (hzero : zero.le x = true) (hone : x.le one = true) :
    ∃ a ≤ scale, Amounts x a := by
  obtain ⟨-, -, hlow⟩ := le_iff.mp hzero
  obtain ⟨-, -, hhigh⟩ := le_iff.mp hone
  have hkeys : zero.valueKey = 0 ∧ one.valueKey = 1023 * 2 ^ 52 := by decide
  have hword := x.bits.toNat_lt
  rw [hkeys.1, Number.valueKey] at hlow
  rw [hkeys.2, Number.valueKey] at hhigh
  have hsign : x.isNegative = true ↔ signWeight ≤ x.bits.toNat := decide_eq_true_iff
  have hmagnitude : x.magnitude = x.bits.toNat % signWeight := rfl
  unfold signWeight at hsign hmagnitude
  by_cases hnegative : x.isNegative = true
  case pos =>
    have hbits := hsign.mp hnegative
    rw [if_pos hnegative] at hlow
    refine ⟨0, Nat.zero_le _, .inl ⟨eq_of_bits ?_, rfl⟩⟩
    rw [bits_neg_zero, signWeight]
    omega
  case neg =>
    have hbits := mt hsign.mpr hnegative
    rw [if_neg hnegative] at hhigh
    obtain ⟨m, k, hspells⟩ : ∃ m k, Spells x m k := by
      by_cases hleast : x.bits.toNat < 2 ^ 52
      · exact ⟨x.bits.toNat, 0, by omega, by omega, .inr rfl, by omega⟩
      · exact ⟨2 ^ 52 + x.bits.toNat % 2 ^ 52, x.bits.toNat / 2 ^ 52 - 1, by omega, by omega,
          .inl (by omega), by omega⟩
    refine ⟨m * 2 ^ k, ?_, .inr ⟨m, k, hspells, rfl⟩⟩
    rw [← pow_mul_pow_one]
    refine hspells.mono spells_one ?_
    have hbits : one.bits.toNat = 1023 * 2 ^ 52 := by decide
    omega

theorem Amounts.mono (hx : Amounts x a) (hy : Amounts y b) (hle : x.le y = true) : a ≤ b := by
  obtain ⟨-, -, hkey⟩ := le_iff.mp hle
  rcases hx with ⟨rfl, rfl⟩ | ⟨m, k, hx, rfl⟩
  · exact Nat.zero_le b
  rcases hy with ⟨rfl, rfl⟩ | ⟨m', k', hy, rfl⟩
  · have hzero : zero.neg.valueKey = 0 := by decide
    have hbits := hx.bits
    rw [hx.valueKey, hzero] at hkey
    obtain rfl : m = 0 := by omega
    rw [Nat.zero_mul]
  · rw [hx.valueKey, hy.valueKey] at hkey
    exact hx.mono hy (by omega)

theorem ceilCount_of_isNegative (h : x.isNegative = true) : x.ceilCount = 0 := by
  simp only [ceilCount, h, Bool.true_or, if_true]

/-- A product with a zero is a zero. -/
theorem ceilCount_mul_of_unpack_zero {sign : Sign} {m k : ℕ}
    (hx : x.toFloat.toModel.unpack = .zero sign) (hy : Spells y m k) (hm : m ≠ 0) :
    (x.mul y).ceilCount = 0 := by
  have hmul : x.mul y = ofUnpacked (UnpackedFloat.mul Format.binary64 x.toFloat.toModel.unpack
    y.toFloat.toModel.unpack) := rfl
  rw [hmul, hx, hy.unpack_toFloat, multiple, dif_neg hm]
  cases sign with
  | negative =>
    have hnegative : (ofUnpacked (.zero .negative)).isNegative = true := by decide
    exact ceilCount_of_isNegative hnegative
  | positive =>
    have hzero : Spells (ofUnpacked (.zero .positive)) 0 0 :=
      ⟨by decide, by decide, .inr rfl, by decide⟩
    exact Nat.le_zero.mp (hzero.ceilCount_le_iff.mpr (by rw [Nat.zero_mul]; exact Nat.zero_le _))

theorem Amounts.eq_zero_or (hx : Amounts x a) :
    (a = 0 ∧ ∃ sign, x.toFloat.toModel.unpack = .zero sign) ∨
      ∃ m k, m ≠ 0 ∧ Spells x m k ∧ a = m * 2 ^ k := by
  rcases hx with ⟨rfl, rfl⟩ | ⟨m, k, hx, rfl⟩
  · exact .inl ⟨rfl, .negative, rfl⟩
  · by_cases hm : m = 0
    · subst hm
      exact .inl ⟨Nat.zero_mul _, .positive, hx.unpack_toFloat⟩
    · exact .inr ⟨m, k, hm, hx, rfl⟩

/-- **What share of a count a number is, rounded up to a count**, comes from the rounded product. -/
theorem Amounts.exists_rounds (hx : Amounts x a) (hle : a ≤ scale) (hn : n ≠ 0)
    (hlt : n < 2 ^ 53) : ∃ w, Rounds (a * (n * scale)) w ∧
      ∀ c, (x.mul (ofNat n)).ceilCount ≤ c ↔ w ≤ c * scale * scale := by
  obtain ⟨m', k', hfull, hcount, hy⟩ := exists_spells_ofNat hn hlt
  rcases hx.eq_zero_or with ⟨rfl, sign, hzero⟩ | ⟨m, k, hm, hspells, rfl⟩
  case inl =>
    have hceil := ceilCount_mul_of_unpack_zero hzero hy (by omega)
    refine ⟨0, ⟨0, (Nat.zero_mul _).symm, ?_⟩, fun c => ?_⟩
    · simpa using nearest_mul (unit_pos (0 * (n * scale))) 0
    · rw [hceil]
      exact iff_of_true (Nat.zero_le _) (Nat.zero_le _)
  case inr =>
    have hlog : (m * 2 ^ k * (m' * 2 ^ k')).log2 < 3000 := by
      have hmono := log2_mono (Nat.mul_le_mul_right (n * scale) hle)
      have hbound := (Nat.log2_lt hn).mpr hlt
      rw [hcount]
      rw [Nat.mul_comm scale, log2_mul_square hn] at hmono
      omega
    obtain ⟨r, l, hrounds, hproduct⟩ := hspells.exists_mul hy hm hfull hlog
    rw [hcount] at hrounds
    refine ⟨_, hrounds, fun c => ?_⟩
    rw [hproduct.ceilCount_le_iff, Nat.mul_le_mul_right_iff scale_pos]

/-- **The share of a count is monotone.** -/
theorem ceilCount_mul_mono (hx : zero.le x = true) (hle : x.le y = true) (hy : y.le one = true)
    (hn : n ≠ 0) (hlt : n < 2 ^ 53) :
    (x.mul (ofNat n)).ceilCount ≤ (y.mul (ofNat n)).ceilCount := by
  obtain ⟨a, ha, hxa⟩ := exists_amounts hx (le_trans hle hy)
  obtain ⟨b, hb, hyb⟩ := exists_amounts (le_trans hx hle) hy
  obtain ⟨w, hw, hxw⟩ := hxa.exists_rounds ha hn hlt
  obtain ⟨w', hw', hyw⟩ := hyb.exists_rounds hb hn hlt
  rw [hxw]
  have hmono := hw.mono hw' (Nat.mul_le_mul_right _ (hxa.mono hyb hle))
  exact hmono.trans ((hyw _).mp le_rfl)

/-- **Of a count, zero is none.** -/
theorem ceilCount_zero_mul (hx : x.same zero = true) (hn : n ≠ 0) (hlt : n < 2 ^ 53) :
    (x.mul (ofNat n)).ceilCount = 0 := by
  obtain ⟨m, k, hfull, -, hy⟩ := exists_spells_ofNat hn hlt
  have hzero : ∃ sign, x.toFloat.toModel.unpack = .zero sign := by
    rcases eq_or_zeros_of_same hx with rfl | ⟨rfl, hzero⟩ | ⟨rfl, -⟩
    · exact ⟨.positive, rfl⟩
    · exact absurd hzero (by decide)
    · exact ⟨.negative, rfl⟩
  obtain ⟨sign, hunpack⟩ := hzero
  exact ceilCount_mul_of_unpack_zero hunpack hy (by omega)

/-- **Of a count, one is all.** -/
theorem ceilCount_one_mul (hn : n ≠ 0) (hlt : n < 2 ^ 53) : (one.mul (ofNat n)).ceilCount = n := by
  have hone : Amounts one scale := .inr ⟨_, _, spells_one, pow_mul_pow_one.symm⟩
  obtain ⟨w, hw, hceil⟩ := hone.exists_rounds le_rfl hn hlt
  rw [Nat.mul_comm scale] at hw
  obtain rfl := hw.eq_of_dvd (unit_dvd hn hlt)
  simp only [Nat.mul_le_mul_right_iff scale_pos] at hceil
  exact Nat.le_antisymm ((hceil n).mpr le_rfl) ((hceil _).mp le_rfl)

end Shares

end MetricBundle.Number
