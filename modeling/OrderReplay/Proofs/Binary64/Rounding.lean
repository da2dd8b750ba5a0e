import OrderReplay.Proofs.Binary64.Shortest

/-! Decimals of few digits and small exponents, read as magnitudes. Their digits and their power
of ten are magnitudes themselves, so there is one rounding, and the decimal lies within the
interval of reals that round to the magnitude read. -/
namespace OrderReplay.Binary64

theorem roundDiv_near (num : Nat) {den : Nat} (positive : 0 < den) :
    2 * num ≤ (2 * roundDiv num den + 1) * den ∧ 2 * roundDiv num den * den ≤ 2 * num + den ∧
    (roundDiv num den % 2 = 1 →
      2 * num < (2 * roundDiv num den + 1) * den ∧ 2 * roundDiv num den * den < 2 * num + den) := by
  have split : num / den * den + num % den = num := Nat.div_add_mod' num den
  have rest : num % den < den := Nat.mod_lt _ positive
  unfold roundDiv
  simp only
  generalize num % den = r at split rest
  generalize num / den = q at split
  have once : (2 * q + 1) * den = 2 * (q * den) + den := by ring
  have twice : 2 * q * den = 2 * (q * den) := by ring
  have next : (2 * (q + 1) + 1) * den = 2 * (q * den) + 3 * den := by ring
  have next' : 2 * (q + 1) * den = 2 * (q * den) + 2 * den := by ring
  split
  next => rw [once, twice]; omega
  next => rw [next, next']; omega

theorem roundDiv_mul (n : Nat) {den : Nat} (positive : 0 < den) : roundDiv (n * den) den = n := by
  have none : 2 * (n * den % den) < den := by
    rw [Nat.mul_mod_left]
    exact positive
  unfold roundDiv
  rw [if_pos (.inl none), Nat.mul_div_cancel _ positive]

theorem gap_pos (units : Nat) : 0 < gap units := Nat.two_pow_pos _

theorem lt_gap {units : Nat} (large : 2 ^ 52 ≤ units) : units < 2 ^ 53 * gap units := by
  have positive : units ≠ 0 := by omega
  have places : 52 ≤ Nat.log2 units := (Nat.le_log2 positive).2 large
  have sum : 53 + spacing units = Nat.log2 units + 1 := by
    unfold spacing
    omega
  rw [gap, ← Nat.pow_add, sum]
  exact Nat.lt_log2_self

/-- How a mantissa of 53 bits, shifted, is spaced from the next. -/
theorem spacing_shifted {mantissa : Nat} (shift : Nat) (least : 2 ^ 52 ≤ mantissa)
    (most : mantissa < 2 ^ 53) :
    spacing (mantissa * 2 ^ shift) = shift := by
  have some : mantissa * 2 ^ shift ≠ 0 := Nat.mul_ne_zero (by omega) (Nat.two_pow_pos _).ne'
  have log : Nat.log2 (mantissa * 2 ^ shift) = 52 + shift := by
    rw [Nat.log2_eq_iff some, Nat.pow_add, Nat.add_right_comm, Nat.pow_add]
    exact ⟨Nat.mul_le_mul_right _ least, Nat.mul_lt_mul_of_pos_right most (Nat.two_pow_pos _)⟩
  unfold spacing
  omega

theorem interval_closed (units : Nat) :
    (interval units).closed = decide (units / gap units % 2 = 0) := rfl

/-- A quotient that is rounded to 53 bits: the mantissa and its distance to the quotient. -/
theorem nearest?_eq (num den : Nat) :
    nearest? num den =
      if roundDiv num (den * gap (num / den)) * gap (num / den) < limit then
        some (roundDiv num (den * gap (num / den)) * gap (num / den))
      else none := rfl

theorem mantissa_bounds {num den : Nat} (positive : 0 < den) (large : 2 ^ 52 ≤ num / den) :
    2 ^ 52 ≤ roundDiv num (den * gap (num / den)) ∧
      roundDiv num (den * gap (num / den)) ≤ 2 ^ 53 := by
  have low : 2 ^ 52 * gap (num / den) * den ≤ num :=
    (Nat.mul_le_mul_right _ (gap_fine large)).trans (Nat.div_mul_le_self _ _)
  have high : num < 2 ^ 53 * gap (num / den) * den :=
    (Nat.div_lt_iff_lt_mul positive).1 (lt_gap large)
  have grain : 0 < den * gap (num / den) := Nat.mul_pos positive (gap_pos _)
  obtain ⟨above, below, _⟩ := roundDiv_near num grain
  generalize roundDiv num (den * gap (num / den)) = r at *
  rw [Nat.mul_assoc, Nat.mul_comm (gap _)] at low high
  generalize den * gap (num / den) = unit at *
  constructor
  · have twice : 2 ^ 53 * unit ≤ (2 * r + 1) * unit := by omega
    have least := Nat.le_of_mul_le_mul_right twice grain
    omega
  · have twice : 2 * r * unit < (2 ^ 54 + 1) * unit := by omega
    have most := Nat.lt_of_mul_lt_mul_right twice
    omega

/-- The interval of a mantissa of 53 bits, shifted; one that was rounded up to the next power of
two belongs to the next shift. -/
theorem interval_shifted {mantissa : Nat} (shift : Nat) (least : 2 ^ 52 ≤ mantissa)
    (most : mantissa ≤ 2 ^ 53) :
    (interval (mantissa * 2 ^ shift)).least + 2 ^ shift ≤ 4 * (mantissa * 2 ^ shift) ∧
    (mantissa ≠ 2 ^ 52 →
      (interval (mantissa * 2 ^ shift)).least + 2 * 2 ^ shift = 4 * (mantissa * 2 ^ shift)) ∧
    4 * (mantissa * 2 ^ shift) + 2 * 2 ^ shift ≤ (interval (mantissa * 2 ^ shift)).greatest ∧
    (mantissa % 2 = 0 → (interval (mantissa * 2 ^ shift)).closed = true) := by
  have some : 0 < 2 ^ shift := Nat.two_pow_pos shift
  have fits : 2 ^ 52 * 2 ^ shift ≤ mantissa * 2 ^ shift := Nat.mul_le_mul_right _ least
  rw [least_eq, greatest_eq, interval_closed]
  by_cases full : mantissa = 2 ^ 53
  · have next : mantissa * 2 ^ shift = 2 ^ 52 * 2 ^ (shift + 1) := by
      rw [full]
      ring
    have spacing := spacing_shifted (shift + 1) (le_refl (2 ^ 52)) (by decide)
    have quotient : mantissa * 2 ^ shift / 2 ^ (shift + 1) = 2 ^ 52 := by
      rw [next, Nat.mul_div_cancel _ (Nat.two_pow_pos _)]
    rw [← next] at spacing
    rw [gap, spacing, quotient, if_pos ⟨rfl, Nat.succ_ne_zero shift⟩, Nat.pow_succ]
    refine ⟨?_, ?_, ?_, fun _ => rfl⟩ <;> omega
  · have spacing := spacing_shifted shift least (by omega)
    rw [gap, spacing, Nat.mul_div_cancel _ some]
    refine ⟨?_, ?_, le_rfl, ?_⟩
    · split <;> omega
    · intro other
      rw [if_neg (fun is => other is.1)]
      omega
    · intro even
      simpa using even

theorem quotient_near {num den r unit : Nat} (positive : 0 < den) (large : 2 ^ 52 ≤ num / den)
    (rounded : roundDiv num (den * unit) = r) (spaced : gap (num / den) = unit) :
    (2 ^ 52 * unit : ℚ) ≤ num / den ∧ (2 * (num / den) : ℚ) ≤ (2 * r + 1) * unit ∧
    (2 * r * unit : ℚ) ≤ 2 * (num / den) + unit ∧
    (r % 2 = 1 → (2 * (num / den) : ℚ) < (2 * r + 1) * unit ∧
      (2 * r * unit : ℚ) < 2 * (num / den) + unit) := by
  have some : 0 < unit := spaced ▸ gap_pos _
  obtain ⟨above, below, odd⟩ := roundDiv_near num (Nat.mul_pos positive some)
  have whole : 2 ^ 52 * unit * den ≤ num := by
    rw [← spaced]
    exact (Nat.mul_le_mul_right _ (gap_fine large)).trans (Nat.div_mul_le_self _ _)
  rw [rounded] at above below odd
  have den_pos : (0 : ℚ) < den := by exact_mod_cast positive
  have whole : (2 ^ 52 * unit * den : ℚ) ≤ num := by exact_mod_cast whole
  have above : (2 * num : ℚ) ≤ (2 * r + 1) * (den * unit) := by exact_mod_cast above
  have below : (2 * r * (den * unit) : ℚ) ≤ 2 * num + den * unit := by exact_mod_cast below
  obtain ⟨x, scale⟩ : ∃ x : ℚ, (num / den : ℚ) = x := ⟨_, rfl⟩
  rw [scale]
  rw [div_eq_iff den_pos.ne'] at scale
  rw [scale] at whole above below
  refine ⟨?_, ?_, ?_, fun is => ?_⟩
  · exact le_of_mul_le_mul_right whole den_pos
  · refine le_of_mul_le_mul_right ?_ den_pos
    linarith
  · refine le_of_mul_le_mul_right ?_ den_pos
    linarith
  · obtain ⟨above, below⟩ := odd is
    have above : (2 * num : ℚ) < (2 * r + 1) * (den * unit) := by exact_mod_cast above
    have below : (2 * r * (den * unit) : ℚ) < 2 * num + den * unit := by exact_mod_cast below
    rw [scale] at above below
    constructor
    · refine lt_of_mul_lt_mul_right ?_ den_pos.le
      linarith
    · refine lt_of_mul_lt_mul_right ?_ den_pos.le
      linarith

/-- A quotient lies within the interval of the magnitude that it is rounded to. -/
theorem has_of_nearest? {num den units : Nat} (positive : 0 < den) (large : 2 ^ 52 ≤ num / den)
    (h : nearest? num den = some units) :
    2 ^ 52 ≤ units ∧ (interval units).Has (4 * (num / den : ℚ)) := by
  obtain ⟨least, most⟩ := mantissa_bounds positive large
  have ends := interval_shifted (spacing (num / den)) least most
  have near := quotient_near positive large rfl rfl
  rw [← gap] at ends
  rw [nearest?_eq] at h
  split at h
  next fits =>
    obtain rfl := Option.some.inj h
    have some := gap_pos (num / den)
    generalize roundDiv num (den * gap (num / den)) = r at *
    generalize gap (num / den) = unit at *
    obtain ⟨least', half, most', even⟩ := ends
    obtain ⟨whole, above, below, odd⟩ := near
    have unit_pos : (0 : ℚ) < unit := by exact_mod_cast some
    have least' : ((interval (r * unit)).least + unit : ℚ) ≤ 4 * (r * unit) := by
      exact_mod_cast least'
    have most' : (4 * (r * unit) + 2 * unit : ℚ) ≤ (interval (r * unit)).greatest := by
      exact_mod_cast most'
    have half (edge : r ≠ 2 ^ 52) :
        ((interval (r * unit)).least + 2 * unit : ℚ) = 4 * (r * unit) := by
      exact_mod_cast half edge
    refine ⟨least.trans (Nat.le_mul_of_pos_right r some), ⟨?_, by linarith, fun strict => ?_⟩⟩
    · by_cases edge : r = 2 ^ 52
      · have same : (r : ℚ) = 2 ^ 52 := by exact_mod_cast edge
        rw [same] at least'
        linarith
      · have ends := half edge
        linarith
    · have uneven : r % 2 = 1 := by
        rcases Nat.mod_two_eq_zero_or_one r with zero | one
        · rw [even zero] at strict
          cases strict
        · exact one
      have ends := half (fun edge => by rw [edge] at uneven; exact absurd uneven (by decide))
      obtain ⟨above, below⟩ := odd uneven
      exact ⟨by linarith, by linarith⟩
  next => cases h

theorem nearest?_of_representable {units : Nat} (h : Representable units) :
    nearest? units 1 = some units := by
  obtain ⟨fits, mantissa, shift, small, same⟩ := h
  rw [Nat.pow_eq] at small same
  have spaced : spacing units ≤ shift := by
    by_cases zero : units = 0
    · rw [zero]
      exact Nat.zero_le _
    · have log : Nat.log2 units < 53 + shift := by
        rw [Nat.log2_lt zero, same, Nat.pow_add]
        exact Nat.mul_lt_mul_of_pos_right small (Nat.two_pow_pos shift)
      unfold spacing
      omega
  obtain ⟨factor, whole⟩ : gap units ∣ units := by
    have divides : gap units ∣ 2 ^ shift := Nat.pow_dvd_pow 2 spaced
    rw [same] at divides ⊢
    exact divides.trans (Nat.dvd_mul_left _ _)
  have exactly : roundDiv units (gap units) * gap units = units := by
    have rounded := roundDiv_mul factor (gap_pos units)
    rw [Nat.mul_comm, ← whole] at rounded
    rw [rounded, Nat.mul_comm, ← whole]
  rw [nearest?_eq, Nat.div_one, Nat.one_mul, exactly, if_pos fits]

theorem lt_limit {units places : Nat} (small : units < 2 ^ places) (low : places ≤ 2098) :
    units < limit := by
  unfold limit
  generalize 2098 = most at low ⊢
  exact small.trans_le (Nat.pow_le_pow_right Nat.two_pos low)

/-- One is a power of two; its exponent is kept apart, as the power is never to be computed. -/
theorem exists_one_eq : ∃ places, places = 1074 ∧ one = 2 ^ places := by
  refine ⟨1074, rfl, ?_⟩
  unfold one
  generalize 1074 = places
  rfl

/-- A number of 53 bits, shifted by little, is a magnitude. -/
theorem ofNat?_shifted {mantissa shift : Nat} (small : mantissa < 2 ^ 53) (low : shift ≤ 900) :
    ofNat? (mantissa * 2 ^ shift) = some (mantissa * 2 ^ shift * one) := by
  obtain ⟨places, count, power⟩ := exists_one_eq
  have shifted : mantissa * 2 ^ shift * one = mantissa * Nat.pow 2 (shift + places) := by
    rw [power, Nat.mul_assoc, ← Nat.pow_add]
    rfl
  have fits : mantissa * 2 ^ shift * one < 2 ^ (53 + (shift + places)) := by
    rw [shifted, Nat.pow_add]
    exact Nat.mul_lt_mul_of_pos_right small (Nat.two_pow_pos _)
  exact nearest?_of_representable
    ⟨lt_limit fits (by omega), mantissa, shift + places, small, shifted⟩

theorem ofNat?_small {n : Nat} (small : n < 2 ^ 53) : ofNat? n = some (n * one) := by
  have whole := ofNat?_shifted small (Nat.zero_le 900)
  rwa [Nat.pow_zero, Nat.mul_one] at whole

/-- Powers of ten up to the twenty-second have a mantissa of 53 bits. -/
theorem powerOfTen_small {exponent : Nat} (small : exponent ≤ 22) :
    powerOfTen exponent = 10 ^ exponent * one := by
  have odd : 5 ^ exponent < 2 ^ 53 :=
    (Nat.pow_le_pow_right (by decide) small).trans_lt (by decide)
  have whole := ofNat?_shifted odd (show exponent ≤ 900 by omega)
  rw [← Nat.mul_pow] at whole
  unfold powerOfTen
  rw [Nat.pow_eq, whole]
  rfl

theorem lt_one {n : Nat} (small : n < 2 ^ 200) : n < one := by
  obtain ⟨places, count, power⟩ := exists_one_eq
  rw [power]
  exact small.trans_le (Nat.pow_le_pow_right Nat.two_pos (by omega))

/-- A quotient that is not too large has a nearest magnitude. -/
theorem exists_nearest? {num den : Nat} (positive : 0 < den) (large : 2 ^ 52 ≤ num / den)
    (fits : 2 * (num / den) < limit) : ∃ units, nearest? num den = some units := by
  obtain ⟨_, most⟩ := mantissa_bounds positive large
  have fine := gap_fine large
  have grown := Nat.mul_le_mul_right (gap (num / den)) most
  rw [nearest?_eq, if_pos (by omega)]
  exact ⟨_, rfl⟩

/-- Digits times a power of ten: the product is rounded once. -/
theorem has_of_product {units digits up : Nat} (positive : 0 < digits) (small : digits < 2 ^ 53)
    (within : up ≤ 22) (h : ofDecimal? digits (.ofNat up) = some units) :
    2 ^ 52 ≤ units ∧ (interval units).Has ((⟨digits, .ofNat up⟩ : Decimal).value * quarters) := by
  have fits : up ≤ 308 := by omega
  have h : nearest? (digits * one * (10 ^ up * one)) one = some units := by
    rwa [ofDecimal?, ofNat?_small small, Option.bind_some, scale?, if_pos fits,
      powerOfTen_small within] at h
  have ten : 0 < 10 ^ up := Nat.pow_pos (by decide)
  have large : 2 ^ 52 ≤ digits * one * (10 ^ up * one) / one := by
    have first : 2 ^ 52 ≤ one := (lt_one (by decide)).le
    have grown : one ≤ digits * one * 10 ^ up :=
      (Nat.le_mul_of_pos_left one positive).trans (Nat.le_mul_of_pos_right _ ten)
    rw [← Nat.mul_assoc, Nat.mul_div_cancel _ one_pos]
    exact first.trans grown
  obtain ⟨least, has⟩ := has_of_nearest? one_pos large h
  have value : (4 * ((digits * one * (10 ^ up * one) : Nat) / one : ℚ)) =
      (⟨digits, .ofNat up⟩ : Decimal).value * quarters := by
    have unit : (one : ℚ) ≠ 0 := by exact_mod_cast one_pos.ne'
    rw [Decimal.value, quarters_eq, Int.ofNat_eq_natCast, zpow_natCast]
    push_cast
    field_simp
  rw [value] at has
  exact ⟨least, has⟩

/-- Digits divided by a power of ten: the quotient is rounded once, and is never too large. -/
theorem has_of_quotient {units digits down : Nat} (positive : 0 < digits) (small : digits < 2 ^ 53)
    (within : down + 1 ≤ 22) (h : ofDecimal? digits (.negSucc down) = some units) :
    2 ^ 52 ≤ units ∧
      (interval units).Has ((⟨digits, .negSucc down⟩ : Decimal).value * quarters) := by
  have few : down + 1 ≤ 308 := by omega
  have h : (nearest? (digits * one * one) (10 ^ (down + 1) * one)).getD limit = units := by
    rwa [ofDecimal?, ofNat?_small small, Option.bind_some, scale?, scaleDown, if_pos few,
      powerOfTen_small within, Option.some.injEq] at h
  have ten : 0 < 10 ^ (down + 1) := Nat.pow_pos (by decide)
  have den : 0 < 10 ^ (down + 1) * one := Nat.mul_pos ten one_pos
  have floor : digits * one * one / (10 ^ (down + 1) * one) = digits * one / 10 ^ (down + 1) :=
    Nat.mul_div_mul_right _ _ one_pos
  have large : 2 ^ 52 ≤ digits * one * one / (10 ^ (down + 1) * one) := by
    have powers : 2 ^ 52 * 10 ^ (down + 1) ≤ 2 ^ 52 * 10 ^ 22 :=
      Nat.mul_le_mul_left _ (Nat.pow_le_pow_right (by decide) within)
    have first : 2 ^ 52 * 10 ^ 22 ≤ one := (lt_one (by decide)).le
    have grown : one ≤ digits * one := Nat.le_mul_of_pos_left one positive
    rw [floor, Nat.le_div_iff_mul_le ten]
    exact (powers.trans first).trans grown
  have fits : 2 * (digits * one * one / (10 ^ (down + 1) * one)) < limit := by
    obtain ⟨places, count, power⟩ := exists_one_eq
    have most : digits * one / 10 ^ (down + 1) ≤ digits * one := Nat.div_le_self _ _
    have bound : digits * one < 2 ^ (53 + places) := by
      rw [power, Nat.pow_add]
      exact Nat.mul_lt_mul_of_pos_right small (Nat.two_pow_pos _)
    have twice : 2 ^ (53 + places) * 2 = 2 ^ (53 + places + 1) := (Nat.pow_succ ..).symm
    rw [floor]
    exact lt_limit (by omega) (show 53 + places + 1 ≤ 2098 by omega)
  obtain ⟨nearest, found⟩ := exists_nearest? den large fits
  rw [found, Option.getD_some] at h
  subst h
  obtain ⟨least, has⟩ := has_of_nearest? den large found
  have value : (4 * ((digits * one * one : Nat) / (10 ^ (down + 1) * one : Nat) : ℚ)) =
      (⟨digits, .negSucc down⟩ : Decimal).value * quarters := by
    have unit : (one : ℚ) ≠ 0 := by exact_mod_cast one_pos.ne'
    rw [Decimal.value, quarters_eq, zpow_negSucc]
    push_cast
    field_simp
  rw [value] at has
  exact ⟨least, has⟩

/-- Fifteen digits and an exponent of at most 22 either way come back as they were. -/
theorem shortest_of_ofDecimal? {units digits : Nat} {exponent : Int} (positive : 0 < digits)
    (small : digits < 10 ^ 15) (low : -22 ≤ exponent) (high : exponent ≤ 22)
    (h : ofDecimal? digits exponent = some units) :
    0 < units ∧ (shortest units).value = digits * 10 ^ exponent := by
  have bits : digits < 2 ^ 53 := small.trans (by decide)
  have read : 2 ^ 52 ≤ units ∧
      (interval units).Has ((⟨digits, exponent⟩ : Decimal).value * quarters) := by
    cases exponent with
    | ofNat up => exact has_of_product positive bits (Int.ofNat_le.1 high) h
    | negSucc down => exact has_of_quotient positive bits (by omega) h
  obtain ⟨least, has⟩ := read
  exact ⟨by omega, shortest_value least small has⟩

theorem nearest?_zero (den : Nat) : nearest? 0 den = some 0 := by
  have rounded (grain : Nat) : roundDiv 0 grain = 0 := by
    have either : 2 * (0 % grain) < grain ∨ 2 * (0 % grain) = grain ∧ 0 / grain % 2 = 0 := by
      rw [Nat.zero_mod, Nat.zero_div]
      omega
    unfold roundDiv
    rw [if_pos either, Nat.zero_div]
  have fits : 0 < limit := lt_limit Nat.one_pos (Nat.zero_le 2098)
  rw [nearest?_eq, rounded, Nat.zero_mul, if_pos fits]

theorem scaleDown_zero (exponent : Nat) : scaleDown 0 exponent = 0 := by
  rw [scaleDown]
  split
  · rw [div, Nat.zero_mul, nearest?_zero]
    rfl
  · rw [if_pos rfl]

theorem ofDecimal?_zero (exponent : Int) : ofDecimal? 0 exponent = some 0 := by
  have digits : ofNat? 0 = some 0 := by
    rw [ofNat?, Nat.zero_mul, nearest?_zero]
  rw [ofDecimal?, digits, Option.bind_some]
  cases exponent with
  | ofNat up =>
    rw [scale?, mul?, Nat.zero_mul, nearest?_zero, if_pos rfl, ite_self]
  | negSucc down => rw [scale?, scaleDown_zero]

end OrderReplay.Binary64
