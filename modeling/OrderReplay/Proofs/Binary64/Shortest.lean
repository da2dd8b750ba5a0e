import Mathlib.Algebra.Order.Field.Power
import Mathlib.Tactic.FieldSimp
import Mathlib.Tactic.Linarith
import Mathlib.Tactic.Ring
import OrderReplay.Binary64.Shortest

/-! The shortest decimal of a magnitude. Decimals of fifteen digits lie further apart than the
interval of reals that round to the magnitude is wide, so one of them within the interval is
the one that is found. -/
namespace OrderReplay.Binary64

variable {units : Nat}

def Decimal.value (d : Decimal) : ℚ := d.digits * 10 ^ d.exponent

theorem powerFraction_spec (exponent : Int) : ∃ num den, powerFraction exponent = (num, den) ∧
    0 < num ∧ 0 < den ∧ (10 : ℚ) ^ exponent = num / den := by
  have ten (n : Nat) : 0 < Nat.pow 10 n := Nat.pow_pos (by decide)
  cases exponent with
  | ofNat up => exact ⟨_, _, rfl, ten up, Nat.one_pos, by simp⟩
  | negSucc down => exact ⟨_, _, rfl, Nat.one_pos, ten _, by simp [zpow_negSucc]⟩

theorem one_pos : 0 < one := by
  unfold one
  generalize 1074 = places
  exact Nat.two_pow_pos places

theorem quarters_eq : (quarters : ℚ) = 4 * one := by
  unfold quarters
  push_cast
  rfl

theorem quarters_pos : (0 : ℚ) < quarters := by
  have positive : 0 < quarters := Nat.mul_pos (by decide) one_pos
  exact_mod_cast positive

/-- The reals of an interval, in quarters of a unit as its ends are. -/
structure Interval.Has (i : Interval) (x : ℚ) : Prop where
  least : (i.least : ℚ) ≤ x
  greatest : x ≤ i.greatest
  inner : i.closed = false → i.least < x ∧ x < i.greatest

theorem Interval.Has.between {i : Interval} {a b x : ℚ} (first : i.Has a) (last : i.Has b)
    (above : a ≤ x) (below : x ≤ b) : i.Has x where
  least := first.least.trans above
  greatest := below.trans last.greatest
  inner strict := ⟨(first.inner strict).1.trans_le above, below.trans_lt (last.inner strict).2⟩

theorem Interval.holds_iff (i : Interval) (d : Decimal) :
    i.holds d = true ↔ i.Has (d.value * quarters) := by
  obtain ⟨num, den, fraction, _, positive, power⟩ := powerFraction_spec d.exponent
  have den_pos : (0 : ℚ) < den := by exact_mod_cast positive
  have value : d.value * quarters = ((d.digits * num * quarters : Nat) : ℚ) / den := by
    rw [Decimal.value, power]
    push_cast
    ring
  have least : i.least * den ≤ d.digits * num * quarters ↔ (i.least : ℚ) ≤ d.value * quarters := by
    rw [value, le_div_iff₀ den_pos]
    exact_mod_cast Iff.rfl
  have greatest : d.digits * num * quarters ≤ i.greatest * den ↔
      d.value * quarters ≤ i.greatest := by
    rw [value, div_le_iff₀ den_pos]
    exact_mod_cast Iff.rfl
  have above : i.least * den < d.digits * num * quarters ↔ (i.least : ℚ) < d.value * quarters := by
    rw [value, lt_div_iff₀ den_pos]
    exact_mod_cast Iff.rfl
  have below : d.digits * num * quarters < i.greatest * den ↔
      d.value * quarters < i.greatest := by
    rw [value, div_lt_iff₀ den_pos]
    exact_mod_cast Iff.rfl
  unfold holds
  simp only [fraction]
  cases closed : i.closed with
  | true =>
    simp only [if_true, Bool.and_eq_true, decide_eq_true_eq, least, greatest]
    exact ⟨fun h => ⟨h.1, h.2, fun strict => by cases closed.symm.trans strict⟩,
      fun h => ⟨h.least, h.greatest⟩⟩
  | false =>
    simp only [Bool.false_eq_true, if_false, Bool.and_eq_true, decide_eq_true_eq, above, below]
    exact ⟨fun h => ⟨h.1.le, h.2.le, fun _ => h⟩, fun h => h.inner closed⟩

theorem Decimal.value_le {a b : Decimal} (same : a.exponent = b.exponent)
    (digits : a.digits ≤ b.digits) : a.value ≤ b.value := by
  have more : (a.digits : ℚ) ≤ b.digits := by exact_mod_cast digits
  rw [value, value, same]
  exact mul_le_mul_of_nonneg_right more (by positivity)

def gap (units : Nat) : Nat := 2 ^ spacing units

theorem gap_le (positive : 0 < units) : gap units ≤ units :=
  (Nat.pow_le_pow_right (by decide) (Nat.sub_le ..)).trans (Nat.log2_self_le positive.ne')

theorem gap_fine (large : 2 ^ 52 ≤ units) : 2 ^ 52 * gap units ≤ units := by
  have positive : units ≠ 0 := by omega
  have places : 52 ≤ Nat.log2 units := (Nat.le_log2 positive).2 large
  have sum : 52 + spacing units = Nat.log2 units := by
    unfold spacing
    omega
  rw [gap, ← Nat.pow_add, sum]
  exact Nat.log2_self_le positive

theorem greatest_eq (units : Nat) : (interval units).greatest = 4 * units + 2 * gap units := rfl

/-- The lower end is a quarter of the gap away where the gap changes, and elsewhere half of it. -/
theorem least_eq (units : Nat) : (interval units).least = 4 * units -
    if units / gap units = 2 ^ 52 ∧ spacing units ≠ 0 then gap units else 2 * gap units := rfl

theorem least_ge (units : Nat) : 4 * units - 2 * gap units ≤ (interval units).least := by
  rw [least_eq]
  split <;> omega

theorem least_ge_cast (units : Nat) :
    (4 * units - 2 * gap units : ℚ) ≤ (interval units).least := by
  have fits := least_ge units
  rw [tsub_le_iff_right] at fits ⊢
  exact_mod_cast fits

theorem has_self (positive : 0 < units) : (interval units).Has (4 * units) := by
  have fits := gap_le positive
  have some : 0 < gap units := Nat.pow_pos (by decide)
  have below : (interval units).least < 4 * units := by
    rw [least_eq]
    split <;> omega
  have above : 4 * units < (interval units).greatest := by
    rw [greatest_eq]
    omega
  have below : ((interval units).least : ℚ) < 4 * units := by exact_mod_cast below
  have above : (4 * units : ℚ) < (interval units).greatest := by exact_mod_cast above
  exact ⟨below.le, above.le, fun _ => ⟨below, above⟩⟩

theorem toDigits_bounds {n : Nat} (positive : 0 < n) :
    ∃ k, (Nat.toDigits 10 n).length = k + 1 ∧ 10 ^ k ≤ n ∧ n < 10 ^ (k + 1) := by
  obtain ⟨k, length⟩ : ∃ k, (Nat.toDigits 10 n).length = k + 1 :=
    Nat.exists_eq_add_one.2 Nat.length_toDigits_pos
  refine ⟨k, length, ?_, ?_⟩
  · by_cases single : k = 0
    · rw [single]
      exact positive
    · have fewer : ¬ (Nat.toDigits 10 n).length ≤ k := by omega
      rw [Nat.length_toDigits_le_iff (by decide) (Nat.pos_of_ne_zero single)] at fewer
      exact Nat.le_of_not_lt fewer
  · exact (Nat.length_toDigits_le_iff (by decide) (Nat.succ_pos k)).1 length.le

/-- The value is at least the power of ten at its first place, and less than the next. -/
theorem firstPlace_spec (positive : 0 < units) :
    10 ^ firstPlace units * (one : ℚ) ≤ units ∧
      units < 10 ^ (firstPlace units + 1) * (one : ℚ) := by
  unfold firstPlace
  split
  next whole =>
    obtain ⟨k, length, above, below⟩ := toDigits_bounds (Nat.div_pos whole one_pos)
    rw [Nat.le_div_iff_mul_le one_pos] at above
    rw [Nat.div_lt_iff_lt_mul one_pos] at below
    rw [length, Nat.add_sub_cancel, ← Nat.cast_succ, zpow_natCast, zpow_natCast]
    exact ⟨by exact_mod_cast above, by exact_mod_cast below⟩
  next part =>
    have quotient : (one + units - 1) / units - 1 = (one - 1) / units := by
      have sum : one + units - 1 = one - 1 + units := by
        have := one_pos
        omega
      rw [sum, Nat.add_div_right _ positive, Nat.succ_sub_one]
    have some : 0 < (one - 1) / units := Nat.div_pos (by omega) positive
    obtain ⟨k, length, above, below⟩ := toDigits_bounds some
    have least : 10 ^ k * units < one := by
      have := one_pos
      have fits := (Nat.mul_le_mul_right units above).trans (Nat.div_mul_le_self _ _)
      omega
    have greatest : one ≤ 10 ^ (k + 1) * units := by
      have next := Nat.lt_div_mul_add (a := one - 1) positive
      have grows := Nat.mul_le_mul_right units (Nat.succ_le_of_lt below)
      rw [Nat.succ_mul] at grows
      omega
    have least : (10 ^ k * units : ℚ) < one := by exact_mod_cast least
    have greatest : (one : ℚ) ≤ 10 ^ (k + 1) * units := by exact_mod_cast greatest
    have power : Int.negOfNat (k + 1) = -((k + 1 : Nat) : Int) := Int.negOfNat_eq
    have next : -((k + 1 : Nat) : Int) + 1 = -(k : Int) := by omega
    simp only [quotient, length, power, next]
    rw [zpow_neg, zpow_neg, zpow_natCast, zpow_natCast, inv_mul_le_iff₀ (by positivity),
      lt_inv_mul_iff₀ (by positivity)]
    exact ⟨greatest, least⟩

def gridExponent (units count : Nat) : Int := firstPlace units - (count - 1)

/-- On either side of the magnitude lies a decimal of the grid; one is found if and only if one
of these two reads back. -/
theorem onGrid?_spec (units count : Nat) : ∃ lower upper : Decimal,
    lower.exponent = gridExponent units count ∧ upper = ⟨lower.digits + 1, lower.exponent⟩ ∧
    lower.value * one ≤ units ∧ units < upper.value * one ∧
    (∀ d, onGrid? units count = some d → (d = lower ∨ d = upper) ∧
      (interval units).holds d = true) ∧
    (onGrid? units count = none →
      (interval units).holds lower = false ∧ (interval units).holds upper = false) := by
  obtain ⟨num, den, fraction, some, positive, power⟩ :=
    powerFraction_spec (gridExponent units count)
  have grain : 0 < num * one := Nat.mul_pos some one_pos
  have den_pos : (0 : ℚ) < den := by exact_mod_cast positive
  have scale (n : Nat) : n * 10 ^ gridExponent units count * (one : ℚ) =
      ((n * (num * one) : Nat) : ℚ) / den := by
    rw [power]
    push_cast
    ring
  have below : units * den / (num * one) * (num * one) ≤ units * den := Nat.div_mul_le_self _ _
  have above : units * den < (units * den / (num * one) + 1) * (num * one) := by
    rw [Nat.add_one_mul]
    exact Nat.lt_div_mul_add grain
  generalize quotient : units * den / (num * one) = low at below above
  refine ⟨⟨low, gridExponent units count⟩, ⟨low + 1, gridExponent units count⟩, rfl, rfl,
    ?_, ?_, ?_⟩
  · rw [Decimal.value, scale, div_le_iff₀ den_pos]
    exact_mod_cast below
  · rw [Decimal.value, scale, lt_div_iff₀ den_pos]
    exact_mod_cast above
  · unfold onGrid?
    rw [← gridExponent]
    simp only [fraction, quotient]
    generalize units * den % (num * one) = rest
    generalize num * one = grain
    generalize (⟨low, gridExponent units count⟩ : Decimal) = lower
    generalize (⟨low + 1, gridExponent units count⟩ : Decimal) = upper
    cases first : (interval units).holds lower <;> cases second : (interval units).holds upper
    · exact ⟨fun d found => (nomatch found), fun _ => ⟨rfl, rfl⟩⟩
    · refine ⟨fun d found => ?_, fun found => (nomatch found)⟩
      cases found
      exact ⟨.inr rfl, second⟩
    · refine ⟨fun d found => ?_, fun found => (nomatch found)⟩
      cases found
      exact ⟨.inl rfl, first⟩
    · refine ⟨fun d found => ?_, fun found => (nomatch found)⟩
      simp only [Option.some.injEq] at found
      split at found
      · exact found ▸ ⟨.inl rfl, first⟩
      · exact found ▸ ⟨.inr rfl, second⟩

theorem trimZeros_value (d : Decimal) (fuel : Nat) :
    (d.trimZeros fuel).value = d.value ∧ (0 < d.digits → 0 < (d.trimZeros fuel).digits) := by
  induction fuel generalizing d with
  | zero => exact ⟨rfl, id⟩
  | succ fuel ih =>
    unfold Decimal.trimZeros
    split
    next trailing =>
      have tenth : d.digits / 10 * 10 = d.digits := by omega
      obtain ⟨same, positive⟩ := ih ⟨d.digits / 10, d.exponent + 1⟩
      refine ⟨?_, fun _ => positive (by simp only; omega)⟩
      rw [same, Decimal.value, Decimal.value, zpow_add_one₀ (by norm_num), ← tenth]
      push_cast
      rw [tenth]
      ring
    next => exact ⟨rfl, id⟩

/-- A decimal that reads back is not zero. -/
theorem digits_pos {d : Decimal} (positive : 0 < units) (h : (interval units).holds d = true) :
    0 < d.digits := by
  have has := (Interval.holds_iff _ d).1 h
  have least := least_ge units
  have fits := gap_le positive
  have some : 0 < (interval units).least := by omega
  have some : (0 : ℚ) < (interval units).least := by exact_mod_cast some
  refine Nat.pos_of_ne_zero fun zero => ?_
  have none : d.value * quarters = 0 := by
    rw [Decimal.value, zero, Nat.cast_zero, zero_mul, zero_mul]
  have above := has.least
  rw [none] at above
  exact absurd some (not_lt.2 above)

/-- A decimal within the interval leaves one beside the magnitude on its grid within it. -/
theorem exists_onGrid? {count : Nat} {d : Decimal} (positive : 0 < units)
    (grid : d.exponent = gridExponent units count) (h : (interval units).Has (d.value * quarters)) :
    ∃ found, onGrid? units count = some found := by
  obtain ⟨lower, upper, exponent, rfl, below, above, _, none⟩ := onGrid?_spec units count
  have self := has_self positive
  have unit := quarters_pos
  have same : d.exponent = lower.exponent := grid.trans exponent.symm
  cases search : onGrid? units count with
  | some found => exact ⟨found, rfl⟩
  | none =>
    obtain ⟨first, second⟩ := none search
    by_cases short : d.digits ≤ lower.digits
    · have above : d.value * quarters ≤ lower.value * quarters :=
        mul_le_mul_of_nonneg_right (Decimal.value_le same short) unit.le
      have below : lower.value * quarters ≤ 4 * units := by
        rw [quarters_eq]
        linarith
      have has := h.between self above below
      rw [← Interval.holds_iff, first] at has
      cases has
    · have next : (⟨lower.digits + 1, lower.exponent⟩ : Decimal).value ≤ d.value :=
        Decimal.value_le same.symm (Nat.lt_of_not_le short)
      have below := mul_le_mul_of_nonneg_right next unit.le
      have above : (4 * units : ℚ) ≤
          (⟨lower.digits + 1, lower.exponent⟩ : Decimal).value * quarters := by
        rw [quarters_eq]
        linarith
      have has := self.between h above below
      rw [← Interval.holds_iff, second] at has
      cases has

/-- The decimal found is one of the coarsest grid that has one, the zeros at its end left out. -/
theorem shortest_spec {count : Nat} {d : Decimal} (within : count < 17)
    (found : onGrid? units (count + 1) = some d) : ∃ fewer first,
    fewer ≤ count ∧ onGrid? units (fewer + 1) = some first ∧
      (shortest units).value = first.value := by
  unfold shortest
  simp only
  cases search : (List.range 17).findSome? fun more => onGrid? units (more + 1) with
  | none =>
    have none := List.findSome?_eq_none_iff.1 search count (List.mem_range.2 within)
    cases none.symm.trans found
  | some first =>
    obtain ⟨before, fewer, after, split, here, misses⟩ := List.findSome?_eq_some_iff.1 search
    refine ⟨fewer, first, ?_, here, (trimZeros_value _ _).1⟩
    refine Nat.le_of_not_lt fun more => ?_
    have listed : count ∈ List.range 17 := List.mem_range.2 within
    have ordered := List.pairwise_lt_range (n := 17)
    rw [split] at listed ordered
    have behind := (List.pairwise_cons.1 (List.pairwise_append.1 ordered).2.1).1
    rcases List.mem_append.1 listed with early | late
    · cases (misses count early).symm.trans found
    · rcases List.mem_cons.1 late with rfl | later
      · exact absurd more (Nat.lt_irrefl _)
      · exact absurd (behind count later) (Nat.lt_asymm more)

theorem Decimal.exists_finer (d : Decimal) {exponent : Int} (below : exponent ≤ d.exponent) :
    ∃ digits, (⟨digits, exponent⟩ : Decimal).value = d.value := by
  obtain ⟨places, sum⟩ := Int.le.dest below
  refine ⟨d.digits * 10 ^ places, ?_⟩
  rw [value, value, ← sum, zpow_add₀ (by norm_num), zpow_natCast]
  push_cast
  ring

/-- The grid of fifteen digits against the magnitude. -/
theorem grid_bounds (positive : 0 < units) {exponent : Int}
    (grid : exponent = gridExponent units 15) :
    10 ^ 14 * ((10 : ℚ) ^ exponent * one) ≤ units ∧
      units < 10 ^ 15 * ((10 : ℚ) ^ exponent * one) := by
  have place := firstPlace_spec positive
  have low : firstPlace units = exponent + (14 : Nat) := by
    rw [grid, gridExponent]
    omega
  have high : firstPlace units + 1 = exponent + (15 : Nat) := by omega
  rw [high, low, zpow_add₀ (by norm_num), zpow_add₀ (by norm_num), zpow_natCast,
    zpow_natCast] at place
  constructor
  · linarith [place.1]
  · linarith [place.2]

/-- Within the interval the grid has one decimal at most. -/
theorem not_both {a b : Decimal} (large : 2 ^ 52 ≤ units)
    (grid : a.exponent = gridExponent units 15)
    (grid' : b.exponent = gridExponent units 15)
    (first : (interval units).Has (a.value * quarters))
    (second : (interval units).Has (b.value * quarters)) : ¬ a.digits < b.digits := by
  intro less
  have step : a.value + 10 ^ a.exponent ≤ b.value := by
    have next : (⟨a.digits + 1, a.exponent⟩ : Decimal).value ≤ b.value :=
      Decimal.value_le (grid.trans grid'.symm) less
    have sum : (⟨a.digits + 1, a.exponent⟩ : Decimal).value = a.value + 10 ^ a.exponent := by
      simp only [Decimal.value]
      push_cast
      ring
    rwa [sum] at next
  have step := mul_le_mul_of_nonneg_right step quarters_pos.le
  have bounds := grid_bounds (by omega) grid
  have fine : (2 ^ 52 * gap units : ℚ) ≤ units := by exact_mod_cast gap_fine large
  have least := least_ge_cast units
  have greatest : ((interval units).greatest : ℚ) = 4 * units + 2 * gap units := by
    rw [greatest_eq]
    push_cast
    rfl
  have above := first.least
  have below := second.greatest
  rw [quarters_eq] at *
  linarith

/-- A decimal of fifteen digits within the interval lies on the grid of fifteen digits. -/
theorem grid_le {d : Decimal} (large : 2 ^ 52 ≤ units) (short : d.digits < 10 ^ 15)
    (h : (interval units).Has (d.value * quarters)) : gridExponent units 15 ≤ d.exponent := by
  refine Int.le_of_not_gt fun coarse => ?_
  have unit : (0 : ℚ) < one := by exact_mod_cast one_pos
  have positive : 0 < units := by omega
  have bounds := grid_bounds positive rfl
  have fine : (2 ^ 52 * gap units : ℚ) ≤ units := by exact_mod_cast gap_fine large
  have least := least_ge_cast units
  have digits : (d.digits : ℚ) ≤ 10 ^ 15 - 1 := by
    have whole : d.digits + 1 ≤ 10 ^ 15 := short
    have whole : (d.digits + 1 : ℚ) ≤ 10 ^ 15 := by exact_mod_cast whole
    linarith
  have scale : (10 : ℚ) ^ d.exponent * 10 ≤ 10 ^ gridExponent units 15 := by
    rw [← zpow_add_one₀ (by norm_num)]
    exact zpow_le_zpow_right₀ (by norm_num) coarse
  have below : d.value * 10 ≤ (10 ^ 15 - 1) * 10 ^ gridExponent units 15 := by
    rw [Decimal.value, mul_assoc]
    exact mul_le_mul digits scale (by positivity) (by norm_num)
  have above := h.least
  have some : 0 < (10 : ℚ) ^ gridExponent units 15 * one := mul_pos (by positivity) unit
  have below := mul_le_mul_of_nonneg_right below unit.le
  rw [quarters_eq] at above
  linarith

theorem shortest_value {d : Decimal} (large : 2 ^ 52 ≤ units) (short : d.digits < 10 ^ 15)
    (h : (interval units).Has (d.value * quarters)) : (shortest units).value = d.value := by
  have positive : 0 < units := by omega
  obtain ⟨digits, fine⟩ := d.exists_finer (grid_le large short h)
  rw [← fine] at h
  have grid : (⟨digits, gridExponent units 15⟩ : Decimal).exponent = gridExponent units 15 := rfl
  obtain ⟨found, search⟩ := exists_onGrid? positive grid h
  obtain ⟨fewer, first, least, search, printed⟩ := shortest_spec (by decide) search
  obtain ⟨lower, upper, exponent, rfl, _, _, spec, _⟩ := onGrid?_spec units (fewer + 1)
  obtain ⟨either, holds⟩ := spec first search
  have coarse : gridExponent units 15 ≤ first.exponent := by
    have grid : first.exponent = gridExponent units (fewer + 1) := by
      rcases either with rfl | rfl <;> exact exponent
    rw [grid, gridExponent, gridExponent]
    omega
  obtain ⟨others, same⟩ := first.exists_finer coarse
  have grid' : (⟨others, gridExponent units 15⟩ : Decimal).exponent = gridExponent units 15 := rfl
  rw [Interval.holds_iff, ← same] at holds
  have most : digits ≤ others := Nat.le_of_not_lt (not_both large grid' grid holds h)
  have least : others ≤ digits := Nat.le_of_not_lt (not_both large grid grid' h holds)
  rw [printed, ← same, ← fine, Nat.le_antisymm most least]

end OrderReplay.Binary64
