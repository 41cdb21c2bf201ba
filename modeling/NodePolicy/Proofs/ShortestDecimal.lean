import NodePolicy.Binary64.Shortest
import NodePolicy.Proofs.Arithmetic

/-!
The shortest decimal of a number. With seventeen digits a neighbour of the number is near enough to
be rounded back to it, so the search always ends with a decimal that is. A decimal of up to fifteen
digits is far from every other one in its place, so the search that starts from the number nearest
to it ends with that decimal.
-/

namespace NodePolicy.Binary64

/-- A decimal in units, times the steps of the finest decimal grid in one. -/
def Decimal.scaled (decimal : Decimal) : Nat := decimal.digits * 10 ^ decimal.exponent * one

def scaledUnits (magnitude : Nat) : Nat := unitsOfBits magnitude * decimalGrid

theorem decimalGrid_eq : decimalGrid = 10 ^ decimalPlaces := by decide +kernel

theorem decimalGrid_pos : 0 < decimalGrid := by decide +kernel

theorem gridStep_pos (exponent : Nat) : 0 < one * 10 ^ exponent :=
  Nat.mul_pos one_pos (Nat.pow_pos (by decide))

theorem nearestBits_eq (decimal : Decimal) :
    decimal.nearestBits = roundedBits decimal.scaled decimalGrid := rfl

theorem leading_bounds (magnitude : Nat) (positive : 0 < magnitude) :
    16 ≤ leadingExponent magnitude ∧
      10 ^ leadingExponent magnitude * one ≤ scaledUnits magnitude ∧
      scaledUnits magnitude < 10 ^ (leadingExponent magnitude + 1) * one := by
  have least : 10000000000000000 * one ≤ scaledUnits magnitude := by
    calc 10000000000000000 * one ≤ 1 * decimalGrid := by decide +kernel
      _ ≤ scaledUnits magnitude :=
        Nat.mul_le_mul_right decimalGrid (unitsOfBits_mono 1 magnitude positive)
  have digits : leadingExponent magnitude =
      (Nat.toDigits 10 (scaledUnits magnitude / one)).length - 1 := rfl
  rw [digits]
  generalize scaledUnits magnitude = scaled at least ⊢
  have whole := (Nat.le_div_iff_mul_le one_pos).mpr least
  have fewest : ∀ count, 0 < count →
      ((Nat.toDigits 10 (scaled / one)).length ≤ count ↔ scaled / one < 10 ^ count) := fun _ some =>
    Nat.length_toDigits_le_iff (by decide) some
  generalize (Nat.toDigits 10 (scaled / one)).length = length at fewest ⊢
  have many : 16 < length := by
    by_contra few
    have small := (fewest 16 (by decide)).mp (Nat.le_of_not_lt few)
    omega
  obtain ⟨last, rfl⟩ := Nat.exists_eq_succ_of_ne_zero (Nat.ne_of_gt (Nat.zero_lt_of_lt many))
  rw [Nat.succ_sub_one]
  refine ⟨by omega, ?_, ?_⟩
  · rw [← Nat.le_div_iff_mul_le one_pos]
    by_contra small
    have shorter := (fewest last (by omega)).mpr (Nat.lt_of_not_le small)
    omega
  · rw [← Nat.div_lt_iff_lt_mul one_pos]
    exact (fewest (last + 1) (by omega)).mp (Nat.le_refl _)

theorem mem_gridHits (magnitude exponent : Nat) (decimal : Decimal) :
    decimal ∈ gridHits magnitude exponent ↔
      (decimal.digits = scaledUnits magnitude / (one * 10 ^ exponent) ∨
        decimal.digits = scaledUnits magnitude / (one * 10 ^ exponent) + 1) ∧
      decimal.exponent = exponent ∧ decimal.nearestBits = magnitude := by
  obtain ⟨digits, place⟩ := decimal
  have ordered : ∀ below above : Decimal, ∀ nearer : Prop, ∀ _ : Decidable nearer,
      (⟨digits, place⟩ : Decimal) ∈ (if nearer then [below, above] else [above, below]) ↔
        (⟨digits, place⟩ : Decimal) = below ∨ (⟨digits, place⟩ : Decimal) = above := by
    intro below above nearer _
    split_ifs
    · simp
    · simp [or_comm]
  rw [gridHits, List.mem_filter, ordered, beq_iff_eq, Decimal.mk.injEq, Decimal.mk.injEq,
    ← or_and_right, and_assoc]
  rfl

theorem hit_digits (magnitude exponent : Nat) (decimal : Decimal) (positive : 0 < magnitude)
    (coarse : exponent ≤ leadingExponent magnitude)
    (hit : decimal ∈ gridHits magnitude exponent) :
    0 < decimal.digits ∧ decimal.digits ≤ 10 ^ (leadingExponent magnitude + 1 - exponent) := by
  obtain ⟨_, lower, upper⟩ := leading_bounds magnitude positive
  obtain ⟨neighbour, _, _⟩ := (mem_gridHits magnitude exponent decimal).mp hit
  have first : 0 < scaledUnits magnitude / (one * 10 ^ exponent) := by
    apply Nat.div_pos _ (gridStep_pos exponent)
    rw [Nat.mul_comm]
    exact Nat.le_trans (Nat.mul_le_mul_right one (Nat.pow_le_pow_right (by decide) coarse)) lower
  have last : scaledUnits magnitude / (one * 10 ^ exponent) <
      10 ^ (leadingExponent magnitude + 1 - exponent) := by
    rw [Nat.div_lt_iff_lt_mul (gridStep_pos exponent), Nat.mul_left_comm, ← Nat.pow_add,
      Nat.sub_add_cancel (by omega), Nat.mul_comm]
    exact upper
  omega

/-- The search ends on a grid that is no finer than any grid with a hit. -/
theorem shortest_hit (magnitude exponent : Nat) (decimal : Decimal)
    (fine : leadingExponent magnitude - 16 ≤ exponent)
    (coarse : exponent ≤ leadingExponent magnitude - 16 + 16)
    (hit : decimal ∈ gridHits magnitude exponent) :
    ∃ coarser, exponent ≤ coarser ∧ coarser ≤ leadingExponent magnitude - 16 + 16 ∧
      shortest magnitude ∈ gridHits magnitude coarser := by
  have grids : ∀ finest, ((List.range 17).map fun digits => finest + (16 - digits)).Pairwise
      (· ≥ ·) := by
    intro finest
    rw [List.pairwise_map]
    exact List.pairwise_lt_range.imp fun {_ _} order => by omega
  have sorted := grids (leadingExponent magnitude - 16)
  have listed : exponent ∈ (List.range 17).map fun digits =>
      leadingExponent magnitude - 16 + (16 - digits) :=
    List.mem_map.mpr ⟨16 - (exponent - (leadingExponent magnitude - 16)),
      List.mem_range.mpr (by omega), by omega⟩
  have within : ∀ grid ∈ (List.range 17).map fun digits =>
      leadingExponent magnitude - 16 + (16 - digits), grid ≤ leadingExponent magnitude - 16 + 16 := by
    intro grid member
    obtain ⟨_, _, rfl⟩ := List.mem_map.mp member
    omega
  rw [shortest]
  generalize ((List.range 17).map fun digits => leadingExponent magnitude - 16 + (16 - digits)) =
    searched at sorted listed within ⊢
  have hits : (gridHits magnitude exponent).head? ≠ none := by
    rw [Ne, List.head?_eq_none_iff]
    exact List.ne_nil_of_mem hit
  cases found : searched.findSome? fun grid => (gridHits magnitude grid).head? with
  | none => exact absurd (List.findSome?_eq_none_iff.mp found exponent listed) hits
  | some first =>
      obtain ⟨before, coarser, after, rfl, head, misses⟩ := List.findSome?_eq_some_iff.mp found
      refine ⟨coarser, ?_, within coarser (by simp), List.mem_of_head? head⟩
      rcases List.mem_append.mp listed with earlier | later
      · exact absurd (misses exponent earlier) hits
      · rcases List.mem_cons.mp later with rfl | behind
        · exact Nat.le_refl _
        · exact List.rel_of_pairwise_cons (List.pairwise_append.mp sorted).2.1 behind

theorem seventeen_digits_hit (magnitude : Nat) (positive : 0 < magnitude)
    (finite : magnitude < infinityBits) :
    ∃ decimal, decimal ∈ gridHits magnitude (leadingExponent magnitude - 16) := by
  obtain ⟨many, lower, _⟩ := leading_bounds magnitude positive
  have step := gridStep_pos (leadingExponent magnitude - 16)
  have small : 10000000000000000 * (one * 10 ^ (leadingExponent magnitude - 16)) ≤
      scaledUnits magnitude := by
    calc 10000000000000000 * (one * 10 ^ (leadingExponent magnitude - 16)) =
          10 ^ (leadingExponent magnitude - 16 + 16) * one := by ring
      _ = 10 ^ leadingExponent magnitude * one := by rw [Nat.sub_add_cancel many]
      _ ≤ scaledUnits magnitude := lower
  have near := nearestQuotient_near (scaledUnits magnitude) _ step
  have neighbour := nearestQuotient_neighbour (scaledUnits magnitude)
    (one * 10 ^ (leadingExponent magnitude - 16))
  generalize nearestQuotient (scaledUnits magnitude) (one * 10 ^ (leadingExponent magnitude - 16)) =
    digits at near neighbour
  refine ⟨⟨digits, leadingExponent magnitude - 16⟩,
    (mem_gridHits _ _ _).mpr ⟨neighbour, rfl, ?_⟩⟩
  rw [nearestBits_eq, Decimal.scaled, Nat.mul_assoc, Nat.mul_comm _ one]
  have units : unitsOfBits magnitude * decimalGrid = scaledUnits magnitude := rfl
  -- Half a step of this grid is less than one part in 2 · 10^16 of the number.
  generalize digits * (one * 10 ^ (leadingExponent magnitude - 16)) = nearest at near ⊢
  generalize one * 10 ^ (leadingExponent magnitude - 16) = unit at near small
  apply roundedBits_near magnitude nearest decimalGrid finite decimalGrid_pos
  · rw [units]
    omega
  · rw [units]
    omega

theorem shortest_on_grid (magnitude : Nat) (positive : 0 < magnitude)
    (finite : magnitude < infinityBits) :
    ∃ exponent, leadingExponent magnitude - 16 ≤ exponent ∧ exponent ≤ leadingExponent magnitude ∧
      shortest magnitude ∈ gridHits magnitude exponent := by
  obtain ⟨many, _, _⟩ := leading_bounds magnitude positive
  obtain ⟨decimal, hit⟩ := seventeen_digits_hit magnitude positive finite
  obtain ⟨exponent, fine, coarse, found⟩ := shortest_hit magnitude (leadingExponent magnitude - 16)
    decimal (Nat.le_refl _) (Nat.le_add_right _ _) hit
  exact ⟨exponent, fine, by omega, found⟩

/-- The shortest decimal of a finite number is rounded to that number. -/
theorem shortest_nearestBits (magnitude : Nat) (positive : 0 < magnitude)
    (finite : magnitude < infinityBits) : (shortest magnitude).nearestBits = magnitude := by
  obtain ⟨exponent, _, _, found⟩ := shortest_on_grid magnitude positive finite
  exact ((mem_gridHits magnitude exponent _).mp found).2.2

theorem shortest_digits (magnitude : Nat) (positive : 0 < magnitude)
    (finite : magnitude < infinityBits) :
    0 < (shortest magnitude).digits ∧ (shortest magnitude).digits ≤ 10 ^ 17 := by
  obtain ⟨exponent, fine, coarse, found⟩ := shortest_on_grid magnitude positive finite
  obtain ⟨some, few⟩ := hit_digits magnitude exponent _ positive coarse found
  exact ⟨some, Nat.le_trans few (Nat.pow_le_pow_right (by decide) (by omega))⟩

/-- No shortest decimal lies above the largest number, though a longer one may that is rounded to
it. -/
theorem shortest_scaled_le (magnitude : Nat) (positive : 0 < magnitude)
    (finite : magnitude < infinityBits) :
    (shortest magnitude).scaled ≤ scaledUnits largestBits := by
  rcases Nat.lt_or_eq_of_le (Nat.le_sub_one_of_lt finite) with smaller | rfl
  · by_contra above
    have order := roundedBits_mono (scaledUnits largestBits) decimalGrid
      (shortest magnitude).scaled decimalGrid decimalGrid_pos decimalGrid_pos
      (Nat.mul_le_mul_right _ (Nat.le_of_lt (Nat.lt_of_not_le above)))
    rw [roundedBits_exact largestBits (scaledUnits largestBits) decimalGrid (by decide)
      decimalGrid_pos rfl, ← nearestBits_eq,
      shortest_nearestBits magnitude positive finite] at order
    exact Nat.not_le_of_lt smaller order
  · decide +kernel

/-- A decimal is near the number that it is rounded to. -/
theorem scaled_close (decimal : Decimal) (finite : decimal.nearestBits < infinityBits)
    (normal : 4503599627370496 * decimalGrid ≤ decimal.scaled) :
    9007199254740992 * scaledUnits decimal.nearestBits ≤ 9007199254740993 * decimal.scaled ∧
      9007199254740991 * decimal.scaled ≤ 9007199254740992 * scaledUnits decimal.nearestBits :=
  roundedBits_close decimal.scaled decimalGrid decimalGrid_pos normal finite

theorem neighbour_of_near (digits scaled step : Nat) (positive : 0 < step)
    (above : scaled < digits * step + step) (below : digits * step < scaled + step) :
    digits = scaled / step ∨ digits = scaled / step + 1 := by
  have most : scaled / step < digits + 1 := by
    rw [Nat.div_lt_iff_lt_mul positive, Nat.succ_mul]
    exact above
  have least : digits < scaled / step + 2 := by
    apply Nat.lt_of_mul_lt_mul_right (a := step)
    have remainder := Nat.lt_div_mul_add positive (a := scaled)
    rw [Nat.add_mul]
    omega
  omega

theorem scaled_of_finer (decimal : Decimal) (exponent : Nat) (finer : exponent ≤ decimal.exponent) :
    decimal.scaled =
      decimal.digits * 10 ^ (decimal.exponent - exponent) * (one * 10 ^ exponent) := by
  have power : 10 ^ decimal.exponent = 10 ^ (decimal.exponent - exponent) * 10 ^ exponent := by
    rw [← Nat.pow_add, Nat.sub_add_cancel finer]
  rw [Decimal.scaled, power, Nat.mul_comm one, ← Nat.mul_assoc, ← Nat.mul_assoc]

theorem normal_of_same_bits (decimal other : Decimal)
    (large : 9007199254740992 * decimalGrid ≤ decimal.scaled)
    (same : other.nearestBits = decimal.nearestBits) :
    4503599627370496 * decimalGrid ≤ other.scaled := by
  -- The numbers with bits 2^52 and 2^53 would not lie between the two.
  by_contra small
  have least := roundedBits_mono (9007199254740992 * decimalGrid) decimalGrid decimal.scaled
    decimalGrid decimalGrid_pos decimalGrid_pos (Nat.mul_le_mul_right _ large)
  have most := roundedBits_mono other.scaled decimalGrid (4503599627370496 * decimalGrid)
    decimalGrid decimalGrid_pos decimalGrid_pos
    (Nat.mul_le_mul_right _ (Nat.le_of_lt (Nat.lt_of_not_le small)))
  have unitsLeast : unitsOfBits 9007199254740992 = 9007199254740992 := by decide
  have unitsMost : unitsOfBits 4503599627370496 = 4503599627370496 := by decide
  rw [roundedBits_exact 9007199254740992 (9007199254740992 * decimalGrid) decimalGrid (by decide)
    decimalGrid_pos (by rw [unitsLeast])] at least
  rw [roundedBits_exact 4503599627370496 (4503599627370496 * decimalGrid) decimalGrid (by decide)
    decimalGrid_pos (by rw [unitsMost])] at most
  rw [← nearestBits_eq] at least most
  omega

section Short
variable (decimal : Decimal) (finite : decimal.nearestBits < infinityBits)
  (normal : 4503599627370496 * decimalGrid ≤ decimal.scaled)
  (positive : 0 < decimal.nearestBits) (few : decimal.digits < 1000000000000000)
include finite normal positive few

theorem short_lead : leadingExponent decimal.nearestBits ≤ decimal.exponent + 14 := by
  obtain ⟨_, lower, _⟩ := leading_bounds decimal.nearestBits positive
  obtain ⟨above, _⟩ := scaled_close decimal finite normal
  by_contra far
  have unit : 0 < 10 ^ decimal.exponent * one := Nat.mul_pos (Nat.pow_pos (by decide)) one_pos
  have most : decimal.scaled ≤ 999999999999999 * (10 ^ decimal.exponent * one) := by
    rw [Decimal.scaled, Nat.mul_assoc]
    exact Nat.mul_le_mul_right _ (Nat.le_of_lt_succ few)
  have least : 1000000000000000 * (10 ^ decimal.exponent * one) ≤
      scaledUnits decimal.nearestBits := by
    calc 1000000000000000 * (10 ^ decimal.exponent * one) = 10 ^ (decimal.exponent + 15) * one := by
          rw [Nat.pow_add, Nat.mul_comm (10 ^ decimal.exponent) (10 ^ 15), Nat.mul_assoc]
      _ ≤ 10 ^ leadingExponent decimal.nearestBits * one :=
          Nat.mul_le_mul_right one (Nat.pow_le_pow_right (by decide) (by omega))
      _ ≤ scaledUnits decimal.nearestBits := lower
  generalize scaledUnits decimal.nearestBits = scaled at above least
  generalize 10 ^ decimal.exponent * one = step at unit most least
  omega

/-- The decimal itself is one of the neighbours on a grid of at most fifteen digits. -/
theorem short_hit :
    ∃ exponent digits, exponent ≤ decimal.exponent ∧
      exponent ≤ leadingExponent decimal.nearestBits ∧
      leadingExponent decimal.nearestBits ≤ exponent + 14 ∧
      ⟨digits, exponent⟩ ∈ gridHits decimal.nearestBits exponent := by
  obtain ⟨_, _, upper⟩ := leading_bounds decimal.nearestBits positive
  obtain ⟨above, below⟩ := scaled_close decimal finite normal
  have lead := short_lead decimal finite normal positive few
  -- A decimal of one digit may lie on a coarser grid, just above the number that it is rounded to.
  obtain ⟨exponent, least⟩ : ∃ exponent, exponent =
      min decimal.exponent (leadingExponent decimal.nearestBits) := ⟨_, rfl⟩
  have finer : exponent ≤ decimal.exponent := by omega
  have step := gridStep_pos exponent
  have whole := scaled_of_finer decimal exponent finer
  have small : decimal.scaled < 9007199254740992 * (one * 10 ^ exponent) := by
    by_cases same : exponent = decimal.exponent
    · rw [whole, same, Nat.sub_self, Nat.pow_zero, Nat.mul_one]
      rw [same] at step
      exact Nat.mul_lt_mul_of_pos_right (by omega) step
    · have top : exponent = leadingExponent decimal.nearestBits := by omega
      rw [← top, Nat.pow_succ, Nat.mul_comm _ 10, Nat.mul_assoc, Nat.mul_comm _ one] at upper
      omega
  refine ⟨exponent, decimal.digits * 10 ^ (decimal.exponent - exponent), finer, by omega, by omega,
    (mem_gridHits _ _ _).mpr ⟨?_, rfl, ?_⟩⟩
  · apply neighbour_of_near _ _ _ step
    · rw [← whole]
      omega
    · rw [← whole]
      omega
  · rw [nearestBits_eq, nearestBits_eq, whole, Decimal.scaled, Nat.mul_comm one, ← Nat.mul_assoc]

/-- A decimal of at most fifteen digits is the shortest one of the number that it is rounded to. -/
theorem shortest_of_short (large : 9007199254740992 * decimalGrid ≤ decimal.scaled) :
    (shortest decimal.nearestBits).scaled = decimal.scaled := by
  obtain ⟨many, _, _⟩ := leading_bounds decimal.nearestBits positive
  obtain ⟨exponent, _, finer, coarse, near, hit⟩ := short_hit decimal finite normal positive few
  obtain ⟨grid, above, within, found⟩ := shortest_hit decimal.nearestBits exponent _ (by omega)
    (by omega) hit
  obtain ⟨_, digits⟩ := hit_digits decimal.nearestBits grid _ positive (by omega) found
  obtain ⟨_, place, rounded⟩ := (mem_gridHits decimal.nearestBits grid _).mp found
  generalize shortest decimal.nearestBits = shorter at digits place rounded ⊢
  have normalShorter := normal_of_same_bits decimal shorter large rounded
  obtain ⟨aboveDecimal, belowDecimal⟩ := scaled_close decimal finite normal
  have finiteShorter : shorter.nearestBits < infinityBits := by
    rw [rounded]
    exact finite
  obtain ⟨aboveShorter, belowShorter⟩ := scaled_close shorter finiteShorter normalShorter
  rw [rounded] at aboveShorter belowShorter
  rw [← place] at above digits
  -- On the grid of the decimal both are whole, and the shorter one has at most fifteen digits there.
  have most : shorter.digits * 10 ^ (shorter.exponent - exponent) ≤ 1000000000000000 := by
    calc shorter.digits * 10 ^ (shorter.exponent - exponent)
        ≤ 10 ^ (leadingExponent decimal.nearestBits + 1 - shorter.exponent) *
          10 ^ (shorter.exponent - exponent) := Nat.mul_le_mul_right _ digits
      _ = 10 ^ (leadingExponent decimal.nearestBits + 1 - exponent) := by
          rw [← Nat.pow_add]
          congr 1
          omega
      _ ≤ 10 ^ 15 := Nat.pow_le_pow_right (by decide) (by omega)
  have step := gridStep_pos exponent
  have whole := scaled_of_finer decimal exponent finer
  have wholeShorter := scaled_of_finer shorter exponent above
  generalize decimal.digits * 10 ^ (decimal.exponent - exponent) = first at whole
  generalize shorter.digits * 10 ^ (shorter.exponent - exponent) = second at most wholeShorter
  have upward : 9007199254740991 * second ≤ 9007199254740993 * first := by
    apply Nat.le_of_mul_le_mul_right _ step
    rw [Nat.mul_assoc, Nat.mul_assoc, ← whole, ← wholeShorter]
    omega
  have downward : 9007199254740991 * first ≤ 9007199254740993 * second := by
    apply Nat.le_of_mul_le_mul_right _ step
    rw [Nat.mul_assoc, Nat.mul_assoc, ← whole, ← wholeShorter]
    omega
  have same : second = first := by omega
  rw [whole, wholeShorter, same]

end Short

end NodePolicy.Binary64
