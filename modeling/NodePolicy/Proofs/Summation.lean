import Mathlib.Algebra.BigOperators.Group.List.Basic
import Mathlib.Algebra.Order.BigOperators.Group.List
import Mathlib.Algebra.Ring.Int.Defs
import NodePolicy.Duration.Basic
import NodePolicy.Proofs.Outcome

/-!
The order of summands. A sum is added up from the left and ends where a partial sum leaves the range
of durations, so there is one exactly when the total of every front part fits, and it is the exact
total then. Another order has other front parts, and one of them may not fit. With summands of one
sign each of these totals lies between zero and the whole, so it is the whole alone that decides.
-/

namespace NodePolicy.Duration

def InRange (nanos : Int) : Prop := -9223372036854775808 ≤ nanos ∧ nanos < 9223372036854775808

instance (nanos : Int) : Decidable (InRange nanos) := inferInstanceAs (Decidable (_ ∧ _))

/-- The sum as an integer, which no range bounds. -/
def exactTotal (durations : List Duration) : Int := (durations.map nanos).sum

theorem exactTotal_cons (first : Duration) (rest : List Duration) :
    exactTotal (first :: rest) = first.nanos + exactTotal rest := by
  rw [exactTotal, List.map_cons, List.sum_cons, exactTotal]

theorem exactTotal_append (front back : List Duration) :
    exactTotal (front ++ back) = exactTotal front + exactTotal back := by
  rw [exactTotal, List.map_append, List.sum_append, exactTotal, exactTotal]

theorem exactTotal_perm (first second : List Duration) (order : first.Perm second) :
    exactTotal first = exactTotal second :=
  (order.map nanos).sum_eq

theorem add_ok_iff (first second result : Duration) :
    add first second = .ok result ↔ result.nanos = first.nanos + second.nanos := by
  rw [← ofNanos?_eq_some, add, expectFit]
  cases ofNanos? (first.nanos + second.nanos) <;> simp

theorem add_error (first second : Duration) (overflow : Overflow)
    (refused : add first second = .error overflow) : overflow = .addition := by
  rw [add, expectFit] at refused
  split at refused
  · cases refused
  · cases refused
    rfl

theorem exists_of_inRange (nanos : Int) (fits : InRange nanos) :
    ∃ duration : Duration, duration.nanos = nanos :=
  ⟨⟨nanos, fits.1, fits.2⟩, rfl⟩

theorem nanos_inRange (duration : Duration) : InRange duration.nanos :=
  ⟨duration.lower, duration.upper⟩

theorem foldAdd_ok_iff (durations : List Duration) (start result : Duration) :
    durations.foldlM add start = .ok result ↔
      result.nanos = start.nanos + exactTotal durations ∧
        ∀ front, front <+: durations → InRange (start.nanos + exactTotal front) := by
  -- The sum so far is a duration, so the front parts counted from it fit one after the other.
  induction durations generalizing start with
  | nil =>
      rw [List.foldlM_nil, pure_ok_iff]
      constructor
      · rintro rfl
        refine ⟨(Int.add_zero _).symm, fun front leads => ?_⟩
        rw [List.prefix_nil.mp leads]
        exact (Int.add_zero start.nanos).symm ▸ start.nanos_inRange
      · rintro ⟨same, _⟩
        exact ext (same.trans (Int.add_zero _)).symm
  | cons first rest ih =>
      rw [List.foldlM_cons, bind_ok_iff, exactTotal_cons]
      simp only [add_ok_iff, ih]
      constructor
      · rintro ⟨next, sum, same, fits⟩
        rw [sum] at same fits
        refine ⟨by omega, fun front leads => ?_⟩
        rcases List.prefix_cons_iff.mp leads with rfl | ⟨more, rfl, follows⟩
        · exact (Int.add_zero start.nanos).symm ▸ start.nanos_inRange
        · rw [exactTotal_cons, ← Int.add_assoc]
          exact fits more follows
      · rintro ⟨same, fits⟩
        have one := fits [first] (List.cons_prefix_cons.mpr ⟨rfl, List.nil_prefix⟩)
        rw [exactTotal_cons, exactTotal, List.map_nil, List.sum_nil, Int.add_zero] at one
        obtain ⟨next, sum⟩ := exists_of_inRange _ one
        refine ⟨next, sum, by omega, fun front leads => ?_⟩
        have more := fits (first :: front) (List.cons_prefix_cons.mpr ⟨rfl, leads⟩)
        rwa [sum, Int.add_assoc, ← exactTotal_cons]

theorem foldAdd_error (durations : List Duration) (start : Duration) (overflow : Overflow)
    (refused : durations.foldlM add start = .error overflow) : overflow = .addition := by
  induction durations generalizing start with
  | nil => exact absurd refused (pure_ne_error start overflow)
  | cons first rest ih =>
      rw [List.foldlM_cons, bind_error_iff] at refused
      rcases refused with here | ⟨next, _, later⟩
      · exact add_error start first overflow here
      · exact ih next later

/-- A list has a sum when all its front parts have one, and the sum is exact. -/
theorem sum_ok_iff (durations : List Duration) (result : Duration) :
    sum durations = .ok result ↔
      result.nanos = exactTotal durations ∧
        ∀ front, front <+: durations → InRange (exactTotal front) := by
  have zeroed (nanos : Int) : zero.nanos + nanos = nanos := Int.zero_add nanos
  rw [sum, foldAdd_ok_iff]
  simp only [zeroed]

theorem sum_error_iff (durations : List Duration) :
    sum durations = .error .addition ↔ ¬ ∃ result, sum durations = .ok result := by
  cases outcome : sum durations with
  | ok result => simp
  | error overflow => simp [foldAdd_error durations zero overflow outcome]

def OneSign (durations : List Duration) : Prop :=
  (∀ duration ∈ durations, 0 ≤ duration.nanos) ∨ ∀ duration ∈ durations, duration.nanos ≤ 0

theorem oneSign_perm (first second : List Duration) (order : first.Perm second)
    (sign : OneSign first) : OneSign second := by
  rcases sign with positive | negative
  · exact .inl fun duration member => positive duration (order.mem_iff.mpr member)
  · exact .inr fun duration member => negative duration (order.mem_iff.mpr member)

theorem exactTotal_nonneg (durations : List Duration)
    (positive : ∀ duration ∈ durations, 0 ≤ duration.nanos) : 0 ≤ exactTotal durations :=
  List.sum_nonneg (List.forall_mem_map.mpr positive)

theorem exactTotal_nonpos (durations : List Duration)
    (negative : ∀ duration ∈ durations, duration.nanos ≤ 0) : exactTotal durations ≤ 0 :=
  (List.sum_le_card_nsmul _ 0 (List.forall_mem_map.mpr negative)).trans_eq (nsmul_zero _)

/-- A front part takes the total no further from zero than the whole does. -/
theorem front_inRange (front durations : List Duration) (leads : front <+: durations)
    (sign : OneSign durations) (whole : InRange (exactTotal durations)) :
    InRange (exactTotal front) := by
  obtain ⟨back, rfl⟩ := leads
  rw [exactTotal_append] at whole
  rw [InRange] at whole ⊢
  rcases sign with positive | negative
  · have least := exactTotal_nonneg front fun duration member =>
      positive duration (List.mem_append_left back member)
    have more := exactTotal_nonneg back fun duration member =>
      positive duration (List.mem_append_right front member)
    omega
  · have most := exactTotal_nonpos front fun duration member =>
      negative duration (List.mem_append_left back member)
    have less := exactTotal_nonpos back fun duration member =>
      negative duration (List.mem_append_right front member)
    omega

theorem sum_oneSign_ok_iff (durations : List Duration) (sign : OneSign durations)
    (result : Duration) :
    sum durations = .ok result ↔ result.nanos = exactTotal durations := by
  rw [sum_ok_iff]
  constructor
  · exact And.left
  · intro same
    refine ⟨same, fun front leads => front_inRange front durations leads sign ?_⟩
    rw [← same]
    exact result.nanos_inRange

theorem sum_oneSign_error_iff (durations : List Duration) (sign : OneSign durations) :
    sum durations = .error .addition ↔ ¬ InRange (exactTotal durations) := by
  rw [sum_error_iff]
  simp only [sum_oneSign_ok_iff durations sign]
  apply not_congr
  constructor
  · rintro ⟨result, same⟩
    exact same ▸ result.nanos_inRange
  · exact exists_of_inRange _

/-- The order of summands changes no sum that there is in both orders, and with summands of one sign
it does not change whether there is one: the addition overflows exactly when the exact total is out
of range, and else every order gives that total. -/
theorem sum_reordered (first second : List Duration) (order : first.Perm second) :
    (∀ one other, sum first = .ok one → sum second = .ok other → one = other) ∧
      (OneSign first →
        (sum first = .error .addition ↔ sum second = .error .addition) ∧
        (sum first = .error .addition ↔ ¬ InRange (exactTotal first)) ∧
        ∀ fits : InRange (exactTotal first),
          sum first = .ok ⟨exactTotal first, fits.1, fits.2⟩ ∧
            sum second = .ok ⟨exactTotal first, fits.1, fits.2⟩) := by
  have same := exactTotal_perm first second order
  constructor
  · intro one other summed reordered
    have total := ((sum_ok_iff first one).mp summed).1
    have again := ((sum_ok_iff second other).mp reordered).1
    exact ext (total.trans (same.trans again.symm))
  · intro sign
    have turned := oneSign_perm first second order sign
    refine ⟨?_, sum_oneSign_error_iff first sign, fun fits => ⟨?_, ?_⟩⟩
    · rw [sum_oneSign_error_iff first sign, sum_oneSign_error_iff second turned, same]
    · exact (sum_oneSign_ok_iff first sign _).mpr rfl
    · exact (sum_oneSign_ok_iff second turned _).mpr same

/-- Parts of the lowest duration, which is the one that has no opposite. -/
def lowestParts : List Duration := [-9223372036854775807, 0, -1].filterMap ofNanos?

theorem lowestParts_reordered :
    lowestParts.Perm lowestParts.reverse ∧ OneSign lowestParts ∧
      sum lowestParts = .ok ⟨-9223372036854775808, by decide, by decide⟩ ∧
      sum lowestParts.reverse = .ok ⟨-9223372036854775808, by decide, by decide⟩ := by
  have order : lowestParts.Perm lowestParts.reverse := lowestParts.reverse_perm.symm
  have sign : OneSign lowestParts := .inr (by decide)
  obtain ⟨_, _, fits⟩ := (sum_reordered lowestParts lowestParts.reverse order).2 sign
  exact ⟨order, sign, fits (by decide)⟩

/-- Summands of both signs overflow in one order and not in another. -/
example :
    sum [ofUnit .nanosecond, ⟨9223372036854775807, by decide, by decide⟩,
        ⟨-1, by decide, by decide⟩] = .error .addition ∧
      sum [ofUnit .nanosecond, ⟨-1, by decide, by decide⟩,
        ⟨9223372036854775807, by decide, by decide⟩] =
          .ok ⟨9223372036854775807, by decide, by decide⟩ := by
  decide

end NodePolicy.Duration
