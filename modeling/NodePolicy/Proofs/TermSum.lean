import NodePolicy.Duration.Total
import NodePolicy.Proofs.Digits

/-!
The checked sum of terms is one check of the exact sum. Counts and units are not negative, so the
partial sums only grow: where a product or a partial sum leaves the range, the whole leaves it too.
-/

namespace NodePolicy.Duration

def Term.Readable (term : Term) : Prop :=
  term.count ≠ [] ∧ ∀ c ∈ term.count, c.isDigit = true

def Term.nanos (term : Term) : Nat := Text.digitsValue term.count * term.unit.nanos

def sumNanos : List Term → Nat
  | [] => 0
  | term :: rest => term.nanos + sumNanos rest

theorem sumNanos_append (first second : List Term) :
    sumNanos (first ++ second) = sumNanos first + sumNanos second := by
  induction first with
  | nil => simp [sumNanos]
  | cons term rest ih => simp [sumNanos, ih, Nat.add_assoc]

theorem readNatural_readable (term : Term) (readable : term.Readable) :
    Text.readNatural? term.count = some (Text.digitsValue term.count) := by
  rw [Text.readNatural?, if_pos ⟨readable.1, List.all_eq_true.mpr readable.2⟩]

structure Run (digit : Char → Bool) where
  digits : List Char
  nonempty : digits ≠ []
  ofKind : ∀ c ∈ digits, digit c = true

def signed (negative : Bool) (magnitude : Nat) (fits : magnitude ≤ 9223372036854775807) :
    Duration :=
  ⟨if negative then -magnitude else magnitude, by split <;> omega, by split <;> omega⟩

theorem ofNanos_signed (magnitude : Nat) (fits : magnitude ≤ 9223372036854775807) :
    ofNanos? magnitude = some (signed false magnitude fits) := by
  rw [ofNanos?_eq_some]
  rfl

theorem checkedNeg_signed (magnitude : Nat) (fits : magnitude ≤ 9223372036854775807) :
    (signed false magnitude fits).checkedNeg = some (signed true magnitude fits) := by
  rw [checkedNeg, ofNanos?_eq_some]
  rfl

theorem ofNanos_above (nanos : Int) (above : 9223372036854775808 ≤ nanos) :
    ofNanos? nanos = none := by
  rw [ofNanos?, dif_neg]
  omega

theorem ofNanos_within (nanos : Int) (lower : -9223372036854775808 ≤ nanos)
    (upper : nanos < 9223372036854775808) : ofNanos? nanos = some ⟨nanos, lower, upper⟩ := by
  rw [ofNanos?, dif_pos ⟨lower, upper⟩]

theorem checkedMul_exact (unit : TimeUnit) (count : Nat) :
    (ofUnit unit).checkedMul count = ofNanos? (count * unit.nanos : Nat) := by
  have length : (ofUnit unit).nanos = unit.nanos := rfl
  rw [checkedMul, length, Int.natCast_mul, Int.mul_comm]

theorem addTerm_exact (total : Duration) (term : Term) (readable : term.Readable)
    (nonnegative : 0 ≤ total.nanos) :
    addTerm total term = ofNanos? (total.nanos + term.nanos) := by
  have steps : addTerm total term =
      (ofNanos? term.nanos).bind fun share => total.checkedAdd share := by
    rw [addTerm, readNatural_readable term readable, Option.bind_eq_bind, Option.bind_some,
      checkedMul_exact]
    rfl
  rw [steps]
  -- A share past the range takes the sum out as well, because the total is not negative.
  by_cases fits : (term.nanos : Int) < 9223372036854775808
  · rw [ofNanos_within _ (by omega) fits, Option.bind_some, checkedAdd]
  · rw [ofNanos_above _ (by omega), ofNanos_above _ (by omega), Option.bind_none]

theorem foldTerms_exact (terms : List Term) (start : Duration)
    (readable : ∀ term ∈ terms, term.Readable) (nonnegative : 0 ≤ start.nanos) :
    terms.foldlM addTerm start = ofNanos? (start.nanos + sumNanos terms) := by
  induction terms generalizing start with
  | nil =>
      rw [sumNanos, Int.natCast_zero, Int.add_zero]
      exact ((ofNanos?_eq_some start.nanos start).mpr rfl).symm
  | cons term rest ih =>
      have first := addTerm_exact start term (readable term List.mem_cons_self) nonnegative
      rw [List.foldlM_cons, first, sumNanos, Int.natCast_add]
      -- The sum so far is the invariant; once it is out of range, later terms cannot bring it back.
      by_cases fits : start.nanos + term.nanos < 9223372036854775808
      · rw [ofNanos_within _ (by omega) fits]
        have later := ih ⟨start.nanos + term.nanos, by omega, fits⟩
          (fun t member => readable t (List.mem_cons_of_mem term member))
          (Int.add_nonneg nonnegative (Int.natCast_nonneg _))
        rw [Option.bind_eq_bind, Option.bind_some, later, Int.add_assoc]
      · rw [ofNanos_above _ (by omega), ofNanos_above _ (by omega)]
        rfl

theorem total_exact (terms : List Term) (readable : ∀ term ∈ terms, term.Readable) :
    total? terms = ofNanos? (sumNanos terms) := by
  rw [total?, foldTerms_exact terms zero readable (Int.le_refl 0)]
  exact congrArg ofNanos? (Int.zero_add _)

end NodePolicy.Duration
