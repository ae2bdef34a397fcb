/-!
# Rounding a quotient to the nearest whole number

One rule serves every rounding of this library: to the nearest whole number,
and from the middle to the even neighbour. The result is within half a unit of
the quotient.
-/

namespace FlowWatch.Binary64

/-- The whole number nearest to `num / den`; from the middle the even one. -/
def roundQuotient (num den : Nat) : Nat :=
  let quotient := num / den
  let rest := num % den
  if den < 2 * rest || (2 * rest == den && quotient % 2 == 1) then quotient + 1 else quotient

/-- The rounded quotient is at most half a unit away from the exact one. -/
theorem roundQuotient_near (num den : Nat) (h : 0 < den) :
    2 * num ≤ (2 * roundQuotient num den + 1) * den ∧
      (2 * roundQuotient num den) * den ≤ 2 * num + den := by
  have hsplit : den * (num / den) + num % den = num := Nat.div_add_mod num den
  have hrest : num % den < den := Nat.mod_lt num h
  have hcomm : (num / den) * den = den * (num / den) := Nat.mul_comm _ _
  unfold roundQuotient
  simp only [Bool.or_eq_true, decide_eq_true_eq, Bool.and_eq_true, beq_iff_eq]
  split
  · rename_i hup
    have : den ≤ 2 * (num % den) := by omega
    constructor <;> simp only [Nat.add_mul, Nat.mul_assoc, Nat.mul_add, Nat.one_mul] <;> omega
  · rename_i hdown
    have : 2 * (num % den) ≤ den := by omega
    constructor <;> simp only [Nat.add_mul, Nat.mul_assoc, Nat.one_mul] <;> omega

/-- A quotient is rounded to nothing if it is at most a half. -/
theorem roundQuotient_eq_zero_iff {num den : Nat} (hden : 0 < den) :
    roundQuotient num den = 0 ↔ 2 * num ≤ den := by
  obtain ⟨hlower, hupper⟩ := roundQuotient_near num den hden
  constructor
  · intro hzero
    rw [hzero] at hlower
    omega
  · intro hhalf
    have hrest : num < den := by omega
    unfold roundQuotient
    rw [Nat.div_eq_of_lt hrest, Nat.mod_eq_of_lt hrest]
    simp only [Bool.or_eq_true, decide_eq_true_eq, Bool.and_eq_true, beq_iff_eq]
    split <;> omega

end FlowWatch.Binary64
