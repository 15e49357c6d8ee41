/-
Module: AccessTrace.Proofs.Binary64.Rounding
Purpose: Rounding a ratio of whole numbers: it keeps the order and is off by half a step at most.
Main exports:
  roundHalfEven_mono, Binary64.units_strictMono, Binary64.roundRank_mono,
  Binary64.roundRank_units, Binary64.units_roundRank_error, Binary64.roundRank_lt_rankCount_iff
-/
import Mathlib
import AccessTrace.Binary64.Rounding

namespace AccessTrace

/-! ### Whole numbers -/

/-- The result is the quotient or the number after it.  It is the quotient only
if the remainder is at most half of the divisor, and the next one only if it is
at least half. -/
theorem roundHalfEven_cases (num den : Nat) :
    (roundHalfEven num den = num / den ∧ 2 * (num % den) ≤ den) ∨
      (roundHalfEven num den = num / den + 1 ∧ den ≤ 2 * (num % den)) := by
  unfold roundHalfEven
  dsimp only
  split
  · left
    omega
  · split
    · right
      omega
    · rcases Nat.mod_two_eq_zero_or_one (num / den) with even | odd
      · left
        omega
      · right
        omega

/-- Twice the rounded number is off from twice the ratio by one at most. -/
theorem roundHalfEven_error (num den : Nat) (hd : 0 < den) :
    2 * num ≤ 2 * (roundHalfEven num den * den) + den ∧
      2 * (roundHalfEven num den * den) ≤ 2 * num + den := by
  have exact := Nat.div_add_mod' num den
  have small := Nat.mod_lt num hd
  rcases roundHalfEven_cases num den with ⟨down, half⟩ | ⟨up, half⟩
  · rw [down]
    omega
  · rw [up, Nat.succ_mul (num / den)]
    omega

theorem roundHalfEven_lt {num den k : Nat} (small : 2 * num + den < 2 * (k * den)) :
    roundHalfEven num den < k := by
  have hd : 0 < den := by
    by_contra none
    rw [Nat.eq_zero_of_not_pos none] at small
    omega
  have high := (roundHalfEven_error num den hd).2
  by_contra large
  have := Nat.mul_le_mul_right den (not_lt.1 large)
  omega

theorem roundHalfEven_mul (k : Nat) {den : Nat} (hd : 0 < den) :
    roundHalfEven (k * den) den = k := by
  simp [roundHalfEven, Nat.mul_div_cancel k hd, hd]

/-- A greater ratio is not rounded to a smaller number. -/
theorem roundHalfEven_mono {num den num' den' : Nat} (hd : 0 < den) (hd' : 0 < den')
    (le : num * den' ≤ num' * den) : roundHalfEven num den ≤ roundHalfEven num' den' := by
  have quotients : num / den ≤ num' / den' := by
    rw [Nat.le_div_iff_mul_le hd']
    refine Nat.le_of_mul_le_mul_right ?_ hd
    calc num / den * den' * den = num / den * den * den' := by ring
      _ ≤ num * den' := Nat.mul_le_mul_right _ (Nat.div_mul_le_self num den)
      _ ≤ num' * den := le
  rcases Nat.lt_or_ge (num / den) (num' / den') with less | more
  · have := roundHalfEven_cases num den
    have := roundHalfEven_cases num' den'
    omega
  -- Equal quotients leave the remainders to compare, and a tie goes the same way in both.
  · have same : num / den = num' / den' := le_antisymm quotients more
    have exact := Nat.div_add_mod num den
    have exact' := Nat.div_add_mod num' den'
    have remainders : num % den * den' ≤ num' % den' * den := by
      have expand : (den * (num / den) + num % den) * den' ≤
          (den' * (num' / den') + num' % den') * den := by rw [exact, exact']; exact le
      rw [same] at expand
      nlinarith
    have above (h : den < 2 * (num % den)) : den' < 2 * (num' % den') := by
      refine Nat.lt_of_mul_lt_mul_right (a := den) ?_
      nlinarith
    have half (h : den ≤ 2 * (num % den)) : den' ≤ 2 * (num' % den') := by
      refine Nat.le_of_mul_le_mul_right ?_ hd
      nlinarith
    unfold roundHalfEven
    dsimp only
    rw [same]
    split_ifs <;> omega

namespace Binary64

/-! ### Ranks and magnitudes -/

theorem binade_pos : 0 < binade := by decide

/-- A rank is a count of steps in some binade; the first two binades have steps
of one unit. -/
theorem units_steps (shift steps : Nat) (normal : shift = 0 ∨ binade ≤ steps)
    (le : steps ≤ 2 * binade) : units (shift * binade + steps) = steps * 2 ^ shift := by
  have pos := binade_pos
  rcases Nat.lt_or_ge steps binade with subnormal | enough
  · have none : shift = 0 := by omega
    simp [units, none, subnormal]
  · have expand : (shift + 1) * binade = shift * binade + binade := Nat.succ_mul _ _
    have expand' : (shift + 2) * binade = shift * binade + 2 * binade := by ring
    rw [units, if_neg (by omega), Nat.shiftLeft_eq]
    rcases Nat.lt_or_ge steps (2 * binade) with inside | atEnd
    · have split : shift * binade + steps = steps - binade + (shift + 1) * binade := by omega
      rw [split, Nat.add_mul_mod_self_right, Nat.add_mul_div_right _ _ pos,
        Nat.mod_eq_of_lt (by omega), Nat.div_eq_of_lt (by omega),
        show binade + (steps - binade) = steps by omega,
        show 0 + (shift + 1) - 1 = shift by omega]
    -- The end of a binade is the first rank of the next one.
    · have last : steps = 2 * binade := by omega
      rw [last, ← expand', Nat.mul_mod_left, Nat.mul_div_cancel _ pos]
      rw [show shift + 2 - 1 = shift + 1 by omega, pow_succ]
      ring

/-- Every rank is a count of steps in some binade. -/
theorem exists_steps (rank : Nat) :
    ∃ shift steps, rank = shift * binade + steps ∧ (shift = 0 ∨ binade ≤ steps) ∧
      steps < 2 * binade := by
  have pos := binade_pos
  have exact := Nat.div_add_mod' rank binade
  have small := Nat.mod_lt rank pos
  rcases Nat.eq_zero_or_pos (rank / binade) with first | later
  · refine ⟨0, rank, by simp, .inl rfl, ?_⟩
    rw [first] at exact
    omega
  · obtain ⟨shift, next⟩ := Nat.exists_eq_succ_of_ne_zero (Nat.pos_iff_ne_zero.1 later)
    rw [next, Nat.succ_mul] at exact
    exact ⟨shift, binade + rank % binade, by omega, .inr (by omega), by omega⟩

theorem units_strictMono : StrictMono units := by
  refine strictMono_nat_of_lt_succ fun rank => ?_
  obtain ⟨shift, steps, rfl, normal, below⟩ := exists_steps rank
  rw [Nat.add_assoc, units_steps shift steps normal (by omega),
    units_steps shift (steps + 1) (by omega) (by omega)]
  exact Nat.mul_lt_mul_of_pos_right (Nat.lt_succ_self _) (Nat.two_pow_pos _)

/-! ### The rank of a ratio -/

/-- The binary exponent that decides on the width of the steps. -/
theorem lt_two_pow_of_log2 {n shift : Nat} (h : shift = Nat.log2 n - 52) :
    n < 2 ^ (shift + 53) ∧ (shift = 0 ∨ 2 ^ (shift + 52) ≤ n) := by
  constructor
  · refine lt_of_lt_of_le Nat.lt_log2_self (Nat.pow_le_pow_right (by decide) ?_)
    omega
  · rcases Nat.eq_zero_or_pos shift with none | some
    · exact .inl none
    · right
      have large : n ≠ 0 := by
        rintro rfl
        rw [Nat.log2_zero] at h
        omega
      rw [show shift + 52 = Nat.log2 n by omega]
      exact Nat.log2_self_le large

theorem binade_eq : binade = 2 ^ 52 := by norm_num [binade]

/-- The shift of a ratio and its count of steps, which is that of a binade. -/
theorem roundRank_steps (num : Nat) {den : Nat} (hd : 0 < den) :
    ∃ shift, shift = Nat.log2 (num / den) - 52 ∧
      roundRank num den = shift * binade + roundHalfEven num (den * 2 ^ shift) ∧
      (shift = 0 ∨ binade ≤ roundHalfEven num (den * 2 ^ shift)) ∧
      roundHalfEven num (den * 2 ^ shift) ≤ 2 * binade := by
  refine ⟨Nat.log2 (num / den) - 52, rfl, by rw [roundRank, Nat.shiftLeft_eq], ?_, ?_⟩ <;>
    generalize hs : Nat.log2 (num / den) - 52 = shift <;>
    obtain ⟨below, above⟩ := lt_two_pow_of_log2 hs.symm <;>
    have step : 0 < den * 2 ^ shift := Nat.mul_pos hd (Nat.two_pow_pos _)
  · rcases above with none | above
    · exact .inl none
    · right
      rw [← roundHalfEven_mul binade step]
      refine roundHalfEven_mono step step (Nat.mul_le_mul_right _ ?_)
      rw [Nat.le_div_iff_mul_le hd] at above
      calc binade * (den * 2 ^ shift) = 2 ^ (shift + 52) * den := by
            rw [binade_eq, pow_add]
            ring
        _ ≤ num := above
  · rw [← roundHalfEven_mul (2 * binade) step]
    refine roundHalfEven_mono step step (Nat.mul_le_mul_right _ ?_)
    rw [Nat.div_lt_iff_lt_mul hd] at below
    calc num ≤ 2 ^ (shift + 53) * den := below.le
      _ = 2 * binade * (den * 2 ^ shift) := by
          rw [binade_eq, pow_add]
          ring

theorem units_roundRank (num : Nat) {den : Nat} (hd : 0 < den) :
    units (roundRank num den) =
      roundHalfEven num (den * 2 ^ (Nat.log2 (num / den) - 52)) *
        2 ^ (Nat.log2 (num / den) - 52) := by
  obtain ⟨shift, rfl, rank, normal, le⟩ := roundRank_steps num hd
  rw [rank, units_steps _ _ normal le]

/-- A greater ratio does not get a smaller rank. -/
theorem roundRank_mono {num den num' den' : Nat} (hd : 0 < den) (hd' : 0 < den')
    (le : num * den' ≤ num' * den) : roundRank num den ≤ roundRank num' den' := by
  obtain ⟨shift, hs, rank, -, most⟩ := roundRank_steps num hd
  obtain ⟨shift', hs', rank', normal, -⟩ := roundRank_steps num' hd'
  have quotients : num / den ≤ num' / den' := by
    rw [Nat.le_div_iff_mul_le hd']
    refine Nat.le_of_mul_le_mul_right ?_ hd
    calc num / den * den' * den = num / den * den * den' := by ring
      _ ≤ num * den' := Nat.mul_le_mul_right _ (Nat.div_mul_le_self num den)
      _ ≤ num' * den := le
  have shifts : shift ≤ shift' := by
    rw [hs, hs', Nat.log2_eq_log_two, Nat.log2_eq_log_two]
    exact Nat.sub_le_sub_right (Nat.log_mono_right quotients) 52
  rw [rank, rank']
  rcases Nat.eq_or_lt_of_le shifts with same | less
  · subst same
    refine Nat.add_le_add_left (roundHalfEven_mono ?_ ?_ ?_) _
    · exact Nat.mul_pos hd (Nat.two_pow_pos _)
    · exact Nat.mul_pos hd' (Nat.two_pow_pos _)
    · rw [← Nat.mul_assoc, ← Nat.mul_assoc]
      exact Nat.mul_le_mul_right _ le
  -- A whole binade lies between the two ranks.
  · have apart : (shift + 1) * binade ≤ shift' * binade := Nat.mul_le_mul_right _ less
    rw [Nat.succ_mul] at apart
    have := normal.resolve_left (by omega)
    omega

/-- Equal ratios have one rank. -/
theorem roundRank_congr {num den num' den' : Nat} (hd : 0 < den) (hd' : 0 < den')
    (eq : num * den' = num' * den) : roundRank num den = roundRank num' den' :=
  le_antisymm (roundRank_mono hd hd' eq.le) (roundRank_mono hd' hd eq.ge)

/-- What is a magnitude already keeps its rank. -/
theorem roundRank_units (rank : Nat) : roundRank (units rank) 1 = rank := by
  obtain ⟨shift, steps, rfl, normal, below⟩ := exists_steps rank
  rw [units_steps shift steps normal below.le]
  have width : Nat.log2 (steps * 2 ^ shift / 1) - 52 = shift := by
    rw [Nat.div_one]
    rw [binade_eq] at normal below
    rcases normal with rfl | large
    · rcases Nat.eq_zero_or_pos steps with rfl | some
      · simp
      · have := (Nat.log2_lt some.ne').2 (show steps < 2 ^ 53 by omega)
        rw [pow_zero, mul_one]
        omega
    · have some : steps * 2 ^ shift ≠ 0 := by positivity
      rw [(Nat.log2_eq_iff some).2 ⟨?_, ?_⟩, Nat.add_sub_cancel_left]
      · rw [pow_add]
        exact Nat.mul_le_mul_right _ large
      · rw [show 52 + shift + 1 = 53 + shift by omega, pow_add]
        exact Nat.mul_lt_mul_of_pos_right (by omega) (Nat.two_pow_pos _)
  rw [roundRank, width, Nat.shiftLeft_eq, one_mul, roundHalfEven_mul _ (Nat.two_pow_pos _)]

/-- The rounded magnitude is off by half a step at most, and a step is either a
unit or at most a part in 2^52 of the ratio. -/
theorem units_roundRank_error (num : Nat) {den : Nat} (hd : 0 < den) :
    ∃ step, (step = 1 ∨ 2 ^ 52 * (den * step) ≤ num) ∧
      2 * num ≤ 2 * (units (roundRank num den) * den) + den * step ∧
      2 * (units (roundRank num den) * den) ≤ 2 * num + den * step := by
  obtain ⟨-, large⟩ := lt_two_pow_of_log2 (n := num / den) rfl
  obtain ⟨low, high⟩ := roundHalfEven_error num
    (den * 2 ^ (Nat.log2 (num / den) - 52)) (Nat.mul_pos hd (Nat.two_pow_pos _))
  rw [units_roundRank num hd]
  generalize Nat.log2 (num / den) - 52 = shift at *
  refine ⟨2 ^ shift, ?_, ?_, ?_⟩
  · rcases large with none | large
    · left
      rw [none, pow_zero]
    · right
      rw [Nat.le_div_iff_mul_le hd, pow_add] at large
      linarith
  · linarith
  · linarith

/-! ### The end of the ranks -/

/-- Half a step above the greatest magnitude, in units. -/
def limitUnits : Nat := (2 ^ 54 - 1) * 2 ^ 2044

theorem roundRank_limitUnits : roundRank limitUnits 1 = rankCount := by decide +kernel

/-- A ratio has the rank of a finite number exactly if it is below the limit, at which the even
neighbour is the one above. -/
theorem roundRank_lt_rankCount_iff (num : Nat) {den : Nat} (hd : 0 < den) :
    roundRank num den < rankCount ↔ num < den * limitUnits := by
  constructor
  · intro fits
    by_contra large
    have last : roundRank limitUnits 1 ≤ roundRank num den := by
      apply roundRank_mono Nat.one_pos hd
      rw [mul_comm, mul_one]
      exact not_lt.1 large
    rw [roundRank_limitUnits] at last
    exact absurd fits (not_lt.2 last)
  · intro small
    obtain ⟨shift, hs, rank, -, most⟩ := roundRank_steps num hd
    rw [rank, rankCount]
    rcases Nat.lt_or_ge shift 2045 with below | last
    · have := Nat.mul_le_mul_right binade (Nat.le_of_lt_succ below)
      have := binade_pos
      omega
    -- In the last binade, the steps are too few for the rank after it.
    · have only : shift ≤ 2045 := by
        have bound : num / den < 2 ^ 2098 := by
          rw [Nat.div_lt_iff_lt_mul hd, mul_comm]
          refine small.trans_le (Nat.mul_le_mul_left den ?_)
          decide +kernel
        rcases Nat.eq_zero_or_pos (num / den) with none | some
        · rw [hs, none, Nat.log2_zero]
          omega
        · have := (Nat.log2_lt some.ne').2 bound
          omega
      obtain rfl : shift = 2045 := le_antisymm only last
      have steps : roundHalfEven num (den * 2 ^ 2045) < 2 ^ 53 := by
        apply roundHalfEven_lt
        rw [limitUnits] at small
        have twice : den * 2 ^ 2045 = 2 * (den * 2 ^ 2044) := by
          rw [pow_succ 2 2044, ← Nat.mul_assoc, Nat.mul_comm]
        have inSteps : den * ((2 ^ 54 - 1) * 2 ^ 2044) = (2 ^ 54 - 1) * (den * 2 ^ 2044) :=
          Nat.mul_left_comm _ _ _
        rw [inSteps] at small
        rw [twice]
        omega
      rw [binade_eq]
      omega

end Binary64
end AccessTrace
