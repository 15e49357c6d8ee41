/-
Module: AccessTrace.Proofs.Parameter.Endings
Purpose: The endings of a unit, and how they are taken off a text.
Main exports:
  SizeUnit.run, factor, NoSmall, dropUnit_append_run, exists_run_of_unitAtEnd?
-/
import Mathlib
import AccessTrace.Proofs.Parameter.Integers

namespace AccessTrace.Parameter

open AccessTrace.Text

/-!
The ending of a unit is its letter with or without `b`, and it may be repeated.
It is taken off from behind, first the pairs of letter and `b` and then the
letters alone.  What is taken off is an ending, and all of it is taken off where
no small letter stands in front of it.
-/

/-! ### Units -/

namespace SizeUnit

/-- So many times the letter of a unit, and then so many times the letter with
`b` behind it. -/
def run (unit : SizeUnit) (singles pairs : Nat) : List Char :=
  List.replicate singles unit.letter ++ (List.replicate pairs [unit.letter, 'b']).flatten

/-- How often a unit takes the factor 1024. -/
def exponent : SizeUnit → Nat
  | .kibi => 1
  | .mebi => 2
  | .gibi => 3
  | .tebi => 4

theorem isLower_letter (unit : SizeUnit) : unit.letter.isLower = true := by
  cases unit <;> rfl

theorem letter_ne_b (unit : SizeUnit) : unit.letter ≠ 'b' := by
  cases unit <;> decide

theorem ofLetter?_eq_some_iff {c : Char} {unit : SizeUnit} :
    ofLetter? c = some unit ↔ c = unit.letter := by
  constructor
  · intro found
    have letter := List.find?_some found
    exact (eq_of_beq letter).symm
  · rintro rfl
    cases unit <;> rfl

theorem reverse_run (unit : SizeUnit) (singles pairs : Nat) :
    (unit.run singles pairs).reverse =
      (List.replicate pairs ['b', unit.letter]).flatten ++ List.replicate singles unit.letter := by
  rw [run, List.reverse_append, List.reverse_flatten, List.map_replicate, List.reverse_replicate,
    List.reverse_replicate]
  rfl

theorem mem_run {unit : SizeUnit} {singles pairs : Nat} {c : Char}
    (member : c ∈ unit.run singles pairs) : c = unit.letter ∨ c = 'b' := by
  rw [run, List.mem_append, List.mem_replicate, List.mem_flatten] at member
  rcases member with ⟨-, letter⟩ | ⟨pair, isPair, inPair⟩
  · exact .inl letter
  · rw [(List.mem_replicate.1 isPair).2, List.mem_pair] at inPair
    exact inPair

theorem isLower_of_mem_run (unit : SizeUnit) (singles pairs : Nat) {c : Char}
    (member : c ∈ unit.run singles pairs) : c.isLower = true := by
  rcases mem_run member with rfl | rfl
  · exact unit.isLower_letter
  · rfl

theorem run_ne_nil {unit : SizeUnit} {singles pairs : Nat} (some : 0 < singles + pairs) :
    unit.run singles pairs ≠ [] := by
  intro none
  have length := congrArg List.length none
  simp [run] at length
  omega

end SizeUnit

/-- How many bytes one of a unit is. -/
def factor : Option SizeUnit → Int
  | none => 1
  | some unit => 1024 ^ unit.exponent

theorem factor_some (unit : SizeUnit) : factor (some unit) = unit.bytes := by
  cases unit <;> rfl

theorem one_le_factor (unit : Option SizeUnit) : 1 ≤ factor unit := by
  cases unit with
  | none => exact le_refl 1
  | some unit => exact one_le_pow₀ (by decide)

/-! ### Taking an ending off -/

/-- No small letter is in a text. -/
def NoSmall (text : List Char) : Prop :=
  ∀ c ∈ text, c.isLower = false

theorem NoSmall.append {first second : List Char} (one : NoSmall first) (two : NoSmall second) :
    NoSmall (first ++ second) := by
  intro c member
  exact (List.mem_append.1 member).elim (one c) (two c)

/-- Without a small letter a text has none at its end. -/
theorem NoSmall.head_reverse {text : List Char} (plain : NoSmall text) {c : Char}
    (small : c.isLower = true) : text.reverse.head? ≠ some c := by
  intro first
  have member : c ∈ text := List.mem_reverse.1 (List.mem_of_head? first)
  rw [plain c member] at small
  cases small

theorem dropPairs_of_head {letter : Char} {text : List Char} (first : text.head? ≠ some 'b') :
    dropPairs letter text = text := by
  unfold dropPairs
  split
  · exact absurd rfl first
  · rfl

theorem dropPairs_flatten (letter : Char) (pairs : Nat) {rest : List Char}
    (first : rest.head? ≠ some 'b') :
    dropPairs letter ((List.replicate pairs ['b', letter]).flatten ++ rest) = rest := by
  induction pairs with
  | zero => exact dropPairs_of_head first
  | succ pairs ih =>
      rw [List.replicate_succ, List.flatten_cons]
      simpa [dropPairs] using ih

/-- Only pairs are taken off. -/
theorem exists_pairs (letter : Char) (text : List Char) :
    ∃ pairs, text = (List.replicate pairs ['b', letter]).flatten ++ dropPairs letter text := by
  fun_induction dropPairs letter text with
  | case1 rest ih =>
      obtain ⟨pairs, split⟩ := ih
      refine ⟨pairs + 1, ?_⟩
      rw [List.replicate_succ, List.flatten_cons, List.append_assoc, ← split]
      rfl
  | case2 c rest other => exact ⟨0, rfl⟩
  | case3 text noPair => exact ⟨0, rfl⟩

theorem exists_singles (letter : Char) (text : List Char) :
    ∃ singles, text = List.replicate singles letter ++ text.dropWhile (· == letter) := by
  refine ⟨(text.takeWhile (· == letter)).length, ?_⟩
  have same : text.takeWhile (· == letter) =
      List.replicate (text.takeWhile (· == letter)).length letter :=
    List.eq_replicate_of_mem fun c member => by simpa using List.mem_takeWhile_imp member
  rw [← same, List.takeWhile_append_dropWhile]

/-- An ending is taken off whole where no small letter stands in front of it. -/
theorem dropUnit_append_run (unit : SizeUnit) {front : List Char} (plain : NoSmall front)
    (singles pairs : Nat) : dropUnit unit (front ++ unit.run singles pairs) = front := by
  have noB : (List.replicate singles unit.letter ++ front.reverse).head? ≠ some 'b' := by
    cases singles with
    | zero => exact plain.head_reverse rfl
    | succ singles => simpa [List.replicate_succ] using unit.letter_ne_b
  have noLetter : front.reverse.dropWhile (· == unit.letter) = front.reverse := by
    cases reversed : front.reverse with
    | nil => rfl
    | cons c rest =>
        have other : c ≠ unit.letter := by
          rintro rfl
          exact plain.head_reverse unit.isLower_letter (by rw [reversed]; rfl)
        exact List.dropWhile_cons_of_neg (by simpa using other)
  rw [dropUnit, List.reverse_append, SizeUnit.reverse_run, List.append_assoc,
    dropPairs_flatten _ _ noB, List.dropWhile_append_of_pos, noLetter, List.reverse_reverse]
  intro c member
  simp [(List.mem_replicate.1 member).2]

theorem unitAtEnd?_append_run (unit : SizeUnit) {singles pairs : Nat} (front : List Char)
    (some : 0 < singles + pairs) :
    unitAtEnd? (front ++ unit.run singles pairs).reverse = Option.some unit := by
  have letter := SizeUnit.ofLetter?_eq_some_iff.2 (rfl : unit.letter = unit.letter)
  rw [List.reverse_append, SizeUnit.reverse_run]
  cases pairs with
  | succ pairs => exact letter
  | zero =>
      obtain ⟨singles, rfl⟩ : ∃ more, singles = more + 1 := ⟨singles - 1, by omega⟩
      rw [List.replicate_zero, List.flatten_nil, List.nil_append, List.replicate_succ,
        List.cons_append]
      unfold unitAtEnd?
      split
      · rename_i text
        exact absurd (List.cons.inj text).1 unit.letter_ne_b
      · rename_i text
        rw [← (List.cons.inj text).1]
        exact letter
      · rename_i text
        cases text

theorem unitAtEnd?_of_noSmall {text : List Char} (plain : NoSmall text) :
    unitAtEnd? text.reverse = none := by
  cases found : unitAtEnd? text.reverse with
  | none => rfl
  | some unit =>
      unfold unitAtEnd? at found
      split at found
      · rename_i reversed
        exact absurd (by rw [reversed]; rfl) (plain.head_reverse (c := 'b') rfl)
      · rename_i c rest _ reversed
        rw [SizeUnit.ofLetter?_eq_some_iff] at found
        exact absurd (by rw [reversed, found]; rfl) (plain.head_reverse unit.isLower_letter)
      · cases found

/-- What is taken off a text with a unit at its end is an ending of that unit. -/
theorem exists_run_of_unitAtEnd? {text : List Char} {unit : SizeUnit}
    (found : unitAtEnd? text.reverse = some unit) :
    ∃ singles pairs, 0 < singles + pairs ∧ text = dropUnit unit text ++ unit.run singles pairs := by
  have split : ∃ singles pairs, 0 < singles + pairs ∧
      text.reverse = (List.replicate pairs ['b', unit.letter]).flatten ++
        (List.replicate singles unit.letter ++
          (dropPairs unit.letter text.reverse).dropWhile (· == unit.letter)) := by
    unfold unitAtEnd? at found
    split at found
    · -- A pair is taken off at least.
      rename_i c rest reversed
      obtain rfl := SizeUnit.ofLetter?_eq_some_iff.1 found
      obtain ⟨pairs, taken⟩ := exists_pairs unit.letter rest
      obtain ⟨singles, left⟩ := exists_singles unit.letter (dropPairs unit.letter rest)
      refine ⟨singles, pairs + 1, by omega, ?_⟩
      have step : dropPairs unit.letter ('b' :: unit.letter :: rest) =
          dropPairs unit.letter rest := by
        simp [dropPairs]
      rw [reversed, step, ← left, List.replicate_succ, List.flatten_cons, List.append_assoc,
        ← taken]
      rfl
    · -- There is no pair, and a letter is taken off at least.
      rename_i c rest _ reversed
      obtain rfl := SizeUnit.ofLetter?_eq_some_iff.1 found
      obtain ⟨singles, left⟩ := exists_singles unit.letter rest
      refine ⟨singles + 1, 0, by omega, ?_⟩
      have kept : dropPairs unit.letter (unit.letter :: rest) = unit.letter :: rest :=
        dropPairs_of_head (by simpa using unit.letter_ne_b)
      rw [reversed, kept, List.dropWhile_cons_of_pos (by simp), List.replicate_succ,
        List.cons_append, ← left]
      rfl
    · cases found
  obtain ⟨singles, pairs, some, reversed⟩ := split
  refine ⟨singles, pairs, some, ?_⟩
  have forwards := congrArg List.reverse reversed
  rw [List.reverse_reverse, ← List.append_assoc, ← SizeUnit.reverse_run, List.reverse_append,
    List.reverse_reverse] at forwards
  exact forwards

end AccessTrace.Parameter
