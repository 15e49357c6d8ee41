/-
Module: AccessTrace.Proofs.Summary.Grouped
Purpose: Counts with commas: the digits of the count, cut into groups of three from the right.
Main exports:
  Grouped.separate_cons, Grouped.Grouping, Grouped.grouping_ofNat, Summary.grouped_in_threes
-/
import Mathlib
import AccessTrace.Proofs.TraceFile.Grammar
import AccessTrace.Summary

namespace AccessTrace

open AccessTrace.Text

/-!
The commas are set from the left, by how many digits are still to come.  The
groups come out by induction on the digits: a digit in front of a first group
that is full begins a group of its own, and otherwise it joins the first group.
-/

namespace Text.Grouped

/-- A digit in front of others is cut off from them exactly if their count is a
multiple of three. -/
theorem separate_cons (d : Char) {digits : List Char} (some : digits ≠ []) :
    separate (d :: digits) =
      if digits.length % 3 = 0 then d :: ',' :: separate digits else d :: separate digits := by
  obtain ⟨e, rest, rfl⟩ := List.exists_cons_of_ne_nil some
  rfl

/-- Without its commas, a text is the digits again. -/
theorem filter_separate {digits : List Char} (noComma : ∀ d ∈ digits, d ≠ ',') :
    (separate digits).filter (· ≠ ',') = digits := by
  induction digits with
  | nil => rfl
  | cons d digits ih =>
      obtain ⟨first, others⟩ := List.forall_mem_cons.1 noComma
      have keep (rest : List Char) :
          (d :: rest).filter (· ≠ ',') = d :: rest.filter (· ≠ ',') :=
        List.filter_cons_of_pos (by simpa using first)
      have drop (rest : List Char) : (',' :: rest).filter (· ≠ ',') = rest.filter (· ≠ ',') :=
        List.filter_cons_of_neg (by simp)
      rcases eq_or_ne digits [] with rfl | some
      · exact keep []
      · rw [separate_cons d some]
        split
        · rw [keep, drop, ih others]
        · rw [keep, ih others]

/-- The groups between the commas: the first of them takes what is left over from the others,
which are full. -/
theorem splitOn_separate {digits : List Char} (noComma : ∀ d ∈ digits, d ≠ ',')
    (some : digits ≠ []) :
    ∃ first others, (separate digits).splitOn ',' = first :: others ∧
      (first :: others).flatten = digits ∧
      first.length = (digits.length - 1) % 3 + 1 ∧ ∀ group ∈ others, group.length = 3 := by
  induction digits with
  | nil => exact absurd rfl some
  | cons d digits ih =>
      obtain ⟨noComma_d, noComma_digits⟩ := List.forall_mem_cons.1 noComma
      have join (rest : List Char) :
          (d :: rest).splitOn ',' = (rest.splitOn ',').modifyHead (d :: ·) := by
        rw [List.splitOn_cons_eq_if_modifyHead, if_neg (by simpa using noComma_d)]
      have cutOff (rest : List Char) : (',' :: rest).splitOn ',' = [] :: rest.splitOn ',' := by
        rw [List.splitOn_cons_eq_if_modifyHead, if_pos (by simp)]
      rcases eq_or_ne digits [] with rfl | more
      · exact ⟨[d], [], join [], rfl, rfl, List.forall_mem_nil _⟩
      · obtain ⟨first, others, cut, row, length, full⟩ := ih noComma_digits more
        have positive := List.length_pos_iff.2 more
        rw [separate_cons d more, List.length_cons]
        split
        · -- All groups are full, and the digit stands alone in front of them.
          refine ⟨[d], first :: others, by rw [join, cutOff, cut, List.modifyHead_cons], ?_, ?_, ?_⟩
          · rw [List.flatten_cons, row, List.singleton_append]
          · rw [List.length_singleton]
            omega
          · exact List.forall_mem_cons.2 ⟨by omega, full⟩
        · refine ⟨d :: first, others, by rw [join, cut, List.modifyHead_cons], ?_, ?_, full⟩
          · rw [List.flatten_cons, List.cons_append, ← List.flatten_cons, row]
          · rw [List.length_cons]
            omega

theorem head?_separate (digits : List Char) : (separate digits).head? = digits.head? := by
  cases digits with
  | nil => rfl
  | cons d digits =>
      rcases eq_or_ne digits [] with rfl | some
      · rfl
      · rw [separate_cons d some]
        split <;> rfl

theorem getLast?_separate (digits : List Char) : (separate digits).getLast? = digits.getLast? := by
  induction digits with
  | nil => rfl
  | cons d digits ih =>
      rcases eq_or_ne digits [] with rfl | some
      · rfl
      · have last := List.getLast?_eq_getLast_of_ne_nil some
        rw [separate_cons d some, List.getLast?_cons, last]
        split
        · rw [List.getLast?_cons, List.getLast?_cons, ih, last]
          rfl
        · rw [List.getLast?_cons, ih, last]

/-- A text that is a number with its digits in groups. -/
structure Grouping (n : Nat) (text : List Char) : Prop where
  /-- Without the commas, it is the numeral of the number. -/
  digits : text.filter (· ≠ ',') = Numeral.ofNat n
  /-- There is no zero in front of other digits. -/
  plain : Numeral.Plain (text.filter (· ≠ ','))
  notFirst : text.head? ≠ some ','
  notLast : text.getLast? ≠ some ','
  /-- The digits are in groups of three, but the first group may have fewer of them. -/
  groups : ∃ first others, text.splitOn ',' = first :: others ∧
    (first :: others).flatten = Numeral.ofNat n ∧
    1 ≤ first.length ∧ first.length ≤ 3 ∧ ∀ group ∈ others, group.length = 3

theorem grouping_ofNat (n : Nat) : Grouping n (ofNat n) := by
  have noComma : ∀ d ∈ Numeral.ofNat n, d ≠ ',' := by
    rintro _ member rfl
    exact absurd (Numeral.isDigit_of_mem_ofNat member) (by decide)
  have digits : (ofNat n).filter (· ≠ ',') = Numeral.ofNat n := filter_separate noComma
  constructor
  · exact digits
  · rw [digits]
    exact Numeral.plain_ofNat n
  · rw [ofNat, head?_separate]
    exact fun comma => noComma _ (List.mem_of_mem_head? comma) rfl
  · rw [ofNat, getLast?_separate]
    exact fun comma => noComma _ (List.mem_of_getLast? comma) rfl
  · obtain ⟨first, others, cut, row, length, full⟩ :=
      splitOn_separate noComma (Numeral.ofNat_ne_nil n)
    exact ⟨first, others, cut, row, by omega, by omega, full⟩

end Text.Grouped

/-- Every count in a summary has its digits in groups of three. -/
theorem Summary.grouped_in_threes (count : UInt64) :
    Grouped.Grouping count.toNat (Summary.grouped count).toList := by
  rw [Summary.grouped, String.toList_ofList]
  exact Grouped.grouping_ofNat count.toNat

/-- The first group may be a short one. -/
example : Summary.grouped 0xFFFFFFFFFFFFFFFF = "18,446,744,073,709,551,615" := by decide +kernel

end AccessTrace
