/-
Module: AccessTrace.Proofs.Source.Scripted
Purpose: What a script answers to requests in any order, known before any draw is made.
Main exports:
  Scripted.draw?, Scripted.drawAll?, Scripted.valuesUsed, Scripted.Answers, Scripted.Follows,
  Scripted.Foretold, Scripted.foretold
-/
import Mathlib
import AccessTrace.Proofs.Generator.Checked
import AccessTrace.Proofs.Source.Honest

namespace AccessTrace.Scripted

open AddressSource (drawAll)
open Checked (add? sub?)

/-!
A request for one address leaves the script where it is, every other request
goes on by one value, and both are counted as draws.  So the place in the
script is known from the requests alone: it is the count of the requests for
more than one address, taken around the length of the script.
-/

/-! ### Checked draws -/

/-- The remainder, if the divisor is not zero. -/
def mod? (a b : UInt64) : Option UInt64 :=
  if b.toNat = 0 then none else some (a % b)

/-- A value folded into a range.  The count of addresses is formed only where a
word can hold it; a range of all addresses takes the value as it is. -/
def fold? (low high value : UInt64) : Option UInt64 := do
  let width ← sub? high low
  if width.toNat = 2 ^ 64 - 1 then return value
  else
    let count ← add? width 1
    let rest ← mod? value count
    add? low rest

/-- The next answer of a script.  There is none if the place in the script is
not one of its values, or if an operation on words has no result. -/
def draw? (low high : UInt64) (source : Scripted) : Option (UInt64 × Scripted) :=
  let counted := { source with draws := source.draws + 1 }
  match source.script with
  | .highest => some (high, counted)
  | .replay values =>
    if values.isEmpty ∨ high ≤ low then some (low, counted)
    else do
      let value ← values[source.position]?
      let answer ← fold? low high value
      return (answer, { counted with position := (source.position + 1) % values.size })

/-- The answers to several requests, all of them checked. -/
def drawAll? : List (UInt64 × UInt64) → Scripted → Option (List UInt64 × Scripted)
  | [], source => some ([], source)
  | (low, high) :: ranges, source => do
    let (answer, source) ← draw? low high source
    let (answers, source) ← drawAll? ranges source
    return (answer :: answers, source)

theorem drawAll_cons (low high : UInt64) (ranges : List (UInt64 × UInt64)) (source : Scripted) :
    drawAll ((low, high) :: ranges) source =
      ((draw low high source).1 :: (drawAll ranges (draw low high source).2).1,
        (drawAll ranges (draw low high source).2).2) := rfl

theorem drawAll?_cons {low high : UInt64} {ranges : List (UInt64 × UInt64)} {source : Scripted}
    (first : draw? low high source = some (draw low high source))
    (others : drawAll? ranges (draw low high source).2 =
      some (drawAll ranges (draw low high source).2)) :
    drawAll? ((low, high) :: ranges) source = some (drawAll ((low, high) :: ranges) source) := by
  simp only [drawAll?, first, others, drawAll_cons, Option.bind_eq_bind, Option.bind_some]
  rfl

/-- No operation of a fold leaves its words. -/
theorem fold?_eq {low high : UInt64} (range : low ≤ high) (value : UInt64) :
    fold? low high value = some (fold low high value) := by
  have high_lt := high.toNat_lt
  have width : (high - low).toNat = high.toNat - low.toNat := UInt64.toNat_sub_of_le _ _ range
  have difference : sub? high low = some (high - low) :=
    Checked.sub?_of_le (UInt64.le_iff_toNat_le.1 range)
  rw [fold?, difference, Option.bind_eq_bind, Option.bind_some, width]
  rcases count_cases range with ⟨all, widest⟩ | ⟨nonzero, count⟩
  · rw [if_pos widest]
    simp only [fold, all, if_true]
    rfl
  · rw [UInt64.le_iff_toNat_le] at range
    have count_lt := (high - low + 1).toNat_lt
    have fits : (high - low).toNat + (1 : UInt64).toNat < 2 ^ 64 := by
      rw [UInt64.toNat_one]
      omega
    have remainder : mod? value (high - low + 1) = some (value % (high - low + 1)) :=
      if_neg (by omega)
    have below := Nat.mod_lt value.toNat (by omega : high.toNat - low.toNat + 1 > 0)
    have sum : low.toNat + (value % (high - low + 1)).toNat < 2 ^ 64 := by
      rw [UInt64.toNat_mod, count]
      omega
    rw [if_neg (by omega), Checked.add?_of_lt fits, Option.bind_some, remainder,
      Option.bind_some, Checked.add?_of_lt sum]
    simp only [fold, if_neg nonzero]

/-! ### One draw -/

/-- How many values of a script some requests use up: one for each request for
more than one address. -/
def valuesUsed (ranges : List (UInt64 × UInt64)) : Nat :=
  ranges.countP fun range => range.1 < range.2

/-- The answer to a request after so many values have been used up, by sums and
remainders without any bound. -/
inductive Answers (values : Array UInt64) (used : Nat) (low high answer : UInt64) : Prop where
  | low (fixed : values = #[] ∨ low = high) (same : answer = low)
  | folded (wide : low < high) (value : UInt64) (found : values[used % values.size]? = some value)
      (exact : answer.toNat = low.toNat + value.toNat % (high.toNat - low.toNat + 1))

/-- The state of a script after some requests. -/
structure Follows (values : Array UInt64) (earlier : List (UInt64 × UInt64))
    (source : Scripted) : Prop where
  script : source.script = .replay values
  position : values ≠ #[] → source.position = valuesUsed earlier % values.size
  draws : source.draws = earlier.length

theorem follows_replay (values : Array UInt64) : Follows values [] (replay values) where
  script := rfl
  position := fun _ => (Nat.zero_mod _).symm
  draws := rfl

theorem valuesUsed_append (ranges : List (UInt64 × UInt64)) (low high : UInt64) :
    valuesUsed (ranges ++ [(low, high)]) = valuesUsed ranges + if low < high then 1 else 0 := by
  simp [valuesUsed, List.countP_cons]

section
variable {values : Array UInt64} {source : Scripted} {low high : UInt64}
  (script : source.script = .replay values)
include script

/-- Without a value to use up, a draw only counts. -/
theorem draw_of_fixed (fixed : values = #[] ∨ high ≤ low) :
    draw low high source = (low, { source with draws := source.draws + 1 }) ∧
      draw? low high source = some (draw low high source) := by
  have answer : draw low high source = (low, { source with draws := source.draws + 1 }) := by
    rw [draw, script]
    rcases fixed with rfl | single
    · simp
    · simp [single]
  refine ⟨answer, ?_⟩
  rw [answer, draw?, script]
  exact if_pos (by simpa using fixed)

/-- Where there is a value, a draw folds it and goes on to the next one. -/
theorem draw_of_found (wide : low < high) {value : UInt64}
    (found : values[source.position]? = some value) :
    draw low high source =
        (fold low high value,
          { source with
            position := (source.position + 1) % values.size
            draws := source.draws + 1 }) ∧
      draw? low high source = some (draw low high source) := by
  have several : ¬high ≤ low := UInt64.not_le.2 wide
  have nonempty : ¬(values.isEmpty = true ∨ high ≤ low) := by
    rintro (empty | single)
    · rw [Array.isEmpty_iff.1 empty] at found
      simp at found
    · exact several single
  have answer : draw low high source =
      (fold low high value,
        { source with
          position := (source.position + 1) % values.size
          draws := source.draws + 1 }) := by
    simp only [draw, script, if_neg several, found]
  refine ⟨answer, ?_⟩
  simp only [answer, draw?, script, if_neg nonempty, found, fold?_eq (UInt64.le_of_lt wide),
    Option.bind_eq_bind, Option.bind_some]
  rfl

end

section
variable {values : Array UInt64} {earlier : List (UInt64 × UInt64)} {source : Scripted}
  (follows : Follows values earlier source)
include follows

/-- Every draw has a checked answer, and the script still follows the requests after it. -/
theorem Follows.draw {low high : UInt64} (range : low ≤ high) :
    draw? low high source = some (draw low high source) ∧
      Answers values (valuesUsed earlier) low high (draw low high source).1 ∧
      Follows values (earlier ++ [(low, high)]) (draw low high source).2 := by
  obtain ⟨script, position, draws⟩ := follows
  have counted : source.draws + 1 = (earlier ++ [(low, high)]).length := by
    rw [List.length_append, List.length_singleton, draws]
  by_cases fixed : values = #[] ∨ high ≤ low
  · obtain ⟨answer, checked⟩ := draw_of_fixed script fixed
    rw [checked, answer]
    refine ⟨rfl, .low ?_ rfl, ⟨script, ?_, counted⟩⟩
    · exact fixed.imp_right (UInt64.le_antisymm range)
    · intro nonempty
      have single : ¬low < high := UInt64.not_lt.2 (fixed.resolve_left nonempty)
      rw [valuesUsed_append, if_neg single]
      exact position nonempty
  · obtain ⟨nonempty, several⟩ := not_or.1 fixed
    have wide : low < high := UInt64.not_le.1 several
    have size : 0 < values.size := Array.size_pos_iff.2 nonempty
    have inside : source.position < values.size := by
      rw [position nonempty]
      exact Nat.mod_lt _ size
    have found := Array.getElem?_eq_getElem inside
    obtain ⟨answer, checked⟩ := draw_of_found script wide found
    rw [checked, answer]
    refine ⟨rfl, .folded wide _ ?_ (toNat_fold range _), ⟨script, ?_, counted⟩⟩
    · rw [← position nonempty]
      exact found
    · intro _
      rw [valuesUsed_append, if_pos wide]
      change (source.position + 1) % values.size = _
      rw [position nonempty, Nat.mod_add_mod]

/-! ### Several draws -/

/-- All draws have checked answers, each of them after those in front of it. -/
theorem Follows.drawAll {ranges : List (UInt64 × UInt64)}
    (valid : ∀ range ∈ ranges, range.1 ≤ range.2) :
    drawAll? ranges source = some (drawAll ranges source) ∧
      (∀ k range answer, ranges[k]? = some range → (drawAll ranges source).1[k]? = some answer →
        Answers values (valuesUsed (earlier ++ ranges.take k)) range.1 range.2 answer) ∧
      Follows values (earlier ++ ranges) (drawAll ranges source).2 := by
  induction ranges generalizing earlier source with
  | nil =>
      rw [List.append_nil]
      exact ⟨rfl, nofun, follows⟩
  | cons range ranges ih =>
      obtain ⟨low, high⟩ := range
      obtain ⟨first, others⟩ := List.forall_mem_cons.1 valid
      obtain ⟨checked, answered, follows⟩ := follows.draw first
      obtain ⟨allChecked, allAnswered, atEnd⟩ := ih follows others
      rw [List.append_assoc, List.singleton_append] at atEnd
      refine ⟨drawAll?_cons checked allChecked, ?_, atEnd⟩
      rintro (_ | k) range answer requested given
      · rw [drawAll_cons] at given
        cases requested
        cases given
        rw [List.take_zero, List.append_nil]
        exact answered
      · have later := allAnswered k range answer requested given
        rw [List.append_assoc, List.singleton_append] at later
        exact later

end

/-- A script that picks the same end of every range, and only counts, does so again and again. -/
theorem drawAll_of_constant {script : Script} (pick : UInt64 × UInt64 → UInt64)
    (each : ∀ low high source, source.script = script →
      draw low high source = (pick (low, high), { source with draws := source.draws + 1 }))
    (ranges : List (UInt64 × UInt64)) {source : Scripted} (same : source.script = script) :
    drawAll ranges source =
      (ranges.map pick, { source with draws := source.draws + ranges.length }) := by
  induction ranges generalizing source with
  | nil => rfl
  | cons range ranges ih =>
      have others := @ih { source with draws := source.draws + 1 } same
      rw [drawAll_cons, each _ _ source same]
      dsimp only
      rw [others, List.map_cons, List.length_cons, Nat.add_right_comm, Nat.add_assoc]

/-- What is known before the draws about the answers of scripted sources. -/
structure Foretold (values : Array UInt64) (ranges : List (UInt64 × UInt64)) : Prop where
  /-- An answer depends on its own request and on how many values are used up before it. -/
  answers : ∀ k range answer, ranges[k]? = some range →
    (drawAll ranges (replay values)).1[k]? = some answer →
      Answers values (valuesUsed (ranges.take k)) range.1 range.2 answer
  /-- There are as many answers as requests, each in its range. -/
  inRange : List.Forall₂ (fun range answer => range.1 ≤ answer ∧ answer ≤ range.2) ranges
    (drawAll ranges (replay values)).1
  /-- No place outside the script is looked up, and no operation leaves its words. -/
  checked : drawAll? ranges (replay values) = some (drawAll ranges (replay values))
  /-- Every request counts as a draw. -/
  draws : (drawAll ranges (replay values)).2.draws = ranges.length
  /-- Without values, every answer is the low end of its range. -/
  lowest : drawAll ranges lowest = (ranges.map (·.1), { lowest with draws := ranges.length })
  highest : drawAll ranges highest = (ranges.map (·.2), { highest with draws := ranges.length })

/-- The answers of a script follow from its values and the requests. -/
theorem foretold (values : Array UInt64) {ranges : List (UInt64 × UInt64)}
    (valid : ∀ range ∈ ranges, range.1 ≤ range.2) : Foretold values ranges := by
  obtain ⟨checked, answers, atEnd⟩ := (follows_replay values).drawAll valid
  constructor
  · exact answers
  · exact honest (replay values) ranges valid
  · exact checked
  · exact atEnd.draws
  · have each (low high : UInt64) (source : Scripted) (empty : source.script = .replay #[]) :
        draw low high source = (low, { source with draws := source.draws + 1 }) :=
      (draw_of_fixed empty (.inl rfl)).1
    have all : drawAll ranges lowest = _ := drawAll_of_constant (·.1) each ranges rfl
    rwa [lowest, replay, Nat.zero_add] at all
  · have each (low high : UInt64) (source : Scripted) (pinned : source.script = .highest) :
        draw low high source = (high, { source with draws := source.draws + 1 }) := by
      rw [draw, pinned]
    have all : drawAll ranges highest = _ := drawAll_of_constant (·.2) each ranges rfl
    rwa [highest, Nat.zero_add] at all

/-- A request for one address does not use up a value, and a range of all addresses takes a
value as it is. -/
theorem foretold_whole_space :
    let values : Array UInt64 := #[25, 0xFFFFFFFFFFFFFFFE]
    let ranges : List (UInt64 × UInt64) :=
      [(10, 19), (7, 7), (0, 0xFFFFFFFFFFFFFFFF), (0xFFFFFFFFFFFFFFF0, 0xFFFFFFFFFFFFFFFF)]
    (∀ range ∈ ranges, range.1 ≤ range.2) ∧ Foretold values ranges ∧
      (drawAll ranges (replay values)).1 =
        [15, 7, 0xFFFFFFFFFFFFFFFE, 0xFFFFFFFFFFFFFFF9] := by
  intro values ranges
  have valid : ∀ range ∈ ranges, range.1 ≤ range.2 := by
    simp only [ranges, List.forall_mem_cons]
    exact ⟨by decide, by decide, by decide, by decide, nofun⟩
  have evaluated : (drawAll ranges (replay values)).1 =
      [15, 7, 0xFFFFFFFFFFFFFFFE, 0xFFFFFFFFFFFFFFF9] := by decide +kernel
  exact ⟨valid, foretold values valid, evaluated⟩

end AccessTrace.Scripted
