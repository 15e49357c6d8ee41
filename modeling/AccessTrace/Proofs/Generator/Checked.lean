/-
Module: AccessTrace.Proofs.Generator.Checked
Purpose: A run in which every operation on machine words is checked.
Main exports:
  Checked.Run, Checked.turn?, Checked.loop?, Checked.generate?
-/
import Mathlib
import AccessTrace.Proofs.Generator.Counts

namespace AccessTrace

/-!
The words of a run are 64 bits wide, and what does not fit is lost without a
word.  Here the same run is written with operations that have no result where
the exact one does not fit: a product or sum beyond 64 bits, a difference below
zero, a quotient by zero, a quota out of its range.  The run goes through the
classes one turn at a time, draws each start when its turn comes, and has no
result either if a pass brings it no nearer to its end.
-/

namespace Checked

/-- The sum, if a word can hold it. -/
def add? (a b : UInt64) : Option UInt64 :=
  if a.toNat + b.toNat < 2 ^ 64 then some (a + b) else none

/-- The product, if a word can hold it. -/
def mul? (a b : UInt64) : Option UInt64 :=
  if a.toNat * b.toNat < 2 ^ 64 then some (a * b) else none

/-- The difference, if it is not negative. -/
def sub? (a b : UInt64) : Option UInt64 :=
  if b.toNat ≤ a.toNat then some (a - b) else none

/-- The quotient, if the divisor is not zero. -/
def div? (a b : UInt64) : Option UInt64 :=
  if b.toNat = 0 then none else some (a / b)

/-- The difference of signed words, if a signed word can hold it. -/
def subSigned? (a b : Int64) : Option Int64 :=
  if -2 ^ 63 ≤ a.toInt - b.toInt ∧ a.toInt - b.toInt < 2 ^ 63 then some (a - b) else none

/-- The state of a run between two turns. -/
structure Run (σ : Type) where
  source : σ
  records : Array Record
  emitted : ClassCounts
  left : Quotas

/-- An address moved down to a multiple of the block size, where the run asks
for that. -/
def align? (config : Config) (address : UInt64) : Option UInt64 :=
  if config.alignToBlockSize then do
    let blocks ← div? address config.blockSize
    mul? blocks config.blockSize
  else some address

/-- The address at which a turn starts. -/
def start? (config : Config) (accessClass : AccessClass) (drawn : UInt64) : Option UInt64 :=
  if accessClass = .randomRead then some drawn else align? config drawn

/-- A record some blocks after the start of its turn. -/
def record? (config : Config) (kind : Kind) (start index : UInt64) : Option Record := do
  let offset ← mul? index config.blockSize
  let address ← add? start offset
  return { kind, address }

/-- The records of a turn. -/
def records? (config : Config) (accessClass : AccessClass) (start : UInt64) :
    Option (List Record) :=
  (List.range (config.turnLength accessClass).toNat).mapM fun i =>
    record? config accessClass.kind start (UInt64.ofNat i)

/-- The counters after a turn of a class. -/
def count? (counts : ClassCounts) (accessClass : AccessClass) (amount : UInt64) :
    Option ClassCounts := do
  let _ ← add? (accessClass.emitted counts) amount
  return counts.add accessClass amount

/-- The quotas after a turn of a class. -/
def take? (burst : Int64) (quotas : Quotas) (accessClass : AccessClass) : Option Quotas := do
  let _ ← subSigned? (accessClass.quota quotas) (accessClass.step burst)
  return quotas.take burst accessClass

/-- The work in all four quotas. -/
def totalPositive? (quotas : Quotas) : Option UInt64 := do
  let sequential ← add? (Quotas.work quotas.sequentialWrite) (Quotas.work quotas.sequentialRead)
  let withWrites ← add? sequential (Quotas.work quotas.randomWrite)
  add? withWrites (Quotas.work quotas.randomRead)

section
variable {σ : Type} [AddressSource σ]

/-- A class that has work left gets a turn. -/
def turn? (config : Config) (run : Run σ) (accessClass : AccessClass) : Option (Run σ) :=
  if 0 < accessClass.quota run.left then do
    let span ← mul? config.blockSize (config.turnLength accessClass)
    let high ← sub? config.maxAddress span
    let (drawn, source) := AddressSource.draw 0 high run.source
    let start ← start? config accessClass drawn
    let records ← records? config accessClass start
    let emitted ← count? run.emitted accessClass (config.turnLength accessClass)
    let left ← take? config.burstStep run.left accessClass
    return { source, records := run.records ++ records, emitted, left }
  else some run

/-- Every class in its order. -/
def pass? (config : Config) (run : Run σ) : Option (Run σ) :=
  AccessClass.turns.foldlM (turn? config) run

/-- Passes until no class has work left, each of which leaves less of it. -/
def loop? (config : Config) (run : Run σ) : Option (Run σ) :=
  if run.left.anyPositive then
    match pass? config run with
    | none => none
    | some next =>
      if _h : next.left.workLeft < run.left.workLeft then loop? config next else none
  else some run
termination_by run.left.workLeft

/-- Plans a run and carries it out.  The work in the plan is added up first, to
make room for the records. -/
def generate? (config : Config) (source : σ) : Option (Except ParameterError Trace × σ) :=
  match config.plan with
  | .error error => some (.error error, source)
  | .ok planned => do
    let _ ← totalPositive? planned
    let run ← loop? config { source, records := #[], emitted := {}, left := planned }
    return (.ok { records := run.records, report := { planned, emitted := run.emitted } },
      run.source)

end

/-! ### What the operations give -/

theorem add?_of_lt {a b : UInt64} (fits : a.toNat + b.toNat < 2 ^ 64) :
    add? a b = some (a + b) := if_pos fits

theorem mul?_of_lt {a b : UInt64} (fits : a.toNat * b.toNat < 2 ^ 64) :
    mul? a b = some (a * b) := if_pos fits

theorem sub?_of_le {a b : UInt64} (enough : b.toNat ≤ a.toNat) :
    sub? a b = some (a - b) := if_pos enough

theorem div?_of_pos {a b : UInt64} (positive : 0 < b.toNat) :
    div? a b = some (a / b) := if_neg positive.ne'

theorem toNat_add_of_lt {a b : UInt64} (fits : a.toNat + b.toNat < 2 ^ 64) :
    (a + b).toNat = a.toNat + b.toNat := by
  rw [UInt64.toNat_add, Nat.mod_eq_of_lt fits]

theorem toNat_mul_of_lt {a b : UInt64} (fits : a.toNat * b.toNat < 2 ^ 64) :
    (a * b).toNat = a.toNat * b.toNat := by
  rw [UInt64.toNat_mul, Nat.mod_eq_of_lt fits]

/-- A checked address is the plain one, and no greater than the draw. -/
theorem start?_of_pos {config : Config} (positive : 0 < config.blockSize.toNat)
    (accessClass : AccessClass) (drawn : UInt64) :
    start? config accessClass drawn = some (config.startOf accessClass drawn) ∧
      (config.startOf accessClass drawn).toNat ≤ drawn.toNat := by
  have cut : (drawn / config.blockSize).toNat * config.blockSize.toNat ≤ drawn.toNat := by
    rw [UInt64.toNat_div]
    exact Nat.div_mul_le_self _ _
  have fits := cut.trans_lt drawn.toNat_lt
  unfold start? Config.startOf align? Config.align
  split
  · exact ⟨rfl, le_refl _⟩
  · split
    · rw [div?_of_pos positive]
      refine ⟨mul?_of_lt fits, ?_⟩
      rw [toNat_mul_of_lt fits]
      exact cut
    · exact ⟨rfl, le_refl _⟩

/-- A checked step is the plain one where it is due. -/
theorem take?_of_pos {burst : Int64} (hb : 0 < burst) {quotas : Quotas} {accessClass : AccessClass}
    (work : 0 < accessClass.quota quotas) :
    take? burst quotas accessClass = some (quotas.take burst accessClass) := by
  have step := Quotas.toInt_pos.2 (accessClass.step_pos hb)
  have quota := Quotas.toInt_pos.2 work
  have step_lt := (accessClass.step burst).toInt_lt
  have quota_lt := (accessClass.quota quotas).toInt_lt
  unfold take? subSigned?
  rw [if_pos (by omega)]
  rfl

theorem count?_of_lt {counts : ClassCounts} {accessClass : AccessClass} {amount : UInt64}
    (fits : (accessClass.emitted counts).toNat + amount.toNat < 2 ^ 64) :
    count? counts accessClass amount = some (counts.add accessClass amount) := by
  unfold count?
  rw [add?_of_lt fits]
  rfl

section
variable {σ : Type} [AddressSource σ] {config : Config} {run : Run σ}

/-- A turn has a result when every operation of it has one. -/
theorem turn?_of_results {accessClass : AccessClass} {span high drawn start : UInt64} {after : σ}
    {records : List Record} {emitted : ClassCounts} {left : Quotas}
    (work : 0 < accessClass.quota run.left)
    (product : mul? config.blockSize (config.turnLength accessClass) = some span)
    (difference : sub? config.maxAddress span = some high)
    (answer : AddressSource.draw 0 high run.source = (drawn, after))
    (moved : start? config accessClass drawn = some start)
    (made : records? config accessClass start = some records)
    (counted : count? run.emitted accessClass (config.turnLength accessClass) = some emitted)
    (taken : take? config.burstStep run.left accessClass = some left) :
    turn? config run accessClass =
      some { source := after, records := run.records ++ records, emitted, left } := by
  simp only [turn?, if_pos work, product, difference, answer, moved, made, counted, taken,
    Option.bind_eq_bind, Option.bind_some]
  rfl

theorem turn?_of_no_work {accessClass : AccessClass}
    (noWork : ¬0 < accessClass.quota run.left) : turn? config run accessClass = some run :=
  if_neg noWork

/-- A pass that leaves less work is followed by the rest of the run. -/
theorem loop?_of_pass {next : Run σ} (more : run.left.anyPositive = true)
    (result : pass? config run = some next) (less : next.left.workLeft < run.left.workLeft) :
    loop? config run = loop? config next := by
  rw [loop?, if_pos more, result]
  exact dif_pos less

theorem loop?_of_no_work (noWork : run.left.anyPositive = false) :
    loop? config run = some run := by
  rw [loop?, noWork]
  rfl

end
end Checked
end AccessTrace
