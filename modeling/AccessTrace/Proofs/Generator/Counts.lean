/-
Module: AccessTrace.Proofs.Generator.Counts
Purpose: The counters of a run against its turns, its records and its plan.
Main exports:
  AccessClass.emitted, Config.made, Config.toNat_emitted, Config.countKind_recordsOf,
  Config.roundedUp, Config.made_finish
-/
import Mathlib
import AccessTrace.Proofs.Generator.Ledger

namespace AccessTrace

/-!
A counter grows by the length of every turn of its class, in 64 bits.  The last
turn of a class was due, so the counter goes beyond the quota by less than a
burst.  A burst that is itself beyond every quota comes once at most.  Either
way the counter stays in range and says what it should.
-/

namespace AccessClass

/-- The accesses that are counted for a class. -/
def emitted (counts : ClassCounts) : AccessClass → UInt64
  | .sequentialWrite => counts.sequentialWrite
  | .randomRead => counts.randomRead
  | .sequentialRead => counts.sequentialRead
  | .randomWrite => counts.randomWrite

theorem emitted_add_self (counts : ClassCounts) (accessClass : AccessClass) (amount : UInt64) :
    accessClass.emitted (counts.add accessClass amount) =
      accessClass.emitted counts + amount := by
  cases accessClass <;> rfl

theorem emitted_add_other (counts : ClassCounts) {accessClass other : AccessClass}
    (amount : UInt64) (distinct : other ≠ accessClass) :
    other.emitted (counts.add accessClass amount) = other.emitted counts := by
  cases accessClass <;> cases other <;> first | rfl | exact absurd rfl distinct

end AccessClass

namespace ClassCounts

theorem ofTurns_push (config : Config) (turns : Array AccessClass) (accessClass : AccessClass) :
    ofTurns config (turns.push accessClass) =
      (ofTurns config turns).add accessClass (config.turnLength accessClass) := by
  simp [ofTurns]

end ClassCounts

namespace Config

/-- The records that the turns of a class make, without any bound. -/
def made (config : Config) (turns : Array AccessClass) (accessClass : AccessClass) : Nat :=
  turns.count accessClass * (config.turnLength accessClass).toNat

theorem made_push_self (config : Config) (turns : Array AccessClass) (accessClass : AccessClass) :
    config.made (turns.push accessClass) accessClass =
      config.made turns accessClass + (config.turnLength accessClass).toNat := by
  rw [made, Array.count_push_self, Nat.succ_mul, made]

theorem made_push_other (config : Config) (turns : Array AccessClass)
    {accessClass other : AccessClass} (distinct : other ≠ accessClass) :
    config.made (turns.push accessClass) other = config.made turns other := by
  rw [made, Array.count_push_of_ne (Ne.symm distinct), made]

/-- A counter is the records of its class, in 64 bits. -/
theorem emitted_ofTurns (config : Config) (turns : List AccessClass) (accessClass : AccessClass) :
    accessClass.emitted (.ofTurns config turns.toArray) =
      UInt64.ofNat (config.made turns.toArray accessClass) := by
  induction turns using List.reverseRecOn with
  | nil => cases accessClass <;> simp [ClassCounts.ofTurns, made, AccessClass.emitted]
  | append_singleton turns last ih =>
      rw [← List.push_toArray, ClassCounts.ofTurns_push]
      by_cases same : accessClass = last
      · subst same
        rw [AccessClass.emitted_add_self, made_push_self, ih, UInt64.ofNat_add,
          UInt64.ofNat_toNat]
      · rw [AccessClass.emitted_add_other _ _ same, made_push_other _ _ same, ih]

/-! ### The records by kind -/

/-- The records of one kind that some turns make. -/
def madeOfKind (config : Config) (turns : Array AccessClass) : Kind → Nat
  | .read => config.made turns .sequentialRead + config.made turns .randomRead
  | .write => config.made turns .sequentialWrite + config.made turns .randomWrite

theorem madeOfKind_push (config : Config) (turns : Array AccessClass) (accessClass : AccessClass)
    (kind : Kind) :
    config.madeOfKind (turns.push accessClass) kind =
      config.madeOfKind turns kind +
        if accessClass.kind = kind then (config.turnLength accessClass).toNat else 0 := by
  cases kind <;> cases accessClass <;>
    simp [madeOfKind, made_push_self, made_push_other, AccessClass.kind] <;> omega

/-- The records of a turn are all of the kind of its class. -/
theorem countKind_segmentRecords (config : Config) (segment : Segment) (kind : Kind) :
    Report.countKind (config.segmentRecords segment) kind =
      if segment.accessClass.kind = kind then
        (config.turnLength segment.accessClass).toNat else 0 := by
  by_cases same : segment.accessClass.kind = kind
  · simp [Report.countKind, segmentRecords, List.countP_map, Function.comp_def, same]
  · simp [Report.countKind, segmentRecords, List.countP_map, Function.comp_def, same]

theorem countKind_recordsOf {σ : Type} [AddressSource σ] (config : Config)
    (turns : List AccessClass) (source : σ) (kind : Kind) :
    Report.countKind (config.recordsOf (config.drawSegments turns.toArray source).1).toList kind =
      config.madeOfKind turns.toArray kind := by
  induction turns using List.reverseRecOn with
  | nil => cases kind <;> simp [Report.countKind, recordsOf, drawSegments, madeOfKind, made]
  | append_singleton turns last ih =>
      have counted := ih
      rw [← List.push_toArray, drawSegments_push, madeOfKind_push, ← ih]
      simp only [recordsOf_push, Array.toList_appendList, Report.countKind, List.countP_append]
      exact congrArg _ (config.countKind_segmentRecords _ kind)

/-- Every record is a read or a write. -/
theorem countKind_add_countKind (records : List Record) :
    Report.countKind records .read + Report.countKind records .write = records.length := by
  induction records with
  | nil => rfl
  | cons record records ih =>
      obtain ⟨kind, address⟩ := record
      cases kind <;> simp [Report.countKind] at ih ⊢ <;> omega

/-! ### The counters stay in range -/

theorem toInt_step (config : Config) (accessClass : AccessClass) :
    (accessClass.step config.burstStep).toInt =
      min (config.turnLength accessClass).toNat (2 ^ 63 - 1) := by
  have burst := config.toInt_burstStep
  rw [burstWork] at burst
  cases accessClass with
  | sequentialWrite | sequentialRead => exact burst
  | randomRead | randomWrite => rfl

/-- Turns of which the last was due make less than 64 bits of records, whether
a turn is shorter than every quota or longer. -/
theorem turns_lt {count length : Nat} {quota : Int} (short : length < 2 ^ 64)
    (inside : quota < 2 ^ 63)
    (due : 0 < count → ((count : Int) - 1) * min length (2 ^ 63 - 1) < quota) :
    count * length < 2 ^ 64 := by
  cases count with
  | zero => omega
  | succ before =>
      have last := due (Nat.succ_pos before)
      push_cast at last
      rw [add_sub_cancel_right] at last
      rw [Nat.succ_mul]
      rcases le_or_gt length (2 ^ 63 - 1) with fits | beyond
      · -- The turns before the last are less than the quota, and the last is short.
        rw [min_eq_left (by omega)] at last
        have : before * length < 2 ^ 63 := by zify; omega
        omega
      · -- A single step uses up every quota.
        rw [min_eq_right (by omega)] at last
        have : before = 0 := by omega
        subst this
        omega

section
variable {config : Config} {planned : Quotas} {ledger : Ledger}

theorem made_lt (balanced : ledger.Balanced config.burstStep planned)
    (accessClass : AccessClass) : config.made ledger.turns accessClass < 2 ^ 64 := by
  have due := balanced.due accessClass
  rw [toInt_step] at due
  exact turns_lt (config.turnLength accessClass).toNat_lt (accessClass.quota planned).toInt_lt due

/-- No counter has lost anything. -/
theorem toNat_emitted (balanced : ledger.Balanced config.burstStep planned)
    (accessClass : AccessClass) :
    (accessClass.emitted (.ofTurns config ledger.turns)).toNat =
      config.made ledger.turns accessClass := by
  have counted := config.emitted_ofTurns ledger.turns.toList accessClass
  rw [counted, UInt64.toNat_ofNat_of_lt' (made_lt balanced accessClass)]

end

/-! ### The counters at the end -/

/-- A step that is no longer than a quota can be takes as many turns as one that
is. -/
theorem ceilDiv_min {quota length : Nat} (inside : quota < 2 ^ 63) :
    quota ⌈/⌉ min length (2 ^ 63 - 1) = quota ⌈/⌉ length := by
  rcases le_or_gt length (2 ^ 63 - 1) with fits | beyond
  · rw [min_eq_left fits]
  · rw [min_eq_right beyond.le]
    rcases Nat.eq_zero_or_pos quota with nothing | something
    · rw [nothing, zero_ceilDiv, zero_ceilDiv]
    · have once (size : Nat) (large : quota ≤ size) : (quota : Int).toNat ⌈/⌉ size = 1 := by
        apply Ledger.ceilDiv_of_due
        · omega
        · omega
        · intro _
          omega
      rw [Int.toNat_natCast] at once
      rw [once _ (by omega), once _ (by omega)]

/-- The quota of a class, rounded up to whole turns. -/
def roundedUp (config : Config) (planned : Quotas) (accessClass : AccessClass) : Nat :=
  (accessClass.quota planned).toInt.toNat ⌈/⌉ (config.turnLength accessClass).toNat *
    (config.turnLength accessClass).toNat

/-- At the end a class has made its quota, rounded up to whole turns. -/
theorem made_finish {config : Config} {planned : Quotas} (hplan : config.plan = .ok planned)
    (accessClass : AccessClass) :
    config.made ((Ledger.opening planned).finish config.burstStep).turns accessClass =
      config.roundedUp planned accessClass := by
  have inside := (accessClass.quota planned).toInt_lt
  obtain ⟨-, count⟩ := Ledger.balanced_finish (burstStep_pos hplan) planned
  rw [made, count accessClass, toInt_step, Int.toNat_natCast, ceilDiv_min (by omega), roundedUp]

end Config
end AccessTrace
