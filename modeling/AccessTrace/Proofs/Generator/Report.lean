/-
Module: AccessTrace.Proofs.Generator.Report
Purpose: The report of a run against its plan, its trace and the file of its trace.
Main exports:
  Config.roundedUp_bounds, generate_counts, Report.FollowsPlan, Trace.Counted, report_agrees
-/
import Mathlib
import AccessTrace.Proofs.Generator.Counts
import AccessTrace.Proofs.Storage.FileTree
import AccessTrace.Proofs.TraceFile.RoundTrip

namespace AccessTrace

/-!
What a class makes is its quota, rounded up to whole turns.  The counters of
the report and the records of the trace are both known from that, so that they
agree with each other.  A file of the trace has the same records again.
-/

namespace Config

theorem turnLength_of_single (config : Config) {c : AccessClass} (single : c.isSequential = false) :
    config.turnLength c = 1 := by
  rw [turnLength, single]
  rfl

theorem turnLength_of_sequential (config : Config) {c : AccessClass}
    (sequential : c.isSequential = true) :
    config.turnLength c = config.sequentialBlockCount := by
  rw [turnLength, sequential]
  rfl

theorem roundedUp_single (config : Config) (planned : Quotas) {c : AccessClass}
    (single : c.isSequential = false) :
    config.roundedUp planned c = (c.quota planned).toInt.toNat := by
  rw [roundedUp, turnLength_of_single config single]
  change _ ⌈/⌉ 1 * 1 = _
  rw [ceilDiv_one, Nat.mul_one]

/-- Rounding up to whole turns adds less than a turn. -/
theorem ceilDiv_mul_bounds (quota : Nat) {length : Nat} (positive : 0 < length) :
    quota ≤ quota ⌈/⌉ length * length ∧ quota ⌈/⌉ length * length ≤ quota + (length - 1) := by
  rw [Nat.ceilDiv_eq_add_pred_div]
  have below := Nat.div_mul_le_self (quota + length - 1) length
  have above := Nat.lt_mul_div_succ (quota + length - 1) positive
  rw [Nat.mul_succ, Nat.mul_comm] at above
  omega

theorem roundedUp_bounds (config : Config) (planned : Quotas) (c : AccessClass)
    (positive : 0 < (config.turnLength c).toNat) :
    max (c.quota planned).toInt 0 ≤ config.roundedUp planned c ∧
      (config.roundedUp planned c : Int) ≤
        max (c.quota planned).toInt 0 + ((config.turnLength c).toNat - 1) := by
  have bounds := ceilDiv_mul_bounds (c.quota planned).toInt.toNat positive
  rw [← roundedUp] at bounds
  omega

end Config

/-! ### The report -/

/-- What the counters of a report say about its plan. -/
structure Report.FollowsPlan (config : Config) (report : Report) : Prop where
  planned : report.planned = Quotas.compute config
  single : ∀ c : AccessClass, c.isSequential = false →
    ((c.emitted report.emitted).toNat : Int) = max (c.quota report.planned).toInt 0
  bursts : ∀ c : AccessClass, c.isSequential = true →
    (c.emitted report.emitted).toNat =
      if 0 < (c.quota report.planned).toInt then
        config.sequentialBlockCount.toNat *
          ((c.quota report.planned).toInt.toNat ⌈/⌉ config.sequentialBlockCount.toNat)
      else 0
  overshoot : ∀ c : AccessClass, c.isSequential = true →
    max (c.quota report.planned).toInt 0 ≤ (c.emitted report.emitted).toNat ∧
      ((c.emitted report.emitted).toNat : Int) ≤
        max (c.quota report.planned).toInt 0 + (config.sequentialBlockCount.toNat - 1)

/-- What the counters of a report say about the records of its trace. -/
structure Trace.Counted (trace : Trace) : Prop where
  total : trace.report.totalRecords.toNat = trace.records.size
  reads : trace.report.emitted.reads.toNat = Report.countKind trace.records.toList .read
  writes : trace.report.emitted.writes.toNat = Report.countKind trace.records.toList .write

section
variable {σ : Type} [AddressSource σ] {config : Config} {planned : Quotas}

/-- The counters and the records of a run, class by class. -/
theorem generate_counts (hplan : config.plan = .ok planned) (source : σ) :
    ∃ trace rest, generate config source = (.ok trace, rest) ∧ trace.report.planned = planned ∧
      (∀ c : AccessClass, (c.emitted trace.report.emitted).toNat = config.roundedUp planned c) ∧
      Report.countKind trace.records.toList .read =
        config.roundedUp planned .sequentialRead + config.roundedUp planned .randomRead ∧
      Report.countKind trace.records.toList .write =
        config.roundedUp planned .sequentialWrite + config.roundedUp planned .randomWrite := by
  obtain ⟨balanced, -⟩ := Ledger.balanced_finish (Config.burstStep_pos hplan) planned
  have turns := Ledger.turns_finish config.burstStep (Ledger.opening planned)
  have made := Config.made_finish hplan
  have kinds := config.countKind_recordsOf
    ((Ledger.opening planned).finish config.burstStep).turns.toList source
  refine ⟨_, _, generate_of_plan hplan source, rfl, ?_, ?_, ?_⟩
  · intro c
    have counted := Config.toNat_emitted balanced c
    rw [made, turns] at counted
    exact counted
  · have reads := kinds .read
    rw [Config.madeOfKind, Array.toArray_toList, made, made, turns] at reads
    exact reads
  · have writes := kinds .write
    rw [Config.madeOfKind, Array.toArray_toList, made, made, turns] at writes
    exact writes

/-- Counters that are rounded up from the plan say what they should about it. -/
theorem followsPlan_of_roundedUp (hplan : config.plan = .ok planned) {report : Report}
    (same : report.planned = planned)
    (counters : ∀ c : AccessClass, (c.emitted report.emitted).toNat = config.roundedUp planned c) :
    report.FollowsPlan config := by
  subst same
  have count := Config.sequentialBlockCount_pos hplan
  constructor
  · exact ((Config.plan_eq_ok_iff _ _).1 hplan).2.2
  · intro c single
    rw [counters c, Config.roundedUp_single config _ single]
    omega
  · intro c sequential
    rw [counters c, Config.roundedUp, Config.turnLength_of_sequential config sequential]
    split
    · exact Nat.mul_comm _ _
    · rename_i noWork
      rw [Int.toNat_of_nonpos (by omega), zero_ceilDiv, Nat.zero_mul]
  · intro c sequential
    rw [counters c, ← Config.turnLength_of_sequential config sequential]
    apply Config.roundedUp_bounds
    rw [Config.turnLength_of_sequential config sequential]
    exact count

end

/-- Counters that count the records of a kind do so in 64 bits, as long as all
records can be counted in 64 bits. -/
theorem counted_of_kinds {trace : Trace} (short : trace.records.size < 2 ^ 64)
    (reads : Report.countKind trace.records.toList .read =
      trace.report.emitted.sequentialRead.toNat + trace.report.emitted.randomRead.toNat)
    (writes : Report.countKind trace.records.toList .write =
      trace.report.emitted.sequentialWrite.toNat + trace.report.emitted.randomWrite.toNat) :
    trace.Counted := by
  have all := Config.countKind_add_countKind trace.records.toList
  rw [Array.length_toList] at all
  constructor
  · simp only [Report.totalRecords, ClassCounts.total, UInt64.toNat_add]
    omega
  · rw [ClassCounts.reads, UInt64.toNat_add, reads]
    omega
  · rw [ClassCounts.writes, UInt64.toNat_add, writes]
    omega

/-- Counters and records that are both rounded up from one plan agree. -/
theorem counted_of_roundedUp {config : Config} {planned : Quotas} {trace : Trace}
    (short : trace.records.size < 2 ^ 64)
    (counters :
      ∀ c : AccessClass, (c.emitted trace.report.emitted).toNat = config.roundedUp planned c)
    (reads : Report.countKind trace.records.toList .read =
      config.roundedUp planned .sequentialRead + config.roundedUp planned .randomRead)
    (writes : Report.countKind trace.records.toList .write =
      config.roundedUp planned .sequentialWrite + config.roundedUp planned .randomWrite) :
    trace.Counted := by
  apply counted_of_kinds short
  · rw [reads, ← counters, ← counters]
    rfl
  · rw [writes, ← counters, ← counters]
    rfl

namespace TraceFile

/-- A file of counted records passes against their report. -/
theorem verify_of_counted (path : String) {trace : Trace} (counted : trace.Counted) :
    verify path trace.report (.ok (joined (chunks trace.records))) = .ok () := by
  have decoded : decode path (.ok (joined (chunks trace.records))) = .ok trace.records := by
    rw [decode, readRecords_joined]
  rw [verify, decoded]
  change compare path trace.report trace.records = .ok ()
  simp [compare, counted.total, counted.reads, counted.writes]

end TraceFile

/-- The report of a run agrees with the plan and with the records, and a file
to which the records were written passes against it. -/
theorem report_agrees {σ : Type} [AddressSource σ] {config : Config} {planned : Quotas}
    (hplan : config.plan = .ok planned) (source : σ) :
    ∃ trace rest, generate config source = (.ok trace, rest) ∧ trace.report.FollowsPlan config ∧
      (trace.records.size < 2 ^ 64 →
        trace.Counted ∧
          ∀ (tree after : FileTree) (path : String), tree.NoDevice path →
            tree.write path (TraceFile.chunks trace.records) = (.ok (), after) →
              TraceFile.verify path trace.report (after.read path) = .ok ()) := by
  obtain ⟨trace, rest, run, same, counters, reads, writes⟩ := generate_counts hplan source
  refine ⟨trace, rest, run, followsPlan_of_roundedUp hplan same counters, ?_⟩
  intro short
  have counted := counted_of_roundedUp short counters reads writes
  refine ⟨counted, ?_⟩
  intro tree after path noDevice written
  rw [FileTree.read_write noDevice written]
  exact TraceFile.verify_of_counted path counted

theorem report_agrees_aligned :
    alignedExample.plan = .ok ⟨6, 6, 6, 6⟩ ∧
      ∃ trace rest after,
        generate alignedExample (Scripted.replay #[7, 50, 61]) = (.ok trace, rest) ∧
        trace.records.size = 32 ∧ trace.report.emitted.sequentialWrite.toNat = 10 ∧
        (FileTree.fresh ["work"]).write "trace.out" (TraceFile.chunks trace.records) =
          (.ok (), after) ∧
        TraceFile.verify "trace.out" trace.report (after.read "trace.out") = .ok () := by
  have hplan : alignedExample.plan = .ok ⟨6, 6, 6, 6⟩ := by decide +kernel
  obtain ⟨trace, rest, run, follows, counts⟩ :=
    report_agrees hplan (Scripted.replay #[7, 50, 61])
  have size : trace.records.size = 32 := by
    have evaluated : (generate alignedExample (Scripted.replay #[7, 50, 61])).1.map
        (·.records.size) = .ok 32 := by decide +kernel
    rw [run] at evaluated
    simpa [Except.map] using evaluated
  have planned : trace.report.planned = ⟨6, 6, 6, 6⟩ :=
    follows.planned.trans ((Config.plan_eq_ok_iff _ _).1 hplan).2.2.symm
  have bursts := follows.bursts .sequentialWrite rfl
  rw [planned] at bursts
  obtain ⟨-, verified⟩ := counts (by rw [size]; decide)
  have found : (FileTree.fresh ["work"]).placeForFile "trace.out" = .ok ["work", "trace.out"] := by
    decide +kernel
  have noDevice : (FileTree.fresh ["work"]).NoDevice "trace.out" := by
    intro place device place_eq
    rw [found] at place_eq
    cases place_eq
    have missing : FileTree.entry? (.fresh ["work"]) ["work", "trace.out"] = none := rfl
    rw [missing]
    exact nofun
  have written := FileTree.write_of_placeForFile noDevice found (TraceFile.chunks trace.records)
  exact ⟨hplan, trace, rest, _, run, size, bursts, written, verified _ _ _ noDevice written⟩

end AccessTrace
