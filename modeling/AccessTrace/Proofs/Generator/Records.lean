/-
Module: AccessTrace.Proofs.Generator.Records
Purpose: The records of a run in closed form, from the plan and the answers of the source.
Main exports:
  Config.request, Config.recordsOfTurn, generate_of_plan, plan_of_generate,
  generate_follows_schedule
-/
import Mathlib
import AccessTrace.Proofs.Config.Plan
import AccessTrace.Proofs.Generator.Schedule
import AccessTrace.Source.Scripted

namespace AccessTrace

namespace Config

/-- The range that the draw of a turn is asked for. -/
def request (config : Config) : AccessClass → UInt64 × UInt64
  | .sequentialWrite | .sequentialRead =>
      (0, config.maxAddress - config.blockSize * config.sequentialBlockCount)
  | .randomRead | .randomWrite => (0, config.maxAddress - config.blockSize)

/-- An address without its remainder by the block size, where the run asks for
that. -/
def snapped (config : Config) (address : UInt64) : UInt64 :=
  if config.alignToBlockSize then address - address % config.blockSize else address

/-- A burst of accesses from a start, one block apart. -/
def burstFrom (config : Config) (kind : Kind) (start : UInt64) : List Record :=
  (List.range config.sequentialBlockCount.toNat).map fun i =>
    { kind, address := start + UInt64.ofNat i * config.blockSize }

/-- The records of a turn whose draw gave an address. -/
def recordsOfTurn (config : Config) : AccessClass → UInt64 → List Record
  | .sequentialWrite, drawn => config.burstFrom .write (config.snapped drawn)
  | .randomRead, drawn => [{ kind := .read, address := drawn }]
  | .sequentialRead, drawn => config.burstFrom .read (config.snapped drawn)
  | .randomWrite, drawn => [{ kind := .write, address := config.snapped drawn }]

/-! ### One turn -/

/-- A quotient times its divisor is the dividend without the remainder. -/
theorem align_eq_snapped (config : Config) (address : UInt64) :
    config.align address = config.snapped address := by
  have exact : config.blockSize.toNat * (address.toNat / config.blockSize.toNat) +
      address.toNat % config.blockSize.toNat = address.toNat := Nat.div_add_mod _ _
  have below := address.toNat_lt
  have remainder : address % config.blockSize ≤ address := by
    rw [UInt64.le_iff_toNat_le, UInt64.toNat_mod]
    exact Nat.mod_le _ _
  unfold align snapped
  split
  · rw [← UInt64.toNat_inj, UInt64.toNat_sub_of_le _ _ remainder, UInt64.toNat_mod,
      UInt64.toNat_mul, UInt64.toNat_div, mul_comm, Nat.mod_eq_of_lt (by omega)]
    omega
  · rfl

theorem request_eq (config : Config) (accessClass : AccessClass) :
    config.request accessClass = (0, config.maxAddress - config.turnSpan accessClass) := by
  cases accessClass <;> simp [request, turnSpan, turnLength, AccessClass.isSequential]

/-- The records of a segment are those of its turn. -/
theorem segmentRecords_startOf (config : Config) (accessClass : AccessClass) (drawn : UInt64) :
    config.segmentRecords { accessClass, start := config.startOf accessClass drawn } =
      config.recordsOfTurn accessClass drawn := by
  cases accessClass <;>
    simp [segmentRecords, recordsOfTurn, burstFrom, startOf, align_eq_snapped, turnLength,
      AccessClass.isSequential, AccessClass.kind]

/-! ### All turns -/

section
variable {σ : Type} [AddressSource σ]

theorem drawSegments_push (config : Config) (turns : Array AccessClass)
    (accessClass : AccessClass) (source : σ) :
    config.drawSegments (turns.push accessClass) source =
      let (segments, source) := config.drawSegments turns source
      let (drawn, source) :=
        AddressSource.draw 0 (config.maxAddress - config.turnSpan accessClass) source
      (segments.push { accessClass, start := config.startOf accessClass drawn }, source) := by
  simp [drawSegments]

end

theorem recordsOf_push (config : Config) (segments : Array Segment) (segment : Segment) :
    config.recordsOf (segments.push segment) =
      config.recordsOf segments ++ config.segmentRecords segment := by
  simp [recordsOf]

end Config

namespace AddressSource

variable {σ : Type} [AddressSource σ]

theorem drawAll_append (first second : List (UInt64 × UInt64)) (source : σ) :
    drawAll (first ++ second) source =
      let (answers, source) := drawAll first source
      let (more, source) := drawAll second source
      (answers ++ more, source) := by
  induction first generalizing source with
  | nil => rfl
  | cons range ranges ih =>
      simp only [List.cons_append, drawAll, ih]

/-- Every request has its answer. -/
theorem length_drawAll (ranges : List (UInt64 × UInt64)) (source : σ) :
    (drawAll ranges source).1.length = ranges.length := by
  induction ranges generalizing source with
  | nil => rfl
  | cons range ranges ih =>
      simp only [drawAll, List.length_cons, ih]

end AddressSource

namespace Config

variable {σ : Type} [AddressSource σ]

/-- Records and source after some turns, from the answers to their requests. -/
theorem recordsOf_drawSegments (config : Config) (turns : List AccessClass) (source : σ) :
    let drawn := AddressSource.drawAll (turns.map config.request) source
    (config.recordsOf (config.drawSegments turns.toArray source).1).toList =
        (List.zipWith config.recordsOfTurn turns drawn.1).flatten ∧
      (config.drawSegments turns.toArray source).2 = drawn.2 := by
  induction turns using List.reverseRecOn with
  | nil => exact ⟨rfl, rfl⟩
  | append_singleton turns accessClass ih =>
      obtain ⟨records, after⟩ := ih
      have lengths : turns.length =
          (AddressSource.drawAll (turns.map config.request) source).1.length := by
        rw [AddressSource.length_drawAll, List.length_map]
      rw [← List.push_toArray, drawSegments_push]
      simp only [List.map_append, List.map_cons, List.map_nil, AddressSource.drawAll_append,
        AddressSource.drawAll, request_eq, List.zipWith_append lengths]
      simp only [recordsOf_push, segmentRecords_startOf, after]
      simp [records]

/-- A burst takes something off its quota. -/
theorem burstWork_pos {config : Config} {planned : Quotas} (hplan : config.plan = .ok planned) :
    0 < config.burstWork := by
  have count := sequentialBlockCount_pos hplan
  rw [burstWork]
  omega

theorem burstStep_pos {config : Config} {planned : Quotas} (hplan : config.plan = .ok planned) :
    0 < config.burstStep := by
  have work := burstWork_pos hplan
  rw [← Quotas.toInt_pos, toInt_burstStep]
  omega

end Config

section
variable {σ : Type} [AddressSource σ] {config : Config} {planned : Quotas}

theorem generate_of_plan (hplan : config.plan = .ok planned) (source : σ) :
    generate config source =
      (.ok { records :=
               config.recordsOf
                 (config.drawSegments (Schedule.ofQuotas config.burstStep planned) source).1
             report :=
               { planned
                 emitted := .ofTurns config (Schedule.ofQuotas config.burstStep planned) } },
        (config.drawSegments (Schedule.ofQuotas config.burstStep planned) source).2) := by
  simp [generate, hplan]

/-- What has a trace has a plan, and the report on the trace shows it. -/
theorem plan_of_generate {source : σ} {trace : Trace}
    (generated : (generate config source).1 = .ok trace) :
    config.plan = .ok trace.report.planned := by
  cases plan : config.plan with
  | error error =>
      rw [generate, plan] at generated
      cases generated
  | ok planned =>
      rw [generate_of_plan plan] at generated
      cases generated
      rfl

/-- A run of a plan ends, and its trace is known in advance but for the answers
of the source.  The passes with work are those below `passCount`.  The `k`-th
turn takes the `k`-th answer, and the source answers nothing else. -/
theorem generate_follows_schedule (source : σ) (hplan : config.plan = .ok planned) :
    let passes := planned.passCount config.burstWork
    let turns := (List.range passes).flatMap (planned.turnsOfPass config.burstWork)
    let drawn := AddressSource.drawAll (turns.map config.request) source
    (∀ pass, ((Quotas.afterPass config.burstStep)^[pass] planned).anyPositive = true ↔
        pass < passes) ∧
      drawn.1.length = turns.length ∧
      ∃ trace, generate config source = (.ok trace, drawn.2) ∧
        trace.records.toList = (List.zipWith config.recordsOfTurn turns drawn.1).flatten := by
  intro passes turns drawn
  have step := config.toInt_burstStep
  have positive := Config.burstWork_pos hplan
  have schedule : Schedule.ofQuotas config.burstStep planned = turns.toArray := by
    rw [← Array.toList_inj, Schedule.toList_ofQuotas step positive]
    rfl
  obtain ⟨records, after⟩ := config.recordsOf_drawSegments turns source
  refine ⟨Quotas.anyPositive_afterPasses_iff step positive planned, ?_, ?_⟩
  · rw [AddressSource.length_drawAll, List.length_map]
  · rw [generate_of_plan hplan, schedule]
    exact ⟨_, Prod.ext rfl after, records⟩

end

/-- Quotas that are no multiples of a burst, in an aligned address space. -/
def alignedExample : Config where
  maxAddress := 100
  instructionCount := 24
  blockSize := 4
  sequentialBlockCount := 5
  alignToBlockSize := true

theorem generate_follows_schedule_aligned :
    alignedExample.plan = .ok ⟨6, 6, 6, 6⟩ ∧
      Quotas.passCount alignedExample.burstWork ⟨6, 6, 6, 6⟩ = 6 ∧
      ∃ trace source, generate alignedExample (Scripted.replay #[7, 50, 61]) = (.ok trace, source) ∧
        source.draws = 16 ∧ trace.records.toList.length = 32 ∧
        trace.records.toList.take 12 =
          [⟨.write, 4⟩, ⟨.write, 8⟩, ⟨.write, 12⟩, ⟨.write, 16⟩, ⟨.write, 20⟩, ⟨.read, 50⟩,
            ⟨.read, 60⟩, ⟨.read, 64⟩, ⟨.read, 68⟩, ⟨.read, 72⟩, ⟨.read, 76⟩, ⟨.write, 4⟩] := by
  have hplan : alignedExample.plan = .ok ⟨6, 6, 6, 6⟩ := by decide +kernel
  obtain ⟨-, -, trace, run, records⟩ :=
    generate_follows_schedule (Scripted.replay #[7, 50, 61]) hplan
  refine ⟨hplan, by decide +kernel, trace, _, run, by decide +kernel, ?_, ?_⟩
  · rw [records]
    decide +kernel
  · rw [records]
    decide +kernel

end AccessTrace
