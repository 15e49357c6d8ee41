/-
Module: AccessTrace.Proofs.Generator.Safety
Purpose: A run stays inside its address space and inside its machine words.
Main exports:
  Config.HasRoom, Safe, Safe.turn, Safe.loop, generate_checked
-/
import Mathlib
import AccessTrace.Proofs.Generator.Checked
import AccessTrace.Proofs.Quotas.Split
import AccessTrace.Proofs.Source.Honest

namespace AccessTrace

open Checked

/-- Steps that all have a result have all their results. -/
theorem mapM_of_forall {α β : Type} {step : α → Option β} {result : α → β} {items : List α}
    (each : ∀ item ∈ items, step item = some (result item)) :
    items.mapM step = some (items.map result) := by
  induction items with
  | nil => rfl
  | cons item items ih =>
      obtain ⟨first, rest⟩ := List.forall_mem_cons.1 each
      rw [List.mapM_cons, first, ih rest]
      rfl

namespace Config

/-- A block is something, and the address space has room for a turn of every
class that the plan gives work to. -/
structure HasRoom (config : Config) (planned : Quotas) : Prop where
  block : 0 < config.blockSize.toNat
  turn : ∀ c : AccessClass, 0 < c.quota planned →
    config.blockSize.toNat * (config.turnLength c).toNat ≤ config.maxAddress.toNat

theorem hasRoom_of_plan {config : Config} {planned : Quotas}
    (hplan : config.plan = .ok planned) : config.HasRoom planned := by
  obtain ⟨-, fits, -⟩ := (plan_eq_ok_iff config planned).1 hplan
  obtain ⟨single, burst⟩ := (checkAddressSpace_eq_ok_iff config planned).1 fits
  refine ⟨blockSize_pos hplan, ?_⟩
  intro c work
  cases c with
  | sequentialWrite =>
      apply burst
      rw [Quotas.hasSequentialWork, Bool.or_eq_true, decide_eq_true_eq]
      exact .inl work
  | sequentialRead =>
      apply burst
      rw [Quotas.hasSequentialWork, Bool.or_eq_true, decide_eq_true_eq, decide_eq_true_eq]
      exact .inr work
  | randomRead | randomWrite =>
      change config.blockSize.toNat * 1 ≤ config.maxAddress.toNat
      omega

/-- An access ends inside the address space. -/
def Inside (config : Config) (record : Record) : Prop :=
  record.address.toNat + config.blockSize.toNat ≤ config.maxAddress.toNat

/-- A record that ends inside the address space fits its words. -/
theorem record?_of_inside {config : Config} (kind : Kind) {start index : UInt64}
    (inside : start.toNat + index.toNat * config.blockSize.toNat + config.blockSize.toNat ≤
      config.maxAddress.toNat) :
    record? config kind start index = some { kind, address := start + index * config.blockSize } ∧
      config.Inside { kind, address := start + index * config.blockSize } := by
  have most := config.maxAddress.toNat_lt
  have offset_lt : index.toNat * config.blockSize.toNat < 2 ^ 64 := by omega
  have offset := toNat_mul_of_lt offset_lt
  have sum_lt : start.toNat + (index * config.blockSize).toNat < 2 ^ 64 := by omega
  constructor
  · simp only [record?, mul?_of_lt offset_lt, add?_of_lt sum_lt, Option.bind_eq_bind,
      Option.bind_some]
    rfl
  · rw [Inside, toNat_add_of_lt sum_lt]
    omega

/-- The records of a turn that has room fit their words and their space. -/
theorem records?_of_room {config : Config} {accessClass : AccessClass} {start : UInt64}
    (room : start.toNat + config.blockSize.toNat * (config.turnLength accessClass).toNat ≤
      config.maxAddress.toNat) :
    records? config accessClass start = some (config.segmentRecords { accessClass, start }) ∧
      ∀ record ∈ config.segmentRecords { accessClass, start }, config.Inside record := by
  have short := (config.turnLength accessClass).toNat_lt
  have inside (i : Nat) (hi : i ∈ List.range (config.turnLength accessClass).toNat) :
      start.toNat + (UInt64.ofNat i).toNat * config.blockSize.toNat + config.blockSize.toNat ≤
        config.maxAddress.toNat := by
    rw [List.mem_range] at hi
    have upTo := Nat.mul_le_mul_left config.blockSize.toNat (Nat.succ_le_of_lt hi)
    rw [Nat.mul_succ, mul_comm _ i] at upTo
    rw [UInt64.toNat_ofNat_of_lt' (hi.trans short)]
    omega
  constructor
  · rw [records?, segmentRecords]
    apply mapM_of_forall
    intro i hi
    exact (record?_of_inside accessClass.kind (inside i hi)).1
  · intro record member
    rw [segmentRecords, List.mem_map] at member
    obtain ⟨i, hi, rfl⟩ := member
    exact (record?_of_inside accessClass.kind (inside i hi)).2

end Config

/-! ### One turn of the checked run -/

section
variable {σ : Type} [AddressSource σ]

namespace Checked

/-- The state of a run whose ledger is known. -/
def Run.of (config : Config) (source : σ) (ledger : Ledger) : Run σ where
  source := (config.drawSegments ledger.turns source).2
  records := config.recordsOf (config.drawSegments ledger.turns source).1
  emitted := .ofTurns config ledger.turns
  left := ledger.left

theorem Run.left_of (config : Config) (source : σ) (ledger : Ledger) :
    (Run.of config source ledger).left = ledger.left := rfl

end Checked

/-- What holds between the turns of a run of a plan. -/
structure Safe (config : Config) (planned : Quotas) (source : σ) (ledger : Ledger) : Prop where
  balanced : ledger.Balanced config.burstStep planned
  honest : AddressSource.Honest (Run.of config source ledger).source
  inside : ∀ record ∈ (Run.of config source ledger).records, config.Inside record

variable {config : Config} {planned : Quotas} {source : σ} {ledger : Ledger}

/-- The state after one more turn, whose draw is known. -/
theorem run_of_record {c : AccessClass} {drawn : UInt64} {after : σ}
    (answer : AddressSource.draw 0 (config.maxAddress - config.turnSpan c)
      (Run.of config source ledger).source = (drawn, after)) :
    Run.of config source (ledger.record config.burstStep c) =
      { source := after
        records := (Run.of config source ledger).records ++ config.segmentRecords
          { accessClass := c, start := config.startOf c drawn }
        emitted := (Run.of config source ledger).emitted.add c (config.turnLength c)
        left := (Run.of config source ledger).left.take config.burstStep c } := by
  rw [Run.of] at answer
  simp only [Run.of, Ledger.record, Config.drawSegments_push, answer, Config.recordsOf_push,
    ClassCounts.ofTurns_push]

/-- A turn that is due has room: its class had work in the plan. -/
theorem Safe.room (burst : 0 < config.burstStep) (room : config.HasRoom planned)
    (safe : Safe config planned source ledger) {c : AccessClass} (work : 0 < c.quota ledger.left) :
    config.blockSize.toNat * (config.turnLength c).toNat ≤ config.maxAddress.toNat := by
  have left := Quotas.toInt_pos.2 work
  have le := safe.balanced.left_le burst c
  apply room.turn c
  rw [← Quotas.toInt_pos]
  omega

/-- The counter of a class has room for a turn that is due. -/
theorem Safe.counter_lt (burst : 0 < config.burstStep) (safe : Safe config planned source ledger)
    {c : AccessClass} (work : 0 < c.quota ledger.left) :
    (c.emitted (.ofTurns config ledger.turns)).toNat + (config.turnLength c).toNat < 2 ^ 64 := by
  have after := Config.made_lt (Ledger.balanced_record burst safe.balanced work) c
  rw [Ledger.record, Config.made_push_self] at after
  rw [Config.toNat_emitted safe.balanced c]
  exact after

/-- A turn that is due has a result, and the run is as safe after it. -/
theorem Safe.turn (burst : 0 < config.burstStep) (room : config.HasRoom planned)
    (safe : Safe config planned source ledger) {c : AccessClass} (work : 0 < c.quota ledger.left) :
    turn? config (Run.of config source ledger) c =
        some (Run.of config source (ledger.record config.burstStep c)) ∧
      Safe config planned source (ledger.record config.burstStep c) := by
  have fits := safe.room burst room work
  have span_lt := fits.trans_lt config.maxAddress.toNat_lt
  have span : (config.turnSpan c).toNat = _ := toNat_mul_of_lt span_lt
  have enough : (config.turnSpan c).toNat ≤ config.maxAddress.toNat := by omega
  have high := UInt64.toNat_sub_of_le _ _ (UInt64.le_iff_toNat_le.2 enough)
  have range : (0 : UInt64) ≤ config.maxAddress - config.turnSpan c := by
    rw [UInt64.le_iff_toNat_le]
    exact Nat.zero_le _
  have kept := AddressSource.honest_draw safe.honest range
  rcases answer : AddressSource.draw 0 (config.maxAddress - config.turnSpan c)
    (Run.of config source ledger).source with ⟨drawn, after⟩
  rw [answer] at kept
  obtain ⟨⟨-, drawn_le⟩, honest⟩ := kept
  change drawn ≤ config.maxAddress - config.turnSpan c at drawn_le
  rw [UInt64.le_iff_toNat_le] at drawn_le
  obtain ⟨start, start_le⟩ := start?_of_pos room.block c drawn
  have ends : (config.startOf c drawn).toNat +
      config.blockSize.toNat * (config.turnLength c).toNat ≤ config.maxAddress.toNat := by
    omega
  obtain ⟨records, inside⟩ := Config.records?_of_room ends
  rw [run_of_record answer]
  constructor
  · exact turn?_of_results work (mul?_of_lt span_lt) (sub?_of_le enough) answer start records
      (count?_of_lt (safe.counter_lt burst work)) (take?_of_pos burst work)
  · refine ⟨Ledger.balanced_record burst safe.balanced work, ?_, ?_⟩
    · rw [run_of_record answer]
      exact honest
    · rw [run_of_record answer]
      intro record member
      rw [← Array.mem_toList_iff, Array.toList_appendList, List.mem_append] at member
      rcases member with earlier | new
      · exact safe.inside record (Array.mem_toList_iff.1 earlier)
      · exact inside record new

/-- The turns of some classes, due or not, have a result. -/
theorem Safe.turns (burst : 0 < config.burstStep) (room : config.HasRoom planned)
    (classes : List AccessClass) (safe : Safe config planned source ledger) :
    classes.foldlM (turn? config) (Run.of config source ledger) =
        some (Run.of config source (classes.foldl (Ledger.turn config.burstStep) ledger)) ∧
      Safe config planned source (classes.foldl (Ledger.turn config.burstStep) ledger) := by
  induction classes generalizing ledger with
  | nil => exact ⟨rfl, safe⟩
  | cons c classes ih =>
      rw [List.foldlM_cons, List.foldl_cons, Ledger.turn]
      by_cases work : 0 < c.quota ledger.left
      · obtain ⟨result, safe⟩ := safe.turn burst room work
        rw [if_pos work, result]
        exact ih safe
      · have result : turn? config (Run.of config source ledger) c = some _ :=
          turn?_of_no_work work
        rw [if_neg work, result]
        exact ih safe

/-- The run has a result, the one of its turns. -/
theorem Safe.loop (burst : 0 < config.burstStep) (room : config.HasRoom planned)
    (safe : Safe config planned source ledger) :
    loop? config (Run.of config source ledger) =
        some (Run.of config source (ledger.finish config.burstStep)) ∧
      Safe config planned source (ledger.finish config.burstStep) := by
  induction ledger using Ledger.finish.induct config.burstStep with
  | case1 ledger more ih =>
      obtain ⟨result, safe⟩ := safe.turns burst room AccessClass.turns
      rw [← pass?, ← Ledger.pass] at result
      -- The checked loop goes on only if the pass has left less work.
      have less : (Run.of config source (ledger.pass config.burstStep)).left.workLeft <
          (Run.of config source ledger).left.workLeft := by
        rw [Run.left_of, Run.left_of, Ledger.pass_eq]
        exact Quotas.workLeft_afterPass_lt burst more.1
      have next : loop? config (Run.of config source ledger) =
          loop? config (Run.of config source (ledger.pass config.burstStep)) :=
        loop?_of_pass more.1 result less
      rw [next, Ledger.finish, dif_pos more]
      exact ih safe
  | case2 ledger done =>
      have noWork : ledger.left.anyPositive = false := by simpa [burst] using done
      have ends : loop? config (Run.of config source ledger) =
          some (Run.of config source ledger) := loop?_of_no_work noWork
      rw [Ledger.finish, dif_neg done]
      exact ⟨ends, safe⟩

end

/-! ### The whole run -/

/-- The work in four quotas is added up in the words that hold two of them. -/
theorem totalPositive?_of_lt {quotas : Quotas}
    (writes : quotas.sequentialWrite.toInt.toNat + quotas.randomWrite.toInt.toNat < 2 ^ 63)
    (reads : quotas.sequentialRead.toInt.toNat + quotas.randomRead.toInt.toNat < 2 ^ 63) :
    totalPositive? quotas = some quotas.totalPositive := by
  have sequentialWrite := Quotas.toNat_work quotas.sequentialWrite
  have sequentialRead := Quotas.toNat_work quotas.sequentialRead
  have randomWrite := Quotas.toNat_work quotas.randomWrite
  have randomRead := Quotas.toNat_work quotas.randomRead
  unfold totalPositive? Quotas.totalPositive
  generalize Quotas.work quotas.sequentialWrite = a at *
  generalize Quotas.work quotas.sequentialRead = b at *
  generalize Quotas.work quotas.randomWrite = c at *
  generalize Quotas.work quotas.randomRead = d at *
  have first : a.toNat + b.toNat < 2 ^ 64 := by omega
  have sum := toNat_add_of_lt first
  have second : (a + b).toNat + c.toNat < 2 ^ 64 := by omega
  have sum' := toNat_add_of_lt second
  have third : (a + b + c).toNat + d.toNat < 2 ^ 64 := by omega
  rw [add?_of_lt first, Option.bind_eq_bind, Option.bind_some, add?_of_lt second,
    Option.bind_some, add?_of_lt third]

/-- The work in a plan fits a word. -/
theorem totalPositive?_of_plan {config : Config} {planned : Quotas}
    (hplan : config.plan = .ok planned) :
    totalPositive? planned = some planned.totalPositive := by
  obtain ⟨checked, -, planning⟩ := (Config.plan_eq_ok_iff config planned).1 hplan
  obtain ⟨⟨write_nonneg, rest_nonneg, writes⟩, ⟨read_nonneg, others_nonneg, reads⟩⟩ :=
    Config.split_compute checked
  rw [← planning] at *
  have most (x : ℚ) : Quotas.percentFloor x ≤ 2 ^ 63 - 1 := min_le_right _ _
  have writes_le := writes.trans_le (most _)
  have reads_le := reads.trans_le (most _)
  apply totalPositive?_of_lt
  · omega
  · omega

section
variable {σ : Type} [AddressSource σ] {config : Config} {planned : Quotas}

/-- A run of a plan never leaves its machine words, and none of its accesses
leaves the address space, as long as the source answers as it is asked. -/
theorem generate_checked {source : σ} (hplan : config.plan = .ok planned)
    (honest : AddressSource.Honest source) :
    Checked.generate? config source = some (generate config source) ∧
      ∃ trace rest, generate config source = (.ok trace, rest) ∧
        ∀ record ∈ trace.records,
          record.address.toNat + config.blockSize.toNat ≤ config.maxAddress.toNat := by
  have start : Safe config planned source (Ledger.opening planned) := by
    refine ⟨Ledger.balanced_opening, honest, ?_⟩
    intro record member
    simp [Run.of, Ledger.opening, Config.drawSegments, Config.recordsOf] at member
  obtain ⟨result, safe⟩ := start.loop (Config.burstStep_pos hplan) (Config.hasRoom_of_plan hplan)
  have schedule := Ledger.turns_finish config.burstStep (Ledger.opening planned)
  have same : generate config source =
      (.ok { records := (Run.of config source
               ((Ledger.opening planned).finish config.burstStep)).records
             report :=
               { planned
                 emitted := (Run.of config source
                   ((Ledger.opening planned).finish config.burstStep)).emitted } },
        (Run.of config source ((Ledger.opening planned).finish config.burstStep)).source) := by
    rw [generate_of_plan hplan, Schedule.ofQuotas]
    simp only [Run.of, schedule]
    rfl
  constructor
  · have initial : Run.of config source (Ledger.opening planned) =
        { source, records := #[], emitted := {}, left := planned } := rfl
    rw [initial] at result
    simp only [same, Checked.generate?, hplan, totalPositive?_of_plan hplan, result,
      Option.bind_eq_bind, Option.bind_some]
    rfl
  · exact ⟨_, _, same, safe.inside⟩

end

/-- One burst over an address space that is as large as words can say. -/
def wholeSpaceExample : Config where
  maxAddress := 0xFFFFFFFFFFFFFFFF
  instructionCount := 1
  writeRatio := .ofNat 100
  writeSequentialFraction := .ofNat 1
  blockSize := 1
  sequentialBlockCount := 0xFFFFFFFFFFFFFFFF
  alignToBlockSize := true

theorem generate_checked_whole_space :
    wholeSpaceExample.plan = .ok ⟨1, 0, 0, 0⟩ ∧ AddressSource.Honest Scripted.highest ∧
      Checked.generate? wholeSpaceExample Scripted.highest =
        some (generate wholeSpaceExample Scripted.highest) ∧
      ∃ trace rest, generate wholeSpaceExample Scripted.highest = (.ok trace, rest) ∧
        ∀ record ∈ trace.records, record.address.toNat + 1 ≤ 2 ^ 64 - 1 := by
  have hplan : wholeSpaceExample.plan = .ok ⟨1, 0, 0, 0⟩ := by decide +kernel
  have honest := Scripted.honest Scripted.highest
  exact ⟨hplan, honest, generate_checked hplan honest⟩

end AccessTrace
