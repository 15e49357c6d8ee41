/-
Module: AccessTrace.Proofs.Interchange.RunReport
Purpose: The report on a run is decoded from the text that is written for it.
Main exports:
  Config.recovers, RunReport.recovers, RunReport.survives
-/
import Mathlib
import AccessTrace.Interchange.Decoding
import AccessTrace.Interchange.Encoding
import AccessTrace.Proofs.Generator.Records
import AccessTrace.Proofs.Json.Records
import AccessTrace.Proofs.Quotas.Split
import AccessTrace.Proofs.Storage.FileTree

namespace AccessTrace

open Json

/-! ### Members that may be left out -/

section
variable {α : Type} (write : α → Value) (value : Option α)

theorem lookup_memberIfAny_self (key : String) :
    (memberIfAny key write value).lookup key = value.map write := by
  cases value with
  | none => rfl
  | some value => exact List.lookup_cons_self

theorem lookup_memberIfAny_other {key name : String} (other : name ≠ key) :
    (memberIfAny key write value).lookup name = none := by
  cases value with
  | none => rfl
  | some value =>
      show List.lookup name [(key, write value)] = none
      rw [List.lookup_cons, beq_false_of_ne other]
      rfl

theorem keys_memberIfAny (key : String) :
    ((memberIfAny key write value).map Prod.fst).Sublist [key] := by
  cases value with
  | none => exact List.nil_sublist _
  | some value => exact List.Sublist.refl _

end

/-! ### Parts of a report -/

theorem Quotas.recovers (quotas : Quotas) : Recovers Quotas.ofJson Quotas.toJson quotas := by
  obtain ⟨sequentialWrite, sequentialRead, randomWrite, randomRead⟩ := quotas
  refine Fields.Reads.decode ?_ (by decide) (List.Sublist.refl _)
  refine (((Fields.Reads.map Quotas.mk ?_).seq ?_).seq ?_).seq ?_
  · exact .single (by simp) (recovers_signed sequentialWrite)
  · exact .single (by simp [List.lookup_cons]) (recovers_signed sequentialRead)
  · exact .single (by simp [List.lookup_cons]) (recovers_signed randomWrite)
  · exact .single (by simp [List.lookup_cons]) (recovers_signed randomRead)

theorem ClassCounts.recovers (counts : ClassCounts) :
    Recovers ClassCounts.ofJson ClassCounts.toJson counts := by
  obtain ⟨sequentialWrite, sequentialRead, randomWrite, randomRead⟩ := counts
  refine Fields.Reads.decode ?_ (by decide) (List.Sublist.refl _)
  refine (((Fields.Reads.map ClassCounts.mk ?_).seq ?_).seq ?_).seq ?_
  · exact .single (by simp) (recovers_word sequentialWrite)
  · exact .single (by simp [List.lookup_cons]) (recovers_word sequentialRead)
  · exact .single (by simp [List.lookup_cons]) (recovers_word randomWrite)
  · exact .single (by simp [List.lookup_cons]) (recovers_word randomRead)

section
variable {read : NumberText → Except Fault Binary64}

/-- The reals of the derived percentages. -/
def DerivedRatios.reals (derived : DerivedRatios) : List Binary64 :=
  [derived.readPercent, derived.readRandomPercent, derived.writeRandomPercent]

/-- The reals of the parameters. -/
def Config.reals (config : Config) : List Binary64 :=
  [config.writeRatio, config.writeSequentialFraction, config.readSequentialFraction]

theorem DerivedRatios.recovers {derived : DerivedRatios}
    (finite : ∀ real ∈ derived.reals, real.isFinite = true)
    (reads : ∀ real ∈ derived.reals, ReadsBack read real) :
    Recovers (DerivedRatios.ofJsonBy read) DerivedRatios.toJson derived := by
  obtain ⟨readPercent, readRandomPercent, writeRandomPercent⟩ := derived
  simp only [reals, List.forall_mem_cons] at finite reads
  obtain ⟨finiteRead, finiteReadRandom, finiteWriteRandom, -⟩ := finite
  obtain ⟨readsRead, readsReadRandom, readsWriteRandom, -⟩ := reads
  refine Fields.Reads.decode ?_ ?_ (List.Sublist.refl _)
  · refine ((Fields.Reads.map DerivedRatios.mk ?_).seq ?_).seq ?_
    · exact .single (by simp) (recovers_real finiteRead readsRead)
    · exact .single (by simp [List.lookup_cons]) (recovers_real finiteReadRandom readsReadRandom)
    · exact .single (by simp [List.lookup_cons]) (recovers_real finiteWriteRandom readsWriteRandom)
  · show ["read_percent", "read_random_percent", "write_random_percent"].Nodup
    decide

theorem Config.recovers {config : Config}
    (finite : ∀ real ∈ config.reals, real.isFinite = true)
    (reads : ∀ real ∈ config.reals, ReadsBack read real) :
    Recovers (Config.ofJsonBy read) Config.toJson config := by
  obtain ⟨maxAddress, instructionCount, writeRatio, writeFraction, readFraction, blockSize,
    sequentialBlockCount, alignToBlockSize, seed⟩ := config
  simp only [reals, List.forall_mem_cons] at finite reads
  obtain ⟨finiteRatio, finiteWrite, finiteRead, -⟩ := finite
  obtain ⟨readsRatio, readsWrite, readsRead, -⟩ := reads
  refine Fields.Reads.decode ?_ ?_ ?_
  · refine ((((((((Fields.Reads.map Config.mk ?_).seq ?_).seq ?_).seq ?_).seq ?_).seq ?_).seq
      ?_).seq ?_).seq ?_
    · exact .single (by simp) (recovers_word maxAddress)
    · exact .single (by simp [List.lookup_cons, Field.name]) (recovers_word instructionCount)
    · exact .single (by simp [List.lookup_cons, Field.name]) (recovers_real finiteRatio readsRatio)
    · exact .single (by simp [List.lookup_cons, Field.name]) (recovers_real finiteWrite readsWrite)
    · exact .single (by simp [List.lookup_cons, Field.name]) (recovers_real finiteRead readsRead)
    · exact .single (by simp [List.lookup_cons, Field.name]) (recovers_word blockSize)
    · exact .single (by simp [List.lookup_cons, Field.name]) (recovers_word sequentialBlockCount)
    · exact .single (by simp [List.lookup_cons, Field.name]) (recovers_boolean alignToBlockSize)
    · refine .ifAny Value.ofWord ?_ ?_
      · simp [List.lookup_cons, Field.name, lookup_memberIfAny_self]
      · rintro content -
        exact ⟨recovers_word content, Reading.noConfusion⟩
  · show (["max_address", "instruction_count", "write_ratio", "write_sequential_fraction",
      "read_sequential_fraction", "block_size", "sequential_block_count", "align_to_block_size",
      "seed"] : List String).Nodup
    decide
  · rw [List.map_append]
    exact (List.Sublist.refl _).append (keys_memberIfAny Value.ofWord seed "seed")

/-- The reals of a report. -/
def RunReport.reals (report : RunReport) : List Binary64 :=
  report.config.reals ++ report.derived.reals

theorem RunReport.recovers {report : RunReport}
    (finite : ∀ real ∈ report.reals, real.isFinite = true)
    (reads : ∀ real ∈ report.reals, ReadsBack read real) :
    Recovers (RunReport.ofJsonBy read) RunReport.toJson report := by
  obtain ⟨finiteConfig, finiteDerived⟩ := List.forall_mem_append.1 finite
  obtain ⟨readsConfig, readsDerived⟩ := List.forall_mem_append.1 reads
  obtain ⟨tool, version, generatedAt, traceFile, config, derived, planned, emitted,
    totalRecords⟩ := report
  refine Fields.Reads.decode ?_ ?_ ?_
  · refine ((((((((Fields.Reads.map RunReport.mk ?_).seq ?_).seq ?_).seq ?_).seq ?_).seq ?_).seq
      ?_).seq ?_).seq ?_
    · exact .single (by simp) (recovers_string tool)
    · exact .single (by simp [List.lookup_cons]) (recovers_string version)
    · exact .single (by simp [List.lookup_cons]) (recovers_string generatedAt)
    · refine .ifAny Value.string ?_ ?_
      · simp [List.lookup_cons, List.lookup_append, lookup_memberIfAny_self]
      · rintro content -
        exact ⟨recovers_string content, Reading.noConfusion⟩
    · exact .single (by simp [List.lookup_cons, List.lookup_append, lookup_memberIfAny_other])
        (Config.recovers finiteConfig readsConfig)
    · exact .single (by simp [List.lookup_cons, List.lookup_append, lookup_memberIfAny_other])
        (DerivedRatios.recovers finiteDerived readsDerived)
    · exact .single (by simp [List.lookup_cons, List.lookup_append, lookup_memberIfAny_other])
        (Quotas.recovers planned)
    · exact .single (by simp [List.lookup_cons, List.lookup_append, lookup_memberIfAny_other])
        (ClassCounts.recovers emitted)
    · exact .single (by simp [List.lookup_cons, List.lookup_append, lookup_memberIfAny_other])
        (recovers_word totalRecords)
  · show ["tool", "version", "generated_at", "trace_file", "config", "derived", "planned",
      "emitted", "total_records"].Nodup
    decide
  · rw [List.map_append, List.map_append]
    have middle := keys_memberIfAny Value.string traceFile "trace_file"
    exact ((List.Sublist.refl _).append middle).append (List.Sublist.refl _)

end

/-! ### Reports on runs -/

theorem Config.finite_reals {config : Config} (ratios : config.RatiosInRange) :
    ∀ real ∈ config.reals, real.isFinite = true := by
  simp [reals, ratios.writeRatio_finite, ratios.writeFraction_finite, ratios.readFraction_finite]

/-- What a fraction leaves of a hundred percent. -/
theorem isFinite_hundred_sub {fraction : Binary64} (finite : fraction.isFinite = true)
    (nonneg : 0 ≤ fraction.toRat) (le_one : fraction.toRat ≤ 1) :
    (Binary64.hundred - fraction * Binary64.hundred).isFinite = true := by
  have huge : (100 : ℚ) < 2 ^ 900 :=
    lt_of_lt_of_le (by norm_num) (pow_le_pow_right₀ (by norm_num) (show 7 ≤ 900 by norm_num))
  have percent_nonneg : 0 ≤ fraction.toRat * 100 := by linarith
  have percent_le : fraction.toRat * 100 ≤ 100 := by linarith
  have percent := Binary64.rounds_mul finite Quotas.isFinite_hundred
  rw [Quotas.toRat_hundred, abs_of_nonneg percent_nonneg] at percent
  have rounded := percent (percent_le.trans_lt huge)
  have rounded_nonneg := Binary64.nearest_nonneg percent_nonneg
  have rounded_le : Binary64.nearest (fraction.toRat * 100) ≤ 100 :=
    (Binary64.nearest_mono percent_le).trans_eq Quotas.nearest_hundred
  refine (Binary64.rounds_sub Quotas.isFinite_hundred rounded.finite ?_).finite
  rw [Quotas.toRat_hundred, rounded.value, abs_of_nonneg (by linarith)]
  exact lt_of_le_of_lt (by linarith) huge

theorem DerivedRatios.finite_reals {config : Config} (ratios : config.RatiosInRange) :
    ∀ real ∈ config.derivedRatios.reals, real.isFinite = true := by
  simp only [reals, List.forall_mem_cons]
  refine ⟨(Config.rounds_readRatio ratios).finite, ?_, ?_, by simp⟩
  · exact isFinite_hundred_sub ratios.readFraction_finite ratios.readFraction_nonneg
      ratios.readFraction_le
  · exact isFinite_hundred_sub ratios.writeFraction_finite ratios.writeFraction_nonneg
      ratios.writeFraction_le

/-- The report on a run has finite numbers only. -/
theorem RunReport.finite_ofRun {σ : Type} [AddressSource σ] {config : Config} {source after : σ}
    {trace : Trace} (generated : generate config source = (.ok trace, after))
    (traceFile : Option String) (generatedAt : String) :
    ∀ real ∈ (RunReport.ofRun config trace.report traceFile generatedAt).reals,
      real.isFinite = true := by
  have plan := plan_of_generate (congrArg Prod.fst generated)
  obtain ⟨checked, -, -⟩ := (Config.plan_eq_ok_iff config _).1 plan
  have ratios := Config.ratiosInRange checked
  exact List.forall_mem_append.2 ⟨Config.finite_reals ratios, DerivedRatios.finite_reals ratios⟩

/-! ### The text of a report -/

theorem RunReport.decode_text {read : NumberText → Except Fault Binary64} {report : RunReport}
    (finite : ∀ real ∈ report.reals, real.isFinite = true)
    (reads : ∀ real ∈ report.reals, ReadsBack read real) (form : Form) :
    Json.decode (RunReport.ofJsonBy read) (report.text form) = .ok report :=
  decode_print (RunReport.recovers finite reads) form

/-- A reader that rounds once reads the report on any run. -/
theorem RunReport.decode_ofRun {σ : Type} [AddressSource σ] {config : Config} {source after : σ}
    {trace : Trace} (generated : generate config source = (.ok trace, after))
    (traceFile : Option String) (generatedAt : String) (form : Form) :
    let report := RunReport.ofRun config trace.report traceFile generatedAt
    Json.decode (RunReport.ofJsonBy NumberText.nearest) (report.text form) = .ok report := by
  have finite := finite_ofRun generated traceFile generatedAt
  exact decode_text finite (fun real member => readsBack_nearest (finite real member)) form

/-- What the text of a report is good for. -/
structure RunReport.Survives (read : NumberText → Except Fault Binary64) (report : RunReport)
    (form : Form) : Prop where
  decoded : Json.decode (RunReport.ofJsonBy read) (report.text form) = .ok report
  /-- A report file has the text in it that is decoded. -/
  stored : ∀ (tree after : FileTree) (path : String), tree.NoDevice path →
    tree.write path [(report.text form).toUTF8] = (.ok (), after) →
      after.read path = .ok (report.text form).toUTF8
  /-- The plan of a run that ended well follows from the parameters in its report. -/
  replanned : ∀ {σ : Type} [AddressSource σ] (config : Config) (source after : σ) (trace : Trace)
    (traceFile : Option String) (generatedAt : String),
    generate config source = (.ok trace, after) →
      report = .ofRun config trace.report traceFile generatedAt →
        ∃ found, Json.decode (RunReport.ofJsonBy read) (report.text form) = .ok found ∧
          Quotas.compute found.config = found.planned

/-- A report of finite numbers is decoded from its text, by any reader that gives
the numbers back. -/
theorem RunReport.survives {read : NumberText → Except Fault Binary64} {report : RunReport}
    (finite : ∀ real ∈ report.reals, real.isFinite = true)
    (reads : ∀ real ∈ report.reals, ReadsBack read real) (form : Form) :
    report.Survives read form := by
  constructor
  · exact decode_text finite reads form
  · intro tree after path noDevice written
    rw [FileTree.read_write noDevice written, joined_singleton]
  · intro σ _ config source after trace traceFile generatedAt generated made
    refine ⟨report, decode_text finite reads form, ?_⟩
    have plan := plan_of_generate (congrArg Prod.fst generated)
    obtain ⟨-, -, planned⟩ := (Config.plan_eq_ok_iff config _).1 plan
    subst made
    exact planned.symm

/-- A report with the ends of all ranges in it. -/
def RunReport.extreme : RunReport where
  tool := "\"\\/\x08\t\n\x0c\r\x01\x1f"
  version := ""
  generatedAt := "2026-01-01T00:00:00+00:00"
  traceFile := some "Spur/Жук/跡/🐞"
  config :=
    { maxAddress := 0xFFFFFFFFFFFFFFFF
      instructionCount := 0
      writeRatio := .zero true
      writeSequentialFraction := .finite false 1 (by decide)
      readSequentialFraction := .finite true (2047 * Binary64.binade - 1) (by decide) }
  derived :=
    { readPercent := .ofNat 10000000000000000
      readRandomPercent := .ofNat 3 / .ofNat 10000000
      writeRandomPercent := .ofNat 3 / .ofNat 8 }
  planned :=
    { sequentialWrite := Int64.minValue
      sequentialRead := Int64.maxValue
      randomWrite := -1
      randomRead := 0 }
  emitted := { sequentialWrite := 0xFFFFFFFFFFFFFFFF }
  totalRecords := 0

/-- The program's own reader reads it, in either form. -/
theorem RunReport.survives_extreme :
    (∀ real ∈ extreme.reals, real.isFinite = true ∧ ReadsBack NumberText.real real) ∧
      ∀ form, Json.decode RunReport.ofJson (extreme.text form) = .ok extreme := by
  have finite : ∀ real ∈ extreme.reals, real.isFinite = true := by decide +kernel
  have read : ∀ real ∈ extreme.reals, realBy NumberText.real (realReading real) = .ok real := by
    decide +kernel
  have reads : ∀ real ∈ extreme.reals, ReadsBack NumberText.real real := by
    intro real member
    exact readsBack_of_realBy (read real member)
  refine ⟨fun real member => ⟨finite real member, reads real member⟩, ?_⟩
  intro form
  exact (survives finite reads form).decoded

end AccessTrace
