/-
Module: AccessTrace.Proofs.Config.Requirements
Purpose: What a configuration has to meet to be planned, and which complaint one gets that does not.
Main exports:
  Requirement, FirstUnmet, Enforces, Config.requirements, Config.enforces_checkRange, plan_exact
-/
import Mathlib
import AccessTrace.Generator
import AccessTrace.Proofs.Quotas.Split

namespace AccessTrace

open Binary64

/-!
The requirements on a configuration are stated as facts about its numbers, in
the order in which they are looked at.  A check enforces a list of them if it
accepts what meets them all and otherwise has the complaint of the first that
is not met.  Checks that are made one after the other enforce their
requirements one after the other.
-/

/-! ### Requirements and checks -/

/-- A condition, and the complaint about what does not meet it. -/
structure Requirement where
  Met : Prop
  complaint : ParameterError

/-- The complaint that comes first. -/
inductive FirstUnmet : List Requirement → ParameterError → Prop where
  | here {requirement : Requirement} {others : List Requirement} (unmet : ¬ requirement.Met) :
      FirstUnmet (requirement :: others) requirement.complaint
  | later {requirement : Requirement} {others : List Requirement} {complaint : ParameterError}
      (met : requirement.Met) (first : FirstUnmet others complaint) :
      FirstUnmet (requirement :: others) complaint

/-- A check accepts what meets some requirements, and nothing else. -/
structure Enforces (requirements : List Requirement) (check : Except ParameterError Unit) :
    Prop where
  accepts : check = .ok () ↔ ∀ requirement ∈ requirements, requirement.Met
  refuses : ∀ complaint, check = .error complaint ↔ FirstUnmet requirements complaint

theorem firstUnmet_append_iff (first second : List Requirement) (complaint : ParameterError) :
    FirstUnmet (first ++ second) complaint ↔
      FirstUnmet first complaint ∨
        (∀ requirement ∈ first, requirement.Met) ∧ FirstUnmet second complaint := by
  induction first with
  | nil =>
      constructor
      · intro unmet
        exact .inr ⟨by simp, unmet⟩
      · rintro (none | ⟨-, unmet⟩)
        · cases none
        · exact unmet
  | cons requirement first ih =>
      rw [List.cons_append, List.forall_mem_cons]
      constructor
      · intro unmet
        cases unmet with
        | here unmet => exact .inl (.here unmet)
        | later met unmet =>
            rcases ih.1 unmet with inFirst | ⟨others, inSecond⟩
            · exact .inl (.later met inFirst)
            · exact .inr ⟨⟨met, others⟩, inSecond⟩
      · rintro (inFirst | ⟨⟨met, others⟩, inSecond⟩)
        · cases inFirst with
          | here unmet => exact .here unmet
          | later met inFirst => exact .later met (ih.2 (.inl inFirst))
        · exact .later met (ih.2 (.inr ⟨others, inSecond⟩))

namespace Enforces
variable {requirements others : List Requirement} {check next : Except ParameterError Unit}

/-- A check of a single requirement. -/
theorem single {requirement : Requirement} (met : requirement.Met → check = .ok ())
    (unmet : ¬ requirement.Met → check = .error requirement.complaint) :
    Enforces [requirement] check := by
  by_cases holds : requirement.Met
  · have accepted := met holds
    subst accepted
    constructor
    · simpa using holds
    · intro complaint
      constructor
      · exact nofun
      · intro first
        cases first with
        | here unmet => exact absurd holds unmet
        | later met first => cases first
  · have refused := unmet holds
    subst refused
    constructor
    · simpa using holds
    · intro complaint
      constructor
      · rintro ⟨⟩
        exact .here holds
      · intro first
        cases first with
        | here unmet => rfl
        | later met first => exact absurd met holds

/-- Two checks, the second of which is made if the first accepts. -/
theorem append (first : Enforces requirements check) (second : Enforces others next) :
    Enforces (requirements ++ others) (check >>= fun _ => next) := by
  constructor
  · rw [check_bind_eq_ok_iff, first.accepts, second.accepts, List.forall_mem_append]
  · intro complaint
    rw [firstUnmet_append_iff, ← first.refuses, ← second.refuses, ← first.accepts]
    cases check with
    | error earlier => simp [bind, Except.bind]
    | ok _ => simp [bind, Except.bind]

/-- A check of one requirement in front of another check. -/
theorem cons {requirement : Requirement} (first : Enforces [requirement] check)
    (second : Enforces others next) :
    Enforces (requirement :: others) (check >>= fun _ => next) :=
  first.append second

end Enforces

/-! ### The requirements on a configuration -/

/-- A bound or a count is at least one. -/
def Requirement.positive (field : Field) (value : UInt64) : Requirement where
  Met := 1 ≤ value.toNat
  complaint := .notPositive field value.toNat

/-- A number lies between two whole numbers, which it may be equal to. -/
def Requirement.between (field : Field) (value : Binary64) (least greatest : Nat) :
    Requirement where
  Met := value.isFinite = true ∧ least ≤ value.toRat ∧ value.toRat ≤ greatest
  complaint := .outOfRange field value (.ofNat least) (.ofNat greatest)

namespace Config

/-- What each parameter has to meet by itself. -/
def ownRequirements (config : Config) : List Requirement :=
  [.positive .maxAddress config.maxAddress,
    .positive .instructionCount config.instructionCount,
    .positive .blockSize config.blockSize,
    .positive .sequentialBlockCount config.sequentialBlockCount,
    .between .writeRatio config.writeRatio 0 100,
    .between .writeSequentialFraction config.writeSequentialFraction 0 1,
    .between .readSequentialFraction config.readSequentialFraction 0 1]

/-- What the address space has to hold: a block, and a burst if one is planned. -/
def spanRequirements (config : Config) (quotas : Quotas) : List Requirement :=
  [{ Met := config.blockSize.toNat ≤ config.maxAddress.toNat
     complaint := .spanTooLarge .random config.maxAddress config.blockSize.toNat },
    { Met := 0 < quotas.sequentialWrite.toInt ∨ 0 < quotas.sequentialRead.toInt →
        config.blockSize.toNat * config.sequentialBlockCount.toNat ≤ config.maxAddress.toNat
      complaint := .spanTooLarge .sequential config.maxAddress
        (config.blockSize.toNat * config.sequentialBlockCount.toNat) }]

/-- What a configuration has to meet, in the order in which it is looked at. -/
def requirements (config : Config) : List Requirement :=
  config.ownRequirements ++ config.spanRequirements (Quotas.compute config)

theorem enforces_checkPositive (field : Field) (value : UInt64) :
    Enforces [.positive field value] (checkPositive field value) := by
  apply Enforces.single
  · intro met
    exact (checkPositive_eq_ok_iff field value).2 met
  · intro unmet
    have zero : value = 0 := by
      rw [← UInt64.toNat_inj]
      simp only [Requirement.positive, not_le, Nat.lt_one_iff] at unmet
      exact unmet
    subst zero
    rfl

theorem enforces_checkRange (field : Field) (value : Binary64) {least greatest : Nat}
    (hleast : least < 2 ^ 53) (hgreatest : greatest < 2 ^ 53) :
    Enforces [.between field value least greatest]
      (checkRange field value (.ofNat least) (.ofNat greatest)) := by
  have inside := between_ofNat_iff value hleast hgreatest
  apply Enforces.single
  · intro met
    exact (checkRange_eq_ok_iff _ _ _ _).2 (inside.2 met)
  · intro unmet
    rw [Requirement.between, ← inside, ← Bool.and_eq_true] at unmet
    exact if_neg unmet

theorem enforces_check (config : Config) : Enforces config.ownRequirements config.check := by
  have bounds : Enforces _ config.checkBounds :=
    .cons (enforces_checkPositive _ _) (.cons (enforces_checkPositive _ _)
      (.cons (enforces_checkPositive _ _) (enforces_checkPositive _ _)))
  have ratios : Enforces _ config.checkRatios :=
    .cons (enforces_checkRange _ _ (by norm_num) (by norm_num))
      (.cons (enforces_checkRange _ _ (by norm_num) (by norm_num))
        (enforces_checkRange _ _ (by norm_num) (by norm_num)))
  exact bounds.append ratios

/-- A condition under which a complaint is made, as a check of its own. -/
theorem enforces_ite {condition Met : Prop} [Decidable condition] (complaint : ParameterError)
    (unmet : condition ↔ ¬ Met) :
    Enforces [{ Met, complaint }] (if condition then .error complaint else .ok ()) := by
  apply Enforces.single
  · intro met
    exact if_neg fun holds => unmet.1 holds met
  · intro fails
    exact if_pos (unmet.2 fails)

theorem hasSequentialWork_iff (quotas : Quotas) :
    quotas.hasSequentialWork = true ↔
      0 < quotas.sequentialWrite.toInt ∨ 0 < quotas.sequentialRead.toInt := by
  simp [Quotas.hasSequentialWork, Int64.lt_iff_toInt_lt]

theorem enforces_checkAddressSpace (config : Config) (quotas : Quotas) :
    Enforces (config.spanRequirements quotas) (config.checkAddressSpace quotas) := by
  have block := enforces_ite
    (.spanTooLarge .random config.maxAddress config.blockSize.toNat)
    (show config.maxAddress < config.blockSize ↔
        ¬ config.blockSize.toNat ≤ config.maxAddress.toNat by
      rw [UInt64.lt_iff_toNat_lt, not_le])
  have burst := enforces_ite
    (.spanTooLarge .sequential config.maxAddress config.exactBurstSpan)
    (show (quotas.hasSequentialWork && config.burstSpan?.all (config.maxAddress < ·)) = true ↔
        ¬ (0 < quotas.sequentialWrite.toInt ∨ 0 < quotas.sequentialRead.toInt →
          config.exactBurstSpan ≤ config.maxAddress.toNat) by
      rw [Bool.and_eq_true, burstSpan?_all_iff, hasSequentialWork_iff, Classical.not_imp, not_le])
  have chained := block.cons burst
  rw [checkAddressSpace]
  by_cases small : config.maxAddress < config.blockSize
  · rw [if_pos small] at chained ⊢
    exact chained
  · rw [if_neg small] at chained ⊢
    exact chained

theorem plan_eq_check (config : Config) :
    config.plan = (config.check >>= fun _ =>
      config.checkAddressSpace (Quotas.compute config)).map fun _ => Quotas.compute config := by
  unfold plan
  cases config.check with
  | error complaint => rfl
  | ok _ =>
      cases h : config.checkAddressSpace (Quotas.compute config) with
      | error complaint => simp [h, bind, Except.bind, Except.map]
      | ok _ => simp [h, bind, Except.bind, Except.map, pure, Except.pure]

end Config

/-- Planning succeeds exactly for the configurations that meet all requirements
and gives their quotas; any other configuration gets the complaint of the first
requirement that it does not meet.  A run is refused exactly when its plan is,
for the same reason, and then its source is left as it was. -/
theorem plan_exact (config : Config) :
    (∀ planned, config.plan = .ok planned ↔
      (∀ requirement ∈ config.requirements, requirement.Met) ∧
        planned = Quotas.compute config) ∧
    (∀ complaint, config.plan = .error complaint ↔
      FirstUnmet config.requirements complaint) ∧
    ∀ (σ : Type) [AddressSource σ] (source : σ) (complaint : ParameterError),
      ((generate config source).1 = .error complaint ↔ config.plan = .error complaint) ∧
        ((generate config source).1 = .error complaint → (generate config source).2 = source) := by
  have enforced := config.enforces_check.append
    (config.enforces_checkAddressSpace (Quotas.compute config))
  refine ⟨?_, ?_, ?_⟩
  · intro planned
    rw [Config.requirements, ← enforced.accepts, config.plan_eq_check]
    cases config.check >>= fun _ => config.checkAddressSpace (Quotas.compute config) with
    | error complaint => simp [Except.map]
    | ok _ => simp [Except.map, eq_comm]
  · intro complaint
    rw [Config.requirements, ← enforced.refuses, config.plan_eq_check]
    cases config.check >>= fun _ => config.checkAddressSpace (Quotas.compute config) with
    | error first => simp [Except.map]
    | ok _ => simp [Except.map]
  · intro σ _ source complaint
    unfold generate
    cases config.plan with
    | error first => exact ⟨by simp, fun _ => rfl⟩
    | ok planned => exact ⟨by simp, nofun⟩

end AccessTrace
