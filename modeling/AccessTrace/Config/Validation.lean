/-
Module: AccessTrace.Config.Validation
Purpose: The checks that come before a run, and the plan that passes them.
Main exports:
  Config.checkBounds, Config.checkRatios, Config.check, Config.checkAddressSpace, Config.plan
-/
import AccessTrace.Parameter.Error
import AccessTrace.Quotas

namespace AccessTrace.Config

open Binary64 (hundred)

/-!
No value is adjusted.  The first check that fails is reported, and the checks
have a fixed order: the counts, the ratios, then the address space.  A random
access needs one block of addresses in every run; a burst needs all its blocks
only in a run that has bursts.
-/

/-- Refuses zero. -/
def checkPositive (field : Field) (value : UInt64) : Except ParameterError Unit :=
  if value = 0 then .error (.notPositive field 0) else .ok ()

/-- Refuses what is not between two numbers, the numbers themselves included. -/
def checkRange (field : Field) (value least greatest : Binary64) : Except ParameterError Unit :=
  if least.le value && value.le greatest then .ok ()
  else .error (.outOfRange field value least greatest)

/-- Checks that bounds and counts are positive. -/
def checkBounds (config : Config) : Except ParameterError Unit := do
  checkPositive .maxAddress config.maxAddress
  checkPositive .instructionCount config.instructionCount
  checkPositive .blockSize config.blockSize
  checkPositive .sequentialBlockCount config.sequentialBlockCount

/-- Checks the percentage and the two fractions. -/
def checkRatios (config : Config) : Except ParameterError Unit := do
  checkRange .writeRatio config.writeRatio (.ofNat 0) hundred
  checkRange .writeSequentialFraction config.writeSequentialFraction (.ofNat 0) (.ofNat 1)
  checkRange .readSequentialFraction config.readSequentialFraction (.ofNat 0) (.ofNat 1)

/-- Checks each parameter by itself. -/
def check (config : Config) : Except ParameterError Unit := do
  config.checkBounds
  config.checkRatios

/-- Checks that every draw which the quotas call for has an address to give. -/
def checkAddressSpace (config : Config) (quotas : Quotas) : Except ParameterError Unit :=
  if config.maxAddress < config.blockSize then
    .error (.spanTooLarge .random config.maxAddress config.blockSize.toNat)
  else if quotas.hasSequentialWork && config.burstSpan?.all (config.maxAddress < ·) then
    .error (.spanTooLarge .sequential config.maxAddress config.exactBurstSpan)
  else .ok ()

/-- The quotas of a run that passes every check. -/
def plan (config : Config) : Except ParameterError Quotas := do
  config.check
  let quotas := Quotas.compute config
  config.checkAddressSpace quotas
  return quotas

end AccessTrace.Config
