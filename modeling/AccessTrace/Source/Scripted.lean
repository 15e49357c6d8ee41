/-
Module: AccessTrace.Source.Scripted
Purpose: A source that answers from a list, for runs that are to come out the same.
Main exports:
  Scripted, Scripted.replay, Scripted.lowest, Scripted.highest
-/
import AccessTrace.Source.Basic

namespace AccessTrace

/-!
A script is replayed from its start, and again from its start when it is used
up.  A value is folded into the range that is asked for by its remainder.  A
range of one value leaves the script where it is.  Every request counts as a
draw, whatever becomes of the script.
-/

/-- How a scripted source finds its answers. -/
inductive Script where
  /-- The values one after the other; with no values, always the low end. -/
  | replay (values : Array UInt64)
  /-- Always the high end. -/
  | highest
deriving DecidableEq, Repr

/-- A script, the place it has come to, and how many draws were made. -/
structure Scripted where
  script : Script
  position : Nat := 0
  draws : Nat := 0
deriving DecidableEq, Repr

namespace Scripted

/-- Replays values from the first one on. -/
def replay (values : Array UInt64) : Scripted where
  script := .replay values

/-- Answers with the low end of each range. -/
def lowest : Scripted := replay #[]

/-- Answers with the high end of each range. -/
def highest : Scripted where
  script := .highest

/-- A value folded into the range from `low` to `high`. -/
def fold (low high value : UInt64) : UInt64 :=
  let width := high - low
  if width + 1 = 0 then value else low + value % (width + 1)

/-- The next answer of the script. -/
def draw (low high : UInt64) (source : Scripted) : UInt64 × Scripted :=
  let counted := { source with draws := source.draws + 1 }
  match source.script with
  | .highest => (high, counted)
  | .replay values =>
    if high ≤ low then (low, counted)
    else match values[source.position]? with
      | none => (low, counted)
      | some value =>
        (fold low high value, { counted with position := (source.position + 1) % values.size })

instance : AddressSource Scripted where
  draw := draw

end Scripted
end AccessTrace
