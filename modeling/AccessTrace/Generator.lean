/-
Module: AccessTrace.Generator
Purpose: The records of a run: which accesses come in which order, and at which addresses.
Main exports:
  AccessClass, Schedule.ofQuotas, Segment, Trace, generate
-/
import AccessTrace.Config.Validation
import AccessTrace.Source.Basic

namespace AccessTrace

/-!
A run goes through the four classes in a fixed order, again and again, and
gives each class that has work left one turn: a whole burst for a sequential
class, one access for a random one.  Readers of traces rely on this order.  A
burst is taken off its quota whole, even where less than a burst is left of
it, so that a trace can be longer than its plan.

The order of the turns depends on the quotas alone, so it is worked out before
any address is drawn.  Then each turn draws its start, in order.
-/

/-- The classes of accesses. -/
inductive AccessClass where
  | sequentialWrite
  | randomRead
  | sequentialRead
  | randomWrite
deriving DecidableEq, Repr

namespace AccessClass

/-- The classes in the order of their turns. -/
def turns : List AccessClass :=
  [.sequentialWrite, .randomRead, .sequentialRead, .randomWrite]

/-- The kind of the accesses of a class. -/
def kind : AccessClass → Kind
  | .sequentialWrite | .randomWrite => .write
  | .sequentialRead | .randomRead => .read

/-- Whether the class comes in bursts. -/
def isSequential : AccessClass → Bool
  | .sequentialWrite | .sequentialRead => true
  | .randomWrite | .randomRead => false

/-- The accesses left for a class. -/
def quota (quotas : Quotas) : AccessClass → Int64
  | .sequentialWrite => quotas.sequentialWrite
  | .randomRead => quotas.randomRead
  | .sequentialRead => quotas.sequentialRead
  | .randomWrite => quotas.randomWrite

end AccessClass

namespace Quotas

/-- What is left of a quota after one turn of `step` accesses. -/
def afterTurn (step quota : Int64) : Int64 :=
  if 0 < quota then quota - step else quota

/-- What is left after every class with work has had a turn. -/
def afterPass (burst : Int64) (quotas : Quotas) : Quotas where
  sequentialWrite := afterTurn burst quotas.sequentialWrite
  randomRead := afterTurn 1 quotas.randomRead
  sequentialRead := afterTurn burst quotas.sequentialRead
  randomWrite := afterTurn 1 quotas.randomWrite

/-- The classes with work, in the order of their turns. -/
def pass (quotas : Quotas) : List AccessClass :=
  AccessClass.turns.filter fun c => 0 < c.quota quotas

/-- The work left in all classes. -/
def workLeft (quotas : Quotas) : Nat :=
  quotas.sequentialWrite.toInt.toNat + quotas.randomRead.toInt.toNat +
    quotas.sequentialRead.toInt.toNat + quotas.randomWrite.toInt.toNat

/-- The difference of two positive numbers stays in range. -/
theorem toInt_sub_of_pos {a b : Int64} (ha : 0 < a) (hb : 0 < b) :
    (a - b).toInt = a.toInt - b.toInt := by
  have ha' : 0 < a.toInt := by simpa [Int64.lt_iff_toInt_lt] using ha
  have hb' : 0 < b.toInt := by simpa [Int64.lt_iff_toInt_lt] using hb
  have := a.toInt_lt
  have := b.toInt_lt
  rw [Int64.toInt_sub]
  exact Int.bmod_eq_of_le (by omega) (by omega)

theorem toNat_afterTurn_le {step : Int64} (quota : Int64) (hs : 0 < step) :
    (afterTurn step quota).toInt.toNat ≤ quota.toInt.toNat := by
  unfold afterTurn
  split
  · rename_i h
    have hs' : 0 < step.toInt := by simpa [Int64.lt_iff_toInt_lt] using hs
    rw [toInt_sub_of_pos h hs]
    omega
  · exact Nat.le_refl _

theorem toNat_afterTurn_lt {step quota : Int64} (hs : 0 < step) (hq : 0 < quota) :
    (afterTurn step quota).toInt.toNat < quota.toInt.toNat := by
  have hs' : 0 < step.toInt := by simpa [Int64.lt_iff_toInt_lt] using hs
  have hq' : 0 < quota.toInt := by simpa [Int64.lt_iff_toInt_lt] using hq
  rw [afterTurn, if_pos hq, toInt_sub_of_pos hq hs]
  omega

theorem workLeft_afterPass_lt {burst : Int64} {quotas : Quotas} (hb : 0 < burst)
    (h : quotas.anyPositive = true) : (afterPass burst quotas).workLeft < quotas.workLeft := by
  have h1 : (0 : Int64) < 1 := by decide
  have sw := toNat_afterTurn_le quotas.sequentialWrite hb
  have rr := toNat_afterTurn_le quotas.randomRead h1
  have sr := toNat_afterTurn_le quotas.sequentialRead hb
  have rw := toNat_afterTurn_le quotas.randomWrite h1
  simp only [anyPositive, Bool.or_eq_true, decide_eq_true_eq] at h
  simp only [workLeft, afterPass]
  rcases h with ((h | h) | h) | h
  · have := toNat_afterTurn_lt hb h; omega
  · have := toNat_afterTurn_lt h1 h; omega
  · have := toNat_afterTurn_lt hb h; omega
  · have := toNat_afterTurn_lt h1 h; omega

end Quotas

namespace Schedule

/-- The turns of a run whose first turns are given, with the quotas left. -/
def extend (burst : Int64) (turns : Array AccessClass) (left : Quotas) : Array AccessClass :=
  if _h : left.anyPositive = true ∧ 0 < burst then
    extend burst (turns ++ left.pass) (left.afterPass burst)
  else turns
termination_by left.workLeft
decreasing_by exact Quotas.workLeft_afterPass_lt _h.2 _h.1

/-- The turns of a run, in order. -/
def ofQuotas (burst : Int64) (planned : Quotas) : Array AccessClass :=
  extend burst #[] planned

end Schedule

/-- A turn with the address it starts at. -/
structure Segment where
  accessClass : AccessClass
  start : UInt64
deriving DecidableEq, Repr

namespace Config

/-- What a burst takes off its quota: the count of its accesses, or the greatest
number a quota can be. -/
def burstStep (config : Config) : Int64 :=
  Int64.ofNat (min config.sequentialBlockCount.toNat 0x7FFFFFFFFFFFFFFF)

/-- How many records a turn of a class makes. -/
def turnLength (config : Config) (accessClass : AccessClass) : UInt64 :=
  if accessClass.isSequential then config.sequentialBlockCount else 1

/-- How many bytes a turn of a class covers. -/
def turnSpan (config : Config) (accessClass : AccessClass) : UInt64 :=
  config.blockSize * config.turnLength accessClass

/-- An address moved down to a multiple of the block size, where the run asks
for that. -/
def align (config : Config) (address : UInt64) : UInt64 :=
  if config.alignToBlockSize then address / config.blockSize * config.blockSize else address

/-- The address at which a turn starts, from the draw.  Random reads take the
draw as it is. -/
def startOf (config : Config) (accessClass : AccessClass) (drawn : UInt64) : UInt64 :=
  if accessClass = .randomRead then drawn else config.align drawn

/-- The segments of the turns, each with its own draw. -/
def drawSegments {σ : Type} [AddressSource σ] (config : Config) (turns : Array AccessClass)
    (source : σ) : Array Segment × σ :=
  turns.foldl (fun (segments, source) accessClass =>
    let (drawn, source) :=
      AddressSource.draw 0 (config.maxAddress - config.turnSpan accessClass) source
    (segments.push { accessClass, start := config.startOf accessClass drawn }, source))
    (#[], source)

/-- The records of a segment: equal steps of one block from its start. -/
def segmentRecords (config : Config) (segment : Segment) : List Record :=
  (List.range (config.turnLength segment.accessClass).toNat).map fun i =>
    { kind := segment.accessClass.kind
      address := segment.start + UInt64.ofNat i * config.blockSize }

/-- The records of several segments. -/
def recordsOf (config : Config) (segments : Array Segment) : Array Record :=
  segments.foldl (fun records segment => records ++ config.segmentRecords segment) #[]

end Config

namespace ClassCounts

/-- Adds accesses to the count of their class. -/
def add (counts : ClassCounts) (accessClass : AccessClass) (amount : UInt64) : ClassCounts :=
  match accessClass with
  | .sequentialWrite => { counts with sequentialWrite := counts.sequentialWrite + amount }
  | .randomRead => { counts with randomRead := counts.randomRead + amount }
  | .sequentialRead => { counts with sequentialRead := counts.sequentialRead + amount }
  | .randomWrite => { counts with randomWrite := counts.randomWrite + amount }

/-- The accesses of all turns. -/
def ofTurns (config : Config) (turns : Array AccessClass) : ClassCounts :=
  turns.foldl (fun counts c => counts.add c (config.turnLength c)) {}

end ClassCounts

/-- A trace and the report on how it came about. -/
structure Trace where
  records : Array Record
  report : Report
deriving DecidableEq, Repr

/-- Plans a run and carries it out.  A configuration that has no plan makes no
draw. -/
def generate {σ : Type} [AddressSource σ] (config : Config) (source : σ) :
    Except ParameterError Trace × σ :=
  match config.plan with
  | .error error => (.error error, source)
  | .ok planned =>
    let turns := Schedule.ofQuotas config.burstStep planned
    let (segments, source) := config.drawSegments turns source
    (.ok { records := config.recordsOf segments
           report := { planned, emitted := .ofTurns config turns } }, source)

end AccessTrace
