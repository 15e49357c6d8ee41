/-
Module: AccessTrace.Source.Uniform
Purpose: A source that gives every address of a range the same chance.
Main exports:
  Uniform, Uniform.ofSeed, Uniform.next, Uniform.pick?
-/
import AccessTrace.Source.Basic

namespace AccessTrace

/-!
Words come from the generator xoshiro256++, whose four words of state are the
first four outputs of SplitMix64 from the seed.

A word is turned into an address by a product of 128 bits: the word times the
count of addresses.  Its upper half is the place in the range.  The lower half
tells whether the word is used at all.  Words whose lower half is above the
zone are passed over, and the zone is chosen so that the words that remain
are shared out evenly.
-/

/-- The state of the generator. -/
structure Uniform where
  s0 : UInt64
  s1 : UInt64
  s2 : UInt64
  s3 : UInt64
deriving DecidableEq, Repr

namespace Uniform

/-- The word turned to the left. -/
def rotateLeft (word count : UInt64) : UInt64 :=
  (word <<< count) ||| (word >>> (64 - count))

/-- How far the counter of SplitMix64 goes for each output. -/
def seedStep : UInt64 := 0x9e3779b97f4a7c15

/-- The output of SplitMix64 for a value of its counter. -/
def scramble (counter : UInt64) : UInt64 :=
  let z := (counter ^^^ (counter >>> 30)) * 0xbf58476d1ce4e5b9
  let z := (z ^^^ (z >>> 27)) * 0x94d049bb133111eb
  z ^^^ (z >>> 31)

/-- The state that a seed stands for. -/
def ofSeed (seed : UInt64) : Uniform where
  s0 := scramble (seed + seedStep)
  s1 := scramble (seed + 2 * seedStep)
  s2 := scramble (seed + 3 * seedStep)
  s3 := scramble (seed + 4 * seedStep)

/-- The next word and the state after it. -/
def next (state : Uniform) : UInt64 × Uniform :=
  let word := rotateLeft (state.s0 + state.s3) 23 + state.s0
  let s2 := state.s2 ^^^ state.s0
  let s3 := state.s3 ^^^ state.s1
  let s1 := state.s1 ^^^ s2
  let s0 := state.s0 ^^^ s3
  (word, { s0, s1, s2 := s2 ^^^ (state.s1 <<< 17), s3 := rotateLeft s3 45 })

/-- The address that a word gives in the range from `low` to `high`, unless the
word is passed over.  A range of all addresses takes every word as it is. -/
def pick? (low high word : UInt64) : Option UInt64 :=
  let count := high - low + 1
  if count = 0 then some word
  else
    let zone := (count <<< (63 - count.log2)) - 1
    let product := word.toNat * count.toNat
    if product % UInt64.size ≤ zone.toNat then
      some (low + UInt64.ofNat (product / UInt64.size))
    else none

/-- The first address that the next `fuel` words give. -/
def search (low high : UInt64) : Nat → Uniform → UInt64 × Uniform
  | 0, state => (low, state)
  | fuel + 1, state =>
    let (word, state) := state.next
    match pick? low high word with
    | some address => (address, state)
    | none => search low high fuel state

/-- How many states the generator has.  A word that has not come up by the time
all of them have been passed through never does. -/
def stateCount : Nat := UInt64.size * UInt64.size * UInt64.size * UInt64.size

/-- The next address in the range.  A range of one address needs no word. -/
def draw (low high : UInt64) (state : Uniform) : UInt64 × Uniform :=
  if high ≤ low then (low, state) else search low high stateCount state

instance : AddressSource Uniform where
  draw := draw

end Uniform
end AccessTrace
