/-
Module: AccessTrace.Source.Basic
Purpose: Where the addresses of a trace are drawn from.
Main exports:
  AddressSource, AddressSource.draw, AddressSource.drawAll
-/
namespace AccessTrace

/-!
A run draws one address for each burst and for each random access, and never
looks at how the answers come about.  A source is therefore a state together
with one way to go on from it.
-/

/-- States that answer requests for an address in a range. -/
class AddressSource (σ : Type) where
  /-- The answer to a request for an address from `low` to `high`, both
  included, and the state after it. -/
  draw (low high : UInt64) (source : σ) : UInt64 × σ

namespace AddressSource

/-- The answers to several requests, one after the other. -/
def drawAll {σ : Type} [AddressSource σ] : List (UInt64 × UInt64) → σ → List UInt64 × σ
  | [], source => ([], source)
  | (low, high) :: ranges, source =>
    let (answer, source) := draw low high source
    let (answers, source) := drawAll ranges source
    (answer :: answers, source)

end AddressSource
end AccessTrace
