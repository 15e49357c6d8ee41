/-
Module: AccessTrace.Proofs.Source.Uniform
Purpose: Every address of a range is given by the same number of words.
Main exports:
  Uniform.span, Uniform.leadingZeros, Uniform.pick?_eq_some_iff, Uniform.card_words,
  Uniform.stateAt, Uniform.search_eq, Uniform.EvenDraw, Uniform.even_draw
-/
import Mathlib
import AccessTrace.Source.Uniform

namespace AccessTrace.Uniform

/-!
A range of addresses is drawn from by multiplication: the product of a word with
the count of addresses is a place among that many copies of all words, and the
number of the copy is the address.  Only the beginning of each copy is used, and
it is as long as the count, doubled as often as 64 bits allow.  The products are
the multiples of the count, and a stretch whose length is a multiple of the count
has the same number of them in it wherever it begins.
-/

/-! ### The count of addresses -/

/-- How many addresses there are from `low` to `high`. -/
def span (low high : UInt64) : Nat :=
  high.toNat - low.toNat + 1

/-- How many zeros stand in front of the first one in a word. -/
def leadingZeros (word : UInt64) : Nat :=
  word.toBitVec.clz.toNat

theorem span_pos (low high : UInt64) : 0 < span low high :=
  Nat.succ_pos _

theorem span_le (low high : UInt64) : span low high ≤ 2 ^ 64 := by
  have most := high.toNat_lt
  rw [span]
  omega

theorem toNat_count {low high : UInt64} (range : low < high) :
    (high - low + 1).toNat = span low high % 2 ^ 64 := by
  rw [UInt64.toNat_add, UInt64.toNat_sub_of_le _ _ (UInt64.le_of_lt range), UInt64.toNat_one, span]

/-- Only the count of all addresses is too large for a word. -/
theorem count_eq_zero_iff {low high : UInt64} (range : low < high) :
    high - low + 1 = 0 ↔ span low high = 2 ^ 64 := by
  have positive := span_pos low high
  have most := span_le low high
  rw [← UInt64.toNat_inj, toNat_count range, UInt64.toNat_zero]
  omega

/-! ### The zone -/

section
variable {word : UInt64} (nonzero : word ≠ 0)
include nonzero

theorem leadingZeros_lt : leadingZeros word < 64 := by
  have bits : word.toBitVec ≠ 0#64 := fun zero => nonzero (UInt64.toBitVec_inj.1 zero)
  exact BitVec.lt_def.1 (BitVec.clz_lt_iff_ne_zero.2 bits)

/-- The first one of a word stands behind its leading zeros. -/
theorem log2_eq : word.toNat.log2 = 63 - leadingZeros word := by
  have bits : word.toBitVec ≠ 0#64 := fun zero => nonzero (UInt64.toBitVec_inj.1 zero)
  have some : word.toNat ≠ 0 := fun zero => nonzero (UInt64.toNat_inj.1 zero)
  have few := leadingZeros_lt nonzero
  refine (Nat.log2_eq_iff some).2 ⟨BitVec.two_pow_sub_clz_le_toNat_of_ne_zero (by decide) bits, ?_⟩
  have next : 63 - leadingZeros word + 1 = 64 - leadingZeros word := by omega
  rw [next]
  exact BitVec.toNat_lt_two_pow_sub_clz

/-- Moved to the left as far as its leading zeros allow, a word loses no bit. -/
theorem mul_two_pow_lt : word.toNat * 2 ^ leadingZeros word < 2 ^ 64 := by
  have few := leadingZeros_lt nonzero
  have below : word.toNat < 2 ^ (64 - leadingZeros word) := BitVec.toNat_lt_two_pow_sub_clz
  calc word.toNat * 2 ^ leadingZeros word
    _ < 2 ^ (64 - leadingZeros word) * 2 ^ leadingZeros word :=
        Nat.mul_lt_mul_of_pos_right below (Nat.two_pow_pos _)
    _ = 2 ^ 64 := by
        rw [← pow_add, Nat.sub_add_cancel few.le]

theorem toNat_zone : (word <<< (63 - word.log2) - 1).toNat =
    word.toNat * 2 ^ leadingZeros word - 1 := by
  have few := leadingZeros_lt nonzero
  have some : word.toNat ≠ 0 := fun zero => nonzero (UInt64.toNat_inj.1 zero)
  have log : word.log2.toNat = 63 - leadingZeros word := log2_eq nonzero
  have places : (63 - word.log2).toNat = leadingZeros word := by
    rw [UInt64.toNat_sub_of_le, log]
    · change 63 - (63 - leadingZeros word) = leadingZeros word
      omega
    · rw [UInt64.le_iff_toNat_le, log]
      exact Nat.sub_le _ _
  have moved : (word <<< (63 - word.log2)).toNat = word.toNat * 2 ^ leadingZeros word := by
    rw [UInt64.toNat_shiftLeft, places, Nat.mod_eq_of_lt few, Nat.shiftLeft_eq,
      Nat.mod_eq_of_lt (mul_two_pow_lt nonzero)]
  have positive : 0 < word.toNat * 2 ^ leadingZeros word :=
    Nat.mul_pos (Nat.pos_of_ne_zero some) (Nat.two_pow_pos _)
  rw [UInt64.toNat_sub_of_le, moved, UInt64.toNat_one]
  rw [UInt64.le_iff_toNat_le, moved, UInt64.toNat_one]
  exact positive

end

/-! ### Words and addresses -/

theorem place_lt (low high word : UInt64) :
    word.toNat * span low high / 2 ^ 64 < span low high := by
  rw [Nat.div_lt_iff_lt_mul (by decide), Nat.mul_comm]
  exact Nat.mul_lt_mul_of_pos_left word.toNat_lt (span_pos low high)

section
variable {low high : UInt64} (range : low < high)
include range

theorem pick?_of_all (all : span low high = 2 ^ 64) (word : UInt64) :
    pick? low high word = some word := by
  rw [pick?, if_pos ((count_eq_zero_iff range).2 all)]

/-- A word is used where the rest of its product is in the zone, and its address is
as far above the lowest one as the product has whole parts. -/
theorem pick?_eq_some_iff (partly : span low high < 2 ^ 64) {word address : UInt64} :
    pick? low high word = some address ↔
      word.toNat * span low high % 2 ^ 64 < span low high * 2 ^ leadingZeros (high - low + 1) ∧
        address.toNat = low.toNat + word.toNat * span low high / 2 ^ 64 := by
  have nonzero : high - low + 1 ≠ 0 := fun zero =>
    partly.ne ((count_eq_zero_iff range).1 zero)
  have count : (high - low + 1).toNat = span low high := by
    rw [toNat_count range, Nat.mod_eq_of_lt partly]
  have zone := toNat_zone nonzero
  rw [count] at zone
  have positive : 0 < span low high * 2 ^ leadingZeros (high - low + 1) :=
    Nat.mul_pos (span_pos low high) (Nat.two_pow_pos _)
  have place := place_lt low high word
  have value : (low + UInt64.ofNat (word.toNat * span low high / 2 ^ 64)).toNat =
      low.toNat + word.toNat * span low high / 2 ^ 64 := by
    have ordered := UInt64.lt_iff_toNat_lt.1 range
    have most := high.toNat_lt
    rw [UInt64.toNat_add, UInt64.toNat_ofNat_of_lt' (place.trans partly)]
    rw [span] at place ⊢
    omega
  rw [pick?, if_neg nonzero]
  simp only [zone, count]
  have size : UInt64.size = 2 ^ 64 := rfl
  rw [size, ← value]
  split
  · rename_i inside
    rw [Option.some_inj, ← UInt64.toNat_inj]
    constructor
    · intro same
      exact ⟨by omega, same.symm⟩
    · rintro ⟨-, same⟩
      exact same.symm
  · rename_i outside
    constructor
    · intro none
      cases none
    · rintro ⟨inside, -⟩
      exact absurd (Nat.le_sub_one_of_lt inside) outside

/-- Every word that is used gives an address of the range. -/
theorem inRange_of_pick? {word address : UInt64} (picked : pick? low high word = some address) :
    low ≤ address ∧ address ≤ high := by
  have ordered := UInt64.lt_iff_toNat_lt.1 range
  simp only [UInt64.le_iff_toNat_le]
  rcases (span_le low high).eq_or_lt with all | partly
  · rw [span] at all
    have most := high.toNat_lt
    have below := address.toNat_lt
    omega
  · obtain ⟨-, value⟩ := (pick?_eq_some_iff range partly).1 picked
    have place := place_lt low high word
    rw [span] at place value
    omega

end

/-! ### The words of an address -/

/-- A stretch as long as a number some times over has as many multiples of it. -/
theorem multiple_mem_stretch_iff {count : Nat} (positive : 0 < count) (start times n : Nat) :
    (start ≤ n * count ∧ n * count < start + count * times) ↔
      n ∈ Finset.Ico (start ⌈/⌉ count) (start ⌈/⌉ count + times) := by
  rw [Finset.mem_Ico, ceilDiv_le_iff_le_mul positive, Nat.mul_comm count n]
  refine and_congr_right fun _ => ?_
  rcases Nat.lt_or_ge n times with few | enough
  · have below : n * count < times * count := Nat.mul_lt_mul_of_pos_right few positive
    rw [Nat.mul_comm times count] at below
    omega
  · obtain ⟨more, rfl⟩ := Nat.exists_eq_add_of_le enough
    have reached := ceilDiv_le_iff_le_mul (b := start) (c := more) positive
    rw [Nat.add_mul, Nat.mul_comm times count, Nat.mul_comm more count]
    omega

section
variable {low high : UInt64} (range : low < high)
include range

/-- The products that give an address make up one stretch. -/
theorem pick?_eq_some_iff_mem_stretch (partly : span low high < 2 ^ 64) {word address : UInt64}
    (above : low ≤ address) :
    pick? low high word = some address ↔
      (address.toNat - low.toNat) * 2 ^ 64 ≤ word.toNat * span low high ∧
        word.toNat * span low high < (address.toNat - low.toNat) * 2 ^ 64 +
          span low high * 2 ^ leadingZeros (high - low + 1) := by
  have nonzero : high - low + 1 ≠ 0 := fun zero =>
    partly.ne ((count_eq_zero_iff range).1 zero)
  have zone := mul_two_pow_lt nonzero
  rw [toNat_count range, Nat.mod_eq_of_lt partly] at zone
  have least := UInt64.le_iff_toNat_le.1 above
  rw [pick?_eq_some_iff range partly]
  generalize word.toNat * span low high = product
  generalize span low high * 2 ^ leadingZeros (high - low + 1) = zone at *
  omega

theorem card_words {address : UInt64} (above : low ≤ address) (below : address ≤ high) :
    (Finset.univ.filter fun word => pick? low high word = some address).card =
      if span low high = 2 ^ 64 then 1 else 2 ^ leadingZeros (high - low + 1) := by
  rcases (span_le low high).eq_or_lt with all | partly
  · simp only [pick?_of_all range all, Option.some_inj, if_pos all]
    rw [Finset.filter_eq' Finset.univ address, if_pos (Finset.mem_univ _), Finset.card_singleton]
  · have nonzero : high - low + 1 ≠ 0 := fun zero =>
      partly.ne ((count_eq_zero_iff range).1 zero)
    have zone := mul_two_pow_lt nonzero
    rw [toNat_count range, Nat.mod_eq_of_lt partly] at zone
    have stretch : (Finset.univ.filter fun word => pick? low high word = some address).map
        ⟨UInt64.toNat, fun _ _ => UInt64.toNat_inj.1⟩ =
        Finset.Ico ((address.toNat - low.toNat) * 2 ^ 64 ⌈/⌉ span low high)
          ((address.toNat - low.toNat) * 2 ^ 64 ⌈/⌉ span low high +
            2 ^ leadingZeros (high - low + 1)) := by
      ext n
      rw [← multiple_mem_stretch_iff (span_pos low high), Finset.mem_map]
      constructor
      · rintro ⟨word, picked, rfl⟩
        exact (pick?_eq_some_iff_mem_stretch range partly above).1 (Finset.mem_filter.1 picked).2
      · rintro inside
        -- The stretch of the last address ends where the products of words do.
        have isWord : n < 2 ^ 64 := by
          have last : (address.toNat - low.toNat + 1) * 2 ^ 64 ≤ 2 ^ 64 * span low high := by
            have most := UInt64.le_iff_toNat_le.1 below
            rw [Nat.mul_comm]
            apply Nat.mul_le_mul_left
            rw [span]
            omega
          exact Nat.lt_of_mul_lt_mul_right (a := span low high) (by omega)
        refine ⟨UInt64.ofNat n, Finset.mem_filter.2 ⟨Finset.mem_univ _, ?_⟩, ?_⟩
        · rw [pick?_eq_some_iff_mem_stretch range partly above, UInt64.toNat_ofNat_of_lt' isWord]
          exact inside
        · exact UInt64.toNat_ofNat_of_lt' isWord
    rw [if_neg partly.ne, ← Finset.card_map, stretch, Nat.card_Ico, Nat.add_sub_cancel_left]

end

/-! ### Draws -/

/-- The state after so many words. -/
def stateAt (state : Uniform) (count : Nat) : Uniform :=
  (fun state => state.next.2)^[count] state

/-- The words that come from a state, counted from zero. -/
def wordAt (state : Uniform) (index : Nat) : UInt64 :=
  (state.stateAt index).next.1

theorem stateAt_add (state : Uniform) (first second : Nat) :
    state.stateAt (first + second) = (state.stateAt first).stateAt second := by
  rw [stateAt, stateAt, stateAt, Nat.add_comm, Function.iterate_add_apply]

/-- A state is four words. -/
def words : Uniform ≃ UInt64 × UInt64 × UInt64 × UInt64 where
  toFun state := (state.s0, state.s1, state.s2, state.s3)
  invFun four := ⟨four.1, four.2.1, four.2.2.1, four.2.2.2⟩
  left_inv _ := rfl
  right_inv _ := rfl

instance : Fintype Uniform := .ofEquiv _ words.symm

/-- A word is a number below 2⁶⁴. -/
def wordNumber : UInt64 ≃ Fin UInt64.size where
  toFun := UInt64.toFin
  invFun := UInt64.ofFin
  left_inv _ := rfl
  right_inv _ := rfl

theorem card_word : Fintype.card UInt64 = UInt64.size := by
  rw [Fintype.card_congr wordNumber, Fintype.card_fin]

theorem card_uniform : Fintype.card Uniform = stateCount := by
  rw [Fintype.card_congr words, Fintype.card_prod, Fintype.card_prod, Fintype.card_prod, card_word,
    stateCount, Nat.mul_assoc, Nat.mul_assoc]

section
variable {low high : UInt64} {state : Uniform} {index : Nat} {address : UInt64}
  (passedOver : ∀ earlier < index, pick? low high (state.wordAt earlier) = none)
  (picked : pick? low high (state.wordAt index) = some address)
include passedOver picked

/-- The first word that is used gives the address, if it is among those that are tried. -/
theorem search_eq {fuel : Nat} (enough : index < fuel) :
    search low high fuel state = (address, state.stateAt (index + 1)) := by
  induction index generalizing state fuel with
  | zero =>
      obtain ⟨fuel, rfl⟩ := Nat.exists_eq_succ_of_ne_zero enough.ne'
      have first : pick? low high state.next.1 = some address := picked
      simp only [search, first]
      rfl
  | succ index ih =>
      obtain ⟨fuel, rfl⟩ := Nat.exists_eq_succ_of_ne_zero (Nat.zero_lt_of_lt enough).ne'
      have first : pick? low high state.next.1 = none := passedOver 0 (Nat.succ_pos _)
      have next (later : Nat) : state.wordAt (later + 1) = state.next.2.wordAt later := by
        rw [wordAt, Nat.add_comm, stateAt_add]
        rfl
      simp only [search, first]
      rw [ih _ _ (Nat.lt_of_succ_lt_succ enough), Nat.add_comm (index + 1), stateAt_add _ 1]
      · rfl
      · intro earlier before
        rw [← next]
        exact passedOver _ (Nat.succ_lt_succ before)
      · rw [← next]
        exact picked

/-- The first word that is used comes before any state has come up twice. -/
theorem index_lt_stateCount : index < stateCount := by
  by_contra late
  have crowded : Fintype.card Uniform < Fintype.card (Fin (index + 1)) := by
    rw [card_uniform, Fintype.card_fin]
    omega
  obtain ⟨first, second, different, same⟩ :=
    Fintype.exists_ne_map_eq_of_card_lt (fun place : Fin (index + 1) => state.stateAt place) crowded
  wlog ordered : first < second generalizing first second
  · have other := lt_of_le_of_ne (not_lt.1 ordered) different.symm
    exact this second first different.symm same.symm other
  -- What comes after the second visit has come after the first one already.
  have before : first.val + (index - second.val) < index := by
    have last := second.isLt
    have least : first.val < second.val := ordered
    omega
  have again : state.wordAt (first.val + (index - second.val)) = state.wordAt index := by
    have last := Nat.le_of_lt_succ second.isLt
    rw [wordAt, stateAt_add, same, ← stateAt_add, Nat.add_sub_cancel' last, wordAt]
  have none := passedOver _ before
  rw [again, picked] at none
  cases none

theorem draw_eq (range : low < high) :
    draw low high state = (address, state.stateAt (index + 1)) := by
  rw [draw, if_neg (UInt64.not_le.2 range)]
  exact search_eq passedOver picked (index_lt_stateCount passedOver picked)

end

/-- What a draw from the range from `low` to `high` is like. -/
structure EvenDraw (low high : UInt64) : Prop where
  /-- With one address at most, there is nothing to draw. -/
  single : high ≤ low → ∀ state, draw low high state = (low, state)
  /-- The answer is that of the first word that is used; no word behind it is taken. -/
  first : low < high → ∀ (state : Uniform) (index : Nat) (address : UInt64),
    (∀ earlier < index, pick? low high (state.wordAt earlier) = none) →
      pick? low high (state.wordAt index) = some address →
        draw low high state = (address, state.stateAt (index + 1))
  /-- Which words are used, and for which addresses, without any bound on numbers. -/
  rule : low < high → ∀ word address, pick? low high word = some address ↔
    if span low high = 2 ^ 64 then address = word
    else word.toNat * span low high % 2 ^ 64 ≤
        span low high * 2 ^ leadingZeros (high - low + 1) - 1 ∧
      address.toNat = low.toNat + word.toNat * span low high / 2 ^ 64
  /-- No word leads out of the range. -/
  inRange : low < high → ∀ word address, pick? low high word = some address →
    low ≤ address ∧ address ≤ high
  /-- Every address has as many words as any other. -/
  even : low < high → ∀ address, low ≤ address → address ≤ high →
    (Finset.univ.filter fun word => pick? low high word = some address).card =
      if span low high = 2 ^ 64 then 1 else 2 ^ leadingZeros (high - low + 1)

/-- No address of a range is preferred to another. -/
theorem even_draw (low high : UInt64) : EvenDraw low high := by
  constructor
  · intro single state
    rw [draw, if_pos single]
  · intro range state index address passedOver picked
    exact draw_eq passedOver picked range
  · intro range word address
    split
    · rename_i all
      rw [pick?_of_all range all, Option.some_inj, eq_comm]
    · rename_i partly
      have positive : 0 < span low high * 2 ^ leadingZeros (high - low + 1) :=
        Nat.mul_pos (span_pos low high) (Nat.two_pow_pos _)
      rw [pick?_eq_some_iff range ((span_le low high).lt_of_ne partly),
        Nat.le_sub_one_iff_lt positive]
  · intro range word address picked
    exact inRange_of_pick? range picked
  · intro range address above below
    exact card_words range above below

/-- The three last addresses have a quarter of all words each, and a quarter is never used. -/
theorem even_draw_last_three :
    let low : UInt64 := 0xFFFFFFFFFFFFFFFD
    let high : UInt64 := 0xFFFFFFFFFFFFFFFF
    low < high ∧ span low high = 3 ∧
      ∀ address, low ≤ address → address ≤ high →
        (Finset.univ.filter fun word => pick? low high word = some address).card = 2 ^ 62 := by
  intro low high
  have three : span low high = 3 := by decide
  have zeros : leadingZeros (high - low + 1) = 62 := by decide
  have partly : span low high ≠ 2 ^ 64 := by
    rw [three]
    decide
  refine ⟨by decide, three, ?_⟩
  intro address above below
  rw [(even_draw low high).even (by decide) address above below, if_neg partly, zeros]

end AccessTrace.Uniform
