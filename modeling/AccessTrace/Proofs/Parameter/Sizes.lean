/-
Module: AccessTrace.Proofs.Parameter.Sizes
Purpose: Which texts are sizes, and how many bytes each of them stands for.
Main exports:
  Tolerated, SizeForm, Wide, sizeInBytes?_eq_some_iff, Spelled, readSize_exact
-/
import Mathlib
import AccessTrace.Proofs.Parameter.Endings

namespace AccessTrace.Parameter

open AccessTrace.Text

/-!
A size is an integer, perhaps blanks, and an ending: none, or the letter of a
unit with or without `b`.  Reading a size finds its integer and its unit, and
the bytes are their product.  The limits are put on the product, so that no
number of bytes is ever wrapped around or cut off.
-/

/-! ### The form of a size -/

/-- What stands behind the integer of a size for a unit: nothing without one,
and otherwise the letter of the unit, with or without `b`, once or repeated. -/
inductive Tolerated : Option SizeUnit → List Char → Prop
  | bare : Tolerated none []
  | repeated {unit : SizeUnit} {ending : List Char} (singles pairs : Nat)
      (nonempty : 0 < singles + pairs) (letters : ending.map lowerLetter = unit.run singles pairs) :
      Tolerated (some unit) ending

/-- An integer with blanks and an ending behind it, for some notion of what the
endings of a unit are. -/
structure SizeForm (Ends : Option SizeUnit → List Char → Prop) where
  number : Numeral.Signed
  between : List Char
  unit : Option SizeUnit
  ending : List Char
  blank : Blanks between
  ends : Ends unit ending

namespace SizeForm
variable {Ends : Option SizeUnit → List Char → Prop}

/-- The characters of a size. -/
def text (form : SizeForm Ends) : List Char :=
  form.number.text ++ form.between ++ form.ending

/-- How many bytes a size stands for. -/
def bytes (form : SizeForm Ends) : Int :=
  form.number.value * factor form.unit

end SizeForm

/-- The integers that have 128 bits at most. -/
def Wide (n : Int) : Prop := -2 ^ 127 ≤ n ∧ n < 2 ^ 127

instance (n : Int) : Decidable (Wide n) :=
  inferInstanceAs (Decidable (-2 ^ 127 ≤ n ∧ n < 2 ^ 127))

theorem isWide_iff (n : Int) : isWide n = true ↔ Wide n := by
  simp [isWide, Wide]

theorem wideInteger?_eq_some_iff {text : List Char} {n : Int} :
    wideInteger? text = some n ↔
      ∃ number : Numeral.Signed, text = number.text ∧ n = number.value ∧ Wide n := by
  rw [wideInteger?, Option.filter_eq_some_iff, Numeral.integer?_eq_some_iff, isWide_iff]
  constructor
  · rintro ⟨⟨number, written, same⟩, wide⟩
    exact ⟨number, written, same, wide⟩
  · rintro ⟨number, written, same, wide⟩
    exact ⟨⟨number, written, same⟩, wide⟩

theorem wideInteger?_text (number : Numeral.Signed) :
    wideInteger? number.text = if Wide number.value then some number.value else none := by
  rw [wideInteger?, number.integer?_text, Option.filter_some]
  simp only [isWide_iff]

/-! ### Small letters in a size -/

theorem isLower_of_isBlank {c : Char} (blank : isBlank c = true) : c.isLower = false := by
  rw [Bool.eq_false_iff, ne_eq, isLower_iff_toNat]
  simp only [isBlank, Bool.or_eq_true, Bool.and_eq_true, decide_eq_true_eq, beq_iff_eq] at blank
  omega

theorem lowerLetter_of_isBlank {c : Char} (blank : isBlank c = true) : lowerLetter c = c := by
  simp only [isBlank, Bool.or_eq_true, Bool.and_eq_true, decide_eq_true_eq, beq_iff_eq] at blank
  exact lowerLetter_eq_self (by omega) (by omega)

theorem noSmall_of_blanks {text : List Char} (blank : Blanks text) : NoSmall text :=
  fun c member => isLower_of_isBlank (blank c member)

theorem noSmall_text (number : Numeral.Signed) : NoSmall number.text :=
  fun _ member => Numeral.Signed.isLower_of_mem_text member

theorem map_lowerLetter_of_blanks {text : List Char} (blank : Blanks text) :
    text.map lowerLetter = text :=
  (List.map_congr_left fun c member => lowerLetter_of_isBlank (blank c member)).trans
    (List.map_id' _)

theorem map_lowerLetter_text (number : Numeral.Signed) :
    number.text.map lowerLetter = number.text := by
  refine (List.map_congr_left fun c member => ?_).trans (List.map_id' _)
  rcases Numeral.Signed.mem_text member with plus | minus | digit
  · rw [plus]
    decide
  · rw [minus]
    decide
  · exact lowerLetter_of_isDigit digit

/-- A text is as it was where its small letters have no small letter among them. -/
theorem eq_of_map_lowerLetter {text lowered : List Char} (same : text.map lowerLetter = lowered)
    (plain : NoSmall lowered) : text = lowered := by
  subst same
  refine ((List.map_congr_left fun c member => ?_).trans (List.map_id' _)).symm
  exact lowerLetter_of_not_isLower (plain _ (List.mem_map_of_mem member))

theorem Tolerated.exists_run {unit : SizeUnit} {ending : List Char}
    (ends : Tolerated (some unit) ending) :
    ∃ singles pairs, 0 < singles + pairs ∧ ending.map lowerLetter = unit.run singles pairs := by
  cases ends with
  | repeated singles pairs nonempty letters => exact ⟨singles, pairs, nonempty, letters⟩

/-- The last character of an ending is a letter. -/
theorem Tolerated.exists_last {unit : SizeUnit} {ending : List Char}
    (ends : Tolerated (some unit) ending) :
    ∃ front c, ending = front ++ [c] ∧ isBlank c = false := by
  obtain ⟨singles, pairs, nonempty, letters⟩ := ends.exists_run
  have some : ending ≠ [] := by
    rintro rfl
    exact SizeUnit.run_ne_nil nonempty letters.symm
  obtain ⟨front, c, last⟩ := (List.eq_nil_or_concat' ending).resolve_left some
  refine ⟨front, c, last, ?_⟩
  rw [Bool.eq_false_iff]
  intro blank
  have small : (lowerLetter c).isLower = true := by
    apply SizeUnit.isLower_of_mem_run
    rw [← letters, last]
    simp
  rw [lowerLetter_of_isBlank blank, isLower_of_isBlank blank] at small
  cases small

/-- A size with a unit begins with its integer and ends with a letter. -/
theorem Tolerated.solid {unit : SizeUnit} {ending : List Char}
    (ends : Tolerated (some unit) ending) (number : Numeral.Signed) (between : List Char) :
    Solid (number.text ++ between ++ ending) := by
  obtain ⟨d, rest, first, noBlankFirst⟩ := number.solid_text.first
  obtain ⟨front, c, last, noBlankLast⟩ := ends.exists_last
  refine ⟨⟨d, rest ++ between ++ ending, ?_, noBlankFirst⟩,
    ⟨number.text ++ between ++ front, c, ?_, noBlankLast⟩⟩
  · rw [first]
    simp
  · rw [last]
    simp

/-! ### Reading sizes -/

theorem sizeInBytes?_of_noUnit {text : List Char}
    (noUnit : unitAtEnd? ((trim text).map lowerLetter).reverse = none) :
    sizeInBytes? text = wideInteger? ((trim text).map lowerLetter) := by
  rw [sizeInBytes?]
  simp only [noUnit]

theorem sizeInBytes?_of_unit {text : List Char} {unit : SizeUnit}
    (found : unitAtEnd? ((trim text).map lowerLetter).reverse = some unit) :
    sizeInBytes? text =
      (wideInteger? (trim (dropUnit unit ((trim text).map lowerLetter)))).bind fun n =>
        if isWide (n * unit.bytes) then some (n * unit.bytes) else none := by
  rw [sizeInBytes?]
  simp only [found]

/-- A size is read as its bytes where its numbers are within the limits, whatever
blanks are around it. -/
theorem sizeInBytes?_surrounded (form : SizeForm Tolerated) {before after : List Char}
    (blankBefore : Blanks before) (blankAfter : Blanks after) :
    sizeInBytes? (before ++ form.text ++ after) =
      if Wide form.number.value ∧ Wide form.bytes then some form.bytes else none := by
  obtain ⟨number, between, unit, ending, blank, ends⟩ := form
  cases unit with
  | none =>
      cases ends
      -- Without an ending, the blanks behind the integer belong to those around it.
      have trimmed : trim (before ++ (number.text ++ between ++ []) ++ after) = number.text := by
        rw [List.append_nil, List.append_assoc, List.append_assoc, ← List.append_assoc]
        exact trim_surrounded blankBefore number.solid_text (blank.append blankAfter)
      have lowered : (trim (before ++ (number.text ++ between ++ []) ++ after)).map lowerLetter =
          number.text := by
        rw [trimmed, map_lowerLetter_text]
      have noUnit := unitAtEnd?_of_noSmall (noSmall_text number)
      rw [← lowered] at noUnit
      simp only [SizeForm.text, SizeForm.bytes, factor, mul_one, and_self]
      rw [sizeInBytes?_of_noUnit noUnit, lowered, wideInteger?_text]
  | some unit =>
      obtain ⟨singles, pairs, nonempty, letters⟩ := ends.exists_run
      have solid := ends.solid number between
      have lowered :
          (trim (before ++ (number.text ++ between ++ ending) ++ after)).map lowerLetter =
            number.text ++ between ++ unit.run singles pairs := by
        rw [trim_surrounded blankBefore solid blankAfter, List.map_append, List.map_append,
          map_lowerLetter_text, map_lowerLetter_of_blanks blank, letters]
      have found := unitAtEnd?_append_run unit (number.text ++ between) nonempty
      have dropped := dropUnit_append_run unit
        ((noSmall_text number).append (noSmall_of_blanks blank)) singles pairs
      have trimmed : trim (number.text ++ between) = number.text :=
        trim_surrounded Blanks.nil number.solid_text blank
      rw [← lowered] at found dropped
      simp only [SizeForm.text, SizeForm.bytes, factor_some]
      rw [sizeInBytes?_of_unit found, dropped, trimmed, wideInteger?_text]
      simp only [isWide_iff]
      by_cases wide : Wide number.value
      · simp [wide]
      · simp [wide]

/-- A text that is read as a size has the form of one. -/
theorem exists_form_of_sizeInBytes? {text : List Char} {bytes : Int}
    (read : sizeInBytes? text = some bytes) :
    ∃ form : SizeForm Tolerated, trim text = form.text ∧ Wide form.number.value ∧
      Wide form.bytes ∧ bytes = form.bytes := by
  cases found : unitAtEnd? ((trim text).map lowerLetter).reverse with
  | none =>
      rw [sizeInBytes?_of_noUnit found] at read
      obtain ⟨number, written, rfl, wide⟩ := wideInteger?_eq_some_iff.1 read
      have same := eq_of_map_lowerLetter written (noSmall_text number)
      refine ⟨⟨number, [], none, [], Blanks.nil, .bare⟩, ?_, wide, ?_, ?_⟩
      · simpa [SizeForm.text] using same
      · simpa [SizeForm.bytes, factor] using wide
      · simp [SizeForm.bytes, factor]
  | some unit =>
      rw [sizeInBytes?_of_unit found] at read
      obtain ⟨n, readNumber, scaled⟩ := Option.bind_eq_some_iff.1 read
      obtain ⟨number, written, rfl, wide⟩ := wideInteger?_eq_some_iff.1 readNumber
      obtain ⟨singles, pairs, nonempty, cut⟩ := exists_run_of_unitAtEnd? found
      obtain ⟨before, between, around, blankBefore, blank⟩ :=
        exists_surrounded (dropUnit unit ((trim text).map lowerLetter))
      rw [written] at around
      rw [around] at cut
      obtain ⟨core, ending, split, core_eq, ending_eq⟩ := List.map_eq_append_iff.1 cut
      have plain : NoSmall (before ++ number.text ++ between) :=
        ((noSmall_of_blanks blankBefore).append (noSmall_text number)).append
          (noSmall_of_blanks blank)
      have same := eq_of_map_lowerLetter core_eq plain
      -- The text is trimmed, so no blank stands in front of the integer.
      have none : before = [] := by
        cases before with
        | nil => rfl
        | cons c rest =>
            have noBlank : isBlank c = false := isBlank_head_trim (by rw [split, same]; rfl)
            rw [blankBefore c List.mem_cons_self] at noBlank
            cases noBlank
      subst none
      split at scaled
      · rename_i wideBytes
        rw [isWide_iff, ← factor_some] at wideBytes
        cases scaled
        have ends : Tolerated (some unit) ending := .repeated singles pairs nonempty ending_eq
        refine ⟨⟨number, between, some unit, ending, blank, ends⟩, ?_, wide, wideBytes, ?_⟩
        · rw [split, same]
          rfl
        · rw [SizeForm.bytes, factor_some]
      · cases scaled

/-- A text is read as a size exactly if it has the form of one and its numbers
are within the limits; the size is then the number of bytes of that form. -/
theorem sizeInBytes?_eq_some_iff {text : List Char} {bytes : Int} :
    sizeInBytes? text = some bytes ↔
      ∃ form : SizeForm Tolerated, trim text = form.text ∧ Wide form.number.value ∧
        Wide form.bytes ∧ bytes = form.bytes := by
  constructor
  · exact exists_form_of_sizeInBytes?
  · rintro ⟨form, trimmed, wide, wideBytes, rfl⟩
    obtain ⟨before, after, around, blankBefore, blankAfter⟩ := exists_surrounded text
    rw [around, trimmed, sizeInBytes?_surrounded form blankBefore blankAfter,
      if_pos ⟨wide, wideBytes⟩]

/-! ### The outcome of a size -/

namespace SizeForm
variable {Ends : Option SizeUnit → List Char → Prop}

/-- A size as it is given, with blanks around it. -/
def surrounded (form : SizeForm Ends) (before after : List Char) : String :=
  String.ofList (before ++ form.text ++ after)

/-- What reading a size comes to.  A positive number of bytes has to fit into 64
bits; one that is not positive is reported as it is, if it has 128 bits at most
and so has the integer in front of the unit. -/
def outcome (form : SizeForm Ends) (field : Field) (given : String) :
    Except ParameterError UInt64 :=
  if 1 ≤ form.bytes ∧ form.bytes ≤ 2 ^ 64 - 1 then .ok (UInt64.ofNat form.bytes.toNat)
  else if form.number.value ≤ 0 ∧ Wide form.number.value ∧ Wide form.bytes then
    .error (.notPositive field form.bytes)
  else .error (.notANumber field given)

theorem bytes_pos_iff (form : SizeForm Ends) : 0 < form.bytes ↔ 0 < form.number.value :=
  mul_pos_iff_of_pos_right (Int.lt_of_lt_of_le one_pos (one_le_factor form.unit))

theorem value_le_bytes {form : SizeForm Ends} (nonneg : 0 ≤ form.number.value) :
    form.number.value ≤ form.bytes :=
  le_mul_of_one_le_right nonneg (one_le_factor form.unit)

/-- The limits of 128 bits play no part for a positive number that fits into 64. -/
theorem wide_of_fits {form : SizeForm Ends} (positive : 1 ≤ form.bytes)
    (fits : form.bytes ≤ 2 ^ 64 - 1) : Wide form.number.value ∧ Wide form.bytes := by
  have valuePos := form.bytes_pos_iff.1 positive
  have least := value_le_bytes valuePos.le
  unfold Wide
  omega

theorem outcome_of_wide {form : SizeForm Ends} (field : Field) (given : String)
    (wide : Wide form.number.value ∧ Wide form.bytes) :
    positive field given form.bytes = form.outcome field given := by
  have sign := form.bytes_pos_iff
  unfold positive outcome
  by_cases nonpos : form.bytes ≤ 0
  · have small : form.number.value ≤ 0 := by omega
    rw [if_pos nonpos, if_neg (by omega), if_pos ⟨small, wide⟩]
  · rw [if_neg nonpos]
    by_cases fits : form.bytes < UInt64.size
    · have last : form.bytes ≤ 2 ^ 64 - 1 := Int.le_sub_one_of_lt fits
      rw [if_pos fits, if_pos ⟨by omega, last⟩]
    · have beyond : ¬ form.bytes ≤ 2 ^ 64 - 1 := fun last => fits (Int.lt_of_le_sub_one last)
      rw [if_neg fits, if_neg fun both => beyond both.2, if_neg (by omega)]

theorem outcome_of_not_wide {form : SizeForm Ends} (field : Field) (given : String)
    (beyond : ¬ (Wide form.number.value ∧ Wide form.bytes)) :
    form.outcome field given = .error (.notANumber field given) := by
  rw [outcome, if_neg fun fits => beyond (wide_of_fits fits.1 fits.2),
    if_neg fun small => beyond small.2]

end SizeForm

/-- A size is read as its outcome, whatever blanks are around it. -/
theorem readSize_surrounded (field : Field) (form : SizeForm Tolerated) {before after : List Char}
    (blankBefore : Blanks before) (blankAfter : Blanks after) :
    readSize field (form.surrounded before after) =
      form.outcome field (form.surrounded before after) := by
  have read := sizeInBytes?_surrounded form blankBefore blankAfter
  rw [readSize, SizeForm.surrounded, String.toList_ofList, read]
  by_cases wide : Wide form.number.value ∧ Wide form.bytes
  · simp only [if_pos wide]
    exact SizeForm.outcome_of_wide field _ wide
  · simp only [if_neg wide]
    exact (SizeForm.outcome_of_not_wide field _ wide).symm

/-! ### Sizes with one ending -/

/-- The endings of a unit as they are meant to be: its letter, with or without
`b`, in ASCII letters of either case. -/
inductive Spelled : Option SizeUnit → List Char → Prop
  | bare : Spelled none []
  | letter {unit : SizeUnit} {ending : List Char}
      (letters : ending.map Char.toLower = [unit.letter]) : Spelled (some unit) ending
  | pair {unit : SizeUnit} {ending : List Char}
      (letters : ending.map Char.toLower = [unit.letter, 'b']) : Spelled (some unit) ending

theorem lowerLetter_of_toLower {c : Char} (small : c.toLower.isLower = true) :
    lowerLetter c = c.toLower := by
  have noKelvin : c.toNat ≠ 0x212A := by
    intro kelvin
    have noCapital : ¬ c.isUpper = true := by
      rw [isUpper_iff_toNat]
      omega
    rw [Char.toLower_eq_of_not_isUpper noCapital, isLower_iff_toNat] at small
    omega
  rw [lowerLetter, if_neg (by simpa using noKelvin)]

theorem map_lowerLetter_of_toLower {text lowered : List Char}
    (letters : text.map Char.toLower = lowered) (small : ∀ c ∈ lowered, c.isLower = true) :
    text.map lowerLetter = lowered := by
  subst letters
  exact List.map_congr_left fun c member =>
    lowerLetter_of_toLower (small _ (List.mem_map_of_mem member))

theorem Spelled.tolerated {unit : Option SizeUnit} {ending : List Char}
    (ends : Spelled unit ending) : Tolerated unit ending := by
  cases ends with
  | bare => exact .bare
  | @letter unit _ letters =>
      refine .repeated 1 0 (by decide) ?_
      exact map_lowerLetter_of_toLower letters fun _ => unit.isLower_of_mem_run 1 0
  | @pair unit _ letters =>
      refine .repeated 0 1 (by decide) ?_
      exact map_lowerLetter_of_toLower letters fun _ => unit.isLower_of_mem_run 0 1

/-- A size with one ending, as one whose ending may be repeated. -/
def SizeForm.tolerated (form : SizeForm Spelled) : SizeForm Tolerated :=
  { form with ends := form.ends.tolerated }

/-! ### Texts without a unit -/

/-- The endings that tell a unit, in small letters. -/
def suffixes : List (List Char) :=
  [['k'], ['k', 'b'], ['m'], ['m', 'b'], ['g'], ['g', 'b'], ['t'], ['t', 'b']]

theorem unitAtEnd?_of_no_suffix {text : List Char}
    (noSuffix : ∀ suffix ∈ suffixes, ¬ suffix <:+ text) : unitAtEnd? text.reverse = none := by
  cases found : unitAtEnd? text.reverse with
  | none => rfl
  | some unit =>
      unfold unitAtEnd? at found
      split at found
      · rename_i c rest reversed
        obtain rfl := SizeUnit.ofLetter?_eq_some_iff.1 found
        have ends : [unit.letter, 'b'] <:+ text := by
          rw [← List.reverse_prefix, reversed]
          exact ⟨rest, rfl⟩
        exact absurd ends (noSuffix _ (by cases unit <;> decide))
      · rename_i c rest _ reversed
        obtain rfl := SizeUnit.ofLetter?_eq_some_iff.1 found
        have ends : [unit.letter] <:+ text := by
          rw [← List.reverse_prefix, reversed]
          exact ⟨rest, rfl⟩
        exact absurd ends (noSuffix _ (by cases unit <;> decide))
      · cases found

theorem integer?_map_lowerLetter (text : List Char) :
    Numeral.integer? (text.map lowerLetter) = Numeral.integer? text := by
  ext n
  rw [Numeral.integer?_eq_some_iff, Numeral.integer?_eq_some_iff]
  constructor
  · rintro ⟨number, written, same⟩
    exact ⟨number, eq_of_map_lowerLetter written (noSmall_text number), same⟩
  · rintro ⟨number, written, same⟩
    exact ⟨number, by rw [written, map_lowerLetter_text], same⟩

/-- A text without a unit is read as a count. -/
theorem readSize_eq_readCount (field : Field) {text : String}
    (noSuffix : ∀ suffix ∈ suffixes, ¬ suffix <:+ (trim text.toList).map lowerLetter) :
    readSize field text = readCount field text := by
  have noUnit := unitAtEnd?_of_no_suffix noSuffix
  rw [readSize, readCount, sizeInBytes?_of_noUnit noUnit, wideInteger?, integer?_map_lowerLetter]
  rfl

/-- A written integer with a unit behind it, and with any blanks between them and
around them, is read as exactly so many bytes, or is reported as not positive with
exactly so many, or is no number.  A text that no unit ends is read as a count. -/
theorem readSize_exact (field : Field) :
    (∀ (size : SizeForm Spelled) (before after : List Char), Blanks before → Blanks after →
      readSize field (size.surrounded before after) =
        size.outcome field (size.surrounded before after)) ∧
    ∀ text : String,
      (∀ suffix ∈ suffixes, ¬ suffix <:+ (trim text.toList).map lowerLetter) →
      readSize field text = readCount field text :=
  ⟨fun size _ _ blankBefore blankAfter =>
      readSize_surrounded field size.tolerated blankBefore blankAfter,
    fun _ noSuffix => readSize_eq_readCount field noSuffix⟩

/-- Minus sixteen tebibytes, with a leading zero, capital letters and a blank. -/
def negativeSize : SizeForm Spelled where
  number :=
    { sign := .minus, digits := ['0', '1', '6'], digits_ne_nil := by decide,
      isDigit := by simp }
  between := [' ']
  unit := some .tebi
  ending := ['T', 'B']
  blank := by decide
  ends := .pair rfl

theorem readSize_exact_negative :
    negativeSize.surrounded ['\t'] [] = "\t-016 TB" ∧
      readSize .blockSize "\t-016 TB" = .error (.notPositive .blockSize (-17592186044416)) ∧
      readSize .blockSize "12x" = readCount .blockSize "12x" := by
  have text : negativeSize.surrounded ['\t'] [] = "\t-016 TB" := rfl
  refine ⟨text, ?_, (readSize_exact .blockSize).2 "12x" (by decide)⟩
  rw [← text, (readSize_exact .blockSize).1 negativeSize ['\t'] [] (by decide) (by decide)]
  decide

end AccessTrace.Parameter
