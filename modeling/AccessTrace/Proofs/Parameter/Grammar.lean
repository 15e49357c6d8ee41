/-
Module: AccessTrace.Proofs.Parameter.Grammar
Purpose: Which texts are accepted as sizes, and which of them are in the grammar of sizes.
Main exports:
  Accepted, accepted_iff, InGrammar, Once, inGrammar_iff_once, readSize_grammar
-/
import Mathlib
import AccessTrace.Proofs.Parameter.Sizes

namespace AccessTrace.Parameter

open AccessTrace.Text

/-!
The grammar of sizes allows one ending.  Reading is more lenient: it also
accepts a text whose ending is repeated, and one with the Kelvin sign for a `k`.
Nothing else is accepted outside the grammar.  The ending of a text can be told
from the text alone, and so the two conditions are about the text.
-/

/-! ### Accepted texts -/

/-- A text that is a size, or at least a number of bytes that is not positive. -/
def Accepted (field : Field) (text : String) : Prop :=
  (∃ value, readSize field text = .ok value) ∨
    ∃ bytes, readSize field text = .error (.notPositive field bytes)

/-- A size whose numbers are within the limits. -/
def SizeForm.WithinLimits {Ends : Option SizeUnit → List Char → Prop} (form : SizeForm Ends) :
    Prop :=
  1 ≤ form.bytes ∧ form.bytes ≤ 2 ^ 64 - 1 ∨
    form.number.value ≤ 0 ∧ Wide form.number.value ∧ Wide form.bytes

/-- A text that is not accepted is complained about as it was given. -/
theorem readSize_of_not_accepted {field : Field} {text : String}
    (refused : ¬ Accepted field text) : readSize field text = .error (.notANumber field text) := by
  unfold Accepted at refused
  unfold readSize at refused ⊢
  cases read : sizeInBytes? text.toList with
  | none => rfl
  | some bytes =>
      simp only [read, positive] at refused ⊢
      split at refused
      · exact absurd (.inr ⟨bytes, rfl⟩) refused
      · split at refused
        · exact absurd (.inl ⟨_, rfl⟩) refused
        · rename_i positive tooLarge
          rw [if_neg positive, if_neg tooLarge]

/-- A text in the form of a size is read as the outcome of that form. -/
theorem readSize_of_form (field : Field) {text : String} {form : SizeForm Tolerated}
    (trimmed : trim text.toList = form.text) : readSize field text = form.outcome field text := by
  obtain ⟨before, after, around, blankBefore, blankAfter⟩ := exists_surrounded text.toList
  have given : text = form.surrounded before after := by
    rw [SizeForm.surrounded, ← trimmed, ← around, String.ofList_toList]
  rw [given]
  exact readSize_surrounded field form blankBefore blankAfter

theorem accepted_of_form_iff (field : Field) {text : String} {form : SizeForm Tolerated}
    (trimmed : trim text.toList = form.text) : Accepted field text ↔ form.WithinLimits := by
  have read := readSize_of_form field trimmed
  unfold Accepted SizeForm.WithinLimits
  rw [read, SizeForm.outcome]
  by_cases fits : 1 ≤ form.bytes ∧ form.bytes ≤ 2 ^ 64 - 1
  · rw [if_pos fits]
    exact iff_of_true (.inl ⟨_, rfl⟩) (.inl fits)
  · rw [if_neg fits]
    by_cases small : form.number.value ≤ 0 ∧ Wide form.number.value ∧ Wide form.bytes
    · rw [if_pos small]
      exact iff_of_true (.inr ⟨_, rfl⟩) (.inr small)
    · rw [if_neg small]
      refine iff_of_false ?_ (not_or.2 ⟨fits, small⟩)
      rintro (⟨value, ⟨⟩⟩ | ⟨bytes, ⟨⟩⟩)

/-- The accepted texts are those in the form of a size within the limits. -/
theorem accepted_iff (field : Field) (text : String) :
    Accepted field text ↔
      ∃ form : SizeForm Tolerated, trim text.toList = form.text ∧ form.WithinLimits := by
  constructor
  · intro accepted
    cases read : sizeInBytes? text.toList with
    | none =>
        have refused : readSize field text = .error (.notANumber field text) := by
          rw [readSize, read]
        rw [Accepted, refused] at accepted
        simp at accepted
    | some bytes =>
        obtain ⟨form, trimmed, -⟩ := sizeInBytes?_eq_some_iff.1 read
        exact ⟨form, trimmed, (accepted_of_form_iff field trimmed).1 accepted⟩
  · rintro ⟨form, trimmed, within⟩
    exact (accepted_of_form_iff field trimmed).2 within

/-! ### The ending of a text -/

/-- Whether a character has a small letter. -/
def isLetter (c : Char) : Bool := (lowerLetter c).isLower

/-- Nothing in front of an ending is a letter, and the ending has letters only. -/
theorem dropWhile_text (form : SizeForm Tolerated) :
    form.text.dropWhile (!isLetter ·) = form.ending := by
  obtain ⟨number, between, unit, ending, blank, ends⟩ := form
  have front : ∀ c ∈ number.text ++ between, (!isLetter c) = true := by
    intro c member
    have small : c.isLower = false :=
      (noSmall_text number).append (noSmall_of_blanks blank) c member
    have same : lowerLetter c = c := by
      rcases List.mem_append.1 member with written | isBetween
      · rcases Numeral.Signed.mem_text written with rfl | rfl | digit
        · decide
        · decide
        · exact lowerLetter_of_isDigit digit
      · exact lowerLetter_of_isBlank (blank c isBetween)
    rw [isLetter, same, small]
    rfl
  rw [SizeForm.text, List.dropWhile_append_of_pos front]
  cases ends with
  | bare => rfl
  | @repeated unit _ singles pairs nonempty letters =>
      cases ending with
      | nil => rfl
      | cons c rest =>
          have letter : (lowerLetter c).isLower = true := by
            apply unit.isLower_of_mem_run singles pairs
            rw [← letters]
            exact List.mem_cons_self
          exact List.dropWhile_cons_of_neg (by simp [isLetter, letter])

theorem SizeUnit.head?_run {unit : SizeUnit} {singles pairs : Nat}
    (nonempty : 0 < singles + pairs) : (unit.run singles pairs).head? = some unit.letter := by
  cases singles with
  | succ singles => rfl
  | zero =>
      obtain ⟨pairs, rfl⟩ : ∃ more, pairs = more + 1 := ⟨pairs - 1, by omega⟩
      rfl

/-- An ending tells its unit. -/
theorem Tolerated.unit_eq {first second : Option SizeUnit} {ending : List Char}
    (one : Tolerated first ending) (two : Tolerated second ending) : first = second := by
  have unit_of_letter {unit : Option SizeUnit} (ends : Tolerated unit ending) :
      unit = (ending.map lowerLetter).head?.bind SizeUnit.ofLetter? := by
    cases ends with
    | bare => rfl
    | repeated singles pairs nonempty letters =>
        rw [letters, SizeUnit.head?_run nonempty]
        exact (SizeUnit.ofLetter?_eq_some_iff.2 rfl).symm
  rw [unit_of_letter one, unit_of_letter two]

/-! ### The grammar -/

/-- A text that is an integer with at most one ending behind it, once the blanks
around it are trimmed off. -/
def InGrammar (text : List Char) : Prop :=
  ∃ size : SizeForm Spelled, trim text = size.text

/-- The Kelvin sign, whose small letter is a `k`. -/
def kelvinSign : Char := Char.ofNat 0x212A

/-- The letter of a unit stands once in its ending, and no Kelvin sign does. -/
def Once (unit : Option SizeUnit) (ending : List Char) : Prop :=
  kelvinSign ∉ ending ∧
    ∀ known, unit = some known → (ending.map lowerLetter).count known.letter = 1

instance (unit : Option SizeUnit) (ending : List Char) : Decidable (Once unit ending) :=
  match unit with
  | none => decidable_of_iff (kelvinSign ∉ ending) (by simp [Once])
  | some known =>
    decidable_of_iff
      (kelvinSign ∉ ending ∧ (ending.map lowerLetter).count known.letter = 1) (by simp [Once])

theorem SizeUnit.count_run (unit : SizeUnit) (singles pairs : Nat) :
    (unit.run singles pairs).count unit.letter = singles + pairs := by
  have other : ('b' == unit.letter) = false := by
    simpa using unit.letter_ne_b.symm
  simp [run, List.count_flatten, List.count_cons, other]

theorem map_lowerLetter_of_noKelvin {text : List Char} (noKelvin : kelvinSign ∉ text) :
    text.map lowerLetter = text.map Char.toLower := by
  apply List.map_congr_left
  intro c member
  have other : c.toNat ≠ 0x212A := by
    intro same
    apply noKelvin
    rwa [← Char.toNat_inj.1 (same.trans (by decide : (0x212A : Nat) = kelvinSign.toNat))]
  rw [lowerLetter, if_neg (by simpa using other)]

/-- A letter that is spelled in ASCII is no Kelvin sign. -/
theorem kelvinSign_not_mem {text lowered : List Char} (letters : text.map Char.toLower = lowered)
    (small : ∀ c ∈ lowered, c.isLower = true) : kelvinSign ∉ text := by
  intro member
  have mapped : kelvinSign.toLower ∈ lowered := by
    rw [← letters]
    exact List.mem_map_of_mem member
  exact absurd (small _ mapped) (by decide)

/-- Of the endings that are tolerated, the grammar has those that stand once. -/
theorem Tolerated.spelled_iff_once {unit : Option SizeUnit} {ending : List Char}
    (ends : Tolerated unit ending) : Spelled unit ending ↔ Once unit ending := by
  constructor
  · intro spelled
    cases spelled with
    | bare => exact ⟨List.not_mem_nil, by simp⟩
    | @letter unit _ letters =>
        have noKelvin := kelvinSign_not_mem letters
          fun _ => unit.isLower_of_mem_run 1 0
        refine ⟨noKelvin, ?_⟩
        rintro _ ⟨⟩
        rw [map_lowerLetter_of_noKelvin noKelvin, letters]
        exact unit.count_run 1 0
    | @pair unit _ letters =>
        have noKelvin := kelvinSign_not_mem letters
          fun _ => unit.isLower_of_mem_run 0 1
        refine ⟨noKelvin, ?_⟩
        rintro _ ⟨⟩
        rw [map_lowerLetter_of_noKelvin noKelvin, letters]
        exact unit.count_run 0 1
  · rintro ⟨noKelvin, once⟩
    cases ends with
    | bare => exact .bare
    | @repeated unit _ singles pairs nonempty letters =>
        have count := once unit rfl
        rw [letters, SizeUnit.count_run] at count
        rw [map_lowerLetter_of_noKelvin noKelvin] at letters
        obtain ⟨rfl, rfl⟩ | ⟨rfl, rfl⟩ : singles = 1 ∧ pairs = 0 ∨ singles = 0 ∧ pairs = 1 := by
          omega
        · exact .letter letters
        · exact .pair letters

/-- Whether a text in the form of a size is in the grammar is seen from its ending. -/
theorem inGrammar_iff_once {text : List Char} {form : SizeForm Tolerated}
    (trimmed : trim text = form.text) : InGrammar text ↔ Once form.unit form.ending := by
  rw [← form.ends.spelled_iff_once]
  constructor
  · rintro ⟨size, written⟩
    have same : size.tolerated.ending = form.ending := by
      rw [← dropWhile_text, ← dropWhile_text, ← trimmed, written]
      rfl
    have spelled : Spelled size.unit form.ending := by
      rw [← same]
      exact size.ends
    rwa [spelled.tolerated.unit_eq form.ends] at spelled
  · intro spelled
    exact ⟨{ form with ends := spelled }, trimmed⟩

/-! ### What is accepted -/

/-- An accepted text is an integer with perhaps a unit behind it, which may be
repeated.  It is in the grammar exactly if the letter of its unit stands once in
it and is no Kelvin sign.  Every text that is not accepted is complained about as
it was given. -/
theorem readSize_grammar (field : Field) (text : String) :
    (Accepted field text ↔
      ∃ form : SizeForm Tolerated, trim text.toList = form.text ∧ form.WithinLimits) ∧
    (∀ form : SizeForm Tolerated, trim text.toList = form.text →
      (InGrammar text.toList ↔ Once form.unit form.ending)) ∧
    (¬ Accepted field text → readSize field text = .error (.notANumber field text)) :=
  ⟨accepted_iff field text, fun _ trimmed => inGrammar_iff_once trimmed,
    readSize_of_not_accepted⟩

/-- Four with the ending of a unit twice. -/
def repeatedSize : SizeForm Tolerated where
  number :=
    { sign := .absent, digits := ['4'], digits_ne_nil := by decide, isDigit := by simp }
  between := []
  unit := some .kibi
  ending := ['k', 'k']
  blank := Blanks.nil
  ends := .repeated 2 0 (by decide) rfl

theorem readSize_grammar_repeated :
    Accepted .maxAddress "4kk" ∧ ¬ InGrammar "4kk".toList ∧
      readSize .maxAddress "4x" = .error (.notANumber .maxAddress "4x") := by
  have trimmed : trim "4kk".toList = repeatedSize.text := by decide
  obtain ⟨accepted, grammar, -⟩ := readSize_grammar .maxAddress "4kk"
  refine ⟨accepted.2 ⟨repeatedSize, trimmed, .inl (by decide)⟩, ?_, ?_⟩
  · rw [grammar repeatedSize trimmed]
    decide
  · apply (readSize_grammar .maxAddress "4x").2.2
    rintro (⟨value, read⟩ | ⟨bytes, read⟩)
    · cases read
    · cases read

/-- A repeated ending is accepted, although it is not in the grammar. -/
theorem repeated_ending_accepted :
    readSize .maxAddress "4kk" = .ok 4096 ∧ ¬ InGrammar "4kk".toList := by
  have trimmed : trim "4kk".toList = repeatedSize.text := by decide
  refine ⟨by decide, ?_⟩
  rw [inGrammar_iff_once trimmed]
  decide

end AccessTrace.Parameter
