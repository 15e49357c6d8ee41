/-
Module: AccessTrace.Proofs.Json.Records
Purpose: JSON records: what the fields of a record make of the members of an object.
Main exports:
  Json.Recovers, Json.Fields.Gives, Json.Fields.Gives.decode, Json.Fields.Reads,
  Json.Fields.Reads.decode, Json.decode_print
-/
import Mathlib
import AccessTrace.Proofs.Json.Values

namespace AccessTrace.Json

/-!
Each field is looked up by its name, so the fields of a record can be told
apart and dealt with one by one.  The members of an object may stand in any
order, with others among them.  A record is written as an object whose members
stand in the order of its fields, though some may be left out.
-/

/-- Whether a decoder gives a value back that was written. -/
def Recovers {α : Type} (decode : Decoder α) (write : α → Value) (value : α) : Prop :=
  decode (write value).toReading = .ok value

theorem recovers_boolean (value : Bool) : Recovers boolean .boolean value := rfl

theorem recovers_word (value : UInt64) : Recovers word .ofWord value :=
  word_ofInt value

theorem recovers_signed (value : Int64) : Recovers signed (.integer ·.toInt) value :=
  signed_ofInt value

theorem recovers_string (value : String) : Recovers string .string value :=
  Quoted.decode_ofText value

theorem recovers_real {read : NumberText → Except Fault Binary64} {value : Binary64}
    (finite : value.isFinite = true) (reads : ReadsBack read value) :
    Recovers (realBy read) .real value :=
  reads.realBy finite

/-- Something that is not written as nothing may also be missing. -/
theorem recovers_nullable {α : Type} {decode : Decoder α} {write : α → Value} {value : α}
    (recovers : Recovers decode write value) (present : (write value).toReading ≠ .null) :
    Recovers (nullable decode) (.ofOption write) (some value) := by
  show nullable decode (write value).toReading = _
  unfold nullable
  split
  · rename_i null
    exact absurd null present
  · rw [recovers]
    rfl

namespace Fields

variable {α β : Type}

/-- The names of the fields. -/
def names (fields : Fields α) : List String :=
  fields.rules.map FieldRule.name

/-! ### Fields and what is found for them -/

/-- Whether fields make a value of what is found under names. -/
structure Gives (fields : Fields α) (found : String → Option Reading) (value : α) : Prop where
  accepts : ∀ rule ∈ fields.rules, ∀ reading ∈ found rule.name, rule.check reading = .ok ()
  builds : ∀ all : Found, (∀ name, all.lookup name = found name) → fields.build all = .ok value

namespace Gives

variable {found : String → Option Reading} {name : String} {decode : Decoder α} {value : α}
  {hasDefault : Bool}

theorem single {reading : Reading} {whenMissing : Except Fault α}
    (present : found name = some reading) (decodes : decode reading = .ok value) :
    (Fields.single name decode hasDefault whenMissing).Gives found value := by
  constructor
  · intro rule member other same
    cases List.mem_singleton.1 member
    rw [present] at same
    cases same
    show (decode reading).map _ = _
    rw [decodes]
    rfl
  · intro all agrees
    simp only [Fields.single, agrees name, present]
    exact decodes

theorem missing (absent : found name = none) :
    (Fields.single name decode hasDefault (.ok value)).Gives found value := by
  constructor
  · intro rule member reading same
    cases List.mem_singleton.1 member
    rw [absent] at same
    cases same
  · intro all agrees
    simp only [Fields.single, agrees name, absent]

theorem map (f : α → β) {fields : Fields α} (gives : fields.Gives found value) :
    (f <$> fields).Gives found (f value) := by
  constructor
  · exact gives.accepts
  · intro all agrees
    show (fields.build all).map f = _
    rw [gives.builds all agrees]
    rfl

theorem seq {functions : Fields (α → β)} {arguments : Fields α} {f : α → β}
    (first : functions.Gives found f) (second : arguments.Gives found value) :
    (functions <*> arguments).Gives found (f value) := by
  constructor
  · intro rule member
    rcases List.mem_append.1 member with member | member
    · exact first.accepts rule member
    · exact second.accepts rule member
  · intro all agrees
    show (do return (← functions.build all) (← arguments.build all)) = _
    rw [first.builds all agrees, second.builds all agrees]
    rfl

end Gives

/-! ### Look-up by name -/

section
variable {γ : Type} {members : List (String × γ)}

theorem lookup_of_mem (distinct : (members.map Prod.fst).Nodup) {member : String × γ}
    (present : member ∈ members) : members.lookup member.1 = some member.2 := by
  obtain ⟨before, after, rfl⟩ := List.append_of_mem present
  rw [List.map_append, List.map_cons] at distinct
  refine List.lookup_eq_some_iff.2 ⟨before, after, rfl, ?_⟩
  intro other earlier
  have apart := (List.nodup_append.1 distinct).2.2 _ (List.mem_map_of_mem earlier) _
    List.mem_cons_self
  exact bne_iff_ne.2 apart.symm

theorem lookup_reverse (distinct : (members.map Prod.fst).Nodup) (name : String) :
    members.reverse.lookup name = members.lookup name := by
  cases found : members.lookup name with
  | none =>
      rw [List.lookup_eq_none_iff] at found ⊢
      exact fun member present => found member (List.mem_reverse.1 present)
  | some value =>
      obtain ⟨before, after, rfl, -⟩ := List.lookup_eq_some_iff.1 found
      have reversed : ((before ++ (name, value) :: after).reverse.map Prod.fst).Nodup := by
        rw [List.map_reverse]
        exact List.nodup_reverse.2 distinct
      have present : (name, value) ∈ (before ++ (name, value) :: after).reverse := by simp
      exact lookup_of_mem reversed present

theorem lookup_filter (keep : String → Bool) {name : String} (kept : keep name = true) :
    (members.filter fun member => keep member.1).lookup name = members.lookup name := by
  induction members with
  | nil => rfl
  | cons member members ih =>
      obtain ⟨key, value⟩ := member
      rw [List.filter_cons, List.lookup_cons]
      cases same : name == key with
      | false =>
          split
          · rw [List.lookup_cons, same, ih]
          · exact ih
      | true =>
          rw [beq_iff_eq.1 same] at kept
          rw [if_pos kept, List.lookup_cons, same]

end

/-! ### Members in any order -/

/-- Members under the names that their keys are read as. -/
def namedMembers : List (Quoted × Reading) → Except Fault (List (String × Reading))
  | [] => .ok []
  | (key, reading) :: members => do
    return (← key.decode, reading) :: (← namedMembers members)

/-- The first of some members has a name, and so have the others. -/
theorem namedMembers_cons {key : Quoted} {reading : Reading} {members : List (Quoted × Reading)}
    {named : List (String × Reading)}
    (names : namedMembers ((key, reading) :: members) = .ok named) :
    ∃ name rest, named = (name, reading) :: rest ∧ key.decode = .ok name ∧
      namedMembers members = .ok rest := by
  rw [namedMembers] at names
  cases decoded : key.decode with
  | error fault =>
      rw [decoded] at names
      cases names
  | ok name =>
      cases others : namedMembers members with
      | error fault =>
          rw [decoded, others] at names
          cases names
      | ok rest =>
          rw [decoded, others] at names
          cases names
          exact ⟨name, rest, rfl, rfl, rfl⟩

/-- Whether members can be those of a record: no field is there twice, and
nothing is wrong with what belongs to no field. -/
@[mk_iff]
structure Fit (fields : Fields α) (named : List (String × Reading)) : Prop where
  once : ((named.filter (·.1 ∈ fields.names)).map Prod.fst).Nodup
  sound : ∀ member ∈ named, member.1 ∉ fields.names → member.2.sound = .ok ()

instance (fields : Fields α) (named : List (String × Reading)) : Decidable (fields.Fit named) :=
  decidable_of_iff' _ (fit_iff fields named)

theorem Fit.tail {fields : Fields α} {member : String × Reading} {rest : List (String × Reading)}
    (fit : fields.Fit (member :: rest)) : fields.Fit rest where
  once := fit.once.sublist (((List.sublist_cons_self _ _).filter _).map _)
  sound member present := fit.sound member (List.mem_cons_of_mem _ present)

section
variable {fields : Fields α} {members : List (Quoted × Reading)}
  {named : List (String × Reading)}

/-- The members of fields are found, the last one first, and no others. -/
theorem findMembers_eq (names : namedMembers members = .ok named) (fit : fields.Fit named)
    (accepted : ∀ member ∈ named, ∀ rule ∈ fields.rules, rule.name = member.1 →
      rule.check member.2 = .ok ())
    (found : Found) (fresh : ∀ member ∈ named, member.1 ∈ fields.names →
      found.lookup member.1 = none) :
    findMembers fields.rules found members =
      .ok ((named.filter (·.1 ∈ fields.names)).reverse ++ found) := by
  induction members generalizing named found with
  | nil =>
      cases names
      rfl
  | cons member members ih =>
      obtain ⟨key, reading⟩ := member
      obtain ⟨name, rest, rfl, decoded, others⟩ := namedMembers_cons names
      have acceptedLater := fun member present => accepted member (List.mem_cons_of_mem _ present)
      have freshLater := fun member present => fresh member (List.mem_cons_of_mem _ present)
      rw [findMembers, decoded]
      simp only [bind, Except.bind]
      cases known : fields.rules.find? (·.name == name) with
      | none =>
          have unknown : name ∉ fields.names := by
            intro member
            obtain ⟨rule, present, same⟩ := List.mem_map.1 member
            exact List.find?_eq_none.1 known rule present (beq_iff_eq.2 same)
          rw [List.filter_cons_of_neg (by simpa using unknown)]
          simp only [fit.sound _ List.mem_cons_self unknown]
          exact ih others fit.tail acceptedLater found freshLater
      | some rule =>
          have present := List.mem_of_find?_eq_some known
          have same : rule.name = name := by simpa using List.find?_some known
          have isName : name ∈ fields.names := List.mem_map.2 ⟨rule, present, same⟩
          have once := fit.once
          rw [List.filter_cons_of_pos (by simpa using isName)] at once ⊢
          obtain ⟨new, -⟩ := List.nodup_cons.1 once
          simp only [fresh _ List.mem_cons_self isName, Option.isSome_none, Bool.false_eq_true,
            if_false, accepted _ List.mem_cons_self rule present same]
          rw [List.reverse_cons, List.append_assoc, List.singleton_append]
          refine ih others fit.tail acceptedLater _ ?_
          intro member present isField
          have apart : member.1 ≠ name := by
            rintro rfl
            exact new (List.mem_map.2
              ⟨member, List.mem_filter.2 ⟨present, by simpa using isField⟩, rfl⟩)
          rw [List.lookup_cons, beq_false_of_ne apart]
          exact freshLater member present isField

/-- A record is decoded from members in any order, with others among them. -/
theorem Gives.decode {value : α} (names : namedMembers members = .ok named)
    (fit : fields.Fit named)
    (gives : fields.Gives (fun name => (named.filter (·.1 ∈ fields.names)).lookup name) value) :
    fields.decode (.object members none) = .ok value := by
  have accepted : ∀ member ∈ named, ∀ rule ∈ fields.rules, rule.name = member.1 →
      rule.check member.2 = .ok () := by
    intro member present rule isRule same
    have isName : member.1 ∈ fields.names := List.mem_map.2 ⟨rule, isRule, same⟩
    have kept : member ∈ named.filter (·.1 ∈ fields.names) :=
      List.mem_filter.2 ⟨present, decide_eq_true isName⟩
    refine gives.accepts rule isRule _ ?_
    rw [same]
    exact lookup_of_mem fit.once kept
  have found := findMembers_eq names fit accepted [] (fun _ _ _ => rfl)
  rw [List.append_nil] at found
  rw [Fields.decode, found]
  exact gives.builds _ (lookup_reverse fit.once)

end

/-! ### Members as they are written -/

/-- Whether fields make a value of the members of an object. -/
structure Reads (fields : Fields α) (members : List (String × Value)) (value : α) : Prop where
  accepts : ∀ rule ∈ fields.rules, ∀ written ∈ members.lookup rule.name,
    rule.check written.toReading = .ok ()
  builds : ∀ found : Found,
    (∀ name, found.lookup name = (members.lookup name).map Value.toReading) →
      fields.build found = .ok value

theorem reads_iff_gives {fields : Fields α} {members : List (String × Value)} {value : α} :
    fields.Reads members value ↔
      fields.Gives (fun name => (members.lookup name).map Value.toReading) value := by
  constructor
  · rintro ⟨accepts, builds⟩
    exact ⟨by simpa using accepts, builds⟩
  · rintro ⟨accepts, builds⟩
    exact ⟨by simpa using accepts, builds⟩

namespace Reads

variable {members : List (String × Value)} {name : String} {decode : Decoder α}

theorem single {write : α → Value} {value : α} {hasDefault : Bool} {whenMissing : Except Fault α}
    (written : members.lookup name = some (write value)) (recovers : Recovers decode write value) :
    (Fields.single name decode hasDefault whenMissing).Reads members value :=
  reads_iff_gives.2 (.single (by rw [written]; rfl) recovers)

/-- A field that may be missing. -/
theorem ifAny (write : α → Value) {value : Option α} {hasDefault : Bool}
    (written : members.lookup name = value.map write)
    (recovers : ∀ content ∈ value, Recovers decode write content ∧
      (write content).toReading ≠ .null) :
    (Fields.single name (nullable decode) hasDefault (.ok none)).Reads members value := by
  cases value with
  | some content =>
      obtain ⟨recovers, present⟩ := recovers content rfl
      have again : members.lookup name = some (Value.ofOption write (some content)) := written
      exact single again (recovers_nullable recovers present)
  | none => exact reads_iff_gives.2 (.missing (by rw [written]; rfl))

theorem map (f : α → β) {fields : Fields α} {value : α} (reads : fields.Reads members value) :
    (f <$> fields).Reads members (f value) :=
  reads_iff_gives.2 ((reads_iff_gives.1 reads).map f)

theorem seq {functions : Fields (α → β)} {arguments : Fields α} {f : α → β} {value : α}
    (first : functions.Reads members f) (second : arguments.Reads members value) :
    (functions <*> arguments).Reads members (f value) :=
  reads_iff_gives.2 ((reads_iff_gives.1 first).seq (reads_iff_gives.1 second))

end Reads

theorem namedMembers_memberReadings (members : List (String × Value)) :
    namedMembers (memberReadings members) =
      .ok (members.map fun member => (member.1, member.2.toReading)) := by
  induction members with
  | nil => rfl
  | cons member members ih =>
      rw [memberReadings, namedMembers, Quoted.decode_ofText, ih]
      rfl

theorem lookup_map_toReading (members : List (String × Value)) (name : String) :
    (members.map fun member => (member.1, member.2.toReading)).lookup name =
      (members.lookup name).map Value.toReading := by
  induction members with
  | nil => rfl
  | cons member members ih =>
      rw [List.map_cons, List.lookup_cons, List.lookup_cons, ih]
      cases name == member.1 <;> rfl

/-- A record is decoded from members in the order of its fields. -/
theorem Reads.decode {fields : Fields α} {members : List (String × Value)} {value : α}
    (reads : fields.Reads members value) (distinct : fields.names.Nodup)
    (ordered : (members.map Prod.fst).Sublist fields.names) :
    fields.decode (Value.object members).toReading = .ok value := by
  have isName : ∀ member ∈ members.map fun member => (member.1, member.2.toReading),
      member.1 ∈ fields.names := by
    intro member present
    obtain ⟨written, member, rfl⟩ := List.mem_map.1 present
    exact ordered.subset (List.mem_map_of_mem member)
  have all := List.filter_eq_self.2 fun member present => decide_eq_true (isName member present)
  have fit : fields.Fit (members.map fun member => (member.1, member.2.toReading)) := by
    constructor
    · rw [all, List.map_map]
      exact distinct.sublist ordered
    · exact fun member present unknown => absurd (isName member present) unknown
  refine Gives.decode (namedMembers_memberReadings members) fit ?_
  rw [all]
  simp only [lookup_map_toReading]
  exact reads_iff_gives.1 reads

end Fields

/-- A value is decoded from the text that is written for it. -/
theorem decode_print {α : Type} {decoder : Decoder α} {write : α → Value} {value : α}
    (recovers : Recovers decoder write value) (form : Form) :
    Json.decode decoder ((write value).print form ++ "\n") = .ok value := by
  have ends : Ends ['\n'] := ends_cons rfl []
  have text : ((write value).print form ++ "\n").toList =
      print form 0 (write value) ++ ['\n'] := by
    rw [String.toList_append, Value.print, String.toList_ofList]
    rfl
  rw [Json.decode, text, readText_print form (write value) ends]
  have decoded : decoder (write value).toReading = .ok value := recovers
  simp only [bind, Except.bind, decoded]
  rfl

end AccessTrace.Json
