/-
Module: AccessTrace.Proofs.Storage.FileTree
Purpose: What writing a file does to a tree: to the file, to other files, and to the ways to them.
Main exports:
  FileTree.entry?_put_self, FileTree.entry?_put_other, FileTree.placeForFile_eq_ok_iff,
  FileTree.placeForFile_write, FileTree.NoDevice, FileTree.read_write, FileTree.read_write_other
-/
import Mathlib
import AccessTrace.Proofs.Storage.Buffered
import AccessTrace.Storage.FileTree

namespace AccessTrace

/-!
Where a path leads depends on the directories of a tree and on nothing else.
Writing a file leaves them as they are, so that every path leads where it did
before, and only the place of the file has something else to read.
-/

/-- Two steps give a result exactly if the first gives something from which the
second gives the result. -/
theorem bind_eq_ok_iff {ε α β : Type} (first : Except ε α) (second : α → Except ε β)
    (result : β) :
    (first >>= second) = .ok result ↔
      ∃ between, first = .ok between ∧ second between = .ok result := by
  cases first with
  | error error => simp [bind, Except.bind]
  | ok between => simp [bind, Except.bind]

namespace FileTree

/-! ### One entry -/

theorem entry?_put_self (tree : FileTree) (place : Place) (entry : Entry) :
    entry? (tree.put place entry) place = some entry := by
  simp [put, entry?]

theorem entry?_put_other (tree : FileTree) {place other : Place} (entry : Entry)
    (distinct : other ≠ place) : entry? (tree.put place entry) other = tree.entry? other := by
  obtain ⟨entries, workingDirectory⟩ := tree
  have elsewhere : (other == place) = false := by simpa using distinct
  unfold entry? put
  rw [List.lookup_cons, elsewhere]
  change (entries.filter (·.1 != place)).lookup other = entries.lookup other
  induction entries with
  | nil => rfl
  | cons head entries ih =>
      obtain ⟨key, value⟩ := head
      by_cases same : key = place
      · subst same
        rw [List.filter_cons_of_neg (by simp), ih, List.lookup_cons, elsewhere]
      · rw [List.filter_cons_of_pos (by simpa using same), List.lookup_cons, List.lookup_cons, ih]

/-! ### The way to an entry -/

theorem requireDirectory_eq_ok_iff (tree : FileTree) (place : Place) :
    tree.requireDirectory place = .ok () ↔ tree.entry? place = some .directory := by
  unfold requireDirectory
  split <;> simp_all

theorem walk_append (tree : FileTree) (first second : List String) (place : Place) :
    tree.walk place (first ++ second) = (tree.walk place first).bind (tree.walk · second) := by
  induction first generalizing place with
  | nil => rfl
  | cons name names ih =>
      simp only [List.cons_append, walk, ih, bind, Except.bind]
      cases tree.requireDirectory place with
      | error error => rfl
      | ok _ =>
          simp only
          split_ifs <;> rfl

/-- A way goes through directories. -/
theorem requireDirectory_of_walk {tree : FileTree} {place target : Place} {name : String}
    {names : List String} (walked : tree.walk place (name :: names) = .ok target) :
    tree.requireDirectory place = .ok () := by
  rw [walk, bind_eq_ok_iff] at walked
  obtain ⟨done, required, -⟩ := walked
  exact required

theorem withoutEndSlashes_isPrefix (names : List String) : withoutEndSlashes names <+: names := by
  rw [withoutEndSlashes, ← List.reverse_suffix, List.reverse_reverse]
  exact List.dropWhile_suffix _

/-- Names that end in one that a file can have. -/
def EndInName (names : List String) : Prop :=
  withoutEndSlashes names = names ∧
    ∃ last, names.getLast? = some last ∧ last ≠ "." ∧ last ≠ ".."

/-- The place for a file is where its path leads, if no directory is there. -/
theorem placeForFile_eq_ok_iff (tree : FileTree) (path : String) (place : Place) :
    tree.placeForFile path = .ok place ↔
      ∃ start names, tree.startOf path = .ok (start, names) ∧ EndInName names ∧
        tree.walk start names = .ok place ∧ tree.entry? place ≠ some .directory := by
  unfold placeForFile
  rw [bind_eq_ok_iff]
  constructor
  · rintro ⟨⟨start, names⟩, origin, found⟩
    refine ⟨start, names, origin, ?_⟩
    simp only at found
    split at found
    · cases found
    · rename_i last ends
      obtain ⟨directory, before, found⟩ := (bind_eq_ok_iff _ _ _).1 found
      obtain ⟨-, -, found⟩ := (bind_eq_ok_iff _ _ _).1 found
      split at found
      · cases found
      · rename_i plain
        obtain ⟨target, walked, found⟩ := (bind_eq_ok_iff _ _ _).1 found
        simp only [Bool.or_eq_true, decide_eq_true_eq, not_or, not_lt] at plain
        obtain ⟨⟨notHere, notAbove⟩, long⟩ := plain
        have whole : withoutEndSlashes names = names :=
          (withoutEndSlashes_isPrefix names).eq_of_length_le long
        rw [whole] at before ends
        have apart : names.dropLast ++ [last] = names := List.dropLast_append_getLast? last ends
        split at found
        · cases found
        · rename_i noDirectory
          cases found
          refine ⟨⟨whole, last, ends, notHere, notAbove⟩, ?_, noDirectory⟩
          rw [← apart, walk_append, before]
          exact walked
  · rintro ⟨start, names, origin, ⟨whole, last, ends, notHere, notAbove⟩, walked, noDirectory⟩
    refine ⟨(start, names), origin, ?_⟩
    have apart : names.dropLast ++ [last] = names := List.dropLast_append_getLast? last ends
    rw [← apart, walk_append] at walked
    obtain ⟨directory, before, walked⟩ := (bind_eq_ok_iff _ _ _).1 walked
    simp only [whole, ends, before, requireDirectory_of_walk walked, walked, bind, Except.bind]
    rw [if_neg (by simp [notHere, notAbove])]

/-! ### Directories that stay -/

/-- Two trees with the same directories, from which relative paths start at the
same one. -/
structure SameDirectories (tree other : FileTree) : Prop where
  start : tree.workingDirectory = other.workingDirectory
  directory : ∀ place, tree.entry? place = some .directory ↔ other.entry? place = some .directory

namespace SameDirectories
variable {tree other : FileTree}

theorem refl (tree : FileTree) : SameDirectories tree tree := by
  constructor
  · rfl
  · intro place
    exact Iff.rfl

theorem symm (same : SameDirectories tree other) : SameDirectories other tree := by
  constructor
  · exact same.start.symm
  · intro place
    exact (same.directory place).symm

theorem startOf_eq (same : SameDirectories tree other) (path : String) :
    tree.startOf path = other.startOf path := by
  unfold startOf
  rw [same.start]

theorem walk_eq_ok (same : SameDirectories tree other) {names : List String}
    {start target : Place} (walked : tree.walk start names = .ok target) :
    other.walk start names = .ok target := by
  induction names generalizing start with
  | nil => exact walked
  | cons name names ih =>
      have required := requireDirectory_of_walk walked
      have required' : other.requireDirectory start = .ok () := by
        rw [requireDirectory_eq_ok_iff] at required ⊢
        exact (same.directory start).1 required
      simp only [walk, required, required', bind, Except.bind] at walked ⊢
      split_ifs at walked ⊢
      · exact ih walked
      · exact ih walked
      · exact ih walked

theorem placeForFile_eq_ok (same : SameDirectories tree other) {path : String} {place : Place}
    (found : tree.placeForFile path = .ok place) : other.placeForFile path = .ok place := by
  rw [placeForFile_eq_ok_iff] at found ⊢
  obtain ⟨start, names, origin, ends, walked, noDirectory⟩ := found
  refine ⟨start, names, ?_, ends, same.walk_eq_ok walked, ?_⟩
  · rw [← same.startOf_eq]
    exact origin
  · intro directory
    exact noDirectory ((same.directory place).2 directory)

/-- Paths lead to the same places for files. -/
theorem placeForFile_iff (same : SameDirectories tree other) (path : String) (place : Place) :
    other.placeForFile path = .ok place ↔ tree.placeForFile path = .ok place :=
  ⟨same.symm.placeForFile_eq_ok, same.placeForFile_eq_ok⟩

end SameDirectories

/-- A file that is put where no directory is leaves the directories alone. -/
theorem sameDirectories_put {tree : FileTree} {place : Place}
    (noDirectory : tree.entry? place ≠ some .directory) (content : ByteArray) :
    SameDirectories tree (tree.put place (.file content)) := by
  constructor
  · rfl
  · intro other
    by_cases here : other = place
    · rw [here, entry?_put_self]
      simp [noDirectory]
    · rw [entry?_put_other tree _ here]

/-! ### Writing -/

theorem noDirectory_of_placeForFile {tree : FileTree} {path : String} {place : Place}
    (found : tree.placeForFile path = .ok place) : tree.entry? place ≠ some .directory := by
  obtain ⟨-, -, -, -, -, noDirectory⟩ := (placeForFile_eq_ok_iff _ _ _).1 found
  exact noDirectory

/-- Writing changes what stands at the place of the path, and nothing else. -/
theorem write_cases (tree : FileTree) (path : String) (chunks : List ByteArray) :
    (tree.write path chunks).2 = tree ∨
      ∃ place content, tree.placeForFile path = .ok place ∧
        (tree.write path chunks).2 = tree.put place (.file content) := by
  unfold write
  cases found : tree.placeForFile path with
  | error error => exact .inl rfl
  | ok place =>
      simp only [keep]
      split
      · exact .inl rfl
      · exact .inr ⟨place, _, rfl, rfl⟩

theorem sameDirectories_write (tree : FileTree) (path : String) (chunks : List ByteArray) :
    SameDirectories tree (tree.write path chunks).2 := by
  rcases write_cases tree path chunks with same | ⟨place, content, found, put⟩
  · rw [same]
    exact .refl tree
  · rw [put]
    exact sameDirectories_put (noDirectory_of_placeForFile found) content

/-- Paths lead to the same places after a file has been written. -/
theorem placeForFile_write (tree : FileTree) (path other : String) (chunks : List ByteArray)
    (place : Place) :
    (tree.write path chunks).2.placeForFile other = .ok place ↔
      tree.placeForFile other = .ok place :=
  (sameDirectories_write tree path chunks).placeForFile_iff other place

theorem entry?_write_other {tree : FileTree} {path : String} {place : Place}
    (apart : tree.placeForFile path ≠ .ok place) (chunks : List ByteArray) :
    FileTree.entry? (tree.write path chunks).2 place = tree.entry? place := by
  rcases write_cases tree path chunks with same | ⟨target, content, found, put⟩
  · rw [same]
  · have distinct : place ≠ target := by
      rintro rfl
      exact apart found
    rw [put, entry?_put_other tree _ distinct]

/-- A path does not lead to a device. -/
def NoDevice (tree : FileTree) (path : String) : Prop :=
  ∀ place device, tree.placeForFile path = .ok place → tree.entry? place ≠ some (.device device)

/-- A place for a file that is no device takes all chunks. -/
theorem write_of_placeForFile {tree : FileTree} {path : String} {place : Place}
    (noDevice : tree.NoDevice path) (found : tree.placeForFile path = .ok place)
    (chunks : List ByteArray) :
    tree.write path chunks = (.ok (), tree.put place (.file (joined chunks))) := by
  have file : ∀ device, tree.entry? place ≠ some (.device device) := by
    intro device
    exact noDevice place device found
  have sink : tree.sinkAt place = {} := by
    unfold sinkAt
    split
    · exact absurd ‹_› (file .full)
    · rfl
  have room : Sink.Fits {} (joined chunks).size := Sink.fits_of_no_limit rfl _
  obtain ⟨taken, result, bytes⟩ := BufferedWriter.transfer_of_fits fileBufferCapacity room
  have kept : tree.keep place taken = tree.put place (.file (joined chunks)) := by
    unfold keep
    split
    · exact absurd ‹_› (file _)
    · rw [bytes, ByteArray.empty_append]
  simp only [write, found, sink, result, kept]

/-- Whoever has written to a path has found a place for a file there. -/
theorem placeForFile_of_write {tree after : FileTree} {path : String} {chunks : List ByteArray}
    (written : tree.write path chunks = (.ok (), after)) :
    ∃ place, tree.placeForFile path = .ok place := by
  cases found : tree.placeForFile path with
  | error error =>
      rw [write, found] at written
      cases written
  | ok place => exact ⟨place, rfl⟩

/-! ### Reading -/

/-- What is read at a path depends on what is at the place that it leads to. -/
theorem read_congr {tree other : FileTree} {path path' : String} {place : Place}
    (found : tree.placeForFile path = .ok place) (found' : other.placeForFile path' = .ok place)
    (same : tree.entry? place = other.entry? place) : tree.read path = other.read path' := by
  obtain ⟨start, names, origin, -, walked, -⟩ := (placeForFile_eq_ok_iff _ _ _).1 found
  obtain ⟨start', names', origin', -, walked', -⟩ := (placeForFile_eq_ok_iff _ _ _).1 found'
  simp only [read, origin, origin', Except.bind, walked, walked', same]

/-- A file at the place that a path leads to is what is read there. -/
theorem read_of_file {tree : FileTree} {path : String} {place : Place} {content : ByteArray}
    (found : tree.placeForFile path = .ok place) (file : tree.entry? place = some (.file content)) :
    tree.read path = .ok content := by
  obtain ⟨start, names, origin, -, walked, -⟩ := (placeForFile_eq_ok_iff _ _ _).1 found
  simp only [read, origin, Except.bind, walked, file]

/-- After a file has been written it holds all chunks, and its path leads to it. -/
theorem read_write {tree after : FileTree} {path : String} {chunks : List ByteArray}
    (noDevice : tree.NoDevice path) (written : tree.write path chunks = (.ok (), after)) :
    after.read path = .ok (joined chunks) := by
  obtain ⟨place, found⟩ := placeForFile_of_write written
  have foundAfter := (placeForFile_write tree path path chunks place).2 found
  rw [write_of_placeForFile noDevice found] at written foundAfter
  cases written
  exact read_of_file foundAfter (entry?_put_self _ _ _)

/-- What was written can be read at every path that leads to its place. -/
theorem read_write_same {tree after : FileTree} {path other : String} {place : Place}
    {chunks : List ByteArray} (noDevice : tree.NoDevice path)
    (found : tree.placeForFile path = .ok place) (foundOther : tree.placeForFile other = .ok place)
    (written : tree.write path chunks = (.ok (), after)) :
    after.read other = .ok (joined chunks) := by
  have foundAfter := (placeForFile_write tree path path chunks place).2 found
  have foundOtherAfter := (placeForFile_write tree path other chunks place).2 foundOther
  rw [written] at foundAfter foundOtherAfter
  rw [read_congr foundOtherAfter foundAfter rfl]
  exact read_write noDevice written

/-- Writing makes no devices. -/
theorem noDevice_write {tree : FileTree} {other : String} (noDevice : tree.NoDevice other)
    (path : String) (chunks : List ByteArray) : (tree.write path chunks).2.NoDevice other := by
  intro place device found
  have foundBefore := (placeForFile_write tree path other chunks place).1 found
  rcases write_cases tree path chunks with same | ⟨target, content, -, put⟩
  · rw [same]
    exact noDevice place device foundBefore
  · rw [put]
    by_cases here : place = target
    · rw [here, entry?_put_self]
      exact nofun
    · rw [entry?_put_other tree _ here]
      exact noDevice place device foundBefore

/-- A path leads to a place for a file, and no device is there. -/
structure Writable (tree : FileTree) (path : String) : Prop where
  found : ∃ place, tree.placeForFile path = .ok place
  noDevice : tree.NoDevice path

theorem writable_of_vacant {tree : FileTree} {path : String} {place : Place}
    (found : tree.placeForFile path = .ok place) (vacant : tree.entry? place = none) :
    tree.Writable path := by
  refine ⟨⟨place, found⟩, ?_⟩
  intro other device foundOther
  rw [found] at foundOther
  cases foundOther
  rw [vacant]
  exact nofun

/-- What can be written is written without complaint. -/
theorem Writable.write_eq_ok {tree : FileTree} {path : String} (writable : tree.Writable path)
    (chunks : List ByteArray) : (tree.write path chunks).1 = .ok () := by
  obtain ⟨place, found⟩ := writable.found
  rw [write_of_placeForFile writable.noDevice found]

/-- What can be written still can be after another file has been written. -/
theorem Writable.write {tree : FileTree} {other : String} (writable : tree.Writable other)
    (path : String) (chunks : List ByteArray) : (tree.write path chunks).2.Writable other := by
  obtain ⟨place, found⟩ := writable.found
  exact ⟨⟨place, (placeForFile_write tree path other chunks place).2 found⟩,
    noDevice_write writable.noDevice path chunks⟩

/-- Writing to another place leaves a file as it is. -/
theorem read_write_other {tree : FileTree} {path other : String} {place : Place}
    (found : tree.placeForFile path = .ok place) (apart : tree.placeForFile other ≠ .ok place)
    (chunks : List ByteArray) : (tree.write other chunks).2.read path = tree.read path := by
  have foundAfter := (placeForFile_write tree other path chunks place).2 found
  exact read_congr foundAfter found (entry?_write_other apart chunks)

end FileTree
end AccessTrace
