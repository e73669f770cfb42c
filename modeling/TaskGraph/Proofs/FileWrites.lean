import TaskGraph.Artifact
import TaskGraph.Compiler.Compile
set_option autoImplicit false

/-! Writing artifacts into trees of files. Making directories leaves everything as it stands, and
what leads through directories leads to the same place when more stands elsewhere. So a written
artifact is found where it was written, every other file is as it was, and an artifact without a
text leaves no trace. -/

namespace TaskGraph

namespace FileTree

/-! ### One entry -/

theorem lookup_replaced_self {entries : List (Location × Entry)} {place : Location} (entry : Entry)
    (present : ∃ old ∈ entries, old.1 = place) :
    (entries.map fun old => if old.1 = place then (place, entry) else old).lookup place =
      some entry := by
  induction entries with
  | nil =>
      obtain ⟨old, member, _⟩ := present
      cases member
  | cons first rest ih =>
      by_cases here : first.1 = place
      · rw [List.map_cons, if_pos here, List.lookup_cons_self]
      · have later : ∃ old ∈ rest, old.1 = place := by
          obtain ⟨old, member, same⟩ := present
          rcases List.mem_cons.mp member with isFirst | isLater
          · exact absurd (isFirst ▸ same) here
          · exact ⟨old, isLater, same⟩
        rw [List.map_cons, if_neg here, List.lookup_cons, beq_eq_false_iff_ne.mpr (Ne.symm here)]
        exact ih later

theorem lookup_replaced_of_ne {entries : List (Location × Entry)} {place other : Location}
    (entry : Entry) (different : other ≠ place) :
    (entries.map fun old => if old.1 = place then (place, entry) else old).lookup other =
      entries.lookup other := by
  induction entries with
  | nil => rfl
  | cons first rest ih =>
      by_cases here : first.1 = place
      · have notFirst : other ≠ first.1 := fun same => different (same.trans here)
        rw [List.map_cons, if_pos here, List.lookup_cons, List.lookup_cons,
          beq_eq_false_iff_ne.mpr different, beq_eq_false_iff_ne.mpr notFirst]
        exact ih
      · rw [List.map_cons, if_neg here, List.lookup_cons, List.lookup_cons, ih]

theorem entry?_putAt_self {tree : FileTree} {place : Location} (named : place.names ≠ [])
    (entry : Entry) :
    entry? (tree.putAt place entry) place = some entry := by
  have notBase : ¬place.names.isEmpty = true := fun empty => named (List.isEmpty_iff.mp empty)
  rw [ entry?, if_neg notBase, putAt]
  split
  · rename_i present
    refine lookup_replaced_self entry ?_
    simpa using present
  · rename_i absent
    have fresh : tree.entries.lookup place = none := by
      rw [List.lookup_eq_none_iff]
      intro old member
      apply bne_iff_ne.mpr
      intro same
      exact absent (List.any_eq_true.mpr ⟨old, member, decide_eq_true same.symm⟩)
    rw [List.lookup_append, fresh, Option.none_or, List.lookup_cons_self]

theorem entry?_putAt_of_ne {tree : FileTree} {place other : Location} (different : other ≠ place)
    (entry : Entry) :
    entry? (tree.putAt place entry) other = tree.entry? other := by
  unfold entry?
  split
  · rfl
  · rw [putAt]
    split
    · exact lookup_replaced_of_ne entry different
    · have notHere : [(place, entry)].lookup other = none := by
        rw [List.lookup_cons, beq_eq_false_iff_ne.mpr different]
        rfl
      rw [List.lookup_append, notHere, Option.or_none]

theorem names_ne_nil_of_not_directory {tree : FileTree} {place : Location}
    (notDirectory : tree.entry? place ≠ some .directory) : place.names ≠ [] := by
  intro base
  rw [ entry?, base] at notDirectory
  exact notDirectory rfl

/-! ### Directories -/

/-- Whether a tree has everything that an older one has and, beside it, directories only. -/
structure Grows (old new : FileTree) : Prop where
  kept : ∀ place entry, old.entry? place = some entry → new.entry? place = some entry
  files : ∀ place content, new.entry? place = some (.file content) →
    old.entry? place = some (.file content)

theorem Grows.refl (tree : FileTree) : Grows tree tree :=
  ⟨fun _ _ found => found, fun _ _ found => found⟩

theorem Grows.trans {first second third : FileTree} (before : Grows first second)
    (after : Grows second third) :
    Grows first third :=
  ⟨fun place entry found => after.kept place entry (before.kept place entry found),
    fun place content found => before.files place content (after.files place content found)⟩

theorem grows_putAt {tree : FileTree} {place : Location} (free : tree.entry? place = none) :
    Grows tree (tree.putAt place .directory) := by
  have named : place.names ≠ [] :=
    names_ne_nil_of_not_directory (by rw [free]; exact fun same => by cases same)
  constructor
  · intro other entry found
    have different : other ≠ place := by
      intro same
      rw [same, free] at found
      cases found
    rw [entry?_putAt_of_ne different]
    exact found
  · intro other content found
    by_cases same : other = place
    · rw [same, entry?_putAt_self named] at found
      cases found
    · rw [entry?_putAt_of_ne same] at found
      exact found

theorem grows_of_makeDirectory {tree new : FileTree} {path : Path}
    (made : tree.makeDirectory path = .ok new) :
    Grows tree new := by
  unfold makeDirectory at made
  split at made
  · cases made
  · rename_i place _
    split at made
    · cases made
      exact Grows.refl tree
    · cases made
    · rename_i free
      cases made
      exact grows_putAt free

/-- Whether making directories succeeds or not, nothing is lost, and only directories are new. -/
theorem grows_makeDirectories (tree : FileTree) (root : String) (parts : List String) :
    Grows tree (tree.makeDirectories root parts).1 := by
  induction parts with
  | nil => exact Grows.refl tree
  | cons part above ih =>
      rw [makeDirectories]
      split
      · rename_i new made
        exact grows_of_makeDirectory made
      · split
        · rename_i between _ found
          rw [found] at ih
          exact ih
        · rename_i between found
          rw [found] at ih
          split
          · rename_i new made
            exact ih.trans (grows_of_makeDirectory made)
          · exact ih
      · exact Grows.refl tree

/-! ### Paths -/

/-- A place that is reached through directories is reached in
every tree that has these directories. -/
theorem follow_of_directories {old new : FileTree}
    (directories : ∀ place, old.entry? place = some .directory → new.entry? place = some .directory)
    {place target : Location} {parts : List String}
    (reached : old.follow place parts = .ok target) :
    new.follow place parts = .ok target := by
  induction parts generalizing place with
  | nil => exact reached
  | cons part rest ih =>
      rw [follow] at reached ⊢
      split at reached
      · rename_i isDirectory
        rw [directories place isDirectory]
        dsimp only
        split at reached
        · cases reached
        · rename_i short
          rw [if_neg short]
          exact ih reached
      · cases reached
      · cases reached

theorem locate_of_directories {old new : FileTree}
    (directories : ∀ place, old.entry? place = some .directory → new.entry? place = some .directory)
    {path : Path} {target : Location} (reached : old.locate path = .ok target) :
    new.locate path = .ok target := by
  unfold locate at reached ⊢
  split at reached
  · cases reached
  · rename_i whole
    rw [if_neg whole]
    split at reached
    · cases reached
    · rename_i short
      rw [if_neg short]
      exact follow_of_directories directories reached

/-! ### Files -/

/-- What it means that a file was written at a place of a tree: its content stands there, and at all
other places stands what stood there before, with no other file added. -/
structure Written (old new : FileTree) (place : Location) (content : List UInt8) : Prop where
  here : new.entry? place = some (.file content)
  kept : ∀ other entry, other ≠ place → old.entry? other = some entry →
    new.entry? other = some entry
  files : ∀ other found, other ≠ place → new.entry? other = some (.file found) →
    old.entry? other = some (.file found)

theorem exists_of_writeAt {tree new : FileTree} {path : Path} {content : List UInt8}
    (wrote : tree.writeAt path content = .ok new) :
    ∃ place, new.locate path = .ok place ∧ Written tree new place content := by
  unfold writeAt at wrote
  split at wrote
  · cases wrote
  · rename_i place reached
    split at wrote
    · cases wrote
    · rename_i notDirectory
      cases wrote
      have named := names_ne_nil_of_not_directory notDirectory
      have elsewhere (other : Location) (different : other ≠ place) :
          entry? (tree.putAt place (.file content)) other = tree.entry? other :=
            entry?_putAt_of_ne different _
      refine ⟨place, locate_of_directories ?directories reached, entry?_putAt_self named _,
        ?kept, ?files⟩
      case directories =>
        -- The place of the file is no directory, so no directory on the way to it is lost.
        intro other isDirectory
        rw [elsewhere other fun same => notDirectory (same ▸ isDirectory)]
        exact isDirectory
      case kept =>
        intro other entry different found
        rw [elsewhere other different]
        exact found
      case files =>
        intro other found different isFile
        rw [elsewhere other different] at isFile
        exact isFile

theorem exists_of_write {tree new : FileTree} {path : Path} {content : List UInt8}
    (wrote : tree.write path content = (new, .ok ())) :
    ∃ place, new.locate path = .ok place ∧ Written tree new place content := by
  unfold write at wrote
  have grown : Grows tree (tree.makePath path.parent).1 := grows_makeDirectories tree _ _
  split at wrote
  · cases wrote
  · rename_i between made
    rw [made] at grown
    split at wrote
    · cases wrote
    · rename_i last written
      cases wrote
      obtain ⟨place, reached, file⟩ := exists_of_writeAt written
      exact ⟨place, reached, file.here,
        fun other entry different found =>
          file.kept other entry different (grown.kept other entry found),
        fun other found different isFile =>
          grown.files other found (file.files other found different isFile)⟩

end FileTree

namespace Artifact

/-- An artifact without a text leaves the tree of files as it was. An artifact that was written
stands where its path leads, as its text and the end of the last line, and all other files are as
they were. -/
theorem write_all_or_nothing (tree : FileTree) (path : Path) (workflow : Workflow)
    (contract : Contract) :
    (∀ cause, render workflow contract = .error cause →
        write tree path workflow contract = (tree, .error cause)) ∧
      ∀ new name, write tree path workflow contract = (new, .ok name) →
        name = path.text ∧ ∃ text, render workflow contract = .ok text ∧
          ∃ place, new.locate path = .ok place ∧
            FileTree.Written tree new place (Text.encodeUtf8 (text ++ ['\n'])) := by
  constructor
  · intro cause failed
    rw [write, failed]
  · intro new name wrote
    unfold write at wrote
    cases rendered : render workflow contract with
    | error cause =>
        rw [rendered] at wrote
        cases wrote
    | ok text =>
        rw [rendered] at wrote
        dsimp only at wrote
        split at wrote
        · cases wrote
        · rename_i last stored
          cases wrote
          exact ⟨rfl, text, rfl, FileTree.exists_of_write stored⟩

def printing : Value := .ofFields [("+print", .ofFields [("sh>", .text "lp")])]

def owned : Contract := .custom (.ofFields [("required", .list [.text "owner"])])

def shelf : FileTree := ⟨[(⟨.above 0, ["printing.json"]⟩, .file [0x31])]⟩

theorem write_all_or_nothing_printing :
    ∃ workflow, (Compiler.compileValue (.text "printing") printing).result = .ok workflow ∧
      (∃ cause, render workflow owned = .error cause ∧
        write shelf ⟨"", ["printing.json"]⟩ workflow owned = (shelf, .error cause)) ∧
      ∃ new name, write shelf ⟨"", ["out", "printing.json"]⟩ workflow .builtIn = (new, .ok name) ∧
        name = "out/printing.json" ∧ ∃ text, render workflow .builtIn = .ok text ∧
          ∃ place, new.locate ⟨"", ["out", "printing.json"]⟩ = .ok place ∧
            FileTree.Written shelf new place (Text.encodeUtf8 (text ++ ['\n'])) := by
  obtain ⟨workflow, compiled, violates, stores⟩ : ∃ workflow,
      (Compiler.compileValue (.text "printing") printing).result = .ok workflow ∧
        (render workflow owned).isOk = false ∧
          (write shelf ⟨"", ["out", "printing.json"]⟩ workflow .builtIn).2.isOk = true :=
    ⟨_, rfl, by decide +kernel, by decide +kernel⟩
  obtain ⟨cause, refused⟩ : ∃ cause, render workflow owned = .error cause := by
    cases rendered : render workflow owned with
    | error cause => exact ⟨cause, rfl⟩
    | ok text =>
        rw [rendered] at violates
        cases violates
  obtain ⟨new, name, wrote⟩ : ∃ new name,
      write shelf ⟨"", ["out", "printing.json"]⟩ workflow .builtIn = (new, .ok name) := by
    cases written : write shelf ⟨"", ["out", "printing.json"]⟩ workflow .builtIn with
    | mk new result =>
        rw [written] at stores
        cases result with
        | error cause => cases stores
        | ok name => exact ⟨new, name, rfl⟩
  refine ⟨workflow, compiled, ⟨cause, refused, ?_⟩, new, name, wrote, ?_⟩
  · exact (write_all_or_nothing shelf ⟨"", ["printing.json"]⟩ workflow owned).1 cause refused
  · exact (write_all_or_nothing shelf _ workflow .builtIn).2 new name wrote

end Artifact
end TaskGraph
