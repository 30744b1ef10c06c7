/-
What operations change. An operation that succeeds changes one entry, the one at the place
of its path: making a directory puts one where nothing was, and writing a file puts one
where no directory was. A refused operation and a look-up change nothing. So whatever a
program does, a file system goes through changes of these two kinds (`Changes`), and where
it makes directories and where it writes files is all one has to know about the program.

Two things are true of every row of changes. What is at none of these places stays as it
is. And a directory stays a directory, so that a path which could be followed can be
followed ever after (`Reaches.of_changes`); the content of a file can then be lost in one
way only, by writing at its place (`Changes.file`).

A program confines its changes when its parts do (`Confines.bind`), which takes the proof
through every program along its text.
-/
import Mathlib.Logic.Relation
import SchemaForms.Proofs.FileSystem.Place

set_option autoImplicit false

namespace SchemaForms

namespace FileSystem

variable {fs after : FileSystem} {path : Path} {location : Location}

/-! ## Entries -/

@[simp] theorem workingDirectory_put (fs : FileSystem) (location : Location) (entry : Entry) :
    (fs.put location entry).workingDirectory = fs.workingDirectory :=
  rfl

theorem entry?_put_self (h : location ≠ []) (entry : Entry) :
    entry? (fs.put location entry) location = some entry := by
  rw [ entry?, if_neg h, put, List.lookup_cons, beq_self_eq_true]

theorem entry?_put_of_ne {other : Location} (h : other ≠ location) (entry : Entry) :
    entry? (fs.put location entry) other = fs.entry? other := by
  have hothers : ∀ entries : List (Location × Entry),
      (entries.filter (·.1 ≠ location)).lookup other = entries.lookup other := by
    intro entries
    induction entries with
    | nil => rfl
    | cons first entries ih =>
      obtain ⟨place, entry⟩ := first
      by_cases hplace : place = location
      · rw [List.filter_cons_of_neg (by simpa using hplace), ih, List.lookup_cons,
          beq_eq_false_iff_ne.2 (hplace ▸ h)]
      · rw [List.filter_cons_of_pos (by simpa using hplace), List.lookup_cons, List.lookup_cons, ih]
  rw [ entry?, entry?, put, List.lookup_cons, beq_eq_false_iff_ne.2 h, hothers]

/-! ## Single operations -/

/-- The path can be followed up to a name, which can be that of a file. -/
def Reaches (fs : FileSystem) (path : Path) : Prop :=
  path.endsOpen = false ∧ ∃ directory name, fs.locate path = .ok (.name directory name) ∧
    name.utf8ByteSize ≤ longestName

/-- What looking a name up says about the entry. -/
theorem lookup_eq {directory : Location} {name : String} (h : name.utf8ByteSize ≤ longestName) :
    fs.lookup directory name =
      match fs.entry? (directory ++ [name]) with
      | some entry => .ok entry
      | none => .error .notFound := by
  rw [lookup]
  refine (if_neg (Nat.not_lt.2 h)).trans ?_
  cases fs.entry? (directory ++ [name]) <;> rfl

theorem lookup_of_long {directory : Location} {name : String}
    (h : ¬name.utf8ByteSize ≤ longestName) : fs.lookup directory name = .error .nameTooLong := by
  rw [lookup, if_pos (Nat.lt_of_not_le h)]

/-- **A file is read where its path leads.** -/
theorem read_eq_ok_iff {content : ByteArray} :
    fs.read path = .ok content ↔
      fs.Reaches path ∧ fs.entry? (path.place fs.workingDirectory) = some (.file content) := by
  rw [read]
  constructor
  · intro h
    split at h
    · cases h
    · cases h
    · -- In front of a name: what is read is the entry of that name.
      rename_i directory name hlocate
      have hplace : directory ++ [name] = path.place fs.workingDirectory := locate_eq_ok hlocate
      by_cases hshort : name.utf8ByteSize ≤ longestName
      · rw [lookup_eq hshort, hplace] at h
        cases hentry : fs.entry? (path.place fs.workingDirectory) with
        | none =>
          rw [hentry] at h
          cases h
        | some entry =>
          rw [hentry] at h
          cases entry with
          | directory => cases h
          | file old =>
            dsimp only at h
            split at h
            · cases h
            · rename_i hclosed
              obtain rfl := Except.ok.inj h
              exact ⟨⟨Bool.eq_false_iff.2 hclosed, directory, name, hlocate, hshort⟩, rfl⟩
      · rw [lookup_of_long hshort] at h
        cases h
  · rintro ⟨⟨hclosed, directory, name, hlocate, hshort⟩, hentry⟩
    have hplace : directory ++ [name] = path.place fs.workingDirectory := locate_eq_ok hlocate
    rw [hlocate]
    dsimp only
    rw [lookup_eq hshort, hplace, hentry]
    exact if_neg (Bool.eq_false_iff.1 hclosed)

/-- **Writing changes the entry at the place of the path**, which is no directory. -/
theorem write_eq_ok {content : ByteArray} (h : fs.write path content = .ok after) :
    fs.Reaches path ∧ fs.entry? (path.place fs.workingDirectory) ≠ some .directory ∧
      after = fs.put (path.place fs.workingDirectory) (.file content) := by
  rw [write] at h
  split at h
  · cases h
  · cases h
  · rename_i directory name hlocate
    have hplace : directory ++ [name] = path.place fs.workingDirectory := locate_eq_ok hlocate
    split at h
    · cases h
    · rename_i hclosed
      by_cases hshort : name.utf8ByteSize ≤ longestName
      · rw [lookup_eq hshort, hplace] at h
        refine ⟨⟨Bool.eq_false_iff.2 hclosed, directory, name, hlocate, hshort⟩, ?_⟩
        cases hentry : fs.entry? (path.place fs.workingDirectory) with
        | none =>
          rw [hentry] at h
          exact ⟨nofun, (Except.ok.inj h).symm⟩
        | some entry =>
          rw [hentry] at h
          cases entry with
          | directory => cases h
          | file old => exact ⟨nofun, (Except.ok.inj h).symm⟩
      · rw [lookup_of_long hshort] at h
        cases h

/-- **Making a directory puts one at the place of the path**, where nothing was. -/
theorem makeDirectory_eq_ok (h : fs.makeDirectory path = .ok after) :
    fs.entry? (path.place fs.workingDirectory) = none ∧
      after = fs.put (path.place fs.workingDirectory) .directory := by
  rw [makeDirectory] at h
  split at h
  · cases h
  · cases h
  · rename_i directory name hlocate
    have hplace : directory ++ [name] = path.place fs.workingDirectory := locate_eq_ok hlocate
    by_cases hshort : name.utf8ByteSize ≤ longestName
    · rw [lookup_eq hshort, hplace] at h
      cases hentry : fs.entry? (path.place fs.workingDirectory) with
      | none =>
        rw [hentry] at h
        exact ⟨rfl, (Except.ok.inj h).symm⟩
      | some entry =>
        rw [hentry] at h
        cases h
    · rw [lookup_of_long hshort] at h
      cases h

/-! ## Rows of changes -/

/-- One change: a directory is made at a place of the first kind, or a file is written at
one of the second. -/
inductive Change (made written : Location → Prop) : FileSystem → FileSystem → Prop where
  | make {fs : FileSystem} {location : Location} (place : made location)
      (free : fs.entry? location = none) : Change made written fs (fs.put location .directory)
  | write {fs : FileSystem} {location : Location} (place : written location)
      (content : ByteArray) (free : fs.entry? location ≠ some .directory) :
      Change made written fs (fs.put location (.file content))

/-- Any number of changes. -/
abbrev Changes (made written : Location → Prop) : FileSystem → FileSystem → Prop :=
  Relation.ReflTransGen (Change made written)

section

variable {made written : Location → Prop}

theorem Change.workingDirectory (h : Change made written fs after) :
    after.workingDirectory = fs.workingDirectory := by
  cases h <;> rfl

/-- The root is a directory, so nothing is ever put there. -/
theorem ne_nil_of_free (h : fs.entry? location ≠ some .directory) : location ≠ [] := by
  rintro rfl
  exact h rfl

/-- A directory stays a directory. -/
theorem Change.directory (h : Change made written fs after)
    (hdirectory : fs.entry? location = some .directory) :
    after.entry? location = some .directory := by
  cases h with
  | make place free =>
    rw [entry?_put_of_ne, hdirectory]
    rintro rfl
    rw [free] at hdirectory
    cases hdirectory
  | write place content free =>
    rw [entry?_put_of_ne, hdirectory]
    rintro rfl
    exact free hdirectory

/-- A file stays as it is unless one is written at its place. -/
theorem Change.file {content : ByteArray} (h : Change made written fs after)
    (hplace : ¬written location) (hfile : fs.entry? location = some (.file content)) :
    after.entry? location = some (.file content) := by
  cases h with
  | make place free =>
    rw [entry?_put_of_ne, hfile]
    rintro rfl
    rw [free] at hfile
    cases hfile
  | write place content free =>
    rw [entry?_put_of_ne, hfile]
    rintro rfl
    exact hplace place

theorem Change.elsewhere (h : Change made written fs after) (hmade : ¬made location)
    (hwritten : ¬written location) : after.entry? location = fs.entry? location := by
  cases h with
  | make place free =>
    refine entry?_put_of_ne ?_ _
    rintro rfl
    exact hmade place
  | write place content free =>
    refine entry?_put_of_ne ?_ _
    rintro rfl
    exact hwritten place

theorem Changes.workingDirectory (h : Changes made written fs after) :
    after.workingDirectory = fs.workingDirectory := by
  induction h with
  | refl => rfl
  | tail _ last ih => exact last.workingDirectory.trans ih

theorem Changes.directory (h : Changes made written fs after)
    (hdirectory : fs.entry? location = some .directory) :
    after.entry? location = some .directory := by
  induction h with
  | refl => exact hdirectory
  | tail _ last ih => exact last.directory ih

theorem Changes.file {content : ByteArray} (h : Changes made written fs after)
    (hplace : ¬written location) (hfile : fs.entry? location = some (.file content)) :
    after.entry? location = some (.file content) := by
  induction h with
  | refl => exact hfile
  | tail _ last ih => exact last.file hplace ih

/-- **What is at none of the places stays as it is.** -/
theorem Changes.elsewhere (h : Changes made written fs after) (hmade : ¬made location)
    (hwritten : ¬written location) : after.entry? location = fs.entry? location := by
  induction h with
  | refl => rfl
  | tail _ last ih => exact (last.elsewhere hmade hwritten).trans ih

/-! ## Paths after changes -/

theorem step_of_changes (h : Changes made written fs after) {directory next : Location}
    {part : String} (hstep : fs.step directory part = .ok next) :
    after.step directory part = .ok next := by
  -- Only going down to a name looks at the entries, and there it meets a directory.
  rw [step] at hstep ⊢
  split
  · rename_i hstays
    rwa [if_pos hstays] at hstep
  · rename_i hmoves
    rw [if_neg hmoves] at hstep
    split
    · rename_i hup
      rwa [if_pos hup] at hstep
    · rename_i hdown
      rw [if_neg hdown] at hstep
      split
      · rename_i hlong
        rwa [if_pos hlong] at hstep
      · rename_i hshort
        rw [if_neg hshort] at hstep
        cases hentry : fs.entry? (directory ++ [part]) with
        | none =>
          rw [hentry] at hstep
          cases hstep
        | some entry =>
          rw [hentry] at hstep
          cases entry with
          | file content => cases hstep
          | directory =>
            rw [h.directory hentry]
            exact hstep

theorem walk_of_changes (h : Changes made written fs after) {directory last : Location}
    {parts : List String} (hwalk : fs.walk directory parts = .ok last) :
    after.walk directory parts = .ok last := by
  induction parts generalizing directory with
  | nil => exact hwalk
  | cons part parts ih =>
    rw [walk] at hwalk ⊢
    split at hwalk
    · rename_i next hstep
      rw [step_of_changes h hstep]
      exact ih hwalk
    · cases hwalk

theorem locate_of_changes (h : Changes made written fs after) {spot : Spot}
    (hlocate : fs.locate path = .ok spot) : after.locate path = .ok spot := by
  rw [locate] at hlocate ⊢
  split
  · rename_i hnul
    rwa [if_pos hnul] at hlocate
  · rename_i hnul
    rw [if_neg hnul] at hlocate
    split
    · rename_i hempty
      rwa [if_pos hempty] at hlocate
    · rename_i hempty
      rw [if_neg hempty] at hlocate
      split
      · rename_i hlong
        rwa [if_pos hlong] at hlocate
      · rename_i hlong
        rw [if_neg hlong] at hlocate
        dsimp only at hlocate ⊢
        rw [h.workingDirectory]
        split
        · rename_i hnone
          rwa [hnone] at hlocate
        · rename_i last hlast
          rw [hlast] at hlocate
          dsimp only at hlocate
          split at hlocate
          · cases hlocate
          · rename_i directory hwalk
            rw [walk_of_changes h hwalk]
            exact hlocate

theorem Reaches.of_changes (hreaches : fs.Reaches path) (h : Changes made written fs after) :
    after.Reaches path := by
  obtain ⟨hclosed, directory, name, hlocate, hshort⟩ := hreaches
  exact ⟨hclosed, directory, name, locate_of_changes h hlocate, hshort⟩

end

/-! ## Programs -/

/-- A run of two programs in a row is a run of the first and then one of the second. -/
theorem run_bind_eq {α β : Type} {first : StateM FileSystem α} {next : α → StateM FileSystem β}
    {fs : FileSystem} {outcome : β × FileSystem} (h : (first >>= next).run fs = outcome) :
    ∃ a between, first.run fs = (a, between) ∧ (next a).run between = outcome :=
  ⟨_, _, rfl, h⟩

theorem run_bind_of_eq {α β : Type} {first : StateM FileSystem α} {next : α → StateM FileSystem β}
    {fs between : FileSystem} {a : α} (h : first.run fs = (a, between)) :
    (first >>= next).run fs = (next a).run between := by
  rw [StateT.run_bind, h]
  rfl

theorem run_write_eq {fs after : FileSystem} {path : Path} {content : ByteArray}
    {result : Except OsError Unit}
    (h : (Files.write path content : StateM FileSystem _).run fs = (result, after)) :
    (result = .ok () ∧ fs.write path content = .ok after) ∨
      ∃ e, result = .error e ∧ after = fs := by
  change tryTo (·.write path content) fs = _ at h
  rw [tryTo] at h
  split at h
  · rename_i written hwrite
    obtain ⟨rfl, rfl⟩ := Prod.mk.inj h
    exact .inl ⟨rfl, hwrite⟩
  · obtain ⟨rfl, rfl⟩ := Prod.mk.inj h
    exact .inr ⟨_, rfl, rfl⟩

section

variable {made written : Location → Prop} {workingDirectory : Location} {α β : Type}

/-- Whatever the program does, begun in the working directory, is a row of changes of the
two kinds. -/
def Confines (made written : Location → Prop) (workingDirectory : Location)
    (program : StateM FileSystem α) : Prop :=
  ∀ fs : FileSystem, fs.workingDirectory = workingDirectory →
    Changes made written fs (program.run fs).2

theorem Confines.pure (a : α) :
    Confines made written workingDirectory (Pure.pure a : StateM FileSystem α) :=
  fun _ _ => .refl

/-- **A program confines its changes when its parts do.** -/
theorem Confines.bind {first : StateM FileSystem α} {next : α → StateM FileSystem β}
    (hfirst : Confines made written workingDirectory first)
    (hnext : ∀ a, Confines made written workingDirectory (next a)) :
    Confines made written workingDirectory (first >>= next) := by
  intro fs hfs
  have hchanges := hfirst fs hfs
  exact hchanges.trans (hnext _ _ (hchanges.workingDirectory.trans hfs))

theorem Confines.changes {fs after : FileSystem} {program : StateM FileSystem α} {result : α}
    (h : Confines made written fs.workingDirectory program)
    (hrun : program.run fs = (result, after)) : Changes made written fs after := by
  have hchanges := h fs rfl
  rwa [hrun] at hchanges

theorem confines_read (path : Path) :
    Confines made written workingDirectory (Files.read path : StateM FileSystem _) :=
  fun _ _ => .refl

theorem confines_write {path : Path} (hplace : written (path.place workingDirectory))
    (content : ByteArray) :
    Confines made written workingDirectory (Files.write path content : StateM FileSystem _) := by
  intro fs hfs
  change Changes made written fs (tryTo (·.write path content) fs).2
  rw [tryTo]
  split
  · rename_i after hwrite
    obtain ⟨-, hfree, rfl⟩ := write_eq_ok hwrite
    rw [hfs] at hfree ⊢
    exact .single (.write hplace content hfree)
  · exact .refl

theorem confines_makeDirectory {path : Path} (hplace : made (path.place workingDirectory)) :
    Confines made written workingDirectory (Files.makeDirectory path : StateM FileSystem _) := by
  intro fs hfs
  change Changes made written fs (tryTo (·.makeDirectory path) fs).2
  rw [tryTo]
  split
  · rename_i after hmake
    obtain ⟨hfree, rfl⟩ := makeDirectory_eq_ok hmake
    rw [hfs] at hfree ⊢
    exact .single (.make hplace hfree)
  · exact .refl

theorem confines_isDirectory (path : Path) :
    Confines made written workingDirectory (Files.isDirectory path : StateM FileSystem _) := by
  refine (confines_read path).bind fun result => ?_
  split
  · exact .pure _
  · exact .pure _

theorem confines_ensureDirectory {path : Path} (hplace : made (path.place workingDirectory)) :
    Confines made written workingDirectory
      (Files.ensureDirectory path : StateM FileSystem _) := by
  refine (confines_makeDirectory hplace).bind fun result => ?_
  split
  · exact .pure _
  · refine (confines_isDirectory path).bind fun isThere => ?_
    split
    · exact .pure _
    · exact .pure _

theorem confines_ensureChain {paths : List Path}
    (hplaces : ∀ path ∈ paths, made (path.place workingDirectory)) :
    Confines made written workingDirectory (Files.ensureChain paths : StateM FileSystem _) := by
  induction paths with
  | nil => exact .pure _
  | cons path above ih =>
    have hpath : Confines made written workingDirectory
        (Files.ensureDirectory path : StateM FileSystem _) :=
      confines_ensureDirectory (hplaces path List.mem_cons_self)
    -- The directory is tried once more after the ones above it have been made.
    refine hpath.bind fun result => ?_
    split
    · refine (ih fun other hother => hplaces other (List.mem_cons_of_mem _ hother)).bind
        fun result => ?_
      split
      · exact hpath
      · exact .pure _
    · exact .pure _

/-- **Making a directory with those on the way changes nothing but these.** -/
theorem confines_ensureDirectories {path : Path}
    (hplaces : ∀ other ∈ path.ancestors, made (other.place workingDirectory)) :
    Confines made written workingDirectory
      (Files.ensureDirectories path : StateM FileSystem _) :=
  confines_ensureChain hplaces

end

end FileSystem

end SchemaForms
