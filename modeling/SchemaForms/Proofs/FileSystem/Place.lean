/-
Where paths lead. In a file system without links this is decided by the path alone: empty
parts and points stay where they are, two points go up, a name goes down, and all of it
begins at the root or in the working directory. So a path has a place before anything is
known about the entries (`Path.place`), and looking the path up either fails or ends at
that place.

The parts that lead somewhere are the steps of a path. What is said about paths as texts
becomes short in terms of steps: the paths on the way to a path have fewer of its steps
(`steps_of_mem_ancestors`), joining puts the steps of one path behind those of another
(`steps_join`), and a name stays below a directory when it has steps and all of them are
names (`staysBelow_iff`).
-/
import SchemaForms.FileSystem.Basic

set_option autoImplicit false

namespace SchemaForms

/-! ## Steps and places -/

/-- One step from a location: two points go up, everything else goes down. -/
def Location.advance (location : Location) (step : String) : Location :=
  if step = ".." then location.dropLast else location ++ [step]

/-- Several steps from a location. -/
def Location.follow (location : Location) (steps : List String) : Location :=
  steps.foldl Location.advance location

theorem Location.follow_append (location : Location) (steps others : List String) :
    location.follow (steps ++ others) = (location.follow steps).follow others :=
  List.foldl_append

/-- Names lead straight down. -/
theorem Location.follow_names {names : List String} (h : ".." ∉ names) (location : Location) :
    location.follow names = location ++ names := by
  induction names generalizing location with
  | nil => rw [follow, List.foldl_nil, List.append_nil]
  | cons name names ih =>
    rw [List.mem_cons, not_or] at h
    rw [follow, List.foldl_cons, advance, if_neg (Ne.symm h.1)]
    exact (ih h.2 _).trans (by rw [List.append_assoc, List.singleton_append])

namespace Path

/-- A part counts unless it is empty or a point. -/
theorem counts_iff {part : String} : counts part = true ↔ part ≠ "" ∧ part ≠ "." := by
  rw [counts, component?]
  split
  · rename_i h
    simp only [Option.isSome_none, Bool.false_eq_true, false_iff]
    exact fun hne => h.elim hne.1 hne.2
  · rename_i h
    rw [not_or] at h
    split
    · exact ⟨fun _ => h, fun _ => rfl⟩
    · exact ⟨fun _ => h, fun _ => rfl⟩

theorem counts_eq_false_iff {part : String} : counts part = false ↔ part = "" ∨ part = "." := by
  rw [← Bool.not_eq_true, counts_iff, ← not_or, Decidable.not_not]

/-- The parts that lead somewhere, in order. -/
def steps (path : Path) : List String :=
  path.parts.filter counts

/-- Where a path begins. -/
def origin (path : Path) (workingDirectory : Location) : Location :=
  if path.isAbsolute then [] else workingDirectory

/-- **Where a path leads.** -/
def place (path : Path) (workingDirectory : Location) : Location :=
  (path.origin workingDirectory).follow path.steps

theorem place_eq_follow {path other : Path} (h : other.isAbsolute = path.isAbsolute)
    (workingDirectory : Location) :
    other.place workingDirectory = (path.origin workingDirectory).follow other.steps := by
  rw [place, origin, origin, h]

/-! ## The paths on the way -/

theorem filter_counts_dropWhile (parts : List String) :
    (parts.dropWhile (!counts ·)).filter counts = parts.filter counts := by
  induction parts with
  | nil => rfl
  | cons part parts ih =>
    cases hpart : counts part with
    | false =>
      rw [List.dropWhile_cons_of_pos (by rw [hpart]; rfl), ih, List.filter_cons, hpart]
      rfl
    | true => rw [List.dropWhile_cons_of_neg (by rw [hpart]; decide)]

/-- Without its last counting part a list of parts has lost its last step. -/
theorem filter_counts_dropLastCounting (parts : List String) :
    (dropLastCounting parts).filter counts = (parts.filter counts).dropLast := by
  -- Seen from the end, where the last counting part is the first one.
  have htail : ∀ backwards : List String, ((backwards.dropWhile (!counts ·)).drop 1).filter counts =
      (backwards.filter counts).tail := by
    intro backwards
    rw [← filter_counts_dropWhile backwards]
    cases hcase : backwards.dropWhile (!counts ·) with
    | nil => rfl
    | cons part others =>
      have hcounts : counts part = true := by
        have hhead := List.head?_dropWhile_not (!counts ·) backwards
        rw [hcase] at hhead
        simpa using hhead
      rw [List.drop_one, List.tail_cons, List.filter_cons, if_pos hcounts, List.tail_cons]
  rw [dropLastCounting, List.filter_reverse, filter_counts_dropWhile, htail, List.filter_reverse,
    List.tail_reverse, List.reverse_reverse]

/-- The shortened parts stand at the beginning of the parts. -/
theorem dropLastCounting_isPrefix (parts : List String) : dropLastCounting parts <+: parts := by
  rw [dropLastCounting]
  refine List.reverse_suffix.1 ?_
  rw [List.reverse_reverse]
  exact (List.dropWhile_suffix _).trans ((List.drop_suffix _ _).trans (List.dropWhile_suffix _))

theorem isAbsolute_iff {path : Path} :
    path.isAbsolute = true ↔ ∃ second others, path.parts = "" :: second :: others := by
  rw [isAbsolute]
  split
  · rename_i second others heq
    exact ⟨fun _ => ⟨second, others, heq⟩, fun _ => rfl⟩
  · rename_i hother
    refine ⟨nofun, ?_⟩
    rintro ⟨second, others, heq⟩
    exact (hother _ _ heq).elim

/-- **A parent has the steps of the path but the last**, and begins where the path does. -/
theorem parent?_eq_some {path parent : Path} (h : path.parent? = some parent) :
    parent.steps = path.steps.dropLast ∧ parent.isAbsolute = path.isAbsolute := by
  rw [parent?] at h
  dsimp only at h
  split at h
  · -- The slash in front is kept, whatever is left behind it.
    rename_i habsolute
    obtain ⟨second, others, hparts⟩ := isAbsolute_iff.1 habsolute
    have hsteps : path.steps = path.parts.tail.filter counts := by
      rw [steps, hparts]
      rfl
    rw [habsolute, hsteps, ← filter_counts_dropLastCounting]
    split at h
    · cases h
    · split at h
      · rename_i hnil
        obtain rfl := Option.some.inj h
        rw [hnil]
        exact ⟨by decide, by decide⟩
      · rename_i hne
        obtain rfl := Option.some.inj h
        refine ⟨?_, ?_⟩
        · rw [steps, List.filter_cons]
          rfl
        · cases hcase : dropLastCounting path.parts.tail with
          | nil => exact (hne hcase).elim
          | cons part parts => rfl
  · rename_i hrelative
    rw [Bool.not_eq_true] at hrelative
    rw [hrelative]
    split at h
    · -- And so is a point in front; alone it gives way to the path without text.
      rename_i hpoint
      obtain ⟨others, hparts⟩ : ∃ others, path.parts = "." :: others :=
        List.head?_eq_some_iff.1 hpoint
      have hsteps : path.steps = path.parts.tail.filter counts := by
        rw [steps, hparts]
        rfl
      rw [hsteps, ← filter_counts_dropLastCounting]
      split at h
      · obtain rfl := Option.some.inj h
        exact ⟨by rw [steps, List.filter_cons]; rfl, rfl⟩
      · rename_i hnone
        obtain rfl := Option.some.inj h
        rw [filter_counts_dropLastCounting, List.filter_eq_nil_iff.2 fun part hpart hcounts =>
          hnone (List.any_eq_true.2 ⟨part, hpart, hcounts⟩)]
        exact ⟨by decide, by decide⟩
    · rw [steps, steps, ← filter_counts_dropLastCounting]
      split at h
      · cases h
      · split at h
        · rename_i hnil
          obtain rfl := Option.some.inj h
          rw [hnil]
          exact ⟨by decide, by decide⟩
        · obtain rfl := Option.some.inj h
          refine ⟨rfl, ?_⟩
          -- An absolute beginning would be one of the whole path.
          rw [Bool.eq_false_iff]
          intro habsolute
          obtain ⟨second, others, heq⟩ := isAbsolute_iff.1 habsolute
          obtain ⟨behind, hparts⟩ := dropLastCounting_isPrefix path.parts
          dsimp only at heq
          rw [heq] at hparts
          exact Bool.eq_false_iff.1 hrelative
            (isAbsolute_iff.2 ⟨second, others ++ behind, hparts.symm⟩)

/-- **What stands on the way to a path has a beginning of its steps.** -/
theorem steps_of_mem_ancestors {path other : Path} (h : other ∈ path.ancestors) :
    other.steps <+: path.steps ∧ other.isAbsolute = path.isAbsolute := by
  rw [ancestors] at h
  generalize path.parts.length + 1 = bound at h
  induction bound generalizing path with
  | zero => cases h
  | succ bound ih =>
    rw [chain] at h
    split at h
    · cases h
    · split at h
      · rename_i parent hparent
        obtain ⟨hsteps, habsolute⟩ := parent?_eq_some hparent
        rcases List.mem_cons.1 h with rfl | h
        · exact ⟨List.prefix_rfl, rfl⟩
        · obtain ⟨hbeginning, hkind⟩ := ih h
          exact ⟨hbeginning.trans (hsteps ▸ List.dropLast_prefix _), hkind.trans habsolute⟩
      · rw [List.mem_singleton] at h
        rw [h]
        exact ⟨List.prefix_rfl, rfl⟩

/-! ## Joining -/

theorem endsOpen_iff {path : Path} :
    path.endsOpen = true ↔ ∃ first others, path.parts = first :: others ++ [""] := by
  rw [endsOpen]
  split
  · rename_i second others heq
    refine ⟨fun _ => ?_, fun _ => rfl⟩
    have hparts : path.parts = (second :: others).reverse ++ [""] := by
      rw [← List.reverse_reverse path.parts, heq, List.reverse_cons (a := "")]
    cases hcase : (second :: others).reverse with
    | nil => exact absurd hcase (by simp)
    | cons first rest => exact ⟨first, rest, by rw [hparts, hcase]⟩
  · rename_i hother
    refine ⟨nofun, ?_⟩
    rintro ⟨first, others, heq⟩
    have hreverse : path.parts.reverse = "" :: (first :: others).reverse := by
      rw [heq, List.reverse_append]
      rfl
    cases hcase : (first :: others).reverse with
    | nil => exact absurd hcase (by simp)
    | cons second rest => exact (hother second rest (by rw [hreverse, hcase])).elim

/-- A path without text leads nowhere. -/
theorem isEmpty_spec {path : Path} (h : path.isEmpty = true) :
    path.steps = [] ∧ path.isAbsolute = false := by
  rw [isEmpty, Bool.and_eq_true, List.all_eq_true, decide_eq_true_eq] at h
  obtain ⟨hall, hlength⟩ := h
  refine ⟨List.filter_eq_nil_iff.2 fun part hpart => ?_, ?_⟩
  · rw [eq_of_beq (hall part hpart)]
    decide
  · rw [Bool.eq_false_iff]
    intro habsolute
    obtain ⟨second, others, hparts⟩ := isAbsolute_iff.1 habsolute
    rw [hparts] at hlength
    simp at hlength

/-- **Joining a relative path puts its steps behind those of the directory.** -/
theorem steps_join (directory : Path) {path : Path} (hrelative : path.isAbsolute = false)
    (hparts : path.parts ≠ []) :
    (directory.join path).steps = directory.steps ++ path.steps ∧
      (directory.join path).isAbsolute = directory.isAbsolute := by
  rw [join, hrelative, Bool.false_or]
  split
  · -- A directory without text adds nothing.
    rename_i hempty
    obtain ⟨hsteps, hkind⟩ := isEmpty_spec hempty
    exact ⟨by rw [hsteps, List.nil_append], by rw [hrelative, hkind]⟩
  · split
    · rename_i hopen
      obtain ⟨first, others, hdirectory⟩ := endsOpen_iff.1 hopen
      refine ⟨?_, ?_⟩
      · rw [steps, steps, hdirectory, List.dropLast_concat, List.filter_append, List.filter_append]
        exact congrArg (· ++ _) (List.append_nil _).symm
      · -- The slash that goes away is not the one that makes a path absolute.
        rw [Bool.eq_iff_iff, isAbsolute_iff, isAbsolute_iff, hdirectory, List.dropLast_concat]
        obtain ⟨part, parts, hcase⟩ := List.exists_cons_of_ne_nil hparts
        rw [hcase]
        cases others with
        | nil => simp
        | cons second others => simp
    · rename_i hnotEmpty _
      refine ⟨List.filter_append _ _, ?_⟩
      rw [Bool.eq_iff_iff, isAbsolute_iff, isAbsolute_iff]
      obtain ⟨part, parts, hcase⟩ := List.exists_cons_of_ne_nil hparts
      rw [hcase]
      -- One part alone can only be the empty one if the directory has no text.
      rw [Bool.not_eq_true, isEmpty] at hnotEmpty
      cases hdirectory : directory.parts with
      | nil => simp [hdirectory] at hnotEmpty
      | cons first others =>
        cases others with
        | nil => simpa [hdirectory] using hnotEmpty
        | cons second others => simp

/-! ## Names that stay below -/

theorem ofText_parts_ne_nil (s : String) : (ofText s).parts ≠ [] := by
  rw [ofText]
  exact fun h => Text.split_ne_nil '/' s.toList (List.map_eq_nil_iff.1 h)

/-- A step as a component. -/
def stepComponent (step : String) : Component :=
  if step = ".." then .up else .name step

theorem stepComponent_ne {step : String} (h : step ≠ "..") :
    stepComponent step = .name step :=
  if_neg h

theorem filterMap_component? (parts : List String) :
    parts.filterMap component? = (parts.filter counts).map stepComponent := by
  induction parts with
  | nil => rfl
  | cons part parts ih =>
    rw [List.filterMap_cons, List.filter_cons]
    cases hpart : counts part with
    | false =>
      rw [component?, if_pos (counts_eq_false_iff.1 hpart)]
      exact ih
    | true =>
      have hsome : component? part = some (stepComponent part) := by
        rw [component?, if_neg fun h => Bool.eq_false_iff.1 (counts_eq_false_iff.2 h) hpart,
          stepComponent]
        split <;> rfl
      rw [hsome, ih]
      rfl

/-- The components of a path are those of its steps; before them may stand the slash of an
absolute path or the point of another one. -/
theorem mem_components {path : Path} {component : Component} :
    component ∈ path.components ↔
      (component = .root ∧ path.isAbsolute = true) ∨
      (component = .here ∧ path.isAbsolute = false ∧ path.parts.head? = some ".") ∨
      ∃ step ∈ path.steps, stepComponent step = component := by
  rw [components, List.mem_append, filterMap_component?, List.mem_map, ← or_assoc]
  refine or_congr ?_ Iff.rfl
  cases path.isAbsolute with
  | true => simp
  | false =>
    by_cases hpoint : path.parts.head? = some "." <;> simp [hpoint]

/-- **A path stays below when it is relative, leads somewhere, and never goes up.** -/
theorem staysBelow_iff {path : Path} :
    path.staysBelow = true ↔ path.isAbsolute = false ∧ path.steps ≠ [] ∧ ".." ∉ path.steps := by
  rw [staysBelow, Bool.and_eq_true, List.any_eq_true, List.all_eq_true]
  constructor
  · rintro ⟨⟨component, hmem, hname⟩, hall⟩
    have hup : ".." ∉ path.steps := by
      intro hstep
      exact absurd (hall _ (mem_components.2 (.inr (.inr ⟨"..", hstep, rfl⟩)))) (by decide)
    refine ⟨?_, ?_, hup⟩
    · rw [Bool.eq_false_iff]
      intro habsolute
      exact absurd (hall .root (mem_components.2 (.inl ⟨rfl, habsolute⟩))) (by decide)
    · rcases mem_components.1 hmem with ⟨rfl, -⟩ | ⟨rfl, -⟩ | ⟨step, hstep, -⟩
      · cases hname
      · cases hname
      · exact List.ne_nil_of_mem hstep
  · rintro ⟨hrelative, hne, hup⟩
    have hnames : ∀ step ∈ path.steps, stepComponent step = .name step :=
      fun step hstep => stepComponent_ne fun heq => hup (heq ▸ hstep)
    obtain ⟨step, others, hcase⟩ := List.exists_cons_of_ne_nil hne
    have hstep : step ∈ path.steps := hcase ▸ List.mem_cons_self
    refine ⟨⟨.name step, mem_components.2 (.inr (.inr ⟨step, hstep, hnames step hstep⟩)), rfl⟩, ?_⟩
    intro component hmem
    rcases mem_components.1 hmem with ⟨-, habsolute⟩ | ⟨rfl, -⟩ | ⟨step, hstep, rfl⟩
    · rw [hrelative] at habsolute
      cases habsolute
    · rfl
    · rw [hnames step hstep]

end Path

/-! ## Looking up -/

namespace FileSystem

variable {fs : FileSystem} {path : Path}

theorem step_eq_ok {directory next : Location} {part : String}
    (h : fs.step directory part = .ok next) :
    next = if Path.counts part then directory.advance part else directory := by
  rw [step] at h
  split at h
  · rename_i hstays
    rw [Path.counts_eq_false_iff.2 hstays]
    exact (Except.ok.inj h).symm
  · rename_i hcounts
    rw [Path.counts_iff.2 (not_or.1 hcounts), if_pos rfl, Location.advance]
    split at h
    · rename_i hup
      rw [if_pos hup]
      exact (Except.ok.inj h).symm
    · rename_i hup
      rw [if_neg hup]
      split at h
      · cases h
      · split at h
        · cases h
        · cases h
        · exact (Except.ok.inj h).symm

/-- Going down part by part ends where the steps among the parts lead. -/
theorem walk_eq_ok {directory last : Location} {parts : List String}
    (h : fs.walk directory parts = .ok last) :
    last = directory.follow (parts.filter Path.counts) := by
  induction parts generalizing directory with
  | nil => exact (Except.ok.inj h).symm
  | cons part parts ih =>
    rw [walk] at h
    split at h
    · rename_i next hnext
      rw [ih h, step_eq_ok hnext, List.filter_cons]
      split <;> rfl
    · cases h

/-- Where a look-up ended. -/
def Spot.location : Spot → Location
  | .name parent last => parent ++ [last]
  | .directory here => here

/-- **A look-up that succeeds ends at the place of the path.** -/
theorem locate_eq_ok {spot : Spot} (h : fs.locate path = .ok spot) :
    spot.location = path.place fs.workingDirectory := by
  rw [locate] at h
  split at h
  · cases h
  split at h
  · cases h
  split at h
  · cases h
  dsimp only at h
  -- The empty parts are left out first, the points only while walking.
  have hsteps : path.steps = (path.parts.filter (· ≠ "")).filter Path.counts := by
    rw [List.filter_filter, Path.steps]
    refine List.filter_congr fun part _ => ?_
    cases hpart : Path.counts part with
    | false => rfl
    | true => simp [(Path.counts_iff.1 hpart).1]
  rw [Path.place, Path.origin, hsteps]
  split at h
  · rename_i hnone
    obtain rfl := Except.ok.inj h
    rw [List.getLast?_eq_none_iff.1 hnone]
    rfl
  · rename_i last hlast
    obtain ⟨parts, hparts⟩ := List.getLast?_eq_some_iff.1 hlast
    split at h
    · cases h
    · rename_i directory hwalk
      rw [hparts, List.dropLast_concat] at hwalk
      rw [hparts, List.filter_append, Location.follow_append, ← walk_eq_ok hwalk, List.filter_cons]
      split at h
      · rename_i hpoint
        obtain rfl := Except.ok.inj h
        rw [hpoint]
        rfl
      · rename_i hpoint
        have hcounts : Path.counts last = true := by
          refine Path.counts_iff.2 ⟨?_, hpoint⟩
          have hmem := List.mem_of_getLast? hlast
          simpa using (List.mem_filter.1 hmem).2
        rw [if_pos hcounts]
        split at h
        · rename_i hup
          obtain rfl := Except.ok.inj h
          rw [hup]
          rfl
        · rename_i hup
          obtain rfl := Except.ok.inj h
          exact (if_neg hup).symm

end FileSystem

end SchemaForms
