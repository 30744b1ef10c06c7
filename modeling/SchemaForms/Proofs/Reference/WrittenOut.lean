/-
References written out by hand. Where a reference stands one may as well put a copy of what
it names, references and all; the document stays the same document. That is one step, and
any number of them, in any order, leave the expansion as it was
(`inlineReferences_of_writesOut`).

The argument compares two expansions, each against its own root. A value and its rewritten
form have the same kind at every place that is reached without going into a reference, so
whatever names such a place in the one root names its counterpart in the other
(`WrittenOut.reach?`). Two things could spoil this, and both are named in the statement. A
pointer may lead into the members beside a `$ref`, which are gone once the reference is
written out. And the text that a reference names may come to stand under a `$ref` itself,
which makes a reference of the object around it: there the statement fails
(`doubled_written_out`).
-/
import Mathlib.Logic.Relation
import SchemaForms.Proofs.Reference.Leftover

set_option autoImplicit false

namespace SchemaForms.Json

variable {root root' : Json}

/-! ## Where references point -/

/-- The place that a reference names, if it has the form of one into the same value. -/
def place? (reference : String) : Option (List (List Char)) :=
  match reference.toList with
  | '#' :: pointer => pointerTokens? pointer
  | _ => none

theorem target_eq_ok_iff_place {reference : String} {value : Json} :
    root.target reference = .ok value ↔
      ∃ place, place? reference = some place ∧ descend? place root = some value := by
  rw [target_eq_ok_iff]
  constructor
  · intro h
    obtain ⟨pointer, hreference, hpointer⟩ := h
    unfold pointer? at hpointer
    split at hpointer
    · rename_i place hplace
      refine ⟨place, ?_, hpointer⟩
      rw [place?, hreference]
      exact hplace
    · cases hpointer
  · intro h
    obtain ⟨place, hplace, hvalue⟩ := h
    unfold place? at hplace
    split at hplace
    · rename_i pointer hreference
      refine ⟨pointer, hreference, ?_⟩
      rw [pointer?, hplace]
      exact hvalue
    · cases hplace

/-- The reference does not lead strictly inside another one: if there is a value where it
points, then no reference is gone into on the way. -/
def EntersNoReference (root : Json) (reference : String) : Prop :=
  ∀ place value, place? reference = some place → descend? place root = some value →
    reach? place root = some value

theorem descend?_of_reach? {place : List (List Char)} {value below : Json}
    (h : reach? place value = some below) : descend? place value = some below := by
  induction place generalizing value with
  | nil => exact h
  | cons token rest ih =>
    rw [reach?] at h
    split at h
    · cases h
    · split at h
      · rename_i next hnext
        rw [descend?, hnext]
        exact ih h
      · cases h

/-! ## Putting a value in the place of another -/

/-- The value with the part one step down replaced. -/
def setChild (token : List Char) (new : Json) : Json → Json
  | object members => object (Keyed.put members (String.ofList token) new)
  | array items => array (((tokenIndex? token).map (items.set · new)).getD items)
  | scalar => scalar

/-- The value with the part at a place replaced; a place that it does not have changes
nothing. -/
def replaceAt : List (List Char) → Json → Json → Json
  | [], _, new => new
  | token :: rest, value, new =>
    match child? token value with
    | some below => setChild token (replaceAt rest below new) value
    | none => value

/-- One reference is written out: it is reached without going into another, and what it
names is put in its place. A text is not put under a `$ref`, where it would make a
reference of the object around it. -/
inductive WritesOut (root : Json) : Json → Prop where
  | step {place : List (List Char)} {members : List (String × Json)} {reference : String}
      {target : Json} (hplace : reach? place root = some (.object members))
      (href : referenceOf? members = some reference)
      (htarget : root.target reference = .ok target)
      (hkind : place.getLast? = some "$ref".toList → ∀ text, target ≠ .string text) :
      WritesOut root (root.replaceAt place target)

/-! ## A value with references written out -/

mutual

/-- The second value is the first with some references written out: each stands for what it
names in the root. No object becomes a reference by that. -/
inductive WrittenOut (root : Json) : Json → Json → Prop where
  | same (value : Json) : WrittenOut root value value
  | reference {members : List (String × Json)} {reference : String} {target : Json}
      (href : referenceOf? members = some reference)
      (htarget : root.target reference = .ok target) : WrittenOut root (.object members) target
  | array {items others : List Json} (h : WrittenOutItems root items others) :
      WrittenOut root (.array items) (.array others)
  | object {members others : List (String × Json)} (plain : referenceOf? members = none)
      (stays : referenceOf? others = none) (h : WrittenOutMembers root members others) :
      WrittenOut root (.object members) (.object others)

inductive WrittenOutItems (root : Json) : List Json → List Json → Prop where
  | nil : WrittenOutItems root [] []
  | cons {item other : Json} {items others : List Json} (first : WrittenOut root item other)
      (rest : WrittenOutItems root items others) :
      WrittenOutItems root (item :: items) (other :: others)

inductive WrittenOutMembers (root : Json) :
    List (String × Json) → List (String × Json) → Prop where
  | nil : WrittenOutMembers root [] []
  | cons {key : String} {value other : Json} {members others : List (String × Json)}
      (first : WrittenOut root value other) (rest : WrittenOutMembers root members others) :
      WrittenOutMembers root ((key, value) :: members) ((key, other) :: others)

end

theorem WrittenOutItems.refl (items : List Json) : WrittenOutItems root items items := by
  induction items with
  | nil => exact .nil
  | cons item rest ih => exact .cons (.same item) ih

theorem WrittenOutMembers.refl (members : List (String × Json)) :
    WrittenOutMembers root members members := by
  induction members with
  | nil => exact .nil
  | cons member rest ih => exact .cons (.same member.2) ih

theorem WrittenOutItems.getElem? {items others : List Json}
    (h : WrittenOutItems root items others) {index : Nat} {item : Json}
    (hitem : items[index]? = some item) :
    ∃ other, others[index]? = some other ∧ WrittenOut root item other := by
  induction items generalizing others index with
  | nil => cases hitem
  | cons first items ih =>
    cases h with
    | @cons _ other _ _ hfirst hrest =>
      cases index with
      | zero =>
        obtain rfl := Option.some.inj hitem
        exact ⟨other, rfl, hfirst⟩
      | succ index => exact ih hrest hitem

theorem WrittenOutMembers.get? {members others : List (String × Json)}
    (h : WrittenOutMembers root members others) {key : String} {value : Json}
    (hvalue : Keyed.get? members key = some value) :
    ∃ other, Keyed.get? others key = some other ∧ WrittenOut root value other := by
  induction members generalizing others with
  | nil => cases hvalue
  | cons member members ih =>
    cases h with
    | @cons k _ other _ _ hfirst hrest =>
      simp only [Keyed.get?, List.lookup_cons] at hvalue ih ⊢
      by_cases hk : key = k
      · rw [beq_iff_eq.2 hk] at hvalue ⊢
        obtain rfl := Option.some.inj hvalue
        exact ⟨other, rfl, hfirst⟩
      · rw [beq_eq_false_iff_ne.2 hk] at hvalue ⊢
        exact ih hrest hvalue

/-- **Places outside references have counterparts.** The induction is on the place: on the
way down the value is no reference, so its rewritten form is of the same kind and no
reference either. -/
theorem WrittenOut.reach? {value other below : Json} (h : WrittenOut root value other)
    {place : List (List Char)} (hbelow : Json.reach? place value = some below) :
    ∃ below', Json.reach? place other = some below' ∧ WrittenOut root below below' := by
  induction place generalizing value other with
  | nil =>
    obtain rfl := Option.some.inj hbelow
    exact ⟨other, rfl, h⟩
  | cons token rest ih =>
    cases h with
    | same => exact ⟨below, hbelow, .same below⟩
    | reference href =>
      rw [Json.reach?, isReference, href] at hbelow
      cases hbelow
    | array hitems =>
      simp only [Json.reach?, isReference, Bool.false_eq_true, if_false, child?] at hbelow ⊢
      cases hindex : tokenIndex? token with
      | none =>
        rw [hindex] at hbelow
        cases hbelow
      | some index =>
        simp only [hindex] at hbelow ⊢
        split at hbelow
        · rename_i next hnext
          obtain ⟨next', hnext', hwritten⟩ := hitems.getElem? hnext
          rw [hnext']
          exact ih hwritten hbelow
        · cases hbelow
    | object plain stays hmembers =>
      simp only [Json.reach?, isReference, plain, stays, Option.isSome_none, Bool.false_eq_true,
        if_false, child?] at hbelow ⊢
      split at hbelow
      · rename_i next hnext
        obtain ⟨next', hnext', hwritten⟩ := hmembers.get? hnext
        rw [hnext']
        exact ih hwritten hbelow
      · cases hbelow

/-! ## One step -/

/-- Writing over one member, or over one item, leaves the others the same. -/
theorem WrittenOutMembers.put {members : List (String × Json)} {key : String}
    {value other : Json} (hvalue : Keyed.get? members key = some value)
    (h : WrittenOut root value other) :
    WrittenOutMembers root members (Keyed.put members key other) := by
  induction members with
  | nil => cases hvalue
  | cons member rest ih =>
    obtain ⟨k, first⟩ := member
    rw [Keyed.get?, List.lookup_cons] at hvalue
    by_cases hk : k = key
    · subst hk
      rw [beq_self_eq_true] at hvalue
      obtain rfl := Option.some.inj hvalue
      rw [Keyed.put, if_pos (beq_self_eq_true k)]
      exact .cons h (.refl rest)
    · rw [beq_eq_false_iff_ne.2 (Ne.symm hk)] at hvalue
      rw [Keyed.put, if_neg (by simpa using hk)]
      exact .cons (.same first) (ih hvalue)

theorem WrittenOutItems.set {items : List Json} {index : Nat} {item other : Json}
    (hitem : items[index]? = some item) (h : WrittenOut root item other) :
    WrittenOutItems root items (items.set index other) := by
  induction items generalizing index with
  | nil => cases hitem
  | cons first rest ih =>
    cases index with
    | zero =>
      obtain rfl := Option.some.inj hitem
      exact .cons h (.refl rest)
    | succ index => exact .cons (.same first) (ih hitem)

/-- Below a value there is a place, so the value is no text, and stays none when something
at that place is replaced. -/
theorem replaceAt_ne_string {token : List Char} {rest : List (List Char)} {new value below : Json}
    (h : reach? (token :: rest) value = some below) (text : String) :
    replaceAt (token :: rest) value new ≠ .string text := by
  cases value with
  | array items =>
    rw [replaceAt]
    split
    · exact Json.noConfusion
    · exact Json.noConfusion
  | object members =>
    rw [replaceAt]
    split
    · exact Json.noConfusion
    · exact Json.noConfusion
  | _ => simp [Json.reach?, isReference, child?] at h

/-- An object that is no reference becomes none, unless a text is put under its `$ref`. -/
theorem referenceOf?_put {members : List (String × Json)} (plain : referenceOf? members = none)
    {key : String} {new : Json} (h : key = "$ref" → ∀ text, new ≠ .string text) :
    referenceOf? (Keyed.put members key new) = none := by
  unfold referenceOf? at plain ⊢
  by_cases hkey : key = "$ref"
  · subst hkey
    rw [Keyed.get?_put_self]
    split
    · rename_i text heq
      exact (h rfl text (Option.some.inj heq)).elim
    · rfl
  · rw [Keyed.get?_put_of_ne _ _ (Ne.symm hkey)]
    exact plain

/-- **Replacing a reference by what it names writes it out.** -/
theorem writtenOut_replaceAt {place : List (List Char)} {members : List (String × Json)}
    {reference : String} {value target : Json}
    (hplace : reach? place value = some (.object members))
    (href : referenceOf? members = some reference) (htarget : root.target reference = .ok target)
    (hkind : place.getLast? = some "$ref".toList → ∀ text, target ≠ .string text) :
    WrittenOut root value (replaceAt place value target) := by
  induction place generalizing value with
  | nil =>
    obtain rfl := Option.some.inj hplace
    exact .reference href htarget
  | cons token rest ih =>
    rw [Json.reach?] at hplace
    split at hplace
    · cases hplace
    · rename_i hplain
      split at hplace
      · rename_i next hnext
        have hwritten : WrittenOut root next (replaceAt rest next target) := by
          apply ih hplace
          intro hend
          apply hkind
          rw [List.getLast?_cons, hend]
          rfl
        rw [replaceAt, hnext]
        cases value with
        | array items =>
          simp only [child?] at hnext
          split at hnext
          · rename_i index hindex
            simp only [setChild, hindex, Option.map_some, Option.getD_some]
            exact .array (.set hnext hwritten)
          · cases hnext
        | object inner =>
          simp only [child?] at hnext
          have plain : referenceOf? inner = none :=
            referenceOf?_of_not_isReference (Bool.not_eq_true _ ▸ hplain)
          refine .object plain (referenceOf?_put plain ?_) (.put hnext hwritten)
          -- Under `$ref` no text is put: not here by assumption, not from further down.
          intro hkey text
          cases rest with
          | nil =>
            apply hkind
            rw [List.getLast?_singleton, ← hkey, String.toList_ofList]
          | cons second others => exact replaceAt_ne_string hplace text
        | null => cases hnext
        | bool => cases hnext
        | number => cases hnext
        | string => cases hnext
      · cases hplace

theorem WritesOut.writtenOut (h : WritesOut root root') : WrittenOut root root root' := by
  cases h with
  | step hplace href htarget hkind => exact writtenOut_replaceAt hplace href htarget hkind

/-! ## The expansion stays -/

/-- What a reference names in the root has its counterpart in the rewritten root, and there
too it is named without going into a reference. -/
theorem WrittenOut.target (hroot : WrittenOut root root root') {reference : String}
    {value : Json} (hopen : EntersNoReference root reference)
    (htarget : root.target reference = .ok value) :
    ∃ value', root'.target reference = .ok value' ∧ EntersNoReference root' reference ∧
      WrittenOut root value value' := by
  obtain ⟨place, hplace, hvalue⟩ := target_eq_ok_iff_place.1 htarget
  obtain ⟨value', hreach, hwritten⟩ := hroot.reach? (hopen place value hplace hvalue)
  have hvalue' : descend? place root' = some value' := descend?_of_reach? hreach
  refine ⟨value', target_eq_ok_iff_place.2 ⟨place, hplace, hvalue'⟩, ?_, hwritten⟩
  intro other found hother hfound
  obtain rfl := Option.some.inj (hplace.symm.trans hother)
  obtain rfl := Option.some.inj (hvalue'.symm.trans hfound)
  exact hreach

/-- Every reference that can be reached enters no other. -/
def Open (root : Json) (starts : List String) : Prop :=
  ∀ reference, Reached root starts reference → EntersNoReference root reference

theorem Open.mono {starts others : List String} (h : Open root others) (hsub : starts ⊆ others) :
    Open root starts :=
  fun reference hreached => h reference (hreached.mono hsub)

mutual

/-- **Writing references out does not change the expansion**, each side being expanded in
its own root. The induction is on the expansion; a reference may have been written out or
not, and either way the induction goes on with what it names. -/
theorem Expands.writtenOut (hroot : WrittenOut root root root') :
    ∀ {value result : Json}, Expands root value result → Open root value.outermost →
      ∀ {value' : Json}, WrittenOut root value value' → Expands root' value' result
  | _, _, .scalar hscalar, _, _, hwritten => by
    cases hwritten with
    | same => exact .scalar hscalar
    | reference => cases hscalar
    | array => cases hscalar
    | object => cases hscalar
  | .array items, _, .array h, hopen, _, hwritten => by
    rw [outermost] at hopen
    cases hwritten with
    | same => exact .array (h.writtenOut hroot hopen (.refl items))
    | array hitems => exact .array (h.writtenOut hroot hopen hitems)
  | .object members, _, .object plain h, hopen, _, hwritten => by
    rw [outermost_object plain] at hopen
    cases hwritten with
    | same => exact .object plain (h.writtenOut hroot hopen (.refl members))
    | reference href =>
      rw [plain] at href
      cases href
    | object _ stays hmembers => exact .object stays (h.writtenOut hroot hopen hmembers)
  | .object _, _, @Expands.reference _ _ reference target _ href htarget h, hopen, _, hwritten => by
    rw [outermost_reference href] at hopen
    have hmet : Reached root [reference] reference := .start (List.mem_singleton.2 rfl)
    have honward : Open root target.outermost :=
      fun next hnext => hopen next (hmet.trans htarget hnext)
    cases hwritten with
    | same =>
      -- It still stands there, and names the counterpart of what it named before.
      obtain ⟨target', htarget', -, hwritten'⟩ := hroot.target (hopen reference hmet) htarget
      exact .reference href htarget' (h.writtenOut hroot honward hwritten')
    | reference href' htarget' =>
      obtain rfl := Option.some.inj (href.symm.trans href')
      obtain rfl := Except.ok.inj (htarget.symm.trans htarget')
      exact h.writtenOut hroot honward (.same target)
    | object plain =>
      rw [href] at plain
      cases plain

theorem ExpandsItems.writtenOut (hroot : WrittenOut root root root') :
    ∀ {items results : List Json}, ExpandsItems root items results →
      Open root (outermostInItems items) →
        ∀ {items' : List Json}, WrittenOutItems root items items' →
          ExpandsItems root' items' results
  | _, _, .nil, _, _, .nil => .nil
  | _, _, .cons first rest, hopen, _, .cons hfirst hrest => by
    rw [outermostInItems] at hopen
    exact .cons (first.writtenOut hroot (hopen.mono (List.subset_append_left _ _)) hfirst)
      (rest.writtenOut hroot (hopen.mono (List.subset_append_right _ _)) hrest)

theorem ExpandsMembers.writtenOut (hroot : WrittenOut root root root') :
    ∀ {members results : List (String × Json)}, ExpandsMembers root members results →
      Open root (outermostInMembers members) →
        ∀ {members' : List (String × Json)}, WrittenOutMembers root members members' →
          ExpandsMembers root' members' results
  | _, _, .nil, _, _, .nil => .nil
  | _, _, .cons first rest, hopen, _, .cons hfirst hrest => by
    rw [outermostInMembers] at hopen
    exact .cons (first.writtenOut hroot (hopen.mono (List.subset_append_left _ _)) hfirst)
      (rest.writtenOut hroot (hopen.mono (List.subset_append_right _ _)) hrest)

end

/-! ## Step after step -/

mutual

/-- The references met in the rewritten value are reached from the value. -/
theorem WrittenOut.reached {reference : String} : ∀ {value other : Json},
    WrittenOut root value other → reference ∈ other.outermost →
      Reached root value.outermost reference
  | _, _, .same _, hmem => .start hmem
  | _, _, .reference href htarget, hmem => by
    rw [outermost_reference href]
    exact .onward (.start (List.mem_singleton.2 rfl)) htarget hmem
  | _, _, .array h, hmem => by
    rw [outermost] at hmem ⊢
    exact h.reached hmem
  | _, _, .object plain stays h, hmem => by
    rw [outermost_object stays] at hmem
    rw [outermost_object plain]
    exact h.reached hmem

theorem WrittenOutItems.reached {reference : String} : ∀ {items others : List Json},
    WrittenOutItems root items others → reference ∈ outermostInItems others →
      Reached root (outermostInItems items) reference
  | _, _, .nil, hmem => by cases hmem
  | _, _, .cons first rest, hmem => by
    rw [outermostInItems, List.mem_append] at hmem
    rw [outermostInItems]
    rcases hmem with hmem | hmem
    · exact (first.reached hmem).mono (List.subset_append_left _ _)
    · exact (rest.reached hmem).mono (List.subset_append_right _ _)

theorem WrittenOutMembers.reached {reference : String} : ∀ {members others : List (String × Json)},
    WrittenOutMembers root members others → reference ∈ outermostInMembers others →
      Reached root (outermostInMembers members) reference
  | _, _, .nil, hmem => by cases hmem
  | _, _, .cons first rest, hmem => by
    rw [outermostInMembers, List.mem_append] at hmem
    rw [outermostInMembers]
    rcases hmem with hmem | hmem
    · exact (first.reached hmem).mono (List.subset_append_left _ _)
    · exact (rest.reached hmem).mono (List.subset_append_right _ _)

end

section

variable {out : Json} (hroot : WrittenOut root root root') (hout : Expands root root out)
  (hopen : Open root root.outermost)

include hroot hout hopen

/-- What can be reached in the rewritten root could be reached before. -/
theorem WrittenOut.reached_root {reference : String}
    (h : Reached root' root'.outermost reference) : Reached root root.outermost reference := by
  induction h with
  | start hmem => exact hroot.reached hmem
  | @onward reference next found _ hfound hnext ih =>
    obtain ⟨value, htarget, -, -⟩ := hout.sound ih
    obtain ⟨value', htarget', -, hwritten⟩ := hroot.target (hopen reference ih) htarget
    obtain rfl := Except.ok.inj (hfound.symm.trans htarget')
    exact ih.trans htarget (hwritten.reached hnext)

/-- So the rewritten root can be rewritten further. -/
theorem WrittenOut.open_root : Open root' root'.outermost := by
  intro reference hreached
  have hbefore := hroot.reached_root hout hopen hreached
  obtain ⟨value, htarget, -, -⟩ := hout.sound hbefore
  obtain ⟨value', -, henters, -⟩ := hroot.target (hopen reference hbefore) htarget
  exact henters

end

mutual

theorem outermost_subset_references : ∀ value : Json, value.outermost ⊆ value.references
  | .array items => by
    rw [outermost, references]
    exact outermostInItems_subset items
  | .object members => by
    cases href : referenceOf? members with
    | some reference =>
      rw [outermost_reference href, references, href]
      exact List.subset_append_left _ _
    | none =>
      rw [outermost_object href, references]
      exact List.subset_append_of_subset_right _ (outermostInMembers_subset members)
  | .null => List.nil_subset _
  | .bool _ => List.nil_subset _
  | .number _ => List.nil_subset _
  | .string _ => List.nil_subset _

theorem outermostInItems_subset : ∀ items : List Json,
    outermostInItems items ⊆ referencesInItems items
  | [] => List.nil_subset _
  | item :: rest => by
    rw [outermostInItems, referencesInItems, List.append_subset]
    exact ⟨List.subset_append_of_subset_left _ (outermost_subset_references item),
      List.subset_append_of_subset_right _ (outermostInItems_subset rest)⟩

theorem outermostInMembers_subset : ∀ members : List (String × Json),
    outermostInMembers members ⊆ referencesInMembers members
  | [] => List.nil_subset _
  | (_, value) :: rest => by
    rw [outermostInMembers, referencesInMembers, List.append_subset]
    exact ⟨List.subset_append_of_subset_left _ (outermost_subset_references value),
      List.subset_append_of_subset_right _ (outermostInMembers_subset rest)⟩

end

/-- Only references that occur in the root are reached. -/
theorem mem_references_of_reached {reference : String}
    (h : Reached root root.outermost reference) : reference ∈ root.references := by
  induction h with
  | start hmem => exact outermost_subset_references root hmem
  | onward _ htarget hnext _ =>
    exact references_target htarget (outermost_subset_references _ hnext)

/-- **References may be written out by hand.** Let the references of a root be replaced, and
let none of those that are reached lead strictly inside another. Then any number of
references can be written out one after the other, in any order, and replacing the
references that are left gives the same value. -/
theorem inlineReferences_of_writesOut {out : Json} (h : root.inlineReferences = .ok out)
    (hopen : ∀ reference, Reached root root.outermost reference →
      EntersNoReference root reference)
    (hsteps : Relation.ReflTransGen WritesOut root root') :
    root'.inlineReferences = .ok out := by
  have hexpands : Expands root' root' out ∧ Open root' root'.outermost := by
    induction hsteps with
    | refl => exact ⟨expands_of_inline h, hopen⟩
    | tail _ hstep ih =>
      obtain ⟨hout, hopen⟩ := ih
      have hroot := hstep.writtenOut
      exact ⟨hout.writtenOut hroot hopen hroot, hroot.open_root hout hopen⟩
  exact hexpands.1.inline_nil _

/-- A reference to an array with another reference in it. -/
def chained : Json :=
  .object [("a", .object [("$ref", .string "#/b")]),
    ("b", .array [.object [("$ref", .string "#/c")]]), ("c", .bool true)]

/-- The same with its first reference written out, which brings a copy of the second. -/
def chainedOnce : Json :=
  .object [("a", .array [.object [("$ref", .string "#/c")]]),
    ("b", .array [.object [("$ref", .string "#/c")]]), ("c", .bool true)]

/-- And with that copy written out. -/
def chainedTwice : Json :=
  .object [("a", .array [.bool true]), ("b", .array [.object [("$ref", .string "#/c")]]),
    ("c", .bool true)]

def unchained : Json :=
  .object [("a", .array [.bool true]), ("b", .array [.bool true]), ("c", .bool true)]

theorem inlineReferences_of_writesOut_chained :
    chained.inlineReferences = .ok unchained ∧
      (∀ reference, Reached chained chained.outermost reference →
        EntersNoReference chained reference) ∧
      WritesOut chained chainedOnce ∧ WritesOut chainedOnce chainedTwice ∧
      chainedTwice.inlineReferences = .ok unchained := by
  have hvalue : Expands chained (.bool true) (.bool true) := .scalar rfl
  have hitems : Expands chained (.array [.object [("$ref", .string "#/c")]])
      (.array [.bool true]) := .array (.cons (.reference rfl rfl hvalue) .nil)
  have hexpands : Expands chained chained unchained :=
    .object rfl (.cons (.reference rfl rfl hitems) (.cons hitems (.cons hvalue .nil)))
  have hout : chained.inlineReferences = .ok unchained := hexpands.inline_nil _
  have hopen : ∀ reference, Reached chained chained.outermost reference →
      EntersNoReference chained reference := by
    intro reference hreached place value hplace hvalue
    have hmem : reference ∈ ["#/b", "#/c"] := mem_references_of_reached hreached
    rw [List.mem_cons, List.mem_singleton] at hmem
    rcases hmem with rfl | rfl
    · obtain rfl : [['b']] = place := Option.some.inj hplace
      exact hvalue
    · obtain rfl : [['c']] = place := Option.some.inj hplace
      exact hvalue
  have hfirst : WritesOut chained chainedOnce :=
    .step (show reach? [['a']] chained = _ from rfl) rfl rfl fun _ _ => Json.noConfusion
  have hsecond : WritesOut chainedOnce chainedTwice :=
    .step (show reach? [['a'], ['0']] chainedOnce = _ from rfl) rfl rfl fun _ _ => Json.noConfusion
  exact ⟨hout, hopen, hfirst, hsecond,
    inlineReferences_of_writesOut hout hopen (.tail (.single hfirst) hsecond)⟩

/-- Writing out the reference under `$ref` makes a reference of the object around it, and
the value that is loaded is another one, though no reference leads inside another. -/
theorem doubled_written_out :
    doubled.inlineReferences = .ok doubledOnce ∧
      (∀ reference ∈ doubled.references, EntersNoReference doubled reference) ∧
      reach? ["a".toList, "$ref".toList] doubled = some (.object [("$ref", .string "#/b")]) ∧
      doubled.target "#/b" = .ok (.string "#/b") ∧
      (doubled.replaceAt ["a".toList, "$ref".toList] (.string "#/b")).inlineReferences =
        .ok (.object [("a", .string "#/b"), ("b", .string "#/b")]) ∧
      doubledOnce ≠ .object [("a", .string "#/b"), ("b", .string "#/b")] := by
  have htext : ∀ root, Expands root (.string "#/b") (.string "#/b") := fun _ => .scalar rfl
  have honce : Expands doubled doubled doubledOnce :=
    .object rfl (.cons (.object rfl (.cons (.reference rfl rfl (htext _)) .nil))
      (.cons (htext _) .nil))
  have htwice : Expands doubledOnce doubledOnce
      (.object [("a", .string "#/b"), ("b", .string "#/b")]) :=
    .object rfl (.cons (.reference rfl rfl (htext _)) (.cons (htext _) .nil))
  refine ⟨honce.inline_nil _, ?_, rfl, rfl, htwice.inline_nil _, by simp [doubledOnce]⟩
  intro reference hmem place value hplace hvalue
  obtain rfl := List.mem_singleton.1 (show reference ∈ ["#/b"] from hmem)
  obtain rfl : [['b']] = place := Option.some.inj hplace
  exact hvalue

end SchemaForms.Json
