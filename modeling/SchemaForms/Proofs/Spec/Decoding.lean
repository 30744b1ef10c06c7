/-
What decoding a document means, for values of every shape. Which values are accepted, and where
the first problem of the others is reported, was settled by the grammar of documents
(`Grammar.reads_document`). What an accepted value becomes is said here: an image of it
(`Mirrors`), with the schemas of every collection in the order of its members.

Both halves together are the main statement (`decoding_follows_grammar`).
-/
import SchemaForms.Proofs.Schema.Grammar
import SchemaForms.Proofs.Spec.Transparency

set_option autoImplicit false

namespace SchemaForms

open Decode

/-! ## Images -/

/-- The members of the object under a field of a schema; where there is none, there are none. -/
def Json.membersUnder (value : Json) (key : String) : List (String × Json) :=
  match value.field? schemaRecord.keys key with
  | some (.object members) => members
  | _ => []

/-- The items of the array under a field of a schema. -/
def Json.itemsUnder (value : Json) (key : String) : List Json :=
  match value.field? schemaRecord.keys key with
  | some (.array items) => items
  | _ => []

/-- What an optional field holds: nothing if it is missing or null, and else what `is` says of
the value in it. -/
inductive Shows {α : Type} (is : Json → α → Prop) : Option Json → Option α → Prop where
  | missing : Shows is none none
  | null : Shows is (some .null) none
  | present {value : Json} {a : α} (hnull : value ≠ .null) (h : is value a) :
      Shows is (some value) (some a)

/-- A type is given by its name, several by an array of their names. -/
inductive NamesType : Json → TypeKeyword → Prop where
  | single (name : String) : NamesType (.string name) (.single name)
  | union (names : List String) : NamesType (.array (names.map .string)) (.union names)

/-- A count is given by an integer. -/
inductive Counts : Json → Nat → Prop where
  | integer (n : Nat) (fits : Fits64 n) : Counts (.number (.integer n fits)) n

/-- The required names: those listed when the value is an array of texts, and else none. -/
inductive Lists : Option Json → List String → Prop where
  | names (names : List String) : Lists (some (.array (names.map .string))) names
  | nothing {value : Option Json}
      (h : ∀ names : List String, value ≠ some (.array (names.map .string))) : Lists value []

/-- The keywords of a schema are the image of a value: each holds what the field of its key
does. -/
structure MirrorsKeywords (value : Json) (keywords : Keywords) : Prop where
  type : Shows NamesType (value.field? schemaRecord.keys "type") keywords.type
  format : Shows (· = .string ·) (value.field? schemaRecord.keys "format") keywords.format
  pattern : Shows (· = .string ·) (value.field? schemaRecord.keys "pattern") keywords.pattern
  minLength : Shows Counts (value.field? schemaRecord.keys "minLength") keywords.minLength
  maxLength : Shows Counts (value.field? schemaRecord.keys "maxLength") keywords.maxLength
  minimum : Shows (· = .number ·) (value.field? schemaRecord.keys "minimum") keywords.minimum
  maximum : Shows (· = .number ·) (value.field? schemaRecord.keys "maximum") keywords.maximum
  minItems : Shows Counts (value.field? schemaRecord.keys "minItems") keywords.minItems
  maxItems : Shows Counts (value.field? schemaRecord.keys "maxItems") keywords.maxItems
  /-- Any value may be a default. -/
  initial : Shows (· = ·) (value.field? schemaRecord.keys "default") keywords.initial
  required : Lists (value.field? schemaRecord.keys "required") keywords.required

mutual

/-- A schema is the image of a value: its keywords are, and the schemas inside it are images of
the values inside, in their order. -/
inductive Mirrors : Json → Schema → Prop where
  | intro {value : Json} {schema : Schema} (keywords : MirrorsKeywords value schema.toKeywords)
      (properties : MirrorsNamed (value.membersUnder "properties") schema.properties)
      (items : MirrorsItems (value.field? schemaRecord.keys "items") schema.items)
      (allOf : MirrorsList (value.itemsUnder "allOf") schema.allOf) : Mirrors value schema

inductive MirrorsNamed : List (String × Json) → List (String × Schema) → Prop where
  | nil : MirrorsNamed [] []
  | cons {name : String} {value : Json} {schema : Schema} {members : List (String × Json)}
      {schemas : List (String × Schema)} (first : Mirrors value schema)
      (rest : MirrorsNamed members schemas) :
      MirrorsNamed ((name, value) :: members) ((name, schema) :: schemas)

inductive MirrorsList : List Json → List Schema → Prop where
  | nil : MirrorsList [] []
  | cons {value : Json} {schema : Schema} {values : List Json} {schemas : List Schema}
      (first : Mirrors value schema) (rest : MirrorsList values schemas) :
      MirrorsList (value :: values) (schema :: schemas)

inductive MirrorsItems : Option Json → Option Schema → Prop where
  | missing : MirrorsItems none none
  | null : MirrorsItems (some .null) none
  | present {value : Json} {schema : Schema} (h : Mirrors value schema) :
      MirrorsItems (some value) (some schema)

end

/-- A collection of named schemas is the image of the value that it is looked for in. -/
inductive MirrorsCollection : Option Json → Option (Keyed Schema) → Prop where
  | missing : MirrorsCollection none none
  | null : MirrorsCollection (some .null) none
  | present {members : List (String × Json)} {schemas : Keyed Schema}
      (h : MirrorsNamed members schemas) : MirrorsCollection (some (.object members)) (some schemas)

/-- A document is the image of a value: both of its collections are, and it has the title that
the value has. -/
structure MirrorsDocument (value : Json) (document : Document) : Prop where
  definitions :
    MirrorsCollection (value.field? documentRecord.keys "definitions") document.definitions
  components :
    MirrorsCollection
      ((value.field? documentRecord.keys "components").bind
        (·.field? componentsRecord.keys "schemas"))
      (document.components.bind Components.schemas)
  title :
    Shows (· = .string ·)
      ((value.field? documentRecord.keys "info").bind (·.field? infoRecord.keys "title"))
      (document.info.bind Info.title)

/-! ## Decoding makes images -/

theorem sizeOf_field? {value slot : Json} {keys : List String} {key : String}
    (h : value.field? keys key = some slot) : sizeOf slot < sizeOf value := by
  cases value with
  | object members => exact Grammar.sizeOf_lt_object (Keyed.mem_of_get? h)
  | array values => exact Grammar.sizeOf_lt_array (List.mem_of_getElem? h)
  | null => cases h
  | bool => cases h
  | number => cases h
  | string => cases h

/-! Single values. -/

/-- What is decoded where null may stand is shown, if what is decoded otherwise is so. -/
theorem shows_of_slot {α : Type} {decode : Json → Except DecodeError α} {is : Json → α → Prop}
    (his : ∀ {value a}, decode value = .ok a → is value a) {slot : Option Json}
    {result : Option α} (hfound : ∀ {value}, slot = some value → optional decode value = .ok result)
    (hmissing : slot = none → result = none) : Shows is slot result := by
  cases slot with
  | none =>
    rw [hmissing rfl]
    exact .missing
  | some value =>
    have hdecoded := hfound rfl
    by_cases hnull : value = .null
    · subst hnull
      rw [← Except.ok.inj hdecoded]
      exact .null
    · obtain ⟨a, rfl, ha⟩ := optional_ok hdecoded hnull
      exact .present hnull (his ha)

theorem eq_string_of_text {value : Json} {s : String} (h : text value = .ok s) :
    value = .string s := by
  cases value with
  | string t => rw [Except.ok.inj h]
  | _ => cases h

theorem eq_number_of_number {value : Json} {n : Number} (h : number value = .ok n) :
    value = .number n := by
  cases value with
  | number m => rw [Except.ok.inj h]
  | _ => cases h

theorem counts_of_count {value : Json} {n : Nat} (h : count value = .ok n) : Counts value n := by
  cases value with
  | number m =>
    cases m with
    | integer i fits =>
      rw [count] at h
      split at h
      · rename_i hnonneg
        obtain rfl := Except.ok.inj h
        obtain ⟨n, rfl⟩ := Int.eq_ofNat_of_zero_le hnonneg
        exact .integer n fits
      · cases h
    | _ => cases h
  | _ => cases h

theorem namesType_of_typeKeyword {value : Json} {type : TypeKeyword}
    (h : typeKeyword value = .ok type) : NamesType value type := by
  cases value with
  | string name =>
    obtain rfl := Except.ok.inj h
    exact .single name
  | array items =>
    rw [typeKeyword] at h
    split at h
    · rename_i names hnames
      obtain rfl := Except.ok.inj h
      rw [Grammar.allTexts?_eq_some_iff.1 hnames]
      exact .union names
    · cases h
  | _ => cases h

/-- A default is decoded to itself, or to nothing if it is null. -/
theorem optional_ok_eq_initialValue (value : Json) :
    optional .ok value = .ok (initialValue value) := by
  cases value <;> rfl

theorem lists_requiredNames (value : Json) : Lists (some value) (requiredNames value) := by
  have hother : (∀ names : List String, value ≠ .array (names.map .string)) →
      Lists (some value) [] :=
    fun h => .nothing fun names heq => h names (Option.some.inj heq)
  cases value with
  | array items =>
    rw [requiredNames]
    cases hnames : allTexts? items with
    | some names =>
      rw [Grammar.allTexts?_eq_some_iff.1 hnames]
      exact .names names
    | none =>
      refine hother fun names heq => ?_
      rw [Grammar.allTexts?_eq_some_iff.2 (Json.array.inj heq)] at hnames
      cases hnames
  | _ => exact hother nofun

theorem mirrorsNamed_of_forall {members : List (String × Json)} {schemas : List (String × Schema)}
    (hall : ∀ entry ∈ members, ∀ decoded, schema entry.2 = .ok decoded → Mirrors entry.2 decoded)
    (h : namedSchemas members = .ok schemas) : MirrorsNamed members schemas := by
  have hmembers := forall₂_of_namedSchemas h
  clear h
  induction hmembers with
  | nil => exact .nil
  | @cons member named members schemas hfirst _ ih =>
    obtain ⟨name, value⟩ := member
    obtain ⟨name', decoded⟩ := named
    obtain ⟨rfl, hdecoded⟩ : name = name' ∧ schema value = .ok decoded := hfirst
    obtain ⟨hvalue, hrest⟩ := List.forall_mem_cons.1 hall
    exact .cons (hvalue decoded hdecoded) (ih hrest)

theorem mirrorsList_of_forall {values : List Json} {schemas : List Schema} {index : Nat}
    (hall : ∀ value ∈ values, ∀ decoded, schema value = .ok decoded → Mirrors value decoded)
    (h : schemaList index values = .ok schemas) : MirrorsList values schemas := by
  have hvalues := forall₂_of_schemaList h
  clear h
  induction hvalues with
  | nil => exact .nil
  | cons hfirst _ ih =>
    obtain ⟨hvalue, hrest⟩ := List.forall_mem_cons.1 hall
    exact .cons (hvalue _ hfirst) (ih hrest)

section

variable {value : Json} {decoded : Schema}

theorem lists_required (hkeyed : value.WellKeyed) (h : schema value = .ok decoded) :
    Lists (value.field? schemaRecord.keys "required") decoded.required := by
  cases hslot : value.field? schemaRecord.keys "required" with
  | none =>
    rw [show decoded.required = [] from schema_field_missing h .required hslot]
    exact .nothing nofun
  | some slot =>
    have hdecoded := Except.ok.inj (schema_field hkeyed h .required hslot)
    rw [show decoded.required = requiredNames slot from hdecoded.symm]
    exact lists_requiredNames slot

/-- **The keywords of a decoded schema are what stands in its fields.** -/
theorem mirrorsKeywords_of_schema (hkeyed : value.WellKeyed) (h : schema value = .ok decoded) :
    MirrorsKeywords value decoded.toKeywords where
  type := shows_of_slot namesType_of_typeKeyword (schema_field hkeyed h .type)
    (schema_field_missing h .type)
  format := shows_of_slot eq_string_of_text (schema_field hkeyed h .format)
    (schema_field_missing h .format)
  pattern := shows_of_slot eq_string_of_text (schema_field hkeyed h .pattern)
    (schema_field_missing h .pattern)
  minLength := shows_of_slot counts_of_count (schema_field hkeyed h .minLength)
    (schema_field_missing h .minLength)
  maxLength := shows_of_slot counts_of_count (schema_field hkeyed h .maxLength)
    (schema_field_missing h .maxLength)
  minimum := shows_of_slot eq_number_of_number (schema_field hkeyed h .minimum)
    (schema_field_missing h .minimum)
  maximum := shows_of_slot eq_number_of_number (schema_field hkeyed h .maximum)
    (schema_field_missing h .maximum)
  minItems := shows_of_slot counts_of_count (schema_field hkeyed h .minItems)
    (schema_field_missing h .minItems)
  maxItems := shows_of_slot counts_of_count (schema_field hkeyed h .maxItems)
    (schema_field_missing h .maxItems)
  initial := by
    have hdefault : ∀ {slot}, value.field? schemaRecord.keys "default" = some slot →
        optional .ok slot = .ok decoded.initial := by
      intro slot hslot
      rw [optional_ok_eq_initialValue]
      exact schema_field hkeyed h .initial hslot
    exact shows_of_slot Except.ok.inj hdefault (schema_field_missing h .initial)
  required := lists_required hkeyed h

/-! The three fields that hold schemas, when what is inside the value is decoded to images. -/

variable (hinside : ∀ inner, sizeOf inner < sizeOf value → inner.WellKeyed →
  ∀ found, schema inner = .ok found → Mirrors inner found)
include hinside

theorem mirrorsNamed_properties (hkeyed : value.WellKeyed) (h : schema value = .ok decoded) :
    MirrorsNamed (value.membersUnder "properties") decoded.properties := by
  rw [Json.membersUnder]
  cases hslot : value.field? schemaRecord.keys "properties" with
  | none =>
    rw [show decoded.properties = [] from schema_field_missing h .properties hslot]
    exact .nil
  | some slot =>
    have hdecoded : schemaMap slot = .ok decoded.properties :=
      schema_field hkeyed h .properties hslot
    have hslotKeyed : slot.WellKeyed := hkeyed.field? hslot
    have hlt : sizeOf slot < sizeOf value := sizeOf_field? hslot
    cases slot with
    | object members =>
      rw [Json.WellKeyed] at hslotKeyed
      refine mirrorsNamed_of_forall (fun entry hentry => ?_) hdecoded
      have hentryKeyed := hslotKeyed.2.get? (hslotKeyed.1.get?_of_mem hentry)
      exact hinside entry.2 (Nat.lt_trans (Grammar.sizeOf_lt_object hentry) hlt) hentryKeyed
    | _ => cases hdecoded

theorem mirrorsItems_items (hkeyed : value.WellKeyed) (h : schema value = .ok decoded) :
    MirrorsItems (value.field? schemaRecord.keys "items") decoded.items := by
  cases hslot : value.field? schemaRecord.keys "items" with
  | none =>
    rw [show decoded.items = none from schema_field_missing h .items hslot]
    exact .missing
  | some slot =>
    have hdecoded : optional schema slot = .ok decoded.items := schema_field hkeyed h .items hslot
    by_cases hnull : slot = .null
    · subst hnull
      rw [← Except.ok.inj hdecoded]
      exact .null
    · obtain ⟨item, hitem, hdecoded⟩ := optional_ok hdecoded hnull
      rw [hitem]
      exact .present (hinside slot (sizeOf_field? hslot) (hkeyed.field? hslot) item hdecoded)

theorem mirrorsList_allOf (hkeyed : value.WellKeyed) (h : schema value = .ok decoded) :
    MirrorsList (value.itemsUnder "allOf") decoded.allOf := by
  rw [Json.itemsUnder]
  cases hslot : value.field? schemaRecord.keys "allOf" with
  | none =>
    rw [show decoded.allOf = [] from schema_field_missing h .allOf hslot]
    exact .nil
  | some slot =>
    have hdecoded : schemaSequence slot = .ok decoded.allOf := schema_field hkeyed h .allOf hslot
    have hslotKeyed : slot.WellKeyed := hkeyed.field? hslot
    have hlt : sizeOf slot < sizeOf value := sizeOf_field? hslot
    cases slot with
    | array values =>
      rw [Json.WellKeyed, Json.wellKeyedItems_iff] at hslotKeyed
      refine mirrorsList_of_forall (fun branch hbranch => ?_) hdecoded
      exact hinside branch (Nat.lt_trans (Grammar.sizeOf_lt_array hbranch) hlt)
        (hslotKeyed branch hbranch)
    | _ => cases hdecoded

end

/-- **A schema is the image of the value it is decoded from.** The induction is on the size of
the value. -/
theorem mirrors_of_schema {value : Json} {decoded : Schema} (hkeyed : value.WellKeyed)
    (h : schema value = .ok decoded) : Mirrors value decoded := by
  have hinside : ∀ inner, sizeOf inner < sizeOf value → inner.WellKeyed →
      ∀ found, schema inner = .ok found → Mirrors inner found :=
    fun inner _ hinner found hfound => mirrors_of_schema hinner hfound
  exact .intro (mirrorsKeywords_of_schema hkeyed h) (mirrorsNamed_properties hinside hkeyed h)
    (mirrorsItems_items hinside hkeyed h) (mirrorsList_allOf hinside hkeyed h)
termination_by sizeOf value

theorem mirrorsNamed_of_namedSchemas {members : List (String × Json)}
    {schemas : List (String × Schema)} (hkeyed : (Json.object members).WellKeyed)
    (h : namedSchemas members = .ok schemas) : MirrorsNamed members schemas := by
  rw [Json.WellKeyed] at hkeyed
  refine mirrorsNamed_of_forall (fun entry hentry decoded hdecoded => ?_) h
  exact mirrors_of_schema (hkeyed.2.get? (hkeyed.1.get?_of_mem hentry)) hdecoded

/-- A collection is decoded from null or from an object. -/
theorem mirrorsCollection_of_slot {slot : Option Json} {schemas : Option (Keyed Schema)}
    (hkeyed : ∀ {value}, slot = some value → value.WellKeyed)
    (hfound : ∀ {value}, slot = some value → optional schemaMap value = .ok schemas)
    (hmissing : slot = none → schemas = none) : MirrorsCollection slot schemas := by
  cases slot with
  | none =>
    rw [hmissing rfl]
    exact .missing
  | some value =>
    have hdecoded := hfound rfl
    by_cases hnull : value = .null
    · subst hnull
      rw [← Except.ok.inj hdecoded]
      exact .null
    · obtain ⟨found, rfl, hnamed⟩ := optional_ok hdecoded hnull
      cases value with
      | object members => exact .present (mirrorsNamed_of_namedSchemas (hkeyed rfl) hnamed)
      | _ => cases hnamed

/-- The part of a record that may itself be missing or null, and of which nothing is there
then. -/
theorem part_of_optional {α β : Type} {record : Record α} {part : α → Option β} {key : String}
    {write : α → Json → Except DecodeError α} {decode : Json → Except DecodeError (Option β)}
    (hpart : record.PartOf part key write fun value content => decode value = .ok content)
    {empty : α} (hempty : part empty = none) {outer : Option Json} {result : Option α}
    (hkeyed : ∀ {value}, outer = some value → value.WellKeyed)
    (hfound : ∀ {value}, outer = some value → optional (record.decode empty) value = .ok result)
    (hmissing : outer = none → result = none) :
    (∀ {slot}, outer.bind (·.field? record.keys key) = some slot →
      decode slot = .ok (result.bind part)) ∧
    (outer.bind (·.field? record.keys key) = none → result.bind part = none) := by
  cases outer with
  | none =>
    rw [hmissing rfl]
    exact ⟨nofun, fun _ => rfl⟩
  | some value =>
    have hdecoded := hfound rfl
    by_cases hnull : value = .null
    · -- Null has no fields, just as there are none where nothing is.
      subst hnull
      rw [← Except.ok.inj hdecoded]
      exact ⟨nofun, fun _ => rfl⟩
    · obtain ⟨found, rfl, hrecord⟩ := optional_ok hdecoded hnull
      exact ⟨fun hslot => Record.decode_field hpart (hkeyed rfl) hslot hrecord,
        fun hslot => (Record.decode_missing hpart hslot hrecord).trans hempty⟩

/-- **A document is the image of the value it is decoded from.** -/
theorem mirrorsDocument_of_ofJson {value : Json} {document : Document} (hkeyed : value.WellKeyed)
    (h : Document.ofJson value = .ok document) : MirrorsDocument value document := by
  have hkeyedAt : ∀ {key slot}, value.field? documentRecord.keys key = some slot →
      slot.WellKeyed := fun hslot => hkeyed.field? hslot
  constructor
  case definitions =>
    exact mirrorsCollection_of_slot hkeyedAt
      (fun hslot => Record.decode_field documentRecord_definitions hkeyed hslot h)
      (fun hslot => Record.decode_missing documentRecord_definitions hslot h)
  case components =>
    obtain ⟨hfound, hmissing⟩ := part_of_optional componentsRecord_schemas rfl hkeyedAt
      (fun hslot => Record.decode_field documentRecord_components hkeyed hslot h)
      (fun hslot => Record.decode_missing documentRecord_components hslot h)
    refine mirrorsCollection_of_slot (fun hslot => ?_) hfound hmissing
    obtain ⟨components, houter, hinner⟩ := Option.bind_eq_some_iff.1 hslot
    exact (hkeyedAt houter).field? hinner
  case title =>
    obtain ⟨hfound, hmissing⟩ := part_of_optional infoRecord_title rfl hkeyedAt
      (fun hslot => Record.decode_field documentRecord_info hkeyed hslot h)
      (fun hslot => Record.decode_missing documentRecord_info hslot h)
    exact shows_of_slot eq_string_of_text hfound hmissing

/-! ## The statement -/

/-- The places of a value that should be a document. -/
def Json.places (value : Json) : List Grammar.Place :=
  Grammar.walk (.must (.record .document)) value

theorem failure?_eq_some_iff {α : Type} {x : Except DecodeError α} {e : DecodeError} :
    Grammar.failure? x = some e ↔ x = .error e := by
  cases x <;> simp [Grammar.failure?]

theorem failure?_eq_none_iff {α : Type} {x : Except DecodeError α} :
    Grammar.failure? x = none ↔ ∃ a, x = .ok a := by
  cases x <;> simp [Grammar.failure?]

/-- What is reported at a place has its path, and says what is wrong there. -/
theorem Grammar.Place.error?_eq_some_iff {place : Place} {e : DecodeError} :
    place.error? = some e ↔
      ¬place.Fits ∧ e.path = place.path ∧ place.slot.fault? place.value = some e.problem := by
  constructor
  · intro h
    refine ⟨fun hfits => ?_, ?_⟩
    · rw [error?_eq_none_iff.2 hfits] at h
      cases h
    · obtain ⟨problem, hproblem, rfl⟩ := Option.map_eq_some_iff.1 h
      exact ⟨rfl, hproblem⟩
  · rintro ⟨-, hpath, hproblem⟩
    rw [error?, hproblem, ← hpath]
    rfl

/-- **Decoding accepts exactly its grammar and reports the first problem.** A value is accepted
exactly when every place in it holds what may stand there. A value that is not is refused for
the first place in the walk that holds something else: all places before it fit, the path of the
error is its path, and the problem is what is wrong with its value. Members that no place is for
play no part. In a value without repeated keys, as reading gives it, every path leads to its
place; and the document is the image of the value. -/
theorem decoding_follows_grammar (value : Json) :
    ((∃ document, Document.ofJson value = .ok document) ↔ ∀ place ∈ value.places, place.Fits) ∧
    (∀ e, Document.ofJson value = .error e ↔
      ∃ before place behind, value.places = before ++ place :: behind ∧
        (∀ earlier ∈ before, earlier.Fits) ∧ ¬place.Fits ∧ e.path = place.path ∧
        place.slot.fault? place.value = some e.problem) ∧
    Document.ofJson (Grammar.prune (.record .document) value) = Document.ofJson value ∧
    (value.WellKeyed →
      (∀ place ∈ value.places, Grammar.follow? place.path value = some place.value) ∧
      ∀ document, Document.ofJson value = .ok document → MirrorsDocument value document) := by
  obtain ⟨hfailure, hpruned⟩ := Grammar.reads_document value
  rw [Grammar.firstError] at hfailure
  refine ⟨?_, fun e => ?_, hpruned, fun hkeyed => ⟨?_, ?_⟩⟩
  · rw [← failure?_eq_none_iff, hfailure, List.findSome?_eq_none_iff]
    exact forall₂_congr fun place _ => Grammar.Place.error?_eq_none_iff
  · rw [← failure?_eq_some_iff, hfailure, List.findSome?_eq_some_iff]
    refine exists_congr fun before => exists_congr fun place => exists_congr fun behind => ?_
    refine and_congr_right fun _ => and_comm.trans (and_congr ?_ ?_)
    · exact forall₂_congr fun earlier _ => Grammar.Place.error?_eq_none_iff
    · exact Grammar.Place.error?_eq_some_iff
  · intro place hplace
    exact Grammar.follow?_of_mem_walk hkeyed hplace
  · intro document hdocument
    exact mirrorsDocument_of_ofJson hkeyed hdocument

/-- A document given as an array of its fields, with one value too many. -/
def overlongValue : Json :=
  .array [.null, .null, .null, .null]

/-- A document with two definitions and a member that no field is for. -/
def lenientValue : Json :=
  .object [("x", .bool true),
    ("definitions", .object [("b", .object [("required", .bool true)]), ("a", .object [])])]

def lenientDocument : Document :=
  { definitions := some [("b", {}), ("a", {})] }

theorem decoding_follows_grammar_lenient :
    Document.ofJson overlongValue = .error { path := [], problem := .tooMany 4 } ∧
    (∀ place ∈ lenientValue.places, place.Fits) ∧ lenientValue.WellKeyed ∧
    Document.ofJson lenientValue = .ok lenientDocument ∧
    MirrorsDocument lenientValue lenientDocument := by
  have hkeyed : lenientValue.WellKeyed := by
    simp [lenientValue, Json.WellKeyed, Json.WellKeyedMembers, Keyed.Distinct, Keyed.keys]
  have hdocument : Document.ofJson lenientValue = .ok lenientDocument := rfl
  obtain ⟨-, herror, -, -⟩ := decoding_follows_grammar overlongValue
  obtain ⟨haccepted, -, -, hread⟩ := decoding_follows_grammar lenientValue
  refine ⟨(herror _).2 ?_, haccepted.1 ⟨_, hdocument⟩, hkeyed, hdocument,
    (hread hkeyed).2 _ hdocument⟩
  -- The three values that are in range may be null.
  refine ⟨[⟨[.index 0], .may .named, .null⟩, ⟨[.index 1], .may (.record .components), .null⟩,
      ⟨[.index 2], .may (.record .info), .null⟩],
    ⟨[], .must (.record .document), overlongValue⟩, [], rfl, ?_, ?_, rfl, rfl⟩
  · intro earlier hearlier
    simp only [List.mem_cons, List.not_mem_nil, or_false] at hearlier
    rcases hearlier with rfl | rfl | rfl <;> exact .inl ⟨rfl, rfl⟩
  · intro hfits
    cases Grammar.Place.error?_eq_none_iff.2 hfits

end SchemaForms
