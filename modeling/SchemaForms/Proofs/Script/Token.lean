/-
The tokens of a script, as far as generated files use them: words, texts in single or
double quotation marks, numerals, regular expressions, and marks of one character. Where
a token ends is decided by the language and not by what was meant: a word goes on as long
as its characters do, a text ends at the first quotation mark of its kind that is not
escaped, and a regular expression at the first slash that is neither escaped nor in a
class. Blanks in front of a token play no part. Two slashes, or a slash and an asterisk,
begin a comment and no regular expression, and there are no comments here.

The reader takes one token at a time, because a slash can only be understood where a
token begins. Each kind of token has one lemma: its text, followed by something that
cannot belong to it, is read as that token with the rest left over.
-/
import SchemaForms.Json.Printer
import SchemaForms.Json.Reader
import SchemaForms.Naming
import SchemaForms.Proofs.Number.Numeral
import SchemaForms.Render.Angular

set_option autoImplicit false

namespace SchemaForms.Script

open Naming

/-! ## Texts in single quotation marks -/

/-- No text and no regular expression goes over the end of a line. -/
def isLineEnd (c : Char) : Bool :=
  c == '\n' || c == '\r' || c == '\u2028' || c == '\u2029'

/-- The character with a number in hexadecimal digits. -/
def character? (digits : List Char) : Option Char :=
  match Text.natural? 16 digits with
  | some n => if n.isValidChar then some (Char.ofNat n) else none
  | none => none

/-- A number in four hexadecimal digits. -/
def unit? : List Char → Option (Nat × List Char)
  | a :: b :: c :: d :: rest => (Text.natural? 16 [a, b, c, d]).map (·, rest)
  | _ => none

/-- What `\u` without braces stands for: a character, or a pair of surrogates together. -/
def unitEscape? (s : List Char) : Option (Char × List Char) :=
  match unit? s with
  | none => none
  | some (unit, rest) =>
    if Json.isLeadingSurrogate unit then
      match rest with
      | '\\' :: 'u' :: rest =>
        match unit? rest with
        | none => none
        | some (next, rest) =>
          if Json.isTrailingSurrogate next then some (Json.surrogatePair unit next, rest) else none
      | _ => none
    else if Json.isTrailingSurrogate unit then none
    else some (Char.ofNat unit, rest)

/-- The character that a letter stands for after a backslash; a character that is no such
letter stands for itself. -/
def letterEscape : Char → Char
  | 'b' => '\x08'
  | 'f' => '\x0c'
  | 'n' => '\n'
  | 'r' => '\r'
  | 't' => '\t'
  | 'v' => '\x0b'
  | c => c

/-- What stands after a backslash, and the rest: the end of a line stands for nothing, and
of the digits only a zero that no digit follows is allowed. -/
def escape? : List Char → Option (List Char × List Char)
  | [] => none
  | '\r' :: '\n' :: rest => some ([], rest)
  | 'x' :: a :: b :: rest => (character? [a, b]).map fun c => ([c], rest)
  | 'u' :: '\x7b' :: rest =>
    match rest.span (· ≠ '\x7d') with
    | (digits, _ :: rest) => (character? digits).map fun c => ([c], rest)
    | _ => none
  | 'u' :: rest => (unitEscape? rest).map fun (c, rest) => ([c], rest)
  | '0' :: rest => if rest.head?.any Char.isDigit then none else some (['\x00'], rest)
  | c :: rest =>
    if c == 'x' || c.isDigit then none
    else if isLineEnd c then some ([], rest)
    else some ([letterEscape c], rest)

theorem unit?_length {s rest : List Char} {unit : Nat} (h : unit? s = some (unit, rest)) :
    rest.length < s.length := by
  unfold unit? at h
  split at h
  · obtain ⟨n, -, heq⟩ := Option.map_eq_some_iff.1 h
    obtain ⟨-, rfl⟩ := Prod.mk.inj heq
    simp only [List.length_cons]
    omega
  · cases h

theorem unitEscape?_length {s rest : List Char} {c : Char}
    (h : unitEscape? s = some (c, rest)) : rest.length < s.length := by
  unfold unitEscape? at h
  split at h
  · cases h
  · rename_i unit after hunit
    have hfirst := unit?_length hunit
    split at h
    · split at h
      · split at h
        · cases h
        · rename_i next final hnext
          have hsecond := unit?_length hnext
          split at h
          · obtain ⟨-, rfl⟩ := Prod.mk.inj (Option.some.inj h)
            simp only [List.length_cons] at hfirst
            omega
          · cases h
      · cases h
    · split at h
      · cases h
      · obtain ⟨-, rfl⟩ := Prod.mk.inj (Option.some.inj h)
        exact hfirst

/-- An escape uses something up. -/
theorem escape?_length {s taken rest : List Char} (h : escape? s = some (taken, rest)) :
    rest.length < s.length := by
  -- One case for each line of `escape?`, in order.
  unfold escape? at h
  split at h
  · cases h
  · obtain ⟨-, rfl⟩ := Prod.mk.inj (Option.some.inj h)
    simp only [List.length_cons]
    omega
  · obtain ⟨c, -, heq⟩ := Option.map_eq_some_iff.1 h
    obtain ⟨-, rfl⟩ := Prod.mk.inj heq
    simp only [List.length_cons]
    omega
  · rename_i after
    split at h
    · rename_i digits c final hspan
      obtain ⟨c', -, heq⟩ := Option.map_eq_some_iff.1 h
      obtain ⟨-, rfl⟩ := Prod.mk.inj heq
      rw [List.span_eq_takeWhile_dropWhile] at hspan
      have hdrop : after.dropWhile (· ≠ '\x7d') = c :: final := (Prod.mk.inj hspan).2
      have hlength := (List.dropWhile_sublist (l := after) (· ≠ '\x7d')).length_le
      rw [hdrop] at hlength
      simp only [List.length_cons] at hlength ⊢
      omega
    · cases h
  · obtain ⟨⟨c, after⟩, hunit, heq⟩ := Option.map_eq_some_iff.1 h
    obtain ⟨-, rfl⟩ := Prod.mk.inj heq
    have := unitEscape?_length hunit
    simp only [List.length_cons]
    omega
  · split at h
    · cases h
    · obtain ⟨-, rfl⟩ := Prod.mk.inj (Option.some.inj h)
      simp only [List.length_cons]
      omega
  · split at h
    · cases h
    · split at h
      · obtain ⟨-, rfl⟩ := Prod.mk.inj (Option.some.inj h)
        simp only [List.length_cons]
        omega
      · obtain ⟨-, rfl⟩ := Prod.mk.inj (Option.some.inj h)
        simp only [List.length_cons]
        omega

/-- Reads up to the closing quotation mark; `taken` is the text so far, backwards. -/
def quotedAfter (taken : List Char) : List Char → Option (List Char × List Char)
  | [] => none
  | c :: rest =>
    if c = '\'' then some (taken.reverse, rest)
    else if c = '\\' then
      match _hescape : escape? rest with
      | none => none
      | some (stands, after) => quotedAfter (stands.reverse ++ taken) after
    else if c = '\n' ∨ c = '\r' then none
    else quotedAfter (c :: taken) rest
termination_by s => s.length
decreasing_by
  · have := escape?_length _hescape
    simp only [List.length_cons]
    omega
  · simp only [List.length_cons]
    omega

/-- Reads a text whose opening quotation mark has been read. -/
def quoted? (s : List Char) : Option (List Char × List Char) :=
  quotedAfter [] s

/-! ## Regular expressions -/

/-- Is one inside a class after the character? -/
def classAfter (inClass : Bool) (c : Char) : Bool :=
  if c == '[' then true else if c == ']' then false else inClass

/-- Reads up to the closing slash; `taken` is the expression so far, backwards. -/
def regexAfter (inClass : Bool) (taken : List Char) : List Char → Option (List Char × List Char)
  | [] => none
  | '\\' :: c :: rest =>
    if isLineEnd c then none else regexAfter inClass (c :: '\\' :: taken) rest
  | c :: rest =>
    if isLineEnd c || c == '\\' then none
    else if c == '/' && !inClass then some (taken.reverse, rest)
    else regexAfter (classAfter inClass c) (c :: taken) rest

/-- Reads a regular expression whose opening slash has been read. It has no flags. -/
def regex? (s : List Char) : Option (List Char × List Char) :=
  match s with
  | '*' :: _ => none
  | '/' :: _ => none
  | s =>
    match regexAfter false [] s with
    | some (body, rest) => if rest.head?.any isIdentifierPart then none else some (body, rest)
    | none => none

/-- The rest of the body of a regular expression: nothing that would end it early, and
nothing left open. -/
def isBodyFrom (inClass : Bool) : List Char → Bool
  | [] => !inClass
  | ['\\'] => false
  | '\\' :: c :: rest => !isLineEnd c && isBodyFrom inClass rest
  | c :: rest =>
    !isLineEnd c && !(c == '/' && !inClass) && isBodyFrom (classAfter inClass c) rest

/-- Can the text stand between slashes as a regular expression? -/
def isRegexBody (s : String) : Bool :=
  match s.toList with
  | [] => false
  | '*' :: _ => false
  | body => isBodyFrom false body

/-! ## Tokens -/

inductive Token where
  | word (name : String)
  | text (value : String)
  | numeral (value : Numeral)
  | regex (body : String)
  | mark (c : Char)

/-- The marks. -/
def marks : List Char :=
  ['(', ')', '[', ']', '\x7b', '\x7d', ',', ':', ';', '=', '.']

/-- Reads the token that begins with `c`. -/
def tokenFrom? (c : Char) (rest : List Char) : Option (Token × List Char) :=
  if isIdentifierStart c then
    let (name, rest) := rest.span isIdentifierPart
    some (.word (String.ofList (c :: name)), rest)
  else if marks.contains c then some (.mark c, rest)
  else if c == '\'' then (quoted? rest).map fun (s, rest) => (.text (String.ofList s), rest)
  else if c == '"' then (Json.text? rest).map fun (s, rest) => (.text s, rest)
  else if c == '/' then (regex? rest).map fun (body, rest) => (.regex (String.ofList body), rest)
  else (Numeral.read? (c :: rest)).map fun (n, rest) => (.numeral n, rest)

/-- Reads the next token, with the blanks in front of it. -/
def next? (s : List Char) : Option (Token × List Char) :=
  match Json.skipSpace s with
  | [] => none
  | c :: rest => tokenFrom? c rest

/-! ## Blanks -/

/-- A blank in front of a token plays no part. -/
theorem next?_blank {c : Char} {s : List Char} (hc : Json.isSpace c = true) :
    next? (c :: s) = next? s := by
  rw [next?, Json.skipSpace, List.dropWhile_cons_of_pos hc]
  rfl

theorem next?_blanks {blanks s : List Char} (h : ∀ c ∈ blanks, Json.isSpace c = true) :
    next? (blanks ++ s) = next? s := by
  induction blanks with
  | nil => rfl
  | cons c rest ih =>
    rw [List.cons_append, next?_blank (h c List.mem_cons_self)]
    exact ih fun d hd => h d (List.mem_cons_of_mem _ hd)

theorem next?_of_not_blank {c : Char} {rest : List Char} (hc : Json.isSpace c = false) :
    next? (c :: rest) = tokenFrom? c rest := by
  rw [next?, Json.skipSpace, List.dropWhile_cons_of_neg (by rw [hc]; decide)]

/-! ## Words and marks -/

theorem not_blank_of_isIdentifierStart {c : Char} (hc : isIdentifierStart c = true) :
    Json.isSpace c = false := by
  rw [Bool.eq_false_iff]
  intro hspace
  simp only [Json.isSpace, Bool.or_eq_true, beq_iff_eq] at hspace
  rcases hspace with ((rfl | rfl) | rfl) | rfl <;> exact absurd hc (by decide)

theorem marks_spec {c : Char} (hc : c ∈ marks) :
    Json.isSpace c = false ∧ isIdentifierStart c = false := by
  have hall : marks.all (fun c => !Json.isSpace c && !isIdentifierStart c) = true := by decide
  simpa using List.all_eq_true.1 hall c hc

theorem next?_mark {c : Char} (hc : c ∈ marks) (rest : List Char) :
    next? (c :: rest) = some (.mark c, rest) := by
  obtain ⟨hspace, hstart⟩ := marks_spec hc
  rw [next?_of_not_blank hspace, tokenFrom?, if_neg (by rw [hstart]; decide),
    if_pos (List.contains_iff_mem.2 hc)]

/-- A word is read to its end. -/
theorem next?_word {name : String} (hname : isIdentifier name = true) {rest : List Char}
    (hrest : ∀ c, rest.head? = some c → isIdentifierPart c = false) :
    next? (name.toList ++ rest) = some (.word name, rest) := by
  rw [isIdentifier] at hname
  split at hname
  · cases hname
  · rename_i first others hlist
    rw [Bool.and_eq_true, List.all_eq_true] at hname
    rw [hlist, List.cons_append, next?_of_not_blank (not_blank_of_isIdentifierStart hname.1),
      tokenFrom?, if_pos hname.1, Numeral.span_append hname.2 hrest]
    simp only [← hlist, String.ofList_toList]

theorem next?_word_cons {name : String} (hname : isIdentifier name = true) {c : Char}
    (hc : isIdentifierPart c = false) (rest : List Char) :
    next? (name.toList ++ c :: rest) = some (.word name, c :: rest) := by
  refine next?_word hname fun c' hc' => ?_
  obtain rfl := Option.some.inj hc'
  exact hc

/-! ## Texts -/

theorem quotedAfter_escape {taken rest stands after : List Char}
    (h : escape? rest = some (stands, after)) :
    quotedAfter taken ('\\' :: rest) = quotedAfter (stands.reverse ++ taken) after := by
  rw [quotedAfter, if_neg (by decide), if_pos rfl]
  split
  · rename_i hnone
    rw [h] at hnone
    cases hnone
  · rename_i stands' after' hsome
    rw [h] at hsome
    obtain ⟨rfl, rfl⟩ := Prod.mk.inj (Option.some.inj hsome)
    rfl

theorem quotedAfter_plain {taken rest : List Char} {c : Char} (hquote : c ≠ '\'')
    (hslash : c ≠ '\\') (hline : c ≠ '\n') (hreturn : c ≠ '\r') :
    quotedAfter taken (c :: rest) = quotedAfter (c :: taken) rest := by
  rw [quotedAfter, if_neg hquote, if_neg hslash, if_neg (not_or.2 ⟨hline, hreturn⟩)]

/-- One character inside quotation marks is read as that character. -/
theorem quotedAfter_escape_append (c : Char) (taken rest : List Char) :
    quotedAfter taken (Angular.escape c ++ rest) = quotedAfter (c :: taken) rest := by
  have hletter : ∀ stands letter, escape? (letter :: rest) = some ([stands], rest) →
      quotedAfter taken (['\\', letter] ++ rest) = quotedAfter (stands :: taken) rest :=
    fun _ _ h => quotedAfter_escape h
  unfold Angular.escape
  split
  · exact hletter '\\' '\\' rfl
  · exact hletter '\'' '\'' rfl
  · exact hletter '\n' 'n' rfl
  · exact hletter '\r' 'r' rfl
  · rename_i hslash hquote hline hreturn
    exact quotedAfter_plain hquote hslash hline hreturn

theorem quotedAfter_flatMap (s taken rest : List Char) :
    quotedAfter taken (s.flatMap Angular.escape ++ '\'' :: rest) =
      some (taken.reverse ++ s, rest) := by
  induction s generalizing taken with
  | nil => rw [List.flatMap_nil, List.nil_append, quotedAfter, if_pos rfl, List.append_nil]
  | cons c s ih =>
    rw [List.flatMap_cons, List.append_assoc, quotedAfter_escape_append, ih, List.reverse_cons,
      List.append_assoc, List.singleton_append]

/-- **A quoted text is read as that text**, whatever follows it. -/
theorem next?_quote (s : String) (rest : List Char) :
    next? ((Angular.quote s).toList ++ rest) = some (.text s, rest) := by
  have hlist : (Angular.quote s).toList ++ rest =
      '\'' :: (s.toList.flatMap Angular.escape ++ '\'' :: rest) := by
    rw [Angular.quote, String.toList_ofList]
    simp only [List.cons_append, List.append_assoc, List.nil_append]
  have hquoted := quotedAfter_flatMap s.toList [] rest
  rw [hlist, next?_of_not_blank (by decide)]
  change (quoted? _).map _ = _
  rw [quoted?, hquoted, List.reverse_nil, List.nil_append]
  exact congrArg (fun value => some (Token.text value, rest)) String.ofList_toList

theorem hexadecimal_spec : ∀ n < 32,
    Json.hexadecimal 4 n = ['0', '0', Nat.digitChar (n / 16), Nat.digitChar (n % 16)] ∧
      Text.natural? 16 ['0', '0', Nat.digitChar (n / 16), Nat.digitChar (n % 16)] = some n := by
  decide

/-- One character inside the quotation marks of the format is read as that character. -/
theorem textAfter_escape_append (c : Char) (taken rest : List Char) :
    Json.textAfter taken (Json.escape c ++ rest) = Json.textAfter (c :: taken) rest := by
  unfold Json.escape
  split
  case h_8 hquote hslash _ _ _ _ _ =>
    split
    · -- A control character is written by its number, which is too low for a surrogate.
      rename_i hcontrol
      obtain ⟨hdigits, hnatural⟩ := hexadecimal_spec c.toNat hcontrol
      rw [hdigits]
      simp only [List.cons_append, List.nil_append]
      rw [Json.textAfter, hnatural]
      have hleading : Json.isLeadingSurrogate c.toNat = false := by
        rw [Json.isLeadingSurrogate, decide_eq_false (by omega), Bool.false_and]
      have htrailing : Json.isTrailingSurrogate c.toNat = false := by
        rw [Json.isTrailingSurrogate, decide_eq_false (by omega), Bool.false_and]
      simp only [hleading, htrailing, Bool.false_eq_true, if_false, Char.ofNat_toNat]
    · rename_i hcontrol
      rw [List.singleton_append, Json.textAfter, if_neg]
      · simp only [hcontrol, decide_false, Bool.false_or, beq_iff_eq]
        exact hslash
      all_goals
        intros
        simp_all
  all_goals
    simp only [List.cons_append, List.nil_append]
    rw [Json.textAfter]
    · rfl
    · simp

theorem textAfter_flatMap (s taken rest : List Char) :
    Json.textAfter taken (s.flatMap Json.escape ++ '"' :: rest) =
      some (String.ofList (taken.reverse ++ s), rest) := by
  induction s generalizing taken with
  | nil => rw [List.flatMap_nil, List.nil_append, Json.textAfter, List.append_nil]
  | cons c s ih =>
    rw [List.flatMap_cons, List.append_assoc, textAfter_escape_append, ih, List.reverse_cons,
      List.append_assoc, List.singleton_append]

/-- **A text quoted in the format is read as that text**, whatever follows it. -/
theorem next?_jsonQuote (s : String) (rest : List Char) :
    next? ((Json.quote s).toList ++ rest) = some (.text s, rest) := by
  have hlist : (Json.quote s).toList ++ rest =
      '"' :: (s.toList.flatMap Json.escape ++ '"' :: rest) := by
    rw [Json.quote, String.toList_ofList]
    simp only [List.cons_append, List.append_assoc, List.nil_append]
  have htext := textAfter_flatMap s.toList [] rest
  rw [List.reverse_nil, List.nil_append, String.ofList_toList] at htext
  rw [hlist, next?_of_not_blank (by decide)]
  change (Json.text? _).map _ = _
  rw [Json.text?, htext]
  rfl

/-! ## Regular expressions -/

theorem regexAfter_body {inClass : Bool} {body : List Char} (h : isBodyFrom inClass body = true)
    (taken rest : List Char) :
    regexAfter inClass taken (body ++ '/' :: rest) = some (taken.reverse ++ body, rest) := by
  induction inClass, body using isBodyFrom.induct generalizing taken with
  | case1 inClass =>
    rw [isBodyFrom, Bool.not_eq_true'] at h
    rw [h, List.nil_append, regexAfter, List.append_nil]
    · rfl
    · simp
  | case2 inClass => cases h
  | case3 inClass c body ih =>
    rw [isBodyFrom, Bool.and_eq_true, Bool.not_eq_true'] at h
    rw [List.cons_append, List.cons_append, regexAfter, if_neg (by rw [h.1]; decide), ih h.2]
    simp only [List.reverse_cons, List.append_assoc, List.cons_append, List.nil_append]
  | case4 inClass c body hlone hescape ih =>
    -- A backslash would have begun an escape, or be the last character.
    have hslash : c ≠ '\\' := by
      rintro rfl
      cases body with
      | nil => exact hlone rfl rfl
      | cons next body => exact hescape next body rfl rfl
    rw [isBodyFrom, Bool.and_eq_true, Bool.and_eq_true, Bool.not_eq_true', Bool.not_eq_true'] at h
    · obtain ⟨⟨hline, hopen⟩, hbody⟩ := h
      rw [List.cons_append, regexAfter, if_neg, if_neg (by rw [hopen]; decide), ih hbody,
        List.reverse_cons, List.append_assoc, List.singleton_append]
      · rw [hline, Bool.false_or, beq_iff_eq]
        exact hslash
      · exact fun _ _ heq _ => hslash heq
    · exact hlone
    · exact hescape

/-- **A regular expression is read to its closing slash.** -/
theorem next?_regex {body : String} (hbody : isRegexBody body = true) {rest : List Char}
    (hrest : ∀ c, rest.head? = some c → isIdentifierPart c = false) :
    next? ('/' :: (body.toList ++ '/' :: rest)) = some (.regex body, rest) := by
  have hflags : rest.head?.any isIdentifierPart = false := by
    cases rest with
    | nil => rfl
    | cons c rest => exact hrest c rfl
  have hregex : regex? (body.toList ++ '/' :: rest) = some (body.toList, rest) := by
    rw [isRegexBody] at hbody
    generalize body.toList = chars at *
    cases chars with
    | nil => cases hbody
    | cons c chars =>
      -- Either of the two would make a comment of it.
      have hasterisk : c ≠ '*' := by
        rintro rfl
        cases hbody
      have hslash : c ≠ '/' := by
        rintro rfl
        cases hbody
      have hfrom : isBodyFrom false (c :: chars) = true := by
        split at hbody
        · cases hbody
        · cases hbody
        · exact hbody
      have hafter := regexAfter_body hfrom [] rest
      unfold regex?
      split
      · rename_i heq
        exact (hasterisk (List.cons.inj heq).1).elim
      · rename_i heq
        exact (hslash (List.cons.inj heq).1).elim
      · rw [hafter]
        simp only [List.reverse_nil, List.nil_append, hflags, Bool.false_eq_true, if_false]
  rw [next?_of_not_blank (by decide)]
  change (regex? _).map _ = _
  rw [hregex]
  exact congrArg (fun value => some (Token.regex value, rest)) String.ofList_toList

/-! ## Numerals -/

/-- What a numeral can begin with. -/
def numeralStarts : List Char :=
  ['-', '0', '1', '2', '3', '4', '5', '6', '7', '8', '9']

theorem numeralStarts_spec : ∀ c ∈ numeralStarts, Json.isSpace c = false ∧
    ∀ rest, tokenFrom? c rest =
      (Numeral.read? (c :: rest)).map fun (n, rest) => (.numeral n, rest) := by
  intro c hc
  simp only [numeralStarts, List.mem_cons, List.not_mem_nil, or_false] at hc
  rcases hc with rfl | rfl | rfl | rfl | rfl | rfl | rfl | rfl | rfl | rfl | rfl <;>
    exact ⟨by decide, fun _ => rfl⟩

theorem mem_numeralStarts_of_isDigit {c : Char} (hc : c.isDigit = true) : c ∈ numeralStarts := by
  obtain ⟨hlow, hhigh⟩ := Char.isDigit_iff_toNat.1 hc
  have hall : ∀ n < 58, 48 ≤ n → Char.ofNat n ∈ numeralStarts := by decide
  rw [← Char.ofNat_toNat c]
  exact hall c.toNat (Nat.lt_succ_of_le hhigh) hlow

theorem next?_numeral {numeral : Numeral} (h : numeral.WellFormed) {rest : List Char}
    (hrest : Numeral.Ends rest) :
    next? (numeral.chars ++ rest) = some (.numeral numeral, rest) := by
  have hread := Numeral.read?_chars h hrest
  obtain ⟨c, tail, hchars, hc⟩ : ∃ c tail,
      numeral.chars ++ rest = c :: tail ∧ c ∈ numeralStarts := by
    rw [Numeral.chars]
    split
    · exact ⟨'-', _, rfl, List.mem_cons_self⟩
    · have hwhole := h.whole
      cases hcase : numeral.whole with
      | nil => exact (h.nonempty hcase).elim
      | cons c whole =>
        rw [hcase] at hwhole
        exact ⟨c, _, rfl, mem_numeralStarts_of_isDigit (hwhole c List.mem_cons_self)⟩
  obtain ⟨hspace, htoken⟩ := numeralStarts_spec c hc
  rw [hchars] at hread ⊢
  rw [next?_of_not_blank hspace, htoken, hread]
  rfl

end SchemaForms.Script
