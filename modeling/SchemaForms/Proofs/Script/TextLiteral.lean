/-
Texts in single quotation marks, by the grammar of ECMAScript 2019. A text is a sequence of
code units of 16 bits, and what stands between the quotation marks contributes to it piece by
piece: a character its own units, a backslash with what belongs to it the units that it
stands for, and the end of a line behind a backslash none. The text ends at the first
quotation mark that is not part of an escape.

The productions of the grammar are the constructors of `Escaped`, `TextBody` and
`TextLiteral`. That there is only one way to apply them to given characters is a theorem
(`TextLiteral.unique`), and it is what makes it meaningful to ask where a literal ends and
what it stands for: every reader that goes by the grammar gives the same answer. Nor can
more characters behind a literal change it (`TextLiteral.append`).

Code units are numbers here. An escape can stand for half of a pair of surrogates, so not
every sequence of units is that of a text of characters, but no two texts have the same
(`units_injective`).
-/
import SchemaForms.Proofs.Script.Token

set_option autoImplicit false

namespace SchemaForms.Script

/-! ## Code units -/

/-- The code units of a code point: itself, or a pair of surrogates. -/
def unitsOf (n : Nat) : List Nat :=
  if n < 0x10000 then [n]
  else [0xD800 + (n - 0x10000) / 0x400, 0xDC00 + (n - 0x10000) % 0x400]

/-- The code units of a text. -/
def units (s : List Char) : List Nat :=
  s.flatMap fun c => unitsOf c.toNat

@[simp] theorem units_nil : units [] = [] := rfl

@[simp] theorem units_cons (c : Char) (s : List Char) :
    units (c :: s) = unitsOf c.toNat ++ units s :=
  List.flatMap_cons

/-- The first character can be told from the units: no character is a surrogate, so a pair
of them is not mistaken for two characters. -/
theorem unitsOf_append_inj {c d : Char} {ns ms : List Nat}
    (h : unitsOf c.toNat ++ ns = unitsOf d.toNat ++ ms) : c = d ∧ ns = ms := by
  have hc : c.toNat < 0xD800 ∨ 0xDFFF < c.toNat ∧ c.toNat < 0x110000 := c.valid
  have hd : d.toNat < 0xD800 ∨ 0xDFFF < d.toNat ∧ d.toNat < 0x110000 := d.valid
  suffices heq : c.toNat = d.toNat ∧ ns = ms from ⟨Char.toNat_inj.1 heq.1, heq.2⟩
  unfold unitsOf at h
  by_cases hlow : c.toNat < 0x10000
  · by_cases hlow' : d.toNat < 0x10000
    · rw [if_pos hlow, if_pos hlow'] at h
      simpa using h
    · -- The first unit would be a character and the first half of a pair.
      rw [if_pos hlow, if_neg hlow'] at h
      simp only [List.cons_append, List.nil_append, List.cons.injEq] at h
      omega
  · by_cases hlow' : d.toNat < 0x10000
    · rw [if_neg hlow, if_pos hlow'] at h
      simp only [List.cons_append, List.nil_append, List.cons.injEq] at h
      omega
    · -- A pair is a quotient and a remainder by the same number.
      rw [if_neg hlow, if_neg hlow'] at h
      simp only [List.cons_append, List.nil_append, List.cons.injEq] at h
      obtain ⟨hleading, htrailing, hrest⟩ := h
      exact ⟨by omega, hrest⟩

theorem unitsOf_ne_nil (n : Nat) : unitsOf n ≠ [] := by
  unfold unitsOf
  split <;> simp

/-- **Different texts have different code units.** -/
theorem units_injective {s t : List Char} (h : units s = units t) : s = t := by
  induction s generalizing t with
  | nil =>
    cases t with
    | nil => rfl
    | cons d t =>
      have hnil := (List.append_eq_nil_iff.1 (h.symm.trans units_nil)).1
      exact (unitsOf_ne_nil _ hnil).elim
  | cons c s ih =>
    cases t with
    | nil =>
      have hnil := (List.append_eq_nil_iff.1 (h.trans units_nil)).1
      exact (unitsOf_ne_nil _ hnil).elim
    | cons d t =>
      obtain ⟨rfl, hrest⟩ := unitsOf_append_inj h
      rw [ih hrest]

/-! ## The grammar -/

/-- The unit that a letter or mark stands for behind a backslash, if it is one of those with
a meaning of their own. -/
def singleEscape? (c : Char) : Option Nat :=
  match c with
  | '\'' => some 0x27
  | '"' => some 0x22
  | '\\' => some 0x5C
  | 'b' => some 0x08
  | 'f' => some 0x0C
  | 'n' => some 0x0A
  | 'r' => some 0x0D
  | 't' => some 0x09
  | 'v' => some 0x0B
  | _ => none

/-- Does the character have a meaning behind a backslash, alone or with what follows? -/
def isEscapeCharacter (c : Char) : Bool :=
  (singleEscape? c).isSome || c.isDigit || c == 'x' || c == 'u'

/-- What stands behind a backslash, the units that it contributes, and the rest. -/
inductive Escaped : List Char → List Nat → List Char → Prop where
  | single {c : Char} {n : Nat} {rest : List Char} (h : singleEscape? c = some n) :
      Escaped (c :: rest) [n] rest
  /-- A character without a meaning stands for itself. -/
  | other {c : Char} {rest : List Char} (h : isEscapeCharacter c = false)
      (hline : isLineEnd c = false) : Escaped (c :: rest) (unitsOf c.toNat) rest
  /-- A zero that does not begin a number. -/
  | null {rest : List Char} (h : ∀ c, rest.head? = some c → c.isDigit = false) :
      Escaped ('0' :: rest) [0] rest
  | hexadecimal {a b : Char} {n : Nat} {rest : List Char}
      (h : Text.natural? 16 [a, b] = some n) : Escaped ('x' :: a :: b :: rest) [n] rest
  | codeUnit {a b c d : Char} {n : Nat} {rest : List Char}
      (h : Text.natural? 16 [a, b, c, d] = some n) :
      Escaped ('u' :: a :: b :: c :: d :: rest) [n] rest
  | codePoint {digits braced rest : List Char} {n : Nat} (h : Text.natural? 16 digits = some n)
      (hn : n ≤ 0x10FFFF) (hbraced : braced = digits ++ '\x7d' :: rest) :
      Escaped ('u' :: '\x7b' :: braced) (unitsOf n) rest
  /-- The end of a line, which is left out. -/
  | lineEnd {c : Char} {rest : List Char} (h : isLineEnd c = true) (hc : c ≠ '\r') :
      Escaped (c :: rest) [] rest
  | carriageReturn {rest : List Char} (h : rest.head? ≠ some '\n') :
      Escaped ('\r' :: rest) [] rest
  | carriageReturnLine {rest : List Char} : Escaped ('\r' :: '\n' :: rest) [] rest

/-- The rest of a text in quotation marks, its units, and what stands behind it. -/
inductive TextBody : List Char → List Nat → List Char → Prop where
  | closing {rest : List Char} : TextBody ('\'' :: rest) [] rest
  /-- Of the ends of lines only those of Unicode may stand in a text. -/
  | plain {c : Char} {s rest : List Char} {ns : List Nat} (hquote : c ≠ '\'') (hslash : c ≠ '\\')
      (hline : c ≠ '\n') (hreturn : c ≠ '\r') (h : TextBody s ns rest) :
      TextBody (c :: s) (unitsOf c.toNat ++ ns) rest
  | escaped {s t rest : List Char} {first ns : List Nat} (hfirst : Escaped s first t)
      (h : TextBody t ns rest) : TextBody ('\\' :: s) (first ++ ns) rest

/-- A text in single quotation marks at the beginning of the characters, its units, and what
stands behind it. -/
inductive TextLiteral : List Char → List Nat → List Char → Prop where
  | quoted {s rest : List Char} {ns : List Nat} (h : TextBody s ns rest) :
      TextLiteral ('\'' :: s) ns rest

/-! ## One reading -/

theorem singleEscape?_of_isLineEnd {c : Char} (h : isLineEnd c = true) :
    singleEscape? c = none := by
  simp only [isLineEnd, Bool.or_eq_true, beq_iff_eq] at h
  rcases h with ((rfl | rfl) | rfl) | rfl <;> rfl

/-- A brace is no digit, so the first one that closes ends the digits of a code point. -/
theorem brace_notMem_of_naturalFrom? {digits : List Char} {m n : Nat}
    (h : Text.naturalFrom? 16 m digits = some n) : '\x7d' ∉ digits := by
  induction digits generalizing m with
  | nil => simp
  | cons c rest ih =>
    rw [Text.naturalFrom?] at h
    split at h
    · rename_i d hd
      rw [List.mem_cons, not_or]
      refine ⟨?_, ih h⟩
      rintro rfl
      cases hd
    · cases h

theorem brace_notMem_of_natural? {digits : List Char} {n : Nat}
    (h : Text.natural? 16 digits = some n) : '\x7d' ∉ digits := by
  cases digits with
  | nil => simp
  | cons c rest => exact brace_notMem_of_naturalFrom? h

theorem braced_unique {digits digits' rest rest' : List Char} (h : '\x7d' ∉ digits)
    (h' : '\x7d' ∉ digits') (heq : digits ++ '\x7d' :: rest = digits' ++ '\x7d' :: rest') :
    digits = digits' ∧ rest = rest' := by
  have hspan : ∀ digits rest : List Char, '\x7d' ∉ digits →
      (digits ++ '\x7d' :: rest).span (· ≠ '\x7d') = (digits, '\x7d' :: rest) := by
    intro digits rest hdigits
    apply Numeral.span_append
    · intro c hc
      simp only [ne_eq, decide_eq_true_eq]
      rintro rfl
      exact hdigits hc
    · intro c hc
      obtain rfl := Option.some.inj hc
      rfl
  have hfirst := hspan digits rest h
  rw [heq, hspan digits' rest' h'] at hfirst
  obtain ⟨hdigits, hrest⟩ := Prod.mk.inj hfirst
  exact ⟨hdigits.symm, (List.cons.inj hrest).2.symm⟩

/-- **What stands behind a backslash can be read in one way only.** The first character says
which production it is, but for the braces of a code point and for the two ways to end a
line, and there the next one does. -/
theorem Escaped.unique {s t t' : List Char} {ns ns' : List Nat} (h : Escaped s ns t)
    (h' : Escaped s ns' t') : ns = ns' ∧ t = t' := by
  cases h with
  | single hn =>
    cases h' with
    | single hn' =>
      obtain rfl := Option.some.inj (hn.symm.trans hn')
      exact ⟨rfl, rfl⟩
    | other hplain => simp [isEscapeCharacter, hn] at hplain
    | lineEnd hline =>
      rw [singleEscape?_of_isLineEnd hline] at hn
      cases hn
    | _ => cases hn
  | other hplain hline =>
    cases h' with
    | single hn => simp [isEscapeCharacter, hn] at hplain
    | other => exact ⟨rfl, rfl⟩
    | lineEnd hline' =>
      rw [hline'] at hline
      cases hline
    | carriageReturn => cases hline
    | carriageReturnLine => cases hline
    | _ => cases hplain
  | null =>
    cases h' with
    | single hn => cases hn
    | other hplain => cases hplain
    | null => exact ⟨rfl, rfl⟩
    | lineEnd hline => cases hline
  | hexadecimal hdigits =>
    cases h' with
    | single hn => cases hn
    | other hplain => cases hplain
    | hexadecimal hdigits' =>
      obtain rfl := Option.some.inj (hdigits.symm.trans hdigits')
      exact ⟨rfl, rfl⟩
    | lineEnd hline => cases hline
  | codeUnit hdigits =>
    cases h' with
    | single hn => cases hn
    | other hplain => cases hplain
    | codeUnit hdigits' =>
      obtain rfl := Option.some.inj (hdigits.symm.trans hdigits')
      exact ⟨rfl, rfl⟩
    -- A brace is no digit.
    | codePoint => cases hdigits
    | lineEnd hline => cases hline
  | codePoint hdigits hn hbraced =>
    cases h' with
    | single hn => cases hn
    | other hplain => cases hplain
    | codeUnit hdigits' => cases hdigits'
    | codePoint hdigits' hn' hbraced' =>
      obtain ⟨rfl, rfl⟩ := braced_unique (brace_notMem_of_natural? hdigits)
        (brace_notMem_of_natural? hdigits') (hbraced.symm.trans hbraced')
      obtain rfl := Option.some.inj (hdigits.symm.trans hdigits')
      exact ⟨rfl, rfl⟩
    | lineEnd hline => cases hline
  | lineEnd hline hc =>
    cases h' with
    | single hn =>
      rw [singleEscape?_of_isLineEnd hline] at hn
      cases hn
    | other hplain hline' =>
      rw [hline] at hline'
      cases hline'
    | lineEnd => exact ⟨rfl, rfl⟩
    | carriageReturn => exact (hc rfl).elim
    | carriageReturnLine => exact (hc rfl).elim
    | _ => cases hline
  | carriageReturn h =>
    cases h' with
    | single hn => cases hn
    | other hplain hline => cases hline
    | lineEnd hline hc => exact (hc rfl).elim
    | carriageReturn => exact ⟨rfl, rfl⟩
    | carriageReturnLine => exact (h rfl).elim
  | carriageReturnLine =>
    cases h' with
    | single hn => cases hn
    | other hplain hline => cases hline
    | lineEnd hline hc => exact (hc rfl).elim
    | carriageReturn h => exact (h rfl).elim
    | carriageReturnLine => exact ⟨rfl, rfl⟩

theorem TextBody.unique {s t t' : List Char} {ns ns' : List Nat} (h : TextBody s ns t)
    (h' : TextBody s ns' t') : ns = ns' ∧ t = t' := by
  -- The first character decides between the three productions.
  induction h generalizing ns' with
  | closing =>
    cases h' with
    | closing => exact ⟨rfl, rfl⟩
    | plain hquote => exact (hquote rfl).elim
  | plain hquote hslash hline hreturn h ih =>
    cases h' with
    | closing => exact (hquote rfl).elim
    | plain _ _ _ _ h' =>
      obtain ⟨rfl, rfl⟩ := ih h'
      exact ⟨rfl, rfl⟩
    | escaped => exact (hslash rfl).elim
  | escaped hfirst h ih =>
    cases h' with
    | plain _ hslash => exact (hslash rfl).elim
    | escaped hfirst' h' =>
      obtain ⟨rfl, rfl⟩ := hfirst.unique hfirst'
      obtain ⟨rfl, rfl⟩ := ih h'
      exact ⟨rfl, rfl⟩

/-- **A literal has one end and stands for one text.** -/
theorem TextLiteral.unique {s t t' : List Char} {ns ns' : List Nat} (h : TextLiteral s ns t)
    (h' : TextLiteral s ns' t') : ns = ns' ∧ t = t' := by
  cases h with
  | quoted h =>
    cases h' with
    | quoted h' => exact h.unique h'

/-! ## More characters behind -/

/-- An escape looks at most one character beyond its own, so what comes behind that makes no
difference to it. -/
theorem Escaped.append {s t : List Char} {ns : List Nat} (h : Escaped s ns t) (ht : t ≠ [])
    (more : List Char) : Escaped (s ++ more) ns (t ++ more) := by
  have hhead : (t ++ more).head? = t.head? := List.head?_append_of_ne_nil _ ht
  cases h with
  | single h => exact .single h
  | other h hline => exact .other h hline
  | null h => exact @Escaped.null (t ++ more) (by rwa [hhead])
  | hexadecimal h => exact .hexadecimal h
  | codeUnit h => exact .codeUnit h
  | @codePoint digits braced rest n h hn hbraced =>
    have hlonger : braced ++ more = digits ++ '\x7d' :: (t ++ more) := by
      rw [hbraced, List.append_assoc, List.cons_append]
    exact .codePoint h hn hlonger
  | lineEnd h hc => exact .lineEnd h hc
  | carriageReturn h => exact @Escaped.carriageReturn (t ++ more) (by rwa [hhead])
  | carriageReturnLine => exact .carriageReturnLine

theorem TextBody.ne_nil {s t : List Char} {ns : List Nat} (h : TextBody s ns t) : s ≠ [] := by
  cases h <;> simp

theorem TextBody.append {s t : List Char} {ns : List Nat} (h : TextBody s ns t)
    (more : List Char) : TextBody (s ++ more) ns (t ++ more) := by
  induction h with
  | closing => exact .closing
  | plain hquote hslash hline hreturn _ ih => exact .plain hquote hslash hline hreturn ih
  | escaped hfirst h ih => exact .escaped (hfirst.append h.ne_nil more) ih

/-- **A literal that is complete stays the same whatever comes behind it.** -/
theorem TextLiteral.append {s t : List Char} {ns : List Nat} (h : TextLiteral s ns t)
    (more : List Char) : TextLiteral (s ++ more) ns (t ++ more) := by
  cases h with
  | quoted h => exact .quoted (h.append more)

end SchemaForms.Script
