/-
Numbers read back from their text. A numeral is a number as it is written: a sign, the
digits before the point, those after it and an exponent. It stands for an integer if it
has neither point nor exponent and fits 64 bits, and else for the nearest double, however
many digits it has.

Every number is written as such a numeral (`Number.exists_numeral`). For integers that
is the law of decimal digits. The text of a double places the point and writes zeros in
three different ways, but all three give the numeral the value of the shortest decimal,
and that rounds to the double.
-/
import SchemaForms.Json.Literal
import SchemaForms.Proofs.Number.Shortest

set_option autoImplicit false

namespace SchemaForms

/-! ## Numerals -/

/-- A number as it is written. -/
structure Numeral where
  negative : Bool := false
  /-- The digits before the point. -/
  whole : List Char
  /-- The digits after the point, if there is one. -/
  fraction : Option (List Char) := none
  exponent : Option Int := none

namespace Numeral

/-- Is there a minus sign, and what comes after it? -/
def readSign (s : List Char) : Bool × List Char :=
  match s with
  | '-' :: rest => (true, rest)
  | _ => (false, s)

/-- Reads a numeral at the beginning of a text. -/
def read? (s : List Char) : Option (Numeral × List Char) :=
  let (negative, s) := readSign s
  match Json.wholePart? s with
  | none => none
  | some (whole, s) =>
    match Json.fractionPart? s with
    | none => none
    | some (fraction, s) =>
      match Json.exponentPart? s with
      | none => none
      | some (exponent, s) => some ({ negative, whole, fraction, exponent }, s)

/-- The digits without the point. -/
def digits (numeral : Numeral) : List Char :=
  numeral.whole ++ numeral.fraction.getD []

/-- The power of ten that the digits without the point are to be taken by. -/
def scale (numeral : Numeral) : Int :=
  numeral.exponent.getD 0 - (numeral.fraction.getD []).length

/-- The double nearest to what is written. -/
def double? (numeral : Numeral) : Option Number :=
  (Double.ofRatio? numeral.negative
    (Json.natural numeral.digits * Nat.pow 10 numeral.scale.toNat)
    (1 * Nat.pow 10 (-numeral.scale).toNat)).map .double

/-- The integer that is written, the point and the exponent apart. -/
def integer (numeral : Numeral) : Int :=
  if numeral.negative then -Json.natural numeral.whole else Json.natural numeral.whole

/-- Is it written as an integer? Minus zero is not. -/
def isInteger (numeral : Numeral) : Bool :=
  numeral.fraction.isNone && numeral.exponent.isNone &&
    !(numeral.negative && numeral.integer == 0)

/-- The number that a numeral stands for. -/
def value? (numeral : Numeral) : Option Number :=
  if numeral.isInteger then
    if fits : Fits64 numeral.integer then some (.integer numeral.integer fits)
    else numeral.double?
  else
    numeral.double?

/-- The natural number that a numeral stands for, however great. -/
def natural? (numeral : Numeral) : Option Nat :=
  if numeral.isInteger && !numeral.negative then some (Json.natural numeral.whole) else none

/-! ## Writing numerals -/

/-- The text of a fraction. -/
def fractionChars : Option (List Char) → List Char
  | none => []
  | some digits => '.' :: digits

/-- The text of an exponent, its sign always written. -/
def exponentChars : Option Int → List Char
  | none => []
  | some e => 'e' :: (if e < 0 then '-' else '+') :: Nat.toDigits 10 e.natAbs

/-- The text of a numeral. -/
def chars (numeral : Numeral) : List Char :=
  (if numeral.negative then ['-'] else []) ++
    (numeral.whole ++ (fractionChars numeral.fraction ++ exponentChars numeral.exponent))

/-- Digits where digits have to be, and no zero in front of others. -/
structure WellFormed (numeral : Numeral) : Prop where
  whole : ∀ c ∈ numeral.whole, c.isDigit = true
  nonempty : numeral.whole ≠ []
  leading : ∀ c rest, numeral.whole = '0' :: c :: rest → False
  fraction : ∀ digits, numeral.fraction = some digits →
    digits ≠ [] ∧ ∀ c ∈ digits, c.isDigit = true

/-- What may follow a numeral. -/
def Ends (rest : List Char) : Prop :=
  ∀ c, rest.head? = some c → c.isDigit = false ∧ c ≠ '.' ∧ c ≠ 'e' ∧ c ≠ 'E'

theorem span_append {p : Char → Bool} {front rest : List Char} (hfront : ∀ c ∈ front, p c = true)
    (hrest : ∀ c, rest.head? = some c → p c = false) :
    (front ++ rest).span p = (front, rest) := by
  rw [List.span_eq_takeWhile_dropWhile, List.takeWhile_append_of_pos hfront,
    List.dropWhile_append_of_pos hfront]
  cases rest with
  | nil => rw [List.takeWhile_nil, List.dropWhile_nil, List.append_nil]
  | cons c rest =>
    have hc : p c = false := hrest c rfl
    rw [List.takeWhile_cons_of_neg (by rw [hc]; decide),
      List.dropWhile_cons_of_neg (by rw [hc]; decide), List.append_nil]

theorem wholePart?_append {whole rest : List Char} (hdigits : ∀ c ∈ whole, c.isDigit = true)
    (hne : whole ≠ []) (hleading : ∀ c tail, whole = '0' :: c :: tail → False)
    (hrest : ∀ c, rest.head? = some c → c.isDigit = false) :
    Json.wholePart? (whole ++ rest) = some (whole, rest) := by
  rw [Json.wholePart?, Json.spanDigits, span_append hdigits hrest]
  split
  · rename_i heq
    exact (hne (Prod.mk.inj heq).1).elim
  · rename_i heq
    exact (hleading _ _ (Prod.mk.inj heq).1).elim
  · rfl

theorem fractionPart?_point {digits rest : List Char} (hne : digits ≠ [])
    (hdigits : ∀ c ∈ digits, c.isDigit = true)
    (hrest : ∀ c, rest.head? = some c → c.isDigit = false) :
    Json.fractionPart? ('.' :: (digits ++ rest)) = some (some digits, rest) := by
  rw [Json.fractionPart?, Json.spanDigits, span_append hdigits hrest]
  cases digits with
  | nil => exact (hne rfl).elim
  | cons c digits => rfl

theorem fractionPart?_none {rest : List Char} (hrest : ∀ c, rest.head? = some c → c ≠ '.') :
    Json.fractionPart? rest = some (none, rest) := by
  unfold Json.fractionPart?
  split
  · exact (hrest '.' rfl rfl).elim
  · rfl

theorem exponentPart?_none {rest : List Char}
    (hrest : ∀ c, rest.head? = some c → c ≠ 'e' ∧ c ≠ 'E') :
    Json.exponentPart? rest = some (none, rest) := by
  unfold Json.exponentPart?
  split
  · rename_i c rest
    obtain ⟨he, hE⟩ := hrest c rfl
    rw [if_neg (by simp only [Bool.or_eq_true, beq_iff_eq, he, hE, or_self, not_false_eq_true])]
  · rfl

/-- The number that digits spell, in terms of the library's. -/
theorem natural_eq (digits : List Char) : Json.natural digits = Nat.ofDigitChars 10 digits 0 := by
  rw [Json.natural, Nat.ofDigitChars_eq_foldl]
  congr 1
  funext n c
  rw [Json.digitValue, Nat.mul_comm]

theorem natural_toDigits (n : Nat) : Json.natural (Nat.toDigits 10 n) = n := by
  rw [natural_eq, Nat.ofDigitChars_ten_toDigits]

theorem isDigit_of_mem_toDigits {n : Nat} {c : Char} (h : c ∈ Nat.toDigits 10 n) :
    c.isDigit = true :=
  Nat.isDigit_of_mem_toDigits (by decide) (by decide) h

theorem exponentDigits?_toDigits (negative : Bool) (n : Nat) {rest : List Char}
    (hrest : ∀ c, rest.head? = some c → c.isDigit = false) :
    Json.exponentDigits? negative (Nat.toDigits 10 n ++ rest) =
      some (some (if negative then -(n : Int) else n), rest) := by
  rw [Json.exponentDigits?, Json.spanDigits,
    span_append (fun c hc => isDigit_of_mem_toDigits hc) hrest]
  split
  · rename_i heq
    exact (Nat.toDigits_ne_nil (Prod.mk.inj heq).1).elim
  · rename_i heq
    obtain ⟨rfl, rfl⟩ := Prod.mk.inj heq
    rw [natural_toDigits]

theorem exponentPart?_written (e : Int) {rest : List Char}
    (hrest : ∀ c, rest.head? = some c → c.isDigit = false) :
    Json.exponentPart?
      ('e' :: (if e < 0 then '-' else '+') :: (Nat.toDigits 10 e.natAbs ++ rest)) =
        some (some e, rest) := by
  by_cases hnegative : e < 0
  · rw [if_pos hnegative]
    change Json.exponentDigits? true _ = _
    rw [exponentDigits?_toDigits true _ hrest, if_pos rfl]
    congr
    omega
  · rw [if_neg hnegative]
    change Json.exponentDigits? false _ = _
    rw [exponentDigits?_toDigits false _ hrest, if_neg (by decide)]
    congr
    omega

theorem readSign_of_digit {whole rest : List Char} (hdigits : ∀ c ∈ whole, c.isDigit = true)
    (hne : whole ≠ []) : readSign (whole ++ rest) = (false, whole ++ rest) := by
  cases whole with
  | nil => exact (hne rfl).elim
  | cons c whole =>
    unfold readSign
    split
    · rename_i heq
      have hc : c = '-' := (List.cons.inj heq).1
      exact absurd (hdigits c List.mem_cons_self) (by rw [hc]; decide)
    · rfl

/-- **What is written is read.** -/
theorem read?_chars {numeral : Numeral} (h : numeral.WellFormed) {rest : List Char}
    (hrest : Ends rest) : read? (numeral.chars ++ rest) = some (numeral, rest) := by
  have hdigit : ∀ c, rest.head? = some c → c.isDigit = false := fun c hc => (hrest c hc).1
  -- The exponent, the fraction and the whole part, each with what follows it.
  have hexponent : ∀ e, Json.exponentPart? (exponentChars e ++ rest) = some (e, rest) := by
    intro e
    cases e with
    | none => exact exponentPart?_none fun c hc => (hrest c hc).2.2
    | some e => exact exponentPart?_written e hdigit
  have hexponentHead : ∀ e c, (exponentChars e ++ rest).head? = some c →
      c.isDigit = false ∧ c ≠ '.' := by
    intro e c hc
    cases e with
    | none => exact ⟨hdigit c hc, (hrest c hc).2.1⟩
    | some e =>
      obtain rfl := Option.some.inj hc
      decide
  obtain ⟨negative, whole, fraction, exponent⟩ := numeral
  have hfraction : Json.fractionPart? (fractionChars fraction ++ (exponentChars exponent ++ rest)) =
      some (fraction, exponentChars exponent ++ rest) := by
    cases fraction with
    | none => exact fractionPart?_none fun c hc => (hexponentHead exponent c hc).2
    | some digits =>
      obtain ⟨hne, hdigits⟩ := h.fraction digits rfl
      exact fractionPart?_point hne hdigits fun c hc => (hexponentHead exponent c hc).1
  have hfractionHead : ∀ c,
      (fractionChars fraction ++ (exponentChars exponent ++ rest)).head? = some c →
        c.isDigit = false := by
    intro c hc
    cases fraction with
    | none => exact (hexponentHead exponent c hc).1
    | some digits =>
      obtain rfl := Option.some.inj hc
      decide
  have hwhole := wholePart?_append h.whole h.nonempty h.leading hfractionHead
  have hsign : readSign ((if negative then ['-'] else []) ++
      (whole ++ (fractionChars fraction ++ (exponentChars exponent ++ rest)))) =
        (negative, whole ++ (fractionChars fraction ++ (exponentChars exponent ++ rest))) := by
    cases negative with
    | true => rfl
    | false =>
      rw [if_neg (by decide), List.nil_append]
      exact readSign_of_digit h.whole h.nonempty
  simp only [chars, List.append_assoc, read?, hsign, hwhole, hfraction, hexponent]

/-! ## Decimal digits -/

/-- Only zero begins with a zero. -/
theorem eq_zero_of_head_toDigits {n : Nat} (h : (Nat.toDigits 10 n).head? = some '0') : n = 0 := by
  induction n using Nat.strongRecOn with
  | ind n ih =>
    rw [Nat.toDigits_eq_if (by decide)] at h
    split at h
    · rename_i hsmall
      have hall : ∀ m < 10, Nat.digitChar m = '0' → m = 0 := by decide
      exact hall n hsmall (Option.some.inj h)
    · rename_i hlarge
      rw [List.head?_append_of_ne_nil _ Nat.toDigits_ne_nil] at h
      have := ih (n / 10) (by omega) h
      omega

theorem toDigits_leading {n : Nat} {c : Char} {rest : List Char}
    (h : Nat.toDigits 10 n = '0' :: c :: rest) : False := by
  obtain rfl : n = 0 := eq_zero_of_head_toDigits (by rw [h]; rfl)
  cases h

/-- Zeros behind digits multiply by powers of ten. -/
theorem natural_append_zeros (n zeros : Nat) :
    Json.natural (Nat.toDigits 10 n ++ List.replicate zeros '0') = n * 10 ^ zeros := by
  rw [natural_eq, Nat.ofDigitChars_append, Nat.ofDigitChars_ten_toDigits,
    Nat.ofDigitChars_replicate_zero, Nat.mul_comm]

/-- Zeros in front of digits change nothing. -/
theorem natural_zeros_append (n zeros : Nat) :
    Json.natural (List.replicate zeros '0' ++ Nat.toDigits 10 n) = n := by
  rw [natural_eq, Nat.ofDigitChars_append, Nat.ofDigitChars_replicate_zero, Nat.mul_zero,
    Nat.ofDigitChars_ten_toDigits]

theorem isDigit_of_mem_zeros {zeros : Nat} {c : Char} (h : c ∈ List.replicate zeros '0') :
    c.isDigit = true := by
  rw [List.eq_of_mem_replicate h]
  decide

/-! ## Integers -/

/-- The numeral of an integer. -/
def ofInt (n : Int) : Numeral :=
  { negative := n < 0, whole := Nat.toDigits 10 n.natAbs }

theorem ofInt_wellFormed (n : Int) : (ofInt n).WellFormed where
  whole _ hc := isDigit_of_mem_toDigits hc
  nonempty := Nat.toDigits_ne_nil
  leading _ _ h := toDigits_leading h
  fraction _ h := by cases h

theorem ofInt_chars (n : Int) : (ofInt n).chars = (toString n).toList := by
  cases n with
  | ofNat n =>
    change (if decide ((n : Int) < 0) = true then ['-'] else []) ++ (Nat.toDigits 10 n ++ []) =
      n.repr.toList
    rw [if_neg (by rw [decide_eq_true_iff]; omega), List.nil_append, List.append_nil,
      Nat.toList_repr]
  | negSucc n =>
    have htext : toString (Int.negSucc n) = "-" ++ (n + 1).repr := rfl
    have hchars : (ofInt (Int.negSucc n)).chars = '-' :: (Nat.toDigits 10 (n + 1) ++ []) := by
      rw [chars, if_pos (by rw [ofInt, decide_eq_true_iff]; omega)]
      rfl
    rw [hchars, htext, List.append_nil, String.toList_append, Nat.toList_repr]
    rfl

theorem ofInt_integer (n : Int) : (ofInt n).integer = n := by
  simp only [ofInt, integer, natural_toDigits, decide_eq_true_eq]
  split <;> omega

theorem ofInt_isInteger (n : Int) : (ofInt n).isInteger = true := by
  rw [isInteger, ofInt_integer]
  simp only [ofInt, Option.isNone_none, Bool.true_and, Bool.not_eq_true', Bool.and_eq_false_iff,
    decide_eq_false_iff_not, beq_eq_false_iff_ne]
  omega

theorem ofInt_value? (n : Int) (fits : Fits64 n) :
    (ofInt n).value? = some (.integer n fits) := by
  rw [value?, if_pos (ofInt_isInteger n)]
  simp only [ofInt_integer, dif_pos fits]

theorem ofInt_natural? (n : Nat) : (ofInt n).natural? = some n := by
  rw [natural?, ofInt_isInteger]
  simp only [ofInt, Int.natAbs_natCast, natural_toDigits, Bool.true_and, Bool.not_eq_true',
    decide_eq_false_iff_not, Int.not_lt, Int.natCast_nonneg, if_true]

/-! ## Doubles -/

/-- The numeral is written as the text, apart from the sign, and is worth the rational. -/
structure Writes (numeral : Numeral) (text : String) (worth : ℚ) : Prop where
  wellFormed : numeral.WellFormed
  chars : numeral.whole ++ (fractionChars numeral.fraction ++ exponentChars numeral.exponent) =
    text.toList
  marked : numeral.fraction.isSome = true ∨ numeral.exponent.isSome = true
  worth : (Json.natural numeral.digits : ℚ) * 10 ^ numeral.scale = worth

open NumberText

theorem writes_of_fraction {whole fraction : List Char} {exponent : Option Int} {text : String}
    {worth : ℚ} (hwhole : ∀ c ∈ whole, c.isDigit = true) (hne : whole ≠ [])
    (hleading : ∀ c rest, whole = '0' :: c :: rest → False)
    (hfraction : ∀ c ∈ fraction, c.isDigit = true) (hfractionNe : fraction ≠ [])
    (hchars : whole ++ '.' :: (fraction ++ exponentChars exponent) = text.toList)
    (hworth : (Json.natural (whole ++ fraction) : ℚ) *
      10 ^ (exponent.getD 0 - (fraction.length : Int)) = worth) :
    Writes { whole, fraction := some fraction, exponent } text worth where
  wellFormed := ⟨hwhole, hne, hleading, fun _ h => Option.some.inj h ▸ ⟨hfractionNe, hfraction⟩⟩
  chars := hchars
  marked := Or.inl rfl
  worth := hworth

theorem head_toDigits_ne {d : Nat} (hd : 0 < d) {c : Char} {tail : List Char} {whole : List Char}
    (hhead : whole.head? = (Nat.toDigits 10 d).head?) : whole = '0' :: c :: tail → False := by
  rintro rfl
  have := eq_zero_of_head_toDigits hhead.symm
  omega

/-- All digits are behind the point, with zeros between. -/
theorem writes_behind (d zeros : Nat) :
    Writes ⟨false, ['0'], some (List.replicate zeros '0' ++ Nat.toDigits 10 d), none⟩
      ("0." ++ String.ofList (List.replicate zeros '0' ++ Nat.toDigits 10 d))
      (d * (10 : ℚ) ^ (-(zeros : Int) - (Nat.toDigits 10 d).length)) := by
  refine writes_of_fraction (List.forall_mem_singleton.2 (by decide)) (by decide)
    (fun _ _ h => by cases h) ?_ (List.append_ne_nil_of_right_ne_nil _ Nat.toDigits_ne_nil) ?_ ?_
  · intro c hc
    rcases List.mem_append.1 hc with hzero | hdigit
    · exact isDigit_of_mem_zeros hzero
    · exact isDigit_of_mem_toDigits hdigit
  · rw [String.toList_append, String.toList_ofList, String.toList_ofList, exponentChars,
      List.append_nil]
    rfl
  · -- The zero before the point is one zero more.
    have hzeros : ['0'] ++ (List.replicate zeros '0' ++ Nat.toDigits 10 d) =
        List.replicate (zeros + 1) '0' ++ Nat.toDigits 10 d := rfl
    rw [hzeros, natural_zeros_append, List.length_append, List.length_replicate,
      Option.getD_none]
    congr 2
    push_cast
    omega

/-- All digits are before the point, with zeros between. -/
theorem writes_before {d : Nat} (hd : 0 < d) (zeros : Nat) :
    Writes ⟨false, Nat.toDigits 10 d ++ List.replicate zeros '0', some ['0'], none⟩
      (String.ofList (Nat.toDigits 10 d ++ List.replicate zeros '0') ++ ".0")
      (d * (10 : ℚ) ^ zeros) := by
  have hne : Nat.toDigits 10 d ≠ [] := Nat.toDigits_ne_nil
  refine writes_of_fraction ?_ (List.append_ne_nil_of_left_ne_nil hne _) ?_
    (List.forall_mem_singleton.2 (by decide)) (by decide) ?_ ?_
  · intro c hc
    rcases List.mem_append.1 hc with hdigit | hzero
    · exact isDigit_of_mem_toDigits hdigit
    · exact isDigit_of_mem_zeros hzero
  · intro c rest
    exact head_toDigits_ne hd (List.head?_append_of_ne_nil _ hne)
  · rw [String.toList_append, String.toList_ofList]
    rfl
  · -- The zero behind the point is one more, and the scale takes it away again.
    rw [List.append_assoc, ← List.replicate_succ', natural_append_zeros]
    push_cast
    rw [Option.getD_none, List.length_singleton, pow_succ]
    norm_num
    ring

/-- The point is among the digits. -/
theorem writes_among {d before : Nat} (hpos : 0 < before)
    (hbefore : before < (Nat.toDigits 10 d).length) :
    Writes ⟨false, (Nat.toDigits 10 d).take before, some ((Nat.toDigits 10 d).drop before), none⟩
      (String.ofList ((Nat.toDigits 10 d).take before) ++ "." ++
        String.ofList ((Nat.toDigits 10 d).drop before))
      (d * (10 : ℚ) ^ ((before : Int) - (Nat.toDigits 10 d).length)) := by
  have hd : 0 < d := by
    by_contra hzero
    obtain rfl : d = 0 := by omega
    have hone : (Nat.toDigits 10 0).length = 1 := rfl
    omega
  refine writes_of_fraction ?_ ?_ ?_ ?_ ?_ ?_ ?_
  · exact fun c hc => isDigit_of_mem_toDigits (List.mem_of_mem_take hc)
  · rw [Ne, List.take_eq_nil_iff]
    rintro (hzero | hnil)
    · omega
    · exact Nat.toDigits_ne_nil hnil
  · intro c rest
    refine head_toDigits_ne hd ?_
    rw [List.head?_take, if_neg (by omega)]
  · exact fun c hc => isDigit_of_mem_toDigits (List.mem_of_mem_drop hc)
  · rw [Ne, List.drop_eq_nil_iff]
    omega
  · rw [String.toList_append, String.toList_append, String.toList_ofList, String.toList_ofList,
      String.toList_ofList, exponentChars, List.append_nil, List.append_assoc]
    rfl
  · rw [List.take_append_drop, natural_toDigits, List.length_drop, Option.getD_none]
    congr 2
    omega

/-- The text with the point among, before or behind the digits. -/
theorem exists_positional {d : Nat} (hd : 0 < d) (before : Int) :
    ∃ numeral : Numeral, numeral.Writes (positional (Nat.toDigits 10 d) before)
      (d * (10 : ℚ) ^ (before - (Nat.toDigits 10 d).length)) := by
  rw [positional]
  split
  · rename_i hbefore
    have hscale : -(((-before).toNat : Nat) : Int) = before := by omega
    have hwrites := writes_behind d (-before).toNat
    rw [hscale] at hwrites
    exact ⟨_, hwrites⟩
  split
  · rename_i hbefore hcount
    have hwrites := writes_before hd (before - (Nat.toDigits 10 d).length).toNat
    rw [← zpow_natCast, Int.toNat_of_nonneg (by omega)] at hwrites
    exact ⟨_, hwrites⟩
  · rename_i hbefore hcount
    have hwrites : Writes _ _ _ :=
      writes_among (show 0 < before.toNat by omega)
        (show before.toNat < (Nat.toDigits 10 d).length by omega)
    rw [Int.toNat_of_nonneg (by omega)] at hwrites
    exact ⟨_, hwrites⟩

theorem exponentChars_eq (exponent : Int) :
    exponentChars (some exponent) =
      "e".toList ++ (if exponent < 0 then "-" else "+").toList ++
        (toString exponent.natAbs).toList := by
  rw [Nat.toString_eq_repr, Nat.toList_repr, exponentChars]
  split <;> rfl

/-- The text with the point behind the first digit, if there are more, and an exponent. -/
theorem exists_scientific (d : Nat) (exponent : Int) :
    ∃ numeral : Numeral, numeral.Writes (scientific (Nat.toDigits 10 d) exponent)
      (d * (10 : ℚ) ^ (exponent + 1 - (Nat.toDigits 10 d).length)) := by
  have hdigits : ∀ c ∈ Nat.toDigits 10 d, c.isDigit = true := fun c hc => isDigit_of_mem_toDigits hc
  have hnatural := natural_toDigits d
  generalize hspelled : Nat.toDigits 10 d = digits at *
  match digits with
  | [] => exact (Nat.toDigits_ne_nil hspelled).elim
  | [first] =>
    -- A single digit is written without a point.
    have htext : scientific [first] exponent = String.ofList [first] ++ "e" ++
      (if exponent < 0 then "-" else "+") ++ toString exponent.natAbs := rfl
    refine ⟨⟨false, [first], none, some exponent⟩, ⟨⟨hdigits, List.cons_ne_nil _ _, ?_, ?_⟩, ?_,
      Or.inr rfl, ?_⟩⟩
    · exact fun _ _ h => by cases h
    · exact fun _ h => by cases h
    · rw [htext, exponentChars_eq]
      simp only [String.toList_append, String.toList_ofList, List.append_assoc]
      rfl
    · rw [Numeral.digits, Option.getD_none, List.append_nil, hnatural]
      congr 2
      change exponent - ((0 : Nat) : Int) = exponent + 1 - ((1 : Nat) : Int)
      omega
  | first :: second :: rest =>
    have htext : scientific (first :: second :: rest) exponent =
      String.ofList (first :: '.' :: second :: rest) ++ "e" ++
        (if exponent < 0 then "-" else "+") ++ toString exponent.natAbs := rfl
    refine ⟨⟨false, [first], some (second :: rest), some exponent⟩,
      writes_of_fraction (fun c hc => ?_) (List.cons_ne_nil _ _) (fun _ _ h => by cases h)
        (fun c hc => hdigits c (List.mem_cons_of_mem _ hc)) (List.cons_ne_nil _ _) ?_ ?_⟩
    · rw [List.mem_singleton.1 hc]
      exact hdigits first List.mem_cons_self
    · rw [htext, exponentChars_eq]
      simp only [String.toList_append, String.toList_ofList, List.append_assoc]
      rfl
    · rw [List.singleton_append, hnatural, Option.getD_some]
      congr 2
      simp only [List.length_cons]
      omega

theorem near_zero {x : Double} (hx : x.isZero = true) : x.Near 0 := by
  have hplace : x.place = 0 := by rwa [Double.isZero, beq_iff_eq] at hx
  have hsignificand : x.significand = 0 := by
    rw [Double.significand, hplace, if_pos (by decide)]
  refine ⟨?_, ?_, fun hodd => ?_⟩
  · rw [hsignificand, zero_div, Nat.cast_zero, zero_sub, neg_nonpos]
    positivity
  · rw [hsignificand, zero_div]
    norm_num
  · rw [hsignificand] at hodd
    cases hodd

/-- The text of the size of a double is worth a rational that is near to it. -/
theorem exists_magnitude (x : Double) :
    ∃ (numeral : Numeral) (worth : ℚ),
      numeral.Writes (standard.magnitude x) worth ∧ x.Near worth := by
  rw [magnitude]
  split
  · rename_i hzero
    refine ⟨⟨false, ['0'], some ['0'], none⟩, 0,
      writes_of_fraction (List.forall_mem_singleton.2 (by decide)) (by decide)
        (fun _ _ h => by cases h) (List.forall_mem_singleton.2 (by decide)) (by decide) rfl ?_,
      near_zero hzero⟩
    rw [show Json.natural (['0'] ++ ['0']) = 0 from rfl, Nat.cast_zero, zero_mul]
  · rename_i hzero
    have hnear : x.Near x.shortest.worth := Double.near_shortest (Bool.eq_false_iff.2 hzero)
    -- No digits would be worth zero, and only zero is near to that.
    have hdigits : 0 < x.shortest.digits := by
      by_contra hnone
      have hnone' : x.shortest.digits = 0 := by omega
      rw [Decimal.worth, hnone', Nat.cast_zero, zero_mul] at hnear
      exact hzero (by rw [Double.isZero, hnear.place_eq_zero]; rfl)
    -- Both notations are given the exponent of the first digit instead of the last.
    have hworth : ∀ leading : Int,
        leading = x.shortest.exponent + (Nat.toDigits 10 x.shortest.digits).length - 1 →
          (x.shortest.digits : ℚ) *
            10 ^ (leading + 1 - ((Nat.toDigits 10 x.shortest.digits).length : Int)) =
              x.shortest.worth := by
      rintro _ rfl
      rw [Decimal.worth]
      congr 2
      omega
    simp only
    split
    · obtain ⟨numeral, hnumeral⟩ := exists_positional hdigits (x.shortest.exponent +
        (Nat.toDigits 10 x.shortest.digits).length - 1 + 1)
      rw [hworth _ rfl] at hnumeral
      exact ⟨numeral, x.shortest.worth, hnumeral, hnear⟩
    · obtain ⟨numeral, hnumeral⟩ := exists_scientific x.shortest.digits (x.shortest.exponent +
        (Nat.toDigits 10 x.shortest.digits).length - 1)
      rw [hworth _ rfl] at hnumeral
      exact ⟨numeral, x.shortest.worth, hnumeral, hnear⟩

/-- A numeral that is worth a rational near to a double stands for the double. -/
theorem Writes.value? {numeral : Numeral} {text : String} {worth : ℚ} {x : Double}
    (h : numeral.Writes text worth) (hnear : x.Near worth) :
    ({ numeral with negative := x.negative } : Numeral).value? = some (.double x) := by
  -- With a point or an exponent it is no integer, whatever it is worth.
  have hinteger : ({ numeral with negative := x.negative } : Numeral).isInteger = false := by
    rcases h.marked with hfraction | hexponent
    · rw [isInteger, Option.isNone_eq_false_iff.2 hfraction, Bool.false_and, Bool.false_and]
    · rw [isInteger, Option.isNone_eq_false_iff.2 hexponent, Bool.and_false, Bool.false_and]
  rw [Numeral.value?, if_neg (by rw [hinteger]; decide), double?]
  have hratio := Double.decimal_div (Json.natural numeral.digits) 1 numeral.scale
  rw [Nat.cast_one, div_one, h.worth] at hratio
  rw [← hratio] at hnear
  have hpos : 0 < 1 * Nat.pow 10 (-numeral.scale).toNat :=
    Nat.mul_pos Nat.one_pos (Nat.pow_pos (by decide))
  exact congrArg (Option.map Number.double) (Double.ofRatio?_of_near hpos hnear x.negative)

end Numeral

/-- **A number is written as a numeral that stands for it.** -/
theorem Number.exists_numeral (n : Number) :
    ∃ numeral : Numeral, numeral.WellFormed ∧ numeral.chars = n.text.toList ∧
      numeral.value? = some n := by
  cases n with
  | integer n fits =>
    exact ⟨.ofInt n, Numeral.ofInt_wellFormed n, Numeral.ofInt_chars n, Numeral.ofInt_value? n fits⟩
  | double x =>
    obtain ⟨numeral, worth, hnumeral, hnear⟩ := Numeral.exists_magnitude x
    refine ⟨{ numeral with negative := x.negative }, ?_, ?_, hnumeral.value? hnear⟩
    · obtain ⟨hwhole, hne, hleading, hfraction⟩ := hnumeral.wellFormed
      exact ⟨hwhole, hne, hleading, hfraction⟩
    · rw [Numeral.chars, hnumeral.chars, Number.text, String.toList_append]
      split <;> rfl

end SchemaForms
