import AnnotatedMarkdown.Number.Shortest
import AnnotatedMarkdown.Proofs.Number.Digits
import AnnotatedMarkdown.Proofs.Python.Lexing

/-!
# Number literals

The analysis takes the spelling of a number as one token.

* `EndsOperand` describes what may follow a literal.
* `IsNumeral` describes a spelling that is taken as one token, and `tokenAt_numeral` is the
  step that takes it.
* `isNumeral_toDigits` and `Parts.isNumeral` find the spellings of integers and of numbers
  with a point or an exponent among them.
-/

namespace AnnotatedMarkdown.Python

open Unicode

/-- What may follow a literal: the end of the text, or one of the marks that end an element
of a display. -/
def EndsOperand (rest : List Char) : Prop :=
  ∀ c ∈ rest.head?, c = ',' ∨ c = ':' ∨ c = ']' ∨ c = '}'

theorem endsOperand_nil : EndsOperand [] := by
  simp [EndsOperand]

theorem endsOperand_cons {c : Char} (hc : c = ',' ∨ c = ':' ∨ c = ']' ∨ c = '}') (cs : List Char) :
    EndsOperand (c :: cs) := by
  simpa [EndsOperand] using hc

/-! ## Digits -/

/-- Decimal digits, at least one of them. -/
def AreDigits (cs : List Char) : Prop :=
  cs ≠ [] ∧ ∀ c ∈ cs, c.isDigit = true

theorem isDigit_cases {c : Char} (h : c.isDigit = true) :
    c ∈ ['0', '1', '2', '3', '4', '5', '6', '7', '8', '9'] := by
  obtain ⟨hlow, hhigh⟩ : 48 ≤ c.toNat ∧ c.toNat ≤ 57 := by
    simpa [Char.isDigit, UInt32.le_iff_toNat_le] using h
  have hall : ∀ n : Fin 10, Char.ofNat (48 + n.val) ∈
      ['0', '1', '2', '3', '4', '5', '6', '7', '8', '9'] := by decide
  have hc := hall ⟨c.toNat - 48, by omega⟩
  rwa [show 48 + (c.toNat - 48) = c.toNat by omega, Char.ofNat_toNat] at hc

theorem ne_of_isDigit {c d : Char} (hc : c.isDigit = true) (hd : d.isDigit = false) : c ≠ d := by
  rintro rfl
  rw [hc] at hd
  exact absurd hd (by decide)

/-- Digits are taken up to the first character that is no digit. -/
theorem digitRun_append {digits rest : List Char} (hdigits : ∀ c ∈ digits, c.isDigit = true)
    (hrest : ∀ c ∈ rest.head?, c.isDigit = false ∧ c ≠ '_') :
    digitRun Char.isDigit (digits ++ rest) = some (digits, rest) := by
  induction digits with
  | nil =>
    cases rest with
    | nil => rfl
    | cons c rest =>
      obtain ⟨hdigit, hlow⟩ := hrest c rfl
      rw [List.nil_append, digitRun]
      · simp [hdigit]
      all_goals simp [hlow]
  | cons c digits ih =>
    have hc := hdigits c List.mem_cons_self
    have hlow : c ≠ '_' := ne_of_isDigit hc (by decide)
    have hmore := ih fun d hd => hdigits d (List.mem_cons_of_mem c hd)
    rw [List.cons_append, digitRun]
    · simp [hc, hmore]
    all_goals simp [hlow]

theorem EndsOperand.noDigit {rest : List Char} (h : EndsOperand rest) :
    ∀ c ∈ rest.head?, c.isDigit = false ∧ c ≠ '_' := by
  intro c hc
  rcases h c hc with rfl | rfl | rfl | rfl <;> decide

theorem EndsOperand.endsWord {rest : List Char} (h : EndsOperand rest) : EndsWord rest := by
  intro c hc
  rcases h c hc with rfl | rfl | rfl | rfl <;> decide

theorem EndsOperand.noQuoteMark {rest : List Char} (h : EndsOperand rest) :
    ∀ c ∈ rest.head?, isQuoteMark c = false :=
  fun c hc => (h.endsWord c hc).2

/-! ## Ends of numbers -/

/-- A number without a further part ends before what may follow a literal. -/
theorem numberExponent?_endsOperand {rest : List Char} (h : EndsOperand rest) (taken : List Char) :
    numberExponent? taken rest = some (taken, rest) := by
  cases rest with
  | nil => rfl
  | cons c rest =>
    rcases h c rfl with rfl | rfl | rfl | rfl <;> rfl

/-- Digits after the mark of an exponent and its sign belong to a number. -/
theorem numberExponent?_exponent {sign digits rest : List Char} (hsign : sign ∈ [[], ['+'], ['-']])
    (hdigits : AreDigits digits) (hrest : EndsOperand rest) (taken : List Char) :
    numberExponent? taken ('e' :: (sign ++ digits) ++ rest) =
      some (taken ++ 'e' :: (sign ++ digits), rest) := by
  have hrun := digitRun_append hdigits.2 hrest.noDigit
  have hsuffix : ∀ taken, numberSuffix? taken rest = some (taken, rest) := by
    intro taken
    cases rest with
    | nil => rfl
    | cons c rest => rcases hrest c rfl with rfl | rfl | rfl | rfl <;> rfl
  obtain ⟨hne, hall⟩ := hdigits
  obtain ⟨d, digits, rfl⟩ := List.exists_cons_of_ne_nil hne
  have hd := hall d List.mem_cons_self
  rw [List.cons_append] at hrun
  simp only [List.mem_cons, List.not_mem_nil, or_false] at hsign
  rcases hsign with rfl | rfl | rfl
  · simp [numberExponent?, hd, hrun, hsuffix]
  · simp [numberExponent?, hd, hrun, hsuffix, show '+'.isDigit = false from rfl]
  · simp [numberExponent?, hd, hrun, hsuffix, show '-'.isDigit = false from rfl]

/-! ## Numerals -/

/-- The spelling of a number: the analysis takes it as one token, and the parser reads a
constant from it. -/
structure IsNumeral (value : Constant) (cs : List Char) : Prop where
  start : ∃ d tail, cs = d :: tail ∧ d.isDigit = true
  inLine : IsInLine cs
  noLowLine : '_' ∉ cs
  taken : ∀ rest, EndsOperand rest → number? (cs ++ rest) = some (cs, rest)
  constant : numberConstant? cs = some value

/-- A digit does not belong to the mark of a string literal. -/
theorem stringPrefix?_digit {d : Char} (hd : d.isDigit = true) (cs : List Char) :
    stringPrefix? (d :: cs) = none := by
  have hmem := isDigit_cases hd
  simp only [List.mem_cons, List.not_mem_nil, or_false] at hmem
  rcases hmem with rfl | rfl | rfl | rfl | rfl | rfl | rfl | rfl | rfl | rfl <;>
    rcases cs with _ | ⟨a, _ | ⟨b, cs⟩⟩ <;> simp [stringPrefix?]

/-- A numeral is taken as a whole. -/
theorem tokenAt_numeral {value : Constant} {cs rest : List Char} (h : IsNumeral value cs)
    (hrest : EndsOperand rest) (s : LexState) :
    tokenAt s (cs ++ rest) = .more [⟨.number cs, s.line⟩] s false rest := by
  have htaken := h.taken rest hrest
  obtain ⟨d, tail, rfl, hd⟩ := h.start
  have hline : d ≠ '\n' := ne_of_isDigit hd (by decide)
  have hbackslash : d ≠ '\\' := ne_of_isDigit hd (by decide)
  have hpoint : d ≠ '.' := ne_of_isDigit hd (by decide)
  have hword : isWordStart d = false := by simp [isWordStart, hd]
  have hnumber : startsNumber (d :: (tail ++ rest)) = true := by
    rw [startsNumber]
    · exact hd
    · simp [hpoint]
  rw [List.cons_append] at htaken ⊢
  rw [tokenAt, stringPrefix?_digit hd]
  · simp [hword, hnumber, htaken]
  all_goals simp [hline, hbackslash]

/-- Without the mark of a base a number is decimal. -/
theorem number?_eq_decimalNumber? {d : Char} {cs : List Char} (hd : d.isDigit = true)
    (hbase : hasBase (d :: cs) = false) : number? (d :: cs) = decimalNumber? (d :: cs) := by
  have hpoint : d ≠ '.' := ne_of_isDigit hd (by decide)
  by_cases hzero : d = '0'
  · subst hzero
    cases cs with
    | nil => rfl
    | cons x cs =>
      simp only [hasBase, List.contains_cons, List.contains_nil, Bool.or_false,
        Bool.or_eq_false_iff] at hbase
      simp [number?, hbase]
  · rw [number?]
    all_goals simp [hpoint, hzero]

/-- The characters of decimal numbers. -/
def isNumeralChar (c : Char) : Bool :=
  c.isDigit || c == '.' || c == 'e' || c == '+' || c == '-'

theorem ne_of_isNumeralChar {c d : Char} (hc : isNumeralChar c = true)
    (hd : isNumeralChar d = false) : c ≠ d := by
  rintro rfl
  rw [hc] at hd
  exact absurd hd (by decide)

theorem isNumeralChar_of_isDigit {c : Char} (hc : c.isDigit = true) : isNumeralChar c = true := by
  simp [isNumeralChar, hc]

/-- Neither a decimal spelling nor what may follow a literal holds the letter of a base. -/
theorem hasBase_append {cs rest : List Char} (hne : cs ≠ [])
    (hall : ∀ c ∈ cs, isNumeralChar c = true) (hrest : EndsOperand rest) :
    hasBase (cs ++ rest) = false := by
  have hletter : ∀ x, isNumeralChar x = true ∨ x = ',' ∨ x = ':' ∨ x = ']' ∨ x = '}' →
      ['x', 'X', 'o', 'O', 'b', 'B'].contains x = false := by
    intro x hx
    rw [List.contains_eq_mem, decide_eq_false_iff_not]
    intro hmem
    simp only [List.mem_cons, List.not_mem_nil, or_false] at hmem
    rcases hmem with rfl | rfl | rfl | rfl | rfl | rfl <;> exact absurd hx (by decide)
  obtain ⟨c, cs, rfl⟩ := List.exists_cons_of_ne_nil hne
  by_cases hzero : c = '0'
  · subst hzero
    rcases cs with _ | ⟨x, cs⟩
    · rcases rest with _ | ⟨x, rest⟩
      · rfl
      · exact hletter x (.inr (hrest x rfl))
    · exact hletter x (.inl (hall x (by simp)))
  · rw [List.cons_append, hasBase]
    simp [hzero]

/-- A decimal spelling is a numeral. -/
theorem isNumeral_of_decimalNumber? {value : Constant} {cs : List Char}
    (hstart : ∃ d tail, cs = d :: tail ∧ d.isDigit = true)
    (hall : ∀ c ∈ cs, isNumeralChar c = true)
    (htaken : ∀ rest, EndsOperand rest → decimalNumber? (cs ++ rest) = some (cs, rest))
    (hvalue : (if isFraction cs then some (.float (decimalValue cs)) else integerConstant? cs) =
      some value) : IsNumeral value cs := by
  have hne : cs ≠ [] := by
    obtain ⟨d, tail, rfl, -⟩ := hstart
    simp
  refine ⟨hstart, fun c hc => ?_, fun hmem => absurd (hall '_' hmem) (by decide),
    fun rest hrest => ?_, ?_⟩
  · have hc := hall c hc
    exact ⟨ne_of_isNumeralChar hc rfl, ne_of_isNumeralChar hc rfl, ne_of_isNumeralChar hc rfl⟩
  · have hbase := hasBase_append hne hall hrest
    have hdecimal := htaken rest hrest
    obtain ⟨d, tail, rfl, hd⟩ := hstart
    rw [List.cons_append] at hbase hdecimal ⊢
    rw [number?_eq_decimalNumber? hd hbase, hdecimal]
  · have hfilter : cs.filter (· != '_') = cs := by
      rw [List.filter_eq_self]
      intro c hc
      simpa using ne_of_isNumeralChar (hall c hc) (d := '_') rfl
    have hbase : hasBase cs = false := by simpa using hasBase_append hne hall endsOperand_nil
    have hlast := hall _ (List.getLast_mem hne)
    have hj := ne_of_isNumeralChar hlast (d := 'j') rfl
    have hJ := ne_of_isNumeralChar hlast (d := 'J') rfl
    rw [numberConstant?, hfilter, hbase, List.getLast?_eq_some_getLast hne, if_neg (by decide)]
    simp [hj, hJ, hvalue]

/-! ## Integers -/

theorem areDigits_toDigits (n : Nat) : AreDigits (Nat.toDigits 10 n) :=
  ⟨Nat.toDigits_ne_nil, fun _ hc => isDigit_of_mem_toDigits hc⟩

/-- A number of several digits does not start with zero. -/
theorem toDigits_ne_zero_cons (n : Nat) (x : Char) (cs : List Char) :
    Nat.toDigits 10 n ≠ '0' :: x :: cs := by
  intro h
  by_cases hn : n = 0
  · subst hn
    exact absurd h (by simp)
  · exact head?_toDigits_ne hn (by rw [h]; rfl)

theorem decimalNumber?_toDigits (n : Nat) {rest : List Char} (hrest : EndsOperand rest) :
    decimalNumber? (Nat.toDigits 10 n ++ rest) = some (Nat.toDigits 10 n, rest) := by
  have hrun := digitRun_append (areDigits_toDigits n).2 hrest.noDigit
  have hend := numberExponent?_endsOperand hrest (Nat.toDigits 10 n)
  have hzero : ((Nat.toDigits 10 n).head? == some '0' &&
      (Nat.toDigits 10 n).any fun c => c != '0' && c != '_') = false := by
    by_cases hn : n = 0
    · subst hn
      rfl
    · simp [head?_toDigits_ne hn]
  rw [decimalNumber?, hrun, Option.bind_some]
  cases rest with
  | nil => exact (if_neg (by simpa using hzero)).trans hend
  | cons c rest =>
    rcases hrest c rfl with rfl | rfl | rfl | rfl <;>
      exact (if_neg (by simpa using hzero)).trans hend

/-- The decimal digits of an integer are a numeral. -/
theorem isNumeral_toDigits {n : Nat} (hn : (Nat.toDigits 10 n).length ≤ maxDecimalDigits) :
    IsNumeral (.int n) (Nat.toDigits 10 n) := by
  obtain ⟨hne, hall⟩ := areDigits_toDigits n
  obtain ⟨d, tail, heq⟩ := List.exists_cons_of_ne_nil hne
  have hfraction : isFraction (Nat.toDigits 10 n) = false := by
    rw [isFraction, List.any_eq_false]
    intro c hc
    have hdigit := hall c hc
    simp [ne_of_isDigit hdigit (d := '.') rfl, ne_of_isDigit hdigit (d := 'e') rfl,
      ne_of_isDigit hdigit (d := 'E') rfl]
  have hinteger : integerConstant? (Nat.toDigits 10 n) = some (.int n) := by
    rw [integerConstant?]
    · rw [if_pos hn, digitsValue_toDigits (by decide) (by decide)]
    · exact toDigits_ne_zero_cons n
  refine isNumeral_of_decimalNumber? ⟨d, tail, heq, hall d (by simp [heq])⟩
    (fun c hc => isNumeralChar_of_isDigit (hall c hc)) (fun rest => decimalNumber?_toDigits n) ?_
  rw [hfraction, if_neg (by decide), hinteger]

/-! ## Numbers with a point or an exponent -/

/-- The parts of the spelling of a number with a point or an exponent: no fraction stands
for no point, and no digits of the exponent stand for no exponent. -/
structure Parts where
  whole : List Char
  fraction : List Char
  sign : List Char
  exponent : List Char
  whole_digits : AreDigits whole
  fraction_digits : ∀ c ∈ fraction, c.isDigit = true
  exponent_digits : ∀ c ∈ exponent, c.isDigit = true
  sign_mem : sign ∈ [[], ['+'], ['-']]
  marked : fraction ≠ [] ∨ exponent ≠ []

namespace Parts

/-- The point and the digits after it. -/
def pointText (p : Parts) : List Char :=
  if p.fraction.isEmpty then [] else '.' :: p.fraction

/-- The mark of an exponent, its sign and its digits. -/
def exponentText (p : Parts) : List Char :=
  if p.exponent.isEmpty then [] else 'e' :: (p.sign ++ p.exponent)

/-- The whole spelling. -/
def chars (p : Parts) : List Char :=
  p.whole ++ (p.pointText ++ p.exponentText)

theorem numberExponent?_exponentText (p : Parts) {rest : List Char} (hrest : EndsOperand rest)
    (taken : List Char) :
    numberExponent? taken (p.exponentText ++ rest) = some (taken ++ p.exponentText, rest) := by
  rw [exponentText]
  split
  · rw [List.append_nil]
    exact numberExponent?_endsOperand hrest taken
  · rename_i hexponent
    exact numberExponent?_exponent p.sign_mem ⟨by simpa using hexponent, p.exponent_digits⟩
      hrest taken

/-- What follows the digits of a number starts with neither a digit nor a low line. -/
theorem head?_exponentText (p : Parts) {rest : List Char} (hrest : EndsOperand rest) :
    ∀ c ∈ (p.exponentText ++ rest).head?, c.isDigit = false ∧ c ≠ '_' := by
  rw [exponentText]
  split
  · exact hrest.noDigit
  · simp

theorem decimalNumber?_chars (p : Parts) {rest : List Char} (hrest : EndsOperand rest) :
    decimalNumber? (p.chars ++ rest) = some (p.chars, rest) := by
  have hend := p.numberExponent?_exponentText hrest
  have hhead := p.head?_exponentText hrest
  by_cases hfraction : p.fraction = []
  · have hexponent : p.exponent ≠ [] := p.marked.resolve_left (by simpa using hfraction)
    have hrun := digitRun_append p.whole_digits.2 hhead
    have htext : p.exponentText = 'e' :: (p.sign ++ p.exponent) := by
      simp [exponentText, hexponent]
    have hend := hend p.whole
    rw [htext] at hrun hend
    rw [chars, pointText, hfraction, htext, List.isEmpty_nil, if_pos rfl, List.nil_append,
      List.append_assoc, decimalNumber?, hrun, Option.bind_some]
    exact hend
  · have hmore : ∀ c ∈ ('.' :: (p.fraction ++ (p.exponentText ++ rest))).head?,
        c.isDigit = false ∧ c ≠ '_' := by
      simp
    have hwhole := digitRun_append p.whole_digits.2 hmore
    have hrun := digitRun_append p.fraction_digits hhead
    have hfirst : ∃ d more, p.fraction = d :: more ∧ d.isDigit = true := by
      obtain ⟨d, more, heq⟩ := List.exists_cons_of_ne_nil hfraction
      exact ⟨d, more, heq, p.fraction_digits d (by simp [heq])⟩
    obtain ⟨d, more, heq, hd⟩ := hfirst
    have hpoint : p.pointText = '.' :: p.fraction := by simp [pointText, hfraction]
    have hjoin : p.chars ++ rest = p.whole ++ '.' :: (p.fraction ++ (p.exponentText ++ rest)) := by
      simp [chars, hpoint]
    rw [hjoin, decimalNumber?, hwhole, Option.bind_some]
    rw [heq] at hrun ⊢
    simp only [List.cons_append] at hrun ⊢
    rw [numberFraction?, if_pos hd, hrun, Option.bind_some]
    simp only [hend]
    simp [chars, hpoint, heq]

theorem isNumeralChar_of_mem_chars (p : Parts) : ∀ c ∈ p.chars, isNumeralChar c = true := by
  intro c hc
  have hsign : ∀ c ∈ p.sign, isNumeralChar c = true := by
    have hmem := p.sign_mem
    simp only [List.mem_cons, List.not_mem_nil, or_false] at hmem
    rcases hmem with h | h | h <;> simp [h, isNumeralChar]
  rcases List.mem_append.1 hc with hc | hc
  · exact isNumeralChar_of_isDigit (p.whole_digits.2 c hc)
  rcases List.mem_append.1 hc with hc | hc
  · rw [pointText] at hc
    split at hc
    · simp at hc
    · rcases List.mem_cons.1 hc with rfl | hc
      · rfl
      · exact isNumeralChar_of_isDigit (p.fraction_digits c hc)
  · rw [exponentText] at hc
    split at hc
    · simp at hc
    · rcases List.mem_cons.1 hc with rfl | hc
      · rfl
      rcases List.mem_append.1 hc with hc | hc
      · exact hsign c hc
      · exact isNumeralChar_of_isDigit (p.exponent_digits c hc)

theorem isFraction_chars (p : Parts) : isFraction p.chars = true := by
  rw [isFraction, List.any_eq_true]
  rcases p.marked with h | h
  · exact ⟨'.', by simp [chars, pointText, h], rfl⟩
  · exact ⟨'e', by simp [chars, exponentText, h], rfl⟩

/-- A spelling of such parts is a numeral. -/
theorem isNumeral (p : Parts) : IsNumeral (.float (decimalValue p.chars)) p.chars := by
  obtain ⟨hne, hall⟩ := p.whole_digits
  obtain ⟨d, tail, heq⟩ := List.exists_cons_of_ne_nil hne
  refine isNumeral_of_decimalNumber? ⟨d, _, by rw [chars, heq, List.cons_append],
    hall d (by simp [heq])⟩ p.isNumeralChar_of_mem_chars (fun rest => p.decimalNumber?_chars) ?_
  rw [p.isFraction_chars, if_pos rfl]

end Parts

end AnnotatedMarkdown.Python
