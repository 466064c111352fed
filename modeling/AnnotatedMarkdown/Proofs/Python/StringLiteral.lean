import AnnotatedMarkdown.Proofs.Number.Digits
import AnnotatedMarkdown.Proofs.Python.Lexing
import AnnotatedMarkdown.Python.Parser.Expression
import AnnotatedMarkdown.Python.Quoted

/-!
# String literals of texts

Every text has a string literal, and the literal is read back as the text.

* `SpellsPoint` describes the characters that stand for one code point between quotes:
  the analysis does not end the literal within them, and they are replaced by the code
  point.  `exists_spellsPoint` has one case for each way in which a code point is written.
* `SpellsText` describes the characters that stand for a text between quotes, and
  `exists_spellsText` finds them code point by code point.
* `IsSpelling` describes a whole literal, and `exists_isSpelling` finds one for a text.
-/

namespace AnnotatedMarkdown.Python

open Unicode

/-! ## Escape sequences -/

theorem ofNat?_val (c : CodePoint) : CodePoint.ofNat? c.val = some c := by
  cases c with
  | scalar c =>
    have hvalid : c.toNat.isValidChar := c.valid
    rw [CodePoint.ofNat?, CodePoint.val, dif_pos hvalid]
    rfl
  | surrogate offset =>
    have hoffset := offset.isLt
    have hvalid : ¬ (0xD800 + offset.val).isValidChar := by
      intro h
      rcases h with h | ⟨h, -⟩ <;> omega
    rw [CodePoint.ofNat?, CodePoint.val, dif_neg hvalid, dif_pos (by omega)]
    simp

/-- The hexadecimal digits of a number fill a width if the number is not too large. -/
theorem length_hexDigits {width n : Nat} (h : (Nat.toDigits 16 n).length ≤ width) :
    (hexDigits width n).length = width := by
  simp only [hexDigits, List.length_append, List.length_replicate]
  omega

theorem digitsValueFrom_hexDigits (width n : Nat) :
    digitsValueFrom 16 0 (hexDigits width n) = n := by
  rw [hexDigits, digitsValueFrom_zeros, ← digitsValue_eq_digitsValueFrom]
  exact digitsValue_toDigits (by decide) (by decide) n

/-- Hexadecimal digits in lower case. -/
def isHexChar (c : Char) : Bool :=
  (hexDigit? c).isSome

theorem isHexChar_digitChar {d : Nat} (h : d < 16) : isHexChar (Nat.digitChar d) = true := by
  rw [isHexChar, hexDigit?_digitChar h]
  rfl

theorem isHexChar_of_mem_toDigits {n : Nat} {c : Char} (hc : c ∈ Nat.toDigits 16 n) :
    isHexChar c = true := by
  induction n using Nat.strongRecOn with
  | ind n ih =>
    rcases Nat.lt_or_ge n 16 with h | h
    · rw [Nat.toDigits_of_lt_base h] at hc
      obtain rfl := List.mem_singleton.1 hc
      exact isHexChar_digitChar h
    · rw [Nat.toDigits_of_base_le (by decide) h] at hc
      rcases List.mem_append.1 hc with hc | hc
      · exact ih (n / 16) (Nat.div_lt_self (by omega) (by decide)) hc
      · obtain rfl := List.mem_singleton.1 hc
        exact isHexChar_digitChar (Nat.mod_lt n (by decide))

theorem isHexChar_of_mem_hexDigits {width n : Nat} {c : Char} (hc : c ∈ hexDigits width n) :
    isHexChar c = true := by
  rcases List.mem_append.1 hc with hc | hc
  · obtain ⟨-, rfl⟩ := List.mem_replicate.1 hc
    decide
  · exact isHexChar_of_mem_toDigits hc

/-- The digits of a numeric escape sequence are replaced by the code point they name. -/
theorem unescape_hex {digits : List Char} (hne : digits ≠ [])
    (hall : ∀ c ∈ digits, isHexChar c = true) {start : Nat} {p : CodePoint}
    (hp : CodePoint.ofNat? (digitsValueFrom 16 start digits) = some p) (more : List Char) :
    unescape (.hex digits.length start) (digits ++ more) = (unescape .none more).map (p :: ·) := by
  induction digits generalizing start with
  | nil => exact absurd rfl hne
  | cons c digits ih =>
    obtain ⟨d, hd⟩ := Option.isSome_iff_exists.1 (hall c List.mem_cons_self)
    have hp' : CodePoint.ofNat? (digitsValueFrom 16 (16 * start + d) digits) = some p := by
      rw [← hp, digitsValueFrom, digitsValueFrom, List.foldl_cons, hd, Option.getD_some]
    rw [List.cons_append, List.length_cons, unescape, hd]
    cases digits with
    | nil =>
      simp only [digitsValueFrom, List.foldl_nil] at hp'
      simp [hp']
    | cons c' digits =>
      have hrest := ih (by simp) (fun x hx => hall x (List.mem_cons_of_mem c hx)) hp'
      simpa using hrest

/-! ## Single code points -/

/-- Characters that stand for a code point between quotes: they do not end the literal, and
they are replaced by the code point. -/
structure SpellsPoint (quote : Char) (c : CodePoint) (cs : List Char) : Prop where
  text : quotedPoint quote c = Text.ofChars cs
  unescaped : ∀ more, unescape .none (cs ++ more) = (unescape .none more).map (c :: ·)
  kept : ∀ more, shortString? quote (cs ++ more) =
    (shortString? quote more).map fun p => (cs ++ p.1, p.2)
  inLine : IsInLine cs
  head : cs.head? ≠ some quote

/-- Characters without backslashes, line feeds and the quote are kept. -/
theorem shortString?_append {quote : Char} {cs : List Char}
    (hcs : ∀ c ∈ cs, c ≠ '\\' ∧ c ≠ '\n' ∧ c ≠ quote) (more : List Char) :
    shortString? quote (cs ++ more) = (shortString? quote more).map fun p => (cs ++ p.1, p.2) := by
  induction cs with
  | nil => simp
  | cons c cs ih =>
    obtain ⟨hbackslash, hline, hquote⟩ := hcs c List.mem_cons_self
    have hrest := ih fun d hd => hcs d (List.mem_cons_of_mem c hd)
    rw [List.cons_append, shortString?]
    · simp [hline, hquote, hrest, Function.comp_def]
    · simp_all

/-- After a backslash any character is kept. -/
theorem shortString?_backslash (quote c : Char) (more : List Char) :
    shortString? quote ('\\' :: c :: more) =
      (shortString? quote more).map fun p => ('\\' :: c :: p.1, p.2) := by
  rw [shortString?]

theorem isHexChar_ne {c d : Char} (hc : isHexChar c = true) (hd : isHexChar d = false) : c ≠ d := by
  rintro rfl
  rw [hc] at hd
  exact absurd hd (by decide)

/-- An escape sequence of one letter. -/
theorem spellsPoint_letter {quote letter d : Char} (hquote : isQuoteMark quote = true)
    (hletter : letter ≠ '\n' ∧ letter ≠ '\r' ∧ letter ≠ '\x00')
    (hunescape : ∀ more, unescape .started (letter :: more) =
      (unescape .none more).map (.scalar d :: ·))
    (htext : quotedPoint quote (.scalar d) = Text.ofChars ['\\', letter]) :
    SpellsPoint quote (.scalar d) ['\\', letter] where
  text := htext
  unescaped more := by
    rw [List.cons_append, List.cons_append, List.nil_append, unescape, if_pos rfl, hunescape]
  kept more := shortString?_backslash quote letter more
  inLine := isInLine_cons (by decide) (isInLine_cons hletter fun c hc => by simp at hc)
  head := by
    rintro h
    obtain rfl : '\\' = quote := by simpa using h
    exact absurd hquote (by decide)

/-- An escape sequence of a letter and hexadecimal digits. -/
theorem spellsPoint_hex {quote letter : Char} {width : Nat} {c : CodePoint}
    (hquote : isQuoteMark quote = true)
    (hletter : letter ≠ '\n' ∧ letter ≠ '\r' ∧ letter ≠ '\x00')
    (hwidth : (Nat.toDigits 16 c.val).length ≤ width) (hpositive : 0 < width)
    (hunescape : ∀ more, unescape .started (letter :: more) = unescape (.hex width 0) more)
    (htext : quotedPoint quote c = Text.ofChars ('\\' :: letter :: hexDigits width c.val)) :
    SpellsPoint quote c ('\\' :: letter :: hexDigits width c.val) := by
  have hlength := length_hexDigits hwidth
  have hne : hexDigits width c.val ≠ [] := by
    intro h
    rw [h] at hlength
    simp at hlength
    omega
  have hquoteHex : isHexChar quote = false := by
    rcases (by simpa [isQuoteMark] using hquote : quote = '"' ∨ quote = '\'') with rfl | rfl <;> rfl
  refine ⟨htext, fun more => ?_, fun more => ?_, ?_, ?_⟩
  · have hvalue : CodePoint.ofNat? (digitsValueFrom 16 0 (hexDigits width c.val)) = some c := by
      rw [digitsValueFrom_hexDigits]
      exact ofNat?_val c
    have hread := unescape_hex hne (fun d hd => isHexChar_of_mem_hexDigits hd) hvalue more
    rw [hlength] at hread
    rw [List.cons_append, List.cons_append, unescape, if_pos rfl, hunescape, hread]
  · have hdigits : ∀ d ∈ hexDigits width c.val, d ≠ '\\' ∧ d ≠ '\n' ∧ d ≠ quote := by
      intro d hd
      have hhex := isHexChar_of_mem_hexDigits hd
      exact ⟨isHexChar_ne hhex (by decide), isHexChar_ne hhex (by decide),
        isHexChar_ne hhex hquoteHex⟩
    rw [List.cons_append, List.cons_append, shortString?_backslash, shortString?_append hdigits]
    simp [Function.comp_def]
  · refine isInLine_cons (by decide) (isInLine_cons hletter fun d hd => ?_)
    have hhex := isHexChar_of_mem_hexDigits hd
    exact ⟨isHexChar_ne hhex (by decide), isHexChar_ne hhex (by decide),
      isHexChar_ne hhex (by decide)⟩
  · rintro h
    obtain rfl : '\\' = quote := by simpa using h
    exact absurd hquote (by decide)

/-- A character that is printed as it is. -/
theorem spellsPoint_printable {quote c : Char} (hquote : c ≠ quote) (hbackslash : c ≠ '\\')
    (hprintable : isPrintable c = true) : SpellsPoint quote (.scalar c) [c] := by
  have hne : ∀ d, isPrintable d = false → c ≠ d := by
    rintro d hd rfl
    rw [hprintable] at hd
    exact absurd hd (by decide)
  have hline : c ≠ '\n' := hne '\n' (by decide)
  refine ⟨?_, fun more => ?_, fun more => ?_, ?_, ?_⟩
  · simp [quotedPoint, hquote, hbackslash, isPrintablePoint, hprintable, Text.ofChars]
  · rw [List.cons_append, List.nil_append, unescape, if_neg hbackslash]
  · exact shortString?_append (by simp [hquote, hbackslash, hline]) more
  · exact isInLine_cons ⟨hline, hne '\r' (by decide), hne '\x00' (by decide)⟩ (by simp [IsInLine])
  · simpa using hquote

/-- The number of a code point has at most six hexadecimal digits. -/
theorem val_lt (c : CodePoint) : c.val < 0x110000 := by
  cases c with
  | scalar c =>
    have hvalid : c.toNat.isValidChar := c.valid
    rcases hvalid with h | ⟨-, h⟩
    · exact Nat.lt_trans h (by decide)
    · exact h
  | surrogate offset =>
    have hoffset := offset.isLt
    rw [CodePoint.val]
    omega

theorem length_toDigits_val (c : CodePoint) (width : Nat) (h : c.val < Nat.pow 16 width)
    (hpositive : 0 < width) : (Nat.toDigits 16 c.val).length ≤ width :=
  (Nat.length_toDigits_le_iff (by decide) hpositive).2 h

/-- An escape sequence stands for its code point. -/
theorem exists_spellsPoint_of_escaped {quote : Char} {c : CodePoint}
    (hquote : isQuoteMark quote = true) (htext : quotedPoint quote c = escapeSequence c) :
    ∃ cs, SpellsPoint quote c cs := by
  rw [escapeSequence] at htext
  by_cases hbackslash : c = .scalar '\\'
  · subst hbackslash
    exact ⟨_, spellsPoint_letter hquote (by decide) (fun more => rfl) htext⟩
  rw [if_neg hbackslash] at htext
  by_cases htab : c = .scalar '\t'
  · subst htab
    exact ⟨_, spellsPoint_letter hquote (by decide) (fun more => rfl) htext⟩
  rw [if_neg htab] at htext
  by_cases hline : c = .scalar '\n'
  · subst hline
    exact ⟨_, spellsPoint_letter hquote (by decide) (fun more => rfl) htext⟩
  rw [if_neg hline] at htext
  by_cases hreturn : c = .scalar '\r'
  · subst hreturn
    exact ⟨_, spellsPoint_letter hquote (by decide) (fun more => rfl) htext⟩
  rw [if_neg hreturn] at htext
  by_cases hbyte : c.val < 0x100
  · rw [if_pos hbyte] at htext
    exact ⟨_, spellsPoint_hex hquote (by decide) (length_toDigits_val c 2 hbyte (by decide))
      (by decide) (fun more => rfl) htext⟩
  rw [if_neg hbyte] at htext
  by_cases hplane : c.val < 0x10000
  · rw [if_pos hplane] at htext
    exact ⟨_, spellsPoint_hex hquote (by decide) (length_toDigits_val c 4 hplane (by decide))
      (by decide) (fun more => rfl) htext⟩
  · rw [if_neg hplane] at htext
    have hlong : c.val < Nat.pow 16 8 := Nat.lt_trans (val_lt c) (by decide)
    exact ⟨_, spellsPoint_hex hquote (by decide) (length_toDigits_val c 8 hlong (by decide))
      (by decide) (fun more => rfl) htext⟩

/-- Every code point has characters that stand for it between quotes. -/
theorem exists_spellsPoint {quote : Char} (hquote : isQuoteMark quote = true) (c : CodePoint) :
    ∃ cs, SpellsPoint quote c cs := by
  by_cases hself : c = .scalar quote
  · subst hself
    have hcases : quote = '"' ∨ quote = '\'' := by simpa [isQuoteMark] using hquote
    refine ⟨['\\', quote], spellsPoint_letter hquote ?_ (fun more => ?_) ?_⟩
    · rcases hcases with rfl | rfl <;> decide
    · rcases hcases with rfl | rfl <;> rfl
    · simp [quotedPoint, Text.ofChars]
  · by_cases hescaped : c = .scalar '\\' ∨ isPrintablePoint c = false
    · have htext : quotedPoint quote c = escapeSequence c := by
        rw [quotedPoint, if_neg hself, if_pos]
        rcases hescaped with h | h <;> simp [h]
      exact exists_spellsPoint_of_escaped hquote htext
    · obtain ⟨hbackslash, hprintable⟩ := not_or.1 hescaped
      cases c with
      | scalar c =>
        exact ⟨[c], spellsPoint_printable (by simpa using hself) (by simpa using hbackslash)
          (by simpa [isPrintablePoint] using hprintable)⟩
      | surrogate offset => exact absurd rfl hprintable

/-! ## Texts -/

/-- Characters that stand for a text between quotes. -/
structure SpellsText (quote : Char) (t : Text) (cs : List Char) : Prop where
  text : t.flatMap (quotedPoint quote) = Text.ofChars cs
  unescaped : unescape .none cs = some t
  kept : ∀ rest, shortString? quote (cs ++ quote :: rest) = some (cs ++ [quote], rest)
  inLine : IsInLine cs
  head : cs.head? ≠ some quote

theorem ofChars_append (cs ds : List Char) :
    Text.ofChars (cs ++ ds) = Text.ofChars cs ++ Text.ofChars ds :=
  List.map_append

/-- The closing quote ends a literal. -/
theorem shortString?_quote {quote : Char} (hquote : isQuoteMark quote = true) (rest : List Char) :
    shortString? quote (quote :: rest) = some ([quote], rest) := by
  rcases (by simpa [isQuoteMark] using hquote : quote = '"' ∨ quote = '\'') with rfl | rfl <;>
    simp [shortString?]

/-- Every text has characters that stand for it between quotes. -/
theorem exists_spellsText {quote : Char} (hquote : isQuoteMark quote = true) (t : Text) :
    ∃ cs, SpellsText quote t cs := by
  induction t with
  | nil =>
    exact ⟨[], rfl, rfl, fun rest => shortString?_quote hquote rest, by simp [IsInLine], by simp⟩
  | cons c t ih =>
    obtain ⟨first, hfirst⟩ := exists_spellsPoint hquote c
    obtain ⟨others, hothers⟩ := ih
    refine ⟨first ++ others, ?_, ?_, fun rest => ?_, ?_, ?_⟩
    · rw [List.flatMap_cons, hfirst.text, hothers.text, ofChars_append]
    · rw [hfirst.unescaped, hothers.unescaped]
      rfl
    · rw [List.append_assoc, hfirst.kept, hothers.kept]
      simp
    · exact isInLine_append hfirst.inLine hothers.inLine
    · rw [List.head?_append]
      cases hhead : first.head? with
      | none => simpa using hothers.head
      | some d =>
        have hd := hfirst.head
        rw [hhead] at hd
        exact hd

/-! ## Literals -/

/-- The spelling of a string literal of a text: the printer writes it, the analysis takes it
as one token, and the parser reads the text from it. -/
structure IsSpelling (t : Text) (spelling : List Char) : Prop where
  text : quoted t = Text.ofChars spelling
  inLine : IsInLine spelling
  start : ∃ c tail, spelling = c :: tail ∧ isQuoteMark c = true
  token : ∀ (s : LexState) (rest : List Char), (∀ c ∈ rest.head?, isQuoteMark c = false) →
    tokenAt s (spelling ++ rest) = .more [⟨.string spelling, s.line⟩] s false rest
  value : ∀ g : Grammar, g.stringsExpr? [spelling] = some (.constant (.string t false))

theorem isQuoteMark_quoteFor (t : Text) : isQuoteMark (quoteFor t) = true := by
  rw [quoteFor]
  split <;> rfl

/-- A quoted body is taken up to its closing quote. -/
theorem quotedString?_spelling {quote : Char} {t : Text} {cs : List Char}
    (hquote : isQuoteMark quote = true) (h : SpellsText quote t cs) {rest : List Char}
    (hrest : ∀ c ∈ rest.head?, isQuoteMark c = false) :
    quotedString? (quote :: (cs ++ quote :: rest)) = some (quote :: (cs ++ [quote]), rest) := by
  have hkept := h.kept rest
  have hhead := h.head
  match cs, rest with
  | [], [] => simp [quotedString?, hkept] at hkept ⊢
  | [], c :: rest =>
    have hc : c ≠ quote := by
      rintro rfl
      have hmark := hrest c rfl
      rw [hquote] at hmark
      exact absurd hmark (by decide)
    simp only [List.nil_append] at hkept ⊢
    simp [quotedString?, hkept, hc.symm]
  | [a], rest =>
    have ha : a ≠ quote := by simpa using hhead
    simp only [List.cons_append, List.nil_append] at hkept ⊢
    simp [quotedString?, hkept, ha.symm]
  | a :: b :: cs, rest =>
    have ha : a ≠ quote := by simpa using hhead
    simp only [List.cons_append] at hkept ⊢
    simp [quotedString?, hkept, ha.symm]

theorem unquote_spelling {quote : Char} {cs : List Char} (hhead : cs.head? ≠ some quote) :
    unquote (quote :: (cs ++ [quote])) = cs := by
  match cs with
  | [] => rfl
  | [a] => simp [unquote]
  | a :: b :: cs =>
    have ha : (quote == a) = false := by simpa using Ne.symm (by simpa using hhead)
    have hlast : (a :: b :: cs ++ [quote]).dropLast = a :: b :: cs := List.dropLast_concat
    rw [List.cons_append, List.cons_append, unquote, ha, Bool.false_and, Bool.false_and, if_neg]
    · exact hlast
    · decide

/-- A quote starts a string literal. -/
theorem tokenAt_quoteMark {quote : Char} (hquote : isQuoteMark quote = true) (s : LexState)
    {cs literal rest : List Char} (h : quotedString? (quote :: cs) = some (literal, rest)) :
    tokenAt s (quote :: cs) = .more [⟨.string literal, s.line⟩]
      { s with line := s.line + literal.count '\n' } false rest := by
  have hmark : stringPrefix? (quote :: cs) = some ([], quote :: cs) := by
    rcases (by simpa [isQuoteMark] using hquote : quote = '"' ∨ quote = '\'') with rfl | rfl <;>
      rcases cs with _ | ⟨a, _ | ⟨b, cs⟩⟩ <;> rfl
  have hline : quote ≠ '\n' := by
    rintro rfl
    exact absurd hquote (by decide)
  have hbackslash : quote ≠ '\\' := by
    rintro rfl
    exact absurd hquote (by decide)
  rw [tokenAt, hmark]
  · simp only [h, List.nil_append]
  all_goals simp [hline, hbackslash]

/-- Every text has a string literal. -/
theorem exists_isSpelling (t : Text) : ∃ spelling, IsSpelling t spelling := by
  have hquote := isQuoteMark_quoteFor t
  obtain ⟨cs, hcs⟩ := exists_spellsText hquote t
  have hcases : quoteFor t = '"' ∨ quoteFor t = '\'' := by simpa [isQuoteMark] using hquote
  have hinLine : IsInLine (quoteFor t :: (cs ++ [quoteFor t])) := by
    have hmark : quoteFor t ≠ '\n' ∧ quoteFor t ≠ '\r' ∧ quoteFor t ≠ '\x00' := by
      rcases hcases with h | h <;> rw [h] <;> decide
    exact isInLine_cons hmark (isInLine_append hcs.inLine (isInLine_cons hmark (by simp [IsInLine])))
  refine ⟨quoteFor t :: (cs ++ [quoteFor t]), ?_, hinLine, ⟨_, _, rfl, hquote⟩,
    fun s rest hrest => ?_, fun g => ?_⟩
  · simp [quoted, hcs.text, Text.ofChars]
  · have htaken := quotedString?_spelling hquote hcs hrest
    have hlines : (quoteFor t :: (cs ++ [quoteFor t])).count '\n' = 0 := by
      rw [List.count_eq_zero]
      exact fun hmem => (hinLine '\n' hmem).1 rfl
    have hjoin : quoteFor t :: (cs ++ [quoteFor t]) ++ rest =
        quoteFor t :: (cs ++ quoteFor t :: rest) := by
      simp
    rw [hjoin, tokenAt_quoteMark hquote s htaken, hlines]
    rfl
  · have hbody : StringToken.ofSpelling (quoteFor t :: (cs ++ [quoteFor t])) =
        ⟨false, false, false, cs⟩ := by
      have hunquote := unquote_spelling hcs.head
      rcases hcases with h | h <;> rw [h] at hunquote ⊢ <;>
        simp [StringToken.ofSpelling, hunquote]
    have hmark : quoteFor t ≠ 'u' := by
      rcases hcases with h | h <;> rw [h] <;> decide
    simp [Grammar.stringsExpr?, hbody, stringText?, hcs.unescaped, hmark]

end AnnotatedMarkdown.Python
