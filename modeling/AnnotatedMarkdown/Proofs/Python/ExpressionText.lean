import AnnotatedMarkdown.Proofs.Python.DisplayText

/-!
# Whole texts of literal expressions

`parseExpression_of_isSpelled` joins both halves of reading: the analysis takes the lexemes
of a text, and the parser makes an expression of them.

* `lex_of_isSpelled` follows the analysis from the start of the text to its end marker.
* `soleExpression_of_isElement` reads an expression that nothing follows.
-/

namespace AnnotatedMarkdown.Python

open AnnotatedMarkdown.Python.Parser Unicode

/-! ## The analysis of a whole text -/

/-- A line that starts with code at the margin needs no token for its indentation. -/
theorem lineStart_of_startsCode {c : Char} (hc : startsCode c = true) (line : Nat) (async : Bool)
    (cs : List Char) :
    lineStart (.start line async) (c :: cs) = .more [] (.start line async) false (c :: cs) := by
  simp only [startsCode, isLineBlank, Bool.and_eq_true, Bool.not_eq_true', Bool.or_eq_false_iff,
    beq_eq_false_iff_ne, bne_iff_ne] at hc
  obtain ⟨⟨⟨⟨⟨hspace, htab⟩, hfeed⟩, hcomment⟩, hline⟩, hbackslash⟩ := hc
  have hmeasure : measure ⟨0, 0, 0, line⟩ (c :: cs) = .ok (⟨0, 0, 0, line⟩, c :: cs) := by
    rw [measure]
    all_goals simp [hspace, htab, hfeed, hbackslash]
  have hstate : (LexState.start line async).line = line := rfl
  rw [lineStart, hstate, hmeasure]
  simp only []
  split
  · simp_all
  · simp_all
  · rfl

/-- A text that is taken as lexemes yields them and the end marker. -/
theorem lex_of_isSpelled {depth : Nat} {cs : List Char} {lexemes : List Lexeme}
    (h : IsSpelled depth cs lexemes) (hdepth : depth ≤ maxBrackets) (line : Nat) :
    (lex line true cs).tokens = onLine line lexemes ++ [⟨.endMarker, line⟩] := by
  have hreads := h.reads (.start line true) [] rfl (by simpa [LexState.start] using hdepth)
    endsOperand_nil
  rw [List.append_nil] at hreads
  obtain ⟨steps, hsteps, hscan⟩ := hreads.scan
  rw [List.length_nil, Nat.add_zero] at hsteps
  obtain ⟨c, tail, rfl, hc⟩ := h.start
  have hfuel : 2 * (c :: tail).length + 3 = (2 * (c :: tail).length + 1 - steps + 1) + steps + 1 := by
    omega
  have hend : ∀ fuel, scan (fuel + 1) (.start line true) false [] =
      ⟨[⟨.endMarker, line⟩], none⟩ :=
    fun _ => rfl
  rw [lex, hfuel, scan]
  simp only [if_true, lineStart_of_startsCode hc, hscan, hend, List.nil_append]
  rfl

/-! ## The parser on a whole text -/

/-- An element in front of the end marker is an expression of its own. -/
theorem soleExpression_of_isElement {lexemes : List Lexeme} {e : Expr} (h : IsElement lexemes e)
    {n : Nat} (hn : lexemes.length ≤ n) (line : Nat) :
    (Grammar.level latestVersion true (n + 1)).soleExpression
      (onLine line lexemes ++ [⟨.endMarker, line⟩]) = .ok (e, []) := by
  let closed : List Token := [⟨.endMarker, line⟩]
  have hclosed : EndsElement closed := endsElement_cons rfl []
  have hread := h.parsed n line closed hn hclosed
  have hexpressions : (Grammar.level latestVersion true (n + 1)).expressions
      (onLine line lexemes ++ closed) = .ok (e, closed) := by
    have hlist : commaList (Grammar.level latestVersion true (n + 1)).expression
        (onLine line lexemes ++ closed) = .ok ([e], closed) := by
      rw [commaList, bind_of_ok (show (Grammar.level latestVersion true (n + 1)).expression _ = _
        from hread), bind_many_of_mismatch]
      · rfl
      · exact bind_of_mismatch (by simp [op, expect, closed])
    have htrailing : commaListTrailing (Grammar.level latestVersion true (n + 1)).expression
        (onLine line lexemes ++ closed) = .ok (([e], false), closed) := by
      rw [commaListTrailing, bind_of_ok hlist,
        bind_of_ok (accept_of_ne (show Lexeme.endMarker ≠ .op .comma by simp) line [])]
      rfl
    rw [Grammar.expressions, bind_of_ok htrailing]
    rfl
  rw [Grammar.soleExpression, bind_of_ok hexpressions, bind_many_of_mismatch]
  · rfl
  · exact expect_of_endsElement rfl hclosed

/-! ## Reading -/

/-- A text of lexemes that form an element is read as its expression. -/
theorem parseExpression_of_isSpelled {depth : Nat} {cs : List Char} {lexemes : List Lexeme}
    {e : Expr} (hspelled : IsSpelled depth cs lexemes) (hdepth : depth ≤ maxBrackets)
    (helement : IsElement lexemes e) : parseExpression (Text.ofChars cs) = .ok e := by
  have hnull : cs.contains '\x00' = false := by
    rw [List.contains_eq_mem, decide_eq_false_iff_not]
    exact fun hmem => (hspelled.inLine _ hmem).2.2 rfl
  have hsource : sourceChars (Text.ofChars cs) = .ok cs := by
    simp only [sourceChars, Text.chars?_ofChars, hnull, Bool.false_eq_true, if_false]
  have hbreaks : unifyLineBreaks cs = cs :=
    unifyLineBreaks_eq_self fun hmem => (hspelled.inLine _ hmem).2.1 rfl
  have htokens := lex_of_isSpelled hspelled hdepth 1
  have hlevels : lexemes.length ≤ cs.length + 1 := Nat.le_succ_of_le hspelled.short
  have hparse := soleExpression_of_isElement helement hlevels 1
  rw [parseExpression, hsource]
  change complete (Grammar.level latestVersion true (cs.length + 1 + 1)).soleExpression
      (lex 1 true (unifyLineBreaks cs)).tokens = .ok e
  rw [hbreaks, htokens, complete, hparse]

end AnnotatedMarkdown.Python
