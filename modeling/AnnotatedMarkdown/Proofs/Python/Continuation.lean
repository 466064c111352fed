import AnnotatedMarkdown.Proofs.Python.Separation
import Mathlib.Data.List.TakeWhile

/-!
# Lexical analysis in front of a tail

A text that ends in code is read in the same way in front of every tail that starts with a
separator, if it is read without a fault in front of separators.  This module says so of single
steps.

* `Settles` holds of a step that stops, or goes on within the text in front of all tails
  (`Advances`).  The steps at a token settle (`settles_tokenAt`).
* `PassesOn` is the same for steps that decide by their state only, such as the token of a word
  that has been cut off.
* `inLine_append`, `lineStart_comment` and `lineStart_code` say where the other steps go on.
-/

namespace AnnotatedMarkdown.Python

open Unicode

/-! ## Like states and steps -/

/-- The lexemes of tokens. -/
def lexemes (tokens : List Token) : List Lexeme :=
  tokens.map Token.lexeme

/-- States that go on in the same way and may be at different lines. -/
structure LexState.Like (s s' : LexState) : Prop where
  columns : s.columns = s'.columns
  brackets : s.brackets.map Prod.fst = s'.brackets.map Prod.fst
  plain : s.IsPlain
  plain' : s'.IsPlain

theorem LexState.Like.refl {s : LexState} (hs : s.IsPlain) : s.Like s :=
  ⟨rfl, rfl, hs, hs⟩

theorem LexState.Like.trans {s s' s'' : LexState} (h : s.Like s') (h' : s'.Like s'') : s.Like s'' :=
  ⟨h.columns.trans h'.columns, h.brackets.trans h'.brackets, h.plain, h'.plain'⟩

theorem LexState.Like.symm {s s' : LexState} (h : s.Like s') : s'.Like s :=
  ⟨h.columns.symm, h.brackets.symm, h.plain', h.plain⟩

/-- The end of a text that is neither blank nor a line break. -/
def EndsInCode (cs : List Char) : Prop :=
  ∀ c ∈ cs.getLast?, isLineBlank c = false ∧ c ≠ '\n'

theorem EndsInCode.of_suffix {cs left : List Char} (h : EndsInCode cs) (hleft : left <:+ cs) :
    EndsInCode left := by
  obtain ⟨front, rfl⟩ := hleft
  intro c hc
  refine h c ?_
  rw [List.getLast?_append, Option.mem_def.1 hc]
  rfl

theorem EndsInCode.ne_nil {cs : List Char} (h : EndsInCode ('\n' :: cs)) : cs ≠ [] := by
  rintro rfl
  exact (h '\n' rfl).2 rfl

/-- How a step goes on in front of all tails, from all states like a given one. -/
def Advances (step : LexState → List Char → LexStep) (s : LexState) (cs : List Char)
    (xs : List Lexeme) (t : LexState) (atLineStart : Bool) (left : List Char) : Prop :=
  ∀ s' tail, s.Like s' → Separates tail → ∃ tokens t', lexemes tokens = xs ∧ t.Like t' ∧
    step s' (cs ++ tail) = .more tokens t' atLineStart (left ++ tail)

/-- What a step makes of a text in front of some tail: it stops, or goes on within the text in
the same way as in front of all tails. -/
def Settles (step : LexState → List Char → LexStep) (s : LexState) (cs tail : List Char) : Prop :=
  (∃ error, step s (cs ++ tail) = .stop error) ∨
    ∃ xs t atLineStart left, left <:+ cs ∧ (atLineStart = true → left ≠ []) ∧
      Advances step s cs xs t atLineStart left

/-- A step that decides by its state only, and passes the rest of the text on. -/
def PassesOn (step : LexState → List Char → LexStep) (s : LexState) (rest : List Char) : Prop :=
  (∃ error, step s rest = .stop error) ∨
    ∃ xs t, ∀ s' rest', s.Like s' → ∃ tokens t', lexemes tokens = xs ∧ LexState.Like t t' ∧
      step s' rest' = .more tokens t' false rest'

/-! ## Tokens -/

section

variable {s : LexState}

theorem passesOn_wordToken (word rest : List Char) :
    PassesOn (wordToken · word) s rest := by
  unfold PassesOn wordToken
  cases Word.ofChars? word with
  | none =>
    by_cases hname : (word.all isAscii || isIdentifier word) = true
    · exact Or.inr ⟨[.name word], s, fun s' rest' hlike =>
        ⟨[⟨.name word, s'.line⟩], s', rfl, hlike, if_pos hname⟩⟩
    · exact Or.inl ⟨_, if_neg hname⟩
  | some w =>
    refine Or.inr ⟨[.word w], s, fun s' rest' hlike => ⟨[⟨.word w, s'.line⟩], s', rfl, hlike, ?_⟩⟩
    have halways : s'.async.always = true := by rw [hlike.plain']
    cases w <;> simp [halways]

theorem passesOn_openBracket (c : Char) (o : Op) (rest : List Char) :
    PassesOn (fun s rest =>
      if 200 ≤ s.brackets.length then .stop ⟨.tooManyBrackets, s.line⟩
      else .more [⟨.op o, s.line⟩] { s with brackets := (c, s.line) :: s.brackets } false rest)
      s rest := by
  by_cases hmany : 200 ≤ s.brackets.length
  · exact Or.inl ⟨_, if_pos hmany⟩
  · refine Or.inr ⟨[.op o], { s with brackets := (c, s.line) :: s.brackets },
      fun s' rest' hlike => ⟨[⟨.op o, s'.line⟩], _, rfl, ?_, if_neg ?_⟩⟩
    · exact ⟨hlike.columns, congrArg (c :: ·) hlike.brackets, hlike.plain, hlike.plain'⟩
    · rwa [← List.length_map (f := Prod.fst), ← hlike.brackets, List.length_map]

theorem passesOn_closeBracket (c : Char) (o : Op) (rest : List Char) :
    PassesOn (fun s rest =>
      match s.brackets with
      | [] => .stop ⟨.unmatchedBracket, s.line⟩
      | (opening, _) :: brackets =>
        if closingOf opening == c then .more [⟨.op o, s.line⟩] { s with brackets } false rest
        else .stop ⟨.mismatchedBracket, s.line⟩) s rest := by
  cases hbrackets : s.brackets with
  | nil =>
    refine Or.inl ⟨⟨.unmatchedBracket, s.line⟩, ?_⟩
    dsimp only
    rw [hbrackets]
  | cons bracket brackets =>
    by_cases hmatch : (closingOf bracket.1 == c) = true
    · refine Or.inr ⟨[.op o], { s with brackets }, fun s' rest' hlike => ?_⟩
      have hsame := hlike.brackets
      rw [hbrackets, List.map_cons] at hsame
      obtain ⟨bracket', brackets', hbrackets', hopening, hrest⟩ :=
        List.map_eq_cons_iff.1 hsame.symm
      refine ⟨[⟨.op o, s'.line⟩], { s' with brackets := brackets' }, rfl,
        ⟨hlike.columns, hrest.symm, hlike.plain, hlike.plain'⟩, ?_⟩
      dsimp only
      rw [hbrackets']
      exact if_pos (hopening ▸ hmatch)
    · refine Or.inl ⟨⟨.mismatchedBracket, s.line⟩, ?_⟩
      dsimp only
      rw [hbrackets]
      exact if_neg hmatch

theorem passesOn_opToken (c : Char) (o : Op) (rest : List Char) :
    PassesOn (opToken · c o) s rest := by
  have hsingle : (∀ s' rest', opToken s' c o rest' = .more [⟨.op o, s'.line⟩] s' false rest') →
      PassesOn (opToken · c o) s rest :=
    fun h => Or.inr ⟨[.op o], s, fun s' rest' hlike =>
      ⟨[⟨.op o, s'.line⟩], s', rfl, hlike, h s' rest'⟩⟩
  cases o with
  | lPar | lSqb | lBrace => exact passesOn_openBracket c _ rest
  | rPar | rSqb | rBrace => exact passesOn_closeBracket c _ rest
  | other =>
    by_cases hprintable : isPrintable c = true
    · exact Or.inr ⟨[.op .other], s, fun s' rest' hlike =>
        ⟨[⟨.op .other, s'.line⟩], s', rfl, hlike, if_pos hprintable⟩⟩
    · exact Or.inl ⟨_, if_neg hprintable⟩
  | _ => exact hsingle fun _ _ => rfl

theorem tokenAt_cons {c : Char} (hline : c ≠ '\n') (hbackslash : c ≠ '\\') (s : LexState)
    (cs : List Char) :
    tokenAt s (c :: cs) =
      match stringPrefix? (c :: cs) with
      | some (letters, quoted) =>
        match quotedString? quoted with
        | some (literal, rest) =>
          .more [⟨.string (letters ++ literal), s.line⟩]
            { s with line := s.line + literal.count '\n' } false rest
        | none => .stop ⟨.unterminatedString, s.line⟩
      | none =>
        if isWordStart c then
          wordToken s ((c :: cs).takeWhile isWordChar) ((c :: cs).dropWhile isWordChar)
        else if startsNumber (c :: cs) then
          match number? (c :: cs) with
          | some (digits, rest) => .more [⟨.number digits, s.line⟩] s false rest
          | none => .stop ⟨.invalidNumber, s.line⟩
        else
          match Op.longest? (c :: cs) with
          | some (op, rest) => opToken s c op rest
          | none => .more [] s false cs := by
  unfold tokenAt
  split
  case h_6 heq =>
    obtain ⟨rfl, rfl⟩ := List.cons.inj heq
    rfl
  all_goals simp_all

end

section

variable {s : LexState} {cs tail : List Char}

theorem PassesOn.settles {step step' : LexState → List Char → LexStep} {left : List Char}
    (h : PassesOn step' s (left ++ tail)) (htail : Separates tail) (hleft : left <:+ cs)
    (heq : ∀ s' tail', Separates tail' → step s' (cs ++ tail') = step' s' (left ++ tail')) :
    Settles step s cs tail := by
  rcases h with ⟨error, hstop⟩ | ⟨xs, t, hmore⟩
  · exact Or.inl ⟨error, (heq s tail htail).trans hstop⟩
  · refine Or.inr ⟨xs, t, false, left, hleft, nofun, fun s' tail' hlike htail' => ?_⟩
    obtain ⟨tokens, t', hxs, ht, hstep⟩ := hmore s' (left ++ tail') hlike
    exact ⟨tokens, t', hxs, ht, (heq s' tail' htail').trans hstep⟩

theorem passesOn_token (x : Lexeme) (lines : Nat) (rest : List Char) :
    PassesOn (fun s rest => .more [⟨x, s.line⟩] { s with line := s.line + lines } false rest) s rest :=
  Or.inr ⟨[x], s, fun s' _ hlike => ⟨[⟨x, s'.line⟩], { s' with line := s'.line + lines }, rfl,
    ⟨hlike.columns, hlike.brackets, hlike.plain, hlike.plain'⟩, rfl⟩⟩

theorem stringPrefix?_quote {letters quoted : List Char}
    (h : stringPrefix? cs = some (letters, quoted)) :
    ∃ quote more, isQuoteMark quote = true ∧ quoted = quote :: more := by
  unfold stringPrefix? at h
  dsimp only at h
  grind [isQuoteMark]

theorem LexState.Like.nextLine {s s' : LexState} (h : s.Like s') (rest : List Char) :
    s.Like (s'.nextLine rest) := by
  unfold LexState.nextLine
  split
  · exact h
  · exact ⟨h.columns, h.brackets, h.plain, h.plain'⟩

theorem LexState.Like.endLine {s s' : LexState} (h : s.Like s') : s.Like s'.endLine := by
  have hasync : s'.async = ⟨true, none⟩ := h.plain'
  refine ⟨h.columns, h.brackets, h.plain, ?_⟩
  rw [LexState.IsPlain, LexState.endLine, hasync]
  rfl

theorem LexState.Like.isEmpty_brackets {s s' : LexState} (h : s.Like s') :
    s.brackets.isEmpty = s'.brackets.isEmpty := by
  rw [← List.isEmpty_map (f := Prod.fst), h.brackets, List.isEmpty_map]

/-- A line break settles, since the text goes on after it. -/
theorem settles_lineBreak (hcode : EndsInCode ('\n' :: cs)) : Settles tokenAt s ('\n' :: cs) tail := by
  have hne := hcode.ne_nil
  by_cases hbrackets : s.brackets.isEmpty = true
  · refine Or.inr ⟨[.newline], s, true, cs, List.suffix_cons _ _, fun _ => hne,
      fun s' tail' hlike _ => ⟨[⟨.newline, s'.line⟩], s'.endLine.nextLine (cs ++ tail'), rfl,
        hlike.endLine.nextLine _, ?_⟩⟩
    rw [List.cons_append, tokenAt, if_pos (hlike.isEmpty_brackets ▸ hbrackets)]
  · refine Or.inr ⟨[], s, true, cs, List.suffix_cons _ _, fun _ => hne,
      fun s' tail' hlike _ => ⟨[], s'.nextLine (cs ++ tail'), rfl, hlike.nextLine _, ?_⟩⟩
    rw [List.cons_append, tokenAt, if_neg (hlike.isEmpty_brackets ▸ hbrackets)]

/-- A backslash continues the line or stops the analysis. -/
theorem settles_backslash (htail : IsTrailing tail) (hcode : EndsInCode ('\\' :: cs)) :
    Settles tokenAt s ('\\' :: cs) tail := by
  cases cs with
  | nil =>
    left
    cases tail with
    | nil => exact ⟨_, rfl⟩
    | cons c rest =>
      by_cases hc : c = '\n'
      · subst hc
        rw [htail.lineBreak rest rfl]
        exact ⟨_, rfl⟩
      · refine ⟨⟨.strayContinuation, s.line⟩, ?_⟩
        rw [List.cons_append, List.nil_append, tokenAt] <;> simp_all
  | cons c cs =>
    by_cases hc : c = '\n'
    · subst hc
      have hne := (hcode.of_suffix (List.suffix_cons _ _)).ne_nil
      refine Or.inr ⟨[], s, false, cs, (List.suffix_cons _ _).trans (List.suffix_cons _ _),
        fun h => absurd h Bool.false_ne_true,
        fun s' tail' hlike _ => ⟨[], s'.nextLine (cs ++ tail'), rfl, hlike.nextLine _, ?_⟩⟩
      rw [List.cons_append, List.cons_append, tokenAt]
      simp_all
    · refine Or.inl ⟨⟨.strayContinuation, s.line⟩, ?_⟩
      rw [List.cons_append, List.cons_append, tokenAt] <;> simp_all

theorem settles_tokenAt (htail : IsTrailing tail) (hne : cs ≠ []) (hcode : EndsInCode cs) :
    Settles tokenAt s cs tail := by
  obtain ⟨c, cs, rfl⟩ := List.exists_cons_of_ne_nil hne
  by_cases hline : c = '\n'
  · subst hline
    exact settles_lineBreak hcode
  by_cases hbackslash : c = '\\'
  · subst hbackslash
    exact settles_backslash htail hcode
  have hseparates := htail.separates
  cases hletters : stringPrefix? (c :: cs) with
  | some r =>
    obtain ⟨letters, quoted⟩ := r
    obtain ⟨quote, more, hquote, rfl⟩ := stringPrefix?_quote hletters
    have hquoted : quote :: more <:+ c :: cs := ⟨letters, stringPrefix?_append_rest hletters⟩
    have hstep : ∀ s' tail', Separates tail' → tokenAt s' (c :: cs ++ tail') =
        match quotedString? (quote :: more ++ tail') with
        | some (literal, rest) =>
          .more [⟨.string (letters ++ literal), s'.line⟩]
            { s' with line := s'.line + literal.count '\n' } false rest
        | none => .stop ⟨.unterminatedString, s'.line⟩ := by
      intro s' tail' htail'
      have hsame := stringPrefix?_append_tail htail' hne
      rw [hletters] at hsame
      rw [List.cons_append] at hsame ⊢
      rw [tokenAt_cons hline hbackslash, hsame]
      rfl
    cases hliteral : quotedString? (quote :: more ++ tail) with
    | none =>
      refine Or.inl ⟨⟨.unterminatedString, s.line⟩, ?_⟩
      rw [hstep s tail hseparates, hliteral]
    | some r =>
      obtain ⟨literal, rest⟩ := r
      obtain ⟨left, rfl, hall⟩ := quotedString?_before hquote htail.separators hliteral
      have hleft : left <:+ quote :: more := by
        have hself := hall [] separates_nil
        rw [List.append_nil, List.append_nil] at hself
        exact (quotedString?_leaves hself).suffix
      refine (passesOn_token (.string (letters ++ literal)) (literal.count '\n') _).settles hseparates
        (hleft.trans hquoted) fun s' tail' htail' => ?_
      rw [hstep s' tail' htail', hall tail' htail']
  | none =>
    have hstep : ∀ s' tail', Separates tail' → tokenAt s' (c :: cs ++ tail') =
        if isWordStart c then
          wordToken s' ((c :: cs).takeWhile isWordChar) ((c :: cs).dropWhile isWordChar ++ tail')
        else if startsNumber (c :: cs) then
          match (number? (c :: cs)).map (withTail tail') with
          | some (digits, rest) => .more [⟨.number digits, s'.line⟩] s' false rest
          | none => .stop ⟨.invalidNumber, s'.line⟩
        else
          match (Op.longest? (c :: cs)).map (withTail tail') with
          | some (op, rest) => opToken s' c op rest
          | none => .more [] s' false (cs ++ tail') := by
      intro s' tail' htail'
      rw [← number?_append_tail htail' hne, ← longest?_append_tail htail' hne,
        ← dropWhile_isWordChar_append_tail htail', ← takeWhile_isWordChar_append_tail htail',
        ← startsNumber_append_tail htail' hne]
      have hsame := stringPrefix?_append_tail htail' hne
      rw [hletters] at hsame
      rw [List.cons_append] at hsame ⊢
      rw [tokenAt_cons hline hbackslash, hsame]
      rfl
    by_cases hstart : isWordStart c = true
    · refine (passesOn_wordToken ((c :: cs).takeWhile isWordChar) _).settles hseparates
        (List.dropWhile_suffix isWordChar) fun s' tail' htail' => ?_
      rw [hstep s' tail' htail', if_pos hstart]
    by_cases hdigit : startsNumber (c :: cs) = true
    · cases hnumber : number? (c :: cs) with
      | none =>
        refine Or.inl ⟨⟨.invalidNumber, s.line⟩, ?_⟩
        rw [hstep s tail hseparates, if_neg hstart, if_pos hdigit, hnumber]
        rfl
      | some r =>
        refine (passesOn_token (.number r.1) 0 _).settles hseparates
          (number?_leaves hdigit hnumber).suffix fun s' tail' htail' => ?_
        rw [hstep s' tail' htail', if_neg hstart, if_pos hdigit, hnumber]
        rfl
    · cases hop : Op.longest? (c :: cs) with
      | none =>
        refine Or.inr ⟨[], s, false, cs, List.suffix_cons _ _, nofun, fun s' tail' hlike htail' =>
          ⟨[], s', rfl, hlike, ?_⟩⟩
        rw [hstep s' tail' htail', if_neg hstart, if_neg hdigit, hop]
        rfl
      | some r =>
        refine (passesOn_opToken c r.1 _).settles hseparates (longest?_leaves hop).suffix
          fun s' tail' htail' => ?_
        rw [hstep s' tail' htail', if_neg hstart, if_neg hdigit, hop]
        rfl

/-- A text that ends in code is not blank. -/
theorem dropWhile_isLineBlank_ne_nil (hne : cs ≠ []) (hcode : EndsInCode cs) :
    cs.dropWhile isLineBlank ≠ [] := by
  rw [Ne, List.dropWhile_eq_nil_iff]
  intro hall
  have hlast := List.getLast?_eq_some_getLast hne
  have hblank := hall _ (List.mem_of_getLast? hlast)
  rw [(hcode _ hlast).1] at hblank
  cases hblank

theorem dropWhile_append_of_ne_nil {p : Char → Bool} (h : cs.dropWhile p ≠ []) (ds : List Char) :
    (cs ++ ds).dropWhile p = cs.dropWhile p ++ ds := by
  rw [List.dropWhile_append, if_neg]
  rwa [List.isEmpty_iff]

theorem inLine_append (hs : s.IsPlain) {c : Char} {ds : List Char}
    (hds : cs.dropWhile isLineBlank = c :: ds) (tail : List Char) :
    inLine s (cs ++ tail) =
      tokenAt s (if c = '#' then afterComment (c :: ds ++ tail) else c :: ds ++ tail) := by
  have hblank : cs.dropWhile isLineBlank ≠ [] := hds ▸ List.cons_ne_nil c ds
  rw [inLine, leaveAsync_of_isPlain hs, dropWhile_append_of_ne_nil hblank, hds]
  simp

/-! ## Starts of lines -/

variable {m : Margin} {more : List Char}

theorem lineStart_comment (h : measure ⟨0, 0, 0, s.line⟩ cs = .ok (m, '#' :: more)) :
    lineStart s cs =
      match afterComment more with
      | _ :: more => .more [] (LexState.nextLine { s with line := m.line } more) true more
      | [] => .more [] { s with line := m.line } false [] := by
  rw [lineStart, h]
  rfl

theorem lineStart_code {c : Char} (h : measure ⟨0, 0, 0, s.line⟩ cs = .ok (m, c :: more))
    (hline : c ≠ '\n') (hcomment : c ≠ '#') :
    lineStart s cs =
      if s.brackets.isEmpty then indentation { s with line := m.line } m (c :: more)
      else .more [] { s with line := m.line } false (c :: more) := by
  rw [lineStart, h]
  dsimp only
  split <;> simp_all

end

/-- States and texts with the same next step have the same tokens. -/
theorem scanAll_congr {s s' : LexState} {atLineStart atLineStart' : Bool} {cs cs' : List Char}
    (h : nextStep s atLineStart cs = nextStep s' atLineStart' cs') :
    scanAll s atLineStart cs = scanAll s' atLineStart' cs' := by
  cases hstep : nextStep s atLineStart cs with
  | more tokens t next rest => rw [scanAll_of_more hstep, scanAll_of_more (h.symm.trans hstep)]
  | last tokens => rw [scanAll_of_last hstep, scanAll_of_last (h.symm.trans hstep)]
  | stop error => rw [scanAll_of_stop hstep, scanAll_of_stop (h.symm.trans hstep)]

end AnnotatedMarkdown.Python
