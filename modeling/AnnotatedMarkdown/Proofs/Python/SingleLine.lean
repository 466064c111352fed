import AnnotatedMarkdown.Proofs.Python.Continuation
import AnnotatedMarkdown.Proofs.Python.Line.Basic

/-!
# Texts of a single line

A text without line breaks has the same tokens with and without a line feed at its end, apart from
the end of the line itself.
-/

namespace AnnotatedMarkdown.Python

/-- A line feed at the end of a text, or none. -/
def lineEnd : (broken : Bool) → List Char
  | false => []
  | true => ['\n']

/-- The lexemes at the end of a text of one line. -/
def closing : (broken : Bool) → List Lexeme
  | false => [.endMarker]
  | true => [.newline, .endMarker]

theorem isTrailing_lineEnd (broken : Bool) : IsTrailing (lineEnd broken) := by
  cases broken with
  | false => exact ⟨nofun, nofun⟩
  | true =>
    refine ⟨fun c hc => ?_, fun rest h => (List.cons.inj h).2.symm⟩
    rw [List.mem_singleton.1 hc]
    rfl

/-- Whether a lexeme stands on a line. -/
def Lexeme.isOnLine (x : Lexeme) : Bool :=
  x.isInner || x == .op .semi

theorem Lexeme.isOnLine_op (o : Op) : Lexeme.isOnLine (.op o) = true := by
  cases o <;> rfl

section

variable {s t : LexState} {atLineStart : Bool} {rest : List Char} {tokens : List Token}

theorem wordToken_isOnLine {word cs : List Char}
    (h : wordToken s word cs = .more tokens t atLineStart rest) :
    atLineStart = false ∧ t.columns = s.columns ∧ (lexemes tokens).all Lexeme.isOnLine = true := by
  unfold wordToken at h
  split at h
  · split at h
    · cases h
      exact ⟨rfl, rfl, rfl⟩
    · split at h <;> cases h <;> exact ⟨rfl, rfl, rfl⟩
  · split at h <;> cases h <;> exact ⟨rfl, rfl, rfl⟩
  · cases h
    exact ⟨rfl, rfl, rfl⟩
  · split at h <;> cases h
    exact ⟨rfl, rfl, rfl⟩

theorem opToken_isOnLine {c : Char} {o : Op} {cs : List Char}
    (h : opToken s c o cs = .more tokens t atLineStart rest) :
    atLineStart = false ∧ t.columns = s.columns ∧ (lexemes tokens).all Lexeme.isOnLine = true := by
  have hsingle : ∀ line, (lexemes [⟨.op o, line⟩]).all Lexeme.isOnLine = true := by
    intro line
    simp [lexemes, Lexeme.isOnLine_op]
  unfold opToken at h
  dsimp only at h
  split at h
  iterate 3
    · split at h <;> cases h
      exact ⟨rfl, rfl, hsingle _⟩
  iterate 3
    · split at h
      · cases h
      · split at h <;> cases h
        exact ⟨rfl, rfl, hsingle _⟩
  · split at h <;> cases h
    exact ⟨rfl, rfl, hsingle _⟩
  · cases h
    exact ⟨rfl, rfl, hsingle _⟩

theorem tokenAt_isOnLine {c : Char} {cs : List Char} (hc : c ≠ '\n')
    (h : tokenAt s (c :: cs) = .more tokens t atLineStart rest) :
    atLineStart = false ∧ t.columns = s.columns ∧ (lexemes tokens).all Lexeme.isOnLine = true := by
  by_cases hbackslash : c = '\\'
  · subst hbackslash
    match cs, h with
    | [], h => cases h
    | d :: cs, h =>
      by_cases hd : d = '\n'
      · subst hd
        cases cs with
        | nil => cases h
        | cons e cs =>
          cases h
          exact ⟨rfl, rfl, rfl⟩
      · rw [tokenAt] at h <;> simp_all
  · rw [tokenAt_cons hc hbackslash] at h
    split at h
    · split at h
      · cases h
        exact ⟨rfl, rfl, rfl⟩
      · cases h
    · split at h
      · exact wordToken_isOnLine h
      · split at h
        · split at h
          · cases h
            exact ⟨rfl, rfl, rfl⟩
          · cases h
        · split at h
          · exact opToken_isOnLine h
          · cases h
            exact ⟨rfl, rfl, rfl⟩

end

/-! ## The end of the line -/

section

variable {s : LexState} (hs : s.IsPlain)

include hs

theorem inLine_nil : inLine s [] = textEnd s := by
  rw [inLine, leaveAsync_of_isPlain hs]
  rfl

theorem inLine_lineFeed : inLine s ['\n'] =
    if s.brackets.isEmpty then .more [⟨.newline, s.line⟩] s true [] else .more [] s true [] := by
  have hend : s.endLine = s := by
    have hasync : s.async = ⟨true, none⟩ := hs
    rw [LexState.endLine, hasync]
    simp only [Option.map_none]
    rw [← hasync]
  have htoken : tokenAt s ['\n'] = if s.brackets.isEmpty then .more [⟨.newline, s.line⟩] s.endLine true []
      else .more [] s true [] := rfl
  rw [inLine, leaveAsync_of_isPlain hs, ← hend]
  rw [hend] at htoken ⊢
  exact htoken

omit hs in
/-- At the end of a text that is not indented, the start of a line has no tokens. -/
theorem lineStart_nil (hcolumns : s.columns = [(0, 0)]) : lineStart s [] = .more [] s false [] := by
  have hindentation : indentation s ⟨0, 0, 0, s.line⟩ [] = .more [] s false [] := by
    rw [indentation, hcolumns]
    rfl
  have hline : lineStart s [] =
      if s.brackets.isEmpty then indentation s ⟨0, 0, 0, s.line⟩ [] else .more [] s false [] := rfl
  rw [hline, hindentation, ite_self]

theorem scanAll_nil : scanAll s false [] =
    if s.brackets.isEmpty then ⟨[⟨.endMarker, s.line⟩], none⟩ else ⟨[], (scanAll s false []).error⟩ := by
  have hstep : nextStep s false [] = textEnd s := inLine_nil hs
  cases hbrackets : s.brackets with
  | nil =>
    refine scanAll_of_last (hstep.trans ?_)
    rw [textEnd, hbrackets]
  | cons bracket brackets =>
    rw [scanAll_of_stop (hstep.trans (by rw [textEnd, hbrackets]))]
    rfl

/-- The end of the text in brackets is a fault, and outside of brackets closes the line. -/
theorem scanAll_lineEnd (hcolumns : s.columns = [(0, 0)]) (broken : Bool) :
    lexemes (scanAll s false (lineEnd broken)).tokens =
      if s.brackets.isEmpty then closing broken else [] := by
  cases broken with
  | false =>
    rw [lineEnd, scanAll_nil hs]
    split <;> rfl
  | true =>
    have hnext : scanAll s true [] = scanAll s false [] := by
      have hline : nextStep s true [] = .more [] s false [] := lineStart_nil hcolumns
      rw [scanAll_of_more hline]
      rfl
    have hstep : nextStep s false (lineEnd true) = _ := inLine_lineFeed hs
    by_cases hbrackets : s.brackets.isEmpty = true
    · rw [if_pos hbrackets] at hstep ⊢
      rw [scanAll_of_more hstep, hnext, scanAll_nil hs, if_pos hbrackets]
      rfl
    · rw [if_neg hbrackets] at hstep ⊢
      rw [scanAll_of_more hstep, hnext, scanAll_nil hs, if_neg hbrackets]
      rfl

end

/-! ## The line -/

/-- A step that stops in front of some separators stops in front of all of them, from all like
states. -/
theorem stop_of_settles {step : LexState → List Char → LexStep} {s s' : LexState}
    {cs tail tail' : List Char} (hlike : s.Like s') (htail : Separates tail)
    (h : Settles step s' cs tail') (hstop : ∃ error, step s (cs ++ tail) = .stop error) :
    ∃ error, step s' (cs ++ tail') = .stop error := by
  rcases h with hstop' | ⟨xs, t, atLineStart, left, -, -, hmore⟩
  · exact hstop'
  · obtain ⟨error, hstop⟩ := hstop
    obtain ⟨tokens, t', -, -, hstep⟩ := hmore s tail hlike.symm htail
    rw [hstop] at hstep
    cases hstep

theorem afterComment_append_lineEnd {cs : List Char} (hcs : '\n' ∉ cs) (broken : Bool) :
    afterComment (cs ++ lineEnd broken) = lineEnd broken := by
  rw [afterComment, List.dropWhile_append_of_pos]
  · cases broken <;> rfl
  · intro c hc
    simp only [bne_iff_ne]
    rintro rfl
    exact hcs hc

theorem lexemes_lineEnd {s s' : LexState} (hlike : s.Like s') (hcolumns : s.columns = [(0, 0)])
    (broken : Bool) : lexemes (scanAll s' false (lineEnd broken)).tokens =
      [] ++ if s.brackets.isEmpty then closing broken else [] := by
  rw [scanAll_lineEnd hlike.plain' (hlike.columns ▸ hcolumns), hlike.isEmpty_brackets, List.nil_append]

/-- The tokens of a line in front of its end: the end is reached, or not because of a fault. -/
theorem exists_lexemes_line {s : LexState} {cs : List Char} (hs : s.IsPlain)
    (hcolumns : s.columns = [(0, 0)]) (hline : '\n' ∉ cs) (hcode : EndsInCode cs) :
    ∃ (xs : List Lexeme) (closed : Bool), xs.all Lexeme.isOnLine = true ∧
      ∀ s' broken, s.Like s' → lexemes (scanAll s' false (cs ++ lineEnd broken)).tokens =
        xs ++ if closed then closing broken else [] := by
  induction hlength : cs.length using Nat.strong_induction_on generalizing s cs with
  | _ n ih =>
    by_cases hne : cs = []
    · subst hne
      exact ⟨[], s.brackets.isEmpty, rfl, fun s' broken hlike => lexemes_lineEnd hlike hcolumns broken⟩
    obtain ⟨c, ds, hds⟩ := List.exists_cons_of_ne_nil (dropWhile_isLineBlank_ne_nil hne hcode)
    have hsuffix : c :: ds <:+ cs := hds ▸ List.dropWhile_suffix _
    have hbreak : '\n' ∉ c :: ds := fun hmem => hline (hsuffix.mem hmem)
    have hstep := fun (s' : LexState) hs' broken => inLine_append (s := s') hs' hds (lineEnd broken)
    by_cases hcomment : c = '#'
    · -- The comment leaves the end of the line.
      refine ⟨[], s.brackets.isEmpty, rfl, fun s' broken hlike => ?_⟩
      have hend : nextStep s' false (cs ++ lineEnd broken) = nextStep s' false (lineEnd broken) := by
        have hskip : inLine s' (lineEnd broken) = tokenAt s' (lineEnd broken) := by
          rw [inLine, leaveAsync_of_isPlain hlike.plain']
          cases broken <;> rfl
        refine (hstep s' hlike.plain' broken).trans ?_
        rw [if_pos hcomment, afterComment_append_lineEnd hbreak]
        exact hskip.symm
      rw [scanAll_congr hend]
      exact lexemes_lineEnd hlike hcolumns broken
    · have hstep : ∀ s' broken, s.Like s' → nextStep s' false (cs ++ lineEnd broken) =
          tokenAt s' (c :: ds ++ lineEnd broken) :=
        fun s' broken hlike => (hstep s' hlike.plain' broken).trans (by rw [if_neg hcomment])
      have hsettles := fun (s' : LexState) broken => settles_tokenAt (s := s') (isTrailing_lineEnd broken)
        (List.cons_ne_nil c ds) (hcode.of_suffix hsuffix)
      rcases hsettles s false with hstop | ⟨xs, t, next, left, hleft, -, hmore⟩
      · refine ⟨[], false, rfl, fun s' broken hlike => ?_⟩
        obtain ⟨error, hstop⟩ := stop_of_settles hlike separates_nil (hsettles s' broken) hstop
        rw [scanAll_of_stop ((hstep s' broken hlike).trans hstop)]
        rfl
      · -- One token of the line, and the rest of the line after it.
        obtain ⟨tokens, t₁, hxs, ht₁, hfirst⟩ := hmore s [] (.refl hs) separates_nil
        have hc : c ≠ '\n' := fun heq => hbreak (heq ▸ List.mem_cons_self)
        obtain ⟨rfl, hkeep, honline⟩ := tokenAt_isOnLine hc hfirst
        have hleft' := hleft.trans hsuffix
        have hshorter : left.length < cs.length := by
          have hlt := (tokenAt_leaves hfirst).shorter
          have hle := hsuffix.length_le
          simp only [List.length_append] at hlt
          omega
        have hplain : t.IsPlain := ht₁.symm.plain'
        have ht : t.columns = [(0, 0)] := ht₁.columns.trans (hkeep.trans hcolumns)
        obtain ⟨ys, closed, hys, hrest⟩ := ih _ (hlength ▸ hshorter) hplain ht
          (fun hmem => hline (hleft'.mem hmem)) (hcode.of_suffix hleft') rfl
        refine ⟨xs ++ ys, closed, ?_, fun s' broken hlike => ?_⟩
        · rw [List.all_append, ← hxs, honline, hys]
          rfl
        · obtain ⟨tokens, t', hxs, ht', hgo⟩ := hmore s' (lineEnd broken) hlike
            (isTrailing_lineEnd broken).separates
          rw [scanAll_of_more ((hstep s' broken hlike).trans hgo), Lexed.after, lexemes, List.map_append,
            ← lexemes, ← lexemes, hxs, hrest t' broken ht', List.append_assoc]

/-- The tokens of a text of one line that is not indented: its end closes the line, if there is code
and no fault. -/
theorem exists_lexemes_singleLine {cs : List Char} (hline : '\n' ∉ cs) (hcode : EndsInCode cs)
    (hstart : ∀ c ∈ cs.head?, isLineBlank c = false) :
    (∀ broken, lexemes (lex 1 true (cs ++ lineEnd broken)).tokens = [.endMarker]) ∨
      ∃ (xs : List Lexeme) (closed : Bool), xs.all Lexeme.isOnLine = true ∧
        ∀ broken, lexemes (lex 1 true (cs ++ lineEnd broken)).tokens =
          xs ++ if closed then closing broken else [] := by
  have hplain : (LexState.start 1 true).IsPlain := rfl
  have hopen : ∀ rest, indentation (.start 1 true) ⟨0, 0, 0, 1⟩ rest = .more [] (.start 1 true) false rest :=
    fun _ => rfl
  match cs with
  | [] => exact Or.inl fun broken => by cases broken <;> rfl
  | c :: cs =>
    have hcs : '\n' ∉ cs := fun hmem => hline (List.mem_cons_of_mem c hmem)
    by_cases hcomment : c = '#'
    · left
      intro broken
      have hstep : nextStep (.start 1 true) true (c :: cs ++ lineEnd broken) =
          nextStep (.start 1 true) true ('#' :: lineEnd broken) := by
        subst hcomment
        have hmeasure : measure ⟨0, 0, 0, 1⟩ ('#' :: (cs ++ lineEnd broken)) =
            .ok (⟨0, 0, 0, 1⟩, '#' :: (cs ++ lineEnd broken)) := rfl
        refine (lineStart_comment (s := .start 1 true) hmeasure).trans ?_
        rw [afterComment_append_lineEnd hcs]
        cases broken <;> rfl
      rw [lex_eq_scanAll, scanAll_congr hstep]
      cases broken <;> rfl
    right
    by_cases hbackslash : c = '\\'
    · refine ⟨[], false, rfl, fun broken => ?_⟩
      have hstop : ∃ error, measure ⟨0, 0, 0, 1⟩ (c :: cs ++ lineEnd broken) = .error error := by
        subst hbackslash
        match cs, broken with
        | [], false | [], true => exact ⟨_, rfl⟩
        | d :: cs, broken =>
          have hd : d ≠ '\n' := fun heq => hcs (heq ▸ List.mem_cons_self)
          refine ⟨⟨.strayContinuation, 1⟩, ?_⟩
          rw [List.cons_append, List.cons_append, measure] <;> simp_all
      obtain ⟨error, hstop⟩ := hstop
      have hstep : nextStep (.start 1 true) true (c :: cs ++ lineEnd broken) = .stop error := by
        rw [nextStep, if_pos rfl, lineStart, LexState.start, hstop]
      rw [lex_eq_scanAll, scanAll_of_stop hstep]
      rfl
    · obtain ⟨xs, closed, hxs, hrest⟩ := exists_lexemes_line hplain rfl hline hcode
      refine ⟨xs, closed, hxs, fun broken => ?_⟩
      have hblank := hstart c rfl
      have hmeasure : measure ⟨0, 0, 0, 1⟩ (c :: cs ++ lineEnd broken) =
          .ok (⟨0, 0, 0, 1⟩, c :: cs ++ lineEnd broken) := by
        rw [List.cons_append, measure] <;> simp_all [isLineBlank]
      have hc : c ≠ '\n' := fun heq => hline (heq ▸ List.mem_cons_self)
      have hstep : nextStep (.start 1 true) true (c :: cs ++ lineEnd broken) =
          .more [] (.start 1 true) false (c :: cs ++ lineEnd broken) :=
        (lineStart_code (s := .start 1 true) hmeasure hc hcomment).trans (hopen _)
      rw [lex_eq_scanAll, scanAll_of_more hstep]
      exact hrest _ broken (.refl hplain)

theorem sameLine_of_lexemes {xs : List Lexeme} {ts ts' : List Token} (hts : lexemes ts = xs)
    (hts' : lexemes ts' = xs) (hxs : xs.all Lexeme.isInner = true) : SameLine xs ts ts' := by
  induction xs generalizing ts ts' with
  | nil =>
    rw [List.map_eq_nil_iff.1 hts, List.map_eq_nil_iff.1 hts']
    exact .nil
  | cons x xs ih =>
    obtain ⟨⟨_, n⟩, us, rfl, rfl, hus⟩ := List.map_eq_cons_iff.1 hts
    obtain ⟨⟨y, m⟩, us', rfl, hy, hus'⟩ := List.map_eq_cons_iff.1 hts'
    obtain rfl : y = _ := hy
    rw [List.all_cons, Bool.and_eq_true] at hxs
    exact .cons hxs.1 n m (ih hus hus' hxs.2)

end AnnotatedMarkdown.Python
