import AnnotatedMarkdown.Proofs.Python.Scanning
import AnnotatedMarkdown.Proofs.Python.Version.Basic

/-!
# The words `async` and `await`

An old version of the grammar reads `async` and `await` as names outside of functions that `async`
introduces.  A text in which they are never names has the same tokens in all versions.

* `LexState.reserved` is a state of the analysis in which the words are reserved everywhere.  The
  steps from there are the same as long as they yield no such name: one lemma for each part of a
  step, and `lex_true_eq` for the whole analysis.
* `HasAsyncName` holds of a text if one of the words is a name in it, or in a replacement field of
  its format strings.
* `ReadsAlike` relates two ways to read the words on such texts.
-/

namespace AnnotatedMarkdown.Python

/-! ## Steps -/

/-- Whether a lexeme is a name that is spelled like one of the words. -/
def Lexeme.isAsyncName : Lexeme → Bool
  | .name spelling => Word.ofChars? spelling = some .async || Word.ofChars? spelling = some .await
  | _ => false

/-- The state with the words reserved everywhere. -/
def LexState.reserved (s : LexState) : LexState :=
  { s with async := ⟨true, none⟩ }

/-- The step with the words reserved everywhere in the state after it. -/
def LexStep.reserved : LexStep → LexStep
  | .more tokens s atLineStart rest => .more tokens s.reserved atLineStart rest
  | .last tokens => .last tokens
  | .stop error => .stop error

/-- The tokens that a step yields. -/
def LexStep.tokens : LexStep → List Token
  | .more tokens _ _ _ => tokens
  | .last tokens => tokens
  | .stop _ => []

/-- None of the words is a name among tokens. -/
def HasNoAsyncName (tokens : List Token) : Prop :=
  ∀ t ∈ tokens, t.lexeme.isAsyncName = false

section

variable (s : LexState) (cs rest : List Char)

theorem indentation_reserved (m : Margin) :
    indentation s.reserved m rest = (indentation s m rest).reserved := by
  unfold indentation
  dsimp only
  simp only [apply_ite LexStep.reserved]
  rfl

theorem nextLine_reserved : s.reserved.nextLine rest = (s.nextLine rest).reserved := by
  unfold LexState.nextLine
  split <;> rfl

theorem lineStart_reserved : lineStart s.reserved cs = (lineStart s cs).reserved := by
  unfold lineStart
  rw [show s.reserved.line = s.line from rfl]
  split
  · rfl
  · next m rest _ =>
    have hline : { s.reserved with line := m.line } = ({ s with line := m.line } : LexState).reserved := rfl
    simp only [hline, nextLine_reserved, indentation_reserved]
    split
    · rfl
    · split <;> rfl
    · rw [apply_ite LexStep.reserved]
      rfl

theorem leaveAsync_reserved : s.reserved.leaveAsync cs = (s.leaveAsync cs).reserved := by
  have hleave : s.reserved.leaveAsync cs = s.reserved := rfl
  rw [hleave]
  unfold LexState.leaveAsync
  split
  · split <;> rfl
  · rfl

theorem endLine_reserved : s.reserved.endLine = s.endLine.reserved :=
  rfl

theorem opToken_reserved (c : Char) (o : Op) :
    opToken s.reserved c o rest = (opToken s c o rest).reserved := by
  unfold opToken
  rw [show s.reserved.brackets = s.brackets from rfl]
  dsimp only
  -- Opening brackets, closing ones, what is no operator, and all other operators.
  split
  case h_1 | h_2 | h_3 => split <;> rfl
  case h_4 | h_5 | h_6 =>
    split
    · rfl
    · split <;> rfl
  case h_7 => split <;> rfl
  case h_8 => rfl

theorem textEnd_reserved : textEnd s.reserved = (textEnd s).reserved := by
  unfold textEnd
  rw [show s.reserved.brackets = s.brackets from rfl]
  split <;> rfl

variable {s}

theorem wordToken_reserved {word : List Char} (h : HasNoAsyncName (wordToken s word rest).tokens) :
    wordToken s.reserved word rest = (wordToken s word rest).reserved := by
  have hname : ∀ w, Word.ofChars? word = some w → (w = .async ∨ w = .await) →
      ¬ HasNoAsyncName [⟨.name word, s.line⟩] := by
    intro w hword hw hnone
    have hfalse : (Lexeme.name word).isAsyncName = false := hnone _ List.mem_cons_self
    rcases hw with rfl | rfl <;> simp [Lexeme.isAsyncName, hword] at hfalse
  unfold wordToken at h ⊢
  rw [show s.reserved.async = ⟨true, none⟩ from rfl]
  dsimp only at h ⊢
  split
  · next hword =>
    rw [hword] at h
    dsimp only at h
    rw [Bool.true_or, if_pos rfl]
    split
    · rfl
    · next hplain =>
      rw [if_neg hplain] at h
      split
      · rfl
      · next hfollows =>
        rw [if_neg hfollows] at h
        exact absurd h (hname _ hword (.inl rfl))
  · next hword =>
    rw [hword] at h
    dsimp only at h
    rw [Bool.true_or, if_pos rfl]
    split
    · rfl
    · next hplain =>
      rw [if_neg hplain] at h
      exact absurd h (hname _ hword (.inr rfl))
  · rfl
  · split <;> rfl

theorem tokenAt_reserved (h : HasNoAsyncName (tokenAt s cs).tokens) :
    tokenAt s.reserved cs = (tokenAt s cs).reserved := by
  unfold tokenAt at h ⊢
  split
  · exact textEnd_reserved s
  · rw [show s.reserved.brackets = s.brackets from rfl]
    rw [endLine_reserved, nextLine_reserved, nextLine_reserved]
    split <;> rfl
  · rfl
  · rw [nextLine_reserved]
    rfl
  · rfl
  · next c rest hfeed hlast hjoin hslash =>
    cases hletters : stringPrefix? (c :: rest) with
    | some letters =>
      dsimp only
      split <;> rfl
    | none =>
      dsimp only
      by_cases hstart : isWordStart c = true
      · rw [if_pos hstart, if_pos hstart]
        refine wordToken_reserved _ ?_
        simpa only [hletters, hstart, if_true] using h
      · rw [if_neg hstart, if_neg hstart]
        split
        · split <;> rfl
        · split
          · exact opToken_reserved s _ _ _
          · rfl

theorem inLine_reserved (h : HasNoAsyncName (inLine s cs).tokens) :
    inLine s.reserved cs = (inLine s cs).reserved := by
  unfold inLine at h ⊢
  rw [leaveAsync_reserved]
  exact tokenAt_reserved _ h

theorem nextStep_reserved {atLineStart : Bool} (h : HasNoAsyncName (nextStep s atLineStart cs).tokens) :
    nextStep s.reserved atLineStart cs = (nextStep s atLineStart cs).reserved := by
  cases atLineStart with
  | true => exact lineStart_reserved s cs
  | false => exact inLine_reserved cs h

theorem scan_reserved (steps : Nat) {s : LexState} {atLineStart : Bool} {cs : List Char}
    (h : HasNoAsyncName (scan steps s atLineStart cs).tokens) :
    scan steps s.reserved atLineStart cs = scan steps s atLineStart cs := by
  induction steps generalizing s atLineStart cs with
  | zero => rfl
  | succ steps ih =>
    rw [scan_succ] at h
    have hnone : HasNoAsyncName (nextStep s atLineStart cs).tokens := by
      intro t ht
      cases hstep : nextStep s atLineStart cs with
      | more tokens s' atLineStart' rest =>
        rw [hstep] at h ht
        exact h t (List.mem_append_left _ ht)
      | last tokens =>
        rw [hstep] at h ht
        exact h t ht
      | stop error =>
        rw [hstep] at ht
        cases ht
    rw [scan_succ, scan_succ, nextStep_reserved cs hnone]
    cases hstep : nextStep s atLineStart cs with
    | more tokens s' atLineStart' rest =>
      rw [hstep] at h
      have hmore := ih fun t ht => h t (List.mem_append_right _ ht)
      simp only [LexStep.reserved, hmore]
    | last | stop => rfl

end

/-- A text in which the words are no names has the same tokens if they are reserved. -/
theorem lex_true_eq {line : Nat} {cs : List Char} (h : HasNoAsyncName (lex line false cs).tokens) :
    lex line true cs = lex line false cs :=
  scan_reserved _ h

/-! ## Texts -/

open Grammar

/-- The text that is analysed for the expression of a replacement field. -/
def fieldSource (cs : List Char) : List Char :=
  moduleSource ('(' :: cs ++ [')'])

/-- One of the words is a name in a text, or in a replacement field of its format strings. -/
inductive HasAsyncName : List Char → Prop where
  | name {cs : List Char} {t : Token} (ht : t ∈ tokensOf false cs) (hname : t.lexeme.isAsyncName = true) :
      HasAsyncName cs
  | field {cs field spelling : List Char} {t : Token} (ht : t ∈ tokensOf false cs)
      (hstring : t.lexeme = .string spelling) (hfield : (StringToken.ofSpelling spelling).HasField field)
      (h : HasAsyncName (fieldSource field)) : HasAsyncName cs

/-- Two ways to read the words make the same of a text: they are the same, or the words are no
names in it. -/
def ReadsAlike (asyncReserved asyncReserved' : Bool) (cs : List Char) : Prop :=
  asyncReserved = asyncReserved' ∨
    asyncReserved = false ∧ asyncReserved' = true ∧ ¬ HasAsyncName cs

theorem ReadsAlike.tokensOf_eq {asyncReserved asyncReserved' : Bool} {cs : List Char}
    (h : ReadsAlike asyncReserved asyncReserved' cs) :
    tokensOf asyncReserved cs = tokensOf asyncReserved' cs := by
  rcases h with rfl | ⟨rfl, rfl, h⟩
  · rfl
  · refine congrArg Lexed.tokens (lex_true_eq fun t ht => ?_).symm
    exact Bool.eq_false_iff.2 fun hname => h (.name ht hname)

/-- In the replacement fields of such a text, the words are read alike, too. -/
theorem ReadsAlike.areAllowed {asyncReserved asyncReserved' : Bool} {cs : List Char}
    (h : ReadsAlike asyncReserved asyncReserved' cs) :
    AreAllowed (fun field => ReadsAlike asyncReserved asyncReserved' (fieldSource field))
      (tokensOf asyncReserved cs) := by
  intro t ht spelling hstring field hfield
  rcases h with rfl | ⟨rfl, rfl, h⟩
  · exact Or.inl rfl
  · exact Or.inr ⟨rfl, rfl, fun hname => h (.field ht hstring hfield hname)⟩

end AnnotatedMarkdown.Python
