import AnnotatedMarkdown.Python.Lexer

/-!
# Steps of lexical analysis

`scan` counts its steps, and a proof about a text should not.  `Reads` is the relation
behind it: within a line, the analysis takes characters from the front of a text and
yields tokens.  Readings compose (`Reads.trans`), and every step takes a character, so
`Reads.scan` finds steps for a reading among those that the length of the text allows.

The rest of the module gives the readings of single tokens.  Each lemma names what may
follow the token, because the longest token wins.

* `tokenAt_word`: a word, followed by neither a word character nor a quote.
* `inLine_space` and `inLine_eq_tokenAt`: blanks are dropped, and nothing else is.
-/

namespace AnnotatedMarkdown.Python

open Unicode

/-- The outcome of an analysis with tokens in front of it. -/
def Lexed.after (tokens : List Token) (l : Lexed) : Lexed :=
  { l with tokens := tokens ++ l.tokens }

/-- Within a line, the analysis takes the front of a text, yields tokens and goes on with
a state and the rest of the text. -/
inductive Reads : LexState → List Char → List Token → LexState → List Char → Prop where
  | done (s : LexState) (cs : List Char) : Reads s cs [] s cs
  | step {s s' s'' : LexState} {cs cs' rest : List Char} {tokens more : List Token}
      (hstep : inLine s cs = .more tokens s' false cs') (hshorter : cs'.length < cs.length)
      (hmore : Reads s' cs' more s'' rest) : Reads s cs (tokens ++ more) s'' rest

theorem Reads.single {s s' : LexState} {cs rest : List Char} {tokens : List Token}
    (hstep : inLine s cs = .more tokens s' false rest) (hshorter : rest.length < cs.length) :
    Reads s cs tokens s' rest := by
  simpa using Reads.step hstep hshorter (Reads.done s' rest)

theorem Reads.trans {s s' s'' : LexState} {cs cs' rest : List Char} {tokens more : List Token}
    (hfirst : Reads s cs tokens s' cs') (hsecond : Reads s' cs' more s'' rest) :
    Reads s cs (tokens ++ more) s'' rest := by
  induction hfirst with
  | done => simpa using hsecond
  | step hstep hshorter _ ih =>
    rw [List.append_assoc]
    exact .step hstep hshorter (ih hsecond)

/-- A reading needs at most one step for each character that it takes. -/
theorem Reads.scan {s s' : LexState} {cs rest : List Char} {tokens : List Token}
    (h : Reads s cs tokens s' rest) :
    ∃ steps, steps + rest.length ≤ cs.length ∧
      ∀ fuel, Python.scan (fuel + steps) s false cs =
        (Python.scan fuel s' false rest).after tokens := by
  induction h with
  | done s cs => exact ⟨0, by omega, fun fuel => by simp [Lexed.after]⟩
  | @step s s' _ cs cs' _ tokens more hstep hshorter _ ih =>
    obtain ⟨steps, hlength, hscan⟩ := ih
    refine ⟨steps + 1, by omega, fun fuel => ?_⟩
    have hfirst : Python.scan (fuel + (steps + 1)) s false cs =
        (Python.scan (fuel + steps) s' false cs').after tokens := by
      rw [← Nat.add_assoc, Python.scan]
      simp only [Bool.false_eq_true, if_false, hstep]
      rfl
    rw [hfirst, hscan]
    simp [Lexed.after]

/-! ## Line breaks -/

/-- Without carriage returns every line break is a line feed. -/
theorem unifyLineBreaks_eq_self {cs : List Char} (h : '\r' ∉ cs) : unifyLineBreaks cs = cs := by
  fun_induction unifyLineBreaks cs with
  | case1 => rfl
  | case2 cs ih => exact absurd List.mem_cons_self h
  | case3 cs _ ih => exact absurd List.mem_cons_self h
  | case4 c cs _ _ ih => rw [ih fun hc => h (List.mem_cons_of_mem c hc)]

/-- Without carriage returns a text ends its line if its last character is a line feed. -/
theorem endsLine_append_lineFeed {cs : List Char} (h : '\r' ∉ cs) : endsLine (cs ++ ['\n']) = true := by
  induction cs with
  | nil => rfl
  | cons c cs ih =>
    have hc : c ≠ '\r' := by
      rintro rfl
      exact h List.mem_cons_self
    have hcs : '\r' ∉ cs := fun hmem => h (List.mem_cons_of_mem c hmem)
    rw [List.cons_append, endsLine]
    · exact ih hcs
    all_goals simp_all

theorem moduleSource_append_lineFeed {cs : List Char} (h : '\r' ∉ cs) :
    moduleSource (cs ++ ['\n']) = cs ++ ['\n'] := by
  have hall : '\r' ∉ cs ++ ['\n'] := by simp [h]
  simp [moduleSource, unifyLineBreaks_eq_self hall, endsLine_append_lineFeed h]

/-- Characters that may stand anywhere in a line of a source text. -/
def IsInLine (cs : List Char) : Prop :=
  ∀ c ∈ cs, c ≠ '\n' ∧ c ≠ '\r' ∧ c ≠ '\x00'

theorem isInLine_append {cs ds : List Char} (hcs : IsInLine cs) (hds : IsInLine ds) :
    IsInLine (cs ++ ds) := by
  intro c hc
  rcases List.mem_append.1 hc with hc | hc
  · exact hcs c hc
  · exact hds c hc

theorem isInLine_cons {c : Char} {cs : List Char} (hc : c ≠ '\n' ∧ c ≠ '\r' ∧ c ≠ '\x00')
    (hcs : IsInLine cs) : IsInLine (c :: cs) := by
  intro d hd
  rcases List.mem_cons.1 hd with rfl | hd
  · exact hc
  · exact hcs d hd

/-! ## Blanks -/

/-- A state in which `async` and `await` are reserved everywhere. -/
def LexState.IsPlain (s : LexState) : Prop :=
  s.async = ⟨true, none⟩

theorem leaveAsync_of_isPlain {s : LexState} (hs : s.IsPlain) (cs : List Char) :
    s.leaveAsync cs = s := by
  rw [LexState.IsPlain] at hs
  simp [LexState.leaveAsync, hs]

/-- A space is dropped. -/
theorem inLine_space {s : LexState} (hs : s.IsPlain) (cs : List Char) :
    inLine s (' ' :: cs) = inLine s cs := by
  simp [inLine, leaveAsync_of_isPlain hs, isLineBlank]

/-- A character that is neither blank nor the mark of a comment starts a token. -/
theorem inLine_eq_tokenAt {s : LexState} (hs : s.IsPlain) {c : Char} (hblank : isLineBlank c = false)
    (hcomment : c ≠ '#') (cs : List Char) : inLine s (c :: cs) = tokenAt s (c :: cs) := by
  simp [inLine, leaveAsync_of_isPlain hs, hblank, hcomment]

/-! ## Words -/

/-- Whether a character can open a string literal. -/
def isQuoteMark (c : Char) : Bool :=
  c == '"' || c == '\''

/-- A character beyond ASCII, or a letter, a digit or the low line, is no other one. -/
theorem ne_of_isWordChar {c d : Char} (hc : isWordChar c = true) (hd : isWordChar d = false) :
    c ≠ d := by
  rintro rfl
  rw [hc] at hd
  exact absurd hd (by decide)

theorem isQuoteMark_of_isWordChar {c : Char} (hc : isWordChar c = true) : isQuoteMark c = false := by
  simp [isQuoteMark, ne_of_isWordChar hc (d := '"') (by decide),
    ne_of_isWordChar hc (d := '\'') (by decide)]

/-- What may follow a word: neither a further character of a word nor a quote. -/
def EndsWord (rest : List Char) : Prop :=
  ∀ c ∈ rest.head?, isWordChar c = false ∧ isQuoteMark c = false

/-- Only the letters of ASCII have a lower case of their own. -/
theorem toLower_of_not_isWordChar {c : Char} (hc : isWordChar c = false) : c.toLower = c := by
  simp only [isWordChar, Char.isAlphanum, Bool.or_eq_false_iff] at hc
  obtain ⟨hupper, -⟩ : c.isUpper = false ∧ c.isLower = false :=
    Bool.or_eq_false_iff.1 hc.1.1.1
  exact dif_neg (of_decide_eq_false hupper)

/-- A word in front of no quote is not the mark of a string literal. -/
theorem stringPrefix?_word {word rest : List Char} (hne : word ≠ [])
    (hall : ∀ c ∈ word, isWordChar c = true) (hrest : EndsWord rest) :
    stringPrefix? (word ++ rest) = none := by
  have hquote : ∀ c ∈ word, c ≠ '"' ∧ c ≠ '\'' := fun c hc => by
    simpa [isQuoteMark] using isQuoteMark_of_isWordChar (hall c hc)
  have hend : ∀ c, rest.head? = some c → c ≠ '"' ∧ c ≠ '\'' := fun c hc => by
    simpa [isQuoteMark] using (hrest c hc).2
  -- A character that ends the word is not a letter that a literal could start with.
  have hletter : ∀ c d, rest.head? = some c → isWordChar d = true → c.toLower ≠ d := by
    intro c d hc hd
    have hword := (hrest c hc).1
    rw [toLower_of_not_isWordChar hword]
    exact (ne_of_isWordChar hd hword).symm
  match word, rest with
  | [a], [] => simp [stringPrefix?, hquote a]
  | [a], [b] =>
    have hb := hend b rfl
    simp [stringPrefix?, hquote a, hb]
  | [a], b :: c :: rest =>
    have hb := hend b rfl
    have hletters := fun d => hletter b d rfl
    simp [stringPrefix?, hquote a, hb, hletters 'b' (by decide), hletters 'f' (by decide),
      hletters 'r' (by decide)]
  | [a, b], [] => simp [stringPrefix?, hquote a, hquote b]
  | [a, b], c :: rest =>
    have hc := hend c rfl
    simp [stringPrefix?, hquote a, hquote b, hc]
  | a :: b :: c :: word, rest =>
    simp [stringPrefix?, hquote a, hquote b, hquote c]

/-- A word is taken as a whole. -/
theorem tokenAt_word {s : LexState} {c : Char} {word rest : List Char}
    (hstart : isWordStart c = true) (hall : ∀ d ∈ c :: word, isWordChar d = true)
    (hrest : EndsWord rest) :
    tokenAt s (c :: word ++ rest) = wordToken s (c :: word) rest := by
  have hc : isWordChar c = true := hall c List.mem_cons_self
  have hline : c ≠ '\n' := ne_of_isWordChar hc (by decide)
  have hbackslash : c ≠ '\\' := ne_of_isWordChar hc (by decide)
  have hmark := stringPrefix?_word (by simp) hall hrest
  have htake : (c :: word ++ rest).takeWhile isWordChar = c :: word := by
    rw [List.takeWhile_append_of_pos hall]
    cases rest with
    | nil => simp
    | cons d rest => simp [(hrest d rfl).1]
  have hdrop : (c :: word ++ rest).dropWhile isWordChar = rest := by
    rw [List.dropWhile_append_of_pos hall]
    cases rest with
    | nil => simp
    | cons d rest => simp [(hrest d rfl).1]
  rw [List.cons_append] at hmark htake hdrop ⊢
  rw [tokenAt]
  · rw [hmark]
    simp only [hstart, if_true, htake, hdrop]
  · simp_all
  · simp_all
  · simp_all
  · simp_all

end AnnotatedMarkdown.Python
