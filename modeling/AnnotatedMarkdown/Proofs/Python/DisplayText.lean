import AnnotatedMarkdown.Proofs.Python.Display

/-!
# Texts of displays

The characters of a literal expression and the lexemes that the analysis takes from them.

* `IsSpelled` says that characters are taken as lexemes in front of what may follow an
  element of a display, as long as no more than the allowed brackets are open.
* `isSpelled_string`, `isSpelled_bool`, `isSpelled_numeral` and `isSpelled_negative` are the
  texts of constants.
* `isSpelled_pair` is the text of a pair of a mapping, and `isSpelled_bracketed` the text of a
  display: one bracket more is open within it.
-/

namespace AnnotatedMarkdown.Python

open Unicode

/-- The most brackets that may be open at once. -/
def maxBrackets : Nat := 200

/-- The characters that neither belong to a margin nor start a comment or a line. -/
def startsCode (c : Char) : Bool :=
  !isLineBlank c && c != '#' && c != '\n' && c != '\\'

/-- Characters that are taken as lexemes, in front of what may follow an element of a
display.  Within them at most `depth` brackets are open. -/
structure IsSpelled (depth : Nat) (cs : List Char) (lexemes : List Lexeme) : Prop where
  start : ∃ c tail, cs = c :: tail ∧ startsCode c = true
  inLine : IsInLine cs
  short : lexemes.length ≤ cs.length
  reads : ∀ (s : LexState) (rest : List Char), s.IsPlain →
    s.brackets.length + depth ≤ maxBrackets → EndsOperand rest →
    Reads s (cs ++ rest) (onLine s.line lexemes) s rest

/-- A token in front of other characters. -/
theorem reads_token {s s' : LexState} {c : Char} {cs rest : List Char} {tokens : List Token}
    (hs : s.IsPlain) (hc : startsCode c = true)
    (htoken : tokenAt s (c :: cs) = .more tokens s' false rest)
    (hshorter : rest.length < (c :: cs).length) : Reads s (c :: cs) tokens s' rest := by
  simp only [startsCode, Bool.and_eq_true, Bool.not_eq_true', bne_iff_ne] at hc
  obtain ⟨⟨⟨hblank, hcomment⟩, -⟩, -⟩ := hc
  exact .single (by rw [inLine_eq_tokenAt hs hblank hcomment, htoken]) hshorter

/-- A space in front of a token is dropped. -/
theorem Reads.space {s s' : LexState} {cs rest : List Char} {tokens : List Token} (hs : s.IsPlain)
    (h : Reads s cs tokens s' rest) (hshorter : rest.length < cs.length) :
    Reads s (' ' :: cs) tokens s' rest := by
  cases h with
  | done => exact absurd hshorter (Nat.lt_irrefl _)
  | step hstep hless hmore =>
    refine .step (by rw [inLine_space hs, hstep]) ?_ hmore
    rw [List.length_cons]
    omega

/-! ## Constants -/

/-- A text that is taken as one token. -/
theorem isSpelled_of_token {depth : Nat} {cs : List Char} {x : Lexeme}
    (hstart : ∃ c tail, cs = c :: tail ∧ startsCode c = true) (hinLine : IsInLine cs)
    (htoken : ∀ (s : LexState) (rest : List Char), EndsOperand rest →
      tokenAt s (cs ++ rest) = .more [⟨x, s.line⟩] s false rest) : IsSpelled depth cs [x] where
  start := hstart
  inLine := hinLine
  short := by
    obtain ⟨c, tail, rfl, -⟩ := hstart
    simp
  reads s rest hs _ hrest := by
    have htoken := htoken s rest hrest
    obtain ⟨c, tail, rfl, hc⟩ := hstart
    rw [List.cons_append] at htoken ⊢
    refine reads_token hs hc htoken ?_
    simp only [List.length_cons, List.length_append]
    omega

theorem isSpelled_string {t : Text} {spelling : List Char} (h : IsSpelling t spelling)
    (depth : Nat) : IsSpelled depth spelling [.string spelling] := by
  refine isSpelled_of_token ?_ h.inLine fun s rest hrest => h.token s rest hrest.noQuoteMark
  obtain ⟨c, tail, rfl, hc⟩ := h.start
  refine ⟨c, tail, rfl, ?_⟩
  rcases (by simpa [isQuoteMark] using hc : c = '"' ∨ c = '\'') with rfl | rfl <;> rfl

theorem isSpelled_numeral {value : Constant} {cs : List Char} (h : IsNumeral value cs)
    (depth : Nat) : IsSpelled depth cs [.number cs] := by
  refine isSpelled_of_token ?_ h.inLine fun s rest hrest => tokenAt_numeral h hrest s
  obtain ⟨d, tail, rfl, hd⟩ := h.start
  refine ⟨d, tail, rfl, ?_⟩
  have hmem := isDigit_cases hd
  simp only [List.mem_cons, List.not_mem_nil, or_false] at hmem
  rcases hmem with rfl | rfl | rfl | rfl | rfl | rfl | rfl | rfl | rfl | rfl <;> rfl

/-- The words for the truth values. -/
theorem isSpelled_bool (b : Bool) (depth : Nat) :
    IsSpelled depth (if b then Word.true else Word.false).chars
      [.word (if b then .true else .false)] := by
  cases b with
  | true =>
    refine isSpelled_of_token ⟨'T', _, rfl, rfl⟩ (by simp [IsInLine, Word.chars]) fun s rest hrest => ?_
    exact tokenAt_word (c := 'T') rfl (List.all_eq_true.1 rfl) hrest.endsWord
  | false =>
    refine isSpelled_of_token ⟨'F', _, rfl, rfl⟩ (by simp [IsInLine, Word.chars]) fun s rest hrest => ?_
    exact tokenAt_word (c := 'F') rfl (List.all_eq_true.1 rfl) hrest.endsWord

/-! ## Marks -/

/-- The marks of displays and the minus sign. -/
def isMark (c : Char) : Bool :=
  c == ',' || c == ':' || c == '[' || c == ']' || c == '{' || c == '}' || c == '-'

theorem isMark_cases {c : Char} (hc : isMark c = true) :
    c = ',' ∨ c = ':' ∨ c = '[' ∨ c = ']' ∨ c = '{' ∨ c = '}' ∨ c = '-' := by
  simp only [isMark, Bool.or_eq_true, beq_iff_eq] at hc
  simpa only [or_assoc] using hc

/-- A mark is taken alone, unless the next character makes another operator of it. -/
theorem tokenAt_mark {c : Char} (hc : isMark c = true) {cs : List Char}
    (htwo : ∀ d ∈ cs.head?, Op.ofTwo? c d = none) (s : LexState) :
    tokenAt s (c :: cs) = opToken s c (Op.ofOne c) cs := by
  have hcases := isMark_cases hc
  have hstring : stringPrefix? (c :: cs) = none := by
    rcases hcases with rfl | rfl | rfl | rfl | rfl | rfl | rfl <;>
      rcases cs with _ | ⟨a, _ | ⟨b, cs⟩⟩ <;> simp [stringPrefix?]
  have hword : isWordStart c = false := by
    rcases hcases with rfl | rfl | rfl | rfl | rfl | rfl | rfl <;> decide
  have hnumber : startsNumber (c :: cs) = false := by
    rcases hcases with rfl | rfl | rfl | rfl | rfl | rfl | rfl <;> simp [startsNumber]
  have hlongest : Op.longest? (c :: cs) = some (Op.ofOne c, cs) := by
    have hthree : ∀ a b, Op.ofThree? c a b = none := by
      intro a b
      rcases hcases with rfl | rfl | rfl | rfl | rfl | rfl | rfl <;> simp [Op.ofThree?]
    rcases cs with _ | ⟨a, _ | ⟨b, cs⟩⟩
    · rfl
    · simp only [Op.longest?, htwo a rfl]
    · simp only [Op.longest?, hthree, htwo a rfl]
  have hline : c ≠ '\n' ∧ c ≠ '\\' := by
    rcases hcases with rfl | rfl | rfl | rfl | rfl | rfl | rfl <;> decide
  rw [tokenAt, hstring]
  · simp [hword, hnumber, hlongest]
  all_goals simp [hline]

/-- A mark other than a bracket leaves the state. -/
theorem reads_mark {s : LexState} (hs : s.IsPlain) {c : Char} (hc : c = ',' ∨ c = ':' ∨ c = '-')
    {cs : List Char} (htwo : ∀ d ∈ cs.head?, Op.ofTwo? c d = none) :
    Reads s (c :: cs) [⟨.op (Op.ofOne c), s.line⟩] s cs := by
  refine reads_token hs ?_ ?_ (Nat.lt_succ_self _)
  · rcases hc with rfl | rfl | rfl <;> rfl
  · rw [tokenAt_mark ?_ htwo]
    · rcases hc with rfl | rfl | rfl <;> rfl
    · rcases hc with rfl | rfl | rfl <;> rfl

/-- A minus sign in front of a numeral. -/
theorem isSpelled_negative {value : Constant} {cs : List Char} (h : IsNumeral value cs)
    (depth : Nat) : IsSpelled depth ('-' :: cs) [.op .minus, .number cs] where
  start := ⟨'-', cs, rfl, rfl⟩
  inLine := by
    intro c hc
    rcases List.mem_cons.1 hc with rfl | hc
    · decide
    · exact h.inLine c hc
  short := by
    obtain ⟨d, tail, rfl, -⟩ := h.start
    simp
  reads s rest hs hdepth hrest := by
    have hnumber := (isSpelled_numeral h depth).reads s rest hs hdepth hrest
    have hminus : Reads s ('-' :: (cs ++ rest)) [⟨.op .minus, s.line⟩] s (cs ++ rest) := by
      refine reads_mark hs (.inr (.inr rfl)) fun d hd => ?_
      obtain ⟨x, tail, rfl, hx⟩ := h.start
      obtain rfl : x = d := by simpa using hd
      simp [Op.ofTwo?, ne_of_isDigit hx (d := '=') rfl, ne_of_isDigit hx (d := '>') rfl]
    exact hminus.trans hnumber

/-! ## Displays -/

/-- A key, a colon and a value. -/
theorem isSpelled_pair {depth : Nat} {keys values : List Char} {keyLexemes valueLexemes : List Lexeme}
    (hkey : IsSpelled depth keys keyLexemes) (hvalue : IsSpelled depth values valueLexemes) :
    IsSpelled depth (keys ++ ':' :: ' ' :: values) (keyLexemes ++ .op .colon :: valueLexemes) where
  start := by
    obtain ⟨c, tail, rfl, hc⟩ := hkey.start
    exact ⟨c, _, List.cons_append, hc⟩
  inLine := isInLine_append hkey.inLine
    (isInLine_cons (by decide) (isInLine_cons (by decide) hvalue.inLine))
  short := by
    have hshort := hkey.short
    have hshort' := hvalue.short
    simp only [List.length_append, List.length_cons]
    omega
  reads s rest hs hdepth hrest := by
    have hfirst := hkey.reads s (':' :: ' ' :: (values ++ rest)) hs hdepth
      (endsOperand_cons (by simp) _)
    have hcolon : Reads s (':' :: ' ' :: (values ++ rest)) [⟨.op .colon, s.line⟩] s
        (' ' :: (values ++ rest)) :=
      reads_mark hs (.inr (.inl rfl)) (by simp [Op.ofTwo?])
    have hsecond := (hvalue.reads s rest hs hdepth hrest).space hs (by
      obtain ⟨c, tail, rfl, -⟩ := hvalue.start
      simp only [List.length_append, List.length_cons]
      omega)
    have hall := hfirst.trans (hcolon.trans hsecond)
    simpa [onLine] using hall

/-- Texts with a comma and a space between each two of them. -/
def commaText : List (List Char) → List Char
  | [] => []
  | piece :: pieces => piece ++ pieces.flatMap fun cs => ',' :: ' ' :: cs

/-- Further items, each after a comma and a space, in front of a closing bracket. -/
theorem reads_afterCommas {depth : Nat} {items : List (List Char × List Lexeme)}
    (hall : ∀ i ∈ items, IsSpelled depth i.1 i.2) {s : LexState} (hs : s.IsPlain)
    (hdepth : s.brackets.length + depth ≤ maxBrackets) {rest : List Char}
    (hrest : EndsOperand rest) :
    Reads s ((items.map Prod.fst).flatMap (fun cs => ',' :: ' ' :: cs) ++ rest)
      (onLine s.line ((items.map Prod.snd).flatMap (.op .comma :: ·))) s rest := by
  induction items with
  | nil => exact .done s rest
  | cons i items ih =>
    have hi := hall i List.mem_cons_self
    have hmore := ih fun j hj => hall j (List.mem_cons_of_mem i hj)
    let others := (items.map Prod.fst).flatMap (fun cs => ',' :: ' ' :: cs) ++ rest
    have hothers : EndsOperand others := by
      cases items with
      | nil => exact hrest
      | cons j items => exact endsOperand_cons (by simp) _
    have hcomma : Reads s (',' :: ' ' :: (i.1 ++ others)) [⟨.op .comma, s.line⟩] s
        (' ' :: (i.1 ++ others)) :=
      reads_mark hs (.inl rfl) (by simp [Op.ofTwo?])
    have hitem := (hi.reads s others hs hdepth hothers).space hs (by
      obtain ⟨c, tail, heq, -⟩ := hi.start
      simp only [heq, List.length_append, List.length_cons]
      omega)
    have hjoin := hcomma.trans (hitem.trans hmore)
    simpa [onLine, others] using hjoin

/-- Items with commas and spaces between them, in front of a closing bracket. -/
theorem reads_commaText {depth : Nat} {items : List (List Char × List Lexeme)}
    (hall : ∀ i ∈ items, IsSpelled depth i.1 i.2) {s : LexState} (hs : s.IsPlain)
    (hdepth : s.brackets.length + depth ≤ maxBrackets) {rest : List Char}
    (hrest : EndsOperand rest) :
    Reads s (commaText (items.map Prod.fst) ++ rest)
      (onLine s.line (commaJoined (items.map Prod.snd))) s rest := by
  cases items with
  | nil => exact .done s rest
  | cons i items =>
    have hmore := reads_afterCommas (fun j hj => hall j (List.mem_cons_of_mem i hj)) hs hdepth hrest
    have hi := (hall i List.mem_cons_self).reads s
      ((items.map Prod.fst).flatMap (fun cs => ',' :: ' ' :: cs) ++ rest) hs hdepth (by
        cases items with
        | nil => exact hrest
        | cons j items => exact endsOperand_cons (by simp) _)
    have hjoin := hi.trans hmore
    simpa [onLine, commaText, commaJoined] using hjoin

theorem isInLine_commaText {pieces : List (List Char)} (h : ∀ piece ∈ pieces, IsInLine piece) :
    IsInLine (commaText pieces) := by
  have hmore : ∀ pieces : List (List Char), (∀ piece ∈ pieces, IsInLine piece) →
      IsInLine (pieces.flatMap fun cs => ',' :: ' ' :: cs) := by
    intro pieces h c hc
    obtain ⟨piece, hpiece, hc⟩ := List.mem_flatMap.1 hc
    exact isInLine_cons (by decide) (isInLine_cons (by decide) (h piece hpiece)) c hc
  cases pieces with
  | nil => simp [IsInLine, commaText]
  | cons piece pieces =>
    exact isInLine_append (h piece List.mem_cons_self)
      (hmore pieces fun other hother => h other (List.mem_cons_of_mem piece hother))

theorem length_commaJoined_le {items : List (List Char × List Lexeme)}
    (h : ∀ i ∈ items, i.2.length ≤ i.1.length) :
    (commaJoined (items.map Prod.snd)).length ≤ (commaText (items.map Prod.fst)).length := by
  have hmore : ∀ items : List (List Char × List Lexeme), (∀ i ∈ items, i.2.length ≤ i.1.length) →
      ((items.map Prod.snd).flatMap (.op .comma :: ·)).length ≤
        ((items.map Prod.fst).flatMap fun cs => ',' :: ' ' :: cs).length := by
    intro items h
    induction items with
    | nil => exact Nat.le_refl _
    | cons i items ih =>
      have hi := h i List.mem_cons_self
      have hrest := ih fun j hj => h j (List.mem_cons_of_mem i hj)
      simp only [List.map_cons, List.flatMap_cons, List.length_append, List.length_cons]
      omega
  cases items with
  | nil => exact Nat.le_refl _
  | cons i items =>
    have hi := h i List.mem_cons_self
    have hrest := hmore items fun j hj => h j (List.mem_cons_of_mem i hj)
    simp only [List.map_cons, commaText, commaJoined, List.length_append]
    omega

/-- Items in brackets: the analysis opens one bracket more and closes it again. -/
theorem isSpelled_bracketed {depth : Nat} {items : List (List Char × List Lexeme)}
    {opening closing : Char}
    (hbrackets : opening = '[' ∧ closing = ']' ∨ opening = '{' ∧ closing = '}')
    (hall : ∀ i ∈ items, IsSpelled depth i.1 i.2) :
    IsSpelled (depth + 1) (opening :: (commaText (items.map Prod.fst) ++ [closing]))
      (.op (Op.ofOne opening) ::
        (commaJoined (items.map Prod.snd) ++ [.op (Op.ofOne closing)])) where
  start := by
    refine ⟨opening, _, rfl, ?_⟩
    rcases hbrackets with ⟨rfl, rfl⟩ | ⟨rfl, rfl⟩ <;> rfl
  inLine := by
    have hpieces : IsInLine (commaText (items.map Prod.fst)) := by
      refine isInLine_commaText fun piece hpiece => ?_
      obtain ⟨i, hi, rfl⟩ := List.mem_map.1 hpiece
      exact (hall i hi).inLine
    rcases hbrackets with ⟨rfl, rfl⟩ | ⟨rfl, rfl⟩
    · exact isInLine_cons (by decide) (isInLine_append hpieces (by simp [IsInLine]))
    · exact isInLine_cons (by decide) (isInLine_append hpieces (by simp [IsInLine]))
  short := by
    have hle := length_commaJoined_le fun i hi => (hall i hi).short
    simp only [List.length_cons, List.length_append, List.length_nil]
    omega
  reads s rest hs hdepth hrest := by
    let inner : LexState := { s with brackets := (opening, s.line) :: s.brackets }
    have hinner : inner.IsPlain := hs
    have hcount : inner.brackets.length + depth ≤ maxBrackets := by
      simp only [inner, List.length_cons]
      omega
    have hfree : ¬ 200 ≤ s.brackets.length := by
      rw [maxBrackets] at hdepth
      omega
    have hopen : Reads s (opening :: (commaText (items.map Prod.fst) ++ closing :: rest))
        [⟨.op (Op.ofOne opening), s.line⟩] inner
        (commaText (items.map Prod.fst) ++ closing :: rest) := by
      rcases hbrackets with ⟨rfl, rfl⟩ | ⟨rfl, rfl⟩
      all_goals
        refine reads_token hs rfl ?_ (Nat.lt_succ_self _)
        rw [tokenAt_mark rfl (by simp [Op.ofTwo?])]
        exact if_neg hfree
    have hends : EndsOperand (closing :: rest) := by
      rcases hbrackets with ⟨rfl, rfl⟩ | ⟨rfl, rfl⟩ <;> exact endsOperand_cons (by simp) rest
    have hitems := reads_commaText hall hinner hcount hends
    have hclose : Reads inner (closing :: rest) [⟨.op (Op.ofOne closing), s.line⟩] s rest := by
      rcases hbrackets with ⟨rfl, rfl⟩ | ⟨rfl, rfl⟩
      all_goals
        refine reads_token hinner rfl ?_ (Nat.lt_succ_self _)
        rw [tokenAt_mark rfl (by simp [Op.ofTwo?])]
        rfl
    have hjoin := hopen.trans (hitems.trans hclose)
    simpa [onLine, inner] using hjoin

end AnnotatedMarkdown.Python
