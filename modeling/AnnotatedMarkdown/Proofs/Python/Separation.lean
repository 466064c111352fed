import AnnotatedMarkdown.Proofs.Python.Scanning

/-!
# Tokens in front of separators

A line break, a semicolon or a blank ends every token except a string literal, and is part of no
longer one.  So the longest token at the front of a text does not change when such a separator
and anything else is put after the text: the lemmas `…_append_tail` say so of each kind of token.

A string literal may run over separators.  If what follows the text is separators only, then a
literal that is closed is closed within the text, and is the same in front of any other tail: the
lemmas `…_before` say so.
-/

namespace AnnotatedMarkdown.Python

/-! ## Separators -/

/-- Whether a character ends the token before it, whatever it is, and belongs to no longer one. -/
def isSeparator (c : Char) : Bool :=
  c == '\n' || c == ';' || isLineBlank c

theorem isSeparator_cases {c : Char} (h : isSeparator c = true) :
    c = '\n' ∨ c = ';' ∨ c = ' ' ∨ c = '\t' ∨ c = '\x0c' := by
  simpa [isSeparator, isLineBlank, or_assoc] using h

/-- A separator has no property that none of them has. -/
theorem not_of_isSeparator {p : Char → Bool}
    (hp : ['\n', ';', ' ', '\t', '\x0c'].any p = false) {c : Char}
    (hc : isSeparator c = true) : p c = false := by
  have hnone := List.any_eq_false.1 hp
  rcases isSeparator_cases hc with rfl | rfl | rfl | rfl | rfl <;>
    exact Bool.eq_false_iff.2 (hnone _ (by simp))

/-- A text that starts with a separator, if it is not empty. -/
def Separates (tail : List Char) : Prop :=
  ∀ c ∈ tail.head?, isSeparator c = true

theorem separates_nil : Separates [] :=
  nofun

/-- What is taken from the front of a text, with a tail after the rest. -/
def withTail {α : Type} (tail : List Char) (r : α × List Char) : α × List Char :=
  (r.1, r.2 ++ tail)

@[simp] theorem withTail_nil {α : Type} : withTail (α := α) [] = id := by
  funext r
  rw [withTail, List.append_nil]
  rfl

/-- What goes on with the rest of a text keeps the tail. -/
theorem bind_map_withTail {α β : Type} {tail : List Char} {g : α → List Char → Option (β × List Char)}
    (hg : ∀ a cs, g a (cs ++ tail) = (g a cs).map (withTail tail)) (o : Option (α × List Char)) :
    ((o.map (withTail tail)).bind fun x => g x.1 x.2) =
      (o.bind fun x => g x.1 x.2).map (withTail tail) := by
  cases o with
  | none => rfl
  | some r => exact hg r.1 r.2

section

variable {tail : List Char} (htail : Separates tail)

include htail

/-! ## Numbers -/

omit htail in
/-- Apart from the low line, a character is a digit or ends the run. -/
theorem digitRun_cons {isDigit : Char → Bool} {c : Char} (hc : c ≠ '_') (cs : List Char) :
    digitRun isDigit (c :: cs) =
      if isDigit c then (digitRun isDigit cs).map fun (ds, rest) => (c :: ds, rest)
      else some ([], c :: cs) := by
  rw [digitRun]
  · exact fun hlow => absurd hlow hc
  · exact fun _ _ hlow => absurd hlow hc

theorem digitRun_append_tail {isDigit : Char → Bool}
    (hdigit : ['\n', ';', ' ', '\t', '\x0c'].any isDigit = false) (cs : List Char) :
    digitRun isDigit (cs ++ tail) = (digitRun isDigit cs).map (withTail tail) := by
  fun_induction digitRun isDigit cs with
  | case1 =>
    cases tail with
    | nil => rfl
    | cons c tail =>
      have hc := htail c rfl
      have hlow : c ≠ '_' := by
        rintro rfl
        exact absurd hc (by decide)
      rw [List.nil_append, digitRun_cons hlow, not_of_isSeparator hdigit hc]
      rfl
  | case2 =>
    cases tail with
    | nil => rfl
    | cons c tail => simp [digitRun, not_of_isSeparator hdigit (htail c rfl)]
  | case3 d cs hd ih =>
    rw [List.cons_append, List.cons_append, digitRun, if_pos hd, ← List.cons_append, ih, Option.map_map,
      Option.map_map]
    rfl
  | case4 d cs hd =>
    rw [List.cons_append, List.cons_append, digitRun, if_neg hd]
    rfl
  | case5 c cs hsingle hpair hc ih =>
    have hlow : c ≠ '_' := by
      rintro rfl
      cases cs with
      | nil => exact hsingle rfl rfl
      | cons d cs => exact hpair d cs rfl rfl
    rw [List.cons_append, digitRun_cons hlow, if_pos hc, ih, Option.map_map, Option.map_map]
    rfl
  | case6 c cs hsingle hpair hc =>
    have hlow : c ≠ '_' := by
      rintro rfl
      cases cs with
      | nil => exact hsingle rfl rfl
      | cons d cs => exact hpair d cs rfl rfl
    rw [List.cons_append, digitRun_cons hlow, if_neg hc]
    rfl

theorem isPrefixOf_append_tail {word : List Char} (hword : word.all isWordChar = true)
    (cs : List Char) : word.isPrefixOf (cs ++ tail) = word.isPrefixOf cs := by
  induction word generalizing cs with
  | nil => simp
  | cons d word ih =>
    rw [List.all_cons, Bool.and_eq_true] at hword
    cases cs with
    | nil =>
      cases tail with
      | nil => rfl
      | cons c tail =>
        have hc : isWordChar c = false := not_of_isSeparator (by decide) (htail c rfl)
        have hne : (d == c) = false := beq_eq_false_iff_ne.2 (ne_of_isWordChar hword.1 hc)
        simp [List.isPrefixOf, hne]
    | cons c cs => rw [List.cons_append, List.isPrefixOf, List.isPrefixOf, ih hword.2]

theorem startsWithWord_append_tail {word : List Char} (hword : word.all isWordChar = true)
    (cs : List Char) : startsWithWord word (cs ++ tail) = startsWithWord word cs := by
  rw [startsWithWord, startsWithWord, isPrefixOf_append_tail htail hword]
  by_cases hlead : word.isPrefixOf cs = true
  · obtain ⟨rest, rfl⟩ := List.isPrefixOf_iff_prefix.1 hlead
    rw [List.append_assoc, List.drop_left, List.drop_left]
    cases rest with
    | cons c rest => rfl
    | nil =>
      cases tail with
      | nil => rfl
      | cons c tail =>
        have hc : isWordChar c = false := not_of_isSeparator (by decide) (htail c rfl)
        simp [hc]
  · simp [hlead]

theorem numberMayEnd_append_tail (cs : List Char) : numberMayEnd (cs ++ tail) = numberMayEnd cs := by
  cases cs with
  | nil =>
    cases tail with
    | nil => rfl
    | cons c tail =>
      have hc : isWordChar c = false := not_of_isSeparator (by decide) (htail c rfl)
      simp [numberMayEnd, hc]
  | cons c cs =>
    have hword := fun (word : List Char) (hword : word.all isWordChar = true) =>
      startsWithWord_append_tail htail hword (c :: cs)
    have hlead := fun (word : List Char) (hword : word.all isWordChar = true) =>
      isPrefixOf_append_tail htail hword (c :: cs)
    rw [List.cons_append] at hword hlead ⊢
    simp only [numberMayEnd]
    rw [hword _ (by decide), hword _ (by decide), hword _ (by decide), hword _ (by decide),
      hword _ (by decide), hlead _ (by decide), hlead _ (by decide), hlead _ (by decide)]

theorem numberSuffix?_append_tail (taken cs : List Char) :
    numberSuffix? taken (cs ++ tail) = (numberSuffix? taken cs).map (withTail tail) := by
  cases cs with
  | nil =>
    cases tail with
    | nil => rfl
    | cons c tail =>
      have hend := numberMayEnd_append_tail htail []
      have hj : (c == 'j' || c == 'J') = false :=
        not_of_isSeparator (p := fun c => c == 'j' || c == 'J') (by decide) (htail c rfl)
      rw [List.nil_append] at hend ⊢
      rw [numberSuffix?, hj, hend]
      rfl
  | cons c cs =>
    have hrest := numberMayEnd_append_tail htail cs
    have hall := numberMayEnd_append_tail htail (c :: cs)
    rw [List.cons_append] at hall ⊢
    rw [numberSuffix?, numberSuffix?, hrest, hall]
    split
    · split <;> rfl
    · split <;> rfl

theorem numberExponent?_append_tail (taken cs : List Char) :
    numberExponent? taken (cs ++ tail) = (numberExponent? taken cs).map (withTail tail) := by
  have hsuffix := fun taken cs => numberSuffix?_append_tail htail taken cs
  have hrun : ∀ cs, digitRun Char.isDigit (cs ++ tail) = (digitRun Char.isDigit cs).map (withTail tail) :=
    digitRun_append_tail htail (by decide)
  have hend := fun cs => numberMayEnd_append_tail htail cs
  -- A separator continues no exponent.
  have hsign : ∀ c ∈ tail.head?, c.isDigit = false ∧ (c == '+' || c == '-') = false ∧
      (c == 'e' || c == 'E') = false := fun c hc =>
    ⟨not_of_isSeparator (by decide) (htail c hc),
      not_of_isSeparator (p := fun c => c == '+' || c == '-') (by decide) (htail c hc),
      not_of_isSeparator (p := fun c => c == 'e' || c == 'E') (by decide) (htail c hc)⟩
  match cs with
  | [] =>
    cases tail with
    | nil => rfl
    | cons c tail =>
      have hnone := hsuffix taken []
      rw [List.nil_append] at hnone ⊢
      simp only [numberExponent?, (hsign c rfl).2.2, Bool.false_eq_true, if_false, hnone]
      rfl
  | [e] =>
    have hmark := hend [e]
    have hplain := hsuffix taken [e]
    cases tail with
    | nil => rw [List.append_nil, withTail_nil, Option.map_id_fun, id]
    | cons c tail =>
      obtain ⟨hdigit, hsign, -⟩ := hsign c rfl
      rw [List.cons_append, List.nil_append] at hmark hplain ⊢
      simp only [numberExponent?, hdigit, hsign, Bool.false_eq_true, if_false, hmark, hplain]
      split
      · split <;> rfl
      · rfl
  | e :: d :: cs =>
    have hmark := hend (e :: d :: cs)
    have hplain := hsuffix taken (e :: d :: cs)
    have hdigits := hrun (d :: cs)
    have hmore := hrun cs
    simp only [List.cons_append] at hmark hplain hdigits ⊢
    simp only [numberExponent?, hmark, hplain, hdigits]
    split
    · split
      · exact bind_map_withTail (g := fun ds cs => numberSuffix? (taken ++ e :: ds) cs)
          (fun ds cs => hsuffix _ cs) _
      · split
        · cases cs with
          | nil =>
            cases tail with
            | nil => rfl
            | cons c tail => simp [(hsign c rfl).1]
          | cons c cs =>
            rw [List.cons_append] at hmore ⊢
            dsimp only
            split
            · rw [hmore]
              exact bind_map_withTail (g := fun ds cs => numberSuffix? (taken ++ e :: d :: ds) cs)
                (fun ds cs => hsuffix _ cs) _
            · rfl
        · split <;> rfl
    · rfl

theorem numberFraction?_append_tail (taken cs : List Char) :
    numberFraction? taken (cs ++ tail) = (numberFraction? taken cs).map (withTail tail) := by
  have hexponent := fun taken cs => numberExponent?_append_tail htail taken cs
  have hrun : digitRun Char.isDigit (cs ++ tail) = (digitRun Char.isDigit cs).map (withTail tail) :=
    digitRun_append_tail htail (by decide) cs
  cases cs with
  | nil =>
    cases tail with
    | nil => rfl
    | cons c tail =>
      have hdigit : c.isDigit = false := not_of_isSeparator (by decide) (htail c rfl)
      have hnone := hexponent taken []
      rw [List.nil_append] at hnone ⊢
      simp only [numberFraction?, hdigit, Bool.false_eq_true, if_false, hnone]
      rfl
  | cons c cs =>
    have hplain := hexponent taken (c :: cs)
    rw [List.cons_append] at hrun hplain ⊢
    simp only [numberFraction?, hrun, hplain]
    split
    · exact bind_map_withTail (g := fun ds cs => numberExponent? (taken ++ ds) cs)
        (fun ds cs => hexponent _ cs) _
    · rfl

theorem basedNumber?_append_tail {isDigit : Char → Bool}
    (hdigit : ['\n', ';', ' ', '\t', '\x0c'].any isDigit = false) (cs : List Char) :
    basedNumber? isDigit (cs ++ tail) = (basedNumber? isDigit cs).map (withTail tail) := by
  rw [basedNumber?, basedNumber?, digitRun_append_tail htail hdigit]
  match digitRun isDigit cs with
  | none => rfl
  | some ([], rest) => rfl
  | some (d :: ds, []) =>
    cases tail with
    | nil => rfl
    | cons c tail =>
      have hc : c.isDigit = false := not_of_isSeparator (by decide) (htail c rfl)
      have hend : numberMayEnd (c :: tail) = true := numberMayEnd_append_tail htail []
      simp [withTail, hc, hend]
  | some (d :: ds, c :: rest) =>
    have hend := numberMayEnd_append_tail htail (c :: rest)
    rw [List.cons_append] at hend
    simp only [Option.map_some, withTail, List.cons_append, hend]
    split <;> rfl

theorem decimalNumber?_append_tail (cs : List Char) :
    decimalNumber? (cs ++ tail) = (decimalNumber? cs).map (withTail tail) := by
  have hfraction := fun taken cs => numberFraction?_append_tail htail taken cs
  have hexponent := fun taken cs => numberExponent?_append_tail htail taken cs
  rw [decimalNumber?, decimalNumber?, digitRun_append_tail htail (by decide)]
  rcases digitRun Char.isDigit cs with _ | ⟨whole, rest⟩
  · rfl
  · simp only [Option.map_some, withTail, Option.bind_some]
    cases rest with
    | nil =>
      cases tail with
      | nil => simp
      | cons c tail =>
        have hc := htail c rfl
        have hmarked : (c == 'e' || c == 'E' || c == 'j' || c == 'J') = false :=
          not_of_isSeparator (p := fun c => c == 'e' || c == 'E' || c == 'j' || c == 'J') (by decide) hc
        have hdot : c ≠ '.' := by
          rintro rfl
          exact absurd hc (by decide)
        have hnone := hexponent whole []
        rw [List.nil_append] at hnone ⊢
        simp only [hmarked, hnone]
        split
        · next heq => exact absurd (List.cons.inj heq).1 hdot
        · split <;> rfl
    | cons c rest =>
      have hdone := hexponent whole (c :: rest)
      rw [List.cons_append] at hdone ⊢
      by_cases hdot : c = '.'
      · subst hdot
        exact hfraction _ rest
      · simp only [hdone]
        split
        · next heq => exact absurd (List.cons.inj heq).1 hdot
        · split <;> simp [hdot]

omit htail in
theorem number?_of_ne {c : Char} (hdot : c ≠ '.') (hzero : c ≠ '0') (cs : List Char) :
    number? (c :: cs) = decimalNumber? (c :: cs) := by
  rw [number?]
  · exact fun _ heq => hdot (List.cons.inj heq).1
  · exact fun _ _ heq => hzero (List.cons.inj heq).1

theorem number?_append_tail {cs : List Char} (hcs : cs ≠ []) :
    number? (cs ++ tail) = (number? cs).map (withTail tail) := by
  have hdecimal := fun cs => decimalNumber?_append_tail htail cs
  obtain ⟨c, cs, rfl⟩ := List.exists_cons_of_ne_nil hcs
  by_cases hdot : c = '.'
  · subst hdot
    exact numberFraction?_append_tail htail _ cs
  · by_cases hzero : c = '0'
    · subst hzero
      match cs with
      | [] =>
        cases tail with
        | nil => rw [List.append_nil, withTail_nil, Option.map_id_fun, id]
        | cons x tail =>
          have hx : (x == 'x' || x == 'X') = false ∧ (x == 'o' || x == 'O') = false ∧
              (x == 'b' || x == 'B') = false :=
            ⟨not_of_isSeparator (p := fun c => c == 'x' || c == 'X') (by decide) (htail x rfl),
              not_of_isSeparator (p := fun c => c == 'o' || c == 'O') (by decide) (htail x rfl),
              not_of_isSeparator (p := fun c => c == 'b' || c == 'B') (by decide) (htail x rfl)⟩
          have hzero := hdecimal ['0']
          rw [List.cons_append, List.nil_append] at hzero ⊢
          simp only [number?, hx, Bool.false_eq_true, if_false, hzero]
          rfl
      | x :: rest =>
        have hzero := hdecimal ('0' :: x :: rest)
        have hbased : ∀ {isDigit : Char → Bool}, ['\n', ';', ' ', '\t', '\x0c'].any isDigit = false →
            (basedNumber? isDigit (rest ++ tail)).map (fun (ds, rest) => ('0' :: x :: ds, rest)) =
              ((basedNumber? isDigit rest).map fun (ds, rest) => ('0' :: x :: ds, rest)).map
                (withTail tail) := by
          intro isDigit hdigit
          rw [basedNumber?_append_tail htail hdigit, Option.map_map, Option.map_map]
          rfl
        simp only [List.cons_append] at hzero ⊢
        simp only [number?]
        split
        · exact hbased (by decide)
        · split
          · exact hbased (by decide)
          · split
            · exact hbased (by decide)
            · exact hzero
    · rw [List.cons_append, number?_of_ne hdot hzero, number?_of_ne hdot hzero]
      exact hdecimal (c :: cs)

theorem startsNumber_append_tail {cs : List Char} (hcs : cs ≠ []) :
    startsNumber (cs ++ tail) = startsNumber cs := by
  match cs with
  | [c] =>
    cases tail with
    | nil => rfl
    | cons d tail =>
      have hd : d.isDigit = false := not_of_isSeparator (by decide) (htail d rfl)
      by_cases hdot : c = '.'
      · subst hdot
        simp [startsNumber, hd]
      · simp [startsNumber, hdot]
  | c :: d :: cs =>
    by_cases hdot : c = '.'
    · subst hdot
      rfl
    · simp [startsNumber, hdot]

/-! ## Operators and words -/

theorem longest?_append_tail {cs : List Char} (hcs : cs ≠ []) :
    Op.longest? (cs ++ tail) = (Op.longest? cs).map (withTail tail) := by
  -- No operator of several characters has a separator after its first one.
  have htwo : ∀ a, ∀ d ∈ tail.head?, Op.ofTwo? a d = none := by
    intro a d hd
    rcases isSeparator_cases (htail d hd) with rfl | rfl | rfl | rfl | rfl <;>
      unfold Op.ofTwo? <;> split <;> simp_all
  have hthree : ∀ a b, ∀ d ∈ tail.head?, Op.ofThree? a b d = none ∧ Op.ofThree? a d b = none := by
    intro a b d hd
    rcases isSeparator_cases (htail d hd) with rfl | rfl | rfl | rfl | rfl <;>
      unfold Op.ofThree? <;> constructor <;> split <;> simp_all
  match cs, tail with
  | _, [] => rw [List.append_nil, withTail_nil, Option.map_id_fun, id]
  | [a], [d] => simp [Op.longest?, htwo a d rfl, withTail]
  | [a], d :: e :: tail => simp [Op.longest?, htwo a d rfl, (hthree a e d rfl).2, withTail]
  | [a, b], d :: tail =>
    simp only [List.cons_append, List.nil_append, Op.longest?, (hthree a b d rfl).1]
    split <;> rfl
  | a :: b :: c :: cs, d :: tail =>
    simp only [List.cons_append, Op.longest?]
    split
    · rfl
    · split <;> rfl

theorem takeWhile_isWordChar_append_tail (cs : List Char) :
    (cs ++ tail).takeWhile isWordChar = cs.takeWhile isWordChar := by
  induction cs with
  | nil =>
    cases tail with
    | nil => rfl
    | cons c tail =>
      have hc : isWordChar c = false := not_of_isSeparator (by decide) (htail c rfl)
      simp [hc]
  | cons c cs ih => simp only [List.cons_append, List.takeWhile_cons, ih]

theorem dropWhile_isWordChar_append_tail (cs : List Char) :
    (cs ++ tail).dropWhile isWordChar = cs.dropWhile isWordChar ++ tail := by
  induction cs with
  | nil =>
    cases tail with
    | nil => rfl
    | cons c tail =>
      have hc : isWordChar c = false := not_of_isSeparator (by decide) (htail c rfl)
      simp [hc]
  | cons c cs ih =>
    simp only [List.cons_append, List.dropWhile_cons, ih]
    split <;> rfl

/-! ## String literals -/

theorem stringPrefix?_append_tail {cs : List Char} (hcs : cs ≠ []) :
    stringPrefix? (cs ++ tail) = (stringPrefix? cs).map (withTail tail) := by
  -- A separator is no quote and no letter before one.
  have hquote : ∀ d ∈ tail.head?, (d == '"' || d == '\'') = false := fun d hd =>
    not_of_isSeparator (p := fun d => d == '"' || d == '\'') (by decide) (htail d hd)
  have hletter : ∀ d ∈ tail.head?,
      (d.toLower == 'b' || d.toLower == 'f') = false ∧ (d.toLower == 'r') = false := fun d hd =>
    ⟨not_of_isSeparator (p := fun d => d.toLower == 'b' || d.toLower == 'f') (by decide) (htail d hd),
      not_of_isSeparator (p := fun d => d.toLower == 'r') (by decide) (htail d hd)⟩
  match cs, tail with
  | _, [] => rw [List.append_nil, withTail_nil, Option.map_id_fun, id]
  | [a], [d] =>
    simp only [List.cons_append, List.nil_append, stringPrefix?, hquote d rfl, Bool.false_and,
      Bool.false_eq_true, if_false]
    split <;> rfl
  | [a], d :: e :: tail =>
    simp only [List.cons_append, List.nil_append, stringPrefix?, hquote d rfl, (hletter d rfl).1,
      (hletter d rfl).2, Bool.and_false, Bool.or_false, Bool.false_eq_true, if_false, ite_self]
    split <;> rfl
  | [a, b], d :: tail =>
    -- The letters before a quote are listed, or compared one by one.
    have hletters : ['b', 'r', 'u', 'f'].contains a.toLower = (a.toLower == 'b' ||
        a.toLower == 'r' || a.toLower == 'u' || a.toLower == 'f') := by
      simp only [List.contains_cons, List.contains_nil, Bool.or_false, Bool.or_assoc]
    simp only [List.cons_append, List.nil_append, stringPrefix?, hquote d rfl, hletters,
      Bool.false_eq_true, if_false, Bool.and_eq_true]
    split
    · rfl
    · split
      · next hb =>
        simp only [hb, true_and]
        split <;> rfl
      · next hb => simp [hb]
  | a :: b :: c :: cs, d :: tail =>
    simp only [List.cons_append, stringPrefix?]
    split
    · rfl
    · split
      · split <;> rfl
      · split
        · split <;> rfl
        · rfl

end

/-- Separators without a line break, or with one at the end. -/
structure IsTrailing (tail : List Char) : Prop where
  separators : ∀ c ∈ tail, isSeparator c = true
  lineBreak : ∀ rest, tail = '\n' :: rest → rest = []

theorem IsTrailing.separates {tail : List Char} (h : IsTrailing tail) : Separates tail :=
  fun c hc => h.separators c (List.mem_of_mem_head? hc)

/-! ## Literals that are closed before a tail -/

section

variable {tail : List Char} {quote : Char}

theorem shortString?_cons {c : Char} (hc : c ≠ '\\') (cs : List Char) :
    shortString? quote (c :: cs) =
      if c == '\n' then none
      else if c == quote then some ([c], cs)
      else (shortString? quote cs).map fun (body, rest) => (c :: body, rest) := by
  rw [shortString?]
  exact fun _ _ heq => absurd heq hc

theorem longString?_cons {c : Char} (hc : c ≠ '\\') (cs : List Char) :
    longString? quote (c :: cs) =
      if c == quote && [quote, quote].isPrefixOf cs then some ([quote, quote, quote], cs.drop 2)
      else (longString? quote cs).map fun (body, rest) => (c :: body, rest) := by
  rw [longString?]
  exact fun _ _ heq => absurd heq hc

variable (hquote : isQuoteMark quote = true) (htail : ∀ c ∈ tail, isSeparator c = true)

include hquote

theorem ne_quote_of_isSeparator {c : Char} (hc : isSeparator c = true) : (c == quote) = false := by
  rw [beq_eq_false_iff_ne]
  rintro rfl
  have hnot : isQuoteMark c = false := not_of_isSeparator (by decide) hc
  exact Bool.false_ne_true (hnot.symm.trans hquote)

include htail

theorem shortString?_of_separators : shortString? quote tail = none := by
  induction tail with
  | nil => rfl
  | cons c tail ih =>
    have hc := htail c List.mem_cons_self
    have hbackslash : c ≠ '\\' := by
      rintro rfl
      exact absurd hc (by decide)
    rw [shortString?_cons hbackslash, ne_quote_of_isSeparator hquote hc,
      ih fun d hd => htail d (List.mem_cons_of_mem c hd)]
    simp

theorem longString?_of_separators : longString? quote tail = none := by
  induction tail with
  | nil => rfl
  | cons c tail ih =>
    have hc := htail c List.mem_cons_self
    have hbackslash : c ≠ '\\' := by
      rintro rfl
      exact absurd hc (by decide)
    rw [longString?_cons hbackslash, ne_quote_of_isSeparator hquote hc,
      ih fun d hd => htail d (List.mem_cons_of_mem c hd)]
    simp

theorem shortString?_backslash_separators : shortString? quote ('\\' :: tail) = none := by
  cases tail with
  | nil =>
    have hne : ('\\' == quote) = false := by
      rw [beq_eq_false_iff_ne]
      rintro rfl
      exact absurd hquote (by decide)
    simp [shortString?, hne]
  | cons c tail =>
    rw [shortString?, shortString?_of_separators hquote fun d hd => htail d (List.mem_cons_of_mem c hd)]
    rfl

theorem longString?_backslash_separators : longString? quote ('\\' :: tail) = none := by
  cases tail with
  | nil =>
    have hne : ('\\' == quote) = false := by
      rw [beq_eq_false_iff_ne]
      rintro rfl
      exact absurd hquote (by decide)
    simp [longString?, hne]
  | cons c tail =>
    rw [longString?, longString?_of_separators hquote fun d hd => htail d (List.mem_cons_of_mem c hd)]
    rfl

/-- A literal that is closed is closed before the separators at the end. -/
theorem shortString?_before {cs body rest : List Char}
    (h : shortString? quote (cs ++ tail) = some (body, rest)) :
    ∃ left, rest = left ++ tail ∧
      ∀ tail', shortString? quote (cs ++ tail') = some (body, left ++ tail') := by
  fun_induction shortString? quote cs generalizing body rest with
  | case1 =>
    rw [List.nil_append, shortString?_of_separators hquote htail] at h
    cases h
  | case2 c cs ih =>
    rw [List.cons_append, List.cons_append, shortString?] at h
    obtain ⟨⟨more, rest⟩, hmore, ⟨⟩⟩ := Option.map_eq_some_iff.1 h
    obtain ⟨left, rfl, hall⟩ := ih hmore
    refine ⟨left, rfl, fun tail' => ?_⟩
    rw [List.cons_append, List.cons_append, shortString?, hall]
    rfl
  | case3 c cs hescape hline =>
    have hbackslash : c ≠ '\\' := by
      rintro rfl
      exact absurd hline (by decide)
    rw [List.cons_append, shortString?_cons hbackslash, if_pos hline] at h
    cases h
  | case4 c cs hescape hline hclose =>
    have hbackslash : c ≠ '\\' := by
      rintro rfl
      rw [← beq_iff_eq.1 hclose] at hquote
      exact absurd hquote (by decide)
    rw [List.cons_append, shortString?_cons hbackslash, if_neg hline, if_pos hclose] at h
    cases h
    refine ⟨cs, rfl, fun tail' => ?_⟩
    rw [List.cons_append, shortString?_cons hbackslash, if_neg hline, if_pos hclose]
  | case5 c cs hescape hline hclose ih =>
    by_cases hbackslash : c = '\\'
    · subst hbackslash
      cases cs with
      | nil =>
        rw [List.cons_append, List.nil_append, shortString?_backslash_separators hquote htail] at h
        cases h
      | cons d cs => exact absurd rfl (hescape d cs rfl)
    · rw [List.cons_append, shortString?_cons hbackslash, if_neg hline, if_neg hclose] at h
      obtain ⟨⟨more, rest⟩, hmore, ⟨⟩⟩ := Option.map_eq_some_iff.1 h
      obtain ⟨left, rfl, hall⟩ := ih hmore
      refine ⟨left, rfl, fun tail' => ?_⟩
      rw [List.cons_append, shortString?_cons hbackslash, if_neg hline, if_neg hclose, hall]
      rfl

omit htail in
/-- A separator continues no run of quotes. -/
theorem isPrefixOf_quotes_append (htail : Separates tail) (cs : List Char) :
    [quote, quote].isPrefixOf (cs ++ tail) = [quote, quote].isPrefixOf cs := by
  have hfirst : ∀ more, (quote :: more).isPrefixOf tail = false := by
    intro more
    cases tail with
    | nil => rfl
    | cons c tail =>
      have hne := ne_quote_of_isSeparator hquote (htail c rfl)
      rw [List.isPrefixOf, Bool.and_eq_false_iff]
      exact Or.inl (beq_eq_false_iff_ne.2 (beq_eq_false_iff_ne.1 hne).symm)
  match cs with
  | [] => exact hfirst [quote]
  | [a] => rw [List.cons_append, List.isPrefixOf, List.nil_append, hfirst]; simp [List.isPrefixOf]
  | a :: b :: cs => simp [List.isPrefixOf]

theorem longString?_before {cs body rest : List Char}
    (h : longString? quote (cs ++ tail) = some (body, rest)) :
    ∃ left, rest = left ++ tail ∧
      ∀ tail', Separates tail' → longString? quote (cs ++ tail') = some (body, left ++ tail') := by
  have hseparates : Separates tail := fun c hc => htail c (List.mem_of_mem_head? hc)
  fun_induction longString? quote cs generalizing body rest with
  | case1 =>
    rw [List.nil_append, longString?_of_separators hquote htail] at h
    cases h
  | case2 c cs ih =>
    rw [List.cons_append, List.cons_append, longString?] at h
    obtain ⟨⟨more, rest⟩, hmore, ⟨⟩⟩ := Option.map_eq_some_iff.1 h
    obtain ⟨left, rfl, hall⟩ := ih hmore
    refine ⟨left, rfl, fun tail' htail' => ?_⟩
    rw [List.cons_append, List.cons_append, longString?, hall tail' htail']
    rfl
  | case3 c cs hescape hclose =>
    obtain ⟨hc, hquotes⟩ := Bool.and_eq_true_iff.1 hclose
    have hbackslash : c ≠ '\\' := by
      rintro rfl
      rw [← beq_iff_eq.1 hc] at hquote
      exact absurd hquote (by decide)
    obtain ⟨left, rfl⟩ := List.isPrefixOf_iff_prefix.1 hquotes
    have hread : ∀ us, longString? quote (c :: ([quote, quote] ++ left) ++ us) =
        some ([quote, quote, quote], left ++ us) := by
      intro us
      rw [List.cons_append, longString?_cons hbackslash, hc]
      simp
    rw [hread] at h
    cases h
    exact ⟨left, rfl, fun tail' _ => hread tail'⟩
  | case4 c cs hescape hclose ih =>
    by_cases hbackslash : c = '\\'
    · subst hbackslash
      cases cs with
      | nil =>
        rw [List.cons_append, List.nil_append, longString?_backslash_separators hquote htail] at h
        cases h
      | cons d cs => exact absurd rfl (hescape d cs rfl)
    · have hopen : ∀ us, Separates us →
          longString? quote (c :: cs ++ us) =
            (longString? quote (cs ++ us)).map fun (body, rest) => (c :: body, rest) := by
        intro us hus
        rw [List.cons_append, longString?_cons hbackslash, isPrefixOf_quotes_append hquote hus,
          if_neg hclose]
      rw [hopen tail hseparates] at h
      obtain ⟨⟨more, rest⟩, hmore, ⟨⟩⟩ := Option.map_eq_some_iff.1 h
      obtain ⟨left, rfl, hall⟩ := ih hmore
      refine ⟨left, rfl, fun tail' htail' => ?_⟩
      rw [hopen tail' htail', hall tail' htail']
      rfl

theorem quotedString?_before {cs literal rest : List Char}
    (h : quotedString? (quote :: cs ++ tail) = some (literal, rest)) :
    ∃ left, rest = left ++ tail ∧ ∀ tail', Separates tail' →
      quotedString? (quote :: cs ++ tail') = some (literal, left ++ tail') := by
  have hseparates : Separates tail := fun c hc => htail c (List.mem_of_mem_head? hc)
  -- A separator after one or two quotes is not the third one.
  have hopen : ∀ us, Separates us →
      quotedString? (quote :: cs ++ us) =
        if [quote, quote].isPrefixOf cs then
          (longString? quote (cs.drop 2 ++ us)).map fun (body, rest) =>
            (quote :: quote :: quote :: body, rest)
        else (shortString? quote (cs ++ us)).map fun (body, rest) => (quote :: body, rest) := by
    intro us hus
    have hne : ∀ d ∈ us.head?, (quote == d) = false := fun d hd =>
      beq_eq_false_iff_ne.2 (beq_eq_false_iff_ne.1 (ne_quote_of_isSeparator hquote (hus d hd))).symm
    match cs, us with
    | [], [] | [], [_] | [_], [] => simp [quotedString?, List.isPrefixOf]
    | [], d :: e :: us | [a], d :: us => simp [quotedString?, List.isPrefixOf, hne d rfl]
    | a :: b :: cs, us => simp [quotedString?, List.isPrefixOf]
  rw [hopen tail hseparates] at h
  split at h
  · next hlong =>
    obtain ⟨⟨more, rest⟩, hmore, ⟨⟩⟩ := Option.map_eq_some_iff.1 h
    obtain ⟨left, rfl, hall⟩ := longString?_before hquote htail hmore
    refine ⟨left, rfl, fun tail' htail' => ?_⟩
    rw [hopen tail' htail', if_pos hlong, hall tail' htail']
    rfl
  · next hshort =>
    obtain ⟨⟨more, rest⟩, hmore, ⟨⟩⟩ := Option.map_eq_some_iff.1 h
    obtain ⟨left, rfl, hall⟩ := shortString?_before hquote htail hmore
    refine ⟨left, rfl, fun tail' htail' => ?_⟩
    rw [hopen tail' htail', if_neg hshort, hall tail']
    rfl

end

end AnnotatedMarkdown.Python
