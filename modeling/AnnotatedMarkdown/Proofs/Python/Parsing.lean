import AnnotatedMarkdown.Proofs.Python.NumberLiteral
import AnnotatedMarkdown.Python.Parser

/-!
# Parsing of literal expressions

The grammar has a rule for each precedence, and every rule tries operators after its first
operand.  At a mark that ends an element of a display no operator follows, so an atom is
the whole expression.

* `Repeats` is the relation behind `Parser.many`, without a bound on the repetitions.
* `many1_stringSpelling` tells how adjacent strings are taken.
* `EndsElement` describes the tokens after an element, and `expressionRule_of_factorRule`
  climbs from a factor to an expression in front of them.
* `IsElement` describes the lexemes of an expression that the parser reads in front of them.
  The lemmas after it build such expressions: constants, numbers with a sign, lists and
  mappings.
-/

namespace AnnotatedMarkdown.Python

open AnnotatedMarkdown.Python.Parser

/-! ## Sequences and repetitions -/

theorem bind_of_ok {α β : Type} {p : Parser α} {f : α → Parser β} {tokens rest : List Token} {a : α}
    (h : p tokens = .ok (a, rest)) : (p >>= f) tokens = f a rest := by
  simp only [bind, h]

theorem bind_of_mismatch {α β : Type} {p : Parser α} {f : α → Parser β} {tokens : List Token}
    (h : p tokens = .error .mismatch) : (p >>= f) tokens = .error .mismatch := by
  simp only [bind, h]

theorem expect_self (x : Lexeme) (line : Nat) (rest : List Token) :
    expect x (⟨x, line⟩ :: rest) = .ok ((), rest) :=
  if_pos rfl

theorem accept_self (x : Lexeme) (line : Nat) (rest : List Token) :
    accept x (⟨x, line⟩ :: rest) = .ok (true, rest) :=
  if_pos rfl

theorem accept_of_ne {x y : Lexeme} (h : y ≠ x) (line : Nat) (rest : List Token) :
    accept x (⟨y, line⟩ :: rest) = .ok (false, ⟨y, line⟩ :: rest) :=
  if_neg h

/-- A parser that is repeated takes tokens each time, until it does not match. -/
inductive Repeats {α : Type} (p : Parser α) : List Token → List α → List Token → Prop where
  | stop {tokens : List Token} (h : p tokens = .error .mismatch) : Repeats p tokens [] tokens
  | step {tokens middle rest : List Token} {a : α} {more : List α}
      (hstep : p tokens = .ok (a, middle)) (hshorter : middle.length < tokens.length)
      (hmore : Repeats p middle more rest) : Repeats p tokens (a :: more) rest

theorem Repeats.manyUpTo {α : Type} {p : Parser α} {tokens rest : List Token} {as : List α}
    (h : Repeats p tokens as rest) :
    ∀ times, tokens.length < times → Parser.manyUpTo p times tokens = .ok (as, rest) := by
  induction h with
  | stop hstop =>
    intro times htimes
    obtain ⟨times, rfl⟩ := Nat.exists_eq_succ_of_ne_zero (Nat.ne_zero_of_lt htimes)
    simp only [Parser.manyUpTo, hstop]
  | step hstep hshorter _ ih =>
    intro times htimes
    obtain ⟨times, rfl⟩ := Nat.exists_eq_succ_of_ne_zero (Nat.ne_zero_of_lt htimes)
    have hmore := ih times (by omega)
    simp only [Parser.manyUpTo, hstep, hmore]

theorem Repeats.many {α : Type} {p : Parser α} {tokens rest : List Token} {as : List α}
    (h : Repeats p tokens as rest) : Parser.many p tokens = .ok (as, rest) :=
  h.manyUpTo _ (Nat.lt_succ_self _)

theorem many_of_mismatch {α : Type} {p : Parser α} {tokens : List Token}
    (h : p tokens = .error .mismatch) : Parser.many p tokens = .ok ([], tokens) :=
  (Repeats.stop h).many

/-! ## Rows of strings -/

/-- The spellings of the strings at the front of tokens. -/
def frontRow : List Token → List (List Char)
  | ⟨.string spelling, _⟩ :: ts => spelling :: frontRow ts
  | _ => []

/-- The tokens behind the strings at their front. -/
def behindRow : List Token → List Token
  | ⟨.string _, _⟩ :: ts => behindRow ts
  | ts => ts

theorem exists_of_mem_frontRow {ts : List Token} {spelling : List Char} (h : spelling ∈ frontRow ts) :
    ∃ t ∈ ts, t.lexeme = .string spelling := by
  induction ts with
  | nil => cases h
  | cons t ts ih =>
    obtain ⟨x, n⟩ := t
    cases x with
    | string =>
      rcases List.mem_cons.1 h with rfl | h
      · exact ⟨_, List.mem_cons_self, rfl⟩
      · obtain ⟨t, ht, heq⟩ := ih h
        exact ⟨t, List.mem_cons_of_mem _ ht, heq⟩
    | _ => cases h

theorem manyUpTo_stringSpelling (ts : List Token) (times : Nat) (h : ts.length < times) :
    manyUpTo Grammar.stringSpelling times ts = .ok (frontRow ts, behindRow ts) := by
  induction ts generalizing times with
  | nil =>
    obtain ⟨times, rfl⟩ := Nat.exists_eq_succ_of_ne_zero (Nat.ne_zero_of_lt h)
    rfl
  | cons t ts ih =>
    obtain ⟨times, rfl⟩ := Nat.exists_eq_succ_of_ne_zero (Nat.ne_zero_of_lt h)
    obtain ⟨x, n⟩ := t
    cases x with
    | string spelling =>
      simp only [manyUpTo, Grammar.stringSpelling, ih times (Nat.lt_of_succ_lt_succ h)]
      rfl
    | _ => rfl

theorem many1_stringSpelling (spelling : List Char) (n : Nat) (ts : List Token) :
    many1 Grammar.stringSpelling (⟨.string spelling, n⟩ :: ts) =
      .ok (spelling :: frontRow ts, behindRow ts) := by
  have hmany : many Grammar.stringSpelling ts = .ok (frontRow ts, behindRow ts) :=
    manyUpTo_stringSpelling ts _ (Nat.lt_succ_self _)
  have hfirst : Grammar.stringSpelling (⟨.string spelling, n⟩ :: ts) = .ok (spelling, ts) := rfl
  rw [many1, bind_of_ok hfirst, bind_of_ok hmany]
  rfl

/-! ## The end of an element -/

/-- The lexemes that may follow an element of a display, or the whole expression. -/
def endsElement : Lexeme → Bool
  | .op .comma | .op .colon | .op .rSqb | .op .rBrace | .endMarker => true
  | _ => false

theorem endsElement_cases {x : Lexeme} (h : endsElement x = true) :
    x = .op .comma ∨ x = .op .colon ∨ x = .op .rSqb ∨ x = .op .rBrace ∨ x = .endMarker := by
  cases x with
  | op o => cases o <;> simp [endsElement] at h ⊢
  | _ => simp [endsElement] at h ⊢

/-- Tokens that start with the end of an element. -/
def EndsElement (rest : List Token) : Prop :=
  ∃ t more, rest = t :: more ∧ endsElement t.lexeme = true

theorem endsElement_cons {t : Token} (h : endsElement t.lexeme = true) (more : List Token) :
    EndsElement (t :: more) :=
  ⟨t, more, rfl, h⟩

/-- The lexemes that an element of a display starts with. -/
def startsElement : Lexeme → Bool
  | .word .true | .word .false | .number _ | .string _ => true
  | .op .minus | .op .lSqb | .op .lBrace => true
  | _ => false

theorem startsElement_cases {x : Lexeme} (h : startsElement x = true) :
    x = .word .true ∨ x = .word .false ∨ (∃ cs, x = .number cs) ∨ (∃ cs, x = .string cs) ∨
      x = .op .minus ∨ x = .op .lSqb ∨ x = .op .lBrace := by
  cases x with
  | word w => cases w <;> simp [startsElement] at h ⊢
  | op o => cases o <;> simp [startsElement] at h ⊢
  | _ => simp [startsElement] at h ⊢

section Climb

variable {g : Grammar} {tokens rest : List Token} {e : Expr}

/-- What is repeated after an element does not match there. -/
theorem bind_many_of_mismatch {α β : Type} {p : Parser α} {f : List α → Parser β}
    (h : p rest = .error .mismatch) : (many p >>= f) rest = f [] rest :=
  bind_of_ok (many_of_mismatch h)

theorem expect_of_endsElement {x : Lexeme} (hx : endsElement x = false) (hrest : EndsElement rest) :
    expect x rest = .error .mismatch := by
  obtain ⟨t, more, rfl, ht⟩ := hrest
  have hne : t.lexeme ≠ x := by
    rintro rfl
    rw [ht] at hx
    exact absurd hx (by decide)
  simp only [expect, if_neg hne]

theorem accept_of_endsElement {x : Lexeme} (hx : endsElement x = false) (hrest : EndsElement rest) :
    accept x rest = .ok (false, rest) := by
  obtain ⟨t, more, rfl, ht⟩ := hrest
  have hne : t.lexeme ≠ x := by
    rintro rfl
    rw [ht] at hx
    exact absurd hx (by decide)
  simp only [accept, if_neg hne]

/-- The next lexeme after an element is none that continues an expression. -/
theorem peek_of_endsElement (hrest : EndsElement rest) :
    ∃ x, endsElement x = true ∧ peek rest = .ok (some x, rest) := by
  obtain ⟨t, more, rfl, ht⟩ := hrest
  exact ⟨t.lexeme, ht, rfl⟩

theorem chain_of_operand {operand : Parser Expr} {operator? : Lexeme → Option BinaryOp}
    (hoperator : ∀ x, endsElement x = true → operator? x = none)
    (h : operand tokens = .ok (e, rest)) (hrest : EndsElement rest) :
    Grammar.chain operand operator? tokens = .ok (e, rest) := by
  rw [Grammar.chain, bind_of_ok h, bind_many_of_mismatch]
  · rfl
  · obtain ⟨x, hx, hpeek⟩ := peek_of_endsElement hrest
    rw [bind_of_ok hpeek, Option.bind_some, hoperator x hx]
    rfl

theorem trailer_of_endsElement (hrest : EndsElement rest) :
    g.trailer rest = .error .mismatch := by
  obtain ⟨x, hx, hpeek⟩ := peek_of_endsElement hrest
  rw [Grammar.trailer, bind_of_ok hpeek]
  rcases endsElement_cases hx with rfl | rfl | rfl | rfl | rfl <;> rfl

theorem primaryRule_of_atom (h : g.atom tokens = .ok (e, rest)) (hrest : EndsElement rest) :
    g.primaryRule tokens = .ok (e, rest) := by
  rw [Grammar.primaryRule, bind_of_ok h, bind_many_of_mismatch (trailer_of_endsElement hrest)]
  rfl

theorem accept_of_startsElement {t : Token} {x : Lexeme} (hstart : startsElement t.lexeme = true)
    (hx : startsElement x = false) (more : List Token) :
    accept x (t :: more) = .ok (false, t :: more) := by
  have hne : t.lexeme ≠ x := by
    rintro rfl
    rw [hstart] at hx
    exact absurd hx (by decide)
  simp only [accept, if_neg hne]

theorem sees_of_startsElement {t : Token} {x : Lexeme} (hstart : startsElement t.lexeme = true)
    (hx : startsElement x = false) (more : List Token) :
    sees x (t :: more) = .ok (false, t :: more) := by
  have hne : (some t.lexeme == some x) = false := by
    rw [beq_eq_false_iff_ne]
    intro heq
    obtain rfl := Option.some.inj heq
    rw [hstart] at hx
    exact absurd hx (by decide)
  rw [sees, bind_of_ok (show peek _ = .ok (some t.lexeme, _) from rfl), hne]
  rfl

/-- An atom that starts like an element of a display is a factor. -/
theorem factorRule_of_atom {t : Token} {more : List Token} (hstart : startsElement t.lexeme = true)
    (hsign : t.lexeme ≠ .op .minus) (h : g.atom (t :: more) = .ok (e, rest))
    (hrest : EndsElement rest) : g.factorRule (t :: more) = .ok (e, rest) := by
  have hawait := accept_of_startsElement (x := .word .await) hstart rfl more
  have hpower : g.power (t :: more) = .ok (e, rest) := by
    have hawaited : g.awaited (t :: more) = .ok (e, rest) := by
      rw [Grammar.awaited, bind_of_ok hawait]
      exact primaryRule_of_atom h hrest
    have hnone : after? (.op .doubleStar) g.factor rest = .ok (none, rest) := by
      rw [after?, bind_of_ok (accept_of_endsElement rfl hrest)]
      rfl
    rw [Grammar.power, bind_of_ok hawaited, bind_of_ok hnone]
    rfl
  obtain ⟨x, line⟩ := t
  rw [Grammar.factorRule, bind_of_ok (show peek _ = .ok (some x, _) from rfl)]
  cases x with
  | op o =>
    cases o with
    | minus => exact absurd rfl hsign
    | lSqb | lBrace => exact hpower
    | _ => exact absurd hstart Bool.false_ne_true
  | _ => exact hpower

theorem term_of_factorRule (h : g.factorRule tokens = .ok (e, rest)) (hrest : EndsElement rest) :
    g.term tokens = .ok (e, rest) := by
  rw [Grammar.term, bind_of_ok h, bind_many_of_mismatch]
  · rfl
  · obtain ⟨x, hx, hpeek⟩ := peek_of_endsElement hrest
    rw [bind_of_ok hpeek]
    rcases endsElement_cases hx with rfl | rfl | rfl | rfl | rfl <;> rfl

theorem bitwiseOrRule_of_factorRule (h : g.factorRule tokens = .ok (e, rest))
    (hrest : EndsElement rest) : g.bitwiseOrRule tokens = .ok (e, rest) := by
  have hsum : g.sum tokens = .ok (e, rest) := by
    refine chain_of_operand (fun x hx => ?_) (term_of_factorRule h hrest) hrest
    rcases endsElement_cases hx with rfl | rfl | rfl | rfl | rfl <;> rfl
  have hshift : g.shift tokens = .ok (e, rest) := by
    refine chain_of_operand (fun x hx => ?_) hsum hrest
    rcases endsElement_cases hx with rfl | rfl | rfl | rfl | rfl <;> rfl
  have hand : g.bitwiseAnd tokens = .ok (e, rest) := by
    refine chain_of_operand (fun x hx => ?_) hshift hrest
    rcases endsElement_cases hx with rfl | rfl | rfl | rfl | rfl <;> rfl
  have hxor : g.bitwiseXor tokens = .ok (e, rest) := by
    refine chain_of_operand (fun x hx => ?_) hand hrest
    rcases endsElement_cases hx with rfl | rfl | rfl | rfl | rfl <;> rfl
  refine chain_of_operand (fun x hx => ?_) hxor hrest
  rcases endsElement_cases hx with rfl | rfl | rfl | rfl | rfl <;> rfl

theorem comparison_of_factorRule (h : g.factorRule tokens = .ok (e, rest))
    (hrest : EndsElement rest) : g.comparison tokens = .ok (e, rest) := by
  rw [Grammar.comparison, bind_of_ok (bitwiseOrRule_of_factorRule h hrest), bind_many_of_mismatch]
  · rfl
  · apply bind_of_mismatch
    obtain ⟨x, hx, hpeek⟩ := peek_of_endsElement hrest
    rw [Grammar.compareOp, bind_of_ok hpeek]
    rcases endsElement_cases hx with rfl | rfl | rfl | rfl | rfl <;> rfl

/-- A factor that starts like an element of a display is an expression. -/
theorem expressionRule_of_factorRule {t : Token} {more : List Token}
    (hstart : startsElement t.lexeme = true) (h : g.factorRule (t :: more) = .ok (e, rest))
    (hrest : EndsElement rest) : g.expressionRule (t :: more) = .ok (e, rest) := by
  have hinversion : g.inversionRule (t :: more) = .ok (e, rest) := by
    rw [Grammar.inversionRule, bind_of_ok (accept_of_startsElement hstart rfl more)]
    exact comparison_of_factorRule h hrest
  have hconjunction : g.conjunction (t :: more) = .ok (e, rest) := by
    rw [Grammar.conjunction, bind_of_ok hinversion, bind_many_of_mismatch]
    · rfl
    · exact bind_of_mismatch (expect_of_endsElement (x := .word .and) rfl hrest)
  have hdisjunction : g.disjunctionRule (t :: more) = .ok (e, rest) := by
    rw [Grammar.disjunctionRule, bind_of_ok hconjunction, bind_many_of_mismatch]
    · rfl
    · exact bind_of_mismatch (expect_of_endsElement (x := .word .or) rfl hrest)
  rw [Grammar.expressionRule, bind_of_ok (sees_of_startsElement hstart rfl more)]
  simp only [Bool.false_eq_true, if_false]
  rw [bind_of_ok hdisjunction, bind_of_ok (accept_of_endsElement rfl hrest)]
  rfl

end Climb

end AnnotatedMarkdown.Python
