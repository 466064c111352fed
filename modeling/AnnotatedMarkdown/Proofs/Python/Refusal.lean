import AnnotatedMarkdown.Proofs.Python.Line.Basic

/-!
# Refusals

A parser refuses what no alternative can mend.  The rules for expressions refuse a number or a row
of adjacent strings that stands for nothing, and nothing else, if the grammar has all constructs.
So tokens that one rule has read are refused by no other one.

* `areReadable` tells whether all numbers and all rows of strings among tokens stand for something.
* `Keeps` holds of an outcome that leaves tokens as readable as they were before, and is a refusal
  only of tokens that are not readable.
* `SteadyAt` holds of parsers with such outcomes in front of known lexemes.  It is a class, so that
  the instances follow the shape of a rule.
* `isSteady_level` says that the rules for expressions are steady at every level.
-/

namespace AnnotatedMarkdown.Python

open AnnotatedMarkdown.Python.Parser

/-! ## Readable tokens -/

/-- Whether a lexeme stands for something by itself.  The spellings of numbers and strings may stand
for nothing. -/
@[reducible] def Lexeme.isReadable : Lexeme → Bool
  | .number _ | .string _ => false
  | _ => true

/-- Whether all numbers and all rows of strings among tokens stand for something; `inRow` tells
that a string at their front belongs to a row that started before. -/
def areReadable (isRow : List (List Char) → Bool) : (inRow : Bool) → List Token → Bool
  | _, [] => true
  | inRow, ⟨.string spelling, _⟩ :: ts =>
    (inRow || isRow (spelling :: frontRow ts)) && areReadable isRow true ts
  | _, ⟨.number spelling, _⟩ :: ts => (numberConstant? spelling).isSome && areReadable isRow false ts
  | _, _ :: ts => areReadable isRow false ts

variable {isRow : List (List Char) → Bool}

theorem areReadable_cons {x : Lexeme} (hx : x.isReadable = true) (n : Nat) (ts : List Token)
    (inRow : Bool) : areReadable isRow inRow (⟨x, n⟩ :: ts) = areReadable isRow false ts := by
  cases x with
  | number | string => cases hx
  | _ => rfl

theorem areReadable_behindRow (ts : List Token) :
    areReadable isRow false (behindRow ts) = areReadable isRow true ts := by
  induction ts with
  | nil => rfl
  | cons t ts ih =>
    obtain ⟨x, n⟩ := t
    cases x with
    | string => exact ih
    | _ => rfl

/-! ## Outcomes -/

/-- An outcome leaves tokens that are as readable as those before, and refuses no readable ones. -/
structure Keeps {α : Type} (isRow : List (List Char) → Bool) (ts : List Token)
    (r : Except Refusal (α × List Token)) : Prop where
  ok : ∀ a rest, r = .ok (a, rest) → areReadable isRow false rest = areReadable isRow false ts
  refused : r = .error .refused → areReadable isRow false ts = false

section

variable {α β : Type} {ts us : List Token} {r : Except Refusal (α × List Token)}

theorem keeps_ok (a : α) (h : areReadable isRow false us = areReadable isRow false ts) :
    Keeps isRow ts (.ok (a, us)) := by
  refine ⟨?_, nofun⟩
  rintro _ _ ⟨⟩
  exact h

theorem keeps_mismatch : Keeps isRow ts (.error .mismatch : Except Refusal (α × List Token)) :=
  ⟨nofun, nofun⟩

theorem keeps_refused (h : areReadable isRow false ts = false) :
    Keeps isRow ts (.error .refused : Except Refusal (α × List Token)) :=
  ⟨nofun, fun _ => h⟩

/-- A failure is a failure of whatever follows. -/
theorem Keeps.error {e : Refusal} (h : Keeps isRow ts (.error e : Except Refusal (α × List Token))) :
    Keeps isRow ts (.error e : Except Refusal (β × List Token)) := by
  cases e with
  | mismatch => exact keeps_mismatch
  | refused => exact keeps_refused (h.refused rfl)

/-- What is as readable as the tokens can stand for them. -/
theorem Keeps.of_eq (h : Keeps isRow us r)
    (heq : areReadable isRow false us = areReadable isRow false ts) : Keeps isRow ts r :=
  ⟨fun a rest hr => (h.ok a rest hr).trans heq, fun hr => heq ▸ h.refused hr⟩

end

namespace Parser

/-- In front of known lexemes, a parser leaves tokens as readable as they are, and refuses no
readable ones. -/
class SteadyAt {α : Type} (isRow : List (List Char) → Bool) (front : List Lexeme) (p : Parser α) :
    Prop where
  keeps : ∀ ts, front <+: ts.map Token.lexeme → Keeps isRow ts (p ts)

/-- A parser that leaves tokens as readable as they are, and refuses no readable ones. -/
abbrev Steady {α : Type} (isRow : List (List Char) → Bool) (p : Parser α) : Prop :=
  SteadyAt isRow [] p

section

variable {α β : Type} {front : List Lexeme} {x : Lexeme} {p q : Parser α} {f : α → Parser β}

theorem Steady.run (h : Steady isRow p) (ts : List Token) : Keeps isRow ts (p ts) :=
  h.keeps ts List.nil_prefix

instance (priority := low) [h : Steady isRow p] : SteadyAt isRow front p :=
  ⟨fun ts _ => h.run ts⟩

instance (a : α) : SteadyAt isRow front (pure a : Parser α) :=
  ⟨fun _ _ => keeps_ok a rfl⟩

instance : SteadyAt isRow front (mismatch : Parser α) :=
  ⟨fun _ _ => keeps_mismatch⟩

theorem SteadyAt.bind (hp : SteadyAt isRow front p) (hf : ∀ a, Steady isRow (f a)) :
    SteadyAt isRow front (p >>= f) where
  keeps ts hfront := by
    have hkeeps := hp.keeps ts hfront
    simp only [Bind.bind]
    cases hr : p ts with
    | error e =>
      rw [hr] at hkeeps
      exact hkeeps.error
    | ok r => exact ((hf r.1).run r.2).of_eq (hkeeps.ok r.1 r.2 hr)

instance [hp : SteadyAt isRow front p] [hf : ∀ a, Steady isRow (f a)] :
    SteadyAt isRow front (p >>= f) :=
  hp.bind hf

instance {c : Prop} [Decidable c] [hp : SteadyAt isRow front p] [hq : SteadyAt isRow front q] :
    SteadyAt isRow front (if c then p else q) := by
  split
  · exact hp
  · exact hq

instance [hp : Steady isRow p] [hq : Steady isRow q] : Steady isRow (orElse p fun _ => q) where
  keeps ts _ := by
    have hkeeps := hp.run ts
    unfold orElse
    cases hr : p ts with
    | ok r =>
      rw [hr] at hkeeps
      exact hkeeps
    | error e =>
      rw [hr] at hkeeps
      cases e with
      | mismatch => exact hq.run ts
      | refused => exact hkeeps

theorem keeps_manyUpTo (hp : Steady isRow p) (times : Nat) (ts : List Token) :
    Keeps isRow ts (manyUpTo p times ts) := by
  induction times generalizing ts with
  | zero => exact keeps_ok _ rfl
  | succ times ih =>
    have hkeeps := hp.run ts
    simp only [manyUpTo]
    cases hr : p ts with
    | error e =>
      cases e with
      | mismatch => exact keeps_ok _ rfl
      | refused => exact keeps_refused (hkeeps.refused hr)
    | ok r =>
      obtain ⟨a, us⟩ := r
      have hmore := (ih us).of_eq (hkeeps.ok a us hr)
      dsimp only
      cases hs : manyUpTo p times us with
      | error e =>
        rw [hs] at hmore
        exact hmore.error
      | ok s => exact keeps_ok _ (hmore.ok s.1 s.2 hs)

theorem Steady.many (hp : Steady isRow p) : Steady isRow (many p) :=
  ⟨fun ts _ => keeps_manyUpTo hp _ ts⟩

instance [hp : Steady isRow p] : Steady isRow (Parser.many p) :=
  hp.many

/-! ### Single lexemes -/

instance [hx : Holds x.isReadable] : Steady isRow (expect x) where
  keeps ts _ := by
    cases ts with
    | nil => exact keeps_mismatch
    | cons t ts =>
      unfold expect
      dsimp only
      split
      · next heq =>
        exact keeps_ok _ (areReadable_cons (heq ▸ hx.eq_true) t.line ts false).symm
      · exact keeps_mismatch

instance [hx : Holds x.isReadable] : Steady isRow (accept x) where
  keeps ts _ := by
    cases ts with
    | nil => exact keeps_ok _ rfl
    | cons t ts =>
      unfold accept
      dsimp only
      split
      · next heq =>
        exact keeps_ok _ (areReadable_cons (heq ▸ hx.eq_true) t.line ts false).symm
      · exact keeps_ok _ rfl

instance {o : Op} : Steady isRow (op o) :=
  inferInstanceAs (Steady isRow (expect (.op o)))

instance {w : Word} : Steady isRow (word w) :=
  inferInstanceAs (Steady isRow (expect (.word w)))

instance : Steady isRow peek :=
  ⟨fun _ _ => keeps_ok _ rfl⟩

instance : Steady isRow peekSecond :=
  ⟨fun _ _ => keeps_ok _ rfl⟩

instance : Steady isRow (sees x) := by
  unfold sees
  infer_instance

instance : Steady isRow name where
  keeps ts _ := by
    rcases ts with - | ⟨⟨x, n⟩, ts⟩
    · exact keeps_mismatch
    · cases x with
      | name spelling => exact keeps_ok _ rfl
      | _ => exact keeps_mismatch

theorem steadyAt_advance {f : Unit → Parser β} (hx : x.isReadable = true)
    (hf : SteadyAt isRow front (f ())) : SteadyAt isRow (x :: front) (advance >>= f) where
  keeps ts hfront := by
    rcases ts with - | ⟨⟨y, n⟩, ts⟩
    · exact absurd (List.prefix_nil.1 hfront) (List.cons_ne_nil _ _)
    · obtain ⟨rfl, hrest⟩ := List.cons_prefix_cons.1 hfront
      exact (hf.keeps ts hrest).of_eq (areReadable_cons hx n ts false).symm

instance {f : Unit → Parser β} [hx : Holds x.isReadable] [hf : SteadyAt isRow front (f ())] :
    SteadyAt isRow (x :: front) (advance >>= f) :=
  steadyAt_advance hx.eq_true hf

instance {spelling : List Char} {f : String → Parser β} [hf : ∀ a, SteadyAt isRow front (f a)] :
    SteadyAt isRow (.name spelling :: front) (name >>= f) where
  keeps ts hfront := by
    rcases ts with - | ⟨⟨y, n⟩, ts⟩
    · exact absurd (List.prefix_nil.1 hfront) (List.cons_ne_nil _ _)
    · obtain ⟨rfl, hrest⟩ := List.cons_prefix_cons.1 hfront
      exact ((hf (identifier spelling)).keeps ts hrest).of_eq rfl

/-! ### Looking ahead -/

/-- A parser that looks at the next lexeme. -/
theorem steady_peek {f : Option Lexeme → Parser β}
    (hf : ∀ x, SteadyAt isRow (ahead x none) (f x)) : Steady isRow (peek >>= f) where
  keeps ts _ := by
    cases ts with
    | nil => exact (hf none).keeps [] List.nil_prefix
    | cons t ts => exact (hf (some t.lexeme)).keeps (t :: ts) ⟨ts.map Token.lexeme, rfl⟩

/-- A parser that looks at the next two lexemes. -/
theorem steady_peekPair {f : Option Lexeme → Option Lexeme → Parser β}
    (hf : ∀ x y, SteadyAt isRow (ahead x y) (f x y)) :
    Steady isRow (peek >>= fun x => peekSecond >>= fun y => f x y) where
  keeps ts _ := by
    match ts with
    | [] => exact (hf none none).keeps [] List.nil_prefix
    | [t] => exact (hf (some t.lexeme) none).keeps [t] ⟨[], rfl⟩
    | t :: u :: ts =>
      exact (hf (some t.lexeme) (some u.lexeme)).keeps (t :: u :: ts) ⟨ts.map Token.lexeme, rfl⟩

/-! ### Combinators -/

instance [Steady isRow p] : Steady isRow (maybe p) := by
  unfold maybe
  infer_instance

instance [Holds x.isReadable] [Steady isRow p] : Steady isRow (after? x p) := by
  unfold after?
  infer_instance

instance [Steady isRow p] : Steady isRow (many1 p) := by
  unfold many1
  infer_instance

instance [Steady isRow p] : Steady isRow (commaList p) := by
  unfold commaList
  infer_instance

instance [Steady isRow p] : Steady isRow (commaListTrailing p) := by
  unfold commaListTrailing
  infer_instance

instance (b : Bool) : Steady isRow (ensure b) := by
  unfold ensure
  infer_instance

instance (o : Option α) : Steady isRow (fromOption o) := by
  cases o <;> unfold fromOption <;> infer_instance

end

end Parser

/-! ## Grammars -/

/-- A grammar that has all constructs of expressions, whose constituents are steady for the rows of
strings that it reads. -/
class Grammar.IsSteady (isRow : List (List Char) → Bool) (g : Grammar) : Prop where
  version : 8 ≤ g.version
  row : ∀ spellings, (g.stringsExpr? spellings).isSome = isRow spellings
  expression : Steady isRow g.expression
  disjunction : Steady isRow g.disjunction
  inversion : Steady isRow g.inversion
  bitwiseOr : Steady isRow g.bitwiseOr
  factor : Steady isRow g.factor
  primary : Steady isRow g.primary

namespace Grammar

attribute [instance] IsSteady.expression IsSteady.disjunction IsSteady.inversion IsSteady.bitwiseOr
  IsSteady.factor IsSteady.primary

variable (isRow : List (List Char) → Bool) (g : Grammar) [hg : g.IsSteady isRow]

-- An instance grows with the rule that it is for.
set_option synthInstance.maxSize 4000

theorem steady_since {version : Nat} (h : version ≤ 8) : Steady isRow (g.since version) := by
  rw [since, if_pos (Nat.le_trans h (IsSteady.version isRow))]
  infer_instance

instance : Steady isRow (g.since 5) :=
  steady_since isRow g (by decide)

instance : Steady isRow (g.since 6) :=
  steady_since isRow g (by decide)

instance : Steady isRow (g.since 8) :=
  steady_since isRow g (by decide)

/-! ### Lists, targets and comprehensions -/

instance steady_namedExpression : Steady isRow g.namedExpression := by
  unfold namedExpression
  refine steady_peekPair fun x y => ?_
  split <;> infer_instance

instance steady_starred : Steady isRow g.starred := by
  unfold starred
  infer_instance

instance steady_starNamedExpression : Steady isRow g.starNamedExpression := by
  unfold starNamedExpression
  infer_instance

instance steady_starExpression : Steady isRow g.starExpression := by
  unfold starExpression
  infer_instance

instance steady_starExpressions : Steady isRow g.starExpressions := by
  unfold starExpressions
  infer_instance

instance steady_expressions : Steady isRow g.expressions := by
  unfold expressions
  infer_instance

instance steady_yieldExpression : Steady isRow g.yieldExpression := by
  unfold yieldExpression
  infer_instance

instance steady_starTarget : Steady isRow g.starTarget := by
  unfold starTarget
  infer_instance

instance steady_starTargets : Steady isRow g.starTargets := by
  unfold starTargets
  infer_instance

instance steady_clause : Steady isRow g.clause := by
  unfold clause
  dsimp only
  infer_instance

instance steady_clauses : Steady isRow g.clauses := by
  unfold clauses
  infer_instance

omit hg in
instance steady_seesClause : Steady isRow seesClause := by
  unfold seesClause
  infer_instance

/-! ### Parameters -/

instance steady_hint (typed : Bool) : Steady isRow (g.hint typed) := by
  unfold hint
  infer_instance

instance steady_starHint (typed : Bool) : Steady isRow (g.starHint typed) := by
  unfold starHint
  infer_instance

instance steady_parameterItem (typed : Bool) : Steady isRow (g.parameterItem typed) := by
  unfold parameterItem
  refine steady_peek fun x => ?_
  split
  · infer_instance
  · refine steadyAt_advance rfl (steady_peek fun y => ?_)
    split <;> infer_instance
  · infer_instance
  · infer_instance

instance steady_parameters (typed : Bool) : Steady isRow (g.parameters typed) := by
  unfold parameters
  infer_instance

instance steady_lambda : Steady isRow g.lambda := by
  unfold lambda
  dsimp only
  infer_instance

/-! ### Atoms -/

/-- Strings are refused exactly if their row stands for nothing. -/
instance steady_strings : Steady isRow g.strings where
  keeps ts _ := by
    rcases ts with - | ⟨⟨x, n⟩, ts⟩
    · exact keeps_mismatch
    · cases x with
      | string spelling =>
        have hrow := hg.row (spelling :: frontRow ts)
        rw [strings, bind_of_ok (many1_stringSpelling spelling n ts)]
        cases hvalue : g.stringsExpr? (spelling :: frontRow ts) with
        | some e =>
          rw [hvalue, Option.isSome_some] at hrow
          refine keeps_ok _ ?_
          rw [areReadable_behindRow, areReadable, ← hrow, Bool.or_true, Bool.true_and]
        | none =>
          rw [hvalue, Option.isSome_none] at hrow
          refine keeps_refused ?_
          rw [areReadable, ← hrow, Bool.or_false, Bool.false_and]
      | _ => exact keeps_mismatch

/-- A number is refused exactly if it stands for nothing. -/
instance steady_number : Steady isRow g.number where
  keeps ts _ := by
    rcases ts with - | ⟨⟨x, n⟩, ts⟩
    · exact keeps_mismatch
    · cases x with
      | number spelling =>
        have hsince : g.since 6 = pure () := if_pos (Nat.le_trans (by decide) (IsSteady.version isRow))
        have hnumber : g.number (⟨.number spelling, n⟩ :: ts) =
            (match numberConstant? spelling with
              | some c => .ok (c, ts)
              | none => .error .refused) := by
          have hpeek : peek (⟨.number spelling, n⟩ :: ts) =
              .ok (some (.number spelling), ⟨.number spelling, n⟩ :: ts) := rfl
          have hadvance : advance (⟨.number spelling, n⟩ :: ts) = .ok ((), ts) := rfl
          refine (bind_of_ok hpeek).trans ?_
          refine (bind_of_ok hadvance).trans ?_
          split <;> (try rw [hsince]) <;> cases numberConstant? spelling <;> rfl
        rw [hnumber]
        cases hvalue : numberConstant? spelling with
        | some c =>
          refine keeps_ok _ ?_
          rw [areReadable, hvalue, Option.isSome_some, Bool.true_and]
        | none =>
          refine keeps_refused ?_
          rw [areReadable, hvalue, Option.isSome_none, Bool.false_and]
      | _ => exact keeps_mismatch

instance steady_afterParenthesis : Steady isRow g.afterParenthesis := by
  unfold afterParenthesis
  infer_instance

instance steady_afterBracket : Steady isRow g.afterBracket := by
  unfold afterBracket
  infer_instance

instance steady_dictItem : Steady isRow g.dictItem := by
  unfold dictItem
  infer_instance

instance steady_setRest (first : Expr) : Steady isRow (g.setRest first) := by
  unfold setRest
  infer_instance

instance steady_dictRest (first : DictItem) : Steady isRow (g.dictRest first) := by
  unfold dictRest
  infer_instance

instance steady_afterBrace : Steady isRow g.afterBrace := by
  unfold afterBrace
  refine .bind inferInstance fun closed => ?_
  split
  · infer_instance
  · refine .bind inferInstance fun x => .bind inferInstance fun y => ?_
    split <;> infer_instance

instance steady_atom : Steady isRow g.atom := by
  unfold atom
  refine steady_peek fun x => ?_
  split <;> infer_instance

/-! ### Calls and subscripts -/

instance steady_argument : Steady isRow g.argument := by
  unfold argument
  refine steady_peekPair fun x y => ?_
  split
  · cases y <;> infer_instance
  · cases y <;> infer_instance
  · infer_instance
  · infer_instance

instance steady_argumentsRest (first : ArgumentItem) : Steady isRow (g.argumentsRest first) := by
  unfold argumentsRest
  infer_instance

instance steady_callArguments : Steady isRow g.callArguments := by
  unfold callArguments
  refine .bind inferInstance fun closed => ?_
  split
  · infer_instance
  · refine .bind inferInstance fun first => ?_
    split <;> infer_instance

instance steady_slicePart : Steady isRow g.slicePart := by
  unfold slicePart
  infer_instance

instance steady_sliceRest (lower : Option Expr) : Steady isRow (g.sliceRest lower) := by
  unfold sliceRest
  infer_instance

instance steady_index : Steady isRow g.index := by
  unfold index
  refine steady_peekPair fun x y => ?_
  split
  · cases y <;> infer_instance
  · cases y <;> infer_instance
  · infer_instance
  · infer_instance

instance steady_indices : Steady isRow g.indices := by
  unfold indices
  refine .bind inferInstance fun items => ?_
  dsimp only
  split <;> infer_instance

instance steady_trailer : Steady isRow g.trailer := by
  unfold trailer
  refine steady_peek fun x => ?_
  split <;> infer_instance

instance steady_primaryRule : Steady isRow g.primaryRule := by
  unfold primaryRule
  infer_instance

/-! ### Operators -/

omit hg in
theorem steady_chain {operator? : Lexeme → Option BinaryOp}
    (hoperator : ∀ x, x.isReadable = false → operator? x = none) (p : Parser Expr) [Steady isRow p] :
    Steady isRow (chain p operator?) := by
  unfold chain
  refine .bind inferInstance fun first => .bind (Steady.many (steady_peek fun x => ?_)) inferInstance
  cases x with
  | none => exact inferInstanceAs (Steady isRow mismatch)
  | some x =>
    rw [Option.bind_some]
    cases hx : x.isReadable with
    | true =>
      have : Holds x.isReadable := ⟨hx⟩
      split <;> infer_instance
    | false =>
      rw [hoperator x hx]
      infer_instance

instance steady_awaited : Steady isRow g.awaited := by
  unfold awaited
  infer_instance

instance steady_power : Steady isRow g.power := by
  unfold power
  refine .bind inferInstance fun base => .bind inferInstance fun exponent => ?_
  split <;> infer_instance

instance steady_factorRule : Steady isRow g.factorRule := by
  unfold factorRule
  refine steady_peek fun x => ?_
  split <;> infer_instance

instance steady_term : Steady isRow g.term := by
  unfold term term.step
  refine .bind inferInstance fun first => .bind (Steady.many (steady_peek fun x => ?_)) inferInstance
  split <;> infer_instance

instance steady_sum : Steady isRow g.sum :=
  steady_chain isRow (fun x hx => by cases x <;> first | rfl | cases hx) _

instance steady_shift : Steady isRow g.shift :=
  steady_chain isRow (fun x hx => by cases x <;> first | rfl | cases hx) _

instance steady_bitwiseAnd : Steady isRow g.bitwiseAnd :=
  steady_chain isRow (fun x hx => by cases x <;> first | rfl | cases hx) _

instance steady_bitwiseXor : Steady isRow g.bitwiseXor :=
  steady_chain isRow (fun x hx => by cases x <;> first | rfl | cases hx) _

instance steady_bitwiseOrRule : Steady isRow g.bitwiseOrRule :=
  steady_chain isRow (fun x hx => by cases x <;> first | rfl | cases hx) _

omit hg in
instance steady_compareOp : Steady isRow compareOp := by
  unfold compareOp
  refine steady_peek fun x => ?_
  unfold compareOp.single
  split <;> infer_instance

instance steady_comparison : Steady isRow g.comparison := by
  unfold comparison
  infer_instance

instance steady_inversionRule : Steady isRow g.inversionRule := by
  unfold inversionRule
  infer_instance

instance steady_conjunction : Steady isRow g.conjunction := by
  unfold conjunction
  infer_instance

instance steady_disjunctionRule : Steady isRow g.disjunctionRule := by
  unfold disjunctionRule
  infer_instance

instance steady_expressionRule : Steady isRow g.expressionRule := by
  unfold expressionRule
  infer_instance

/-! ### The head of a `match` statement -/

instance steady_subject : Steady isRow g.subject := by
  unfold subject
  refine .bind inferInstance fun elements => ?_
  dsimp only
  split <;> infer_instance

instance steady_matchHead : Steady isRow g.matchHead := by
  unfold matchHead softWord
  infer_instance

/-! ### Levels -/

/-- The rules for expressions are steady at every level. -/
theorem isSteady_level {version : Nat} (hversion : 8 ≤ version) (asyncReserved : Bool) (levels : Nat) :
    (level version asyncReserved levels).IsSteady
      fun spellings => ((level version asyncReserved 0).stringsExpr? spellings).isSome := by
  induction levels with
  | zero =>
    exact {
      version := hversion
      row := fun _ => rfl
      expression := inferInstanceAs (Steady _ mismatch)
      disjunction := inferInstanceAs (Steady _ mismatch)
      inversion := inferInstanceAs (Steady _ mismatch)
      bitwiseOr := inferInstanceAs (Steady _ mismatch)
      factor := inferInstanceAs (Steady _ mismatch)
      primary := inferInstanceAs (Steady _ mismatch) }
  | succ levels ih =>
    exact {
      version := hversion
      row := fun _ => rfl
      expression := steady_expressionRule _ (level version asyncReserved levels)
      disjunction := steady_disjunctionRule _ (level version asyncReserved levels)
      inversion := steady_inversionRule _ (level version asyncReserved levels)
      bitwiseOr := steady_bitwiseOrRule _ (level version asyncReserved levels)
      factor := steady_factorRule _ (level version asyncReserved levels)
      primary := steady_primaryRule _ (level version asyncReserved levels) }

end Grammar

end AnnotatedMarkdown.Python
