import AnnotatedMarkdown.Proofs.Python.Line.Basic

/-!
# Expressions within a line

Every rule for expressions stays in its line, if the parsers of the constituents do.  The
instances follow the rules in their order.
-/

namespace AnnotatedMarkdown.Python

open AnnotatedMarkdown.Python.Parser

/-- A grammar whose constituents stay in their lines. -/
class Grammar.IsLocal (g : Grammar) : Prop where
  expression : Consuming g.expression
  disjunction : Consuming g.disjunction
  inversion : Consuming g.inversion
  bitwiseOr : Consuming g.bitwiseOr
  factor : Consuming g.factor
  primary : Consuming g.primary
  pattern : Consuming g.pattern

namespace Grammar

attribute [instance] IsLocal.expression IsLocal.disjunction IsLocal.inversion IsLocal.bitwiseOr
  IsLocal.factor IsLocal.primary IsLocal.pattern

variable (g : Grammar) [g.IsLocal]

-- An instance grows with the rule that it is for.
set_option synthInstance.maxSize 4000

omit [g.IsLocal] in
instance local_since (version : Nat) : Local (g.since version) := by
  unfold since
  infer_instance

/-! ## Expression lists -/

instance consuming_namedExpression : Consuming g.namedExpression := by
  unfold namedExpression
  refine consuming_peekPair ⟨fun _ => rfl, fun _ => ⟨rfl, rfl, rfl, rfl, rfl⟩, fun x => ?_⟩
    fun x y => ?_
  · cases x <;> exact ⟨rfl, rfl, rfl, rfl, rfl⟩
  · split <;> infer_instance

instance consuming_starred : Consuming g.starred := by
  unfold starred
  infer_instance

instance consuming_starNamedExpression : Consuming g.starNamedExpression := by
  unfold starNamedExpression
  infer_instance

instance consuming_starExpression : Consuming g.starExpression := by
  unfold starExpression
  infer_instance

instance consuming_starExpressions : Consuming g.starExpressions := by
  unfold starExpressions
  infer_instance

instance consuming_expressions : Consuming g.expressions := by
  unfold expressions
  infer_instance

instance consuming_yieldExpression : Consuming g.yieldExpression := by
  unfold yieldExpression
  infer_instance

instance consuming_rightHandSide : Consuming g.rightHandSide := by
  unfold rightHandSide
  infer_instance

/-! ## Targets and comprehensions -/

instance consuming_starTarget : Consuming g.starTarget := by
  unfold starTarget
  infer_instance

instance consuming_starTargets : Consuming g.starTargets := by
  unfold starTargets
  infer_instance

instance consuming_clause : Consuming g.clause := by
  unfold clause
  dsimp only
  infer_instance

instance consuming_clauses : Consuming g.clauses := by
  unfold clauses
  infer_instance

omit [g.IsLocal] in
instance local_seesClause : Local seesClause := by
  unfold seesClause
  have hsecond : ∀ x : Option Lexeme, Local (peek >>= fun y =>
      pure (x == some (.word .for) || y == some (.word .async))) :=
    fun x => local_peek ⟨rfl, rfl, rfl, rfl, rfl⟩ fun y => inferInstance
  exact local_peek ⟨rfl, rfl, rfl, rfl, rfl⟩ fun x => inferInstance

/-! ## Parameters -/

instance local_hint (typed : Bool) : Local (g.hint typed) := by
  unfold hint
  infer_instance

instance local_starHint (typed : Bool) : Local (g.starHint typed) := by
  unfold starHint
  infer_instance

instance consuming_parameterItem (typed : Bool) : Consuming (g.parameterItem typed) := by
  unfold parameterItem
  refine consuming_peek ⟨rfl, rfl, rfl, rfl, rfl⟩ fun x => ?_
  split
  · infer_instance
  · have hstar : Local (peek >>= fun y : Option Lexeme =>
        match y with
        | some (.name _) => do
          let id ← name
          return ParameterItem.star (some (id, ← g.starHint typed))
        | _ => return .star none) := by
      refine local_peek ⟨rfl, rfl, rfl, rfl, rfl⟩ fun y => ?_
      split <;> infer_instance
    infer_instance
  · infer_instance
  · infer_instance

instance consuming_parameters (typed : Bool) : Consuming (g.parameters typed) := by
  unfold parameters
  infer_instance

instance consuming_lambda : Consuming g.lambda := by
  unfold lambda
  dsimp only
  infer_instance

/-! ## Atoms -/

instance consuming_stringSpelling : Consuming stringSpelling where
  reads := by
    refine readsLine_one (fun
      | .string spelling => some spelling
      | _ => none) rfl (fun x n ts => ?_) (fun x hx => ?_) fun x hx => ?_
    · cases x <;> rfl
    · rcases Lexeme.cases_of_not_isInner hx with rfl | rfl | rfl | rfl | rfl <;> rfl
    · cases x with
      | string spelling =>
        have hcolon : Lexeme.string spelling ≠ .op .colon := nofun
        exact ⟨nofun, isWhole_cons hcolon isWhole_nil⟩
      | _ => cases hx

instance consuming_strings : Consuming g.strings := by
  unfold strings
  have hvalue : ∀ spellings, Local (match g.stringsExpr? spellings with
      | some e => pure e
      | none => refuse : Parser Expr) := by
    intro spellings
    split <;> infer_instance
  infer_instance

omit [g.IsLocal] in
instance consuming_number : Consuming g.number := by
  unfold number
  refine consuming_peek ⟨rfl, rfl, rfl, rfl, rfl⟩ fun x => ?_
  split
  · next spelling =>
    have hvalue : Local (match numberConstant? spelling with
        | some c => pure c
        | none => refuse : Parser Constant) := by
      split <;> infer_instance
    dsimp only
    infer_instance
  · infer_instance

instance local_afterParenthesis : Local g.afterParenthesis := by
  unfold afterParenthesis
  infer_instance

instance local_afterBracket : Local g.afterBracket := by
  unfold afterBracket
  infer_instance

instance consuming_dictItem : Consuming g.dictItem := by
  unfold dictItem
  infer_instance

instance consuming_setRest (first : Expr) : Consuming (g.setRest first) := by
  unfold setRest
  infer_instance

instance consuming_dictRest (first : DictItem) : Consuming (g.dictRest first) := by
  unfold dictRest
  infer_instance

instance local_afterBrace : Local g.afterBrace := by
  unfold afterBrace
  have hpair : ∀ first : Expr, Local (accept (.op .colon) >>= fun isPair =>
      if isPair then do
        let value ← g.expression
        if ← seesClause then
          let clauses ← g.clauses
          op .rBrace
          return Expr.dictComp first value clauses
        else g.dictRest (.pair first value)
      else do
        if ← seesClause then
          let clauses ← g.clauses
          op .rBrace
          return .setComp first clauses
        else g.setRest first) := by
    intro first
    refine local_accept_colon ?_ ?_
    · rw [if_pos rfl]
      infer_instance
    · rw [if_neg Bool.false_ne_true]
      infer_instance
  have hfirst : Local (peek >>= fun x => peekSecond >>= fun y =>
      match x, y with
      | some (.op .doubleStar), _ => do g.dictRest (← g.dictItem)
      | some (.op .star), _ => do g.setRest (← g.starred)
      | some (.name _), some (.op .colonEqual) => do
        let first ← g.namedExpression
        if ← seesClause then
          let clauses ← g.clauses
          op .rBrace
          return .setComp first clauses
        else g.setRest first
      | _, _ => do
        let first ← g.expression
        if ← accept (.op .colon) then
          let value ← g.expression
          if ← seesClause then
            let clauses ← g.clauses
            op .rBrace
            return .dictComp first value clauses
          else g.dictRest (.pair first value)
        else if ← seesClause then
          let clauses ← g.clauses
          op .rBrace
          return .setComp first clauses
        else g.setRest first) := by
    refine local_peekPair ⟨fun _ => rfl, fun _ => ⟨rfl, rfl, rfl, rfl, rfl⟩, fun x => ?_⟩
      fun x y => ?_
    · cases x with
      | op o => cases o <;> exact ⟨rfl, rfl, rfl, rfl, rfl⟩
      | _ => exact ⟨rfl, rfl, rfl, rfl, rfl⟩
    · split <;> infer_instance
  infer_instance

instance consuming_atom : Consuming g.atom := by
  unfold atom
  refine consuming_peek ⟨rfl, rfl, rfl, rfl, rfl⟩ fun x => ?_
  split <;> infer_instance

/-! ## Calls and subscripts -/

instance consuming_argument : Consuming g.argument := by
  unfold argument
  refine consuming_peekPair ⟨fun _ => rfl, fun _ => ⟨rfl, rfl, rfl, rfl, rfl⟩, fun x => ?_⟩
    fun x y => ?_
  · cases x with
    | op o => cases o <;> exact ⟨rfl, rfl, rfl, rfl, rfl⟩
    | _ => exact ⟨rfl, rfl, rfl, rfl, rfl⟩
  · split
    · cases y <;> infer_instance
    · cases y <;> infer_instance
    · infer_instance
    · infer_instance

instance consuming_argumentsRest (first : ArgumentItem) : Consuming (g.argumentsRest first) := by
  unfold argumentsRest
  infer_instance

instance local_arguments : Local g.arguments := by
  unfold arguments
  infer_instance

instance local_callArguments : Local g.callArguments := by
  unfold callArguments
  have hfirst : ∀ first, Local (match first with
      | ArgumentItem.positional element => do
        if ← seesClause then
          let clauses ← g.clauses
          op .rPar
          return ([Expr.generator element clauses], [])
        else g.argumentsRest (.positional element)
      | first => g.argumentsRest first) := by
    intro first
    split <;> infer_instance
  infer_instance

instance local_slicePart : Local g.slicePart := by
  unfold slicePart
  infer_instance

/-- A slice may end in a colon. -/
theorem readsLine_sliceRest (lower : Option Expr) : ReadsLine Anything [] (g.sliceRest lower) := by
  have hpart : ReadsLine Anything [] g.slicePart :=
    (local_slicePart g).reads.mono fun _ _ => trivial
  have hvalue : ∀ e : Expr, ReadsLine Anything [] (pure e : Parser Expr) :=
    fun e => readsLine_pure e trivial
  refine readsLine_bind (Q := Anything) hpart (fun upper => ?_) fun _ _ => trivial
  refine readsLine_accept_bind (Q := Anything) rfl ?_ ?_ fun _ => trivial
  · exact readsLine_bind (Q := Anything) hpart (fun _ => hvalue _) fun _ _ => trivial
  · exact hvalue _

theorem readsLine_index : ReadsLine (· ≠ []) [] g.index := by
  have hconsuming : ∀ {front : List Lexeme} {p : Parser Expr}, Consuming p →
      ReadsLine (· ≠ []) front p :=
    fun hp => hp.reads.anywhere.mono fun _ htaken => htaken.1
  unfold index
  refine readsLine_peekPair ⟨fun _ => rfl, fun _ => ⟨rfl, rfl, rfl, rfl, rfl⟩, fun x => ?_⟩
    fun x y => ?_
  · cases x with
    | op o => cases o <;> exact ⟨rfl, rfl, rfl, rfl, rfl⟩
    | _ => exact ⟨rfl, rfl, rfl, rfl, rfl⟩
  · split
    · have hrest := g.readsLine_sliceRest none
      cases y <;> exact readsLine_advance_bind hrest.anywhere fun _ => nofun
    · have hrest : ReadsLine Anything [] (do return Expr.starred (← g.expression)) :=
        readsLine_bind (Q := Anything) (hconsuming inferInstance)
          (fun _ => readsLine_pure _ trivial) fun _ _ => trivial
      cases y <;> exact readsLine_advance_bind hrest.anywhere fun _ => nofun
    · exact hconsuming inferInstance
    · refine readsLine_bind (Q := Anything) (hconsuming inferInstance) (fun e => ?_)
        fun hs _ => List.append_ne_nil_of_left_ne_nil hs _
      exact readsLine_accept_bind (Q := Anything) rfl (g.readsLine_sliceRest (some e))
        (readsLine_pure e trivial) fun _ => trivial

theorem readsLine_indices : ReadsLine Anything [] g.indices := by
  have hmore : ReadsLine (· ≠ []) [] (do op .comma; g.index) :=
    readsLine_bind (P := (· ≠ [])) (readsLine_expect rfl (by nofun)) (fun _ => g.readsLine_index)
      fun hs _ => List.append_ne_nil_of_left_ne_nil hs _
  have hlist : ReadsLine Anything [] (commaList g.index) := by
    refine readsLine_bind (Q := Anything) g.readsLine_index (fun first => ?_) fun _ _ => trivial
    exact readsLine_bind (P := Anything) (Q := Anything)
      (readsLine_many hmore id trivial fun _ _ => trivial) (fun _ => readsLine_pure _ trivial)
      fun _ _ => trivial
  have haccept : Local (accept (.op .comma)) :=
    inferInstance
  have htrailing : ReadsLine Anything [] (accept (.op .comma)) :=
    haccept.reads.mono fun _ _ => trivial
  have hboth : ReadsLine Anything [] (commaListTrailing g.index) := by
    refine readsLine_bind (Q := Anything) hlist (fun items => ?_) fun _ _ => trivial
    exact readsLine_bind (Q := Anything) htrailing (fun _ => readsLine_pure _ trivial)
      fun _ _ => trivial
  refine readsLine_bind (Q := Anything) hboth (fun (items, trailing) => ?_) fun _ _ => trivial
  dsimp only
  split <;> exact readsLine_pure _ trivial

instance consuming_trailer : Consuming g.trailer := by
  -- The bracket after the indices is no colon, whatever they end in.
  have hindices : Consuming (g.indices >>= fun i => op .rSqb >>= fun _ =>
      pure fun e : Expr => Expr.subscript e i) := by
    have hbracket : ∀ i, Consuming (op .rSqb >>= fun _ => pure fun e : Expr => Expr.subscript e i) :=
      inferInstance
    exact ⟨readsLine_bind g.readsLine_indices (fun i => (hbracket i).reads) fun {s _} _ ht =>
      ⟨List.append_ne_nil_of_right_ne_nil s ht.1, ht.2.append_left ht.1 s⟩⟩
  unfold trailer
  refine consuming_peek ⟨rfl, rfl, rfl, rfl, rfl⟩ fun x => ?_
  split <;> infer_instance

instance consuming_primaryRule : Consuming g.primaryRule := by
  unfold primaryRule
  infer_instance

/-! ## Operators -/

/-- An operator with its right operand, from the operator in front if there is one. -/
def operation (p : Parser Expr) : Option BinaryOp → Parser (BinaryOp × Expr)
  | some o => do
    advance
    return (o, ← p)
  | none => mismatch

/-- Operations from the left to the right. -/
def operations (first : Expr) (rest : List (BinaryOp × Expr)) : Expr :=
  rest.foldl (fun e (o, operand) => .binary e o operand) first

omit [g.IsLocal] in
theorem consuming_chain {operator? : Lexeme → Option BinaryOp}
    (hends : IgnoresEnd (Option.bind · operator?)) (p : Parser Expr) [Consuming p] :
    Consuming (chain p operator?) := by
  unfold chain
  have hstep : Consuming (peek >>= fun x => operation p (x.bind operator?)) := by
    refine consuming_peek (hends.comp (operation p)) fun x => ?_
    cases x with
    | none => exact inferInstanceAs (Consuming mismatch)
    | some x =>
      rw [Option.bind_some]
      cases operator? x <;> dsimp only [operation] <;> infer_instance
  exact inferInstanceAs (Consuming (p >>= fun first =>
    many (peek >>= fun x => operation p (x.bind operator?)) >>= fun rest =>
      pure (operations first rest)))

instance consuming_awaited : Consuming g.awaited := by
  unfold awaited
  infer_instance

instance consuming_power : Consuming g.power := by
  unfold power
  have hvalue : ∀ (base : Expr) (exponent : Option Expr), Local (match exponent with
      | some exponent => pure (.binary base .pow exponent)
      | none => pure base : Parser Expr) := by
    intro base exponent
    split <;> infer_instance
  infer_instance

instance consuming_factorRule : Consuming g.factorRule := by
  unfold factorRule
  refine consuming_peek ⟨rfl, rfl, rfl, rfl, rfl⟩ fun x => ?_
  split <;> infer_instance

instance consuming_term : Consuming g.term := by
  have hstep : Consuming (peek >>= fun x =>
      match x with
      | some (.op .star) => term.step g .mult
      | some (.op .slash) => term.step g .div
      | some (.op .doubleSlash) => term.step g .floorDiv
      | some (.op .percent) => term.step g .mod
      | some (.op .at) => do
        let s ← term.step g .matMult
        g.since 5
        return s
      | _ => mismatch) := by
    unfold term.step
    refine consuming_peek ⟨rfl, rfl, rfl, rfl, rfl⟩ fun x => ?_
    split <;> infer_instance
  unfold term
  infer_instance

instance consuming_sum : Consuming g.sum :=
  consuming_chain ⟨rfl, rfl, rfl, rfl, rfl⟩ _

instance consuming_shift : Consuming g.shift :=
  consuming_chain ⟨rfl, rfl, rfl, rfl, rfl⟩ _

instance consuming_bitwiseAnd : Consuming g.bitwiseAnd :=
  consuming_chain ⟨rfl, rfl, rfl, rfl, rfl⟩ _

instance consuming_bitwiseXor : Consuming g.bitwiseXor :=
  consuming_chain ⟨rfl, rfl, rfl, rfl, rfl⟩ _

instance consuming_bitwiseOrRule : Consuming g.bitwiseOrRule :=
  consuming_chain ⟨rfl, rfl, rfl, rfl, rfl⟩ _

omit [g.IsLocal] in
instance consuming_compareOp : Consuming compareOp := by
  unfold compareOp
  refine consuming_peek ⟨rfl, rfl, rfl, rfl, rfl⟩ fun x => ?_
  unfold compareOp.single
  split <;> infer_instance

instance consuming_comparison : Consuming g.comparison := by
  unfold comparison
  infer_instance

instance consuming_inversionRule : Consuming g.inversionRule := by
  unfold inversionRule
  infer_instance

instance consuming_conjunction : Consuming g.conjunction := by
  unfold conjunction
  infer_instance

instance consuming_disjunctionRule : Consuming g.disjunctionRule := by
  unfold disjunctionRule
  infer_instance

instance consuming_expressionRule : Consuming g.expressionRule := by
  unfold expressionRule
  infer_instance

end Grammar

end AnnotatedMarkdown.Python
