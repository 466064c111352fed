import AnnotatedMarkdown.Proofs.Python.Parsing
import AnnotatedMarkdown.Proofs.Python.Version.Basic

/-!
# Expressions of a stricter grammar

Every rule for expressions restricts the same rule of a grammar that is less strict.  The lemmas
follow the rules in their order.
-/

namespace AnnotatedMarkdown.Python.Grammar

open AnnotatedMarkdown.Python.Parser

variable {g h : Grammar} {allowed : List Char → Prop} (hg : g.IsStricter allowed h)

include hg

/-! ## Expression lists -/

@[gcongr] theorem restricts_namedExpression :
    g.namedExpression.Restricts allowed h.namedExpression := by
  unfold namedExpression
  gcongr
  split <;> gcongr

@[gcongr] theorem restricts_starred : g.starred.Restricts allowed h.starred := by
  unfold starred
  gcongr

@[gcongr] theorem restricts_starNamedExpression :
    g.starNamedExpression.Restricts allowed h.starNamedExpression := by
  unfold starNamedExpression
  gcongr

@[gcongr] theorem restricts_starExpression : g.starExpression.Restricts allowed h.starExpression := by
  unfold starExpression
  gcongr

@[gcongr] theorem restricts_starExpressions : g.starExpressions.Restricts allowed h.starExpressions := by
  unfold starExpressions
  gcongr

@[gcongr] theorem restricts_expressions : g.expressions.Restricts allowed h.expressions := by
  unfold expressions
  gcongr

@[gcongr] theorem restricts_yieldExpression : g.yieldExpression.Restricts allowed h.yieldExpression := by
  unfold yieldExpression
  gcongr

@[gcongr] theorem restricts_rightHandSide : g.rightHandSide.Restricts allowed h.rightHandSide := by
  unfold rightHandSide
  gcongr

/-! ## Targets and comprehensions -/

@[gcongr] theorem restricts_starTarget : g.starTarget.Restricts allowed h.starTarget := by
  unfold starTarget
  gcongr

@[gcongr] theorem restricts_starTargets : g.starTargets.Restricts allowed h.starTargets := by
  unfold starTargets
  gcongr

@[gcongr] theorem restricts_clause : g.clause.Restricts allowed h.clause := by
  unfold clause
  gcongr
  dsimp only
  gcongr

@[gcongr] theorem restricts_clauses : g.clauses.Restricts allowed h.clauses := by
  unfold clauses
  gcongr

omit hg in
instance trims_seesClause : Trims seesClause := by
  unfold seesClause
  infer_instance

/-! ## Parameters -/

@[gcongr] theorem restricts_hint (typed : Bool) : (g.hint typed).Restricts allowed (h.hint typed) := by
  unfold hint
  gcongr

@[gcongr] theorem restricts_starHint (typed : Bool) :
    (g.starHint typed).Restricts allowed (h.starHint typed) := by
  unfold starHint
  gcongr

@[gcongr] theorem restricts_parameterItem (typed : Bool) :
    (g.parameterItem typed).Restricts allowed (h.parameterItem typed) := by
  unfold parameterItem
  gcongr
  split
  · gcongr
  · gcongr
    split <;> gcongr
  · gcongr
  · gcongr

@[gcongr] theorem restricts_parameters (typed : Bool) :
    (g.parameters typed).Restricts allowed (h.parameters typed) := by
  unfold parameters
  gcongr

@[gcongr] theorem restricts_lambda : g.lambda.Restricts allowed h.lambda := by
  unfold lambda
  gcongr
  dsimp only
  gcongr

/-! ## Atoms -/

/-- Strings that are read in a stricter grammar are read the same in the other one, if all of their
replacement fields are allowed. -/
theorem stringsExpr?_eq_some {spellings : List (List Char)} {e : Expr}
    (hfields : ∀ spelling ∈ spellings, ∀ cs,
      (StringToken.ofSpelling spelling).HasField cs → allowed cs)
    (he : g.stringsExpr? spellings = some e) : h.stringsExpr? spellings = some e := by
  unfold stringsExpr? at he ⊢
  dsimp only at he ⊢
  split at he
  · rename_i hbytes
    rw [if_pos hbytes]
    exact he
  · rename_i hbytes
    rw [if_neg hbytes]
    split at he
    · cases he
    · rename_i hmixed
      rw [if_neg hmixed]
      split at he
      · cases he
      · rename_i hformat
        have hversion : ¬ (decide (h.version < 6) &&
            (spellings.map StringToken.ofSpelling).any StringToken.isFormat) = true := by
          simp only [Bool.and_eq_true, decide_eq_true_eq] at hformat ⊢
          exact fun hold => hformat ⟨Nat.lt_of_le_of_lt hg.version hold.1, hold.2⟩
        rw [if_neg hversion]
        obtain ⟨pieces, hpieces, rfl⟩ := Option.map_eq_some_iff.1 he
        refine Option.map_eq_some_iff.2 ⟨pieces, mapM_eq_some_of_imp ?_ hpieces, rfl⟩
        intro t ht parts hparts
        obtain ⟨spelling, hspelling, rfl⟩ := List.mem_map.1 ht
        split at hparts
        · rename_i hformat
          rw [if_pos hformat]
          have hembedded : ∀ cs e, IsField (StringToken.ofSpelling spelling).body cs →
              g.embedded cs = some e → h.embedded cs = some e :=
            fun cs e hfield => hg.embedded cs e (hfields spelling hspelling cs ⟨hformat, hfield⟩)
          refine within_toOption (within_formatPieces hembedded ?_) hparts
          simp only [decide_eq_true_eq]
          exact fun hnew => Nat.le_trans hnew hg.version
        · rename_i hplain
          rw [if_neg hplain]
          exact hparts

omit hg in
theorem stringSpelling_eq_ok {tokens rest : List Token} {spelling : List Char}
    (hread : stringSpelling tokens = .ok (spelling, rest)) :
    ∃ n, tokens = ⟨.string spelling, n⟩ :: rest := by
  unfold stringSpelling at hread
  split at hread <;> cases hread
  exact ⟨_, rfl⟩

omit hg in
/-- A row of strings consists of strings among the tokens. -/
theorem exists_of_mem_many1 {tokens rest : List Token} {spellings : List (List Char)}
    (hrow : many1 stringSpelling tokens = .ok (spellings, rest)) :
    ∀ spelling ∈ spellings, ∃ t ∈ tokens, t.lexeme = .string spelling := by
  cases hfirst : stringSpelling tokens with
  | error e =>
    rw [many1, bind_apply, hfirst] at hrow
    cases hrow
  | ok r =>
    obtain ⟨n, rfl⟩ := stringSpelling_eq_ok hfirst
    rw [many1_stringSpelling] at hrow
    cases hrow
    exact fun spelling hspelling => exists_of_mem_frontRow hspelling

instance : Trims stringSpelling where
  suffix hread := by
    obtain ⟨n, rfl⟩ := stringSpelling_eq_ok hread
    exact List.suffix_cons _ _

@[gcongr] theorem restricts_strings : g.strings.Restricts allowed h.strings := by
  have htrims : Trims h.strings := by
    unfold strings
    refine .bind inferInstance fun spellings => ?_
    split <;> infer_instance
  refine ⟨htrims, fun {tokens} htokens => ?_⟩
  unfold strings
  rw [bind_apply, bind_apply]
  cases hrow : many1 stringSpelling tokens with
  | error e => exact Or.inl rfl
  | ok r =>
    obtain ⟨spellings, rest⟩ := r
    have hfields : ∀ spelling ∈ spellings, ∀ cs,
        (StringToken.ofSpelling spelling).HasField cs → allowed cs := by
      intro spelling hspelling
      obtain ⟨t, ht, heq⟩ := exists_of_mem_many1 hrow spelling hspelling
      exact htokens t ht spelling heq
    dsimp only
    cases he : g.stringsExpr? spellings with
    | none => exact Or.inr rfl
    | some e =>
      rw [stringsExpr?_eq_some hg hfields he]
      exact Or.inl rfl

@[gcongr] theorem restricts_number : g.number.Restricts allowed h.number := by
  unfold number
  gcongr
  split
  · gcongr
    dsimp only
    gcongr <;> split <;> rfl
  · rfl

@[gcongr] theorem restricts_afterParenthesis : g.afterParenthesis.Restricts allowed h.afterParenthesis := by
  unfold afterParenthesis
  gcongr

@[gcongr] theorem restricts_afterBracket : g.afterBracket.Restricts allowed h.afterBracket := by
  unfold afterBracket
  gcongr

@[gcongr] theorem restricts_dictItem : g.dictItem.Restricts allowed h.dictItem := by
  unfold dictItem
  gcongr

@[gcongr] theorem restricts_setRest (first : Expr) : (g.setRest first).Restricts allowed (h.setRest first) := by
  unfold setRest
  gcongr

@[gcongr] theorem restricts_dictRest (first : DictItem) :
    (g.dictRest first).Restricts allowed (h.dictRest first) := by
  unfold dictRest
  gcongr

@[gcongr] theorem restricts_afterBrace : g.afterBrace.Restricts allowed h.afterBrace := by
  unfold afterBrace
  gcongr
  split <;> gcongr

@[gcongr] theorem restricts_atom : g.atom.Restricts allowed h.atom := by
  unfold atom
  gcongr
  split <;> gcongr

/-! ## Calls and subscripts -/

@[gcongr] theorem restricts_argument : g.argument.Restricts allowed h.argument := by
  unfold argument
  gcongr
  split <;> gcongr

@[gcongr] theorem restricts_argumentsRest (first : ArgumentItem) :
    (g.argumentsRest first).Restricts allowed (h.argumentsRest first) := by
  unfold argumentsRest
  gcongr

@[gcongr] theorem restricts_arguments : g.arguments.Restricts allowed h.arguments := by
  unfold arguments
  gcongr

@[gcongr] theorem restricts_callArguments : g.callArguments.Restricts allowed h.callArguments := by
  unfold callArguments
  gcongr
  split <;> gcongr

@[gcongr] theorem restricts_slicePart : g.slicePart.Restricts allowed h.slicePart := by
  unfold slicePart
  gcongr

@[gcongr] theorem restricts_sliceRest (lower : Option Expr) :
    (g.sliceRest lower).Restricts allowed (h.sliceRest lower) := by
  unfold sliceRest
  gcongr
  dsimp only
  gcongr

@[gcongr] theorem restricts_index : g.index.Restricts allowed h.index := by
  unfold index
  gcongr
  split <;> gcongr

@[gcongr] theorem restricts_indices : g.indices.Restricts allowed h.indices := by
  unfold indices
  gcongr
  dsimp only
  split <;> rfl

@[gcongr] theorem restricts_trailer : g.trailer.Restricts allowed h.trailer := by
  unfold trailer
  gcongr
  split <;> gcongr

@[gcongr] theorem restricts_primaryRule : g.primaryRule.Restricts allowed h.primaryRule := by
  unfold primaryRule
  gcongr

/-! ## Operators -/

omit hg in
@[gcongr] theorem restricts_chain {p q : Parser Expr} (hp : p.Restricts allowed q)
    (operator? : Lexeme → Option BinaryOp) : (chain p operator?).Restricts allowed (chain q operator?) := by
  unfold chain
  gcongr
  split <;> gcongr

@[gcongr] theorem restricts_awaited : g.awaited.Restricts allowed h.awaited := by
  unfold awaited
  gcongr

@[gcongr] theorem restricts_power : g.power.Restricts allowed h.power := by
  unfold power
  gcongr
  split <;> rfl

@[gcongr] theorem restricts_factorRule : g.factorRule.Restricts allowed h.factorRule := by
  unfold factorRule
  gcongr
  split <;> gcongr

@[gcongr] theorem restricts_term_step (op : BinaryOp) : (term.step g op).Restricts allowed (term.step h op) := by
  unfold term.step
  gcongr

@[gcongr] theorem restricts_term : g.term.Restricts allowed h.term := by
  unfold term
  gcongr
  split <;> gcongr

@[gcongr] theorem restricts_sum : g.sum.Restricts allowed h.sum := by
  unfold sum
  gcongr

@[gcongr] theorem restricts_shift : g.shift.Restricts allowed h.shift := by
  unfold shift
  gcongr

@[gcongr] theorem restricts_bitwiseAnd : g.bitwiseAnd.Restricts allowed h.bitwiseAnd := by
  unfold bitwiseAnd
  gcongr

@[gcongr] theorem restricts_bitwiseXor : g.bitwiseXor.Restricts allowed h.bitwiseXor := by
  unfold bitwiseXor
  gcongr

@[gcongr] theorem restricts_bitwiseOrRule : g.bitwiseOrRule.Restricts allowed h.bitwiseOrRule := by
  unfold bitwiseOrRule
  gcongr

omit hg in
instance trims_compareOp : Trims compareOp := by
  unfold compareOp compareOp.single
  refine .bind inferInstance fun x => ?_
  split <;> infer_instance

@[gcongr] theorem restricts_comparison : g.comparison.Restricts allowed h.comparison := by
  unfold comparison
  gcongr

@[gcongr] theorem restricts_inversionRule : g.inversionRule.Restricts allowed h.inversionRule := by
  unfold inversionRule
  gcongr

@[gcongr] theorem restricts_conjunction : g.conjunction.Restricts allowed h.conjunction := by
  unfold conjunction
  gcongr

@[gcongr] theorem restricts_disjunctionRule : g.disjunctionRule.Restricts allowed h.disjunctionRule := by
  unfold disjunctionRule
  gcongr

@[gcongr] theorem restricts_expressionRule : g.expressionRule.Restricts allowed h.expressionRule := by
  unfold expressionRule
  gcongr

end AnnotatedMarkdown.Python.Grammar
