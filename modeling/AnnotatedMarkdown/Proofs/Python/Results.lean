import AnnotatedMarkdown.Proofs.Python.Line.Statement

/-!
# Results of parsers

What a parser can yield, whatever it reads.

* `Produces` holds of a parser whose results all have a property.  It is a class, so that the
  instances follow the shape of a rule.
* No rule for a statement other than an expression yields an expression as a statement
  (`statement_cases`, `simpleStatement_cases`, `expressionStatement_cases`).
* An expression is not starred; only an element of a list can be (`isUnstarred_level`).
-/

namespace AnnotatedMarkdown.Python

namespace Parser

/-- All results of a parser have a property. -/
class Produces {α : Type} (Q : α → Prop) (p : Parser α) : Prop where
  result : ∀ ⦃ts a rest⦄, p ts = .ok (a, rest) → Q a

section

variable {α β : Type} {p p' : Parser α} {f : α → Parser β}

theorem bind_apply_eq_ok {ts rest : List Token} {b : β} :
    (p >>= f) ts = .ok (b, rest) ↔ ∃ a left, p ts = .ok (a, left) ∧ f a left = .ok (b, rest) := by
  constructor
  · intro h
    cases hp : p ts with
    | error e =>
      simp only [bind, hp] at h
      cases h
    | ok r =>
      rw [bind_of_ok hp] at h
      exact ⟨r.1, r.2, rfl, h⟩
  · rintro ⟨a, left, hp, hf⟩
    rw [bind_of_ok hp, hf]

theorem produces_bind {Q : α → Prop} {R : β → Prop} (hp : Produces Q p)
    (hf : ∀ a, Q a → Produces R (f a)) : Produces R (p >>= f) where
  result _ _ _ h := by
    obtain ⟨a, left, hp', hf'⟩ := bind_apply_eq_ok.1 h
    exact (hf a (hp.result hp')).result hf'

theorem produces_pure {Q : α → Prop} {a : α} (h : Q a) : Produces Q (pure a : Parser α) where
  result _ _ _ heq := by
    cases heq
    exact h

variable {Q : α → Prop} {R : β → Prop}

theorem produces_of_forall (hf : ∀ a, Produces R (f a)) : Produces R (p >>= f) :=
  produces_bind (Q := fun _ => True) ⟨fun _ _ _ _ => trivial⟩ fun a _ => hf a

instance [hf : ∀ a, Produces R (f a)] : Produces R (p >>= f) :=
  produces_of_forall hf

instance {q : α → Bool} {a : α} [h : Holds (q a)] : Produces (q · = true) (pure a : Parser α) :=
  produces_pure h.eq_true

instance : Produces Q (mismatch : Parser α) :=
  ⟨nofun⟩

instance : Produces Q (refuse : Parser α) :=
  ⟨nofun⟩

instance {c : Prop} [Decidable c] [hp : Produces Q p] [hp' : Produces Q p'] :
    Produces Q (if c then p else p') := by
  split
  · exact hp
  · exact hp'

theorem produces_fromOption {o : Option α} (h : ∀ a, o = some a → Q a) :
    Produces Q (fromOption o) := by
  cases o with
  | none => exact ⟨nofun⟩
  | some a => exact produces_pure (h a rfl)

instance [hp : Produces Q p] : Produces (fun as => ∀ a ∈ as, Q a) (many p) where
  result ts as rest h := by
    have hmany : ∀ times ts as rest, manyUpTo p times ts = .ok (as, rest) → ∀ a ∈ as, Q a := by
      intro times
      induction times with
      | zero =>
        rintro ts as rest ⟨⟩
        exact nofun
      | succ times ih =>
        intro ts as rest h
        simp only [manyUpTo] at h
        split at h
        · next hstep =>
          split at h
          · next hmore =>
            cases h
            exact List.forall_mem_cons.2 ⟨hp.result hstep, ih _ _ _ hmore⟩
          · cases h
        · cases h
          exact nofun
        · cases h
    exact hmany _ _ _ _ h

instance [hp : Produces Q p] : Produces (fun as => ∀ a ∈ as, Q a) (commaList p) :=
  produces_bind hp fun _ ha => produces_bind (Q := fun as => ∀ a ∈ as, Q a) inferInstance
    fun _ has => produces_pure (List.forall_mem_cons.2 ⟨ha, has⟩)

instance [hp : Produces Q p] : Produces (fun items => ∀ a ∈ items.1, Q a) (commaListTrailing p) :=
  produces_bind (Q := fun as => ∀ a ∈ as, Q a) inferInstance
    fun _ has => produces_of_forall fun _ => produces_pure has

theorem sees_eq_ok {x : Lexeme} {b : Bool} {ts rest : List Token} (h : sees x ts = .ok (b, rest)) :
    rest = ts := by
  cases h
  rfl

theorem maybe_eq_none {ts rest : List Token} (h : maybe p ts = .ok (none, rest)) : rest = ts := by
  rw [maybe, orElse] at h
  split at h
  · cases h
    rfl
  · obtain ⟨a, left, -, hnone⟩ := bind_apply_eq_ok.1 h
    cases hnone

end

end Parser

open AnnotatedMarkdown.Python.Parser

/-! ## Expressions that are not starred -/

/-- Whether an expression is not starred. -/
@[reducible] def Expr.isUnstarred : Expr → Bool
  | .starred _ => false
  | _ => true

/-- A grammar whose expressions are not starred. -/
class Grammar.IsUnstarred (g : Grammar) : Prop where
  expression : Produces (Expr.isUnstarred · = true) g.expression

namespace Grammar

attribute [instance] IsUnstarred.expression

theorem isUnstarred_foldl {first : Expr} (h : first.isUnstarred = true)
    (rest : List (BinaryOp × Expr)) :
    (rest.foldl (fun e (op, operand) => .binary e op operand) first).isUnstarred = true := by
  induction rest generalizing first with
  | nil => exact h
  | cons step rest ih => exact ih rfl

theorem produces_chain {operand : Parser Expr} {operator? : Lexeme → Option BinaryOp}
    (h : Produces (Expr.isUnstarred · = true) operand) :
    Produces (Expr.isUnstarred · = true) (chain operand operator?) :=
  produces_bind h fun _ hfirst => produces_of_forall
    fun _ => produces_pure (isUnstarred_foldl hfirst _)

variable (g : Grammar)

instance produces_yieldExpression : Produces (Expr.isUnstarred · = true) g.yieldExpression := by
  unfold yieldExpression
  infer_instance

instance produces_dictRest (first : DictItem) :
    Produces (Expr.isUnstarred · = true) (g.dictRest first) := by
  unfold dictRest
  infer_instance

instance produces_setRest (first : Expr) :
    Produces (Expr.isUnstarred · = true) (g.setRest first) := by
  unfold setRest
  infer_instance

instance produces_afterBracket : Produces (Expr.isUnstarred · = true) g.afterBracket := by
  unfold afterBracket
  infer_instance

instance produces_afterBrace : Produces (Expr.isUnstarred · = true) g.afterBrace := by
  unfold afterBrace
  refine produces_of_forall fun isEmpty => ?_
  split
  · infer_instance
  · refine produces_of_forall fun x => produces_of_forall fun y => ?_
    split <;> infer_instance

theorem isUnstarred_stringsExpr? {spellings : List (List Char)} {e : Expr}
    (h : g.stringsExpr? spellings = some e) : e.isUnstarred = true := by
  unfold stringsExpr? at h
  dsimp only at h
  split at h
  · obtain ⟨parts, -, rfl⟩ := Option.map_eq_some_iff.1 h
    rfl
  · split at h
    · cases h
    · split at h
      · cases h
      · obtain ⟨pieces, -, rfl⟩ := Option.map_eq_some_iff.1 h
        split <;> rfl

instance produces_strings : Produces (Expr.isUnstarred · = true) g.strings := by
  unfold strings
  refine produces_of_forall fun spellings => ?_
  split
  · next h => exact produces_pure (g.isUnstarred_stringsExpr? h)
  · infer_instance

variable [g.IsUnstarred]

instance produces_namedExpression : Produces (Expr.isUnstarred · = true) g.namedExpression := by
  unfold namedExpression
  refine produces_of_forall fun x => produces_of_forall fun y => ?_
  split <;> infer_instance

/-- An element in parentheses by itself is not starred. -/
instance produces_afterParenthesis : Produces (Expr.isUnstarred · = true) g.afterParenthesis := by
  have hrest : ∀ (isStarred : Bool) (first : Expr), (isStarred = false → first.isUnstarred = true) →
      Produces (Expr.isUnstarred · = true) (do
        if ← accept (.op .comma) then
          if ← accept (.op .rPar) then
            return .tuple [first]
          else
            let (more, _) ← commaListTrailing g.starNamedExpression
            op .rPar
            return .tuple (first :: more)
        else if isStarred then mismatch
        else if ← seesClause then
          let clauses ← g.clauses
          op .rPar
          return .generator first clauses
        else
          op .rPar
          return first) := by
    intro isStarred first hfirst
    cases isStarred with
    | true =>
      simp only [if_true]
      infer_instance
    | false =>
      have hholds : Holds first.isUnstarred := ⟨hfirst rfl⟩
      infer_instance
  unfold afterParenthesis
  refine produces_of_forall fun isEmpty => ?_
  split
  · infer_instance
  refine produces_of_forall fun isYield => ?_
  split
  · refine produces_bind (produces_yieldExpression g) fun e he => ?_
    have hholds : Holds e.isUnstarred := ⟨he⟩
    infer_instance
  refine ⟨fun ts e rest h => ?_⟩
  obtain ⟨isStarred, us, hstar, h⟩ := bind_apply_eq_ok.1 h
  obtain ⟨first, vs, hfirst, h⟩ := bind_apply_eq_ok.1 h
  refine (hrest isStarred first ?_).result h
  rintro rfl
  obtain rfl := sees_eq_ok hstar
  rw [starNamedExpression, bind_of_ok hstar, if_neg Bool.false_ne_true] at hfirst
  exact Produces.result (Q := (Expr.isUnstarred · = true)) hfirst

instance produces_atom : Produces (Expr.isUnstarred · = true) g.atom := by
  unfold atom
  refine produces_of_forall fun x => ?_
  split <;> infer_instance

/-- What follows a primary expression makes another one of it. -/
instance produces_trailer : Produces (fun t => ∀ e, (t e).isUnstarred = true) g.trailer where
  result ts t rest h := by
    rw [trailer] at h
    obtain ⟨x, us, hpeek, h⟩ := bind_apply_eq_ok.1 h
    split at h
    · obtain ⟨-, us, -, h⟩ := bind_apply_eq_ok.1 h
      obtain ⟨id, us, -, h⟩ := bind_apply_eq_ok.1 h
      cases h
      exact fun _ => rfl
    · obtain ⟨-, us, -, h⟩ := bind_apply_eq_ok.1 h
      obtain ⟨arguments, us, -, h⟩ := bind_apply_eq_ok.1 h
      cases h
      exact fun _ => rfl
    · obtain ⟨-, us, -, h⟩ := bind_apply_eq_ok.1 h
      obtain ⟨i, us, -, h⟩ := bind_apply_eq_ok.1 h
      obtain ⟨-, us, -, h⟩ := bind_apply_eq_ok.1 h
      cases h
      exact fun _ => rfl
    · cases h

instance produces_primaryRule : Produces (Expr.isUnstarred · = true) g.primaryRule := by
  have hfoldl : ∀ (trailers : List (Expr → Expr)) (e : Expr), e.isUnstarred = true →
      (∀ t ∈ trailers, ∀ e, (t e).isUnstarred = true) →
        (trailers.foldl (fun e t => t e) e).isUnstarred = true := by
    intro trailers
    induction trailers with
    | nil => exact fun _ he _ => he
    | cons t trailers ih =>
      exact fun e _ h => ih (t e) (h t List.mem_cons_self e) fun u hu => h u (List.mem_cons_of_mem t hu)
  exact produces_bind (produces_atom g) fun e he =>
    produces_bind (Q := fun ts => ∀ t ∈ ts, ∀ e, (t e).isUnstarred = true) inferInstance
      fun trailers htrailers => produces_pure (hfoldl trailers e he htrailers)

instance produces_awaited : Produces (Expr.isUnstarred · = true) g.awaited := by
  unfold awaited
  infer_instance

instance produces_power : Produces (Expr.isUnstarred · = true) g.power := by
  refine produces_bind (produces_awaited g) fun base hbase => ?_
  have hholds : Holds base.isUnstarred := ⟨hbase⟩
  refine produces_of_forall fun exponent => ?_
  split <;> infer_instance

instance produces_factorRule : Produces (Expr.isUnstarred · = true) g.factorRule := by
  unfold factorRule
  refine produces_of_forall fun x => ?_
  split <;> infer_instance

instance produces_term : Produces (Expr.isUnstarred · = true) g.term :=
  produces_bind (produces_factorRule g) fun _ hfirst =>
    produces_of_forall fun _ => produces_pure (isUnstarred_foldl hfirst _)

instance produces_bitwiseOrRule : Produces (Expr.isUnstarred · = true) g.bitwiseOrRule :=
  produces_chain (produces_chain (produces_chain (produces_chain (produces_chain (produces_term g)))))

/-- What repeats an operator, or not at all, is unstarred if its first operand is. -/
theorem produces_operands {α : Type} {p : Parser Expr} {more : Parser (List α)}
    {join : Expr → List α → Expr} (hp : Produces (Expr.isUnstarred · = true) p)
    (hjoin : ∀ e as, (join e as).isUnstarred = true) :
    Produces (Expr.isUnstarred · = true) (p >>= fun first => more >>= fun rest =>
      pure (if rest.isEmpty then first else join first rest)) := by
  refine produces_bind hp fun first hfirst => ?_
  refine produces_of_forall fun rest => produces_pure ?_
  split
  · exact hfirst
  · exact hjoin first rest

instance produces_comparison : Produces (Expr.isUnstarred · = true) g.comparison :=
  produces_operands (produces_bitwiseOrRule g) fun _ _ => rfl

instance produces_inversionRule : Produces (Expr.isUnstarred · = true) g.inversionRule := by
  unfold inversionRule
  infer_instance

instance produces_conjunction : Produces (Expr.isUnstarred · = true) g.conjunction :=
  produces_operands (produces_inversionRule g) fun _ _ => rfl

instance produces_disjunctionRule : Produces (Expr.isUnstarred · = true) g.disjunctionRule :=
  produces_operands (produces_conjunction g) fun _ _ => rfl

instance produces_lambda : Produces (Expr.isUnstarred · = true) g.lambda := by
  unfold lambda
  dsimp only
  infer_instance

instance produces_expressionRule : Produces (Expr.isUnstarred · = true) g.expressionRule := by
  have hdisjunction : Produces (Expr.isUnstarred · = true) (do
      let e ← g.disjunctionRule
      if ← accept (.word .if) then
        let test ← g.disjunction
        word .else
        return .conditional test e (← g.expression)
      else return e) := by
    refine produces_bind (produces_disjunctionRule g) fun e he => ?_
    have hholds : Holds e.isUnstarred := ⟨he⟩
    infer_instance
  unfold expressionRule
  infer_instance

/-- An expression list is a tuple, or its only element. -/
instance produces_expressions : Produces (Expr.isUnstarred · = true) g.expressions := by
  refine produces_bind (Q := fun items => ∀ e ∈ items.1, Expr.isUnstarred e = true) inferInstance
    fun (elements, trailing) h => produces_pure ?_
  match elements, trailing with
  | [], _ | [_], true | _ :: _ :: _, _ => rfl
  | [e], false => exact h e List.mem_cons_self

/-- No level of the grammar has starred expressions. -/
instance isUnstarred_level (version : Nat) (asyncReserved : Bool) (levels : Nat) :
    (level version asyncReserved levels).IsUnstarred := by
  induction levels with
  | zero => exact ⟨⟨nofun⟩⟩
  | succ levels ih => exact ⟨⟨(produces_expressionRule (level version asyncReserved levels)).result⟩⟩

end Grammar

/-! ## Statements that are no expressions -/

/-- Whether a statement is more than an expression. -/
@[reducible] def Stmt.isProper : Stmt → Bool
  | .expr _ => false
  | _ => true

namespace Grammar

theorem arrangeAssignment_isProper {first : Expr} {values : List Expr} {s : Stmt}
    (h : arrangeAssignment first values = some s) : s.isProper = true := by
  match values with
  | [] => cases h
  | [value] =>
    rw [arrangeAssignment] at h
    split at h <;> cases h
    rfl
  | e :: e' :: es =>
    rw [arrangeAssignment] at h
    · split at h
      · split at h <;> cases h
        rfl
      · cases h
    · exact nofun

variable (g : Grammar)

-- An instance grows with the rule that it is for.
set_option synthInstance.maxSize 4000

instance produces_annotatedRest (target : Expr) (isSimple : Bool) :
    Produces (Stmt.isProper · = true) (g.annotatedRest target isSimple) := by
  unfold annotatedRest
  infer_instance

instance produces_importFrom : Produces (Stmt.isProper · = true) importFrom := by
  unfold importFrom
  dsimp only
  infer_instance

instance produces_raise : Produces (Stmt.isProper · = true) g.raise := by
  unfold raise
  refine produces_of_forall fun _ => produces_of_forall fun e => ?_
  split <;> infer_instance

instance produces_delete : Produces (Stmt.isProper · = true) g.delete := by
  unfold delete
  dsimp only
  infer_instance

instance produces_functionDef (isAsync : Bool) (decorators : List Expr) :
    Produces (Stmt.isProper · = true) (g.functionDef isAsync decorators) := by
  unfold functionDef
  dsimp only
  infer_instance

instance produces_classDef (decorators : List Expr) :
    Produces (Stmt.isProper · = true) (g.classDef decorators) := by
  unfold classDef
  dsimp only
  infer_instance

instance produces_decorated : Produces (Stmt.isProper · = true) g.decorated := by
  unfold decorated
  refine produces_of_forall fun decorators => produces_of_forall fun x => ?_
  split <;> infer_instance

instance produces_conditional : Produces (Stmt.isProper · = true) g.conditional := by
  unfold conditional
  infer_instance

instance produces_forLoop (isAsync : Bool) : Produces (Stmt.isProper · = true) (g.forLoop isAsync) := by
  unfold forLoop
  dsimp only
  infer_instance

instance produces_withStatement (isAsync : Bool) :
    Produces (Stmt.isProper · = true) (g.withStatement isAsync) := by
  unfold withStatement
  dsimp only
  infer_instance

instance produces_tryStatement : Produces (Stmt.isProper · = true) g.tryStatement := by
  unfold tryStatement
  dsimp only
  infer_instance

instance produces_matchCases (subject : Expr) : Produces (Stmt.isProper · = true) (g.matchCases subject) := by
  unfold matchCases
  infer_instance

instance produces_asyncStatement : Produces (Stmt.isProper · = true) g.asyncStatement := by
  unfold asyncStatement
  refine produces_of_forall fun _ => produces_of_forall fun x => ?_
  split <;> infer_instance

/-! ## Where expressions as statements come from -/

instance {s : Stmt} [hs : Holds s.isProper] :
    Produces (List.any · Stmt.isProper = true) (pure [s] : Parser (List Stmt)) :=
  produces_pure (by rw [List.any_cons, hs.eq_true, Bool.true_or])

/-- A statement that is more than an expression, by itself. -/
instance {p : Parser Stmt} [hp : Produces (Stmt.isProper · = true) p] :
    Produces (List.any · Stmt.isProper = true) (p >>= fun s => pure [s]) :=
  produces_bind hp fun s hs => produces_pure (by rw [List.any_cons, hs, Bool.true_or])

variable {g} {ts rest : List Token}

/-- A statement that is no compound one is read with the others of its line. -/
theorem statement_cases {statements : List Stmt} (h : g.statement ts = .ok (statements, rest)) :
    g.simpleStatements ts = .ok (statements, rest) ∨ statements.any Stmt.isProper = true := by
  have hproper : ∀ {p : Parser (List Stmt)} (_ : Produces (List.any · Stmt.isProper = true) p),
      p ts = .ok (statements, rest) → statements.any Stmt.isProper = true :=
    fun hp h => hp.result h
  rw [statement] at h
  obtain ⟨x, left, hpeek, h⟩ := bind_apply_eq_ok.1 h
  cases hpeek
  generalize ts.head?.map Token.lexeme = x at h
  split at h
  iterate 9
    · exact Or.inr (hproper inferInstance h)
  · obtain ⟨head, left, hhead, hrest⟩ := bind_apply_eq_ok.1 h
    cases head with
    | some subject => exact Or.inr (Produces.result (Q := (List.any · Stmt.isProper = true)) hrest)
    | none => exact Or.inl (maybe_eq_none hhead ▸ hrest)

/-- A simple statement that starts with no word of its own is an expression or an assignment. -/
theorem simpleStatement_cases {s : Stmt} (h : g.simpleStatement ts = .ok (s, rest)) :
    g.expressionStatement ts = .ok (s, rest) ∨ s.isProper = true := by
  have hproper : ∀ {p : Parser Stmt} (_ : Produces (Stmt.isProper · = true) p),
      p ts = .ok (s, rest) → s.isProper = true :=
    fun hp h => hp.result h
  rw [simpleStatement] at h
  obtain ⟨x, left, hpeek, h⟩ := bind_apply_eq_ok.1 h
  cases hpeek
  generalize ts.head?.map Token.lexeme = x at h
  split at h
  iterate 11
    · exact Or.inr (hproper inferInstance h)
  · exact Or.inl h

/-- An expression as a statement is an expression list, unless it starts with `yield`. -/
theorem expressionStatement_cases {s : Stmt} (h : g.expressionStatement ts = .ok (s, rest)) :
    ts.head?.map Token.lexeme = some (.word .yield) ∨ s.isProper = true ∨
      ∃ e, s = .expr e ∧ g.starExpressions ts = .ok (e, rest) := by
  rw [expressionStatement] at h
  obtain ⟨x, left, hpeek, h⟩ := bind_apply_eq_ok.1 h
  cases hpeek
  obtain ⟨y, left, hpeek, h⟩ := bind_apply_eq_ok.1 h
  cases hpeek
  generalize hx : ts.head?.map Token.lexeme = x at h
  generalize (ts.drop 1).head?.map Token.lexeme = y at h
  split at h
  · exact Or.inr (Or.inl (Produces.result (Q := (Stmt.isProper · = true)) h))
  · exact Or.inl rfl
  · right
    obtain ⟨e, left, he, h⟩ := bind_apply_eq_ok.1 h
    obtain ⟨z, left, hpeek, h⟩ := bind_apply_eq_ok.1 h
    cases hpeek
    generalize left.head?.map Token.lexeme = z at h
    split at h
    · exact Or.inl (Produces.result (Q := (Stmt.isProper · = true)) h)
    · have hassign : Produces (Stmt.isProper · = true) (many1 (do op .equal; g.rightHandSide) >>= fun values =>
          fromOption (arrangeAssignment e values)) :=
        produces_of_forall fun values =>
          produces_fromOption fun _ => arrangeAssignment_isProper
      exact Or.inl (hassign.result h)
    · next x _ _ =>
      cases hoperator : augmentedOp? x with
      | some o =>
        rw [hoperator] at h
        exact Or.inl (Produces.result (Q := (Stmt.isProper · = true)) h)
      | none =>
        rw [hoperator] at h
        cases h
        exact Or.inr ⟨e, rfl, he⟩
    · cases h
      exact Or.inr ⟨e, rfl, he⟩

end Grammar

end AnnotatedMarkdown.Python
