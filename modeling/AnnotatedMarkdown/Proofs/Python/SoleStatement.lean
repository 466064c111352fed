import AnnotatedMarkdown.Proofs.Python.Refusal
import AnnotatedMarkdown.Proofs.Python.Results

/-!
# Expressions as statements

A line that is one expression list is a statement of a module, and the only statement of a line
is an expression list unless it is more than an expression (`module_of_expressions`,
`starExpressions_of_module`).  The lists of a module may have starred elements;
`commaListTrailing_starExpression` and `commaListTrailing_expression` compare them with those that
may not.
-/

namespace AnnotatedMarkdown.Python

open AnnotatedMarkdown.Python.Parser

/-! ## Lists read in two ways -/

namespace Parser

variable {α : Type} {p q : Parser α} {ts rest : List Token}

/-- Parsers that take the same each time, and stop at the same place, repeat alike. -/
theorem manyUpTo_congr {times : Nat} {as : List α} (h : manyUpTo p times ts = .ok (as, rest))
    (hstep : ∀ us a vs, a ∈ as → p us = .ok (a, vs) → q us = .ok (a, vs))
    (hstop : p rest = .error .mismatch → q rest = .error .mismatch) :
    manyUpTo q times ts = .ok (as, rest) := by
  induction times generalizing ts as with
  | zero => exact h
  | succ times ih =>
    simp only [manyUpTo] at h ⊢
    cases hp : p ts with
    | error e =>
      rw [hp] at h
      cases e with
      | mismatch =>
        cases h
        rw [hstop hp]
      | refused => cases h
    | ok r =>
      rw [hp] at h
      dsimp only at h
      split at h
      · next more us hmore =>
        cases h
        rw [hstep ts _ _ List.mem_cons_self hp]
        dsimp only
        rw [ih hmore fun us a vs ha => hstep us a vs (List.mem_cons_of_mem _ ha)]
      · cases h

theorem many_cases {as : List α} (h : many p ts = .ok (as, rest)) :
    as = [] ∧ rest = ts ∨ ∃ a more us, as = a :: more ∧ p ts = .ok (a, us) := by
  simp only [many, manyUpTo] at h
  split at h
  · next a us hstep =>
    split at h
    · cases h
      exact Or.inr ⟨a, _, us, rfl, hstep⟩
    · cases h
  · cases h
    exact Or.inl ⟨rfl, rfl⟩
  · cases h

/-- After the last element of a list, only the place behind a comma can tell its readings apart. -/
theorem commaListTrailing_congr {as : List α} {trailing : Bool}
    (h : commaListTrailing p ts = .ok ((as, trailing), rest))
    (hstep : ∀ us a vs, a ∈ as → p us = .ok (a, vs) → q us = .ok (a, vs))
    (hstop : p rest = .error .mismatch → q rest = .error .mismatch) :
    commaListTrailing q ts = .ok ((as, trailing), rest) := by
  obtain ⟨as, vs, hlist, h⟩ := bind_apply_eq_ok.1 h
  obtain ⟨trailing, ws, htrailing, h⟩ := bind_apply_eq_ok.1 h
  cases h
  obtain ⟨first, us, hfirst, hlist⟩ := bind_apply_eq_ok.1 hlist
  obtain ⟨more, ws, hmore, hlist⟩ := bind_apply_eq_ok.1 hlist
  cases hlist
  have hcommas : many (do op .comma; q) us = .ok (more, vs) := by
    refine manyUpTo_congr hmore (fun us a ws ha hcomma => ?_) fun hend => ?_
    · obtain ⟨u, vs, hcomma, hp⟩ := bind_apply_eq_ok.1 hcomma
      exact bind_apply_eq_ok.2 ⟨u, vs, hcomma, hstep vs a ws (List.mem_cons_of_mem first ha) hp⟩
    · match vs with
      | [] => rfl
      | ⟨x, n⟩ :: vs =>
        by_cases hx : x = .op .comma
        · subst hx
          have hcomma : op .comma (⟨.op .comma, n⟩ :: vs) = .ok ((), vs) := expect_self _ n vs
          rw [accept_self] at htrailing
          cases htrailing
          rw [bind_of_ok hcomma] at hend ⊢
          exact hstop hend
        · exact bind_of_mismatch (if_neg hx)
  refine bind_apply_eq_ok.2 ⟨first :: more, vs, ?_, bind_apply_eq_ok.2 ⟨trailing, rest, htrailing, rfl⟩⟩
  exact bind_apply_eq_ok.2 ⟨first, us, hstep ts first us List.mem_cons_self hfirst,
    bind_apply_eq_ok.2 ⟨more, vs, hcommas, rfl⟩⟩

end Parser

/-! ## Where expressions start -/

/-- Whether an expression may start with a lexeme. -/
def Lexeme.startsExpression : Lexeme → Bool
  | .name _ | .number _ | .string _ => true
  | .word .none | .word .true | .word .false | .word .lambda | .word .not | .word .await => true
  | .op .plus | .op .minus | .op .tilde | .op .ellipsis => true
  | .op .lPar | .op .lSqb | .op .lBrace => true
  | _ => false

/-- Tokens that start with none that an expression may start with. -/
def StartsNoExpression (ts : List Token) : Prop :=
  ∀ t ∈ ts.head?, t.lexeme.startsExpression = false

theorem AtEnd.startsNoExpression {ts : List Token} (h : AtEnd ts) : StartsNoExpression ts := by
  cases h with
  | nil => exact nofun
  | intro hx n ts =>
    rintro _ ⟨⟩
    rcases Lexeme.cases_of_not_isInner hx with rfl | rfl | rfl | rfl | rfl <;> rfl

theorem StartsNoExpression.accept {x : Lexeme} {ts : List Token} (h : StartsNoExpression ts)
    (hx : x.startsExpression = true) : accept x ts = .ok (false, ts) := by
  cases ts with
  | nil => rfl
  | cons t ts =>
    refine accept_of_ne ?_ t.line ts
    rintro rfl
    exact absurd hx (by rw [h t rfl]; exact Bool.false_ne_true)

/-- A grammar that matches no expression where none starts, and a name by itself in front of a
colon. -/
class Grammar.IsSelective (g : Grammar) : Prop where
  mismatch : ∀ {ts}, StartsNoExpression ts → g.expression ts = .error .mismatch
  name : ∀ spelling n m ts, g.expression (⟨.name spelling, n⟩ :: ⟨.op .colon, m⟩ :: ts) =
    .ok (.name (identifier spelling), ⟨.op .colon, m⟩ :: ts)

namespace Grammar

section

variable {g : Grammar} {ts : List Token}

theorem atom_mismatch (h : StartsNoExpression ts) : g.atom ts = .error .mismatch := by
  match ts with
  | [] => rfl
  | ⟨x, n⟩ :: ts =>
    have hx := h ⟨x, n⟩ rfl
    cases x with
    | name | number | string => cases hx
    | word w => cases w <;> first | rfl | cases hx
    | op o => cases o <;> first | rfl | cases hx
    | _ => rfl

theorem factorRule_mismatch (h : StartsNoExpression ts) : g.factorRule ts = .error .mismatch := by
  have hpower : g.power ts = .error .mismatch := by
    refine bind_of_mismatch ?_
    rw [awaited, bind_of_ok (h.accept rfl), if_neg Bool.false_ne_true]
    exact bind_of_mismatch (atom_mismatch h)
  rcases ts with - | ⟨⟨x, n⟩, ts⟩
  · exact hpower
  · have hx := h ⟨x, n⟩ rfl
    cases x with
    | op o => cases o <;> first | exact hpower | cases hx
    | _ => exact hpower

theorem expressionRule_mismatch (h : StartsNoExpression ts) :
    g.expressionRule ts = .error .mismatch := by
  have hcomparison : g.comparison ts = .error .mismatch := by
    iterate 7 refine bind_of_mismatch ?_
    exact factorRule_mismatch h
  have hinversion : g.inversionRule ts = .error .mismatch := by
    rw [inversionRule, bind_of_ok (h.accept rfl), if_neg Bool.false_ne_true]
    exact hcomparison
  have hdisjunction : g.disjunctionRule ts = .error .mismatch :=
    bind_of_mismatch (bind_of_mismatch hinversion)
  have hlambda : sees (.word .lambda) ts = .ok (false, ts) := by
    rcases ts with - | ⟨⟨x, n⟩, ts⟩
    · rfl
    · have hx := h ⟨x, n⟩ rfl
      cases x with
      | word w => cases w <;> first | rfl | cases hx
      | _ => rfl
  rw [expressionRule, bind_of_ok hlambda, if_neg Bool.false_ne_true]
  exact bind_of_mismatch hdisjunction

end

instance isSelective_level (version : Nat) (asyncReserved : Bool) (levels : Nat) :
    (level version asyncReserved (levels + 1)).IsSelective :=
  ⟨expressionRule_mismatch, fun _ _ _ _ => rfl⟩

/-! ## Starred elements -/

/-- Tokens that start with a star. -/
def StartsStarred (ts : List Token) : Prop :=
  ts.head?.map Token.lexeme = some (.op .star)

theorem StartsStarred.startsNoExpression {ts : List Token} (h : StartsStarred ts) :
    StartsNoExpression ts := by
  intro t ht
  rw [StartsStarred, Option.mem_def.1 ht] at h
  rw [Option.some.inj h]
  rfl

section

variable {g : Grammar} {ts rest : List Token} {e : Expr}

theorem sees_of_not_startsStarred (h : ¬ StartsStarred ts) : sees (.op .star) ts = .ok (false, ts) := by
  have hne : (ts.head?.map Token.lexeme == some (.op .star)) = false :=
    beq_eq_false_iff_ne.2 h
  rw [sees, bind_of_ok (show peek ts = .ok (ts.head?.map Token.lexeme, ts) from rfl), hne]
  rfl

theorem starExpression_of_not (h : ¬ StartsStarred ts) : g.starExpression ts = g.expression ts := by
  rw [starExpression, bind_of_ok (sees_of_not_startsStarred h), if_neg Bool.false_ne_true]

theorem starExpression_of_startsStarred (h : StartsStarred ts) :
    g.starExpression ts = .ok (e, rest) → e.isUnstarred = false := by
  intro hread
  have hsees : sees (.op .star) ts = .ok (true, ts) := by
    rw [sees, bind_of_ok (show peek ts = .ok (ts.head?.map Token.lexeme, ts) from rfl), h]
    rfl
  rw [starExpression, bind_of_ok hsees, if_pos rfl] at hread
  obtain ⟨-, us, -, hread⟩ := bind_apply_eq_ok.1 hread
  obtain ⟨value, us, -, hread⟩ := bind_apply_eq_ok.1 hread
  cases hread
  rfl

theorem expression_of_starExpression (h : g.starExpression ts = .ok (e, rest))
    (he : e.isUnstarred = true) : g.expression ts = .ok (e, rest) := by
  rw [← starExpression_of_not, h]
  intro hstar
  rw [starExpression_of_startsStarred hstar h] at he
  cases he

variable [g.IsSelective]

theorem starExpression_of_expression (h : g.expression ts = .ok (e, rest)) :
    g.starExpression ts = .ok (e, rest) := by
  rw [starExpression_of_not, h]
  intro hstar
  rw [IsSelective.mismatch hstar.startsNoExpression] at h
  cases h

section

variable {elements : List Expr} {trailing : Bool}

/-- Where a list without starred elements is read up to its end, the other list is the same. -/
theorem commaListTrailing_starExpression
    (h : commaListTrailing g.expression ts = .ok ((elements, trailing), rest))
    (hrest : ¬ StartsStarred rest) :
    commaListTrailing g.starExpression ts = .ok ((elements, trailing), rest) := by
  refine commaListTrailing_congr h (fun _ _ _ _ => starExpression_of_expression) fun hstop => ?_
  rw [starExpression_of_not hrest, hstop]

/-- A list in which no element is starred is one in which none may be. -/
theorem commaListTrailing_expression
    (h : commaListTrailing g.starExpression ts = .ok ((elements, trailing), rest))
    (hall : elements.all Expr.isUnstarred = true) :
    commaListTrailing g.expression ts = .ok ((elements, trailing), rest) := by
  have hall := List.all_eq_true.1 hall
  refine commaListTrailing_congr h (fun _ e _ he h => expression_of_starExpression h (hall e he))
    fun hstop => ?_
  by_cases hstar : StartsStarred rest
  · exact IsSelective.mismatch hstar.startsNoExpression
  · rw [← starExpression_of_not hstar, hstop]

end

theorem starExpressions_of_expressions (h : g.expressions ts = .ok (e, rest))
    (hrest : ¬ StartsStarred rest) : g.starExpressions ts = .ok (e, rest) := by
  obtain ⟨⟨elements, trailing⟩, us, hlist, h⟩ := bind_apply_eq_ok.1 h
  cases h
  exact bind_apply_eq_ok.2 ⟨(elements, trailing), rest, commaListTrailing_starExpression hlist hrest, rfl⟩

end

/-! ## The line of an expression -/

section

variable {g : Grammar} {x : Lexeme} {n : Nat} {ts rest : List Token} {e : Expr}

theorem expressions_name_colon [g.IsSelective] (spelling : List Char) (m : Nat) :
    g.expressions (⟨.name spelling, n⟩ :: ⟨.op .colon, m⟩ :: ts) =
      .ok (.name (identifier spelling), ⟨.op .colon, m⟩ :: ts) := by
  have hlist : commaList g.expression (⟨.name spelling, n⟩ :: ⟨.op .colon, m⟩ :: ts) =
      .ok ([.name (identifier spelling)], ⟨.op .colon, m⟩ :: ts) := by
    rw [commaList, bind_of_ok (IsSelective.name spelling n m ts),
      bind_many_of_mismatch (bind_of_mismatch rfl)]
    rfl
  have htrailing : commaListTrailing g.expression (⟨.name spelling, n⟩ :: ⟨.op .colon, m⟩ :: ts) =
      .ok (([.name (identifier spelling)], false), ⟨.op .colon, m⟩ :: ts) := by
    rw [commaListTrailing, bind_of_ok hlist]
    rfl
  rw [expressions, bind_of_ok htrailing]
  rfl

theorem simpleStatement_of_startsExpression (hx : x.startsExpression = true) :
    g.simpleStatement (⟨x, n⟩ :: ts) = g.expressionStatement (⟨x, n⟩ :: ts) := by
  cases x with
  | word w => cases w <;> first | rfl | cases hx
  | _ => rfl

/-- The statements behind what may be the head of a `match` statement. -/
def statementsAfterHead (g : Grammar) : Option Expr → Parser (List Stmt)
  | some subject => do return [← g.matchCases subject]
  | none => g.simpleStatements

theorem statement_of_startsExpression (hx : x.startsExpression = true)
    (hhead : maybe g.matchHead (⟨x, n⟩ :: ts) = .ok (none, ⟨x, n⟩ :: ts)) :
    g.statement (⟨x, n⟩ :: ts) = g.simpleStatements (⟨x, n⟩ :: ts) := by
  have hline : (maybe g.matchHead >>= statementsAfterHead g) (⟨x, n⟩ :: ts) =
      g.simpleStatements (⟨x, n⟩ :: ts) :=
    bind_of_ok hhead
  cases x with
  | word w => cases w <;> first | exact hline | cases hx
  | op o => cases o <;> first | exact hline | cases hx
  | _ => exact hline

/-- The rest of a statement that starts with an expression list. -/
def statementAfter (g : Grammar) (e : Expr) : Parser Stmt := do
  match ← peek with
  | some (.op .colon) =>
    ensure e.isSingleTarget
    advance
    g.annotatedRest e false
  | some (.op .equal) =>
    let values ← many1 (do op .equal; g.rightHandSide)
    fromOption (arrangeAssignment e values)
  | some x =>
    match augmentedOp? x with
    | some o =>
      ensure e.isSingleTarget
      advance
      let value ← g.rightHandSide
      if o = .matMult then g.since 5
      return .augAssign e o value
    | none => return .expr e
  | none => return .expr e

/-- An expression list up to the end of its line is a statement. -/
theorem expressionStatement_of_expressions [g.IsSelective] (hx : x.startsExpression = true) {m : Nat}
    (h : g.expressions (⟨x, n⟩ :: ts) = .ok (e, ⟨.newline, m⟩ :: rest)) :
    g.expressionStatement (⟨x, n⟩ :: ts) = .ok (.expr e, ⟨.newline, m⟩ :: rest) := by
  have hstar : g.starExpressions (⟨x, n⟩ :: ts) = .ok (e, ⟨.newline, m⟩ :: rest) :=
    starExpressions_of_expressions h nofun
  have hplain : (g.starExpressions >>= statementAfter g) (⟨x, n⟩ :: ts) =
      .ok (.expr e, ⟨.newline, m⟩ :: rest) :=
    bind_of_ok hstar
  cases x with
  | word w => cases w <;> first | exact hplain | cases hx
  | name spelling =>
    rcases ts with - | ⟨⟨y, k⟩, ts⟩
    · exact hplain
    · cases y with
      | op o =>
        by_cases ho : o = .colon
        · subst ho
          rw [expressions_name_colon] at h
          cases h
        · cases o <;> first | exact hplain | exact absurd rfl ho
      | _ => exact hplain
  | _ => exact hplain

theorem simpleStatements_of_expressions [g.IsSelective] (hx : x.startsExpression = true) {m : Nat}
    (h : g.expressions (⟨x, n⟩ :: ts) = .ok (e, ⟨.newline, m⟩ :: rest)) :
    g.simpleStatements (⟨x, n⟩ :: ts) = .ok ([.expr e], rest) := by
  have hfirst : g.simpleStatement (⟨x, n⟩ :: ts) = .ok (.expr e, ⟨.newline, m⟩ :: rest) :=
    (simpleStatement_of_startsExpression hx).trans (expressionStatement_of_expressions hx h)
  rw [simpleStatements, bind_of_ok hfirst, bind_many_of_mismatch (bind_of_mismatch rfl)]
  rfl

theorem expressions_mismatch [g.IsSelective] (h : StartsNoExpression ts) :
    g.expressions ts = .error .mismatch := by
  iterate 3 refine bind_of_mismatch ?_
  exact IsSelective.mismatch h

theorem startsExpression_of_expressions [g.IsSelective]
    (h : g.expressions (⟨x, n⟩ :: ts) = .ok (e, rest)) : x.startsExpression = true := by
  cases hx : x.startsExpression with
  | true => rfl
  | false =>
    have hnone : StartsNoExpression (⟨x, n⟩ :: ts) := by
      rintro _ ⟨⟩
      exact hx
    rw [expressions_mismatch hnone] at h
    cases h

/-- At the end of a text, no statement starts. -/
theorem statement_endMarker [g.IsSelective] (n : Nat) :
    g.statement [⟨.endMarker, n⟩] = .error .mismatch := by
  have hhead : maybe g.matchHead [⟨.endMarker, n⟩] = .ok (none, [⟨.endMarker, n⟩]) := rfl
  have hexpressions : g.starExpressions [⟨.endMarker, n⟩] = .error .mismatch := by
    have hstar : ¬ StartsStarred [⟨.endMarker, n⟩] := nofun
    iterate 3 refine bind_of_mismatch ?_
    rw [starExpression_of_not hstar]
    exact IsSelective.mismatch (AtEnd.intro rfl n []).startsNoExpression
  have hstatement : g.simpleStatements [⟨.endMarker, n⟩] = .error .mismatch := by
    refine bind_of_mismatch ?_
    change (g.starExpressions >>= _) _ = _
    exact bind_of_mismatch hexpressions
  have hline : (maybe g.matchHead >>= statementsAfterHead g) [⟨.endMarker, n⟩] = .error .mismatch :=
    (bind_of_ok hhead).trans hstatement
  exact hline

end

variable {g : Grammar} [g.IsLocal] {xs : List Lexeme} {ts ts' tail tail' : List Token}
  {rest : List Token} {e : Expr}

/-- A list of expressions that is read up to the end of a line is read up to any other end. -/
theorem read_to_end {α : Type} {a : α} {p : Parser α} [hp : Local p] (hline : SameLine xs ts ts')
    (htail : AtEnd tail) (htail' : AtEnd tail') (h : p (ts ++ tail) = .ok (a, tail)) :
    p (ts' ++ tail') = .ok (a, tail') :=
  ((hp.reads hline htail htail').of_ok_tail h).2

theorem exists_of_expect {x : Lexeme} {us : List Token} {u : Unit} (h : expect x us = .ok (u, rest)) :
    ∃ n, us = ⟨x, n⟩ :: rest := by
  cases us with
  | nil => cases h
  | cons t us =>
    rw [expect] at h
    split at h <;> cases h
    next heq =>
      subst heq
      exact ⟨t.line, rfl⟩

/-- The head of a `match` statement ends in a colon. -/
theorem matchHead_ne_ok (hline : SameLine xs ts ts') (htail : AtEnd tail) (hwhole : IsWhole xs) :
    g.matchHead (ts ++ tail) ≠ .ok (e, rest) := by
  intro h
  obtain ⟨_, us, hword, h⟩ := bind_apply_eq_ok.1 h
  obtain ⟨subject, vs, hsubject, h⟩ := bind_apply_eq_ok.1 h
  obtain ⟨_, ws, hcolon, h⟩ := bind_apply_eq_ok.1 h
  obtain ⟨_, left, hnewline, -⟩ := bind_apply_eq_ok.1 h
  obtain ⟨k, hword⟩ := exists_of_expect hword
  obtain ⟨m, rfl⟩ := exists_of_expect hcolon
  obtain ⟨l, rfl⟩ := exists_of_expect hnewline
  obtain ⟨ys, us, us', rfl, hbehind, rfl⟩ := hline.exists_cons htail rfl hword
  obtain ⟨taken, more, ls, ls', rfl, -, hmore, hls, -⟩ :=
    ((consuming_subject g).reads hbehind htail htail).of_ok hsubject
  -- The subject is followed by the colon, and the line ends behind it.
  obtain ⟨zs, ws, ws', rfl, hlast, hws⟩ := hmore.exists_cons htail rfl hls.symm
  cases hlast with
  | nil =>
    refine hwhole ?_
    rw [← List.cons_append, List.getLast?_concat]
  | cons hinner =>
    cases (List.cons.inj hws).1
    cases hinner

/-- A line that is one expression list is no head of a `match` statement. -/
theorem matchHead_mismatch {isRow : List (List Char) → Bool} (hg : g.IsSteady isRow)
    (hline : SameLine xs ts ts') (htail : AtEnd tail) (hreadable : areReadable isRow false tail = true)
    (h : g.expressions (ts ++ tail) = .ok (e, tail)) :
    g.matchHead (ts ++ tail) = .error .mismatch := by
  have hwhole : IsWhole xs :=
    (((consuming_expressions g).reads hline htail htail).of_ok_tail h).1.2
  cases hhead : g.matchHead (ts ++ tail) with
  | ok r => exact absurd hhead (matchHead_ne_ok hline htail hwhole)
  | error error =>
    cases error with
    | mismatch => rfl
    | refused =>
      -- What one rule has read, no other one refuses.
      have hline := ((steady_expressions isRow g).run _).ok e tail h
      have hrefused := ((steady_matchHead isRow g).run _).refused hhead
      rw [hreadable, hrefused] at hline
      cases hline

/-- A text that is one expression list is one line, and behind it the text ends. -/
theorem expressions_of_soleExpression (hline : SameLine xs ts ts') (htail : AtEnd tail)
    (h : g.soleExpression (ts ++ tail) = .ok (e, rest)) :
    g.expressions (ts ++ tail) = .ok (e, tail) ∧
      (tail.head?.map Token.lexeme = some .newline ∨ tail.head?.map Token.lexeme = some .endMarker) := by
  obtain ⟨e, left, hread, h⟩ := bind_apply_eq_ok.1 h
  obtain ⟨units, us, hmany, h⟩ := bind_apply_eq_ok.1 h
  obtain ⟨u, vs, hend, h⟩ := bind_apply_eq_ok.1 h
  cases h
  -- What is left starts with the end of a line or of the text.
  have hleft : left.head?.map Token.lexeme = some .newline ∨
      left.head?.map Token.lexeme = some .endMarker := by
    match left with
    | [] =>
      cases hmany
      cases hend
    | ⟨x, n⟩ :: left =>
      by_cases hnewline : x = .newline
      · exact Or.inl (congrArg some hnewline)
      · rw [many_of_mismatch (if_neg hnewline)] at hmany
        cases hmany
        by_cases hmarker : x = .endMarker
        · exact Or.inr (congrArg some hmarker)
        · rw [expect, if_neg hmarker] at hend
          cases hend
  obtain ⟨taken, more, ws, ws', -, -, hmore, rfl, -⟩ :=
    ((consuming_expressions g).reads hline htail htail).of_ok hread
  cases hmore with
  | nil => exact ⟨hread, hleft⟩
  | cons hx =>
    rcases hleft with hleft | hleft <;>
    · obtain rfl := Option.some.inj hleft
      cases hx

variable [g.IsSelective]

/-- One expression list in a line of its own is a module of one statement. -/
theorem module_of_expressions (hline : SameLine xs ts ts') (htail : AtEnd tail)
    {isRow : List (List Char) → Bool} (hg : g.IsSteady isRow)
    (h : g.expressions (ts ++ tail) = .ok (e, tail)) (n m : Nat) :
    g.module (ts' ++ [⟨.newline, n⟩, ⟨.endMarker, m⟩]) = .ok ([.expr e], []) := by
  have hbreak : AtEnd [⟨.newline, n⟩, ⟨.endMarker, m⟩] := .intro rfl _ _
  have hread := read_to_end hline htail hbreak h
  cases hline with
  | nil =>
    rw [List.nil_append, expressions_mismatch htail.startsNoExpression] at h
    cases h
  | @cons x xs ts ts' hx k k' hrest =>
    have hhead : g.matchHead (⟨x, k'⟩ :: (ts' ++ [⟨.newline, n⟩, ⟨.endMarker, m⟩])) = .error .mismatch :=
      matchHead_mismatch hg (.cons hx k' k hrest.symm) hbreak rfl hread
    have hnone : maybe g.matchHead (⟨x, k'⟩ :: (ts' ++ [⟨.newline, n⟩, ⟨.endMarker, m⟩])) =
        .ok (none, ⟨x, k'⟩ :: (ts' ++ [⟨.newline, n⟩, ⟨.endMarker, m⟩])) := by
      rw [maybe, orElse, bind_of_mismatch hhead]
      rfl
    have hstart := startsExpression_of_expressions hread
    have hstatement : g.statement (⟨x, k'⟩ :: (ts' ++ [⟨.newline, n⟩, ⟨.endMarker, m⟩])) =
        .ok ([.expr e], [⟨.endMarker, m⟩]) :=
      (statement_of_startsExpression hstart hnone).trans (simpleStatements_of_expressions hstart hread)
    have hmany : many g.statement (⟨x, k'⟩ :: (ts' ++ [⟨.newline, n⟩, ⟨.endMarker, m⟩])) =
        .ok ([[.expr e]], [⟨.endMarker, m⟩]) :=
      (Repeats.step hstatement (by simp) (.stop (statement_endMarker m))).many
    rw [List.cons_append, module, bind_of_ok hmany]
    rfl

omit [g.IsLocal] [g.IsSelective] in
theorem head?_ne_of_sameLine (hline : SameLine xs ts ts') (htail : AtEnd tail) {x : Lexeme}
    (hx : x.isInner = true) (h : xs.head? ≠ some x) :
    (ts ++ tail).head?.map Token.lexeme ≠ some x := by
  cases hline with
  | nil =>
    cases htail with
    | nil => exact nofun
    | intro hy =>
      intro heq
      obtain rfl := Option.some.inj heq
      exact absurd (hy.symm.trans hx) Bool.false_ne_true
  | cons => exact h

omit [g.IsSelective] in
/-- Simple statements that are one expression are an expression list up to the end of the line. -/
theorem starExpressions_of_simpleStatements (hline : SameLine xs ts ts') (htail : AtEnd tail)
    (hyield : xs.head? ≠ some (.word .yield)) {more : List Stmt}
    (h : g.simpleStatements (ts ++ tail) = .ok (.expr e :: more, rest)) (hmore : more = []) :
    g.starExpressions (ts ++ tail) = .ok (e, tail) ∧ tail ≠ [] := by
  obtain ⟨first, us, hfirst, h⟩ := bind_apply_eq_ok.1 h
  obtain ⟨others, vs, hothers, h⟩ := bind_apply_eq_ok.1 h
  obtain ⟨accepted, ws, haccept, h⟩ := bind_apply_eq_ok.1 h
  obtain ⟨u, left, hnewline, h⟩ := bind_apply_eq_ok.1 h
  cases h
  subst hmore
  have hvs : vs = us := by
    rcases many_cases hothers with ⟨-, heq⟩ | ⟨a, as, -, heq, -⟩
    · exact heq
    · cases heq
  subst hvs
  have hread : g.starExpressions (ts ++ tail) = .ok (e, vs) := by
    rcases simpleStatement_cases hfirst with hexpression | hproper
    · rcases expressionStatement_cases hexpression with hword | hproper | ⟨e', heq, hread⟩
      · exact absurd hword (head?_ne_of_sameLine hline htail rfl hyield)
      · cases hproper
      · cases heq
        exact hread
    · cases hproper
  obtain ⟨taken, left, ls, ls', -, -, hleft, rfl, -⟩ :=
    ((consuming_starExpressions g).reads hline htail htail).of_ok hread
  cases hleft with
  | nil =>
    refine ⟨hread, ?_⟩
    rintro rfl
    cases haccept
    cases hnewline
  | @cons x _ _ _ hx n =>
    have hsemi : x ≠ .op .semi := by
      rintro rfl
      cases hx
    have hbreak : x ≠ .newline := by
      rintro rfl
      cases hx
    rw [List.cons_append, accept_of_ne hsemi] at haccept
    cases haccept
    rw [expect, if_neg hbreak] at hnewline
    cases hnewline

omit [g.IsSelective] in
/-- The only statement of a line is an expression list, if it is an expression and no `yield`. -/
theorem starExpressions_of_module (hline : SameLine xs ts ts') (htail : AtEnd tail)
    (hyield : xs.head? ≠ some (.word .yield)) (h : g.module (ts ++ tail) = .ok ([.expr e], rest)) :
    g.starExpressions (ts ++ tail) = .ok (e, tail) ∧ tail ≠ [] := by
  obtain ⟨blocks, us, hblocks, h⟩ := bind_apply_eq_ok.1 h
  obtain ⟨u, vs, hend, h⟩ := bind_apply_eq_ok.1 h
  have hflatten : blocks.flatten = [.expr e] := congrArg Prod.fst (Except.ok.inj h)
  rcases many_cases hblocks with ⟨rfl, -⟩ | ⟨block, more, ws, rfl, hstatement⟩
  · cases hflatten
  · rcases statement_cases hstatement with hsimple | hproper
    · cases block with
      | nil =>
        obtain ⟨first, us, -, hsimple⟩ := bind_apply_eq_ok.1 hsimple
        obtain ⟨others, us, -, hsimple⟩ := bind_apply_eq_ok.1 hsimple
        obtain ⟨accepted, us, -, hsimple⟩ := bind_apply_eq_ok.1 hsimple
        obtain ⟨u, us, -, hsimple⟩ := bind_apply_eq_ok.1 hsimple
        cases hsimple
      | cons s block =>
        rw [List.flatten_cons, List.cons_append] at hflatten
        obtain ⟨rfl, hblock⟩ := List.cons.inj hflatten
        exact starExpressions_of_simpleStatements hline htail hyield hsimple (List.append_eq_nil_iff.1 hblock).1
    · obtain ⟨s, hs, hproper⟩ := List.any_eq_true.1 hproper
      have hmem : s ∈ [Stmt.expr e] := hflatten ▸ List.mem_flatten.2 ⟨block, List.mem_cons_self, hs⟩
      rw [List.mem_singleton.1 hmem] at hproper
      cases hproper

end Grammar

end AnnotatedMarkdown.Python
