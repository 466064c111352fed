import AnnotatedMarkdown.Proofs.Python.Version.Expression
import AnnotatedMarkdown.Proofs.Python.Version.Words

/-!
# Patterns and statements of a stricter grammar

The rules for patterns and statements restrict the same rules of a grammar that is less strict,
and so do whole modules.

* The lemmas on rules follow the rules in their order.
* `isStricter_level` compares two versions of the grammar, level by level.
* `parseModule_eq_or` is the result: an older version refuses a text or reads it the same, if the
  words `async` and `await` are read alike.  `parseModule_of_latestVersion` states it for texts that
  the latest version reads.
-/

namespace AnnotatedMarkdown.Python

open AnnotatedMarkdown.Python.Parser Outcome

namespace Grammar

section

variable {g h : Grammar} {allowed : List Char → Prop} (hg : g.IsStricter allowed h)

include hg

/-! ## Patterns -/

omit hg in
instance trims_captureTarget : Trims captureTarget := by
  unfold captureTarget
  refine .bind inferInstance fun x => ?_
  split <;> infer_instance

omit hg in
instance trims_starPattern : Trims starPattern := by
  unfold starPattern
  refine .bind inferInstance fun _ => .bind inferInstance fun x => ?_
  split <;> infer_instance

omit hg in
instance trims_dottedName : Trims dottedName := by
  unfold dottedName
  infer_instance

@[gcongr] theorem restricts_signedNumber : g.signedNumber.Restricts allowed h.signedNumber := by
  unfold signedNumber
  gcongr

@[gcongr] theorem restricts_numberPattern_complex (real : Expr) (c : Constant) (op : BinaryOp) :
    (numberPattern.complex g real c op).Restricts allowed (numberPattern.complex h real c op) := by
  unfold numberPattern.complex
  gcongr

@[gcongr] theorem restricts_numberPattern : g.numberPattern.Restricts allowed h.numberPattern := by
  unfold numberPattern
  gcongr
  dsimp only
  gcongr
  split <;> gcongr

omit hg in
@[gcongr] theorem restricts_orPattern {p q : Parser Pattern} (hp : p.Restricts allowed q) :
    (orPattern p).Restricts allowed (orPattern q) := by
  unfold orPattern
  gcongr

omit hg in
@[gcongr] theorem restricts_asPattern {p q : Parser Pattern} (hp : p.Restricts allowed q) :
    (asPattern p).Restricts allowed (asPattern q) := by
  unfold asPattern
  gcongr

@[gcongr] theorem restricts_elementPattern : g.elementPattern.Restricts allowed h.elementPattern := by
  unfold elementPattern
  gcongr

@[gcongr] theorem restricts_afterPatternParenthesis :
    g.afterPatternParenthesis.Restricts allowed h.afterPatternParenthesis := by
  unfold afterPatternParenthesis
  gcongr

@[gcongr] theorem restricts_afterPatternBracket :
    g.afterPatternBracket.Restricts allowed h.afterPatternBracket := by
  unfold afterPatternBracket
  gcongr

@[gcongr] theorem restricts_mappingKey : g.mappingKey.Restricts allowed h.mappingKey := by
  unfold mappingKey
  gcongr
  split <;> gcongr
  split <;> rfl

@[gcongr] theorem restricts_mappingItem : g.mappingItem.Restricts allowed h.mappingItem := by
  unfold mappingItem
  gcongr

@[gcongr] theorem restricts_afterPatternBrace :
    g.afterPatternBrace.Restricts allowed h.afterPatternBrace := by
  unfold afterPatternBrace
  gcongr

@[gcongr] theorem restricts_classItem : g.classItem.Restricts allowed h.classItem := by
  unfold classItem
  gcongr
  split <;> gcongr

@[gcongr] theorem restricts_classRest (function : Expr) :
    (g.classRest function).Restricts allowed (h.classRest function) := by
  unfold classRest
  gcongr

@[gcongr] theorem restricts_namePattern : g.namePattern.Restricts allowed h.namePattern := by
  unfold namePattern
  gcongr
  split <;> rfl

@[gcongr] theorem restricts_closedPattern : g.closedPattern.Restricts allowed h.closedPattern := by
  unfold closedPattern
  gcongr
  split <;> gcongr

@[gcongr] theorem restricts_patternRule : g.patternRule.Restricts allowed h.patternRule := by
  unfold patternRule
  gcongr

@[gcongr] theorem restricts_casePattern : g.casePattern.Restricts allowed h.casePattern := by
  unfold casePattern
  gcongr

/-! ## Simple statements -/

omit hg in
instance trims_moduleName : Trims moduleName := by
  unfold moduleName
  infer_instance

omit hg in
instance trims_importedModule : Trims importedModule := by
  unfold importedModule asName
  infer_instance

omit hg in
instance trims_leadingDots : Trims leadingDots := by
  unfold leadingDots
  refine .bind inferInstance fun x => ?_
  split <;> infer_instance

omit hg in
instance trims_importedNames : Trims importedNames := by
  unfold importedNames importedName asName
  infer_instance

omit hg in
instance trims_importFrom : Trims importFrom := by
  unfold importFrom
  refine .bind inferInstance fun _ => .bind inferInstance fun dots => .bind inferInstance fun absent => ?_
  split <;> infer_instance

@[gcongr] theorem restricts_annotatedRest (target : Expr) (isSimple : Bool) :
    (g.annotatedRest target isSimple).Restricts allowed (h.annotatedRest target isSimple) := by
  unfold annotatedRest
  gcongr

@[gcongr] theorem restricts_expressionStatement :
    g.expressionStatement.Restricts allowed h.expressionStatement := by
  unfold expressionStatement
  gcongr
  split
  · gcongr
  · gcongr
  · gcongr
    split
    · gcongr
    · gcongr
    · split
      · gcongr
        dsimp only
        gcongr
      · rfl
    · rfl

@[gcongr] theorem restricts_raise : g.raise.Restricts allowed h.raise := by
  unfold raise
  gcongr
  split <;> gcongr

@[gcongr] theorem restricts_delete : g.delete.Restricts allowed h.delete := by
  unfold delete
  gcongr

@[gcongr] theorem restricts_simpleStatement : g.simpleStatement.Restricts allowed h.simpleStatement := by
  unfold simpleStatement
  gcongr
  split <;> gcongr

@[gcongr] theorem restricts_simpleStatements : g.simpleStatements.Restricts allowed h.simpleStatements := by
  unfold simpleStatements
  gcongr

/-! ## Compound statements -/

@[gcongr] theorem restricts_suite : g.suite.Restricts allowed h.suite := by
  unfold suite
  gcongr

@[gcongr] theorem restricts_suiteAfter (w : Word) :
    (g.suiteAfter w).Restricts allowed (h.suiteAfter w) := by
  unfold suiteAfter
  gcongr

@[gcongr] theorem restricts_functionDef (isAsync : Bool) (decorators : List Expr) :
    (g.functionDef isAsync decorators).Restricts allowed (h.functionDef isAsync decorators) := by
  unfold functionDef
  gcongr
  dsimp only
  gcongr

@[gcongr] theorem restricts_classDef (decorators : List Expr) :
    (g.classDef decorators).Restricts allowed (h.classDef decorators) := by
  unfold classDef
  gcongr
  dsimp only
  gcongr

@[gcongr] theorem restricts_decorated : g.decorated.Restricts allowed h.decorated := by
  unfold decorated
  gcongr
  split <;> gcongr

@[gcongr] theorem restricts_conditional : g.conditional.Restricts allowed h.conditional := by
  unfold conditional
  gcongr

@[gcongr] theorem restricts_forLoop (isAsync : Bool) :
    (g.forLoop isAsync).Restricts allowed (h.forLoop isAsync) := by
  unfold forLoop
  gcongr
  dsimp only
  gcongr

@[gcongr] theorem restricts_withItem : g.withItem.Restricts allowed h.withItem := by
  unfold withItem
  gcongr

@[gcongr] theorem restricts_withItemsInParentheses :
    g.withItemsInParentheses.Restricts allowed h.withItemsInParentheses := by
  unfold withItemsInParentheses
  gcongr
  dsimp only
  gcongr

@[gcongr] theorem restricts_withStatement (isAsync : Bool) :
    (g.withStatement isAsync).Restricts allowed (h.withStatement isAsync) := by
  unfold withStatement
  gcongr
  dsimp only
  gcongr

@[gcongr] theorem restricts_handler (isGroup : Bool) :
    (g.handler isGroup).Restricts allowed (h.handler isGroup) := by
  unfold handler
  gcongr
  dsimp only
  gcongr

@[gcongr] theorem restricts_tryStatement : g.tryStatement.Restricts allowed h.tryStatement := by
  unfold tryStatement
  gcongr
  dsimp only
  gcongr

@[gcongr] theorem restricts_subject : g.subject.Restricts allowed h.subject := by
  unfold subject
  gcongr
  dsimp only
  split <;> rfl

omit hg in
instance trims_softWord (spelling : List Char) : Trims (softWord spelling) := by
  unfold softWord
  infer_instance

@[gcongr] theorem restricts_matchHead : g.matchHead.Restricts allowed h.matchHead := by
  unfold matchHead
  gcongr

@[gcongr] theorem restricts_matchCase : g.matchCase.Restricts allowed h.matchCase := by
  unfold matchCase
  gcongr

@[gcongr] theorem restricts_matchCases (subject : Expr) :
    (g.matchCases subject).Restricts allowed (h.matchCases subject) := by
  unfold matchCases
  gcongr

@[gcongr] theorem restricts_asyncStatement : g.asyncStatement.Restricts allowed h.asyncStatement := by
  unfold asyncStatement
  gcongr
  split <;> gcongr

@[gcongr] theorem restricts_statement : g.statement.Restricts allowed h.statement := by
  unfold statement
  gcongr
  split <;> gcongr
  split <;> gcongr

@[gcongr] theorem restricts_blockRule : g.blockRule.Restricts allowed h.blockRule := by
  unfold blockRule
  gcongr

@[gcongr] theorem restricts_module : g.module.Restricts allowed h.module := by
  unfold module
  gcongr

/-! ## Levels -/

/-- The expression of a replacement field is the same for both grammars if its tokens are. -/
theorem embeddedExpression_eq_some {cs : List Char} {e : Expr}
    (htokens : tokensOf g.asyncReserved (fieldSource cs) = tokensOf h.asyncReserved (fieldSource cs))
    (hallowed : AreAllowed allowed (tokensOf g.asyncReserved (fieldSource cs)))
    (he : g.embeddedExpression cs = some e) : h.embeddedExpression cs = some e := by
  unfold embeddedExpression at he ⊢
  unfold fieldSource at htokens hallowed
  rw [← htokens]
  rcases (restricts_starExpressions hg).eq_or hallowed with heq | hrefused
  · rwa [heq] at he
  · rw [hrefused] at he
    cases he

end

section

variable {v w : Nat} (hvw : v ≤ w) {asyncReserved asyncReserved' : Bool}

include hvw

/-- Grammars of two versions are stricter at every level if their readings of replacement fields
are. -/
theorem isStricter_nested {allowed : List Char → Prop} {embedded embedded' : List Char → Option Expr}
    (hembedded : ∀ cs e, allowed cs → embedded cs = some e → embedded' cs = some e) (levels : Nat) :
    (nested v asyncReserved embedded levels).IsStricter allowed
      (nested w asyncReserved' embedded' levels) := by
  induction levels with
  | zero =>
    exact ⟨hvw, .refl mismatch, .refl mismatch, .refl mismatch, .refl mismatch, .refl mismatch,
      .refl mismatch, hembedded, .refl mismatch, .refl mismatch⟩
  | succ levels ih =>
    exact {
      version := hvw
      expression := restricts_expressionRule ih
      disjunction := restricts_disjunctionRule ih
      inversion := restricts_inversionRule ih
      bitwiseOr := restricts_bitwiseOrRule ih
      factor := restricts_factorRule ih
      primary := restricts_primaryRule ih
      embedded := hembedded
      pattern := restricts_patternRule ih
      block := restricts_blockRule ih }

theorem embeddedUpTo_eq_some (depth : Nat) : ∀ cs e,
    ReadsAlike asyncReserved asyncReserved' (fieldSource cs) →
      embeddedUpTo v asyncReserved depth cs = some e →
        embeddedUpTo w asyncReserved' depth cs = some e := by
  induction depth with
  | zero => exact nofun
  | succ depth ih =>
    intro cs e halike
    exact embeddedExpression_eq_some (isStricter_nested hvw ih _) halike.tokensOf_eq halike.areAllowed

/-- An earlier version of the grammar is stricter at every level, where it reads the words `async`
and `await` in replacement fields like the later one. -/
theorem isStricter_level (levels : Nat) :
    (level v asyncReserved levels).IsStricter
      (fun cs => ReadsAlike asyncReserved asyncReserved' (fieldSource cs))
      (level w asyncReserved' levels) :=
  isStricter_nested hvw (fun _ => embeddedUpTo_eq_some hvw _ _) levels

end

end Grammar

/-- A version of the grammar reads a module as a later one does, or finds it ungrammatical, if
both read the words `async` and `await` in it alike. -/
theorem parseModule_eq_or {v w : Nat} (hvw : v ≤ w) {source : Text}
    (halike : ∀ cs, sourceChars source = .ok cs →
      ReadsAlike (asyncReservedSince v) (asyncReservedSince w) (moduleSource cs)) :
    parseModule v source = parseModule w source ∨ parseModule v source = .error .grammar := by
  unfold parseModule grammarFor
  cases hcs : sourceChars source with
  | error f => exact Or.inl rfl
  | ok cs =>
    have halike := halike cs hcs
    have htokens : (lex 1 (asyncReservedSince v) (moduleSource cs)).tokens =
        (lex 1 (asyncReservedSince w) (moduleSource cs)).tokens := halike.tokensOf_eq
    have hallowed := halike.areAllowed
    rw [Grammar.tokensOf, htokens] at hallowed
    simp only [ok_bind, htokens]
    unfold complete
    rcases (Grammar.restricts_module (Grammar.isStricter_level hvw _)).eq_or hallowed with heq | hrefused
    · rw [heq]
      exact Or.inl rfl
    · rw [hrefused]
      exact Or.inr rfl

theorem readsAlike_of_reserved {v w : Nat} (hv : 7 ≤ v) (hw : 7 ≤ w) (cs : List Char) :
    ReadsAlike (asyncReservedSince v) (asyncReservedSince w) cs := by
  refine Or.inl ?_
  rw [asyncReservedSince, asyncReservedSince, decide_eq_true hv, decide_eq_true hw]

/-- One of the words `async` and `await` is a name in a source text, or in a replacement field of
its format strings, for the versions in which they are not reserved. -/
def NamesAsync (source : Text) : Prop :=
  ∃ cs, sourceChars source = .ok cs ∧ HasAsyncName (moduleSource cs)

/-- A module that the latest version reads is read the same by every other one, or found
ungrammatical, unless `async` or `await` is a name for that version. -/
theorem parseModule_of_latestVersion {version : Nat} {source : Text} {m : Module}
    (hm : parseModule latestVersion source = .ok m) (hwords : 7 ≤ version ∨ ¬ NamesAsync source) :
    parseModule version source = .ok m ∨ parseModule version source = .error .grammar := by
  rcases Nat.le_total version latestVersion with hold | hnew
  · have halike : ∀ cs, sourceChars source = .ok cs →
        ReadsAlike (asyncReservedSince version) (asyncReservedSince latestVersion) (moduleSource cs) := by
      intro cs hcs
      by_cases hreserved : 7 ≤ version
      · exact readsAlike_of_reserved hreserved (by decide) _
      · have hnone : ¬ NamesAsync source := hwords.resolve_left hreserved
        exact Or.inr ⟨decide_eq_false hreserved, rfl, fun hname => hnone ⟨cs, hcs, hname⟩⟩
    rcases parseModule_eq_or hold halike with heq | hgrammar
    · exact Or.inl (heq.trans hm)
    · exact Or.inr hgrammar
  · have hreserved : 7 ≤ version := Nat.le_trans (by decide) hnew
    rcases parseModule_eq_or hnew fun cs _ => readsAlike_of_reserved (by decide) hreserved _ with
      heq | hgrammar
    · exact Or.inl (heq.symm.trans hm)
    · rw [hm] at hgrammar
      cases hgrammar

/-- A module that some version reads is read by every other one, or found ungrammatical. -/
theorem parseModule_of_eq_ok {v w : Nat} {source : Text} {m : Module}
    (hm : parseModule w source = .ok m) :
    (∃ other, parseModule v source = .ok other) ∨ parseModule v source = .error .grammar := by
  obtain ⟨cs, hcs, -⟩ := bind_eq_ok.1 hm
  unfold parseModule complete
  rw [hcs, ok_bind]
  dsimp only
  cases (grammarFor v cs.length).module (lex 1 (asyncReservedSince v) (moduleSource cs)).tokens with
  | ok r => exact Or.inl ⟨r.1, rfl⟩
  | error e => exact Or.inr rfl

end AnnotatedMarkdown.Python
