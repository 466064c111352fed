import AnnotatedMarkdown.Proofs.Python.Line.Expression
import AnnotatedMarkdown.Python.Parser.Pattern

/-!
# Patterns within a line

The head of a case stands on one line, so its pattern stays in its line as well.
-/

namespace AnnotatedMarkdown.Python.Grammar

open AnnotatedMarkdown.Python.Parser

-- An instance grows with the rule that it is for.
set_option synthInstance.maxSize 4000

/-! ## Names and literals -/

instance consuming_captureTarget : Consuming captureTarget := by
  have hends : IgnoresEnd continuesName :=
    ⟨rfl, rfl, rfl, rfl, rfl⟩
  have hlast : ∀ id : String, Local (peek >>= fun x => do
      ensure (!continuesName x)
      return id) := fun id =>
    local_peek (hends.comp fun b => do ensure (!b); return id) fun x => inferInstance
  unfold captureTarget
  refine consuming_peek ⟨rfl, rfl, rfl, rfl, rfl⟩ fun x => ?_
  split
  · infer_instance
  · infer_instance

instance consuming_dottedName : Consuming dottedName := by
  unfold dottedName
  infer_instance

variable (g : Grammar) [g.IsLocal]

omit [g.IsLocal] in
instance consuming_signedNumber : Consuming g.signedNumber := by
  unfold signedNumber
  infer_instance

omit [g.IsLocal] in
instance consuming_numberPattern : Consuming g.numberPattern := by
  have hlast : ∀ (real : Expr) (c : Constant), Local (peek >>= fun x =>
      match x with
      | some (.op .plus) => numberPattern.complex g real c .add
      | some (.op .minus) => numberPattern.complex g real c .sub
      | _ => return real) := by
    intro real c
    unfold numberPattern.complex
    refine local_peek ⟨rfl, rfl, rfl, rfl, rfl⟩ fun x => ?_
    split <;> infer_instance
  unfold numberPattern
  infer_instance

/-! ## Compositions -/

omit [g.IsLocal] in
instance consuming_orPattern (closed : Parser Pattern) [Consuming closed] :
    Consuming (orPattern closed) := by
  unfold orPattern
  infer_instance

omit [g.IsLocal] in
instance consuming_asPattern (closed : Parser Pattern) [Consuming closed] :
    Consuming (asPattern closed) := by
  unfold asPattern
  infer_instance

instance consuming_starPattern : Consuming starPattern := by
  have hname : Local (peek >>= fun x =>
      match x with
      | some (.name spelling) =>
        if spelling == wildcard then do
          advance
          return .star none
        else do return Pattern.star (some (← captureTarget))
      | _ => mismatch) := by
    refine local_peek ⟨rfl, rfl, rfl, rfl, rfl⟩ fun x => ?_
    split <;> infer_instance
  unfold starPattern
  infer_instance

instance consuming_elementPattern : Consuming g.elementPattern := by
  unfold elementPattern
  infer_instance

instance local_afterPatternParenthesis : Local g.afterPatternParenthesis := by
  unfold afterPatternParenthesis
  infer_instance

instance local_afterPatternBracket : Local g.afterPatternBracket := by
  unfold afterPatternBracket
  infer_instance

instance consuming_mappingKey : Consuming g.mappingKey := by
  have hname : Consuming (dottedName >>= fun e =>
      match e with
      | Expr.name _ => mismatch
      | e => return e) := by
    have hvalue : ∀ e, Local (match e with
        | Expr.name _ => mismatch
        | e => return e : Parser Expr) := by
      intro e
      split <;> infer_instance
    infer_instance
  unfold mappingKey
  refine consuming_peek ⟨rfl, rfl, rfl, rfl, rfl⟩ fun x => ?_
  split <;> infer_instance

instance consuming_mappingItem : Consuming g.mappingItem := by
  unfold mappingItem
  infer_instance

instance local_afterPatternBrace : Local g.afterPatternBrace := by
  unfold afterPatternBrace
  infer_instance

instance consuming_classItem : Consuming g.classItem := by
  unfold classItem
  refine consuming_peekPair ⟨fun _ => rfl, fun _ => ⟨rfl, rfl, rfl, rfl, rfl⟩, fun x => ?_⟩
    fun x y => ?_
  · cases x <;> exact ⟨rfl, rfl, rfl, rfl, rfl⟩
  · split <;> infer_instance

instance local_classRest (function : Expr) : Local (g.classRest function) := by
  unfold classRest
  infer_instance

instance consuming_namePattern : Consuming g.namePattern := by
  have hvalue : ∀ e : Expr, Local (match e with
      | .name id => return .capture none (some id)
      | _ => return .value e : Parser Pattern) := by
    intro e
    split <;> infer_instance
  unfold namePattern
  infer_instance

instance consuming_closedPattern : Consuming g.closedPattern := by
  unfold closedPattern
  refine consuming_peek ⟨rfl, rfl, rfl, rfl, rfl⟩ fun x => ?_
  split <;> infer_instance

instance consuming_patternRule : Consuming g.patternRule := by
  unfold patternRule
  infer_instance

instance consuming_casePattern : Consuming g.casePattern := by
  unfold casePattern
  infer_instance

end AnnotatedMarkdown.Python.Grammar
