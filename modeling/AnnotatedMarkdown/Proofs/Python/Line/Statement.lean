import AnnotatedMarkdown.Proofs.Python.Line.Pattern
import AnnotatedMarkdown.Python.Parser.Statement

/-!
# Simple statements

A simple statement stays in its line, and so does what stands in front of the colon of a compound
one.  All levels of the grammar stay in their lines (`isLocal_level`), so that the rules do.
-/

namespace AnnotatedMarkdown.Python.Grammar

open AnnotatedMarkdown.Python.Parser

-- An instance grows with the rule that it is for.
set_option synthInstance.maxSize 4000

/-! ## Imports -/

instance local_asName : Local asName := by
  unfold asName
  infer_instance

instance consuming_moduleName : Consuming moduleName := by
  unfold moduleName
  infer_instance

instance consuming_importedModule : Consuming importedModule := by
  unfold importedModule
  infer_instance

instance consuming_importedName : Consuming importedName := by
  unfold importedName
  infer_instance

instance consuming_leadingDots : Consuming leadingDots := by
  unfold leadingDots
  refine consuming_peek ⟨rfl, rfl, rfl, rfl, rfl⟩ fun x => ?_
  split <;> infer_instance

instance local_importedNames : Local importedNames := by
  unfold importedNames
  infer_instance

instance consuming_importFrom : Consuming importFrom := by
  unfold importFrom
  dsimp only
  infer_instance

variable (g : Grammar) [g.IsLocal]

/-! ## Expressions as statements -/

instance consuming_annotatedRest (target : Expr) (isSimple : Bool) :
    Consuming (g.annotatedRest target isSimple) := by
  unfold annotatedRest
  infer_instance

instance consuming_expressionStatement : Consuming g.expressionStatement := by
  have hrest : ∀ e : Expr, Local (peek >>= fun x =>
      match x with
      | some (.op .colon) => do
        ensure e.isSingleTarget
        advance
        g.annotatedRest e false
      | some (.op .equal) => do
        let values ← many1 (do op .equal; g.rightHandSide)
        fromOption (arrangeAssignment e values)
      | some x =>
        match augmentedOp? x with
        | some o => do
          ensure e.isSingleTarget
          advance
          let value ← g.rightHandSide
          if o = .matMult then g.since 5
          return .augAssign e o value
        | none => return .expr e
      | none => return .expr e) := by
    intro e
    refine local_peek ⟨rfl, rfl, rfl, rfl, rfl⟩ fun x => ?_
    split
    · infer_instance
    · infer_instance
    · split <;> infer_instance
    · infer_instance
  unfold expressionStatement
  refine consuming_peekPair ⟨fun _ => rfl, fun _ => ⟨rfl, rfl, rfl, rfl, rfl⟩, fun x => ?_⟩
    fun x y => ?_
  · cases x with
    | name => exact ⟨rfl, rfl, rfl, rfl, rfl⟩
    | word w => cases w <;> exact ⟨rfl, rfl, rfl, rfl, rfl⟩
    | _ => exact ⟨rfl, rfl, rfl, rfl, rfl⟩
  · split <;> infer_instance

/-! ## Simple statements -/

instance consuming_raise : Consuming g.raise := by
  have hcause : ∀ e, Local (match e with
      | none => return .raise none none
      | some e => return .raise (some e) (← after? (.word .from) g.expression) : Parser Stmt) := by
    intro e
    split <;> infer_instance
  unfold raise
  infer_instance

instance consuming_delete : Consuming g.delete := by
  unfold delete
  infer_instance

instance consuming_simpleStatement : Consuming g.simpleStatement := by
  unfold simpleStatement
  refine consuming_peek ⟨rfl, rfl, rfl, rfl, rfl⟩ fun x => ?_
  split <;> infer_instance

/-! ## Compound statements -/

instance consuming_subject : Consuming g.subject := by
  have hvalue : ∀ (elements : List Expr) (trailing : Bool), Local (match elements, trailing with
      | [.starred _], false => mismatch
      | _, _ => return tupleOf elements trailing : Parser Expr) := by
    intro elements trailing
    split <;> infer_instance
  unfold subject
  infer_instance

/-! ## Levels -/

/-- The grammar stays in a line at every level. -/
instance isLocal_level (version : Nat) (asyncReserved : Bool) (levels : Nat) :
    (level version asyncReserved levels).IsLocal := by
  induction levels with
  | zero =>
    exact {
      expression := inferInstanceAs (Consuming mismatch)
      disjunction := inferInstanceAs (Consuming mismatch)
      inversion := inferInstanceAs (Consuming mismatch)
      bitwiseOr := inferInstanceAs (Consuming mismatch)
      factor := inferInstanceAs (Consuming mismatch)
      primary := inferInstanceAs (Consuming mismatch)
      pattern := inferInstanceAs (Consuming mismatch) }
  | succ levels ih =>
    exact {
      expression := consuming_expressionRule (level version asyncReserved levels)
      disjunction := consuming_disjunctionRule (level version asyncReserved levels)
      inversion := consuming_inversionRule (level version asyncReserved levels)
      bitwiseOr := consuming_bitwiseOrRule (level version asyncReserved levels)
      factor := consuming_factorRule (level version asyncReserved levels)
      primary := consuming_primaryRule (level version asyncReserved levels)
      pattern := consuming_patternRule (level version asyncReserved levels) }

end AnnotatedMarkdown.Python.Grammar
