import AnnotatedMarkdown.Inference.Derivation
import AnnotatedMarkdown.Proofs.Inference.FunctionName
import AnnotatedMarkdown.Proofs.Outcome

/-!
# Numbers of examples

The derivation of metadata hands a number from example to example and from entity to
entity.  Here the reading of the examples is taken apart from their numbering.

* `examine` reads one example, and `examined` all examples of an entity.  No number is
  involved, so that every failure comes from here.
* `numberedEntries` and `completed` put the examples into metadata with the numbers from a
  given one on.
* `deriveAll_eq` is the derivation in these terms: all entities are examined, then their
  examples are numbered one after the other.
-/

namespace AnnotatedMarkdown.Inference

open Documentation Generation Python Outcome

/-! ## Examples -/

/-- The statements of an example, if they can be a function. -/
def examine (s : Settings) (reference : Text) (e : Example) : Except Failure Module := do
  let name := e.name.getD []
  let body ← parseSource s reference name e.source
  if name.contains (.scalar '\x00') then
    throw (.defect .nullCharacter)
  else
    match bodyFault? body with
    | some .rule => throw (.diagnostic (.sample .functionBody reference name))
    | some .reservedIdentifier => throw (.defect .reservedIdentifier)
    | none => return body

/-- The function of an example. -/
def exampleFunction (name : String) (body : Module) : Stmt :=
  .functionDef false name [] (definitionBody body) [] none

/-- The entry of an example with a number. -/
def numberedEntry (s : Settings) (number : Nat) (e : Example) (body : Module) : Entries :=
  exampleEntry (e.name.getD []) e (s.identifier number) (exampleFunction (s.identifier number) body)

/-- The entries of examples with the numbers from a given one on. -/
def numberedEntries (s : Settings) (number : Nat) : List (Example × Module) → List Value
  | [] => []
  | (e, body) :: examples =>
    .dict (numberedEntry s number e body) :: numberedEntries s (number + 1) examples

variable {s : Settings}

theorem inferExample_eq (hs : s.HasIdentifier) (number : Nat) (reference : Text) (e : Example) :
    (inferExample s number reference e).1 =
      (examine s reference e).map (numberedEntry s number e) := by
  rw [inferExample, examine]
  cases hsource : parseSource s reference (e.name.getD []) e.source with
  | error f => rfl
  | ok body =>
    simp only [defineExample, functionDefinition_functionName hs, ok_bind]
    split
    · rfl
    · cases bodyFault? body with
      | none => rfl
      | some fault => cases fault <;> rfl

theorem next_inferExample {number : Nat} {reference : Text} {e : Example} {body : Module}
    (h : examine s reference e = .ok body) :
    (inferExample s number reference e).2 = number + 1 := by
  obtain ⟨parsed, hparsed, -⟩ := bind_eq_ok.1 h
  simp [inferExample, hparsed]

/-- The examples of a documentation text with their statements. -/
def examineAll (s : Settings) (reference : Text) (examples : List Example) :
    Except Failure (List (Example × Module)) :=
  examples.mapM fun e => (examine s reference e).map (e, ·)

theorem inferAll_eq (hs : s.HasIdentifier) (number : Nat) (reference : Text)
    (examples : List Example) :
    (inferAll s number reference examples).1 =
        (examineAll s reference examples).map (numberedEntries s number) ∧
      ∀ {read}, examineAll s reference examples = .ok read →
        (inferAll s number reference examples).2 = number + read.length := by
  induction examples generalizing number with
  | nil => exact ⟨rfl, fun h => by cases h; rfl⟩
  | cons e examples ih =>
    have hfirst := inferExample_eq hs number reference e
    have hcons : examineAll s reference (e :: examples) =
        (examine s reference e).map (e, ·) >>= fun x =>
          examineAll s reference examples >>= fun xs => .ok (x :: xs) :=
      List.mapM_cons
    rw [inferAll, hcons]
    cases hexamine : examine s reference e with
    | error f =>
      rw [hexamine] at hfirst
      rw [show inferExample s number reference e = (.error f, (inferExample s number reference e).2)
        from Prod.ext hfirst rfl]
      exact ⟨rfl, fun h => by cases h⟩
    | ok body =>
      rw [hexamine] at hfirst
      rw [show inferExample s number reference e = (.ok (numberedEntry s number e body), number + 1)
        from Prod.ext hfirst (next_inferExample hexamine)]
      obtain ⟨houtcome, hnext⟩ := ih (number + 1)
      cases hrest : examineAll s reference examples with
      | error f =>
        rw [hrest] at houtcome
        dsimp only
        rw [show inferAll s (number + 1) reference examples =
          (.error f, (inferAll s (number + 1) reference examples).2) from Prod.ext houtcome rfl]
        exact ⟨rfl, fun h => by cases h⟩
      | ok read =>
        rw [hrest] at houtcome
        dsimp only
        rw [show inferAll s (number + 1) reference examples =
          (.ok (numberedEntries s (number + 1) read), number + 1 + read.length)
          from Prod.ext houtcome (hnext hrest)]
        refine ⟨rfl, fun h => ?_⟩
        cases h
        simp only [List.length_cons]
        omega

/-! ## Entities -/

/-- The documentation of metadata, unless it is empty or no text. -/
def documentation? (metadata : Entries) : Option Text :=
  match metadata.get? (.str "documentation") with
  | some (.str documentation) => if documentation.isEmpty then none else some documentation
  | _ => none

/-- The examples of metadata with their statements. -/
def examined (s : Settings) (reference : Text) (metadata : Entries) :
    Except Failure (List (Example × Module)) :=
  match documentation? (inferDeprecated metadata) with
  | some documentation => examineAll s reference (Markdown.examples documentation)
  | none => .ok []

/-- The entries that numbered examples add to metadata, which are none without examples. -/
def examplesField (s : Settings) (number : Nat) (examples : List (Example × Module)) : Entries :=
  if examples.isEmpty then []
  else [.mk (.str "examples") (.list (numberedEntries s number examples))]

/-- Metadata with all derived fields, with given examples and the number of the first one. -/
def completed (s : Settings) (number : Nat) (metadata : Entries)
    (examples : List (Example × Module)) : Entries :=
  let metadata := inferDeprecated metadata
  match documentation? metadata with
  | some documentation =>
    (metadata.putAll (examplesField s number examples)).put (.str "documentation")
      (.str (rewrite documentation))
  | none => metadata

theorem deriveMetadata_of_documentation (s : Settings) (number : Nat) (reference : Text)
    (metadata : Entries) :
    deriveMetadata s number reference metadata =
      match documentation? (inferDeprecated metadata) with
      | some documentation =>
        ((infer s number reference documentation).1.map fun inferred =>
            ((inferDeprecated metadata).putAll inferred).put (.str "documentation")
              (.str (rewrite documentation)),
          (infer s number reference documentation).2)
      | none => (.ok (inferDeprecated metadata), number) := by
  unfold deriveMetadata documentation?
  dsimp only
  rcases (inferDeprecated metadata).get? (.str "documentation") with - | v
  · rfl
  · cases v with
    | str documentation => cases documentation <;> rfl
    | _ => rfl

theorem infer_eq (hs : s.HasIdentifier) (number : Nat) (reference documentation : Text) :
    (infer s number reference documentation).1 =
        (examineAll s reference (Markdown.examples documentation)).map (examplesField s number) ∧
      ∀ {read}, examineAll s reference (Markdown.examples documentation) = .ok read →
        (infer s number reference documentation).2 = number + read.length := by
  rw [infer, inferExamples]
  cases hexamples : Markdown.examples documentation with
  | nil => exact ⟨rfl, fun h => by cases h; rfl⟩
  | cons e es =>
    obtain ⟨houtcome, hnext⟩ := inferAll_eq hs number reference (e :: es)
    refine ⟨?_, hnext⟩
    change ((inferAll s number reference (e :: es)).1.map _) = _
    rw [houtcome]
    cases hread : examineAll s reference (e :: es) with
    | error f => rfl
    | ok read =>
      cases read with
      | nil =>
        have hlength : (e :: es).length = 0 := by
          have := length_of_mapM_eq_ok hread
          simpa using this.symm
        simp at hlength
      | cons x xs => rfl

theorem deriveMetadata_eq (hs : s.HasIdentifier) (number : Nat) (reference : Text)
    (metadata : Entries) :
    (deriveMetadata s number reference metadata).1 =
        (examined s reference metadata).map (completed s number metadata) ∧
      ∀ {read}, examined s reference metadata = .ok read →
        (deriveMetadata s number reference metadata).2 = number + read.length := by
  rw [deriveMetadata_of_documentation, examined]
  cases hdocumentation : documentation? (inferDeprecated metadata) with
  | none => exact ⟨by simp [completed, hdocumentation], fun h => by cases h; rfl⟩
  | some documentation =>
    obtain ⟨houtcome, hnext⟩ := infer_eq hs number reference documentation
    refine ⟨?_, fun h => hnext h⟩
    dsimp only
    rw [houtcome]
    cases examineAll s reference (Markdown.examples documentation) with
    | error f => rfl
    | ok read => simp [completed, hdocumentation]

/-- An entity with the examples of its documentation. -/
abbrev Examined := Entity × List (Example × Module)

/-- The examples of an entity with their statements, next to the entity. -/
def examineEntity (s : Settings) (e : Entity) : Except Failure Examined :=
  (examined s e.reference e.metadata).map (e, ·)

/-- An entity with all derived fields, the examples numbered from a given number on. -/
def numbered (s : Settings) (number : Nat) (x : Examined) : Entity :=
  { x.1 with metadata := completed s number x.1.metadata x.2 }

/-- Entities with all derived fields, their examples numbered one after the other. -/
def numberAll (s : Settings) (number : Nat) : List Examined → List Entity
  | [] => []
  | x :: xs => numbered s number x :: numberAll s (number + x.2.length) xs

/-- The derivation examines all entities and then numbers all examples. -/
theorem deriveAll_eq (hs : s.HasIdentifier) (number : Nat) (entities : List Entity) :
    deriveAll s number entities =
      (entities.mapM (examineEntity s)).map (numberAll s number) := by
  induction entities generalizing number with
  | nil => rfl
  | cons e entities ih =>
    obtain ⟨houtcome, hnext⟩ := deriveMetadata_eq hs number e.reference e.metadata
    rw [deriveAll, List.mapM_cons, examineEntity]
    cases hexamined : examined s e.reference e.metadata with
    | error f =>
      rw [hexamined] at houtcome
      rw [show deriveMetadata s number e.reference e.metadata =
        (.error f, (deriveMetadata s number e.reference e.metadata).2) from Prod.ext houtcome rfl]
      rfl
    | ok read =>
      rw [hexamined] at houtcome
      rw [show deriveMetadata s number e.reference e.metadata =
        (.ok (completed s number e.metadata read), number + read.length)
        from Prod.ext houtcome (hnext hexamined)]
      dsimp only
      rw [ih]
      cases entities.mapM (examineEntity s) <;> rfl

end AnnotatedMarkdown.Inference
