import AnnotatedMarkdown.Proofs.Generation.Encoding
import AnnotatedMarkdown.Proofs.Number.Digits
import AnnotatedMarkdown.Proofs.Outcome
import Mathlib.Algebra.Group.Nat.Defs

/-!
# Leaves of encoded values

Lists, tuples and mappings are encoded member by member; all other values are leaves.  An
encoding visits the leaves of a value from left to right and stops at the first one that no
expression stands for.

* `Value.leaves` lists the leaves in the order of the text, and `leafFault?` is the failure
  that a single leaf is, if it is one.
* `Visits` says that an encoding does what a visit of given leaves does.  It is kept by
  sequences (`Visits.bind`), and `visits_encode` shows it of every value by induction on its
  structure.
* `encodeTrace_leaves` reads the outcomes of several encodings, and the statements collected
  with each of them, from the leaves.
* `encode_unwritableSet` is a leaf that is not reported: it is refused, and has no text.
-/

namespace AnnotatedMarkdown

mutual

/-- The leaves of a value, from left to right. -/
def Value.leaves : Value → List Value
  | .list items => leavesOfAll items
  | .tuple items => leavesOfAll items
  | .dict entries => leavesOfEntries entries
  | v => [v]

/-- The leaves of values. -/
def leavesOfAll : List Value → List Value
  | [] => []
  | v :: vs => v.leaves ++ leavesOfAll vs

/-- The leaves of the values of entries. -/
def leavesOfEntries : List Entry → List Value
  | [] => []
  | .mk _ value :: entries => value.leaves ++ leavesOfEntries entries

end

mutual

/-- Whether the keys of all mappings in a value are texts. -/
def Value.hasTextKeys : Value → Bool
  | .list items => haveTextKeys items
  | .tuple items => haveTextKeys items
  | .dict entries => entriesHaveTextKeys entries
  | _ => true

/-- Whether the keys of all mappings in values are texts. -/
def haveTextKeys : List Value → Bool
  | [] => true
  | v :: vs => v.hasTextKeys && haveTextKeys vs

/-- Whether the keys of entries, and of all mappings in their values, are texts. -/
def entriesHaveTextKeys : List Entry → Bool
  | [] => true
  | .mk key value :: entries => key.isText && value.hasTextKeys && entriesHaveTextKeys entries

end

/-- The statements of a raw value. -/
def Value.rawStatements : Value → List Python.Stmt
  | .raw _ hoisted => hoisted
  | _ => []

namespace Generation

open Python Outcome

/-- The failure of an outcome. -/
def failure? {α : Type} : Except Failure α → Option Failure
  | .ok _ => none
  | .error f => some f

/-- Whether an expression stands for a leaf. -/
def isExpressible : Value → Bool
  | .bool _ | .str _ | .int _ | .float _ | .raw _ _ => true
  | .deferred source => (parseDeferred source).isOk
  | _ => false

/-- The failure of a leaf that no expression stands for: the fault of its deferred text, or a
report of the leaf.  A leaf without a text cannot be reported. -/
def leafFault? : Value → Option Failure
  | .bool _ | .str _ | .int _ | .float _ | .raw _ _ => none
  | .deferred source => failure? (parseDeferred source)
  | leaf =>
    some (if leaf.display.isSome then .diagnostic (.unsupported leaf) else .defect .tooManyDigits)

theorem failure?_eq_some_iff {α : Type} {x : Except Failure α} {f : Failure} :
    failure? x = some f ↔ x = .error f := by
  cases x <;> simp [failure?]

theorem failure?_eq_none_iff {α : Type} {x : Except Failure α} :
    failure? x = none ↔ x.isOk = true := by
  cases x <;> simp [failure?, Except.isOk, Except.toBool]

theorem failure?_map {α β : Type} (x : Except Failure α) (g : α → β) :
    failure? (x.map g) = failure? x := by
  cases x <;> rfl

theorem leafFault?_eq_none_iff {leaf : Value} :
    leafFault? leaf = none ↔ isExpressible leaf = true := by
  cases leaf with
  | deferred source => exact failure?_eq_none_iff
  | _ => simp [leafFault?, isExpressible]

/-- The statements of the raw values among leaves, up to the first leaf that no expression
stands for. -/
def rawStatementsUpToFault (leaves : List Value) : List Stmt :=
  (leaves.takeWhile isExpressible).flatMap Value.rawStatements

theorem rawStatementsUpToFault_append (leaves more : List Value) :
    rawStatementsUpToFault (leaves ++ more) =
      rawStatementsUpToFault leaves ++
        if leaves.all isExpressible then rawStatementsUpToFault more else [] := by
  unfold rawStatementsUpToFault
  induction leaves with
  | nil => rfl
  | cons leaf leaves ih =>
    rw [List.cons_append, List.takeWhile_cons, List.takeWhile_cons, List.all_cons]
    cases isExpressible leaf with
    | true => simp [ih]
    | false => simp

/-! ## Visits -/

/-- An encoding fails at the first leaf that no expression stands for, and collects the
statements of the leaves in front of it. -/
structure Visits {α : Type} (x : Encoding α) (leaves : List Value) : Prop where
  failure : failure? x.outcome = leaves.findSome? leafFault?
  hoisted : x.hoisted = rawStatementsUpToFault leaves

section

variable {α β : Type} {x : Encoding α} {f : α → Encoding β} {leaves more : List Value}

theorem findSome?_leafFault?_eq_none_iff :
    leaves.findSome? leafFault? = none ↔ leaves.all isExpressible = true := by
  simp [leafFault?_eq_none_iff]

theorem visits_pure (a : α) : Visits (pure a : Encoding α) [] where
  failure := rfl
  hoisted := rfl

/-- Leaves are visited one after the other. -/
theorem Visits.bind (hx : Visits x leaves) (hf : ∀ a, Visits (f a) more) :
    Visits (x >>= f) (leaves ++ more) := by
  have hfailure := hx.failure
  cases houtcome : x.outcome with
  | ok a =>
    rw [houtcome] at hfailure
    have hall : leaves.all isExpressible = true :=
      findSome?_leafFault?_eq_none_iff.1 hfailure.symm
    constructor
    · rw [Encoding.outcome_bind, houtcome, List.findSome?_append, ← hfailure]
      exact (hf a).failure
    · rw [Encoding.hoisted_bind_of_ok houtcome, rawStatementsUpToFault_append, if_pos hall,
        hx.hoisted, (hf a).hoisted]
  | error e =>
    rw [houtcome] at hfailure
    have hall : ¬ leaves.all isExpressible = true := by
      rw [← findSome?_leafFault?_eq_none_iff, ← hfailure]
      exact nofun
    constructor
    · rw [Encoding.outcome_bind, houtcome, List.findSome?_append, ← hfailure]
      rfl
    · rw [Encoding.hoisted_bind_of_error houtcome, rawStatementsUpToFault_append, if_neg hall,
        hx.hoisted, List.append_nil]

/-- What follows a visit without visiting anything itself. -/
theorem Visits.map (hx : Visits x leaves) (g : α → β) :
    Visits (x >>= fun a => pure (g a)) leaves := by
  have h := hx.bind fun a => visits_pure (g a)
  rwa [List.append_nil] at h

end

theorem unsupported_eq (v : Value) :
    Failure.unsupported v =
      if v.display.isSome then .diagnostic (.unsupported v) else .defect .tooManyDigits := by
  unfold Failure.unsupported
  cases v.display <;> rfl

/-- An encoding that collects nothing visits a leaf that is not raw, if it fails as the leaf
does. -/
theorem visits_lift {α : Type} {outcome : Except Failure α} {leaf : Value}
    (hleaf : failure? outcome = leafFault? leaf) (hraw : leaf.rawStatements = []) :
    Visits (.lift outcome) [leaf] where
  failure := by simpa using hleaf
  hoisted := by
    unfold rawStatementsUpToFault
    cases h : isExpressible leaf <;> simp [h, hraw]

mutual

/-- The encoding of a value visits its leaves. -/
theorem visits_encode : (v : Value) → v.hasTextKeys = true → Visits (encode v) v.leaves
  | .list items, h => by
    rw [encode, Value.leaves]
    exact (visits_encodeAll items (by simpa [Value.hasTextKeys] using h)).map _
  | .tuple items, h => by
    rw [encode, Value.leaves]
    exact (visits_encodeAll items (by simpa [Value.hasTextKeys] using h)).map _
  | .dict entries, h => by
    rw [encode, Value.leaves]
    exact (visits_encodeEntries entries (by simpa [Value.hasTextKeys] using h)).map _
  | .raw _ hoisted, _ => ⟨rfl, (List.append_nil hoisted).symm⟩
  | .deferred source, _ => visits_lift (failure?_map (parseDeferred source) lazy) rfl
  | .bool _, _ | .str _, _ | .int _, _ | .float _, _ => visits_lift rfl rfl
  | .none, _ | .bytes _, _ | .date _, _ | .dateTime _, _ | .set _, _ | .object _ _, _ =>
    visits_lift (congrArg some (unsupported_eq _)) rfl

theorem visits_encodeAll :
    (vs : List Value) → haveTextKeys vs = true → Visits (encodeAll vs) (leavesOfAll vs)
  | [], _ => visits_pure []
  | v :: vs, h => by
    simp only [haveTextKeys, Bool.and_eq_true] at h
    rw [encodeAll, leavesOfAll]
    exact (visits_encode v h.1).bind fun e => (visits_encodeAll vs h.2).map _

theorem visits_encodeEntries :
    (es : List Entry) → entriesHaveTextKeys es = true →
      Visits (encodeEntries es) (leavesOfEntries es)
  | [], _ => visits_pure []
  | .mk key v :: es, h => by
    simp only [entriesHaveTextKeys, Bool.and_eq_true] at h
    obtain ⟨name, rfl⟩ := Value.isText_iff.1 h.1.1
    rw [encodeEntries, leavesOfEntries]
    exact (visits_encode v h.1.2).bind fun e => (visits_encodeEntries es h.2).map _

end

theorem Visits.outcome_eq_ok_iff {α : Type} {x : Encoding α} {leaves : List Value}
    (h : Visits x leaves) :
    (∃ a, x.outcome = .ok a) ↔ ∀ leaf ∈ leaves, isExpressible leaf = true := by
  rw [← isOk_iff, ← failure?_eq_none_iff, h.failure, findSome?_leafFault?_eq_none_iff,
    List.all_eq_true]

theorem Visits.outcome_eq_error_iff {α : Type} {x : Encoding α} {leaves : List Value}
    (h : Visits x leaves) {f : Failure} :
    x.outcome = .error f ↔
      ∃ done leaf rest, leaves = done ++ leaf :: rest ∧
        (∀ d ∈ done, isExpressible d = true) ∧ leafFault? leaf = some f := by
  rw [← failure?_eq_some_iff, h.failure, List.findSome?_eq_some_iff]
  simp only [leafFault?_eq_none_iff]
  constructor
  · rintro ⟨done, leaf, rest, hleaves, hleaf, hdone⟩
    exact ⟨done, leaf, rest, hleaves, hdone, hleaf⟩
  · rintro ⟨done, leaf, rest, hleaves, hdone, hleaf⟩
    exact ⟨done, leaf, rest, hleaves, hleaf, hdone⟩

/-! ## Several encodings -/

/-- The statements that the encoding of a value collects. -/
def collectedFrom (v : Value) : List Stmt :=
  rawStatementsUpToFault v.leaves

theorem getElem?_encodeTrace (before : List Value) (v : Value) (after : List Value) (hoisted : List Stmt)
    (hkeys : ∀ w ∈ before, w.hasTextKeys = true) :
    (encodeTrace hoisted (before ++ v :: after))[before.length]? =
      some ((encode v).outcome, hoisted ++ before.flatMap collectedFrom ++ (encode v).hoisted) := by
  induction before generalizing hoisted with
  | nil => simp [encodeTrace]
  | cons w before ih =>
    have hw : (encode w).hoisted = collectedFrom w :=
      (visits_encode w (hkeys w List.mem_cons_self)).hoisted
    rw [List.cons_append, encodeTrace, List.length_cons, List.getElem?_cons_succ,
      ih _ fun u hu => hkeys u (List.mem_cons_of_mem w hu), hw, List.flatMap_cons, List.append_assoc,
      List.append_assoc, List.append_assoc, List.append_assoc]

/-- Values are encoded one after the other.  Each of them has an expression if all its leaves
have one, and fails with the fault of its first leaf that has none; the statements of the raw
leaves in front of that leaf join those collected so far. -/
theorem encodeTrace_leaves {values : List Value} (hkeys : ∀ v ∈ values, v.hasTextKeys = true)
    (hoisted : List Stmt) {before after : List Value} {v : Value}
    (hvalues : values = before ++ v :: after) :
    ∃ outcome,
      (encodeTrace hoisted values)[before.length]? =
        some (outcome, hoisted ++ before.flatMap collectedFrom ++ collectedFrom v) ∧
      ((∃ e, outcome = .ok e) ↔ ∀ leaf ∈ v.leaves, isExpressible leaf = true) ∧
      ∀ f, outcome = .error f ↔
        ∃ done leaf rest, v.leaves = done ++ leaf :: rest ∧
          (∀ d ∈ done, isExpressible d = true) ∧ leafFault? leaf = some f := by
  subst hvalues
  have hbefore : ∀ w ∈ before, w.hasTextKeys = true := fun w hw =>
    hkeys w (List.mem_append_left _ hw)
  have hvisits : Visits (encode v) v.leaves :=
    visits_encode v (hkeys v (List.mem_append_right _ List.mem_cons_self))
  refine ⟨(encode v).outcome, ?_, hvisits.outcome_eq_ok_iff, fun f => hvisits.outcome_eq_error_iff⟩
  rw [getElem?_encodeTrace before v after hoisted hbefore, hvisits.hoisted]
  rfl

/-- A value in which a leaf without an expression stands between two raw leaves, and no leaf
behind it matters. -/
def interruptedValue : Value :=
  .dict [
    .mk (.str "a") (.list [.raw (.name "x") [.pass], .int 1, .tuple [.deferred "y"]]),
    .mk (.str "b") (.list [.none, .raw (.name "z") [.expr (.name "z")], .deferred ")"])]

theorem encodeTrace_leaves_interruptedValue :
    (∀ v ∈ [interruptedValue, .str "s"], v.hasTextKeys = true) ∧
    [interruptedValue, .str "s"] = [] ++ interruptedValue :: [.str "s"] ∧
    ∃ outcome,
      (encodeTrace [] [interruptedValue, .str "s"])[0]? = some (outcome, [.pass]) ∧
      outcome = .error (.diagnostic (.unsupported .none)) := by
  have hkeys : ∀ v ∈ [interruptedValue, .str "s"], v.hasTextKeys = true := by decide
  have hvalues : [interruptedValue, .str "s"] = [] ++ interruptedValue :: [.str "s"] := rfl
  obtain ⟨outcome, hentry, -, hfault⟩ := encodeTrace_leaves hkeys [] hvalues
  refine ⟨hkeys, hvalues, outcome, hentry, (hfault _).2 ⟨_, .none, _, rfl, ?_, rfl⟩⟩
  decide +kernel

/-- A set of one integer that has too many digits for a text. -/
def unwritableSet : Value :=
  .set [.int (10 ^ maxDecimalDigits : Nat)]

theorem display_unwritableSet : unwritableSet.display = none := by
  have hall : ∀ n : Nat, 10 ^ maxDecimalDigits ≤ n → (Value.set [.int n]).display = none := by
    intro n hn
    have hlength : ¬ (Nat.toDigits 10 n).length ≤ maxDecimalDigits := by
      rwa [Nat.length_toDigits_le_iff (by decide) (by decide), Nat.not_lt]
    have htext : decimalText? n = none := if_neg hlength
    simp [Value.display, displayAll, htext]
  exact hall _ (Nat.le_refl _)

/-- A leaf without an expression is not reported if it has no text. -/
theorem encode_unwritableSet :
    unwritableSet.hasTextKeys = true ∧ unwritableSet.leaves = [unwritableSet] ∧
      isExpressible unwritableSet = false ∧
      (encode unwritableSet).outcome = .error (.defect .tooManyDigits) ∧
      (encode unwritableSet).outcome ≠ .error (.diagnostic (.unsupported unwritableSet)) := by
  have houtcome : (encode unwritableSet).outcome = .error (.defect .tooManyDigits) := by
    change Except.error (Failure.unsupported unwritableSet) = _
    rw [unsupported_eq, display_unwritableSet]
    rfl
  refine ⟨rfl, rfl, rfl, houtcome, ?_⟩
  rw [houtcome]
  exact nofun

end Generation

end AnnotatedMarkdown
