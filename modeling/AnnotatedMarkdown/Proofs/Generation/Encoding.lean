import AnnotatedMarkdown.Generation.Encoding
import AnnotatedMarkdown.Proofs.Annotation.Rawness

/-!
# Statements that values need

An encoding has two parts, its outcome and the statements in front of it.  The lemmas of
this module say how both parts are put together.

* `outcome_bind` and `hoisted_bind_of_ok` read the two parts of a sequence of encodings.
* `encodeEntries_append` encodes a mapping in two pieces.
* `hoisted_encode` shows that only raw values need statements in front of an expression.
-/

namespace AnnotatedMarkdown.Generation

open Python

namespace Encoding

variable {α β : Type}

@[simp] theorem outcome_pure (a : α) : (pure a : Encoding α).outcome = .ok a :=
  rfl

@[simp] theorem hoisted_pure (a : α) : (pure a : Encoding α).hoisted = [] :=
  rfl

@[simp] theorem outcome_lift (x : Except Failure α) : (lift x).outcome = x :=
  rfl

@[simp] theorem hoisted_lift (x : Except Failure α) : (lift x).hoisted = [] :=
  rfl

theorem outcome_bind (x : Encoding α) (f : α → Encoding β) :
    (x >>= f).outcome = x.outcome >>= fun a => (f a).outcome := by
  obtain ⟨outcome, hoisted⟩ := x
  cases outcome <;> rfl

theorem hoisted_bind_of_ok {x : Encoding α} {a : α} (h : x.outcome = .ok a) (f : α → Encoding β) :
    (x >>= f).hoisted = x.hoisted ++ (f a).hoisted := by
  obtain ⟨outcome, hoisted⟩ := x
  obtain rfl : outcome = .ok a := h
  rfl

theorem hoisted_bind_of_error {x : Encoding α} {e : Failure} (h : x.outcome = .error e)
    (f : α → Encoding β) : (x >>= f).hoisted = x.hoisted := by
  obtain ⟨outcome, hoisted⟩ := x
  obtain rfl : outcome = .error e := h
  rfl

theorem hoisted_bind_eq_nil {x : Encoding α} {f : α → Encoding β} (hx : x.hoisted = [])
    (hf : ∀ a, (f a).hoisted = []) : (x >>= f).hoisted = [] := by
  obtain ⟨outcome, hoisted⟩ := x
  obtain rfl : hoisted = [] := hx
  cases outcome with
  | ok a => exact (List.nil_append _).trans (hf a)
  | error e => rfl

theorem eq_of_parts {x y : Encoding α} (houtcome : x.outcome = y.outcome)
    (hhoisted : x.hoisted = y.hoisted) : x = y := by
  obtain ⟨outcome, hoisted⟩ := x
  obtain rfl : outcome = y.outcome := houtcome
  obtain rfl : hoisted = y.hoisted := hhoisted
  rfl

theorem bind_assoc (x : Encoding α) (f : α → Encoding β) {γ : Type} (g : β → Encoding γ) :
    x >>= f >>= g = x >>= fun a => f a >>= g := by
  obtain ⟨outcome, hoisted⟩ := x
  cases outcome with
  | error e => rfl
  | ok a =>
    change (⟨(f a).outcome, hoisted ++ (f a).hoisted⟩ >>= g : Encoding γ) =
      ⟨(f a >>= g).outcome, hoisted ++ (f a >>= g).hoisted⟩
    cases hf : (f a).outcome with
    | error e =>
      refine eq_of_parts ?_ ?_ <;> simp [bind, hf]
    | ok b =>
      refine eq_of_parts ?_ ?_ <;> simp [bind, hf]

theorem pure_bind (a : α) (f : α → Encoding β) : (pure a : Encoding α) >>= f = f a :=
  rfl

end Encoding

open Encoding

/-- The entries of a mapping are encoded in their order. -/
theorem encodeEntries_append (before after : Entries) :
    encodeEntries (before ++ after) = (do
      let items ← encodeEntries before
      let more ← encodeEntries after
      return items ++ more) := by
  induction before with
  | nil =>
    rw [List.nil_append, encodeEntries, Encoding.pure_bind]
    refine eq_of_parts ?_ ?_
    · rw [outcome_bind]
      cases (encodeEntries after).outcome <;> rfl
    · obtain ⟨outcome, hoisted⟩ := encodeEntries after
      cases outcome
      · rfl
      · exact (List.append_nil hoisted).symm
  | cons e before ih =>
    obtain ⟨k, v⟩ := e
    simp only [List.cons_append, encodeEntries, ih, Encoding.bind_assoc, Encoding.pure_bind]

mutual

/-- A value without raw values needs no statements. -/
theorem hoisted_encode : (v : Value) → v.isRawFree = true → (encode v).hoisted = []
  | .raw _ _, h => by simp [Value.isRawFree] at h
  | .list items, h => by
    rw [encode]
    exact hoisted_bind_eq_nil (hoisted_encodeAll items (by simpa [Value.isRawFree] using h))
      fun _ => rfl
  | .tuple items, h => by
    rw [encode]
    exact hoisted_bind_eq_nil (hoisted_encodeAll items (by simpa [Value.isRawFree] using h))
      fun _ => rfl
  | .dict entries, h => by
    rw [encode]
    exact hoisted_bind_eq_nil (hoisted_encodeEntries entries (by simpa [Value.isRawFree] using h))
      fun _ => rfl
  | .none, _ | .bool _, _ | .str _, _ | .int _, _ | .float _, _ | .bytes _, _ | .date _, _
  | .dateTime _, _ | .set _, _ | .deferred _, _ | .object _ _, _ => rfl

theorem hoisted_encodeAll : (vs : List Value) → areRawFree vs = true → (encodeAll vs).hoisted = []
  | [], _ => rfl
  | v :: vs, h => by
    simp only [areRawFree, Bool.and_eq_true] at h
    rw [encodeAll]
    exact hoisted_bind_eq_nil (hoisted_encode v h.1) fun _ =>
      hoisted_bind_eq_nil (hoisted_encodeAll vs h.2) fun _ => rfl

theorem hoisted_encodeEntries :
    (es : List Entry) → holdsRawFree es = true → (encodeEntries es).hoisted = []
  | [], _ => rfl
  | .mk _ v :: es, h => by
    simp only [holdsRawFree, Bool.and_eq_true] at h
    rw [encodeEntries]
    exact hoisted_bind_eq_nil rfl fun _ => hoisted_bind_eq_nil (hoisted_encode v h.1) fun _ =>
      hoisted_bind_eq_nil (hoisted_encodeEntries es h.2) fun _ => rfl

end

theorem hoisted_encodeMapping {entries : Entries} (h : entries.IsFieldList) :
    (encodeMapping entries).hoisted = [] :=
  hoisted_bind_eq_nil (hoisted_encodeEntries entries h.rawFree) fun _ => rfl

end AnnotatedMarkdown.Generation
