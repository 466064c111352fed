import AnnotatedMarkdown.Generation.Attachment
import AnnotatedMarkdown.Proofs.Generation.Encoding

/-!
# Functions and tags of statements

A generated module defines functions and tags them in the metadata that it attaches.  This
module reads both off its statements.

* `definedFunctions` are the functions that statements define, and `attachedTags` are the
  tags in the metadata that they attach.
* `tags_encode` shows that only raw values bring tags, as they alone bring definitions.
-/

namespace AnnotatedMarkdown.Generation

open Python Outcome

/-! ## Statements -/

/-- The function that a statement defines. -/
def definedFunction? : Stmt → Option String
  | .functionDef _ name _ _ _ _ => some name
  | _ => none

/-- The functions that statements define, in their order. -/
def definedFunctions (statements : Module) : List String :=
  statements.filterMap definedFunction?

mutual

/-- The tags that the display of a value holds: the targets of its tagging calls, each with
what it is tagged with.  A deferred expression is not evaluated and holds none. -/
def tags : Expr → List (Expr × Expr)
  | .call (.name function) [target, metadata] [] =>
    if function = "with_meta" then [(target, metadata)] else []
  | .list elements => tagsOfAll elements
  | .dict items => tagsOfItems items
  | _ => []

/-- The tags that several displays hold. -/
def tagsOfAll : List Expr → List (Expr × Expr)
  | [] => []
  | e :: es => tags e ++ tagsOfAll es

/-- The tags that the items of a display hold. -/
def tagsOfItems : List DictItem → List (Expr × Expr)
  | [] => []
  | .pair _ value :: items => tags value ++ tagsOfItems items
  | .unpack value :: items => tags value ++ tagsOfItems items

end

/-- The tags in the metadata that a statement attaches. -/
def attachedTags : Stmt → List (Expr × Expr)
  | .expr (.call (.name function) [_, metadata] []) =>
    if function = "attach" then tags metadata else []
  | _ => []

theorem definedFunctions_append (statements more : Module) :
    definedFunctions (statements ++ more) = definedFunctions statements ++ definedFunctions more :=
  List.filterMap_append

theorem attachedTags_attachCall (target metadata : Expr) :
    attachedTags (attachCall target metadata) = tags metadata := by
  simp [attachCall, callWith, attachedTags]

theorem tagsOfItems_append (items more : List DictItem) :
    tagsOfItems (items ++ more) = tagsOfItems items ++ tagsOfItems more := by
  induction items with
  | nil => rfl
  | cons item items ih => cases item <;> simp [tagsOfItems, ih]

/-! ## Displays without tags -/

theorem tags_intLiteral (n : Int) : tags (intLiteral n) = [] := by
  unfold intLiteral
  split <;> rfl

theorem tags_floatLiteral (x : Binary64) : tags (floatLiteral x) = [] := by
  unfold floatLiteral
  split <;> rfl

mutual

/-- The display of a value without raw values holds no tag. -/
theorem tags_encode : (v : Value) → ∀ {e : Expr}, v.isRawFree = true →
    (encode v).outcome = .ok e → tags e = []
  | .raw _ _, e, hv, h => by simp [Value.isRawFree] at hv
  | .list items, e, hv, h | .tuple items, e, hv, h => by
    rw [encode, Encoding.outcome_bind] at h
    obtain ⟨es, hes, h⟩ := bind_eq_ok.1 h
    cases h
    exact tagsOfAll_encodeAll items (by simpa [Value.isRawFree] using hv) hes
  | .dict entries, e, hv, h => by
    rw [encode, Encoding.outcome_bind] at h
    obtain ⟨items, hitems, h⟩ := bind_eq_ok.1 h
    cases h
    exact tagsOfItems_encodeEntries entries (by simpa [Value.isRawFree] using hv) hitems
  | .deferred source, e, hv, h => by
    obtain ⟨body, -, rfl⟩ := map_eq_ok.1 (show (parseDeferred source).map lazy = .ok e from h)
    rfl
  | .bool b, e, hv, h | .str t, e, hv, h => by
    cases h
    rfl
  | .int n, e, hv, h => by
    cases h
    exact tags_intLiteral n
  | .float x, e, hv, h => by
    cases h
    exact tags_floatLiteral x
  | .none, e, hv, h | .bytes _, e, hv, h | .date _, e, hv, h | .dateTime _, e, hv, h
  | .set _, e, hv, h => by cases h

theorem tagsOfAll_encodeAll : (vs : List Value) → ∀ {es : List Expr}, areRawFree vs = true →
    (encodeAll vs).outcome = .ok es → tagsOfAll es = []
  | [], es, hvs, h => by
    cases h
    rfl
  | v :: vs, es, hvs, h => by
    simp only [areRawFree, Bool.and_eq_true] at hvs
    simp only [encodeAll, Encoding.outcome_bind] at h
    obtain ⟨e, he, h⟩ := bind_eq_ok.1 h
    obtain ⟨rest, hrest, h⟩ := bind_eq_ok.1 h
    cases h
    rw [tagsOfAll, tags_encode v hvs.1 he, tagsOfAll_encodeAll vs hvs.2 hrest]
    rfl

theorem tagsOfItems_encodeEntries : (entries : List Entry) → ∀ {items : List DictItem},
    holdsRawFree entries = true → (encodeEntries entries).outcome = .ok items →
      tagsOfItems items = []
  | [], items, hentries, h => by
    cases h
    rfl
  | .mk k v :: entries, items, hentries, h => by
    simp only [holdsRawFree, Bool.and_eq_true] at hentries
    simp only [encodeEntries, Encoding.outcome_bind] at h
    obtain ⟨key, -, h⟩ := bind_eq_ok.1 h
    obtain ⟨value, hvalue, h⟩ := bind_eq_ok.1 h
    obtain ⟨rest, hrest, h⟩ := bind_eq_ok.1 h
    cases h
    rw [tagsOfItems, tags_encode v hentries.1 hvalue,
      tagsOfItems_encodeEntries entries hentries.2 hrest]
    rfl

end

end AnnotatedMarkdown.Generation
