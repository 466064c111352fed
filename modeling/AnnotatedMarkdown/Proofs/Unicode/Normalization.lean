import AnnotatedMarkdown.Unicode.Normalization

/-!
# Normalization in front of ASCII characters

An ASCII character decomposes into itself, is no mark, and is the second part of no
composite.  So none of the three passes of normalization carries anything over it.

* `canonicalOrder_append` and `composeAll_append` say this of the two passes that look at
  neighbours.
* `normalizeIdentifier_append` joins them: ASCII characters behind an identifier stay, and
  the identifier is normalized without regard to them.
-/

namespace AnnotatedMarkdown.Unicode

/-- All numbers are those of ASCII characters. -/
def AreAscii (ns : List Nat) : Prop :=
  ∀ n ∈ ns, n < 128

theorem decompose_of_ascii {n : Nat} (h : n < 128) : decompose n = [n] := by
  simp [decompose, h]

theorem classOf_of_ascii {n : Nat} (h : n < 128) : classOf n = 0 := by
  simp [classOf, h]

theorem compose?_of_ascii {b : Nat} (h : b < 128) (a : Nat) : compose? a b = none := by
  simp [compose?, h]

theorem flatMap_decompose_of_ascii {ns : List Nat} (h : AreAscii ns) : ns.flatMap decompose = ns := by
  induction ns with
  | nil => rfl
  | cons n ns ih =>
    rw [List.flatMap_cons, decompose_of_ascii (h n List.mem_cons_self),
      ih fun m hm => h m (List.mem_cons_of_mem n hm)]
    rfl

/-! ## Order -/

theorem insertMark_starter (n : Nat) (ordered : List (Nat × Nat)) :
    insertMark (n, 0) ordered = (n, 0) :: ordered := by
  cases ordered <;> simp [insertMark]

theorem canonicalOrder_append (ns : List Nat) {tail : List Nat} (h : AreAscii tail) :
    canonicalOrder (ns ++ tail) = canonicalOrder ns ++ tail.map (·, 0) := by
  have hfold : ∀ ordered, tail.foldl (fun ordered n => insertMark (n, classOf n) ordered) ordered =
      (tail.map (·, 0)).reverse ++ ordered := by
    induction tail with
    | nil => exact fun ordered => rfl
    | cons n tail ih =>
      intro ordered
      rw [List.foldl_cons, ih fun m hm => h m (List.mem_cons_of_mem n hm),
        classOf_of_ascii (h n List.mem_cons_self), insertMark_starter]
      simp
  rw [canonicalOrder, canonicalOrder, List.foldl_append, hfold, List.reverse_append,
    List.reverse_reverse]

/-! ## Composition -/

/-- What composition has read, from the end. -/
def Composition.read (c : Composition) : List Nat :=
  c.marks.map (·.1) ++ c.starter.toList ++ c.before

theorem composeAll_eq (ordered : List (Nat × Nat)) :
    composeAll ordered = (ordered.foldl Composition.add ⟨[], none, []⟩).read.reverse :=
  rfl

/-- An ASCII character joins nothing that comes before it. -/
theorem read_add_of_ascii (c : Composition) {n : Nat} (h : n < 128) :
    (c.add (n, 0)).read = n :: c.read := by
  obtain ⟨before, starter, marks⟩ := c
  cases starter with
  | none => simp [Composition.add, Composition.read]
  | some s =>
    have hnone : ∀ blocked : Bool, (if blocked then none else compose? s n) = none := by
      simp [compose?_of_ascii h]
    simp only [Composition.add, hnone]
    simp [Composition.read]

theorem composeAll_append (ordered : List (Nat × Nat)) {tail : List Nat} (h : AreAscii tail) :
    composeAll (ordered ++ tail.map (·, 0)) = composeAll ordered ++ tail := by
  have hfold : ∀ c : Composition, ((tail.map (·, 0)).foldl Composition.add c).read =
      tail.reverse ++ c.read := by
    induction tail with
    | nil => exact fun c => rfl
    | cons n tail ih =>
      intro c
      rw [List.map_cons, List.foldl_cons, ih fun m hm => h m (List.mem_cons_of_mem n hm),
        read_add_of_ascii c (h n List.mem_cons_self)]
      simp
  rw [composeAll_eq, composeAll_eq, List.foldl_append, hfold, List.reverse_append,
    List.reverse_reverse]

/-! ## Identifiers -/

/-- ASCII characters behind an identifier stay as they are and change nothing in front of
them. -/
theorem normalizeIdentifier_append (cs : List Char) {tail : List Char}
    (h : ∀ c ∈ tail, c.toNat < 128) :
    normalizeIdentifier (cs ++ tail) = normalizeIdentifier cs ++ tail := by
  have htail : AreAscii (tail.map Char.toNat) := by
    intro n hn
    obtain ⟨c, hc, rfl⟩ := List.mem_map.1 hn
    exact h c hc
  have hall : (cs ++ tail).all (·.toNat < 128) = cs.all (·.toNat < 128) := by
    have htrue : tail.all (·.toNat < 128) = true := List.all_eq_true.2 (by simpa using h)
    rw [List.all_append, htrue, Bool.and_true]
  have hback : (tail.map Char.toNat).map Char.ofNat = tail := by
    simp [Function.comp_def]
  rw [normalizeIdentifier, normalizeIdentifier, hall]
  split
  · rfl
  · rw [List.map_append, List.flatMap_append, flatMap_decompose_of_ascii htail,
      canonicalOrder_append _ htail, composeAll_append _ htail, List.map_append, hback]

end AnnotatedMarkdown.Unicode
