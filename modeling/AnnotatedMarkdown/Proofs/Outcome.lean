/-!
# Outcomes

Laws of outcomes, which are results or failures, and of lists that are traversed up to the
first failure.

* `map_eq_ok`, `mapError_eq_ok` and `bind_eq_ok` take a result apart, and `bind_eq_error` a
  failure.
* `mapM_cons_eq_ok` and `exists_of_mapM_eq_ok` do so for the results of a traversal, and
  `mapM_eq_error_iff` finds the element at which a traversal fails.
* `mapM_eq_ok_map` and `exists_results` go the other way: elements that all have results make
  a traversal with a result.
-/

namespace AnnotatedMarkdown.Outcome

variable {ε α β γ : Type}

theorem map_eq_ok {x : Except ε α} {f : α → β} {b : β} :
    x.map f = .ok b ↔ ∃ a, x = .ok a ∧ f a = b := by
  cases x <;> simp [Except.map]

theorem map_eq_error {x : Except ε α} {f : α → β} {e : ε} : x.map f = .error e ↔ x = .error e := by
  cases x <;> simp [Except.map]

theorem mapError_eq_ok {δ : Type} {x : Except ε α} {f : ε → δ} {a : α} :
    x.mapError f = .ok a ↔ x = .ok a := by
  constructor
  · intro h
    cases x with
    | ok b =>
      cases h
      rfl
    | error e => cases h
  · intro h
    cases h
    rfl

theorem mapError_eq_error {δ : Type} {x : Except ε α} {f : ε → δ} {e : δ} :
    x.mapError f = .error e ↔ ∃ e', x = .error e' ∧ f e' = e := by
  constructor
  · intro h
    cases x with
    | ok a => cases h
    | error e' =>
      cases h
      exact ⟨e', rfl, rfl⟩
  · rintro ⟨e', rfl, rfl⟩
    rfl

theorem bind_eq_ok {x : Except ε α} {f : α → Except ε β} {b : β} :
    (x >>= f) = .ok b ↔ ∃ a, x = .ok a ∧ f a = .ok b := by
  cases x <;> simp [bind, Except.bind]

theorem bind_eq_error {x : Except ε α} {f : α → Except ε β} {e : ε} :
    (x >>= f) = .error e ↔ x = .error e ∨ ∃ a, x = .ok a ∧ f a = .error e := by
  cases x <;> simp [bind, Except.bind]

@[simp] theorem ok_bind (a : α) (f : α → Except ε β) : (Except.ok a >>= f) = f a :=
  rfl

@[simp] theorem error_bind (e : ε) (f : α → Except ε β) : (Except.error e >>= f) = .error e :=
  rfl

@[simp] theorem map_ok (a : α) (f : α → β) : (Except.ok a : Except ε α).map f = .ok (f a) :=
  rfl

@[simp] theorem map_error (e : ε) (f : α → β) : (Except.error e : Except ε α).map f = .error e :=
  rfl

theorem toOption_eq_some_iff {x : Except ε α} {a : α} : x.toOption = some a ↔ x = .ok a := by
  cases x <;> simp [Except.toOption]

theorem isOk_iff {x : Except ε α} : x.isOk = true ↔ ∃ a, x = .ok a := by
  cases x <;> simp [Except.isOk, Except.toBool]

/-- A success next to something else. -/
theorem exists_eq_ok_of_isOk {x : Except ε α × β} (h : x.1.isOk = true) :
    ∃ a b, x = (.ok a, b) := by
  obtain ⟨outcome, b⟩ := x
  obtain ⟨a, rfl⟩ := isOk_iff.1 h
  exact ⟨a, b, rfl⟩

/-! ## Traversals -/

/-- A traversal has a result if its first element has one and its other elements have. -/
theorem mapM_cons_eq_ok {f : α → Except ε β} {a : α} {as : List α} {bs : List β} :
    (a :: as).mapM f = .ok bs ↔ ∃ b rest, f a = .ok b ∧ as.mapM f = .ok rest ∧ b :: rest = bs := by
  rw [List.mapM_cons]
  constructor
  · intro h
    obtain ⟨b, hb, h⟩ := bind_eq_ok.1 h
    obtain ⟨rest, hrest, h⟩ := bind_eq_ok.1 h
    cases h
    exact ⟨b, rest, hb, hrest, rfl⟩
  · rintro ⟨b, rest, hb, hrest, rfl⟩
    rw [hb, hrest]
    rfl

theorem length_of_mapM_eq_ok {f : α → Except ε β} {as : List α} {bs : List β}
    (h : as.mapM f = .ok bs) : bs.length = as.length := by
  induction as generalizing bs with
  | nil =>
    cases h
    rfl
  | cons a as ih =>
    obtain ⟨b, rest, -, hrest, rfl⟩ := mapM_cons_eq_ok.1 h
    simp [ih hrest]

/-- All elements of a traversal without failure have results. -/
theorem exists_of_mapM_eq_ok {f : α → Except ε β} {as : List α} {bs : List β}
    (h : as.mapM f = .ok bs) {a : α} (ha : a ∈ as) : ∃ b, f a = .ok b := by
  induction as generalizing bs with
  | nil => simp at ha
  | cons x as ih =>
    obtain ⟨b, rest, hb, hrest, -⟩ := mapM_cons_eq_ok.1 h
    rcases List.mem_cons.1 ha with rfl | ha
    · exact ⟨b, hb⟩
    · exact ih hrest ha

/-- The result of an element stands where the element stands. -/
theorem getElem?_of_mapM_eq_ok {f : α → Except ε β} {as : List α} {bs : List β}
    (h : as.mapM f = .ok bs) {j : Nat} {a : α} (ha : as[j]? = some a) :
    ∃ b, f a = .ok b ∧ bs[j]? = some b := by
  induction as generalizing bs j with
  | nil => cases ha
  | cons x as ih =>
    obtain ⟨b, rest, hb, hrest, rfl⟩ := mapM_cons_eq_ok.1 h
    cases j with
    | zero =>
      cases ha
      exact ⟨b, hb, rfl⟩
    | succ j => exact ih hrest ha

/-- Every result of a traversal is the result of an element. -/
theorem exists_of_mem_of_mapM_eq_ok {f : α → Except ε β} {as : List α} {bs : List β}
    (h : as.mapM f = .ok bs) {b : β} (hb : b ∈ bs) : ∃ a ∈ as, f a = .ok b := by
  induction as generalizing bs with
  | nil =>
    cases h
    simp at hb
  | cons a as ih =>
    obtain ⟨first, rest, hfirst, hrest, rfl⟩ := mapM_cons_eq_ok.1 h
    rcases List.mem_cons.1 hb with rfl | hb
    · exact ⟨a, List.mem_cons_self, hfirst⟩
    · obtain ⟨c, hc, hcb⟩ := ih hrest hb
      exact ⟨c, List.mem_cons_of_mem a hc, hcb⟩

/-- A traversal of elements that have results collects these results. -/
theorem mapM_eq_ok_map {f : α → Except ε β} {g : α → β} {as : List α}
    (h : ∀ a ∈ as, f a = .ok (g a)) : as.mapM f = .ok (as.map g) := by
  induction as with
  | nil => rfl
  | cons a as ih =>
    rw [List.mapM_cons, h a List.mem_cons_self, ih fun b hb => h b (List.mem_cons_of_mem a hb)]
    rfl

/-- A traversal fails with the failure of the first element that fails. -/
theorem mapM_eq_error {f : α → Except ε β} {before after : List α} {a : α} {e : ε}
    (hbefore : ∀ b ∈ before, (f b).isOk = true) (ha : f a = .error e) :
    (before ++ a :: after).mapM f = .error e := by
  induction before with
  | nil =>
    rw [List.nil_append, List.mapM_cons, ha]
    rfl
  | cons b before ih =>
    have hb : (f b).isOk = true := hbefore b List.mem_cons_self
    rw [List.cons_append, List.mapM_cons, ih fun c hc => hbefore c (List.mem_cons_of_mem b hc)]
    cases hfb : f b with
    | error e' => simp [hfb, Except.isOk, Except.toBool] at hb
    | ok c => rfl

/-- A traversal that fails does so at an element, with those in front of it having results. -/
theorem mapM_eq_error_iff {f : α → Except ε β} {as : List α} {e : ε} :
    as.mapM f = .error e ↔
      ∃ before a after, as = before ++ a :: after ∧ (∀ b ∈ before, (f b).isOk = true) ∧
        f a = .error e := by
  constructor
  · intro h
    induction as with
    | nil => cases h
    | cons a as ih =>
      rw [List.mapM_cons] at h
      rcases bind_eq_error.1 h with ha | ⟨b, hb, h⟩
      · exact ⟨[], a, as, rfl, by simp, ha⟩
      · rcases bind_eq_error.1 h with hrest | ⟨_, _, hpure⟩
        · obtain ⟨before, c, after, rfl, hbefore, hc⟩ := ih hrest
          refine ⟨a :: before, c, after, rfl, ?_, hc⟩
          exact List.forall_mem_cons.2 ⟨isOk_iff.2 ⟨b, hb⟩, hbefore⟩
        · cases hpure
  · rintro ⟨before, a, after, rfl, hbefore, ha⟩
    exact mapM_eq_error hbefore ha

/-- Elements without failures have results. -/
theorem exists_results [Nonempty β] {f : α → Except ε β} {as : List α}
    (h : ∀ a ∈ as, (f a).isOk = true) : ∃ g : α → β, ∀ a ∈ as, f a = .ok (g a) := by
  have hresult : ∀ a, ∃ b, a ∈ as → f a = .ok b := by
    intro a
    by_cases ha : a ∈ as
    · obtain ⟨b, hb⟩ := isOk_iff.1 (h a ha)
      exact ⟨b, fun _ => hb⟩
    · exact ⟨Classical.ofNonempty, fun hcontra => absurd hcontra ha⟩
  exact ⟨fun a => (hresult a).choose, fun a ha => (hresult a).choose_spec ha⟩

theorem mapM_congr_left {f g : α → Except ε β} {as : List α} (h : ∀ a ∈ as, f a = g a) :
    as.mapM f = as.mapM g := by
  induction as with
  | nil => rfl
  | cons a as ih =>
    rw [List.mapM_cons, List.mapM_cons, h a List.mem_cons_self,
      ih fun b hb => h b (List.mem_cons_of_mem a hb)]

end AnnotatedMarkdown.Outcome
