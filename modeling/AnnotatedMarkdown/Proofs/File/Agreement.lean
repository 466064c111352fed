import AnnotatedMarkdown.Proofs.File.Tree

/-!
# Trees beside a sink

Two trees that hold the same but for one file, the sink.  The one tree may lack it, and may
differ in what it holds.

* `AgreesBeside` is the relation.  `IsClear` asks of a path that it does not lead over the sink
  if that is missing, and `Avoids` that it does not lead to the sink either.
* Reading.  A clear path leads to the same place in both trees (`AgreesBeside.locate`), and to
  the same bytes unless it is the path of the sink (`AgreesBeside.read`).
* Writing.  `AgreeOrFail` relates two results: both are trees that agree, or both are the same
  fault.  `AgreesBeside.makeParent` and `AgreesBeside.write` are in this relation.
-/

namespace AnnotatedMarkdown.File.Tree

open Outcome

/-- Sound trees that hold the same beside a sink, which is a file in the second one. -/
structure AgreesBeside (sink : Option Place) (t u : Tree) : Prop where
  directory : u.directory = t.directory
  home : u.home = t.home
  content? : ∀ p, sink ≠ some p → u.content? p = t.content? p
  isPresent_sink : ∀ p, sink = some p → u.isPresent p = true
  isDirectory_sink : ∀ p, sink = some p → t.isDirectory p = false ∧ u.isDirectory p = false
  isSound : t.IsSound
  isSound' : u.IsSound

/-- A path does not lead over a sink that is missing. -/
def IsClear (t : Tree) (sink : Option Place) (path : Path) : Prop :=
  ∀ p, sink = some p → t.isPresent p = false → p ∉ t.route path

/-- A path that leads neither to a sink nor, if that is missing, over it. -/
structure Avoids (t : Tree) (sink : Option Place) (path : Path) : Prop where
  isClear : t.IsClear sink path
  ne : sink ≠ some (t.spelled path)

/-- Results that are trees that agree, or one and the same fault. -/
inductive AgreeOrFail (sink : Option Place) :
    Except AccessFault Tree → Except AccessFault Tree → Prop
  | agree {t u : Tree} (h : AgreesBeside sink t u) : AgreeOrFail sink (.ok t) (.ok u)
  | fail (f : AccessFault) : AgreeOrFail sink (.error f) (.error f)

variable {sink : Option Place} {t u : Tree} {p place : Place} {path : Path}

theorem AgreeOrFail.bind {x y : Except AccessFault Tree} (h : AgreeOrFail sink x y)
    {f : Tree → Except AccessFault Tree}
    (hf : ∀ t u, x = .ok t → AgreesBeside sink t u → AgreeOrFail sink (f t) (f u)) :
    AgreeOrFail sink (x >>= f) (y >>= f) := by
  cases h with
  | agree h => exact hf _ _ rfl h
  | fail f => exact .fail f

/-! ## Clear paths -/

theorem IsClear.parent (h : t.IsClear sink path) : t.IsClear sink path.parent := by
  intro p hsink habsent hmem
  exact h p hsink habsent (t.route_parent_subset path hmem)

theorem IsClear.of_grows (h : t.IsClear sink path) (hgrows : t.Grows u) : u.IsClear sink path := by
  intro p hsink habsent hmem
  have hroute : u.route path = t.route path := by
    unfold route base
    rw [hgrows.directory]
  rw [hroute] at hmem
  cases hpresent : t.isPresent p with
  | false => exact h p hsink hpresent hmem
  | true =>
    rw [hgrows.isPresent hpresent] at habsent
    cases habsent

/-- The way to something that is present is clear. -/
theorem isClear_absolute (h : t.IsSound) (sink : Option Place) (hp : t.isPresent place = true) :
    t.IsClear sink (absolute place) := by
  intro p _ habsent hmem
  rw [h.isPresent_of_mem_route hp hmem] at habsent
  cases habsent

theorem Avoids.of_grows (h : t.Avoids sink path) (hgrows : t.Grows u) : u.Avoids sink path := by
  refine ⟨h.isClear.of_grows hgrows, ?_⟩
  rw [hgrows.spelled]
  exact h.ne

/-! ## Reading -/

namespace AgreesBeside

theorem refl (h : t.IsSound)
    (hsink : ∀ p, sink = some p → t.isPresent p = true ∧ t.isDirectory p = false) :
    AgreesBeside sink t t where
  directory := rfl
  home := rfl
  content? _ _ := rfl
  isPresent_sink p hp := (hsink p hp).1
  isDirectory_sink p hp := ⟨(hsink p hp).2, (hsink p hp).2⟩
  isSound := h
  isSound' := h

theorem isDirectory (h : AgreesBeside sink t u) (p : Place) :
    u.isDirectory p = t.isDirectory p := by
  by_cases hsink : sink = some p
  · obtain ⟨ht, hu⟩ := h.isDirectory_sink p hsink
    rw [ht, hu]
  · unfold Tree.isDirectory
    rw [h.content? p hsink]

theorem isPresent (h : AgreesBeside sink t u) (hp : sink = some p → t.isPresent p = true) :
    u.isPresent p = t.isPresent p := by
  by_cases hsink : sink = some p
  · rw [h.isPresent_sink p hsink, hp hsink]
  · unfold Tree.isPresent
    rw [h.content? p hsink]

theorem follow (h : AgreesBeside sink t u) {names : List Text}
    (hclear : ∀ q, sink = some q → t.isPresent q = false → q ∉ p.route names) :
    u.follow p names = t.follow p names := by
  induction names generalizing p with
  | nil => rfl
  | cons name names ih =>
    have hp : sink = some p → t.isPresent p = true := by
      intro hsink
      cases hpresent : t.isPresent p with
      | true => rfl
      | false => exact absurd List.mem_cons_self (hclear p hsink hpresent)
    have hrest := ih (p := p.follow name) fun q hsink habsent hmem =>
      hclear q hsink habsent (List.mem_cons_of_mem _ hmem)
    have hdirectory := h.isDirectory p
    have hpresent := h.isPresent hp
    -- What stands at the place is of the same kind in both trees.
    unfold Tree.isDirectory at hdirectory
    unfold Tree.isPresent at hpresent
    rw [Tree.follow, Tree.follow]
    cases ht : t.content? p with
    | none =>
      cases hu : u.content? p with
      | none => rfl
      | some c => simp [ht, hu] at hpresent
    | some c =>
      cases hu : u.content? p with
      | none => simp [ht, hu] at hpresent
      | some d => cases c <;> cases d <;> simp_all

theorem locate (h : AgreesBeside sink t u) (hclear : t.IsClear sink path) :
    u.locate path = t.locate path := by
  have hfollow : u.follow (t.base path) path.names = t.follow (t.base path) path.names :=
    h.follow hclear
  unfold base at hfollow
  unfold Tree.locate
  rw [h.directory, hfollow]

theorem spelled (h : AgreesBeside sink t u) (path : Path) : u.spelled path = t.spelled path := by
  unfold Tree.spelled
  rw [h.directory]

/-- A path that avoids the sink leads to the same bytes. -/
theorem read (h : AgreesBeside sink t u) (havoids : t.Avoids sink path) :
    u.read path = t.read path := by
  unfold Tree.read
  rw [h.locate havoids.isClear]
  cases hlocate : t.locate path with
  | error f => rfl
  | ok place =>
    rw [ok_bind, ok_bind, locate_eq_ok hlocate, h.content? _ havoids.ne]

/-! ## Writing -/

theorem put (h : AgreesBeside sink t u) (hne : sink ≠ some p) (hp : t.isDirectory p = false)
    (hparent : t.isDirectory p.parent = true) (habove : aboveName ∉ p) (c : Content) :
    AgreesBeside sink (t.put p c) (u.put p c) := by
  have hp' : u.isDirectory p = false := by rw [h.isDirectory, hp]
  have hparent' : u.isDirectory p.parent = true := by rw [h.isDirectory, hparent]
  constructor
  · exact h.directory
  · exact h.home
  · intro q hsink
    by_cases hq : q = p
    · rw [hq, content?_put_self hp, content?_put_self hp']
    · rw [content?_put_of_ne hq, content?_put_of_ne hq, h.content? q hsink]
  · intro q hsink
    have hq : q ≠ p := fun hq => hne (hq ▸ hsink)
    unfold Tree.isPresent
    rw [content?_put_of_ne hq]
    exact h.isPresent_sink q hsink
  · intro q hsink
    have hq : q ≠ p := fun hq => hne (hq ▸ hsink)
    rw [isDirectory_put_of_ne hq, isDirectory_put_of_ne hq]
    exact h.isDirectory_sink q hsink
  · exact h.isSound.put hparent habove hp c
  · exact h.isSound'.put hparent' habove hp' c

/-- What a file at the sink holds does not count. -/
theorem put_sink (ht : t.IsSound) (hu : u.IsSound) (hdirectory : u.directory = t.directory)
    (hhome : u.home = t.home) (hcontent : ∀ q, q ≠ p → u.content? q = t.content? q)
    (hp : t.isDirectory p = false) (hp' : u.isDirectory p = false)
    (hparent : u.isDirectory p.parent = true) (habove : aboveName ∉ p) (bytes : ByteArray) :
    AgreesBeside (some p) t (u.put p (.file bytes)) := by
  have hself := content?_put_self hp' (.file bytes)
  constructor
  · exact hdirectory
  · exact hhome
  · intro q hsink
    have hq : q ≠ p := fun hq => hsink (congrArg some hq.symm)
    rw [content?_put_of_ne hq, hcontent q hq]
  · intro q hsink
    cases hsink
    unfold Tree.isPresent
    rw [hself]
    rfl
  · intro q hsink
    cases hsink
    refine ⟨hp, ?_⟩
    unfold Tree.isDirectory
    rw [hself]
  · exact ht
  · exact hu.put hparent habove hp' _

theorem append_sink (h : AgreesBeside (some p) t u) (bytes : ByteArray) :
    AgreesBeside (some p) t (u.append p bytes) := by
  obtain ⟨hp, hp'⟩ := h.isDirectory_sink p rfl
  have hpresent := h.isPresent_sink p rfl
  have hparent := h.isSound'.isDirectory_parent p hpresent
  have habove := h.isSound'.not_above p hpresent
  have hcontent : ∀ q, q ≠ p → u.content? q = t.content? q :=
    fun q hq => h.content? q fun hsink => hq (Option.some.inj hsink).symm
  exact put_sink h.isSound h.isSound' h.directory h.home hcontent hp hp' hparent habove _

theorem isPresent_spelled (h : AgreesBeside sink t u) (hclear : t.IsClear sink path) :
    u.isPresent (t.spelled path) = t.isPresent (t.spelled path) := by
  apply h.isPresent
  intro hsink
  cases hpresent : t.isPresent (t.spelled path) with
  | true => rfl
  | false => exact absurd (t.spelled_mem_route path) (hclear _ hsink hpresent)

theorem makeDirectory (h : AgreesBeside sink t u) (hclear : t.IsClear sink path) :
    AgreeOrFail sink (t.makeDirectory path) (u.makeDirectory path) := by
  rw [makeDirectory_eq h.isSound, makeDirectory_eq h.isSound', h.locate hclear]
  cases hlocate : t.locate path with
  | error f => exact .fail f
  | ok place =>
    have hplace := locate_eq_ok hlocate
    have hpresent := h.isPresent_spelled hclear
    rw [← hplace] at hpresent
    rw [ok_bind, ok_bind, hpresent]
    split
    · exact .fail _
    · rename_i habsent
      rw [Bool.not_eq_true] at habsent
      have hne : sink ≠ some place := by
        intro hsink
        rw [h.isPresent_sink place hsink, habsent] at hpresent
        cases hpresent
      have hdirectory : t.isDirectory place = false := by
        cases hdirectory : t.isDirectory place with
        | false => rfl
        | true => rw [isPresent_of_isDirectory hdirectory] at habsent; cases habsent
      have habove := h.isSound.not_above_spelled path
      rw [← hplace] at habove
      have hparent := h.isSound.isDirectory_parent_of_locate hlocate habsent
      exact .agree (h.put hne hdirectory hparent habove _)

theorem leadsToDirectory (h : AgreesBeside sink t u) (hclear : t.IsClear sink path) :
    u.leadsToDirectory path = t.leadsToDirectory path := by
  unfold Tree.leadsToDirectory
  rw [h.locate hclear]
  split
  · exact h.isDirectory _
  · rfl

theorem ensureDirectory (h : AgreesBeside sink t u) (hclear : t.IsClear sink path) :
    AgreeOrFail sink (t.ensureDirectory path) (u.ensureDirectory path) := by
  have hmade := h.makeDirectory hclear
  unfold Tree.ensureDirectory
  rw [h.leadsToDirectory hclear]
  generalize t.makeDirectory path = x at hmade
  generalize u.makeDirectory path = y at hmade
  cases hmade with
  | agree h => exact .agree h
  | fail f =>
    simp only
    split
    · exact .agree h
    · exact .fail f

theorem makeDirectories (h : AgreesBeside sink t u) (hclear : t.IsClear sink path) (above : Nat) :
    AgreeOrFail sink (t.makeDirectories path above) (u.makeDirectories path above) := by
  induction above generalizing path with
  | zero => exact h.ensureDirectory hclear
  | succ above ih =>
    have hmade := h.ensureDirectory hclear
    rw [Tree.makeDirectories, Tree.makeDirectories]
    generalize t.ensureDirectory path = x at hmade
    generalize u.ensureDirectory path = y at hmade
    cases hmade with
    | agree h => exact .agree h
    | fail f =>
      simp only
      split
      · apply (ih hclear.parent).bind
        intro t' u' ht' h'
        exact h'.ensureDirectory (hclear.of_grows (grows_of_makeDirectories h.isSound above ht'))
      · exact .fail f

theorem makeParent (h : AgreesBeside sink t u) (hclear : t.IsClear sink path) :
    AgreeOrFail sink (t.makeParent path) (u.makeParent path) :=
  h.makeDirectories hclear.parent _

theorem write (h : AgreesBeside sink t u) (havoids : t.Avoids sink path) (bytes : ByteArray) :
    AgreeOrFail sink (t.write path bytes) (u.write path bytes) := by
  unfold Tree.write
  rw [target_eq h.isSound, target_eq h.isSound', h.locate havoids.isClear]
  cases hlocate : t.locate path with
  | error f => exact .fail f
  | ok place =>
    have hplace := locate_eq_ok hlocate
    have hne := havoids.ne
    rw [ok_bind, ok_bind, h.isDirectory]
    split
    · exact .fail _
    · rename_i hdirectory
      rw [Bool.not_eq_true] at hdirectory
      rw [← hplace] at hne
      have hparent : t.isDirectory place.parent = true := by
        cases hpresent : t.isPresent place with
        | true => exact h.isSound.isDirectory_parent place hpresent
        | false => exact h.isSound.isDirectory_parent_of_locate hlocate hpresent
      have habove := h.isSound.not_above_spelled path
      rw [← hplace] at habove
      exact .agree (h.put hne hdirectory hparent habove _)

end AgreesBeside

end AnnotatedMarkdown.File.Tree
