import AnnotatedMarkdown.File.Tree
import AnnotatedMarkdown.Proofs.Outcome
import Mathlib.Data.List.Induction

/-!
# File trees

What the operations on a tree look at, and what they change.

* Contents.  `content?_put_self` and `content?_put_of_ne` read back what is put at a place.
* Paths.  `locate_eq_ok` says that a path leads to the place that it spells, if it leads to any,
  and `Place.route` are the places on the way there.
* Soundness.  In a tree that `IsSound` describes everything stands in a directory.  There the
  parents need not be looked at: `makeDirectory_eq` and `target_eq`.
* Growth.  `Grows` is what making directories does to a tree; `grows_of_makeParent` is the case
  of the directories on the way to a file.
* Writing.  `file?_of_write` says that a file holds what is written to it, and that nothing else
  changes.
-/

namespace AnnotatedMarkdown.File

open Outcome

/-! ## Places -/

namespace Place

/-- The places that names lead over from a place on, with both ends. -/
def route (p : Place) : List Text → List Place
  | [] => [p]
  | name :: names => p :: route (p.follow name) names

theorem not_above_follow {p : Place} (h : aboveName ∉ p) (name : Text) :
    aboveName ∉ p.follow name := by
  unfold follow
  split
  · intro hmem
    exact h (List.dropLast_subset _ hmem)
  · rename_i hname
    simp [h, Ne.symm hname]

theorem not_above_foldl_follow {p : Place} (h : aboveName ∉ p) (names : List Text) :
    aboveName ∉ names.foldl follow p := by
  induction names generalizing p with
  | nil => exact h
  | cons name names ih => exact ih (not_above_follow h name)

/-- Without double points, names are added to a place. -/
theorem foldl_follow_of_not_above {names : List Text} (h : aboveName ∉ names) (p : Place) :
    names.foldl follow p = p ++ names := by
  induction names generalizing p with
  | nil => simp
  | cons name names ih =>
    have hname : name ≠ aboveName := fun heq => h (heq ▸ List.mem_cons_self)
    have hnames : aboveName ∉ names := fun hmem => h (List.mem_cons_of_mem _ hmem)
    rw [List.foldl_cons, ih hnames, follow, if_neg hname, List.append_assoc]
    rfl

theorem exists_of_mem_route {names : List Text} (h : aboveName ∉ names) {p r : Place}
    (hr : r ∈ route p names) : ∃ before after, names = before ++ after ∧ r = p ++ before := by
  induction names generalizing p with
  | nil =>
    rw [route, List.mem_singleton] at hr
    exact ⟨[], [], rfl, by simp [hr]⟩
  | cons name names ih =>
    have hname : name ≠ aboveName := fun heq => h (heq ▸ List.mem_cons_self)
    have hnames : aboveName ∉ names := fun hmem => h (List.mem_cons_of_mem _ hmem)
    rw [route, List.mem_cons] at hr
    rcases hr with rfl | hr
    · exact ⟨[], name :: names, rfl, by simp⟩
    · obtain ⟨before, after, hsplit, hplace⟩ := ih hnames hr
      refine ⟨name :: before, after, by rw [hsplit]; rfl, ?_⟩
      rw [hplace, follow, if_neg hname, List.append_assoc]
      rfl

theorem foldl_follow_mem_route (p : Place) (names : List Text) :
    names.foldl follow p ∈ route p names := by
  induction names generalizing p with
  | nil => simp [route]
  | cons name names ih => exact List.mem_cons_of_mem _ (ih _)

theorem route_dropLast_subset (p : Place) (names : List Text) :
    route p names.dropLast ⊆ route p names := by
  induction names generalizing p with
  | nil => simp
  | cons name names ih =>
    cases names with
    | nil => simp [route]
    | cons next names =>
      rw [List.dropLast_cons_of_ne_nil (by simp), route, route]
      exact List.cons_subset_cons _ (ih _)

end Place

namespace Tree

variable {t u : Tree} {p q place : Place} {names : List Text} {path : Path} {c : Content}

/-! ## Contents -/

theorem isDirectory_iff : t.isDirectory p = true ↔ t.content? p = some .directory := by
  unfold isDirectory
  split <;> simp_all

theorem isPresent_of_isDirectory (h : t.isDirectory p = true) : t.isPresent p = true := by
  unfold isPresent
  rw [isDirectory_iff.1 h]
  rfl

theorem isPresent_eq_false_iff : t.isPresent p = false ↔ t.content? p = none := by
  unfold isPresent
  simp

theorem isDirectory_of_isPrefixOf (h : p.isPrefixOf t.directory = true) :
    t.isDirectory p = true := by
  rw [isDirectory_iff, content?, if_pos h]

theorem content?_put_self (h : t.isDirectory p = false) (c : Content) :
    (t.put p c).content? p = some c := by
  have hlead : p.isPrefixOf t.directory ≠ true := by
    intro hlead
    rw [isDirectory_of_isPrefixOf hlead] at h
    cases h
  simp [content?, put, hlead]

theorem content?_put_of_ne (h : q ≠ p) (c : Content) : (t.put p c).content? q = t.content? q := by
  have hhead : (p == q) = false := beq_eq_false_iff_ne.2 (Ne.symm h)
  unfold content? put
  split
  · rfl
  · rw [List.find?_cons_of_neg (by simp [hhead]), List.find?_filter]
    congr 2
    funext e
    by_cases he : e.1 = q
    · simp [he, h]
    · simp [he]

theorem isDirectory_put_of_ne (h : q ≠ p) (c : Content) :
    (t.put p c).isDirectory q = t.isDirectory q := by
  unfold isDirectory
  rw [content?_put_of_ne h]

/-- The bytes of the file at a place. -/
def file? (t : Tree) (p : Place) : Option ByteArray :=
  match t.content? p with
  | some (.file bytes) => some bytes
  | _ => none

theorem file?_congr (h : u.content? p = t.content? p) : u.file? p = t.file? p := by
  unfold file?
  rw [h]

/-! ## Following paths -/

theorem follow_eq_ok (h : t.follow p names = .ok place) : place = names.foldl Place.follow p := by
  induction names generalizing p with
  | nil =>
    cases h
    rfl
  | cons name names ih =>
    rw [follow] at h
    split at h
    · exact ih h
    · cases h
    · cases h

/-- A path leads to the place that it spells. -/
theorem locate_eq_ok (h : t.locate path = .ok place) : place = t.spelled path :=
  follow_eq_ok (mapError_eq_ok.1 h)

/-- The last step on a path leads out of a directory. -/
theorem exists_isDirectory_of_follow (h : t.follow p names = .ok place) :
    place = p ∨ ∃ before name, t.isDirectory before = true ∧ place = before.follow name := by
  induction names generalizing p with
  | nil =>
    cases h
    exact Or.inl rfl
  | cons name names ih =>
    rw [follow] at h
    split at h
    · rename_i hdirectory
      rcases ih h with hplace | hlast
      · exact Or.inr ⟨p, name, isDirectory_iff.2 hdirectory, hplace⟩
      · exact Or.inr hlast
    · cases h
    · cases h

/-- The place that a path starts from. -/
def base (t : Tree) (path : Path) : Place :=
  if path.isAbsolute then [] else t.directory

theorem isDirectory_base (t : Tree) (path : Path) : t.isDirectory (t.base path) = true := by
  apply isDirectory_of_isPrefixOf
  unfold base
  split
  · rfl
  · exact List.isPrefixOf_iff_prefix.2 (List.prefix_refl _)

/-- The places that a path leads over. -/
def route (t : Tree) (path : Path) : List Place :=
  (t.base path).route path.names

theorem spelled_mem_route (t : Tree) (path : Path) : t.spelled path ∈ t.route path :=
  Place.foldl_follow_mem_route _ _

theorem route_parent_subset (t : Tree) (path : Path) : t.route path.parent ⊆ t.route path :=
  Place.route_dropLast_subset _ _

/-! ## Soundness -/

/-- Whatever is in a tree stands in a directory, and has no double points in its place. -/
structure IsSound (t : Tree) : Prop where
  isDirectory_parent : ∀ p, t.isPresent p = true → t.isDirectory p.parent = true
  not_above : ∀ p, t.isPresent p = true → aboveName ∉ p

/-- Whether the entries of a tree stand in directories. -/
def hasSoundEntries (t : Tree) : Bool :=
  decide (aboveName ∉ t.directory) &&
    t.entries.all fun e => decide (aboveName ∉ e.1) && t.isDirectory e.1.parent

theorem isSound_of_hasSoundEntries (h : t.hasSoundEntries = true) : t.IsSound := by
  unfold hasSoundEntries at h
  simp only [Bool.and_eq_true, decide_eq_true_eq, List.all_eq_true] at h
  obtain ⟨hdirectory, hentries⟩ := h
  have hcases : ∀ p, t.isPresent p = true →
      p.isPrefixOf t.directory = true ∨ ∃ e ∈ t.entries, e.1 = p := by
    intro p hp
    unfold isPresent content? at hp
    split at hp
    · rename_i hlead
      exact Or.inl hlead
    · rw [Option.isSome_map, List.find?_isSome] at hp
      obtain ⟨e, he, heq⟩ := hp
      exact Or.inr ⟨e, he, by simpa using heq⟩
  constructor
  · intro p hp
    rcases hcases p hp with hlead | ⟨e, he, rfl⟩
    · apply isDirectory_of_isPrefixOf
      rw [List.isPrefixOf_iff_prefix] at hlead ⊢
      exact (List.dropLast_prefix p).trans hlead
    · exact (hentries e he).2
  · intro p hp
    rcases hcases p hp with hlead | ⟨e, he, rfl⟩
    · rw [List.isPrefixOf_iff_prefix] at hlead
      intro hmem
      exact hdirectory (hlead.subset hmem)
    · exact (hentries e he).1

namespace IsSound

theorem not_above_directory (h : t.IsSound) : aboveName ∉ t.directory := by
  apply h.not_above
  apply isPresent_of_isDirectory
  apply isDirectory_of_isPrefixOf
  exact List.isPrefixOf_iff_prefix.2 (List.prefix_refl _)

theorem not_above_spelled (h : t.IsSound) (path : Path) : aboveName ∉ t.spelled path := by
  apply Place.not_above_foldl_follow
  split
  · simp
  · exact h.not_above_directory

/-- The path to a place from the root spells that place. -/
theorem spelled_absolute (h : aboveName ∉ place) : t.spelled (absolute place) = place :=
  Place.foldl_follow_of_not_above h []

theorem isDirectory_of_append (h : t.IsSound) (hp : t.isPresent (p ++ q) = true) (hq : q ≠ []) :
    t.isDirectory p = true := by
  induction q using List.reverseRecOn with
  | nil => exact absurd rfl hq
  | append_singleton q name ih =>
    have hparent := h.isDirectory_parent _ hp
    unfold Place.parent at hparent
    rw [← List.append_assoc, List.dropLast_concat] at hparent
    by_cases hlast : q = []
    · rw [hlast, List.append_nil] at hparent
      exact hparent
    · exact ih (isPresent_of_isDirectory hparent) hlast

/-- Everything on the way to something that is present is present. -/
theorem isPresent_of_mem_route (h : t.IsSound) (hp : t.isPresent place = true)
    (hq : q ∈ t.route (absolute place)) : t.isPresent q = true := by
  obtain ⟨before, after, hsplit, hbefore⟩ := Place.exists_of_mem_route (h.not_above _ hp) hq
  have hplace : place = q ++ after := by
    rw [show q = before from hbefore]
    exact hsplit
  by_cases hafter : after = []
  · rw [hafter, List.append_nil] at hplace
    rw [← hplace]
    exact hp
  · rw [hplace] at hp
    exact isPresent_of_isDirectory (h.isDirectory_of_append hp hafter)

/-- A place that a path leads to is in a directory. -/
theorem isDirectory_parent_of_locate (h : t.IsSound) (hlocate : t.locate path = .ok place)
    (habsent : t.isPresent place = false) : t.isDirectory place.parent = true := by
  rcases exists_isDirectory_of_follow (mapError_eq_ok.1 hlocate) with hbase | ⟨before, name, hbefore, hlast⟩
  · have hpresent := isPresent_of_isDirectory (isDirectory_base t path)
    unfold base at hpresent
    rw [hbase, hpresent] at habsent
    cases habsent
  · unfold Place.follow at hlast
    split at hlast
    · -- The directory above another one is present.
      have hparent := h.isDirectory_parent _ (isPresent_of_isDirectory hbefore)
      have hpresent := isPresent_of_isDirectory hparent
      unfold Place.parent at hpresent
      rw [hlast, hpresent] at habsent
      cases habsent
    · rw [hlast, Place.parent, List.dropLast_concat]
      exact hbefore

/-- A tree stays sound if something is put into a directory in it, but not in place of one. -/
theorem put (h : t.IsSound) (hparent : t.isDirectory p.parent = true) (habove : aboveName ∉ p)
    (hp : t.isDirectory p = false) (c : Content) : (t.put p c).IsSound := by
  have hkept : ∀ q, t.isDirectory q = true → (t.put p c).isDirectory q = true := by
    intro q hq
    have hne : q ≠ p := by
      rintro rfl
      rw [hp] at hq
      cases hq
    rw [isDirectory_put_of_ne hne]
    exact hq
  have hbefore : ∀ q, q ≠ p → (t.put p c).isPresent q = true → t.isPresent q = true := by
    intro q hne hq
    unfold isPresent at hq
    rw [content?_put_of_ne hne] at hq
    exact hq
  constructor
  · intro q hq
    by_cases hne : q = p
    · rw [hne]
      exact hkept _ hparent
    · exact hkept _ (h.isDirectory_parent q (hbefore q hne hq))
  · intro q hq
    by_cases hne : q = p
    · rw [hne]
      exact habove
    · exact h.not_above q (hbefore q hne hq)

end IsSound

/-- In a sound tree a directory can be made wherever a path leads to a place that is free. -/
theorem makeDirectory_eq (h : t.IsSound) (path : Path) :
    t.makeDirectory path =
      t.locate path >>= fun place =>
        if t.isPresent place then .error ⟨.present, path.text⟩ else .ok (t.put place .directory) := by
  unfold makeDirectory
  cases hlocate : t.locate path with
  | error f => rfl
  | ok place =>
    cases hpresent : t.isPresent place with
    | true => simp [hpresent]
    | false =>
      have hparent := h.isDirectory_parent_of_locate hlocate hpresent
      simp [hpresent, isDirectory_iff.1 hparent]

/-- In a sound tree a file can be written wherever a path leads to a place that is no
directory. -/
theorem target_eq (h : t.IsSound) (path : Path) :
    t.target path =
      t.locate path >>= fun place =>
        if t.isDirectory place then .error ⟨.isDirectory, path.text⟩ else .ok place := by
  unfold target isDirectory
  cases hlocate : t.locate path with
  | error f => rfl
  | ok place =>
    cases hcontent : t.content? place with
    | none =>
      have hparent := h.isDirectory_parent_of_locate hlocate (isPresent_eq_false_iff.2 hcontent)
      simp [hcontent, isDirectory_iff.1 hparent]
    | some c => cases c <;> simp [hcontent]

/-! ## Growth -/

/-- A tree that has directories where nothing has been, and else is as before. -/
structure Grows (t u : Tree) : Prop where
  directory : u.directory = t.directory
  home : u.home = t.home
  content? : ∀ p, u.content? p = t.content? p ∨
    t.content? p = none ∧ u.content? p = some .directory
  isSound : t.IsSound → u.IsSound

namespace Grows

theorem refl (t : Tree) : t.Grows t where
  directory := rfl
  home := rfl
  content? _ := Or.inl rfl
  isSound := id

theorem trans {v : Tree} (h : t.Grows u) (h' : u.Grows v) : t.Grows v where
  directory := h'.directory.trans h.directory
  home := h'.home.trans h.home
  content? p := by
    rcases h.content? p with hfirst | ⟨hnone, hfirst⟩
    · rw [← hfirst]
      exact h'.content? p
    · rcases h'.content? p with hsecond | ⟨hnone', -⟩
      · exact Or.inr ⟨hnone, hsecond.trans hfirst⟩
      · rw [hfirst] at hnone'
        cases hnone'
  isSound := h'.isSound ∘ h.isSound

theorem isPresent (h : t.Grows u) (hp : t.isPresent p = true) : u.isPresent p = true := by
  unfold Tree.isPresent at hp ⊢
  rcases h.content? p with hsame | ⟨hnone, -⟩
  · rw [hsame]
    exact hp
  · rw [hnone] at hp
    cases hp

/-- Files are as before. -/
theorem file? (h : t.Grows u) (p : Place) : u.file? p = t.file? p := by
  rcases h.content? p with hsame | ⟨hnone, hdirectory⟩
  · exact file?_congr hsame
  · unfold Tree.file?
    rw [hnone, hdirectory]

theorem spelled (h : t.Grows u) (path : Path) : u.spelled path = t.spelled path := by
  unfold Tree.spelled
  rw [h.directory]

end Grows

theorem grows_of_makeDirectory (h : t.IsSound) (hmade : t.makeDirectory path = .ok u) :
    t.Grows u := by
  rw [makeDirectory_eq h] at hmade
  cases hlocate : t.locate path with
  | error f =>
    rw [hlocate] at hmade
    cases hmade
  | ok place =>
    rw [hlocate, ok_bind] at hmade
    split at hmade
    · cases hmade
    · rename_i hpresent
      cases hmade
      rw [Bool.not_eq_true] at hpresent
      have hparent := h.isDirectory_parent_of_locate hlocate hpresent
      have hnone := isPresent_eq_false_iff.1 hpresent
      have hfile : t.isDirectory place = false := by
        unfold isDirectory
        rw [hnone]
      constructor
      · rfl
      · rfl
      · intro p
        by_cases hp : p = place
        · rw [hp]
          exact Or.inr ⟨hnone, content?_put_self hfile _⟩
        · exact Or.inl (content?_put_of_ne hp _)
      · intro _
        have habove := h.not_above_spelled path
        rw [← locate_eq_ok hlocate] at habove
        exact h.put hparent habove hfile _

theorem grows_of_ensureDirectory (h : t.IsSound) (hmade : t.ensureDirectory path = .ok u) :
    t.Grows u := by
  unfold ensureDirectory at hmade
  split at hmade
  · rename_i made hmake
    cases hmade
    exact grows_of_makeDirectory h hmake
  · split at hmade
    · cases hmade
      exact .refl t
    · cases hmade

theorem grows_of_makeDirectories (h : t.IsSound) (above : Nat)
    (hmade : t.makeDirectories path above = .ok u) : t.Grows u := by
  induction above generalizing path u with
  | zero => exact grows_of_ensureDirectory h hmade
  | succ above ih =>
    rw [makeDirectories] at hmade
    split at hmade
    · rename_i made hmake
      cases hmade
      exact grows_of_ensureDirectory h hmake
    · split at hmade
      · obtain ⟨between, hbetween, hmake⟩ := bind_eq_ok.1 hmade
        have hgrows := ih hbetween
        exact hgrows.trans (grows_of_ensureDirectory (hgrows.isSound h) hmake)
      · cases hmade

/-- The directories on the way to a file are made where nothing has been. -/
theorem grows_of_makeParent (h : t.IsSound) (hmade : t.makeParent path = .ok u) : t.Grows u :=
  grows_of_makeDirectories h _ hmade

/-! ## Writing -/

/-- Whether a file can be written, after the directories on the way to it have been made. -/
def canWrite (t : Tree) (path : Path) : Bool :=
  match t.makeParent path with
  | .ok made => (made.target path).isOk
  | .error _ => false

/-- Writing a file changes this file, and no other one. -/
theorem file?_of_write (h : t.IsSound) {bytes : ByteArray} (hwritten : t.write path bytes = .ok u) :
    u.file? (t.spelled path) = some bytes ∧
      ∀ p, p ≠ t.spelled path → u.content? p = t.content? p := by
  unfold write at hwritten
  obtain ⟨place, htarget, hwritten⟩ := bind_eq_ok.1 hwritten
  cases hwritten
  rw [target_eq h] at htarget
  obtain ⟨located, hlocate, htarget⟩ := bind_eq_ok.1 htarget
  split at htarget
  · cases htarget
  · rename_i hdirectory
    cases htarget
    rw [Bool.not_eq_true] at hdirectory
    rw [← locate_eq_ok hlocate]
    refine ⟨?_, fun p hp => content?_put_of_ne hp _⟩
    unfold file?
    rw [content?_put_self hdirectory]

end Tree

end AnnotatedMarkdown.File
