import AnnotatedMarkdown.Journal
import AnnotatedMarkdown.Proofs.File.Agreement

/-!
# Journals and files

What a journal does to the files: it writes to the files of its handlers and nowhere else.

* Handling.  `handlers_take` says that a message leaves the handlers alone, and `files_take` that
  it changes the files by additions to the files of handlers only.
* Configurations.  `configure_eq` says what a configuration leads to: all handlers of the program
  are new, and all that is remembered of its channels is forgotten.
* `Follows` relates a journal to a tree that holds the same beside the sink of the journal.
* `exists_follows_configure` is the start, where the sink is opened, and `Follows.note` is one
  message.
-/

namespace AnnotatedMarkdown.Journal

open File Outcome

variable {sink : Option Place} {t : Tree} {j : Journal}

/-! ## Handling -/

/-- Handling a message changes what is shown and the files, and nothing else. -/
theorem exists_handle_eq (j : Journal) (m : Message) (h : Handler) :
    ∃ shown files, j.handle m h = { j with shown := shown, files := files } := by
  unfold handle
  split
  · split
    · exact ⟨_, _, rfl⟩
    · split
      · exact ⟨_, _, rfl⟩
      · exact ⟨_, _, rfl⟩
  · exact ⟨_, _, rfl⟩

theorem exists_foldl_handle_eq (j : Journal) (m : Message) (hs : List Handler) :
    ∃ shown files, hs.foldl (fun j h => j.handle m h) j =
      { j with shown := shown, files := files } := by
  induction hs generalizing j with
  | nil => exact ⟨_, _, rfl⟩
  | cons h hs ih =>
    obtain ⟨shown, files, hhandle⟩ := exists_handle_eq j m h
    rw [List.foldl_cons, hhandle]
    exact ih _

/-- A handler adds to the file that it is for, or to none. -/
theorem files_handle (j : Journal) (m : Message) (h : Handler) :
    (j.handle m h).files = j.files ∨
      ∃ p bytes, h.outlet = .file p ∧ (j.handle m h).files = j.files.append p bytes := by
  unfold handle
  split
  · split
    · exact Or.inl rfl
    · rename_i p hfile
      split
      · rename_i bytes _
        exact Or.inr ⟨p, bytes, hfile, rfl⟩
      · exact Or.inl rfl
  · exact Or.inl rfl

@[simp] theorem handlers_opened (j : Journal) (name : Text) :
    (j.opened name).handlers = j.handlers := by
  unfold opened
  split <;> rfl

@[simp] theorem outer_opened (j : Journal) (name : Text) : (j.opened name).outer = j.outer := by
  unfold opened
  split <;> rfl

@[simp] theorem shown_opened (j : Journal) (name : Text) : (j.opened name).shown = j.shown := by
  unfold opened
  split <;> rfl

@[simp] theorem files_opened (j : Journal) (name : Text) : (j.opened name).files = j.files := by
  unfold opened
  split <;> rfl

/-- A message gets to the handlers of the program, to those outside it, or to the last resort. -/
theorem mem_handlersFor {h : Handler} {name : Text} (hh : h ∈ j.handlersFor name) :
    h ∈ j.handlers ++ j.outer ∨ h = lastResort := by
  have hroute : ∀ hs : List Handler, hs ⊆ j.handlers ++ j.outer →
      h ∈ (if hs.isEmpty then [lastResort] else hs) →
      h ∈ j.handlers ++ j.outer ∨ h = lastResort := by
    intro hs hsub hmem
    split at hmem
    · exact Or.inr (List.mem_singleton.1 hmem)
    · exact Or.inl (hsub hmem)
  unfold handlersFor at hh
  refine hroute _ ?_ hh
  split
  · split
    · exact List.Subset.refl _
    · simp
  · simp

/-- The journal that a message is handled in: the channel exists, and it is remembered whether it
takes the message. -/
def heard (j : Journal) (m : Message) : Journal :=
  (j.opened (Channel.ofStage m.stage)).remembering (Channel.ofStage m.stage) m.level

@[simp] theorem handlers_heard (j : Journal) (m : Message) : (j.heard m).handlers = j.handlers :=
  handlers_opened j _

@[simp] theorem outer_heard (j : Journal) (m : Message) : (j.heard m).outer = j.outer :=
  outer_opened j _

@[simp] theorem shown_heard (j : Journal) (m : Message) : (j.heard m).shown = j.shown :=
  shown_opened j _

@[simp] theorem files_heard (j : Journal) (m : Message) : (j.heard m).files = j.files :=
  files_opened j _

theorem take_eq (j : Journal) (m : Message) :
    j.take m =
      if (j.heard m).takes (Channel.ofStage m.stage) m.level then
        ((j.heard m).handlersFor (Channel.ofStage m.stage)).foldl (fun j h => j.handle m h)
          (j.heard m)
      else j.heard m :=
  rfl

/-- A message leaves the handlers as they are. -/
theorem handlers_take (j : Journal) (m : Message) :
    (j.take m).handlers = j.handlers ∧ (j.take m).outer = j.outer := by
  rw [take_eq]
  split
  · obtain ⟨shown, files, hfold⟩ := exists_foldl_handle_eq (j.heard m) m
      ((j.heard m).handlersFor (Channel.ofStage m.stage))
    rw [hfold]
    exact ⟨handlers_heard j m, outer_heard j m⟩
  · exact ⟨handlers_heard j m, outer_heard j m⟩

/-- Whatever holds of the files, and still holds after an addition to the file of a handler, holds
of them after a message. -/
theorem files_take {P : Tree → Prop} (m : Message) (hfiles : P j.files)
    (hadd : ∀ h ∈ j.handlers ++ j.outer, ∀ p, h.outlet = .file p →
      ∀ bytes t, P t → P (t.append p bytes)) : P (j.take m).files := by
  have hfold : ∀ (hs : List Handler) (i : Journal),
      (∀ h ∈ hs, h ∈ j.handlers ++ j.outer ∨ h = lastResort) → P i.files →
        P (hs.foldl (fun j h => j.handle m h) i).files := by
    intro hs
    induction hs with
    | nil => exact fun _ _ h => h
    | cons h hs ih =>
      intro i hmem hi
      refine ih _ (fun g hg => hmem g (List.mem_cons_of_mem h hg)) ?_
      rcases files_handle i m h with hsame | ⟨p, bytes, hfile, hadded⟩
      · rw [hsame]
        exact hi
      · rw [hadded]
        rcases hmem h List.mem_cons_self with hown | rfl
        · exact hadd h hown p hfile bytes _ hi
        · cases hfile
  rw [take_eq]
  split
  · refine hfold _ _ (fun h hh => ?_) (by rwa [files_heard])
    simpa using mem_handlersFor hh
  · rwa [files_heard]

@[simp] theorem files_start (files : Tree) : (start files).files = files :=
  rfl

/-- Without handlers, messages leave the files as they are. -/
@[simp] theorem files_note_start (files : Tree) (time : Text) (n : Notice) :
    ((start files).note time n).files = files := by
  refine files_take (P := fun t => t = files) _ rfl ?_
  intro h hh
  cases hh

/-! ## Configurations -/

/-- All handlers of the program can be taken away. -/
theorem foldl_detached {hs : List Handler} (h : j.handlers = hs) :
    hs.foldl detached j = { j with handlers := [] } := by
  induction hs generalizing j with
  | nil =>
    rw [List.foldl_nil, ← h]
  | cons handler hs ih =>
    have hrest : (j.detached handler).handlers = hs := by
      simp [detached, h]
    rw [List.foldl_cons, ih hrest]
    rfl

/-- The journal that a configuration leads to, with its new handlers and files. -/
def replaced (j : Journal) (o : JournalOptions) (sinks : List Handler) (files : Tree) : Journal :=
  { j.opened Channel.program with
    threshold := some o.threshold
    passesOn := false
    handlers := ⟨o.consoleLevel, .brief, .console⟩ :: sinks
    verdicts := []
    files := files }

/-- A configuration leaves nothing of the handlers before it. -/
theorem configure_eq (j : Journal) (o : JournalOptions) :
    j.configure o =
      match o.file with
      | none => (j.replaced o [] j.files, none)
      | some p =>
        match j.files.openForAdditions (Tree.absolute (j.files.spelled p)) with
        | .ok (place, files) => (j.replaced o [⟨.debug, .dated, .file place⟩] files, none)
        | .error f => (j.replaced o [] j.files, some f) := by
  unfold configure
  cases o.file with
  | none =>
    simp only [foldl_detached rfl, attached, List.nil_append, files_opened, replaced]
  | some p =>
    cases hopened : j.files.openForAdditions (Tree.absolute (j.files.spelled p)) with
    | ok opened =>
      simp only [foldl_detached rfl, attached, List.nil_append, List.cons_append, files_opened,
        replaced, hopened]
    | error f =>
      simp only [foldl_detached rfl, attached, List.nil_append, files_opened, replaced, hopened]

/-! ## Journals that follow a tree -/

/-- The files of a journal are those of a tree, beside the sink of the journal: the handlers have
no file but the sink. -/
structure Follows (sink : Option Place) (t : Tree) (j : Journal) : Prop where
  file_eq : ∀ h ∈ j.handlers ++ j.outer, ∀ p, h.outlet = .file p → sink = some p
  agrees : t.AgreesBeside sink j.files

theorem Follows.note (h : Follows sink t j) (time : Text) (n : Notice) :
    Follows sink t (j.note time n) := by
  unfold Journal.note log
  obtain ⟨hhandlers, houter⟩ := handlers_take j ⟨time, n.level, some n.stage, n.text⟩
  refine ⟨?_, ?_⟩
  · rw [hhandlers, houter]
    exact h.file_eq
  · refine files_take _ h.agrees ?_
    intro handler hhandler p hfile bytes u hu
    obtain rfl := h.file_eq handler hhandler p hfile
    exact hu.append_sink bytes

theorem Follows.noteAll (h : Follows sink t j) (time : Text) (ns : List Notice) :
    Follows sink t (j.noteAll time ns) := by
  induction ns generalizing j with
  | nil => exact h
  | cons n ns ih => exact ih (h.note time n)

/-- Opening a file for additions makes an empty file if there is none, and changes nothing else. -/
theorem openForAdditions_eq_ok (h : t.IsSound) {p place : Place} {u : Tree}
    (habove : aboveName ∉ p) (hopened : t.openForAdditions (Tree.absolute p) = .ok (place, u)) :
    place = p ∧ t.isDirectory p = false ∧ t.isDirectory p.parent = true ∧
      u = if t.isPresent p then t else t.put p (.file .empty) := by
  unfold Tree.openForAdditions at hopened
  obtain ⟨target, htarget, hopened⟩ := bind_eq_ok.1 hopened
  rw [Tree.target_eq h] at htarget
  obtain ⟨located, hlocate, htarget⟩ := bind_eq_ok.1 htarget
  have hspelled : located = p := by
    rw [Tree.locate_eq_ok hlocate]
    exact Tree.IsSound.spelled_absolute habove
  split at htarget
  · cases htarget
  · rename_i hdirectory
    cases htarget
    cases hopened
    rw [hspelled] at hlocate hdirectory ⊢
    rw [Bool.not_eq_true] at hdirectory
    have hparent : t.isDirectory p.parent = true := by
      cases hpresent : t.isPresent p with
      | true => exact h.isDirectory_parent p hpresent
      | false => exact h.isDirectory_parent_of_locate hlocate hpresent
    exact ⟨rfl, hdirectory, hparent, rfl⟩

/-- Opening a file for additions gives a tree that differs in this file only. -/
theorem agreesBeside_of_openForAdditions (h : t.IsSound) {p place : Place} {u : Tree}
    (habove : aboveName ∉ p) (hopened : t.openForAdditions (Tree.absolute p) = .ok (place, u)) :
    place = p ∧ t.AgreesBeside (some p) u := by
  obtain ⟨hplace, hdirectory, hparent, rfl⟩ := openForAdditions_eq_ok h habove hopened
  refine ⟨hplace, ?_⟩
  split
  · rename_i hpresent
    exact .refl h fun q hq => by cases hq; exact ⟨hpresent, hdirectory⟩
  · exact .put_sink h h rfl rfl (fun _ _ => rfl) hdirectory hdirectory hparent habove _

/-- A journal whose file can be opened follows the files that it starts with. -/
theorem exists_follows_configure (h : t.IsSound) (o : JournalOptions)
    (hopen : ∀ path, o.file = some path →
      (t.openForAdditions (Tree.absolute (t.spelled path))).isOk = true) :
    ∃ j, (start t).configure o = (j, none) ∧ Follows (o.file.map t.spelled) t j := by
  rw [configure_eq]
  cases hfile : o.file with
  | none =>
    refine ⟨_, rfl, ?_, .refl h fun q hq => by cases hq⟩
    intro handler hhandler p hp
    simp only [replaced, outer_opened, start, List.append_nil, List.mem_singleton] at hhandler
    subst hhandler
    cases hp
  | some path =>
    obtain ⟨⟨place, u⟩, hopened⟩ := isOk_iff.1 (hopen path hfile)
    obtain ⟨hplace, hagrees⟩ :=
      agreesBeside_of_openForAdditions h (h.not_above_spelled path) hopened
    rw [files_start]
    simp only [hopened]
    refine ⟨_, rfl, ?_, hagrees⟩
    intro handler hhandler p hp
    simp only [replaced, outer_opened, start, List.append_nil, List.mem_cons, List.not_mem_nil,
      or_false] at hhandler
    rcases hhandler with rfl | rfl
    · cases hp
    · cases hp
      exact congrArg some hplace.symm

end AnnotatedMarkdown.Journal
