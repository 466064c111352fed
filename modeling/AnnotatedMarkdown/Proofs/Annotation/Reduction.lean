import AnnotatedMarkdown.Proofs.Annotation.Segmentation
import Mathlib.Data.List.Induction

/-!
# Runs of the reduction

A run takes tagged lines in any order, among them ends of the text with further lines
behind them, and goes on after a step that fails.  This module says what every run keeps.

* `Reduction.after` is the state that a run leaves, and `Reduction.trace_append` relates it
  to the outcomes of the steps.
* `LeavesOpen` says of steps that they leave a record open, and `appliedLines` are the lines
  that were taken.  Neither looks at a state.
* `Reduction.Accounts` relates a state to the steps so far, and `Reduction.Accounts.next` is
  its preservation by one step.
* `Reduction.HoldsMetadata` describes a record whose metadata have ended.
* `Reduction.after_start_accounts` joins what these say of every run.
-/

namespace AnnotatedMarkdown

/-- A tagged line with its number. -/
abbrev TaggedLine := Tag × Int

/-! ## Steps without states -/

/-- Whether a step opens a record. -/
def isOpening (x : TaggedLine) : Bool :=
  match x.1 with
  | .marker _ => true
  | _ => false

/-- Steps leave a record open if a marker is among them and no end of the text comes after
it. -/
def LeavesOpen (steps : List TaggedLine) : Prop :=
  ∃ first reference line more, steps = first ++ (.marker reference, line) :: more ∧
    ∀ x ∈ more, x.1 ≠ .endOfInput

theorem not_leavesOpen_nil : ¬ LeavesOpen [] := by
  rintro ⟨first, reference, line, more, h, -⟩
  simp at h

/-- Steps that leave a record open either end in its marker or leave it open before a last
step that is no end of the text. -/
theorem leavesOpen_concat {steps : List TaggedLine} {x : TaggedLine} :
    LeavesOpen (steps ++ [x]) ↔
      isOpening x = true ∨ (x.1 ≠ .endOfInput ∧ LeavesOpen steps) := by
  constructor
  · rintro ⟨first, reference, line, more, h, hmore⟩
    rcases List.eq_nil_or_concat more with rfl | ⟨init, last, rfl⟩
    · obtain ⟨-, hlast⟩ := List.append_inj' h rfl
      obtain rfl : x = (.marker reference, line) := by simpa using hlast
      exact Or.inl rfl
    · have hsplit : steps ++ [x] = (first ++ (.marker reference, line) :: init) ++ [last] := by
        simpa using h
      obtain ⟨rfl, hlast⟩ := List.append_inj' hsplit rfl
      obtain rfl : x = last := by simpa using hlast
      exact Or.inr ⟨hmore x (by simp),
        first, reference, line, init, rfl, fun y hy => hmore y (by simp [hy])⟩
  · rintro (hopening | ⟨hend, first, reference, line, more, rfl, hmore⟩)
    · obtain ⟨tag, line⟩ := x
      cases tag with
      | marker reference => exact ⟨steps, reference, line, [], rfl, by simp⟩
      | separator | content | endOfInput => simp [isOpening] at hopening
    · refine ⟨first, reference, line, more ++ [x], by simp, fun y hy => ?_⟩
      rcases List.mem_append.1 hy with hy | hy
      · exact hmore y hy
      · obtain rfl := List.mem_singleton.1 hy
        exact hend

/-- Why a tag is refused where no record is open; a marker and the end of the text are
not. -/
def refusal? : Tag → Option StructuralCause
  | .separator => some .separatorOutside
  | .content _ => some .contentOutside
  | .marker _ => none
  | .endOfInput => none

/-- The texts of a record, one behind the other. -/
def Record.body (r : Record) : Text :=
  r.metadata ++ r.documentation

namespace Reduction

/-! ## Runs -/

/-- The state after one step, which is the same state if the step fails. -/
def next (s : Reduction) (x : TaggedLine) : Reduction :=
  (s.step x.1 x.2).toOption.getD s

/-- The state after several steps. -/
def after (s : Reduction) (steps : List TaggedLine) : Reduction :=
  steps.foldl next s

@[simp] theorem after_nil (s : Reduction) : s.after [] = s :=
  rfl

@[simp] theorem after_cons (s : Reduction) (x : TaggedLine) (steps : List TaggedLine) :
    s.after (x :: steps) = (s.next x).after steps :=
  rfl

theorem after_append (s : Reduction) (first more : List TaggedLine) :
    s.after (first ++ more) = (s.after first).after more :=
  List.foldl_append

theorem trace_cons (s : Reduction) (x : TaggedLine) (steps : List TaggedLine) :
    s.trace (x :: steps) = s.step x.1 x.2 :: (s.next x).trace steps := by
  rw [trace, next]
  cases s.step x.1 x.2 <;> rfl

/-- The outcomes of a run go on from the state that its first part leaves. -/
theorem trace_append (s : Reduction) (first more : List TaggedLine) :
    s.trace (first ++ more) = s.trace first ++ (s.after first).trace more := by
  induction first generalizing s with
  | nil => rfl
  | cons x first ih => rw [List.cons_append, trace_cons, trace_cons, ih, after_cons, List.cons_append]

theorem length_trace (s : Reduction) (steps : List TaggedLine) :
    (s.trace steps).length = steps.length := by
  induction steps generalizing s with
  | nil => rfl
  | cons x steps ih => rw [trace_cons, List.length_cons, ih, List.length_cons]

/-- The line that a step adds to a record, for the outcome of the step. -/
def takenLine? : TaggedLine × Except Diagnostic Reduction → Option Text
  | ((.content text, _), .ok _) => some text
  | _ => none

/-- The content lines that a run takes, in order. -/
def appliedLines (s : Reduction) (steps : List TaggedLine) : List Text :=
  (steps.zip (s.trace steps)).filterMap takenLine?

theorem appliedLines_concat (s : Reduction) (steps : List TaggedLine) (x : TaggedLine) :
    s.appliedLines (steps ++ [x]) =
      s.appliedLines steps ++ (takenLine? (x, (s.after steps).step x.1 x.2)).toList := by
  have hzip : (steps ++ [x]).zip (s.trace (steps ++ [x])) =
      steps.zip (s.trace steps) ++ [(x, (s.after steps).step x.1 x.2)] := by
    rw [trace_append, List.zip_append (length_trace s steps).symm, trace_cons]
    rfl
  rw [appliedLines, appliedLines, hzip, List.filterMap_append]
  cases htaken : takenLine? (x, (s.after steps).step x.1 x.2) <;> simp [htaken]

/-! ### One step -/

/-- All that a step can do: a marker opens a record, an end of the text closes it, where no
record is open the other steps fail, and otherwise a separator ends the metadata and a
content line is added to the open record. -/
theorem step_cases (s : Reduction) (tag : Tag) (line : Int) :
    (∃ reference, tag = .marker reference ∧
      s.step tag line = .ok ⟨some (.opened reference line), true, s.records⟩) ∨
    (tag = .endOfInput ∧ s.step tag line = .ok ⟨none, false, s.records⟩) ∨
    (s.current = none ∧ ∃ cause, refusal? tag = some cause ∧
      s.step tag line = .error (.structural cause line)) ∨
    (∃ r, s.current = some r ∧ tag = .separator ∧
      s.step tag line = .ok ⟨some r, false, s.completed⟩) ∨
    ∃ r text, s.current = some r ∧ tag = .content text ∧
      s.step tag line = .ok
        ⟨some (if s.inMetadata then r.addMetadata text else r.addDocumentation text), s.inMetadata,
          s.completed⟩ := by
  obtain ⟨current, inMetadata, completed⟩ := s
  cases tag with
  | marker reference => exact Or.inl ⟨reference, rfl, rfl⟩
  | endOfInput => exact Or.inr (Or.inl ⟨rfl, rfl⟩)
  | separator =>
    cases current with
    | none => exact Or.inr (Or.inr (Or.inl ⟨rfl, _, rfl, rfl⟩))
    | some r => exact Or.inr (Or.inr (Or.inr (Or.inl ⟨r, rfl, rfl, rfl⟩)))
  | content text =>
    cases current with
    | none => exact Or.inr (Or.inr (Or.inl ⟨rfl, _, rfl, rfl⟩))
    | some r => exact Or.inr (Or.inr (Or.inr (Or.inr ⟨r, text, rfl, rfl, rfl⟩)))

theorem next_of_step {s t : Reduction} {x : TaggedLine} (h : s.step x.1 x.2 = .ok t) : s.next x = t := by
  rw [next, h]
  rfl

theorem next_of_error {s : Reduction} {x : TaggedLine} {d : Diagnostic} (h : s.step x.1 x.2 = .error d) :
    s.next x = s := by
  rw [next, h]
  rfl

theorem records_of_none {s : Reduction} (h : s.current = none) : s.records = s.completed := by
  simp [records, h]

theorem records_of_some {s : Reduction} {r : Record} (h : s.current = some r) :
    s.records = s.completed ++ [r] := by
  simp [records, h]

/-! ## The account of a run -/

/-- What a state owes to the steps that led to it. -/
structure Accounts (steps : List TaggedLine) (s : Reduction) : Prop where
  isOpen : s.current.isSome = true ↔ LeavesOpen steps
  inMetadata : s.inMetadata = true → ∃ r, s.current = some r ∧ r.documentation = []
  length : s.records.length = steps.countP isOpening
  body : s.records.flatMap Record.body = contentText (start.appliedLines steps)

theorem accounts_start : Accounts [] start where
  isOpen := by simp [start, not_leavesOpen_nil]
  inMetadata h := by simp [start] at h
  length := rfl
  body := rfl

/-- One step keeps the account of a run. -/
theorem Accounts.next {steps : List TaggedLine} (h : Accounts steps (start.after steps)) (x : TaggedLine) :
    Accounts (steps ++ [x]) (start.after (steps ++ [x])) := by
  obtain ⟨tag, line⟩ := x
  rw [after_append, after_cons, after_nil]
  generalize hs : start.after steps = s at h
  have hlines := appliedLines_concat start steps (tag, line)
  rw [hs] at hlines
  have hcount : (steps ++ [(tag, line)]).countP isOpening =
      steps.countP isOpening + if isOpening (tag, line) then 1 else 0 := by
    rw [List.countP_append, List.countP_singleton]
  rcases step_cases s tag line with ⟨reference, rfl, hstep⟩ | ⟨rfl, hstep⟩ |
    ⟨hnone, cause, hcause, hstep⟩ | ⟨r, hsome, rfl, hstep⟩ | ⟨r, text, hsome, rfl, hstep⟩
  case inl =>
    rw [next_of_step hstep]
    rw [hstep] at hlines
    refine ⟨?_, fun _ => ⟨_, rfl, rfl⟩, ?_, ?_⟩
    · simp [leavesOpen_concat, isOpening]
    · rw [hcount, records_of_some rfl, List.length_append, h.length]
      rfl
    · rw [hlines, records_of_some rfl, List.flatMap_append, h.body]
      simp [takenLine?, Record.body, Record.opened]
  case inr.inl =>
    rw [next_of_step hstep]
    rw [hstep] at hlines
    refine ⟨?_, fun hcontra => by simp at hcontra, ?_, ?_⟩
    · simp [leavesOpen_concat, isOpening]
    · rw [hcount, records_of_none rfl, h.length]
      rfl
    · rw [hlines, records_of_none rfl, h.body]
      simp [takenLine?]
  case inr.inr.inl =>
    rw [next_of_error hstep]
    rw [hstep] at hlines
    have hopening : isOpening (tag, line) = false := by
      cases tag <;> simp_all [isOpening, refusal?]
    refine ⟨?_, h.inMetadata, ?_, ?_⟩
    · rw [leavesOpen_concat, ← h.isOpen, hnone, hopening]
      simp
    · rw [hcount, hopening, h.length]
      rfl
    · rw [hlines, h.body]
      cases tag <;> simp_all [takenLine?]
  case inr.inr.inr.inl =>
    rw [next_of_step hstep]
    rw [hstep] at hlines
    have hrecords : (⟨some r, false, s.completed⟩ : Reduction).records = s.records :=
      (records_of_some rfl).trans (records_of_some hsome).symm
    refine ⟨?_, fun hcontra => by simp at hcontra, ?_, ?_⟩
    · simp [leavesOpen_concat, isOpening, ← h.isOpen, hsome]
    · rw [hcount, hrecords, h.length]
      rfl
    · rw [hlines, hrecords, h.body]
      simp [takenLine?]
  case inr.inr.inr.inr =>
    rw [next_of_step hstep]
    rw [hstep] at hlines
    have hlength := h.length
    have hbody := h.body
    rw [records_of_some hsome] at hlength hbody
    refine ⟨?_, fun hmetadata => ?_, ?_, ?_⟩
    · simp [leavesOpen_concat, isOpening, ← h.isOpen, hsome]
    · obtain ⟨r', hr', hempty⟩ := h.inMetadata hmetadata
      obtain rfl : r = r' := by simpa [hsome] using hr'
      have hmetadata : s.inMetadata = true := hmetadata
      exact ⟨_, rfl, by simp [hmetadata, Record.addMetadata, hempty]⟩
    · rw [hcount, records_of_some rfl, ← hlength, List.length_append, List.length_append]
      rfl
    · have hadded : Record.body (if s.inMetadata then r.addMetadata text else r.addDocumentation text) =
          r.body ++ contentText [text] := by
        cases hmetadata : s.inMetadata with
        | true =>
          obtain ⟨r', hr', hempty⟩ := h.inMetadata hmetadata
          obtain rfl : r = r' := by simpa [hsome] using hr'
          simp [Record.body, Record.addMetadata, hempty, contentText]
        | false => simp [Record.body, Record.addDocumentation, contentText]
      rw [List.flatMap_append] at hbody
      rw [hlines, records_of_some rfl, List.flatMap_append, takenLine?, Option.toList_some,
        Record.contentText_append, ← hbody, List.append_assoc]
      simp [hadded]

theorem accounts_after (steps : List TaggedLine) : Accounts steps (start.after steps) := by
  induction steps using List.reverseRecOn with
  | nil => exact accounts_start
  | append_singleton steps x ih => exact ih.next x

/-! ## Completed records -/

/-- A step completes one record at most and changes none that is completed. -/
theorem exists_completed_next (s : Reduction) (x : TaggedLine) :
    ∃ more, (s.next x).completed = s.completed ++ more ∧ more.length ≤ 1 := by
  obtain ⟨tag, line⟩ := x
  have hcurrent : s.current.toList.length ≤ 1 := by cases s.current <;> simp
  rcases step_cases s tag line with ⟨reference, -, hstep⟩ | ⟨-, hstep⟩ | ⟨-, cause, -, hstep⟩ |
    ⟨r, -, -, hstep⟩ | ⟨r, text, -, -, hstep⟩
  · exact ⟨s.current.toList, by rw [next_of_step hstep]; rfl, hcurrent⟩
  · exact ⟨s.current.toList, by rw [next_of_step hstep]; rfl, hcurrent⟩
  · exact ⟨[], by rw [next_of_error hstep]; simp, by simp⟩
  · exact ⟨[], by rw [next_of_step hstep]; simp, by simp⟩
  · exact ⟨[], by rw [next_of_step hstep]; simp, by simp⟩

/-- Completed records stay as they are. -/
theorem completed_prefix_after (s : Reduction) (steps : List TaggedLine) :
    s.completed <+: (s.after steps).completed := by
  induction steps generalizing s with
  | nil => exact List.prefix_refl s.completed
  | cons x steps ih =>
    obtain ⟨more, hmore, -⟩ := exists_completed_next s x
    exact List.IsPrefix.trans ⟨more, hmore.symm⟩ (ih (s.next x))

/-! ## Ended metadata -/

/-- The record at an index has given metadata, and no line can be added to them. -/
structure HoldsMetadata (index : Nat) (metadata : Text) (s : Reduction) : Prop where
  record : ∃ r, s.records[index]? = some r ∧ r.metadata = metadata
  ended : index = s.completed.length → s.inMetadata = false

theorem holdsMetadata_next_separator {s : Reduction} {r : Record} (h : s.current = some r)
    (line : Int) : HoldsMetadata s.completed.length r.metadata (s.next (.separator, line)) := by
  have hnext : s.next (.separator, line) = ⟨some r, false, s.completed⟩ := by
    rcases step_cases s .separator line with ⟨reference, hcontra, -⟩ | ⟨hcontra, -⟩ |
      ⟨hnone, -⟩ | ⟨r', hr', -, hstep⟩ | ⟨r', text, -, hcontra, -⟩
    · cases hcontra
    · cases hcontra
    · simp [hnone] at h
    · obtain rfl : r = r' := by simpa [h] using hr'
      exact next_of_step hstep
    · cases hcontra
  rw [hnext]
  exact ⟨⟨r, by simp [records], rfl⟩, fun _ => rfl⟩

/-- No step changes metadata that have ended. -/
theorem HoldsMetadata.next {index : Nat} {metadata : Text} {s : Reduction}
    (h : HoldsMetadata index metadata s) (x : TaggedLine) : HoldsMetadata index metadata (s.next x) := by
  obtain ⟨tag, line⟩ := x
  obtain ⟨r, hr, hmetadata⟩ := h.record
  have hindex : index < s.records.length := (List.getElem?_eq_some_iff.1 hr).1
  rcases step_cases s tag line with ⟨reference, -, hstep⟩ | ⟨-, hstep⟩ | ⟨-, cause, -, hstep⟩ |
    ⟨r', hsome, -, hstep⟩ | ⟨r', text, hsome, -, hstep⟩
  case inl =>
    rw [next_of_step hstep]
    refine ⟨⟨r, ?_, hmetadata⟩, fun hcontra => absurd hcontra (Nat.ne_of_lt hindex)⟩
    rw [records_of_some rfl, List.getElem?_append_left hindex, hr]
  case inr.inl =>
    rw [next_of_step hstep]
    exact ⟨⟨r, hr ▸ by rw [records_of_none rfl], hmetadata⟩,
      fun hcontra => absurd hcontra (Nat.ne_of_lt hindex)⟩
  case inr.inr.inl =>
    rw [next_of_error hstep]
    exact h
  case inr.inr.inr.inl =>
    rw [next_of_step hstep]
    refine ⟨⟨r, ?_, hmetadata⟩, fun _ => rfl⟩
    rw [records_of_some rfl, ← records_of_some hsome, hr]
  case inr.inr.inr.inr =>
    rw [next_of_step hstep]
    refine ⟨?_, h.ended⟩
    rw [records_of_some hsome] at hr hindex
    rw [records_of_some rfl]
    rcases Nat.lt_or_ge index s.completed.length with hlt | hge
    · rw [List.getElem?_append_left hlt] at hr ⊢
      exact ⟨r, hr, hmetadata⟩
    · -- The record is the open one, and lines are added to its documentation only.
      obtain rfl : index = s.completed.length := by
        rw [List.length_append, List.length_singleton] at hindex
        omega
      obtain rfl : r' = r := by simpa using hr
      exact ⟨r'.addDocumentation text, by simp [h.ended rfl], hmetadata⟩

theorem HoldsMetadata.after {index : Nat} {metadata : Text} {s : Reduction}
    (h : HoldsMetadata index metadata s) (steps : List TaggedLine) :
    HoldsMetadata index metadata (s.after steps) := by
  induction steps generalizing s with
  | nil => exact h
  | cons x steps ih => exact ih (h.next x)

/-! ## Failures -/

/-- A step fails exactly if no record is open and its tag belongs to a record. -/
theorem step_eq_error_iff {s : Reduction} {tag : Tag} {line : Int} {d : Diagnostic} :
    s.step tag line = .error d ↔
      s.current.isSome = false ∧ ∃ cause, refusal? tag = some cause ∧ d = .structural cause line := by
  rcases step_cases s tag line with ⟨reference, rfl, hstep⟩ | ⟨rfl, hstep⟩ |
    ⟨hnone, cause, hcause, hstep⟩ | ⟨r, hsome, rfl, hstep⟩ | ⟨r, text, hsome, rfl, hstep⟩
  · simp [hstep, refusal?]
  · simp [hstep, refusal?]
  · rw [hstep, hnone, hcause]
    simp [eq_comm]
  · simp [hstep, hsome]
  · simp [hstep, hsome]

/-! ## All runs -/

/-- The reduction loses and duplicates nothing over any run.  Metadata are open only in an
open record, every marker makes one record, and the records hold the lines that were taken.
Of a run that is cut in front of a step: the outcome of the step in the run is that of the
state before it, the step completes one record at most, completed records and metadata in
front of a separator stay as they are, and the step fails exactly if it needs an open record
and none was opened since the start or since the last end of the text. -/
theorem after_start_accounts (steps : List TaggedLine) :
    ((start.after steps).inMetadata = true → (start.after steps).current.isSome = true) ∧
    (start.after steps).records.length = steps.countP isOpening ∧
    (start.after steps).records.flatMap Record.body = contentText (start.appliedLines steps) ∧
    ∀ first tag line more, steps = first ++ (tag, line) :: more →
      (start.trace steps)[first.length]? = some ((start.after first).step tag line) ∧
      (∃ added, (start.after (first ++ [(tag, line)])).completed =
        (start.after first).completed ++ added ∧ added.length ≤ 1) ∧
      (start.after first).completed <+: (start.after steps).completed ∧
      (∀ r, (start.after first).current = some r → tag = .separator →
        ∃ r', (start.after steps).records[(start.after first).completed.length]? = some r' ∧
          r'.metadata = r.metadata) ∧
      ∀ d, (start.after first).step tag line = .error d ↔
        ¬ LeavesOpen first ∧ ∃ cause, refusal? tag = some cause ∧ d = .structural cause line := by
  have haccounts := accounts_after steps
  refine ⟨fun hmetadata => ?_, haccounts.length, haccounts.body, ?_⟩
  · obtain ⟨r, hr, -⟩ := haccounts.inMetadata hmetadata
    simp [hr]
  rintro first tag line more rfl
  have hcut : start.after (first ++ (tag, line) :: more) =
      ((start.after first).next (tag, line)).after more := by
    rw [after_append, after_cons]
  refine ⟨?_, ?_, ?_, fun r hr htag => ?_, fun d => ?_⟩
  · have hlength : (start.trace first).length ≤ first.length := Nat.le_of_eq (length_trace _ _)
    rw [trace_append, trace_cons, List.getElem?_append_right hlength, length_trace]
    simp
  · rw [after_append, after_cons, after_nil]
    exact exists_completed_next _ _
  · rw [after_append]
    exact completed_prefix_after _ _
  · rw [hcut, htag]
    exact ((holdsMetadata_next_separator hr line).after more).record
  · rw [step_eq_error_iff, ← (accounts_after first).isOpen, Bool.not_eq_true]

/-- A run with a failing step, a repeated separator and lines behind an end of the text. -/
def interruptedRun : List TaggedLine :=
  [(.separator, 1), (.marker "f", 2), (.content "a", 3), (.separator, 4), (.content "b", 5),
    (.separator, 6), (.endOfInput, 7), (.content "c", 8), (.marker "g", 9)]

theorem after_interruptedRun :
    (start.after interruptedRun).records.flatMap Record.body =
        contentText (start.appliedLines interruptedRun) ∧
      start.appliedLines interruptedRun = [.ofString "a", .ofString "b"] ∧
      (start.after interruptedRun).completed = [⟨"f", 2, "\na", "\nb"⟩] ∧
      (start.after (interruptedRun.take 7)).step (.content "c") 8 =
        .error (.structural .contentOutside 8) := by
  have hrun := after_start_accounts interruptedRun
  have hfails := (hrun.2.2.2 (interruptedRun.take 7) (.content "c") 8 [(.marker "g", 9)] rfl).2.2.2.2
  refine ⟨hrun.2.2.1, by decide, by decide, (hfails _).2 ⟨?_, _, rfl, rfl⟩⟩
  rw [← (accounts_after _).isOpen]
  decide

end Reduction

end AnnotatedMarkdown
