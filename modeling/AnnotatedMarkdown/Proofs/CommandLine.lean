import AnnotatedMarkdown.CommandLine
import AnnotatedMarkdown.Proofs.Compilation.File
import AnnotatedMarkdown.Proofs.Journal

/-!
# The command and its journal

What a run leaves, and that the options of the journal have no influence on it.

* Requests.  `Request.compiled` is what the input compiles to, `Request.sink` the file of the
  journal, and `Request.KeepsSinkApart` asks that this file can be opened and has no other part
  in the run.
* Delivery.  `deliver_agrees` compares writing a module with and without a journal, and
  `deliver_of_canWrite` says what is written.
* `execute_agrees` compares a run with `Request.unlogged`, the run without a journal.
* `run_request` is the whole command: all of its output, or none.
-/

namespace AnnotatedMarkdown.CommandLine

open File AnnotatedMarkdown.Outcome

/-! ## Requests -/

/-- The request that has been read. -/
def Reading.request? : Reading → Option Request
  | .request r => some r
  | _ => none

theorem request?_eq_some_iff {reading : Reading} {r : Request} :
    reading.request? = some r ↔ reading = .request r := by
  cases reading <;> simp [Reading.request?]

namespace Request

/-- What the input of a request compiles to. -/
def compiled (files : Tree) (r : Request) : Except CommandFault Text :=
  compileFile files (r.input.getD []) (r.config.map Path.ofText)

/-- The place of the file that the journal is kept in. -/
def sink (files : Tree) (r : Request) : Option Place :=
  (r.logFile.map Path.ofText).map files.spelled

/-- The file of the journal can be opened.  It is none of the files that the request names, nor
the configuration, and if it is missing it is on the way to none of the former. -/
structure KeepsSinkApart (files : Tree) (r : Request) : Prop where
  isOpenable : ∀ p, r.sink files = some p → (files.openForAdditions (Tree.absolute p)).isOk = true
  input : ∀ i, r.input = some i → files.Avoids (r.sink files) (.ofText i)
  output : ∀ o, r.output = some o → files.Avoids (r.sink files) (.ofText o)
  config : ∀ i p, r.input = some i → r.sink files = some p →
    Configuration.file? files ((r.config.map Path.ofText).getD (.ofText i)) ≠ some p

/-- Without a journal there is nothing to keep apart. -/
theorem keepsSinkApart_of_logFile_eq_none {files : Tree} {r : Request} (h : r.logFile = none) :
    r.KeepsSinkApart files := by
  have hsink : r.sink files = none := by
    unfold sink
    rw [h]
    rfl
  constructor
  · intro p hp
    rw [hsink] at hp
    cases hp
  · intro i _
    rw [hsink]
    exact ⟨nofun, nofun⟩
  · intro o _
    rw [hsink]
    exact ⟨nofun, nofun⟩
  · intro i p _ hp
    rw [hsink] at hp
    cases hp

end Request

/-! ## Faults -/

/-- The status and the last lines of the report of a fault that is reported. -/
def report? : CommandFault → Option (Nat × Text)
  | .failure (.diagnostic (.usage arguments)) =>
    some (2, misuseReport (Diagnostic.usage arguments).message)
  | .failure (.diagnostic d) => some (1, commandLine d.message)
  | .configuration c => some (1, commandLine c.message)
  | .access ⟨.missing, path⟩ => some (1, commandLine (AccessFault.message ⟨.missing, path⟩))
  | _ => none

theorem failed_eq (j : Journal) (f : CommandFault) :
    failed j f =
      match report? f with
      | some (n, report) => ⟨.status n, [], j.shown ++ report, j.files⟩
      | none => ⟨.fault f, [], j.shown, j.files⟩ := by
  unfold failed
  split
  · rfl
  · rename_i d hd
    cases d with
    | usage arguments => exact absurd rfl (hd arguments)
    | _ => rfl
  · rfl
  · rfl
  · -- A fault of no other kind is reported.
    rename_i husage hdiagnostic hconfiguration haccess
    have hnone : report? f = none := by
      unfold report?
      split
      · exact absurd rfl (husage _)
      · exact absurd rfl (hdiagnostic _)
      · exact absurd rfl (hconfiguration _)
      · exact absurd rfl (haccess _)
      · rfl
    rw [hnone]

/-! ## Delivery -/

/-- Outcomes with the same end and output, and with files that agree beside a sink. -/
structure Outcome.AgreesBeside (sink : Option Place) (a b : Outcome) : Prop where
  ending : b.ending = a.ending
  shown : b.shown = a.shown
  files : a.files.AgreesBeside sink b.files

variable {sink : Option Place} {t u : Tree} {j : Journal} {output : Path} {generated : Text}

theorem writeModule_agrees (hj : j.Follows sink t) (havoids : t.Avoids sink output)
    (time generated : Text) :
    Outcome.AgreesBeside sink (writeModule (.start t) [] generated output)
      (writeModule j time generated output) := by
  have hmade := hj.agrees.makeParent havoids.isClear
  have hgrown : ∀ made, t.makeParent output = .ok made → made.Avoids sink output := by
    intro made hmake
    exact havoids.of_grows (Tree.grows_of_makeParent hj.agrees.isSound hmake)
  unfold writeModule
  rw [Journal.files_start]
  -- Making directories and writing fail in both trees with one fault, or in neither.
  generalize t.makeParent output = x at hmade hgrown
  generalize j.files.makeParent output = y at hmade
  cases hmade with
  | fail f => exact ⟨rfl, rfl, hj.agrees⟩
  | @agree made made' hagrees =>
    have hwritten := hagrees.write (hgrown made rfl) (generated.toUtf8?.getD .empty)
    simp only
    generalize made.write output (generated.toUtf8?.getD .empty) = x at hwritten
    generalize made'.write output (generated.toUtf8?.getD .empty) = y at hwritten
    cases hwritten with
    | fail f => exact ⟨rfl, rfl, hagrees⟩
    | @agree done done' hdone =>
      simp only
      split
      · exact ⟨rfl, rfl, hdone⟩
      · refine ⟨rfl, rfl, ?_⟩
        have hfollows : Journal.Follows sink done { j with files := done' } := ⟨hj.file_eq, hdone⟩
        have hstart := Journal.files_note_start done [] (.written output.text)
        unfold Journal.start at hstart ⊢
        simp only [hstart]
        exact (hfollows.note time _).agrees

theorem deliver_agrees (hj : j.Follows sink t) (time generated : Text) {output : Option Path}
    (havoids : ∀ o, output = some o → t.Avoids sink o) :
    Outcome.AgreesBeside sink (deliver (.start t) [] generated output)
      (deliver j time generated output) := by
  cases output with
  | none => exact ⟨rfl, rfl, hj.agrees⟩
  | some o => exact writeModule_agrees hj (havoids o rfl) time generated

/-- A module that can be written is written, and no other file changes. -/
theorem deliver_of_canWrite (h : t.IsSound) {bytes : ByteArray}
    (hbytes : generated.toUtf8? = some bytes) (hwrite : t.canWrite output = true) :
    let done := deliver (.start t) [] generated (some output)
    done.ending = .status 0 ∧ done.shown = [] ∧
      done.files.file? (t.spelled output) = some bytes ∧
      ∀ p, p ≠ t.spelled output → done.files.file? p = t.file? p := by
  unfold Tree.canWrite at hwrite
  cases hmake : t.makeParent output with
  | error f => simp [hmake] at hwrite
  | ok made =>
    rw [hmake] at hwrite
    have hgrows := Tree.grows_of_makeParent h hmake
    obtain ⟨place, htarget⟩ := isOk_iff.1 hwrite
    have hwritten : made.write output bytes = .ok (made.put place (.file bytes)) := by
      unfold Tree.write
      rw [htarget]
      rfl
    obtain ⟨hself, hother⟩ := Tree.file?_of_write (hgrows.isSound h) hwritten
    rw [hgrows.spelled] at hself hother
    have hstart := Journal.files_note_start (made.put place (.file bytes)) [] (.written output.text)
    unfold Journal.start at hstart
    simp only [deliver, writeModule, Journal.start, hmake, hbytes, Option.getD_some, hwritten,
      Option.isNone_some, Bool.false_eq_true, if_false, hstart]
    refine ⟨trivial, trivial, hself, ?_⟩
    intro p hp
    rw [Tree.file?_congr (hother p hp)]
    exact hgrows.file? p

/-! ## Runs -/

/-- What a request leaves without a journal. -/
def Request.unlogged (files : Tree) (r : Request) : Outcome :=
  match r.compiled files with
  | .error f => failed (.start files) f
  | .ok generated => deliver (.start files) [] generated (r.output.map Path.ofText)

/-- A run compiles the input and then either fails or delivers the module; its journal follows
the files up to that point. -/
theorem exists_execute_eq {files : Tree} (h : files.IsSound) (time : Text) {r : Request}
    (hr : r.KeepsSinkApart files) :
    ∃ j, Journal.Follows (r.sink files) files j ∧
      execute files time r =
        match r.compiled files with
        | .error f => failed j f
        | .ok generated => deliver j time generated (r.output.map Path.ofText) := by
  have hopen : ∀ path, r.logFile.map Path.ofText = some path →
      (files.openForAdditions (Tree.absolute (files.spelled path))).isOk = true := by
    intro path hpath
    apply hr.isOpenable
    unfold Request.sink
    rw [hpath]
    rfl
  obtain ⟨j, hconfigure, hfollows⟩ := Journal.exists_follows_configure h
    ⟨r.verbose, r.quiet, r.logFile.map Path.ofText⟩ hopen
  have hj : j.Follows (r.sink files) files := hfollows
  unfold execute Request.compiled compileFile
  simp only [hconfigure]
  cases hinput : r.input with
  | none => exact ⟨j, hj, rfl⟩
  | some input =>
    cases input with
    | nil => exact ⟨j, hj, rfl⟩
    | cons c cs =>
      have havoids := hr.input _ hinput
      have hload := hj.agrees.load fun p hp => hr.config _ p hinput hp
      simp only [Option.getD_some, List.isEmpty_cons, Bool.false_eq_true, if_false, hload]
      cases Configuration.load files ((r.config.map Path.ofText).getD (.ofText (c :: cs))) with
      | error f => exact ⟨j, hj, rfl⟩
      | ok configuration =>
        simp only [compileWith]
        have hnoted := hj.note time (.compiling (Path.ofText (c :: cs)).text)
        rw [hnoted.agrees.readText havoids]
        cases Configuration.readText files (.ofText (c :: cs)) with
        | error f => exact ⟨_, hnoted, rfl⟩
        | ok source =>
          have hnotices := hnoted.noteAll time (notices configuration.options source)
          cases hcompile : compile configuration.options source with
          | error f =>
            refine ⟨_, hnotices, ?_⟩
            simp [hcompile, Except.mapError, bind, Except.bind]
          | ok generated =>
            refine ⟨_, hnotices, ?_⟩
            simp [hcompile, Except.mapError, bind, Except.bind]

variable {files : Tree} {r r' : Request}

/-- The journal has no influence on the end of a run, on its output, and on other files. -/
theorem execute_agrees (h : files.IsSound) (time : Text) (hr : r.KeepsSinkApart files) :
    Outcome.AgreesBeside (r.sink files) (r.unlogged files) (execute files time r) := by
  obtain ⟨j, hj, hexecute⟩ := exists_execute_eq h time hr
  unfold Request.unlogged
  rw [hexecute]
  cases r.compiled files with
  | error f =>
    simp only [failed_eq]
    split
    · exact ⟨rfl, rfl, hj.agrees⟩
    · exact ⟨rfl, rfl, hj.agrees⟩
  | ok generated =>
    apply deliver_agrees hj
    intro o ho
    obtain ⟨written, hwritten, rfl⟩ := Option.map_eq_some_iff.1 ho
    exact hr.output written hwritten

theorem report_of_compiled (h : files.IsSound) (time : Text) (hr : r.KeepsSinkApart files)
    {f : CommandFault} (hf : r.compiled files = .error f) {n : Nat} {report : Text}
    (hreport : report? f = some (n, report)) :
    (execute files time r).ending = .status n ∧ report <:+ (execute files time r).reported := by
  obtain ⟨j, -, hexecute⟩ := exists_execute_eq h time hr
  rw [hexecute, hf]
  simp only [failed_eq, hreport]
  exact ⟨trivial, List.suffix_append _ _⟩

theorem files_unlogged_of_error {f : CommandFault} (hf : r.compiled files = .error f) :
    (r.unlogged files).shown = [] ∧ (r.unlogged files).files = files := by
  unfold Request.unlogged
  simp only [hf, failed_eq]
  split <;> exact ⟨rfl, rfl⟩

theorem unlogged_congr (hinput : r'.input = r.input) (hconfig : r'.config = r.config)
    (houtput : r'.output = r.output) : r'.unlogged files = r.unlogged files := by
  unfold Request.unlogged Request.compiled
  rw [hinput, hconfig, houtput]

theorem run_of_request {arguments : List Text} (h : Reading.ofTexts arguments = .request r)
    (files : Tree) (time : Text) : run files time arguments = execute files time r := by
  unfold run
  rw [h]

/-- A run leaves all of its output or none.  If the input does not compile, nothing is shown and
no file but the journal changes, and a fault that is reported decides the status.  Otherwise the
generated module is shown, or it is what the output file holds afterwards, and no other file but
the journal changes.  Two runs that differ only in what the journal shows and where it is kept
have the same end, show the same and leave the same files, journals apart. -/
theorem run_request (h : files.IsSound) (time : Text) {arguments : List Text}
    (hread : Reading.ofTexts arguments = .request r) (hr : r.KeepsSinkApart files) :
    (∀ f, r.compiled files = .error f →
      (run files time arguments).shown = [] ∧
      (∀ p, r.sink files ≠ some p →
        (run files time arguments).files.content? p = files.content? p) ∧
      ∀ n report, report? f = some (n, report) →
        (run files time arguments).ending = .status n ∧
          report <:+ (run files time arguments).reported) ∧
    (∀ generated bytes, r.compiled files = .ok generated → generated.toUtf8? = some bytes →
      (r.output = none →
        (run files time arguments).ending = .status 0 ∧
        (run files time arguments).shown = generated ∧
        ∀ p, r.sink files ≠ some p →
          (run files time arguments).files.content? p = files.content? p) ∧
      ∀ o, r.output = some o → files.canWrite (.ofText o) = true →
        (run files time arguments).ending = .status 0 ∧
        (run files time arguments).shown = [] ∧
        (run files time arguments).files.file? (files.spelled (.ofText o)) = some bytes ∧
        ∀ p, r.sink files ≠ some p → p ≠ files.spelled (.ofText o) →
          (run files time arguments).files.file? p = files.file? p) ∧
    ∀ time' arguments' r', Reading.ofTexts arguments' = .request r' →
      r'.KeepsSinkApart files → r'.input = r.input → r'.config = r.config →
      r'.output = r.output →
        (run files time' arguments').ending = (run files time arguments).ending ∧
        (run files time' arguments').shown = (run files time arguments).shown ∧
        ∀ p, r.sink files ≠ some p → r'.sink files ≠ some p →
          (run files time' arguments').files.content? p =
            (run files time arguments).files.content? p := by
  rw [run_of_request hread files time]
  have hagrees := execute_agrees h time hr
  refine ⟨?_, ?_, ?_⟩
  · intro f hf
    obtain ⟨hshown, hfiles⟩ := files_unlogged_of_error hf
    refine ⟨hagrees.shown.trans hshown, ?_, ?_⟩
    · intro p hp
      rw [hagrees.files.content? p hp, hfiles]
    · intro n report hreport
      exact report_of_compiled h time hr hf hreport
  · intro generated bytes hcompiled hbytes
    have hdelivered : r.unlogged files =
        deliver (.start files) [] generated (r.output.map Path.ofText) := by
      unfold Request.unlogged
      rw [hcompiled]
    refine ⟨?_, ?_⟩
    · intro houtput
      rw [houtput] at hdelivered
      refine ⟨?_, ?_, ?_⟩
      · rw [hagrees.ending, hdelivered]
        rfl
      · rw [hagrees.shown, hdelivered]
        rfl
      · intro p hp
        rw [hagrees.files.content? p hp, hdelivered]
        rfl
    · intro o houtput hwrite
      rw [houtput] at hdelivered
      obtain ⟨hending, hshown, hself, hother⟩ := deliver_of_canWrite h hbytes hwrite
      rw [← Option.map_some, ← hdelivered] at hending hshown hself hother
      refine ⟨hagrees.ending.trans hending, hagrees.shown.trans hshown, ?_, ?_⟩
      · rw [Tree.file?_congr (hagrees.files.content? _ (hr.output o houtput).ne)]
        exact hself
      · intro p hp hne
        rw [Tree.file?_congr (hagrees.files.content? p hp)]
        exact hother p hne
  · intro time' arguments' r' hread' hr' hinput hconfig houtput
    rw [run_of_request hread' files time']
    have hagrees' := execute_agrees h time' hr'
    rw [unlogged_congr hinput hconfig houtput] at hagrees'
    refine ⟨hagrees'.ending.trans hagrees.ending.symm, hagrees'.shown.trans hagrees.shown.symm, ?_⟩
    intro p hp hp'
    rw [hagrees'.files.content? p hp', hagrees.files.content? p hp]

/-- A working directory with a file. -/
def workplace : Tree :=
  ⟨["w"], ["w"], [(["w", "a.md"], .file "@annotate: f\n---\nText.".toUTF8)]⟩

/-- Arguments that ask for a module in a directory that does not exist yet, and for a journal. -/
def moduleArguments : List Text :=
  ["a.md", "-v", "--log-file", "log.txt", "-o", "out/m.py"]

/-- What these arguments ask for. -/
def moduleRequest : Request :=
  ⟨some "a.md", some "out/m.py", none, true, false, some "log.txt"⟩

/-- Where the journal is kept. -/
def journalPlace : Place :=
  ["w", "log.txt"]

theorem sink_moduleRequest : moduleRequest.sink workplace = some journalPlace :=
  rfl

theorem keepsSinkApart_moduleRequest : moduleRequest.KeepsSinkApart workplace := by
  constructor
  · intro p hp
    rw [sink_moduleRequest] at hp
    cases hp
    decide
  · intro i hi
    cases hi
    rw [sink_moduleRequest]
    refine ⟨?_, by decide⟩
    intro p hp _
    cases hp
    decide
  · intro o ho
    cases ho
    rw [sink_moduleRequest]
    refine ⟨?_, by decide⟩
    intro p hp _
    cases hp
    decide
  · intro i p hi hp
    cases hi
    rw [sink_moduleRequest] at hp
    cases hp
    decide

theorem run_moduleRequest :
    workplace.IsSound ∧ Reading.ofTexts moduleArguments = .request moduleRequest ∧
    moduleRequest.KeepsSinkApart workplace ∧
    ∃ generated bytes, moduleRequest.compiled workplace = .ok generated ∧
      generated.toUtf8? = some bytes ∧
      (run workplace [] moduleArguments).ending = .status 0 ∧
      (run workplace [] moduleArguments).shown = [] ∧
      (run workplace [] moduleArguments).files.file? ["w", "out", "m.py"] = some bytes ∧
      (run workplace [] moduleArguments).files.file? ["w", "a.md"] =
        workplace.file? ["w", "a.md"] := by
  have hsound : workplace.IsSound := Tree.isSound_of_hasSoundEntries (by decide)
  have hread : Reading.ofTexts moduleArguments = .request moduleRequest :=
    request?_eq_some_iff.1 (by decide +kernel)
  have hapart := keepsSinkApart_moduleRequest
  have hencoded : ((moduleRequest.compiled workplace).toOption.bind Text.toUtf8?).isSome = true := by
    decide +kernel
  obtain ⟨bytes, hbytes⟩ := Option.isSome_iff_exists.1 hencoded
  obtain ⟨generated, hgenerated, hbytes⟩ := Option.bind_eq_some_iff.1 hbytes
  have hcompiled : moduleRequest.compiled workplace = .ok generated :=
    toOption_eq_some_iff.1 hgenerated
  have hwrite : workplace.canWrite (.ofText "out/m.py") = true := by decide
  obtain ⟨-, hmodule, -⟩ := run_request hsound [] hread hapart
  obtain ⟨hending, hshown, hself, hother⟩ := (hmodule generated bytes hcompiled hbytes).2 _ rfl hwrite
  exact ⟨hsound, hread, hapart, generated, bytes, hcompiled, hbytes, hending, hshown, hself,
    hother _ (by rw [sink_moduleRequest]; decide) (by decide)⟩

/-- A working directory without files. -/
def bareWorkplace : Tree :=
  ⟨["w"], ["w"], []⟩

/-- Arguments that ask for a journal in place of a directory of the input. -/
def lostArguments : List Text :=
  ["logs/a.md", "--log-file", "logs"]

/-- What these arguments ask for. -/
def lostRequest : Request :=
  ⟨some "logs/a.md", none, none, false, false, some "logs"⟩

/-- The directory of the input, in place of which the journal is kept. -/
def lostPlace : Place :=
  ["w", "logs"]

/-- The file of the journal is made before the input is looked for.  If it stands on the way to
the input, a missing input is no longer reported. -/
theorem run_lostRequest :
    bareWorkplace.IsSound ∧ Reading.ofTexts lostArguments = .request lostRequest ∧
    (bareWorkplace.openForAdditions (Tree.absolute lostPlace)).isOk = true ∧
    lostRequest.sink bareWorkplace = some lostPlace ∧
    bareWorkplace.spelled (.ofText "logs/a.md") ≠ lostPlace ∧
    Configuration.file? bareWorkplace (.ofText "logs/a.md") ≠ some lostPlace ∧
    lostRequest.compiled bareWorkplace = .error (.access ⟨.missing, "logs/a.md"⟩) ∧
    (run bareWorkplace [] lostArguments).ending ≠ .status 1 := by
  have hread : Reading.ofTexts lostArguments = .request lostRequest :=
    request?_eq_some_iff.1 (by decide +kernel)
  have hending : (execute bareWorkplace [] lostRequest).ending =
      .fault (.access ⟨.notDirectory, "logs/a.md"⟩) := rfl
  refine ⟨Tree.isSound_of_hasSoundEntries (by decide), hread, by decide, rfl, by decide, by decide,
    rfl, ?_⟩
  rw [run_of_request hread, hending]
  simp

end AnnotatedMarkdown.CommandLine
