import AnnotatedMarkdown.Configuration
import AnnotatedMarkdown.Proofs.Annotation.LineFeed
import AnnotatedMarkdown.Proofs.File.Agreement

/-!
# Compilation of files

What a file generates, compared with what its text generates, and with what it generates in
another tree.

* `StandsAlone` describes a file without a configuration.  `Configuration.readText_of_read` and
  `StandsAlone.load` are the two steps that come before compilation.
* `StandsAlone.compileFile_eq` joins them, and `compileFile_eq_compile` compares the file with its
  text.
* `Tree.AgreesBeside.load` and `Tree.AgreesBeside.readText` say that a sink has no influence on
  what is compiled, as long as it is neither the file nor its configuration.
-/

namespace AnnotatedMarkdown

open File Outcome

/-! ## Files and texts -/

/-- Reading gives back a text whose characters have been written, with line feeds for its line
breaks. -/
theorem Text.ofUtf8?_of_toUtf8? {t : Text} {bytes : ByteArray} (h : t.toUtf8? = some bytes) :
    ofUtf8? bytes = some t := by
  obtain ⟨cs, hcs, rfl⟩ := Option.map_eq_some_iff.1 h
  rw [ofUtf8?_toUTF8, ← eq_ofChars_of_chars? hcs]

/-- The cut into lines is all that compilation takes from a text. -/
theorem compile_congr {s t : Text} (h : splitLines s = splitLines t) (options : Options) :
    compile options s = compile options t := by
  unfold compile entitiesOf Record.ofText
  rw [h]

namespace Configuration

variable {t u : Tree} {path : Path} {bytes : ByteArray} {source : Text}

/-- Whether a path has a null character in it. -/
def hasNull (path : Path) : Bool :=
  path.names.any fun n => n.contains (.scalar '\x00')

theorem readText_of_read (hnull : hasNull path = false) (hread : t.read path = .ok bytes)
    (hsource : source.toUtf8? = some bytes) : readText t path = .ok source.withLineFeeds := by
  unfold hasNull at hnull
  unfold readText
  rw [hnull, hread]
  simp only [Except.mapError, ok_bind, Text.ofUtf8?_of_toUtf8? hsource]
  rfl

end Configuration

/-- A Markdown file with given bytes, which has no configuration next to it.  No tilde in its
path stands for a home directory. -/
structure StandsAlone (t : Tree) (path : Path) (bytes : ByteArray) : Prop where
  read : t.read path = .ok bytes
  hasNull : Configuration.hasNull path = false
  spelledFromHome? : t.spelledFromHome? path = some (t.spelled path)
  ending : ending (t.spelled path).name = ".md"
  alone : t.isPresent ((t.spelled path).parent ++ [Configuration.fileName]) = false

namespace StandsAlone

variable {t : Tree} {path : Path} {bytes : ByteArray}

theorem isDirectory (h : StandsAlone t path bytes) : t.isDirectory (t.spelled path) = false := by
  obtain ⟨place, hlocate, hcontent⟩ := bind_eq_ok.1 h.read
  rw [← Tree.locate_eq_ok hlocate]
  unfold Tree.isDirectory
  split at hcontent <;> simp_all

theorem fileFor (h : StandsAlone t path bytes) :
    Configuration.fileFor t (t.spelled path) =
      (t.spelled path).parent ++ [Configuration.fileName] := by
  unfold Configuration.fileFor
  rw [h.isDirectory, h.ending]
  rfl

theorem load (h : StandsAlone t path bytes) :
    Configuration.load t path = .ok ⟨(t.spelled path).parent, .default⟩ := by
  unfold Configuration.load
  rw [h.spelledFromHome?]
  simp only [h.fileFor, h.alone]
  have hparent : Place.parent ((t.spelled path).parent ++ [Configuration.fileName]) =
      (t.spelled path).parent :=
    List.dropLast_concat
  rw [hparent]
  rfl

end StandsAlone

theorem StandsAlone.compileFile_eq {t : Tree} {path source : Text} {bytes : ByteArray}
    (h : StandsAlone t (.ofText path) bytes) (hsource : source.toUtf8? = some bytes) :
    compileFile t path none = (compile .default source.withLineFeeds).mapError .failure := by
  have hpath : path.isEmpty = false := by
    cases path with
    | nil =>
      have hbase := t.isDirectory_base (.ofText [])
      have hdirectory := h.isDirectory
      exact absurd (hbase.symm.trans hdirectory) (by simp)
    | cons c path => rfl
  unfold compileFile
  rw [hpath]
  simp only [Option.getD_none, h.load, Configuration.readText_of_read h.hasNull h.read hsource,
    ok_bind]
  rfl

/-- A file that stands alone generates what its text generates after its line breaks have become
line feeds.  That is what the text itself generates, unless a carriage return follows one of its
line feeds without a line feed of its own. -/
theorem compileFile_eq_compile {t : Tree} {path source : Text} {bytes : ByteArray}
    (h : StandsAlone t (.ofText path) bytes) (hsource : source.toUtf8? = some bytes) :
    compileFile t path none = (compile .default source.withLineFeeds).mapError .failure ∧
      (source.hasLoneReversedBreak = false →
        compileFile t path none = (compile .default source).mapError .failure) := by
  refine ⟨h.compileFile_eq hsource, ?_⟩
  intro hbreaks
  rw [h.compileFile_eq hsource, compile_congr ((Text.splitLines_withLineFeeds_iff source).2 hbreaks)]

/-- A tree with one file in its working directory. -/
def loneFile (source : String) : Tree :=
  ⟨["w"], ["w"], [(["w", "a.md"], .file source.toUTF8)]⟩

theorem standsAlone_loneFile (source : String) :
    StandsAlone (loneFile source) (.ofText "a.md") source.toUTF8 where
  read := rfl
  hasNull := by decide
  spelledFromHome? := rfl
  ending := rfl
  alone := rfl

/-- A text with the other three styles of line breaks.  The carriage return behind its second
line goes with the line feed after it. -/
def mixedBreaks : String :=
  "@annotate: f\r\n---\n\r\nA\rB"

theorem compileFile_eq_compile_mixedBreaks :
    StandsAlone (loneFile mixedBreaks) (.ofText "a.md") mixedBreaks.toUTF8 ∧
    Text.toUtf8? mixedBreaks = some mixedBreaks.toUTF8 ∧
    compileFile (loneFile mixedBreaks) "a.md" none =
      (compile .default mixedBreaks).mapError .failure := by
  have hfile := standsAlone_loneFile mixedBreaks
  have hsource : Text.toUtf8? mixedBreaks = some mixedBreaks.toUTF8 := rfl
  exact ⟨hfile, hsource, (compileFile_eq_compile hfile hsource).2 (by decide)⟩

/-- A text whose line breaks are a line feed and a carriage return in this order. -/
def reversedBreaks : String :=
  "@annotate: f\n\r---\n\rA\n\rB"

/-- A line feed and a carriage return in this order are one line break of a text, but two of a
file. -/
theorem compileFile_ne_compile_reversedBreaks :
    StandsAlone (loneFile reversedBreaks) (.ofText "a.md") reversedBreaks.toUTF8 ∧
    compileFile (loneFile reversedBreaks) "a.md" none ≠
      (compile .default reversedBreaks).mapError .failure := by
  have hmodules :
      ((compile .default (Text.withLineFeeds reversedBreaks)).mapError
          CommandFault.failure).toOption ≠
        ((compile .default reversedBreaks).mapError CommandFault.failure).toOption := by
    decide +kernel
  have hfile := standsAlone_loneFile reversedBreaks
  have hsource : Text.toUtf8? reversedBreaks = some reversedBreaks.toUTF8 := rfl
  refine ⟨hfile, ?_⟩
  intro heq
  rw [(compileFile_eq_compile hfile hsource).1] at heq
  exact hmodules (congrArg Except.toOption heq)

/-! ## Files and sinks -/

/-- The place that the configuration for a path is looked for at. -/
def Configuration.file? (t : Tree) (path : Path) : Option Place :=
  (t.spelledFromHome? path).map (Configuration.fileFor t)

namespace File.Tree.AgreesBeside

variable {sink : Option Place} {t u : Tree} {path : Path}

theorem spelledFromHome? (h : AgreesBeside sink t u) (path : Path) :
    u.spelledFromHome? path = t.spelledFromHome? path := by
  unfold Tree.spelledFromHome?
  rw [h.home, h.spelled]

theorem fileFor (h : AgreesBeside sink t u) (place : Place) :
    Configuration.fileFor u place = Configuration.fileFor t place := by
  unfold Configuration.fileFor
  rw [h.isDirectory]

theorem readText (h : AgreesBeside sink t u) (havoids : t.Avoids sink path) :
    Configuration.readText u path = Configuration.readText t path := by
  unfold Configuration.readText
  rw [h.read havoids]

/-- The configuration for a path is the same unless its file is the sink. -/
theorem load (h : AgreesBeside sink t u)
    (hne : ∀ p, sink = some p → Configuration.file? t path ≠ some p) :
    Configuration.load u path = Configuration.load t path := by
  unfold Configuration.load
  unfold Configuration.file? at hne
  rw [h.spelledFromHome?]
  cases hplace : t.spelledFromHome? path with
  | none => rfl
  | some place =>
    rw [hplace] at hne
    have hsink : sink ≠ some (Configuration.fileFor t place) := by
      intro hsink
      exact hne _ hsink rfl
    have hpresent := h.isPresent fun heq => absurd heq hsink
    simp only [h.fileFor, hpresent]
    cases hfile : t.isPresent (Configuration.fileFor t place) with
    | false => rfl
    | true =>
      have hclear := isClear_absolute h.isSound sink hfile
      have hspelled : t.spelled (absolute (Configuration.fileFor t place)) =
          Configuration.fileFor t place :=
        IsSound.spelled_absolute (h.isSound.not_above _ hfile)
      rw [h.readText ⟨hclear, by rw [hspelled]; exact hsink⟩]

end File.Tree.AgreesBeside

end AnnotatedMarkdown
