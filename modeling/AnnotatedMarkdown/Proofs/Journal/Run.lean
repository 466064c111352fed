import AnnotatedMarkdown.Proofs.Journal
import AnnotatedMarkdown.Proofs.Journal.Channel

/-!
# Runs of a journal

What becomes of messages in a journal that is configured again and again.

* Calls.  `JournalCall` is a configuration or a message, and `Journal.after?` the journal after
  several calls, as long as every file can be opened.  `said` reads off the calls which options
  each message is said under, and `shownText` and `filedText` what these ask for; none of them
  knows of the journal.
* `Carries` relates a journal to a later one by the messages in between.
* The invariant.  `IsUnder` describes a journal under options.  `isUnder_of_configure` is a
  configuration of any journal, however it has been configured before, and `IsUnder.take` a
  message, which its handlers show and file by `foldl_handle_handlers`.
* `IsUnder.after?` is a whole run under options that change, and `after_configure` a run from the
  first configuration on.
-/

namespace AnnotatedMarkdown

open File Outcome

/-! ## Options -/

namespace JournalOptions

/-- The place of the file, from a working directory. -/
def place? (o : JournalOptions) (directory : Place) : Option Place :=
  o.file.map (·.placeFrom directory)

/-- The handlers that are asked for: one for the console, and one for the file if there is one. -/
def handlers (o : JournalOptions) (directory : Place) : List Handler :=
  ⟨o.consoleLevel, .brief, .console⟩ ::
    ((o.place? directory).map fun p => ⟨.debug, .dated, .file p⟩).toList

/-- The files after a message, of which the one that is asked for gets the bytes of its line. -/
def filing (o : JournalOptions) (directory : Place) (m : Message) (bytes : ByteArray) (t : Tree) :
    Tree :=
  match o.place? directory with
  | none => t
  | some p => if m.level.reaches .debug then t.append p bytes else t

/-- The program takes whatever one of its handlers handles. -/
theorem reaches_threshold {o : JournalOptions} {directory : Place} {h : Handler}
    (hh : h ∈ o.handlers directory) {level : Level} (hlevel : level.reaches h.level = true) :
    level.reaches o.threshold = true := by
  unfold threshold
  rcases List.mem_cons.1 hh with rfl | hfile
  · split
    · -- No level of a console is below that of a file.
      have hconsole : Level.debug.number ≤ o.consoleLevel.number := by
        unfold consoleLevel
        split_ifs <;> decide
      simp only [Level.reaches, decide_eq_true_eq] at hlevel ⊢
      omega
    · exact hlevel
  · cases hpath : o.file with
    | none => simp [place?, hpath] at hfile
    | some path =>
      simp only [place?, hpath, Option.map_some, Option.toList_some, List.mem_singleton] at hfile
      rw [hfile] at hlevel
      exact hlevel

end JournalOptions

/-! ## Calls -/

/-- What is asked of a journal. -/
inductive JournalCall where
  | configure (o : JournalOptions)
  | message (m : Message)

namespace Journal

/-- The journal after calls, if no configuration among them fails. -/
def after? (j : Journal) : List JournalCall → Option Journal
  | [] => some j
  | .configure o :: calls =>
    match j.configure o with
    | (j, none) => j.after? calls
    | (_, some _) => none
  | .message m :: calls => (j.take m).after? calls

/-- The latest options after calls. -/
def latest (o : JournalOptions) : List JournalCall → JournalOptions
  | [] => o
  | .configure o :: calls => latest o calls
  | .message _ :: calls => latest o calls

/-- The messages of calls, each with the options that are the latest when it is said. -/
def said (o : JournalOptions) : List JournalCall → List (JournalOptions × Message)
  | [] => []
  | .configure o :: calls => said o calls
  | .message m :: calls => (o, m) :: said o calls

/-- The options of the configurations among calls. -/
def configured : List JournalCall → List JournalOptions
  | [] => []
  | .configure o :: calls => o :: configured calls
  | .message _ :: calls => configured calls

/-- What the console shows of messages: those at its level or above. -/
def shownText (messages : List (JournalOptions × Message)) : Text :=
  (messages.filter fun s => s.2.level.reaches s.1.consoleLevel).flatMap fun s =>
    Layout.brief.line s.2

/-- What the file at a place gets of messages: those that are said while it is the file of the
latest options, from the level for finding faults on. -/
def filedText (directory p : Place) (messages : List (JournalOptions × Message)) : Text :=
  (messages.filter fun s =>
    s.1.place? directory == some p && s.2.level.reaches .debug).flatMap fun s =>
    Layout.dated.line s.2

theorem shownText_append (ms ns : List (JournalOptions × Message)) :
    shownText (ms ++ ns) = shownText ms ++ shownText ns := by
  simp [shownText]

theorem filedText_append (directory p : Place) (ms ns : List (JournalOptions × Message)) :
    filedText directory p (ms ++ ns) = filedText directory p ms ++ filedText directory p ns := by
  simp [filedText]

/-! ## From a journal to a later one -/

/-- What happens between two journals: messages are shown and filed, under some of the options. -/
structure Carries (directory : Place) (options : List JournalOptions)
    (messages : List (JournalOptions × Message)) (j k : Journal) : Prop where
  shown_eq : k.shown = j.shown ++ shownText messages
  bytesAt_eq : ∀ p, ∃ bytes, (filedText directory p messages).toUtf8? = some bytes ∧
    k.files.bytesAt p = j.files.bytesAt p ++ bytes
  content?_eq : ∀ p, (∀ o ∈ options, o.place? directory ≠ some p) →
    k.files.content? p = j.files.content? p

variable {o : JournalOptions} {directory p : Place} {t u : Tree} {j k l : Journal} {m : Message}
  {calls : List JournalCall} {options options' : List JournalOptions}
  {ms ns : List (JournalOptions × Message)}

namespace Carries

/-- Nothing is shown and nothing is filed. -/
theorem of_bytesAt_eq (hshown : k.shown = j.shown)
    (hbytes : ∀ p, k.files.bytesAt p = j.files.bytesAt p)
    (hcontent : ∀ p, (∀ o ∈ options, o.place? directory ≠ some p) →
      k.files.content? p = j.files.content? p) : Carries directory options [] j k where
  shown_eq := by rw [hshown, shownText, List.filter_nil, List.flatMap_nil, List.append_nil]
  bytesAt_eq p := ⟨.empty, rfl, by rw [hbytes, ByteArray.append_empty]⟩
  content?_eq := hcontent

theorem trans (h : Carries directory options ms j k) (h' : Carries directory options' ns k l) :
    Carries directory (options ++ options') (ms ++ ns) j l where
  shown_eq := by
    rw [h'.shown_eq, h.shown_eq, shownText_append, List.append_assoc]
  bytesAt_eq p := by
    obtain ⟨first, hfirst, hk⟩ := h.bytesAt_eq p
    obtain ⟨second, hsecond, hl⟩ := h'.bytesAt_eq p
    refine ⟨first ++ second, ?_, ?_⟩
    · rw [filedText_append]
      exact Text.toUtf8?_append hfirst hsecond
    · rw [hl, hk, ByteArray.append_assoc]
  content?_eq p hp := by
    rw [h'.content?_eq p fun o ho => hp o (List.mem_append_right _ ho),
      h.content?_eq p fun o ho => hp o (List.mem_append_left _ ho)]

theorem mono (h : Carries directory options ms j k) (hsub : options ⊆ options') :
    Carries directory options' ms j k where
  shown_eq := h.shown_eq
  bytesAt_eq := h.bytesAt_eq
  content?_eq p hp := h.content?_eq p fun o ho => hp o (hsub ho)

end Carries

/-! ## Files -/

theorem bytesAt_put_self (h : t.isDirectory p = false) (bytes : ByteArray) :
    (t.put p (.file bytes)).bytesAt p = bytes := by
  unfold Tree.bytesAt
  rw [Tree.content?_put_self h]

theorem bytesAt_congr (h : u.content? p = t.content? p) : u.bytesAt p = t.bytesAt p := by
  unfold Tree.bytesAt
  rw [h]

/-- A file that is opened for additions holds what it has held, and so do all others. -/
theorem bytesAt_openForAdditions (h : t.IsSound) (habove : aboveName ∉ p) {place : Place}
    (hopened : t.openForAdditions (Tree.absolute p) = .ok (place, u)) (q : Place) :
    u.bytesAt q = t.bytesAt q := by
  obtain ⟨-, hdirectory, -, rfl⟩ := openForAdditions_eq_ok h habove hopened
  split
  · rfl
  · rename_i habsent
    rw [Bool.not_eq_true, Tree.isPresent_eq_false_iff] at habsent
    by_cases hq : q = p
    · rw [hq, bytesAt_put_self hdirectory]
      unfold Tree.bytesAt
      rw [habsent]
    · exact bytesAt_congr (Tree.content?_put_of_ne hq _)

/-! ## Journals under options -/

/-- A journal under options: its handlers are those that the options ask for, the channel of the
program takes whatever one of them handles and passes nothing on, and what is remembered agrees
with that. -/
structure IsUnder (o : JournalOptions) (directory : Place) (j : Journal) : Prop where
  threshold_eq : j.threshold = some o.threshold
  passesOn_eq : j.passesOn = false
  handlers_eq : j.handlers = o.handlers directory
  program_mem : Channel.program ∈ j.channels
  verdict_eq : ∀ e ∈ j.verdicts, e.2 = e.1.2.reaches o.threshold
  isSound : j.files.IsSound
  directory_eq : j.files.directory = directory
  isFile : ∀ p, o.place? directory = some p →
    j.files.isPresent p = true ∧ j.files.isDirectory p = false

/-- A channel that is opened exists, and nothing but the channels changes. -/
theorem exists_opened_eq (j : Journal) (name : Text) :
    ∃ channels, j.opened name = { j with channels := channels } ∧
      name ∈ channels ∧ j.channels ⊆ channels := by
  unfold opened
  split
  · rename_i hname
    exact ⟨j.channels, rfl, List.contains_iff_mem.1 hname, List.Subset.refl _⟩
  · exact ⟨name :: j.channels, rfl, List.mem_cons_self, List.subset_cons_self _ _⟩

/-- A configuration leads any journal under its options, and neither shows nor files anything. -/
theorem isUnder_of_configure (h : j.files.IsSound) (hconfigure : j.configure o = (k, none)) :
    IsUnder o j.files.directory k ∧ Carries j.files.directory [o] [] j k := by
  obtain ⟨channels, hopened, hprogram, -⟩ := exists_opened_eq j Channel.program
  rw [configure_eq] at hconfigure
  unfold replaced at hconfigure
  rw [hopened] at hconfigure
  cases hfile : o.file with
  | none =>
    have hplace : o.place? j.files.directory = none := by simp [JournalOptions.place?, hfile]
    rw [hfile] at hconfigure
    cases hconfigure
    refine ⟨⟨rfl, rfl, ?_, hprogram, by simp, h, rfl, ?_⟩,
      .of_bytesAt_eq rfl (fun _ => rfl) fun _ _ => rfl⟩
    · rw [JournalOptions.handlers, hplace]
      rfl
    · intro p hp
      rw [hplace] at hp
      cases hp
  | some path =>
    have hplace : o.place? j.files.directory = some (j.files.spelled path) := by
      rw [JournalOptions.place?, hfile]
      rfl
    simp only [hfile] at hconfigure
    split at hconfigure
    · rename_i place files hadditions
      cases hconfigure
      have habove := h.not_above_spelled path
      obtain ⟨rfl, hagrees⟩ := agreesBeside_of_openForAdditions h habove hadditions
      have hbytes := bytesAt_openForAdditions h habove hadditions
      refine ⟨⟨rfl, rfl, ?_, hprogram, by simp, hagrees.isSound', hagrees.directory, ?_⟩,
        .of_bytesAt_eq rfl (bytesAt_openForAdditions h habove hadditions) ?_⟩
      · rw [JournalOptions.handlers, hplace]
        rfl
      · intro p hp
        rw [hplace] at hp
        exact ⟨hagrees.isPresent_sink p hp, (hagrees.isDirectory_sink p hp).2⟩
      · intro p hp
        apply hagrees.content? p
        rw [← hplace]
        exact hp o List.mem_cons_self
    · cases hconfigure

namespace IsUnder

/-- The levels that a channel takes are those that the program takes. -/
theorem takes_eq (h : IsUnder o directory j) {name : Text}
    (hname : Channel.reachesProgram j.channels name = true) (level : Level) :
    j.takes name level = level.reaches o.threshold := by
  unfold takes
  cases hverdict : j.verdicts.lookup (name, level) with
  | none => simp [channelLevel, hname, h.threshold_eq]
  | some verdict =>
    obtain ⟨before, after, hsplit, -⟩ := List.lookup_eq_some_iff.1 hverdict
    have hmem : ((name, level), verdict) ∈ j.verdicts := by
      rw [hsplit]
      exact List.mem_append_right _ List.mem_cons_self
    exact h.verdict_eq _ hmem

theorem opened (h : IsUnder o directory j) (name : Text) : IsUnder o directory (j.opened name) := by
  obtain ⟨channels, hopened, -, hsub⟩ := exists_opened_eq j name
  rw [hopened]
  exact { h with program_mem := hsub h.program_mem }

theorem remembering (h : IsUnder o directory j) {name : Text}
    (hname : Channel.reachesProgram j.channels name = true) (level : Level) :
    IsUnder o directory (j.remembering name level) := by
  refine { h with verdict_eq := ?_ }
  intro e he
  rcases List.mem_cons.1 he with rfl | he
  · exact h.takes_eq hname level
  · exact h.verdict_eq e he

theorem heard (h : IsUnder o directory j) (hplain : Channel.IsPlainStage m.stage) :
    IsUnder o directory (j.heard m) :=
  have hopened := h.opened (Channel.ofStage m.stage)
  hopened.remembering (Channel.reachesProgram_ofStage hopened.program_mem hplain) m.level

/-- A message gets to the handlers of the program, and to no others. -/
theorem handlersFor_eq (h : IsUnder o directory j) {name : Text}
    (hname : Channel.reachesProgram j.channels name = true) :
    j.handlersFor name = o.handlers directory := by
  simp [handlersFor, hname, h.passesOn_eq, h.handlers_eq, JournalOptions.handlers]

end IsUnder

/-! ## Messages -/

theorem handle_of_not_reaches {h : Handler} (hlevel : m.level.reaches h.level = false)
    (j : Journal) : j.handle m h = j := by
  simp [handle, hlevel]

theorem foldl_handle_of_not_reaches {hs : List Handler}
    (hlevels : ∀ h ∈ hs, m.level.reaches h.level = false) (j : Journal) :
    hs.foldl (fun j h => j.handle m h) j = j := by
  induction hs with
  | nil => rfl
  | cons h hs ih =>
    rw [List.foldl_cons, handle_of_not_reaches (hlevels h List.mem_cons_self)]
    exact ih fun g hg => hlevels g (List.mem_cons_of_mem h hg)

theorem handle_console (j : Journal) (m : Message) (level : Level) :
    j.handle m ⟨level, .brief, .console⟩ =
      { j with shown := j.shown ++ if m.level.reaches level then Layout.brief.line m else [] } := by
  unfold handle
  split <;> simp_all

theorem handle_file {bytes : ByteArray} (hbytes : (Layout.dated.line m).toUtf8? = some bytes)
    (j : Journal) (level : Level) (p : Place) :
    j.handle m ⟨level, .dated, .file p⟩ =
      { j with files := if m.level.reaches level then j.files.append p bytes else j.files } := by
  unfold handle
  split <;> simp_all

theorem shownText_singleton (o : JournalOptions) (m : Message) :
    shownText [(o, m)] = if m.level.reaches o.consoleLevel then Layout.brief.line m else [] := by
  unfold shownText
  cases hlevel : m.level.reaches o.consoleLevel <;> simp [hlevel]

theorem filedText_singleton (o : JournalOptions) (directory p : Place) (m : Message) :
    filedText directory p [(o, m)] =
      if o.place? directory = some p ∧ m.level.reaches .debug = true then Layout.dated.line m
      else [] := by
  unfold filedText
  by_cases hplace : o.place? directory = some p
  · cases hlevel : m.level.reaches .debug <;> simp [hplace, hlevel]
  · simp [hplace]

/-- The handlers that options ask for show and file a message as the options do. -/
theorem foldl_handle_handlers {bytes : ByteArray}
    (hbytes : (Layout.dated.line m).toUtf8? = some bytes) (o : JournalOptions) (directory : Place)
    (j : Journal) :
    (o.handlers directory).foldl (fun j h => j.handle m h) j =
      { j with
        shown := j.shown ++ shownText [(o, m)]
        files := o.filing directory m bytes j.files } := by
  rw [JournalOptions.handlers, List.foldl_cons, handle_console, ← shownText_singleton]
  unfold JournalOptions.filing
  cases o.place? directory with
  | none => rfl
  | some p =>
    rw [Option.map_some, Option.toList_some, List.foldl_cons, List.foldl_nil, handle_file hbytes]

/-- A message that is filed adds its line to the file of the options, and nothing elsewhere. -/
theorem bytesAt_filing (hfile : ∀ p, o.place? directory = some p → t.isDirectory p = false)
    {bytes : ByteArray} (hbytes : (Layout.dated.line m).toUtf8? = some bytes) (q : Place) :
    ∃ added, (filedText directory q [(o, m)]).toUtf8? = some added ∧
      (o.filing directory m bytes t).bytesAt q = t.bytesAt q ++ added := by
  rw [filedText_singleton]
  by_cases hq : o.place? directory = some q ∧ m.level.reaches .debug = true
  · refine ⟨bytes, by rw [if_pos hq]; exact hbytes, ?_⟩
    rw [JournalOptions.filing, hq.1]
    simp only [hq.2, if_true]
    exact bytesAt_put_self (hfile q hq.1) _
  · refine ⟨.empty, by rw [if_neg hq]; rfl, ?_⟩
    rw [ByteArray.append_empty]
    unfold JournalOptions.filing
    split
    · rfl
    · rename_i p hplace
      split
      · rename_i hlevel
        have hne : q ≠ p := fun heq => hq ⟨heq ▸ hplace, hlevel⟩
        exact bytesAt_congr (Tree.content?_put_of_ne hne _)
      · rfl

/-- A message that is filed changes nothing but the file of the options. -/
theorem content?_filing (hp : o.place? directory ≠ some p) (m : Message) (bytes : ByteArray)
    (t : Tree) : (o.filing directory m bytes t).content? p = t.content? p := by
  unfold JournalOptions.filing
  split
  · rfl
  · rename_i q hplace
    split
    · have hne : p ≠ q := fun heq => hp (heq ▸ hplace)
      exact Tree.content?_put_of_ne hne _
    · rfl

namespace IsUnder

/-- A message under options is handled by the handlers that they ask for, whether or not the
program takes its level. -/
theorem take_eq_foldl (h : IsUnder o directory j) (hplain : Channel.IsPlainStage m.stage) :
    j.take m = (o.handlers directory).foldl (fun j h => j.handle m h) (j.heard m) := by
  have hheard := h.heard hplain
  have hname := Channel.reachesProgram_ofStage hheard.program_mem hplain
  rw [take_eq, hheard.takes_eq hname, hheard.handlersFor_eq hname]
  split
  · rfl
  · rename_i hlevel
    rw [foldl_handle_of_not_reaches]
    intro handler hhandler
    rw [Bool.eq_false_iff]
    exact fun hreaches => hlevel (JournalOptions.reaches_threshold hhandler hreaches)

/-- Additions to the file of the options keep a journal under them. -/
theorem append (h : IsUnder o directory j) (hp : o.place? directory = some p)
    (bytes : ByteArray) : IsUnder o directory { j with files := j.files.append p bytes } := by
  obtain ⟨hpresent, hdirectory⟩ := h.isFile p hp
  have hparent := h.isSound.isDirectory_parent p hpresent
  have habove := h.isSound.not_above p hpresent
  have hcontent := Tree.content?_put_self hdirectory (.file (j.files.bytesAt p ++ bytes))
  refine { h with isSound := h.isSound.put hparent habove hdirectory _, isFile := ?_ }
  intro q hq
  rw [hp] at hq
  cases hq
  unfold Tree.isPresent Tree.isDirectory Tree.append
  rw [hcontent]
  exact ⟨rfl, rfl⟩

/-- A message that is filed keeps a journal under its options. -/
theorem filing (h : IsUnder o directory j) (m : Message) (bytes : ByteArray) :
    IsUnder o directory { j with files := o.filing directory m bytes j.files } := by
  unfold JournalOptions.filing
  split
  · exact h
  · rename_i p hplace
    split
    · exact h.append hplace bytes
    · exact h

/-- A message keeps a journal under its options.  It is shown and filed as they ask for. -/
theorem take (h : IsUnder o directory j) (hplain : Channel.IsPlainStage m.stage)
    {bytes : ByteArray} (hbytes : (Layout.dated.line m).toUtf8? = some bytes) :
    IsUnder o directory (j.take m) ∧ Carries directory [o] [(o, m)] j (j.take m) := by
  have hheard := h.heard hplain
  have hfile : ∀ p, o.place? directory = some p → j.files.isDirectory p = false :=
    fun p hp => (h.isFile p hp).2
  rw [h.take_eq_foldl hplain, foldl_handle_handlers hbytes]
  refine ⟨{ hheard.filing m bytes with }, ⟨?_, ?_, ?_⟩⟩
  · rw [shown_heard]
  · intro q
    rw [files_heard]
    exact bytesAt_filing hfile hbytes q
  · intro q hq
    rw [files_heard]
    exact content?_filing (hq o List.mem_cons_self) m bytes j.files

/-- A run leads a journal from its options to the latest ones, and shows and files each message
as the options ask for that are the latest when it is said. -/
theorem after? (h : IsUnder o directory j) (hrun : j.after? calls = some k)
    (hstages : ∀ m, .message m ∈ calls → Channel.IsPlainStage m.stage)
    (hlines : ∀ m, .message m ∈ calls → (Layout.dated.line m).toUtf8?.isSome = true) :
    IsUnder (latest o calls) directory k ∧
      Carries directory (o :: configured calls) (said o calls) j k := by
  induction calls generalizing o j with
  | nil =>
    cases hrun
    exact ⟨h, .of_bytesAt_eq rfl (fun _ => rfl) fun _ _ => rfl⟩
  | cons call calls ih =>
    have hstages' := fun m hm => hstages m (List.mem_cons_of_mem call hm)
    have hlines' := fun m hm => hlines m (List.mem_cons_of_mem call hm)
    cases call with
    | configure o' =>
      rw [Journal.after?] at hrun
      split at hrun
      · rename_i i hconfigure
        obtain ⟨hi, hcarries⟩ := isUnder_of_configure h.isSound hconfigure
        rw [h.directory_eq] at hi hcarries
        obtain ⟨hk, hcarries'⟩ := ih hi hrun hstages' hlines'
        exact ⟨hk, (hcarries.trans hcarries').mono (by simp [configured])⟩
      · cases hrun
    | message m =>
      obtain ⟨bytes, hbytes⟩ := Option.isSome_iff_exists.1 (hlines m List.mem_cons_self)
      obtain ⟨hi, hcarries⟩ := h.take (hstages m List.mem_cons_self) hbytes
      obtain ⟨hk, hcarries'⟩ := ih hi hrun hstages' hlines'
      exact ⟨hk, (hcarries.trans hcarries').mono (by simp [configured])⟩

end IsUnder

/-- Configuring a journal again neither repeats messages nor lets them get anywhere else.  However
the journal has been configured before, from a configuration on the program has one handler for
the console, and one for a file exactly if the latest options name one.  The console shows each
message once if its level reaches that of the latest options, and not otherwise.  A file gets
each message once that is said while it is the file of the latest options, whatever the console
shows, and no other message; a file that none of the options name stays as it is.  Stages whose
name starts with a point are left out, and so are messages that cannot be written in UTF-8. -/
theorem after_configure (hsound : j.files.IsSound)
    (hrun : j.after? (.configure o :: calls) = some k)
    (hstages : ∀ m, .message m ∈ calls → Channel.IsPlainStage m.stage)
    (hlines : ∀ m, .message m ∈ calls → (Layout.dated.line m).toUtf8?.isSome = true) :
    k.handlers = (latest o calls).handlers j.files.directory ∧
    k.shown = j.shown ++ shownText (said o calls) ∧
    (∀ p, ∃ bytes, (filedText j.files.directory p (said o calls)).toUtf8? = some bytes ∧
      k.files.bytesAt p = j.files.bytesAt p ++ bytes) ∧
    ∀ p, (∀ o' ∈ o :: configured calls, o'.place? j.files.directory ≠ some p) →
      k.files.content? p = j.files.content? p := by
  rw [Journal.after?] at hrun
  split at hrun
  · rename_i i hconfigure
    obtain ⟨hi, hcarries⟩ := isUnder_of_configure hsound hconfigure
    obtain ⟨hk, hcarries'⟩ := hi.after? hrun hstages hlines
    have hall : Carries j.files.directory (o :: configured calls) (said o calls) j k :=
      (hcarries.trans hcarries').mono (by simp)
    exact ⟨hk.handlers_eq, hall.shown_eq, hall.bytesAt_eq, hall.content?_eq⟩
  · cases hrun

/-- A working directory without files. -/
def emptyDirectory : Tree :=
  ⟨["w"], ["w"], []⟩

/-- Options for a console that shows everything, and for a file. -/
def firstOptions : JournalOptions :=
  ⟨true, false, some (.ofText "a.log")⟩

/-- Calls that go over to another file and to a quiet console, and back to the first file. -/
def backAndForth : List JournalCall :=
  [.message ⟨"t", .debug, some "cli", "a"⟩,
    .configure ⟨true, true, some (.ofText "b.log")⟩,
    .message ⟨"t", .info, none, "b"⟩,
    .configure ⟨false, false, some (.ofText "./a.log")⟩,
    .message ⟨"t", .debug, some "cli.x", "c"⟩,
    .message ⟨"t", ⟨35⟩, some "cli", "d"⟩]

theorem after_configure_backAndForth :
    emptyDirectory.IsSound ∧
    (∀ m, .message m ∈ backAndForth → Channel.IsPlainStage m.stage) ∧
    (∀ m, .message m ∈ backAndForth → (Layout.dated.line m).toUtf8?.isSome = true) ∧
    ∃ k, (start emptyDirectory).after? (.configure firstOptions :: backAndForth) = some k ∧
      k.handlers = [⟨.info, .brief, .console⟩, ⟨.debug, .dated, .file ["w", "a.log"]⟩] ∧
      k.shown = "[annodoc] DEBUG a\n[annodoc] Level 35 d\n" ∧
      Text.toUtf8? "t DEBUG annodoc.cli: a\nt DEBUG annodoc.cli.x: c\nt Level 35 annodoc.cli: d\n" =
        some (k.files.bytesAt ["w", "a.log"]) ∧
      Text.toUtf8? "t INFO annodoc: b\n" = some (k.files.bytesAt ["w", "b.log"]) := by
  have hsound : emptyDirectory.IsSound := Tree.isSound_of_hasSoundEntries (by decide)
  have hstages : ∀ m, .message m ∈ backAndForth → Channel.IsPlainStage m.stage := by
    simp [backAndForth, Channel.IsPlainStage, Text.ofString, Text.ofChars]
  have hlines : ∀ m, .message m ∈ backAndForth →
      (Layout.dated.line m).toUtf8?.isSome = true := by
    intro m hm
    simp only [backAndForth, List.mem_cons, JournalCall.message.injEq, reduceCtorEq, false_or,
      List.not_mem_nil, or_false] at hm
    rcases hm with rfl | rfl | rfl | rfl <;> decide +kernel
  have hopened :
      ((start emptyDirectory).after? (.configure firstOptions :: backAndForth)).isSome = true := by
    decide +kernel
  obtain ⟨k, hrun⟩ := Option.isSome_iff_exists.1 hopened
  obtain ⟨hhandlers, hshown, hbytes, -⟩ := after_configure hsound hrun hstages hlines
  have hfiled : ∀ p filed, emptyDirectory.bytesAt p = .empty →
      filedText emptyDirectory.directory p (said firstOptions backAndForth) = filed →
      filed.toUtf8? = some (k.files.bytesAt p) := by
    intro p filed hempty hfiled
    obtain ⟨bytes, htext, hadded⟩ := hbytes p
    rw [files_start] at htext hadded
    rw [hadded, hempty, ByteArray.empty_append, ← hfiled]
    exact htext
  refine ⟨hsound, hstages, hlines, k, hrun, ?_, ?_, hfiled _ _ rfl ?_, hfiled _ _ rfl ?_⟩
  · rw [hhandlers]
    decide +kernel
  · rw [hshown]
    decide +kernel
  · decide +kernel
  · decide +kernel

/-- Options for a console and a file. -/
def filingOptions : JournalOptions :=
  ⟨false, false, some (.ofText "a.log")⟩

/-- A message of a stage whose name starts with a point. -/
def detachedMessage : Message :=
  ⟨"t", .info, some ".x", "m"⟩

/-- The channel of such a stage passes nothing on to that of the program: its messages are lost
for the console and for the file. -/
theorem after_configure_detachedMessage :
    detachedMessage.level.reaches filingOptions.consoleLevel = true ∧
    ∃ k, (start emptyDirectory).after?
        [.configure filingOptions, .message detachedMessage] = some k ∧
      k.shown = [] ∧ k.files.bytesAt ["w", "a.log"] = .empty :=
  ⟨by decide, _, rfl, rfl, rfl⟩

end Journal

end AnnotatedMarkdown
