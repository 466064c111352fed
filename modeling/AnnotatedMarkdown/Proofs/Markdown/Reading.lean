import AnnotatedMarkdown.Proofs.Markdown.Block
import AnnotatedMarkdown.Proofs.Text.Pattern

/-!
# Blocks between empty lines

A block is recognised from its first line, and most blocks go on over the lines that follow.
This module says of some lines that they read as one block up to an empty line, whatever comes
behind it.

* `ReadsAs` is the relation between lines and a block, and `ReadsAllAs` the one between the lines
  of a document and its blocks.  `ReadsAllAs.blocksOf` takes the blocks off such lines one by one.
* `readsAs_heading`, `readsAs_paragraph` and `readsAs_fence` are the headings, the paragraphs and
  the fenced code that a text can be written in.
* `splitBy_join_lineFeeds` finds the lines of blocks in a text that holds empty lines between
  them.
-/

namespace AnnotatedMarkdown

/-! ## Cutting a text at empty lines -/

namespace Text

/-- A text is cut at a line feed in it. -/
theorem splitBy_append_lineFeed (s t : Text) :
    splitBy CodePoint.isLineFeed (s ++ .scalar '\n' :: t) =
      splitBy CodePoint.isLineFeed s ++ splitBy CodePoint.isLineFeed t := by
  induction s with
  | nil => rfl
  | cons c s ih =>
    rw [List.cons_append, splitBy, splitBy, ih]
    split
    · rfl
    · cases hpieces : splitBy CodePoint.isLineFeed s with
      | nil => exact absurd hpieces (splitBy_ne_nil s)
      | cons piece pieces => rfl

theorem splitBy_replicate_lineFeed (s : Text) (k : Nat) :
    splitBy CodePoint.isLineFeed (s ++ List.replicate k (.scalar '\n')) =
      splitBy CodePoint.isLineFeed s ++ List.replicate k [] := by
  induction k generalizing s with
  | zero => simp
  | succ k ih =>
    have hend := ih []
    rw [List.nil_append] at hend
    rw [List.replicate_succ, splitBy_append_lineFeed, hend, List.replicate_succ]
    rfl

theorem join_lineFeeds_cons (s t : Text) (ts : List Text) :
    join "\n\n" (s :: t :: ts) = s ++ .scalar '\n' :: ([] ++ .scalar '\n' :: join "\n\n" (t :: ts)) :=
  List.append_assoc s _ _

/-- The lines of a text behind an empty line. -/
theorem splitBy_join_lineFeeds (s t : Text) (ts : List Text) :
    splitBy CodePoint.isLineFeed (join "\n\n" (s :: t :: ts)) =
      splitBy CodePoint.isLineFeed s ++ [] :: splitBy CodePoint.isLineFeed (join "\n\n" (t :: ts)) := by
  rw [join_lineFeeds_cons, splitBy_append_lineFeed, splitBy_append_lineFeed]
  rfl

end Text

namespace Markdown

open Documentation

/-! ## Lines that read as a block -/

/-- The shape of the block at the front of a document, and the number of its lines. -/
def frontShape (l : Line) (ls : List Line) : Shape × Nat :=
  shapeOf (walker (maxLevels - 1)) (walker (maxLevels - 2)) .outermost
    ⟨l :: ls, ls.length + 1, ls.length + 1⟩ l ls

/-- Whether an empty line or nothing comes next. -/
def StartsEmpty (lines : List Line) : Prop :=
  ∀ l ∈ lines.head?, l.isEmpty = true

theorem startsEmpty_cons {l : Line} (h : l.isEmpty = true) (lines : List Line) :
    StartsEmpty (l :: lines) := by
  intro next hnext
  rwa [← Option.some.inj hnext]

theorem StartsEmpty.takeWhile {p : Line → Bool} (hp : ∀ l, l.isEmpty = true → p l = false)
    {rest : List Line} (h : StartsEmpty rest) (lines : List Line) :
    (lines ++ rest).takeWhile p = lines.takeWhile p := by
  have hrest : rest.takeWhile p = [] := by
    cases rest with
    | nil => rfl
    | cons l rest => rw [List.takeWhile_cons_of_neg (by simp [hp l (h l rfl)])]
  induction lines with
  | nil => exact hrest
  | cons l lines ih => rw [List.cons_append, List.takeWhile_cons, List.takeWhile_cons, ih]

/-- Lines that are read as one block if an empty line or nothing follows them. -/
def ReadsAs (lines : List Line) (block : Block) : Prop :=
  ∃ l ls, lines = l :: ls ∧ l.isEmpty = false ∧ ∀ rest, StartsEmpty rest →
    ∃ shape, frontShape l (ls ++ rest) = (shape, ls.length + 1) ∧
      blockOf shape (l :: ls) = some block

/-- Lines that are read as several blocks, with an empty line between each two of them. -/
inductive ReadsAllAs : List Line → List Block → Prop where
  | last {lines ends : List Line} {block : Block} (hlines : ReadsAs lines block)
      (hends : ∀ l ∈ ends, l.isEmpty = true) : ReadsAllAs (lines ++ ends) [block]
  | more {lines rest : List Line} {l : Line} {block : Block} {blocks : List Block}
      (hlines : ReadsAs lines block) (hl : l.isEmpty = true) (hrest : ReadsAllAs rest blocks) :
      ReadsAllAs (lines ++ l :: rest) (block :: blocks)

theorem blocksOf_append {lines rest : List Line} {block : Block} (h : ReadsAs lines block)
    (hrest : StartsEmpty rest) (count : Nat) :
    blocksOf (count + 1) (lines ++ rest) = block :: blocksOf count rest := by
  obtain ⟨l, ls, rfl, hl, hread⟩ := h
  obtain ⟨shape, hshape, hblock⟩ := hread rest hrest
  have hskip : (l :: ls ++ rest).dropWhile Line.isEmpty = l :: (ls ++ rest) := by
    rw [List.cons_append, List.dropWhile_cons_of_neg (by simp [hl])]
  have hfront : shapeOf (walker (maxLevels - 1)) (walker (maxLevels - 2)) .outermost
      ⟨l :: (ls ++ rest), (ls ++ rest).length + 1, (ls ++ rest).length + 1⟩ l (ls ++ rest) =
        (shape, ls.length + 1) := hshape
  rw [blocksOf, hskip]
  dsimp only
  rw [hfront, List.take_succ_cons, List.take_left' rfl, List.drop_succ_cons, List.drop_left' rfl,
    hblock]
  rfl

theorem blocksOf_of_forall_isEmpty {lines : List Line} (h : ∀ l ∈ lines, l.isEmpty = true)
    (count : Nat) : blocksOf count lines = [] := by
  cases count with
  | zero => rfl
  | succ count => rw [blocksOf, List.dropWhile_eq_nil_iff.2 h]

/-- An empty line belongs to no block. -/
theorem blocksOf_cons_of_isEmpty {l : Line} (h : l.isEmpty = true) (count : Nat) (lines : List Line) :
    blocksOf count (l :: lines) = blocksOf count lines := by
  cases count with
  | zero => rfl
  | succ count => rw [blocksOf, blocksOf, List.dropWhile_cons_of_pos h]

theorem ReadsAllAs.blocksOf {lines : List Line} {blocks : List Block} (h : ReadsAllAs lines blocks)
    {count : Nat} (hcount : blocks.length ≤ count) : blocksOf count lines = blocks := by
  induction h generalizing count with
  | last hlines hends =>
    obtain ⟨count, rfl⟩ := Nat.exists_eq_add_of_le' hcount
    have hrest : StartsEmpty _ := fun l hl => hends l (List.mem_of_mem_head? hl)
    rw [List.length_singleton, blocksOf_append hlines hrest, blocksOf_of_forall_isEmpty hends]
  | more hlines hl _ ih =>
    obtain ⟨count, rfl⟩ := Nat.exists_eq_add_of_le' hcount
    rw [List.length_cons, ← Nat.add_assoc, blocksOf_append hlines (startsEmpty_cons hl _),
      blocksOf_cons_of_isEmpty hl, ih (Nat.le_add_left _ _)]

/-- No more blocks are read than there are lines. -/
theorem ReadsAllAs.length_le {lines : List Line} {blocks : List Block} (h : ReadsAllAs lines blocks) :
    blocks.length ≤ lines.length := by
  induction h with
  | last hlines _ =>
    obtain ⟨l, ls, rfl, -⟩ := hlines
    simp
  | more hlines _ _ ih =>
    obtain ⟨l, ls, rfl, -⟩ := hlines
    simp
    omega

/-! ## Lines outside all containers -/

/-- A line that does not start with spacing is its own content. -/
theorem content_ofText {c : CodePoint} (hc : isSpacing c = false) (t : Text) (isEnded : Bool) :
    (Line.ofText (c :: t) isEnded).content = c :: t := by
  simp [Line.ofText, Line.content, hc]

theorem column_ofText {c : CodePoint} (hc : isSpacing c = false) (t : Text) (isEnded : Bool) :
    (Line.ofText (c :: t) isEnded).column = 0 := by
  simp [Line.ofText, hc, columnAfter]

/-- No line of a document starts to the left of it. -/
theorem isOutside_ofText (text : Text) (isEnded : Bool) :
    Region.outermost.isOutside (.ofText text isEnded) = false := by
  have hcolumn : ¬ ((Line.ofText text isEnded).column < 0) :=
    Int.not_lt.2 (Int.natCast_nonneg _)
  exact decide_eq_false hcolumn

theorem isCode_ofText {c : CodePoint} (hc : isSpacing c = false) (t : Text) (isEnded : Bool) :
    Region.outermost.isCode (.ofText (c :: t) isEnded) = false := by
  rw [Region.isCode, column_ofText hc]
  rfl

theorem isEmpty_ofText {c : CodePoint} (hc : isSpacing c = false) (t : Text) (isEnded : Bool) :
    (Line.ofText (c :: t) isEnded).isEmpty = false := by
  rw [Line.isEmpty, content_ofText hc]
  rfl

/-! ## Headings -/

theorem heading?_ofText {t : Text} {c : CodePoint} (hspacing : isSpacing c = false)
    (hmark : isHeadingMark c = false) (htrim : Text.trim (t ++ [c]) = t ++ [c]) (isEnded : Bool) :
    heading? .outermost (.ofText ("## " ++ (t ++ [c])) isEnded) = some (t ++ [c]) := by
  have hcontent : (Line.ofText ("## " ++ (t ++ [c])) isEnded).content = "## " ++ (t ++ [c]) :=
    content_ofText rfl _ isEnded
  have hmarks : ("## " ++ (t ++ [c]) : Text).takeWhile (· == .scalar '#') = "##" := rfl
  have hrest : ("## " ++ (t ++ [c]) : Text).drop 2 = .scalar ' ' :: t ++ [c] := rfl
  have hblank : Text.trim (.scalar ' ' :: t ++ [c]) = t ++ [c] := htrim
  have hlast : (.scalar ' ' :: t ++ [c]).getLast?.any isSpacing = false := by
    rw [List.getLast?_concat]
    exact hspacing
  have hcode : Region.outermost.isCode (.ofText ("## " ++ (t ++ [c])) isEnded) = false :=
    isCode_ofText rfl _ isEnded
  have hlength : (Text.ofString "##").length = 2 := rfl
  rw [heading?, hcontent, hmarks, hcode, hlength, hrest]
  dsimp only
  have hend := Text.trimEndBy_concat hspacing (.scalar ' ' :: t)
  have hcut : Text.trimEndBy (· == .scalar '#') (.scalar ' ' :: t ++ [c]) = .scalar ' ' :: t ++ [c] :=
    Text.trimEndBy_concat hmark _
  rw [hend, hcut, hlast]
  exact congrArg some hblank

/-- A text behind two marks is a heading. -/
theorem readsAs_heading {t : Text} {c : CodePoint} (hspacing : isSpacing c = false)
    (hmark : isHeadingMark c = false) (htrim : Text.trim (t ++ [c]) = t ++ [c]) (isEnded : Bool) :
    ReadsAs [.ofText ("## " ++ (t ++ [c])) isEnded] (.heading (t ++ [c])) := by
  have hcontent : (Line.ofText ("## " ++ (t ++ [c])) isEnded).content = "## " ++ (t ++ [c]) :=
    content_ofText rfl _ isEnded
  have hheading := heading?_ofText hspacing hmark htrim isEnded
  have hcode : Region.outermost.isCode (.ofText ("## " ++ (t ++ [c])) isEnded) = false :=
    isCode_ofText rfl _ isEnded
  refine ⟨_, [], rfl, isEmpty_ofText rfl _ isEnded, fun rest _ => ⟨.heading (t ++ [c]), ?_, rfl⟩⟩
  generalize Line.ofText ("## " ++ (t ++ [c])) isEnded = l at hcontent hheading hcode
  have hfence : fence? .outermost l = none := by
    rw [fence?, hcode, hcontent]
    rfl
  have hquote : opensQuote .outermost l = false := by
    rw [opensQuote, hcontent, hcode]
    rfl
  have hbreak : isBreak .outermost l = false := by
    rw [isBreak, hcontent, hcode]
    rfl
  have hlist : listMark? .outermost none l = none := by
    rw [listMark?, hcontent, hcode]
    rfl
  have hhtml : htmlKind? .outermost l = none := by
    rw [htmlKind?, hcontent, hcode]
    rfl
  rw [frontShape, shapeOf]
  simp only [hcode, hfence, hquote, hbreak, hlist, hhtml, hheading, hcontent]
  rfl

/-! ## Paragraphs -/

/-- Whether lines are one paragraph. -/
def isParagraph : List Line → Bool
  | [] => false
  | l :: ls => !l.isEmpty && frontShape l ls = (.paragraph, ls.length + 1)

theorem StartsEmpty.underlineAfter?_append {rest : List Line} (h : StartsEmpty rest)
    (lines : List Line) :
    underlineAfter? .outermost (lines ++ rest) = underlineAfter? .outermost lines := by
  induction lines with
  | nil =>
    cases rest with
    | nil => rfl
    | cons l rest => simp [underlineAfter?, h l rfl]
  | cons l lines ih => rw [List.cons_append, underlineAfter?, underlineAfter?, ih]

/-- A paragraph is what no other recognition takes. -/
theorem frontShape_eq_paragraph_iff {l : Line} {ls : List Line} {n : Nat} :
    frontShape l ls = (.paragraph, n) ↔
      (Region.outermost.isCode l = false ∧ fence? .outermost l = none ∧
        opensQuote .outermost l = false ∧ isBreak .outermost l = false ∧
        listMark? .outermost none l = none ∧ htmlKind? .outermost l = none ∧
        heading? .outermost l = none) ∧
      linesOfDefinition? (l.content ++ if l.isEnded then [.scalar '\n'] else [])
        (definitionContents .outermost ls) = none ∧
      underlineAfter? .outermost ls = none ∧
      (ls.takeWhile (continues .outermost .paragraph)).length + 1 = n := by
  have htake : ls.take (ls.length + 1 - 1) = ls := List.take_length
  rw [frontShape, shapeOf]
  simp only [htake]
  cases Region.outermost.isCode l with
  | true => simp
  | false =>
    cases fence? .outermost l with
    | some fence => simp
    | none =>
      cases opensQuote .outermost l with
      | true => simp
      | false =>
        cases isBreak .outermost l with
        | true => simp
        | false =>
          cases listMark? .outermost none l with
          | some mark => simp
          | none =>
            cases linesOfDefinition? _ _ with
            | some count => simp
            | none =>
              cases htmlKind? .outermost l with
              | some kind => simp
              | none =>
                cases heading? .outermost l with
                | some text => simp
                | none => cases underlineAfter? .outermost ls <;> simp

/-- A paragraph goes up to the next empty line. -/
theorem frontShape_append_of_paragraph {l : Line} {ls : List Line} {n : Nat}
    (h : frontShape l ls = (.paragraph, n)) {rest : List Line} (hrest : StartsEmpty rest) :
    frontShape l (ls ++ rest) = (.paragraph, n) := by
  have hempty : ∀ surrounding, ∀ next : Line, next.isEmpty = true →
      continues .outermost surrounding next = false := by
    intro surrounding next hnext
    rw [continues, hnext]
    rfl
  have hdefinition : definitionContents .outermost (ls ++ rest) = definitionContents .outermost ls :=
    congrArg (List.map _) (hrest.takeWhile (hempty .definition) ls)
  rw [frontShape_eq_paragraph_iff] at h ⊢
  rwa [hdefinition, hrest.takeWhile (hempty .paragraph), hrest.underlineAfter?_append]

/-- A paragraph reads as its text. -/
theorem readsAs_paragraph {lines : List Line} (h : isParagraph lines = true) :
    ReadsAs lines (.paragraph (Text.trim (contents 0 false lines))) := by
  cases lines with
  | nil => cases h
  | cons l ls =>
    rw [isParagraph, Bool.and_eq_true, Bool.not_eq_true', decide_eq_true_iff] at h
    exact ⟨l, ls, rfl, h.1, fun rest hrest =>
      ⟨.paragraph, frontShape_append_of_paragraph h.2 hrest, rfl⟩⟩

/-! ## Fenced code -/

/-- The marks of a fence. -/
def ticks (k : Nat) : Text :=
  List.replicate k (.scalar '\x60')

/-- Whether a code point is the mark of a fence. -/
def isTick (c : CodePoint) : Bool :=
  c == .scalar '\x60'

theorem ofText_ticks (k : Nat) (t : Text) (isEnded : Bool) :
    (Line.ofText (ticks (k + 1) ++ t) isEnded).content = ticks (k + 1) ++ t ∧
      Region.outermost.isCode (.ofText (ticks (k + 1) ++ t) isEnded) = false ∧
      (Line.ofText (ticks (k + 1) ++ t) isEnded).isEmpty = false :=
  ⟨content_ofText rfl _ isEnded, isCode_ofText rfl _ isEnded, isEmpty_ofText rfl _ isEnded⟩

theorem spanBy_ticks (k : Nat) {t : Text} (ht : ∀ c ∈ t, isTick c = false) :
    (ticks k ++ t).spanBy isTick = (ticks k, t) := by
  have htake : t.takeWhile isTick = [] := by
    cases t with
    | nil => rfl
    | cons c t => rw [List.takeWhile_cons_of_neg (by simp [ht c])]
  have hdrop : t.dropWhile isTick = t := by
    have hsplit := List.takeWhile_append_dropWhile (p := isTick) (l := t)
    rwa [htake] at hsplit
  have hall : ∀ c ∈ ticks k, isTick c = true := fun c hc => by
    rw [List.eq_of_mem_replicate hc]
    rfl
  rw [Text.spanBy, List.takeWhile_append_of_pos hall, List.dropWhile_append_of_pos hall, htake,
    hdrop, List.append_nil]

theorem fence?_ticks {k : Nat} (hk : 3 ≤ k) {info : Text} (hinfo : ∀ c ∈ info, isTick c = false)
    (isEnded : Bool) :
    fence? .outermost (.ofText (ticks k ++ info) isEnded) = some ('\x60', k, info) := by
  obtain ⟨k, rfl⟩ := Nat.exists_eq_add_of_le' hk
  obtain ⟨hcontent, hcode, -⟩ := ofText_ticks (k + 2) info isEnded
  have hspan : (ticks (k + 3) ++ info).spanBy (· == .scalar '\x60') = (ticks (k + 3), info) :=
    spanBy_ticks (k + 3) hinfo
  have hcontains : info.contains (.scalar '\x60') = false := by
    rw [Bool.eq_false_iff, Ne, List.contains_iff_mem]
    exact fun hmem => absurd (hinfo _ hmem) (by decide)
  have hfront : ticks (k + 3) ++ info = .scalar '\x60' :: (ticks (k + 2) ++ info) := rfl
  rw [fence?, hcode, hcontent, hfront]
  dsimp only
  rw [← hfront, hspan, hcontains]
  simp [ticks]

/-- As many marks as a fence has close it. -/
theorem closesFence_ticks (k : Nat) (isEnded : Bool) :
    closesFence .outermost '\x60' (k + 1) (.ofText (ticks (k + 1)) isEnded) = true := by
  obtain ⟨hcontent, hcode, -⟩ := ofText_ticks k [] isEnded
  rw [List.append_nil] at hcontent hcode
  have hticks := spanBy_ticks (k + 1) (t := []) nofun
  rw [List.append_nil] at hticks
  have hspan : (ticks (k + 1)).spanBy (· == .scalar '\x60') = (ticks (k + 1), []) := hticks
  rw [closesFence, hcontent, hspan, hcode]
  simp [ticks]

/-- A line without a mark closes no fence. -/
theorem closesFence_of_forall_not {k : Nat} {l : Line} (h : ∀ c ∈ l.text, isTick c = false) :
    closesFence .outermost '\x60' (k + 1) l = false := by
  have hspan : l.content.spanBy (· == .scalar '\x60') = ([], l.content) :=
    spanBy_ticks 0 fun c hc => h c (List.drop_subset _ _ hc)
  rw [closesFence, hspan]
  simp

/-- The code of a fence goes up to the line that closes it. -/
theorem fenceLines_append {k : Nat} {texts : List Text}
    (h : ∀ text ∈ texts, ∀ c ∈ text, isTick c = false) {close : Line}
    (hclose : closesFence .outermost '\x60' (k + 1) close = true)
    (hinside : Region.outermost.isOutside close = false) (rest : List Line) :
    fenceLines .outermost '\x60' (k + 1) (texts.map (Line.ofText · true) ++ close :: rest) =
      (texts.length, true) := by
  induction texts with
  | nil =>
    rw [List.map_nil, List.nil_append, fenceLines, hinside, hclose]
    simp
  | cons text texts ih =>
    have hbody : closesFence .outermost '\x60' (k + 1) (.ofText text true) = false :=
      closesFence_of_forall_not (h text List.mem_cons_self)
    rw [List.map_cons, List.cons_append, fenceLines, isOutside_ofText, hbody,
      ih fun t ht => h t (List.mem_cons_of_mem text ht)]
    simp

/-- Lines within a fence are kept as they are. -/
theorem contents_ofText {texts : List Text} (hne : texts ≠ []) :
    contents 0 true (texts.map (Line.ofText · true)) = Text.join "\n" texts ++ [.scalar '\n'] := by
  induction texts with
  | nil => exact absurd rfl hne
  | cons text texts ih =>
    cases texts with
    | nil => simp [contents, outdent_zero, Text.join, Line.ofText]
    | cons next texts =>
      rw [join_lineFeed_cons, List.append_assoc, List.cons_append, ← ih (by simp)]
      simp [contents, outdent_zero, Line.ofText]

/-- Code between two fences reads as itself. -/
theorem readsAs_fence {k : Nat} (hk : 3 ≤ k) {info code : Text} (hinfo : ∀ c ∈ info, isTick c = false)
    (hcode : ∀ c ∈ code, isTick c = false) (isEnded : Bool) :
    ReadsAs (.ofText (ticks k ++ info) true ::
        ((code.splitBy CodePoint.isLineFeed).map (Line.ofText · true) ++ [.ofText (ticks k) isEnded]))
      (.code (code ++ [.scalar '\n'])) := by
  have hfence := fence?_ticks hk hinfo true
  obtain ⟨k, rfl⟩ := Nat.exists_eq_add_of_le' hk
  obtain ⟨hcontent, hindent, hempty⟩ := ofText_ticks (k + 2) info true
  have hlines : ∀ text ∈ code.splitBy CodePoint.isLineFeed, ∀ c ∈ text, isTick c = false :=
    fun text htext c hc => hcode c (Text.mem_of_mem_splitBy htext hc).1
  refine ⟨_, _, rfl, hempty, fun rest _ => ⟨.fence 0 true, ?_, ?_⟩⟩
  · have hcolumn : (Line.ofText (ticks (k + 3) ++ info) true).column.toNat = 0 := rfl
    have hbody := fenceLines_append hlines (closesFence_ticks (k + 2) isEnded)
      (isOutside_ofText _ isEnded) rest
    have htake : ∀ ls : List Line, ls.take (ls.length + 1 - 1) = ls := fun ls => List.take_length
    rw [frontShape, shapeOf]
    simp only [htake, hindent, hfence, hcolumn, List.append_assoc, List.singleton_append]
    rw [hbody]
    simp
  · have hne := Text.splitBy_ne_nil (p := CodePoint.isLineFeed) code
    simp only [blockOf, List.drop_succ_cons, List.drop_zero, if_true, List.dropLast_concat]
    rw [contents_ofText hne, Text.join_splitBy]

end Markdown

end AnnotatedMarkdown
