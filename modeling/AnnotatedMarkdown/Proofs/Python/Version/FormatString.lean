import AnnotatedMarkdown.Proofs.Outcome
import AnnotatedMarkdown.Python.FormatString

/-!
# Format strings in two contexts

The body of a format string is read with a reader of the expressions in its replacement fields.
Here two readings of a body are compared whose readers of expressions agree on its fields.

* `IsField` holds of the expressions of the replacement fields in a body, and `HasField` of those
  in a format string.
* `Within` says that the result of an outcome, if it has one, is the result of another outcome.
* `WithinEnd` says this of the outcomes of readers of pieces, and that the end of a text is left.  So
  what is read next is a part of the same body, and a field of it.
* `within_formatPieces` is the comparison of the two readings.
-/

namespace AnnotatedMarkdown.Python

open Outcome

/-! ## Outcomes -/

/-- The result of an outcome, if it has one, is the result of another outcome. -/
def Within {ε α : Type} (x y : Except ε α) : Prop :=
  ∀ a, x = .ok a → y = .ok a

section

variable {ε α : Type} {x y : Except ε α}

theorem Within.refl (x : Except ε α) : Within x x :=
  fun _ h => h

theorem within_toOption (h : Within x y) {a : α} (ha : x.toOption = some a) :
    y.toOption = some a :=
  toOption_eq_some_iff.2 (h a (toOption_eq_some_iff.1 ha))

end

/-- A traversal with results has the same results if its elements have. -/
theorem mapM_eq_some_of_imp {α β : Type} {f k : α → Option β} {as : List α}
    (h : ∀ a ∈ as, ∀ b, f a = some b → k a = some b) {bs : List β} (hbs : as.mapM f = some bs) :
    as.mapM k = some bs := by
  induction as generalizing bs with
  | nil => exact hbs
  | cons a as ih =>
    rw [List.mapM_cons] at hbs ⊢
    obtain ⟨b, hb, hbs⟩ := Option.bind_eq_some_iff.1 hbs
    obtain ⟨rest, hrest, hbs⟩ := Option.bind_eq_some_iff.1 hbs
    rw [h a List.mem_cons_self b hb, ih (fun c hc => h c (List.mem_cons_of_mem a hc)) hrest]
    exact hbs

/-! ## Replacement fields -/

/-- The expression of a replacement field in a body. -/
def IsField (body cs : List Char) : Prop :=
  ∃ more rest, '{' :: more <:+ body ∧ fieldEnd none [] more = some (cs, rest)

/-- The expression of a replacement field in a format string. -/
def StringToken.HasField (t : StringToken) (cs : List Char) : Prop :=
  t.isFormat = true ∧ IsField t.body cs

theorem prepend_eq_some {α : Type} {front cs : List Char} {r : Option (List Char × α)} {a : α}
    (h : prepend front r = some (cs, a)) : ∃ ds, r = some (ds, a) := by
  obtain ⟨⟨ds, _⟩, hr, ⟨⟩⟩ := Option.map_eq_some_iff.1 h
  exact ⟨ds, hr⟩

theorem wellFormed_eq_ok {α : Type} {o : Option α} {a : α} (h : wellFormed o = .ok a) :
    o = some a := by
  cases o with
  | none => cases h
  | some b =>
    cases h
    rfl

theorem literalRun_suffix {isRaw isTop inName doubled : Bool} {cs run rest : List Char}
    (h : literalRun isRaw isTop inName cs = some (run, doubled, rest)) : rest <:+ cs := by
  fun_induction literalRun isRaw isTop inName cs generalizing run doubled rest <;>
    grind [prepend_eq_some, List.suffix_cons]

theorem fieldEnd_suffix {quote : Option (Char × Bool)} {brackets cs expression rest : List Char}
    (h : fieldEnd quote brackets cs = some (expression, rest)) : rest <:+ cs := by
  fun_induction fieldEnd quote brackets cs generalizing expression rest <;>
    grind [prepend_eq_some, List.suffix_cons]

theorem showsItself_suffix {cs mark rest : List Char} (h : showsItself cs = some (mark, rest)) :
    rest <:+ cs := by
  unfold showsItself at h
  split at h <;> cases h
  exact (List.dropWhile_suffix _).trans (List.suffix_cons _ _)

theorem conversion?_suffix {cs rest : List Char} {c : Option Conversion}
    (h : conversion? cs = some (c, rest)) : rest <:+ cs := by
  unfold conversion? at h
  split at h <;> cases h
  · exact (List.suffix_cons _ _).trans (List.suffix_cons _ _)
  · exact (List.suffix_cons _ _).trans (List.suffix_cons _ _)
  · exact (List.suffix_cons _ _).trans (List.suffix_cons _ _)
  · exact List.suffix_rfl

/-! ## Readers of pieces -/

/-- The result of a reader of pieces, if it has one, is that of another one, and leaves the end of
a text. -/
def WithinEnd (cs : List Char) (x y : Except PieceFault (List Piece × List Char)) : Prop :=
  ∀ pieces rest, x = .ok (pieces, rest) → y = .ok (pieces, rest) ∧ rest <:+ cs

section

variable {α : Type} {cs : List Char} {x y : Except PieceFault (List Piece × List Char)}

theorem withinEnd_error (e : PieceFault) : WithinEnd cs (.error e) y :=
  nofun

theorem withinEnd_ok {pieces : List Piece} {rest : List Char} (h : rest <:+ cs) :
    WithinEnd cs (.ok (pieces, rest)) (.ok (pieces, rest)) := by
  rintro _ _ ⟨⟩
  exact ⟨rfl, h⟩

theorem withinEnd_bind {r s : Except PieceFault α}
    {f k : α → Except PieceFault (List Piece × List Char)} (h : Within r s)
    (hf : ∀ a, r = .ok a → WithinEnd cs (f a) (k a)) : WithinEnd cs (r >>= f) (s >>= k) := by
  intro pieces rest hread
  obtain ⟨a, ha, hread⟩ := bind_eq_ok.1 hread
  rw [h a ha, ok_bind]
  exact hf a ha pieces rest hread

/-- What is read further is the end of the text that a reader leaves. -/
theorem WithinEnd.bind {left : List Char} {f k : List Piece × List Char → Except PieceFault (List Piece × List Char)}
    (h : WithinEnd left x y) (hleft : left <:+ cs)
    (hf : ∀ pieces rest, rest <:+ cs → WithinEnd cs (f (pieces, rest)) (k (pieces, rest))) :
    WithinEnd cs (x >>= f) (y >>= k) :=
  withinEnd_bind (fun read hread => (h read.1 read.2 hread).1)
    fun read hread => hf read.1 read.2 ((h read.1 read.2 hread).2.trans hleft)

/-- An outcome may fail in more cases than another one. -/
theorem withinEnd_guard {c d : Prop} [Decidable c] [Decidable d] (hcd : d → c) (e : PieceFault)
    (h : WithinEnd cs x y) : WithinEnd cs (if c then .error e else x) (if d then .error e else y) := by
  by_cases hc : c
  · rw [if_pos hc]
    exact withinEnd_error e
  · rw [if_neg hc, if_neg (fun hd => hc (hcd hd))]
    exact h

end

section

variable {compile compile' : List Char → Option Expr} {isRaw unicodeMark documenting documenting' : Bool}
  {spec spec' field field' : PieceReader} {body : List Char}

theorem withinEnd_replacementField
    (hcompile : ∀ cs e, IsField body cs → compile cs = some e → compile' cs = some e)
    (hdocumenting : documenting = true → documenting' = true)
    (hspec : ∀ cs, cs <:+ body → WithinEnd cs (spec cs) (spec' cs)) {more : List Char}
    (hmore : '{' :: more <:+ body) :
    WithinEnd more (replacementField ⟨compile, isRaw, unicodeMark, documenting⟩ spec more)
      (replacementField ⟨compile', isRaw, unicodeMark, documenting'⟩ spec' more) := by
  unfold replacementField
  refine withinEnd_bind (.refl _) fun cut hcut => ?_
  obtain ⟨expression, left⟩ := cut
  have hend := wellFormed_eq_ok hcut
  have hleft := fieldEnd_suffix hend
  dsimp only
  split
  · exact withinEnd_error _
  · cases hvalue : compile expression with
    | none => exact withinEnd_error _
    | some value =>
      rw [hcompile expression value ⟨more, left, hmore, hend⟩ hvalue]
      simp only [pure_bind]
      refine withinEnd_guard ?_ _ ?_
      · intro hshown
        simp only [Bool.and_eq_true, Bool.not_eq_true'] at hshown ⊢
        refine ⟨hshown.1, Bool.eq_false_iff.2 fun hcontra => ?_⟩
        exact Bool.false_ne_true (hshown.2.symm.trans (hdocumenting hcontra))
      · generalize hmarked : Prod.snd _ = marked
        have hbehind : marked <:+ more := by
          rw [← hmarked]
          split
          · next hmark => exact (showsItself_suffix hmark).trans hleft
          · exact hleft
        refine withinEnd_bind (.refl _) fun conversion hconversion => ?_
        have hconverted := (conversion?_suffix (wellFormed_eq_ok hconversion)).trans hbehind
        split
        · exact withinEnd_error _
        · next rest _ heq =>
          rw [heq] at hconverted
          have hrest : rest <:+ more := (List.suffix_cons _ _).trans hconverted
          have hread := hspec rest (hrest.trans ((List.suffix_cons _ _).trans hmore))
          refine withinEnd_bind ?_ fun format hformat => ?_
          · intro format hformat
            obtain ⟨⟨pieces, after⟩, hpieces, rfl⟩ := map_eq_ok.1 hformat
            exact map_eq_ok.2 ⟨_, (hread pieces after hpieces).1, rfl⟩
          · obtain ⟨⟨pieces, after⟩, hpieces, rfl⟩ := map_eq_ok.1 hformat
            have hafter := (hread pieces after hpieces).2.trans hrest
            dsimp only
            split
            · exact withinEnd_ok ((List.suffix_cons _ _).trans hafter)
            · exact withinEnd_error _
        · split
          · next heq =>
            rw [heq] at hconverted
            exact withinEnd_ok ((List.suffix_cons _ _).trans hconverted)
          · exact withinEnd_error _

theorem withinEnd_readPieces (hfield : ∀ more, '{' :: more <:+ body → WithinEnd more (field more) (field' more))
    (isTop : Bool) (steps : Nat) {cs : List Char} (hcs : cs <:+ body) :
    WithinEnd cs (readPieces ⟨compile, isRaw, unicodeMark, documenting⟩ isTop field steps cs)
      (readPieces ⟨compile', isRaw, unicodeMark, documenting'⟩ isTop field' steps cs) := by
  induction steps generalizing cs with
  | zero => exact withinEnd_error _
  | succ steps ih =>
    unfold readPieces
    refine withinEnd_bind (.refl _) fun cut hcut => ?_
    obtain ⟨run, doubled, left⟩ := cut
    have hleft := literalRun_suffix (wellFormed_eq_ok hcut)
    refine withinEnd_bind (.refl _) fun text _ => ?_
    dsimp only
    split
    · exact (ih (hleft.trans hcs)).bind hleft fun _ _ hrest => withinEnd_ok hrest
    · split
      · next more =>
        have hmore := (List.suffix_cons '{' more).trans hleft
        refine (hfield more (hleft.trans hcs)).bind hmore fun fields rest hrest => ?_
        exact (ih (hrest.trans hcs)).bind hrest fun _ _ hrest => withinEnd_ok hrest
      · exact withinEnd_ok hleft

/-- Format strings whose fields are read the same in another context are read the same there. -/
theorem within_formatPieces
    (hcompile : ∀ cs e, IsField body cs → compile cs = some e → compile' cs = some e)
    (hdocumenting : documenting = true → documenting' = true) :
    Within (formatPieces ⟨compile, isRaw, unicodeMark, documenting⟩ body)
      (formatPieces ⟨compile', isRaw, unicodeMark, documenting'⟩ body) := by
  have hinner : ∀ cs, cs <:+ body → WithinEnd cs (innerSpec ⟨compile, isRaw, unicodeMark, documenting⟩ cs)
      (innerSpec ⟨compile', isRaw, unicodeMark, documenting'⟩ cs) :=
    fun cs hcs => withinEnd_readPieces (fun _ _ => withinEnd_error _) false _ hcs
  have houter : ∀ cs, cs <:+ body → WithinEnd cs (outerSpec ⟨compile, isRaw, unicodeMark, documenting⟩ cs)
      (outerSpec ⟨compile', isRaw, unicodeMark, documenting'⟩ cs) := fun cs hcs =>
    withinEnd_readPieces (fun _ => withinEnd_replacementField hcompile hdocumenting hinner) false _ hcs
  have hall : WithinEnd body
      (readPieces ⟨compile, isRaw, unicodeMark, documenting⟩ true
        (replacementField ⟨compile, isRaw, unicodeMark, documenting⟩
          (outerSpec ⟨compile, isRaw, unicodeMark, documenting⟩)) (body.length + 1) body)
      (readPieces ⟨compile', isRaw, unicodeMark, documenting'⟩ true
        (replacementField ⟨compile', isRaw, unicodeMark, documenting'⟩
          (outerSpec ⟨compile', isRaw, unicodeMark, documenting'⟩)) (body.length + 1) body) :=
    withinEnd_readPieces (fun _ => withinEnd_replacementField hcompile hdocumenting houter) true _
      List.suffix_rfl
  intro pieces h
  obtain ⟨⟨read, rest⟩, hread, h⟩ := bind_eq_ok.1 h
  exact bind_eq_ok.2 ⟨(read, rest), (hall read rest hread).1, h⟩

end

end AnnotatedMarkdown.Python
