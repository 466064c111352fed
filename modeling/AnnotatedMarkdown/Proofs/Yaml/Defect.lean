import AnnotatedMarkdown.Proofs.Outcome
import AnnotatedMarkdown.Yaml.Document

/-!
# Defects of documents

A text that is no document is malformed, or it is beyond what is reported.  This module says which
defects the latter can be, at each stage of reading.

* `Raises P x` says that all defects of an outcome satisfy `P`.  Sequences keep it
  (`Raises.bind`), and there is one lemma for each function of a stage, from the smallest on.
* `raises_tokensOf` is the lexical analysis: the defects are those of escape sequences and of
  version numbers.
* `Reader.IsAcyclic` says the same of a reader of nodes, in all of its states: the only defect is a
  node within itself.
* `raises_build` follows the construction of values by the recursion of `Node.build`: the defects
  are those of scalars, and `raises_constant` says which.
* `raises_load` joins the stages.
-/

namespace AnnotatedMarkdown.Yaml

variable {α β : Type} {P Q : Defect → Prop}

/-- All defects that an outcome can be satisfy a property. -/
def Raises (P : Defect → Prop) (x : Except Fault α) : Prop :=
  ∀ d, x = .error (.defect d) → P d

namespace Raises

@[simp] theorem ok (a : α) : Raises P (.ok a) := by
  intro d h
  cases h

@[simp] theorem pure (a : α) : Raises P (Pure.pure a) :=
  ok a

@[simp] theorem malformed : Raises P (.error .malformed : Except Fault α) := by
  intro d h
  cases h

@[simp] theorem throw_malformed : Raises P (throw .malformed : Except Fault α) :=
  malformed

@[simp] theorem defect_iff {d : Defect} :
    Raises P (.error (.defect d) : Except Fault α) ↔ P d := by
  constructor
  · intro h
    exact h d rfl
  · rintro h _ ⟨⟩
    exact h

theorem mono {x : Except Fault α} (h : Raises P x) (hPQ : ∀ d, P d → Q d) : Raises Q x := by
  intro d hd
  exact hPQ d (h d hd)

theorem bind {x : Except Fault α} {f : α → Except Fault β} (hx : Raises P x)
    (hf : ∀ a, Raises P (f a)) : Raises P (x >>= f) := by
  intro d h
  rcases Outcome.bind_eq_error.1 h with h | ⟨a, -, h⟩
  · exact hx d h
  · exact hf a d h

theorem ite {p : Prop} [Decidable p] {x y : Except Fault α} (hx : Raises P x) (hy : Raises P y) :
    Raises P (if p then x else y) := by
  split
  · exact hx
  · exact hy

@[simp] theorem map_iff {x : Except Fault α} {f : α → β} : Raises P (x.map f) ↔ Raises P x := by
  simp only [Raises, Outcome.map_eq_error]

end Raises

/-! ## Lexical analysis -/

/-- The defects of texts that are no sequence of tokens. -/
inductive IsLexical : Defect → Prop
  | hugeCodePoint : IsLexical .hugeCodePoint
  | oversizedCodePoint : IsLexical .oversizedCodePoint
  | tooManyDigits : IsLexical .tooManyDigits

theorem raises_skipRestOfLine (c : Cursor) : Raises P c.skipRestOfLine := by
  unfold Cursor.skipRestOfLine
  dsimp only
  split <;> simp

theorem raises_quotedBreaks (steps : Nat) (c : Cursor) : Raises P (quotedBreaks steps c) := by
  induction steps generalizing c with
  | zero => exact .malformed
  | succ steps ih =>
    unfold quotedBreaks
    dsimp only
    split
    · exact .malformed
    · split
      · exact .ok _
      · exact (ih _).bind fun _ => .ok _

theorem raises_escape (steps : Nat) (c : Cursor) : Raises IsLexical (escape steps c) := by
  unfold escape
  split
  · exact .malformed
  · split
    · exact .ok _
    · dsimp only
      split
      · refine .bind ?_ fun _ => .ok _
        unfold escapedPoint
        dsimp only
        split
        · exact .ok _
        · rw [Raises.defect_iff]
          split
          · exact .hugeCodePoint
          · exact .oversizedCodePoint
      · exact .malformed
    · split
      · exact (raises_quotedBreaks _ _).bind fun _ => .ok _
      · exact .malformed

theorem raises_quotedScalar (quote : Char) (steps : Nat) (c : Cursor) :
    Raises IsLexical (quotedScalar quote steps c) := by
  induction steps generalizing c with
  | zero => exact .malformed
  | succ steps ih =>
    unfold quotedScalar
    dsimp only
    split
    · exact .malformed
    · split
      · split
        · exact (ih _).bind fun _ => .ok _
        · exact .ok _
      · split
        · exact (raises_escape steps _).bind fun _ => (ih _).bind fun _ => .ok _
        · split
          · split
            · split
              · exact .malformed
              · exact (ih _).bind fun _ => .ok _
            · exact (raises_quotedBreaks _ _).bind fun _ => (ih _).bind fun _ => .ok _
          · exact (ih _).bind fun _ => .ok _

theorem raises_blockHead (c : Cursor) : Raises P (blockHead c) := by
  have hend : ∀ r : Chomping × Option Nat × Cursor, Raises P (do
      if wordEnds r.2.2.rest then return (r.1, r.2.1, ← r.2.2.skipRestOfLine)
      else throw .malformed) := by
    intro r
    split
    · exact (raises_skipRestOfLine _).bind fun _ => .pure _
    · exact .throw_malformed
  unfold blockHead
  dsimp only
  split
  · refine .bind ?_ fun r => ?_
    · split
      · exact .ite (.ite .malformed (.ok _)) (.ok _)
      · exact .ok _
    · split <;> exact (Raises.pure _).bind hend
  · refine .bind ?_ fun r => ?_
    · split
      · exact .ite (.ite .malformed (.ok _)) (.ok _)
      · exact .ok _
    · split
      · split <;> exact (Raises.pure _).bind hend
      · exact (Raises.pure _).bind hend

theorem raises_blockScalar (folded : Bool) (parent : Int) (c : Cursor) :
    Raises P (blockScalar folded parent c) := by
  unfold blockScalar
  refine (raises_blockHead c).bind fun r => ?_
  dsimp only
  split <;> simp

theorem raises_anchorName (c : Cursor) : Raises P (anchorName c) := by
  unfold anchorName
  dsimp only
  split <;> simp

theorem raises_tagEscapes (steps : Nat) (c : Cursor) : Raises P (tagEscapes steps c) := by
  induction steps generalizing c with
  | zero => exact .ok _
  | succ steps ih =>
    unfold tagEscapes
    split
    · split
      · exact (ih _).bind fun _ => .pure _
      · exact .malformed
    · exact .malformed
    · exact .ok _

theorem raises_tagChars (steps : Nat) (c : Cursor) : Raises P (tagChars steps c) := by
  induction steps generalizing c with
  | zero => exact .ok _
  | succ steps ih =>
    unfold tagChars
    split
    · refine (raises_tagEscapes steps c).bind fun r => ?_
      dsimp only
      split
      · exact (ih _).bind fun _ => .pure _
      · exact .throw_malformed
    · split
      · exact (ih _).bind fun _ => .pure _
      · exact .ok _
    · exact .ok _

theorem raises_tagText (c : Cursor) : Raises P (tagText c) := by
  unfold tagText
  refine (raises_tagChars _ c).bind fun r => ?_
  dsimp only
  split <;> simp

theorem raises_tagHandle (c : Cursor) : Raises P (tagHandle c) := by
  unfold tagHandle
  dsimp only
  split
  · exact .ok _
  · split <;> simp
  · exact .malformed

theorem raises_tagToken (c : Cursor) : Raises P (tagToken c) := by
  have hend : ∀ r : Token × Cursor, Raises P (
      if wordEnds r.2.rest then Pure.pure (r.1, r.2) else throw .malformed) := by
    intro r
    split <;> simp
  unfold tagToken
  dsimp only
  split
  · refine (raises_tagText _).bind fun r => ?_
    split
    · exact hend _
    · exact .throw_malformed
  · split
    · exact hend _
    · split
      · exact (raises_tagHandle c).bind fun _ => (raises_tagText _).bind fun _ => hend _
      · exact (raises_tagText _).bind fun _ => hend _

theorem raises_versionNumber (c : Cursor) : Raises IsLexical (versionNumber c) := by
  unfold versionNumber
  dsimp only
  split
  · exact .malformed
  · split
    · rw [Raises.defect_iff]
      exact .tooManyDigits
    · exact .ok _

theorem raises_directive (c : Cursor) : Raises IsLexical (directive c) := by
  unfold directive
  dsimp only
  split
  · exact .throw_malformed
  · split
    · refine (raises_versionNumber _).bind fun r => ?_
      split
      · refine (raises_versionNumber _).bind fun r => ?_
        split
        · exact (raises_skipRestOfLine _).bind fun _ => .pure _
        · exact .throw_malformed
      · exact .throw_malformed
    · split
      · refine (raises_tagHandle _).bind fun r => ?_
        split
        · refine (raises_tagText _).bind fun r => ?_
          split
          · exact (raises_skipRestOfLine _).bind fun _ => .pure _
          · exact .throw_malformed
        · exact .throw_malformed
      · exact (raises_skipRestOfLine _).bind fun _ => .pure _

namespace Analysis

theorem raises_giveUpKey (a : Analysis) : Raises P a.giveUpKey := by
  unfold giveUpKey
  split
  · split <;> simp
  · exact .ok _

theorem raises_noteKey (a : Analysis) : Raises P a.noteKey := by
  unfold noteKey
  split
  · exact (raises_giveUpKey a).bind fun _ => .pure _
  · exact .ok _

theorem raises_documentMark (a : Analysis) (t : Token) : Raises P (a.documentMark t) :=
  (raises_giveUpKey _).bind fun _ => .pure _

theorem raises_takeDirective (a : Analysis) : Raises IsLexical a.takeDirective :=
  (raises_giveUpKey _).bind fun _ => (raises_directive _).bind fun _ => .pure _

theorem raises_openFlow (a : Analysis) (t : Token) : Raises P (a.openFlow t) :=
  (raises_noteKey a).bind fun _ => .pure _

theorem raises_closeFlow (a : Analysis) (t : Token) : Raises P (a.closeFlow t) := by
  refine (raises_giveUpKey a).bind fun b => ?_
  split <;> simp

theorem raises_flowEntry (a : Analysis) : Raises P a.flowEntry :=
  (raises_giveUpKey a).bind fun _ => .pure _

theorem raises_blockEntry (a : Analysis) : Raises P a.blockEntry := by
  unfold blockEntry
  split
  · exact .throw_malformed
  · exact (raises_giveUpKey _).bind fun _ => .pure _

theorem raises_keyMark (a : Analysis) : Raises P a.keyMark := by
  unfold keyMark
  split
  · exact .throw_malformed
  · exact (raises_giveUpKey _).bind fun _ => .pure _

theorem raises_valueMark (a : Analysis) : Raises P a.valueMark := by
  unfold valueMark
  split
  · exact .pure _
  · split
    · exact .throw_malformed
    · exact (raises_giveUpKey _).bind fun _ => .pure _

theorem raises_takeAnchor (a : Analysis) (make : Text → Token) : Raises P (a.takeAnchor make) :=
  (raises_noteKey a).bind fun _ => (raises_anchorName _).bind fun _ => .pure _

theorem raises_takeTag (a : Analysis) : Raises P a.takeTag :=
  (raises_noteKey a).bind fun _ => (raises_tagToken _).bind fun _ => .pure _

theorem raises_takeBlockScalar (a : Analysis) (folded : Bool) : Raises P (a.takeBlockScalar folded) :=
  (raises_giveUpKey a).bind fun _ => (raises_blockScalar folded _ _).bind fun _ => .pure _

theorem raises_takeQuoted (a : Analysis) (quote : Char) : Raises IsLexical (a.takeQuoted quote) :=
  (raises_noteKey a).bind fun _ => (raises_quotedScalar quote _ _).bind fun _ => .pure _

theorem raises_takePlain (a : Analysis) : Raises P a.takePlain :=
  (raises_noteKey a).bind fun _ => .pure _

theorem raises_takeToken (a : Analysis) (d : Char) (rest : List Char) :
    Raises IsLexical (a.takeToken d rest) := by
  unfold takeToken
  dsimp only
  refine .ite (raises_takeDirective a) ?_
  refine .ite (raises_documentMark a _) ?_
  refine .ite (raises_documentMark a _) ?_
  refine .ite (raises_openFlow a _) ?_
  refine .ite (raises_openFlow a _) ?_
  refine .ite (raises_closeFlow a _) ?_
  refine .ite (raises_closeFlow a _) ?_
  refine .ite (raises_flowEntry a) ?_
  refine .ite (raises_blockEntry a) ?_
  refine .ite (raises_keyMark a) ?_
  refine .ite (raises_valueMark a) ?_
  refine .ite (raises_takeAnchor a _) ?_
  refine .ite (raises_takeAnchor a _) ?_
  refine .ite (raises_takeTag a) ?_
  refine .ite (raises_takeBlockScalar a _) ?_
  refine .ite (raises_takeBlockScalar a _) ?_
  refine .ite (raises_takeQuoted a d) ?_
  refine .ite (raises_takePlain a) ?_
  exact .malformed

theorem raises_run (steps : Nat) (a : Analysis) : Raises IsLexical (a.run steps) := by
  induction steps generalizing a with
  | zero => exact .ok _
  | succ steps ih =>
    unfold run
    refine .bind ?_ fun b => ?_
    · unfold giveUpStaleKeys
      split <;> simp
    · dsimp only
      split
      · exact raises_giveUpKey _
      · exact (raises_takeToken _ _ _).bind fun c => ih c

end Analysis

theorem raises_tokensOf (cs : List Char) : Raises IsLexical (tokensOf cs) :=
  (Analysis.raises_run _ _).bind fun _ => .pure _

/-! ## Nodes -/

namespace Reader

variable {p : Reader α} {f : α → Reader β}

/-- The only defect of a reader is a node within itself. -/
def IsAcyclic (p : Reader α) : Prop :=
  ∀ s, Raises (· = .selfReference) (p s)

namespace IsAcyclic

theorem pure (a : α) : IsAcyclic (Pure.pure a) :=
  fun _ => .ok _

theorem bind (hp : IsAcyclic p) (hf : ∀ a, IsAcyclic (f a)) : IsAcyclic (p >>= f) := by
  intro s d h
  dsimp only [Bind.bind] at h
  split at h
  · next a s' _ => exact hf a s' d h
  · next e he =>
    cases h
    exact hp s d he

theorem map (hp : IsAcyclic p) (g : α → β) : IsAcyclic (g <$> p) :=
  hp.bind fun a => pure (g a)

theorem malformed : IsAcyclic (fail .malformed : Reader α) :=
  fun _ => .malformed

end IsAcyclic

theorem isAcyclic_peek : IsAcyclic peek :=
  fun _ => .ok _

theorem isAcyclic_advance : IsAcyclic advance :=
  fun _ => .ok _

theorem isAcyclic_accept (t : Token) : IsAcyclic (accept t) := by
  refine isAcyclic_peek.bind fun next => ?_
  split
  · exact isAcyclic_advance.bind fun _ => .pure _
  · exact .pure _

theorem isAcyclic_expect (t : Token) : IsAcyclic (expect t) := by
  refine (isAcyclic_accept t).bind fun found => ?_
  split
  · exact .pure _
  · exact .malformed

theorem isAcyclic_seesOneOf (ts : List Token) : IsAcyclic (seesOneOf ts) := by
  refine isAcyclic_peek.bind fun next => ?_
  split <;> exact .pure _

theorem isAcyclic_tagName (handle : Option Text) (suffix : Text) : IsAcyclic (tagName handle suffix) := by
  intro s
  unfold tagName
  split
  · exact .ok _
  · split <;> simp

theorem isAcyclic_properties : IsAcyclic properties := by
  refine isAcyclic_peek.bind fun next => ?_
  split
  · refine isAcyclic_advance.bind fun _ => isAcyclic_peek.bind fun second => ?_
    split
    · exact isAcyclic_advance.bind fun _ => (isAcyclic_tagName _ _).bind fun _ => .pure _
    · exact .pure _
  · refine isAcyclic_advance.bind fun _ => isAcyclic_peek.bind fun second => ?_
    split
    · exact isAcyclic_advance.bind fun _ => (isAcyclic_tagName _ _).bind fun _ => .pure _
    · exact (isAcyclic_tagName _ _).bind fun _ => .pure _
  · exact .pure _

theorem isAcyclic_openAnchor (anchor : Option Text) : IsAcyclic (openAnchor anchor) := by
  intro s
  unfold openAnchor
  split
  · exact .ok _
  · split <;> simp

theorem isAcyclic_closeAnchor (anchor : Option Text) (n : Node) : IsAcyclic (closeAnchor anchor n) := by
  intro s
  unfold closeAnchor
  split <;> simp

theorem isAcyclic_anchored (a : Text) : IsAcyclic (anchored a) := by
  intro s
  unfold anchored
  split <;> simp

section

variable {node : Reader Node} (hnode : IsAcyclic node)

include hnode

theorem isAcyclic_nodeUnless (ends : List Token) : IsAcyclic (nodeUnless ends node) := by
  refine (isAcyclic_seesOneOf ends).bind fun found => ?_
  split
  · exact .pure _
  · exact hnode

theorem isAcyclic_blockItems (ends : List Token) (items : Nat) :
    IsAcyclic (blockItems node ends items) := by
  induction items with
  | zero => exact .malformed
  | succ items ih =>
    unfold blockItems
    refine (isAcyclic_accept _).bind fun found => ?_
    split
    · exact (isAcyclic_nodeUnless hnode ends).bind fun _ => ih.bind fun _ => .pure _
    · exact .pure _

theorem isAcyclic_blockPairs (pairs : Nat) : IsAcyclic (blockPairs node pairs) := by
  induction pairs with
  | zero => exact .malformed
  | succ pairs ih =>
    unfold blockPairs
    refine (isAcyclic_accept _).bind fun found => ?_
    split
    · refine (isAcyclic_nodeUnless hnode _).bind fun k => ?_
      refine (isAcyclic_accept _).bind fun hasValue => ?_
      split
      · exact (isAcyclic_nodeUnless hnode _).bind fun _ => ih.bind fun _ => .pure _
      · exact ih.bind fun _ => .pure _
    · refine isAcyclic_peek.bind fun next => ?_
      split
      · refine isAcyclic_advance.bind fun _ => ?_
        exact (isAcyclic_nodeUnless hnode _).bind fun _ => ih.bind fun _ => .pure _
      · exact (isAcyclic_expect _).bind fun _ => .pure _

theorem isAcyclic_flowPair (close : Token) : IsAcyclic (flowPair node close) := by
  refine (isAcyclic_nodeUnless hnode _).bind fun k => .bind ?_ fun _ => .pure _
  refine (isAcyclic_accept _).bind fun hasValue => ?_
  split
  · exact isAcyclic_nodeUnless hnode _
  · exact .pure _

theorem isAcyclic_flowItems (items : Nat) (isFirst : Bool) : IsAcyclic (flowItems node items isFirst) := by
  induction items generalizing isFirst with
  | zero => exact .malformed
  | succ items ih =>
    have hitem : IsAcyclic (do
        if ← accept .key then
          let pair ← flowPair node .flowSequenceEnd
          return .mapping .map [pair] :: (← flowItems node items false)
        else if ← accept .flowSequenceEnd then return []
        else
          let n ← node
          return n :: (← flowItems node items false)) := by
      refine (isAcyclic_accept _).bind fun isPair => ?_
      split
      · exact (isAcyclic_flowPair hnode _).bind fun _ => (ih false).bind fun _ => .pure _
      · refine (isAcyclic_accept _).bind fun isEnd => ?_
        split
        · exact .pure _
        · exact hnode.bind fun _ => (ih false).bind fun _ => .pure _
    unfold flowItems
    refine (isAcyclic_accept _).bind fun isEnd => ?_
    split
    · exact .pure _
    · split
      · exact (isAcyclic_expect _).bind fun _ => hitem
      · exact hitem

theorem isAcyclic_flowPairs (pairs : Nat) (isFirst : Bool) : IsAcyclic (flowPairs node pairs isFirst) := by
  induction pairs generalizing isFirst with
  | zero => exact .malformed
  | succ pairs ih =>
    have hpair : IsAcyclic (do
        if ← accept .key then
          let pair ← flowPair node .flowMappingEnd
          return pair :: (← flowPairs node pairs false)
        else if ← accept .flowMappingEnd then return []
        else
          let n ← node
          return .mk n .absent :: (← flowPairs node pairs false)) := by
      refine (isAcyclic_accept _).bind fun isPair => ?_
      split
      · exact (isAcyclic_flowPair hnode _).bind fun _ => (ih false).bind fun _ => .pure _
      · refine (isAcyclic_accept _).bind fun isEnd => ?_
        split
        · exact .pure _
        · exact hnode.bind fun _ => (ih false).bind fun _ => .pure _
    unfold flowPairs
    refine (isAcyclic_accept _).bind fun isEnd => ?_
    split
    · exact .pure _
    · split
      · exact (isAcyclic_expect _).bind fun _ => hpair
      · exact hpair

end

theorem isAcyclic_content {inner : Place → Reader Node} (hinner : ∀ place, IsAcyclic (inner place))
    (count : Nat) (place : Place) (anchor name : Option Text) :
    IsAcyclic (content inner count place anchor name) := by
  have hempty : IsAcyclic (
      if anchor.isSome || name.isSome then Pure.pure (.scalar (scalarTag name true []) [])
      else fail .malformed : Reader Node) := by
    split
    · exact .pure _
    · exact .malformed
  unfold content
  refine isAcyclic_peek.bind fun next => ?_
  split
  · exact isAcyclic_advance.bind fun _ => .pure _
  · exact isAcyclic_advance.bind fun _ => (isAcyclic_flowItems (hinner _) _ _).bind fun _ => .pure _
  · exact isAcyclic_advance.bind fun _ => (isAcyclic_flowPairs (hinner _) _ _).bind fun _ => .pure _
  · split
    · exact (isAcyclic_blockItems (hinner _) _ _).bind fun _ => .pure _
    · exact hempty
  · split
    · refine isAcyclic_advance.bind fun _ => (isAcyclic_blockItems (hinner _) _ _).bind fun _ => ?_
      exact (isAcyclic_expect _).bind fun _ => .pure _
    · exact hempty
  · split
    · exact isAcyclic_advance.bind fun _ => (isAcyclic_blockPairs (hinner _) _).bind fun _ => .pure _
    · exact hempty
  · exact hempty

theorem isAcyclic_node (count levels : Nat) (place : Place) : IsAcyclic (node count levels place) := by
  induction levels generalizing place with
  | zero => exact .malformed
  | succ levels ih =>
    unfold node
    refine isAcyclic_peek.bind fun next => ?_
    split
    · exact isAcyclic_advance.bind fun _ => isAcyclic_anchored _
    · refine isAcyclic_properties.bind fun names => ?_
      refine (isAcyclic_openAnchor _).bind fun _ => ?_
      exact (isAcyclic_content ih count place _ _).bind fun n => isAcyclic_closeAnchor _ n

theorem isAcyclic_directives (steps : Nat) (hasVersion : Bool) (handles : List (Text × Text)) :
    IsAcyclic (directives steps hasVersion handles) := by
  induction steps generalizing hasVersion handles with
  | zero => exact .pure _
  | succ steps ih =>
    unfold directives
    refine isAcyclic_peek.bind fun next => ?_
    split
    · refine isAcyclic_advance.bind fun _ => ?_
      split
      · split
        · exact .malformed
        · exact ih _ _
      · split
        · exact .malformed
        · exact ih _ _
      · exact ih _ _
    · exact .pure _

theorem isAcyclic_skipDocumentEnds (steps : Nat) : IsAcyclic (skipDocumentEnds steps) := by
  induction steps with
  | zero => exact .pure _
  | succ steps ih =>
    unfold skipDocumentEnds
    refine (isAcyclic_accept _).bind fun found => ?_
    split
    · exact ih
    · exact .pure _

theorem isAcyclic_document (count : Nat) : IsAcyclic (document count) := by
  have hnode : IsAcyclic (some <$> node count count .block) := (isAcyclic_node _ _ _).map some
  unfold document
  refine isAcyclic_peek.bind fun next => ?_
  extract_lets finish
  have hfinish : ∀ found, IsAcyclic (finish found) := by
    intro found
    refine (isAcyclic_skipDocumentEnds count).bind fun _ => isAcyclic_peek.bind fun next => ?_
    split
    · exact .pure _
    · exact .malformed
  have hhandles : ∀ handles, IsAcyclic
      (fun s => .ok ((), { s with handles := handles ++ usualHandles }) : Reader Unit) :=
    fun handles s => .ok _
  split
  · exact (IsAcyclic.pure none).bind hfinish
  rotate_right
  · exact hnode.bind hfinish
  all_goals
    refine (isAcyclic_directives _ _ _).bind fun handles => (isAcyclic_expect _).bind fun _ =>
      (hhandles handles).bind fun _ => isAcyclic_peek.bind fun marked => ?_
    split
    rotate_right
    · exact hnode.bind hfinish
    all_goals exact (IsAcyclic.pure _).bind hfinish

end Reader

theorem raises_ofTokens? (tokens : List Token) : Raises (· = .selfReference) (Node.ofTokens? tokens) := by
  rw [Node.ofTokens?, Raises.map_iff]
  exact Reader.isAcyclic_document _ _

/-! ## Values -/

/-- The defects of scalars whose texts do not fit their tags. -/
inductive IsScalar : Defect → Prop
  | emptyNumber : IsScalar .emptyNumber
  | malformedNumber : IsScalar .malformedNumber
  | oversizedNumber : IsScalar .oversizedNumber
  | malformedBoolean : IsScalar .malformedBoolean
  | malformedTimestamp : IsScalar .malformedTimestamp
  | impossibleDate : IsScalar .impossibleDate

theorem raises_integerConstant (cs : List Char) : Raises IsScalar (integerConstant cs) := by
  have hmalformed : Raises IsScalar (.error (.defect .malformedNumber) : Except Fault Int) :=
    Raises.defect_iff.2 .malformedNumber
  unfold integerConstant
  dsimp only
  refine .ite (Raises.defect_iff.2 .emptyNumber) ?_
  split
  · exact Raises.defect_iff.2 .emptyNumber
  · exact .ok _
  · split
    · exact .ok _
    · exact hmalformed
  · split
    · exact .ok _
    · exact hmalformed
  · split
    · exact .ok _
    · exact hmalformed
  · refine .ite ?_ ?_ <;> split
    · exact .ok _
    · exact hmalformed
    · exact .ok _
    · exact hmalformed

theorem raises_fractionConstant (cs : List Char) : Raises IsScalar (fractionConstant cs) := by
  unfold fractionConstant
  dsimp only
  refine .ite (Raises.defect_iff.2 .emptyNumber) ?_
  refine .ite (.ok _) (.ite (.ok _) (.ite ?_ ?_))
  · split
    · split
      · exact .ok _
      · exact Raises.defect_iff.2 .oversizedNumber
    · exact Raises.defect_iff.2 .malformedNumber
  · split
    · exact .ok _
    · exact Raises.defect_iff.2 .malformedNumber

theorem raises_constant (tag : Tag) (t : Text) : Raises IsScalar (constant tag t) := by
  unfold constant
  split
  · exact .ok _
  · rw [Raises.map_iff, booleanConstant]
    split
    · exact .ok _
    · exact Raises.defect_iff.2 .malformedBoolean
  · rw [Raises.map_iff]
    exact raises_integerConstant _
  · rw [Raises.map_iff]
    exact raises_fractionConstant _
  · rw [Raises.map_iff, bytesConstant]
    split
    · split <;> simp
    · exact .malformed
  · unfold timeConstant
    split
    · exact Raises.defect_iff.2 .malformedTimestamp
    · dsimp only
      split
      · exact .ite (.ok _) (Raises.defect_iff.2 .impossibleDate)
      · exact .ite (.ok _) (Raises.defect_iff.2 .impossibleDate)
  · exact .ok _
  · exact .malformed

/-- All defects that the value of a part can be satisfy a property, at whatever depth. -/
def Built.Raises (P : Defect → Prop) (x : Built α) : Prop :=
  ∀ depth d, x = .error (depth, .defect d) → P d

namespace Built.Raises

theorem ok (a : α) : Built.Raises P (.ok a) := by
  intro depth d h
  cases h

theorem fail_malformed : Built.Raises P (.fail .malformed : Built α) := by
  intro depth d h
  cases h

theorem map {x : Built α} (h : x.Raises P) (f : α → β) : Built.Raises P (x.map f) := by
  intro depth d hd
  exact h depth d (Outcome.map_eq_error.1 hd)

theorem deeper {x : Built α} (h : x.Raises P) : x.deeper.Raises P := by
  intro depth d hd
  cases x with
  | ok a => cases hd
  | error e =>
    obtain ⟨n, fault⟩ := e
    cases hd
    exact h n d rfl

theorem both {x : Built α} {y : Built β} (hx : x.Raises P) (hy : y.Raises P) :
    (x.both y).Raises P := by
  intro depth d hd
  unfold Built.both at hd
  split at hd
  · cases hd
  · cases hd
    exact hx depth d rfl
  · cases hd
    exact hy depth d rfl
  · split at hd
    · cases hd
      exact hy depth d rfl
    · cases hd
      exact hx depth d rfl

end Built.Raises

theorem raises_constant_here (tag : Tag) (t : Text) :
    Built.Raises IsScalar ((constant tag t).mapError fun e => (0, e)) := by
  intro depth d h
  cases hconstant : constant tag t with
  | ok v =>
    rw [hconstant] at h
    cases h
  | error e =>
    rw [hconstant] at h
    cases h
    exact raises_constant tag t d hconstant

theorem raises_defaultConstant (tag : Tag) (t : Option Text) :
    (defaultConstant tag t).Raises IsScalar := by
  cases t with
  | some t => exact raises_constant_here tag t
  | none => exact .fail_malformed

mutual

theorem raises_build : (n : Node) → n.build.Raises IsScalar
  | .scalar tag text => by
    unfold Node.build
    split
    · exact Built.Raises.fail_malformed.deeper
    · exact raises_constant_here tag text
  | .sequence tag items => by
    unfold Node.build
    split
    · exact (raises_buildItems items).deeper.map _
    · exact (raises_buildSingles items).deeper.map _
    · exact (raises_buildSingles items).deeper.map _
    · split
      · exact Built.Raises.fail_malformed.deeper
      · exact .fail_malformed
  | .mapping tag pairs => by
    unfold Node.build
    split
    · split
      · exact Built.Raises.fail_malformed.deeper
      · exact (raises_buildPairs pairs).deeper.map _
    · split
      · exact Built.Raises.fail_malformed.deeper
      · exact (raises_buildPairs pairs).deeper.map _
    · split
      · exact Built.Raises.fail_malformed.deeper
      · exact raises_defaultConstant tag _

theorem raises_buildItems : (ns : List Node) → (buildItems ns).Raises IsScalar
  | [] => .ok _
  | n :: ns => by
    unfold buildItems
    exact ((raises_build n).both (raises_buildItems ns)).map _

theorem raises_buildSingles : (ns : List Node) → (buildSingles ns).Raises IsScalar
  | [] => .ok _
  | .mapping _ [.mk k v] :: ns => by
    unfold buildSingles
    exact (((raises_build k).both (raises_build v)).both (raises_buildSingles ns)).map _
  | .mapping _ [] :: ns | .mapping _ (.mk _ _ :: _ :: _) :: ns | .scalar _ _ :: ns
  | .sequence _ _ :: ns => by
    unfold buildSingles
    exact (Built.Raises.fail_malformed.both (raises_buildSingles ns)).map _

theorem raises_buildPairs : (ps : List Pair) → (buildPairs ps).Raises IsScalar
  | [] => .ok _
  | .mk k v :: ps => by
    unfold buildPairs
    refine ((Built.Raises.both ?_ (raises_build v)).both (raises_buildPairs ps)).map _
    split
    · exact .fail_malformed
    · split
      · exact .ok _
      · exact raises_build k

end

/-- The defects of documents: of their tokens, of a node within itself, and of their scalars. -/
inductive IsDefect (d : Defect) : Prop
  | lexical : IsLexical d → IsDefect d
  | selfReference : d = .selfReference → IsDefect d
  | scalar : IsScalar d → IsDefect d

/-- A text without a value is malformed, or has one of these defects. -/
theorem raises_load (t : Text) : Raises IsDefect (load t) := by
  unfold load
  split
  · exact .malformed
  · refine .ite ?_ .malformed
    refine .bind ((raises_tokensOf _).mono fun d => .lexical) fun tokens => ?_
    refine .bind ((raises_ofTokens? tokens).mono fun d => .selfReference) fun found => ?_
    split
    · intro d h
      rename_i n
      cases hbuild : n.merged.build with
      | ok v =>
        rw [hbuild] at h
        cases h
      | error e =>
        rw [hbuild] at h
        obtain ⟨depth, fault⟩ := e
        cases h
        exact .scalar (raises_build n.merged depth d hbuild)
    · exact .ok _

end AnnotatedMarkdown.Yaml
