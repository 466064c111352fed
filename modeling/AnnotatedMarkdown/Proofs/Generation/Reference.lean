import AnnotatedMarkdown.Generation.Attachment
import AnnotatedMarkdown.Proofs.Annotation.Line
import AnnotatedMarkdown.Proofs.Outcome
import AnnotatedMarkdown.Proofs.Python.SingleLine
import AnnotatedMarkdown.Proofs.Python.SoleStatement
import AnnotatedMarkdown.Proofs.Text.Trimming

/-!
# References and deferred expressions

A reference is read as a module of one statement, and a deferred field as one expression list.
On a line these are two readings of the same lexemes, in front of two ends: a module ends its
last line, and an expression does not.

* `isReferenceLine_of_markerReference?` says that references are parts of lines without blanks at
  their ends.
* `IsReferenceLine.exists_isLine` cuts the tokens of a line at the first semicolon.
* `parseReference_of_parseDeferred` says that what a deferred field may hold is a reference to the
  same expression, and a plain one.
* `parseDeferred_of_parseReference` is the converse.  A reference that is not plain ends in a
  semicolon, is a `yield`, or has starred elements.
* `plainReference_iff` puts the two together, with the statement that an entity gets.
-/

namespace AnnotatedMarkdown.Generation

open Outcome Python Python.Grammar Python.Parser

/-! ## Lines of source -/

/-- A text as it can stand behind a marker: a part of one line, without blanks at its ends. -/
structure IsReferenceLine (s : Text) : Prop where
  isBreakFree : s.IsBreakFree
  isTrimmed : s.trim = s

/-- The reference of a marker line is such a text. -/
theorem isReferenceLine_of_markerReference? {line reference : Text} (hline : line.IsBreakFree)
    (h : markerReference? line = some reference) : IsReferenceLine reference := by
  rw [markerReference?_of_isBreakFree hline] at h
  split at h
  · cases h
    refine ⟨fun c hc => ?_, Text.trim_trim _⟩
    exact hline c (List.mem_of_mem_drop (Text.mem_of_mem_trim hc))
  · cases h

theorem isLineBlank_of_isBlank {c : Char} (hc : CodePoint.isBlank (.scalar c) = false) :
    isLineBlank c = false := by
  refine Bool.eq_false_iff.2 fun hblank => ?_
  simp only [isLineBlank, Bool.or_eq_true, beq_iff_eq] at hblank
  rcases hblank with (rfl | rfl) | rfl <;> cases hc

namespace IsReferenceLine

variable {cs : List Char} (h : IsReferenceLine (.ofChars cs))

include h

theorem not_mem : '\n' ∉ cs ∧ '\r' ∉ cs := by
  have hfree : ∀ c ∈ cs, c ≠ '\r' ∧ c ≠ '\n' := by
    intro c hc
    have hbreak := CodePoint.isBreak_eq_false_iff.1 (h.isBreakFree (.scalar c) (List.mem_map_of_mem hc))
    exact ⟨fun heq => hbreak.1 (heq ▸ rfl), fun heq => hbreak.2 (heq ▸ rfl)⟩
  exact ⟨fun hmem => (hfree _ hmem).2 rfl, fun hmem => (hfree _ hmem).1 rfl⟩

theorem endsInCode : EndsInCode cs := by
  intro c hc
  have hlast : CodePoint.scalar c ∈ (Text.ofChars cs).getLast? := by
    rw [Text.ofChars, List.getLast?_map, Option.mem_def.1 hc]
    rfl
  refine ⟨isLineBlank_of_isBlank (Text.isBlank_last_of_trim_eq h.isTrimmed _ hlast), ?_⟩
  rintro rfl
  exact h.not_mem.1 (List.mem_of_getLast? hc)

theorem startsInCode : ∀ c ∈ cs.head?, isLineBlank c = false := by
  intro c hc
  have hhead : CodePoint.scalar c ∈ (Text.ofChars cs).head? := by
    rw [Text.ofChars, List.head?_map, Option.mem_def.1 hc]
    rfl
  exact isLineBlank_of_isBlank (Text.isBlank_head_of_trim_eq h.isTrimmed _ hhead)

theorem unifyLineBreaks_eq : unifyLineBreaks cs = cs ++ lineEnd false := by
  rw [unifyLineBreaks_eq_self h.not_mem.2, lineEnd, List.append_nil]

theorem moduleSource_eq : moduleSource cs = cs ++ lineEnd true := by
  have hends : ∀ ds : List Char, '\n' ∉ ds → '\r' ∉ ds → endsLine ds = false := by
    intro ds hline hreturn
    induction ds with
    | nil => rfl
    | cons d ds ih =>
      rw [List.mem_cons, not_or] at hline hreturn
      rw [endsLine]
      · exact ih hline.2 hreturn.2
      · exact fun heq => absurd heq.symm hline.1
      · exact fun heq => absurd heq.symm hreturn.1
      · exact fun _ heq => absurd heq.symm hreturn.1
  rw [moduleSource, unifyLineBreaks_eq_self h.not_mem.2, hends cs h.not_mem.1 h.not_mem.2]
  rfl

end IsReferenceLine

/-! ## The tokens of a line -/

/-- The tokens of a line, with a line feed at its end or without. -/
def lineTokens (cs : List Char) (broken : Bool) : List Token :=
  (lex 1 true (cs ++ lineEnd broken)).tokens

/-- The lexemes of a text of one line. -/
def lexemesOf (s : Text) : List Lexeme :=
  match s.chars? with
  | some cs => lexemes (lineTokens cs false)
  | none => []

theorem lexemesOf_ofChars (cs : List Char) : lexemesOf (.ofChars cs) = lexemes (lineTokens cs false) := by
  rw [lexemesOf, Text.chars?_ofChars]

/-- The tokens of a line without and with a line feed at its end: the lexemes of its first
statement, and a semicolon and the others if there is one.  A fault leaves the line open. -/
structure IsLine (xs ys : List Lexeme) (closed : Bool) (tokens : Bool → List Token) : Prop where
  isInner : xs.all Lexeme.isInner = true
  isSemi : ∀ y ∈ ys.head?, y = .op .semi
  lexemes_eq : ∀ broken, lexemes (tokens broken) = xs ++ (ys ++ if closed then closing broken else [])

/-- A line has no code at all, or its tokens are those of its statements. -/
theorem IsReferenceLine.exists_isLine {cs : List Char} (h : IsReferenceLine (.ofChars cs)) :
    (∀ broken, lexemes (lineTokens cs broken) = [.endMarker]) ∨
      ∃ xs ys closed, IsLine xs ys closed (lineTokens cs) := by
  rcases exists_lexemes_singleLine h.not_mem.1 h.endsInCode h.startsInCode with
    hblank | ⟨xs, closed, hxs, hread⟩
  · exact Or.inl hblank
  · refine Or.inr ⟨xs.takeWhile Lexeme.isInner, xs.dropWhile Lexeme.isInner, closed,
      List.all_takeWhile, fun y hy => ?_, fun broken => ?_⟩
    · have hmem : y ∈ xs := (List.dropWhile_suffix _).mem (List.mem_of_head? hy)
      have hnot := List.head?_dropWhile_not Lexeme.isInner xs
      rw [Option.mem_def.1 hy] at hnot
      have hline := List.all_eq_true.1 hxs y hmem
      simpa [Lexeme.isOnLine, hnot] using hline
    · rw [lineTokens, hread, ← List.append_assoc, List.takeWhile_append_dropWhile]

theorem exists_eq_singleton_of_lexemes {tokens : List Token} {x : Lexeme} (h : lexemes tokens = [x]) :
    ∃ n, tokens = [⟨x, n⟩] := by
  obtain ⟨⟨_, n⟩, us, rfl, rfl, hus⟩ := List.map_eq_cons_iff.1 h
  obtain rfl := List.map_eq_nil_iff.1 hus
  exact ⟨n, rfl⟩

theorem atEnd_of_lexemes {tail : List Token} {zs : List Lexeme} (h : lexemes tail = zs)
    (hzs : ∀ z ∈ zs.head?, z.isInner = false) : AtEnd tail := by
  cases tail with
  | nil => exact .nil
  | cons t tail =>
    subst h
    exact .intro (hzs t.lexeme rfl) t.line tail

/-- The first statement of a line, with and without a line feed, and what ends it. -/
theorem IsLine.exists_tokens {xs ys : List Lexeme} {closed : Bool} {tokens : Bool → List Token}
    (h : IsLine xs ys closed tokens) :
    ∃ ts tail ts' tail', tokens false = ts ++ tail ∧ tokens true = ts' ++ tail' ∧ SameLine xs ts ts' ∧
      AtEnd tail ∧ AtEnd tail' ∧ lexemes tail = ys ++ (if closed then closing false else []) ∧
      lexemes tail' = ys ++ if closed then closing true else [] := by
  have hend : ∀ broken, ∀ z ∈ (ys ++ if closed then closing broken else []).head?, z.isInner = false := by
    intro broken z hz
    cases ys with
    | nil => cases closed <;> cases broken <;> cases hz <;> rfl
    | cons y ys =>
      cases hz
      rw [h.isSemi _ rfl]
  obtain ⟨ts, tail, heq, hts, htail⟩ := List.map_eq_append_iff.1 (h.lexemes_eq false)
  obtain ⟨ts', tail', heq', hts', htail'⟩ := List.map_eq_append_iff.1 (h.lexemes_eq true)
  exact ⟨ts, tail, ts', tail', heq, heq', sameLine_of_lexemes hts hts' h.isInner,
    atEnd_of_lexemes htail (hend false), atEnd_of_lexemes htail' (hend true), htail, htail'⟩

section

variable {g : Grammar} [g.IsLocal] [g.IsSelective] {xs ys : List Lexeme} {closed : Bool}
  {tokens : Bool → List Token} {e : Expr} {rest : List Token}

/-- The elements of the expression list at the front of tokens; each of them may be starred. -/
def elementsOf (g : Grammar) (tokens : List Token) : List Expr :=
  match commaListTrailing g.starExpression tokens with
  | .ok ((elements, _), _) => elements
  | .error _ => []

omit [g.IsLocal] [g.IsSelective] in
theorem elementsOf_of_eq_ok {ts left : List Token} {elements : List Expr} {trailing : Bool}
    (h : commaListTrailing g.starExpression ts = .ok ((elements, trailing), left)) :
    elementsOf g ts = elements := by
  rw [elementsOf, h]

omit [g.IsSelective] in
/-- A line that is one expression list has no semicolon, and its end closes it. -/
theorem IsLine.expressions_of_soleExpression (h : IsLine xs ys closed tokens)
    (hread : g.soleExpression (tokens false) = .ok (e, rest)) :
    ys = [] ∧ closed = true ∧ ∃ ts tail ts' n m, tokens true = ts' ++ [⟨.newline, n⟩, ⟨.endMarker, m⟩] ∧
      SameLine xs ts ts' ∧ AtEnd tail ∧ g.expressions (ts ++ tail) = .ok (e, tail) := by
  obtain ⟨ts, tail, ts', tail', heq, heq', hline, htail, -, hlexemes, hlexemes'⟩ := h.exists_tokens
  rw [heq] at hread
  obtain ⟨hexpressions, hend⟩ := Grammar.expressions_of_soleExpression hline htail hread
  have hhead : tail.head?.map Token.lexeme = (ys ++ if closed then closing false else []).head? := by
    rw [← hlexemes, lexemes, List.head?_map]
  rw [hhead] at hend
  cases ys with
  | cons y ys =>
    obtain rfl := h.isSemi y rfl
    rcases hend with hend | hend <;> cases hend
  | nil =>
    cases closed with
    | false => rcases hend with hend | hend <;> cases hend
    | true =>
      obtain ⟨⟨_, n⟩, us, rfl, rfl, hus⟩ := List.map_eq_cons_iff.1 hlexemes'
      obtain ⟨m, rfl⟩ := exists_eq_singleton_of_lexemes hus
      exact ⟨rfl, rfl, ts, tail, ts', n, m, heq', hline, htail, hexpressions⟩

/-- A line that is one expression list is a module of one statement. -/
theorem IsLine.module_of_soleExpression (h : IsLine xs ys closed tokens)
    {isRow : List (List Char) → Bool} (hg : g.IsSteady isRow)
    (hread : g.soleExpression (tokens false) = .ok (e, rest)) :
    g.module (tokens true) = .ok ([.expr e], []) := by
  obtain ⟨-, -, ts, tail, ts', n, m, heq, hline, htail, hexpressions⟩ := h.expressions_of_soleExpression hread
  rw [heq]
  exact module_of_expressions hline htail hg hexpressions n m

/-- A line whose only statement is an expression is an expression list, if nothing ends it earlier
and no element of the list is starred. -/
theorem IsLine.soleExpression_of_module (h : IsLine xs [] closed tokens)
    (hyield : xs.head? ≠ some (.word .yield)) (hread : g.module (tokens true) = .ok ([.expr e], rest))
    (hall : (elementsOf g (tokens true)).all Expr.isUnstarred = true) :
    g.soleExpression (tokens false) = .ok (e, []) := by
  obtain ⟨ts, tail, ts', tail', heq, heq', hline, htail, htail', hlexemes, hlexemes'⟩ := h.exists_tokens
  rw [heq'] at hread hall
  obtain ⟨hstar, hne⟩ := starExpressions_of_module hline.symm htail' hyield hread
  obtain ⟨⟨elements, trailing⟩, us, hlist, hresult⟩ := bind_apply_eq_ok.1 hstar
  rw [elementsOf_of_eq_ok hlist] at hall
  have hexpressions : g.expressions (ts' ++ tail') = .ok (e, tail') := by
    cases hresult
    exact bind_apply_eq_ok.2 ⟨_, _, commaListTrailing_expression hlist hall, rfl⟩
  cases closed with
  | false => exact absurd (List.map_eq_nil_iff.1 hlexemes') hne
  | true =>
    obtain ⟨n, rfl⟩ := exists_eq_singleton_of_lexemes hlexemes
    rw [heq, soleExpression, bind_of_ok (read_to_end hline.symm htail' htail hexpressions)]
    rfl

end

/-! ## References -/

theorem complete_eq_ok {α : Type} {p : Parser α} {ts : List Token} {a : α} :
    complete p ts = .ok a ↔ ∃ rest, p ts = .ok (a, rest) := by
  rw [complete]
  split
  · next b rest hp =>
    rw [hp]
    constructor
    · rintro ⟨⟩
      exact ⟨rest, rfl⟩
    · rintro ⟨_, ⟨⟩⟩
      rfl
  · next hp =>
    rw [hp]
    constructor
    · rintro ⟨⟩
    · rintro ⟨_, ⟨⟩⟩

theorem sourceChars_eq_ok {s : Text} {cs : List Char} (h : sourceChars s = .ok cs) :
    s = .ofChars cs := by
  rw [sourceChars] at h
  split at h
  · cases h
  · next hchars =>
    split at h <;> cases h
    exact Text.eq_ofChars_of_chars? hchars

theorem soleExpression?_eq_some_iff {statements : Module} {e : Expr} :
    soleExpression? statements = some e ↔ statements = [.expr e] := by
  constructor
  · intro h
    unfold soleExpression? at h
    split at h <;> cases h
    rfl
  · rintro rfl
    rfl

/-- A reference is a module that is one expression. -/
theorem parseReference_eq_ok {s : Text} {e : Expr} :
    parseReference s = .ok e ↔ parseModule latestVersion s = .ok [.expr e] := by
  rw [parseReference, bind_eq_ok]
  constructor
  · rintro ⟨statements, hread, h⟩
    split at h
    · next hsole =>
      cases h
      rw [← soleExpression?_eq_some_iff.1 hsole]
      exact mapError_eq_ok.1 hread
    · cases h
  · intro h
    exact ⟨_, mapError_eq_ok.2 h, rfl⟩

/-- No element of a list of expressions is starred. -/
theorem isUnstarred_of_commaListTrailing {g : Grammar} [g.IsUnstarred] {ts rest : List Token}
    {elements : List Expr} {trailing : Bool}
    (h : commaListTrailing g.expression ts = .ok ((elements, trailing), rest)) :
    elements.all Expr.isUnstarred = true :=
  List.all_eq_true.2 (Produces.result (Q := fun items => ∀ a ∈ items.1, Expr.isUnstarred a = true) h)

theorem isUnstarred_tupleOf {elements : List Expr} (trailing : Bool)
    (h : elements.all Expr.isUnstarred = true) : (tupleOf elements trailing).isUnstarred = true := by
  rcases elements with - | ⟨a, - | ⟨b, elements⟩⟩
  · rfl
  · cases trailing with
    | true => rfl
    | false => exact List.all_eq_true.1 h a List.mem_cons_self
  · rfl

section

variable {cs : List Char} {e : Expr} (h : IsReferenceLine (.ofChars cs))
  (hcs : sourceChars (.ofChars cs) = .ok cs)

include h hcs

theorem parseReference_ofChars : parseReference (.ofChars cs) = .ok e ↔
    ∃ rest, (grammarFor latestVersion cs.length).module (lineTokens cs true) = .ok ([.expr e], rest) := by
  rw [parseReference_eq_ok, parseModule, hcs, ok_bind, complete_eq_ok, h.moduleSource_eq]
  rfl

theorem parseDeferred_ofChars : parseDeferred (.ofChars cs) = .ok e ↔
    ∃ rest, (grammarFor latestVersion cs.length).soleExpression (lineTokens cs false) = .ok (e, rest) := by
  rw [parseDeferred, h.isTrimmed, mapError_eq_ok, parseExpression, hcs, ok_bind, complete_eq_ok,
    h.unifyLineBreaks_eq]
  rfl

end

instance (version length : Nat) : (grammarFor version length).IsLocal :=
  isLocal_level version _ _

instance (version length : Nat) : (grammarFor version length).IsSelective :=
  isSelective_level version _ _

instance (version length : Nat) : (grammarFor version length).IsUnstarred :=
  isUnstarred_level version _ _

/-- The elements of the expression list that a reference is. -/
def referenceElements (s : Text) : List Expr :=
  match s.chars? with
  | some cs => elementsOf (grammarFor latestVersion cs.length) (lineTokens cs true)
  | none => []

theorem referenceElements_ofChars (cs : List Char) : referenceElements (.ofChars cs) =
    elementsOf (grammarFor latestVersion cs.length) (lineTokens cs true) := by
  rw [referenceElements, Text.chars?_ofChars]

/-- A reference that a deferred field may hold as well: no semicolon ends it, it is no `yield`, and
no element of it is starred. -/
structure IsPlainReference (s : Text) : Prop where
  semi : .op .semi ∉ lexemesOf s
  yield : (lexemesOf s).head? ≠ some (.word .yield)
  isUnstarred : (referenceElements s).all Expr.isUnstarred = true

variable {s : Text} {e : Expr}

/-- What a deferred field may hold is a plain reference to the same expression. -/
theorem parseReference_of_parseDeferred (h : IsReferenceLine s) (hread : parseDeferred s = .ok e) :
    IsPlainReference s ∧ parseReference s = .ok e := by
  obtain ⟨cs, hcs, -⟩ := bind_eq_ok.1 (mapError_eq_ok.1 hread)
  rw [h.isTrimmed] at hcs
  obtain rfl := sourceChars_eq_ok hcs
  obtain ⟨rest, hread⟩ := (parseDeferred_ofChars h hcs).1 hread
  obtain ⟨e', left, hlist, hend⟩ := bind_apply_eq_ok.1 hread
  have heq : e' = e := by
    obtain ⟨units, us, -, hend⟩ := bind_apply_eq_ok.1 hend
    obtain ⟨u, vs, -, hend⟩ := bind_apply_eq_ok.1 hend
    cases hend
    rfl
  subst heq
  rcases h.exists_isLine with hblank | ⟨xs, ys, closed, hline⟩
  · obtain ⟨n, heq⟩ := exists_eq_singleton_of_lexemes (hblank false)
    rw [heq, expressions_mismatch (AtEnd.intro rfl n []).startsNoExpression] at hlist
    cases hlist
  · obtain ⟨rfl, rfl, ts, tail, ts', n, m, heq, hsame, htail, hexpressions⟩ :=
      hline.expressions_of_soleExpression hread
    have hlexemes := hline.lexemes_eq false
    refine ⟨⟨?semi, ?yield, ?unstarred⟩, ?_⟩
    case semi =>
      rw [lexemesOf_ofChars, hlexemes]
      intro hmem
      have hinner := List.all_eq_true.1 hline.isInner (.op .semi)
      simp_all [closing]
    case yield =>
      rw [lexemesOf_ofChars, hlexemes]
      cases hsame with
      | nil =>
        rw [List.nil_append, expressions_mismatch htail.startsNoExpression] at hexpressions
        cases hexpressions
      | cons =>
        have hstart := startsExpression_of_expressions hexpressions
        rintro ⟨⟩
        cases hstart
    case unstarred =>
      obtain ⟨⟨elements, trailing⟩, us, hlist, hresult⟩ := bind_apply_eq_ok.1 hexpressions
      cases hresult
      have hbreak : AtEnd [⟨.newline, n⟩, ⟨.endMarker, m⟩] := .intro rfl _ _
      have hlisted := read_to_end hsame htail hbreak hlist
      rw [referenceElements_ofChars, heq,
        elementsOf_of_eq_ok (commaListTrailing_starExpression hlisted nofun)]
      exact isUnstarred_of_commaListTrailing hlist
    · have hsteady := isSteady_level (show 8 ≤ latestVersion by decide)
        (asyncReservedSince latestVersion) (cs.length + 2)
      exact (parseReference_ofChars h hcs).2 ⟨[], hline.module_of_soleExpression hsteady hread⟩

/-- A plain reference is what a deferred field may hold. -/
theorem parseDeferred_of_parseReference (h : IsReferenceLine s) (hplain : IsPlainReference s)
    (hread : parseReference s = .ok e) : parseDeferred s = .ok e := by
  obtain ⟨cs, hcs, -⟩ := bind_eq_ok.1 (parseReference_eq_ok.1 hread)
  obtain rfl := sourceChars_eq_ok hcs
  refine (parseDeferred_ofChars h hcs).2 ?_
  obtain ⟨rest, hread⟩ := (parseReference_ofChars h hcs).1 hread
  obtain ⟨hsemi, hyield, hall⟩ := hplain
  rw [lexemesOf_ofChars] at hsemi hyield
  rw [referenceElements_ofChars] at hall
  rcases h.exists_isLine with hblank | ⟨xs, ys, closed, hline⟩
  · obtain ⟨n, heq⟩ := exists_eq_singleton_of_lexemes (hblank true)
    have hmany : many (grammarFor latestVersion cs.length).statement [⟨.endMarker, n⟩] =
        .ok ([], [⟨.endMarker, n⟩]) := many_of_mismatch (statement_endMarker n)
    rw [heq, module, bind_of_ok hmany] at hread
    cases hread
  · rw [hline.lexemes_eq] at hsemi hyield
    obtain rfl : ys = [] := by
      rcases ys with - | ⟨y, ys⟩
      · rfl
      · exact absurd (hline.isSemi y rfl ▸ by simp) hsemi
    refine ⟨[], hline.soleExpression_of_module ?_ hread hall⟩
    rcases xs with - | ⟨x, xs⟩
    · intro hhead
      cases hhead
    · exact hyield

/-- What a deferred field holds is one value, not an unpacking. -/
theorem isUnstarred_of_parseDeferred (hread : parseDeferred s = .ok e) : e.isUnstarred = true := by
  obtain ⟨cs, -, hread⟩ := bind_eq_ok.1 (mapError_eq_ok.1 hread)
  obtain ⟨rest, hread⟩ := complete_eq_ok.1 hread
  obtain ⟨e', left, hlist, hend⟩ := bind_apply_eq_ok.1 hread
  obtain ⟨⟨elements, trailing⟩, us, helements, hresult⟩ := bind_apply_eq_ok.1 hlist
  have hunstarred := isUnstarred_tupleOf trailing (isUnstarred_of_commaListTrailing helements)
  cases hresult
  obtain ⟨units, us, -, hend⟩ := bind_apply_eq_ok.1 hend
  obtain ⟨u, vs, -, hend⟩ := bind_apply_eq_ok.1 hend
  cases hend
  exact hunstarred

/-- The statement of an entity calls `attach` with two arguments, of which the reference is the
first. -/
theorem exists_attachCall_of_entityStatements {entity : Entity} {statements : List Stmt}
    (h : entityStatements entity = .ok statements) : ∃ target metadata,
      parseReference entity.reference = .ok target ∧
      (encodeMapping entity.metadata).outcome = .ok metadata ∧
      statements = (encodeMapping entity.metadata).hoisted ++
        [.expr (.call (.name "attach") [target, metadata] [])] := by
  obtain ⟨target, htarget, h⟩ := bind_eq_ok.1 h
  obtain ⟨metadata, hmetadata, h⟩ := bind_eq_ok.1 h
  cases h
  exact ⟨target, metadata, htarget, hmetadata, rfl⟩

/-- Deferred fields hold the same expressions as plain references, on every line.  The statement of
an entity attaches its metadata to one expression, which is no unpacking if the reference is
plain. -/
theorem plainReference_iff (h : IsReferenceLine s) :
    (∀ e, parseDeferred s = .ok e ↔ IsPlainReference s ∧ parseReference s = .ok e) ∧
    ∀ entity statements, entity.reference = s → entityStatements entity = .ok statements →
      ∃ target metadata, parseReference s = .ok target ∧
        (encodeMapping entity.metadata).outcome = .ok metadata ∧
        statements = (encodeMapping entity.metadata).hoisted ++
          [.expr (.call (.name "attach") [target, metadata] [])] ∧
        (IsPlainReference s → target.isUnstarred = true) := by
  refine ⟨fun e => ⟨parseReference_of_parseDeferred h, fun ⟨hplain, hread⟩ =>
    parseDeferred_of_parseReference h hplain hread⟩, ?_⟩
  rintro entity statements rfl hstatements
  obtain ⟨target, metadata, htarget, hmetadata, rfl⟩ := exists_attachCall_of_entityStatements hstatements
  exact ⟨target, metadata, htarget, hmetadata, rfl,
    fun hplain => isUnstarred_of_parseDeferred (parseDeferred_of_parseReference h hplain htarget)⟩

/-- A reference with a call and an index, which starts like a `match` statement. -/
def calledItem : Text :=
  "match (x)[0]"

theorem plainReference_calledItem :
    IsReferenceLine calledItem ∧ ∃ e, parseDeferred calledItem = .ok e ∧ parseReference calledItem = .ok e := by
  have hline : IsReferenceLine calledItem := ⟨by decide, by decide⟩
  obtain ⟨e, hread⟩ : ∃ e, parseDeferred calledItem = .ok e := isOk_iff.1 (by decide +kernel)
  exact ⟨hline, e, hread, (((plainReference_iff hline).1 e).1 hread).2⟩

/-- Whether an expression unpacks what a name stands for. -/
def unpacks (name : String) : Expr → Bool
  | .starred (.name other) => other == name
  | _ => false

theorem eq_starred_of_unpacks {name : String} (h : unpacks name e = true) : e = .starred (.name name) := by
  unfold unpacks at h
  split at h
  · rw [beq_iff_eq.1 h]
  · cases h

/-- A starred expression is a reference, and its statement unpacks it. -/
theorem entityStatements_starredReference :
    IsReferenceLine "*a" ∧ parseReference "*a" = .ok (.starred (.name "a")) ∧
      parseDeferred "*a" = .error (.diagnostic (.reference .grammar "*a")) ∧
      entityStatements ⟨"*a", 1, []⟩ =
        .ok [.expr (.call (.name "attach") [.starred (.name "a"), .dict []] [])] := by
  obtain ⟨e, hread⟩ : ∃ e, parseReference "*a" = .ok e := isOk_iff.1 (by decide +kernel)
  have hunpacks : (parseReference "*a").toOption.any (unpacks "a") = true := by decide +kernel
  rw [hread] at hunpacks
  obtain rfl := eq_starred_of_unpacks hunpacks
  have hgrammar : (parseExpression (Text.trim "*a")).map (fun _ => ()) = .error .grammar := by
    decide +kernel
  have hdeferred : parseDeferred "*a" = .error (.diagnostic (.reference .grammar "*a")) :=
    mapError_eq_error.2 ⟨.grammar, map_eq_error.1 hgrammar, rfl⟩
  refine ⟨⟨by decide, by decide⟩, hread, hdeferred, ?_⟩
  rw [entityStatements, hread]
  rfl

end AnnotatedMarkdown.Generation
