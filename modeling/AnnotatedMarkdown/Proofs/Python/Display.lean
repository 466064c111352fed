import AnnotatedMarkdown.Proofs.Python.Parsing
import AnnotatedMarkdown.Proofs.Python.StringLiteral

/-!
# Parsing of displays

The lexemes of a literal expression and what the parser makes of them.

* `IsElement` says that the parser reads an expression from lexemes that stand in front of
  the end of an element, with as many levels of the grammar as there are lexemes.
* `isElement_bool`, `isElement_numeral`, `isElement_negative` and `isElement_string` are the
  expressions without elements of their own.
* `isElement_list` and `isElement_dict` are the displays.  Both repeat a parser after
  commas, which `repeats_afterCommas` follows.
-/

namespace AnnotatedMarkdown.Python

open AnnotatedMarkdown.Python.Parser

/-- Lexemes that stand on one line. -/
def onLine (line : Nat) (lexemes : List Lexeme) : List Token :=
  lexemes.map fun x => ⟨x, line⟩

theorem onLine_cons (line : Nat) (x : Lexeme) (lexemes : List Lexeme) :
    onLine line (x :: lexemes) = ⟨x, line⟩ :: onLine line lexemes :=
  rfl

/-- Lexemes from which the parser reads an expression in front of the end of an element. -/
structure IsElement (lexemes : List Lexeme) (e : Expr) : Prop where
  start : ∃ x more, lexemes = x :: more ∧ startsElement x = true
  parsed : ∀ (n line : Nat) (rest : List Token), lexemes.length ≤ n → EndsElement rest →
    (Grammar.level latestVersion true n).expressionRule (onLine line lexemes ++ rest) = .ok (e, rest)

/-! ## Constants -/

/-- A lexeme that is an atom of its own is an element. -/
theorem isElement_of_atom {x : Lexeme} {e : Expr} (hstart : startsElement x = true)
    (hsign : x ≠ .op .minus)
    (hatom : ∀ (g : Grammar) (line : Nat) (rest : List Token), EndsElement rest →
      g.atom (⟨x, line⟩ :: rest) = .ok (e, rest)) : IsElement [x] e where
  start := ⟨x, [], rfl, hstart⟩
  parsed _ line rest _ hrest :=
    expressionRule_of_factorRule (t := ⟨x, line⟩) hstart
      (factorRule_of_atom (t := ⟨x, line⟩) hstart hsign (hatom _ line rest hrest) hrest) hrest

theorem isElement_bool (b : Bool) :
    IsElement [.word (if b then .true else .false)] (.constant (if b then .true else .false)) := by
  cases b <;> exact isElement_of_atom rfl (by simp) fun g line rest hrest => rfl

/-- The parser reads the constant of a numeral. -/
theorem number_of_isNumeral {value : Constant} {cs : List Char} (h : IsNumeral value cs)
    (g : Grammar) (line : Nat) (rest : List Token) :
    g.number (⟨.number cs, line⟩ :: rest) = .ok (value, rest) := by
  simp [Grammar.number, bind, peek, advance, h.noLowLine, h.constant, pure]

theorem atom_of_isNumeral {value : Constant} {cs : List Char} (h : IsNumeral value cs)
    (g : Grammar) (line : Nat) (rest : List Token) :
    g.atom (⟨.number cs, line⟩ :: rest) = .ok (.constant value, rest) := by
  have hnumber := number_of_isNumeral h g line rest
  simp [Grammar.atom, bind, peek, hnumber, pure]

theorem isElement_numeral {value : Constant} {cs : List Char} (h : IsNumeral value cs) :
    IsElement [.number cs] (.constant value) :=
  isElement_of_atom rfl (by simp) fun g line rest _ => atom_of_isNumeral h g line rest

/-- A numeral after a minus sign is an element: the grammar has a level for the operand. -/
theorem isElement_negative {value : Constant} {cs : List Char} (h : IsNumeral value cs) :
    IsElement [.op .minus, .number cs] (.unary .minus (.constant value)) where
  start := ⟨.op .minus, _, rfl, rfl⟩
  parsed n line rest hn hrest := by
    obtain ⟨n, rfl⟩ := Nat.exists_eq_add_of_lt (Nat.lt_of_lt_of_le (by decide : 0 < 2) hn)
    rw [Nat.zero_add]
    have hoperand : (Grammar.level latestVersion true n).factorRule (⟨.number cs, line⟩ :: rest) =
        .ok (.constant value, rest) :=
      factorRule_of_atom (t := ⟨.number cs, line⟩) rfl (by simp) (atom_of_isNumeral h _ line rest)
        hrest
    refine expressionRule_of_factorRule (t := ⟨.op .minus, line⟩) rfl ?_ hrest
    change ((Grammar.level latestVersion true n).factorRule >>= fun operand =>
      pure (Expr.unary .minus operand)) (⟨.number cs, line⟩ :: rest) = _
    rw [bind_of_ok hoperand]
    rfl

theorem isElement_string {t : Text} {spelling : List Char} (h : IsSpelling t spelling) :
    IsElement [.string spelling] (.constant (.string t false)) := by
  refine isElement_of_atom rfl (by simp) fun g line rest hrest => ?_
  have hstop : Grammar.stringSpelling rest = .error .mismatch := by
    obtain ⟨⟨x, line⟩, more, rfl, hx⟩ := hrest
    rcases endsElement_cases hx with rfl | rfl | rfl | rfl | rfl <;> rfl
  have hone : many1 Grammar.stringSpelling (⟨.string spelling, line⟩ :: rest) =
      .ok ([spelling], rest) := by
    rw [many1, bind_of_ok (show Grammar.stringSpelling _ = .ok (spelling, rest) from rfl),
      bind_many_of_mismatch hstop]
    rfl
  change g.strings _ = _
  rw [Grammar.strings, bind_of_ok hone]
  simp only [h.value g]
  rfl

/-! ## Elements after commas -/

/-- Lexemes with commas between them. -/
def commaJoined : List (List Lexeme) → List Lexeme
  | [] => []
  | piece :: pieces => piece ++ pieces.flatMap (.op .comma :: ·)

/-- Items of a display after its first one: a comma and an item are read until another mark
follows. -/
theorem repeats_afterCommas {α : Type} {p : Parser α} {line : Nat} {items : List (List Lexeme × α)}
    (hitems : ∀ i ∈ items, ∀ rest, EndsElement rest →
      p (onLine line i.1 ++ rest) = .ok (i.2, rest))
    {t : Token} (ht : endsElement t.lexeme = true) (hcomma : t.lexeme ≠ .op .comma)
    (rest : List Token) :
    Repeats (do op .comma; p)
      (onLine line ((items.map Prod.fst).flatMap (.op .comma :: ·)) ++ t :: rest)
      (items.map Prod.snd) (t :: rest) := by
  induction items with
  | nil =>
    refine .stop (bind_of_mismatch ?_)
    simp only [op, expect, List.map_nil, List.flatMap_nil, onLine, List.nil_append, if_neg hcomma]
  | cons i items ih =>
    have hmore := ih fun j hj => hitems j (List.mem_cons_of_mem i hj)
    have hends : EndsElement
        (onLine line ((items.map Prod.fst).flatMap (.op .comma :: ·)) ++ t :: rest) := by
      cases items with
      | nil => exact endsElement_cons ht rest
      | cons j items => exact endsElement_cons (t := ⟨.op .comma, line⟩) rfl _
    have hread := hitems i List.mem_cons_self _ hends
    have hshorter : (onLine line ((items.map Prod.fst).flatMap (.op .comma :: ·)) ++ t :: rest).length <
        (onLine line (((i :: items).map Prod.fst).flatMap (.op .comma :: ·)) ++ t :: rest).length := by
      simp only [onLine, List.map_cons, List.flatMap_cons, List.length_append, List.length_map,
        List.length_cons]
      omega
    refine .step ?_ hshorter hmore
    · have hjoin : onLine line (((i :: items).map Prod.fst).flatMap (.op .comma :: ·)) ++ t :: rest =
          ⟨.op .comma, line⟩ :: (onLine line i.1 ++
            (onLine line ((items.map Prod.fst).flatMap (.op .comma :: ·)) ++ t :: rest)) := by
        simp [onLine]
      rw [hjoin, op, bind_of_ok (expect_self _ _ _), hread]

/-! ## Lists -/

theorem isElement_nil_list : IsElement [.op .lSqb, .op .rSqb] (.list []) where
  start := ⟨.op .lSqb, _, rfl, rfl⟩
  parsed n line rest _ hrest :=
    expressionRule_of_factorRule (t := ⟨.op .lSqb, line⟩) rfl
      (factorRule_of_atom (t := ⟨.op .lSqb, line⟩) rfl (by simp) rfl hrest) hrest

/-- An element is an item of a list display. -/
theorem starNamedExpression_of_isElement (line : Nat) {lexemes : List Lexeme} {e : Expr}
    (h : IsElement lexemes e) {n : Nat} (hn : lexemes.length ≤ n) {rest : List Token}
    (hrest : EndsElement rest) :
    (Grammar.level latestVersion true (n + 1)).starNamedExpression (onLine line lexemes ++ rest) =
      .ok (e, rest) := by
  have hparsed := h.parsed n line rest hn hrest
  obtain ⟨x, more, rfl, hx⟩ := h.start
  rw [onLine_cons, List.cons_append] at hparsed ⊢
  rw [Grammar.starNamedExpression,
    bind_of_ok (sees_of_startsElement (t := ⟨x, line⟩) (x := .op .star) hx rfl _)]
  simp only [Bool.false_eq_true, if_false]
  rw [Grammar.namedExpression, bind_of_ok (show peek _ = .ok (some x, _) from rfl),
    bind_of_ok (show peekSecond _ = .ok (_, _) from rfl)]
  cases x with
  | name spelling => exact absurd hx Bool.false_ne_true
  | _ => exact hparsed

theorem seesClause_of_endsElement {rest : List Token} (hrest : EndsElement rest) :
    Grammar.seesClause rest = .ok (false, rest) := by
  obtain ⟨⟨x, line⟩, more, rfl, hx⟩ := hrest
  rcases endsElement_cases hx with rfl | rfl | rfl | rfl | rfl <;> rfl

theorem commaJoined_cons (piece : List Lexeme) (pieces : List (List Lexeme)) :
    commaJoined (piece :: pieces) = piece ++ pieces.flatMap (.op .comma :: ·) :=
  rfl

/-- A piece is at most as long as the pieces with commas between them. -/
theorem length_le_commaJoined {piece : List Lexeme} {pieces : List (List Lexeme)}
    (h : piece ∈ pieces) : piece.length ≤ (commaJoined pieces).length := by
  obtain _ | ⟨first, pieces⟩ := pieces
  · simp at h
  rw [commaJoined_cons, List.length_append]
  rcases List.mem_cons.1 h with rfl | h
  · exact Nat.le_add_right _ _
  · have hsub : piece.length ≤ (pieces.flatMap (.op .comma :: ·)).length := by
      obtain ⟨before, after, rfl⟩ := List.append_of_mem h
      simp only [List.flatMap_append, List.flatMap_cons, List.length_append, List.length_cons]
      omega
    omega

/-- A list display of at least one element is an element. -/
theorem isElement_cons_list {first : List Lexeme × Expr} {items : List (List Lexeme × Expr)}
    (hall : ∀ i ∈ first :: items, IsElement i.1 i.2) :
    IsElement (.op .lSqb :: (commaJoined ((first :: items).map Prod.fst) ++ [.op .rSqb]))
      (.list ((first :: items).map Prod.snd)) where
  start := ⟨.op .lSqb, _, rfl, rfl⟩
  parsed n line rest hn hrest := by
    rw [List.length_cons, List.length_append] at hn
    obtain ⟨n, rfl⟩ := Nat.exists_eq_add_of_lt (Nat.lt_of_lt_of_le (Nat.succ_pos _) hn)
    rw [Nat.zero_add]
    have hlength : ∀ i ∈ first :: items, i.1.length ≤ n := by
      intro i hi
      have hle := length_le_commaJoined (List.mem_map_of_mem (f := Prod.fst) hi)
      omega
    -- The items after the first one, up to the closing bracket.
    let closed : List Token := ⟨.op .rSqb, line⟩ :: rest
    let others : List Token := onLine line ((items.map Prod.fst).flatMap (.op .comma :: ·)) ++ closed
    have hrepeats : Repeats _ others (items.map Prod.snd) closed :=
      repeats_afterCommas (p := (Grammar.level latestVersion true (n + 1)).starNamedExpression)
        (fun i hi _ hends => starNamedExpression_of_isElement line (hall i (List.mem_cons_of_mem _ hi))
          (hlength i (List.mem_cons_of_mem _ hi)) hends) rfl (by simp) rest
    have hothers : EndsElement others := by
      cases items with
      | nil => exact endsElement_cons (t := ⟨.op .rSqb, line⟩) rfl rest
      | cons i items => exact endsElement_cons (t := ⟨.op .comma, line⟩) rfl _
    have hfirst := starNamedExpression_of_isElement line (hall first List.mem_cons_self)
      (hlength first List.mem_cons_self) hothers
    have hafter : (Grammar.level latestVersion true (n + 1)).afterBracket
        (onLine line first.1 ++ others) = .ok (.list ((first :: items).map Prod.snd), rest) := by
      obtain ⟨x, more, hx, hstart⟩ := (hall first List.mem_cons_self).start
      rw [hx, onLine_cons, List.cons_append] at hfirst ⊢
      rw [Grammar.afterBracket,
        bind_of_ok (accept_of_startsElement (t := ⟨x, line⟩) (x := .op .rSqb) hstart rfl _)]
      simp only [Bool.false_eq_true, if_false]
      rw [bind_of_ok (sees_of_startsElement (t := ⟨x, line⟩) (x := .op .star) hstart rfl _),
        bind_of_ok hfirst]
      rw [bind_of_ok (seesClause_of_endsElement hothers)]
      simp only [Bool.and_false, Bool.false_eq_true, if_false]
      rw [bind_of_ok hrepeats.many, bind_of_ok (accept_of_ne (by simp) line rest), op,
        bind_of_ok (expect_self _ line rest)]
      rfl
    have hjoin : onLine line (.op .lSqb ::
        (commaJoined ((first :: items).map Prod.fst) ++ [.op .rSqb])) ++ rest =
          ⟨.op .lSqb, line⟩ :: (onLine line first.1 ++ others) := by
      simp [onLine, commaJoined, others, closed]
    rw [hjoin]
    exact expressionRule_of_factorRule (t := ⟨.op .lSqb, line⟩) rfl
      (factorRule_of_atom (t := ⟨.op .lSqb, line⟩) rfl (by simp) hafter hrest) hrest

/-- A list display of elements is an element. -/
theorem isElement_list {items : List (List Lexeme × Expr)} (hall : ∀ i ∈ items, IsElement i.1 i.2) :
    IsElement (.op .lSqb :: (commaJoined (items.map Prod.fst) ++ [.op .rSqb]))
      (.list (items.map Prod.snd)) := by
  cases items with
  | nil => exact isElement_nil_list
  | cons first items => exact isElement_cons_list hall

/-! ## Mappings -/

theorem isElement_nil_dict : IsElement [.op .lBrace, .op .rBrace] (.dict []) where
  start := ⟨.op .lBrace, _, rfl, rfl⟩
  parsed n line rest _ hrest :=
    expressionRule_of_factorRule (t := ⟨.op .lBrace, line⟩) rfl
      (factorRule_of_atom (t := ⟨.op .lBrace, line⟩) rfl (by simp) rfl hrest) hrest

/-- The lexemes of a pair of a mapping: a key, a colon and a value. -/
def IsPair (lexemes : List Lexeme) (item : DictItem) : Prop :=
  ∃ keys key values value, IsElement keys key ∧ IsElement values value ∧
    lexemes = keys ++ .op .colon :: values ∧ item = .pair key value

/-- The tokens of a pair are those of its key and, after a colon, those of its value. -/
theorem onLine_pair (line : Nat) (keys values : List Lexeme) (rest : List Token) :
    onLine line (keys ++ .op .colon :: values) ++ rest =
      onLine line keys ++ ⟨.op .colon, line⟩ :: (onLine line values ++ rest) := by
  simp [onLine]

/-- A pair is an item of a mapping. -/
theorem dictItem_of_isPair {lexemes : List Lexeme} {item : DictItem} (h : IsPair lexemes item)
    {n line : Nat} (hn : lexemes.length ≤ n) {rest : List Token} (hrest : EndsElement rest) :
    (Grammar.level latestVersion true (n + 1)).dictItem (onLine line lexemes ++ rest) =
      .ok (item, rest) := by
  obtain ⟨keys, key, values, value, hkey, hvalue, rfl, rfl⟩ := h
  rw [List.length_append, List.length_cons] at hn
  have hread := hkey.parsed n line (⟨.op .colon, line⟩ :: (onLine line values ++ rest)) (by omega)
    (endsElement_cons rfl _)
  have hvalueRead := hvalue.parsed n line rest (by omega) hrest
  obtain ⟨x, more, rfl, hx⟩ := hkey.start
  rw [onLine_pair]
  rw [onLine_cons, List.cons_append] at hread ⊢
  rw [Grammar.dictItem,
    bind_of_ok (accept_of_startsElement (t := ⟨x, line⟩) (x := .op .doubleStar) hx rfl _)]
  simp only [Bool.false_eq_true, if_false]
  change ((Grammar.level latestVersion true n).expressionRule >>= _) _ = _
  rw [bind_of_ok hread, op, bind_of_ok (expect_self _ line _)]
  change ((Grammar.level latestVersion true n).expressionRule >>= _) _ = _
  rw [bind_of_ok hvalueRead]
  rfl

/-- The first pair of a mapping is told from an element of a set by its colon. -/
theorem afterBrace_of_isPair {lexemes : List Lexeme} {item : DictItem} (h : IsPair lexemes item)
    {n line : Nat} (hn : lexemes.length ≤ n) {rest : List Token} (hrest : EndsElement rest) :
    (Grammar.level latestVersion true (n + 1)).afterBrace (onLine line lexemes ++ rest) =
      (Grammar.level latestVersion true (n + 1)).dictRest item rest := by
  obtain ⟨keys, key, values, value, hkey, hvalue, rfl, rfl⟩ := h
  rw [List.length_append, List.length_cons] at hn
  have hread := hkey.parsed n line (⟨.op .colon, line⟩ :: (onLine line values ++ rest)) (by omega)
    (endsElement_cons rfl _)
  have hvalueRead := hvalue.parsed n line rest (by omega) hrest
  obtain ⟨x, more, rfl, hx⟩ := hkey.start
  rw [onLine_pair]
  rw [onLine_cons, List.cons_append] at hread ⊢
  rw [Grammar.afterBrace,
    bind_of_ok (accept_of_startsElement (t := ⟨x, line⟩) (x := .op .rBrace) hx rfl _)]
  simp only [Bool.false_eq_true, if_false]
  rw [bind_of_ok (show peek _ = .ok (some x, _) from rfl),
    bind_of_ok (show peekSecond _ = .ok (_, _) from rfl)]
  -- What starts an element starts neither an unpacked mapping nor a starred element.
  rcases startsElement_cases hx with rfl | rfl | ⟨cs, rfl⟩ | ⟨cs, rfl⟩ | rfl | rfl | rfl
  all_goals
    change ((Grammar.level latestVersion true n).expressionRule >>= _) _ = _
    rw [bind_of_ok hread, bind_of_ok (accept_self _ line _)]
    simp only [if_true]
    change ((Grammar.level latestVersion true n).expressionRule >>= _) _ = _
    rw [bind_of_ok hvalueRead, bind_of_ok (seesClause_of_endsElement hrest)]
    rfl

/-- A mapping of at least one pair is an element. -/
theorem isElement_cons_dict {first : List Lexeme × DictItem} {items : List (List Lexeme × DictItem)}
    (hall : ∀ i ∈ first :: items, IsPair i.1 i.2) :
    IsElement (.op .lBrace :: (commaJoined ((first :: items).map Prod.fst) ++ [.op .rBrace]))
      (.dict ((first :: items).map Prod.snd)) where
  start := ⟨.op .lBrace, _, rfl, rfl⟩
  parsed n line rest hn hrest := by
    rw [List.length_cons, List.length_append] at hn
    obtain ⟨n, rfl⟩ := Nat.exists_eq_add_of_lt (Nat.lt_of_lt_of_le (Nat.succ_pos _) hn)
    rw [Nat.zero_add]
    have hlength : ∀ i ∈ first :: items, i.1.length ≤ n := by
      intro i hi
      have hle := length_le_commaJoined (List.mem_map_of_mem (f := Prod.fst) hi)
      omega
    let closed : List Token := ⟨.op .rBrace, line⟩ :: rest
    let others : List Token := onLine line ((items.map Prod.fst).flatMap (.op .comma :: ·)) ++ closed
    have hrepeats : Repeats _ others (items.map Prod.snd) closed :=
      repeats_afterCommas (p := (Grammar.level latestVersion true (n + 1)).dictItem)
        (fun i hi _ hends => dictItem_of_isPair (hall i (List.mem_cons_of_mem _ hi))
          (hlength i (List.mem_cons_of_mem _ hi)) hends) rfl (by simp) rest
    have hothers : EndsElement others := by
      cases items with
      | nil => exact endsElement_cons (t := ⟨.op .rBrace, line⟩) rfl rest
      | cons i items => exact endsElement_cons (t := ⟨.op .comma, line⟩) rfl _
    have hafter : (Grammar.level latestVersion true (n + 1)).afterBrace
        (onLine line first.1 ++ others) = .ok (.dict ((first :: items).map Prod.snd), rest) := by
      rw [afterBrace_of_isPair (hall first List.mem_cons_self) (hlength first List.mem_cons_self)
        hothers, Grammar.dictRest, bind_of_ok hrepeats.many,
        bind_of_ok (accept_of_ne (by simp) line rest), op, bind_of_ok (expect_self _ line rest)]
      rfl
    have hjoin : onLine line (.op .lBrace ::
        (commaJoined ((first :: items).map Prod.fst) ++ [.op .rBrace])) ++ rest =
          ⟨.op .lBrace, line⟩ :: (onLine line first.1 ++ others) := by
      simp [onLine, commaJoined, others, closed]
    rw [hjoin]
    exact expressionRule_of_factorRule (t := ⟨.op .lBrace, line⟩) rfl
      (factorRule_of_atom (t := ⟨.op .lBrace, line⟩) rfl (by simp) hafter hrest) hrest

/-- A mapping of pairs is an element. -/
theorem isElement_dict {items : List (List Lexeme × DictItem)} (hall : ∀ i ∈ items, IsPair i.1 i.2) :
    IsElement (.op .lBrace :: (commaJoined (items.map Prod.fst) ++ [.op .rBrace]))
      (.dict (items.map Prod.snd)) := by
  cases items with
  | nil => exact isElement_nil_dict
  | cons first items => exact isElement_cons_dict hall

end AnnotatedMarkdown.Python
