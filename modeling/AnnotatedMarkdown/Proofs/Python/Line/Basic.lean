import AnnotatedMarkdown.Proofs.Python.Parsing

/-!
# Parsers within a line

A line break, a semicolon or the end of the text ends a simple statement.  The parsers of
expressions and of what simple statements are made of do not look beyond such an end: they read
the same in front of any other one.

* `SameLine` holds of the tokens of two lines with the same lexemes, which may be numbered
  differently.
* `IgnoresEnd` says that a parser which looks ahead treats all ends alike.
* `ReadsLine` compares what a parser makes of two such lines in front of any ends.  Its lemmas
  are one for each combinator.
* `Local` and `Consuming` hold of parsers whose part of the line does not end in a colon;
  a consuming parser takes a part that is not empty.  They are classes, so that the instances
  follow the shape of a rule.
* `LocalAt` and `ConsumingAt` are the same in front of known lexemes.  With them
  `local_peek` and `local_peekPair` take a rule apart that looks ahead.
-/

namespace AnnotatedMarkdown.Python

/-! ## Lines -/

/-- Whether a lexeme stands within a simple statement, or in a line before a block. -/
@[reducible] def Lexeme.isInner : Lexeme → Bool
  | .newline | .endMarker | .indent | .dedent | .op .semi => false
  | _ => true

/-- Whether a lexeme stands within a simple statement, and is no colon. -/
@[reducible] def Lexeme.isPlain : Lexeme → Bool
  | .newline | .endMarker | .indent | .dedent | .op .semi | .op .colon => false
  | _ => true

/-- Tokens with given lexemes, which stand within a line, in two numberings. -/
inductive SameLine : List Lexeme → List Token → List Token → Prop where
  | nil : SameLine [] [] []
  | cons {x : Lexeme} {xs : List Lexeme} {ts ts' : List Token} (hx : x.isInner = true) (n n' : Nat)
      (h : SameLine xs ts ts') : SameLine (x :: xs) (⟨x, n⟩ :: ts) (⟨x, n'⟩ :: ts')

/-- Tokens that start with none from within a line. -/
inductive AtEnd : List Token → Prop where
  | nil : AtEnd []
  | intro {x : Lexeme} (hx : x.isInner = false) (n : Nat) (ts : List Token) : AtEnd (⟨x, n⟩ :: ts)

theorem Lexeme.cases_of_not_isInner {x : Lexeme} (hx : x.isInner = false) :
    x = .newline ∨ x = .endMarker ∨ x = .indent ∨ x = .dedent ∨ x = .op .semi := by
  cases x with
  | op o => cases o <;> simp_all [Lexeme.isInner]
  | newline | endMarker | indent | dedent => simp
  | name | word | number | string => cases hx

theorem Lexeme.isInner_of_isPlain {x : Lexeme} (hx : x.isPlain = true) :
    x.isInner = true ∧ x ≠ .op .colon := by
  cases x with
  | op o => cases o <;> simp_all [Lexeme.isPlain, Lexeme.isInner]
  | newline | endMarker | indent | dedent => cases hx
  | name | word | number | string => exact ⟨rfl, nofun⟩

namespace SameLine

variable {xs : List Lexeme} {ts ts' : List Token}

theorem length_eq (h : SameLine xs ts ts') : ts.length = xs.length ∧ ts'.length = xs.length := by
  induction h with
  | nil => exact ⟨rfl, rfl⟩
  | cons _ _ _ _ ih => simp [ih]

theorem symm (h : SameLine xs ts ts') : SameLine xs ts' ts := by
  induction h with
  | nil => exact .nil
  | cons hx n n' _ ih => exact .cons hx n' n ih

/-- A line that starts with a lexeme from within a line. -/
theorem exists_cons {tail us : List Token} {x : Lexeme} {n : Nat} (h : SameLine xs ts ts')
    (htail : AtEnd tail) (hx : x.isInner = true) (heq : ts ++ tail = ⟨x, n⟩ :: us) :
    ∃ ys vs vs', xs = x :: ys ∧ SameLine ys vs vs' ∧ us = vs ++ tail := by
  cases h with
  | nil =>
    rw [List.nil_append] at heq
    subst heq
    cases htail with
    | intro hend => exact absurd (hend.symm.trans hx) Bool.false_ne_true
  | cons _ _ _ hrest =>
    obtain ⟨hhead, rfl⟩ := List.cons.inj heq
    cases hhead
    exact ⟨_, _, _, rfl, hrest, rfl⟩

end SameLine

/-! ## Reading lines -/

/-- Outcomes for two lines in front of their tails: both fail in the same way, or both yield the
same after a part of the lines with a property. -/
def Outcomes {α : Type} (P : List Lexeme → Prop) (xs : List Lexeme) (tail tail' : List Token)
    (r r' : Except Refusal (α × List Token)) : Prop :=
  (∃ e, r = .error e ∧ r' = .error e) ∨
    ∃ a taken rest us us', xs = taken ++ rest ∧ P taken ∧ SameLine rest us us' ∧
      r = .ok (a, us ++ tail) ∧ r' = .ok (a, us' ++ tail')

theorem Outcomes.mono {α : Type} {P Q : List Lexeme → Prop} {xs : List Lexeme}
    {tail tail' : List Token} {r r' : Except Refusal (α × List Token)}
    (h : Outcomes P xs tail tail' r r') (hPQ : ∀ taken, P taken → Q taken) :
    Outcomes Q xs tail tail' r r' := by
  rcases h with h | ⟨a, taken, rest, us, us', hxs, htaken, h⟩
  · exact Or.inl h
  · exact Or.inr ⟨a, taken, rest, us, us', hxs, hPQ taken htaken, h⟩

section

variable {α : Type} {P : List Lexeme → Prop} {xs : List Lexeme} {tail tail' rest : List Token}
  {r r' : Except Refusal (α × List Token)} {a : α}

/-- What is yielded for a line is yielded in front of the other end, too. -/
theorem Outcomes.of_ok (h : Outcomes P xs tail tail' r r') (hr : r = .ok (a, rest)) :
    ∃ taken left us us', xs = taken ++ left ∧ P taken ∧ SameLine left us us' ∧
      rest = us ++ tail ∧ r' = .ok (a, us' ++ tail') := by
  rcases h with ⟨e, herror, -⟩ | ⟨b, taken, left, us, us', hxs, htaken, hleft, hread, hread'⟩
  · rw [hr] at herror
    cases herror
  · obtain ⟨rfl, rfl⟩ := Prod.mk.inj (Except.ok.inj (hr.symm.trans hread))
    exact ⟨taken, left, us, us', hxs, htaken, hleft, rfl, hread'⟩

/-- A parser that stops at the end of a line has taken the whole line. -/
theorem Outcomes.of_ok_tail (h : Outcomes P xs tail tail' r r') (hr : r = .ok (a, tail)) :
    P xs ∧ r' = .ok (a, tail') := by
  obtain ⟨taken, left, us, us', rfl, htaken, hleft, htail, hread⟩ := h.of_ok hr
  obtain rfl := List.self_eq_append_left.1 htail
  cases hleft
  rw [List.append_nil]
  exact ⟨htaken, hread⟩

end

namespace Parser

/-- A parser reads lines that start with given lexemes the same in front of all ends, and takes
a part of them with a property. -/
def ReadsLine {α : Type} (P : List Lexeme → Prop) (front : List Lexeme) (p : Parser α) : Prop :=
  ∀ ⦃xs : List Lexeme⦄ ⦃ts ts' tail tail' : List Token⦄, SameLine (front ++ xs) ts ts' →
    AtEnd tail → AtEnd tail' →
      Outcomes P (front ++ xs) tail tail' (p (ts ++ tail)) (p (ts' ++ tail'))

section

variable {α β : Type} {P Q R : List Lexeme → Prop} {front : List Lexeme} {p q : Parser α}

theorem ReadsLine.mono (h : ReadsLine P front p) (hPQ : ∀ taken, P taken → Q taken) :
    ReadsLine Q front p :=
  fun _ _ _ _ _ hline htail htail' => (h hline htail htail').mono hPQ

theorem ReadsLine.anywhere (h : ReadsLine P [] p) : ReadsLine P front p :=
  fun _ _ _ _ _ hline htail htail' => h hline htail htail'

theorem readsLine_pure (a : α) (hP : P []) : ReadsLine P front (pure a : Parser α) :=
  fun _ _ _ _ _ hline _ _ => Or.inr ⟨a, [], _, _, _, rfl, hP, hline, rfl, rfl⟩

theorem readsLine_error (e : Refusal) : ReadsLine P front (fun _ => .error e : Parser α) :=
  fun _ _ _ _ _ _ _ _ => Or.inl ⟨e, rfl, rfl⟩

theorem readsLine_bind {f : α → Parser β} (hp : ReadsLine P front p)
    (hf : ∀ a, ReadsLine Q [] (f a)) (hR : ∀ {s t}, P s → Q t → R (s ++ t)) :
    ReadsLine R front (p >>= f) := by
  intro xs ts ts' tail tail' hline htail htail'
  rcases hp hline htail htail' with ⟨e, h, h'⟩ | ⟨a, taken, rest, us, us', hxs, htaken, hrest, h, h'⟩
  · exact Or.inl ⟨e, by simp only [bind, h], by simp only [bind, h']⟩
  · rw [bind_of_ok h, bind_of_ok h']
    rcases hf a hrest htail htail' with herror | ⟨b, more, last, vs, vs', hrest', hmore, hlast, hb⟩
    · exact Or.inl herror
    · refine Or.inr ⟨b, taken ++ more, last, vs, vs', ?_, hR htaken hmore, hlast, hb⟩
      rw [hxs, List.append_assoc, ← hrest']
      rfl

theorem readsLine_ite {c : Prop} [Decidable c] (hp : ReadsLine P front p)
    (hq : ReadsLine P front q) : ReadsLine P front (if c then p else q) := by
  split
  · exact hp
  · exact hq

theorem readsLine_orElse {f : Unit → Parser α} (hp : ReadsLine P front p)
    (hf : ∀ u, ReadsLine P front (f u)) : ReadsLine P front (orElse p f) := by
  intro xs ts ts' tail tail' hline htail htail'
  unfold orElse
  rcases hp hline htail htail' with ⟨e, h, h'⟩ | ⟨a, taken, rest, us, us', hxs, htaken, hrest, h, h'⟩
  · rw [h, h']
    cases e with
    | mismatch => exact hf () hline htail htail'
    | refused => exact Or.inl ⟨.refused, rfl, rfl⟩
  · rw [h, h']
    exact Or.inr ⟨a, taken, rest, us, us', hxs, htaken, hrest, rfl, rfl⟩

/-- A parser that takes some of the line each time is repeated within the line. -/
theorem readsLine_many (hp : ReadsLine P [] p) (hP : ∀ {taken}, P taken → taken ≠ []) (hQ : Q [])
    (happend : ∀ {s t}, P s → Q t → Q (s ++ t)) : ReadsLine Q [] (many p) := by
  -- More repetitions are allowed than there are lexemes left, in either line.
  have hmany : ∀ (count : Nat) {xs : List Lexeme} {ts ts' tail tail' : List Token},
      xs.length < count → SameLine xs ts ts' → AtEnd tail → AtEnd tail' → ∀ times times', count ≤ times →
        count ≤ times' →
          Outcomes Q xs tail tail' (manyUpTo p times (ts ++ tail)) (manyUpTo p times' (ts' ++ tail')) := by
    intro count
    induction count with
    | zero => exact fun hcount => absurd hcount (Nat.not_lt_zero _)
    | succ count ih =>
      intro xs ts ts' tail tail' hcount hline htail htail' times times' htimes htimes'
      obtain ⟨times, rfl⟩ := Nat.exists_eq_succ_of_ne_zero (Nat.ne_zero_of_lt htimes)
      obtain ⟨times', rfl⟩ := Nat.exists_eq_succ_of_ne_zero (Nat.ne_zero_of_lt htimes')
      simp only [manyUpTo]
      rcases hp hline htail htail' with
        ⟨e, h, h'⟩ | ⟨a, taken, rest, us, us', hxs, htaken, hrest, h, h'⟩
      · rw [h, h']
        cases e with
        | mismatch => exact Or.inr ⟨[], [], xs, ts, ts', rfl, hQ, hline, rfl, rfl⟩
        | refused => exact Or.inl ⟨.refused, rfl, rfl⟩
      · have hlength : rest.length < count := by
          have htaken := List.length_pos_iff.2 (hP htaken)
          have hsum := congrArg List.length hxs
          simp only [List.nil_append, List.length_append] at hsum
          omega
        rw [h, h']
        dsimp only
        rcases ih hlength hrest htail htail' times times' (Nat.le_of_succ_le_succ htimes)
            (Nat.le_of_succ_le_succ htimes') with
          ⟨e, h, h'⟩ | ⟨as, more, last, vs, vs', hmore, htakenMore, hlast, h, h'⟩
        · rw [h, h']
          exact Or.inl ⟨e, rfl, rfl⟩
        · rw [h, h']
          refine Or.inr ⟨a :: as, taken ++ more, last, vs, vs', ?_, happend htaken htakenMore, hlast,
            rfl, rfl⟩
          rw [List.append_assoc, ← hmore]
          exact hxs
  intro xs ts ts' tail tail' hline htail htail'
  obtain ⟨hlength, hlength'⟩ := hline.length_eq
  refine hmany (xs.length + 1) (Nat.lt_succ_self _) hline htail htail' _ _ ?_ ?_
  · rw [List.length_append, hlength]
    exact Nat.succ_le_succ (Nat.le_add_right _ _)
  · rw [List.length_append, hlength']
    exact Nat.succ_le_succ (Nat.le_add_right _ _)

/-! ### Single lexemes -/

theorem readsLine_expect {x : Lexeme} (hx : x.isInner = true) (hP : P [x]) :
    ReadsLine P [] (expect x) := by
  intro xs ts ts' tail tail' hline htail htail'
  rw [List.nil_append] at *
  cases hline with
  | nil =>
    have hend : ∀ us, AtEnd us → expect x us = .error .mismatch := by
      rintro _ (_ | ⟨hy, n, us⟩)
      · rfl
      · refine if_neg ?_
        rintro rfl
        exact Bool.false_ne_true (hy.symm.trans hx)
    exact Or.inl ⟨.mismatch, hend _ htail, hend _ htail'⟩
  | @cons y xs ts ts' hy n n' hrest =>
    by_cases hxy : y = x
    · exact Or.inr ⟨(), [y], xs, ts, ts', rfl, hxy ▸ hP, hrest, if_pos hxy, if_pos hxy⟩
    · exact Or.inl ⟨.mismatch, if_neg hxy, if_neg hxy⟩

/-- A parser that takes one lexeme with a value. -/
theorem readsLine_one (value? : Lexeme → Option α)
    (hnil : p [] = .error .mismatch)
    (hp : ∀ x n ts, p (⟨x, n⟩ :: ts) =
      match value? x with
      | some a => .ok (a, ts)
      | none => .error .mismatch)
    (hend : ∀ x : Lexeme, x.isInner = false → value? x = none)
    (hP : ∀ x, (value? x).isSome = true → P [x]) : ReadsLine P [] p := by
  intro xs ts ts' tail tail' hline htail htail'
  rw [List.nil_append] at *
  cases hline with
  | nil =>
    have hmismatch : ∀ us, AtEnd us → p us = .error .mismatch := by
      rintro _ (_ | ⟨hy, n, us⟩)
      · exact hnil
      · rw [hp, hend _ hy]
    exact Or.inl ⟨.mismatch, hmismatch _ htail, hmismatch _ htail'⟩
  | @cons x xs ts ts' hx n n' hrest =>
    rw [List.cons_append, List.cons_append, hp, hp]
    cases hvalue : value? x with
    | none => exact Or.inl ⟨.mismatch, rfl, rfl⟩
    | some a => exact Or.inr ⟨a, [x], xs, ts, ts', rfl, hP x (by rw [hvalue]; rfl), hrest, rfl, rfl⟩

/-- A lexeme that may come next, and then decides how to go on. -/
theorem readsLine_accept_bind {x : Lexeme} {f : Bool → Parser β} (hx : x.isInner = true)
    (htrue : ReadsLine Q [] (f true)) (hfalse : ReadsLine P [] (f false))
    (hQP : ∀ {taken}, Q taken → P (x :: taken)) : ReadsLine P [] (accept x >>= f) := by
  intro xs ts ts' tail tail' hline htail htail'
  rw [List.nil_append] at *
  cases hline with
  | nil =>
    have hfirst : ∀ us, AtEnd us → (accept x >>= f) us = f false us := by
      rintro _ (_ | ⟨hy, n, us⟩)
      · rfl
      · refine bind_of_ok (accept_of_ne ?_ n us)
        rintro rfl
        exact Bool.false_ne_true (hy.symm.trans hx)
    have hread := hfalse .nil htail htail'
    rw [List.nil_append, List.nil_append] at *
    rw [hfirst _ htail, hfirst _ htail']
    exact hread
  | @cons y xs ts ts' hy n n' hrest =>
    rw [List.cons_append, List.cons_append]
    by_cases hxy : y = x
    · subst hxy
      rw [bind_of_ok (accept_self y n _), bind_of_ok (accept_self y n' _)]
      rcases htrue hrest htail htail' with herror | ⟨a, taken, rest, us, us', hxs, htaken, h⟩
      · exact Or.inl herror
      · exact Or.inr ⟨a, y :: taken, rest, us, us', congrArg (y :: ·) hxs, hQP htaken, h⟩
    · rw [bind_of_ok (accept_of_ne hxy n _), bind_of_ok (accept_of_ne hxy n' _)]
      exact hfalse (.cons hy n n' hrest) htail htail'

theorem readsLine_advance_bind {x : Lexeme} {f : Unit → Parser β} (hf : ReadsLine Q front (f ()))
    (hQP : ∀ {taken}, Q taken → P (x :: taken)) : ReadsLine P (x :: front) (advance >>= f) := by
  intro xs ts ts' tail tail' hline htail htail'
  cases hline with
  | @cons _ _ ts ts' hx n n' hrest =>
    rcases hf hrest htail htail' with herror | ⟨a, taken, rest, us, us', hxs, htaken, h⟩
    · exact Or.inl herror
    · exact Or.inr ⟨a, x :: taken, rest, us, us', congrArg (x :: ·) hxs, hQP htaken, h⟩

theorem readsLine_name_bind {spelling : List Char} {f : String → Parser β}
    (hf : ∀ a, ReadsLine Q front (f a)) (hQP : ∀ {taken}, Q taken → P (.name spelling :: taken)) :
    ReadsLine P (.name spelling :: front) (name >>= f) := by
  intro xs ts ts' tail tail' hline htail htail'
  cases hline with
  | @cons _ _ ts ts' hx n n' hrest =>
    rcases hf (identifier spelling) hrest htail htail' with
      herror | ⟨a, taken, rest, us, us', hxs, htaken, h⟩
    · exact Or.inl herror
    · exact Or.inr ⟨a, .name spelling :: taken, rest, us, us', congrArg (_ :: ·) hxs, hQP htaken, h⟩

/-! ### Looking ahead -/

/-- What a lookahead decides is the same in front of all ends as if there were nothing. -/
structure IgnoresEnd {γ : Type} (f : Option Lexeme → γ) : Prop where
  newline : f (some .newline) = f none
  endMarker : f (some .endMarker) = f none
  indent : f (some .indent) = f none
  dedent : f (some .dedent) = f none
  semi : f (some (.op .semi)) = f none

theorem IgnoresEnd.eq_none {γ : Type} {f : Option Lexeme → γ} (h : IgnoresEnd f) {x : Lexeme}
    (hx : x.isInner = false) : f (some x) = f none := by
  rcases Lexeme.cases_of_not_isInner hx with rfl | rfl | rfl | rfl | rfl
  · exact h.newline
  · exact h.endMarker
  · exact h.indent
  · exact h.dedent
  · exact h.semi

theorem IgnoresEnd.comp {γ δ : Type} {f : Option Lexeme → γ} (h : IgnoresEnd f) (k : γ → δ) :
    IgnoresEnd fun x => k (f x) :=
  ⟨congrArg k h.newline, congrArg k h.endMarker, congrArg k h.indent, congrArg k h.dedent,
    congrArg k h.semi⟩

/-- Two lookaheads at an end see nothing. -/
structure IgnoresEnds {γ : Type} (f : Option Lexeme → Option Lexeme → γ) : Prop where
  nothing : ∀ y, f none y = f none none
  first : ∀ y, IgnoresEnd fun x => f x y
  second : ∀ x, IgnoresEnd (f (some x))

/-- The lexemes that two lookaheads tell. -/
@[reducible] def ahead : Option Lexeme → Option Lexeme → List Lexeme
  | some x, some y => [x, y]
  | some x, none => [x]
  | none, _ => []

/-- A parser that looks at the next lexeme. -/
theorem readsLine_peek {f : Option Lexeme → Parser β} (hends : IgnoresEnd f)
    (hf : ∀ x, ReadsLine P (ahead x none) (f x)) : ReadsLine P [] (peek >>= f) := by
  intro xs ts ts' tail tail' hline htail htail'
  rw [List.nil_append] at *
  cases hline with
  | nil =>
    have hfirst : ∀ us, AtEnd us → (peek >>= f) us = f none us := by
      rintro _ (_ | ⟨hx, n, us⟩)
      · rfl
      · exact congrFun (hends.eq_none hx) _
    have hread := hf none .nil htail htail'
    rw [List.nil_append, List.nil_append] at *
    rw [hfirst _ htail, hfirst _ htail']
    exact hread
  | cons hx n n' hrest => exact hf (some _) (.cons hx n n' hrest) htail htail'

/-- A parser that looks at the next two lexemes. -/
theorem readsLine_peekPair {f : Option Lexeme → Option Lexeme → Parser β} (hends : IgnoresEnds f)
    (hf : ∀ x y, ReadsLine P (ahead x y) (f x y)) :
    ReadsLine P [] (peek >>= fun x => peekSecond >>= fun y => f x y) := by
  intro xs ts ts' tail tail' hline htail htail'
  rw [List.nil_append] at *
  cases hline with
  | nil =>
    have heq : ∀ us, AtEnd us → (peek >>= fun x => peekSecond >>= fun y => f x y) us = f none none us := by
      rintro _ (_ | ⟨hx, n, us⟩)
      · rfl
      · exact congrFun (((hends.first _).eq_none hx).trans (hends.nothing _)) _
    have hread := hf none none .nil htail htail'
    rw [List.nil_append, List.nil_append] at *
    rw [heq _ htail, heq _ htail']
    exact hread
  | @cons x xs ts ts' hx n n' hrest =>
    cases hrest with
    | nil =>
      have heq : ∀ us k, AtEnd us → (peek >>= fun x => peekSecond >>= fun y => f x y) (⟨x, k⟩ :: us) =
          f (some x) none (⟨x, k⟩ :: us) := by
        rintro _ k (_ | ⟨hy, n, us⟩)
        · rfl
        · exact congrFun ((hends.second x).eq_none hy) _
      have hread := hf (some x) none (.cons hx n n' .nil) htail htail'
      rw [List.cons_append, List.cons_append, List.nil_append, List.nil_append] at *
      rw [heq _ _ htail, heq _ _ htail']
      exact hread
    | cons hy m m' hmore =>
      exact hf (some x) (some _) (.cons hx n n' (.cons hy m m' hmore)) htail htail'

end

/-- No property of the part of a line that is taken. -/
def Anything (_ : List Lexeme) : Prop :=
  True

/-! ## Local and consuming parsers -/

/-- A part of a line that does not end in a colon. -/
def IsWhole (taken : List Lexeme) : Prop :=
  taken.getLast? ≠ some (.op .colon)

theorem isWhole_nil : IsWhole [] :=
  nofun

theorem IsWhole.append {s t : List Lexeme} (hs : IsWhole s) (ht : IsWhole t) : IsWhole (s ++ t) := by
  rw [IsWhole, List.getLast?_append]
  cases hlast : t.getLast? with
  | none => rwa [Option.none_or]
  | some x => rwa [Option.some_or, ← hlast]

theorem IsWhole.append_left {t : List Lexeme} (ht : IsWhole t) (hne : t ≠ []) (s : List Lexeme) :
    IsWhole (s ++ t) := by
  rwa [IsWhole, List.getLast?_append, List.getLast?_eq_some_getLast hne, Option.some_or,
    ← List.getLast?_eq_some_getLast hne]

theorem isWhole_cons {x : Lexeme} (hx : x ≠ .op .colon) {t : List Lexeme} (ht : IsWhole t) :
    IsWhole (x :: t) := by
  refine IsWhole.append (s := [x]) ?_ ht
  rw [IsWhole, List.getLast?_singleton, Ne, Option.some.injEq]
  exact hx

/-- A truth value that is evaluated when an instance is looked for. -/
class Holds (b : Bool) : Prop where
  eq_true : b = true

instance : Holds true :=
  ⟨rfl⟩

/-- In front of known lexemes, a parser stays in its line and takes no part of it that ends in a
colon. -/
class LocalAt {α : Type} (front : List Lexeme) (p : Parser α) : Prop where
  reads : ReadsLine IsWhole front p

/-- In front of known lexemes, a parser stays in its line and takes a part of it that does not end
in a colon and is not empty. -/
class ConsumingAt {α : Type} (front : List Lexeme) (p : Parser α) : Prop where
  reads : ReadsLine (fun taken => taken ≠ [] ∧ IsWhole taken) front p

/-- A parser that stays in its line. -/
abbrev Local {α : Type} (p : Parser α) : Prop :=
  LocalAt [] p

/-- A parser that stays in its line and takes a part of it. -/
abbrev Consuming {α : Type} (p : Parser α) : Prop :=
  ConsumingAt [] p

section

variable {α β : Type} {front : List Lexeme} {x : Lexeme} {p q : Parser α} {f : α → Parser β}
  {g : Unit → Parser β}

instance (priority := low) [h : ConsumingAt front p] : LocalAt front p :=
  ⟨h.reads.mono fun _ htaken => htaken.2⟩

instance (priority := low) [h : Local p] : LocalAt front p :=
  ⟨h.reads.anywhere⟩

instance (priority := low) [h : Consuming p] : ConsumingAt front p :=
  ⟨h.reads.anywhere⟩

instance (a : α) : LocalAt front (pure a : Parser α) :=
  ⟨readsLine_pure a isWhole_nil⟩

instance : ConsumingAt front (mismatch : Parser α) :=
  ⟨readsLine_error _⟩

instance : ConsumingAt front (refuse : Parser α) :=
  ⟨readsLine_error _⟩

instance [hp : LocalAt front p] [hf : ∀ a, Local (f a)] : LocalAt front (p >>= f) :=
  ⟨readsLine_bind hp.reads (fun a => (hf a).reads) .append⟩

instance [hp : LocalAt front p] [hf : ∀ a, Consuming (f a)] : ConsumingAt front (p >>= f) :=
  ⟨readsLine_bind hp.reads (fun a => (hf a).reads) fun hs ht =>
    ⟨List.append_ne_nil_of_right_ne_nil _ ht.1, hs.append ht.2⟩⟩

instance [hp : ConsumingAt front p] [hf : ∀ a, Local (f a)] : ConsumingAt front (p >>= f) :=
  ⟨readsLine_bind hp.reads (fun a => (hf a).reads) fun hs ht =>
    ⟨List.append_ne_nil_of_left_ne_nil hs.1 _, hs.2.append ht⟩⟩

instance {c : Prop} [Decidable c] [hp : LocalAt front p] [hq : LocalAt front q] :
    LocalAt front (if c then p else q) :=
  ⟨readsLine_ite hp.reads hq.reads⟩

instance {c : Prop} [Decidable c] [hp : ConsumingAt front p] [hq : ConsumingAt front q] :
    ConsumingAt front (if c then p else q) :=
  ⟨readsLine_ite hp.reads hq.reads⟩

instance [hx : Holds x.isPlain] : Consuming (expect x) :=
  have ⟨hinner, hcolon⟩ := Lexeme.isInner_of_isPlain hx.eq_true
  ⟨readsLine_expect hinner ⟨nofun, isWhole_cons hcolon isWhole_nil⟩⟩

instance {o : Op} [h : Consuming (expect (.op o))] : Consuming (op o) :=
  h

instance {w : Word} : Consuming (word w) :=
  inferInstanceAs (Consuming (expect (.word w)))

/-- After a colon, something else has to be taken. -/
instance [hg : ∀ u, Consuming (g u)] : Consuming (op .colon >>= g) :=
  ⟨readsLine_bind (readsLine_expect (P := fun _ => True) rfl trivial) (fun u => (hg u).reads)
    fun {s _} _ ht => ⟨List.append_ne_nil_of_right_ne_nil s ht.1, ht.2.append_left ht.1 s⟩⟩

theorem accept_bind_pure (x : Lexeme) : (accept x >>= pure) = accept x := by
  funext ts
  cases h : accept x ts with
  | error e => simp only [bind, h]
  | ok r => simp only [bind, h, pure]

instance [hx : Holds x.isPlain] : Local (accept x) :=
  have ⟨hinner, hcolon⟩ := Lexeme.isInner_of_isPlain hx.eq_true
  ⟨accept_bind_pure x ▸ readsLine_accept_bind hinner (readsLine_pure true isWhole_nil)
    (readsLine_pure false isWhole_nil) (isWhole_cons hcolon)⟩

/-- Where a colon may come next, something else has to be taken after it. -/
theorem local_accept_colon {k : Bool → Parser β} (htrue : Consuming (k true))
    (hfalse : Local (k false)) : Local (accept (.op .colon) >>= k) :=
  ⟨readsLine_accept_bind rfl htrue.reads hfalse.reads fun ht => ht.2.append_left ht.1 [_]⟩

instance [hp : Local p] [hq : Local q] : Local (orElse p fun _ => q) :=
  ⟨readsLine_orElse hp.reads fun _ => hq.reads⟩

instance [hp : Local p] : Local (maybe p) := by
  unfold maybe
  infer_instance

instance [hx : Holds x.isPlain] [hp : Local p] : Local (after? x p) := by
  unfold after?
  infer_instance

instance [hp : Consuming p] : Local (after? (.op .colon) p) :=
  local_accept_colon (inferInstanceAs (Consuming (p >>= fun a => pure (some a))))
    (inferInstanceAs (Local (pure none)))

instance [hp : Consuming p] : Local (many p) :=
  ⟨readsLine_many hp.reads (fun h => h.1) isWhole_nil fun hs ht => hs.2.append ht⟩

instance [hp : Consuming p] : Consuming (many1 p) := by
  unfold many1
  infer_instance

instance [hp : Consuming p] : Consuming (commaList p) := by
  unfold commaList
  infer_instance

instance [hp : Consuming p] : Consuming (commaListTrailing p) := by
  unfold commaListTrailing
  infer_instance

instance (b : Bool) : Local (ensure b) := by
  unfold ensure
  infer_instance

instance (o : Option α) : Local (fromOption o) := by
  cases o <;> unfold fromOption <;> infer_instance

/-- What comes next is still known after a condition. -/
instance {b : Bool} [hg : LocalAt front (g ())] : LocalAt front (ensure b >>= g) := by
  cases b with
  | true => exact hg
  | false => exact ⟨readsLine_error .mismatch⟩

instance {b : Bool} [hg : ConsumingAt front (g ())] : ConsumingAt front (ensure b >>= g) := by
  cases b with
  | true => exact hg
  | false => exact ⟨readsLine_error .mismatch⟩

end

section

variable {β : Type} {front : List Lexeme} {x : Lexeme}

instance {f : Unit → Parser β} [hx : Holds x.isPlain] [hf : LocalAt front (f ())] :
    ConsumingAt (x :: front) (advance >>= f) :=
  have ⟨_, hcolon⟩ := Lexeme.isInner_of_isPlain hx.eq_true
  ⟨readsLine_advance_bind hf.reads fun ht => ⟨nofun, isWhole_cons hcolon ht⟩⟩

instance {f : Unit → Parser β} [hf : ConsumingAt front (f ())] :
    ConsumingAt (x :: front) (advance >>= f) :=
  ⟨readsLine_advance_bind hf.reads fun ht => ⟨nofun, ht.2.append_left ht.1 [_]⟩⟩

instance {spelling : List Char} {f : String → Parser β} [hf : ∀ a, LocalAt front (f a)] :
    ConsumingAt (.name spelling :: front) (name >>= f) :=
  have hcolon : Lexeme.name spelling ≠ .op .colon := nofun
  ⟨readsLine_name_bind (fun a => (hf a).reads) fun ht => ⟨nofun, isWhole_cons hcolon ht⟩⟩

section

variable {f : Option Lexeme → Parser β} (hends : IgnoresEnd f)

include hends

theorem local_peek (hf : ∀ x, LocalAt (ahead x none) (f x)) : Local (peek >>= f) :=
  ⟨readsLine_peek hends fun x => (hf x).reads⟩

theorem consuming_peek (hf : ∀ x, ConsumingAt (ahead x none) (f x)) : Consuming (peek >>= f) :=
  ⟨readsLine_peek hends fun x => (hf x).reads⟩

end

section

variable {f : Option Lexeme → Option Lexeme → Parser β} (hends : IgnoresEnds f)

include hends

theorem local_peekPair (hf : ∀ x y, LocalAt (ahead x y) (f x y)) :
    Local (peek >>= fun x => peekSecond >>= fun y => f x y) :=
  ⟨readsLine_peekPair hends fun x y => (hf x y).reads⟩

theorem consuming_peekPair (hf : ∀ x y, ConsumingAt (ahead x y) (f x y)) :
    Consuming (peek >>= fun x => peekSecond >>= fun y => f x y) :=
  ⟨readsLine_peekPair hends fun x y => (hf x y).reads⟩

end

instance : Consuming name where
  reads := by
    refine readsLine_one (fun
      | .name spelling => some (identifier spelling)
      | _ => none) rfl (fun x n ts => ?_) (fun x hx => ?_) fun x hx => ?_
    · cases x <;> rfl
    · rcases Lexeme.cases_of_not_isInner hx with rfl | rfl | rfl | rfl | rfl <;> rfl
    · cases x with
      | name spelling =>
        have hcolon : Lexeme.name spelling ≠ .op .colon := nofun
        exact ⟨nofun, isWhole_cons hcolon isWhole_nil⟩
      | _ => cases hx

instance [hx : Holds x.isInner] : Local (sees x) := by
  have hne : ∀ y : Lexeme, y.isInner = false → (some y == some x) = (none == some x) := by
    intro y hy
    refine (beq_eq_false_iff_ne.2 ?_).trans rfl
    rintro ⟨⟩
    exact Bool.false_ne_true (hy.symm.trans hx.eq_true)
  have hends : IgnoresEnd (· == some x) :=
    ⟨hne _ rfl, hne _ rfl, hne _ rfl, hne _ rfl, hne _ rfl⟩
  exact local_peek (hends.comp pure) fun _ => inferInstance

end

end Parser

end AnnotatedMarkdown.Python
