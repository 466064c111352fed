import AnnotatedMarkdown.Proofs.Python.Version.FormatString
import AnnotatedMarkdown.Python.Parser
import Mathlib.Tactic.GCongr

/-!
# Stricter grammars

An older version of the grammar refuses what came after it, and reads everything else as a
newer version does.  Here is what this means of single parsers.

* `Parser.Trims` holds of parsers that leave the end of the tokens that they are given.
* `Parser.Restricts` compares two parsers of this kind: the first one reads the same as the second,
  or refuses the text for good.  It may be given any tokens whose strings have only replacement
  fields that are allowed.  The combinators keep the relation, and their lemmas are tagged so that
  `gcongr` follows the shape of a rule.
* `Grammar.IsStricter` holds of two grammars if the constituents of the first one restrict
  those of the second, and the second has no earlier version.
-/

namespace AnnotatedMarkdown.Python

/-! ## Tokens -/

/-- All replacement fields in the strings among tokens are allowed. -/
def AreAllowed (allowed : List Char → Prop) (tokens : List Token) : Prop :=
  ∀ t ∈ tokens, ∀ spelling, t.lexeme = .string spelling →
    ∀ cs, (StringToken.ofSpelling spelling).HasField cs → allowed cs

theorem AreAllowed.of_suffix {allowed : List Char → Prop} {tokens rest : List Token}
    (h : AreAllowed allowed tokens) (hrest : rest <:+ tokens) : AreAllowed allowed rest :=
  fun t ht => h t (hrest.subset ht)

/-! ## Parsers that leave the end of their tokens -/

namespace Parser

/-- A parser that leaves the end of the tokens that it is given. -/
class Trims {α : Type} (p : Parser α) : Prop where
  suffix : ∀ {tokens a rest}, p tokens = .ok (a, rest) → rest <:+ tokens

section

variable {α β : Type} {p q : Parser α} {f : α → Parser β} {x : Lexeme}

theorem bind_apply (p : Parser α) (f : α → Parser β) (tokens : List Token) :
    (p >>= f) tokens =
      match p tokens with
      | .ok (a, rest) => f a rest
      | .error e => .error e :=
  rfl

instance (a : α) : Trims (pure a : Parser α) where
  suffix := by
    rintro _ _ _ ⟨⟩
    exact List.suffix_rfl

instance : Trims (mismatch : Parser α) :=
  ⟨nofun⟩

instance : Trims (refuse : Parser α) :=
  ⟨nofun⟩

theorem Trims.bind (hp : Trims p) (hf : ∀ a, Trims (f a)) : Trims (p >>= f) where
  suffix := by
    intro tokens b rest h
    rw [bind_apply] at h
    split at h
    · next hread => exact ((hf _).suffix h).trans (hp.suffix hread)
    · cases h

instance [hp : Trims p] [hf : ∀ a, Trims (f a)] : Trims (p >>= f) :=
  hp.bind hf

instance {c : Prop} [Decidable c] [hp : Trims p] [hq : Trims q] : Trims (if c then p else q) := by
  split
  · exact hp
  · exact hq

instance {r : Unit → Parser α} [hp : Trims p] [hr : ∀ u, Trims (r u)] : Trims (orElse p r) where
  suffix := by
    intro tokens a rest h
    unfold orElse at h
    split at h
    · exact (hr ()).suffix h
    · exact hp.suffix h

instance trims_manyUpTo [hp : Trims p] (times : Nat) : Trims (manyUpTo p times) where
  suffix := by
    induction times with
    | zero =>
      rintro _ _ _ ⟨⟩
      exact List.suffix_rfl
    | succ times ih =>
      intro tokens as rest h
      unfold manyUpTo at h
      split at h
      · next hread =>
        split at h
        · next hmore =>
          cases h
          exact (ih hmore).trans (hp.suffix hread)
        · cases h
      · cases h
        exact List.suffix_rfl
      · cases h

instance [Trims p] : Trims (many p) :=
  ⟨(trims_manyUpTo _).suffix⟩

instance : Trims (expect x) where
  suffix := by
    intro tokens _ rest h
    unfold expect at h
    split at h
    · cases h
    · split at h <;> cases h
      exact List.suffix_cons _ _

instance : Trims (accept x) where
  suffix := by
    intro tokens _ rest h
    unfold accept at h
    split at h
    · cases h
      exact List.suffix_rfl
    · split at h <;> cases h
      · exact List.suffix_cons _ _
      · exact List.suffix_rfl

instance : Trims advance where
  suffix := by
    intro tokens _ rest h
    unfold advance at h
    split at h <;> cases h
    exact List.suffix_cons _ _

instance : Trims name where
  suffix := by
    intro tokens _ rest h
    unfold name at h
    split at h <;> cases h
    exact List.suffix_cons _ _

instance : Trims peek where
  suffix := by
    rintro _ _ _ ⟨⟩
    exact List.suffix_rfl

instance : Trims peekSecond where
  suffix := by
    rintro _ _ _ ⟨⟩
    exact List.suffix_rfl

instance (o : Op) : Trims (op o) :=
  inferInstanceAs (Trims (expect (.op o)))

instance (w : Word) : Trims (word w) :=
  inferInstanceAs (Trims (expect (.word w)))

instance : Trims (sees x) := by
  unfold sees
  infer_instance

instance (b : Bool) : Trims (ensure b) := by
  unfold ensure
  infer_instance

instance (o : Option α) : Trims (fromOption o) := by
  cases o <;> unfold fromOption <;> infer_instance

instance [Trims p] : Trims (maybe p) := by
  unfold maybe
  infer_instance

instance [Trims p] : Trims (after? x p) := by
  unfold after?
  infer_instance

instance [Trims p] : Trims (many1 p) := by
  unfold many1
  infer_instance

instance [Trims p] : Trims (commaList p) := by
  unfold commaList
  infer_instance

instance [Trims p] : Trims (commaListTrailing p) := by
  unfold commaListTrailing
  infer_instance

end

/-! ## Parsers that restrict others -/

/-- A parser that reads the same as another one, or refuses the tokens, as long as their replacement
fields are allowed. -/
structure Restricts {α : Type} (allowed : List Char → Prop) (p q : Parser α) : Prop where
  trims : Trims q
  eq_or : ∀ {tokens}, AreAllowed allowed tokens → p tokens = q tokens ∨ p tokens = .error .refused

section

variable {α β : Type} {p q : Parser α} {allowed : List Char → Prop}

@[refl] theorem Restricts.refl (p : Parser α) [Trims p] : p.Restricts allowed p :=
  ⟨inferInstance, fun _ => Or.inl rfl⟩

theorem restricts_refuse (q : Parser α) [Trims q] : (refuse : Parser α).Restricts allowed q :=
  ⟨inferInstance, fun _ => Or.inr rfl⟩

@[gcongr] theorem restricts_bind {f k : α → Parser β} (hp : p.Restricts allowed q)
    (hf : ∀ a, (f a).Restricts allowed (k a)) : (p >>= f).Restricts allowed (q >>= k) := by
  have := hp.trims
  have := fun a => (hf a).trims
  refine ⟨inferInstance, fun {tokens} htokens => ?_⟩
  rw [bind_apply, bind_apply]
  rcases hp.eq_or htokens with h | h
  · rw [h]
    cases hread : q tokens with
    | error e => exact Or.inl rfl
    | ok r => exact (hf r.1).eq_or (htokens.of_suffix (hp.trims.suffix hread))
  · rw [h]
    exact Or.inr rfl

@[gcongr] theorem restricts_ite {c : Prop} [Decidable c] {p' q' : Parser α}
    (h : p.Restricts allowed q) (h' : p'.Restricts allowed q') :
    (if c then p else p').Restricts allowed (if c then q else q') := by
  split
  · exact h
  · exact h'

@[gcongr] theorem restricts_orElse {f k : Unit → Parser α} (hp : p.Restricts allowed q)
    (hf : ∀ u, (f u).Restricts allowed (k u)) : (orElse p f).Restricts allowed (orElse q k) := by
  have := hp.trims
  have := fun u => (hf u).trims
  refine ⟨inferInstance, fun {tokens} htokens => ?_⟩
  unfold orElse
  rcases hp.eq_or htokens with h | h
  · rw [h]
    rcases q tokens with (_ | _) | r
    · exact (hf ()).eq_or htokens
    · exact Or.inl rfl
    · exact Or.inl rfl
  · rw [h]
    exact Or.inr rfl

@[gcongr] theorem restricts_maybe (h : p.Restricts allowed q) :
    (maybe p).Restricts allowed (maybe q) := by
  unfold maybe
  gcongr

@[gcongr] theorem restricts_after? (x : Lexeme) (h : p.Restricts allowed q) :
    (after? x p).Restricts allowed (after? x q) := by
  unfold after?
  gcongr

@[gcongr] theorem restricts_manyUpTo (h : p.Restricts allowed q) (times : Nat) :
    (manyUpTo p times).Restricts allowed (manyUpTo q times) := by
  have := h.trims
  refine ⟨inferInstance, fun {tokens} htokens => ?_⟩
  induction times generalizing tokens with
  | zero => exact Or.inl rfl
  | succ times ih =>
    unfold manyUpTo
    rcases h.eq_or htokens with heq | heq
    · rw [heq]
      rcases hread : q tokens with (_ | _) | ⟨a, rest⟩
      · exact Or.inl rfl
      · exact Or.inl rfl
      · dsimp only
        rcases ih (htokens.of_suffix (h.trims.suffix hread)) with ih | ih
        · rw [ih]
          exact Or.inl rfl
        · rw [ih]
          exact Or.inr rfl
    · rw [heq]
      exact Or.inr rfl

@[gcongr] theorem restricts_many (h : p.Restricts allowed q) :
    (many p).Restricts allowed (many q) where
  trims := have := h.trims; inferInstance
  eq_or htokens := (restricts_manyUpTo h _).eq_or htokens

@[gcongr] theorem restricts_many1 (h : p.Restricts allowed q) :
    (many1 p).Restricts allowed (many1 q) := by
  unfold many1
  gcongr

@[gcongr] theorem restricts_commaList (h : p.Restricts allowed q) :
    (commaList p).Restricts allowed (commaList q) := by
  unfold commaList
  gcongr

@[gcongr] theorem restricts_commaListTrailing (h : p.Restricts allowed q) :
    (commaListTrailing p).Restricts allowed (commaListTrailing q) := by
  unfold commaListTrailing
  gcongr

end

end Parser

/-! ## Grammars -/

open AnnotatedMarkdown.Python.Parser

/-- A grammar whose constituents restrict those of another one, which has no earlier version and
reads the allowed replacement fields the same. -/
structure Grammar.IsStricter (allowed : List Char → Prop) (g h : Grammar) : Prop where
  version : g.version ≤ h.version
  expression : g.expression.Restricts allowed h.expression
  disjunction : g.disjunction.Restricts allowed h.disjunction
  inversion : g.inversion.Restricts allowed h.inversion
  bitwiseOr : g.bitwiseOr.Restricts allowed h.bitwiseOr
  factor : g.factor.Restricts allowed h.factor
  primary : g.primary.Restricts allowed h.primary
  embedded : ∀ cs e, allowed cs → g.embedded cs = some e → h.embedded cs = some e
  pattern : g.pattern.Restricts allowed h.pattern
  block : g.block.Restricts allowed h.block

attribute [gcongr] Grammar.IsStricter.expression Grammar.IsStricter.disjunction
  Grammar.IsStricter.inversion Grammar.IsStricter.bitwiseOr Grammar.IsStricter.factor
  Grammar.IsStricter.primary Grammar.IsStricter.pattern Grammar.IsStricter.block

instance Grammar.trims_since (g : Grammar) (version : Nat) : Trims (g.since version) := by
  unfold since
  infer_instance

/-- A construct that the stricter grammar has is in the other one too. -/
@[gcongr] theorem Grammar.restricts_since {g h : Grammar} {allowed : List Char → Prop}
    (hg : g.IsStricter allowed h) (version : Nat) :
    (g.since version).Restricts allowed (h.since version) := by
  unfold since
  by_cases hversion : version ≤ g.version
  · rw [if_pos hversion, if_pos (Nat.le_trans hversion hg.version)]
  · rw [if_neg hversion]
    exact restricts_refuse _

end AnnotatedMarkdown.Python
