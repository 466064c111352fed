import AnnotatedMarkdown.Proofs.Generation.Encoding
import AnnotatedMarkdown.Proofs.Python.FloatLiteral
import AnnotatedMarkdown.Proofs.Python.Rendition

/-!
# Literal values

A literal value is encoded, printed and read back without a loss: only a tuple comes back
as a list.

* `Value.IsLiteral` describes the literal values and how deep they nest.
* `Expr.literalValue?` evaluates an expression of literals, and `Value.listed` is the value
  with lists for tuples.
* `IsRendition` relates a value to a rendition of its encoding.  `exists_isRendition` finds
  one for every literal value, by induction on its structure.
* `encode_readBack` is the round trip.
-/

namespace AnnotatedMarkdown

open Python

/-! ## The specification -/

/-- A literal value that nests at most `depth` levels deep.  Integers have no more digits
than may be printed, and the keys of mappings are different texts. -/
inductive Value.IsLiteral : Nat → Value → Prop where
  | str (depth : Nat) (t : Text) : IsLiteral depth (.str t)
  | bool (depth : Nat) (b : Bool) : IsLiteral depth (.bool b)
  | int (depth : Nat) {n : Int} (h : (Nat.toDigits 10 n.natAbs).length ≤ maxDecimalDigits) :
      IsLiteral depth (.int n)
  | float (depth : Nat) {x : Binary64} (h : x ≠ .nan) : IsLiteral depth (.float x)
  | list {depth : Nat} {items : List Value} (h : ∀ v ∈ items, IsLiteral depth v) :
      IsLiteral (depth + 1) (.list items)
  | tuple {depth : Nat} {items : List Value} (h : ∀ v ∈ items, IsLiteral depth v) :
      IsLiteral (depth + 1) (.tuple items)
  | dict {depth : Nat} {entries : Entries} (hkeys : ∀ e ∈ entries, ∃ t, e.key = .str t)
      (hdistinct : entries.keys.Nodup) (hvalues : ∀ e ∈ entries, IsLiteral depth e.value) :
      IsLiteral (depth + 1) (.dict entries)

mutual

/-- A value with lists for its tuples. -/
def Value.listed : Value → Value
  | .list items => .list (listedAll items)
  | .tuple items => .list (listedAll items)
  | .dict entries => .dict (listedEntries entries)
  | v => v

/-- Values with lists for their tuples. -/
def listedAll : List Value → List Value
  | [] => []
  | v :: vs => v.listed :: listedAll vs

/-- The entries of a mapping with lists for the tuples in their values. -/
def listedEntries : List Entry → List Entry
  | [] => []
  | .mk key value :: entries => .mk key value.listed :: listedEntries entries

end

namespace Python

/-- The value of a constant, if it is one of a literal. -/
def Constant.literalValue? : Constant → Option Value
  | .none => some .none
  | .true => some (.bool Bool.true)
  | .false => some (.bool Bool.false)
  | .string t _ => some (.str t)
  | .bytes bs => some (.bytes bs)
  | .int n => some (.int n)
  | .float x => some (.float x)
  | _ => Option.none

mutual

/-- The value of an expression of literals: constants, numbers with a minus sign, and
displays of lists and mappings. -/
def Expr.literalValue? : Expr → Option Value
  | .constant c => c.literalValue?
  | .unary .minus (.constant (.int n)) => some (.int (-n))
  | .unary .minus (.constant (.float x)) => some (.float x.neg)
  | .list elements => (literalValues? elements).map .list
  | .dict items => (literalEntries? items).map fun entries => .dict (Entries.ofList entries)
  | _ => none

/-- The values of expressions of literals. -/
def literalValues? : List Expr → Option (List Value)
  | [] => some []
  | e :: es => do
    let v ← e.literalValue?
    let vs ← literalValues? es
    return v :: vs

/-- The entries of a mapping of literals. -/
def literalEntries? : List DictItem → Option Entries
  | [] => some []
  | .pair key value :: items => do
    let k ← key.literalValue?
    let v ← value.literalValue?
    let entries ← literalEntries? items
    return .mk k v :: entries
  | .unpack _ :: _ => none

end

end Python

namespace Generation

/-! ## Numbers -/

/-- A value is encoded as the printed part of a faithful rendition, and the part that is
read stands for the value. -/
structure IsRendition (depth : Nat) (v : Value) (r : Rendition) : Prop where
  encoded : encode v = pure r.printed
  faithful : r.IsFaithful depth
  value : r.read.literalValue? = some v.listed

theorem exists_isRendition_int (depth : Nat) {n : Int}
    (h : (Nat.toDigits 10 n.natAbs).length ≤ maxDecimalDigits) :
    ∃ r, IsRendition depth (.int n) r := by
  have hnumeral := isNumeral_toDigits h
  have htext : (Constant.int n.natAbs).render false =
      some (Text.ofChars (Nat.toDigits 10 n.natAbs)) := by
    simp only [Constant.render, integerText?, if_pos h]
  by_cases hn : n < 0
  · refine ⟨_, ?_, Rendition.isFaithful_negative depth hnumeral (Rendition.render_negative htext), ?_⟩
    · simp only [encode, intLiteral, if_pos hn]
    · have hneg : -(n.natAbs : Int) = n := by omega
      simp only [Expr.literalValue?, hneg, Value.listed]
  · refine ⟨_, ?_, Rendition.isFaithful_numeral depth hnumeral htext, ?_⟩
    · simp only [encode, intLiteral, if_neg hn]
    · have hpos : (n.natAbs : Int) = n := by omega
      simp only [Expr.literalValue?, Constant.literalValue?, hpos, Value.listed]

/-- Zero with a sign is printed with the sign in its constant, and every other number less
than zero as the negation of one greater than zero. -/
theorem exists_isRendition_float (depth : Nat) {x : Binary64} (h : x ≠ .nan) :
    ∃ r, IsRendition depth (.float x) r := by
  match x with
  | .nan => exact absurd rfl h
  | .infinite true =>
    exact ⟨_, rfl, Rendition.isFaithful_negative depth isNumeral_infinite
      (Rendition.render_negative rfl), rfl⟩
  | .infinite false =>
    exact ⟨_, rfl, Rendition.isFaithful_numeral depth isNumeral_infinite rfl, rfl⟩
  | .finite false m e hm =>
    exact ⟨_, rfl, Rendition.isFaithful_numeral depth (isNumeral_magnitudeText hm) rfl, rfl⟩
  | .finite true 0 e hm =>
    exact ⟨_, rfl, Rendition.isFaithful_negative depth (isNumeral_magnitudeText hm) rfl, rfl⟩
  | .finite true (m + 1) e hm =>
    exact ⟨_, rfl, Rendition.isFaithful_negative depth (isNumeral_magnitudeText hm)
      (Rendition.render_negative rfl), rfl⟩

/-! ## Lists and mappings -/

/-- The renditions of the elements of a list. -/
theorem exists_renditions {depth : Nat} {items : List Value}
    (h : ∀ v ∈ items, ∃ r, IsRendition depth v r) :
    ∃ rs : List Rendition, encodeAll items = pure (rs.map Rendition.printed) ∧
      (∀ r ∈ rs, r.IsFaithful depth) ∧
      literalValues? (rs.map Rendition.read) = some (listedAll items) := by
  induction items with
  | nil => exact ⟨[], rfl, by simp, rfl⟩
  | cons v items ih =>
    obtain ⟨r, hr⟩ := h v List.mem_cons_self
    obtain ⟨rs, hencoded, hfaithful, hvalues⟩ := ih fun w hw => h w (List.mem_cons_of_mem v hw)
    refine ⟨r :: rs, ?_, ?_, ?_⟩
    · rw [encodeAll, hr.encoded, hencoded]
      rfl
    · intro other hother
      rcases List.mem_cons.1 hother with rfl | hother
      · exact hr.faithful
      · exact hfaithful other hother
    · simp only [List.map_cons, literalValues?, hr.value, hvalues, listedAll]
      rfl

/-- The renditions of the pairs of a mapping. -/
theorem exists_pairs {depth : Nat} {entries : Entries}
    (hkeys : ∀ e ∈ entries, ∃ t, e.key = .str t)
    (hvalues : ∀ e ∈ entries, ∃ r, IsRendition depth e.value r) :
    ∃ ps : List Rendition.Pair, encodeEntries entries = pure (ps.map Rendition.Pair.printed) ∧
      (∀ p ∈ ps, p.IsFaithful depth) ∧
      literalEntries? (ps.map Rendition.Pair.read) = some (listedEntries entries) := by
  induction entries with
  | nil => exact ⟨[], rfl, by simp, rfl⟩
  | cons e entries ih =>
    obtain ⟨key, value⟩ := e
    obtain ⟨t, rfl⟩ : ∃ t, key = .str t := hkeys _ List.mem_cons_self
    obtain ⟨r, hr⟩ := hvalues _ List.mem_cons_self
    obtain ⟨ps, hencoded, hfaithful, hread⟩ := ih
      (fun other hother => hkeys other (List.mem_cons_of_mem _ hother))
      (fun other hother => hvalues other (List.mem_cons_of_mem _ hother))
    obtain ⟨spelling, hspelling⟩ := exists_isSpelling t
    have hkey := Rendition.isFaithful_string depth hspelling
    have hencodedValue : encode value = pure r.printed := hr.encoded
    refine ⟨⟨⟨textLiteral t, spelling, [.string spelling], textLiteral t⟩, r⟩ :: ps, ?_, ?_, ?_⟩
    · rw [encodeEntries, hencodedValue, hencoded]
      rfl
    · intro other hother
      rcases List.mem_cons.1 hother with rfl | hother
      · exact ⟨hkey, hr.faithful⟩
      · exact hfaithful other hother
    · have hvalue : r.read.literalValue? = some value.listed := hr.value
      simp only [List.map_cons, Rendition.Pair.read, literalEntries?, textLiteral,
        Expr.literalValue?, Constant.literalValue?, hvalue, hread, listedEntries]
      rfl

/-! ## The round trip -/

theorem keys_listedEntries (entries : Entries) :
    Entries.keys (listedEntries entries) = entries.keys := by
  induction entries with
  | nil => rfl
  | cons e entries ih =>
    obtain ⟨key, value⟩ := e
    exact congrArg (key :: ·) ih

theorem ofList_listedEntries {entries : Entries} (hkeys : ∀ e ∈ entries, ∃ t, e.key = .str t)
    (hdistinct : entries.keys.Nodup) :
    Entries.ofList (listedEntries entries) = listedEntries entries := by
  have hlisted := keys_listedEntries entries
  refine Entries.IsNamed.ofList_eq ⟨Entries.isTextual_iff.2 fun e he => ?_, ?_⟩
  · have hmem : e.key ∈ entries.keys := hlisted ▸ List.mem_map_of_mem he
    obtain ⟨other, hother, heq⟩ := List.mem_map.1 hmem
    exact heq ▸ hkeys other hother
  · rw [hlisted]
    exact hdistinct

/-- Every literal value has a rendition. -/
theorem exists_isRendition {depth : Nat} {v : Value} (h : v.IsLiteral depth) :
    ∃ r, IsRendition depth v r := by
  induction h with
  | str depth t =>
    obtain ⟨spelling, hspelling⟩ := exists_isSpelling t
    exact ⟨_, rfl, Rendition.isFaithful_string depth hspelling, rfl⟩
  | bool depth b => exact ⟨_, rfl, Rendition.isFaithful_bool depth b, by cases b <;> rfl⟩
  | int depth h => exact exists_isRendition_int depth h
  | float depth h => exact exists_isRendition_float depth h
  | list _ ih =>
    obtain ⟨rs, hencoded, hfaithful, hvalues⟩ := exists_renditions ih
    refine ⟨_, ?_, Rendition.isFaithful_list hfaithful, ?_⟩
    · rw [encode, hencoded]
      rfl
    · simp only [Expr.literalValue?, hvalues, Value.listed, Option.map_some]
  | tuple _ ih =>
    obtain ⟨rs, hencoded, hfaithful, hvalues⟩ := exists_renditions ih
    refine ⟨_, ?_, Rendition.isFaithful_list hfaithful, ?_⟩
    · rw [encode, hencoded]
      rfl
    · simp only [Expr.literalValue?, hvalues, Value.listed, Option.map_some]
  | dict hkeys hdistinct _ ih =>
    obtain ⟨ps, hencoded, hfaithful, hvalues⟩ := exists_pairs hkeys ih
    refine ⟨_, ?_, Rendition.isFaithful_dict hfaithful, ?_⟩
    · rw [encode, hencoded]
      rfl
    · simp only [Expr.literalValue?, hvalues, Value.listed, Option.map_some,
        ofList_listedEntries hkeys hdistinct]

/-- A literal value is encoded, its expression is printed, and the printed text is read as
an expression of the same value, with lists for tuples. -/
theorem encode_readBack {v : Value} (h : v.IsLiteral 100) :
    ∃ e text read, encode v = pure e ∧ printExpression e = some text ∧
      parseExpression text = .ok read ∧ read.literalValue? = some v.listed := by
  obtain ⟨r, hencoded, hfaithful, hvalue⟩ := exists_isRendition h
  obtain ⟨text, hprinted, hread⟩ := Rendition.parseExpression_printed hfaithful (by decide)
  exact ⟨r.printed, text, r.read, hencoded, hprinted, hread, hvalue⟩

/-- A mapping with a tuple, a negative zero, and a key that holds both quotes. -/
def sampleLiteral : Value :=
  .dict
    [.mk (.str "it's \"x\"\n") (.tuple [.int (-3), .bool true, .float (Binary64.zero true)]),
      .mk (.str "") (.list [.float (.infinite true), .str "\\"])]

theorem isLiteral_sampleLiteral : sampleLiteral.IsLiteral 100 := by
  refine .dict ?_ (by simp [Entries.keys, Entry.key, Text.ofString, Text.ofChars]) ?_
  · simp [Entry.key]
  · refine List.forall_mem_cons.2 ⟨.tuple ?_, List.forall_mem_singleton.2 (.list ?_)⟩
    · exact List.forall_mem_cons.2 ⟨.int _ (by decide), List.forall_mem_cons.2
        ⟨.bool _ true, List.forall_mem_singleton.2 (.float _ (by decide))⟩⟩
    · exact List.forall_mem_cons.2 ⟨.float _ (by decide), List.forall_mem_singleton.2 (.str _ _)⟩

theorem encode_sampleLiteral_readBack :
    sampleLiteral.IsLiteral 100 ∧
      ∃ e text read, encode sampleLiteral = pure e ∧ printExpression e = some text ∧
        parseExpression text = .ok read ∧ read.literalValue? = some sampleLiteral.listed :=
  ⟨isLiteral_sampleLiteral, encode_readBack isLiteral_sampleLiteral⟩

end Generation

end AnnotatedMarkdown
