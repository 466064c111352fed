import AnnotatedMarkdown.Configuration
import AnnotatedMarkdown.Proofs.Outcome
import AnnotatedMarkdown.Proofs.Python.Lexing
import AnnotatedMarkdown.Proofs.Unicode.Normalization

/-!
# Names of example functions

The definition of an example is made by reading a piece of source text that holds its
name.  Here this reading is carried out for every name that a function can have.

* `IsFunctionName` is the condition on the characters of a name.
* `parseModule_definitionHead` reads the head of a definition with such a name.
* `isFunctionName_numbered` shows that a prefix that is an identifier makes such a
  name for every number, and `functionDefinition_functionName` is the definition that
  results: nothing but its name depends on the number.
* `identifier_eq` puts the identifier of a function together from its prefix and its number,
  so that different numbers have different identifiers.
-/

namespace AnnotatedMarkdown

open Unicode Python

/-! ## Heads of definitions -/

/-- Characters that a function can be named with. -/
structure IsFunctionName (name : List Char) : Prop where
  start : ∃ c cs, name = c :: cs ∧ isWordStart c = true
  word : ∀ c ∈ name, isWordChar c = true
  notReserved : Word.ofChars? name = none
  identifier : isIdentifier name = true

/-- The characters of a definition after its name. -/
def definitionTail : List Char :=
  ['(', ')', ':', '\n', ' ', ' ', ' ', ' ', 'p', 'a', 's', 's', '\n']

theorem definitionHead_ofChars (name : List Char) :
    Inference.definitionHead (Text.ofChars name) =
      Text.ofChars (['d', 'e', 'f', ' '] ++ name ++ definitionTail) := by
  simp [Inference.definitionHead, Text.concat, Text.ofString, Text.ofChars, definitionTail]

/-- The tokens of a definition with a name. -/
def definitionTokens (name : List Char) : List Token :=
  [⟨.word .define, 1⟩, ⟨.name name, 1⟩, ⟨.op .lPar, 1⟩, ⟨.op .rPar, 1⟩, ⟨.op .colon, 1⟩,
    ⟨.newline, 1⟩, ⟨.indent, 2⟩, ⟨.word .pass, 2⟩, ⟨.newline, 2⟩, ⟨.dedent, 2⟩, ⟨.endMarker, 2⟩]

/-- The state of the analysis on the first line outside of brackets. -/
def firstLine : LexState :=
  .start 1 true

theorem isPlain_firstLine : firstLine.IsPlain :=
  rfl

theorem endsWord_cons {c : Char} (hword : isWordChar c = false) (hquote : isQuoteMark c = false)
    (rest : List Char) : EndsWord (c :: rest) := by
  intro d hd
  obtain rfl : c = d := by simpa using hd
  exact ⟨hword, hquote⟩

theorem reads_define (rest : List Char) :
    Reads firstLine (['d', 'e', 'f'] ++ ' ' :: rest) [⟨.word .define, 1⟩] firstLine (' ' :: rest) := by
  have hall : ∀ d ∈ ['d', 'e', 'f'], isWordChar d = true := List.all_eq_true.1 (by decide)
  refine .single ?_ (by simp)
  rw [List.cons_append, inLine_eq_tokenAt isPlain_firstLine (by decide) (by decide), ← List.cons_append,
    tokenAt_word (by decide) hall (endsWord_cons (by decide) (by decide) rest)]
  rfl

theorem reads_name {name : List Char} (hname : IsFunctionName name) (rest : List Char) :
    Reads firstLine (' ' :: (name ++ '(' :: rest)) [⟨.name name, 1⟩] firstLine ('(' :: rest) := by
  obtain ⟨c, cs, rfl, hstart⟩ := hname.start
  have hc : isWordChar c = true := hname.word c List.mem_cons_self
  have hblank : isLineBlank c = false := by
    simp [isLineBlank, ne_of_isWordChar hc (d := ' ') (by decide),
      ne_of_isWordChar hc (d := '\t') (by decide), ne_of_isWordChar hc (d := '\x0c') (by decide)]
  refine .single ?_ (by simp; omega)
  rw [inLine_space isPlain_firstLine, List.cons_append,
    inLine_eq_tokenAt isPlain_firstLine hblank (ne_of_isWordChar hc (by decide)), ← List.cons_append,
    tokenAt_word hstart hname.word (endsWord_cons (by decide) (by decide) rest), wordToken,
    hname.notReserved]
  simp [hname.identifier, firstLine, LexState.start]

theorem scan_definitionTail (fuel : Nat) :
    Python.scan (fuel + 20) firstLine false definitionTail =
      ⟨(definitionTokens []).drop 2, none⟩ := by
  rfl

theorem lineStart_define (rest : List Char) :
    lineStart firstLine (['d', 'e', 'f'] ++ ' ' :: rest) =
      .more [] firstLine false (['d', 'e', 'f'] ++ ' ' :: rest) := by
  rfl

/-- The tokens of the head of a definition. -/
theorem lex_definition {name : List Char} (hname : IsFunctionName name) :
    (lex 1 true (['d', 'e', 'f', ' '] ++ name ++ definitionTail)).tokens = definitionTokens name := by
  have hreads := (reads_define (name ++ definitionTail)).trans
    (reads_name hname (definitionTail.drop 1))
  obtain ⟨steps, hsteps, hscan⟩ := hreads.scan
  simp only [List.length_append, List.length_cons, definitionTail, List.drop_succ_cons,
    List.drop_zero, List.length_nil] at hsteps
  obtain ⟨fuel, hfuel⟩ : ∃ fuel,
      2 * (['d', 'e', 'f', ' '] ++ name ++ definitionTail).length + 3 = fuel + 20 + steps + 1 := by
    refine ⟨2 * (['d', 'e', 'f', ' '] ++ name ++ definitionTail).length + 3 - 21 - steps, ?_⟩
    simp only [List.length_append, List.length_cons, definitionTail, List.length_nil]
    omega
  have hstart : Python.scan (fuel + 20 + steps + 1) firstLine true
      (['d', 'e', 'f'] ++ ' ' :: (name ++ definitionTail)) =
      Python.scan (fuel + 20 + steps) firstLine false
        (['d', 'e', 'f'] ++ ' ' :: (name ++ definitionTail)) := by
    rw [Python.scan]
    simp only [if_true, lineStart_define, List.nil_append]
  have hshape : ['d', 'e', 'f', ' '] ++ name ++ definitionTail =
      ['d', 'e', 'f'] ++ ' ' :: (name ++ definitionTail) := by
    simp
  have hend := hscan (fuel + 20)
  rw [show '(' :: definitionTail.drop 1 = definitionTail from rfl] at hend
  rw [lex, hfuel, hshape]
  change (Python.scan _ firstLine true _).tokens = _
  rw [hstart, hend, scan_definitionTail]
  rfl

/-- The grammar reads a definition, however many levels it has left. -/
theorem module_definitionTokens (levels : Nat) (name : List Char) :
    (Grammar.level 11 true (levels + 19)).module (definitionTokens name) =
      .ok ([.functionDef false (Parser.identifier name) [] [.pass] [] none], []) := by
  rfl

/-- The head of a definition is read as a definition without parameters. -/
theorem parseModule_definitionHead {name : List Char} (hname : IsFunctionName name) :
    parseModule latestVersion (Inference.definitionHead (Text.ofChars name)) =
      .ok [.functionDef false (Parser.identifier name) [] [.pass] [] none] := by
  have hne : ∀ {c : Char}, isWordChar c = false → c ∉ name := fun hc hmem =>
    ne_of_isWordChar (hname.word _ hmem) hc rfl
  have hnull : (['d', 'e', 'f', ' '] ++ name ++ definitionTail).contains '\x00' = false := by
    simp [definitionTail, hne (c := '\x00') (by decide)]
  have hsource : moduleSource (['d', 'e', 'f', ' '] ++ name ++ definitionTail) =
      ['d', 'e', 'f', ' '] ++ name ++ definitionTail := by
    have hreturn : '\r' ∉ ['d', 'e', 'f', ' '] ++ name ++ definitionTail.dropLast := by
      simp [definitionTail, hne (c := '\r') (by decide)]
    simpa [definitionTail] using moduleSource_append_lineFeed hreturn
  obtain ⟨levels, hlevels⟩ : ∃ levels,
      (['d', 'e', 'f', ' '] ++ name ++ definitionTail).length + 2 = levels + 19 :=
    ⟨name.length, by simp [definitionTail]⟩
  have hmodule := module_definitionTokens levels name
  rw [definitionHead_ofChars, parseModule, sourceChars, Text.chars?_ofChars]
  simp only [hnull, Bool.false_eq_true, if_false]
  change complete (grammarFor 11 _).module
    (lex 1 true (moduleSource (['d', 'e', 'f', ' '] ++ name ++ definitionTail))).tokens = _
  rw [hsource, lex_definition hname, grammarFor, hlevels]
  change (match (Grammar.level 11 true (levels + 19)).module (definitionTokens name) with
    | .ok (a, _) => Except.ok a
    | .error _ => .error SourceFault.grammar) = _
  rw [hmodule]

/-! ## Numbered names -/

/-- No letter is a digit. -/
theorem isDigit_of_isAlpha {c : Char} (h : c.isAlpha = true) : c.isDigit = false := by
  have hbelow : ¬ c.val ≤ '9'.val := by
    intro hle
    rcases Bool.or_eq_true_iff.1 h with h | h
    · have hlow : 'A'.val ≤ c.val := (of_decide_eq_true h).1
      exact absurd (UInt32.le_trans hlow hle) (by decide)
    · have hlow : 'a'.val ≤ c.val := of_decide_eq_true (Bool.and_eq_true_iff.1 h).1
      exact absurd (UInt32.le_trans hlow hle) (by decide)
  simp only [Char.isDigit, Bool.and_eq_false_iff, decide_eq_false_iff_not, ge_iff_le]
  exact Or.inr hbelow

theorem isWordStart_of_isIdentifierStart {c : Char} (h : isIdentifierStart c = true) :
    isWordStart c = true := by
  rw [isIdentifierStart] at h
  cases hascii : isAscii c with
  | true =>
    simp only [hascii, if_true, isAsciiWordStart, Bool.or_eq_true] at h
    rcases h with h | h
    · simp [isWordStart, isWordChar, Char.isAlphanum, h, isDigit_of_isAlpha h]
    · have : c = '_' := by simpa using h
      rw [this]
      decide
  | false =>
    have hdigit : c.isDigit = false := by
      simp only [isAscii, decide_eq_false_iff_not, Nat.not_lt] at hascii
      simp only [Char.isDigit, Bool.and_eq_false_iff, decide_eq_false_iff_not, ge_iff_le]
      right
      intro hle
      have : c.val.toNat ≤ 57 := by simpa using UInt32.le_iff_toNat_le.1 hle
      have hc : c.toNat = c.val.toNat := rfl
      omega
    simp [isWordStart, isWordChar, hascii, hdigit]

theorem isWordChar_of_isIdentifierContinue {c : Char} (h : isIdentifierContinue c = true) :
    isWordChar c = true := by
  rw [isIdentifierContinue] at h
  cases hascii : isAscii c with
  | true =>
    simp only [hascii, if_true, isAsciiWordStart, Bool.or_eq_true] at h
    simp only [isWordChar, Char.isAlphanum, Bool.or_eq_true]
    rcases h with (h | h) | h
    · exact Or.inl (Or.inl (Or.inl h))
    · exact Or.inl (Or.inr h)
    · exact Or.inl (Or.inl (Or.inr h))
  | false => simp [isWordChar, hascii]

theorem isAscii_of_isDigit {c : Char} (h : c.isDigit = true) : isAscii c = true := by
  simp only [Char.isDigit, Bool.and_eq_true, decide_eq_true_eq, ge_iff_le] at h
  have : c.val.toNat ≤ 57 := by simpa using UInt32.le_iff_toNat_le.1 h.2
  have hc : c.toNat = c.val.toNat := rfl
  simp only [isAscii, decide_eq_true_eq]
  omega

theorem isIdentifierContinue_of_isDigit {c : Char} (h : c.isDigit = true) :
    isIdentifierContinue c = true := by
  simp [isIdentifierContinue, isAscii_of_isDigit h, h]

/-- No reserved word has a low line. -/
theorem ofChars?_of_mem_lowLine {word : List Char} (h : '_' ∈ word) : Word.ofChars? word = none := by
  rw [Word.ofChars?, List.find?_eq_none]
  intro w hw heq
  have hnone : ∀ w ∈ Word.all, '_' ∉ w.chars := by decide
  have : w.chars = word := by simpa using heq
  exact hnone w hw (this ▸ h)

/-- An identifier with a low line and digits behind it is a name for a function. -/
theorem isFunctionName_numbered {stem digits : List Char} (hstem : isIdentifier stem = true)
    (hdigits : ∀ c ∈ digits, c.isDigit = true) : IsFunctionName (stem ++ '_' :: digits) := by
  match stem, hstem with
  | c :: cs, hstem =>
    simp only [isIdentifier, Bool.and_eq_true, List.all_eq_true] at hstem
    obtain ⟨hstart, hcontinue⟩ := hstem
    have hword := isWordStart_of_isIdentifierStart hstart
    refine ⟨⟨c, cs ++ '_' :: digits, rfl, hword⟩, ?_, ofChars?_of_mem_lowLine (by simp), ?_⟩
    · intro d hd
      rcases List.mem_append.1 hd with hd | hd
      · rcases List.mem_cons.1 hd with rfl | hd
        · simp only [isWordStart, Bool.and_eq_true] at hword
          exact hword.1
        · exact isWordChar_of_isIdentifierContinue (hcontinue d hd)
      · rcases List.mem_cons.1 hd with rfl | hd
        · decide
        · exact isWordChar_of_isIdentifierContinue (isIdentifierContinue_of_isDigit (hdigits d hd))
    · simp only [List.cons_append, isIdentifier, Bool.and_eq_true, List.all_eq_true]
      refine ⟨hstart, fun d hd => ?_⟩
      rcases List.mem_append.1 hd with hd | hd
      · exact hcontinue d hd
      · rcases List.mem_cons.1 hd with rfl | hd
        · decide
        · exact isIdentifierContinue_of_isDigit (hdigits d hd)

namespace Inference

open Outcome

/-- The prefix of settings is an identifier, as it is in every configuration. -/
def Settings.HasIdentifier (s : Settings) : Prop :=
  Configuration.isIdentifier s.namePrefix = true

theorem hasIdentifier_default : Settings.default.HasIdentifier := by
  rw [Settings.HasIdentifier]
  decide +kernel

/-- Only identifiers are accepted as prefixes. -/
theorem isIdentifier_of_namePrefixOf {v : Value} {t : Text}
    (h : Configuration.namePrefixOf v = .ok (some t)) : Configuration.isIdentifier t = true := by
  obtain ⟨written, -, h⟩ := bind_eq_ok.1 h
  split at h
  · cases h
  · split at h
    · cases h
    · split at h
      case isTrue hidentifier =>
        cases h
        exact hidentifier
      case isFalse => cases h

/-- The options with a prefix that a field sets. -/
def optionsWith (lines : List Text) (version : Option (Int × Int)) (field : Option Value) :
    Except Configuration.SettingFault Options := do
  let namePrefix ←
    match field with
    | some v => Configuration.namePrefixOf v
    | none => pure none
  return ⟨lines, ⟨version, namePrefix.getD Settings.default.namePrefix⟩⟩

theorem hasIdentifier_of_optionsWith {lines : List Text} {version : Option (Int × Int)}
    {field : Option Value} {options : Options} (h : optionsWith lines version field = .ok options) :
    options.settings.HasIdentifier := by
  cases field with
  | none =>
    cases h
    exact hasIdentifier_default
  | some v =>
    obtain ⟨namePrefix, hpicked, h⟩ := bind_eq_ok.1 h
    cases h
    cases namePrefix with
    | none => exact hasIdentifier_default
    | some t => exact isIdentifier_of_namePrefixOf hpicked

/-- The options of every configuration have an identifier as their prefix. -/
theorem hasIdentifier_of_optionsOf {fields : Entries} {options : Options}
    (h : Configuration.optionsOf fields = .ok options) : options.settings.HasIdentifier := by
  obtain ⟨lines, version, h⟩ : ∃ lines version,
      optionsWith lines version (Configuration.field? fields "example_prefix") = .ok options := by
    unfold Configuration.optionsOf at h
    dsimp only at h
    split at h <;> obtain ⟨lines, -, h⟩ := bind_eq_ok.1 h <;> split at h <;>
      obtain ⟨version, -, h⟩ := bind_eq_ok.1 h <;> exact ⟨lines, version, h⟩
  exact hasIdentifier_of_optionsWith h

/-- The characters of the name of a function with a number. -/
def Settings.functionChars (s : Settings) (number : Nat) : List Char :=
  (s.namePrefix.chars?.getD []) ++ '_' :: Nat.toDigits 10 number

/-- The identifier that the function with a number is known by. -/
def Settings.identifier (s : Settings) (number : Nat) : String :=
  Parser.identifier (s.functionChars number)

/-- The identifier that the prefix is read as. -/
def Settings.stem (s : Settings) : String :=
  Parser.identifier (s.namePrefix.chars?.getD [])

/-- The prefix is normalized without regard to the number behind it. -/
theorem Settings.identifier_eq (s : Settings) (number : Nat) :
    s.identifier number = s.stem ++ "_" ++ toString number := by
  have hascii : ∀ c ∈ '_' :: Nat.toDigits 10 number, c.toNat < 128 := by
    intro c hc
    rcases List.mem_cons.1 hc with rfl | hc
    · decide
    · have hdigit := Nat.isDigit_of_mem_toDigits (by decide) (by decide) hc
      simpa [isAscii] using isAscii_of_isDigit hdigit
  have htail : String.ofList ('_' :: Nat.toDigits 10 number) = "_" ++ toString number := by
    rw [Nat.toString_eq_ofList_toDigits, ← List.singleton_append, String.ofList_append]
  rw [identifier, functionChars, Parser.identifier, normalizeIdentifier_append _ hascii,
    String.ofList_append, htail, stem, Parser.identifier, String.append_assoc]

theorem Settings.identifier_injective (s : Settings) : Function.Injective s.identifier := by
  intro m n h
  rw [identifier_eq, identifier_eq] at h
  have hdigits : Nat.toDigits 10 m = Nat.toDigits 10 n := by
    have hchars := congrArg String.toList h
    simp only [String.toList_append, Nat.toString_eq_ofList_toDigits, String.toList_ofList] at hchars
    exact List.append_cancel_left hchars
  have hvalue := congrArg (Nat.ofDigitChars 10 · 0) hdigits
  simpa using hvalue

theorem Settings.functionName_eq {s : Settings} (hs : s.HasIdentifier) (number : Nat) :
    s.functionName number = Text.ofChars (s.functionChars number) ∧
      IsFunctionName (s.functionChars number) := by
  cases hchars : s.namePrefix.chars? with
  | none => simp [HasIdentifier, Configuration.isIdentifier, hchars] at hs
  | some stem =>
    have hstem : isIdentifier stem = true := by
      simpa [HasIdentifier, Configuration.isIdentifier, hchars] using hs
    have hfunction : s.functionChars number = stem ++ '_' :: Nat.toDigits 10 number := by
      simp [functionChars, hchars]
    rw [hfunction]
    refine ⟨?_, isFunctionName_numbered hstem fun c hc =>
      Nat.isDigit_of_mem_toDigits (by decide) (by decide) hc⟩
    rw [functionName, Text.eq_ofChars_of_chars? hchars]
    simp [Text.concat, Text.ofString, Text.ofChars, Text.ofNat]

/-- The statements of the function of an example. -/
def definitionBody (statements : List Stmt) : List Stmt :=
  if statements.isEmpty then [.pass] else statements

/-- The definition of an example: its number is in its name and nowhere else. -/
theorem functionDefinition_functionName {s : Settings} (hs : s.HasIdentifier) (number : Nat)
    (statements : List Stmt) :
    functionDefinition (s.functionName number) statements =
      .ok (s.identifier number,
        .functionDef false (s.identifier number) [] (definitionBody statements) [] none) := by
  obtain ⟨hname, hfunction⟩ := Settings.functionName_eq hs number
  rw [functionDefinition, hname, parseModule_definitionHead hfunction]
  rfl

end Inference

end AnnotatedMarkdown
