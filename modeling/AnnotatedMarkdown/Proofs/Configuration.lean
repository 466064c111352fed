import AnnotatedMarkdown.Proofs.Annotation.Conversion
import AnnotatedMarkdown.Proofs.Compilation.Configuration

/-!
# The format of configurations

A configuration file is blank, or a document that is null or a mapping.  In its section the
version is digits, a point and digits, and the prefix of examples is an identifier; other
values of the prefix are ignored unless they have a text.  This module shows that these
configurations are accepted and no others.

* `dottedNumbers?` reads the versions: `exists_dottedNumbers?` and `isVersion_of_dottedNumbers?`
  are the two directions.
* `Decides` says that an outcome accepts what satisfies a condition and refuses all else.  It is
  kept by sequences (`Decides.bind`), so that one lemma for each setting is enough.
* `load_iff_isDocumented` is the format of files.  It leaves out documents that cannot be loaded for
  other reasons than their grammar, numbers with too many digits, and documents that are empty
  without being null: `load_emptySequence` shows that the last are accepted.
-/

namespace AnnotatedMarkdown.Configuration

open File Generation Inference Outcome

/-! ## The format -/

/-- Whether a code point is a decimal digit of some script. -/
def isDigit (c : CodePoint) : Bool :=
  (c.char?.bind Unicode.digitValue?).isSome

/-- A text that is one or more digits, a point, and one or more digits. -/
structure IsVersion (major minor t : Text) : Prop where
  eq : t = major ++ .scalar '.' :: minor
  major_ne_nil : major ≠ []
  minor_ne_nil : minor ≠ []
  isDigit_major : ∀ c ∈ major, isDigit c = true
  isDigit_minor : ∀ c ∈ minor, isDigit c = true

/-- Whether a value is a text, a number or a truth value. -/
def isScalar : Value → Bool
  | .str _ | .int _ | .float _ | .bool _ => true
  | _ => false

/-- A value that may stand for a version: no number with a fraction, but one with a version for a
text. -/
def IsDocumentedVersion (v : Value) : Prop :=
  (∀ x, v ≠ .float x) ∧ ∃ t major minor, v.plain = some t ∧ IsVersion major minor t.trim

/-- A value that may stand for a prefix: it has no text or an empty one, or its text is an
identifier. -/
def IsDocumentedPrefix (v : Value) : Prop :=
  isScalar v = false ∨ v = .str [] ∨ ∃ t, v.plain = some t ∧ isIdentifier t = true

/-- A section with a version and a prefix as they are documented, unless they are absent or null. -/
structure IsDocumentedSection (section_ : Entries) : Prop where
  version : ∀ v, field? section_ "feature_version" = some v → IsDocumentedVersion v
  namePrefix : ∀ v, field? section_ "example_prefix" = some v → IsDocumentedPrefix v

/-- A text that is a configuration. -/
def IsDocumented (source : Text) : Prop :=
  source.isBlank = true ∨
    ∃ v, Yaml.load source = .ok v ∧
      (v = .none ∨ ∃ root, v = .dict root ∧ IsDocumentedSection (sectionOf root))

/-- A section whose settings have texts that can be written and numbers that can be read. -/
structure IsWritable (section_ : Entries) : Prop where
  prelude : ∀ items, section_.get? (.str "prelude") = some (.list items) ∨
    section_.get? (.str "prelude") = some (.tuple items) →
    ∀ item ∈ items, isScalar item = true → item.plain ≠ none
  version : ∀ v, field? section_ "feature_version" = some v → ∃ t, v.plain = some t ∧
    ∀ major minor, IsVersion major minor t.trim →
      major.length ≤ Python.maxDecimalDigits ∧ minor.length ≤ Python.maxDecimalDigits
  namePrefix : ∀ v, field? section_ "example_prefix" = some v → isScalar v = true → v.plain ≠ none

/-! ## Versions -/

theorem leadingDigits_cons_of_isDigit {c : CodePoint} (h : isDigit c = true) (t : Text) :
    ∃ d, leadingDigits (c :: t) = (d :: (leadingDigits t).1, (leadingDigits t).2) := by
  obtain ⟨d, hd⟩ := Option.isSome_iff_exists.1 h
  exact ⟨d, by rw [leadingDigits, hd]⟩

theorem leadingDigits_cons_of_not_isDigit {c : CodePoint} (h : isDigit c = false) (t : Text) :
    leadingDigits (c :: t) = ([], c :: t) := by
  have hnone : c.char?.bind Unicode.digitValue? = none := by simpa [isDigit] using h
  rw [leadingDigits, hnone]

/-- The digits that a text starts with are read up to what is no digit. -/
theorem leadingDigits_append {digits rest : Text} (hdigits : ∀ c ∈ digits, isDigit c = true)
    (hrest : leadingDigits rest = ([], rest)) :
    ∃ ns, leadingDigits (digits ++ rest) = (ns, rest) ∧ ns.length = digits.length := by
  induction digits with
  | nil => exact ⟨[], hrest, rfl⟩
  | cons c digits ih =>
    obtain ⟨hc, hdigits⟩ := List.forall_mem_cons.1 hdigits
    obtain ⟨ns, hns, hlength⟩ := ih hdigits
    obtain ⟨d, hd⟩ := leadingDigits_cons_of_isDigit hc (digits ++ rest)
    rw [List.cons_append, hd, hns]
    exact ⟨d :: ns, rfl, congrArg (· + 1) hlength⟩

/-- What is read are digits, and as many as there are. -/
theorem exists_leadingDigits (t : Text) :
    ∃ digits, t = digits ++ (leadingDigits t).2 ∧ (∀ c ∈ digits, isDigit c = true) ∧
      (leadingDigits t).1.length = digits.length := by
  induction t with
  | nil => exact ⟨[], rfl, by simp, rfl⟩
  | cons c t ih =>
    cases hc : isDigit c with
    | false =>
      rw [leadingDigits_cons_of_not_isDigit hc]
      exact ⟨[], rfl, by simp, rfl⟩
    | true =>
      obtain ⟨digits, ht, hdigits, hlength⟩ := ih
      obtain ⟨d, hd⟩ := leadingDigits_cons_of_isDigit hc t
      rw [hd]
      refine ⟨c :: digits, ?_, List.forall_mem_cons.2 ⟨hc, hdigits⟩, congrArg (· + 1) hlength⟩
      exact congrArg (c :: ·) ht

/-- The numbers of a version have as many digits as are written. -/
theorem exists_dottedNumbers? {major minor t : Text} (h : IsVersion major minor t) :
    ∃ ms ns, dottedNumbers? t = some (ms, ns) ∧ ms.length = major.length ∧
      ns.length = minor.length := by
  have hpoint : leadingDigits (.scalar '.' :: minor) = ([], .scalar '.' :: minor) :=
    leadingDigits_cons_of_not_isDigit (by decide) minor
  obtain ⟨ms, hms, hmajor⟩ := leadingDigits_append h.isDigit_major hpoint
  have hend : leadingDigits [] = ([], []) := rfl
  obtain ⟨ns, hns, hminor⟩ := leadingDigits_append h.isDigit_minor hend
  rw [List.append_nil] at hns
  have hms_ne : ms ≠ [] := by
    rw [← List.length_pos_iff, hmajor, List.length_pos_iff]
    exact h.major_ne_nil
  have hns_ne : ns ≠ [] := by
    rw [← List.length_pos_iff, hminor, List.length_pos_iff]
    exact h.minor_ne_nil
  refine ⟨ms, ns, ?_, hmajor, hminor⟩
  rw [h.eq, dottedNumbers?, hms]
  simp [hns, hms_ne, hns_ne]

/-- Only versions are read. -/
theorem isVersion_of_dottedNumbers? {t : Text} {pair : List Nat × List Nat}
    (h : dottedNumbers? t = some pair) : ∃ major minor, IsVersion major minor t := by
  obtain ⟨major, ht, hmajor, hms⟩ := exists_leadingDigits t
  unfold dottedNumbers? at h
  dsimp only at h
  split at h
  case h_1 rest hrest =>
    obtain ⟨minor, hrest', hminor, hns⟩ := exists_leadingDigits rest
    split at h
    · cases h
    · next hempty =>
      obtain ⟨⟨hms_ne, hns_ne⟩, hend⟩ : ((leadingDigits t).1 ≠ [] ∧ (leadingDigits rest).1 ≠ []) ∧
          (leadingDigits rest).2 = [] := by
        simpa using hempty
      rw [hend, List.append_nil] at hrest'
      refine ⟨major, minor, ?_, ?_, ?_, hmajor, hminor⟩
      · rw [← hrest', ← hrest]
        exact ht
      · rwa [← List.length_pos_iff, ← hms, List.length_pos_iff]
      · rwa [← List.length_pos_iff, ← hns, List.length_pos_iff]
  case h_2 => cases h

/-! ## Outcomes that decide -/

/-- An outcome that accepts what satisfies a condition, and refuses all else. -/
structure Decides {α : Type} (condition : Prop) (x : Except SettingFault α) : Prop where
  accepts : condition → ∃ a, x = .ok a
  refuses : ¬ condition → ∃ f, x = .error (.refused f)

section

variable {α β : Type} {P Q : Prop} {x : Except SettingFault α} {f : α → Except SettingFault β}

theorem decides_ok (hP : P) (a : α) : Decides P (.ok a) :=
  ⟨fun _ => ⟨a, rfl⟩, fun hnot => absurd hP hnot⟩

theorem decides_refused (hP : ¬ P) (fault : ConfigurationFault) :
    Decides P (.error (.refused fault) : Except SettingFault α) :=
  ⟨fun hP' => absurd hP' hP, fun _ => ⟨fault, rfl⟩⟩

/-- Two outcomes in sequence accept what satisfies both of their conditions. -/
theorem Decides.bind (hx : Decides P x) (hf : ∀ a, Decides Q (f a)) : Decides (P ∧ Q) (x >>= f) := by
  by_cases hP : P
  · obtain ⟨a, rfl⟩ := hx.accepts hP
    exact ⟨fun h => (hf a).accepts h.2, fun hnot => (hf a).refuses fun hQ => hnot ⟨hP, hQ⟩⟩
  · obtain ⟨fault, rfl⟩ := hx.refuses hP
    exact decides_refused (fun h => hP h.1) fault

theorem Decides.congr (hx : Decides P x) (h : P ↔ Q) : Decides Q x :=
  ⟨fun hQ => hx.accepts (h.2 hQ), fun hQ => hx.refuses (mt h.1 hQ)⟩

theorem Decides.map (hx : Decides P x) (g : α → β) : Decides P (g <$> x) := by
  refine ⟨fun hP => ?_, fun hP => ?_⟩
  · obtain ⟨a, rfl⟩ := hx.accepts hP
    exact ⟨g a, rfl⟩
  · obtain ⟨fault, rfl⟩ := hx.refuses hP
    exact ⟨fault, rfl⟩

/-- A field that is absent is accepted. -/
theorem decides_elim {field : Option Value} {condition : Value → Prop}
    {k : Value → Except SettingFault α} (h : ∀ v, field = some v → Decides (condition v) (k v))
    (a : α) : Decides (∀ v, field = some v → condition v) (field.elim (.ok a) k) := by
  cases field with
  | none => exact decides_ok (fun v hv => nomatch hv) a
  | some v =>
    refine (h v rfl).congr ⟨fun hv w hw => ?_, fun hall => hall v rfl⟩
    cases hw
    exact hv

end

/-! ## Settings -/

theorem scalarText?_of_plain {v : Value} (hv : isScalar v = true) {t : Text}
    (ht : v.plain = some t) : scalarText? v = .ok (some t) := by
  cases v with
  | str written =>
    cases ht
    rfl
  | int n => simp [scalarText?, ht]
  | float x => simp [scalarText?, ht]
  | bool b => simp [scalarText?, ht]
  | _ => cases hv

theorem scalarText?_of_not_isScalar {v : Value} (hv : isScalar v = false) :
    scalarText? v = .ok none := by
  cases v <;> first | rfl | cases hv

theorem toChars_ne_nil (x : Binary64) : x.toChars true ≠ [] := by
  have hmagnitude : ∀ d, Binary64.magnitudeText true d ≠ [] := by
    intro d
    unfold Binary64.magnitudeText
    dsimp only
    split
    · split <;> simp
    · simp
  cases x <;> simp [Binary64.toChars, hmagnitude]

/-- Of the texts, the numbers and the truth values, only the empty text has an empty text. -/
theorem eq_of_plain_eq_nil {v : Value} (hv : isScalar v = true) (h : v.plain = some []) :
    v = .str [] := by
  cases v with
  | str t =>
    cases h
    rfl
  | int n =>
    have hdigits : Nat.toDigits 10 n.natAbs ≠ [] := List.length_pos_iff.1 Nat.length_toDigits_pos
    have htext : decimalText? n = some [] := h
    unfold decimalText? at htext
    dsimp only at htext
    split at htext
    · have hchars := List.map_eq_nil_iff.1 (Option.some.inj htext)
      split at hchars
      · cases hchars
      · exact absurd hchars hdigits
    · cases htext
  | float x =>
    have htext : Text.ofChars (x.toChars true) = [] := Option.some.inj h
    exact absurd (List.map_eq_nil_iff.1 htext) (toChars_ne_nil x)
  | bool b => cases b <;> cases h
  | _ => cases hv

theorem exists_scalarTexts {items : List Value}
    (h : ∀ item ∈ items, isScalar item = true → item.plain ≠ none) :
    ∃ ts, scalarTexts items = .ok ts := by
  induction items with
  | nil => exact ⟨[], rfl⟩
  | cons v items ih =>
    obtain ⟨hv, hitems⟩ := List.forall_mem_cons.1 h
    obtain ⟨ts, hts⟩ := ih hitems
    cases hscalar : isScalar v with
    | false =>
      rw [scalarTexts, scalarText?_of_not_isScalar hscalar, hts]
      exact ⟨_, rfl⟩
    | true =>
      obtain ⟨t, ht⟩ := Option.ne_none_iff_exists'.1 (hv hscalar)
      rw [scalarTexts, scalarText?_of_plain hscalar ht, hts]
      exact ⟨_, rfl⟩

/-- Every prelude is accepted. -/
theorem exists_preludeOf {v : Value}
    (h : ∀ items, v = .list items ∨ v = .tuple items →
      ∀ item ∈ items, isScalar item = true → item.plain ≠ none) :
    ∃ lines, preludeOf v = .ok lines := by
  cases v with
  | list items => exact exists_scalarTexts (h items (Or.inl rfl))
  | tuple items => exact exists_scalarTexts (h items (Or.inr rfl))
  | _ => exact ⟨_, rfl⟩

theorem decides_versionOf {v : Value} {t : Text} (ht : v.plain = some t)
    (hdigits : ∀ major minor, IsVersion major minor t.trim →
      major.length ≤ Python.maxDecimalDigits ∧ minor.length ≤ Python.maxDecimalDigits) :
    Decides (IsDocumentedVersion v) (versionOf v) := by
  by_cases hfloat : ∃ x, v = .float x
  · obtain ⟨x, rfl⟩ := hfloat
    exact decides_refused (fun h => h.1 x rfl) _
  · unfold versionOf
    split
    · next x => exact absurd ⟨x, rfl⟩ hfloat
    · rw [ht]
      dsimp only
      cases hnumbers : dottedNumbers? t.trim with
      | none =>
        refine decides_refused ?_ _
        rintro ⟨-, other, major, minor, hother, hversion⟩
        cases ht.symm.trans hother
        obtain ⟨ms, ns, hread, -⟩ := exists_dottedNumbers? hversion
        cases hnumbers.symm.trans hread
      | some pair =>
        obtain ⟨major, minor, hversion⟩ := isVersion_of_dottedNumbers? hnumbers
        obtain ⟨ms, ns, hread, hms, hns⟩ := exists_dottedNumbers? hversion
        obtain ⟨hmajor, hminor⟩ := hdigits major minor hversion
        cases hnumbers.symm.trans hread
        dsimp only
        rw [if_pos (by omega)]
        exact decides_ok ⟨fun x hx => hfloat ⟨x, hx⟩, t, major, minor, ht, hversion⟩ _

theorem decides_namePrefixOf {v : Value} (h : isScalar v = true → v.plain ≠ none) :
    Decides (IsDocumentedPrefix v) (namePrefixOf v) := by
  cases hscalar : isScalar v with
  | false =>
    rw [namePrefixOf, scalarText?_of_not_isScalar hscalar]
    exact decides_ok (Or.inl hscalar) _
  | true =>
    obtain ⟨t, ht⟩ := Option.ne_none_iff_exists'.1 (h hscalar)
    rw [namePrefixOf, scalarText?_of_plain hscalar ht]
    change Decides _ (if t.isEmpty then .ok none else
      if isIdentifier t then .ok (some t) else .error (.refused (.namePrefix t)))
    split
    · next hempty =>
      rw [List.isEmpty_iff.1 hempty] at ht
      exact decides_ok (Or.inr (Or.inl (eq_of_plain_eq_nil hscalar ht))) _
    · next hempty =>
      split
      · next hidentifier => exact decides_ok (Or.inr (Or.inr ⟨t, ht, hidentifier⟩)) _
      · next hidentifier =>
        refine decides_refused ?_ _
        rintro (hnone | rfl | ⟨other, hother, hother'⟩)
        · rw [hnone] at hscalar
          cases hscalar
        · cases ht
          exact hempty rfl
        · cases ht.symm.trans hother
          exact hidentifier hother'

/-- The stages in which the options of a section are read. -/
theorem optionsOf_eq (section_ : Entries) :
    optionsOf section_ = (do
      let lines ← (section_.get? (.str "prelude")).elim (.ok defaultPrelude)
        fun v => (preludeOf v).mapError .defect
      let version ← (field? section_ "feature_version").elim (.ok none) fun v => some <$> versionOf v
      let namePrefix ← (field? section_ "example_prefix").elim (.ok none) namePrefixOf
      .ok ⟨lines, ⟨version, namePrefix.getD Settings.default.namePrefix⟩⟩) := by
  unfold optionsOf
  dsimp only
  cases section_.get? (.str "prelude") <;> cases field? section_ "feature_version" <;>
    cases field? section_ "example_prefix" <;> rfl

/-- The options of a section that can be written are decided by its version and its prefix. -/
theorem decides_optionsOf {section_ : Entries} (h : IsWritable section_) :
    Decides (IsDocumentedSection section_) (optionsOf section_) := by
  have hlines : ∀ v, section_.get? (.str "prelude") = some v →
      Decides True ((preludeOf v).mapError .defect) := by
    intro v hv
    obtain ⟨lines, hlines⟩ : ∃ lines, preludeOf v = .ok lines := by
      refine exists_preludeOf fun items hitems => h.prelude items ?_
      rcases hitems with rfl | rfl
      · exact Or.inl hv
      · exact Or.inr hv
    rw [hlines]
    exact decides_ok trivial lines
  have hversion : ∀ v, field? section_ "feature_version" = some v →
      Decides (IsDocumentedVersion v) (some <$> versionOf v) := by
    intro v hv
    obtain ⟨t, ht, hdigits⟩ := h.version v hv
    exact (decides_versionOf ht hdigits).map some
  have hprefix : ∀ v, field? section_ "example_prefix" = some v →
      Decides (IsDocumentedPrefix v) (namePrefixOf v) :=
    fun v hv => decides_namePrefixOf (h.namePrefix v hv)
  rw [optionsOf_eq]
  refine ((decides_elim hlines _).bind fun lines => (decides_elim hversion _).bind fun version =>
    (decides_elim hprefix _).bind fun namePrefix => decides_ok trivial _).congr ?_
  constructor
  · rintro ⟨-, hversions, hprefixes, -⟩
    exact ⟨hversions, hprefixes⟩
  · intro hdocumented
    exact ⟨fun _ _ => trivial, hdocumented.version, hdocumented.namePrefix, trivial⟩

/-! ## Files -/

/-- A text that is loaded without a defect, whose document is null or a mapping if it is empty,
and whose section can be written. -/
structure IsOrdinary (source : Text) : Prop where
  loads : ∀ d, Yaml.load source ≠ .error (.defect d)
  root : ∀ v, Yaml.load source = .ok v → v.isTruthy = false → v = .none ∨ ∃ root, v = .dict root
  writable : ∀ root, Yaml.load source = .ok (.dict root) → IsWritable (sectionOf root)

section

variable {source : Text} (file : Text) (hblank : source.isBlank = false)
include hblank

theorem isDocumented_iff_of_not_isBlank :
    IsDocumented source ↔ ∃ v, Yaml.load source = .ok v ∧
      (v = .none ∨ ∃ root, v = .dict root ∧ IsDocumentedSection (sectionOf root)) := by
  simp [IsDocumented, hblank]

theorem read_of_load_dict {root : Entries} (h : Yaml.load source = .ok (.dict root)) :
    read file source = optionsOf (sectionOf root) := by
  have hfields : fieldsOf file source = .ok root := by
    rw [fieldsOf, if_neg (by simp [hblank]), h]
  rw [read, hfields]
  rfl

/-- A document that is no mapping is refused unless it is zero or empty. -/
theorem read_of_load {v : Value} (h : Yaml.load source = .ok v) (hv : ∀ root, v ≠ .dict root) :
    read file source =
      if v.isTruthy then .error (.refused (.notMapping file)) else optionsOf [] := by
  have hfields : fieldsOf file source =
      if v.isTruthy then .error (.refused (.notMapping file)) else .ok [] := by
    rw [fieldsOf, if_neg (by simp [hblank]), h]
    cases v with
    | dict root => exact absurd rfl (hv root)
    | _ => rfl
  rw [read, hfields]
  split <;> rfl

theorem read_of_malformed (h : Yaml.load source = .error .malformed) :
    read file source = .error (.refused (.malformed file)) := by
  have hfields : fieldsOf file source = .error (.refused (.malformed file)) := by
    rw [fieldsOf, if_neg (by simp [hblank]), h]
  rw [read, hfields]
  rfl

end

theorem decides_read (file : Text) {source : Text} (h : source.isBlank = false → IsOrdinary source) :
    Decides (IsDocumented source) (read file source) := by
  cases hblank : source.isBlank with
  | true =>
    have hfields : fieldsOf file source = .ok [] := if_pos hblank
    rw [read, hfields]
    exact decides_ok (Or.inl hblank) _
  | false =>
    have hordinary := h hblank
    have hdocumented := isDocumented_iff_of_not_isBlank hblank
    cases hload : Yaml.load source with
    | error fault =>
      cases fault with
      | malformed =>
        rw [read_of_malformed file hblank hload]
        refine decides_refused ?_ _
        rw [hdocumented, hload]
        rintro ⟨v, hv, -⟩
        cases hv
      | defect d => exact absurd hload (hordinary.loads d)
    | ok v =>
      rw [hload] at hdocumented
      by_cases hdict : ∃ root, v = .dict root
      · obtain ⟨root, rfl⟩ := hdict
        rw [read_of_load_dict file hblank hload]
        refine (decides_optionsOf (hordinary.writable root hload)).congr ?_
        rw [hdocumented]
        constructor
        · exact fun hsection => ⟨_, rfl, Or.inr ⟨root, rfl, hsection⟩⟩
        · rintro ⟨v, hv, hnone | ⟨other, hother, hsection⟩⟩
          · rw [hnone] at hv
            cases hv
          · rw [hother] at hv
            cases hv
            exact hsection
      · have hother : ∀ root, v ≠ .dict root := fun root hroot => hdict ⟨root, hroot⟩
        rw [read_of_load file hblank hload hother]
        split
        · next htruthy =>
          refine decides_refused ?_ _
          rw [hdocumented]
          rintro ⟨w, hw, hnone | ⟨root, hroot, -⟩⟩
          · rw [hnone] at hw
            cases hw
            cases htruthy
          · rw [hroot] at hw
            cases hw
            exact hother root rfl
        · next hfalsy =>
          have hnone : v = .none := by
            rcases hordinary.root v hload (by simpa using hfalsy) with hnone | hroot
            · exact hnone
            · exact absurd hroot hdict
          exact decides_ok (hdocumented.2 ⟨v, rfl, Or.inl hnone⟩) _

/-- The configuration of a file that is there and holds a text. -/
theorem load_of_readText {t : Tree} {p : Path} {place : Place} {source : Text}
    (hplace : t.spelledFromHome? p = some place) (hpresent : t.isPresent (fileFor t place) = true)
    (hsource : readText t (Tree.absolute (fileFor t place)) = .ok source) :
    (∀ options, read (fileFor t place).name source = .ok options →
      load t p = .ok ⟨(fileFor t place).parent, options⟩) ∧
    ∀ f, read (fileFor t place).name source = .error (.refused f) →
      load t p = .error (.configuration f) := by
  unfold load
  rw [hplace]
  dsimp only
  rw [if_pos hpresent, hsource, ok_bind]
  constructor
  · intro options hread
    rw [hread]
    rfl
  · intro f hread
    rw [hread]
    rfl

/-- The configuration files that are accepted, of those that are there and hold a text. -/
theorem load_iff_isDocumented {t : Tree} {p : Path} {place : Place} {source : Text}
    (hplace : t.spelledFromHome? p = some place) (hpresent : t.isPresent (fileFor t place) = true)
    (hsource : readText t (Tree.absolute (fileFor t place)) = .ok source)
    (hordinary : source.isBlank = false → IsOrdinary source) :
    ((∃ c, load t p = .ok c) ↔ IsDocumented source) ∧
      (¬ IsDocumented source → ∃ f, load t p = .error (.configuration f)) := by
  obtain ⟨hok, hrefused⟩ := load_of_readText hplace hpresent hsource
  have hdecides := decides_read (fileFor t place).name hordinary
  have hrefuses : ¬ IsDocumented source → ∃ f, load t p = .error (.configuration f) := by
    intro hnot
    obtain ⟨f, hf⟩ := hdecides.refuses hnot
    exact ⟨f, hrefused f hf⟩
  refine ⟨⟨?_, fun hdocumented => ?_⟩, hrefuses⟩
  · rintro ⟨c, hc⟩
    by_contra hnot
    obtain ⟨f, hf⟩ := hrefuses hnot
    cases hc.symm.trans hf
  · obtain ⟨options, hoptions⟩ := hdecides.accepts hdocumented
    exact ⟨_, hok options hoptions⟩

/-- The directory that files stand in. -/
def workDirectory : Place :=
  ["w"]

/-- A working directory with a configuration file. -/
def configured (source : String) : Tree :=
  ⟨workDirectory, workDirectory, [(workDirectory ++ [fileName], .file source.toUTF8)]⟩

theorem fileFor_configured (source : String) :
    (configured source).spelledFromHome? (.ofText ".") = some workDirectory ∧
      (configured source).isPresent (fileFor (configured source) workDirectory) = true :=
  ⟨rfl, rfl⟩

/-- A configuration with a version. -/
def versionText : String :=
  "codegen: \x7bfeature_version: '3.8'\x7d\n"

theorem load_versionText :
    Yaml.load versionText =
      .ok (.dict [.mk (.str "codegen") (.dict [.mk (.str "feature_version") (.str "3.8")])]) := by
  have hn : (Yaml.tokensOf versionText.toList >>= Yaml.Node.ofTokens?) =
      .ok (some (.mapping .map [.mk (.scalar .str "codegen") (.mapping .map
        [.mk (.scalar .str "feature_version") (.scalar .str "3.8")])])) :=
    toOption_eq_some_iff.1 (by decide +kernel)
  rw [Yaml.load_of_node (by decide +kernel) (by decide +kernel) hn]
  simp only [Yaml.Node.merged, Yaml.flattened?, Yaml.splitMerges, Yaml.Node.tag]
  rfl

theorem isDocumentedVersion_str : IsDocumentedVersion (.str "3.8") := by
  refine ⟨(fun x hx => nomatch hx), "3.8", "3", "8", rfl, ?_⟩
  constructor <;> decide +kernel

theorem isOrdinary_versionText : IsOrdinary versionText where
  loads d hd := by
    rw [load_versionText] at hd
    cases hd
  root v hv hfalsy := by
    rw [load_versionText] at hv
    cases hv
    cases hfalsy
  writable root hroot := by
    rw [load_versionText] at hroot
    cases hroot
    refine ⟨fun items hitems => ?_, fun v hv => ?_, fun v hv => ?_⟩
    · rcases hitems with hitems | hitems <;> cases hitems
    · cases hv
      refine ⟨"3.8", rfl, fun major minor h => ?_⟩
      have hlength : (Text.trim "3.8").length = 3 := by decide +kernel
      rw [h.eq, List.length_append, List.length_cons] at hlength
      have hmax : Python.maxDecimalDigits = 4300 := rfl
      omega
    · cases hv

theorem load_iff_isDocumented_versionText :
    (configured versionText).spelledFromHome? (.ofText ".") = some workDirectory ∧
      (configured versionText).isPresent (fileFor (configured versionText) workDirectory) = true ∧
      readText (configured versionText)
        (Tree.absolute (fileFor (configured versionText) workDirectory)) =
          .ok (Text.ofString versionText) ∧
      IsOrdinary versionText ∧ ∃ c, load (configured versionText) (.ofText ".") = .ok c := by
  obtain ⟨hplace, hpresent⟩ := fileFor_configured versionText
  have hsource : readText (configured versionText)
      (Tree.absolute (fileFor (configured versionText) workDirectory)) =
        .ok (Text.ofString versionText) :=
    toOption_eq_some_iff.1 (by decide +kernel)
  obtain ⟨hiff, -⟩ := load_iff_isDocumented hplace hpresent hsource fun _ => isOrdinary_versionText
  refine ⟨hplace, hpresent, hsource, isOrdinary_versionText, hiff.2 (Or.inr ?_)⟩
  refine ⟨_, load_versionText, Or.inr ⟨_, rfl, ?_, fun v hv => ?_⟩⟩
  · intro v hv
    cases hv
    exact isDocumentedVersion_str
  · cases hv

/-- An empty sequence is accepted, although it is neither null nor a mapping. -/
theorem load_emptySequence :
    (configured "[]\n").spelledFromHome? (.ofText ".") = some workDirectory ∧
      readText (configured "[]\n")
        (Tree.absolute (fileFor (configured "[]\n") workDirectory)) = .ok (Text.ofString "[]\n") ∧
      ¬ IsDocumented "[]\n" ∧
      (∃ c, load (configured "[]\n") (.ofText ".") = .ok c) := by
  obtain ⟨hplace, hpresent⟩ := fileFor_configured "[]\n"
  have hsource : readText (configured "[]\n")
      (Tree.absolute (fileFor (configured "[]\n") workDirectory)) = .ok (Text.ofString "[]\n") :=
    toOption_eq_some_iff.1 (by decide +kernel)
  have hblank : Text.isBlank "[]\n" = false := by decide +kernel
  have hload : Yaml.load "[]\n" = .ok (.list []) := by
    have hn : (Yaml.tokensOf "[]\n".toList >>= Yaml.Node.ofTokens?) =
        .ok (some (.sequence .seq [])) :=
      toOption_eq_some_iff.1 (by decide +kernel)
    rw [Yaml.load_of_node (by decide +kernel) (by decide +kernel) hn]
    simp only [Yaml.Node.merged, Yaml.mergedItems, Yaml.Tag.holdsPairs, Bool.false_eq_true, if_false]
    rfl
  refine ⟨hplace, hsource, ?_, _, (load_of_readText hplace hpresent hsource).1 .default ?_⟩
  · rw [isDocumented_iff_of_not_isBlank hblank, hload]
    rintro ⟨v, hv, rfl | ⟨root, rfl, -⟩⟩ <;> cases hv
  · refine read_of_load _ hblank hload fun root hroot => ?_
    cases hroot

end AnnotatedMarkdown.Configuration
