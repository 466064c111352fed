import AnnotatedMarkdown.Proofs.Annotation.LongInteger
import AnnotatedMarkdown.Proofs.CommandLine
import AnnotatedMarkdown.Proofs.Compilation.Independence
import AnnotatedMarkdown.Proofs.Inference.Derivation
import AnnotatedMarkdown.Proofs.Text.Trimming
import AnnotatedMarkdown.Proofs.Yaml.Defect

/-!
# Failures of compilation

Compilation ends in a module, in a diagnostic, or in a defect that is no diagnostic.  Here every
defect is traced back to what causes it in the text.

* `Text.IsUnreadable` holds of texts that are read as Python by no grammar, and
  `Record.Causes` lists what in a record is the cause of a defect.
* `IsEncodingFault` says why a value is not encoded.
* `Failure.IsDueTo` joins diagnostics and defects with a cause.  There is one lemma for each stage
  of compilation, from `isDueTo_entity` to `isDueTo_compile`.
* `CommandLine.AsksFor` describes the runs of the command that compile a text, and
  `compile_default_cases` says how texts compile and how these runs end.
-/

namespace AnnotatedMarkdown

open Inference Generation Python Documentation Outcome

/-! ## Texts that are read as Python -/

/-- A text is read as Python by no grammar. -/
inductive Text.IsUnreadable (t : Text) : Defect → Prop
  | null : .scalar '\x00' ∈ t → IsUnreadable t .nullCharacter
  | surrogate {c : CodePoint} : c ∈ t → c.char? = none → IsUnreadable t .loneSurrogate

theorem Text.exists_surrogate {t : Text} (h : t.chars? = none) : ∃ c ∈ t, c.char? = none := by
  induction t with
  | nil => cases h
  | cons c t ih =>
    cases hc : c.char? with
    | none => exact ⟨c, List.mem_cons_self, hc⟩
    | some d =>
      have hrest : Text.chars? t = none := by
        cases hcs : Text.chars? t with
        | none => rfl
        | some cs =>
          unfold Text.chars? at h hcs
          rw [List.mapM_cons, hc, hcs] at h
          cases h
      obtain ⟨e, he, hchar⟩ := ih hrest
      exact ⟨e, List.mem_cons_of_mem c he, hchar⟩

theorem Text.IsUnreadable.mono {s t : Text} {d : Defect} (h : s.IsUnreadable d)
    (hst : ∀ c ∈ s, c ∈ t) : t.IsUnreadable d := by
  cases h with
  | null hmem => exact .null (hst _ hmem)
  | surrogate hmem hc => exact .surrogate (hst _ hmem) hc

/-- What stands against the reading of a text: a fault that has nothing to do with its grammar is in
the text itself. -/
def Python.SourceFault.IsFound (t : Text) : SourceFault → Prop
  | .surrogate => t.IsUnreadable .loneSurrogate
  | .null => t.IsUnreadable .nullCharacter
  | .grammar => True

theorem isFound_sourceChars {t : Text} {fault : SourceFault} (h : sourceChars t = .error fault) :
    fault.IsFound t := by
  unfold sourceChars at h
  split at h
  · next hchars =>
    cases h
    obtain ⟨c, hmem, hc⟩ := Text.exists_surrogate hchars
    exact .surrogate hmem hc
  · next cs hchars =>
    split at h
    · next hnull =>
      cases h
      obtain rfl := Text.eq_ofChars_of_chars? hchars
      exact .null (List.mem_map_of_mem (by simpa using hnull))
    · cases h

theorem isFound_complete {α : Type} {p : Parser α} {tokens : List Token} {t : Text} {fault : SourceFault}
    (h : complete p tokens = .error fault) : fault.IsFound t := by
  unfold complete at h
  split at h
  · cases h
  · cases h
    trivial

theorem isFound_parseModule {version : Nat} {t : Text} {fault : SourceFault}
    (h : parseModule version t = .error fault) : fault.IsFound t := by
  rcases bind_eq_error.1 h with h | ⟨cs, -, h⟩
  · exact isFound_sourceChars h
  · exact isFound_complete h

theorem isFound_parseExpression {t : Text} {fault : SourceFault} (h : parseExpression t = .error fault) :
    fault.IsFound t := by
  rcases bind_eq_error.1 h with h | ⟨cs, -, h⟩
  · exact isFound_sourceChars h
  · exact isFound_complete h

/-! ## Failures with a cause -/

/-- The diagnostics that concern a text, not the use of the compiler. -/
def Diagnostic.concernsText : Diagnostic → Bool
  | .general _ => false
  | .usage _ => false
  | _ => true

/-- A failure is a diagnostic that concerns a text, or a defect with a cause. -/
inductive Failure.IsDueTo (cause : Defect → Prop) : Failure → Prop
  | diagnostic {d : Diagnostic} : d.concernsText = true → IsDueTo cause (.diagnostic d)
  | defect {d : Defect} : cause d → IsDueTo cause (.defect d)

theorem Failure.IsDueTo.mono {cause wider : Defect → Prop} {f : Failure} (h : f.IsDueTo cause)
    (hcause : ∀ d, cause d → wider d) : f.IsDueTo wider := by
  cases h with
  | diagnostic hd => exact .diagnostic hd
  | defect hd => exact .defect (hcause _ hd)

theorem isDueTo_sourceFailure {t : Text} {fault : SourceFault} (h : fault.IsFound t) {d : Diagnostic}
    (hd : d.concernsText = true) : (sourceFailure d fault).IsDueTo t.IsUnreadable := by
  cases fault with
  | surrogate => exact .defect h
  | null => exact .defect h
  | grammar => exact .diagnostic hd

theorem isDueTo_parseReference {t : Text} {f : Failure} (h : parseReference t = .error f) :
    f.IsDueTo t.IsUnreadable := by
  rcases bind_eq_error.1 h with h | ⟨statements, -, h⟩
  · obtain ⟨fault, hfault, rfl⟩ := mapError_eq_error.1 h
    exact isDueTo_sourceFailure (isFound_parseModule hfault) rfl
  · split at h
    · cases h
    · cases h
      exact .diagnostic rfl

theorem isDueTo_parseDeferred {t : Text} {f : Failure} (h : parseDeferred t = .error f) :
    f.IsDueTo t.IsUnreadable := by
  obtain ⟨fault, hfault, rfl⟩ := mapError_eq_error.1 h
  apply (isDueTo_sourceFailure (isFound_parseExpression hfault) rfl).mono
  intro d hd
  exact hd.mono fun c hc => Text.mem_of_mem_trim hc

/-! ## Causes in a record -/

/-- What in a record is the cause of a defect. -/
inductive Record.Causes (r : Record) : Defect → Prop
  | block {d : Defect} : Yaml.load r.metadata = .error (.defect d) → Yaml.IsDefect d → r.Causes d
  | integer {v : Value} : Yaml.load r.metadata = .ok v → v.HasLongInteger → r.Causes .tooManyDigits
  | reference {d : Defect} : r.reference.IsUnreadable d → r.Causes d
  | deferred {fields : Entries} {source : Text} {d : Defect} : Metadata.ofBlock r.metadata = .ok fields →
      (Value.deferred source).IsWithin (.dict fields) → source.IsUnreadable d → r.Causes d
  | sample {e : Example} {d : Defect} : e ∈ Markdown.examples r.documentation →
      e.source.IsUnreadable d → r.Causes d
  | sampleName {e : Example} {name : Text} : e ∈ Markdown.examples r.documentation →
      e.name = some name → .scalar '\x00' ∈ name → r.Causes .nullCharacter
  | identifier {e : Example} {body : Module} : e ∈ Markdown.examples r.documentation →
      parseModule latestVersion e.source = .ok body → bodyFault? body = some .reservedIdentifier →
      r.Causes .reservedIdentifier

/-! ## Encoded values -/

/-- Why a value is not encoded: a deferred text or another value within it has no expression, or an
integer has no text. -/
inductive IsEncodingFault (v : Value) : Failure → Prop
  | deferred {source : Text} {f : Failure} : (Value.deferred source).IsWithin v →
      parseDeferred source = .error f → IsEncodingFault v f
  | unsupported (w : Value) : IsEncodingFault v (.diagnostic (.unsupported w))
  | integer : v.HasLongInteger → IsEncodingFault v (.defect .tooManyDigits)

theorem IsEncodingFault.of_isWithin {v w : Value} {f : Failure} (h : IsEncodingFault v f)
    (hvw : v.IsWithin w) : IsEncodingFault w f := by
  cases h with
  | deferred hsource hf => exact .deferred (hsource.trans hvw) hf
  | unsupported u => exact .unsupported u
  | integer hlong => exact .integer (hlong.of_isWithin hvw)

theorem isEncodingFault_unsupported (v : Value) : IsEncodingFault v (.unsupported v) := by
  unfold Failure.unsupported
  split
  · exact .unsupported v
  · next hdisplay => exact .integer (hasLongInteger_of_display v hdisplay)

theorem keyText_eq_error {key : Value} {f : Failure} (h : keyText key = .error f) :
    IsEncodingFault key f := by
  unfold keyText at h
  split at h
  · cases h
  · next hplain =>
    cases h
    exact .integer (hasLongInteger_of_plain hplain)

theorem exists_of_encodeAll_eq_error {vs : List Value} {f : Failure}
    (h : (encodeAll vs).outcome = .error f) : ∃ v ∈ vs, (encode v).outcome = .error f := by
  induction vs with
  | nil => cases h
  | cons v vs ih =>
    rw [encodeAll, Encoding.outcome_bind] at h
    rcases bind_eq_error.1 h with h | ⟨e, -, h⟩
    · exact ⟨v, List.mem_cons_self, h⟩
    · rw [Encoding.outcome_bind] at h
      rcases bind_eq_error.1 h with h | ⟨es, -, h⟩
      · obtain ⟨w, hw, hfault⟩ := ih h
        exact ⟨w, List.mem_cons_of_mem v hw, hfault⟩
      · cases h

theorem exists_of_encodeEntries_eq_error {entries : Entries} {f : Failure}
    (h : (encodeEntries entries).outcome = .error f) :
    ∃ e ∈ entries, keyText e.key = .error f ∨ (encode e.value).outcome = .error f := by
  induction entries with
  | nil => cases h
  | cons e entries ih =>
    obtain ⟨k, v⟩ := e
    rw [encodeEntries, Encoding.outcome_bind] at h
    rcases bind_eq_error.1 h with h | ⟨key, -, h⟩
    · exact ⟨_, List.mem_cons_self, Or.inl h⟩
    · rw [Encoding.outcome_bind] at h
      rcases bind_eq_error.1 h with h | ⟨value, -, h⟩
      · exact ⟨_, List.mem_cons_self, Or.inr h⟩
      · rw [Encoding.outcome_bind] at h
        rcases bind_eq_error.1 h with h | ⟨items, -, h⟩
        · obtain ⟨d, hd, hfault⟩ := ih h
          exact ⟨d, List.mem_cons_of_mem _ hd, hfault⟩
        · cases h

theorem sizeOf_value_lt {e : Entry} {entries : List Entry} (h : e ∈ entries) :
    sizeOf e.value < sizeOf entries := by
  have hentry := List.sizeOf_lt_of_mem h
  cases e
  simp only [Entry.value, Entry.mk.sizeOf_spec] at hentry ⊢
  omega

/-- A value is not encoded for such a fault. -/
theorem isEncodingFault_encode : (v : Value) → ∀ {f}, (encode v).outcome = .error f → IsEncodingFault v f
  | .list items, f, h => by
    rw [encode, Encoding.outcome_bind] at h
    rcases bind_eq_error.1 h with h | ⟨es, -, h⟩
    · obtain ⟨v, hv, h⟩ := exists_of_encodeAll_eq_error h
      exact (isEncodingFault_encode v h).of_isWithin (.list hv .whole)
    · cases h
  | .tuple items, f, h => by
    rw [encode, Encoding.outcome_bind] at h
    rcases bind_eq_error.1 h with h | ⟨es, -, h⟩
    · obtain ⟨v, hv, h⟩ := exists_of_encodeAll_eq_error h
      exact (isEncodingFault_encode v h).of_isWithin (.tuple hv .whole)
    · cases h
  | .dict entries, f, h => by
    rw [encode, Encoding.outcome_bind] at h
    rcases bind_eq_error.1 h with h | ⟨es, -, h⟩
    · obtain ⟨e, he, h | h⟩ := exists_of_encodeEntries_eq_error h
      · exact (keyText_eq_error h).of_isWithin (.key he .whole)
      · exact (isEncodingFault_encode e.value h).of_isWithin (.value he .whole)
    · cases h
  | .deferred source, f, h => .deferred .whole (map_eq_error.1 h)
  | .raw _ _, f, h | .bool _, f, h | .str _, f, h | .int _, f, h | .float _, f, h => by
    cases h
  | .none, f, h | .bytes _, f, h | .date _, f, h | .dateTime _, f, h | .set _, f, h
  | .object _ _, f, h => by
    cases h
    exact isEncodingFault_unsupported _
termination_by v => sizeOf v
decreasing_by
  · have hlt := List.sizeOf_lt_of_mem hv
    simp only [Value.list.sizeOf_spec]
    omega
  · have hlt := List.sizeOf_lt_of_mem hv
    simp only [Value.tuple.sizeOf_spec]
    omega
  · have hlt := sizeOf_value_lt he
    simp only [Value.dict.sizeOf_spec]
    omega

/-! ## Stages -/

section

variable {r : Record} {e : Entity} {f : Failure}

theorem isDueTo_entity (h : r.entity = .error f) : f.IsDueTo r.Causes := by
  cases f with
  | defect d =>
    rcases entity_eq_defect h with hload | ⟨rfl, v, hload, hlong⟩
    · exact .defect (.block hload (Yaml.raises_load _ _ hload))
    · exact .defect (.integer hload hlong)
  | diagnostic d =>
    refine .diagnostic ?_
    unfold Record.entity at h
    split at h <;> cases h
    rfl

theorem isDueTo_examine {reference : Text} {sample : Example}
    (hsample : sample ∈ Markdown.examples r.documentation)
    (h : examine .default reference sample = .error f) : f.IsDueTo r.Causes := by
  rcases bind_eq_error.1 h with h | ⟨body, hbody, h⟩
  · obtain ⟨fault, hfault, rfl⟩ := mapError_eq_error.1 h
    have hfound := isFound_parseModule hfault
    cases fault with
    | surrogate => exact .defect (.sample hsample hfound)
    | null => exact .defect (.sample hsample hfound)
    | grammar => exact .diagnostic rfl
  · split at h
    · next hnull =>
      cases h
      cases hname : sample.name with
      | none =>
        rw [hname] at hnull
        cases hnull
      | some name =>
        rw [hname] at hnull
        exact .defect (.sampleName hsample hname (by simpa using hnull))
    · split at h
      · cases h
        exact .diagnostic rfl
      · next hreserved =>
        cases h
        exact .defect (.identifier hsample (mapError_eq_ok.1 hbody) hreserved)
      · cases h

theorem isDueTo_examineEntity (he : r.entity = .ok e) (h : examineEntity .default e = .error f) :
    f.IsDueTo r.Causes := by
  obtain ⟨fields, -, rfl⟩ := exists_fields_of_entity he
  rw [examineEntity, map_eq_error] at h
  unfold examined at h
  split at h
  · next documentation hdocumentation =>
    have hne : Value.str (Text.ofString "documentation") ≠ .str "stability" := by
      rintro ⟨⟩
    have hwritten := (documentation?_eq_some_iff.1 hdocumentation).1
    rw [get?_inferDeprecated_of_ne _ hne, Entries.get?_put_self] at hwritten
    obtain rfl : r.documentation = documentation := Value.str.inj (Option.some.inj hwritten)
    obtain ⟨before, sample, after, hexamples, -, hsample⟩ := mapM_eq_error_iff.1 h
    rw [map_eq_error] at hsample
    exact isDueTo_examine (hexamples ▸ by simp) hsample
  · cases h

/-- The fields of an entity with its examples: each was there before, or is a text, or is the list of
examples. -/
theorem exists_of_mem_completed {s : Settings} {number : Nat} {metadata : Entries}
    {examples : List (Example × Module)} {entry : Entry}
    (h : entry ∈ completed s number metadata examples) :
    (∃ d ∈ metadata, entry.value = d.value) ∨ (∃ t, entry.value = .str t) ∨
      entry.value = .list (numberedEntries s number examples) := by
  have hstability : ∀ {e : Entry}, e ∈ inferDeprecated metadata →
      (∃ d ∈ metadata, e.value = d.value) ∨ ∃ t, e.value = .str t := by
    intro e he
    rw [inferDeprecated_eq] at he
    split at he
    · exact (Entries.exists_of_mem_put he).symm.imp_right fun hvalue => ⟨_, hvalue⟩
    · exact Or.inl ⟨e, he, rfl⟩
  unfold completed at h
  dsimp only at h
  split at h
  · rcases Entries.exists_of_mem_put h with hvalue | ⟨d, hd, hvalue⟩
    · exact Or.inr (Or.inl ⟨_, hvalue⟩)
    · obtain ⟨c, hc, hcd⟩ := Entries.exists_of_mem_putAll hd
      rw [hvalue, hcd]
      rcases List.mem_append.1 hc with hc | hc
      · exact (hstability hc).imp_right Or.inl
      · unfold examplesField at hc
        split at hc
        · cases hc
        · rw [List.mem_singleton] at hc
          rw [hc]
          exact Or.inr (Or.inr rfl)
  · exact (hstability h).imp_right Or.inl

theorem isTextual_completed {s : Settings} {number : Nat} {metadata : Entries}
    (h : metadata.isTextual = true) (examples : List (Example × Module)) :
    (completed s number metadata examples).isTextual = true := by
  have hstability : (inferDeprecated metadata).isTextual = true := by
    rw [inferDeprecated_eq]
    split
    · exact Entries.isTextual_put h _ _
    · exact h
  have hfield : (examplesField s number examples).isTextual = true := by
    unfold examplesField
    split <;> rfl
  unfold completed
  dsimp only
  split
  · exact Entries.isTextual_put (Entries.isTextual_putAll hstability hfield) _ _
  · exact hstability

theorem keyText_of_isTextual {entries : Entries} (h : entries.isTextual = true) {entry : Entry}
    (hentry : entry ∈ entries) : keyText entry.key ≠ .error f := by
  obtain ⟨name, hname⟩ := Entries.isTextual_iff.1 h entry hentry
  rw [hname]
  rintro ⟨⟩

theorem isDueTo_entityStatements (he : r.entity = .ok e) (number : Nat) (examples : List (Example × Module))
    (h : entityStatements (numbered .default number (e, examples)) = .error f) : f.IsDueTo r.Causes := by
  obtain ⟨fields, hfields, rfl⟩ := exists_fields_of_entity he
  rcases bind_eq_error.1 h with h | ⟨target, -, h⟩
  · exact (isDueTo_parseReference h).mono fun d hd => .reference hd
  · rcases bind_eq_error.1 h with h | ⟨metadata, -, h⟩
    · rw [encodeMapping, Encoding.outcome_bind] at h
      rcases bind_eq_error.1 h with h | ⟨items, -, h⟩
      · have htextual : (fields.put (.str "documentation") (.str r.documentation)).isTextual = true :=
          (isNamed_entity he).textual
        obtain ⟨entry, hentry, h | h⟩ := exists_of_encodeEntries_eq_error h
        · exact absurd h (keyText_of_isTextual (isTextual_completed htextual examples) hentry)
        · rcases exists_of_mem_completed hentry with ⟨d, hd, hvalue⟩ | ⟨t, hvalue⟩ | hvalue
          · rw [hvalue] at h
            rcases Entries.exists_of_mem_put hd with htext | ⟨c, hc, hcd⟩
            · rw [htext] at h
              cases h
            · rw [hcd] at h
              have hwithin : c.value.IsWithin (.dict fields) := .value hc .whole
              cases (isEncodingFault_encode c.value h).of_isWithin hwithin with
              | deferred hsource hparse =>
                exact (isDueTo_parseDeferred hparse).mono fun d hd => .deferred hfields hsource hd
              | unsupported w => exact .diagnostic rfl
              | integer hlong =>
                obtain ⟨v, hload, hv⟩ := Metadata.exists_hasLongInteger_of_ofBlock hfields hlong
                exact .defect (.integer hload hv)
          · rw [hvalue] at h
            cases h
          · rw [hvalue, encode_numberedEntries] at h
            cases h
      · cases h
    · cases h

end

/-- What in a text is the cause of a defect: something in one of its records, or statements that have
no text. -/
inductive Explains (source : Text) : Defect → Prop
  | record {records : List Record} {r : Record} {d : Defect} : Record.ofText source = .ok records →
      r ∈ records → r.Causes d → Explains source d
  | printing {statements : Module} : generate .default source = .ok statements →
      printModule statements = none → Explains source .tooManyDigits

theorem isDueTo_analysed {source : Text} {f : Failure} (h : analysed source = .error f) :
    f.IsDueTo (Explains source) := by
  rcases bind_eq_error.1 h with h | ⟨records, hrecords, h⟩
  · obtain ⟨d, hd, rfl⟩ := mapError_eq_error.1 h
    obtain ⟨first, lines, hlines⟩ := List.exists_cons_of_ne_nil (splitLines_ne_nil source)
    cases hopens : opensRecord first with
    | true =>
      rw [Record.ofText_of_opensRecord hlines hopens] at hd
      cases hd
    | false =>
      rw [Record.ofText_of_not_opensRecord hlines hopens] at hd
      cases hd
      exact .diagnostic rfl
  · obtain ⟨before, r, after, rfl, -, hr⟩ := mapM_eq_error_iff.1 h
    exact (isDueTo_entity hr).mono fun d hd => .record (mapError_eq_ok.1 hrecords) (by simp) hd

/-- The entities of a text come from its records. -/
theorem exists_record_of_analysed {source : Text} {entities : List Entity}
    (h : analysed source = .ok entities) {e : Entity} (he : e ∈ entities) :
    ∃ records r, Record.ofText source = .ok records ∧ r ∈ records ∧ r.entity = .ok e := by
  obtain ⟨records, hrecords, h⟩ := bind_eq_ok.1 h
  obtain ⟨r, hr, hentity⟩ := exists_of_mem_of_mapM_eq_ok h he
  exact ⟨records, r, mapError_eq_ok.1 hrecords, hr, hentity⟩

theorem isDueTo_entitiesOf {source : Text} {f : Failure} (h : entitiesOf .default source = .error f) :
    f.IsDueTo (Explains source) := by
  rw [entitiesOf_eq] at h
  rcases bind_eq_error.1 h with h | ⟨entities, hentities, h⟩
  · exact isDueTo_analysed h
  · change deriveAll .default 1 entities = .error f at h
    rw [deriveAll_eq hasIdentifier_default, map_eq_error] at h
    obtain ⟨before, e, after, rfl, -, he⟩ := mapM_eq_error_iff.1 h
    obtain ⟨records, r, hrecords, hr, hentity⟩ := exists_record_of_analysed hentities (e := e) (by simp)
    exact (isDueTo_examineEntity hentity he).mono fun d hd => .record hrecords hr hd

theorem exists_of_mem_numberAll {s : Settings} {number : Nat} {xs : List Examined} {e : Entity}
    (h : e ∈ numberAll s number xs) : ∃ x ∈ xs, ∃ n, e = numbered s n x := by
  induction xs generalizing number with
  | nil => cases h
  | cons x xs ih =>
    rcases List.mem_cons.1 h with rfl | h
    · exact ⟨x, List.mem_cons_self, number, rfl⟩
    · obtain ⟨y, hy, n, hn⟩ := ih h
      exact ⟨y, List.mem_cons_of_mem x hy, n, hn⟩

theorem isDueTo_generate {source : Text} {f : Failure} (h : generate .default source = .error f) :
    f.IsDueTo (Explains source) := by
  rcases bind_eq_error.1 h with h | ⟨entities, hentities, h⟩
  · exact isDueTo_entitiesOf h
  · rw [entitiesOf_eq] at hentities
    obtain ⟨analysedEntities, hanalysed, hentities⟩ := bind_eq_ok.1 hentities
    change deriveAll .default 1 analysedEntities = .ok entities at hentities
    rw [deriveAll_eq hasIdentifier_default] at hentities
    obtain ⟨xs, hxs, rfl⟩ := map_eq_ok.1 hentities
    rcases bind_eq_error.1 h with h | ⟨parts, -, h⟩
    · obtain ⟨before, numberedEntity, after, hcut, -, hf⟩ := mapM_eq_error_iff.1 h
      have hmem : numberedEntity ∈ numberAll .default 1 xs := by
        rw [hcut]
        exact List.mem_append_right _ List.mem_cons_self
      obtain ⟨x, hx, n, rfl⟩ := exists_of_mem_numberAll hmem
      obtain ⟨e, he, hexamined⟩ := exists_of_mem_of_mapM_eq_ok hxs hx
      obtain ⟨examples, -, rfl⟩ := map_eq_ok.1 hexamined
      obtain ⟨records, r, hrecords, hr, hentity⟩ := exists_record_of_analysed hanalysed he
      exact (isDueTo_entityStatements hentity n examples hf).mono fun d hd => .record hrecords hr hd
    · cases h

theorem isDueTo_compile {source : Text} {f : Failure} (h : compile .default source = .error f) :
    f.IsDueTo (Explains source) := by
  rw [compile_eq] at h
  rcases bind_eq_error.1 h with h | ⟨statements, hstatements, h⟩
  · exact isDueTo_generate h
  · rcases bind_eq_error.1 h with h | ⟨code, -, h⟩
    · unfold moduleText at h
      split at h
      · cases h
      · next hprint =>
        cases h
        exact .defect (.printing hstatements hprint)
    · cases h

/-! ## Reports -/

/-- The kinds of the diagnostics that concern a text. -/
def textKinds : List String :=
  ["StructuralError", "MetadataParseError", "ExampleSyntaxError", "ReferenceSyntaxError",
    "UnsupportedValueError"]

theorem kindName_of_concernsText {d : Diagnostic} (h : d.concernsText = true) :
    d.kindName ∈ textKinds ∧ "AnnodocError" ∈ d.kinds := by
  unfold Diagnostic.kinds
  rw [List.mem_mergeSort]
  cases d with
  | general => cases h
  | usage => cases h
  | _ => simp [Diagnostic.kindName, Diagnostic.widerKinds, textKinds]

namespace CommandLine

/-- Arguments ask for the module of a text, with the usual configuration. -/
structure AsksFor (files : File.Tree) (arguments : List Text) (source : Text) (r : Request) : Prop where
  isSound : files.IsSound
  reading : Reading.ofTexts arguments = .request r
  keepsSinkApart : r.KeepsSinkApart files
  compiled : r.compiled files = (compile .default source).mapError .failure

variable {files : File.Tree} {arguments : List Text} {source : Text} {r : Request}

/-- A text that does not compile ends the command with its fault. -/
theorem AsksFor.exists_run_eq (h : AsksFor files arguments source r) (time : Text) {f : Failure}
    (hf : compile .default source = .error f) :
    ∃ j, run files time arguments = failed j (.failure f) := by
  obtain ⟨j, -, hexecute⟩ := exists_execute_eq h.isSound time h.keepsSinkApart
  refine ⟨j, ?_⟩
  rw [run_of_request h.reading, hexecute, h.compiled, hf]
  rfl

theorem AsksFor.report (h : AsksFor files arguments source r) (time : Text) {d : Diagnostic}
    (hd : d.concernsText = true) (hf : compile .default source = .error (.diagnostic d)) :
    (run files time arguments).ending = .status 1 ∧
      commandLine d.message <:+ (run files time arguments).reported := by
  obtain ⟨j, hrun⟩ := h.exists_run_eq time hf
  have hreport : report? (.failure (.diagnostic d)) = some (1, commandLine d.message) := by
    cases d with
    | general => cases hd
    | usage => cases hd
    | _ => rfl
  rw [hrun, failed_eq, hreport]
  exact ⟨rfl, List.suffix_append _ _⟩

theorem AsksFor.escape (h : AsksFor files arguments source r) (time : Text) {d : Defect}
    (hf : compile .default source = .error (.defect d)) :
    (run files time arguments).ending = .fault (.failure (.defect d)) := by
  obtain ⟨j, hrun⟩ := h.exists_run_eq time hf
  rw [hrun]
  rfl

end CommandLine

/-- A text compiles, or a diagnostic of one of five kinds is reported and the command ends with the
status 1, or the text holds the cause of a defect, which escapes the command as well. -/
theorem compile_default_cases (source : Text) :
    (∃ generated, compile .default source = .ok generated) ∨
    (∃ d, compile .default source = .error (.diagnostic d) ∧ d.kindName ∈ textKinds ∧
      "AnnodocError" ∈ d.kinds ∧
      ∀ files time arguments r, CommandLine.AsksFor files arguments source r →
        (CommandLine.run files time arguments).ending = .status 1 ∧
          CommandLine.commandLine d.message <:+ (CommandLine.run files time arguments).reported) ∨
    ∃ d, compile .default source = .error (.defect d) ∧ Explains source d ∧
      ∀ files time arguments r, CommandLine.AsksFor files arguments source r →
        (CommandLine.run files time arguments).ending = .fault (.failure (.defect d)) := by
  cases h : compile .default source with
  | ok generated => exact Or.inl ⟨generated, rfl⟩
  | error f =>
    cases isDueTo_compile h with
    | @diagnostic d hd =>
      obtain ⟨hkind, hkinds⟩ := kindName_of_concernsText hd
      exact Or.inr (Or.inl ⟨d, rfl, hkind, hkinds, fun _ time _ _ hasks => hasks.report time hd h⟩)
    | @defect d hd =>
      exact Or.inr (Or.inr ⟨d, rfl, hd, fun _ time _ _ hasks => hasks.escape time h⟩)

/-- A record with a day that no month has. -/
def lostDayRecord : Record :=
  ⟨"f", 1, "\nsince: 2020-02-30\n", ""⟩

/-- A text of this record. -/
def lostDaySource : String :=
  "@annotate: f\nsince: 2020-02-30\n"

theorem load_lostDayRecord : Yaml.load lostDayRecord.metadata = .error (.defect .impossibleDate) := by
  have hn : (Yaml.tokensOf "\nsince: 2020-02-30\n".toList >>= Yaml.Node.ofTokens?) =
      .ok (some (.mapping .map [.mk (.scalar .str "since") (.scalar .timestamp "2020-02-30")])) :=
    toOption_eq_some_iff.1 (by decide +kernel)
  have hmerged : (Yaml.Node.mapping .map
      [.mk (.scalar .str "since") (.scalar .timestamp "2020-02-30")]).merged =
        .mapping .map [.mk (.scalar .str "since") (.scalar .timestamp "2020-02-30")] := by
    simp [Yaml.Node.merged, Yaml.flattened?, Yaml.splitMerges, Yaml.Node.tag]
  have hdigits : Yaml.timestamp? (Yaml.withoutLastBreak (Yaml.markedChars "2020-02-30")) =
      some ⟨"2020".toList, "02".toList, "30".toList, none, [], none⟩ := rfl
  have hday : Yaml.constant .timestamp "2020-02-30" = .error (.defect .impossibleDate) := by
    rw [Yaml.constant, Yaml.timeConstant, hdigits]
    exact if_neg (by decide)
  rw [Yaml.load_of_node (by decide +kernel) (by decide +kernel) hn, hmerged]
  simp only [Yaml.Node.build, Yaml.buildPairs, Yaml.Tag.isCollection, Yaml.Node.tag, hday]
  rfl

/-- The day is not reported. -/
theorem compile_lostDaySource : compile .default lostDaySource = .error (.defect .impossibleDate) := by
  have hrecords : Record.ofText lostDaySource = .ok [lostDayRecord] :=
    toOption_eq_some_iff.1 (by decide +kernel)
  have hentity : lostDayRecord.entity = .error (.defect .impossibleDate) := by
    unfold Record.entity Metadata.ofBlock
    rw [load_lostDayRecord]
  have hanalysed : analysed lostDaySource = .error (.defect .impossibleDate) := by
    have hread : (Record.ofText lostDaySource).mapError Failure.diagnostic = .ok [lostDayRecord] := by
      rw [hrecords, Except.mapError]
    rw [analysed, hread, ok_bind, analyse, List.mapM_cons, hentity, error_bind]
  rw [compile_eq, generate, entitiesOf_eq, hanalysed, error_bind, error_bind, error_bind]

theorem withLineFeeds_lostDaySource : Text.withLineFeeds lostDaySource = lostDaySource := by
  decide +kernel

/-- A request for the module of the file with this text. -/
theorem asksFor_lostDaySource :
    CommandLine.AsksFor (loneFile lostDaySource) ["a.md"] lostDaySource
      ⟨some "a.md", none, none, false, false, none⟩ where
  isSound := File.Tree.isSound_of_hasSoundEntries (by decide)
  reading := CommandLine.request?_eq_some_iff.1 (by decide +kernel)
  keepsSinkApart := CommandLine.Request.keepsSinkApart_of_logFile_eq_none rfl
  compiled := by
    have hencoded : Text.toUtf8? lostDaySource = some lostDaySource.toUTF8 := rfl
    have hcompiled := (standsAlone_loneFile lostDaySource).compileFile_eq hencoded
    rw [withLineFeeds_lostDaySource] at hcompiled
    exact hcompiled

/-- The command does not report the day either. -/
theorem run_lostDaySource :
    compile .default lostDaySource = .error (.defect .impossibleDate) ∧
      (CommandLine.run (loneFile lostDaySource) [] ["a.md"]).ending =
        .fault (.failure (.defect .impossibleDate)) := by
  refine ⟨compile_lostDaySource, ?_⟩
  rcases compile_default_cases lostDaySource with ⟨generated, h⟩ | ⟨d, h, -⟩ | ⟨d, h, -, hrun⟩
  · rw [compile_lostDaySource] at h
    cases h
  · rw [compile_lostDaySource] at h
    cases h
  · rw [compile_lostDaySource] at h
    cases h
    exact hrun _ _ _ _ asksFor_lostDaySource

end AnnotatedMarkdown
