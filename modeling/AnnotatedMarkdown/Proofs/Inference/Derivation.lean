import AnnotatedMarkdown.Proofs.Inference.Numbering
import AnnotatedMarkdown.Proofs.Value.Entries

/-!
# Fields that are derived

The derivation of metadata writes three fields: the stability, the examples and the
documentation.  This module says what each of them becomes, and that nothing else changes.

* `get?_inferDeprecated_of_ne` and `get?_stability_inferDeprecated` are the first stage.
* `Completion` describes the second stage: the examples of a documentation text, and the text
  without its markers.  `completion_of_infer` finds it behind every success.
* `deriveMetadata_fields` joins the stages.
-/

namespace AnnotatedMarkdown.Inference

open Documentation Outcome

/-! ## Stability -/

section

variable (metadata : Entries)

/-- Whether metadata say that the entity is deprecated. -/
def isDeprecated : Bool :=
  (metadata.get? (.str "deprecated")).any Value.isTruthy

theorem inferDeprecated_eq :
    inferDeprecated metadata =
      if isDeprecated metadata then metadata.put (.str "stability") (.str "deprecated")
      else metadata := by
  unfold inferDeprecated isDeprecated
  cases metadata.get? (.str "deprecated") <;> rfl

theorem get?_inferDeprecated_of_ne {key : Value} (h : key ≠ .str "stability") :
    (inferDeprecated metadata).get? key = metadata.get? key := by
  rw [inferDeprecated_eq]
  split
  · exact Entries.get?_put_of_key_ne h _ metadata
  · rfl

theorem get?_stability_inferDeprecated :
    (inferDeprecated metadata).get? (.str "stability") =
      if isDeprecated metadata then some (.str "deprecated") else metadata.get? (.str "stability") := by
  rw [inferDeprecated_eq]
  split
  · exact Entries.get?_put_self _ _ metadata
  · rfl

theorem exists_keys_inferDeprecated :
    ∃ added, (inferDeprecated metadata).keys = metadata.keys ++ added ∧
      added.Sublist [.str "stability"] ∧ ∀ key ∈ added, key ∉ metadata.keys := by
  rw [inferDeprecated_eq]
  split
  · exact Entries.exists_keys_put _ _ metadata
  · exact ⟨[], (List.append_nil _).symm, List.nil_sublist _, by simp⟩

end

/-! ## Examples and documentation -/

theorem documentation?_eq_some_iff {metadata : Entries} {documentation : Text} :
    documentation? metadata = some documentation ↔
      metadata.get? (.str "documentation") = some (.str documentation) ∧ documentation ≠ [] := by
  unfold documentation?
  split
  · next written hwritten =>
    rw [hwritten]
    cases written with
    | nil => simp
    | cons c written =>
      simp only [List.isEmpty_cons, Bool.false_eq_true, if_false, Option.some.injEq, Value.str.injEq]
      exact ⟨fun heq => ⟨heq, heq ▸ List.cons_ne_nil c written⟩, And.left⟩
  · next hother =>
    constructor
    · exact nofun
    · rintro ⟨heq, -⟩
      exact absurd heq (hother documentation)

variable {s : Settings} {number next : Nat} {reference text : Text}
  {metadata inferred result : Entries}

/-- What a documentation text adds: nothing if it has no examples, and otherwise the list of all
of them. -/
theorem infer_cases (metadata : Entries)
    (h : infer s number reference text = (.ok inferred, next)) :
    ∃ entries, inferAll s number reference (Markdown.examples text) = (.ok entries, next) ∧
      metadata.putAll inferred =
        if Markdown.examples text = [] then metadata
        else metadata.put (.str "examples") (.list entries) := by
  rw [infer, inferExamples] at h
  by_cases hnone : Markdown.examples text = []
  · rw [hnone] at h ⊢
    cases h
    exact ⟨[], rfl, rfl⟩
  · rw [if_neg (by simpa using hnone)] at h
    obtain ⟨houtcome, rfl⟩ := Prod.ext_iff.1 h
    obtain ⟨entries, hentries, rfl⟩ := map_eq_ok.1 houtcome
    exact ⟨entries, Prod.ext hentries rfl, (if_neg hnone).symm⟩

/-- Metadata with a documentation text that has been read: the examples are those inferred from
it, or as before if it has none. -/
structure Completion (s : Settings) (number : Nat) (reference text : Text)
    (metadata result : Entries) (next : Nat) : Prop where
  documentation : result.get? (.str "documentation") = some (.str (rewrite text))
  examples : ∃ entries, inferAll s number reference (Markdown.examples text) = (.ok entries, next) ∧
    result.get? (.str "examples") =
      if Markdown.examples text = [] then metadata.get? (.str "examples") else some (.list entries)
  frame : ∀ key, key ≠ .str "examples" → key ≠ .str "documentation" →
    result.get? key = metadata.get? key
  keys : ∃ added, result.keys = metadata.keys ++ added ∧ added.Sublist [.str "examples"] ∧
    ∀ key ∈ added, key ∉ metadata.keys

theorem completion_of_infer (hmem : .str "documentation" ∈ metadata.keys)
    (h : infer s number reference text = (.ok inferred, next)) :
    Completion s number reference text metadata
      ((metadata.putAll inferred).put (.str "documentation") (.str (rewrite text))) next := by
  obtain ⟨entries, hentries, hput⟩ := infer_cases metadata h
  have hname : Value.str "examples" ≠ .str "documentation" := mt Value.str.inj (by decide)
  rw [hput]
  constructor
  case documentation => exact Entries.get?_put_self _ _ _
  case examples =>
    refine ⟨entries, hentries, ?_⟩
    rw [Entries.get?_put_of_key_ne hname]
    split
    · rfl
    · exact Entries.get?_put_self _ _ metadata
  case frame =>
    intro key hexamples hdocumentation
    rw [Entries.get?_put_of_key_ne hdocumentation]
    split
    · rfl
    · exact Entries.get?_put_of_key_ne hexamples _ metadata
  case keys =>
    -- The documentation is there before the examples are set, so that only they can be new.
    split
    · refine ⟨[], ?_, List.nil_sublist _, by simp⟩
      rw [Entries.keys_put_of_mem hmem, List.append_nil]
    · have hput : Value.str "documentation" ∈ (metadata.put (.str "examples") (.list entries)).keys :=
        Entries.mem_keys_put.2 (Or.inl hmem)
      rw [Entries.keys_put_of_mem hput]
      exact Entries.exists_keys_put _ _ metadata

/-! ## The whole derivation -/

/-- The second stage completes a documentation text, and does nothing without one. -/
theorem deriveMetadata_cases (h : deriveMetadata s number reference metadata = (.ok result, next)) :
    (∀ text, metadata.get? (.str "documentation") = some (.str text) → text ≠ [] →
      Completion s number reference text (inferDeprecated metadata) result next) ∧
    ((∀ text, metadata.get? (.str "documentation") = some (.str text) → text = []) →
      result = inferDeprecated metadata ∧ next = number) := by
  have hget : (inferDeprecated metadata).get? (.str "documentation") =
      metadata.get? (.str "documentation") :=
    get?_inferDeprecated_of_ne metadata (mt Value.str.inj (by decide))
  rw [deriveMetadata_of_documentation] at h
  constructor
  · intro text htext hne
    have hdocumentation : documentation? (inferDeprecated metadata) = some text :=
      documentation?_eq_some_iff.2 ⟨hget.trans htext, hne⟩
    rw [hdocumentation] at h
    obtain ⟨houtcome, rfl⟩ := Prod.ext_iff.1 h
    obtain ⟨inferred, hinferred, rfl⟩ := map_eq_ok.1 houtcome
    exact completion_of_infer (Entries.mem_keys_of_get?_eq_some (hget.trans htext))
      (Prod.ext hinferred rfl)
  · intro hnone
    have hdocumentation : documentation? (inferDeprecated metadata) = none := by
      rw [Option.eq_none_iff_forall_not_mem]
      intro text htext
      obtain ⟨htext, hne⟩ := documentation?_eq_some_iff.1 htext
      exact hne (hnone text (hget.symm.trans htext))
    rw [hdocumentation] at h
    cases h
    exact ⟨rfl, rfl⟩

/-- A derivation that succeeds keeps the fields of the metadata in their order, and puts at most
a stability and the examples behind them.  It keeps the values of all fields but the three
derived ones: the stability of a deprecated entity is `deprecated`; the documentation, unless it
is empty or no text, loses its markers; and the examples are those of the documentation as it was
before, if it has any. -/
theorem deriveMetadata_fields
    (h : deriveMetadata s number reference metadata = (.ok result, next)) :
    (∀ key, key ≠ .str "stability" → key ≠ .str "examples" → key ≠ .str "documentation" →
      result.get? key = metadata.get? key) ∧
    (∃ added, result.keys = metadata.keys ++ added ∧
      added.Sublist [.str "stability", .str "examples"] ∧ ∀ key ∈ added, key ∉ metadata.keys) ∧
    (result.get? (.str "stability") =
      if isDeprecated metadata then some (.str "deprecated")
      else metadata.get? (.str "stability")) ∧
    (∀ text, metadata.get? (.str "documentation") = some (.str text) → text ≠ [] →
      result.get? (.str "documentation") = some (.str (rewrite text)) ∧
      ∃ entries, inferAll s number reference (Markdown.examples text) = (.ok entries, next) ∧
        result.get? (.str "examples") =
          if Markdown.examples text = [] then metadata.get? (.str "examples")
          else some (.list entries)) ∧
    ((∀ text, metadata.get? (.str "documentation") = some (.str text) → text = []) →
      result.get? (.str "documentation") = metadata.get? (.str "documentation") ∧
      result.get? (.str "examples") = metadata.get? (.str "examples") ∧ next = number) := by
  have hexamples : Value.str "examples" ≠ .str "stability" := mt Value.str.inj (by decide)
  have hdocumentation : Value.str "documentation" ≠ .str "stability" := mt Value.str.inj (by decide)
  obtain ⟨hcomplete, hkeep⟩ := deriveMetadata_cases h
  obtain ⟨stability, hkeys, hstability, hnew⟩ := exists_keys_inferDeprecated metadata
  by_cases htext : ∃ text, metadata.get? (.str "documentation") = some (.str text) ∧ text ≠ []
  · obtain ⟨text, htext, hne⟩ := htext
    have hcompletion := hcomplete text htext hne
    refine ⟨?frame, ?keys, ?stability, ?documented, ?undocumented⟩
    case frame =>
      intro key hkstability hkexamples hkdocumentation
      rw [hcompletion.frame key hkexamples hkdocumentation,
        get?_inferDeprecated_of_ne metadata hkstability]
    case keys =>
      obtain ⟨examples, hmore, hadded, hlater⟩ := hcompletion.keys
      refine ⟨stability ++ examples, ?_, hstability.append hadded, ?_⟩
      · rw [hmore, hkeys, List.append_assoc]
      · intro key hkey
        rcases List.mem_append.1 hkey with hkey | hkey
        · exact hnew key hkey
        · intro hmem
          apply hlater key hkey
          rw [hkeys]
          exact List.mem_append_left _ hmem
    case stability =>
      rw [hcompletion.frame _ hexamples.symm hdocumentation.symm, get?_stability_inferDeprecated]
    case documented =>
      intro other hother _
      obtain rfl : text = other := Value.str.inj (Option.some.inj (htext.symm.trans hother))
      obtain ⟨entries, hentries, hlist⟩ := hcompletion.examples
      rw [get?_inferDeprecated_of_ne metadata hexamples] at hlist
      exact ⟨hcompletion.documentation, entries, hentries, hlist⟩
    case undocumented => exact fun hnone => absurd (hnone text htext) hne
  · have hnone : ∀ text, metadata.get? (.str "documentation") = some (.str text) → text = [] := by
      intro text hget
      by_contra hne
      exact htext ⟨text, hget, hne⟩
    obtain ⟨rfl, rfl⟩ := hkeep hnone
    refine ⟨fun key hkey _ _ => get?_inferDeprecated_of_ne metadata hkey,
      ⟨stability, hkeys, hstability.trans (List.sublist_append_left _ _), hnew⟩,
      get?_stability_inferDeprecated metadata,
      fun text hget hne => absurd (hnone text hget) hne, fun _ => ?_⟩
    exact ⟨get?_inferDeprecated_of_ne metadata hdocumentation,
      get?_inferDeprecated_of_ne metadata hexamples, rfl⟩

/-- Metadata of a deprecated entity that has examples and a stability of its own. -/
def deprecatedMetadata : Entries :=
  [.mk (.str "examples") .none, .mk (.str "stability") (.str "stable"),
    .mk (.str "deprecated") (.str "1.2"), .mk (.str "documentation") (.str "Use::\n\n    f()\n")]

theorem deriveMetadata_deprecatedMetadata :
    ∃ result next, deriveMetadata .default 3 "f" deprecatedMetadata = (.ok result, next) ∧
      result.keys = deprecatedMetadata.keys ∧
      result.get? (.str "deprecated") = some (.str "1.2") ∧
      result.get? (.str "stability") = some (.str "deprecated") ∧
      result.get? (.str "documentation") = some (.str "Use:\n\n    f()\n") := by
  have hok : (deriveMetadata .default 3 "f" deprecatedMetadata).1.isOk = true := by decide +kernel
  obtain ⟨result, next, h⟩ := exists_eq_ok_of_isOk hok
  obtain ⟨hframe, ⟨added, hkeys, hadded, hnew⟩, hstability, hdocumented, -⟩ :=
    deriveMetadata_fields h
  have hnone : added = [] := by
    rw [List.eq_nil_iff_forall_not_mem]
    intro key hkey
    have hkeys : ∀ k ∈ [Value.str "stability", .str "examples"], k ∈ deprecatedMetadata.keys := by
      simp [deprecatedMetadata, Entry.key]
    exact hnew key hkey (hkeys key (hadded.subset hkey))
  refine ⟨result, next, h, ?_, ?_, hstability, ?_⟩
  · rw [hkeys, hnone, List.append_nil]
  · refine hframe _ ?_ ?_ ?_ <;> exact mt Value.str.inj (by decide)
  · obtain ⟨hrewritten, -⟩ := hdocumented _ rfl (List.cons_ne_nil _ _)
    rw [hrewritten]
    have htext : rewrite "Use::\n\n    f()\n" = "Use:\n\n    f()\n" := by decide +kernel
    rw [htext]

end AnnotatedMarkdown.Inference
