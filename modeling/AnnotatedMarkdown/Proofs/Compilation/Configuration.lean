import AnnotatedMarkdown.Proofs.Annotation.Conversion
import AnnotatedMarkdown.Proofs.Compilation.Independence
import AnnotatedMarkdown.Proofs.Python.Version.Statement

/-!
# Compilation under a configuration

A configuration sets the lines in front of a module, the version of the grammar and the names of
examples.  Here compilation under a configuration is compared with the usual compilation.

* `IsPrintable` holds of statements that have a text.  The names of functions and the lines in
  front do not matter for it.
* `CarriesOver` says that the statements of an entity are there under other settings, too, and
  `exists_moduleStatements` goes from entities to modules.
* `Yields` bounds an outcome by the results and the failures that it can be.  The stages of
  inference keep it: `Settings.Examines` is what they need to know of the reading of examples.  There
  is one lemma for versions that read an example as the latest one does, one for any version, and
  one for versions without a grammar.
* `usable_of_read` joins these for the configurations that are accepted.
-/

namespace AnnotatedMarkdown

open Inference Generation Python Documentation Outcome

/-! ## Printable statements -/

namespace Python

/-- Statements that have a text. -/
def IsPrintable (statements : List Stmt) : Prop :=
  ∀ statement ∈ statements, (statement.render 0).isSome = true

theorem isPrintable_append {before after : List Stmt} :
    IsPrintable (before ++ after) ↔ IsPrintable before ∧ IsPrintable after :=
  List.forall_mem_append

theorem isSome_renderAllStatements_iff {depth : Nat} {statements : List Stmt} :
    (renderAllStatements depth statements).isSome = true ↔
      ∀ s ∈ statements, (s.render depth).isSome = true := by
  induction statements with
  | nil => simp [renderAllStatements]
  | cons s statements ih =>
    rw [List.forall_mem_cons, ← ih, renderAllStatements]
    cases s.render depth with
    | none => simp
    | some t => cases renderAllStatements depth statements <;> simp

/-- A docstring is no obstacle to printing, just as the same text elsewhere is none. -/
theorem isSome_renderBody (depth : Nat) (statements : List Stmt) :
    (renderBody depth statements).isSome = (renderAllStatements depth statements).isSome := by
  cases statements with
  | nil => rfl
  | cons s statements =>
    by_cases hdoc : ∃ doc unicodeMark, s = .expr (.constant (.string doc unicodeMark))
    · obtain ⟨doc, unicodeMark, rfl⟩ := hdoc
      simp only [renderBody, renderAllStatements, Stmt.render, Expr.render, Constant.render]
      cases renderAllStatements depth statements <;> rfl
    · rw [renderBody, renderAllStatements]
      exact fun doc unicodeMark heq => hdoc ⟨doc, unicodeMark, heq⟩

theorem isSome_printModule_iff {m : Module} : (printModule m).isSome = true ↔ IsPrintable m := by
  rw [printModule, Option.isSome_map, isSome_renderBody, isSome_renderAllStatements_iff]
  rfl

theorem isSome_renderAll_iff {plain : Bool} {place : Precedence} {es : List Expr} :
    (renderAll plain place es).isSome = true ↔ ∀ e ∈ es, (e.render plain place).isSome = true := by
  induction es with
  | nil => simp [renderAll]
  | cons e es ih =>
    rw [List.forall_mem_cons, ← ih, renderAll]
    cases e.render plain place with
    | none => simp
    | some t => cases renderAll plain place es <;> simp

theorem isSome_renderItems_iff {plain : Bool} {items : List DictItem} :
    (renderItems plain items).isSome = true ↔ ∀ i ∈ items, (i.render plain).isSome = true := by
  induction items with
  | nil => simp [renderItems]
  | cons i items ih =>
    rw [List.forall_mem_cons, ← ih, renderItems]
    cases i.render plain with
    | none => simp
    | some t => cases renderItems plain items <;> simp

end Python

namespace Generation

/-- The name of a function does not matter for its text. -/
theorem isSome_render_exampleFunction (name other : String) (body : Module) :
    ((exampleFunction name body).render 0).isSome = ((exampleFunction other body).render 0).isSome := by
  unfold exampleFunction
  simp only [Stmt.render, renderDecorators, renderParameters, renderOption]
  cases renderBody 1 (definitionBody body) <;> rfl

theorem isPrintable_exampleFunctions {s t : Settings} {number other : Nat}
    {examples : List (Example × Module)} (h : IsPrintable (exampleFunctions s number examples)) :
    IsPrintable (exampleFunctions t other examples) := by
  induction examples generalizing number other with
  | nil => exact h
  | cons x examples ih =>
    obtain ⟨e, body⟩ := x
    obtain ⟨hfirst, hrest⟩ := List.forall_mem_cons.1 h
    refine List.forall_mem_cons.2 ⟨?_, ih hrest⟩
    rw [isSome_render_exampleFunction _ (s.identifier number)]
    exact hfirst

/-- The display of an example has a text. -/
theorem isSome_render_exampleDisplay (function : String) (e : Example) (plain : Bool)
    (place : Precedence) : ((exampleDisplay function e).render plain place).isSome = true := by
  obtain ⟨name, source, inferred⟩ := e
  cases inferred <;> rfl

theorem mem_exampleDisplays {s : Settings} {number : Nat} {examples : List (Example × Module)}
    {d : Expr} (hd : d ∈ exampleDisplays s number examples) : ∃ function e, d = exampleDisplay function e := by
  induction examples generalizing number with
  | nil => simp [exampleDisplays] at hd
  | cons x examples ih =>
    obtain ⟨e, body⟩ := x
    rcases List.mem_cons.1 hd with rfl | hd
    · exact ⟨_, e, rfl⟩
    · exact ih hd

/-- An attachment has a text if its target and its other fields have. -/
theorem isSome_render_attachExamples_iff {s : Settings} {number : Nat}
    {examples : List (Example × Module)} {target : Expr} {items more : List DictItem} :
    ((attachExamples s number examples target items more).render 0).isSome = true ↔
      (target.render false .test).isSome = true ∧
        (∀ i ∈ items, (i.render false).isSome = true) ∧ ∀ i ∈ more, (i.render false).isSome = true := by
  have hlist : ((Expr.list (exampleDisplays s number examples)).render false .test).isSome = true := by
    have hall : (renderAll false .test (exampleDisplays s number examples)).isSome = true := by
      rw [isSome_renderAll_iff]
      intro d hd
      obtain ⟨function, e, rfl⟩ := mem_exampleDisplays hd
      exact isSome_render_exampleDisplay function e _ _
    obtain ⟨ts, hts⟩ := Option.isSome_iff_exists.1 hall
    rw [Expr.render, hts]
    rfl
  have hfield : ((DictItem.pair (textLiteral "examples")
      (.list (exampleDisplays s number examples))).render false).isSome = true := by
    obtain ⟨t, ht⟩ := Option.isSome_iff_exists.1 hlist
    rw [DictItem.render, ht]
    rfl
  have hitems : (renderItems false (items ++ .pair (textLiteral "examples")
        (.list (exampleDisplays s number examples)) :: more)).isSome = true ↔
      (∀ i ∈ items, (i.render false).isSome = true) ∧
        ∀ i ∈ more, (i.render false).isSome = true := by
    rw [isSome_renderItems_iff, List.forall_mem_append, List.forall_mem_cons]
    simp only [hfield, true_and]
  rw [← hitems, attachExamples, attachCall, callWith]
  simp only [Stmt.render, Expr.render, renderAll, renderKeywords]
  cases target.render false .test with
  | none => simp
  | some t =>
    cases renderItems false (items ++ .pair (textLiteral "examples")
      (.list (exampleDisplays s number examples)) :: more) <;> simp

/-- Statements of a kind that an entity has under some settings carry over to another entity under
other settings, whatever the numbers of the examples. -/
def CarriesOver (Q : Module → Prop) (s t : Settings) (x y : Examined) : Prop :=
  ∀ number other statements, entityStatements (numbered s number x) = .ok statements →
    Q statements → ∃ changed, entityStatements (numbered t other y) = .ok changed ∧ Q changed

theorem carriesOver_isPrintable {r : Settings} {e : Entity} (he : e.metadata.IsFieldList)
    {x : Examined} (hx : examineEntity r e = .ok x) (s t : Settings) :
    CarriesOver IsPrintable s t x x := by
  intro number other statements h hprint
  rcases entityStatements_forms he hx with
    ⟨f, hform⟩ | ⟨target, metadata, -, hform⟩ | ⟨target, items, more, -, hform⟩
  · rw [hform s number x (.refl x)] at h
    cases h
  · rw [hform s number x (.refl x)] at h
    cases h
    exact ⟨_, hform t other x (.refl x), hprint⟩
  · rw [hform s number x (.refl x)] at h
    cases h
    obtain ⟨hfunctions, hattach⟩ := isPrintable_append.1 hprint
    refine ⟨_, hform t other x (.refl x),
      isPrintable_append.2 ⟨isPrintable_exampleFunctions hfunctions, ?_⟩⟩
    rw [IsPrintable, List.forall_mem_singleton, isSome_render_attachExamples_iff] at hattach ⊢
    exact hattach

/-- The statements in the examples do not matter for whether there are statements at all. -/
theorem carriesOver_of_resembles {r : Settings} {e : Entity} (he : e.metadata.IsFieldList)
    {x y : Examined} (hx : examineEntity r e = .ok x) (hxy : Resembles x y) (s t : Settings) :
    CarriesOver (fun _ => True) s t x y := by
  intro number other statements h _
  rcases entityStatements_forms he hx with
    ⟨f, hform⟩ | ⟨target, metadata, -, hform⟩ | ⟨target, items, more, -, hform⟩
  · rw [hform s number x (.refl x)] at h
    cases h
  · exact ⟨_, hform t other y hxy, trivial⟩
  · exact ⟨_, hform t other y hxy, trivial⟩

/-- Statements carry over to a module as soon as they do for each of its entities. -/
theorem exists_moduleStatements {Q : Module → Prop}
    (hQ : ∀ before after, Q (before ++ after) ↔ Q before ∧ Q after) {s t : Settings}
    {xs ys : List Examined} (hcarry : List.Forall₂ (CarriesOver Q s t) xs ys) {number : Nat}
    (other : Nat) {statements : Module}
    (h : moduleStatements (numberAll s number xs) = .ok statements) (hstatements : Q statements) :
    ∃ changed, moduleStatements (numberAll t other ys) = .ok changed ∧ Q changed := by
  induction hcarry generalizing number other statements with
  | nil => exact ⟨statements, h, hstatements⟩
  | @cons x y xs ys hfirst _ ih =>
    rw [numberAll, moduleStatements_cons] at h
    obtain ⟨first, hx, h⟩ := bind_eq_ok.1 h
    obtain ⟨rest, hxs, h⟩ := bind_eq_ok.1 h
    cases h
    obtain ⟨hQfirst, hQrest⟩ := (hQ first rest).1 hstatements
    obtain ⟨own, hown, hQown⟩ := hfirst number other first hx hQfirst
    -- From here on the numbers of both sides are apart, which `CarriesOver` allows for.
    obtain ⟨changed, hchanged, hQchanged⟩ := ih (other + y.2.length) hxs hQrest
    refine ⟨own ++ changed, ?_, (hQ own changed).2 ⟨hQown, hQchanged⟩⟩
    rw [numberAll, moduleStatements_cons, hown, hchanged]
    rfl

theorem isPrintable_of_moduleText {m : Module} {text : Text} (h : moduleText m = .ok text) :
    IsPrintable m := by
  rw [← isSome_printModule_iff]
  unfold moduleText at h
  split at h
  · rename_i code hcode
    rw [hcode]
    rfl
  · cases h

theorem exists_moduleText {m : Module} (h : IsPrintable m) : ∃ text, moduleText m = .ok text := by
  obtain ⟨code, hcode⟩ := Option.isSome_iff_exists.1 (isSome_printModule_iff.2 h)
  refine ⟨code, ?_⟩
  unfold moduleText
  rw [hcode]

end Generation

/-! ## Inference under settings -/

/-- An outcome that is a result of some kind, or a failure of some kind. -/
def Yields {α : Type} (R : α → Prop) (P : Failure → Prop) (x : Except Failure α) : Prop :=
  (∃ a, x = .ok a ∧ R a) ∨ ∃ f, x = .error f ∧ P f

namespace Yields

variable {α β : Type} {R : α → Prop} {R' : β → Prop} {P P' : Failure → Prop} {x : Except Failure α}

theorem ok {a : α} (h : R a) : Yields R P (.ok a) :=
  Or.inl ⟨a, rfl, h⟩

theorem error {f : Failure} (h : P f) : Yields R P (.error f) :=
  Or.inr ⟨f, rfl, h⟩

theorem bind {f : α → Except Failure β} (hx : Yields R P x) (hf : ∀ a, R a → Yields R' P (f a)) :
    Yields R' P (x >>= f) := by
  rcases hx with ⟨a, rfl, ha⟩ | ⟨failure, rfl, hfailure⟩
  · exact hf a ha
  · exact .error hfailure

theorem map {f : α → β} (hx : Yields R P x) (hf : ∀ a, R a → R' (f a)) :
    Yields R' P (x.map f) := by
  rcases hx with ⟨a, rfl, ha⟩ | ⟨failure, rfl, hfailure⟩
  · exact .ok (hf a ha)
  · exact .error hfailure

theorem mono (hx : Yields R P x) (hP : ∀ f, P f → P' f) : Yields R P' x := by
  rcases hx with hok | ⟨f, hf, hfailure⟩
  · exact Or.inl hok
  · exact Or.inr ⟨f, hf, hP f hfailure⟩

/-- A traversal yields results that are related to those of another traversal if each of its steps
does. -/
theorem mapM {S : β → β → Prop} {f k : α → Except Failure β} {as : List α} {bs : List β}
    (h : ∀ a ∈ as, ∀ b, k a = .ok b → Yields (S b) P (f a)) (hbs : as.mapM k = .ok bs) :
    Yields (List.Forall₂ S bs) P (as.mapM f) := by
  induction as generalizing bs with
  | nil =>
    cases hbs
    exact .ok .nil
  | cons a as ih =>
    obtain ⟨b, rest, hb, hrest, rfl⟩ := mapM_cons_eq_ok.1 hbs
    rw [List.mapM_cons]
    refine (h a List.mem_cons_self b hb).bind fun c hc => ?_
    refine (ih (fun d hd => h d (List.mem_cons_of_mem a hd)) hrest).bind fun cs hcs => ?_
    exact .ok (.cons hc hcs)

end Yields

/-- A failure that reports an example. -/
def Failure.ReportsExample (f : Failure) : Prop :=
  ∃ cause reference name, f = .diagnostic (.sample cause reference name)

namespace Inference

/-- An example stands in the documentation of an entity. -/
def HasExample (e : Entity) (sample : Example) : Prop :=
  ∃ documentation, documentation? (inferDeprecated e.metadata) = some documentation ∧
    sample ∈ Markdown.examples documentation

/-- Settings under which certain examples yield statements that are related to the usual ones. -/
def Settings.Examines (s : Settings) (E : Example → Prop) (R : Module → Module → Prop)
    (P : Failure → Prop) : Prop :=
  ∀ reference e body, E e → examine .default reference e = .ok body →
    Yields (R body) P (examine s reference e)

/-- Entities with the same examples, whose statements are related. -/
def ReadsAs (R : Module → Module → Prop) (x y : Examined) : Prop :=
  y.1 = x.1 ∧ List.Forall₂ (fun p q => q.1 = p.1 ∧ R p.2 q.2) x.2 y.2

theorem eq_of_readsAs {x y : Examined} (h : ReadsAs (fun body other => other = body) x y) :
    y = x := by
  refine Prod.ext h.1 ?_
  have hpairs : List.Forall₂ Eq x.2 y.2 := h.2.imp fun p q hpq => (Prod.ext hpq.1 hpq.2).symm
  rw [List.forall₂_eq_eq_eq] at hpairs
  exact hpairs.symm

theorem resembles_of_readsAs {R : Module → Module → Prop} {x y : Examined} (h : ReadsAs R x y) :
    Resembles x y := by
  refine ⟨h.1, ?_⟩
  rw [← List.length_eq_zero_iff, ← List.length_eq_zero_iff, h.2.length_eq]

variable {s : Settings}

theorem examineEntity_yields {E : Example → Prop} {R : Module → Module → Prop} {P : Failure → Prop}
    (hs : s.Examines E R P) {e : Entity} {x : Examined} (he : ∀ sample, HasExample e sample → E sample)
    (h : examineEntity .default e = .ok x) : Yields (ReadsAs R x) P (examineEntity s e) := by
  obtain ⟨read, hread, rfl⟩ := map_eq_ok.1 h
  suffices hexamples : Yields (List.Forall₂ (fun p q => q.1 = p.1 ∧ R p.2 q.2) read) P
      (examined s e.reference e.metadata) from hexamples.map fun _ hothers => ⟨rfl, hothers⟩
  unfold examined at hread ⊢
  cases hdocumentation : documentation? (inferDeprecated e.metadata) with
  | none =>
    rw [hdocumentation] at hread
    cases hread
    exact .ok .nil
  | some documentation =>
    rw [hdocumentation] at hread
    refine Yields.mapM ?_ hread
    intro sample hsample pair hpair
    obtain ⟨body, hbody, rfl⟩ := map_eq_ok.1 hpair
    have hsample := he sample ⟨documentation, hdocumentation, hsample⟩
    exact (hs _ _ _ hsample hbody).map fun _ hother => ⟨rfl, hother⟩

/-! ### Grammars -/

theorem parseSource_of_grammarVersion {version : Nat} (h : s.grammarVersion = .ok version)
    (reference name source : Text) :
    parseSource s reference name source = (parseModule version source).mapError fun
      | .surrogate => .defect .loneSurrogate
      | .null => .defect .nullCharacter
      | .grammar =>
        .diagnostic (.sample (.grammar (faultLine version ((source.chars?).getD []))) reference name) := by
  unfold parseSource
  rw [h]
  rfl

/-- Every version of the grammar reads an example in the same way as the latest one, or reports it,
unless `async` or `await` is a name in it for that version. -/
theorem examines_of_words {version : Nat} (hversion : s.grammarVersion = .ok version) :
    s.Examines (fun e => 7 ≤ version ∨ ¬ NamesAsync e.source) (fun body other => other = body)
      Failure.ReportsExample := by
  intro reference e body hwords h
  obtain ⟨parsed, hparsed, hbody⟩ := bind_eq_ok.1 h
  have hsame : Yields (· = parsed) Failure.ReportsExample
      (parseSource s reference (e.name.getD []) e.source) := by
    rw [parseSource_of_grammarVersion hversion]
    rw [parseSource_of_grammarVersion (s := .default) rfl] at hparsed
    rcases parseModule_of_latestVersion (mapError_eq_ok.1 hparsed) hwords with heq | hgrammar
    · exact Or.inl ⟨parsed, mapError_eq_ok.2 heq, rfl⟩
    · rw [hgrammar]
      exact .error ⟨_, _, _, rfl⟩
  refine hsame.bind ?_
  rintro _ rfl
  exact Or.inl ⟨body, hbody, rfl⟩

/-- Where one of the words is a name, the statements may be others, so that only their fault
decides. -/
theorem examines_of_grammarVersion {version : Nat} (hversion : s.grammarVersion = .ok version) :
    s.Examines (fun _ => True) (fun _ _ => True)
      fun f => f.ReportsExample ∨ f = .defect .reservedIdentifier := by
  intro reference e body _ h
  obtain ⟨parsed, hparsed, hbody⟩ := bind_eq_ok.1 h
  have hreads : Yields (fun _ => True) (fun f => f.ReportsExample ∨ f = .defect .reservedIdentifier)
      (parseSource s reference (e.name.getD []) e.source) := by
    rw [parseSource_of_grammarVersion hversion]
    rw [parseSource_of_grammarVersion (s := .default) rfl] at hparsed
    rcases parseModule_of_eq_ok (mapError_eq_ok.1 hparsed) with ⟨other, hother⟩ | hgrammar
    · exact Or.inl ⟨other, mapError_eq_ok.2 hother, trivial⟩
    · rw [hgrammar]
      exact .error (Or.inl ⟨_, _, _, rfl⟩)
  refine hreads.bind fun other _ => ?_
  -- The name is the same as usual, so that the statements decide alone.
  split at hbody
  · cases hbody
  case isFalse hnull =>
    rw [if_neg hnull]
    cases bodyFault? other with
    | none => exact .ok trivial
    | some fault =>
      cases fault with
      | rule => exact .error (Or.inl ⟨_, _, _, rfl⟩)
      | reservedIdentifier => exact .error (Or.inr rfl)

/-- Without a grammar no example is read. -/
theorem examines_of_grammarVersion_eq_error {d : Defect} (hversion : s.grammarVersion = .error d) :
    s.Examines (fun _ => True) (fun body other => other = body) (· = .defect d) := by
  intro reference e body _ _
  unfold examine parseSource
  rw [hversion]
  exact .error rfl

end Inference

/-! ## Compilation under options -/

/-- The metadata of the entities of a text are fields. -/
theorem isFieldList_of_analysed {source : Text} {entities : List Entity}
    (h : analysed source = .ok entities) {e : Entity} (he : e ∈ entities) : e.metadata.IsFieldList := by
  obtain ⟨records, -, h⟩ := bind_eq_ok.1 h
  obtain ⟨r, -, hr⟩ := exists_of_mem_of_mapM_eq_ok h he
  exact isFieldList_entity hr

/-- An example of an entity of a text. -/
def IsExampleOf (source : Text) (sample : Example) : Prop :=
  ∃ entities, analysed source = .ok entities ∧ ∃ e ∈ entities, HasExample e sample

section

variable {options : Options} (hname : options.settings.HasIdentifier) {E : Example → Prop}
  {P : Failure → Prop} {source code : Text} (hexamples : ∀ sample, IsExampleOf source sample → E sample)
include hname hexamples

/-- A module under options has whatever carries over from the usual one. -/
theorem generate_yields {R : Module → Module → Prop} {Q : Module → Prop}
    (hreads : options.settings.Examines E R P)
    (hQ : ∀ before after, Q (before ++ after) ↔ Q before ∧ Q after)
    (hcarry : ∀ {e : Entity} {x y : Examined}, e.metadata.IsFieldList →
      examineEntity .default e = .ok x → ReadsAs R x y → CarriesOver Q .default options.settings x y)
    {statements : Module} (h : generate .default source = .ok statements) (hstatements : Q statements) :
    Yields Q P (generate options source) := by
  rw [generate, entitiesOf_eq] at h
  obtain ⟨derived, hderived, h⟩ := bind_eq_ok.1 h
  obtain ⟨entities, hentities, hderived⟩ := bind_eq_ok.1 hderived
  have hall := deriveAll_eq hasIdentifier_default 1 entities
  obtain ⟨xs, hxs, rfl⟩ := map_eq_ok.1 (hall.symm.trans hderived)
  rw [generate, entitiesOf_eq, hentities, ok_bind, deriveAll_eq hname]
  have hexamined : ∀ e ∈ entities, ∀ x, examineEntity .default e = .ok x →
      Yields (CarriesOver Q .default options.settings x) P (examineEntity options.settings e) := by
    intro e he x hx
    have hfields := isFieldList_of_analysed hentities he
    have hsamples : ∀ sample, HasExample e sample → E sample :=
      fun sample hsample => hexamples sample ⟨entities, hentities, e, he, hsample⟩
    rcases examineEntity_yields hreads hsamples hx with ⟨y, hy, hxy⟩ | hfails
    · exact Or.inl ⟨y, hy, hcarry hfields hx hxy⟩
    · exact Or.inr hfails
  rcases Yields.mapM hexamined hxs with ⟨ys, hys, hall⟩ | ⟨f, hf, hfailure⟩
  · rw [hys, map_ok, ok_bind]
    exact Or.inl (exists_moduleStatements hQ hall 1 h hstatements)
  · rw [hf]
    exact .error hfailure

/-- Whatever compiles usually also compiles under options that read the same statements. -/
theorem compile_yields_of_same
    (hreads : options.settings.Examines E (fun body other => other = body) P)
    (h : compile .default source = .ok code) : Yields (fun _ => True) P (compile options source) := by
  rw [compile_eq] at h ⊢
  obtain ⟨statements, hstatements, h⟩ := bind_eq_ok.1 h
  obtain ⟨text, htext, -⟩ := bind_eq_ok.1 h
  have hprint : Yields IsPrintable P (generate options source) := by
    refine generate_yields hname hexamples hreads (fun _ _ => isPrintable_append) ?_ hstatements
      (isPrintable_of_moduleText htext)
    intro e x y he hx hxy
    rw [eq_of_readsAs hxy]
    exact carriesOver_isPrintable he hx _ _
  refine hprint.bind fun changed hchanged => ?_
  obtain ⟨text', htext'⟩ := exists_moduleText hchanged
  rw [htext']
  exact .ok trivial

/-- Whatever compiles usually has a module under options that read any statements, though this
module may hold a number that cannot be printed. -/
theorem compile_yields {R : Module → Module → Prop} (hreads : options.settings.Examines E R P)
    (h : compile .default source = .ok code) :
    Yields (fun _ => True) (fun f => P f ∨ f = .defect .tooManyDigits) (compile options source) := by
  rw [compile_eq] at h ⊢
  obtain ⟨statements, hstatements, -⟩ := bind_eq_ok.1 h
  have hgenerate : Yields (fun _ => True) P (generate options source) :=
    generate_yields hname hexamples hreads (fun _ _ => by simp)
      (fun he hx hxy => carriesOver_of_resembles he hx (resembles_of_readsAs hxy) _ _)
      hstatements trivial
  refine (hgenerate.mono fun f hf => Or.inl hf).bind fun changed _ => ?_
  unfold moduleText
  cases printModule changed with
  | some text => exact .ok trivial
  | none => exact .error (Or.inr rfl)

end

/-! ## Accepted configurations -/

namespace Configuration

/-- The numbers of a version are natural. -/
theorem nonneg_of_versionOf {v : Value} {major minor : Int} (h : versionOf v = .ok (major, minor)) :
    0 ≤ minor := by
  unfold versionOf at h
  split at h
  · cases h
  · split at h
    · cases h
    · split at h
      · cases h
      · split at h
        · cases h
          exact Int.natCast_nonneg _
        · cases h

/-- A version comes from a field. -/
theorem versionOf_of_optionsOf {fields : Entries} {options : Options} {pair : Int × Int}
    (h : optionsOf fields = .ok options) (hversion : options.settings.version = some pair) :
    ∃ v, versionOf v = .ok pair := by
  obtain ⟨field, hfield⟩ : ∃ field : Option Value,
      field.elim (pure none) (fun v => some <$> versionOf v) = .ok options.settings.version := by
    unfold optionsOf at h
    dsimp only at h
    generalize field? fields "feature_version" = field at h
    refine ⟨field, ?_⟩
    split at h <;> obtain ⟨lines, -, h⟩ := bind_eq_ok.1 h <;> cases field <;>
      obtain ⟨version, hpicked, h⟩ := bind_eq_ok.1 h <;> refine hpicked.trans ?_ <;> split at h <;>
      obtain ⟨namePrefix, -, h⟩ := bind_eq_ok.1 h <;> cases h <;> rfl
  rw [hversion] at hfield
  cases field with
  | none => cases hfield
  | some v =>
    obtain ⟨accepted, haccepted, heq⟩ := map_eq_ok.1 hfield
    cases heq
    exact ⟨v, haccepted⟩

/-- An accepted version has a grammar exactly if its first number is three and its second one fits
in 31 bits. -/
theorem exists_grammarVersion_iff {fields : Entries} {options : Options}
    (h : optionsOf fields = .ok options) :
    (∃ version, options.settings.grammarVersion = .ok version) ↔
      ∀ major minor, options.settings.version = some (major, minor) →
        major = 3 ∧ minor < 0x80000000 := by
  unfold Settings.grammarVersion
  cases hversion : options.settings.version with
  | none => simp
  | some pair =>
    obtain ⟨major, minor⟩ := pair
    obtain ⟨v, hv⟩ := versionOf_of_optionsOf h hversion
    have hminor := nonneg_of_versionOf hv
    dsimp only
    -- No number of an accepted version is negative, so that only the upper bound matters.
    constructor
    · rintro ⟨version, hok⟩ _ _ heq
      cases heq
      split at hok
      · cases hok
      · split at hok
        · cases hok
        · omega
    · intro hall
      obtain ⟨hmajor, hbound⟩ := hall major minor rfl
      rw [if_neg (by omega), if_neg (by omega)]
      exact ⟨_, rfl⟩

/-- What an accepted configuration is good for.  Its prefix gives a function for every number, and
its version has a grammar exactly if its first number is three and its second one is below 2³¹.
With a grammar, whatever compiles usually also compiles, or an example is reported; only where an
example has `async` or `await` as a name, which versions below seven allow, it may have other
statements, for which a reserved identifier or a number that is too long to be printed is left open.
Without a grammar, whatever compiles usually also compiles, or the version turns up as a defect. -/
theorem usable_of_read {file text : Text} {options : Options} (hread : read file text = .ok options) :
    (∀ number body, ∃ definition,
      functionDefinition (options.settings.functionName number) body = .ok definition) ∧
    ((∃ version, options.settings.grammarVersion = .ok version) ↔
      ∀ major minor, options.settings.version = some (major, minor) →
        major = 3 ∧ minor < 0x80000000) ∧
    (∀ version, options.settings.grammarVersion = .ok version →
      ∀ source code, compile .default source = .ok code →
        (∃ code', compile options source = .ok code') ∨
          ∃ f, compile options source = .error f ∧
            (f.ReportsExample ∨
              (version < 7 ∧ ∃ sample, IsExampleOf source sample ∧ NamesAsync sample.source) ∧
                (f = .defect .reservedIdentifier ∨ f = .defect .tooManyDigits))) ∧
    ∀ d, options.settings.grammarVersion = .error d →
      ∀ source code, compile .default source = .ok code →
        (∃ code', compile options source = .ok code') ∨ compile options source = .error (.defect d) := by
  obtain ⟨fields, -, hoptions⟩ := bind_eq_ok.1 hread
  have hname : options.settings.HasIdentifier := hasIdentifier_of_optionsOf hoptions
  refine ⟨?_, exists_grammarVersion_iff hoptions, ?_, ?_⟩
  · intro number body
    exact ⟨_, functionDefinition_functionName hname number body⟩
  · intro version hversion source code hcode
    by_cases hwords : version < 7 ∧ ∃ sample, IsExampleOf source sample ∧ NamesAsync sample.source
    · rcases compile_yields hname (fun _ _ => trivial) (examines_of_grammarVersion hversion) hcode with
        ⟨code', hcode', -⟩ | ⟨f, hf, (hreports | hreserved) | hdigits⟩
      · exact Or.inl ⟨code', hcode'⟩
      · exact Or.inr ⟨f, hf, Or.inl hreports⟩
      · exact Or.inr ⟨f, hf, Or.inr ⟨hwords, Or.inl hreserved⟩⟩
      · exact Or.inr ⟨f, hf, Or.inr ⟨hwords, Or.inr hdigits⟩⟩
    · have hexamples : ∀ sample, IsExampleOf source sample → 7 ≤ version ∨ ¬ NamesAsync sample.source := by
        intro sample hsample
        by_contra hnames
        rw [not_or, not_not, Nat.not_le] at hnames
        exact hwords ⟨hnames.1, sample, hsample, hnames.2⟩
      rcases compile_yields_of_same hname hexamples (examines_of_words hversion) hcode with
        ⟨code', hcode', -⟩ | ⟨f, hf, hreports⟩
      · exact Or.inl ⟨code', hcode'⟩
      · exact Or.inr ⟨f, hf, Or.inl hreports⟩
  · intro d hd source code hcode
    rcases compile_yields_of_same hname (fun _ _ => trivial) (examines_of_grammarVersion_eq_error hd)
      hcode with ⟨code', hcode', -⟩ | ⟨f, hf, rfl⟩
    · exact Or.inl ⟨code', hcode'⟩
    · exact Or.inr hf

/-- The fields of a text whose document is built into a mapping. -/
theorem fieldsOf_of_node {file text : Text} {cs : List Char} {n : Yaml.Node} {entries : Entries}
    (hblank : text.isBlank = false) (hchars : text.chars? = some cs)
    (hallowed : cs.all Yaml.isAllowed = true)
    (hn : (Yaml.tokensOf cs >>= Yaml.Node.ofTokens?) = .ok (some n))
    (hbuild : n.merged.build = .ok (.dict entries)) : fieldsOf file text = .ok entries := by
  unfold fieldsOf
  rw [hblank, Yaml.load_of_node hchars hallowed hn, hbuild]
  rfl

/-- A configuration with a version and a prefix. -/
def recentText : Text :=
  "codegen:\n  feature_version: '3.8'\n  example_prefix: run\n"

theorem read_recentText :
    read fileName recentText = .ok ⟨defaultPrelude, ⟨some (3, 8), "run"⟩⟩ := by
  have hn : (Yaml.tokensOf "codegen:\n  feature_version: '3.8'\n  example_prefix: run\n".toList >>=
      Yaml.Node.ofTokens?) = .ok (some (.mapping .map [.mk (.scalar .str "codegen") (.mapping .map
        [.mk (.scalar .str "feature_version") (.scalar .str "3.8"),
          .mk (.scalar .str "example_prefix") (.scalar .str "run")])])) :=
    toOption_eq_some_iff.1 (by decide +kernel)
  refine bind_eq_ok.2 ⟨?entries, fieldsOf_of_node (by decide +kernel) (by decide +kernel)
    (by decide +kernel) hn ?build, ?options⟩
  case build =>
    simp only [Yaml.Node.merged, Yaml.flattened?, Yaml.splitMerges, Yaml.Node.tag]
    rfl
  case options => rfl

/-- A configuration with a version that has no grammar. -/
def ancientText : Text :=
  "codegen:\n  feature_version: '2.7'\n"

theorem read_ancientText :
    read fileName ancientText = .ok ⟨defaultPrelude, ⟨some (2, 7), "_example"⟩⟩ := by
  have hn : (Yaml.tokensOf "codegen:\n  feature_version: '2.7'\n".toList >>=
      Yaml.Node.ofTokens?) = .ok (some (.mapping .map [.mk (.scalar .str "codegen") (.mapping .map
        [.mk (.scalar .str "feature_version") (.scalar .str "2.7")])])) :=
    toOption_eq_some_iff.1 (by decide +kernel)
  refine bind_eq_ok.2 ⟨?entries, fieldsOf_of_node (by decide +kernel) (by decide +kernel)
    (by decide +kernel) hn ?build, ?options⟩
  case build =>
    simp only [Yaml.Node.merged, Yaml.flattened?, Yaml.splitMerges, Yaml.Node.tag]
    rfl
  case options => rfl

theorem isOk_compile_pairSource :
    (compile .default pairSource).isOk = true ∧
      (compile ⟨defaultPrelude, ⟨some (2, 7), "_example"⟩⟩ pairSource).isOk = false := by
  decide +kernel

theorem usable_recentText :
    ∃ options, read fileName recentText = .ok options ∧
      options.settings.grammarVersion = .ok 8 ∧ (compile .default pairSource).isOk = true ∧
      ((∃ code', compile options pairSource = .ok code') ∨
        ∃ f, compile options pairSource = .error f ∧ f.ReportsExample) := by
  refine ⟨_, read_recentText, rfl, isOk_compile_pairSource.1, ?_⟩
  obtain ⟨code, hcode⟩ := isOk_iff.1 isOk_compile_pairSource.1
  obtain ⟨-, -, hcompile, -⟩ := usable_of_read read_recentText
  rcases hcompile 8 rfl pairSource code hcode with hok | ⟨f, hf, hreports | ⟨⟨hearly, -⟩, -⟩⟩
  · exact Or.inl hok
  · exact Or.inr ⟨f, hf, hreports⟩
  · exact absurd hearly (by decide)

/-- The configuration is accepted, but its version only turns up as a defect when an example is
read. -/
theorem compile_ancientText :
    ∃ options, read fileName ancientText = .ok options ∧
      (∃ code, compile .default pairSource = .ok code) ∧
      compile options pairSource = .error (.defect .grammarMajor) := by
  obtain ⟨hdefault, hfails⟩ := isOk_compile_pairSource
  obtain ⟨code, hcode⟩ := isOk_iff.1 hdefault
  refine ⟨_, read_ancientText, ⟨code, hcode⟩, ?_⟩
  have hyields : Yields (fun _ => True) (· = .defect .grammarMajor)
      (compile ⟨defaultPrelude, ⟨some (2, 7), "_example"⟩⟩ pairSource) :=
    compile_yields_of_same hasIdentifier_default (fun _ _ => trivial)
      (examines_of_grammarVersion_eq_error rfl) hcode
  rcases hyields with ⟨code', hcode', -⟩ | ⟨f, hf, rfl⟩
  · rw [hcode'] at hfails
    cases hfails
  · exact hf

end Configuration

end AnnotatedMarkdown
