import AnnotatedMarkdown.Proofs.Text.Pattern
import Mathlib.Data.List.Induction
import Mathlib.Data.List.TakeWhile

/-!
# Rewriting line by line

A documentation text is rewritten by two replacements, one after the other.  Both patterns
stay within lines, so each line is rewritten by itself.

* `replace_markerLine` and `replaceFrom_trailingMarker` say what a replacement makes of a line.
* `rewriteLine_eq` joins them: `rewriteLine` is what both of them make of it.
* `Rewritten` describes a rewritten line without trimming.
* `rewrite_lines` is the result: every line is rewritten by itself, no rewritten line ends in
  a marker, and so a second rewriting changes nothing.
-/

namespace AnnotatedMarkdown.Documentation

open Text

/-! ## Colons and gaps -/

/-- A number of colons. -/
def colons (k : Nat) : Text :=
  List.replicate k (.scalar ':')

theorem marker_eq_colons : marker = colons 2 :=
  rfl

theorem colons_succ (k : Nat) : colons (k + 1) = .scalar ':' :: colons k :=
  rfl

theorem colons_append (j k : Nat) : colons j ++ colons k = colons (j + k) :=
  List.replicate_append_replicate

theorem isColon_iff {c : CodePoint} : isColon c = true ↔ c = .scalar ':' := by
  simp [isColon]

/-- No colon is part of a gap. -/
theorem not_isGap_of_isColon {c : CodePoint} (h : isColon c = true) : isGap c = false := by
  rw [isColon_iff] at h
  rw [h]
  rfl

/-- What ends in a marker is a text in front of two or more colons and a gap. -/
theorem exists_colons_of_endsInMarker {line : Text} (h : EndsInMarker isGap line) :
    ∃ body k gap, line = body ++ colons k ++ gap ∧ 2 ≤ k ∧ gap.all isGap = true ∧
      body.getLast? ≠ some (.scalar ':') := by
  obtain ⟨front, gap, rfl, hgap⟩ := h
  -- The colons at the end of the text in front of the marker belong to the run.
  have hrun : ∀ (front : Text) (k : Nat), 2 ≤ k → ∃ body k', 2 ≤ k' ∧
      front ++ colons k = body ++ colons k' ∧ body.getLast? ≠ some (.scalar ':') := by
    intro front
    induction front using List.reverseRecOn with
    | nil => exact fun k hk => ⟨[], k, hk, rfl, by simp⟩
    | append_singleton front c ih =>
      intro k hk
      by_cases hc : c = .scalar ':'
      · obtain ⟨body, k', hk', hbody, hlast⟩ := ih (k + 1) (by omega)
        refine ⟨body, k', hk', ?_, hlast⟩
        rw [← hbody, hc, colons_succ, List.append_assoc]
        rfl
      · exact ⟨front ++ [c], k, hk, rfl, by simpa using hc⟩
  obtain ⟨body, k, hk, hbody, hlast⟩ := hrun front 2 (Nat.le_refl 2)
  exact ⟨body, k, gap, by rw [marker_eq_colons, hbody], hk, hgap, hlast⟩

theorem endsInMarker_colons {k : Nat} (hk : 2 ≤ k) {gap : Text} (hgap : gap.all isGap = true)
    (body : Text) : EndsInMarker isGap (body ++ colons k ++ gap) := by
  obtain ⟨n, rfl⟩ := Nat.exists_eq_add_of_le' hk
  refine ⟨body ++ colons n, gap, ?_, hgap⟩
  rw [← colons_append n 2, marker_eq_colons, ← List.append_assoc body (colons n)]

/-! ## The pattern of a line -/

theorem isWithinLine_markerLine : IsWithinLine markerLine where
  staysInLine := by decide
  match?_nil before := by
    cases h : isLineBound before <;> simp [markerLine, match?, h]

/-- Within a line no further line starts. -/
theorem replaceFrom_markerLine {c : CodePoint} (hc : c.isLineFeed = false) {t : Text}
    (ht : ∀ d ∈ t, d.isLineFeed = false) : replaceFrom markerLine [] 0 (some c) t = t := by
  induction t generalizing c with
  | nil => rfl
  | cons d t ih =>
    have hbound : isLineBound (some c) = false := hc
    have hnone : match? markerLine (some c) (d :: t) = none := by
      simp [markerLine, match?, hbound]
    rw [replaceFrom, hnone]
    exact congrArg (d :: ·) (ih (ht d List.mem_cons_self) fun e he => ht e (List.mem_cons_of_mem d he))

/-- Only a line of two colons matches. -/
theorem match?_markerLine_of_ne {line : Text} (hline : ∀ c ∈ line, c.isLineFeed = false)
    (hmarker : line ≠ marker) : match? markerLine none line = none := by
  match line with
  | [] => rfl
  | [c] =>
    by_cases hc : isColon c = true <;> simp [markerLine, match?, isLineBound, hc]
  | [c, d] =>
    have hpair : ¬ (isColon c = true ∧ isColon d = true) := by
      rintro ⟨hc, hd⟩
      rw [isColon_iff.1 hc, isColon_iff.1 hd] at hmarker
      exact hmarker rfl
    by_cases hc : isColon c = true
    · have hd : isColon d = false := Bool.eq_false_iff.2 fun hd => hpair ⟨hc, hd⟩
      simp [markerLine, match?, isLineBound, hc, hd]
    · simp [markerLine, match?, isLineBound, hc]
  | c :: d :: e :: t =>
    have he : e.isLineFeed = false := hline e (by simp)
    simp [markerLine, match?, isLineBound, he]

/-- A line of two colons becomes empty. -/
theorem replace_markerLine {line : Text} (hline : ∀ c ∈ line, c.isLineFeed = false) :
    replace markerLine [] line = if line = marker then [] else line := by
  by_cases hmarker : line = marker
  · rw [if_pos hmarker, hmarker]
    rfl
  · rw [if_neg hmarker]
    cases line with
    | nil => rfl
    | cons c t =>
      have hnone : match? markerLine none (c :: t) = none :=
        match?_markerLine_of_ne hline hmarker
      rw [replace, replaceFrom, hnone]
      exact congrArg (c :: ·) (replaceFrom_markerLine (hline c List.mem_cons_self)
        fun d hd => hline d (List.mem_cons_of_mem c hd))

/-! ## The pattern of a trailing marker -/

theorem isWithinLine_trailingMarker : IsWithinLine trailingMarker where
  staysInLine := by decide
  match?_nil _ := rfl

section

variable {line : Text} (hline : ∀ c ∈ line, c.isLineFeed = false)

include hline

/-- A gap that reaches to the end of the line is taken as a whole. -/
theorem matchMany?_isGap (before : Option CodePoint) :
    matchMany? isGap (match? [.lineEnd]) before line = if line.all isGap then some [] else none := by
  induction line generalizing before with
  | nil => rfl
  | cons c t ih =>
    have hend : match? [.lineEnd] before (c :: t) = none := by
      have hbound : isLineBound (some c) = false := hline c List.mem_cons_self
      simp [match?, hbound]
    rw [matchMany?, hend, ih (fun d hd => hline d (List.mem_cons_of_mem c hd)) (some c),
      List.all_cons]
    by_cases hc : isGap c = true <;> simp [hc]

/-- Colons are taken as long as there are any, because none is part of a gap. -/
theorem matchMany?_isColon (before : Option CodePoint) :
    matchMany? isColon (match? [.many isGap, .lineEnd]) before line =
      if (line.dropWhile isColon).all isGap then some [] else none := by
  induction line generalizing before with
  | nil => rfl
  | cons c t ih =>
    have hgap : match? [.many isGap, .lineEnd] before (c :: t) =
        if (c :: t).all isGap then some [] else none := matchMany?_isGap hline before
    rw [matchMany?, hgap, ih (fun d hd => hline d (List.mem_cons_of_mem c hd)) (some c)]
    by_cases hc : isColon c = true
    · simp [hc, not_isGap_of_isColon hc]
    · simp [hc]

/-- The pattern matches to the end of the line, or not at all. -/
theorem match?_trailingMarker (before : Option CodePoint) :
    match? trailingMarker before line =
      if marker.isPrefixOf line ∧ (line.dropWhile isColon).all isGap then some [] else none := by
  match line with
  | [] => rfl
  | [c] =>
    have hshort : marker.isPrefixOf [c] = false := by simp [marker_eq, List.isPrefixOf]
    simp [trailingMarker, match?, hshort]
  | c :: d :: t =>
    have htail : ∀ e ∈ t, e.isLineFeed = false := fun e he =>
      hline e (List.mem_cons_of_mem c (List.mem_cons_of_mem d he))
    have hrest := matchMany?_isColon htail (some d)
    have hmatch : match? trailingMarker before (c :: d :: t) =
        if isColon c then
          if isColon d then matchMany? isColon (match? [.many isGap, .lineEnd]) (some d) t else none
        else none := rfl
    have hfront : marker.isPrefixOf (c :: d :: t) = (isColon c && isColon d) := by
      rw [marker_eq, isColon, isColon, BEq.comm, BEq.comm (a := d)]
      exact congrArg _ (Bool.and_true _)
    rw [hmatch, hrest, hfront]
    cases hc : isColon c with
    | false => simp
    | true =>
      cases hd : isColon d with
      | false => simp
      | true =>
        rw [List.dropWhile_cons_of_pos hc, List.dropWhile_cons_of_pos hd]
        simp

/-- Where the pattern matches, a marker ends the line. -/
theorem endsInMarker_of_match? {before : Option CodePoint} {rest : Text}
    (h : match? trailingMarker before line = some rest) : EndsInMarker isGap line := by
  rw [match?_trailingMarker hline] at h
  split at h
  · next hmatch =>
    obtain ⟨hfront, hgap⟩ := hmatch
    obtain ⟨t, rfl⟩ := List.isPrefixOf_iff_prefix.1 hfront
    have hrun : marker ++ t = colons 2 ++ (t.takeWhile isColon ++ t.dropWhile isColon) := by
      rw [List.takeWhile_append_dropWhile, marker_eq_colons]
    have hcolons : t.takeWhile isColon = colons (t.takeWhile isColon).length := by
      rw [colons, List.eq_replicate_iff]
      exact ⟨rfl, fun c hc => isColon_iff.1 (List.mem_takeWhile_imp hc)⟩
    have hdrop : (marker ++ t).dropWhile isColon = t.dropWhile isColon := rfl
    rw [hdrop] at hgap
    rw [hrun, hcolons, ← List.append_assoc, colons_append]
    exact endsInMarker_colons (by omega) hgap []
  · cases h

/-- A line that ends in no marker is left as it is. -/
theorem replaceFrom_trailingMarker_of_not_endsInMarker (h : ¬ EndsInMarker isGap line)
    (before : Option CodePoint) : replaceFrom trailingMarker ":" 0 before line = line := by
  induction line generalizing before with
  | nil => rfl
  | cons c t ih =>
    have hnone : match? trailingMarker before (c :: t) = none :=
      Option.eq_none_iff_forall_ne_some.2 fun rest hrest => h (endsInMarker_of_match? hline hrest)
    rw [replaceFrom, hnone]
    exact congrArg (c :: ·) (ih (fun d hd => hline d (List.mem_cons_of_mem c hd))
      (fun hends => h (hends.append_left [c])) (some c))

end

/-- Nothing matches in front of a code point that ends no run of colons at the marker. -/
theorem match?_trailingMarker_of_getLast? {body gap : Text} {k : Nat} (hk : 2 ≤ k) (hbody : body ≠ [])
    (hlast : body.getLast? ≠ some (.scalar ':'))
    (hline : ∀ c ∈ body ++ colons k ++ gap, c.isLineFeed = false) (before : Option CodePoint) :
    match? trailingMarker before (body ++ colons k ++ gap) = none := by
  rw [match?_trailingMarker hline, if_neg]
  rintro ⟨-, hgap⟩
  obtain ⟨front, d, rfl⟩ := (List.eq_nil_or_concat body).resolve_left hbody
  rw [List.concat_eq_append] at hlast hgap
  have hd : isColon d = false := by
    rw [Bool.eq_false_iff, Ne, isColon_iff]
    simpa using hlast
  -- The run stops at the last code point of the body at the latest, in front of colons.
  have hmem : CodePoint.scalar ':' ∈ (front ++ [d] ++ colons k ++ gap).dropWhile isColon := by
    have hdrop : ∀ front : Text,
        CodePoint.scalar ':' ∈ (front ++ [d] ++ colons k ++ gap).dropWhile isColon := by
      intro front
      induction front with
      | nil =>
        rw [List.nil_append, List.singleton_append, List.cons_append, List.dropWhile_cons_of_neg (by simp [hd])]
        simp only [List.mem_cons, List.mem_append, colons, List.mem_replicate]
        exact Or.inr (Or.inl ⟨by omega, trivial⟩)
      | cons c front ih =>
        rw [List.cons_append, List.cons_append, List.cons_append]
        by_cases hc : isColon c = true
        · rw [List.dropWhile_cons_of_pos hc]
          exact ih
        · rw [List.dropWhile_cons_of_neg hc]
          simp only [List.mem_cons, List.mem_append, colons, List.mem_replicate]
          exact Or.inr (Or.inl (Or.inr ⟨by omega, trivial⟩))
    exact hdrop front
  have hcontra := List.all_eq_true.1 hgap _ hmem
  exact absurd hcontra (by decide)

/-- The marker at the end of a line becomes one colon. -/
theorem replaceFrom_trailingMarker {body gap : Text} {k : Nat} (hk : 2 ≤ k)
    (hgap : gap.all isGap = true) (hlast : body.getLast? ≠ some (.scalar ':'))
    (hline : ∀ c ∈ body ++ colons k ++ gap, c.isLineFeed = false) (before : Option CodePoint) :
    replaceFrom trailingMarker ":" 0 before (body ++ colons k ++ gap) = body ++ [.scalar ':'] := by
  induction body generalizing before with
  | nil =>
    rw [List.nil_append] at hline ⊢
    obtain ⟨n, rfl⟩ := Nat.exists_eq_add_of_le' hk
    have hfront : marker.isPrefixOf (colons (n + 2) ++ gap) = true := by
      rw [List.isPrefixOf_iff_prefix]
      exact ⟨colons n ++ gap, rfl⟩
    have hdrop : ((colons (n + 2) ++ gap).dropWhile isColon).all isGap = true := by
      rw [List.dropWhile_append_of_pos (by simp [colons, isColon])]
      exact List.all_eq_true.2 fun c hc => List.all_eq_true.1 hgap c (List.dropWhile_subset _ hc)
    have hmatch := match?_trailingMarker hline before
    rw [if_pos ⟨hfront, hdrop⟩] at hmatch
    rw [colons_succ, List.cons_append] at hmatch ⊢
    rw [replaceFrom, hmatch]
    exact congrArg (Text.ofString ":" ++ ·) (replaceFrom_length _ _)
  | cons c body ih =>
    have hnone := match?_trailingMarker_of_getLast? hk (List.cons_ne_nil c body) hlast hline before
    rw [List.cons_append, List.cons_append] at hnone ⊢
    rw [replaceFrom, hnone]
    cases body with
    | nil =>
      exact congrArg (c :: ·) (ih (by simp) (fun d hd => hline d (List.mem_cons_of_mem c hd)) (some c))
    | cons d body =>
      exact congrArg (c :: ·) (ih (by simpa using hlast)
        (fun e he => hline e (List.mem_cons_of_mem c he)) (some c))

/-! ## Lines -/

/-- A line and what it is rewritten to.  A line of two colons becomes empty; otherwise, two or
more colons and a gap at the end of a line become one colon; all other lines stay. -/
inductive Rewritten : Text → Text → Prop where
  | emptied : Rewritten (colons 2) []
  | shortened {body gap : Text} {k : Nat} (hk : 2 ≤ k) (hgap : gap.all isGap = true)
      (hlast : body.getLast? ≠ some (.scalar ':')) (hline : body ++ colons k ++ gap ≠ colons 2) :
      Rewritten (body ++ colons k ++ gap) (body ++ colons 1)
  | kept {line : Text} (hline : ∀ body k gap, 2 ≤ k → gap.all isGap = true →
      body.getLast? ≠ some (.scalar ':') → line ≠ body ++ colons k ++ gap) : Rewritten line line

/-- The colons and the gap at the end of a line are what is trimmed. -/
theorem rewriteLine_colons {body gap : Text} {k : Nat} (hk : 2 ≤ k) (hgap : gap.all isGap = true)
    (hlast : body.getLast? ≠ some (.scalar ':')) (hline : body ++ colons k ++ gap ≠ marker) :
    rewriteLine (body ++ colons k ++ gap) = body ++ [.scalar ':'] := by
  have hends := isSuffixOf_gap_iff.2 (endsInMarker_colons hk hgap body)
  have hrun : trimEndBy isGap (body ++ colons k) = body ++ colons k := by
    obtain ⟨n, rfl⟩ := Nat.exists_eq_add_of_le' hk
    have hconcat : body ++ colons (n + 2) = body ++ colons (n + 1) ++ [.scalar ':'] := by
      rw [← colons_append (n + 1) 1, ← List.append_assoc]
      rfl
    rw [hconcat]
    exact trimEndBy_concat (by decide) _
  have hbody : trimEndBy isColon body = body := by
    rcases List.eq_nil_or_concat body with rfl | ⟨front, d, rfl⟩
    · rfl
    · rw [List.concat_eq_append] at hlast ⊢
      refine trimEndBy_concat ?_ front
      rw [Bool.eq_false_iff, Ne, isColon_iff]
      simpa using hlast
  rw [rewriteLine, if_neg hline]
  dsimp only
  rw [if_pos hends, trimEndBy_append_of_all _ hgap, hrun, trimEndBy_append_of_all, hbody]
  simp [colons, isColon]

theorem rewritten_rewriteLine (line : Text) : Rewritten line (rewriteLine line) := by
  by_cases hmarker : line = marker
  · rw [rewriteLine, if_pos hmarker, hmarker]
    exact .emptied
  · by_cases hends : EndsInMarker isGap line
    · obtain ⟨body, k, gap, rfl, hk, hgap, hlast⟩ := exists_colons_of_endsInMarker hends
      rw [rewriteLine_colons hk hgap hlast hmarker]
      exact .shortened hk hgap hlast hmarker
    · have hkept : rewriteLine line = line := by
        rw [← isSuffixOf_gap_iff] at hends
        rw [rewriteLine, if_neg hmarker]
        exact if_neg hends
      rw [hkept]
      refine .kept fun body k gap hk hgap _ heq => hends ?_
      rw [heq]
      exact endsInMarker_colons hk hgap body

/-- Both replacements together rewrite a line. -/
theorem rewriteLine_eq {line : Text} (hline : ∀ c ∈ line, c.isLineFeed = false) :
    replace trailingMarker ":" (replace markerLine [] line) = rewriteLine line := by
  rw [replace_markerLine hline]
  by_cases hmarker : line = marker
  · rw [if_pos hmarker, rewriteLine, if_pos hmarker]
    rfl
  · rw [if_neg hmarker, replace]
    by_cases hends : EndsInMarker isGap line
    · obtain ⟨body, k, gap, rfl, hk, hgap, hlast⟩ := exists_colons_of_endsInMarker hends
      rw [replaceFrom_trailingMarker hk hgap hlast hline, rewriteLine_colons hk hgap hlast hmarker]
    · rw [replaceFrom_trailingMarker_of_not_endsInMarker hline hends, rewriteLine, if_neg hmarker]
      rw [← isSuffixOf_gap_iff] at hends
      exact (if_neg hends).symm

/-- A line that has been rewritten is rewritten to itself. -/
theorem rewriteLine_rewriteLine (line : Text) : rewriteLine (rewriteLine line) = rewriteLine line := by
  have hends := not_endsInMarker_rewriteLine line
  have hmarker : rewriteLine line ≠ marker := by
    intro heq
    rw [heq] at hends
    exact hends ⟨[], [], rfl, rfl⟩
  rw [← isSuffixOf_gap_iff] at hends
  rw [rewriteLine, if_neg hmarker]
  exact if_neg hends

/-! ## Texts -/

/-- The lines of a rewritten text are the rewritten lines of the text. -/
theorem splitBy_rewrite (t : Text) : (rewrite t).splitBy CodePoint.isLineFeed =
    (t.splitBy CodePoint.isLineFeed).map rewriteLine := by
  have hpieces : ∀ line ∈ t.splitBy CodePoint.isLineFeed, ∀ c ∈ line, c.isLineFeed = false :=
    fun line hline c hc => (mem_of_mem_splitBy hline hc).2
  have hfirst : ∀ line ∈ (t.splitBy CodePoint.isLineFeed).map (replace markerLine []),
      ∀ c ∈ line, c.isLineFeed = false := by
    intro line hline c hc
    obtain ⟨piece, hpiece, rfl⟩ := List.mem_map.1 hline
    rw [replace_markerLine (hpieces piece hpiece)] at hc
    split at hc
    · cases hc
    · exact hpieces piece hpiece c hc
  have hne := splitBy_ne_nil (p := CodePoint.isLineFeed) t
  have hlines : ∀ line ∈ t.splitBy CodePoint.isLineFeed,
      (replace trailingMarker ":" ∘ replace markerLine []) line = rewriteLine line :=
    fun line hline => rewriteLine_eq (hpieces line hline)
  rw [rewrite, replace_eq_join isWithinLine_trailingMarker,
    replace_eq_join isWithinLine_markerLine, splitBy_join (by simpa using hne) hfirst,
    List.map_map, List.map_congr_left hlines]
  refine splitBy_join (by simpa using hne) fun line hline c hc => ?_
  obtain ⟨piece, hpiece, rfl⟩ := List.mem_map.1 hline
  rcases mem_rewriteLine hc with hc | rfl
  · exact hpieces piece hpiece c hc
  · rfl

/-- A text is rewritten line by line: a line of two colons becomes empty, colons and a gap at
the end of a line become one colon, and all else stays.  After that no line ends in a marker,
and the text is rewritten to itself. -/
theorem rewrite_lines (t : Text) :
    ((rewrite t).splitBy CodePoint.isLineFeed = (t.splitBy CodePoint.isLineFeed).map rewriteLine ∧
      ∀ line, Rewritten line (rewriteLine line)) ∧
    ((rewrite t).splitBy CodePoint.isLineFeed).length = (t.splitBy CodePoint.isLineFeed).length ∧
    (∀ line ∈ (rewrite t).splitBy CodePoint.isLineFeed, ∀ body k gap, 2 ≤ k → gap.all isGap = true →
      line ≠ body ++ colons k ++ gap) ∧
    rewrite (rewrite t) = rewrite t := by
  refine ⟨⟨splitBy_rewrite t, rewritten_rewriteLine⟩, ?_, ?_, ?_⟩
  · rw [splitBy_rewrite, List.length_map]
  · intro line hline body k gap hk hgap heq
    rw [splitBy_rewrite] at hline
    obtain ⟨piece, -, rfl⟩ := List.mem_map.1 hline
    apply not_endsInMarker_rewriteLine piece
    rw [heq]
    exact endsInMarker_colons hk hgap body
  · have hlines : (rewrite (rewrite t)).splitBy CodePoint.isLineFeed =
        (rewrite t).splitBy CodePoint.isLineFeed := by
      rw [splitBy_rewrite, splitBy_rewrite, List.map_map]
      exact List.map_congr_left fun line _ => rewriteLine_rewriteLine line
    rw [← join_splitBy (rewrite (rewrite t)), hlines, join_splitBy]

end AnnotatedMarkdown.Documentation
