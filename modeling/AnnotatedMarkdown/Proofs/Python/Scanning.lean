import AnnotatedMarkdown.Proofs.Python.Lexing

/-!
# Lexical analysis without a count of steps

`scan` counts its steps, and `lex` allows enough of them.  Each step takes a character or leaves
the start of a line, so that `weight` bounds the steps that are left (`weight_lt`).  `scanAll` is
the analysis with that many steps, and its equations have no count.
-/

namespace AnnotatedMarkdown.Python

/-! ## What is left of a text -/

/-- What is left of a text after a part of it that is not empty. -/
structure Leaves (cs rest : List Char) : Prop where
  suffix : rest <:+ cs
  shorter : rest.length < cs.length

theorem Leaves.cons {cs rest : List Char} (h : rest <:+ cs) (c : Char) : Leaves (c :: cs) rest :=
  ⟨h.trans (List.suffix_cons c cs), Nat.lt_succ_of_le h.length_le⟩

theorem Leaves.of_suffix {cs ds rest : List Char} (h : Leaves ds rest) (hds : ds <:+ cs) :
    Leaves cs rest :=
  ⟨h.suffix.trans hds, Nat.lt_of_lt_of_le h.shorter hds.length_le⟩

theorem digitRun_append_rest {isDigit : Char → Bool} {cs ds rest : List Char}
    (h : digitRun isDigit cs = some (ds, rest)) : ds ++ rest = cs := by
  fun_induction digitRun isDigit cs generalizing ds rest with
  | case1 =>
    cases h
    rfl
  | case2 => cases h
  | case3 d cs hd ih =>
    obtain ⟨⟨ds, rest⟩, hmore, ⟨⟩⟩ := Option.map_eq_some_iff.1 h
    rw [List.cons_append, ih hmore]
  | case4 => cases h
  | case5 c cs _ _ hc ih =>
    obtain ⟨⟨ds, rest⟩, hmore, ⟨⟩⟩ := Option.map_eq_some_iff.1 h
    rw [List.cons_append, ih hmore]
  | case6 =>
    cases h
    rfl

theorem digitRun_suffix {isDigit : Char → Bool} {cs ds rest : List Char}
    (h : digitRun isDigit cs = some (ds, rest)) : rest <:+ cs :=
  ⟨ds, digitRun_append_rest h⟩

theorem numberSuffix?_suffix {taken cs spelling rest : List Char}
    (h : numberSuffix? taken cs = some (spelling, rest)) : rest <:+ cs := by
  unfold numberSuffix? at h
  split at h
  · split at h
    · obtain ⟨-, ⟨⟩⟩ := Option.ite_none_right_eq_some.1 h
      exact List.suffix_cons _ _
    · obtain ⟨-, ⟨⟩⟩ := Option.ite_none_right_eq_some.1 h
      exact List.suffix_rfl
  · cases h
    exact List.suffix_rfl

theorem numberExponent?_suffix {taken cs spelling rest : List Char}
    (h : numberExponent? taken cs = some (spelling, rest)) : rest <:+ cs := by
  have hself : ∀ {c : Prop} [Decidable c],
      (if c then some (taken, cs) else none) = some (spelling, rest) → rest <:+ cs := by
    intro c _ hc
    obtain ⟨-, ⟨⟩⟩ := Option.ite_none_right_eq_some.1 hc
    exact List.suffix_rfl
  have hdigits : ∀ {more : List Char} {f : List Char → List Char}, more <:+ cs →
      ((digitRun Char.isDigit more).bind fun p => numberSuffix? (f p.1) p.2) =
        some (spelling, rest) → rest <:+ cs := by
    intro more f hmore hbind
    obtain ⟨⟨ds, left⟩, hrun, hsuffix⟩ := Option.bind_eq_some_iff.1 hbind
    exact (numberSuffix?_suffix hsuffix).trans ((digitRun_suffix hrun).trans hmore)
  unfold numberExponent? at h
  split at h
  · next e more =>
    split at h
    · split at h
      · next d more =>
        split at h
        · exact hdigits (f := fun ds => taken ++ e :: ds) (List.suffix_cons _ _) h
        · split at h
          · split at h
            · split at h
              · exact hdigits (f := fun ds => taken ++ e :: d :: ds)
                  ((List.suffix_cons d _).trans (List.suffix_cons e _)) h
              · cases h
            · cases h
          · exact hself h
      · exact hself h
    · exact numberSuffix?_suffix h
  · cases h
    exact List.suffix_rfl

theorem numberFraction?_suffix {taken cs spelling rest : List Char}
    (h : numberFraction? taken cs = some (spelling, rest)) : rest <:+ cs := by
  unfold numberFraction? at h
  split at h
  · split at h
    · obtain ⟨⟨digits, left⟩, hrun, hexponent⟩ := Option.bind_eq_some_iff.1 h
      exact (numberExponent?_suffix hexponent).trans (digitRun_suffix hrun)
    · exact numberExponent?_suffix h
  · cases h
    exact List.suffix_rfl

theorem basedNumber?_suffix {isDigit : Char → Bool} {cs spelling rest : List Char}
    (h : basedNumber? isDigit cs = some (spelling, rest)) : rest <:+ cs := by
  unfold basedNumber? at h
  split at h
  · next hrun =>
    have hsuffix := digitRun_suffix hrun
    split at h
    · obtain ⟨-, ⟨⟩⟩ := Option.ite_none_left_eq_some.1 h
      exact hsuffix
    · cases h
      exact hsuffix
  · cases h

/-- A digit at the front is taken. -/
theorem decimalNumber?_suffix {c : Char} {cs spelling rest : List Char} (hc : c.isDigit = true)
    (h : decimalNumber? (c :: cs) = some (spelling, rest)) : rest <:+ cs := by
  obtain ⟨⟨whole, left⟩, hrun, hrest⟩ := Option.bind_eq_some_iff.1 h
  have hleft : left <:+ cs := by
    have hwhole := digitRun_append_rest hrun
    cases whole with
    | nil =>
      rw [digitRun] at hrun
      · rw [if_pos hc] at hrun
        obtain ⟨_, _, ⟨⟩⟩ := Option.map_eq_some_iff.1 hrun
      · rintro rfl
        exact absurd hc (by decide)
      · rintro d ds rfl
        exact absurd hc (by decide)
    | cons d whole => exact ⟨whole, (List.cons.inj hwhole).2⟩
  dsimp only at hrest
  split at hrest
  · exact (numberFraction?_suffix hrest).trans ((List.suffix_cons _ _).trans hleft)
  · exact (numberExponent?_suffix (Option.ite_none_left_eq_some.1 hrest).2).trans hleft

theorem number?_leaves {cs spelling rest : List Char} (hcs : startsNumber cs = true)
    (h : number? cs = some (spelling, rest)) : Leaves cs rest := by
  unfold number? at h
  split at h
  · exact .cons (numberFraction?_suffix h) _
  · next x more =>
    have hbased : ∀ isDigit, (basedNumber? isDigit more).map (fun p => ('0' :: x :: p.1, p.2)) =
        some (spelling, rest) → Leaves ('0' :: x :: more) rest := by
      intro isDigit hmap
      obtain ⟨⟨ds, left⟩, hbased, ⟨⟩⟩ := Option.map_eq_some_iff.1 hmap
      exact .cons ((basedNumber?_suffix hbased).trans (List.suffix_cons _ _)) _
    dsimp only at h
    split at h
    · exact hbased _ h
    · split at h
      · exact hbased _ h
      · split at h
        · exact hbased _ h
        · exact .cons (decimalNumber?_suffix rfl h) _
  · next hdot hzero =>
    rcases cs with - | ⟨c, - | ⟨d, cs⟩⟩
    · cases hcs
    · exact .cons (decimalNumber?_suffix (by simpa [startsNumber] using hcs) h) _
    · have hc : c ≠ '.' := fun heq => hdot (d :: cs) (heq ▸ rfl)
      refine .cons (decimalNumber?_suffix ?_ h) _
      simpa [startsNumber, hc] using hcs

theorem shortString?_leaves {quote : Char} {cs body rest : List Char}
    (h : shortString? quote cs = some (body, rest)) : Leaves cs rest := by
  fun_induction shortString? quote cs generalizing body rest with
  | case1 => cases h
  | case2 c cs ih =>
    obtain ⟨⟨more, left⟩, hmore, ⟨⟩⟩ := Option.map_eq_some_iff.1 h
    exact .cons ((ih hmore).suffix.trans (List.suffix_cons _ _)) _
  | case3 => cases h
  | case4 =>
    cases h
    exact .cons List.suffix_rfl _
  | case5 c cs _ _ _ ih =>
    obtain ⟨⟨more, left⟩, hmore, ⟨⟩⟩ := Option.map_eq_some_iff.1 h
    exact .cons (ih hmore).suffix _

theorem longString?_leaves {quote : Char} {cs body rest : List Char}
    (h : longString? quote cs = some (body, rest)) : Leaves cs rest := by
  fun_induction longString? quote cs generalizing body rest with
  | case1 => cases h
  | case2 c cs ih =>
    obtain ⟨⟨more, left⟩, hmore, ⟨⟩⟩ := Option.map_eq_some_iff.1 h
    exact .cons ((ih hmore).suffix.trans (List.suffix_cons _ _)) _
  | case3 c cs =>
    cases h
    exact .cons (List.drop_suffix 2 cs) _
  | case4 c cs _ _ ih =>
    obtain ⟨⟨more, left⟩, hmore, ⟨⟩⟩ := Option.map_eq_some_iff.1 h
    exact .cons (ih hmore).suffix _

theorem quotedString?_leaves {cs literal rest : List Char}
    (h : quotedString? cs = some (literal, rest)) : Leaves cs rest := by
  unfold quotedString? at h
  split at h
  · split at h
    · obtain ⟨⟨body, left⟩, hbody, ⟨⟩⟩ := Option.map_eq_some_iff.1 h
      exact .cons ((longString?_leaves hbody).suffix.trans
        ((List.suffix_cons _ _).trans (List.suffix_cons _ _))) _
    · obtain ⟨⟨body, left⟩, hbody, ⟨⟩⟩ := Option.map_eq_some_iff.1 h
      exact .cons (shortString?_leaves hbody).suffix _
  · obtain ⟨⟨body, left⟩, hbody, ⟨⟩⟩ := Option.map_eq_some_iff.1 h
    exact .cons (shortString?_leaves hbody).suffix _
  · cases h

theorem stringPrefix?_append_rest {cs letters quoted : List Char}
    (h : stringPrefix? cs = some (letters, quoted)) : letters ++ quoted = cs := by
  unfold stringPrefix? at h
  dsimp only at h
  grind

theorem longest?_leaves {cs rest : List Char} {o : Op} (h : Op.longest? cs = some (o, rest)) :
    Leaves cs rest := by
  unfold Op.longest? at h
  split at h
  · split at h
    · cases h
      exact .cons ((List.suffix_cons _ _).trans (List.suffix_cons _ _)) _
    · split at h <;> cases h
      · exact .cons (List.suffix_cons _ _) _
      · exact .cons List.suffix_rfl _
  · split at h <;> cases h
    · exact .cons (List.suffix_cons _ _) _
    · exact .cons List.suffix_rfl _
  · cases h
    exact .cons List.suffix_rfl _
  · cases h

theorem afterComment_suffix (cs : List Char) : afterComment cs <:+ cs :=
  List.dropWhile_suffix _

theorem measure_suffix {m m' : Margin} {cs rest : List Char} (h : measure m cs = .ok (m', rest)) :
    rest <:+ cs := by
  fun_induction measure m cs with
  | case1 m cs ih | case2 m cs ih | case3 m cs ih => exact (ih h).trans (List.suffix_cons _ _)
  | case4 m c cs ih => exact (ih h).trans ((List.suffix_cons _ _).trans (List.suffix_cons _ _))
  | case5 | case6 => cases h
  | case7 =>
    cases h
    exact List.suffix_rfl

/-! ## Steps -/

/-- The next step of the analysis. -/
def nextStep (s : LexState) (atLineStart : Bool) (cs : List Char) : LexStep :=
  if atLineStart then lineStart s cs else inLine s cs

/-- A bound of the steps that are left. -/
def weight (atLineStart : Bool) (cs : List Char) : Nat :=
  2 * cs.length + atLineStart.toNat

section

variable {s s' : LexState} {cs rest : List Char} {tokens : List Token} {atLineStart atLineStart' : Bool}

theorem wordToken_rest {word : List Char}
    (h : wordToken s word cs = .more tokens s' atLineStart rest) : rest = cs ∧ atLineStart = false := by
  unfold wordToken at h
  grind

theorem opToken_rest {c : Char} {o : Op}
    (h : opToken s c o cs = .more tokens s' atLineStart rest) : rest = cs ∧ atLineStart = false := by
  unfold opToken at h
  grind

theorem tokenAt_leaves (h : tokenAt s cs = .more tokens s' atLineStart rest) : Leaves cs rest := by
  unfold tokenAt at h
  split at h
  · unfold textEnd at h
    split at h <;> cases h
  · split at h <;> cases h <;> exact .cons List.suffix_rfl _
  · cases h
  · cases h
    exact .cons (List.suffix_cons _ _) _
  · cases h
  · next c cs _ _ _ _ =>
    split at h
    · next letters quoted hletters =>
      have hquoted : quoted <:+ c :: cs := ⟨letters, stringPrefix?_append_rest hletters⟩
      split at h
      · next hliteral =>
        cases h
        exact (quotedString?_leaves hliteral).of_suffix hquoted
      · cases h
    · split at h
      · next hstart =>
        have hc : isWordChar c = true := (Bool.and_eq_true_iff.1 hstart).1
        obtain ⟨rfl, -⟩ := wordToken_rest h
        rw [List.dropWhile_cons_of_pos hc]
        exact .cons (List.dropWhile_suffix _) _
      · split at h
        · next hnumber =>
          split at h
          · next hspelling =>
            cases h
            exact number?_leaves hnumber hspelling
          · cases h
        · split at h
          · next hop =>
            obtain ⟨rfl, -⟩ := opToken_rest h
            exact longest?_leaves hop
          · cases h
            exact .cons List.suffix_rfl _

theorem inLine_leaves (h : inLine s cs = .more tokens s' atLineStart rest) : Leaves cs rest := by
  have hblank : cs.dropWhile isLineBlank <:+ cs := List.dropWhile_suffix _
  have hleaves := tokenAt_leaves h
  split at hleaves
  · exact hleaves.of_suffix ((afterComment_suffix _).trans hblank)
  · exact hleaves.of_suffix hblank

theorem indentation_rest {m : Margin} (h : indentation s m cs = .more tokens s' atLineStart rest) :
    rest = cs ∧ atLineStart = false := by
  unfold indentation at h
  grind

theorem lineStart_leaves (h : lineStart s cs = .more tokens s' atLineStart rest) :
    rest <:+ cs ∧ (atLineStart = true → rest.length < cs.length) := by
  unfold lineStart at h
  split at h
  · cases h
  · next m left hmeasure =>
    have hleft := measure_suffix hmeasure
    dsimp only at h
    split at h
    · next more =>
      cases h
      have hleaves := (Leaves.cons List.suffix_rfl '\n').of_suffix hleft
      exact ⟨hleaves.suffix, fun _ => hleaves.shorter⟩
    · next more =>
      split at h
      · next c rest hcomment =>
        cases h
        have hrest : rest <:+ more := by
          have hsuffix := afterComment_suffix more
          rw [hcomment] at hsuffix
          exact (List.suffix_cons _ _).trans hsuffix
        have hleaves := (Leaves.cons hrest '#').of_suffix hleft
        exact ⟨hleaves.suffix, fun _ => hleaves.shorter⟩
      · cases h
        exact ⟨List.nil_suffix, nofun⟩
    · split at h
      · obtain ⟨rfl, rfl⟩ := indentation_rest h
        exact ⟨hleft, nofun⟩
      · cases h
        exact ⟨hleft, nofun⟩

theorem weight_lt (h : nextStep s atLineStart cs = .more tokens s' atLineStart' rest) :
    weight atLineStart' rest < weight atLineStart cs := by
  unfold nextStep at h
  cases atLineStart with
  | true =>
    obtain ⟨hsuffix, hshorter⟩ := lineStart_leaves h
    have hlength := hsuffix.length_le
    cases atLineStart' with
    | true =>
      have := hshorter rfl
      simp only [weight, Bool.toNat_true]
      omega
    | false =>
      simp only [weight, Bool.toNat_true, Bool.toNat_false]
      omega
  | false =>
    have hshorter := (inLine_leaves h).shorter
    cases atLineStart' <;> simp only [weight, Bool.toNat_true, Bool.toNat_false] <;> omega

end

/-! ## The whole analysis -/

/-- The tokens from a state on. -/
def scanAll (s : LexState) (atLineStart : Bool) (cs : List Char) : Lexed :=
  scan (weight atLineStart cs + 1) s atLineStart cs

theorem scan_succ (steps : Nat) (s : LexState) (atLineStart : Bool) (cs : List Char) :
    scan (steps + 1) s atLineStart cs =
      match nextStep s atLineStart cs with
      | .more tokens s atLineStart rest => (scan steps s atLineStart rest).after tokens
      | .last tokens => ⟨tokens, none⟩
      | .stop error => ⟨[], some error⟩ :=
  rfl

theorem scan_eq_scanAll {steps : Nat} {atLineStart : Bool} {cs : List Char}
    (h : weight atLineStart cs < steps) (s : LexState) :
    scan steps s atLineStart cs = scanAll s atLineStart cs := by
  have hall : ∀ (bound steps steps' : Nat) (s : LexState) (atLineStart : Bool) (cs : List Char),
      weight atLineStart cs < bound → bound ≤ steps → bound ≤ steps' →
        scan steps s atLineStart cs = scan steps' s atLineStart cs := by
    intro bound
    induction bound with
    | zero => exact fun _ _ _ _ _ h => absurd h (Nat.not_lt_zero _)
    | succ bound ih =>
      intro steps steps' s atLineStart cs hweight hsteps hsteps'
      obtain ⟨steps, rfl⟩ := Nat.exists_eq_succ_of_ne_zero (Nat.ne_zero_of_lt hsteps)
      obtain ⟨steps', rfl⟩ := Nat.exists_eq_succ_of_ne_zero (Nat.ne_zero_of_lt hsteps')
      rw [scan_succ, scan_succ]
      cases hstep : nextStep s atLineStart cs with
      | more tokens s' atLineStart' rest =>
        have := weight_lt hstep
        dsimp only
        rw [ih steps steps' s' atLineStart' rest (by omega) (by omega) (by omega)]
      | last | stop => rfl
  exact hall (weight atLineStart cs + 1) _ _ s atLineStart cs (Nat.lt_succ_self _) h (Nat.le_refl _)

theorem lex_eq_scanAll (line : Nat) (asyncReserved : Bool) (cs : List Char) :
    lex line asyncReserved cs = scanAll (.start line asyncReserved) true cs := by
  refine scan_eq_scanAll ?_ _
  simp only [weight, Bool.toNat_true]
  omega

section

variable {s s' : LexState} {atLineStart atLineStart' : Bool} {cs rest : List Char}
  {tokens : List Token}

theorem scanAll_of_more (h : nextStep s atLineStart cs = .more tokens s' atLineStart' rest) :
    scanAll s atLineStart cs = (scanAll s' atLineStart' rest).after tokens := by
  rw [scanAll, scan_succ, h]
  exact congrArg (Lexed.after tokens) (scan_eq_scanAll (weight_lt h) s')

theorem scanAll_of_last (h : nextStep s atLineStart cs = .last tokens) :
    scanAll s atLineStart cs = ⟨tokens, none⟩ := by
  rw [scanAll, scan_succ, h]

theorem scanAll_of_stop {error : LexError} (h : nextStep s atLineStart cs = .stop error) :
    scanAll s atLineStart cs = ⟨[], some error⟩ := by
  rw [scanAll, scan_succ, h]

end

end AnnotatedMarkdown.Python
