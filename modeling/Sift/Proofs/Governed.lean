import Sift.Proofs.DepthLimit
import Sift.Proofs.Reach

/-!
# What the settings govern

The case setting governs keywords and globs, and the mode governs lists. A text that can be neither
a keyword nor a glob is judged alike whatever the case setting, and a value without lists is judged
alike in both modes.

**Two runs.** Both settings are copied into every derived pattern. So two patterns are compared that
differ in their settings alone, at every level: their readings agree part by part
(`Pattern.kept_read_of_text_eq`), and so do their verdicts as long as the parts agree about all that
the value offers (`Pattern.verdictOf_congr_of_kept`).

**Main result.** Settings that govern nothing in a text or a value change neither the verdict nor
the variables (`run_eq_of_ungoverned`).
-/

namespace Sift.Pattern

variable {p p' q q' : Pattern} {v w : Value} {j j' : Judge}

/-! ## Agreement about what a value offers -/

/-- Two judges take a pattern and its counterpart alike about all that a value offers. -/
def AgreeOn (v : Value) (j j' : Judge) (q q' : Pattern) : Prop :=
  ∀ w, v.Offers w → j q w = j' q' w

theorem AgreeOn.asks_eq (h : AgreeOn v j j' q q') (hw : v.Offers w) :
    asks j q w = asks j' q' w := by
  funext b
  rw [asks, asks, h w hw]

/-- Functions that agree on what is related agree on lists of what is related. -/
theorem map_eq_of_forall₂ {α β γ : Type} {f : α → γ} {g : β → γ} {as : List α} {bs : List β}
    (h : List.Forall₂ (fun a b => f a = g b) as bs) : as.map f = bs.map g := by
  rw [← List.forall₂_eq_eq_eq, List.forall₂_map_left_iff, List.forall₂_map_right_iff]
  exact h

theorem zipWith_asks_eq {qs qs' : List Pattern} (hqs : List.Forall₂ (AgreeOn v j j') qs qs')
    {vs : List Value} (hvs : ∀ w ∈ vs, v.Offers w) :
    List.zipWith (asks j) qs vs = List.zipWith (asks j') qs' vs := by
  induction hqs generalizing vs with
  | nil => rfl
  | @cons q q' qs qs' hq _ ih =>
    cases vs with
    | nil => rfl
    | cons w vs =>
      rw [List.zipWith_cons_cons, List.zipWith_cons_cons, hq.asks_eq (hvs w List.mem_cons_self),
        ih fun w' hw' => hvs w' (List.mem_cons_of_mem w hw')]

theorem asksList_eq_of_forall₂ {qs qs' : List Pattern}
    (hqs : List.Forall₂ (AgreeOn v j j') qs qs') {vs : List Value} (hvs : ∀ w ∈ vs, v.Offers w)
    (mode : Mode) : asksList j qs vs mode = asksList j' qs' vs mode := by
  cases mode with
  | exact => rw [asksList, asksList, hqs.length_eq, zipWith_asks_eq hqs hvs]
  | inclusive =>
    have hany : List.Forall₂ (fun q q' => Test.any (vs.map (asks j q)) =
        Test.any (vs.map (asks j' q'))) qs qs' := by
      refine hqs.imp fun q q' hq => congrArg Test.any ?_
      exact List.map_congr_left fun w hw => hq.asks_eq (hvs w hw)
    rw [asksList, asksList, map_eq_of_forall₂ hany]

/-! ## Dialects -/

/-- **Dialects judge alike** by readings that agree, apart from keywords and the mode of lists, if
the sub-patterns agree about all that the value offers. -/
theorem verdictOf_congr_of_kept {r r' : Option (Reading Pattern)}
    (hr : Reading.Kept (AgreeOn v j j') r r') (hw : v.Offers w) (htext : p.text = p'.text)
    (hkeyword : p.judgeNullOrEmpty w = p'.judgeNullOrEmpty w)
    (hmode : ∀ vs, w = .list vs → p.settings.mode = p'.settings.mode) (b : Bindings)
    (d : Dialect) : verdictOf j p r w b d = verdictOf j' p' r' w b d := by
  cases d with
  | anything => rw [verdictOf, verdictOf, judgeAnything, judgeAnything, htext]
  | nullOrEmpty => rw [verdictOf, verdictOf, hkeyword]
  | capture | glob | comparison | range | regex =>
    cases hr with
    | none => rfl
    | some hl => cases hl <;> rfl
  | negation =>
    cases hr with
    | none => rfl
    | some hl =>
      cases hl with
      | negation hq => simp only [verdictOf, hq w hw]
      | _ => rfl
  | list =>
    cases hr with
    | none => rfl
    | some hl =>
      cases hl with
      | list hqs =>
        cases w with
        | list vs =>
          have hvs : ∀ u ∈ vs, v.Offers u := fun u hu => hw.element hu
          simp only [verdictOf, hmode vs rfl, asksList_eq_of_forall₂ hqs hvs]
        | _ => rfl
      | _ => rfl
  | multiField =>
    cases hr with
    | none => rfl
    | some hl =>
      cases hl with
      | fields hqs =>
        have hgroups := map_eq_of_forall₂ (hqs.imp fun _ _ hq => hq.asks_eq hw)
        simp only [verdictOf, hgroups]
      | _ => rfl
  | property =>
    cases hr with
    | none => rfl
    | some hl =>
      cases hl with
      | property names hq => simp only [verdictOf, hq.asks_eq (hw.path names)]
      | _ => rfl

/-! ## Texts without case -/

/-- The text can be neither a glob nor a keyword, and nor can any piece of it. -/
structure IsCaseless (text : List Char) : Prop where
  no_star : '*' ∉ text
  no_question : '?' ∉ text
  no_null : ¬ ['n', 'u', 'l', 'l'] <:+: asciiLower text
  no_empty : ¬ ['e', 'm', 'p', 't', 'y'] <:+: asciiLower text

theorem asciiLower_isInfix {s t : List Char} (h : t <:+: s) : asciiLower t <:+: asciiLower s :=
  h.map Char.toLower

theorem IsCaseless.of_isInfix {s t : List Char} (hs : IsCaseless s) (h : t <:+: s) :
    IsCaseless t where
  no_star ht := hs.no_star (h.subset ht)
  no_question ht := hs.no_question (h.subset ht)
  no_null ht := hs.no_null (ht.trans (asciiLower_isInfix h))
  no_empty ht := hs.no_empty (ht.trans (asciiLower_isInfix h))

/-- A keyword that stands nowhere in a text, in whatever case, is not what the text is. -/
theorem textEquals_eq_false {text keyword : List Char} (hlower : asciiLower keyword = keyword)
    (h : ¬ keyword <:+: asciiLower text) : p.textEquals (Text.trim text) keyword = false := by
  have htrim : asciiLower (Text.trim text) ≠ keyword := by
    intro heq
    apply h
    rw [← heq]
    exact asciiLower_isInfix (Text.trim_isInfix text)
  unfold textEquals isKeyword
  split_ifs
  · rw [hlower]
    exact beq_eq_false_iff_ne.2 htrim
  · rw [beq_eq_false_iff_ne]
    intro heq
    rw [heq] at htrim
    exact htrim hlower

theorem judgeNullOrEmpty_of_isCaseless (h : IsCaseless p.text) (v : Value) :
    p.judgeNullOrEmpty v = .indeterminate := by
  have hnull := textEquals_eq_false (p := p) (by decide) h.no_null
  have hempty := textEquals_eq_false (p := p) (by decide) h.no_empty
  simp only [judgeNullOrEmpty, hnull, hempty, Bool.false_eq_true, ↓reduceIte]

theorem readGlob_of_isCaseless (h : IsCaseless p.text) : p.readGlob = none := by
  have hwildcard : p.text.any Glob.isWildcard = false := by
    rw [List.any_eq_false]
    intro c hc hwild
    have hcases : c = '*' ∨ c = '?' := by simpa [Glob.isWildcard] using hwild
    rcases hcases with rfl | rfl
    · exact h.no_star hc
    · exact h.no_question hc
  have hglob : Glob.isGlob p.text = false := by rw [Glob.isGlob, hwildcard]; rfl
  rw [readGlob, Glob.ofText?, hglob]
  rfl

/-! ## Two runs -/

/-- The pattern with another mode and another case setting. -/
def retuned (p : Pattern) (mode : Mode) (ignoreCase : Bool) : Pattern :=
  (p.setMode mode).setIgnoreCase ignoreCase

/-- A case setting that governs nothing in the text is of no effect on keywords. -/
theorem judgeNullOrEmpty_retuned {mode : Mode} {ignoreCase : Bool}
    (h : p.settings.ignoreCase = ignoreCase ∨ IsCaseless p.text) (v : Value) :
    p.judgeNullOrEmpty v = (p.retuned mode ignoreCase).judgeNullOrEmpty v := by
  rcases h with h | h
  · subst h
    rfl
  · rw [judgeNullOrEmpty_of_isCaseless h, judgeNullOrEmpty_of_isCaseless (p := p.retuned _ _) h]

theorem readGlob_retuned {mode : Mode} {ignoreCase : Bool}
    (h : p.settings.ignoreCase = ignoreCase ∨ IsCaseless p.text) :
    p.readGlob = (p.retuned mode ignoreCase).readGlob := by
  rcases h with h | h
  · subst h
    rfl
  · rw [readGlob_of_isCaseless h, readGlob_of_isCaseless (p := p.retuned _ _) h]

/-- **Settings that govern nothing do not matter**, at any level. -/
theorem agreeOn_retuned (hc : p.settings.chain.IsBuiltIn) {mode : Mode} {ignoreCase : Bool}
    (hcase : p.settings.ignoreCase = ignoreCase ∨ IsCaseless p.text)
    (hmode : p.settings.mode = mode ∨ ∀ vs, ¬ v.Offers (.list vs)) (n : Nat) :
    AgreeOn v (freshWithin n) (freshWithin n) p (p.retuned mode ignoreCase) := by
  induction n generalizing p with
  | zero =>
    intro w _
    rfl
  | succ n ih =>
    intro w hw
    have hparts : ∀ t, t <:+: p.text → AgreeOn v (freshWithin n) (freshWithin n) (p.derive t)
        ((p.retuned mode ignoreCase).derive t) := by
      intro t ht
      exact ih (p := p.derive t) hc (hcase.imp_right fun h => h.of_isInfix ht) hmode
    have hkept (d : Dialect) := kept_read_of_text_eq (p := p) (q := p.retuned mode ignoreCase) rfl
      rfl (readGlob_retuned hcase) (fun _ => hparts) d
    have hlists : ∀ vs, w = .list vs →
        p.settings.mode = (p.retuned mode ignoreCase).settings.mode := by
      intro vs hlist
      subst hlist
      exact hmode.resolve_right fun h => h vs hw
    have hchain (b : Bindings) : chainVerdict (freshWithin n) p w b =
        chainVerdict (freshWithin n) (p.retuned mode ignoreCase) w b := by
      refine firstVerdict_congr (fun m hm b => ?_) b
      obtain ⟨d, rfl⟩ := hc m hm
      have htext : p.text = (p.retuned mode ignoreCase).text := rfl
      exact verdictOf_congr_of_kept (hkept d) hw htext (judgeNullOrEmpty_retuned hcase w) hlists b d
    funext b
    rw [freshWithin_succ]
    exact judgeLevel_congr (by rfl) hchain b

/-- A new pattern judges as one with other settings, where these govern nothing. -/
theorem run_retuned {mode mode' : Mode} {ignoreCase ignoreCase' : Bool} {text : List Char}
    (hcase : ignoreCase = ignoreCase' ∨ IsCaseless text)
    (hmode : mode = mode' ∨ ∀ vs, ¬ v.Offers (.list vs)) :
    (root (.standardWith mode ignoreCase) text).run v =
      (root (.standardWith mode' ignoreCase') text).run v := by
  have hagree := agreeOn_retuned (p := root (.standardWith mode ignoreCase) text)
    Chain.isBuiltIn_standard hcase hmode (root (.standardWith mode ignoreCase) text).levels
    v (Value.offers_self v)
  rw [run_root Chain.isBuiltIn_standard.isRegular, run_root Chain.isBuiltIn_standard.isRegular]
  exact congrFun hagree []

/-- **Settings reach no further than what they govern.** The case setting changes neither the
verdict nor the variables if the text has no wildcards and none of the keywords in it, in whatever
case. Nor does the mode if no list stands in the value. -/
theorem run_eq_of_ungoverned (text : List Char) (v : Value) :
    ('*' ∉ text → '?' ∉ text → ¬ ['n', 'u', 'l', 'l'] <:+: asciiLower text →
      ¬ ['e', 'm', 'p', 't', 'y'] <:+: asciiLower text → ∀ mode ignoreCase ignoreCase',
        (root (.standardWith mode ignoreCase) text).run v =
          (root (.standardWith mode ignoreCase') text).run v) ∧
    ((∀ vs, ¬ v.Reaches (.list vs)) → ∀ mode mode' ignoreCase,
      (root (.standardWith mode ignoreCase) text).run v =
        (root (.standardWith mode' ignoreCase) text).run v) := by
  constructor
  · intro hstar hquestion hnull hempty mode ignoreCase ignoreCase'
    exact run_retuned (.inr ⟨hstar, hquestion, hnull, hempty⟩) (.inl rfl)
  · intro hlist mode mode' ignoreCase
    refine run_retuned (.inl rfl) (.inr fun vs hoffers => ?_)
    rcases hoffers with hnull | hreaches
    · cases hnull
    · exact hlist vs hreaches

/-- Two fields, and a variable for the second one. -/
def sampleFields : List Char := "a:K b:$x".toList

/-- An object with these fields. -/
def sampleObject : Value := .object "host" [("a", .string "K"), ("b", .bool true)]

theorem reaches_sampleObject {u : Value} (h : sampleObject.Reaches u) :
    u = sampleObject ∨ u = .string "K" ∨ u = .bool true := by
  induction h with
  | refl => exact .inl rfl
  | element _ _ ih => rcases ih with h | h | h <;> cases h
  | @member u w name _ hmember ih =>
    rcases ih with rfl | rfl | rfl
    · have hmem : (name, w) ∈ [("a", Value.string "K"), ("b", .bool true)] :=
        Value.mem_of_lookup_eq_some hmember
      simp only [List.mem_cons, Prod.mk.injEq, List.not_mem_nil, or_false] at hmem
      exact .inr (hmem.imp And.right And.right)
    · cases hmember
    · cases hmember

theorem run_sampleFields :
    ('*' ∉ sampleFields ∧ '?' ∉ sampleFields ∧
      ¬ ['n', 'u', 'l', 'l'] <:+: asciiLower sampleFields ∧
      ¬ ['e', 'm', 'p', 't', 'y'] <:+: asciiLower sampleFields ∧
      ∀ vs, ¬ sampleObject.Reaches (.list vs)) ∧
    (root (.standardWith .exact true) sampleFields).run sampleObject =
      (root (.standardWith .exact false) sampleFields).run sampleObject ∧
    (root (.standardWith .exact true) sampleFields).run sampleObject =
      (root (.standardWith .inclusive true) sampleFields).run sampleObject := by
  have hlist : ∀ vs, ¬ sampleObject.Reaches (.list vs) := by
    intro vs h
    rcases reaches_sampleObject h with h | h | h <;> cases h
  have hstar : '*' ∉ sampleFields := by decide
  have hquestion : '?' ∉ sampleFields := by decide
  have hnull : ¬ ['n', 'u', 'l', 'l'] <:+: asciiLower sampleFields := by decide
  have hempty : ¬ ['e', 'm', 'p', 't', 'y'] <:+: asciiLower sampleFields := by decide
  obtain ⟨hcase, hmode⟩ := run_eq_of_ungoverned sampleFields sampleObject
  exact ⟨⟨hstar, hquestion, hnull, hempty, hlist⟩,
    hcase hstar hquestion hnull hempty .exact true false, hmode hlist .exact .inclusive true⟩

end Sift.Pattern
