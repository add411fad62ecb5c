import Sift.Proofs.Steady

/-!
# Exact and inclusive mode

The mode of a pattern governs nothing but lists: in exact mode the items have to match place by
place, in inclusive mode each of them somewhere. So inclusive mode matches more, at every level.

**Paths through the chain.** Where a list fails, the text is read in other ways, and a list that
fails in one mode need not fail in the other. Since such a failure leaves the decision to later
dialects, inclusive mode can only turn an open question into a match (`Verdict.Widens`).

**Exceptions.** A negation turns verdicts around, and a variable that is bound by one attempt is
still bound at the next one. Without exclamation marks and dollar signs there is neither.

**Main result.** Whatever such a text matches in exact mode it matches in inclusive mode
(`isMatch_inclusive_of_exact`).
-/

namespace Sift

/-- The second verdict is the first one, or a match where the first one leaves the question
open. -/
inductive Verdict.Widens : Verdict → Verdict → Prop
  | same (w : Verdict) : Widens w w
  | settled : Widens .indeterminate .isMatch

theorem Verdict.widens_matchOrDefer {a a' : Bool} (h : a = true → a' = true) :
    Widens (matchOrDefer a) (matchOrDefer a') := by
  cases a with
  | true => rw [h rfl]; exact .same _
  | false =>
    cases a' with
    | true => exact .settled
    | false => exact .same _

theorem Verdict.Widens.eq_or_settled {w w' : Verdict} (h : Widens w w') :
    w' = w ∨ w = .indeterminate ∧ w' = .isMatch := by
  cases h with
  | same => exact .inl rfl
  | settled => exact .inr ⟨rfl, rfl⟩

theorem Verdict.Widens.isMatch {w w' : Verdict} (h : Widens w w') (hw : w = .isMatch) :
    w' = .isMatch := by
  cases h with
  | same => exact hw
  | settled => cases hw

theorem Verdict.Widens.settles {w w' : Verdict} (h : Widens w w') (hw : w = .indeterminate)
    (hw' : w' ≠ .indeterminate) : w' = .isMatch := by
  cases h with
  | same => exact absurd hw hw'
  | settled => rfl

namespace Pattern

variable {p p' : Pattern} {v : Value} {j j' : Judge}

/-! ## Lists -/

/-- Items that match place by place match somewhere. -/
theorem asksList_inclusive_of_exact {items : List (List Char)} {vs : List Value}
    (hs : ∀ t ∈ items, ∀ w ∈ vs, Steady (asks j (p.derive t) w))
    (hs' : ∀ t ∈ items, ∀ w ∈ vs, Steady (asks j' (p'.derive t) w))
    (h : ∀ t ∈ items, ∀ w ∈ vs, (j (p.derive t) w []).1 = .isMatch →
      (j' (p'.derive t) w []).1 = .isMatch)
    (hexact : (asksList j (items.map p.derive) vs .exact []).1 = true) :
    (asksList j' (items.map p'.derive) vs .inclusive []).1 = true := by
  rw [asksList_of_steady (List.forall_mem_map.2 hs), decide_eq_true_iff,
    Mode.relates_map_left] at hexact
  rw [asksList_of_steady (List.forall_mem_map.2 hs'), decide_eq_true_iff, Mode.relates_map_left]
  intro t ht
  obtain ⟨w, hw, hmatch⟩ := hexact.inclusive t ht
  exact ⟨w, hw, h t ht w hw hmatch⟩

/-! ## Dialects -/

theorem operandOfNegation?_of_not_mem {text : List Char} (h : '!' ∉ text) :
    operandOfNegation? text = none :=
  operandOfNegation?_eq_none fun hhead =>
    h ((Text.trimStart_isSuffix text).subset (List.mem_of_mem_head? hhead))

theorem asks_of_isMatch {q q' : Pattern} {w : Value}
    (h : (j q w []).1 = .isMatch → (j' q' w []).1 = .isMatch) :
    (asks j q w []).1 = true → (asks j' q' w []).1 = true := by
  simpa [asks] using h

/-- **Inclusive mode widens the verdict of every dialect** if it widens those on all parts. -/
theorem verdictOf_widens (hmode : p.settings.mode = .exact) (hmark : '!' ∉ p.text)
    (hj : SteadyOnParts j p v) (hj' : SteadyOnParts j' (p.setMode .inclusive) v)
    (h : ∀ t w, Delegates p.text v t w → (j (p.derive t) w []).1 = .isMatch →
      (j' ((p.setMode .inclusive).derive t) w []).1 = .isMatch) (d : Dialect) :
    (verdictOf j p (d.read p) v [] d).1.Widens
      (verdictOf j' (p.setMode .inclusive) (d.read (p.setMode .inclusive)) v [] d).1 := by
  have hcan : (p.setMode .inclusive).canDerive = p.canDerive := rfl
  have htext : (p.setMode .inclusive).text = p.text := rfl
  cases d with
  | anything | nullOrEmpty | capture | glob | comparison | range | regex => exact .same _
  | negation =>
    simp only [Dialect.read, readNegation, htext, operandOfNegation?_of_not_mem hmark,
      Option.map_none, ite_self]
    exact .same _
  | list =>
    simp only [Dialect.read, readList, hcan, htext]
    split_ifs
    · cases v with
      | list vs =>
        have hsteady : ∀ t ∈ listItems p.text, ∀ w ∈ vs, Steady (asks j (p.derive t) w) :=
          fun t ht w hw => steady_asks (hj t w (.element ht rfl hw))
        have hsteady' : ∀ t ∈ listItems p.text, ∀ w ∈ vs,
            Steady (asks j' ((p.setMode .inclusive).derive t) w) :=
          fun t ht w hw => steady_asks (hj' t w (.element ht rfl hw))
        simp only [verdictOf, hmode]
        exact Verdict.widens_matchOrDefer (asksList_inclusive_of_exact hsteady hsteady'
          fun t ht w hw => h t w (.element ht rfl hw))
      | _ => exact .same _
    · exact .same _
  | multiField =>
    simp only [Dialect.read, readFields, hcan, htext]
    split_ifs
    · cases hg : fieldGroups? p.text with
      | none => exact .same _
      | some gs =>
        simp only [verdictOf, Option.map_some, List.map_map, deferring]
        refine Verdict.widens_matchOrDefer fun hall => ?_
        change (Test.all (gs.map fun t => asks j (p.derive t) v) []).1 = true at hall
        change (Test.all (gs.map fun t => asks j' ((p.setMode .inclusive).derive t) v) []).1 = true
        rw [Test.all_map_of_steady fun t ht => steady_asks (hj t v (.group hg ht)),
          decide_eq_true_eq] at hall
        rw [Test.all_map_of_steady fun t ht => steady_asks (hj' t v (.group hg ht)),
          decide_eq_true_eq]
        exact fun t ht => asks_of_isMatch (h t v (.group hg ht)) (hall t ht)
    · exact .same _
  | property =>
    simp only [Dialect.read, readProperty, hcan, htext]
    split_ifs
    · cases hr : pathAndRest? p.text with
      | none => exact .same _
      | some r =>
        obtain ⟨names, t⟩ := r
        simp only [verdictOf, Option.map_some]
        split_ifs
        · exact .same _
        · exact Verdict.widens_matchOrDefer (asks_of_isMatch (h t (v.path names) (.member hr)))
    · exact .same _

/-! ## The chain -/

/-- Matchers that widen each other's verdicts have a match where the others have one. -/
theorem firstVerdict_of_widens {ms : List Matcher}
    (hs : ∀ m ∈ ms, Steady fun b => verdictFrom j p (m.read p) v b m)
    (hs' : ∀ m ∈ ms, Steady fun b => verdictFrom j' p' (m.read p') v b m)
    (h : ∀ m ∈ ms, (verdictFrom j p (m.read p) v [] m).1.Widens
      (verdictFrom j' p' (m.read p') v [] m).1)
    (hmatch : (firstVerdict j ms p v []).1 = .isMatch) :
    (firstVerdict j' ms p' v []).1 = .isMatch := by
  induction ms with
  | nil => cases hmatch
  | cons m ms ih =>
    have hm := h m List.mem_cons_self
    have hnil : (verdictFrom j p (m.read p) v [] m).2 = [] :=
      congrArg Prod.snd (hs m List.mem_cons_self [])
    have hnil' : (verdictFrom j' p' (m.read p') v [] m).2 = [] :=
      congrArg Prod.snd (hs' m List.mem_cons_self [])
    by_cases hopen : (verdictFrom j p (m.read p) v [] m).1 = .indeterminate
    · rw [firstVerdict_cons_of_indeterminate (Prod.ext hopen hnil)] at hmatch
      by_cases hopen' : (verdictFrom j' p' (m.read p') v [] m).1 = .indeterminate
      · rw [firstVerdict_cons_of_indeterminate (Prod.ext hopen' hnil')]
        exact ih (fun m' hm' => hs m' (List.mem_cons_of_mem m hm'))
          (fun m' hm' => hs' m' (List.mem_cons_of_mem m hm'))
          (fun m' hm' => h m' (List.mem_cons_of_mem m hm')) hmatch
      · rw [firstVerdict_cons_of_determinate rfl hopen']
        exact hm.settles hopen hopen'
    · rw [firstVerdict_cons_of_determinate rfl hopen] at hmatch
      have hmatch' := hm.isMatch hmatch
      rw [firstVerdict_cons_of_determinate rfl (by simp [hmatch'])]
      exact hmatch'

/-- **One level.** A chain of dialects matches in inclusive mode what it matches in exact mode, if
all parts of the text do. -/
theorem chainVerdict_setMode (hc : p.settings.chain.IsBuiltIn) (hmode : p.settings.mode = .exact)
    (hmark : '!' ∉ p.text) (hdollar : '$' ∉ p.text) (n : Nat)
    (h : ∀ t w, Delegates p.text v t w → (freshWithin n (p.derive t) w []).1 = .isMatch →
      (freshWithin n ((p.setMode .inclusive).derive t) w []).1 = .isMatch)
    (hmatch : (chainVerdict (freshWithin n) p v []).1 = .isMatch) :
    (chainVerdict (freshWithin n) (p.setMode .inclusive) v []).1 = .isMatch := by
  have hvariable : ¬ HasVariable p.text := not_hasVariable_of_not_mem hdollar
  have hj : SteadyOnParts (freshWithin n) p v := steadyOnParts_freshWithin hvariable n v
  have hj' : SteadyOnParts (freshWithin n) (p.setMode .inclusive) v :=
    steadyOnParts_freshWithin (p := p.setMode .inclusive) hvariable n v
  refine firstVerdict_of_widens ?_ ?_ ?_ hmatch <;> intro m hm <;> obtain ⟨d, rfl⟩ := hc m hm
  · exact verdictOf_steady hvariable hj d
  · exact verdictOf_steady (p := p.setMode .inclusive) hvariable hj' d
  · exact verdictOf_widens hmode hmark hj hj' h d

/-- **All levels.** -/
theorem freshWithin_setMode (hc : p.settings.chain.IsBuiltIn) (hmode : p.settings.mode = .exact)
    (hmark : '!' ∉ p.text) (hdollar : '$' ∉ p.text) (derived : p.isRoot = false) (n : Nat)
    (hmatch : (freshWithin n p v []).1 = .isMatch) :
    (freshWithin n (p.setMode .inclusive) v []).1 = .isMatch := by
  induction n generalizing p v with
  | zero => cases hmatch
  | succ n ih =>
    rw [freshWithin_of_not_isRoot derived] at hmatch
    rw [freshWithin_of_not_isRoot (p := p.setMode .inclusive) derived]
    refine chainVerdict_setMode hc hmode hmark hdollar n (fun t w hd hpart => ?_) hmatch
    exact ih (p := p.derive t) hc hmode (fun hm => hmark (hd.isInfix.subset hm))
      (fun hm => hdollar (hd.isInfix.subset hm)) rfl hpart

/-- **Inclusive mode matches all that exact mode matches**, as long as nothing is negated and there
are no variables. -/
theorem isMatch_inclusive_of_exact (ignoreCase : Bool) {text : List Char} (hmark : '!' ∉ text)
    (hdollar : '$' ∉ text) (v : Value)
    (hmatch : (root (.standardWith .exact ignoreCase) text).isMatch v = true) :
    (root (.standardWith .inclusive ignoreCase) text).isMatch v = true := by
  have hregular (mode : Mode) : (Settings.standardWith mode ignoreCase).chain.IsRegular :=
    Chain.isBuiltIn_standard.isRegular
  rw [isMatch_root_iff (hregular .exact)] at hmatch
  rw [isMatch_root_iff (hregular .inclusive)]
  refine chainVerdict_setMode (p := root (.standardWith .exact ignoreCase) text)
    Chain.isBuiltIn_standard rfl hmark hdollar _ (fun t w hd hpart => ?_) hmatch
  exact freshWithin_setMode (p := (root (.standardWith .exact ignoreCase) text).derive t)
    Chain.isBuiltIn_standard rfl (fun hm => hmark (hd.isInfix.subset hm))
    (fun hm => hdollar (hd.isInfix.subset hm)) rfl _ hpart

/-- A text that is matched as a property of a list, since the list it could be fails. -/
def sampleIndex : List Char := "1:b".toList

def sampleTexts : Value := .list [.string "a", .string "b"]

theorem isMatch_inclusive_sample :
    ('!' ∉ sampleIndex ∧ '$' ∉ sampleIndex ∧
      (root (.standardWith .exact true) sampleIndex).isMatch sampleTexts = true) ∧
    (root (.standardWith .inclusive true) sampleIndex).isMatch sampleTexts = true := by
  have hmatch : (root (.standardWith .exact true) sampleIndex).isMatch sampleTexts = true := by
    decide +kernel
  exact ⟨⟨by decide, by decide, hmatch⟩,
    isMatch_inclusive_of_exact true (by decide) (by decide) sampleTexts hmatch⟩

end Pattern

end Sift
