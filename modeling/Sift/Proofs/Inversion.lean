import Sift.Proofs.Marks

/-!
# Negations

An exclamation mark in front of a pattern turns its verdict around. Of the dialects that come
before the negations none applies to such a text, and the pattern behind the mark judges as it does
on its own: it is one level deeper, but no variable is bound before it is asked.

**Later dialects.** Some of them could read the text as well, such as the comparison `!=1` or the
regular expression `!a`. They are asked only where the pattern behind the mark leaves the question
open.

**Main result.** A pattern that decides about a value is decided the other way with a mark in
front, and the same way with two (`verdict_negation`).
-/

namespace Sift.Pattern

variable {p : Pattern} {j : Judge} {v : Value} {b : Bindings} {t : List Char}

theorem operandOfNegation?_mark (hne : t ≠ []) (hstart : ∀ c ∈ t.head?, Text.isBlank c = false) :
    operandOfNegation? ('!' :: t) = some t := by
  have hmark : Text.trimStart ('!' :: t) = '!' :: t := rfl
  have htrim : Text.trimStart t = t := Text.trimStart_eq_self hstart
  unfold operandOfNegation?
  rw [hmark]
  simp only [htrim, if_neg hne]

/-- A negation takes the opposite of the verdict on its operand. -/
theorem verdictFrom_operand (hcan : p.canDerive = true) (h : operandOfNegation? p.text = some t)
    (v : Value) (b : Bindings) :
    verdictFrom j p (Matcher.read p (.builtIn .negation)) v b (.builtIn .negation) =
      ((j (p.derive t) v b).1.negate, (j (p.derive t) v b).2) := by
  simp only [verdictFrom, verdictOf, Matcher.read, Dialect.read, readNegation, if_pos hcan, h,
    Option.map_some]

/-- **A negation turns the verdict on its operand around**, if there is one. -/
theorem chainVerdict_operand (hs : p.settings.chain = .standard) (hcan : p.canDerive = true)
    (hoperand : operandOfNegation? p.text = some t)
    (h : (j (p.derive t) v b).1 ≠ .indeterminate) :
    chainVerdict j p v b = ((j (p.derive t) v b).1.negate, (j (p.derive t) v b).2) := by
  obtain ⟨r, hr, -, -⟩ := operandOfNegation?_eq_some hoperand
  have hmem : '!' ∈ p.text :=
    (Text.trimStart_isSuffix p.text).subset (hr ▸ List.mem_cons_self)
  rw [chainVerdict_of_mark hs (trim_ne_star (c := '!') (by decide) (by decide) hmem)
    (c := '!') (by decide) (by decide) hmem, List.map_cons]
  exact firstVerdict_cons_of_determinate (verdictFrom_operand hcan hoperand v b)
    (mt Verdict.negate_eq_indeterminate.1 h) _

/-- **A mark turns the verdict around**, if there is one. -/
theorem chainVerdict_mark (hs : p.settings.chain = .standard) (hcan : p.canDerive = true)
    (htext : p.text = '!' :: t) (hne : t ≠ []) (hstart : ∀ c ∈ t.head?, Text.isBlank c = false)
    (h : (j (p.derive t) v b).1 ≠ .indeterminate) :
    chainVerdict j p v b = ((j (p.derive t) v b).1.negate, (j (p.derive t) v b).2) :=
  chainVerdict_operand hs hcan (htext ▸ operandOfNegation?_mark hne hstart) h

/-- A mark in front of a pattern that decides. -/
theorem verdict_root_mark (mode : Mode) (ignoreCase : Bool) (hne : t ≠ [])
    (hstart : ∀ c ∈ t.head?, Text.isBlank c = false) (hsize : t.length + v.nesting ≤ 255)
    (h : ((root (.standardWith mode ignoreCase) t).run v).1 ≠ .indeterminate) :
    ((root (.standardWith mode ignoreCase) ('!' :: t)).run v).1 =
      ((root (.standardWith mode ignoreCase) t).run v).1.negate := by
  have hregular : (Settings.standardWith mode ignoreCase).chain.IsRegular :=
    Chain.isBuiltIn_standard.isRegular
  have hlimit : t.length + v.nesting < (Settings.standardWith mode ignoreCase).depthLimit :=
    Nat.lt_succ_of_le hsize
  have hderive : freshWithin _ ((root (.standardWith mode ignoreCase) ('!' :: t)).derive t) v [] =
      chainVerdict (freshWithin _) (root (.standardWith mode ignoreCase) t) v [] :=
    freshWithin_derive Chain.isBuiltIn_standard hlimit []
  rw [verdict_root hregular, ← hderive] at h
  rw [verdict_root hregular, verdict_root hregular, ← hderive,
    chainVerdict_mark (p := root _ ('!' :: t)) rfl rfl rfl hne hstart h]

/-- **Negation turns every verdict around.** -/
theorem verdict_negation (mode : Mode) (ignoreCase : Bool) (hne : t ≠ [])
    (hstart : ∀ c ∈ t.head?, Text.isBlank c = false) (v : Value)
    (hsize : t.length + v.nesting ≤ 255) :
    (((root (.standardWith mode ignoreCase) t).run v).1 ≠ .indeterminate →
      ((root (.standardWith mode ignoreCase) ('!' :: t)).run v).1 =
        ((root (.standardWith mode ignoreCase) t).run v).1.negate) ∧
    ¬ (((root (.standardWith mode ignoreCase) t).run v).1 = .isMatch ∧
      ((root (.standardWith mode ignoreCase) ('!' :: t)).run v).1 = .isMatch) ∧
    (('!' :: t).length + v.nesting ≤ 255 →
      ((root (.standardWith mode ignoreCase) t).run v).1 ≠ .indeterminate →
        ((root (.standardWith mode ignoreCase) ('!' :: '!' :: t)).run v).1 =
          ((root (.standardWith mode ignoreCase) t).run v).1) := by
  have honce := verdict_root_mark mode ignoreCase hne hstart hsize
  refine ⟨honce, ?_, fun hsize' h => ?_⟩
  · rintro ⟨hmatch, hmatch'⟩
    rw [honce (by simp [hmatch]), hmatch] at hmatch'
    cases hmatch'
  · have hdetermined : ((root (.standardWith mode ignoreCase) ('!' :: t)).run v).1 ≠
        .indeterminate := by
      rw [honce h]
      exact mt Verdict.negate_eq_indeterminate.1 h
    have hmark : ∀ c ∈ ('!' :: t).head?, Text.isBlank c = false := by simp; decide
    rw [verdict_root_mark mode ignoreCase (List.cons_ne_nil '!' t) hmark hsize' hdetermined,
      honce h, Verdict.negate_negate]

/-- A comparison. With a mark in front it would be one as well. -/
def sampleOperand : List Char := "=1".toList

theorem verdict_negation_sample :
    (sampleOperand ≠ [] ∧ (∀ c ∈ sampleOperand.head?, Text.isBlank c = false) ∧
      sampleOperand.length + (Value.number (.ofNat 2)).nesting ≤ 255 ∧
      ('!' :: sampleOperand).length + (Value.number (.ofNat 2)).nesting ≤ 255 ∧
      ((root (.standardWith .exact true) sampleOperand).run (.number (.ofNat 2))).1 = .mismatch) ∧
    ((root (.standardWith .exact true) ('!' :: sampleOperand)).run (.number (.ofNat 2))).1 =
      .isMatch ∧
    ((root (.standardWith .exact true) ('!' :: '!' :: sampleOperand)).run
      (.number (.ofNat 2))).1 = .mismatch := by
  have hverdict : ((root (.standardWith .exact true) sampleOperand).run
      (.number (.ofNat 2))).1 = .mismatch := by
    decide +kernel
  have hdetermined : ((root (.standardWith .exact true) sampleOperand).run
      (.number (.ofNat 2))).1 ≠ .indeterminate := by
    simp [hverdict]
  have hstart : ∀ c ∈ sampleOperand.head?, Text.isBlank c = false := by
    have hhead : sampleOperand.head? = some '=' := by decide
    rw [hhead]
    simp
    decide
  obtain ⟨honce, -, htwice⟩ := verdict_negation .exact true (t := sampleOperand) (by decide)
    hstart (.number (.ofNat 2)) (by decide)
  refine ⟨⟨by decide, hstart, by decide, by decide, hverdict⟩, ?_, ?_⟩
  · rw [honce hdetermined, hverdict]
    rfl
  · rw [htwice (by decide) hdetermined, hverdict]

end Sift.Pattern
