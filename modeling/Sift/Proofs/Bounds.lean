import Sift.Proofs.NumbersInLists

/-!
# Ranges and their bounds

A range is read apart from comparisons although it is made of the same numbers: the dash between its
ends is also a sign, and space may stand around it. A number lies in the range if it passes a
comparison with either end. No other dialect has a say, be it in front of the ranges or in front of
the comparisons, and not-a-number passes none of the three.

**Main result.** A range matches a number exactly if `>=` with its lower end and `<=` with its upper
end both do, and refuses it otherwise. With an exclamation mark in front it says the opposite
(`verdict_range`).
-/

namespace Sift

theorem Interval.contains_eq_and (i : Interval) (x : Number) :
    i.contains x = (Comparison.holds ⟨.ge, i.low⟩ x && Comparison.holds ⟨.le, i.high⟩ x) := rfl

theorem Verdict.negate_ofBool (matched : Bool) : (ofBool matched).negate = ofBool (!matched) := by
  cases matched <;> rfl

namespace Grammar

/-- The range without the space in front. -/
def RangePhrase.unindented (r : RangePhrase) : RangePhrase :=
  { r with before := ⟨[], List.forall_mem_nil _⟩ }

variable (r : RangePhrase)

theorem RangePhrase.text_eq_append : r.text = r.before.chars ++ r.unindented.text := rfl

theorem RangePhrase.isBlank_head_unindented :
    ∀ c ∈ r.unindented.text.head?, Text.isBlank c = false :=
  Pattern.isBlank_head_numberText r.low _

theorem RangePhrase.trimStart_text : Text.trimStart r.text = r.unindented.text := by
  have hblank : ∀ c ∈ r.before.chars, Text.isBlank c = true := fun c hc =>
    Text.isBlank_of_isSpace (r.before.all c hc)
  rw [text_eq_append, Text.trimStart, List.dropWhile_append_of_pos hblank]
  exact Text.trimStart_eq_self r.isBlank_head_unindented

theorem RangePhrase.head_unindented_ne : r.unindented.text.head? ≠ some '!' := by
  intro h
  rcases r.low.head_append _ '!' h with hminus | hdigit
  · cases hminus
  · cases hdigit

theorem RangePhrase.unindented_ne_nil : r.unindented.text ≠ [] := by
  simp [text]

end Grammar

namespace Pattern

open Grammar

variable {p : Pattern} {j : Judge} {b : Bindings} {f : Number → Bool} {t : List Char}

/-! ## Numbers and their negations -/

/-- What asks numbers and is no negation gives a number the verdict that it deserves. -/
theorem AsksNumbers.chainVerdict_number (ht : AsksNumbers f p.text)
    (hs : p.settings.chain = .standard) (hneg : operandOfNegation? p.text = none) (x : Number)
    (b : Bindings) : Pattern.chainVerdict j p (.number x) b = (.ofBool (f x), b) := by
  rw [ht.chainVerdict hs, firstVerdict_cons_of_indeterminate (verdictFrom_negation hneg _ b)]
  exact ht.firstVerdict_number x

/-- A mark in front turns the verdict on a number around. -/
theorem AsksNumbers.chainVerdict_denied (ht : AsksNumbers f t)
    (hs : p.settings.chain = .standard) (hcan : p.canDerive = true)
    (hoperand : operandOfNegation? p.text = some t) (hneg : operandOfNegation? t = none)
    (x : Number) (b : Bindings) (n : Nat) :
    Pattern.chainVerdict (freshWithin (n + 1)) p (.number x) b = (.ofBool (!f x), b) := by
  have hbelow : freshWithin (n + 1) (p.derive t) (.number x) b = (.ofBool (f x), b) := by
    rw [freshWithin_of_not_isRoot rfl]
    exact AsksNumbers.chainVerdict_number (p := p.derive t) ht hs hneg x b
  have hdetermined : (freshWithin (n + 1) (p.derive t) (.number x) b).1 ≠ .indeterminate := by
    rw [hbelow]
    exact Verdict.ofBool_ne_indeterminate _
  rw [chainVerdict_operand hs hcan hoperand hdetermined, hbelow, Verdict.negate_ofBool]

/-! ## Ranges -/

variable {mode : Mode} {ignoreCase : Bool}

/-- The verdict of a pattern on a number. -/
def verdictOn (mode : Mode) (ignoreCase : Bool) (x : Number) (text : List Char) : Verdict :=
  ((root (.standardWith mode ignoreCase) text).run (.number x)).1

theorem verdictOn_of_asksNumbers (ht : AsksNumbers f t) (hneg : operandOfNegation? t = none)
    (x : Number) : verdictOn mode ignoreCase x t = .ofBool (f x) := by
  rw [verdictOn, verdict_root Chain.isBuiltIn_standard.isRegular,
    AsksNumbers.chainVerdict_number (p := root _ t) ht rfl hneg]

theorem verdictOn_comparison {o : Operator} {s : List Char} (hs : s ∈ spellingsOf o)
    (hmark : '!' ∉ s) (n : NumberPhrase) (x : Number) :
    verdictOn mode ignoreCase x (s ++ n.text) = .ofBool (Comparison.holds ⟨o, n.value⟩ x) := by
  have hnone : '!' ∉ s ++ n.text := by
    intro hmem
    rcases List.mem_append.1 hmem with hmem | hmem
    · exact hmark hmem
    · rcases mem_numberText hmem with hdigit | hmem
      · cases hdigit
      · simp at hmem
  exact verdictOn_of_asksNumbers (isNumberText_comparison hs n).toAsksNumbers
    (operandOfNegation?_of_not_mem hnone) x

variable (r : RangePhrase)

theorem asksNumbers_range : AsksNumbers (Interval.contains ⟨r.low.value, r.high.value⟩) r.text :=
  (NumberTest.range ((readBy_rangeLanguage.complete_eq_some_iff _ _).2 ⟨r, rfl, rfl⟩)).asksNumbers.1

theorem operandOfNegation?_range : operandOfNegation? r.text = none :=
  operandOfNegation?_eq_none (r.trimStart_text ▸ r.head_unindented_ne)

theorem verdictOn_range (x : Number) :
    verdictOn mode ignoreCase x r.text =
      .ofBool (Interval.contains ⟨r.low.value, r.high.value⟩ x) :=
  verdictOn_of_asksNumbers (asksNumbers_range r) (operandOfNegation?_range r) x

theorem operandOfNegation?_mark_range :
    operandOfNegation? ('!' :: r.text) = some r.unindented.text := by
  have hmark : Text.trimStart ('!' :: r.text) = '!' :: r.text := rfl
  unfold operandOfNegation?
  rw [hmark]
  simp only [r.trimStart_text, if_neg r.unindented_ne_nil]

theorem verdictOn_mark_range (x : Number) :
    verdictOn mode ignoreCase x ('!' :: r.text) =
      .ofBool (!Interval.contains ⟨r.low.value, r.high.value⟩ x) := by
  let p := root (.standardWith mode ignoreCase) ('!' :: r.text)
  have hdenied := (asksNumbers_range r.unindented).chainVerdict_denied (p := p) rfl rfl
    (operandOfNegation?_mark_range r) (operandOfNegation?_range r.unindented) x [] 255
  exact (verdict_root Chain.isBuiltIn_standard.isRegular _ _).trans (congrArg Prod.fst hdenied)

/-- **A range is the conjunction of its bounds**, and with a mark in front it is the opposite. No
number leaves the question open. -/
theorem verdict_range (mode : Mode) (ignoreCase : Bool) (x : Number) :
    (verdictOn mode ignoreCase x r.text = .isMatch ↔
      verdictOn mode ignoreCase x (">=".toList ++ r.low.text) = .isMatch ∧
        verdictOn mode ignoreCase x ("<=".toList ++ r.high.text) = .isMatch) ∧
    (verdictOn mode ignoreCase x r.text ≠ .isMatch →
      verdictOn mode ignoreCase x r.text = .mismatch) ∧
    verdictOn mode ignoreCase x ('!' :: r.text) = (verdictOn mode ignoreCase x r.text).negate := by
  have hlow : verdictOn mode ignoreCase x (['>', '='] ++ r.low.text) = _ :=
    verdictOn_comparison (o := .ge) (by decide) (by decide) r.low x
  have hhigh : verdictOn mode ignoreCase x (['<', '='] ++ r.high.text) = _ :=
    verdictOn_comparison (o := .le) (by decide) (by decide) r.high x
  refine ⟨?_, ?_, ?_⟩
  · change _ ↔ verdictOn mode ignoreCase x (['>', '='] ++ r.low.text) = .isMatch ∧
      verdictOn mode ignoreCase x (['<', '='] ++ r.high.text) = .isMatch
    rw [verdictOn_range, hlow, hhigh, Interval.contains_eq_and]
    simp only [Verdict.ofBool_eq_isMatch, Bool.and_eq_true]
  · rw [verdictOn_range, Ne, Verdict.ofBool_eq_isMatch, Verdict.ofBool_eq_mismatch]
    exact Bool.eq_false_iff.2
  · rw [verdictOn_mark_range, verdictOn_range, Verdict.negate_ofBool]

end Pattern

end Sift
