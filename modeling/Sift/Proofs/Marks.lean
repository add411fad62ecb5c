import Sift.Proofs.Steady

/-!
# Marks

A few characters tell a text from the keywords, and all of them but the dollar sign also from the
variables: colons, exclamation marks, question marks and stars. A text that has one and that is not
a lone star is left to the dialects from negations on (`chainVerdict_of_mark`). Digits tell a text
from the keywords as well, but not from the variables.

**Skipped dialects.** A dialect that does not apply leaves the variables as they are, so the first
verdict is that of the dialects behind it.
-/

namespace Sift.Pattern

variable {p : Pattern} {j : Judge} {v : Value} {b : Bindings} {c : Char} {text : List Char}

/-- A character that no keyword has, and that stays when texts are trimmed. -/
def IsForeign (c : Char) : Prop :=
  Text.isBlank c = false ∧ c.toLower = c ∧ c ∉ ['n', 'u', 'l', 'e', 'm', 'p', 't', 'y']

instance : DecidablePred IsForeign := fun _ => inferInstanceAs (Decidable (_ ∧ _ ∧ _))

/-- Marks that no keyword has. -/
def marks : List Char := [':', '$', '!', '?', '*']

theorem isForeign_of_mem_marks : ∀ c ∈ marks, IsForeign c := by
  have hall : marks.all (fun c => IsForeign c) = true := by decide
  simpa using hall

/-! ## Stars and keywords -/

/-- A text that has any other character but blanks is not a lone star. -/
theorem trim_ne_star (hblank : Text.isBlank c = false) (hstar : c ≠ '*') (h : c ∈ text) :
    Text.trim text ≠ ['*'] := by
  have hmem : c ∈ Text.trim text := Text.mem_trim hblank h
  intro heq
  rw [heq, List.mem_singleton] at hmem
  exact hstar hmem

/-- A text with a foreign character is no keyword. -/
theorem textEquals_of_mem (hc : IsForeign c) (h : c ∈ text) {keyword : List Char}
    (hlower : asciiLower keyword = keyword)
    (hkeyword : ∀ d ∈ keyword, d ∈ ['n', 'u', 'l', 'e', 'm', 'p', 't', 'y']) :
    p.textEquals text keyword = false := by
  obtain ⟨-, hself, hforeign⟩ := hc
  have hmem : c ∈ asciiLower text := List.mem_map.2 ⟨c, h, hself⟩
  have hnot : c ∉ keyword := fun hmem => hforeign (hkeyword c hmem)
  unfold textEquals isKeyword
  split_ifs
  · rw [hlower]
    exact beq_eq_false_iff_ne.2 (ne_of_mem_of_not_mem' hmem hnot)
  · exact beq_eq_false_iff_ne.2 (ne_of_mem_of_not_mem' h hnot)

theorem judgeNullOrEmpty_of_mem (hc : IsForeign c) (h : c ∈ p.text) (v : Value) :
    p.judgeNullOrEmpty v = .indeterminate := by
  have hmem : c ∈ Text.trim p.text := Text.mem_trim hc.1 h
  have hnull : p.textEquals (Text.trim p.text) ['n', 'u', 'l', 'l'] = false :=
    textEquals_of_mem hc hmem (by decide) (by simp)
  have hempty : p.textEquals (Text.trim p.text) ['e', 'm', 'p', 't', 'y'] = false :=
    textEquals_of_mem hc hmem (by decide) (by simp)
  simp only [judgeNullOrEmpty, hnull, hempty, Bool.false_eq_true, ↓reduceIte]

/-- A text with a foreign character that is not a lone star is left to the dialects from variables
on. -/
theorem chainVerdict_of_mem (hs : p.settings.chain = .standard) (htrim : Text.trim p.text ≠ ['*'])
    (hc : IsForeign c) (h : c ∈ p.text) (v : Value) (b : Bindings) :
    chainVerdict j p v b =
      firstVerdict j ([.capture, .negation, .glob, .comparison, .range, .list, .regex,
        .multiField, .property].map .builtIn) p v b := by
  unfold chainVerdict
  rw [hs]
  change firstVerdict j (.builtIn .anything :: .builtIn .nullOrEmpty ::
    [.capture, .negation, .glob, .comparison, .range, .list, .regex, .multiField,
      .property].map .builtIn) p v b = _
  have hanything : verdictFrom j p (Matcher.read p (.builtIn .anything)) v b (.builtIn .anything) =
      (.indeterminate, b) := by
    simp only [verdictFrom, verdictOf, judgeAnything, if_neg htrim]
  have hkeyword : verdictFrom j p (Matcher.read p (.builtIn .nullOrEmpty)) v b
      (.builtIn .nullOrEmpty) = (.indeterminate, b) := by
    simp only [verdictFrom, verdictOf, judgeNullOrEmpty_of_mem hc h]
  rw [firstVerdict_cons_of_indeterminate hanything, firstVerdict_cons_of_indeterminate hkeyword]

/-! ## Variables -/

/-- A variable is made of a dollar sign, the characters of its name, and space. -/
theorem chars_of_variableName {text name : List Char}
    (h : Grammar.variableName text = some (name, [])) :
    ∀ c ∈ text, Grammar.isSpace c = true ∨ c = '$' ∨ Grammar.isNameChar c = true := by
  intro c hc
  rw [← List.takeWhile_append_dropWhile (p := Grammar.isSpace) (l := text), List.mem_append] at hc
  rcases hc with hc | hc
  · exact .inl (List.mem_takeWhile_imp hc)
  · unfold Grammar.variableName at h
    change c ∈ Grammar.skipSpace text at hc
    generalize Grammar.skipSpace text = s at h hc
    unfold Grammar.name at h
    split at h
    · next r =>
      dsimp only at h
      split_ifs at h
      simp only [Option.some.injEq, Prod.mk.injEq] at h
      have hspace : ∀ d ∈ r.dropWhile Grammar.isNameChar, Grammar.isSpace d = true :=
        List.dropWhile_eq_nil_iff.1 h.2
      rcases List.mem_cons.1 hc with rfl | hc
      · exact .inr (.inl rfl)
      · rw [← List.takeWhile_append_dropWhile (p := Grammar.isNameChar) (l := r),
          List.mem_append] at hc
        rcases hc with hc | hc
        · exact .inr (.inr (List.mem_takeWhile_imp hc))
        · exact .inl (hspace c hc)
    · cases h

theorem not_variable_of_mem_marks : ∀ c ∈ marks, c ≠ '$' →
    ¬ (Grammar.isSpace c = true ∨ c = '$' ∨ Grammar.isNameChar c = true) := by
  have hall : marks.all (fun c => c ≠ '$' →
      ¬ (Grammar.isSpace c = true ∨ c = '$' ∨ Grammar.isNameChar c = true)) = true := by decide
  exact fun c hc => of_decide_eq_true (List.all_eq_true.1 hall c hc)

/-- A text with a character that no variable has is no variable. -/
theorem readCapture_eq_none_of_mem
    (hc : ¬ (Grammar.isSpace c = true ∨ c = '$' ∨ Grammar.isNameChar c = true)) (h : c ∈ p.text) :
    p.readCapture = none := by
  unfold readCapture Grammar.complete
  split
  · next name hname => exact absurd (chars_of_variableName hname c h) hc
  · rfl

/-- A text that has any mark but the dollar sign is no variable. -/
theorem readCapture_of_mem (hc : c ∈ marks) (hdollar : c ≠ '$') (h : c ∈ p.text) :
    p.readCapture = none :=
  readCapture_eq_none_of_mem (not_variable_of_mem_marks c hc hdollar) h

/-- **A variable** takes the value unless it has one, and asks for an equal one. -/
theorem chainVerdict_capture (hs : p.settings.chain = .standard) {name : String}
    (h : p.readCapture = some (.capture name)) (v : Value) (b : Bindings) :
    chainVerdict j p v b = (.ofBool ((b.bind name v).1.equals v), (b.bind name v).2) := by
  have hmem : '$' ∈ p.text := (infix_of_readCapture h).subset List.mem_cons_self
  have hcapture : verdictFrom j p (Matcher.read p (.builtIn .capture)) v b (.builtIn .capture) =
      (.ofBool ((b.bind name v).1.equals v), (b.bind name v).2) := by
    simp only [verdictFrom, verdictOf, Matcher.read, Dialect.read, h]
  have htrim := trim_ne_star (c := '$') (by decide) (by decide) hmem
  rw [chainVerdict_of_mem hs htrim (by decide) hmem, List.map_cons]
  exact firstVerdict_cons_of_determinate hcapture (Verdict.ofBool_ne_indeterminate _) _

/-- A text that is no lone star, no keyword and no variable is left to the dialects from negations
on. -/
theorem chainVerdict_of_readCapture (hs : p.settings.chain = .standard)
    (htrim : Text.trim p.text ≠ ['*']) (hc : IsForeign c) (h : c ∈ p.text)
    (hcapture : p.readCapture = none) (v : Value) (b : Bindings) :
    chainVerdict j p v b =
      firstVerdict j ([.negation, .glob, .comparison, .range, .list, .regex, .multiField,
        .property].map .builtIn) p v b := by
  have hskip : verdictFrom j p (Matcher.read p (.builtIn .capture)) v b (.builtIn .capture) =
      (.indeterminate, b) := by
    simp only [verdictFrom, verdictOf, Matcher.read, Dialect.read, hcapture]
  rw [chainVerdict_of_mem hs htrim hc h, List.map_cons, firstVerdict_cons_of_indeterminate hskip]

/-- A text with a mark other than a dollar sign is left to the dialects from negations on, unless
it is a lone star. -/
theorem chainVerdict_of_mark (hs : p.settings.chain = .standard)
    (htrim : Text.trim p.text ≠ ['*']) (hc : c ∈ marks) (hdollar : c ≠ '$') (h : c ∈ p.text)
    (v : Value) (b : Bindings) :
    chainVerdict j p v b =
      firstVerdict j ([.negation, .glob, .comparison, .range, .list, .regex, .multiField,
        .property].map .builtIn) p v b :=
  chainVerdict_of_readCapture hs htrim (isForeign_of_mem_marks c hc) h
    (readCapture_of_mem hc hdollar h) v b

/-! ## Negations -/

/-- A text that is no negation skips the negations. -/
theorem verdictFrom_negation (h : operandOfNegation? p.text = none) (v : Value) (b : Bindings) :
    verdictFrom j p (Matcher.read p (.builtIn .negation)) v b (.builtIn .negation) =
      (.indeterminate, b) := by
  simp only [verdictFrom, verdictOf, Matcher.read, Dialect.read, readNegation, h, Option.map_none,
    ite_self]

/-- At the depth limit nothing is negated. -/
theorem verdictFrom_negation_atLimit (h : p.canDerive = false) (v : Value) (b : Bindings) :
    verdictFrom j p (Matcher.read p (.builtIn .negation)) v b (.builtIn .negation) =
      (.indeterminate, b) := by
  simp only [verdictFrom, verdictOf, Matcher.read, Dialect.read, readNegation, h,
    Bool.false_eq_true, ↓reduceIte]

end Sift.Pattern
