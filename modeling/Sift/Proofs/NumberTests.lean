import Sift.Proofs.Inversion
import Sift.Proofs.Languages
import Sift.Proofs.Modes
import Sift.Proofs.WholeTexts

/-!
# Texts that ask numbers

A comparison or a range asks numbers. About a list it asks the elements, as it does about lists in
the list, down to the depth limit: the only element in exact mode, any element in inclusive mode
(`Value.passes`). All other values without texts are left open.

**Spellings.** Most spellings of an operator make no difference, since nothing but the comparison
is read from them. But `!=` starts with an exclamation mark, so its text is a negation of an
equality first. For a number, and for a list of one number, this comes to the same. In a longer
list, inequality may hold of one element and equality of another. Then the negation fails, and the
comparison is not asked.

**Main result.** All spellings of an operator match the same values without texts, but for `!=` and
`≠` in inclusive mode: of the lists that `≠` matches, `!=` matches those that equality does not
(`isMatch_spellings`).
-/

namespace Sift

/-! ## Values that pass -/

/-- Whether the only value of a list passes, in exact mode, or any value, in inclusive mode. -/
def Mode.finds (mode : Mode) (passes : Value → Bool) (vs : List Value) : Bool :=
  match mode, vs with
  | .exact, [w] => passes w
  | .exact, _ => false
  | .inclusive, vs => vs.any passes

theorem Mode.finds_iff {mode : Mode} {passes : Value → Bool} {vs : List Value} :
    mode.finds passes vs = true ↔
      ∃ w ∈ vs, (mode = .exact → vs = [w]) ∧ passes w = true := by
  cases mode with
  | inclusive => simp [finds]
  | exact =>
    constructor
    · intro h
      match vs, h with
      | [w], h => exact ⟨w, List.mem_singleton_self w, fun _ => rfl, h⟩
    · rintro ⟨w, -, hvs, hw⟩
      rw [hvs rfl]
      exact hw

/-- One part is related to elements if one of them is found. -/
theorem Mode.relates_singleton {α β : Type} {R : α → β → Prop} {a : α} {bs : List β} {mode : Mode} :
    mode.Relates R [a] bs ↔ ∃ b ∈ bs, (mode = .exact → bs = [b]) ∧ R a b := by
  cases mode with
  | inclusive => simp [Relates]
  | exact =>
    rw [Relates, List.forall₂_cons_left_iff]
    constructor
    · rintro ⟨b, bs', hab, hnil, rfl⟩
      obtain rfl := List.forall₂_nil_left_iff.1 hnil
      exact ⟨b, List.mem_singleton_self b, fun _ => rfl, hab⟩
    · rintro ⟨b, -, hbs, hab⟩
      exact ⟨b, [], hab, .nil, hbs rfl⟩

theorem Mode.finds_congr {mode : Mode} {passes passes' : Value → Bool} {vs : List Value}
    (h : ∀ w ∈ vs, passes w = passes' w) : mode.finds passes vs = mode.finds passes' vs := by
  rw [Bool.eq_iff_iff, finds_iff, finds_iff]
  constructor
  · rintro ⟨w, hmem, hvs, hw⟩
    exact ⟨w, hmem, hvs, h w hmem ▸ hw⟩
  · rintro ⟨w, hmem, hvs, hw⟩
    exact ⟨w, hmem, hvs, (h w hmem).symm ▸ hw⟩

@[simp] theorem Verdict.matchOrDefer_eq_isMatch {matched : Bool} :
    matchOrDefer matched = isMatch ↔ matched = true := by
  cases matched <;> decide

namespace Value

/-- Whether a value is a number that passes, or a list in which one is found, as deep as the given
number of levels. -/
def passes (f : Number → Bool) (mode : Mode) : (levels : Nat) → Value → Bool
  | _, number x => f x
  | levels + 1, list vs => mode.finds (passes f mode levels) vs
  | _, _ => false

/-- The verdict on a value without texts: a number that fails is a mismatch, while all other
failures are left to others. -/
def tested (f : Number → Bool) (mode : Mode) (levels : Nat) : Value → Verdict
  | number x => .ofBool (f x)
  | v => .matchOrDefer (v.passes f mode levels)

variable {f g : Number → Bool} {mode : Mode} {levels : Nat} {v : Value}

theorem tested_eq_isMatch_iff : v.tested f mode levels = .isMatch ↔
    v.passes f mode levels = true := by
  cases v with
  | number x => cases levels <;> exact Verdict.ofBool_eq_isMatch
  | _ =>
    simp only [tested, Verdict.matchOrDefer]
    split_ifs with h <;> simp [h]

theorem tested_eq_indeterminate (h : v.passes f mode levels = false) (hnumber : ∀ x, v ≠ number x) :
    v.tested f mode levels = .indeterminate := by
  cases v with
  | number x => exact absurd rfl (hnumber x)
  | _ => exact congrArg Verdict.matchOrDefer h

/-- Elements that are refused one level down are not to be found in a list that is not refused. -/
theorem finds_iff_of_refuses {passes : Value → Bool} {vs : List Value}
    (hlist : (list vs).passes g mode levels = false)
    (h : ∀ w ∈ vs, passes w = true ↔ w.passes f mode levels = true ∧
      ∀ k, levels = k + 1 → w.passes g mode k = false) :
    mode.finds passes vs = true ↔ (list vs).passes f mode (levels + 1) = true := by
  change _ ↔ mode.finds (Value.passes f mode levels) vs = true
  rw [Mode.finds_iff, Mode.finds_iff]
  constructor
  · rintro ⟨w, hw, hvs, hpasses⟩
    exact ⟨w, hw, hvs, ((h w hw).1 hpasses).1⟩
  · rintro ⟨w, hw, hvs, hpasses⟩
    refine ⟨w, hw, hvs, (h w hw).2 ⟨hpasses, ?_⟩⟩
    rintro k rfl
    by_contra hrefused
    have hfound : mode.finds (Value.passes g mode k) vs = true :=
      Mode.finds_iff.2 ⟨w, hw, hvs, Bool.not_eq_false _ ▸ hrefused⟩
    exact Bool.false_ne_true (hlist.symm.trans hfound)

/-- **In exact mode there is one number at most to ask.** -/
theorem not_passes_of_passes_exact (h : ∀ x, f x = true → g x = false) {levels' : Nat}
    (hv : v.passes f .exact levels = true) : v.passes g .exact levels' = false := by
  induction levels generalizing v levels' with
  | zero =>
    cases v with
    | number x => cases levels' <;> exact h x hv
    | _ => cases hv
  | succ levels ih =>
    cases v with
    | number x => cases levels' <;> exact h x hv
    | list vs =>
      obtain ⟨w, -, hvs, hw⟩ := Mode.finds_iff.1 hv
      have hw' : ∀ k, w.passes g .exact k = false := fun k => ih hw
      rw [hvs rfl]
      cases levels' with
      | zero => rfl
      | succ levels' => exact hw' levels'
    | _ => cases hv

end Value

namespace Pattern

variable {p : Pattern} {j : Judge} {v : Value} {b : Bindings} {f g : Number → Bool}
  {t : List Char}

/-! ## Texts -/

/-- The text asks numbers, and nothing but the dialects for numbers and lists can read it. -/
structure AsksNumbers (f : Number → Bool) (t : List Char) : Prop where
  asks : numberTest? t = some f
  digit : ∃ c ∈ t, c.isDigit = true
  plain : ∀ c ∈ [',', ':', '$'], c ∉ t

/-- The text asks numbers, and so does the one item of a list that it is. -/
structure IsNumberText (f : Number → Bool) (t : List Char) : Prop extends AsksNumbers f t where
  trim : Text.trim t = t

theorem isForeign_of_isDigit {c : Char} (h : c.isDigit = true) : IsForeign c := by
  refine ⟨?_, Grammar.toLower_of_isDigit h, fun hmem => ?_⟩
  · simp only [Char.isDigit, Bool.and_eq_true, decide_eq_true_eq] at h
    have hlow : 48 ≤ c.toNat := h.1
    have hhigh : c.toNat ≤ 57 := h.2
    simp only [Text.isBlank, Bool.or_eq_false_iff, Bool.and_eq_false_iff, beq_eq_false_iff_ne,
      decide_eq_false_iff_not]
    omega
  · simp only [List.mem_cons, List.not_mem_nil, or_false] at hmem
    rcases hmem with rfl | rfl | rfl | rfl | rfl | rfl | rfl | rfl <;> cases h

namespace AsksNumbers

theorem listItems (ht : AsksNumbers f t) : Pattern.listItems t = [Text.trim t] := by
  rw [Pattern.listItems, List.splitOn_eq_singleton (ht.plain ',' (by decide)), List.map_singleton]

theorem not_hasVariable (ht : AsksNumbers f t) : ¬ HasVariable t :=
  not_hasVariable_of_not_mem (ht.plain '$' (by decide))

/-- A text that asks numbers is left to the dialects from negations on. -/
theorem chainVerdict (ht : AsksNumbers f p.text) (hs : p.settings.chain = .standard) (v : Value)
    (b : Bindings) :
    chainVerdict j p v b = firstVerdict j (.builtIn .negation :: behindNegation) p v b := by
  obtain ⟨c, hmem, hdigit⟩ := ht.digit
  have hforeign := isForeign_of_isDigit hdigit
  have hstar : c ≠ '*' := Grammar.ne_of_isDigit hdigit (by decide)
  exact chainVerdict_of_readCapture hs (trim_ne_star hforeign.1 hstar hmem) hforeign hmem
    (readCapture_eq_none ht.not_hasVariable) v b

/-- Numbers are asked, whatever the level. -/
theorem firstVerdict_number (ht : AsksNumbers f p.text) (x : Number) :
    firstVerdict j behindNegation p (.number x) b = (.ofBool (f x), b) := by
  have hwhole : wholeVerdict p.settings.ignoreCase p.text (.number x) = .ofBool (f x) := by
    rw [wholeVerdict, ht.asks, Option.elim_some]
  have h := firstVerdict_behindNegation_of_determinate (j := j) (b := b)
    (hwhole ▸ Verdict.ofBool_ne_indeterminate _)
  rw [h, hwhole]

/-- All other values are left open, except lists as long as patterns may be derived. -/
theorem firstVerdict_other (ht : AsksNumbers f p.text) (hv : v.isTextless = true)
    (hnumber : ∀ x, v ≠ .number x) (hlist : p.canDerive = false ∨ ∀ vs, v ≠ .list vs) :
    firstVerdict j behindNegation p v b = (.indeterminate, b) := by
  have hwhole : wholeVerdict p.settings.ignoreCase p.text v = .indeterminate := by
    cases v with
    | number x => exact absurd rfl (hnumber x)
    | string s => cases hv
    | _ => rfl
  rw [firstVerdict_behindNegation hlist (.inr (ht.plain ':' (by decide))), hwhole]

end AsksNumbers

/-! ## One level of a list -/

/-- A single item is asked about the elements. -/
theorem asksList_eq_finds {q : Pattern} {vs : List Value} (h : ∀ w ∈ vs, Steady (j q w))
    (mode : Mode) (b : Bindings) :
    asksList j [q] vs mode b = (mode.finds (fun w => (j q w []).1 = .isMatch) vs, b) := by
  have hsteady : ∀ w ∈ vs, Steady (asks j q w) := fun w hw => steady_asks (h w hw)
  rw [asksList_of_steady (List.forall_mem_singleton.2 hsteady)]
  refine Prod.ext (Bool.eq_iff_iff.2 ?_) rfl
  rw [decide_eq_true_iff, Mode.relates_singleton, Mode.finds_iff]
  simp only [decide_eq_true_eq]

/-- **One level.** The elements of a list are asked without the space around the text, and the
list is given the verdict that they deserve. -/
theorem chainVerdict_level (hs : p.settings.chain = .standard) (ht : AsksNumbers f p.text)
    (hneg : operandOfNegation? p.text = none) {n : Nat} (hn : p.levels = n + 1)
    (hv : v.isTextless = true)
    (h : ∀ k, n = k + 1 → ∀ w : Value, w.isTextless = true → ∀ b,
      j (p.derive (Text.trim p.text)) w b = (w.tested f p.settings.mode k, b)) (b : Bindings) :
    chainVerdict j p v b = (v.tested f p.settings.mode n, b) := by
  rw [ht.chainVerdict hs, firstVerdict_cons_of_indeterminate (verdictFrom_negation hneg v b)]
  cases v with
  | number x => exact ht.firstVerdict_number x
  | list vs =>
    cases n with
    | zero => exact ht.firstVerdict_other hv (by simp) (.inl (canDerive_of_levels_eq_one hn))
    | succ n =>
      have hcan : p.canDerive = true := (canDerive_iff_of_levels_eq hn).2 n.succ_pos
      have helement : ∀ w ∈ vs, ∀ b, j (p.derive (Text.trim p.text)) w b =
          (w.tested f p.settings.mode n, b) := fun w hw =>
        h n rfl w (Value.isTextless_of_mem hw hv)
      have hsteady : ∀ w ∈ vs, Steady (j (p.derive (Text.trim p.text)) w) := by
        intro w hw b
        rw [helement w hw, helement w hw]
      rw [firstVerdict_behindNegation_list hcan (ht.plain ':' (by decide)), ht.listItems,
        List.map_singleton, asksList_eq_finds hsteady]
      refine congrArg (fun found => (Verdict.matchOrDefer found, b)) (Mode.finds_congr ?_)
      intro w hw
      rw [helement w hw, Bool.eq_iff_iff, decide_eq_true_eq]
      exact Value.tested_eq_isMatch_iff
  | _ =>
    rw [Value.tested_eq_indeterminate (by cases n <;> rfl) (by simp)]
    exact ht.firstVerdict_other hv (by simp) (.inr (by simp))

/-- **Numbers are found at every depth.** A text that asks numbers and is no negation gives a value
the verdict that the numbers in it deserve. -/
theorem chainVerdict_tested (hs : p.settings.chain = .standard) (ht : IsNumberText f p.text)
    (hneg : operandOfNegation? p.text = none) {n : Nat} (hn : p.levels = n + 1)
    (hv : v.isTextless = true) (b : Bindings) :
    chainVerdict (freshWithin n) p v b = (v.tested f p.settings.mode n, b) := by
  induction n generalizing p v b with
  | zero => exact chainVerdict_level hs ht.toAsksNumbers hneg hn hv (fun k hk => by cases hk) b
  | succ n ih =>
    refine chainVerdict_level hs ht.toAsksNumbers hneg hn hv (fun k hk w hw b => ?_) b
    obtain rfl : n = k := Nat.succ.inj hk
    rw [ht.trim, freshWithin_of_not_isRoot rfl]
    exact ih (p := p.derive p.text) hs ht hneg (levels_derive_of_levels_eq hn p.text) hw b

/-! ## Negations that ask numbers -/

/-- **A negation that could be a comparison as well** matches what the comparison matches, unless
what is negated matches, one level down. -/
theorem chainVerdict_opposed_iff (hs : p.settings.chain = .standard) (ht : IsNumberText f p.text)
    (hoperand : operandOfNegation? p.text = some t) (hg : IsNumberText g t)
    (hneg : operandOfNegation? t = none) (hfg : ∀ x, f x = !g x) {n : Nat}
    (hn : p.levels = n + 1) (hv : v.isTextless = true) :
    (chainVerdict (freshWithin n) p v []).1 = .isMatch ↔
      v.passes f p.settings.mode n = true ∧
        ∀ k, n = k + 1 → v.passes g p.settings.mode k = false := by
  induction n generalizing p v with
  | zero =>
    have hcan : p.canDerive = false := canDerive_of_levels_eq_one hn
    rw [ht.chainVerdict hs,
      firstVerdict_cons_of_indeterminate (verdictFrom_negation_atLimit hcan v [])]
    cases v with
    | number x => simp [ht.firstVerdict_number, Value.passes]
    | _ => simp [ht.firstVerdict_other hv (by simp) (.inl hcan), Value.passes]
  | succ n ih =>
    have hcan : p.canDerive = true := (canDerive_iff_of_levels_eq hn).2 n.succ_pos
    have hnegated : verdictFrom (freshWithin (n + 1)) p (Matcher.read p (.builtIn .negation)) v []
        (.builtIn .negation) = ((v.tested g p.settings.mode n).negate, []) := by
      rw [verdictFrom_operand hcan hoperand, freshWithin_of_not_isRoot rfl,
        chainVerdict_tested (p := p.derive t) hs hg hneg (levels_derive_of_levels_eq hn t) hv]
      rfl
    rw [ht.chainVerdict hs]
    cases v with
    | number x =>
      rw [firstVerdict_cons_of_determinate hnegated (by simp [Value.tested])]
      cases hx : g x <;> simp [Value.tested, Value.passes, hfg, hx, Verdict.ofBool, Verdict.negate]
    | list vs =>
      cases hfound : (Value.list vs).passes g p.settings.mode n with
      | true =>
        have hmatch : (Value.list vs).tested g p.settings.mode n = .isMatch :=
          Value.tested_eq_isMatch_iff.2 hfound
        rw [hmatch] at hnegated
        rw [firstVerdict_cons_of_determinate hnegated (by decide)]
        simp [hfound, Verdict.negate]
      | false =>
        rw [Value.tested_eq_indeterminate hfound (by simp)] at hnegated
        have hsteady : ∀ w ∈ vs, Steady (freshWithin (n + 1) (p.derive p.text) w) := fun w _ =>
          freshWithin_steady (p := p.derive p.text) ht.not_hasVariable rfl (n + 1) w
        have helement : ∀ w ∈ vs,
            decide ((freshWithin (n + 1) (p.derive p.text) w []).1 = .isMatch) = true ↔
              w.passes f p.settings.mode n = true ∧
                ∀ k, n = k + 1 → w.passes g p.settings.mode k = false := by
          intro w hw
          rw [decide_eq_true_eq, freshWithin_of_not_isRoot rfl]
          exact ih (p := p.derive p.text) hs ht hoperand (levels_derive_of_levels_eq hn p.text)
            (Value.isTextless_of_mem hw hv)
        rw [firstVerdict_cons_of_indeterminate hnegated,
          firstVerdict_behindNegation_list hcan (ht.plain ':' (by decide)), ht.listItems,
          ht.trim, List.map_singleton, asksList_eq_finds hsteady, deferring,
          Verdict.matchOrDefer_eq_isMatch, Value.finds_iff_of_refuses hfound helement]
        simp [hfound]
    | _ =>
      rw [Value.tested_eq_indeterminate (by cases n <;> rfl) (by simp)] at hnegated
      rw [firstVerdict_cons_of_indeterminate hnegated,
        ht.firstVerdict_other hv (by simp) (.inr (by simp))]
      simp [Value.passes]

/-! ## Comparisons with numbers -/

open Grammar (NumberPhrase OperatorPhrase operatorTexts)

theorem mem_numberText {n : NumberPhrase} {c : Char} (h : c ∈ n.text) :
    c.isDigit = true ∨ c ∈ ['-', '.'] := by
  obtain ⟨negative, whole, fraction⟩ := n
  rw [NumberPhrase.text, NumberPhrase.unsignedText, List.mem_append, List.mem_append] at h
  rcases h with h | h | h
  · cases negative <;> simp_all
  · exact .inl (whole.all c h)
  · cases fraction with
    | none => cases h
    | some digits =>
      rcases List.mem_cons.1 h with rfl | h
      · exact .inr (by decide)
      · exact .inl (digits.all c h)

theorem exists_digit_numberText (n : NumberPhrase) : ∃ c ∈ n.text, c.isDigit = true := by
  obtain ⟨c, r, hchars⟩ := List.exists_cons_of_ne_nil n.whole.ne_nil
  have hc : c ∈ n.whole.chars := hchars ▸ List.mem_cons_self
  exact ⟨c, by simp [NumberPhrase.text, NumberPhrase.unsignedText, hc], n.whole.all c hc⟩

/-- The spellings of an operator. Equality may be left out. -/
def spellingsOf : Operator → List (List Char)
  | .eq => [] :: operatorTexts .eq
  | o => operatorTexts o

/-- The characters of operators. -/
def operatorChars : List Char := ['<', '>', '=', '!', '≥', '≤', '≠']

theorem mem_operatorChars {o : Operator} {s : List Char} (hs : s ∈ spellingsOf o) :
    ∀ c ∈ s, c ∈ operatorChars := by
  have hall : (spellingsOf o).all (fun s => s.all (operatorChars.contains ·)) = true := by
    cases o <;> decide
  intro c hc
  have hspelling := List.all_eq_true.1 hall s hs
  exact List.contains_iff_mem.1 (List.all_eq_true.1 hspelling c hc)

/-- A number with an operator in front is a comparison. -/
theorem complete_comparison {o : Operator} {s : List Char} (hs : s ∈ spellingsOf o)
    (n : NumberPhrase) :
    Grammar.complete Grammar.comparison (s ++ n.text) = some ⟨o, n.value⟩ := by
  have hphrase : s ∈ operatorTexts o ∨ s = [] ∧ o = .eq := by
    cases o with
    | eq =>
      rcases List.mem_cons.1 hs with rfl | hs
      · exact .inr ⟨rfl, rfl⟩
      · exact .inl hs
    | _ => exact .inl hs
  rw [Grammar.readBy_comparisonLanguage.complete_eq_some_iff]
  rcases hphrase with hs | ⟨rfl, rfl⟩
  · refine ⟨⟨⟨[], by simp⟩, some ⟨o, s, hs⟩, ⟨[], by simp⟩, n, ⟨[], by simp⟩⟩, ?_, rfl⟩
    simp [Grammar.comparisonLanguage, Grammar.ComparisonPhrase.text]
  · refine ⟨⟨⟨[], by simp⟩, none, ⟨[], by simp⟩, n, ⟨[], by simp⟩⟩, ?_, rfl⟩
    simp [Grammar.comparisonLanguage, Grammar.ComparisonPhrase.text]

/-- A number with an operator in front asks numbers. -/
theorem isNumberText_comparison {o : Operator} {s : List Char} (hs : s ∈ spellingsOf o)
    (n : NumberPhrase) : IsNumberText (Comparison.holds ⟨o, n.value⟩) (s ++ n.text) := by
  have hchars : ∀ c ∈ s ++ n.text, c.isDigit = true ∨ c ∈ ['-', '.'] ++ operatorChars := by
    intro c hc
    rcases List.mem_append.1 hc with hc | hc
    · exact .inr (List.mem_append_right _ (mem_operatorChars hs c hc))
    · exact (mem_numberText hc).imp_right (List.mem_append_left _)
  have hall : (['-', '.'] ++ operatorChars).all
      (fun c => Text.isBlank c = false ∧ c ∉ [',', ':', '$']) = true := by decide
  have hother : ∀ c ∈ ['-', '.'] ++ operatorChars,
      Text.isBlank c = false ∧ c ∉ [',', ':', '$'] := by simpa using hall
  have hblank : ∀ c ∈ s ++ n.text, Text.isBlank c = false := by
    intro c hc
    rcases hchars c hc with hdigit | hmem
    · exact (isForeign_of_isDigit hdigit).1
    · exact (hother c hmem).1
  obtain ⟨d, hd, hdigit⟩ := exists_digit_numberText n
  refine ⟨⟨?_, ⟨d, List.mem_append_right _ hd, hdigit⟩, fun c hc hmem => ?_⟩, ?_⟩
  · rw [numberTest?, complete_comparison hs]
  · rcases hchars c hmem with hdigit | hmem
    · have hnone : ∀ c ∈ [',', ':', '$'], c.isDigit = false := by simp
      exact Grammar.ne_of_isDigit hdigit (hnone c hc) rfl
    · exact (hother c hmem).2 hc
  · exact Text.trim_eq_self (fun c hc => hblank c (List.mem_of_mem_head? hc))
      fun c hc => hblank c (List.mem_of_mem_getLast? hc)

/-! ## Spellings -/

/-- The pattern of an operator with a number behind it. -/
def comparing (mode : Mode) (ignoreCase : Bool) (operator : List Char) (n : NumberPhrase) :
    Pattern :=
  root (.standardWith mode ignoreCase) (operator ++ n.text)

variable {mode : Mode} {ignoreCase : Bool} {n : NumberPhrase}

theorem isMatch_comparing_iff {operator : List Char} :
    (comparing mode ignoreCase operator n).isMatch v = true ↔
      (chainVerdict (freshWithin 256) (comparing mode ignoreCase operator n) v []).1 = .isMatch :=
  isMatch_root_iff Chain.isBuiltIn_standard.isRegular _ v

/-- Operators without an exclamation mark ask the numbers in a value. -/
theorem isMatch_comparing {o : Operator} {s : List Char} (hs : s ∈ spellingsOf o) (hmark : '!' ∉ s)
    (hv : v.isTextless = true) :
    (comparing mode ignoreCase s n).isMatch v =
      v.passes (Comparison.holds ⟨o, n.value⟩) mode 256 := by
  have hnumber : '!' ∉ n.text := by
    intro hmem
    rcases mem_numberText hmem with hdigit | hmem
    · cases hdigit
    · exact absurd hmem (by decide)
  have hneg : operandOfNegation? (s ++ n.text) = none :=
    operandOfNegation?_of_not_mem (by simp [hmark, hnumber])
  have hverdict := chainVerdict_tested (p := comparing mode ignoreCase s n) rfl
    (isNumberText_comparison hs n) hneg (n := 256) rfl hv []
  rw [Bool.eq_iff_iff, isMatch_comparing_iff, hverdict]
  exact Value.tested_eq_isMatch_iff

theorem operandOfNegation?_equality : operandOfNegation? ('=' :: n.text) = none :=
  operandOfNegation?_cons (by decide) (by decide) n.text

/-- **In its spelling with an exclamation mark, inequality is denied equality.** -/
theorem isMatch_denial (hv : v.isTextless = true) :
    (comparing mode ignoreCase ['!', '='] n).isMatch v = true ↔
      v.passes (Comparison.holds ⟨.ne, n.value⟩) mode 256 = true ∧
        v.passes (Comparison.holds ⟨.eq, n.value⟩) mode 255 = false := by
  have ht := isNumberText_comparison (o := .ne) (s := ['!', '=']) (by decide) n
  have hg := isNumberText_comparison (o := .eq) (s := ['=']) (by decide) n
  have hoperand : operandOfNegation? ('!' :: '=' :: n.text) = some ('=' :: n.text) :=
    operandOfNegation?_mark (by simp) (by simp; decide)
  rw [isMatch_comparing_iff, chainVerdict_opposed_iff
    (p := comparing mode ignoreCase ['!', '='] n) rfl ht hoperand hg operandOfNegation?_equality
    (fun _ => rfl) (n := 256) rfl hv]
  constructor
  · rintro ⟨hpasses, hrefused⟩
    exact ⟨hpasses, hrefused 255 rfl⟩
  · rintro ⟨hpasses, hrefused⟩
    refine ⟨hpasses, fun k hk => ?_⟩
    obtain rfl : 255 = k := Nat.succ.inj hk
    exact hrefused

/-- The equality that is denied is asked one level down. -/
theorem isMatch_denied (hv : v.isTextless = true) :
    ((comparing mode ignoreCase ['!', '='] n).derive ('=' :: n.text)).isMatch v =
      v.passes (Comparison.holds ⟨.eq, n.value⟩) mode 255 := by
  let p := (comparing mode ignoreCase ['!', '='] n).derive ('=' :: n.text)
  have hregular : p.settings.chain.IsRegular := Chain.isBuiltIn_standard.isRegular
  have hverdict : chainVerdict (freshWithin 255) p v [] =
      (v.tested (Comparison.holds ⟨.eq, n.value⟩) mode 255, []) :=
    chainVerdict_tested (p := p) rfl (isNumberText_comparison (o := .eq) (s := ['=']) (by decide) n)
      operandOfNegation?_equality (n := 255) rfl hv []
  have hfresh : p.fresh v [] = chainVerdict (freshWithin 255) p v [] :=
    freshWithin_of_not_isRoot rfl 255
  rw [Bool.eq_iff_iff, isMatch, decide_eq_true_eq, run_of_cache_eq_nil hregular rfl, hfresh,
    hverdict]
  exact Value.tested_eq_isMatch_iff

/-- Where one number is asked at most, inequality and equality exclude each other. -/
theorem not_passes_equality (h : mode = .exact ∨ ∀ vs, v ≠ .list vs)
    (hv : v.passes (Comparison.holds ⟨.ne, n.value⟩) mode 256 = true) :
    v.passes (Comparison.holds ⟨.eq, n.value⟩) mode 255 = false := by
  have hexclusive : ∀ x, Comparison.holds ⟨.ne, n.value⟩ x = true →
      Comparison.holds ⟨.eq, n.value⟩ x = false := by
    intro x hx
    simpa [Comparison.holds, Operator.holds] using hx
  rcases h with rfl | h
  · exact Value.not_passes_of_passes_exact hexclusive hv
  · cases v with
    | number x => exact hexclusive x hv
    | list vs => exact absurd rfl (h vs)
    | _ => rfl

/-- **Spellings are synonyms**, but for inequality in a list in inclusive mode: there, the spelling
with an exclamation mark matches what the other one matches and denied equality does not. -/
theorem isMatch_spellings (mode : Mode) (ignoreCase : Bool) (n : NumberPhrase) {v : Value}
    (hv : v.isTextless = true) :
    (comparing mode ignoreCase ['>', '='] n).isMatch v =
      (comparing mode ignoreCase ['≥'] n).isMatch v ∧
    (comparing mode ignoreCase ['<', '='] n).isMatch v =
      (comparing mode ignoreCase ['≤'] n).isMatch v ∧
    (comparing mode ignoreCase ['='] n).isMatch v = (comparing mode ignoreCase [] n).isMatch v ∧
    (comparing mode ignoreCase ['=', '='] n).isMatch v =
      (comparing mode ignoreCase [] n).isMatch v ∧
    (mode = .exact ∨ (∀ vs, v ≠ .list vs) →
      (comparing mode ignoreCase ['!', '='] n).isMatch v =
        (comparing mode ignoreCase ['≠'] n).isMatch v) ∧
    ((comparing mode ignoreCase ['!', '='] n).isMatch v = true ↔
      (comparing mode ignoreCase ['≠'] n).isMatch v = true ∧
        ((comparing mode ignoreCase ['!', '='] n).derive ('=' :: n.text)).isMatch v = false) := by
  have hspelled {o : Operator} {s : List Char} (hs : s ∈ spellingsOf o) (hmark : '!' ∉ s) :
      (comparing mode ignoreCase s n).isMatch v =
        v.passes (Comparison.holds ⟨o, n.value⟩) mode 256 :=
    isMatch_comparing hs hmark hv
  have hequal := hspelled (o := .eq) (s := []) (by decide) (by decide)
  have hunequal := hspelled (o := .ne) (s := ['≠']) (by decide) (by decide)
  have hdenial : (comparing mode ignoreCase ['!', '='] n).isMatch v = true ↔
      v.passes (Comparison.holds ⟨.ne, n.value⟩) mode 256 = true ∧
        v.passes (Comparison.holds ⟨.eq, n.value⟩) mode 255 = false :=
    isMatch_denial hv
  refine ⟨?_, ?_, ?_, ?_, fun h => ?_, ?_⟩
  · rw [hspelled (o := .ge) (s := ['>', '=']) (by decide) (by decide),
      hspelled (o := .ge) (s := ['≥']) (by decide) (by decide)]
  · rw [hspelled (o := .le) (s := ['<', '=']) (by decide) (by decide),
      hspelled (o := .le) (s := ['≤']) (by decide) (by decide)]
  · rw [hspelled (o := .eq) (s := ['=']) (by decide) (by decide), hequal]
  · rw [hspelled (o := .eq) (s := ['=', '=']) (by decide) (by decide), hequal]
  · rw [Bool.eq_iff_iff, hdenial, hunequal]
    constructor
    · rintro ⟨hpasses, -⟩
      exact hpasses
    · intro hpasses
      exact ⟨hpasses, not_passes_equality h hpasses⟩
  · rw [hdenial, isMatch_denied hv, hunequal]

/-- A list with one element that is one, and one that is not. -/
def sampleNumbers : Value := .list [.number (.ofNat 1), .number (.ofNat 2)]

/-- The number one. -/
def sampleNumber : NumberPhrase := ⟨false, ⟨['1'], by decide, by simp⟩, none⟩

theorem isMatch_spellings_sampleNumbers :
    (sampleNumbers.isTextless = true) ∧
    (comparing .inclusive true ['≠'] sampleNumber).isMatch sampleNumbers = true ∧
    ((comparing .inclusive true ['!', '='] sampleNumber).isMatch sampleNumbers = true ↔
      (comparing .inclusive true ['≠'] sampleNumber).isMatch sampleNumbers = true ∧
        ((comparing .inclusive true ['!', '='] sampleNumber).derive
          ('=' :: sampleNumber.text)).isMatch sampleNumbers = false) := by
  obtain ⟨-, -, -, -, -, hdenial⟩ :=
    isMatch_spellings .inclusive true sampleNumber (v := sampleNumbers) rfl
  exact ⟨rfl, by decide +kernel, hdenial⟩

/-- In inclusive mode the two spellings of inequality are not synonyms. -/
theorem isMatch_spelling_ne :
    sampleNumbers.isTextless = true ∧
      (comparing .inclusive true ['!', '='] sampleNumber).isMatch sampleNumbers ≠
        (comparing .inclusive true ['≠'] sampleNumber).isMatch sampleNumbers := by
  decide +kernel

end Pattern

end Sift
