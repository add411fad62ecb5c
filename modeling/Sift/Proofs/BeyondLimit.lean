import Mathlib.Algebra.Ring.Parity
import Sift.Proofs.Inversion
import Sift.Proofs.WholeTexts

/-!
# Patterns beyond the depth limit

A text with more exclamation marks than there are levels still holds some of them when the limit is
reached. There it is negated no further, but it is not given up: globs and regular expressions may
take what is left of it as a whole, marks included, and so may a comparison whose operator the last
mark belongs to.

**Verdicts from the limit.** Whatever these dialects say at the limit is turned around once for
every level, which is an even number of times, so it is the verdict of the whole pattern.

**Open questions.** If they say nothing at the limit, they may still have something to say on the
way back, where the text has more marks. That takes a text: a number is refused by every reading
that starts with two marks, and the elements of a list are asked with one mark more at the limit
than the list.

**Main result.** A pattern beyond the limit has the verdict from the limit, if there is one. If
there is no colon in it, then it leaves the question open exactly if no dialect takes the text as a
whole, neither at the limit nor on the way back; about a list without texts it always does
(`verdict_beyondLimit`).
-/

namespace Sift.Pattern

variable {p : Pattern} {j : Judge} {v : Value} {b : Bindings} {operand : List Char} {m n : Nat}

/-! ## Marks in front of a text -/

/-- Exclamation marks in front of a text. -/
def marked (n : Nat) (operand : List Char) : List Char := List.replicate n '!' ++ operand

theorem marked_succ (n : Nat) (operand : List Char) :
    marked (n + 1) operand = '!' :: marked n operand := rfl

theorem not_mem_marked {c : Char} (hc : c ≠ '!') (h : c ∉ operand) : c ∉ marked n operand := by
  simp [marked, List.mem_replicate, hc, h]

/-- A text with a mark in front does not start with a blank. -/
theorem isBlank_of_head_marked :
    ∀ c ∈ (marked (n + 1) operand).head?, Text.isBlank c = false := by
  intro c hc
  obtain rfl : '!' = c := Option.some.inj hc
  decide

theorem operandOfNegation?_marked (n : Nat) (operand : List Char) :
    operandOfNegation? (marked (n + 2) operand) = some (marked (n + 1) operand) :=
  operandOfNegation?_mark (List.cons_ne_nil _ _) isBlank_of_head_marked

/-- No number is asked by a text with two marks in front. -/
theorem numberTest?_marked (n : Nat) (operand : List Char) :
    numberTest? (marked (n + 2) operand) = none := rfl

theorem wholeVerdict_marked (hv : ∀ s, v ≠ .string s) (ignoreCase : Bool) (n : Nat)
    (operand : List Char) :
    wholeVerdict ignoreCase (marked (n + 2) operand) v = .indeterminate := by
  cases v with
  | string s => exact absurd rfl (hv s)
  | number x => rw [wholeVerdict, numberTest?_marked, Option.elim_none]
  | _ => rfl

theorem trimEnd_marked (n : Nat) (operand : List Char) :
    Text.trimEnd (marked n operand) = marked n (Text.trimEnd operand) := by
  induction n with
  | zero => rfl
  | succ n ih =>
    have hmark : ['!'].dropWhile Text.isBlank = ['!'] := by decide
    rw [marked_succ, marked_succ, ← ih]
    simp only [Text.trimEnd, List.reverse_cons, List.dropWhile_append]
    split_ifs with h
    · rw [hmark, List.isEmpty_iff.1 h]
      rfl
    · rw [List.reverse_append]
      rfl

theorem splitOn_marked (n : Nat) (operand : List Char) :
    (marked n operand).splitOn ',' = (operand.splitOn ',').modifyHead (marked n) := by
  induction n with
  | zero =>
    have hid : marked 0 = id := rfl
    rw [hid, List.modifyHead_id, id, id]
  | succ n ih =>
    have hmarked : marked (n + 1) = List.cons '!' ∘ marked n := rfl
    rw [hmarked, ← List.modifyHead_modifyHead, ← ih]
    exact List.splitOnP_cons_eq_if_modifyHead ..

/-- The first item of a list has the marks of the list. -/
theorem listItems_marked (hcolon : ':' ∉ operand) (n : Nat) :
    ∃ item items, listItems (marked (n + 1) operand) = marked (n + 1) item :: items ∧
      ':' ∉ item := by
  obtain ⟨piece, pieces, hsplit⟩ :=
    List.exists_cons_of_ne_nil (List.splitOnP_ne_nil (· == ',') operand)
  have hpiece : piece <:+: operand := by
    refine Text.infix_of_mem_splitOnP (p := (· == ',')) ?_
    rw [hsplit]
    exact List.mem_cons_self
  refine ⟨Text.trimEnd piece, pieces.map Text.trim, ?_, fun hmem => ?_⟩
  · rw [listItems, splitOn_marked]
    change ((operand.splitOnP (· == ',')).modifyHead (marked (n + 1))).map Text.trim = _
    rw [hsplit, List.modifyHead_cons, List.map_cons, Text.trim,
      Text.trimStart_eq_self isBlank_of_head_marked, trimEnd_marked]
  · exact hcolon (hpiece.subset ((Text.trimEnd_isPrefix piece).subset hmem))

/-! ## One level -/

/-- A marked text is left to the dialects from negations on. -/
theorem chainVerdict_marked (hs : p.settings.chain = .standard)
    (htext : p.text = marked (n + 1) operand) (v : Value) (b : Bindings) :
    chainVerdict j p v b = firstVerdict j (.builtIn .negation :: behindNegation) p v b := by
  have hmem : '!' ∈ p.text := by
    rw [htext, marked_succ]
    exact List.mem_cons_self
  exact chainVerdict_of_mark (c := '!') hs (trim_ne_star (by decide) (by decide) hmem) (by decide)
    (by decide) hmem v b

/-- At the limit the text is taken as a whole. -/
theorem chainVerdict_atLimit (hs : p.settings.chain = .standard)
    (htext : p.text = marked (n + 1) operand) (hcan : p.canDerive = false) (v : Value)
    (b : Bindings) :
    chainVerdict j p v b = (wholeVerdict p.settings.ignoreCase p.text v, b) := by
  rw [chainVerdict_marked hs htext,
    firstVerdict_cons_of_indeterminate (verdictFrom_negation_atLimit hcan v b),
    firstVerdict_behindNegation (.inl hcan) (.inl hcan)]

/-- **A level above the limit turns around** what the level below it says. Only if that says
nothing, the dialects behind the negations are asked. -/
theorem chainVerdict_aboveLimit (hs : p.settings.chain = .standard) (hn : p.levels = n + 2)
    (htext : p.text = marked (m + 2) operand) {w : Verdict} {b' : Bindings}
    (h : chainVerdict (freshWithin n) (p.derive (marked (m + 1) operand)) v b = (w, b')) :
    chainVerdict (freshWithin (n + 1)) p v b =
      if w = .indeterminate then firstVerdict (freshWithin (n + 1)) behindNegation p v b'
      else (w.negate, b') := by
  have hcan : p.canDerive = true := (canDerive_iff_of_levels_eq hn).2 n.succ_pos
  have hoperand : operandOfNegation? p.text = some (marked (m + 1) operand) :=
    htext ▸ operandOfNegation?_marked m operand
  have hnegated := verdictFrom_operand (j := freshWithin (n + 1)) hcan hoperand v b
  rw [freshWithin_of_not_isRoot rfl, h] at hnegated
  rw [chainVerdict_marked hs htext]
  by_cases hw : w = .indeterminate
  · subst hw
    rw [if_pos rfl, firstVerdict_cons_of_indeterminate hnegated]
  · have hdetermined : w.negate ≠ .indeterminate := mt Verdict.negate_eq_indeterminate.1 hw
    rw [if_neg hw, firstVerdict_cons_of_determinate hnegated hdetermined]

/-! ## All levels -/

theorem iterate_negate_ne_indeterminate {w : Verdict} (hw : w ≠ .indeterminate) (n : Nat) :
    Verdict.negate^[n] w ≠ .indeterminate := by
  induction n with
  | zero => exact hw
  | succ n ih =>
    rw [Function.iterate_succ_apply']
    exact mt Verdict.negate_eq_indeterminate.1 ih

/-- **A verdict at the limit is turned around at every level above.** -/
theorem chainVerdict_of_atLimit (hs : p.settings.chain = .standard) (hn : p.levels = n + 1)
    (htext : p.text = marked (m + n + 1) operand)
    (h : wholeVerdict p.settings.ignoreCase (marked (m + 1) operand) v ≠ .indeterminate) :
    chainVerdict (freshWithin n) p v b =
      (Verdict.negate^[n] (wholeVerdict p.settings.ignoreCase (marked (m + 1) operand) v), b) := by
  induction n generalizing p with
  | zero =>
    rw [chainVerdict_atLimit hs htext (canDerive_of_levels_eq_one hn), htext]
    rfl
  | succ n ih =>
    have hbelow : chainVerdict (freshWithin n) (p.derive (marked (m + n + 1) operand)) v b =
        (Verdict.negate^[n] (wholeVerdict p.settings.ignoreCase (marked (m + 1) operand) v), b) :=
      ih (p := p.derive (marked (m + n + 1) operand)) hs (levels_derive_of_levels_eq hn _) rfl h
    rw [chainVerdict_aboveLimit hs hn htext hbelow, if_neg (iterate_negate_ne_indeterminate h n),
      Function.iterate_succ_apply']

/-- **The way back from the limit.** Without colons, a value that is no list is asked about at the
limit first and then at every level above, as long as nothing has been said. -/
theorem chainVerdict_open_iff (hs : p.settings.chain = .standard) (hcolon : ':' ∉ operand)
    (hv : ∀ vs, v ≠ .list vs) (hn : p.levels = n + 1)
    (htext : p.text = marked (m + n + 1) operand) :
    ∃ w, chainVerdict (freshWithin n) p v b = (w, b) ∧
      (w = .indeterminate ↔ ∀ i ≤ n,
        wholeVerdict p.settings.ignoreCase (marked (m + i + 1) operand) v = .indeterminate) := by
  induction n generalizing p with
  | zero =>
    refine ⟨_, chainVerdict_atLimit hs htext (canDerive_of_levels_eq_one hn) v b, ?_⟩
    simp [htext]
  | succ n ih =>
    obtain ⟨w, hbelow, hw⟩ := ih (p := p.derive (marked (m + n + 1) operand)) hs
      (levels_derive_of_levels_eq hn _) rfl
    have hturned := chainVerdict_aboveLimit hs hn htext hbelow
    by_cases hopen : w = .indeterminate
    · rw [if_pos hopen, firstVerdict_behindNegation (.inr hv)
        (.inr (htext ▸ not_mem_marked (by decide) hcolon)), htext] at hturned
      refine ⟨_, hturned, fun h i hi => ?_, fun h => h (n + 1) (Nat.le_refl _)⟩
      rcases Nat.le_succ_iff.1 hi with hi | rfl
      · exact hw.1 hopen i hi
      · exact h
    · rw [if_neg hopen] at hturned
      refine ⟨_, hturned, fun h => ?_, fun h => ?_⟩
      · exact absurd (Verdict.negate_eq_indeterminate.1 h) hopen
      · exact absurd (hw.2 fun i hi => h i (Nat.le_succ_of_le hi)) hopen

/-- **Nothing is said about a value without texts**, if nothing is said at the limit. -/
theorem chainVerdict_textless (hs : p.settings.chain = .standard) (hcolon : ':' ∉ operand)
    (hv : v.isTextless = true) (hn : p.levels = n + 1)
    (htext : p.text = marked (m + n + 1) operand)
    (h : wholeVerdict p.settings.ignoreCase (marked (m + 1) operand) v = .indeterminate) :
    chainVerdict (freshWithin n) p v b = (.indeterminate, b) := by
  induction n generalizing p v operand m with
  | zero =>
    rw [chainVerdict_atLimit hs htext (canDerive_of_levels_eq_one hn), htext]
    exact congrArg (·, b) h
  | succ n ih =>
    have htext' : p.text = marked (m + n + 2) operand := htext
    have hcolon' : ':' ∉ p.text := htext ▸ not_mem_marked (by decide) hcolon
    have hbelow := ih (p := p.derive (marked (m + n + 1) operand)) hs hcolon hv
      (levels_derive_of_levels_eq hn _) rfl h
    rw [chainVerdict_aboveLimit hs hn htext hbelow, if_pos rfl]
    by_cases hlist : ∃ vs, v = .list vs
    · obtain ⟨vs, rfl⟩ := hlist
      -- The elements are asked with as many marks, which are one more at the limit.
      obtain ⟨item, items, hitems, hitem⟩ := listItems_marked hcolon (m + n + 1)
      have hasked : ∀ w ∈ vs,
          asks (freshWithin (n + 1)) (p.derive (marked (m + n + 2) item)) w b = (false, b) := by
        intro w hw
        have htextless : w.isTextless = true := Value.isTextless_of_mem hw hv
        have hmarks : marked (m + n + 2) item = marked (m + 1 + n + 1) item := by
          rw [Nat.add_right_comm m 1 n]
        have hopen := ih (p := p.derive (marked (m + n + 2) item)) hs hitem htextless
          (levels_derive_of_levels_eq hn _) hmarks
          (wholeVerdict_marked (Value.ne_string_of_isTextless htextless) _ _ _)
        rw [asks, freshWithin_of_not_isRoot rfl, hopen]
        rfl
      have hcan : p.canDerive = true := (canDerive_iff_of_levels_eq hn).2 n.succ_pos
      rw [firstVerdict_behindNegation_list hcan hcolon', htext', hitems, List.map_cons,
        asksList_of_head hasked]
      rfl
    · rw [firstVerdict_behindNegation (.inr (not_exists.1 hlist)) (.inr hcolon'), htext',
        wholeVerdict_marked (Value.ne_string_of_isTextless hv)]

/-! ## Patterns of their own -/

/-- The pattern of a text with marks in front. -/
def negated (mode : Mode) (ignoreCase : Bool) (marks : Nat) (operand : List Char) : Pattern :=
  root (.standardWith mode ignoreCase) (marked marks operand)

variable {mode : Mode} {ignoreCase : Bool}

theorem verdict_negated (k : Nat) (operand : List Char) (v : Value) :
    ((negated mode ignoreCase k operand).run v).1 =
      (chainVerdict (freshWithin 256) (negated mode ignoreCase k operand) v []).1 :=
  verdict_root Chain.isBuiltIn_standard.isRegular _ v

/-- The verdict from the limit is turned around an even number of times. -/
theorem verdict_negated_of_atLimit {w : Verdict} (hw : w ≠ .indeterminate)
    (h : wholeVerdict ignoreCase (marked (m + 1) operand) v = w) :
    ((negated mode ignoreCase (m + 257) operand).run v).1 = w := by
  have heven : Verdict.negate^[256] = id :=
    Function.Involutive.iterate_even Verdict.negate_negate (by decide)
  subst h
  rw [verdict_negated, chainVerdict_of_atLimit (p := negated mode ignoreCase (m + 257) operand) rfl
    (n := 256) rfl rfl hw, heven]
  rfl

/-- **Beyond the limit.** What the dialects for whole texts say at the limit is the verdict. If they
say nothing there, the question stays open, unless a text or an element of a list is taken by one
of them on the way back, or there are colons. -/
theorem verdict_beyondLimit (mode : Mode) (ignoreCase : Bool) {k : Nat}
    (hk : Settings.defaultDepthLimit < k) (operand : List Char) (v : Value) :
    (wholeVerdict ignoreCase (marked (k - Settings.defaultDepthLimit) operand) v ≠ .indeterminate →
      ((negated mode ignoreCase k operand).run v).1 =
        wholeVerdict ignoreCase (marked (k - Settings.defaultDepthLimit) operand) v) ∧
    (':' ∉ operand → (∀ vs, v ≠ .list vs) →
      (((negated mode ignoreCase k operand).run v).1 = .indeterminate ↔
        ∀ i, k - Settings.defaultDepthLimit ≤ i → i ≤ k →
          wholeVerdict ignoreCase (marked i operand) v = .indeterminate)) ∧
    (':' ∉ operand → v.isTextless = true → (∃ vs, v = .list vs) →
      ((negated mode ignoreCase k operand).run v).1 = .indeterminate) := by
  obtain ⟨m, rfl⟩ : ∃ m, k = m + 257 := ⟨k - 257, (Nat.sub_add_cancel hk).symm⟩
  let p := negated mode ignoreCase (m + 257) operand
  have hlevels : p.levels = 257 := rfl
  have htext : p.text = marked (m + 256 + 1) operand := rfl
  have hlimit : m + 257 - Settings.defaultDepthLimit = m + 1 := Nat.add_sub_cancel (m + 1) 256
  rw [hlimit]
  refine ⟨fun h => verdict_negated_of_atLimit h rfl, fun hcolon hv => ?_, fun hcolon hv hlist => ?_⟩
  · obtain ⟨w, hw, hopen⟩ := chainVerdict_open_iff (p := p) (b := []) rfl hcolon hv hlevels htext
    rw [verdict_negated, hw, hopen]
    constructor
    · intro h i hmin hmax
      obtain ⟨d, rfl⟩ := Nat.exists_eq_add_of_le hmin
      rw [Nat.add_right_comm m 1 d]
      exact h d (by omega)
    · intro h i hi
      exact h (m + i + 1) (by omega) (by omega)
  · obtain ⟨vs, rfl⟩ := hlist
    rw [verdict_negated, chainVerdict_textless (p := p) rfl hcolon hv hlevels htext rfl]

/-- A number, in a list in a list. -/
def sampleList : Value := .list [.null, .list [.number (.ofNat 1)]]

theorem verdict_beyondLimit_samples :
    (Settings.defaultDepthLimit < 258 ∧ ':' ∉ ['1'] ∧ sampleList.isTextless = true ∧
      wholeVerdict true (marked (258 - Settings.defaultDepthLimit) ['1']) (.string "!!1") ≠
        .indeterminate) ∧
    ((negated .exact true 258 ['1']).run (.string "!!1")).1 =
      wholeVerdict true (marked (258 - Settings.defaultDepthLimit) ['1']) (.string "!!1") ∧
    ((negated .exact true 258 ['1']).run (.number (.ofNat 1))).1 = .indeterminate ∧
    ((negated .exact true 258 ['1']).run sampleList).1 = .indeterminate := by
  have hk : Settings.defaultDepthLimit < 258 := by decide
  have hcolon : ':' ∉ ['1'] := by decide
  have hwhole : wholeVerdict true (marked (258 - Settings.defaultDepthLimit) ['1'])
      (.string "!!1") ≠ .indeterminate := by
    decide +kernel
  obtain ⟨hatLimit, -, -⟩ := verdict_beyondLimit .exact true hk ['1'] (.string "!!1")
  obtain ⟨-, hnumber, -⟩ := verdict_beyondLimit .exact true hk ['1'] (.number (.ofNat 1))
  obtain ⟨-, -, hlist⟩ := verdict_beyondLimit .exact true hk ['1'] sampleList
  refine ⟨⟨hk, hcolon, rfl, hwhole⟩, hatLimit hwhole, ?_, hlist hcolon rfl ⟨_, rfl⟩⟩
  refine (hnumber hcolon (by simp)).2 fun i hmin _ => ?_
  have htwo : 2 ≤ i := hmin
  obtain ⟨n, rfl⟩ := Nat.exists_eq_add_of_le' htwo
  exact wholeVerdict_marked (by simp) _ n _

/-- A pattern beyond the limit that gives a verdict. -/
theorem verdict_beyondLimit_string :
    Settings.defaultDepthLimit < 258 ∧
      ((negated .exact true 258 ['1']).run (.string "x")).1 ≠ .indeterminate := by
  have hverdict : ((negated .exact true 258 ['1']).run (.string "x")).1 = .mismatch :=
    verdict_negated_of_atLimit (m := 1) (by decide) (by decide +kernel)
  exact ⟨by decide, by simp [hverdict]⟩

end Sift.Pattern
