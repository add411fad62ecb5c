import Sift.Proofs.Fields

/-!
# Texts that are taken as a whole

Globs and regular expressions ask texts, comparisons and ranges ask numbers, and none of the four
takes its own text apart. What they say about a value depends on nothing but the text and the case
setting (`Pattern.wholeVerdict`).

**Behind the negations** these four come first, with the lists among them. A text without colons is
of no further interest to the dialects behind them, and at the depth limit no text is.
-/

namespace Sift.Pattern

variable {p : Pattern} {j : Judge} {v : Value} {b : Bindings}

/-! ## The verdict of the four dialects -/

/-- What a text asks numbers: a comparison or a range. -/
def numberTest? (text : List Char) : Option (Number → Bool) :=
  match Grammar.complete Grammar.comparison text with
  | some c => some c.holds
  | none => (Grammar.complete Grammar.range text).map Interval.contains

/-- What a text asks texts: a glob that is not too large, or a regular expression. -/
def textTest? (ignoreCase : Bool) (text : List Char) : Option (List Char → Bool) :=
  match (Glob.ofText? ignoreCase text).filter Glob.fits with
  | some g => some g.covers
  | none => (Regex.ofText? text).map Regex.occurs

/-- The verdict of the dialects that take the text as a whole. -/
def wholeVerdict (ignoreCase : Bool) (text : List Char) : Value → Verdict
  | .number x => (numberTest? text).elim .indeterminate fun f => .ofBool (f x)
  | .string s => (textTest? ignoreCase text).elim .indeterminate fun f => .ofBool (f s.toList)
  | _ => .indeterminate

/-! ## Asking several dialects -/

theorem firstVerdict_append (front behind : List Matcher) :
    firstVerdict j (front ++ behind) p v b =
      if (firstVerdict j front p v b).1.isDeterminate then firstVerdict j front p v b
      else firstVerdict j behind p v (firstVerdict j front p v b).2 := by
  induction front generalizing b with
  | nil => rfl
  | cons m front ih =>
    simp only [List.cons_append, firstVerdict]
    by_cases h : (verdictFrom j p (m.read p) v b m).1.isDeterminate = true
    · simp only [if_pos h]
    · simp only [if_neg h]
      exact ih

theorem firstVerdict_append_of_indeterminate {front : List Matcher} {b' : Bindings}
    (h : firstVerdict j front p v b = (.indeterminate, b')) (behind : List Matcher) :
    firstVerdict j (front ++ behind) p v b = firstVerdict j behind p v b' := by
  rw [firstVerdict_append, h]
  rfl

/-- Dialects that leave the variables alone have the first determinate of their verdicts. -/
theorem firstVerdict_of_verdicts {ds : List Dialect} {w : Dialect → Verdict}
    (h : ∀ d ∈ ds, verdictOf j p (d.read p) v b d = (w d, b)) :
    firstVerdict j (ds.map .builtIn) p v b =
      (((ds.map w).find? Verdict.isDeterminate).getD .indeterminate, b) := by
  induction ds with
  | nil => rfl
  | cons d ds ih =>
    have hd : verdictFrom j p (Matcher.read p (.builtIn d)) v b (.builtIn d) = (w d, b) :=
      h d List.mem_cons_self
    have hds := ih fun d' hd' => h d' (List.mem_cons_of_mem d hd')
    simp only [List.map_cons, firstVerdict, hd, List.find?_cons, hds]
    cases (w d).isDeterminate <;> rfl

/-- The verdict of one of the four dialects. -/
def partVerdict (p : Pattern) (v : Value) : Dialect → Verdict
  | .glob => judgeGlob p.readGlob v
  | .comparison => judgeComparison p.readComparison v
  | .range => judgeRange p.readRange v
  | .regex => judgeRegex p.readRegex v
  | _ => .indeterminate

theorem wholeVerdict_eq (p : Pattern) (v : Value) :
    wholeVerdict p.settings.ignoreCase p.text v =
      (([.glob, .comparison, .range, .list, .regex].map (p.partVerdict v)).find?
        Verdict.isDeterminate).getD .indeterminate := by
  simp only [List.map_cons, List.map_nil, partVerdict, readGlob, readComparison, readRange,
    readRegex]
  cases v with
  | number x =>
    simp only [wholeVerdict, numberTest?]
    cases Grammar.complete Grammar.comparison p.text with
    | some c => simp [judgeGlob, judgeComparison, Verdict.isDeterminate]
    | none =>
      cases Grammar.complete Grammar.range p.text <;>
        simp [judgeGlob, judgeComparison, judgeRange, judgeRegex, Verdict.isDeterminate]
  | string s =>
    simp only [wholeVerdict, textTest?]
    cases (Glob.ofText? p.settings.ignoreCase p.text).filter Glob.fits with
    | some g => simp [judgeGlob, Verdict.isDeterminate]
    | none =>
      cases Regex.ofText? p.text <;>
        simp [judgeGlob, judgeComparison, judgeRange, judgeRegex, Verdict.isDeterminate]
  | _ =>
    simp [wholeVerdict, judgeGlob, judgeComparison, judgeRange, judgeRegex, Verdict.isDeterminate]

/-- **The four dialects, with the lists among them.** Lists have no say about other values, and
none at the depth limit. -/
theorem firstVerdict_whole (h : p.canDerive = false ∨ ∀ vs, v ≠ .list vs) :
    firstVerdict j ([.glob, .comparison, .range, .list, .regex].map .builtIn) p v b =
      (wholeVerdict p.settings.ignoreCase p.text v, b) := by
  rw [wholeVerdict_eq]
  refine firstVerdict_of_verdicts fun d hd => ?_
  simp only [List.mem_cons, List.not_mem_nil, or_false] at hd
  rcases hd with rfl | rfl | rfl | rfl | rfl
  · rfl
  · rfl
  · rfl
  · simp only [verdictOf, Dialect.read, readList, partVerdict]
    rcases h with h | h
    · simp only [h, Bool.false_eq_true, ↓reduceIte]
    · split
      · exact absurd rfl (h _)
      · rfl
  · rfl

/-! ## Behind the negations -/

theorem fieldGroups?_of_not_mem {text : List Char} (h : ':' ∉ text) : fieldGroups? text = none := by
  cases hg : fieldGroups? text with
  | none => rfl
  | some gs =>
    obtain ⟨-, htwo, hcolon⟩ := fieldGroups?_eq_some hg
    have hmem : gs[0] ∈ gs := List.getElem_mem (by omega)
    exact absurd ((infix_of_mem_fieldGroups? hg hmem).1.subset (hcolon _ hmem)) h

theorem pathAndRest?_of_not_mem {text : List Char} (h : ':' ∉ text) : pathAndRest? text = none := by
  cases hr : pathAndRest? text with
  | none => rfl
  | some r =>
    obtain ⟨path, htext, -⟩ := pathAndRest?_eq_some hr
    exact absurd (htext ▸ by simp) h

/-- Without a colon in the text, and at the depth limit, nothing is left for the last two
dialects. -/
theorem firstVerdict_composite (h : p.canDerive = false ∨ ':' ∉ p.text) :
    firstVerdict j ([.multiField, .property].map .builtIn) p v b = (.indeterminate, b) := by
  have hread : p.readFields = none ∧ p.readProperty = none := by
    rcases h with h | h
    · simp only [readFields, readProperty, h, Bool.false_eq_true, ↓reduceIte, and_self]
    · simp only [readFields, readProperty, fieldGroups?_of_not_mem h, pathAndRest?_of_not_mem h,
        Option.map_none, ite_self, and_self]
  refine firstVerdict_of_verdicts (w := fun _ => .indeterminate) fun d hd => ?_
  simp only [List.mem_cons, List.not_mem_nil, or_false] at hd
  rcases hd with rfl | rfl <;> simp only [verdictOf, Dialect.read, hread]

/-- The dialects that come behind the negations. -/
def behindNegation : List Matcher :=
  [.glob, .comparison, .range, .list, .regex, .multiField, .property].map .builtIn

theorem behindNegation_eq : behindNegation =
    [.glob, .comparison, .range, .list, .regex].map Matcher.builtIn ++
      [.multiField, .property].map .builtIn := rfl

/-- **What the text says as a whole counts**, unless a list is asked about its elements. -/
theorem firstVerdict_behindNegation_of_determinate
    (h : wholeVerdict p.settings.ignoreCase p.text v ≠ .indeterminate) :
    firstVerdict j behindNegation p v b = (wholeVerdict p.settings.ignoreCase p.text v, b) := by
  have hlist : ∀ vs, v ≠ .list vs := by
    rintro vs rfl
    exact h rfl
  rw [behindNegation_eq, firstVerdict_append, firstVerdict_whole (.inr hlist)]
  exact if_pos (decide_eq_true h)

/-- **Nothing else is said** about a value that is no list, without colons. -/
theorem firstVerdict_behindNegation (hv : p.canDerive = false ∨ ∀ vs, v ≠ .list vs)
    (hcolon : p.canDerive = false ∨ ':' ∉ p.text) :
    firstVerdict j behindNegation p v b = (wholeVerdict p.settings.ignoreCase p.text v, b) := by
  by_cases h : wholeVerdict p.settings.ignoreCase p.text v = .indeterminate
  · have hopen := firstVerdict_whole (j := j) (b := b) hv
    rw [h] at hopen ⊢
    rw [behindNegation_eq, firstVerdict_append_of_indeterminate hopen,
      firstVerdict_composite hcolon]
  · exact firstVerdict_behindNegation_of_determinate h

/-- **A list is asked about its elements**, without colons. -/
theorem firstVerdict_behindNegation_list (hcan : p.canDerive = true) (hcolon : ':' ∉ p.text)
    (vs : List Value) :
    firstVerdict j behindNegation p (.list vs) b =
      deferring (asksList j ((listItems p.text).map p.derive) vs p.settings.mode b) := by
  let asked := asksList j ((listItems p.text).map p.derive) vs p.settings.mode b
  have hfront : firstVerdict j ([.glob, .comparison, .range].map .builtIn) p (.list vs) b =
      (.indeterminate, b) := by
    refine firstVerdict_of_verdicts (w := fun _ => .indeterminate) fun d hd => ?_
    simp only [List.mem_cons, List.not_mem_nil, or_false] at hd
    rcases hd with rfl | rfl | rfl
    · simp [verdictOf, judgeGlob]
    · simp [verdictOf, judgeComparison]
    · simp [verdictOf, judgeRange]
  have hlist : firstVerdict j [.builtIn .list] p (.list vs) b = deferring asked := by
    rw [firstVerdict_singleton]
    simp only [verdictFrom, verdictOf, Matcher.read, Dialect.read, readList, if_pos hcan]
    rfl
  have hbehind : firstVerdict j [.builtIn .regex] p (.list vs) asked.2 =
      (.indeterminate, asked.2) := by
    rw [firstVerdict_singleton]
    simp [verdictFrom, verdictOf, judgeRegex]
  have hsplit : behindNegation = [.glob, .comparison, .range].map .builtIn ++
      ([.builtIn .list] ++ ([.builtIn .regex] ++ [.multiField, .property].map .builtIn)) := rfl
  rw [hsplit, firstVerdict_append_of_indeterminate hfront, firstVerdict_append, hlist]
  split_ifs with h
  · rfl
  · have hopen : deferring asked = (.indeterminate, asked.2) :=
      Prod.ext (by simpa [Verdict.isDeterminate] using h) rfl
    rw [hopen, firstVerdict_append_of_indeterminate hbehind, firstVerdict_composite (.inr hcolon)]

end Sift.Pattern
