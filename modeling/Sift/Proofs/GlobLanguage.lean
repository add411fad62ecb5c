import Mathlib.Data.List.Basic
import Sift.Pattern.Glob

/-!
# One pass over a glob

A glob is matched in one pass over the text, which keeps for every place in the glob whether the
parts in front of it cover what has been read.

**Invariant.** What is left of the text decides the rest: the glob covers the whole text exactly if
the parts behind some live place cover what is left (`Lives`). Since any run may be empty, whenever
the place in front of a star is live, so is the one behind it (`Closed`). One more character keeps
both (`closed_advance`, `lives_advance`).

**Main result.** The pass decides the language of the glob (`covers_iff`).
-/

namespace Sift.Glob

variable {ic here reached live : Bool} {c : Char} {part : Part} {parts : List Part}
  {places : List Bool} {text rest : List Char}

/-! ## The language -/

theorem covers_anyRun_nil : Covers ic (.anyRun :: parts) [] ↔ Covers ic parts [] := by
  constructor
  · rintro ⟨run, rest, h, hcovers⟩
    obtain ⟨rfl, rfl⟩ := List.append_eq_nil_iff.1 h.symm
    exact hcovers
  · exact fun h => ⟨[], [], rfl, h⟩

/-- A star either takes the next character or is done. -/
theorem covers_anyRun_cons : Covers ic (.anyRun :: parts) (c :: rest) ↔
    Covers ic (.anyRun :: parts) rest ∨ Covers ic parts (c :: rest) := by
  constructor
  · rintro ⟨run, tail, h, hcovers⟩
    cases run with
    | nil => exact .inr (h ▸ hcovers)
    | cons d run =>
      obtain ⟨-, rfl⟩ := List.cons.inj h
      exact .inl ⟨run, tail, rfl, hcovers⟩
  · rintro (⟨run, tail, rfl, hcovers⟩ | hcovers)
    · exact ⟨c :: run, tail, rfl, hcovers⟩
    · exact ⟨[], c :: rest, rfl, hcovers⟩

theorem covers_anyRun_of_covers (h : Covers ic parts text) : Covers ic (.anyRun :: parts) text :=
  ⟨[], text, rfl, h⟩

theorem not_covers_nil_of_ne (h : part ≠ .anyRun) : ¬ Covers ic (part :: parts) [] := by
  cases part with
  | anyRun => exact absurd rfl h
  | anyOne => rintro ⟨c, rest, hnil, -⟩; cases hnil
  | char d => rintro ⟨c, rest, hnil, -⟩; cases hnil

/-- Any part but a star takes exactly one character. -/
theorem covers_cons_of_ne (h : part ≠ .anyRun) : Covers ic (part :: parts) (c :: rest) ↔
    part.accepts ic c = true ∧ Covers ic parts rest := by
  cases part with
  | anyRun => exact absurd rfl h
  | anyOne =>
    constructor
    · rintro ⟨d, tail, heq, hcovers⟩
      obtain ⟨-, rfl⟩ := List.cons.inj heq
      exact ⟨rfl, hcovers⟩
    · exact fun ⟨_, hcovers⟩ => ⟨c, rest, rfl, hcovers⟩
  | char d =>
    constructor
    · rintro ⟨e, tail, heq, hsame, hcovers⟩
      obtain ⟨rfl, rfl⟩ := List.cons.inj heq
      exact ⟨hsame, hcovers⟩
    · exact fun ⟨hsame, hcovers⟩ => ⟨c, rest, rfl, hsame, hcovers⟩

/-! ## Live places -/

/-- The parts behind some live place cover the text. -/
def Lives (ic : Bool) : List Part → List Bool → List Char → Prop
  | part :: parts, here :: places, text =>
    (here = true ∧ Covers ic (part :: parts) text) ∨ Lives ic parts places text
  | [], [here], text => here = true ∧ text = []
  | _, _, _ => False

/-- There is a place in front of every part and one behind the last, and a live place in front of a
star has a live one behind the star. -/
inductive Closed : List Part → List Bool → Prop
  | stop (here : Bool) : Closed [] [here]
  | part {part : Part} {parts : List Part} {here next : Bool} {places : List Bool} :
      (part = .anyRun → here = true → next = true) → Closed parts (next :: places) →
      Closed (part :: parts) (here :: next :: places)

theorem lives_of_head (h : Covers ic parts text) : ∀ {places}, Closed parts (true :: places) →
    Lives ic parts (true :: places) text
  | _, .stop _ => ⟨rfl, h⟩
  | _, .part _ _ => .inl ⟨rfl, h⟩

/-- Nothing is left: the place behind the glob decides. -/
theorem lives_nil (ic : Bool) (h : Closed parts places) : Lives ic parts places [] ↔
    places.getLastD false = true := by
  induction h with
  | stop here => exact and_iff_left rfl
  | @part part parts here next places hstar hclosed ih =>
    have hlast : (here :: next :: places).getLastD false = (next :: places).getLastD false := by
      simp
    rw [hlast, ← ih]
    refine or_iff_right_of_imp ?_
    rintro ⟨rfl, hcovers⟩
    by_cases hpart : part = .anyRun
    · subst hpart
      obtain rfl : next = true := hstar rfl rfl
      exact lives_of_head (covers_anyRun_nil.1 hcovers) hclosed
    · exact absurd hcovers (not_covers_nil_of_ne hpart)

/-! ## Before the text -/

theorem start_eq_cons (here : Bool) (parts : List Part) : ∃ places,
    start here parts = here :: places := by
  cases parts with
  | nil => exact ⟨[], rfl⟩
  | cons part parts => exact ⟨_, rfl⟩

theorem closed_start (here : Bool) (parts : List Part) : Closed parts (start here parts) := by
  induction parts generalizing here with
  | nil => exact .stop here
  | cons part parts ih =>
    obtain ⟨places, hplaces⟩ := start_eq_cons (here && part = .anyRun) parts
    have hclosed := ih (here && part = .anyRun)
    rw [start]
    rw [hplaces] at hclosed ⊢
    exact .part (fun hpart hhere => by simp [hpart, hhere]) hclosed

theorem lives_start (here : Bool) (parts : List Part) (text : List Char) :
    Lives ic parts (start here parts) text ↔ here = true ∧ Covers ic parts text := by
  induction parts generalizing here with
  | nil => exact Iff.rfl
  | cons part parts ih =>
    change _ ∨ Lives ic parts (start (here && part = .anyRun) parts) text ↔ _
    rw [ih]
    refine or_iff_left_of_imp ?_
    rintro ⟨h, hcovers⟩
    obtain ⟨hhere, hpart⟩ : here = true ∧ part = .anyRun := by simpa using h
    exact ⟨hhere, hpart ▸ covers_anyRun_of_covers hcovers⟩

/-! ## One more character -/

theorem advance_eq_cons (ic : Bool) (c : Char) (h : Closed parts (live :: places))
    (reached : Bool) : ∃ next places',
      advance ic c reached parts (live :: places) = next :: places' ∧
        (reached = true → next = true) := by
  cases h with
  | stop => exact ⟨reached, [], rfl, id⟩
  | part => exact ⟨_, _, rfl, fun h => by simp [h]⟩

/-- **Closure is kept**: a star that is reached has been passed as well. -/
theorem closed_advance (h : Closed parts places) (reached : Bool) :
    Closed parts (advance ic c reached parts places) := by
  induction h generalizing reached with
  | stop live => exact .stop reached
  | @part part parts live next places hstar hclosed ih =>
    rw [advance]
    generalize hpassed : ((live && part ≠ .anyRun && part.accepts ic c) ||
      ((reached || (live && part = .anyRun)) && part = .anyRun)) = passed
    obtain ⟨after, places', hadvance, hnext⟩ := advance_eq_cons ic c hclosed passed
    have hclosed' := ih passed
    rw [hadvance] at hclosed' ⊢
    refine .part (fun hpart hhere => hnext ?_) hclosed'
    rw [← hpassed, hhere, hpart]
    simp

/-- **One step.** What is left is covered from where the parts before the list have just been
passed, or it was covered, with the character, from a place that was live. -/
theorem lives_advance (h : Closed parts places) (reached : Bool) (rest : List Char) :
    Lives ic parts (advance ic c reached parts places) rest ↔
      (reached = true ∧ Covers ic parts rest) ∨ Lives ic parts places (c :: rest) := by
  induction h generalizing reached with
  | stop live => simp [advance, Lives, Covers]
  | @part part parts live next places hstar hclosed ih =>
    rw [advance]
    rw [Lives, Lives, ih]
    by_cases hpart : part = .anyRun
    · subst hpart
      -- The star takes the character, or it was done before and the place behind it was live.
      have hdone : live = true → Covers ic parts (c :: rest) →
          Lives ic parts (next :: places) (c :: rest) := fun hlive hcovers => by
        obtain rfl : next = true := hstar rfl hlive
        exact lives_of_head hcovers hclosed
      have hempty : Covers ic parts rest → Covers ic (.anyRun :: parts) rest :=
        covers_anyRun_of_covers
      simp only [decide_true, Bool.and_true, ne_eq, not_true_eq_false, decide_false,
        Bool.and_false, Bool.false_and, Bool.false_or, Bool.or_eq_true, covers_anyRun_cons]
      grind
    · simp only [hpart, decide_false, Bool.and_false, Bool.or_false, ne_eq, not_false_eq_true,
        decide_true, Bool.and_true, Bool.and_eq_true, covers_cons_of_ne hpart]
      grind

/-- The places after a text. -/
theorem lives_foldl (h : Closed parts places) (text rest : List Char) :
    Lives ic parts (text.foldl (fun places c => advance ic c false parts places) places) rest ↔
      Lives ic parts places (text ++ rest) := by
  induction text generalizing places with
  | nil => exact Iff.rfl
  | cons c text ih =>
    rw [List.foldl_cons, ih (closed_advance h false), lives_advance h, List.cons_append]
    simp

theorem closed_foldl (h : Closed parts places) (text : List Char) :
    Closed parts (text.foldl (fun places c => advance ic c false parts places) places) := by
  induction text generalizing places with
  | nil => exact h
  | cons c text ih => exact ih (closed_advance h false)

/-- **One pass decides the language of a glob.** -/
theorem covers_iff (g : Glob) (text : List Char) :
    g.covers text = true ↔ Covers g.ignoreCase g.parts text := by
  have hclosed := closed_start true g.parts
  rw [covers, ← lives_nil g.ignoreCase (closed_foldl hclosed text), lives_foldl hclosed,
    lives_start, List.append_nil]
  exact and_iff_right rfl

end Sift.Glob
