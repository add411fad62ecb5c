import Mathlib.Data.List.Basic
import Sift.Proofs.FormLanguage
import Sift.Regex.Text

/-!
# Expressions that go on behind the end of the text

A dollar sign holds only where a text ends, so an expression that starts with one and then asks for
a character occurs in no text. A text that is read as a regular expression though it was meant for
a variable, such as `$x b`, is of this kind.

**Marks.** A search moves marks through an expression. A part without marks that is not started
stays as it is (`step_of_not_isLive`) and cannot be left (`exits_of_not_isLive`).

**Main result.** If every character of a text stands for itself but for dollar signs, and the text
starts with a dollar sign and another character, then it occurs in no text
(`occurs_of_dollar`).
-/

namespace Sift.Regex

/-! ## Marks -/

namespace Marked

variable {m r : Marked} {p : Place}

theorem exits_of_not_isLive (h : m.isLive = false) (p : Place) : m.exits p false = false := by
  cases m with
  | empty => rfl
  | look l => rfl
  | char s marked => exact h
  | concat live a b =>
    obtain rfl : live = false := h
    rfl
  | alternate live a b =>
    obtain rfl : live = false := h
    rfl
  | star live r =>
    obtain rfl : live = false := h
    rfl

theorem step_of_not_isLive (h : m.isLive = false) (p : Place) (c : Char) :
    m.step p false c = m := by
  cases m with
  | empty => rfl
  | look l => rfl
  | char s marked =>
    obtain rfl : marked = false := h
    rfl
  | concat live a b =>
    obtain rfl : live = false := h
    rfl
  | alternate live a b =>
    obtain rfl : live = false := h
    rfl
  | star live r =>
    obtain rfl : live = false := h
    rfl

theorem isLive_andThen (a b : Marked) : (andThen a b).isLive = (a.isLive || b.isLive) := rfl

theorem isLive_orElse (a b : Marked) : (orElse a b).isLive = (a.isLive || b.isLive) := rfl

theorem isLive_anyTimes (r : Marked) : (anyTimes r).isLive = r.isLive := rfl

theorem isLive_power (h : r.isLive = false) (fuel n : Nat) : (power r fuel n).isLive = false := by
  induction fuel generalizing n with
  | zero => rfl
  | succ fuel ih =>
    unfold power
    dsimp only
    split_ifs
    · rfl
    · exact h
    · rw [isLive_andThen, ih, Bool.or_self]
    · rw [isLive_andThen, isLive_andThen, h, ih, Bool.or_self, Bool.or_self]

end Marked

theorem isLive_unmarked (r : Regex) : r.unmarked.isLive = false := by
  induction r with
  | empty | look | char => rfl
  | concat a b iha ihb => rw [unmarked, Marked.isLive_andThen, iha, ihb, Bool.or_self]
  | alternate a b iha ihb => rw [unmarked, Marked.isLive_orElse, iha, ihb, Bool.or_self]
  | rounds r least most ih =>
    cases most with
    | none =>
      rw [unmarked, Marked.rounds, Marked.isLive_andThen, Marked.isLive_power ih,
        Marked.isLive_anyTimes, ih, Bool.or_self]
    | some most =>
      have hempty : (Marked.orElse r.unmarked .empty).isLive = false := by
        rw [Marked.isLive_orElse, ih]
        rfl
      rw [unmarked, Marked.rounds, Marked.isLive_andThen, Marked.isLive_power ih,
        Marked.isLive_power hempty, Bool.or_self]

/-! ## Expressions that need a character -/

/-- The end of the expression is not reached without reading a character. -/
def NeedsChar (r : Regex) : Prop := ∀ p, r.unmarked.exits p true = false

theorem needsChar_char (s : Unicode.CodeSet) : NeedsChar (.char s) := fun _ => rfl

theorem NeedsChar.concat {a : Regex} (ha : NeedsChar a) (b : Regex) : NeedsChar (.concat a b) := by
  intro p
  simp only [unmarked, Marked.andThen, Marked.exits, ha p,
    Marked.exits_of_not_isLive (isLive_unmarked b), Bool.and_false]

theorem NeedsChar.concatAll {a : Regex} (ha : NeedsChar a) (rest : List Regex) :
    NeedsChar (.concatAll (a :: rest)) := by
  cases rest with
  | nil => exact ha
  | cons b rest => exact ha.concat _

theorem needsChar_regexOfText (c : Char) (text : List Char) :
    NeedsChar (Form.regexOfText (c :: text)) :=
  (needsChar_char _).concatAll _

/-- **Nothing comes behind the end.** The search never sets a mark. -/
theorem occurs_behind_end {r : Regex} (hr : NeedsChar r) (text : List Char) :
    (Regex.concat (.look .textEnd) r).occurs text = false := by
  have hlive : r.unmarked.isLive = false := isLive_unmarked r
  have hunmarked : (Regex.concat (.look .textEnd) r).unmarked =
      .concat false (.look .textEnd) r.unmarked :=
    congrArg (fun live => Marked.concat live (.look .textEnd) r.unmarked) hlive
  unfold occurs
  rw [hunmarked]
  generalize (none : Option Char) = before
  induction text generalizing before with
  | nil => exact hr ⟨before, none⟩
  | cons c text ih =>
    have hexits : Marked.exits ⟨before, some c⟩ true
        (.concat false (.look .textEnd) r.unmarked) = false :=
      Marked.exits_of_not_isLive hlive _
    have hstep : Marked.step ⟨before, some c⟩ true c
        (.concat false (.look .textEnd) r.unmarked) =
          .andThen (.look .textEnd) r.unmarked :=
      congrArg (Marked.andThen (.look .textEnd)) (Marked.step_of_not_isLive hlive _ c)
    have hsame : Marked.andThen (.look .textEnd) r.unmarked =
        .concat false (.look .textEnd) r.unmarked := hunmarked
    rw [Marked.search, hexits, hstep, hsame, ih, Bool.or_self]

/-! ## Plain texts with dollar signs -/

namespace Reader

/-- A character without a meaning of its own is read as itself. -/
theorem expression_letter {c : Char} (hc : isMeta c = false) (fuel : Nat) (items : List Expression)
    (s : List Char) : expression (fuel + 1) ⟨false, [], items⟩ [] [] (c :: s) =
      expression fuel ⟨false, [], .atom (.letter ⟨c, false⟩) :: items⟩ [] [] s := by
  rw [expression]
  have hskip : skip false (c :: s) = c :: s := rfl
  simp only [hskip]
  -- All cases but the last one are about special characters, which `hc` rules out.
  split
  all_goals try (next heq => cases heq; exact absurd hc (by decide))
  · next heq => cases heq
  · next heq =>
    cases heq
    rfl

/-- What a character stands for, unless it is special. -/
def atomOf (c : Char) : Expression :=
  if c = '$' then .atom (.anchor .lineEnd) else .atom (.letter ⟨c, false⟩)

/-- The characters of a text stand for themselves, or for the end of the text. -/
theorem expression_eq {s : List Char} (hs : ∀ c ∈ s, c = '$' ∨ isMeta c = false) {fuel : Nat}
    (hfuel : s.length < fuel) (items : List Expression) :
    expression fuel ⟨false, [], items⟩ [] [] s =
      some (Progress.finish ⟨false, [], (s.map atomOf).reverse ++ items⟩) := by
  induction s generalizing fuel items with
  | nil =>
    obtain ⟨fuel, rfl⟩ : ∃ n, fuel = n + 1 := ⟨fuel - 1, by simp at hfuel; omega⟩
    rfl
  | cons c s ih =>
    obtain ⟨fuel, rfl⟩ : ∃ n, fuel = n + 1 := ⟨fuel - 1, by simp at hfuel; omega⟩
    have hrest := ih (fun d hd => hs d (List.mem_cons_of_mem c hd))
      (by simpa using hfuel : s.length < fuel) (atomOf c :: items)
    rw [List.map_cons, List.reverse_cons, List.append_assoc, List.singleton_append]
    rcases hs c List.mem_cons_self with rfl | hc
    · exact hrest
    · have hletter : atomOf c = .atom (.letter ⟨c, false⟩) :=
        if_neg (by rintro rfl; exact absurd hc (by decide))
      rw [hletter] at hrest ⊢
      rw [expression_letter hc]
      exact hrest

theorem depthOfList_map_atomOf (s : List Char) : Expression.depthOfList (s.map atomOf) = 0 := by
  induction s with
  | nil => rfl
  | cons c s ih =>
    have hatom : (atomOf c).depth = 0 := by
      unfold atomOf
      split_ifs <;> rfl
    rw [List.map_cons, Expression.depthOfList, hatom, ih]
    rfl

theorem read?_eq {c d : Char} {s : List Char}
    (hs : ∀ e ∈ c :: d :: s, e = '$' ∨ isMeta e = false) :
    read? (c :: d :: s) = some (.sequence ((c :: d :: s).map atomOf)) := by
  have hread := expression_eq hs (Nat.lt_succ_self _) []
  have hfinish : Progress.finish ⟨false, [], ((c :: d :: s).map atomOf).reverse ++ []⟩ =
      .sequence ((c :: d :: s).map atomOf) := by
    simp [Progress.finish, Progress.endBranch, Expression.ofItems, Expression.ofBranches]
  have hdepth : (Expression.sequence ((c :: d :: s).map atomOf)).depth ≤ Expression.maxDepth := by
    rw [Expression.depth, depthOfList_map_atomOf]
    decide
  rw [hfinish] at hread
  unfold read?
  change (expression _ ⟨false, [], []⟩ [] [] (c :: d :: s)).filter _ = _
  rw [hread, Option.filter_some, if_pos (decide_eq_true hdepth)]

end Reader

/-- The form of a character that stands for itself, or for the end of the text. -/
def Form.ofChar (c : Char) : Form := if c = '$' then .look .textEnd else .literal [c]

theorem meaning?_atomOf (c : Char) :
    (Reader.atomOf c).meaning? .initial = some (Form.ofChar c, .initial) := by
  unfold Reader.atomOf Form.ofChar
  split_ifs
  · rfl
  · have hset : Letter.set? .initial ⟨c, false⟩ = some (.range c.toNat c.toNat) := rfl
    simp only [Expression.meaning?, Atom.meaning?, hset, Option.map_some,
      Form.ofSet_range_self]

theorem meanings?_map_atomOf (s : List Char) :
    Expression.meanings? .initial (s.map Reader.atomOf) = some (s.map Form.ofChar, .initial) := by
  induction s with
  | nil => rfl
  | cons c s ih =>
    rw [List.map_cons, Expression.meanings?, meaning?_atomOf c]
    simp only [Option.bind_some]
    rw [ih]
    rfl

namespace Form

theorem parts_ofChar (c : Char) : (ofChar c).parts = [ofChar c] := by
  unfold ofChar
  split_ifs <;> rfl

/-- A literal in front of other forms stays in front. -/
theorem consPart_literal (c : Char) (fs : List Form) :
    ∃ text rest, consPart (literal [c]) fs = literal (c :: text) :: rest := by
  cases fs with
  | nil => exact ⟨[], [], rfl⟩
  | cons f fs =>
    cases f with
    | literal text => exact ⟨text, fs, rfl⟩
    | _ => exact ⟨[], _, rfl⟩

/-- A dollar sign and another character are the end of the text and a literal that begins with the
character. -/
theorem join_dollar {c : Char} (hc : c ≠ '$') (s : List Char) :
    ∃ text rest, join (('$' :: c :: s).map ofChar) =
      concat (look .textEnd :: literal (c :: text) :: rest) := by
  have hparts : (('$' :: c :: s).map ofChar).flatMap parts = ('$' :: c :: s).map ofChar := by
    simp only [List.flatMap_map, parts_ofChar]
    exact List.map_eq_flatMap.symm
  obtain ⟨text, rest, hfront⟩ :=
    consPart_literal c ((s.map ofChar).foldr consPart [])
  refine ⟨text, rest, ?_⟩
  have hchar : ofChar c = literal [c] := if_neg hc
  have hfold : (('$' :: c :: s).map ofChar).foldr consPart [] =
      look .textEnd :: literal (c :: text) :: rest := by
    rw [List.map_cons, List.map_cons, List.foldr_cons, List.foldr_cons, hchar, hfront]
    rfl
  rw [join, hparts, hfold]

end Form

/-- **A dollar sign and something plain occur in no text.** -/
theorem occurs_of_dollar {c : Char} {s : List Char} (hc : c ≠ '$')
    (hs : ∀ d ∈ c :: s, d = '$' ∨ Reader.isMeta d = false) {r : Regex}
    (hr : ofText? ('$' :: c :: s) = some r) (text : List Char) : r.occurs text = false := by
  have hread := Reader.read?_eq (c := '$') (d := c) (s := s)
    (List.forall_mem_cons.2 ⟨.inl rfl, hs⟩)
  have hmeaning := meanings?_map_atomOf ('$' :: c :: s)
  obtain ⟨front, rest, hjoin⟩ := Form.join_dollar hc s
  have hform : ofText? ('$' :: c :: s) =
      ofForm? (.concat (.look .textEnd :: .literal (c :: front) :: rest)) := by
    simp only [ofText?, hread, Option.bind_some, Expression.meaning?, hmeaning, Option.map_some,
      hjoin]
  -- An expression with an assertion has no list of matches to take its place.
  have hlisting : Form.listing? (.concat (.look .textEnd :: .literal (c :: front) :: rest)) =
      none := rfl
  rw [hform, ofForm?, hlisting] at hr
  split_ifs at hr with hfits
  · obtain rfl := Option.some.inj hr
    exact occurs_behind_end ((needsChar_regexOfText c front).concatAll _) text
  · cases hr

end Sift.Regex
