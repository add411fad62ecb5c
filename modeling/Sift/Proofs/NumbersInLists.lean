import Sift.Proofs.NumberTests

/-!
# Numbers in nested lists

A comparison or a range that is no negation asks the numbers in lists of lists. At every level the
text is an item of a list once more, without the space around it, which is no part of what it says.

**Numbers in values.** In inclusive mode a number anywhere in the lists is enough
(`Value.HoldsNumber`). In exact mode the value is a number in lists of one element each
(`Value.WrapsNumber`). Either relation is what its mode looks for, level by level
(`Mode.Locates`).

**Texts.** What reads as a comparison or a range has a core that starts and ends with parts of the
phrase, with nothing but space around it (`Pattern.NumberTest.exists_core`).

**Main result.** Patterns of such texts match the values that hold, or wrap, a number that passes,
as long as lists are not nested deeper than patterns are (`Pattern.isMatch_numbers`). In the deepest
lists that are covered, numbers are asked by patterns that no other can be derived from.
-/

namespace Sift

/-! ## Numbers in values -/

namespace Value

/-- The number stands in the value: it is the value, or stands in an element of a list. -/
inductive HoldsNumber (x : Number) : Value → Prop
  | here : HoldsNumber x (number x)
  | inside {v : Value} {vs : List Value} : v ∈ vs → HoldsNumber x v → HoldsNumber x (list vs)

/-- The value is the number, in any number of lists of one element. -/
inductive WrapsNumber (x : Number) : Value → Prop
  | here : WrapsNumber x (number x)
  | inside {v : Value} : WrapsNumber x v → WrapsNumber x (list [v])

/-- The value is made of nothing but numbers and lists. -/
inductive IsNumeric : Value → Prop
  | number (x : Number) : IsNumeric (number x)
  | list {vs : List Value} : (∀ v ∈ vs, IsNumeric v) → IsNumeric (list vs)

variable {v : Value} {vs : List Value}

theorem areTextless_iff : areTextless vs = true ↔ ∀ v ∈ vs, v.isTextless = true := by
  induction vs with
  | nil => exact iff_of_true rfl (List.forall_mem_nil _)
  | cons v vs ih => rw [areTextless, Bool.and_eq_true, ih, List.forall_mem_cons]

theorem IsNumeric.isTextless (h : v.IsNumeric) : v.isTextless = true := by
  induction h with
  | number x => rfl
  | list _ ih => exact areTextless_iff.2 ih

end Value

/-- The values that stand in the relation to a number are those in which the mode finds it. -/
structure Mode.Locates (mode : Mode) (P : Number → Value → Prop) : Prop where
  number {x y : Number} : P x (.number y) ↔ x = y
  list {x : Number} {vs : List Value} :
    P x (.list vs) ↔ ∃ w ∈ vs, (mode = .exact → vs = [w]) ∧ P x w
  other {x : Number} {v : Value} : (∀ y, v ≠ .number y) → (∀ vs, v ≠ .list vs) → ¬P x v

theorem Mode.locates_holdsNumber : Mode.inclusive.Locates Value.HoldsNumber where
  number := by
    intro x y
    constructor
    · rintro ⟨⟩
      rfl
    · rintro rfl
      exact .here
  list := by
    intro x vs
    constructor
    · rintro (- | ⟨hmem, h⟩)
      exact ⟨_, hmem, nofun, h⟩
    · rintro ⟨w, hmem, -, h⟩
      exact .inside hmem h
  other := by
    rintro x v hnumber hlist (- | -)
    · exact hnumber x rfl
    · exact hlist _ rfl

theorem Mode.locates_wrapsNumber : Mode.exact.Locates Value.WrapsNumber where
  number := by
    intro x y
    constructor
    · rintro ⟨⟩
      rfl
    · rintro rfl
      exact .here
  list := by
    intro x vs
    constructor
    · rintro (- | h)
      exact ⟨_, List.mem_singleton_self _, fun _ => rfl, h⟩
    · rintro ⟨w, -, hvs, h⟩
      exact hvs rfl ▸ .inside h
  other := by
    rintro x v hnumber hlist (- | -)
    · exact hnumber x rfl
    · exact hlist _ rfl

/-- **A value passes if a number that passes is found in it**, as long as the levels last. -/
theorem Value.passes_iff {P : Number → Value → Prop} {mode : Mode} (hP : mode.Locates P)
    {f : Number → Bool} {levels : Nat} {v : Value} (h : v.nesting ≤ levels) :
    v.passes f mode levels = true ↔ ∃ x, P x v ∧ f x = true := by
  have hnumber : ∀ y, f y = true ↔ ∃ x, P x (number y) ∧ f x = true := by simp [hP.number]
  have hother : ∀ {w : Value}, (∀ y, w ≠ .number y) → (∀ vs, w ≠ .list vs) →
      ¬∃ x, P x w ∧ f x = true := by
    rintro w hne hne' ⟨x, hx, -⟩
    exact hP.other hne hne' hx
  induction levels generalizing v with
  | zero =>
    cases v with
    | number y => exact hnumber y
    | list vs => cases h
    | _ => exact iff_of_false Bool.false_ne_true (hother nofun nofun)
  | succ levels ih =>
    cases v with
    | number y => exact hnumber y
    | list vs =>
      have helement : ∀ w ∈ vs, w.passes f mode levels = true ↔ ∃ x, P x w ∧ f x = true :=
        fun w hw => ih (Nat.le_of_lt_succ (Nat.lt_of_lt_of_le (nesting_lt_of_mem hw) h))
      change mode.finds (passes f mode levels) vs = true ↔ _
      simp only [Mode.finds_iff, hP.list]
      constructor
      · rintro ⟨w, hw, hvs, hpasses⟩
        obtain ⟨x, hx, hf⟩ := (helement w hw).1 hpasses
        exact ⟨x, ⟨w, hw, hvs, hx⟩, hf⟩
      · rintro ⟨x, ⟨w, hw, hvs, hx⟩, hf⟩
        exact ⟨w, hw, hvs, (helement w hw).2 ⟨x, hx, hf⟩⟩
    | _ => exact iff_of_false Bool.false_ne_true (hother nofun nofun)

/-! ## Space around texts -/

namespace Text

variable {before s after : List Char}

/-- Blanks around a text are trimmed away, and nothing else. -/
theorem trim_surrounded (hbefore : ∀ c ∈ before, isBlank c = true)
    (hafter : ∀ c ∈ after, isBlank c = true) (hne : s ≠ [])
    (hstart : ∀ c ∈ s.head?, isBlank c = false) (hend : ∀ c ∈ s.getLast?, isBlank c = false) :
    trim (before ++ (s ++ after)) = s := by
  have hhead : trimStart (s ++ after) = s ++ after :=
    trimStart_eq_self (by rwa [List.head?_append_of_ne_nil _ hne])
  have hlast : trimStart s.reverse = s.reverse :=
    trimStart_eq_self (by rwa [List.head?_reverse])
  have hreverse : ∀ c ∈ after.reverse, isBlank c = true := fun c hc =>
    hafter c (List.mem_reverse.1 hc)
  unfold trimStart at hhead hlast
  rw [trim, trimStart, List.dropWhile_append_of_pos hbefore, hhead, trimEnd, List.reverse_append,
    List.dropWhile_append_of_pos hreverse, hlast, List.reverse_reverse]

theorem isBlank_of_isSpace {c : Char} (h : Grammar.isSpace c = true) : isBlank c = true :=
  Grammar.of_isSpace (P := fun c => isBlank c = true) rfl rfl rfl rfl h

end Text

namespace Pattern

open Grammar

variable {f : Number → Bool} {t s : List Char} {p : Pattern} {v : Value}

/-! ## Texts that ask numbers -/

/-- A text that starts and ends with what belongs to a phrase about numbers. -/
structure IsNumberCore (s : List Char) : Prop where
  chars : ∀ c ∈ s, c.isDigit = true ∨ isSpace c = true ∨ c ∈ ['-', '.'] ++ operatorChars
  start : ∀ c ∈ s.head?, Text.isBlank c = false
  last : ∃ r d, s = r ++ [d] ∧ d.isDigit = true

theorem last_numberText (n : NumberPhrase) : ∃ r d, n.text = r ++ [d] ∧ d.isDigit = true := by
  have hrun : ∀ x : Run Char.isDigit, ∃ r d, x.chars = r ++ [d] ∧ d.isDigit = true := by
    intro x
    obtain ⟨r, d, hx⟩ := List.eq_nil_or_concat' x.chars |>.resolve_left x.ne_nil
    exact ⟨r, d, hx, x.all d (hx ▸ by simp)⟩
  obtain ⟨negative, whole, fraction⟩ := n
  rw [NumberPhrase.text, NumberPhrase.unsignedText]
  cases fraction with
  | none =>
    obtain ⟨r, d, hr, hd⟩ := hrun whole
    exact ⟨_, d, by rw [hr, Option.elim_none, List.append_nil, ← List.append_assoc], hd⟩
  | some digits =>
    obtain ⟨r, d, hr, hd⟩ := hrun digits
    refine ⟨(if negative then ['-'] else []) ++ (whole.chars ++ '.' :: r), d, ?_, hd⟩
    simp [hr]

/-- What a text that is a whole comparison or a whole range asks numbers. -/
inductive NumberTest (t : List Char) : (Number → Bool) → Prop
  | comparison {c : Comparison} : complete comparison t = some c → NumberTest t c.holds
  | range {i : Interval} : complete range t = some i → NumberTest t i.contains

theorem NumberTest.numberTest?_eq (h : NumberTest t f) : numberTest? t = some f := by
  cases h with
  | comparison hc => rw [numberTest?, hc]
  | range hi =>
    obtain ⟨d, hd, -⟩ := (readBy_rangeLanguage.complete_eq_some_iff t _).1 hi
    have hnone : complete Grammar.comparison t = none := by
      cases hc : complete Grammar.comparison t with
      | none => rfl
      | some c =>
        obtain ⟨e, he, -⟩ := (readBy_comparisonLanguage.complete_eq_some_iff t c).1 hc
        exact absurd (hd.trans he.symm) (d.text_ne e)
    rw [numberTest?, hnone, hi]
    rfl

theorem mem_coreChars_numberText {n : NumberPhrase} {c : Char} (h : c ∈ n.text) :
    c.isDigit = true ∨ isSpace c = true ∨ c ∈ ['-', '.'] ++ operatorChars :=
  (mem_numberText h).imp_right fun h => .inr (List.mem_append_left _ h)

theorem isBlank_head_numberText (n : NumberPhrase) (s : List Char) :
    ∀ c ∈ (n.text ++ s).head?, Text.isBlank c = false := by
  intro c hc
  rcases n.head_append s c hc with rfl | hdigit
  · rfl
  · exact (isForeign_of_isDigit hdigit).1

/-- A number, with something in front that is not blank at its start. -/
theorem IsNumberCore.append_number {r : List Char} (n : NumberPhrase)
    (hchars : ∀ c ∈ r, c.isDigit = true ∨ isSpace c = true ∨ c ∈ ['-', '.'] ++ operatorChars)
    (hstart : ∀ c ∈ (r ++ n.text).head?, Text.isBlank c = false) : IsNumberCore (r ++ n.text) where
  chars c hc := (List.mem_append.1 hc).elim (hchars c) mem_coreChars_numberText
  start := hstart
  last := by
    obtain ⟨r', d, hr, hd⟩ := last_numberText n
    exact ⟨r ++ r', d, by rw [hr, List.append_assoc], hd⟩

theorem chars_mem_spellingsOf (o : OperatorPhrase) : o.chars ∈ spellingsOf o.operator := by
  obtain ⟨operator, chars, hmem⟩ := o
  cases operator with
  | eq => exact List.mem_cons_of_mem _ hmem
  | _ => exact hmem

theorem isBlank_head_operator (o : OperatorPhrase) (s : List Char) :
    ∀ c ∈ (o.chars ++ s).head?, Text.isBlank c = false := by
  have hall : ∀ c ∈ operatorChars, Text.isBlank c = false := by simp [operatorChars]; decide
  obtain ⟨d, r, hchars, -⟩ := head_of_mem_operatorTexts o.mem
  have hd : d ∈ operatorChars :=
    mem_operatorChars (chars_mem_spellingsOf o) d (hchars ▸ List.mem_cons_self)
  rw [hchars]
  exact fun c hc => Option.some.inj hc ▸ hall d hd

/-- **Space around a comparison or a range is no part of what it says.** -/
theorem NumberTest.exists_core (h : NumberTest t f) : ∃ (before after : Space) (s : List Char),
    t = before.chars ++ (s ++ after.chars) ∧ IsNumberCore s ∧ NumberTest s f := by
  let none : Space := ⟨[], List.forall_mem_nil _⟩
  cases h with
  | comparison hc =>
    obtain ⟨⟨before, operator, between, n, after⟩, rfl, rfl⟩ :=
      (readBy_comparisonLanguage.complete_eq_some_iff t _).1 hc
    cases operator with
    | none =>
      -- Without an operator, all space stands in front of the number.
      have hspace : ∀ c ∈ before.chars ++ between.chars, isSpace c = true :=
        List.forall_mem_append.2 ⟨before.all, between.all⟩
      refine ⟨⟨_, hspace⟩, after, n.text, ?_, ?_, .comparison ?_⟩
      · simp [comparisonLanguage, ComparisonPhrase.text]
      · exact .append_number (r := []) n (List.forall_mem_nil _)
          (by simpa using isBlank_head_numberText n [])
      · exact complete_comparison (o := .eq) (s := []) (by decide) n
    | some o =>
      have hcore := (readBy_comparisonLanguage.complete_eq_some_iff _ _).2
        ⟨⟨none, some o, between, n, none⟩, rfl, rfl⟩
      have htext : comparisonLanguage.text ⟨none, some o, between, n, none⟩ =
          (o.chars ++ between.chars) ++ n.text := by
        simp [comparisonLanguage, ComparisonPhrase.text, none]
      rw [htext] at hcore
      refine ⟨before, after, _, ?_, .append_number n ?_ ?_, .comparison hcore⟩
      · simp [comparisonLanguage, ComparisonPhrase.text]
      · refine List.forall_mem_append.2 ⟨fun c hc => .inr (.inr ?_), fun c hc =>
          .inr (.inl (between.all c hc))⟩
        exact List.mem_append_right _ (mem_operatorChars (chars_mem_spellingsOf o) c hc)
      · rw [List.append_assoc]
        exact isBlank_head_operator o _
  | range hi =>
    obtain ⟨⟨before, low, beforeDash, afterDash, high, after⟩, rfl, rfl⟩ :=
      (readBy_rangeLanguage.complete_eq_some_iff t _).1 hi
    have hcore := (readBy_rangeLanguage.complete_eq_some_iff _ _).2
      ⟨⟨none, low, beforeDash, afterDash, high, none⟩, rfl, rfl⟩
    have htext : rangeLanguage.text ⟨none, low, beforeDash, afterDash, high, none⟩ =
        (low.text ++ (beforeDash.chars ++ '-' :: afterDash.chars)) ++ high.text := by
      simp [rangeLanguage, RangePhrase.text, none]
    rw [htext] at hcore
    refine ⟨before, after, _, ?_, .append_number high ?_ ?_, .range hcore⟩
    · simp [rangeLanguage, RangePhrase.text]
    · simp only [List.forall_mem_append, List.forall_mem_cons]
      exact ⟨fun c hc => mem_coreChars_numberText hc, fun c hc => .inr (.inl (beforeDash.all c hc)),
        .inr (.inr (by decide)), fun c hc => .inr (.inl (afterDash.all c hc))⟩
    · rw [List.append_assoc]
      exact isBlank_head_numberText low _

/-- The characters of a core are none of those that other dialects look for. -/
theorem not_mem_of_coreChar {c : Char}
    (h : c.isDigit = true ∨ isSpace c = true ∨ c ∈ ['-', '.'] ++ operatorChars) :
    c ∉ [',', ':', '$'] := by
  have hall : ∀ c ∈ ['-', '.'] ++ operatorChars, c ∉ [',', ':', '$'] := by
    simp [operatorChars]
  rcases h with h | h | h
  · have hnone : ∀ d ∈ [',', ':', '$'], d.isDigit = false := by simp
    exact fun hmem => ne_of_isDigit h (hnone c hmem) rfl
  · exact of_isSpace (P := fun c => c ∉ [',', ':', '$']) (by decide) (by decide) (by decide)
      (by decide) h
  · exact hall c h

theorem IsNumberCore.exists_digit (hs : IsNumberCore s) : ∃ c ∈ s, c.isDigit = true := by
  obtain ⟨r, d, rfl, hd⟩ := hs.last
  exact ⟨d, by simp, hd⟩

theorem IsNumberCore.trim_surrounded (hs : IsNumberCore s) (before after : Space) :
    Text.trim (before.chars ++ (s ++ after.chars)) = s := by
  obtain ⟨r, d, hr, hd⟩ := hs.last
  refine Text.trim_surrounded (fun c hc => Text.isBlank_of_isSpace (before.all c hc))
    (fun c hc => Text.isBlank_of_isSpace (after.all c hc)) (by simp [hr]) hs.start ?_
  intro c hc
  rw [hr, List.getLast?_concat] at hc
  exact Option.some.inj hc ▸ (isForeign_of_isDigit hd).1

/-- **A comparison or a range asks numbers**, with the space around it and without. -/
theorem NumberTest.asksNumbers (h : NumberTest t f) :
    AsksNumbers f t ∧ IsNumberText f (Text.trim t) := by
  obtain ⟨before, after, s, ht, hs, hcore⟩ := h.exists_core
  obtain ⟨d, hmem, hd⟩ := hs.exists_digit
  have hplain : ∀ c ∈ [',', ':', '$'], c ∉ t := by
    intro c hc hmem
    refine not_mem_of_coreChar ?_ hc
    rw [ht, List.mem_append, List.mem_append] at hmem
    rcases hmem with hmem | hmem | hmem
    · exact .inr (.inl (before.all c hmem))
    · exact hs.chars c hmem
    · exact .inr (.inl (after.all c hmem))
  have htrim : Text.trim t = s := ht ▸ hs.trim_surrounded before after
  refine ⟨⟨h.numberTest?_eq, ⟨d, by simp [ht, hmem], hd⟩, hplain⟩, ?_⟩
  rw [htrim]
  refine ⟨⟨hcore.numberTest?_eq, ⟨d, hmem, hd⟩, fun c hc hmem => ?_⟩, ?_⟩
  · exact not_mem_of_coreChar (hs.chars c hmem) hc
  · simpa using hs.trim_surrounded ⟨[], List.forall_mem_nil _⟩ ⟨[], List.forall_mem_nil _⟩

/-! ## Values that match -/

/-- Trimming leaves the first character that is not blank where it is. -/
theorem head?_trimStart_trim (hne : Text.trim t ≠ []) :
    (Text.trimStart (Text.trim t)).head? = (Text.trimStart t).head? := by
  obtain ⟨r, hr⟩ : Text.trim t <+: Text.trimStart t := Text.trimEnd_isPrefix _
  have hhead : (Text.trim t).head? = (Text.trimStart t).head? := by
    rw [← hr, List.head?_append_of_ne_nil _ hne]
  have hstart : ∀ c ∈ (Text.trim t).head?, Text.isBlank c = false := by
    intro c hc
    have hsolid := List.head?_dropWhile_not Text.isBlank t
    rw [hhead, Text.trimStart, Option.mem_def] at hc
    rwa [hc] at hsolid
  rw [Text.trimStart_eq_self hstart, hhead]

/-- A comparison or a range that is no negation matches the values in which its mode finds a
number that passes. -/
theorem isMatch_locates {mode : Mode} {P : Number → Value → Prop} (hP : mode.Locates P)
    (h : NumberTest t f) (hmark : (Text.trimStart t).head? ≠ some '!')
    (hv : v.isTextless = true) (hnesting : v.nesting ≤ 256) (ignoreCase : Bool) :
    (root (.standardWith mode ignoreCase) t).isMatch v = true ↔ ∃ x, P x v ∧ f x = true := by
  obtain ⟨hasks, htrimmed⟩ := h.asksNumbers
  have hne : Text.trim t ≠ [] := by
    obtain ⟨c, hc, -⟩ := htrimmed.digit
    exact List.ne_nil_of_mem hc
  let p := root (.standardWith mode ignoreCase) t
  have hinner : ∀ k, 256 = k + 1 → ∀ w : Value, w.isTextless = true → ∀ b,
      freshWithin 256 (p.derive (Text.trim t)) w b = (w.tested f mode k, b) := by
    intro k hk w hw b
    obtain rfl : 255 = k := Nat.succ.inj hk
    rw [freshWithin_of_not_isRoot rfl]
    exact chainVerdict_tested (p := p.derive (Text.trim t)) rfl htrimmed
      (operandOfNegation?_eq_none ((head?_trimStart_trim hne).symm ▸ hmark)) (n := 255) rfl hw b
  have hroot : p.isMatch v = true ↔ (chainVerdict (freshWithin 256) p v []).1 = .isMatch :=
    isMatch_root_iff Chain.isBuiltIn_standard.isRegular _ v
  rw [hroot, chainVerdict_level (p := p) rfl hasks (operandOfNegation?_eq_none hmark) (n := 256)
    rfl hv hinner, Value.tested_eq_isMatch_iff]
  exact Value.passes_iff hP hnesting

/-- **Numbers in nested lists.** A comparison or a range that is no negation matches, in inclusive
mode, the values of numbers and lists that hold a number that passes, and in exact mode those that
wrap one. -/
theorem isMatch_numbers (h : NumberTest t f) (hmark : (Text.trimStart t).head? ≠ some '!')
    (hv : v.IsNumeric) (hnesting : v.nesting ≤ 256) (ignoreCase : Bool) :
    ((root (.standardWith .inclusive ignoreCase) t).isMatch v = true ↔
      ∃ x, v.HoldsNumber x ∧ f x = true) ∧
    ((root (.standardWith .exact ignoreCase) t).isMatch v = true ↔
      ∃ x, v.WrapsNumber x ∧ f x = true) :=
  ⟨isMatch_locates Mode.locates_holdsNumber h hmark hv.isTextless hnesting ignoreCase,
    isMatch_locates Mode.locates_wrapsNumber h hmark hv.isTextless hnesting ignoreCase⟩

/-- A number in as many lists as patterns are nested. -/
def deepNumber (x : Number) : Value := (fun v => .list [v])^[256] (.number x)

theorem wrapped_number (n : Nat) (x : Number) :
    let v := (fun v => Value.list [v])^[n] (.number x)
    v.IsNumeric ∧ v.nesting = n ∧ v.WrapsNumber x := by
  induction n with
  | zero => exact ⟨.number x, rfl, .here⟩
  | succ n ih =>
    obtain ⟨hnumeric, hnesting, hwraps⟩ := ih
    simp only [Function.iterate_succ_apply']
    refine ⟨.list (List.forall_mem_singleton.2 hnumeric), ?_, .inside hwraps⟩
    rw [Value.nesting, Value.nestingOfList, Value.nestingOfList, hnesting, Nat.max_zero]

/-- Two numbers, one of which would be enough. -/
def numberPair : Value := .list [.number (.ofNat 3), .number (.ofNat 5)]

/-- A range with space around it and in it. -/
def spacedRange : List Char := " 2 - 4 ".toList

theorem isMatch_numbers_spacedRange :
    (NumberTest spacedRange (Interval.contains ⟨.ofNat 2, .ofNat 4⟩) ∧
      (Text.trimStart spacedRange).head? ≠ some '!' ∧
      (deepNumber (.ofNat 3)).IsNumeric ∧ (deepNumber (.ofNat 3)).nesting ≤ 256 ∧
      numberPair.IsNumeric ∧ numberPair.nesting ≤ 256) ∧
    (root (.standardWith .exact true) spacedRange).isMatch (deepNumber (.ofNat 3)) = true ∧
    (root (.standardWith .inclusive true) spacedRange).isMatch numberPair = true ∧
    (root (.standardWith .exact true) spacedRange).isMatch numberPair = false := by
  have htest : NumberTest spacedRange (Interval.contains ⟨.ofNat 2, .ofNat 4⟩) := .range rfl
  have hmark : (Text.trimStart spacedRange).head? ≠ some '!' := by decide
  have hpasses : Interval.contains ⟨.ofNat 2, .ofNat 4⟩ (.ofNat 3) = true := by decide +kernel
  obtain ⟨hdeep, hnesting, hwraps⟩ := wrapped_number 256 (.ofNat 3)
  have hpair : numberPair.IsNumeric :=
    .list (List.forall_mem_cons.2 ⟨.number _, List.forall_mem_singleton.2 (.number _)⟩)
  obtain ⟨-, hexact⟩ := isMatch_numbers htest hmark hdeep hnesting.le true
  obtain ⟨hinclusive, hexact'⟩ := isMatch_numbers htest hmark hpair (by decide) true
  refine ⟨⟨htest, hmark, hdeep, hnesting.le, hpair, by decide⟩, hexact.2 ⟨_, hwraps, hpasses⟩,
    hinclusive.2 ⟨_, .inside List.mem_cons_self .here, hpasses⟩, ?_⟩
  rw [← Bool.not_eq_true, hexact']
  rintro ⟨x, ⟨⟩, -⟩

end Pattern

end Sift
