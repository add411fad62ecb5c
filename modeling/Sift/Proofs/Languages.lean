import Sift.Proofs.NumberPhrases

/-!
# The languages of comparisons, ranges and variables

Space may stand around the parts of these phrases. The dash of a range is also the sign of a number,
and some operators start like others, but neither leaves a choice: a dash behind a number is no part
of it, and no number starts with an equality sign.

**Main result.** The readers of numbers, comparisons, ranges and variables read their languages, and
no text is a whole phrase of two of the last three (`readBy_languages`).
-/

namespace Sift.Grammar

/-! ## Space around numbers -/

theorem isSpace_eq_false {c : Char} (h : c = '-' ∨ c.isDigit = true) : isSpace c = false := by
  rcases h with rfl | h
  · rfl
  · by_contra hspace
    have hdigit : c.isDigit = false :=
      of_isSpace (P := fun c => c.isDigit = false) rfl rfl rfl rfl (Bool.not_eq_false _ ▸ hspace)
    rw [hdigit] at h
    cases h

theorem Space.endsNumber_append (x : Space) {s : List Char} (h : EndsNumber s) :
    EndsNumber (x.chars ++ s) := by
  obtain ⟨chars, hchars⟩ := x
  cases chars with
  | nil => exact h
  | cons c chars =>
    intro d hd
    obtain rfl := Option.some.inj hd
    exact of_isSpace (P := fun c => c.isDigit = false ∧ c ≠ '.') (by decide) (by decide)
      (by decide) (by decide) (hchars c List.mem_cons_self)

theorem skipSpace_number (n : NumberPhrase) (s : List Char) :
    skipSpace (n.text ++ s) = n.text ++ s :=
  dropWhile_eq_self fun c hc => isSpace_eq_false (n.head_append s c hc)

theorem head_space_number (x : Space) (n : NumberPhrase) (s : List Char) :
    ∀ c ∈ (x.chars ++ (n.text ++ s)).head?, c ≠ '=' := by
  obtain ⟨chars, hchars⟩ := x
  cases chars with
  | nil =>
    intro c hc heq
    subst heq
    rcases n.head_append s '=' hc with h | h
    · exact absurd h (by decide)
    · cases h
  | cons c chars =>
    intro d hd heq
    obtain rfl := Option.some.inj hd
    have hspace := hchars c List.mem_cons_self
    rw [heq] at hspace
    cases hspace

/-! ## Comparisons -/

/-- The spellings of an operator. -/
def operatorTexts : Operator → List (List Char)
  | .eq => [['='], ['=', '=']]
  | .ne => [['!', '='], ['≠']]
  | .lt => [['<']]
  | .le => [['<', '='], ['≤']]
  | .gt => [['>']]
  | .ge => [['>', '='], ['≥']]

/-- An operator in one of its spellings. -/
@[ext] structure OperatorPhrase where
  operator : Operator
  chars : List Char
  mem : chars ∈ operatorTexts operator

/-- The parts of a comparison. -/
structure ComparisonPhrase where
  before : Space
  operator : Option OperatorPhrase
  between : Space
  operand : NumberPhrase
  after : Space

def ComparisonPhrase.text (d : ComparisonPhrase) : List Char :=
  d.before.chars ++ (d.operator.elim [] OperatorPhrase.chars ++
    (d.between.chars ++ (d.operand.text ++ d.after.chars)))

/-- The language of comparisons; without an operator a comparison is an equality. -/
def comparisonLanguage : Language Comparison where
  Phrase := ComparisonPhrase
  Core := Option OperatorPhrase × NumberPhrase
  text := ComparisonPhrase.text
  core d := (d.operator, d.operand)
  meaning c := ⟨c.1.elim .eq OperatorPhrase.operator, c.2.value⟩

/-- No spelling of an operator starts like a number. -/
theorem head_of_mem_spellings {e : List Char × Operator} (he : e ∈ Operator.spellings) :
    ∃ c r, e.1 = c :: r ∧ c ≠ '-' ∧ c.isDigit = false := by
  simp only [Operator.spellings, List.mem_cons, List.not_mem_nil, or_false] at he
  rcases he with rfl | rfl | rfl | rfl | rfl | rfl | rfl | rfl | rfl | rfl <;>
    exact ⟨_, _, rfl, by decide, rfl⟩

theorem read_of_number {s : List Char} (h : ∀ c ∈ s.head?, c = '-' ∨ c.isDigit = true) :
    Operator.read s = none := by
  refine List.findSome?_eq_none_iff.2 fun e he => Option.map_eq_none_iff.2 ?_
  rw [Option.eq_none_iff_forall_ne_some]
  intro rest hrest
  obtain rfl := List.isPrefixOf?_eq_some_iff_append_eq.1 hrest
  obtain ⟨c, chars, hchars, hminus, hdigit⟩ := head_of_mem_spellings he
  rw [hchars] at h
  rcases h c rfl with hc | hc
  · exact hminus hc
  · rw [hc] at hdigit
    cases hdigit

/-- An operator is read in any of its spellings, unless the spelling goes on. -/
theorem read_append (o : OperatorPhrase) {s : List Char} (h : ∀ c ∈ s.head?, c ≠ '=') :
    Operator.read (o.chars ++ s) = some (o.operator, s) := by
  have hequal : ['='].isPrefixOf? s = none := by
    cases s with
    | nil => rfl
    | cons c s => simp [List.isPrefixOf?, (h c rfl).symm]
  obtain ⟨operator, chars, hmem⟩ := o
  cases operator with
  | eq =>
    rcases List.mem_pair.1 hmem with rfl | rfl
    · simp [Operator.read, Operator.spellings, List.isPrefixOf?, hequal]
    · rfl
  | ne =>
    rcases List.mem_pair.1 hmem with rfl | rfl
    · rfl
    · rfl
  | lt =>
    obtain rfl := List.mem_singleton.1 hmem
    simp [Operator.read, Operator.spellings, List.isPrefixOf?, hequal]
  | le =>
    rcases List.mem_pair.1 hmem with rfl | rfl
    · rfl
    · rfl
  | gt =>
    obtain rfl := List.mem_singleton.1 hmem
    simp [Operator.read, Operator.spellings, List.isPrefixOf?, hequal]
  | ge =>
    rcases List.mem_pair.1 hmem with rfl | rfl
    · rfl
    · rfl

theorem read_sound {s rest : List Char} {o : Operator} (h : Operator.read s = some (o, rest)) :
    ∃ d : OperatorPhrase, s = d.chars ++ rest ∧ d.operator = o := by
  have hall : ∀ e ∈ Operator.spellings, e.1 ∈ operatorTexts e.2 := by decide
  obtain ⟨e, he, hread⟩ := List.exists_of_findSome?_eq_some h
  obtain ⟨r, hr, heq⟩ := Option.map_eq_some_iff.1 hread
  obtain ⟨rfl, rfl⟩ := Prod.mk.inj heq
  exact ⟨⟨e.2, e.1, hall e he⟩, (List.isPrefixOf?_eq_some_iff_append_eq.1 hr).symm, rfl⟩

theorem head_of_mem_operatorTexts {o : Operator} {t : List Char} (h : t ∈ operatorTexts o) :
    ∃ c r, t = c :: r ∧ isSpace c = false := by
  cases o with
  | lt | gt =>
    obtain rfl := List.mem_singleton.1 h
    exact ⟨_, _, rfl, rfl⟩
  | eq | ne | le | ge =>
    rcases List.mem_pair.1 h with rfl | rfl <;> exact ⟨_, _, rfl, rfl⟩

theorem skipSpace_operator (o : OperatorPhrase) (s : List Char) :
    skipSpace (o.chars ++ s) = o.chars ++ s := by
  obtain ⟨c, r, hchars, hc⟩ := head_of_mem_operatorTexts o.mem
  rw [hchars]
  exact List.dropWhile_cons_of_neg (by simp [hc])

namespace ComparisonPhrase

variable (d : ComparisonPhrase) (s : List Char)

/-- The text behind the operator, with more text behind it. -/
def tail : List Char := d.between.chars ++ (d.operand.text ++ (d.after.chars ++ s))

theorem skipSpace_tail : skipSpace (d.tail s) = d.operand.text ++ (d.after.chars ++ s) := by
  rw [tail, Space.skipSpace_append, skipSpace_number]

theorem skipSpace_text : skipSpace (d.text ++ s) =
    d.operator.elim (d.operand.text ++ (d.after.chars ++ s)) fun o => o.chars ++ d.tail s := by
  simp only [text, List.append_assoc, Space.skipSpace_append]
  cases d.operator with
  | none => exact d.skipSpace_tail s
  | some o => exact skipSpace_operator o (d.tail s)

theorem read_skipSpace_text : Operator.read (skipSpace (d.text ++ s)) =
    d.operator.map fun o => (o.operator, d.tail s) := by
  rw [skipSpace_text]
  cases d.operator with
  | none => exact read_of_number (d.operand.head_append _)
  | some o => exact read_append o (head_space_number d.between d.operand _)

/-- Behind space, an operator and space, a comparison is read as a number. -/
theorem comparison_text_append : comparison (d.text ++ s) =
    (number (d.operand.text ++ (d.after.chars ++ s))).map fun (operand, rest) =>
      (⟨d.operator.elim .eq OperatorPhrase.operator, operand⟩, skipSpace rest) := by
  have hread := d.read_skipSpace_text s
  have htext := d.skipSpace_text s
  simp only [comparison, hread]
  cases ho : d.operator with
  | none =>
    rw [ho] at htext
    simp only [Option.map_none, Option.getD_none, htext, Option.elim_none, skipSpace_number]
  | some o =>
    simp only [Option.map_some, Option.getD_some, Option.elim_some, d.skipSpace_tail]

theorem reaches : ∃ c rest, comparison (d.text ++ s) = some (c, rest) ∧ rest <:+ s := by
  obtain ⟨x, rest, hread, hsuffix⟩ := number_reaches d.operand (d.after.chars ++ s)
  rw [comparison_text_append, hread]
  exact ⟨_, _, rfl, d.after.skipSpace_isSuffix hsuffix⟩

theorem core_eq {d e : ComparisonPhrase} (h : d.text = e.text) :
    d.operator = e.operator ∧ d.operand = e.operand := by
  have hread := d.read_skipSpace_text []
  have htext := d.skipSpace_text []
  rw [h, e.read_skipSpace_text] at hread
  rw [h, e.skipSpace_text] at htext
  have hoperand :
      e.operand.text ++ (e.after.chars ++ []) = d.operand.text ++ (d.after.chars ++ []) →
      d.operand = e.operand := fun heq =>
    (NumberPhrase.eq_of_append_eq (d.after.endsNumber_append (s := []) (by simp [EndsNumber]))
      (e.after.endsNumber_append (s := []) (by simp [EndsNumber])) heq.symm).1
  cases hd : d.operator with
  | none =>
    cases he : e.operator with
    | none =>
      rw [hd, he] at htext
      exact ⟨rfl, hoperand htext⟩
    | some o => simp [hd, he] at hread
  | some o =>
    cases he : e.operator with
    | none => simp [hd, he] at hread
    | some o' =>
      rw [hd, he] at hread htext
      obtain ⟨hoperator, htail⟩ := Prod.mk.inj (Option.some.inj hread)
      have hchars : o'.chars ++ e.tail [] = o.chars ++ d.tail [] := htext
      rw [htail] at hchars
      have ho : o = o' := OperatorPhrase.ext hoperator.symm (List.append_cancel_right hchars).symm
      refine ⟨by rw [ho], hoperand ?_⟩
      rw [← skipSpace_tail, ← skipSpace_tail, htail]

end ComparisonPhrase

theorem comparison_sound {s rest : List Char} {c : Comparison}
    (h : comparison s = some (c, rest)) : ∃ d : ComparisonPhrase, s = d.text ++ rest ∧
      ⟨d.operator.elim .eq OperatorPhrase.operator, d.operand.value⟩ = c := by
  have hbefore := Space.front_append_skipSpace s
  unfold comparison at h
  cases ho : Operator.read (skipSpace s) with
  | none =>
    simp only [ho, Option.getD_none] at h
    obtain ⟨⟨x, r⟩, hx, heq⟩ := Option.map_eq_some_iff.1 h
    obtain ⟨n, hn, rfl⟩ := number_sound hx
    obtain ⟨rfl, rfl⟩ := Prod.mk.inj heq
    refine ⟨⟨.front s, none, .front (skipSpace s), n, .front r⟩, ?_, rfl⟩
    simp only [ComparisonPhrase.text, Option.elim_none, List.nil_append, List.append_assoc,
      Space.front_append_skipSpace, ← hn]
  | some p =>
    obtain ⟨operator, t⟩ := p
    obtain ⟨o, hoperator, rfl⟩ := read_sound ho
    simp only [ho, Option.getD_some] at h
    obtain ⟨⟨x, r⟩, hx, heq⟩ := Option.map_eq_some_iff.1 h
    obtain ⟨n, hn, rfl⟩ := number_sound hx
    obtain ⟨rfl, rfl⟩ := Prod.mk.inj heq
    refine ⟨⟨.front s, some o, .front t, n, .front r⟩, ?_, rfl⟩
    simp only [ComparisonPhrase.text, Option.elim_some, List.append_assoc,
      Space.front_append_skipSpace, ← hn, ← hoperator]

theorem readBy_comparisonLanguage : comparisonLanguage.ReadBy comparison :=
  .of_reaches (fun _ _ _ h => comparison_sound h) ComparisonPhrase.reaches
    fun _ _ h => Prod.ext (ComparisonPhrase.core_eq h).1 (ComparisonPhrase.core_eq h).2

/-! ## Ranges -/

/-- The parts of a range. -/
structure RangePhrase where
  before : Space
  low : NumberPhrase
  beforeDash : Space
  afterDash : Space
  high : NumberPhrase
  after : Space

def RangePhrase.text (d : RangePhrase) : List Char :=
  d.before.chars ++ (d.low.text ++ (d.beforeDash.chars ++
    '-' :: (d.afterDash.chars ++ (d.high.text ++ d.after.chars))))

/-- The language of ranges. -/
def rangeLanguage : Language Interval where
  Phrase := RangePhrase
  Core := NumberPhrase × NumberPhrase
  text := RangePhrase.text
  core d := (d.low, d.high)
  meaning c := ⟨c.1.value, c.2.value⟩

theorem endsNumber_dash (x : Space) (s : List Char) : EndsNumber (x.chars ++ '-' :: s) :=
  x.endsNumber_append (by simp [EndsNumber])

theorem skipSpace_dash (s : List Char) : skipSpace ('-' :: s) = '-' :: s := rfl

namespace RangePhrase

/-- Behind the dash and space, a range is read as a number. -/
theorem range_text_append (d : RangePhrase) (s : List Char) : range (d.text ++ s) =
    (number (d.high.text ++ (d.after.chars ++ s))).map fun (high, rest) =>
      (⟨d.low.value, high⟩, skipSpace rest) := by
  have hlow := number_of_endsNumber d.low (endsNumber_dash d.beforeDash
    (d.afterDash.chars ++ (d.high.text ++ (d.after.chars ++ s))))
  simp only [range, text, List.append_assoc, List.cons_append, Space.skipSpace_append,
    skipSpace_number, hlow, Option.bind_some, skipSpace_dash, rangeEnd]

theorem reaches (d : RangePhrase) (s : List Char) :
    ∃ i rest, range (d.text ++ s) = some (i, rest) ∧ rest <:+ s := by
  obtain ⟨x, rest, hread, hsuffix⟩ := number_reaches d.high (d.after.chars ++ s)
  rw [range_text_append, hread]
  exact ⟨_, _, rfl, d.after.skipSpace_isSuffix hsuffix⟩

theorem core_eq {d e : RangePhrase} (h : d.text = e.text) : d.low = e.low ∧ d.high = e.high := by
  have hfront := congrArg skipSpace h
  simp only [text, Space.skipSpace_append, skipSpace_number] at hfront
  obtain ⟨hlow, hdash⟩ :=
    NumberPhrase.eq_of_append_eq (endsNumber_dash _ _) (endsNumber_dash _ _) hfront
  have hback := congrArg skipSpace hdash
  simp only [Space.skipSpace_append, skipSpace_dash, List.cons.injEq, true_and] at hback
  have hend := congrArg skipSpace hback
  simp only [Space.skipSpace_append, skipSpace_number] at hend
  have hnil : EndsNumber [] := by simp [EndsNumber]
  rw [← List.append_nil d.after.chars, ← List.append_nil e.after.chars] at hend
  exact ⟨hlow, (NumberPhrase.eq_of_append_eq (d.after.endsNumber_append hnil)
    (e.after.endsNumber_append hnil) hend).1⟩

end RangePhrase

theorem range_sound {s rest : List Char} {i : Interval} (h : range s = some (i, rest)) :
    ∃ d : RangePhrase, s = d.text ++ rest ∧ ⟨d.low.value, d.high.value⟩ = i := by
  have hbefore := Space.front_append_skipSpace s
  obtain ⟨⟨x, r⟩, hx, hend⟩ := Option.bind_eq_some_iff.1 h
  obtain ⟨low, hlow, rfl⟩ := number_sound hx
  have hdash := Space.front_append_skipSpace r
  change rangeEnd low.value (skipSpace r) = some (i, rest) at hend
  generalize skipSpace r = t at hend hdash
  unfold rangeEnd at hend
  split at hend
  · next t =>
    obtain ⟨⟨y, u⟩, hy, heq⟩ := Option.map_eq_some_iff.1 hend
    obtain ⟨high, hhigh, rfl⟩ := number_sound hy
    obtain ⟨rfl, rfl⟩ := Prod.mk.inj heq
    refine ⟨⟨.front s, low, .front r, .front t, high, .front u⟩, ?_, rfl⟩
    simp only [RangePhrase.text, List.append_assoc, List.cons_append,
      Space.front_append_skipSpace, ← hhigh, hdash, ← hlow]
  · cases hend

theorem readBy_rangeLanguage : rangeLanguage.ReadBy range :=
  .of_reaches (fun _ _ _ h => range_sound h) RangePhrase.reaches
    fun _ _ h => Prod.ext (RangePhrase.core_eq h).1 (RangePhrase.core_eq h).2

/-! ## Variables -/

/-- The parts of a variable. -/
structure VariablePhrase where
  before : Space
  name : Run isNameChar
  after : Space

def VariablePhrase.text (d : VariablePhrase) : List Char :=
  d.before.chars ++ '$' :: (d.name.chars ++ d.after.chars)

/-- The language of variables. -/
def variableLanguage : Language (List Char) where
  Phrase := VariablePhrase
  Core := Run isNameChar
  text := VariablePhrase.text
  core := VariablePhrase.name
  meaning := Run.chars

namespace VariablePhrase

theorem skipSpace_text_append (d : VariablePhrase) (s : List Char) :
    skipSpace (d.text ++ s) = '$' :: (d.name.chars ++ (d.after.chars ++ s)) := by
  simp only [text, List.append_assoc, List.cons_append, Space.skipSpace_append]
  rfl

theorem reaches (d : VariablePhrase) (s : List Char) :
    ∃ x rest, variableName (d.text ++ s) = some (x, rest) ∧ rest <:+ s := by
  rw [variableName, skipSpace_text_append]
  simp only [Grammar.name, d.name.dropWhile_append, if_neg (d.name.takeWhile_append_ne_nil _)]
  exact ⟨_, _, rfl, d.after.skipSpace_isSuffix (List.dropWhile_suffix _)⟩

theorem core_eq {d e : VariablePhrase} (h : d.text = e.text) : d.name = e.name := by
  have hnone : ∀ x : Space, x.chars.takeWhile isNameChar = [] := by
    intro x
    refine takeWhile_eq_nil fun c hc => ?_
    exact of_isSpace (P := fun c => isNameChar c = false) rfl rfl rfl rfl
      (x.all c (List.mem_of_mem_head? hc))
  have hd := d.skipSpace_text_append []
  rw [List.append_nil, h, ← List.append_nil e.text, e.skipSpace_text_append, List.append_nil,
    List.append_nil] at hd
  have htake := congrArg (List.takeWhile isNameChar) (List.cons.inj hd).2
  rw [Run.takeWhile_append, Run.takeWhile_append, hnone, hnone, List.append_nil,
    List.append_nil] at htake
  exact Run.ext htake.symm

end VariablePhrase

theorem variableName_sound {s rest x : List Char} (h : variableName s = some (x, rest)) :
    ∃ d : VariablePhrase, s = d.text ++ rest ∧ d.name.chars = x := by
  have hbefore := Space.front_append_skipSpace s
  unfold variableName name at h
  split at h
  · next r hr =>
    dsimp only at h
    split_ifs at h with hname
    obtain ⟨rfl, rfl⟩ := Prod.mk.inj (Option.some.inj h)
    refine ⟨⟨.front s, .front r hname, .front (r.dropWhile isNameChar)⟩, ?_, rfl⟩
    simp only [VariablePhrase.text, List.append_assoc, List.cons_append,
      Space.front_append_skipSpace, Run.front, List.takeWhile_append_dropWhile, ← hr]
  · cases h

theorem readBy_variableLanguage : variableLanguage.ReadBy variableName :=
  .of_reaches (fun _ _ _ h => variableName_sound h) VariablePhrase.reaches
    fun _ _ h => VariablePhrase.core_eq h

/-! ## Whole texts -/

/-- A range is no comparison, since its dash is left over behind the first number. -/
theorem RangePhrase.text_ne (d : RangePhrase) (e : ComparisonPhrase) : d.text ≠ e.text := by
  intro h
  have hfront := e.skipSpace_text []
  have hread := e.read_skipSpace_text []
  rw [List.append_nil, ← h] at hfront hread
  simp only [text, Space.skipSpace_append, skipSpace_number] at hfront hread
  rw [read_of_number (d.low.head_append _)] at hread
  have hnone : e.operator = none := Option.map_eq_none_iff.1 hread.symm
  rw [hnone] at hfront
  have hafter : EndsNumber (e.after.chars ++ []) := e.after.endsNumber_append (by simp [EndsNumber])
  obtain ⟨-, hdash⟩ := NumberPhrase.eq_of_append_eq (endsNumber_dash _ _) hafter hfront
  have hmem : '-' ∈ e.after.chars := by
    rw [← List.append_nil e.after.chars, ← hdash]
    exact List.mem_append_right _ List.mem_cons_self
  exact absurd (e.after.all '-' hmem) (by decide)

theorem skipSpace_of_variableName {s : List Char} {r : List Char × List Char}
    (h : variableName s = some r) : ∃ t, skipSpace s = '$' :: t := by
  unfold variableName name at h
  split at h
  · next t ht => exact ⟨t, ht⟩
  · cases h

/-- A text that starts with a dollar sign, but for space, is no comparison and no range. -/
theorem comparison_of_dollar {s t : List Char} (h : skipSpace s = '$' :: t) :
    comparison s = none ∧ range s = none := by
  unfold comparison range
  rw [h]
  exact ⟨rfl, rfl⟩

theorem complete_eq_none {α : Type} {r : Reader α} {s : List Char} (h : r s = none) :
    complete r s = none := by
  rw [complete, h]

/-- No text is a whole phrase of two of the languages that patterns are read in. -/
theorem count_complete_le_one (s : List Char) :
    [(complete comparison s).isSome, (complete range s).isSome,
      (complete variableName s).isSome].count true ≤ 1 := by
  cases hvariable : complete variableName s with
  | some x =>
    obtain ⟨t, ht⟩ := skipSpace_of_variableName (Language.complete_eq_some.1 hvariable)
    obtain ⟨hcomparison, hrange⟩ := comparison_of_dollar ht
    rw [complete_eq_none hcomparison, complete_eq_none hrange]
    simp
  | none =>
    cases hrange : complete range s with
    | none => cases complete comparison s <;> simp
    | some i =>
      cases hcomparison : complete comparison s with
      | none => simp
      | some c =>
        obtain ⟨d, hd, -⟩ := (readBy_rangeLanguage.complete_eq_some_iff s i).1 hrange
        obtain ⟨e, he, -⟩ := (readBy_comparisonLanguage.complete_eq_some_iff s c).1 hcomparison
        exact absurd (hd.trans he.symm) (d.text_ne e)

/-- **The readers read their languages.** Each of them succeeds exactly if a text starts with a
phrase of its language, and then takes the longest such phrase and gives its meaning; a whole text
is accepted exactly if it is a phrase. What a phrase says is clear from its text, and its numbers
are what decimal texts read as in general. No text is a whole phrase of two of comparisons, ranges
and variables. -/
theorem readBy_languages :
    numberLanguage.ReadBy number ∧ comparisonLanguage.ReadBy comparison ∧
      rangeLanguage.ReadBy range ∧ variableLanguage.ReadBy variableName ∧
      (∀ n : NumberPhrase, Number.ofText? (String.ofList n.text) = some n.value) ∧
      ∀ s : List Char, [(complete comparison s).isSome, (complete range s).isSome,
        (complete variableName s).isSome].count true ≤ 1 :=
  ⟨readBy_numberLanguage, readBy_comparisonLanguage, readBy_rangeLanguage, readBy_variableLanguage,
    ofText?_text, count_complete_le_one⟩

end Sift.Grammar
