import Sift.Proofs.BehindEnd
import Sift.Proofs.Fields

/-!
# Fields with the same variable

The text `a:$x b:$x` asks for two fields with equal values: the first one binds the variable, and
the second one is compared with it.

**The second reading.** If the fields differ, the text is still read as the property `a` with the
pattern `$x b:$x`, and the variable is bound by now. This pattern looks for parts of the first
field that equal the whole of it. There are none, since a part weighs less
(`not_equals_of_weight_lt`), and as a regular expression the pattern occurs in no text.

**Main result.** So a map of plain values is matched exactly if the two fields are equal, and then
the variable has their value and is the only one (`run_pair`).
-/

namespace Sift

open Grammar (isNameChar)

/-! ## Names -/

/-- One or more ASCII letters, digits or underscores. -/
structure IsName (s : List Char) : Prop where
  ne_nil : s ≠ []
  chars : ∀ c ∈ s, isNameChar c = true

theorem isName_iff {s : List Char} : IsName s ↔ s ≠ [] ∧ s.all isNameChar = true := by
  rw [List.all_eq_true]
  exact ⟨fun h => ⟨h.ne_nil, h.chars⟩, fun ⟨hne, hchars⟩ => ⟨hne, hchars⟩⟩

instance (s : List Char) : Decidable (IsName s) := decidable_of_iff' _ isName_iff

theorem toNat_lt_of_isNameChar {c : Char} (h : isNameChar c = true) : c.toNat < 128 := by
  delta isNameChar Char.isAlphanum Char.isAlpha Char.isUpper Char.isLower Char.isDigit at h
  simp only [Bool.or_eq_true, Bool.and_eq_true, decide_eq_true_eq, ge_iff_le,
    UInt32.le_iff_toNat_le] at h
  rcases h with ((h | h) | h) | rfl
  · exact Nat.lt_of_le_of_lt h.2 (by decide)
  · exact Nat.lt_of_le_of_lt h.2 (by decide)
  · exact Nat.lt_of_le_of_lt h.2 (by decide)
  · decide

/-- What holds of all name characters, checked one by one. -/
theorem of_isNameChar {P : Char → Prop}
    (hP : ∀ n < 128, isNameChar (Char.ofNat n) = true → P (Char.ofNat n)) {c : Char}
    (h : isNameChar c = true) : P c := by
  have hc := hP c.toNat (toNat_lt_of_isNameChar h)
  rw [Char.ofNat_toNat] at hc
  exact hc h

theorem isBlank_of_isNameChar {c : Char} (h : isNameChar c = true) : Text.isBlank c = false :=
  of_isNameChar (P := fun c => Text.isBlank c = false) (by decide) h

theorem isMeta_of_isNameChar {c : Char} (h : isNameChar c = true) :
    Regex.Reader.isMeta c = false :=
  of_isNameChar (P := fun c => Regex.Reader.isMeta c = false) (by decide) h

namespace IsName

variable {s : List Char} (h : IsName s)

include h

theorem isBlank {c : Char} (hc : c ∈ s) : Text.isBlank c = false :=
  isBlank_of_isNameChar (h.chars c hc)

theorem not_mem {c : Char} (hc : isNameChar c = false) : c ∉ s := by
  intro hmem
  rw [h.chars c hmem] at hc
  cases hc

theorem exists_cons : ∃ c r, s = c :: r := List.exists_cons_of_ne_nil h.ne_nil

theorem head_isBlank : ∀ c ∈ s.head?, Text.isBlank c = false :=
  fun _ hc => h.isBlank (List.mem_of_mem_head? hc)

theorem getLast_isBlank : ∀ c ∈ s.getLast?, Text.isBlank c = false :=
  fun _ hc => h.isBlank (List.mem_of_mem_getLast? hc)

end IsName

/-! ## Values -/

/-- **A plain value equals no lighter one.** -/
theorem Value.not_equals_of_weight_lt {v w : Value} (hv : v.isPlain = true)
    (h : w.weight < v.weight) : v.equals w = false := by
  rw [Bool.eq_false_iff]
  intro heq
  have := weight_eq_of_equals hv heq
  omega

theorem Bindings.bind_of_lookup {b : Bindings} {name : String} {w : Value}
    (h : b.lookup name = some w) (v : Value) : b.bind name v = (w, b) := by
  simp only [bind, h]

namespace Pattern

variable {p : Pattern} {j : Judge} {v w : Value} {b : Bindings} {f g x : List Char}

/-! ## A variable -/

theorem readCapture_dollar (hx : IsName x) (htext : p.text = '$' :: x) :
    p.readCapture = some (.capture (String.ofList x)) := by
  have htake : x.takeWhile isNameChar = x := List.takeWhile_eq_self_iff.2 hx.chars
  have hdrop : x.dropWhile isNameChar = [] := List.dropWhile_eq_nil_iff.2 hx.chars
  have hname : Grammar.variableName ('$' :: x) = some (x, []) := by
    change Grammar.name ('$' :: x) = _
    simp only [Grammar.name, htake, hdrop, if_neg hx.ne_nil]
    rfl
  simp only [readCapture, Grammar.complete, htext, hname, Option.map_some]

theorem asks_dollar (hs : p.settings.chain = .standard) (hx : IsName x) (n : Nat) (v : Value)
    (b : Bindings) :
    asks (freshWithin (n + 1)) (p.derive ('$' :: x)) v b =
      ((b.bind (String.ofList x) v).1.equals v, (b.bind (String.ofList x) v).2) := by
  have hverdict : ∀ m, decide (Verdict.ofBool m = .isMatch) = m := by decide
  have hread : (p.derive ('$' :: x)).readCapture = some (.capture (String.ofList x)) :=
    readCapture_dollar hx rfl
  have hjudge := chainVerdict_capture (p := p.derive ('$' :: x)) (j := freshWithin n) hs hread v b
  rw [asks, freshWithin_of_not_isRoot (p := p.derive ('$' :: x)) rfl, hjudge, hverdict]

/-! ## A field with a variable -/

/-- The text `f:$x`. -/
def fieldText (f x : List Char) : List Char := f ++ ':' :: '$' :: x

theorem operandOfNegation?_name (hf : IsName f) (rest : List Char) :
    operandOfNegation? (f ++ rest) = none := by
  obtain ⟨c, r, rfl⟩ := hf.exists_cons
  have hc : c ∈ c :: r := List.mem_cons_self
  exact operandOfNegation?_cons (hf.isBlank hc) (by rintro rfl; exact hf.not_mem (by decide) hc) _

theorem pathAndRest?_name (hf : IsName f) (rest : List Char) :
    pathAndRest? (f ++ ':' :: rest) = some ([String.ofList f], rest) :=
  pathAndRest?_single (hf.not_mem (by decide)) (hf.not_mem (by decide)) hf.head_isBlank
    hf.getLast_isBlank rest

theorem isBlank_of_mem_fieldText (hf : IsName f) (hx : IsName x) :
    ∀ c ∈ fieldText f x, Text.isBlank c = false := by
  intro c hc
  simp only [fieldText, List.mem_append, List.mem_cons] at hc
  rcases hc with hc | rfl | rfl | hc
  · exact hf.isBlank hc
  · decide
  · decide
  · exact hx.isBlank hc

theorem fieldGroups?_fieldText (hf : IsName f) (hx : IsName x) :
    fieldGroups? (fieldText f x) = none := by
  have hwords : Text.words (fieldText f x) = [fieldText f x] :=
    Text.words_eq_singleton (by simp [fieldText]) (isBlank_of_mem_fieldText hf hx)
  simp only [fieldGroups?, hwords]
  exact if_neg (by simp)

/-- A field with a variable compares the value of the field with the one of the variable. -/
theorem asks_fieldText (hs : p.settings.chain = .standard)
    (hroom : p.depth + 1 < p.settings.depthLimit) (hf : IsName f) (hx : IsName x) (n : Nat)
    {es : List (String × Value)} {u : Value} (hu : (Value.map es).path [String.ofList f] = u)
    (b : Bindings) :
    asks (freshWithin (n + 2)) (p.derive (fieldText f x)) (.map es) b =
      ((b.bind (String.ofList x) u).1.equals u, (b.bind (String.ofList x) u).2) := by
  generalize hq : p.derive (fieldText f x) = q
  have hqs : q.settings.chain = .standard := by rw [← hq]; exact hs
  have htext : q.text = fieldText f x := by rw [← hq]; rfl
  have hcan : q.canDerive = true := by rw [← hq]; exact decide_eq_true hroom
  have hderived : q.isRoot = false := by rw [← hq]; rfl
  have hneg : operandOfNegation? q.text = none := htext ▸ operandOfNegation?_name hf _
  have hgroups : fieldGroups? q.text = none := htext ▸ fieldGroups?_fieldText hf hx
  have hproperty : pathAndRest? q.text = some ([String.ofList f], '$' :: x) :=
    htext ▸ pathAndRest?_name hf _
  have hverdict : ∀ m, decide (Verdict.matchOrDefer m = .isMatch) = m := by decide
  rw [asks, freshWithin_of_not_isRoot hderived,
    chainVerdict_property hqs hcan hneg hgroups hproperty, hu, asks_dollar hqs hx]
  exact Prod.ext (hverdict _) rfl

/-! ## What a failed pair leaves to be read -/

/-- The text `$x g:$x`, which stands behind the first colon of `f:$x g:$x`. -/
def restText (g x : List Char) : List Char := ('$' :: x) ++ ' ' :: fieldText g x

theorem mem_restText (hg : IsName g) (hx : IsName x) {c : Char} (h : c ∈ restText g x) :
    c = '$' ∨ c = ' ' ∨ c = ':' ∨ isNameChar c = true := by
  simp only [restText, fieldText, List.mem_append, List.mem_cons] at h
  rcases h with (h | h) | h | h | h | h | h
  · exact .inl h
  · exact .inr (.inr (.inr (hx.chars c h)))
  · exact .inr (.inl h)
  · exact .inr (.inr (.inr (hg.chars c h)))
  · exact .inr (.inr (.inl h))
  · exact .inl h
  · exact .inr (.inr (.inr (hx.chars c h)))

theorem not_mem_restText (hg : IsName g) (hx : IsName x) {c : Char}
    (hc : c ≠ '$' ∧ c ≠ ' ' ∧ c ≠ ':' ∧ isNameChar c = false) : c ∉ restText g x := by
  intro h
  rcases mem_restText hg hx h with h | h | h | h
  · exact hc.1 h
  · exact hc.2.1 h
  · exact hc.2.2.1 h
  · rw [hc.2.2.2] at h
    cases h

theorem trim_restText (hx : IsName x) : Text.trim (restText g x) = restText g x := by
  have hend : restText g x = (('$' :: x) ++ ' ' :: (g ++ [':', '$'])) ++ x := by
    simp [restText, fieldText]
  refine Text.trim_eq_self (by simp [restText]; decide) fun c hc => ?_
  rw [hend, List.getLast?_append_of_ne_nil _ hx.ne_nil] at hc
  exact hx.getLast_isBlank c hc

theorem listItems_restText (hg : IsName g) (hx : IsName x) :
    listItems (restText g x) = [restText g x] := by
  rw [listItems, List.splitOn_eq_singleton (not_mem_restText hg hx (by decide)),
    List.map_singleton, trim_restText hx]

theorem fieldGroups?_restText (hg : IsName g) (hx : IsName x) :
    fieldGroups? (restText g x) = none := by
  have hblank : ∀ c ∈ '$' :: x, Text.isBlank c = false :=
    List.forall_mem_cons.2 ⟨by decide, fun c hc => hx.isBlank hc⟩
  have hwords : Text.words (restText g x) = ['$' :: x, fieldText g x] := by
    rw [restText, Text.words_append_cons (by simp) hblank (by decide),
      Text.words_eq_singleton (by simp [fieldText]) (isBlank_of_mem_fieldText hg hx)]
  have hcolon : ':' ∉ x := hx.not_mem (by decide)
  simp only [fieldGroups?, hwords]
  exact if_neg (by simp [hcolon])

theorem pathAndRest?_restText (hg : IsName g) (hx : IsName x) :
    pathAndRest? (restText g x) =
      some ([String.ofList (('$' :: x) ++ ' ' :: g)], '$' :: x) := by
  have htext : restText g x = (('$' :: x) ++ ' ' :: g) ++ ':' :: '$' :: x := by
    simp [restText, fieldText]
  have hcolon : ':' ∉ ('$' :: x) ++ ' ' :: g := by
    simp [hx.not_mem (c := ':') (by decide), hg.not_mem (c := ':') (by decide)]
  have hpoint : '.' ∉ ('$' :: x) ++ ' ' :: g := by
    simp [hx.not_mem (c := '.') (by decide), hg.not_mem (c := '.') (by decide)]
  have hend : ('$' :: x) ++ ' ' :: g = (('$' :: x) ++ [' ']) ++ g := by simp
  rw [htext]
  refine pathAndRest?_single hcolon hpoint (by simp; decide) (fun c hc => ?_) _
  rw [hend, List.getLast?_append_of_ne_nil _ hg.ne_nil] at hc
  exact hg.getLast_isBlank c hc

/-- As a regular expression, the text goes on behind the end of what it is searched in. -/
theorem occurs_restText (hg : IsName g) (hx : IsName x) {r : Regex}
    (hr : Regex.ofText? (restText g x) = some r) (text : List Char) : r.occurs text = false := by
  have hmeta : ∀ c ∈ restText g x, c = '$' ∨ Regex.Reader.isMeta c = false := by
    intro c hc
    rcases mem_restText hg hx hc with h | rfl | rfl | h
    · exact .inl h
    · exact .inr (by decide)
    · exact .inr (by decide)
    · exact .inr (isMeta_of_isNameChar h)
  obtain ⟨c, s, rfl⟩ := hx.exists_cons
  have hc : c ≠ '$' := by
    rintro rfl
    exact hx.not_mem (by decide) List.mem_cons_self
  exact Regex.occurs_of_dollar hc (List.forall_mem_cons.1 hmeta).2 hr text

/-- The judgement is no match and leaves the variables as they are. -/
def Declines (b : Bindings) (r : Verdict × Bindings) : Prop := r.1 ≠ .isMatch ∧ r.2 = b

theorem declines_indeterminate (b : Bindings) : Declines b (.indeterminate, b) := ⟨by simp, rfl⟩

theorem asks_of_declines {q : Pattern} (h : Declines b (j q w b)) : asks j q w b = (false, b) :=
  Prod.ext (decide_eq_false h.1) h.2

theorem declines_deferring {answer : Bool × Bindings} (h : answer = (false, b)) :
    Declines b (deferring answer) := by
  subst h
  exact declines_indeterminate b

theorem firstVerdict_declines {ms : List Matcher}
    (h : ∀ m ∈ ms, Declines b (verdictFrom j p (m.read p) v b m)) :
    Declines b (firstVerdict j ms p v b) := by
  induction ms with
  | nil => exact declines_indeterminate b
  | cons m ms ih =>
    obtain ⟨hverdict, hb⟩ := h m List.mem_cons_self
    by_cases hi : (verdictFrom j p (m.read p) v b m).1 = .indeterminate
    · rw [firstVerdict_cons_of_indeterminate (Prod.ext hi hb)]
      exact ih fun m' hm' => h m' (List.mem_cons_of_mem m hm')
    · rw [firstVerdict_cons_of_determinate rfl hi]
      exact ⟨hverdict, hb⟩

/-- The value is null, or it is no heavier than the other one, which is not null. -/
def Fits (u w : Value) : Prop := w = .null ∨ u ≠ .null ∧ w.weight ≤ u.weight

theorem equals_step {u w : Value} (hu : u.isPlain = true) (hw : w ≠ .null) (h : Fits u w)
    (name : String) : u.equals (w.step name) = false := by
  obtain ⟨hnull, hle⟩ := h.resolve_left hw
  rcases Value.step_cases w name with hstep | ⟨w', hw', hstep⟩ <;> rw [hstep]
  · cases u with
    | null => exact absurd rfl hnull
    | _ => rfl
  · have := Value.weight_lt_of_member? hw'
    exact Value.not_equals_of_weight_lt hu (by omega)

theorem verdictOf_restText {u : Value} (hu : u.isPlain = true) (hg : IsName g) (hx : IsName x)
    (hb : b.lookup (String.ofList x) = some u) (hs : p.settings.chain = .standard)
    (htext : p.text = restText g x) (hw : Fits u w) (n : Nat)
    (hrest : ∀ w', Fits u w' → Declines b (freshWithin n (p.derive (restText g x)) w' b))
    {d : Dialect} (hd : d ∈ [Dialect.negation, .glob, .comparison, .range, .list, .regex,
      .multiField, .property]) :
    Declines b (verdictOf (freshWithin n) p (d.read p) w b d) := by
  cases d with
  | anything | nullOrEmpty | capture => simp at hd
  | negation =>
    have hoperand : operandOfNegation? (restText g x) = none :=
      operandOfNegation?_cons (by decide) (by decide) _
    simp only [verdictOf, Dialect.read, readNegation, htext, hoperand, Option.map_none, ite_self]
    exact declines_indeterminate b
  | glob =>
    have hglob : Glob.ofText? p.settings.ignoreCase (restText g x) = none := by
      refine if_neg fun h => ?_
      simp only [Glob.isGlob, Bool.and_eq_true, List.any_eq_true, Glob.isWildcard,
        Bool.or_eq_true, decide_eq_true_eq] at h
      obtain ⟨⟨⟨c, hc, rfl | rfl⟩, -⟩, -⟩ := h
      · exact not_mem_restText hg hx (by decide) hc
      · exact not_mem_restText hg hx (by decide) hc
    simp only [verdictOf, Dialect.read, readGlob, htext, hglob, Option.filter_none,
      Option.map_none]
    exact declines_indeterminate b
  | comparison =>
    have hcomparison : Grammar.comparison (restText g x) = none := rfl
    simp only [verdictOf, Dialect.read, readComparison, Grammar.complete, htext, hcomparison,
      Option.map_none]
    exact declines_indeterminate b
  | range =>
    have hrange : Grammar.range (restText g x) = none := rfl
    simp only [verdictOf, Dialect.read, readRange, Grammar.complete, htext, hrange,
      Option.map_none]
    exact declines_indeterminate b
  | list =>
    simp only [verdictOf, Dialect.read, readList, htext, listItems_restText hg hx]
    split_ifs
    · cases w with
      | list vs =>
        obtain ⟨hnull, hle⟩ := hw.resolve_left (by simp)
        have hasks : ∀ w' ∈ vs, asks (freshWithin n) (p.derive (restText g x)) w' b =
            (false, b) := by
          intro w' hw'
          have hlt := Value.weight_lt_of_mem hw'
          exact asks_of_declines (hrest w' (.inr ⟨hnull, by omega⟩))
        exact declines_deferring (asksList_of_head hasks [] _)
      | _ => exact declines_indeterminate b
    · exact declines_indeterminate b
  | regex =>
    cases hr : Regex.ofText? (restText g x) with
    | none =>
      simp only [verdictOf, Dialect.read, readRegex, htext, hr, Option.map_none]
      exact declines_indeterminate b
    | some r =>
      simp only [verdictOf, Dialect.read, readRegex, htext, hr, Option.map_some]
      cases w with
      | string t =>
        rw [judgeRegex, occurs_restText hg hx hr]
        exact ⟨by simp [Verdict.ofBool], rfl⟩
      | _ => exact declines_indeterminate b
  | multiField =>
    simp only [verdictOf, Dialect.read, readFields, htext, fieldGroups?_restText hg hx,
      Option.map_none, ite_self]
    exact declines_indeterminate b
  | property =>
    by_cases hcan : p.canDerive = true
    · have hread : p.readProperty =
          some (.property [String.ofList (('$' :: x) ++ ' ' :: g)] (p.derive ('$' :: x))) := by
        simp only [readProperty, if_pos hcan, htext, pathAndRest?_restText hg hx, Option.map_some]
      simp only [verdictOf, Dialect.read, hread]
      split_ifs with hnull
      · exact declines_indeterminate b
      · have hw' : w ≠ .null := by
          rintro rfl
          exact hnull rfl
        refine declines_deferring ?_
        cases n with
        | zero => rfl
        | succ n =>
          rw [asks_dollar hs hx, Bindings.bind_of_lookup hb, Value.path_cons, Value.path_nil,
            equals_step hu hw' hw]
    · have hread : p.readProperty = none := if_neg hcan
      simp only [verdictOf, Dialect.read, hread]
      exact declines_indeterminate b

/-- **The second reading finds nothing**: with the variable bound to the first field, no part of
that field passes. -/
theorem freshWithin_restText {u : Value} (hu : u.isPlain = true) (hg : IsName g) (hx : IsName x)
    (hb : b.lookup (String.ofList x) = some u) (hs : p.settings.chain = .standard)
    (derived : p.isRoot = false) (htext : p.text = restText g x) (hw : Fits u w) (n : Nat) :
    Declines b (freshWithin n p w b) := by
  induction n generalizing p w with
  | zero => exact declines_indeterminate b
  | succ n ih =>
    have hcolon : ':' ∈ p.text := by simp [htext, restText, fieldText]
    rw [freshWithin_of_not_isRoot derived, chainVerdict_of_mem_colon hs hcolon]
    refine firstVerdict_declines fun m hm => ?_
    obtain ⟨d, hd, rfl⟩ := List.mem_map.1 hm
    exact verdictOf_restText hu hg hx hb hs htext hw n
      (fun w' hw' => ih (p := p.derive (restText g x)) hs rfl rfl hw') hd

/-! ## Pairs of fields -/

/-- The text `f:$x g:$x`. -/
def pairText (f g x : List Char) : List Char := fieldText f x ++ ' ' :: fieldText g x

theorem fieldGroups?_pairText (hf : IsName f) (hg : IsName g) (hx : IsName x) :
    fieldGroups? (pairText f g x) = some [fieldText f x, fieldText g x] := by
  have hwords : Text.words (pairText f g x) = [fieldText f x, fieldText g x] := by
    rw [pairText, Text.words_append_cons (by simp [fieldText]) (isBlank_of_mem_fieldText hf hx)
      (by decide), Text.words_eq_singleton (by simp [fieldText]) (isBlank_of_mem_fieldText hg hx)]
  simp only [fieldGroups?, hwords]
  exact if_pos ⟨by simp, by simp [fieldText]⟩

section

variable {es : List (String × Value)} {u : Value}

/-- The two groups of a pair compare the fields, and leave the variable bound in any case. -/
theorem all_fieldTexts (hs : p.settings.chain = .standard)
    (hroom : p.depth + 1 < p.settings.depthLimit) (hf : IsName f) (hg : IsName g) (hx : IsName x)
    (n : Nat) (hu : (Value.map es).path [String.ofList f] = u)
    (hw : (Value.map es).path [String.ofList g] = w) (hplain : u.isPlain = true) :
    Test.all ([fieldText f x, fieldText g x].map fun t =>
        asks (freshWithin (n + 2)) (p.derive t) (.map es)) [] =
      (u.equals w, [(String.ofList x, u)]) := by
  have hfirst := asks_fieldText hs hroom hf hx n hu []
  have hsecond := asks_fieldText hs hroom hg hx n hw [(String.ofList x, u)]
  have hbind : Bindings.bind [] (String.ofList x) u = (u, [(String.ofList x, u)]) := rfl
  have hbound : Bindings.bind [(String.ofList x, u)] (String.ofList x) w =
      (u, [(String.ofList x, u)]) := Bindings.bind_of_lookup List.lookup_cons_self w
  rw [hbind, Value.equals_self hplain] at hfirst
  rw [hbound] at hsecond
  rw [List.map_cons, Test.all_cons_of_true (by rw [hfirst]), hfirst]
  simp only [List.map_cons, List.map_nil, Test.all, hsecond]
  cases u.equals w <;> rfl

theorem fits_self (u : Value) : Fits u u := by
  by_cases hu : u = .null
  · exact .inl hu
  · exact .inr ⟨hu, Nat.le_refl _⟩

/-- A pair matches if the fields are equal; otherwise no dialect applies. -/
theorem chainVerdict_pairText (hs : p.settings.chain = .standard)
    (hroom : p.depth + 1 < p.settings.depthLimit) (hf : IsName f) (hg : IsName g) (hx : IsName x)
    (htext : p.text = pairText f g x) (n : Nat) (hu : (Value.map es).path [String.ofList f] = u)
    (hw : (Value.map es).path [String.ofList g] = w) (hplain : u.isPlain = true) :
    chainVerdict (freshWithin (n + 2)) p (.map es) [] =
      (.matchOrDefer (u.equals w), [(String.ofList x, u)]) := by
  have hrest : pairText f g x = f ++ ':' :: restText g x := by
    simp [pairText, fieldText, restText]
  have hcolon : ':' ∈ p.text := by simp [htext, hrest]
  have hneg : operandOfNegation? p.text = none := by
    rw [htext, hrest]
    exact operandOfNegation?_name hf _
  have hcan : p.canDerive = true := decide_eq_true (by omega)
  have hgroups : fieldGroups? p.text = some [fieldText f x, fieldText g x] :=
    htext ▸ fieldGroups?_pairText hf hg hx
  have hproperty : pathAndRest? p.text = some ([String.ofList f], restText g x) := by
    rw [htext, hrest, pathAndRest?_name hf]
  have hfields := verdictFrom_multiField (j := freshWithin (n + 2)) hcan hgroups (.map es) []
  rw [all_fieldTexts hs hroom hf hg hx n hu hw hplain] at hfields
  rw [chainVerdict_of_map hs hcolon hneg]
  cases hequal : u.equals w with
  | true =>
    rw [hequal] at hfields
    exact firstVerdict_cons_of_determinate hfields (by simp [deferring, Verdict.matchOrDefer]) _
  | false =>
    rw [hequal] at hfields
    have hdeclines := freshWithin_restText (p := p.derive (restText g x)) hplain hg hx
      (List.lookup_cons_self : [(String.ofList x, u)].lookup (String.ofList x) = some u) hs rfl rfl
      (fits_self u) (n + 2)
    rw [firstVerdict_cons_of_indeterminate hfields, firstVerdict_singleton,
      verdictFrom_property hcan hproperty rfl, hu, asks_of_declines hdeclines]
    rfl

end

/-- **Variables correlate fields.** A map of plain values is matched by `f:$x g:$x` exactly if the
two fields are equal, a missing one counting as null. After a match, the variable has their value
and no other variable is bound. -/
theorem run_pair (mode : Mode) (ignoreCase : Bool) {f g x : String} (hf : IsName f.toList)
    (hg : IsName g.toList) (hx : IsName x.toList) {es : List (String × Value)}
    (hes : (Value.map es).isPlain = true) :
    (root (.standardWith mode ignoreCase)
        (f ++ ":$" ++ x ++ " " ++ g ++ ":$" ++ x).toList).run (.map es) =
      if ((Value.map es).path [f]).equals ((Value.map es).path [g]) then
        (.isMatch, [(x, (Value.map es).path [f])])
      else (.indeterminate, []) := by
  have htext : (f ++ ":$" ++ x ++ " " ++ g ++ ":$" ++ x).toList =
      pairText f.toList g.toList x.toList := by
    simp [pairText, fieldText]
  have hplain : ((Value.map es).path [f]).isPlain = true := Value.isPlain_step hes f
  have hchain := chainVerdict_pairText (p := root (.standardWith mode ignoreCase)
    (pairText f.toList g.toList x.toList)) rfl (by decide : 0 + 1 < 256) hf hg hx rfl 254
    (u := (Value.map es).path [f]) (by rw [String.ofList_toList]) rfl hplain
  rw [String.ofList_toList, String.ofList_toList] at hchain
  rw [htext, run_root (s := .standardWith mode ignoreCase) Chain.isBuiltIn_standard.isRegular]
  change freshWithin (256 + 1) _ _ _ = _
  rw [freshWithin_of_isRoot rfl, hchain]
  cases ((Value.map es).path [f]).equals ((Value.map es).path [g]) <;> rfl

theorem run_pair_sample :
    (IsName "a".toList ∧ IsName "b_2".toList ∧ IsName "X".toList ∧
      (Value.map [("a", .bool true), ("b_2", .bool true)]).isPlain = true) ∧
    (root (.standardWith .exact true)
        ("a" ++ ":$" ++ "X" ++ " " ++ "b_2" ++ ":$" ++ "X").toList).run
        (.map [("a", .bool true), ("b_2", .bool true)]) =
      if ((Value.map [("a", .bool true), ("b_2", .bool true)]).path ["a"]).equals
          ((Value.map [("a", .bool true), ("b_2", .bool true)]).path ["b_2"]) then
        (.isMatch, [("X", (Value.map [("a", .bool true), ("b_2", .bool true)]).path ["a"])])
      else (.indeterminate, []) := by
  have hf : IsName "a".toList := ⟨by decide, List.all_eq_true.1 (by decide)⟩
  have hg : IsName "b_2".toList := ⟨by decide, List.all_eq_true.1 (by decide)⟩
  have hx : IsName "X".toList := ⟨by decide, List.all_eq_true.1 (by decide)⟩
  have hes : (Value.map [("a", .bool true), ("b_2", .bool true)]).isPlain = true := rfl
  exact ⟨⟨hf, hg, hx, hes⟩, run_pair .exact true hf hg hx hes⟩

end Pattern

end Sift
