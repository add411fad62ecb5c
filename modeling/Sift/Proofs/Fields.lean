import Sift.Proofs.Marks

/-!
# Patterns with a colon

A text with a colon is no star, no keyword and no variable. If it is no negation either, only two
dialects are left for a map: the text may be a sequence of groups, all of which have to match, and
it may be a property, its first colon separating a path from a pattern for the value at its end.

**Deferral.** When a group fails, the text is still read as a property, with everything behind the
first colon as one pattern. So a map may be matched although one of the groups does not match it.

**Main result.** Without variables, a sequence of groups matches a map exactly if each group does
or the text does when read as a property (`isMatch_groups_iff`). The second reading cannot help
where the path leads to null.
-/

namespace Sift.Pattern

variable {p : Pattern} {j : Judge} {v : Value} {b : Bindings}

/-! ## Which dialects are left -/

/-- A text with a colon is left to the dialects from negations on. -/
theorem chainVerdict_of_mem_colon (hs : p.settings.chain = .standard) (h : ':' ∈ p.text)
    (v : Value) (b : Bindings) :
    chainVerdict j p v b =
      firstVerdict j ([.negation, .glob, .comparison, .range, .list, .regex, .multiField,
        .property].map .builtIn) p v b :=
  chainVerdict_of_mark hs (trim_ne_star (c := ':') (by decide) (by decide) h) (by decide)
    (by decide) h v b

theorem verdictFrom_multiField_of_none (h : fieldGroups? p.text = none) (v : Value)
    (b : Bindings) :
    verdictFrom j p (Matcher.read p (.builtIn .multiField)) v b (.builtIn .multiField) =
      (.indeterminate, b) := by
  simp only [verdictFrom, verdictOf, Matcher.read, Dialect.read, readFields, h, Option.map_none,
    ite_self]

/-- A sequence of groups asks about every group. -/
theorem verdictFrom_multiField (hcan : p.canDerive = true) {gs : List (List Char)}
    (h : fieldGroups? p.text = some gs) (v : Value) (b : Bindings) :
    verdictFrom j p (Matcher.read p (.builtIn .multiField)) v b (.builtIn .multiField) =
      deferring (Test.all (gs.map fun g => asks j (p.derive g) v) b) := by
  simp only [verdictFrom, verdictOf, Matcher.read, Dialect.read, readFields, if_pos hcan, h,
    Option.map_some, List.map_map]
  rfl

/-- A property asks about the value at the end of its path. -/
theorem verdictFrom_property (hcan : p.canDerive = true) {names : List String} {t : List Char}
    (h : pathAndRest? p.text = some (names, t)) (hnull : v.isNull = false) (b : Bindings) :
    verdictFrom j p (Matcher.read p (.builtIn .property)) v b (.builtIn .property) =
      deferring (asks j (p.derive t) (v.path names) b) := by
  simp only [verdictFrom, verdictOf, Matcher.read, Dialect.read, readProperty, if_pos hcan, h,
    Option.map_some, hnull, Bool.false_eq_true, ↓reduceIte]

/-- The dialects for texts, numbers and lists do not apply to a map. -/
theorem chainVerdict_of_map (hs : p.settings.chain = .standard) (h : ':' ∈ p.text)
    (hneg : operandOfNegation? p.text = none) (es : List (String × Value)) (b : Bindings) :
    chainVerdict j p (.map es) b =
      firstVerdict j [.builtIn .multiField, .builtIn .property] p (.map es) b := by
  have hskip : ∀ d ∈ [Dialect.glob, .comparison, .range, .list, .regex],
      verdictFrom j p (Matcher.read p (.builtIn d)) (.map es) b (.builtIn d) =
        (.indeterminate, b) := by
    simp [verdictFrom, verdictOf, judgeGlob, judgeComparison, judgeRange, judgeRegex]
  rw [chainVerdict_of_mem_colon hs h]
  simp only [List.map_cons, List.map_nil]
  rw [firstVerdict_cons_of_indeterminate (verdictFrom_negation hneg _ _),
    firstVerdict_cons_of_indeterminate (hskip .glob (by simp)),
    firstVerdict_cons_of_indeterminate (hskip .comparison (by simp)),
    firstVerdict_cons_of_indeterminate (hskip .range (by simp)),
    firstVerdict_cons_of_indeterminate (hskip .list (by simp)),
    firstVerdict_cons_of_indeterminate (hskip .regex (by simp))]

/-- **A property** that is no negation and no sequence of groups asks a map about the value at the
end of the path, and nothing else. -/
theorem chainVerdict_property (hs : p.settings.chain = .standard) (hcan : p.canDerive = true)
    (hneg : operandOfNegation? p.text = none) (hgroups : fieldGroups? p.text = none)
    {names : List String} {t : List Char} (h : pathAndRest? p.text = some (names, t))
    (es : List (String × Value)) (b : Bindings) :
    chainVerdict j p (.map es) b =
      deferring (asks j (p.derive t) ((Value.map es).path names) b) := by
  have hcolon : ':' ∈ p.text := by
    obtain ⟨path, htext, -, -⟩ := pathAndRest?_eq_some h
    simp [htext]
  rw [chainVerdict_of_map hs hcolon hneg,
    firstVerdict_cons_of_indeterminate (verdictFrom_multiField_of_none hgroups _ _),
    firstVerdict_singleton, verdictFrom_property hcan h rfl]

/-! ## Null -/

theorem firstVerdict_indeterminate {ms : List Matcher}
    (h : ∀ m ∈ ms, verdictFrom j p (m.read p) v b m = (.indeterminate, b)) :
    firstVerdict j ms p v b = (.indeterminate, b) := by
  induction ms with
  | nil => rfl
  | cons m ms ih =>
    rw [firstVerdict_cons_of_indeterminate (h m List.mem_cons_self)]
    exact ih fun m' hm' => h m' (List.mem_cons_of_mem m hm')

theorem verdictOf_null (hcolon : ':' ∈ p.text)
    (hj : ∀ t, ':' ∈ t → j (p.derive t) .null b = (.indeterminate, b))
    {d : Dialect} (hd : d ∈ [Dialect.negation, .glob, .comparison, .range, .list, .regex,
      .multiField, .property]) :
    verdictOf j p (d.read p) .null b d = (.indeterminate, b) := by
  cases d with
  | anything | nullOrEmpty | capture => simp at hd
  | glob | comparison | range | list | regex =>
    simp [verdictOf, judgeGlob, judgeComparison, judgeRange, judgeRegex]
  | negation =>
    simp only [Dialect.read, readNegation]
    split_ifs
    · cases ho : operandOfNegation? p.text with
      | none => rfl
      | some t =>
        have ht : ':' ∈ t := mem_operandOfNegation? ho (by decide) (by decide) hcolon
        simp only [verdictOf, Option.map_some, hj t ht, Verdict.negate]
    · rfl
  | multiField =>
    simp only [Dialect.read, readFields]
    split_ifs
    · cases hg : fieldGroups? p.text with
      | none => rfl
      | some gs =>
        obtain ⟨-, htwo, hgs⟩ := fieldGroups?_eq_some hg
        obtain ⟨g, gs, rfl⟩ := List.exists_cons_of_length_pos (by omega : 0 < gs.length)
        have hfirst : asks j (p.derive g) .null b = (false, b) := by
          simp [asks, hj g (hgs g List.mem_cons_self)]
        simp only [verdictOf, Option.map_some, List.map_cons, deferring,
          Test.all_cons_of_false (congrArg Prod.fst hfirst), hfirst]
        rfl
    · rfl
  | property =>
    simp only [Dialect.read, readProperty]
    split_ifs
    · cases pathAndRest? p.text with
      | none => rfl
      | some r => rfl
    · rfl

/-- The chain leaves null and the variables alone, if it does one level down. -/
theorem chainVerdict_null (hs : p.settings.chain = .standard) (hcolon : ':' ∈ p.text)
    (hj : ∀ t, ':' ∈ t → j (p.derive t) .null b = (.indeterminate, b)) :
    chainVerdict j p .null b = (.indeterminate, b) := by
  rw [chainVerdict_of_mem_colon hs hcolon]
  refine firstVerdict_indeterminate fun m hm => ?_
  obtain ⟨d, hd, rfl⟩ := List.mem_map.1 hm
  exact verdictOf_null hcolon hj hd

/-- **A text with a colon does not apply to null**, at no level, and binds nothing. -/
theorem freshWithin_null (hs : p.settings.chain = .standard) (hcolon : ':' ∈ p.text)
    (derived : p.isRoot = false) (n : Nat) (b : Bindings) :
    freshWithin n p .null b = (.indeterminate, b) := by
  induction n generalizing p with
  | zero => rfl
  | succ n ih =>
    rw [freshWithin_of_not_isRoot derived]
    exact chainVerdict_null hs hcolon fun t ht => ih (p := p.derive t) hs ht rfl

/-- A root pattern forgets the variables, whatever it is asked. -/
theorem fresh_null (hs : p.settings.chain = .standard) (hcolon : ':' ∈ p.text) (b : Bindings) :
    p.fresh .null b = (.indeterminate, if p.isRoot then [] else b) := by
  cases hroot : p.isRoot with
  | false => exact freshWithin_null hs hcolon hroot _ b
  | true =>
    have hchain : chainVerdict (freshWithin (p.settings.depthLimit - p.depth)) p .null [] =
        (.indeterminate, []) :=
      chainVerdict_null hs hcolon fun t ht => freshWithin_null (p := p.derive t) hs ht rfl _ []
    rw [fresh, levels, freshWithin_of_isRoot hroot, hchain]
    rfl

theorem isMatch_root_null {s : Settings} (hs : s.chain = .standard) {text : List Char}
    (hcolon : ':' ∈ text) : (root s text).isMatch .null = false := by
  have hc : s.chain.IsRegular := hs ▸ Chain.isBuiltIn_standard.isRegular
  rw [isMatch, run_root hc, fresh_null (p := root s text) hs hcolon]
  rfl

/-! ## Groups -/

/-- Groups first, and then the property: without variables, a map is matched exactly if one of the
two readings says so. -/
theorem isMatch_fields_or_property (hnull : v.isNull = false) (hcan : p.canDerive = true)
    (hj : SteadyOnParts j p v) {gs : List (List Char)} (hgs : fieldGroups? p.text = some gs)
    {names : List String} {rest : List Char} (hr : pathAndRest? p.text = some (names, rest))
    (b : Bindings) :
    (firstVerdict j [.builtIn .multiField, .builtIn .property] p v b).1 = .isMatch ↔
      (∀ g ∈ gs, (j (p.derive g) v []).1 = .isMatch) ∨
        (j (p.derive rest) (v.path names) []).1 = .isMatch := by
  have hall : Test.all (gs.map fun g => asks j (p.derive g) v) b =
      (decide (∀ g ∈ gs, (j (p.derive g) v []).1 = .isMatch), b) := by
    rw [Test.all_map_of_steady fun g hg => steady_asks (hj g v (.group hgs hg))]
    simp [asks]
  have hfields : verdictFrom j p (Matcher.read p (.builtIn .multiField)) v b
      (.builtIn .multiField) =
        (.matchOrDefer (decide (∀ g ∈ gs, (j (p.derive g) v []).1 = .isMatch)), b) := by
    rw [verdictFrom_multiField hcan hgs, hall, deferring]
  have hprop : (verdictFrom j p (Matcher.read p (.builtIn .property)) v b (.builtIn .property)).1 =
      .matchOrDefer (decide ((j (p.derive rest) (v.path names) []).1 = .isMatch)) := by
    rw [verdictFrom_property hcan hr hnull]
    simp only [deferring, asks, hj rest (v.path names) (.member hr) b]
  by_cases hmatch : ∀ g ∈ gs, (j (p.derive g) v []).1 = .isMatch
  · rw [decide_eq_true hmatch] at hfields
    rw [firstVerdict_cons_of_determinate hfields (by simp [Verdict.matchOrDefer])]
    simp only [Verdict.matchOrDefer, ↓reduceIte, true_iff]
    exact .inl hmatch
  · rw [decide_eq_false hmatch] at hfields
    rw [firstVerdict_cons_of_indeterminate hfields, firstVerdict_singleton, hprop]
    simp [Verdict.matchOrDefer, hmatch]

variable {text rest : List Char} {groups : List (List Char)}
  {names : List String} {es : List (String × Value)}

/-- A sequence of groups is matched by a map in one of two ways. -/
theorem isMatch_map_iff (mode : Mode) (ignoreCase : Bool)
    (hgroups : fieldGroups? text = some groups)
    (hproperty : pathAndRest? text = some (names, rest)) (hoperand : operandOfNegation? text = none)
    (hvariable : ¬ HasVariable text) (hsize : text.length + (Value.map es).nesting ≤ 256) :
    (root (.standardWith mode ignoreCase) text).isMatch (.map es) = true ↔
      (∀ g ∈ groups, (root (.standardWith mode ignoreCase) g).isMatch (.map es) = true) ∨
        (root (.standardWith mode ignoreCase) rest).isMatch ((Value.map es).path names) = true := by
  have hpart : ∀ t w, Delegates text (.map es) t w →
      ((freshWithin 256 ((root (.standardWith mode ignoreCase) text).derive t) w []).1 =
          .isMatch ↔
        (root (.standardWith mode ignoreCase) t).isMatch w = true) := by
    intro t w hd
    have hlt := hd.measure_lt
    have hroom : t.length + w.nesting < 256 := by omega
    exact (isMatch_root_iff_derive (s := .standardWith mode ignoreCase)
      Chain.isBuiltIn_standard hroom).symm
  have hcolon : ':' ∈ text := by
    obtain ⟨path, rfl, -, -⟩ := pathAndRest?_eq_some hproperty
    simp
  rw [isMatch_root_iff (s := .standardWith mode ignoreCase) Chain.isBuiltIn_standard.isRegular,
    chainVerdict_of_map rfl hcolon hoperand,
    isMatch_fields_or_property rfl rfl (steadyOnParts_freshWithin hvariable _ _) hgroups hproperty]
  exact or_congr (forall₂_congr fun g hg => hpart g _ (.group hgroups hg))
    (hpart rest _ (.member hproperty))

/-- What is left of several groups behind the first colon has a colon again. -/
theorem mem_colon_of_groups (two : 2 ≤ groups.length) (hcolon : ∀ g ∈ groups, ':' ∈ g)
    {path : List Char} (h : [' '].intercalate groups = path ++ ':' :: rest) (hpath : ':' ∉ path) :
    ':' ∈ rest := by
  obtain ⟨g, g', gs, rfl⟩ : ∃ g g' gs, groups = g :: g' :: gs := by
    match groups, two with
    | g :: g' :: gs, _ => exact ⟨g, g', gs, rfl⟩
  have hcount := congrArg (List.count ':') h
  have hfirst := List.count_pos_iff.2 (hcolon g (by simp))
  have hsecond : 0 < ([' '].intercalate (g' :: gs)).count ':' := by
    rw [List.count_pos_iff]
    cases gs with
    | nil => simpa using hcolon g' (by simp)
    | cons g'' gs => simpa [List.intercalate_cons_cons] using Or.inl (hcolon g' (by simp))
  rw [List.intercalate_cons_cons] at hcount
  simp only [List.count_append, List.count_cons_self, List.count_eq_zero_of_not_mem hpath] at hcount
  exact List.count_pos_iff.1 (by omega)

/-- Groups are no negation unless the first one is. -/
theorem operandOfNegation?_intercalate (hcolon : ∀ g ∈ groups, ':' ∈ g)
    (hblank : ∀ g ∈ groups, ∀ c ∈ g, Text.isBlank c = false)
    (hneg : ∀ g ∈ groups.head?, g.head? ≠ some '!') :
    operandOfNegation? ([' '].intercalate groups) = none := by
  cases groups with
  | nil => rfl
  | cons g gs =>
    obtain ⟨c, cs, rfl⟩ := List.exists_cons_of_ne_nil (List.ne_nil_of_mem (hcolon g (by simp)))
    obtain ⟨s, hs⟩ : ∃ s, [' '].intercalate ((c :: cs) :: gs) = c :: s := by
      cases gs with
      | nil => exact ⟨cs, List.intercalate_singleton⟩
      | cons g' gs => exact ⟨_, List.intercalate_cons_cons⟩
    rw [hs]
    exact operandOfNegation?_cons (hblank _ List.mem_cons_self c List.mem_cons_self)
      (by simpa using hneg) s

theorem not_hasVariable_intercalate (hdollar : ∀ g ∈ groups, '$' ∉ g) :
    ¬ HasVariable ([' '].intercalate groups) := by
  refine not_hasVariable_of_not_mem fun h => ?_
  rcases Text.mem_intercalate h with h | ⟨g, hg, h⟩
  · cases h
  · exact hdollar g hg h

/-- **A sequence of groups.** A map is matched by groups without variables exactly if all groups
match it, or if the text does when its first colon is the only one that counts. The second way is
closed where the path before that colon leads to null. -/
theorem isMatch_groups_iff (mode : Mode) (ignoreCase : Bool) (two : 2 ≤ groups.length)
    (hblank : ∀ g ∈ groups, ∀ c ∈ g, Text.isBlank c = false) (hcolon : ∀ g ∈ groups, ':' ∈ g)
    (hdollar : ∀ g ∈ groups, '$' ∉ g) (hneg : ∀ g ∈ groups.head?, g.head? ≠ some '!')
    (es : List (String × Value))
    (hsize : ([' '].intercalate groups).length + (Value.map es).nesting ≤ 255) :
    ∃ names rest, pathAndRest? ([' '].intercalate groups) = some (names, rest) ∧
      ((root (.standardWith mode ignoreCase) ([' '].intercalate groups)).isMatch (.map es) = true ↔
        (∀ g ∈ groups, (root (.standardWith mode ignoreCase) g).isMatch (.map es) = true) ∨
          (root (.standardWith mode ignoreCase) rest).isMatch ((Value.map es).path names) = true) ∧
      ((Value.map es).path names = .null →
        ((root (.standardWith mode ignoreCase) ([' '].intercalate groups)).isMatch (.map es) =
            true ↔
          ∀ g ∈ groups, (root (.standardWith mode ignoreCase) g).isMatch (.map es) = true)) := by
  have hgroups := fieldGroups?_intercalate two hblank hcolon
  have hmem : ':' ∈ [' '].intercalate groups := by
    obtain ⟨g, hg⟩ := List.exists_mem_of_length_pos (by omega : 0 < groups.length)
    exact (infix_of_mem_fieldGroups? hgroups hg).1.subset (hcolon g hg)
  obtain ⟨path, rest, htext, hpath⟩ := List.eq_append_cons_of_mem hmem
  have hrest : ':' ∈ rest := mem_colon_of_groups two hcolon htext hpath
  have hproperty := pathAndRest?_append hpath rest
  rw [← htext] at hproperty
  have hiff := isMatch_map_iff mode ignoreCase hgroups hproperty
    (operandOfNegation?_intercalate hcolon hblank hneg) (not_hasVariable_intercalate hdollar)
    (by omega : _ + (Value.map es).nesting ≤ 256)
  refine ⟨_, rest, hproperty, hiff, fun hnull => ?_⟩
  rw [hiff, hnull, isMatch_root_null rfl hrest]
  simp

/-- The first group fails because `a` is no text, and the second one because `c` is not null. -/
def sampleGroups : List (List Char) := ["a:b".toList, "c:null".toList]

def sampleEntries : List (String × Value) := [("a", .bool true), ("c", .bool false)]

theorem isBlank_of_mem_sampleGroups : ∀ g ∈ sampleGroups, ∀ c ∈ g, Text.isBlank c = false := by
  have hall : sampleGroups.all (fun g => g.all fun c => !Text.isBlank c) = true := by decide
  simpa using hall

theorem isMatch_sampleGroups_iff :
    ((2 ≤ sampleGroups.length ∧ (∀ g ∈ sampleGroups, ∀ c ∈ g, Text.isBlank c = false) ∧
      (∀ g ∈ sampleGroups, ':' ∈ g) ∧ (∀ g ∈ sampleGroups, '$' ∉ g) ∧
      (∀ g ∈ sampleGroups.head?, g.head? ≠ some '!')) ∧
      ([' '].intercalate sampleGroups).length + (Value.map sampleEntries).nesting ≤ 255) ∧
    ∃ names rest, pathAndRest? ([' '].intercalate sampleGroups) = some (names, rest) ∧
      ((root (.standardWith .exact true) ([' '].intercalate sampleGroups)).isMatch
          (.map sampleEntries) = true ↔
        (∀ g ∈ sampleGroups,
            (root (.standardWith .exact true) g).isMatch (.map sampleEntries) = true) ∨
          (root (.standardWith .exact true) rest).isMatch
            ((Value.map sampleEntries).path names) = true) ∧
      ((Value.map sampleEntries).path names = .null →
        ((root (.standardWith .exact true) ([' '].intercalate sampleGroups)).isMatch
            (.map sampleEntries) = true ↔
          ∀ g ∈ sampleGroups,
            (root (.standardWith .exact true) g).isMatch (.map sampleEntries) = true)) :=
  ⟨⟨⟨by decide, isBlank_of_mem_sampleGroups, by decide, by decide, by decide⟩, by decide⟩,
    isMatch_groups_iff .exact true (by decide) isBlank_of_mem_sampleGroups (by decide) (by decide)
      (by decide) sampleEntries (by decide)⟩

/-- **A failed group may be overridden.** Neither of the sample groups matches, but the text does:
it is read as the property `a`, and `b c:null` matches what `true` has under `b c`. -/
theorem isMatch_of_failed_groups :
    (2 ≤ sampleGroups.length ∧ (∀ g ∈ sampleGroups, ∀ c ∈ g, Text.isBlank c = false) ∧
      (∀ g ∈ sampleGroups, ':' ∈ g) ∧ (∀ g ∈ sampleGroups, '$' ∉ g) ∧
      (∀ g ∈ sampleGroups.head?, g.head? ≠ some '!') ∧
      ([' '].intercalate sampleGroups).length + (Value.map sampleEntries).nesting ≤ 255) ∧
    (∀ g ∈ sampleGroups,
      (root (.standardWith .exact true) g).isMatch (.map sampleEntries) = false) ∧
    (root (.standardWith .exact true) ([' '].intercalate sampleGroups)).isMatch
      (.map sampleEntries) = true :=
  ⟨⟨by decide, isBlank_of_mem_sampleGroups, by decide⟩, by decide +kernel⟩

end Sift.Pattern
