import Sift.Proofs.WholeTexts

/-!
# Patterns made of patterns

A property is a path with a pattern behind it, and a list is made of patterns with commas between
them. The parts are judged one level deeper than the whole, and with its variables. Still each of
them says what it says as a pattern of its own, as long as it is not too long for the value that it
is asked about.

**Which dialects are left.** For a map, a text with a colon that is neither a negation nor a
sequence of groups is a property. For a list, a text with a comma that is no negation and has no
colon is a list of patterns. Both leave the question open when they fail, and no later dialect
takes it up.

**Main results.** A property matches what its pattern matches at the end of the path, with the same
variables (`run_property`). A list of patterns without variables matches a list if the patterns
match its elements, one by one in exact mode and some element each in inclusive mode
(`run_items`).
-/

namespace Sift.Pattern

variable {p : Pattern} {j : Judge} {v : Value} {b : Bindings} {text : List Char}

/-- A new pattern that asks others and leaves the question open if they fail. -/
theorem run_root_of_deferring {s : Settings} (hc : s.chain.IsRegular) {answer : Bool × Bindings}
    (h : chainVerdict (freshWithin s.depthLimit) (root s text) v [] = deferring answer) :
    (root s text).run v = if answer.1 then (.isMatch, answer.2) else (.indeterminate, []) := by
  obtain ⟨matched, b⟩ := answer
  rw [run_root_eq hc, h]
  cases matched <;> rfl

/-- A part is asked as it is as a pattern of its own. -/
theorem asks_derive {s : Settings} (hc : s.chain.IsBuiltIn) {t : List Char} {w : Value}
    (h : t.length + w.nesting < s.depthLimit) :
    asks (freshWithin s.depthLimit) ((root s text).derive t) w [] =
      ((root s t).isMatch w, (chainVerdict (freshWithin s.depthLimit) (root s t) w []).2) := by
  rw [isMatch, verdict_root hc.isRegular]
  simp only [asks, freshWithin_derive hc h]

/-- A new pattern that asks a part about another value matches if the part does. -/
theorem run_root_of_asks {s : Settings} (hc : s.chain.IsBuiltIn) {t : List Char} {w : Value}
    (hsize : t.length + w.nesting < s.depthLimit)
    (h : chainVerdict (freshWithin s.depthLimit) (root s text) v [] =
      deferring (asks (freshWithin s.depthLimit) ((root s text).derive t) w [])) :
    (root s text).run v =
      if (root s t).isMatch w then (.isMatch, ((root s t).run w).2) else (.indeterminate, []) := by
  rw [run_root_of_deferring hc.isRegular h, asks_derive hc hsize]
  by_cases hmatch : (root s t).isMatch w = true
  · have hvars := congrArg Prod.snd (run_root_eq hc.isRegular t w)
    rw [if_pos ((isMatch_root_iff hc.isRegular t w).1 hmatch)] at hvars
    rw [if_pos hmatch, if_pos hmatch, hvars]
  · rw [if_neg hmatch, if_neg hmatch]

/-! ## Properties -/

/-- The names that a path is made of. -/
def namesOf (path : List Char) : List String :=
  ((Text.trim path).splitOn '.').map String.ofList

section

variable {path sub : List Char}

/-- **Properties.** A property that is no negation and no sequence of groups matches a map exactly
if the pattern behind the colon matches the value at the end of the path, and then it leaves the
same variables. Otherwise it leaves the question open. -/
theorem run_property (mode : Mode) (ignoreCase : Bool) (es : List (String × Value))
    (hpath : ':' ∉ path)
    (hmark : (Text.trimStart (path ++ ':' :: sub)).head? ≠ some '!')
    (hgroups : ¬ (2 ≤ (Text.words (path ++ ':' :: sub)).length ∧
      ∀ g ∈ Text.words (path ++ ':' :: sub), ':' ∈ g))
    (hsize : sub.length + ((Value.map es).path (namesOf path)).nesting ≤ 255) :
    (root (.standardWith mode ignoreCase) (path ++ ':' :: sub)).run (.map es) =
      if (root (.standardWith mode ignoreCase) sub).isMatch ((Value.map es).path (namesOf path)) then
        (.isMatch, ((root (.standardWith mode ignoreCase) sub).run
          ((Value.map es).path (namesOf path))).2)
      else (.indeterminate, []) := by
  have hc : (Settings.standardWith mode ignoreCase).chain.IsBuiltIn := Chain.isBuiltIn_standard
  have hroom : sub.length + ((Value.map es).path (namesOf path)).nesting <
      (Settings.standardWith mode ignoreCase).depthLimit := Nat.lt_succ_of_le hsize
  exact run_root_of_asks hc hroom (chainVerdict_property rfl rfl (operandOfNegation?_eq_none hmark)
    (fieldGroups?_eq_none hgroups) (pathAndRest?_append hpath sub) es [])

/-- A path with blanks around it and an index in it, and a pattern with a colon and a variable. -/
theorem run_property_sample :
    (':' ∉ " a.1 ".toList ∧ (Text.trimStart " a.1 :b:$x".toList).head? ≠ some '!' ∧
      ¬ (2 ≤ (Text.words " a.1 :b:$x".toList).length ∧
        ∀ g ∈ Text.words " a.1 :b:$x".toList, ':' ∈ g) ∧
      "b:$x".toList.length + ((Value.map [("a", .list [.null, .map [("b", .bool true)]])]).path
        (namesOf " a.1 ".toList)).nesting ≤ 255) ∧
    (root (.standardWith .exact true) (" a.1 ".toList ++ ':' :: "b:$x".toList)).run
        (.map [("a", .list [.null, .map [("b", .bool true)]])]) =
      (.isMatch, ((root (.standardWith .exact true) "b:$x".toList).run
        (.map [("b", .bool true)])).2) := by
  have hpath : ':' ∉ " a.1 ".toList := by decide
  have hmark : (Text.trimStart " a.1 :b:$x".toList).head? ≠ some '!' := by decide
  have hgroups : ¬ (2 ≤ (Text.words " a.1 :b:$x".toList).length ∧
      ∀ g ∈ Text.words " a.1 :b:$x".toList, ':' ∈ g) := by decide
  have hmatch : (root (.standardWith .exact true) "b:$x".toList).isMatch
      (.map [("b", .bool true)]) = true := by decide +kernel
  refine ⟨⟨hpath, hmark, hgroups, by decide⟩, ?_⟩
  have hrun := run_property .exact true [("a", .list [.null, .map [("b", .bool true)]])]
    hpath hmark hgroups (by decide)
  exact hrun.trans (if_pos hmatch)

end

/-! ## Lists of patterns -/

/-- A text without commas and without blanks at its ends, which stands between commas as it is. -/
structure IsItem (t : List Char) : Prop where
  comma : ',' ∉ t
  head_isBlank : ∀ c ∈ t.head?, Text.isBlank c = false
  getLast_isBlank : ∀ c ∈ t.getLast?, Text.isBlank c = false

theorem isItem_iff {t : List Char} :
    IsItem t ↔ ',' ∉ t ∧ (t.head?.all fun c => !Text.isBlank c) = true ∧
      (t.getLast?.all fun c => !Text.isBlank c) = true := by
  simp only [Option.all_eq_true, Bool.not_eq_true']
  exact ⟨fun h => ⟨h.1, h.2, h.3⟩, fun ⟨hcomma, hhead, hlast⟩ => ⟨hcomma, hhead, hlast⟩⟩

instance (t : List Char) : Decidable (IsItem t) := decidable_of_iff' _ isItem_iff

/-- The text of a list of patterns, with commas between them. -/
def itemsText (ts : List (List Char)) : List Char := [','].intercalate ts

section

variable {ts : List (List Char)} {vs : List Value}

theorem listItems_itemsText (hne : ts ≠ []) (h : ∀ t ∈ ts, IsItem t) :
    listItems (itemsText ts) = ts := by
  rw [listItems, itemsText, List.splitOn_intercalate ',' (fun t ht => (h t ht).comma) hne]
  have htrim : ∀ t ∈ ts, Text.trim t = t := fun t ht =>
    Text.trim_eq_self (h t ht).head_isBlank (h t ht).getLast_isBlank
  exact (List.map_congr_left htrim).trans (List.map_id ts)

theorem mem_comma_itemsText (two : 2 ≤ ts.length) : ',' ∈ itemsText ts := by
  match ts, two with
  | t :: t' :: ts, _ =>
    rw [itemsText, List.intercalate_cons_cons]
    simp

theorem not_mem_itemsText {c : Char} (hc : c ≠ ',') (h : ∀ t ∈ ts, c ∉ t) :
    c ∉ itemsText ts := by
  intro hmem
  rcases Text.mem_intercalate hmem with hcomma | ⟨t, ht, hct⟩
  · exact hc hcomma
  · exact h t ht hct

/-- A list of patterns is no negation unless the first one is. -/
theorem operandOfNegation?_itemsText (two : 2 ≤ ts.length) (h : ∀ t ∈ ts, IsItem t)
    (hmark : ∀ t ∈ ts.head?, t.head? ≠ some '!') : operandOfNegation? (itemsText ts) = none := by
  match ts, two with
  | t :: t' :: ts, _ =>
    rw [itemsText, List.intercalate_cons_cons]
    cases t with
    | nil => exact operandOfNegation?_cons (by decide) (by decide) _
    | cons c t =>
      have hblank := (h (c :: t) List.mem_cons_self).head_isBlank c rfl
      have hc : c ≠ '!' := by simpa using hmark (c :: t) rfl
      exact operandOfNegation?_cons hblank hc _

/-- A text with a comma is no variable. -/
theorem readCapture_of_mem_comma (h : ',' ∈ p.text) : p.readCapture = none :=
  readCapture_eq_none_of_mem (by decide) h

/-- **A list** is asked about its elements by a text with a comma that is no negation and has no
colon. -/
theorem chainVerdict_list (hs : p.settings.chain = .standard) (hcan : p.canDerive = true)
    (hcomma : ',' ∈ p.text) (hneg : operandOfNegation? p.text = none) (hcolon : ':' ∉ p.text)
    (vs : List Value) (b : Bindings) :
    chainVerdict j p (.list vs) b =
      deferring (asksList j ((listItems p.text).map p.derive) vs p.settings.mode b) := by
  rw [chainVerdict_of_readCapture (c := ',') hs (trim_ne_star (by decide) (by decide) hcomma)
    (by decide) hcomma (readCapture_of_mem_comma hcomma), List.map_cons,
    firstVerdict_cons_of_indeterminate (verdictFrom_negation hneg _ b)]
  exact firstVerdict_behindNegation_list hcan hcolon vs

/-- Items with commas between them are asked about the elements of a list. -/
theorem chainVerdict_items (hs : p.settings.chain = .standard) (hcan : p.canDerive = true)
    (htext : p.text = itemsText ts) (two : 2 ≤ ts.length) (hitems : ∀ t ∈ ts, IsItem t)
    (hmark : ∀ t ∈ ts.head?, t.head? ≠ some '!') (hcolon : ∀ t ∈ ts, ':' ∉ t)
    (vs : List Value) (b : Bindings) :
    chainVerdict j p (.list vs) b =
      deferring (asksList j (ts.map p.derive) vs p.settings.mode b) := by
  have hcomma : ',' ∈ p.text := htext ▸ mem_comma_itemsText two
  have hneg : operandOfNegation? p.text = none :=
    htext ▸ operandOfNegation?_itemsText two hitems hmark
  have hcolon : ':' ∉ p.text := htext ▸ not_mem_itemsText (by decide) hcolon
  have hread : listItems p.text = ts :=
    htext ▸ listItems_itemsText (List.ne_nil_of_length_pos (by omega)) hitems
  rw [chainVerdict_list hs hcan hcomma hneg hcolon, hread]

/-- **Lists of patterns.** Patterns without variables and colons, with commas between them, match a
list exactly if each of them matches the element at its place and there are as many of both, in
exact mode, or if each of them matches some element, in inclusive mode. Otherwise they leave the
question open. -/
theorem run_items (mode : Mode) (ignoreCase : Bool) (two : 2 ≤ ts.length)
    (hitems : ∀ t ∈ ts, IsItem t) (hplain : ∀ t ∈ ts, '$' ∉ t ∧ ':' ∉ t)
    (hmark : ∀ t ∈ ts.head?, t.head? ≠ some '!')
    (hsize : ∀ t ∈ ts, ∀ w ∈ vs, t.length + w.nesting ≤ 255) :
    (root (.standardWith mode ignoreCase) (itemsText ts)).run (.list vs) =
      (.matchOrDefer (decide (mode.Relates
        (fun t w => (root (.standardWith mode ignoreCase) t).isMatch w = true) ts vs)), []) := by
  have hc : (Settings.standardWith mode ignoreCase).chain.IsBuiltIn := Chain.isBuiltIn_standard
  let p := root (.standardWith mode ignoreCase) (itemsText ts)
  have hsteady : ∀ q ∈ ts.map p.derive, ∀ w ∈ vs, Steady (asks (freshWithin 256) q w) := by
    refine List.forall_mem_map.2 fun t ht w _ => ?_
    have hvar : ¬ HasVariable t := not_hasVariable_of_not_mem (hplain t ht).1
    exact steady_asks (freshWithin_steady (p := p.derive t) hvar rfl 256 w)
  have hpart : mode.Relates (fun q w => (freshWithin 256 q w []).1 = .isMatch) (ts.map p.derive)
      vs ↔ mode.Relates (fun t w => (root (.standardWith mode ignoreCase) t).isMatch w = true)
        ts vs :=
    (Mode.relates_map_left mode).trans (Mode.relates_congr (fun t ht w hw =>
      (isMatch_root_iff_derive hc (Nat.lt_succ_of_le (hsize t ht w hw))).symm) mode)
  have hwhole := chainVerdict_items (p := p) (j := freshWithin 256) rfl rfl rfl two hitems hmark
    (fun t ht => (hplain t ht).2) vs []
  have hmode : p.settings.mode = mode := rfl
  rw [hmode, asksList_of_steady hsteady] at hwhole
  rw [run_root_of_deferring hc.isRegular hwhole]
  simp only [hpart, Verdict.matchOrDefer]
  split_ifs <;> rfl

/-- A word, a negation behind the first place, and an element that is a list itself. -/
theorem run_items_sample :
    (2 ≤ ["null".toList, "!b".toList].length ∧
      (∀ t ∈ ["null".toList, "!b".toList], IsItem t) ∧
      (∀ t ∈ ["null".toList, "!b".toList], '$' ∉ t ∧ ':' ∉ t) ∧
      (∀ t ∈ ["null".toList, "!b".toList].head?, t.head? ≠ some '!') ∧
      ∀ t ∈ ["null".toList, "!b".toList], ∀ w ∈ [Value.null, .list [.string "1"]],
        t.length + w.nesting ≤ 255) ∧
    (root (.standardWith .exact false) (itemsText ["null".toList, "!b".toList])).run
        (.list [.null, .list [.string "1"]]) = (.isMatch, []) := by
  have hitems : ∀ t ∈ ["null".toList, "!b".toList], IsItem t := by decide
  have hplain : ∀ t ∈ ["null".toList, "!b".toList], '$' ∉ t ∧ ':' ∉ t := by decide
  have hmark : ∀ t ∈ ["null".toList, "!b".toList].head?, t.head? ≠ some '!' := by decide
  have hsize : ∀ t ∈ ["null".toList, "!b".toList], ∀ w ∈ [Value.null, .list [.string "1"]],
      t.length + w.nesting ≤ 255 := by decide
  have hmatch : Mode.exact.Relates
      (fun t w => (root (.standardWith .exact false) t).isMatch w = true)
      ["null".toList, "!b".toList] [.null, .list [.string "1"]] := by decide +kernel
  have hrun := run_items .exact false (by decide) hitems hplain hmark hsize
  refine ⟨⟨by decide, hitems, hplain, hmark, hsize⟩, hrun.trans ?_⟩
  exact congrArg (fun matched => (Verdict.matchOrDefer matched, [])) (decide_eq_true hmatch)

end

end Sift.Pattern
