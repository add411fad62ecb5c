import Sift.Proofs.Coherence
import Sift.Proofs.Parts
import Sift.Proofs.Values

/-!
# What is handed on to sub-patterns

A dialect that takes a pattern apart asks sub-patterns about values. `Pattern.Delegates` says which
parts of the text are asked about which values.

**The measure.** The length of the text and the nesting of the value together get smaller whenever
something is handed on: a text without commas is handed on as it is, but only to the elements of
the list at hand.

**Main result.** So patterns that can still be derived often enough judge alike, however many
levels they have (`chainVerdict_eq_of_alike`).
-/

namespace Sift

/-- The chain has no matchers but dialects. -/
def Chain.IsBuiltIn (c : Chain) : Prop := ∀ m ∈ c.matchers, ∃ d, m = .builtIn d

theorem Chain.IsBuiltIn.isRegular {c : Chain} (h : c.IsBuiltIn) : c.IsRegular := by
  intro m hm
  obtain ⟨d, rfl⟩ := h m hm
  trivial

theorem Chain.isBuiltIn_standard : Chain.standard.IsBuiltIn := by
  intro m hm
  obtain ⟨d, -, rfl⟩ := List.mem_map.1 hm
  exact ⟨d, rfl⟩

/-- The standard settings but for the mode and the case. -/
def Settings.standardWith (mode : Mode) (ignoreCase : Bool) : Settings :=
  { Settings.standard with mode, ignoreCase }

namespace Pattern

variable {p p' : Pattern} {text t : List Char} {v w : Value}

/-! ## Delegation -/

/-- A pattern with the text asks a sub-pattern with another text about a value. -/
inductive Delegates (text : List Char) (v : Value) : List Char → Value → Prop
  | operand {t : List Char} : operandOfNegation? text = some t → Delegates text v t v
  | element {t : List Char} {vs : List Value} {w : Value} :
      t ∈ listItems text → v = .list vs → w ∈ vs → Delegates text v t w
  | group {t : List Char} {gs : List (List Char)} :
      fieldGroups? text = some gs → t ∈ gs → Delegates text v t v
  | member {t : List Char} {names : List String} :
      pathAndRest? text = some (names, t) → Delegates text v t (v.path names)

theorem Delegates.isInfix (h : Delegates text v t w) : t <:+: text := by
  cases h with
  | operand h => exact (suffix_of_operandOfNegation? h).1.isInfix
  | element h _ _ => exact infix_of_mem_listItems h
  | group h hmem => exact (infix_of_mem_fieldGroups? h hmem).1
  | member h => exact (suffix_of_pathAndRest? h).1.isInfix

/-- **Whatever is handed on is smaller.** -/
theorem Delegates.measure_lt (h : Delegates text v t w) :
    t.length + w.nesting < text.length + v.nesting := by
  cases h with
  | operand h =>
    have := (suffix_of_operandOfNegation? h).2
    omega
  | element h hv hw =>
    subst hv
    have := (infix_of_mem_listItems h).length_le
    have := Value.nesting_lt_of_mem hw
    omega
  | group h hmem =>
    have := (infix_of_mem_fieldGroups? h hmem).2
    omega
  | @member names h =>
    have := (suffix_of_pathAndRest? h).2
    have := Value.nesting_path_le v names
    omega

/-! ## Patterns that are alike -/

/-- Two patterns have the same text and settings but for the depth limit. -/
structure Alike (p p' : Pattern) : Prop where
  text : p.text = p'.text
  chain : p.settings.chain = p'.settings.chain
  mode : p.settings.mode = p'.settings.mode
  ignoreCase : p.settings.ignoreCase = p'.settings.ignoreCase

theorem Alike.derive (h : Alike p p') (t : List Char) : Alike (p.derive t) (p'.derive t) :=
  ⟨rfl, h.chain, h.mode, h.ignoreCase⟩

/-- The pattern may derive others, or has no need to. -/
def HasRoom (p : Pattern) (v : Value) : Prop :=
  p.canDerive = true ∨ p.text = [] ∧ v.nesting = 0

theorem operandOfNegation?_nil : operandOfNegation? [] = none := rfl

theorem fieldGroups?_nil : fieldGroups? [] = none := by decide

theorem pathAndRest?_nil : pathAndRest? [] = none := rfl

theorem HasRoom.readNegation_eq (h : HasRoom p v) :
    p.readNegation = (operandOfNegation? p.text).map fun t => .negation (p.derive t) := by
  unfold readNegation
  rcases h with h | ⟨h, -⟩
  · rw [if_pos h]
  · rw [h, operandOfNegation?_nil, Option.map_none, ite_self]

theorem HasRoom.readFields_eq (h : HasRoom p v) :
    p.readFields = (fieldGroups? p.text).map fun gs => .fields (gs.map p.derive) := by
  unfold readFields
  rcases h with h | ⟨h, -⟩
  · rw [if_pos h]
  · rw [h, fieldGroups?_nil, Option.map_none, ite_self]

theorem HasRoom.readProperty_eq (h : HasRoom p v) :
    p.readProperty = (pathAndRest? p.text).map fun (names, t) => .property names (p.derive t) := by
  unfold readProperty
  rcases h with h | ⟨h, -⟩
  · rw [if_pos h]
  · rw [h, pathAndRest?_nil, Option.map_none, ite_self]

theorem HasRoom.readList_eq {vs : List Value} (h : HasRoom p (.list vs)) :
    p.readList = some (.list ((listItems p.text).map p.derive)) := by
  unfold readList
  rcases h with h | ⟨-, h⟩
  · rw [if_pos h]
  · cases h

theorem zipWith_congr_of_mem {α β γ : Type} {f g : α → β → γ} :
    ∀ {as : List α} {bs : List β}, (∀ a ∈ as, ∀ b ∈ bs, f a b = g a b) →
      List.zipWith f as bs = List.zipWith g as bs
  | [], _, _ => rfl
  | _ :: _, [], _ => rfl
  | a :: as, b :: bs, h => by
    rw [List.zipWith_cons_cons, List.zipWith_cons_cons,
      h a List.mem_cons_self b List.mem_cons_self,
      zipWith_congr_of_mem fun a ha b hb =>
        h a (List.mem_cons_of_mem _ ha) b (List.mem_cons_of_mem _ hb)]

/-- What holds wherever two lists are put together holds of all that comes of it. -/
theorem forall_mem_zipWith {α β γ : Type} {f : α → β → γ} {P : γ → Prop} {as : List α}
    {bs : List β} (h : ∀ a ∈ as, ∀ b ∈ bs, P (f a b)) : ∀ c ∈ List.zipWith f as bs, P c := by
  intro c hc
  simp only [List.mem_iff_getElem, List.getElem_zipWith] at hc
  obtain ⟨i, hi, rfl⟩ := hc
  exact h _ (List.getElem_mem _) _ (List.getElem_mem _)

variable {j j' : Judge}

theorem asks_congr {t : List Char}
    (h : ∀ b, j (p.derive t) w b = j' (p'.derive t) w b) :
    asks j (p.derive t) w = asks j' (p'.derive t) w := by
  funext b
  simp only [asks, h]

/-- The items of a list are asked alike if they judge the elements alike. -/
theorem asksList_congr {items : List (List Char)} {vs : List Value}
    (h : ∀ t ∈ items, ∀ w ∈ vs, asks j (p.derive t) w = asks j' (p'.derive t) w) (mode : Mode) :
    asksList j (items.map p.derive) vs mode = asksList j' (items.map p'.derive) vs mode := by
  cases mode with
  | exact =>
    simp only [asksList, List.length_map, List.zipWith_map_left]
    rw [zipWith_congr_of_mem h]
  | inclusive =>
    simp only [asksList, List.map_map]
    congr 1
    refine List.map_congr_left fun t ht => ?_
    exact congrArg Test.any (List.map_congr_left fun w hw => h t ht w hw)

/-- **Dialects judge alike** if the sub-patterns do about everything that is handed on. -/
theorem verdictOf_congr (h : Alike p p') (hp : HasRoom p v) (hp' : HasRoom p' v)
    (hj : ∀ t w, Delegates p.text v t w → ∀ b, j (p.derive t) w b = j' (p'.derive t) w b)
    (b : Bindings) (d : Dialect) :
    verdictOf j p (d.read p) v b d = verdictOf j' p' (d.read p') v b d := by
  cases d with
  | anything => simp only [verdictOf, judgeAnything, h.text]
  | nullOrEmpty =>
    simp only [verdictOf, judgeNullOrEmpty, textEquals, h.text, h.ignoreCase]
    rfl
  | capture => simp only [verdictOf, Dialect.read, readCapture, h.text]
  | glob => simp only [verdictOf, Dialect.read, readGlob, h.text, h.ignoreCase]
  | comparison => simp only [verdictOf, Dialect.read, readComparison, h.text]
  | range => simp only [verdictOf, Dialect.read, readRange, h.text]
  | regex => simp only [verdictOf, Dialect.read, readRegex, h.text]
  | negation =>
    simp only [Dialect.read, hp.readNegation_eq, hp'.readNegation_eq, ← h.text]
    cases ho : operandOfNegation? p.text with
    | none => rfl
    | some t => simp only [verdictOf, Option.map_some, hj t v (.operand ho)]
  | list =>
    cases v with
    | list vs =>
      simp only [Dialect.read, hp.readList_eq, hp'.readList_eq, verdictOf, ← h.text, ← h.mode]
      rw [asksList_congr fun t ht w hw => asks_congr (hj t w (.element ht rfl hw))]
    | _ =>
      simp only [Dialect.read, readList, verdictOf]
      split_ifs <;> rfl
  | multiField =>
    simp only [Dialect.read, hp.readFields_eq, hp'.readFields_eq, ← h.text]
    cases hg : fieldGroups? p.text with
    | none => rfl
    | some gs =>
      simp only [verdictOf, Option.map_some, List.map_map]
      congr 2
      exact List.map_congr_left fun t ht => asks_congr (hj t v (.group hg ht))
  | property =>
    simp only [Dialect.read, hp.readProperty_eq, hp'.readProperty_eq, ← h.text]
    cases hr : pathAndRest? p.text with
    | none => rfl
    | some r =>
      obtain ⟨names, t⟩ := r
      simp only [verdictOf, Option.map_some, asks_congr (hj t (v.path names) (.member hr))]

/-! ## Levels -/

/-- Matchers that judge alike give alike first verdicts. -/
theorem firstVerdict_congr {ms : List Matcher}
    (h : ∀ m ∈ ms, ∀ b, verdictFrom j p (m.read p) v b m = verdictFrom j' p' (m.read p') v b m)
    (b : Bindings) : firstVerdict j ms p v b = firstVerdict j' ms p' v b := by
  induction ms generalizing b with
  | nil => rfl
  | cons m ms ih =>
    simp only [firstVerdict, h m List.mem_cons_self b]
    rw [ih fun m' hm' => h m' (List.mem_cons_of_mem m hm')]

theorem levels_derive_of_levels_eq {n : Nat} (h : p.levels = n + 2) (t : List Char) :
    (p.derive t).levels = n + 1 := by
  simp only [levels, derive] at h ⊢
  omega

theorem canDerive_iff_of_levels_eq {n : Nat} (h : p.levels = n + 1) :
    p.canDerive = true ↔ 0 < n := by
  simp only [levels] at h
  simp only [canDerive, decide_eq_true_eq]
  omega

theorem canDerive_of_levels_eq_one (h : p.levels = 1) : p.canDerive = false := by
  rw [← Bool.not_eq_true, canDerive_iff_of_levels_eq h]
  exact Nat.lt_irrefl 0

theorem hasRoom_of_le {n : Nat} (h : p.levels = n + 1) (hn : p.text.length + v.nesting ≤ n) :
    HasRoom p v := by
  cases n with
  | zero =>
    right
    rw [← List.length_eq_zero_iff]
    omega
  | succ n =>
    left
    simp only [levels] at h
    simp only [canDerive, decide_eq_true_eq]
    omega

/-- **Chains of dialects judge alike** if the sub-patterns do about everything that is handed
on. -/
theorem chainVerdict_congr (h : Alike p p') (hc : p.settings.chain.IsBuiltIn) (hp : HasRoom p v)
    (hp' : HasRoom p' v)
    (hj : ∀ t w, Delegates p.text v t w → ∀ b, j (p.derive t) w b = j' (p'.derive t) w b)
    (b : Bindings) : chainVerdict j p v b = chainVerdict j' p' v b := by
  unfold chainVerdict
  rw [← h.chain]
  refine firstVerdict_congr (fun m hmem b => ?_) b
  obtain ⟨d, rfl⟩ := hc m hmem
  exact verdictOf_congr h hp hp' hj b d

/-- **Levels beyond need do not matter.** Patterns that are alike, and that can still be derived
as often as the text is long and the value nested, judge alike. -/
theorem chainVerdict_eq_of_alike (h : Alike p p') (hc : p.settings.chain.IsBuiltIn) {n n' : Nat}
    (hn : p.levels = n + 1) (hn' : p'.levels = n' + 1) (hle : p.text.length + v.nesting ≤ n)
    (hle' : p.text.length + v.nesting ≤ n') (b : Bindings) :
    chainVerdict (freshWithin n) p v b = chainVerdict (freshWithin n') p' v b := by
  induction hm : p.text.length + v.nesting using Nat.strong_induction_on
    generalizing p p' v n n' b with
  | _ m ih =>
    have hp : HasRoom p v := hasRoom_of_le hn hle
    have hp' : HasRoom p' v := hasRoom_of_le hn' (h.text ▸ hle')
    refine chainVerdict_congr h hc hp hp' (fun t w hd b => ?_) b
    have hlt := hd.measure_lt
    obtain ⟨n, rfl⟩ : ∃ k, n = k + 1 := ⟨n - 1, by omega⟩
    obtain ⟨n', rfl⟩ : ∃ k, n' = k + 1 := ⟨n' - 1, by omega⟩
    rw [freshWithin_of_not_isRoot rfl, freshWithin_of_not_isRoot rfl]
    exact ih (t.length + w.nesting) (by omega) (h.derive t) hc (levels_derive_of_levels_eq hn t)
      (levels_derive_of_levels_eq hn' t) (by change t.length + _ ≤ _; omega)
      (by change t.length + _ ≤ _; omega) b rfl

/-! ## Patterns of their own -/

/-- A pattern that has read nothing judges as if there were no caches at all. -/
theorem run_of_cache_eq_nil (hc : p.settings.chain.IsRegular) (h : p.cache = []) (v : Value) :
    p.run v = p.fresh v [] := by
  have hp : Coherent p.levels p := coherent_of_cache_eq_nil hc h _
  obtain ⟨hv, hb, -⟩ := evaluate_of_coherent hp v ⟨[], []⟩
  have hforget : p.forget = p := by
    obtain ⟨text, settings, isRoot, depth, cache⟩ := p
    obtain rfl : cache = [] := h
    rfl
  rw [hforget] at hv hb
  exact Prod.ext hv hb

/-- A new pattern judges as if there were no caches at all. -/
theorem run_root {s : Settings} (hc : s.chain.IsRegular) (text : List Char) (v : Value) :
    (root s text).run v = (root s text).fresh v [] :=
  run_of_cache_eq_nil hc rfl v

/-- The variables of a new pattern are those of its chain after a match, and none otherwise. -/
theorem run_root_eq {s : Settings} (hc : s.chain.IsRegular) (text : List Char) (v : Value) :
    (root s text).run v =
      ((chainVerdict (freshWithin s.depthLimit) (root s text) v []).1,
        if (chainVerdict (freshWithin s.depthLimit) (root s text) v []).1 = .isMatch then
          (chainVerdict (freshWithin s.depthLimit) (root s text) v []).2 else []) := by
  have hlevels : (root s text).levels = s.depthLimit + 1 := rfl
  rw [run_root hc, fresh, hlevels, freshWithin_of_isRoot rfl]

theorem verdict_root {s : Settings} (hc : s.chain.IsRegular) (text : List Char) (v : Value) :
    ((root s text).run v).1 =
      (chainVerdict (freshWithin s.depthLimit) (root s text) v []).1 := by
  rw [run_root_eq hc]

theorem isMatch_root_iff {s : Settings} (hc : s.chain.IsRegular) (text : List Char) (v : Value) :
    (root s text).isMatch v = true ↔
      (chainVerdict (freshWithin s.depthLimit) (root s text) v []).1 = .isMatch := by
  rw [isMatch, verdict_root hc, decide_eq_true_eq]

/-- A part of a text is judged by a derived pattern as it is by a pattern of its own. -/
theorem freshWithin_derive {s : Settings} (hc : s.chain.IsBuiltIn) {text t : List Char} {w : Value}
    (h : t.length + w.nesting < s.depthLimit) (b : Bindings) :
    freshWithin s.depthLimit ((root s text).derive t) w b =
      chainVerdict (freshWithin s.depthLimit) (root s t) w b := by
  obtain ⟨n, hn⟩ : ∃ n, s.depthLimit = n + 1 := ⟨s.depthLimit - 1, by omega⟩
  have halike : Alike (root s t) ((root s text).derive t) := ⟨rfl, rfl, rfl, rfl⟩
  have hlevels : (root s t).levels = s.depthLimit + 1 := rfl
  have hlevels' : ((root s text).derive t).levels = n + 1 :=
    levels_derive_of_levels_eq (p := root s text) (congrArg (· + 1) hn) t
  have hle : t.length + w.nesting ≤ n := by omega
  rw [chainVerdict_eq_of_alike halike hc hlevels hlevels' h.le hle, hn,
    freshWithin_of_not_isRoot rfl]

/-- A part of a text is matched by a derived pattern exactly if it is as a pattern of its own. -/
theorem isMatch_root_iff_derive {s : Settings} (hc : s.chain.IsBuiltIn) {text t : List Char}
    {w : Value} (h : t.length + w.nesting < s.depthLimit) :
    (root s t).isMatch w = true ↔
      (freshWithin s.depthLimit ((root s text).derive t) w []).1 = .isMatch := by
  rw [isMatch_root_iff hc.isRegular, freshWithin_derive hc h]

end Pattern

end Sift
