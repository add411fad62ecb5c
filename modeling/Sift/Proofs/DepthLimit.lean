import Sift.Proofs.Calls

/-!
# The depth limit

Patterns at the depth limit derive no further, so that a pattern of many negations does not exhaust
the stack. Ordinary inputs never notice.

**No limit at all.** A judge knows no limit if it lets every pattern derive, however deep it lies
(`Pattern.IsUnlimited`). Such a judge goes down as far as texts and values take it, which is a
bounded way (`Pattern.isUnlimited_unlimited`).

**Main result.** If the text is short enough for the value, as measured by its length and the
nesting of the value, then the limit changes neither the verdict nor the variables, and no pattern
beyond it is evaluated (`run_of_depthLimit`).
-/

namespace Sift

/-- The settings with another depth limit. -/
def Settings.withLimit (s : Settings) (limit : Nat) : Settings := { s with depthLimit := limit }

namespace Pattern

variable {p p' : Pattern} {v : Value} {j j' : Judge}

/-! ## Judging without a limit -/

/-- The pattern with another depth limit. -/
def withLimit (p : Pattern) (limit : Nat) : Pattern :=
  { p with settings := p.settings.withLimit limit }

/-- The pattern with its limit out of reach. -/
def withRoom (p : Pattern) : Pattern := p.withLimit (p.depth + 1)

/-- The judge lets every pattern derive, wherever it stands in a derivation. -/
def IsUnlimited (j : Judge) : Prop :=
  ∀ p : Pattern, p.settings.chain.IsBuiltIn → ∀ v b, j p v b = judgeLevel j p.withRoom v b

theorem hasRoom_withRoom (p : Pattern) (v : Value) : HasRoom p.withRoom v :=
  .inl (decide_eq_true (Nat.lt_succ_self p.depth))

theorem Alike.withRoom_left (h : Alike p p') : Alike p.withRoom p' :=
  ⟨h.text, h.chain, h.mode, h.ignoreCase⟩

theorem judgeLevel_congr (hroot : p.isRoot = p'.isRoot)
    (h : ∀ b, chainVerdict j p v b = chainVerdict j' p' v b) (b : Bindings) :
    judgeLevel j p v b = judgeLevel j' p' v b := by
  simp only [judgeLevel, hroot, h]

/-- **No limit is like a limit out of reach.** -/
theorem IsUnlimited.chainVerdict_eq (hj : IsUnlimited j) (h : Alike p p')
    (hc : p.settings.chain.IsBuiltIn) {n : Nat} (hn : p'.levels = n + 1)
    (hle : p.text.length + v.nesting ≤ n) (b : Bindings) :
    chainVerdict j p.withRoom v b = chainVerdict (freshWithin n) p' v b := by
  induction hm : p.text.length + v.nesting using Nat.strong_induction_on
    generalizing p p' v n b with
  | _ m ih =>
    have hp' : HasRoom p' v := hasRoom_of_le hn (h.text ▸ hle)
    refine chainVerdict_congr h.withRoom_left hc (hasRoom_withRoom p v) hp' (fun t w hd b => ?_) b
    have hlt : t.length + w.nesting < p.text.length + v.nesting := hd.measure_lt
    obtain ⟨n, rfl⟩ : ∃ k, n = k + 1 := ⟨n - 1, by omega⟩
    rw [hj (p.withRoom.derive t) hc, freshWithin_of_not_isRoot rfl]
    exact ih (t.length + w.nesting) (by omega) (h.withRoom_left.derive t) hc
      (levels_derive_of_levels_eq hn t) (by change t.length + _ ≤ _; omega) b rfl

/-- The pattern with as many levels left as its text and the value can take. -/
def withRoomFor (p : Pattern) (v : Value) : Pattern :=
  p.withLimit (p.depth + (p.text.length + v.nesting))

theorem levels_withRoomFor (p : Pattern) (v : Value) :
    (p.withRoomFor v).levels = p.text.length + v.nesting + 1 := by
  simp only [levels, withRoomFor, withLimit, Settings.withLimit]
  omega

theorem hasRoom_withRoomFor (p : Pattern) (v : Value) : HasRoom (p.withRoomFor v) v :=
  hasRoom_of_le (levels_withRoomFor p v) (Nat.le_refl _)

/-- The judge that finds as many levels as it takes, pattern by pattern. -/
def unlimited : Judge := fun p v b => (p.withRoomFor v).fresh v b

/-- **There is a judge without a limit**, since whatever is handed on is smaller. -/
theorem isUnlimited_unlimited : IsUnlimited unlimited := by
  intro p hc v b
  have halike : Alike (p.withRoomFor v) p.withRoom := ⟨rfl, rfl, rfl, rfl⟩
  have hlevels := levels_withRoomFor p v
  rw [unlimited, fresh, hlevels, freshWithin_succ]
  refine judgeLevel_congr (by rfl) (chainVerdict_congr halike hc (hasRoom_withRoomFor p v)
    (hasRoom_withRoom p v) fun t w hd b => ?_) b
  have hlt : t.length + w.nesting < p.text.length + v.nesting := hd.measure_lt
  obtain ⟨n, hn⟩ : ∃ n, p.text.length + v.nesting = n + 1 :=
    ⟨p.text.length + v.nesting - 1, by omega⟩
  have hderive : Alike ((p.withRoomFor v).derive t) ((p.withRoom.derive t).withRoomFor w) :=
    ⟨rfl, rfl, rfl, rfl⟩
  rw [unlimited, fresh, levels_withRoomFor, hn, freshWithin_of_not_isRoot rfl,
    freshWithin_of_not_isRoot rfl]
  exact chainVerdict_eq_of_alike hderive hc
    (levels_derive_of_levels_eq (hlevels.trans (congrArg (· + 1) hn)) t)
    (levels_withRoomFor (p.withRoom.derive t) w) (by change t.length + _ ≤ _; omega)
    (Nat.le_refl _) b

/-! ## Patterns of their own -/

variable {text : List Char}

/-- Limits that the text and the value do not reach are alike. -/
theorem run_root_withLimit {s : Settings} (hc : s.chain.IsBuiltIn) {limit : Nat}
    (hsize : text.length + v.nesting ≤ s.depthLimit) (hle : s.depthLimit ≤ limit) :
    (root (s.withLimit limit) text).run v = (root s text).run v := by
  have hc' : (s.withLimit limit).chain.IsBuiltIn := hc
  have hlevels : (root s text).levels = s.depthLimit + 1 := rfl
  have hlevels' : (root (s.withLimit limit) text).levels = limit + 1 := rfl
  have halike : Alike (root (s.withLimit limit) text) (root s text) := ⟨rfl, rfl, rfl, rfl⟩
  rw [run_root hc.isRegular, run_root hc'.isRegular, fresh, fresh, hlevels, hlevels',
    freshWithin_succ, freshWithin_succ]
  exact judgeLevel_congr (by rfl)
    (chainVerdict_eq_of_alike halike hc' hlevels' hlevels (hsize.trans hle) hsize) []

theorem IsUnlimited.run_root {s : Settings} (hj : IsUnlimited j) (hc : s.chain.IsBuiltIn)
    (hsize : text.length + v.nesting ≤ s.depthLimit) :
    j (root s text) v [] = (root s text).run v := by
  have hlevels : (root s text).levels = s.depthLimit + 1 := rfl
  rw [Pattern.run_root hc.isRegular, hj (root s text) hc, fresh, hlevels, freshWithin_succ]
  exact judgeLevel_congr (by rfl)
    (hj.chainVerdict_eq (p := root s text) ⟨rfl, rfl, rfl, rfl⟩ hc hlevels hsize) []

/-- **The depth limit does not show** where the text and the value together are within it: any
greater limit and no limit at all give the same verdict and the same variables, and no pattern that
lies deeper is evaluated under any of these limits. -/
theorem run_of_depthLimit (mode : Mode) (ignoreCase : Bool)
    (hsize : text.length + v.nesting ≤ Settings.defaultDepthLimit) :
    (∀ limit, Settings.defaultDepthLimit ≤ limit →
      (root ((Settings.standardWith mode ignoreCase).withLimit limit) text).run v =
        (root (.standardWith mode ignoreCase) text).run v) ∧
    (∀ j, IsUnlimited j → j (root (.standardWith mode ignoreCase) text) v [] =
      (root (.standardWith mode ignoreCase) text).run v) ∧
    ∀ limit, Settings.defaultDepthLimit ≤ limit →
      let watched := (root ((Settings.standardWith mode ignoreCase).withLimit limit) text).watch
        v ⟨[], []⟩
      (watched.1, watched.2.2.bindings) = (root (.standardWith mode ignoreCase) text).run v ∧
        watched.2.2.LoggedTo Settings.defaultDepthLimit := by
  have hc : (Settings.standardWith mode ignoreCase).chain.IsBuiltIn := Chain.isBuiltIn_standard
  have hlimits : ∀ limit, Settings.defaultDepthLimit ≤ limit →
      (root ((Settings.standardWith mode ignoreCase).withLimit limit) text).run v =
        (root (.standardWith mode ignoreCase) text).run v :=
    fun limit hle => run_root_withLimit hc hsize hle
  refine ⟨hlimits, fun j hj => hj.run_root hc hsize, fun limit hle => ?_⟩
  have hc' : ((Settings.standardWith mode ignoreCase).withLimit limit).chain.IsRegular :=
    hc.isRegular
  refine ⟨(watch_root hc' text v).trans (hlimits limit hle), fun e he => ?_⟩
  exact (loggedTo_watch hc' text v e he).trans hsize

/-- As many negations as fit. -/
def sampleNegations : List Char := List.replicate 255 '!' ++ ['1']

theorem run_sampleNegations :
    (sampleNegations.length + Value.null.nesting ≤ Settings.defaultDepthLimit ∧
      Settings.defaultDepthLimit ≤ 1000 ∧ IsUnlimited unlimited) ∧
    (root ((Settings.standardWith .exact true).withLimit 1000) sampleNegations).run .null =
      (root (.standardWith .exact true) sampleNegations).run .null ∧
    unlimited (root (.standardWith .exact true) sampleNegations) .null [] =
      (root (.standardWith .exact true) sampleNegations).run .null ∧
    ((root ((Settings.standardWith .exact true).withLimit 1000) sampleNegations).watch
      .null ⟨[], []⟩).2.2.LoggedTo Settings.defaultDepthLimit := by
  have hsize : sampleNegations.length + Value.null.nesting ≤ Settings.defaultDepthLimit := by
    rw [sampleNegations, List.length_append, List.length_replicate]
    decide
  have hlimit : Settings.defaultDepthLimit ≤ 1000 := by decide
  obtain ⟨hlimits, hnone, hlog⟩ := run_of_depthLimit .exact true hsize
  exact ⟨⟨hsize, hlimit, isUnlimited_unlimited⟩, hlimits 1000 hlimit,
    hnone unlimited isUnlimited_unlimited, (hlog 1000 hlimit).2⟩

end Pattern

end Sift
