import Sift.Proofs.Steady

/-!
# Lists in inclusive mode

In inclusive mode every item of a pattern has to match some element of a list, wherever it stands.
Without variables that is all there is to it (`judgeList_inclusive`), and so the order of the
elements does not matter (`judgeList_perm`).

**Variables** make the order matter. An attempt that fails half-way leaves variables bound, and the
next element is judged with them.
-/

namespace Sift.Pattern

variable {p : Pattern} {xs ys : List Value}

/-- A list pattern without variables matches in inclusive mode exactly if each of its items matches
some element. -/
theorem judgeList_inclusive (hc : p.settings.chain.IsRegular) (hmode : p.settings.mode = .inclusive)
    (hp : ¬ HasVariable p.text) (hcan : p.canDerive = true) (xs : List Value) (s : State) :
    (p.judgeDialect evaluate (Dialect.list.read p) (.list xs) s .list).1 =
      .matchOrDefer (decide (∀ t ∈ listItems p.text, ∃ w ∈ xs,
        ((p.derive t).fresh w []).1 = .isMatch)) := by
  have hread : Dialect.list.read p = some (.list ((listItems p.text).map p.derive)) := if_pos hcan
  have hsteady : ∀ q ∈ (listItems p.text).map p.derive, ∀ w ∈ xs, Steady (asks fresh q w) := by
    refine List.forall_mem_map.2 fun t ht w _ => ?_
    have hd : Delegates p.text (.list [w]) t w := .element ht rfl (List.mem_singleton_self w)
    exact steady_asks (freshWithin_steady (fun h => hp (.part hd h)) rfl _ w)
  have hkept : Reading.Kept (fun q q₀ => Agrees q₀.levels q q₀) (Dialect.list.read p)
      (Dialect.list.read p) := by
    rw [hread]
    refine .some (.list (List.forall₂_same.2 fun q hq => ?_))
    obtain ⟨t, -, rfl⟩ := List.mem_map.1 hq
    exact agrees_derive hc _ t
  have hjudge := (mirrors_evaluate.judge p hkept (.list xs) s (.builtIn .list)).1
  change (p.judgeDialect evaluate (Dialect.list.read p) (.list xs) s .list).1 = _ at hjudge
  rw [hjudge, hread]
  simp only [verdictFrom, verdictOf, hmode, asksList_of_steady hsteady, deferring]
  exact congrArg Verdict.matchOrDefer (decide_eq_decide.2 (Mode.relates_map_left .inclusive))

/-- **The order of the elements does not matter** to a list pattern without variables in inclusive
mode. -/
theorem judgeList_perm (hc : p.settings.chain.IsRegular) (hmode : p.settings.mode = .inclusive)
    (hp : ¬ HasVariable p.text) (h : xs.Perm ys) (s : State) :
    (p.judgeDialect evaluate (Dialect.list.read p) (.list xs) s .list).1 =
      (p.judgeDialect evaluate (Dialect.list.read p) (.list ys) s .list).1 := by
  cases hcan : p.canDerive with
  | true =>
    rw [judgeList_inclusive hc hmode hp hcan, judgeList_inclusive hc hmode hp hcan]
    simp only [h.mem_iff]
  | false =>
    have hread : Dialect.list.read p = none := if_neg (by simp [hcan])
    rw [hread]
    rfl

/-- A standard pattern in inclusive mode with two items. -/
def samplePattern : Pattern := root (.standardWith .inclusive true) "a:null, b:empty".toList

/-- Two maps, each of which is matched by one of the items. -/
def samplePair : Value × Value :=
  (.map [("a", .null), ("b", .string "s")], .map [("a", .bool true), ("b", .string "")])

theorem judgeList_samplePattern :
    (samplePattern.settings.chain.IsRegular ∧ samplePattern.settings.mode = .inclusive ∧
      ¬ HasVariable samplePattern.text ∧
      [samplePair.1, samplePair.2].Perm [samplePair.2, samplePair.1]) ∧
    (samplePattern.judgeDialect evaluate (Dialect.list.read samplePattern)
        (.list [samplePair.1, samplePair.2]) ⟨[], []⟩ .list).1 = .isMatch ∧
      (samplePattern.judgeDialect evaluate (Dialect.list.read samplePattern)
        (.list [samplePair.2, samplePair.1]) ⟨[], []⟩ .list).1 = .isMatch := by
  have hc : samplePattern.settings.chain.IsRegular := Chain.isBuiltIn_standard.isRegular
  have hp : ¬ HasVariable samplePattern.text := not_hasVariable_of_not_mem (by decide)
  have hperm : [samplePair.1, samplePair.2].Perm [samplePair.2, samplePair.1] := .swap _ _ _
  have hmatch : (samplePattern.judgeDialect evaluate (Dialect.list.read samplePattern)
      (.list [samplePair.1, samplePair.2]) ⟨[], []⟩ .list).1 = .isMatch := by decide +kernel
  exact ⟨⟨hc, rfl, hp, hperm⟩, hmatch, (judgeList_perm hc rfl hp hperm ⟨[], []⟩).symm.trans hmatch⟩

/-- A truth value, and a map that holds it. -/
def sampleElements : Value × Value := (.bool true, .map [("a", .bool true)])

/-- **Variables make the order matter.** The first item binds the variable to the first element, so
that the second item can only be passed if the map comes last. -/
theorem judgeList_of_variable :
    [sampleElements.1, sampleElements.2].Perm [sampleElements.2, sampleElements.1] ∧
    let p := root (.standardWith .inclusive true) "$x,a:$x".toList
    (p.judgeDialect evaluate (Dialect.list.read p) (.list [sampleElements.1, sampleElements.2])
        ⟨[], []⟩ .list).1 = .isMatch ∧
      (p.judgeDialect evaluate (Dialect.list.read p) (.list [sampleElements.2, sampleElements.1])
        ⟨[], []⟩ .list).1 = .indeterminate :=
  ⟨.swap _ _ _, by decide +kernel⟩

/-- Two maps, of which only the second one has an empty `b`. -/
def sampleMaps : Value × Value :=
  (.map [("a", .bool true), ("b", .string "s")], .map [("a", .bool false), ("b", .string "")])

-- A single occurrence is enough: the attempt at the first map fails with the variable bound.
example :
    let p := root (.standardWith .inclusive true) "a:$x b:empty".toList
    (p.judgeDialect evaluate (Dialect.list.read p) (.list [sampleMaps.1, sampleMaps.2]) ⟨[], []⟩
        .list).1 = .indeterminate ∧
      (p.judgeDialect evaluate (Dialect.list.read p) (.list [sampleMaps.2, sampleMaps.1]) ⟨[], []⟩
        .list).1 = .isMatch := by
  decide +kernel

end Sift.Pattern
