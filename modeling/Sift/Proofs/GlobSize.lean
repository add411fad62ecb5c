import Mathlib.Algebra.BigOperators.Ring.List
import Mathlib.Algebra.Ring.Nat
import Mathlib.Data.List.SplitBy
import Sift.Pattern.Glob
import Sift.Proofs.FormLanguage

/-!
# The size of globs

An automaton grows with every part of a glob, by no more than a fixed amount if case is respected:
a literal character takes as many states as it has bytes, and a wildcard takes those for the set of
all characters. How many nodes of that set are shared does not matter for the bound.

**Main result.** A glob of ordinary length is not too large (`Glob.fits_of_length_le`).
-/

namespace Sift

namespace Regex

/-! ## States one by one -/

namespace Extent

@[simp] theorem size_addWith (lists : Nat) (e : Extent) :
    (e.addWith lists).size = e.size + (stateSize + lists) := by
  simp only [addWith, size, Nat.mul_add]
  omega

@[simp] theorem size_add (states : Nat) (e : Extent) :
    (e.add states).size = e.size + stateSize * states := by
  simp only [add, size, Nat.mul_add]
  omega

@[simp] theorem size_fork (branches : Nat) (e : Extent) :
    (e.fork branches).size = e.size + (stateSize + branchSize * branches) :=
  size_addWith _ e

@[simp] theorem size_switch (links : Nat) (e : Extent) :
    (e.switch links).size = e.size + (stateSize + linkSize * links) :=
  size_addWith _ e

end Extent

/-- A node takes a state and a list at most. -/
theorem Draft.size_node_le (key : List Nat) (lists : Nat) (d : Draft) :
    (d.node key lists).2.extent.size ≤ d.extent.size + (stateSize + lists) := by
  unfold node
  split
  · exact Nat.le_add_right _ _
  · exact Nat.le_of_eq (Extent.size_addWith _ _)

/-- What every step adds bounds what all of them add. -/
theorem foldl_le_sum {α β : Type} (size : β → Nat) (cost : α → Nat) {f : β → α → β} {l : List α}
    (h : ∀ a ∈ l, ∀ b, size (f b a) ≤ size b + cost a) (b : β) :
    size (l.foldl f b) ≤ size b + (l.map cost).sum := by
  induction l generalizing b with
  | nil => exact Nat.le_add_right _ _
  | cons a l ih =>
    have hrest := ih (fun x hx => h x (List.mem_cons_of_mem a hx)) (f b a)
    have hfirst := h a List.mem_cons_self b
    simp only [List.foldl_cons, List.map_cons, List.sum_cons]
    omega

/-! ## Sets -/

namespace SetNodes

open Unicode

theorem sum_length_splitBy {α : Type} (r : α → α → Bool) (l : List α) :
    ((l.splitBy r).map List.length).sum = l.length := by
  rw [← List.length_flatten, List.flatten_splitBy]

theorem length_splitBy_le {α : Type} (r : α → α → Bool) (l : List α) :
    (l.splitBy r).length ≤ l.length := by
  have hone : ∀ n ∈ (l.splitBy r).map List.length, 1 ≤ n := by
    intro n hn
    obtain ⟨group, hgroup, rfl⟩ := List.mem_map.1 hn
    exact List.length_pos_iff.2 (ne_of_mem_of_not_mem hgroup (List.nil_notMem_splitBy r l))
  calc (l.splitBy r).length = ((l.splitBy r).map List.length).length := by rw [List.length_map]
    _ ≤ ((l.splitBy r).map List.length).sum := List.length_le_sum_of_one_le _ hone
    _ = l.length := sum_length_splitBy r l

/-- What the sequences that begin alike add: what follows their first range, and a link to it. -/
def addGroup (goal depth : Nat) (laidOut : List Nat × Draft) (group : List (List ByteRange)) :
    List Nat × Draft :=
  match group with
  | (range :: _) :: _ =>
    let (target, d) := addForward goal depth (group.map List.tail) laidOut.2
    (target :: range.2 :: range.1 :: laidOut.1, d)
  | _ => laidOut

theorem addForward_succ (goal depth : Nat) {sequences : List (List ByteRange)}
    (h : sequences.all List.isEmpty = false) (d : Draft) :
    addForward goal (depth + 1) sequences d =
      let groups := sequences.splitBy fun a b => a.head? == b.head?
      let laidOut := groups.foldl (addGroup goal depth) ([], d)
      laidOut.2.node laidOut.1.reverse (linkSize * groups.length) := by
  rw [addForward, h]
  rfl

/-- Forward, every sequence takes a state and a link for each of its ranges at most. -/
theorem size_addForward_le (goal depth : Nat) (sequences : List (List ByteRange)) (d : Draft) :
    (addForward goal depth sequences d).2.extent.size ≤
      d.extent.size + depth * (stateSize + linkSize) * sequences.length := by
  induction depth generalizing sequences d with
  | zero => exact Nat.le_add_right _ _
  | succ depth ih =>
    cases hempty : sequences.all List.isEmpty with
    | true =>
      rw [addForward, if_pos hempty]
      exact Nat.le_add_right _ _
    | false =>
      have hgroup : ∀ group acc, (addGroup goal depth acc group).2.extent.size ≤
          acc.2.extent.size + depth * (stateSize + linkSize) * group.length := by
        intro group acc
        unfold addGroup
        split
        · next range tail rest =>
          have h := ih (((range :: tail) :: rest).map List.tail) acc.2
          rwa [List.length_map] at h
        · exact Nat.le_add_right _ _
      have hpos : 0 < sequences.length := by
        refine List.length_pos_iff.2 ?_
        rintro rfl
        cases hempty
      have hsum := sum_length_splitBy (fun a b => a.head? == b.head?) sequences
      have hlength := length_splitBy_le (fun a b => a.head? == b.head?) sequences
      rw [addForward_succ goal depth hempty]
      dsimp only
      generalize sequences.splitBy (fun a b => a.head? == b.head?) = groups at hsum hlength ⊢
      have hlinks := foldl_le_sum (fun acc : List Nat × Draft => acc.2.extent.size)
        (fun group => depth * (stateSize + linkSize) * group.length)
        (fun group (_ : group ∈ groups) acc => hgroup group acc) ([], d)
      have hnode := Draft.size_node_le (groups.foldl (addGroup goal depth) ([], d)).1.reverse
        (linkSize * groups.length) (groups.foldl (addGroup goal depth) ([], d)).2
      rw [List.sum_map_mul_left, hsum] at hlinks
      have hsplit : (depth + 1) * (stateSize + linkSize) * sequences.length =
          depth * (stateSize + linkSize) * sequences.length +
            (stateSize + linkSize) * sequences.length := by
        rw [Nat.succ_mul, Nat.add_mul]
      simp only [stateSize, linkSize] at *
      omega

/-- Backward, every sequence takes a state for each of its ranges at most. -/
theorem size_addBackward_le (goal : Nat) (sequence : List ByteRange) (d : Draft) :
    (addBackward goal sequence d).extent.size ≤ d.extent.size + stateSize * sequence.length := by
  have h := foldl_le_sum (fun acc : Nat × Draft => acc.2.extent.size) (fun _ => stateSize)
    (f := fun acc range => acc.2.node [acc.1, range.1, range.2] 0) (l := sequence)
    (fun range _ acc => Draft.size_node_le _ _ _) (goal, d)
  rw [List.map_const', List.sum_replicate_nat, Nat.mul_comm] at h
  exact h

/-- What a set takes at most. -/
def cost (s : CodeSet) : Nat :=
  3 * stateSize + linkSize * s.ranges.length +
    (4 * (stateSize + linkSize) + branchSize) * s.byteSequences.length +
    stateSize * (s.byteSequences.map List.length).sum

theorem size_add_le (direction : Direction) (s : CodeSet) (e : Extent) :
    (add direction s e).size ≤ e.size + cost s := by
  unfold add cost
  split_ifs with hascii
  · simp only [Extent.size_switch, Extent.size_add]
    omega
  · cases direction with
    | forward =>
      have h := size_addForward_le e.states 4 s.byteSequences ⟨e.add 1, .empty forwardPlaces⟩
      simp only [Extent.size_add] at h
      simp only [stateSize, linkSize, branchSize] at *
      omega
    | backward =>
      have h := foldl_le_sum (fun d : Draft => d.extent.size)
        (fun sequence => stateSize * sequence.length)
        (f := fun d sequence => addBackward (e.states + 1) sequence d) (l := s.byteSequences)
        (fun sequence _ d => size_addBackward_le _ _ _)
        ⟨(e.fork s.byteSequences.length).add 1, .empty backwardPlaces⟩
      rw [List.sum_map_mul_left] at h
      simp only [Extent.size_fork, Extent.size_add] at h
      simp only [stateSize, linkSize, branchSize] at *
      omega

end SetNodes

/-! ## Forms -/

namespace Form

variable {f : Form} {forms : List Form} {k m : Nat} {text : List Char}

/-- Reading forward or backward, the form adds no more than this to the size. -/
def Bounded (k : Nat) (f : Form) : Prop :=
  ∀ direction e, (f.extend direction e).size ≤ e.size + k

/-- Reading forward or backward, the forms one after the other add no more than this. -/
def SequenceBounded (k : Nat) (forms : List Form) : Prop :=
  ∀ direction e, (extendBySequence direction forms e).size ≤ e.size + k

theorem Bounded.mono (h : Bounded k f) (hle : k ≤ m) : Bounded m f :=
  fun direction e => Nat.le_trans (h direction e) (Nat.add_le_add_left hle _)

theorem bounded_empty : Bounded stateSize empty := fun _ _ =>
  Nat.le_of_eq (Extent.size_add 1 _)

theorem bounded_look (l : Look) : Bounded stateSize (look l) := fun _ _ =>
  Nat.le_of_eq (Extent.size_add 1 _)

theorem bounded_literal (text : List Char) :
    Bounded (stateSize * (Unicode.encodeText text).length) (literal text) := fun _ _ =>
  Nat.le_of_eq (Extent.size_add _ _)

theorem bounded_set (s : Unicode.CodeSet) (unicode : Bool) :
    Bounded (SetNodes.cost s) (set s unicode) := fun direction e =>
  SetNodes.size_add_le direction s e

theorem Bounded.anyTimes (h : Bounded k f) (haccepting : f.isAccepting = true)
    (hproper : f.isProper = true) (greedy : Bool) :
    Bounded (stateSize + branchSize * 2 + k) (repetition f 0 none greedy) := by
  intro direction e
  have hbody := h direction (e.fork 2)
  simp only [extend, haccepting, hproper, Bool.and_self, ↓reduceIte]
  rw [Extent.size_fork] at hbody
  omega

theorem SequenceBounded.cons (h : Bounded k f) (hrest : SequenceBounded m forms) :
    SequenceBounded (k + m) (f :: forms) := by
  intro direction e
  cases direction with
  | forward =>
    have hfirst := h .forward e
    have hlast := hrest .forward (f.extend .forward e)
    simp only [extendBySequence]
    omega
  | backward =>
    have hfirst := hrest .backward e
    have hlast := h .backward (extendBySequence .backward forms e)
    simp only [extendBySequence]
    omega

/-- Merging literals adds nothing. -/
theorem SequenceBounded.consPart (h : Bounded k f) (hrest : SequenceBounded m forms) :
    SequenceBounded (k + m) (consPart f forms) := by
  unfold Form.consPart
  split
  · intro direction e
    exact Nat.le_trans (hrest direction e) (by omega)
  · next s₁ s₂ rest =>
    intro direction e
    have hlength : (Unicode.encodeText (s₁ ++ s₂)).length =
        (Unicode.encodeText s₁).length + (Unicode.encodeText s₂).length := by
      simp [Unicode.encodeText]
    have hfirst : (e.add (Unicode.encodeText s₁).length).size ≤ e.size + k := h direction e
    cases direction with
    | forward =>
      have hlast := hrest .forward (e.add (Unicode.encodeText s₁).length)
      simp only [extendBySequence, extend, Extent.add, hlength, Nat.add_assoc] at hfirst hlast ⊢
      omega
    | backward =>
      have hlast := hrest .backward e
      simp only [extendBySequence, extend, Extent.size_add, hlength, Nat.mul_add] at hfirst hlast ⊢
      omega
  · exact hrest.cons h

theorem sequenceBounded_foldr (h : ∀ f ∈ forms, Bounded k f) :
    SequenceBounded (k * forms.length) (forms.foldr Form.consPart []) := by
  induction forms with
  | nil => exact fun direction e => Nat.le_refl _
  | cons f forms ih =>
    have hrest := ih fun g hg => h g (List.mem_cons_of_mem f hg)
    have hcons := SequenceBounded.consPart (h f List.mem_cons_self) hrest
    rwa [List.length_cons, Nat.mul_succ, Nat.add_comm]

/-- A sequence adds what its parts add. -/
theorem bounded_join (hparts : ∀ f ∈ forms, f.parts = [f]) (h : ∀ f ∈ forms, Bounded k f) :
    Bounded (stateSize + k * forms.length) (join forms) := by
  have hflat : forms.flatMap parts = forms := by
    rw [List.flatMap_congr hparts]
    simp
  have hsequence := sequenceBounded_foldr h
  unfold join
  rw [hflat]
  split
  · exact bounded_empty.mono (Nat.le_add_right _ _)
  · next f hf =>
    rw [hf] at hsequence
    intro direction e
    have hone := hsequence direction e
    cases direction <;> simp only [extendBySequence] at hone <;> omega
  · intro direction e
    have hall := hsequence direction e
    simp only [extend]
    omega

/-- What surrounds a form takes no more than eight states. -/
theorem fits_of_bounded (h : Bounded k f) (hle : k + 8 * stateSize ≤ maxSize) : f.fits = true := by
  have hautomaton : ∀ direction, (f.automaton direction).fits = true := by
    intro direction
    have hstart : (if f.isAnchored direction then Extent.empty.add 1
        else ((Extent.empty.fork 2).add 1).switch 1).size ≤ 4 * stateSize := by
      split_ifs <;> decide
    unfold automaton
    dsimp only
    generalize (if f.isAnchored direction then Extent.empty.add 1
      else ((Extent.empty.fork 2).add 1).switch 1) = start at hstart ⊢
    refine decide_eq_true ?_
    cases direction with
    | forward =>
      have hbody := h .forward (start.add 1)
      simp only [extend, Extent.size_add] at hbody ⊢
      omega
    | backward =>
      have hbody := h .backward start
      simp only [extend, Extent.size_add] at hbody ⊢
      omega
  rw [fits, hautomaton, hautomaton, Bool.and_self]

end Form

end Regex

namespace Glob

open Regex Unicode

/-- What a part of a glob that respects case adds at most. -/
def partSize : Nat := 2500

/-- The set of all characters is the largest part, and a star forks before it. -/
theorem cost_everything : stateSize + branchSize * 2 +
    SetNodes.cost (CodeSet.everything.intersection .everything) ≤ partSize := by
  decide +kernel

theorem length_encode_le (n : Nat) : (encode n).length ≤ 4 := by
  unfold encode
  split_ifs <;> simp

theorem form_anyOne : Part.anyOne.form false =
    .set (CodeSet.everything.intersection .everything) true := rfl

theorem form_char (c : Char) : (Part.char c).form false = .literal [c] :=
  Form.ofSet_range_self true c

theorem bounded_form (part : Part) : (part.form false).Bounded partSize := by
  cases part with
  | anyRun =>
    have hform : Part.anyRun.form false = .repetition (Part.anyOne.form false) 0 none true := rfl
    rw [hform, form_anyOne]
    exact ((Form.bounded_set _ _).anyTimes rfl rfl true).mono cost_everything
  | anyOne =>
    rw [form_anyOne]
    exact (Form.bounded_set _ _).mono (Nat.le_trans (Nat.le_add_left _ _) cost_everything)
  | char c =>
    rw [form_char]
    refine (Form.bounded_literal [c]).mono ?_
    have hlength := length_encode_le c.toNat
    simp only [encodeText, List.flatMap_singleton, stateSize, partSize]
    omega

theorem parts_form (part : Part) : (part.form false).parts = [part.form false] := by
  cases part with
  | anyRun | anyOne => rfl
  | char c => rw [form_char]; rfl

/-- **A glob of ordinary length is not too large**, as long as it respects case. -/
theorem fits_of_length_le {parts : List Part} (h : parts.length ≤ 4000) :
    (⟨parts, false⟩ : Glob).fits = true := by
  have hlook : ∀ l : Look, (Form.look l).Bounded partSize := fun l =>
    (Form.bounded_look l).mono (by decide)
  have hmem : ∀ f ∈ [Form.look .textStart] ++ parts.map (Part.form false) ++ [.look .textEnd],
      f.parts = [f] ∧ f.Bounded partSize := by
    intro f hf
    simp only [List.mem_append, List.mem_singleton, List.mem_map] at hf
    rcases hf with (rfl | ⟨part, -, rfl⟩) | rfl
    · exact ⟨rfl, hlook _⟩
    · exact ⟨parts_form part, bounded_form part⟩
    · exact ⟨rfl, hlook _⟩
  refine Form.fits_of_bounded (Form.bounded_join (fun f hf => (hmem f hf).1)
    fun f hf => (hmem f hf).2) ?_
  simp [stateSize, maxSize, partSize]
  omega

end Glob

end Sift
