import Mathlib.Algebra.Group.Nat.Defs
import Mathlib.Data.List.Basic
import Sift.Unicode.CodeSet

/-!
# Membership in sets of code points

A code point is in a set if an odd number of boundaries is at most the code point, which `isInside`
says of a list of boundaries. The search in the array of boundaries counts them right as long as
they ascend (`CodeSet.contains_eq`).

**Operations.** The walk along two sets keeps the boundaries at which the truth function changes,
so behind any number of boundaries it has the value that the truth function has there
(`isInside_merge`). It follows that every operation is what its truth function says, member by
member, and that its boundaries ascend again (`CodeSet.contains_combine`,
`CodeSet.ascending_combine`).

**Ranges.** The set of ascending ranges contains what lies in one of them
(`CodeSet.contains_ofRanges`).
-/

namespace Sift.Unicode

/-! ## Counting by binary search -/

section Rank

variable {starts : Array Nat} {x lo hi fuel : Nat}

/-- Entries before `lo` are at most `x`, and entries from `hi` on are greater. -/
structure Brackets (starts : Array Nat) (x lo hi : Nat) : Prop where
  le : lo ≤ hi
  le_size : hi ≤ starts.size
  below : ∀ i (h : i < starts.size), i < lo → starts[i] ≤ x
  above : ∀ i (h : i < starts.size), hi ≤ i → x < starts[i]

theorem getElem_le_of_pairwise (hs : starts.toList.Pairwise (· ≤ ·)) {i k : Nat} (hik : i ≤ k)
    (hk : k < starts.size) : starts[i] ≤ starts[k] := by
  rcases Nat.lt_or_eq_of_le hik with hlt | rfl
  · exact List.pairwise_iff_getElem.1 hs i k (by simpa using Nat.lt_trans hlt hk)
      (by simpa using hk) hlt
  · exact Nat.le_refl _

/-- The search keeps its bracket and closes it. -/
theorem brackets_rankFrom (hs : starts.toList.Pairwise (· ≤ ·)) (h : Brackets starts x lo hi)
    (hfuel : hi - lo < 2 ^ fuel) :
    Brackets starts x (rankFrom starts x fuel lo hi) (rankFrom starts x fuel lo hi) := by
  induction fuel generalizing lo hi with
  | zero =>
    have hle := h.le
    obtain rfl : hi = lo := by simp only [Nat.pow_zero] at hfuel; omega
    exact h
  | succ fuel ih =>
    have hle := h.le
    rw [Nat.pow_succ] at hfuel
    unfold rankFrom
    split_ifs with hlt
    · dsimp only
      have hmid : (lo + hi) / 2 < starts.size := by have := h.le_size; omega
      have hget : starts.getD ((lo + hi) / 2) 0 = starts[(lo + hi) / 2] := by
        simp [Array.getD, hmid]
      rw [hget]
      split_ifs with hx
      · refine ih ⟨by omega, h.le_size, fun i hi hlt => ?_, h.above⟩ (by omega)
        exact Nat.le_trans (getElem_le_of_pairwise hs (Nat.lt_succ_iff.1 hlt) hmid) hx
      · refine ih ⟨by omega, by omega, h.below, fun i hi hle => ?_⟩ (by omega)
        exact Nat.lt_of_lt_of_le (Nat.lt_of_not_le hx) (getElem_le_of_pairwise hs hle hi)
    · obtain rfl : hi = lo := by omega
      exact h

theorem brackets_rank (hs : starts.toList.Pairwise (· ≤ ·)) (x : Nat) :
    Brackets starts x (rank starts x) (rank starts x) := by
  have hfuel : starts.size - 0 < 2 ^ (Nat.log2 starts.size + 2) := by
    have : starts.size < 2 ^ (Nat.log2 starts.size + 1) := Nat.lt_log2_self
    rw [Nat.pow_succ]
    omega
  exact brackets_rankFrom hs ⟨Nat.zero_le _, Nat.le_refl _,
    fun i _ hi => absurd hi (Nat.not_lt_zero i), fun i hi hle => absurd hi (Nat.not_lt.2 hle)⟩ hfuel

/-- The search counts the entries that are at most `x`. -/
theorem rank_eq_countP (hs : starts.toList.Pairwise (· ≤ ·)) (x : Nat) :
    rank starts x = starts.toList.countP (· ≤ x) := by
  have h := brackets_rank hs x
  generalize rank starts x = r at h
  have hfront : (starts.toList.take r).countP (· ≤ x) = r := by
    rw [List.countP_eq_length.2, List.length_take]
    · exact Nat.min_eq_left (by simpa using h.le_size)
    · intro y hy
      obtain ⟨i, hi, rfl⟩ := List.mem_iff_getElem.1 hy
      have hi' : i < r ∧ i < starts.size := by simpa [Nat.lt_min] using hi
      simpa using h.below i hi'.2 hi'.1
  have hback : (starts.toList.drop r).countP (· ≤ x) = 0 := by
    refine List.countP_eq_zero.2 fun y hy => ?_
    obtain ⟨i, hi, rfl⟩ := List.mem_iff_getElem.1 hy
    have hi' : r + i < starts.size := by simp at hi; omega
    simpa using h.above (r + i) hi' (Nat.le_add_right r i)
  rw [← List.take_append_drop r starts.toList, List.countP_append, hfront, hback, Nat.add_zero]

/-- In an array without repetitions the search finds every entry. -/
theorem rank_getElem (hs : starts.toList.Pairwise (· < ·)) {i : Nat} (hi : i < starts.size) :
    rank starts starts[i] = i + 1 := by
  have h := brackets_rank (hs.imp Nat.le_of_lt) starts[i]
  generalize rank starts starts[i] = r at h
  have hlt : i < r := Nat.lt_of_not_le fun hle => Nat.lt_irrefl _ (h.above i hi hle)
  have hle : ¬ i + 1 < r := fun hlt => by
    have hsize : i + 1 < starts.size := Nat.lt_of_lt_of_le hlt h.le_size
    have hnext : starts[i] < starts[i + 1] :=
      List.pairwise_iff_getElem.1 hs i (i + 1) (by simpa using hi) (by simpa using hsize)
        (Nat.lt_succ_self i)
    exact Nat.not_le.2 hnext (h.below (i + 1) hsize hlt)
  omega

end Rank

/-! ## Boundaries -/

variable {l as bs : List Nat} {a m n : Nat} {op : Bool → Bool → Bool} {inA inB : Bool}

/-- Whether an odd number of boundaries is at most `n`. -/
def isInside (l : List Nat) (n : Nat) : Bool := l.countP (· ≤ n) % 2 == 1

@[simp] theorem isInside_nil (n : Nat) : isInside [] n = false := rfl

@[simp] theorem isInside_cons (a : Nat) (l : List Nat) (n : Nat) :
    isInside (a :: l) n = (decide (a ≤ n) ^^ isInside l n) := by
  unfold isInside
  rw [List.countP_cons]
  by_cases h : a ≤ n
  · have hflip : ∀ k, ((k + 1) % 2 == 1) = !(k % 2 == 1) := fun k => by
      rcases Nat.mod_two_eq_zero_or_one k with hk | hk <;> simp [hk] <;> omega
    simp [h, hflip]
  · simp [h]

/-- Nothing is inside before the first boundary. -/
theorem isInside_of_lt (h : ∀ a ∈ l, n < a) : isInside l n = false := by
  have hzero : l.countP (· ≤ n) = 0 := List.countP_eq_zero.2 fun a ha => by simpa using h a ha
  rw [isInside, hzero]
  rfl

/-- Ascending boundaries are determined by what is inside. -/
theorem eq_of_isInside {l l' : List Nat} (hl : l.Pairwise (· < ·)) (hl' : l'.Pairwise (· < ·))
    (h : ∀ n, isInside l n = isInside l' n) : l = l' := by
  have hhead : ∀ {a : Nat} {l : List Nat}, (a :: l).Pairwise (· < ·) →
      isInside (a :: l) a = true := fun {a l} hal => by
    rw [isInside_cons, isInside_of_lt (List.pairwise_cons.1 hal).1, decide_eq_true (Nat.le_refl a)]
    rfl
  have hbefore : ∀ {a b : Nat} {l : List Nat}, (b :: l).Pairwise (· < ·) → a < b →
      isInside (b :: l) a = false := fun {a b l} hbl hab =>
    isInside_of_lt (List.forall_mem_cons.2
      ⟨hab, fun x hx => Nat.lt_trans hab ((List.pairwise_cons.1 hbl).1 x hx)⟩)
  induction l generalizing l' with
  | nil =>
    cases l' with
    | nil => rfl
    | cons b l' => exact absurd ((h b).trans (hhead hl')) (by simp)
  | cons a l ih =>
    cases l' with
    | nil => exact absurd ((h a).symm.trans (hhead hl)) (by simp)
    | cons b l' =>
      have hle : ¬ a < b := fun hab => by
        have := h a
        rw [hhead hl, hbefore hl' hab] at this
        cases this
      have hge : ¬ b < a := fun hba => by
        have := h b
        rw [hhead hl', hbefore hl hba] at this
        cases this
      obtain rfl : a = b := by omega
      refine congrArg (a :: ·) (ih (List.pairwise_cons.1 hl).2 (List.pairwise_cons.1 hl').2
        fun n => ?_)
      have hn := h n
      rw [isInside_cons, isInside_cons] at hn
      exact Bool.xor_right_inj.1 hn

theorem toNat_ofNat (h : n.isValidChar) : (Char.ofNat n).toNat = n := by
  rw [Char.ofNat, dif_pos h]
  exact UInt32.toNat_ofNatLT

namespace CodeSet

/-! ## Walking along two sets -/

theorem mem_merge {fuel : Nat} (h : n ∈ merge op fuel inA inB as bs) : n ∈ as ∨ n ∈ bs := by
  fun_induction merge op fuel inA inB as bs <;> grind

theorem pairwise_ite (c : Bool) (hl : l.Pairwise (· < ·)) (h : ∀ x ∈ l, a < x) :
    (if c then l else a :: l).Pairwise (· < ·) := by
  split_ifs
  · exact hl
  · exact List.pairwise_cons.2 ⟨h, hl⟩

/-- The boundaries that are kept ascend. -/
theorem pairwise_merge {fuel : Nat} (ha : as.Pairwise (· < ·)) (hb : bs.Pairwise (· < ·)) :
    (merge op fuel inA inB as bs).Pairwise (· < ·) := by
  induction fuel generalizing inA inB as bs with
  | zero => exact .nil
  | succ fuel ih =>
    match as, bs, ha, hb with
    | [], [], _, _ => exact .nil
    | a :: as, [], ha, hb =>
      obtain ⟨hfirst, ha⟩ := List.pairwise_cons.1 ha
      refine pairwise_ite _ (ih ha hb) fun x hx => ?_
      have hmem := mem_merge hx
      grind
    | [], b :: bs, ha, hb =>
      obtain ⟨hfirst, hb⟩ := List.pairwise_cons.1 hb
      refine pairwise_ite _ (ih ha hb) fun x hx => ?_
      have hmem := mem_merge hx
      grind
    | a :: as, b :: bs, ha, hb =>
      obtain ⟨hfirst, ha'⟩ := List.pairwise_cons.1 ha
      obtain ⟨hfirst', hb'⟩ := List.pairwise_cons.1 hb
      rw [merge]
      by_cases hab : a < b
      · rw [if_pos hab]
        refine pairwise_ite _ (ih ha' hb) fun x hx => ?_
        have hmem := mem_merge hx
        grind
      · rw [if_neg hab]
        by_cases hba : b < a
        · rw [if_pos hba]
          refine pairwise_ite _ (ih ha hb') fun x hx => ?_
          have hmem := mem_merge hx
          grind
        · rw [if_neg hba]
          refine pairwise_ite _ (ih ha' hb') fun x hx => ?_
          have hmem := mem_merge hx
          grind

/-- A boundary is kept where the value changes. -/
theorem isInside_keep (h : a ≤ n) (before after : Bool) (l : List Nat) :
    (before ^^ isInside (if before == after then l else a :: l) n) = (after ^^ isInside l n) := by
  cases before <;> cases after <;> simp [h]

/-- **The walk follows the truth function.** -/
theorem isInside_merge {fuel : Nat} (ha : as.Pairwise (· < ·)) (hb : bs.Pairwise (· < ·))
    (hfuel : as.length + bs.length < fuel) (n : Nat) :
    (op inA inB ^^ isInside (merge op fuel inA inB as bs) n) =
      op (inA ^^ isInside as n) (inB ^^ isInside bs n) := by
  induction fuel generalizing inA inB as bs with
  | zero => omega
  | succ fuel ih =>
    by_cases hbefore : (∀ x ∈ as, n < x) ∧ ∀ x ∈ bs, n < x
    · have hmerge : ∀ x ∈ merge op (fuel + 1) inA inB as bs, n < x :=
        fun x hx => (mem_merge hx).elim (hbefore.1 x) (hbefore.2 x)
      simp only [isInside_of_lt hmerge, isInside_of_lt hbefore.1, isInside_of_lt hbefore.2,
        Bool.xor_false]
    · match as, bs with
      | [], [] => exact absurd ⟨by simp, by simp⟩ hbefore
      | a :: as, [] =>
        have hle : a ≤ n := by grind [List.pairwise_cons]
        rw [merge, isInside_keep hle, ih (List.pairwise_cons.1 ha).2 hb (by simpa using hfuel)]
        simp [hle]
      | [], b :: bs =>
        have hle : b ≤ n := by grind [List.pairwise_cons]
        rw [merge, isInside_keep hle, ih ha (List.pairwise_cons.1 hb).2 (by simpa using hfuel)]
        simp [hle]
      | a :: as, b :: bs =>
        obtain ⟨hfirst, ha'⟩ := List.pairwise_cons.1 ha
        obtain ⟨hfirst', hb'⟩ := List.pairwise_cons.1 hb
        simp only [List.length_cons] at hfuel
        simp only [List.forall_mem_cons] at hbefore
        rw [merge]
        by_cases hab : a < b
        · have hle : a ≤ n := by grind
          rw [if_pos hab, isInside_keep hle, ih ha' hb (by simp only [List.length_cons]; omega)]
          simp [hle]
        · rw [if_neg hab]
          by_cases hba : b < a
          · have hle : b ≤ n := by grind
            rw [if_pos hba, isInside_keep hle, ih ha hb' (by simp only [List.length_cons]; omega)]
            simp [hle]
          · obtain rfl : a = b := by omega
            have hle : a ≤ n := by grind
            rw [if_neg hba, isInside_keep hle, ih ha' hb' (by omega)]
            simp [hle]

/-! ## Sets -/

variable {s t : CodeSet} {c : Char}

/-- The boundaries of the set ascend. -/
def Ascending (s : CodeSet) : Prop := s.boundaries.toList.Pairwise (· < ·)

theorem contains_eq (h : s.Ascending) (c : Char) :
    s.contains c = isInside s.boundaries.toList c.toNat := by
  rw [contains, rank_eq_countP (h.imp Nat.le_of_lt), isInside]

theorem ascending_combine (op : Bool → Bool → Bool) (hs : s.Ascending) (ht : t.Ascending) :
    (combine op s t).Ascending :=
  pairwise_merge hs ht

theorem isInside_combine (hop : op false false = false) (hs : s.Ascending) (ht : t.Ascending)
    (n : Nat) : isInside (combine op s t).boundaries.toList n =
      op (isInside s.boundaries.toList n) (isInside t.boundaries.toList n) := by
  have h : (op false false ^^ isInside (combine op s t).boundaries.toList n) =
      op (false ^^ isInside s.boundaries.toList n) (false ^^ isInside t.boundaries.toList n) :=
    isInside_merge hs ht (Nat.lt_succ_self _) n
  rwa [hop, Bool.false_xor, Bool.false_xor, Bool.false_xor] at h

/-- **Operations on sets are operations on memberships.** -/
theorem contains_combine (hop : op false false = false) (hs : s.Ascending) (ht : t.Ascending)
    (c : Char) : (combine op s t).contains c = op (s.contains c) (t.contains c) := by
  rw [contains_eq (ascending_combine op hs ht), isInside_combine hop hs ht, contains_eq hs,
    contains_eq ht]

/-! ## Ranges -/

theorem mem_cancel (h : n ∈ cancel l) : n ∈ l := by
  fun_induction cancel l <;> grind

/-- Two boundaries at the same place are as good as none. -/
theorem isInside_cancel (l : List Nat) (n : Nat) : isInside (cancel l) n = isInside l n := by
  fun_induction cancel l with
  | case1 a b r hnil ih => simp [← ih, hnil]
  | case2 b r x rest hcons ih =>
    rw [isInside_cons x (b :: r), ← ih, hcons, isInside_cons x rest, ← Bool.xor_assoc,
      Bool.xor_self, Bool.false_xor]
  | case3 a b r x rest hcons hax ih =>
    rw [isInside_cons, ← hcons, ih, ← isInside_cons]
  | case4 r hr => rfl

theorem pairwise_cancel (h : l.Pairwise (· ≤ ·)) : (cancel l).Pairwise (· < ·) := by
  fun_induction cancel l with
  | case1 a b r hnil ih => exact List.pairwise_singleton _ _
  | case2 b r x rest hcons ih =>
    have hrest := ih (List.pairwise_cons.1 h).2
    rw [hcons] at hrest
    exact (List.pairwise_cons.1 hrest).2
  | case3 a b r x rest hcons hax ih =>
    obtain ⟨hfirst, hrest⟩ := List.pairwise_cons.1 h
    have hcancel := ih hrest
    rw [hcons] at hcancel
    have hx : a ≤ x := hfirst x (mem_cancel (hcons ▸ List.mem_cons_self))
    refine List.pairwise_cons.2 ⟨List.forall_mem_cons.2 ⟨by omega, fun y hy => ?_⟩, hcancel⟩
    have hxy := (List.pairwise_cons.1 hcancel).1 y hy
    omega
  | case4 r hr =>
    match r, hr with
    | [], _ => exact .nil
    | [a], _ => exact List.pairwise_singleton _ _
    | a :: b :: r, hr => exact absurd rfl (hr a b r)

variable {ranges : List (Nat × Nat)}

/-- Ranges that ascend and do not overlap. -/
def AscendingRanges (ranges : List (Nat × Nat)) : Prop :=
  (ranges.flatMap fun r => [r.1, r.2 + 1]).Pairwise (· ≤ ·)

theorem ascending_ofRanges (h : AscendingRanges ranges) : (ofRanges ranges).Ascending :=
  pairwise_cancel h

theorem isInside_flatMap (h : AscendingRanges ranges) (n : Nat) :
    isInside (ranges.flatMap fun r => [r.1, r.2 + 1]) n =
      ranges.any fun r => decide (r.1 ≤ n) && decide (n ≤ r.2) := by
  induction ranges with
  | nil => rfl
  | cons r ranges ih =>
    obtain ⟨hlo, hrest⟩ := List.pairwise_cons.1 h
    obtain ⟨hhi, hrest⟩ := List.pairwise_cons.1 hrest
    have hle : r.1 ≤ r.2 + 1 := hlo _ List.mem_cons_self
    rw [List.flatMap_cons, List.cons_append, List.cons_append, List.nil_append, isInside_cons,
      isInside_cons, List.any_cons]
    by_cases hn : n ≤ r.2
    · -- All other ranges come behind.
      have hlater : isInside (ranges.flatMap fun r => [r.1, r.2 + 1]) n = false :=
        isInside_of_lt fun a ha => Nat.lt_of_le_of_lt hn (hhi a ha)
      rw [← ih hrest, hlater]
      have hlt : ¬ r.2 + 1 ≤ n := by omega
      simp [hn, hlt]
    · have hlt : r.2 + 1 ≤ n := by omega
      have hlo : r.1 ≤ n := by omega
      simp [ih hrest, hn, hlt, hlo]

/-- **The set of ranges contains what lies in one of them.** -/
theorem contains_ofRanges (h : AscendingRanges ranges) (c : Char) :
    (ofRanges ranges).contains c =
      ranges.any fun r => decide (r.1 ≤ c.toNat) && decide (c.toNat ≤ r.2) := by
  rw [contains_eq (ascending_ofRanges h), ofRanges, isInside_cancel, isInside_flatMap h]

theorem ascendingRanges_singleton (n : Nat) : AscendingRanges [(n, n)] := by
  simp [AscendingRanges]

theorem ascendingRanges_everything : AscendingRanges [(0, 0xD7FF), (0xE000, 0x10FFFF)] := by
  simp [AscendingRanges]

theorem ascending_everything : everything.Ascending :=
  ascending_ofRanges ascendingRanges_everything

/-- All code points outside the surrogates are characters. -/
theorem isInside_everything_iff :
    isInside everything.boundaries.toList n = true ↔ n.isValidChar := by
  rw [everything, ofRanges, isInside_cancel, isInside_flatMap ascendingRanges_everything]
  simp
  unfold Nat.isValidChar
  omega

theorem isInside_everything (c : Char) :
    isInside everything.boundaries.toList c.toNat = true :=
  isInside_everything_iff.2 c.valid

theorem contains_everything (c : Char) : everything.contains c = true := by
  rw [contains_eq ascending_everything, isInside_everything]

theorem contains_range_self (c d : Char) : (range c.toNat c.toNat).contains d = (c == d) := by
  rw [range, contains_ofRanges (ascendingRanges_singleton _), Bool.eq_iff_iff]
  simp [← Char.toNat_inj]
  omega

end CodeSet

end Sift.Unicode
