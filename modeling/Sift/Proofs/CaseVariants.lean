import Mathlib.Data.List.Nodup
import Sift.Proofs.CodeSets
import Sift.Unicode.CaseVariant

/-!
# Sets of case variants

The table of case variants maps folded code points to their least variants. What the rest needs to
know of it is little: the folded code points ascend, all code points are characters, and no least
variant is folded. These facts are checked on the table as it is.

**Main result.** The set of the case variants of a character, which is put together from the
entries of one least variant, contains exactly the characters that fold to the same one
(`contains_setOf`).
-/

namespace Sift.Unicode.CaseVariant

variable {c d : Char} {a b n : Nat}

/-! ## The table -/

theorem isChain_folded : (entries.map (·.1)).IsChain (· < ·) := by
  decide +kernel

theorem isValidChar_of_mem_entries : ∀ e ∈ entries, e.1.isValidChar ∧ e.2.isValidChar := by
  decide +kernel

/-- The number in which the given bits are set. -/
def bits (l : List Nat) : Nat := l.foldr (fun n m => 2 ^ n ||| m) 0

theorem testBit_bits (l : List Nat) (n : Nat) : (bits l).testBit n = decide (n ∈ l) := by
  induction l with
  | nil => simp [bits]
  | cons m l ih =>
    change (2 ^ m ||| bits l).testBit n = _
    simp [ih, Nat.testBit_two_pow, eq_comm]

/-- Bits make this check linear in the length of the table. -/
theorem testBit_bits_folded :
    (entries.all fun e => !(bits (entries.map (·.1))).testBit e.2) = true := by
  decide +kernel

/-- A least variant is not folded. -/
theorem not_folded_of_mem (h : (a, b) ∈ entries) : b ∉ entries.map (·.1) := by
  have hbit := List.all_eq_true.1 testBit_bits_folded (a, b) h
  rw [testBit_bits] at hbit
  simpa using hbit

theorem pairwise_folded : folded.toList.Pairwise (· < ·) :=
  List.isChain_iff_pairwise.1 isChain_folded

/-! ## The least variant -/

theorem least_of_mem (h : (c.toNat, b) ∈ entries) : least c = Char.ofNat b := by
  obtain ⟨i, hi, hget⟩ := List.mem_iff_getElem.1 h
  have hfolded : i < folded.size := by simpa [folded] using hi
  have hrepresentatives : i < representatives.size := by simpa [representatives] using hi
  have hfirst : folded[i] = c.toNat := by simp [folded, hget]
  have hsecond : representatives[i] = b := by simp [representatives, hget]
  have hrank : rank folded c.toNat = i + 1 := hfirst ▸ rank_getElem pairwise_folded hfolded
  unfold least
  simp [hrank, hfolded, hrepresentatives, hfirst, hsecond]

theorem least_of_not_folded (h : c.toNat ∉ entries.map (·.1)) : least c = c := by
  have hbrackets := brackets_rank (pairwise_folded.imp Nat.le_of_lt) c.toNat
  unfold least
  split
  · rfl
  · next n hn =>
    have hn' : n < folded.size := by have := hbrackets.le_size; omega
    have hmem : folded[n] ∈ entries.map (·.1) := List.mem_toArray.1 (Array.getElem_mem hn')
    have hne : folded[n] ≠ c.toNat := fun heq => h (heq ▸ hmem)
    simp [hn', hne]

theorem least_cases (c : Char) :
    (c.toNat ∉ entries.map (·.1) ∧ least c = c) ∨
      ∃ b, (c.toNat, b) ∈ entries ∧ least c = Char.ofNat b := by
  by_cases h : c.toNat ∈ entries.map (·.1)
  · obtain ⟨⟨a, b⟩, hmem, ha⟩ := List.mem_map.1 h
    obtain rfl : a = c.toNat := ha
    exact .inr ⟨b, hmem, least_of_mem hmem⟩
  · exact .inl ⟨h, least_of_not_folded h⟩

theorem not_folded_least (c : Char) : (least c).toNat ∉ entries.map (·.1) := by
  rcases least_cases c with ⟨h, heq⟩ | ⟨b, hmem, heq⟩
  · rwa [heq]
  · rw [heq, toNat_ofNat (isValidChar_of_mem_entries _ hmem).2]
    exact not_folded_of_mem hmem

/-- A character folds to the least variant of another one if it is that one, or if the table says
so. -/
theorem least_eq_least_iff : least d = least c ↔
    d = least c ∨ (d.toNat, (least c).toNat) ∈ entries := by
  constructor
  · intro h
    rcases least_cases d with ⟨-, heq⟩ | ⟨b, hmem, heq⟩
    · exact .inl (heq ▸ h)
    · rw [← h, heq, toNat_ofNat (isValidChar_of_mem_entries _ hmem).2]
      exact .inr hmem
  · rintro (rfl | hmem)
    · exact least_of_not_folded (not_folded_least c)
    · rw [least_of_mem hmem, Char.ofNat_toNat]

/-! ## All variants -/

/-- The entries by their representatives, in order. -/
theorem pairwise_sortedRepresentatives : sortedRepresentatives.toList.Pairwise (· ≤ ·) := by
  have hsorted : ((entries.map fun e => (e.2, e.1)).mergeSort fun a b => a.1 ≤ b.1).Pairwise
      fun a b => decide (a.1 ≤ b.1) = true :=
    List.pairwise_mergeSort (fun a b c => by simpa using Nat.le_trans)
      (fun a b => by simpa using Nat.le_total a.1 b.1) _
  simp only [sortedRepresentatives, byRepresentative, Array.toList_map, List.pairwise_map]
  exact hsorted.imp (by simp)

theorem perm_byRepresentative :
    byRepresentative.toList.Perm (entries.map fun e => (e.2, e.1)) :=
  List.mergeSort_perm _ _

/-- What is kept by place is a slice. -/
theorem filter_eq_slice {α : Type} {l : List α} {keep : α → Bool} {start stop : Nat}
    (h : ∀ i (hi : i < l.length), keep l[i] = decide (start ≤ i ∧ i < stop)) :
    l.filter keep = (l.drop start).take (stop - start) := by
  induction l generalizing start stop with
  | nil => simp
  | cons x l ih =>
    have hx : keep x = decide (start ≤ 0 ∧ 0 < stop) := h 0 (Nat.zero_lt_succ _)
    have hrest : ∀ i (hi : i < l.length), keep l[i] = decide (start ≤ i + 1 ∧ i + 1 < stop) :=
      fun i hi => h (i + 1) (Nat.succ_lt_succ hi)
    cases start with
    | zero =>
      have htail : l.filter keep = (l.drop 0).take (stop - 1 - 0) := ih fun i hi => by
        rw [hrest, decide_eq_decide]
        omega
      cases stop with
      | zero => simpa [hx] using htail
      | succ stop => simpa [hx] using htail
    | succ start =>
      have htail : l.filter keep = (l.drop start).take (stop - 1 - start) := ih fun i hi => by
        rw [hrest, decide_eq_decide]
        omega
      simpa [hx, Nat.sub_sub, Nat.add_comm 1] using htail

/-- The entries of a representative start behind those of smaller ones. -/
theorem lower_sortedRepresentatives {x start : Nat}
    (hstart : (if x = 0 then 0 else rank sortedRepresentatives (x - 1)) = start) :
    ∀ i (h : i < sortedRepresentatives.size), start ≤ i ↔ x ≤ sortedRepresentatives[i] := by
  intro i hi
  subst hstart
  split_ifs with hx
  · exact iff_of_true (Nat.zero_le i) (hx ▸ Nat.zero_le _)
  · have h := brackets_rank pairwise_sortedRepresentatives (x - 1)
    have hbelow := h.below i hi
    have habove := h.above i hi
    omega

/-- Between the two places found by searching are the entries of one representative. -/
theorem all_eq (c : Char) : all c = least c ::
    (byRepresentative.toList.filter fun e => e.1 = (least c).toNat).map fun e => Char.ofNat e.2 := by
  unfold all
  dsimp only
  generalize (least c).toNat = x
  generalize hstop : rank sortedRepresentatives x = stop
  generalize hstart : (if x = 0 then 0 else rank sortedRepresentatives (x - 1)) = start
  have hupper := brackets_rank pairwise_sortedRepresentatives x
  have hlower := lower_sortedRepresentatives hstart
  rw [hstop] at hupper
  simp only [sortedRepresentatives, Array.size_map, Array.getElem_map] at hlower
  have hsize : stop ≤ byRepresentative.size := by simpa [sortedRepresentatives] using hupper.le_size
  have hplace : ∀ i (h : i < byRepresentative.size),
      decide (byRepresentative[i].1 = x) = decide (start ≤ i ∧ i < stop) := by
    intro i hi
    have hi' : i < sortedRepresentatives.size := by simpa [sortedRepresentatives] using hi
    have hget : sortedRepresentatives[i] = byRepresentative[i].1 := by simp [sortedRepresentatives]
    have hbelow := hget ▸ hupper.below i hi'
    have habove := hget ▸ hupper.above i hi'
    have hstart := hlower i hi
    rw [decide_eq_decide]
    omega
  have hslice : (byRepresentative.toList.filter fun e => e.1 = x) =
      (byRepresentative.toList.drop start).take (stop - start) := filter_eq_slice hplace
  rw [hslice]
  congr 1
  refine List.ext_getElem (by simp; omega) fun i hi hi' => ?_
  simp at hi
  simp [show start + i < byRepresentative.size by omega]

theorem mem_all : d ∈ all c ↔ least d = least c := by
  have hmem : (d.toNat, (least c).toNat) ∈ entries ↔
      ∃ a, ((least c).toNat, a) ∈ byRepresentative.toList ∧ Char.ofNat a = d := by
    simp only [perm_byRepresentative.mem_iff, List.mem_map, Prod.mk.injEq, Prod.exists]
    constructor
    · exact fun h => ⟨d.toNat, ⟨d.toNat, _, h, rfl, rfl⟩, Char.ofNat_toNat d⟩
    · rintro ⟨a, ⟨a', b, h, rfl, rfl⟩, rfl⟩
      rwa [toNat_ofNat (isValidChar_of_mem_entries _ h).1]
  rw [all_eq, List.mem_cons, least_eq_least_iff, hmem]
  simp only [List.mem_map, List.mem_filter, decide_eq_true_eq, Prod.exists]
  refine or_congr_right ?_
  constructor
  · rintro ⟨_, a, ⟨h, rfl⟩, rfl⟩
    exact ⟨a, h, rfl⟩
  · rintro ⟨a, h, rfl⟩
    exact ⟨_, a, ⟨h, rfl⟩, rfl⟩

/-- No variant is listed twice. -/
theorem nodup_all (c : Char) : (all c).Nodup := by
  have hentries : (entries.map fun e => (e.2, e.1)).Nodup := by
    refine List.Nodup.of_map Prod.snd ?_
    rw [List.map_map]
    exact (List.nodup_iff_pairwise_ne.2 (pairwise_folded.imp Nat.ne_of_lt) : (entries.map _).Nodup)
  have hnodup : byRepresentative.toList.Nodup := perm_byRepresentative.nodup_iff.2 hentries
  have hvalid : ∀ e ∈ byRepresentative.toList, (Char.ofNat e.2).toNat = e.2 ∧
      (e.2, e.1) ∈ entries := by
    intro e he
    obtain ⟨e', he', rfl⟩ := List.mem_map.1 (perm_byRepresentative.mem_iff.1 he)
    exact ⟨toNat_ofNat (isValidChar_of_mem_entries e' he').1, he'⟩
  rw [all_eq]
  refine List.nodup_cons.2 ⟨fun hmem => ?_, (hnodup.filter _).map_on ?_⟩
  · obtain ⟨e, he, heq⟩ := List.mem_map.1 hmem
    obtain ⟨hchar, hentry⟩ := hvalid e (List.mem_of_mem_filter he)
    refine not_folded_least c (List.mem_map.2 ⟨(e.2, e.1), hentry, ?_⟩)
    rw [← heq, hchar]
  · intro e he e' he' heq
    have hfirst : e.1 = (least c).toNat := by simpa using (List.mem_filter.1 he).2
    have hfirst' : e'.1 = (least c).toNat := by simpa using (List.mem_filter.1 he').2
    have hsecond : e.2 = e'.2 := by
      rw [← (hvalid e (List.mem_of_mem_filter he)).1, heq,
        (hvalid e' (List.mem_of_mem_filter he')).1]
    exact Prod.ext (hfirst.trans hfirst'.symm) hsecond

/-! ## The set of all variants -/

theorem ascendingRanges_of_pairwise {l : List Char} (h : l.Pairwise (· < ·)) :
    CodeSet.AscendingRanges (l.map fun v => (v.toNat, v.toNat)) := by
  induction l with
  | nil => exact .nil
  | cons v l ih =>
    obtain ⟨hfirst, hrest⟩ := List.pairwise_cons.1 h
    have hlater : ∀ n ∈ (l.map fun v => (v.toNat, v.toNat)).flatMap fun r => [r.1, r.2 + 1],
        v.toNat + 1 ≤ n := by
      intro n hn
      simp only [List.flatMap_map, List.mem_flatMap, List.mem_cons, List.not_mem_nil,
        or_false] at hn
      obtain ⟨w, hw, hn⟩ := hn
      have hlt : v.toNat < w.toNat := hfirst w hw
      omega
    refine List.pairwise_cons.2 ⟨List.forall_mem_cons.2 ⟨Nat.le_succ _, fun n hn => ?_⟩,
      List.pairwise_cons.2 ⟨hlater, ih hrest⟩⟩
    exact Nat.le_of_succ_le (hlater n hn)

theorem pairwise_mergeSort_all (c : Char) : ((all c).mergeSort).Pairwise (· < ·) := by
  have hsorted : (all c).mergeSort.Pairwise fun a b => decide (a ≤ b) = true :=
    List.pairwise_mergeSort (fun a b c => by simpa using Char.le_trans)
      (fun a b => by simpa using Char.le_total a b) (all c)
  have hnodup : (all c).mergeSort.Pairwise (· ≠ ·) :=
    List.nodup_iff_pairwise_ne.1 ((List.mergeSort_perm _ _).nodup_iff.2 (nodup_all c))
  refine (hsorted.and hnodup).imp fun {a b} h => ?_
  exact Char.not_le.1 fun hle => h.2 (Char.le_antisymm (of_decide_eq_true h.1) hle)

theorem ascending_setOf (c : Char) : (setOf c).Ascending :=
  CodeSet.ascending_ofRanges (ascendingRanges_of_pairwise (pairwise_mergeSort_all c))

/-- **The set of case variants** contains what folds to the same character. -/
theorem contains_setOf (c d : Char) : (setOf c).contains d = same c d := by
  rw [setOf, CodeSet.contains_ofRanges (ascendingRanges_of_pairwise (pairwise_mergeSort_all c)),
    Bool.eq_iff_iff]
  simp only [List.any_map, List.any_eq_true, List.mem_mergeSort, Function.comp_apply,
    Bool.and_eq_true, decide_eq_true_eq, mem_all, same, beq_iff_eq]
  constructor
  · rintro ⟨v, hv, hle, hge⟩
    obtain rfl : d = v := Char.toNat_inj.1 (Nat.le_antisymm hge hle)
    exact hv.symm
  · exact fun h => ⟨d, h.symm, Nat.le_refl _, Nat.le_refl _⟩

end Sift.Unicode.CaseVariant
