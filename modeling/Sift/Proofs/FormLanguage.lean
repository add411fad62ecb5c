import Mathlib.Algebra.Order.BigOperators.Group.List
import Mathlib.Algebra.Order.Group.Nat
import Sift.Proofs.CodeSets
import Sift.Regex.Form

/-!
# The language of simple forms

Forms are put together so that they stay simple. This leaves their language as it is: a sequence of
forms accepts what the forms accept one after the other, however they are merged
(`Form.equivalent_join`), and the form of a set accepts the members of the set, whether it is
written as a literal or not (`Form.accepts_ofSet`).

**Neighbours.** What an expression accepts depends on the characters around it, so two expressions
are only interchangeable if they accept the same texts between the same neighbours (`Equivalent`).
-/

namespace Sift.Regex

variable {r r' r₁ r₂ r₃ r₁' r₂' : Regex} {a b : Option Char} {c : Char} {t s₁ s₂ : List Char}

/-! ## Neighbours -/

@[simp] theorem firstAfter_append (s₁ s₂ : List Char) (a : Option Char) :
    firstAfter (s₁ ++ s₂) a = firstAfter s₁ (firstAfter s₂ a) := by
  cases s₁ <;> rfl

@[simp] theorem lastBefore_append (b : Option Char) (s₁ s₂ : List Char) :
    lastBefore b (s₁ ++ s₂) = lastBefore (lastBefore b s₁) s₂ := by
  unfold lastBefore
  rw [List.getLast?_append]
  cases s₂.getLast? <;> simp

/-! ## Cases -/

theorem accepts_empty_iff : Accepts .empty b t a ↔ t = [] := by
  constructor
  · rintro ⟨⟩
    rfl
  · rintro rfl
    exact .empty

theorem accepts_look_iff {l : Look} : Accepts (.look l) b t a ↔ t = [] ∧ l.holds ⟨b, a⟩ = true := by
  constructor
  · rintro (_ | h)
    exact ⟨rfl, h⟩
  · rintro ⟨rfl, h⟩
    exact .look h

theorem accepts_char_iff {s : Unicode.CodeSet} :
    Accepts (.char s) b t a ↔ ∃ c, t = [c] ∧ s.contains c = true := by
  constructor
  · rintro (_ | _ | h)
    exact ⟨_, rfl, h⟩
  · rintro ⟨c, rfl, h⟩
    exact .char h

theorem accepts_concat_iff : Accepts (.concat r₁ r₂) b t a ↔
    ∃ s₁ s₂, t = s₁ ++ s₂ ∧ Accepts r₁ b s₁ (firstAfter s₂ a) ∧
      Accepts r₂ (lastBefore b s₁) s₂ a := by
  constructor
  · rintro (_ | _ | _ | ⟨h₁, h₂⟩)
    exact ⟨_, _, rfl, h₁, h₂⟩
  · rintro ⟨s₁, s₂, rfl, h₁, h₂⟩
    exact .concat h₁ h₂

/-! ## Expressions that say the same -/

/-- The expressions accept the same texts between the same neighbours. -/
def Equivalent (r r' : Regex) : Prop := ∀ b t a, Accepts r b t a ↔ Accepts r' b t a

namespace Equivalent

theorem refl (r : Regex) : Equivalent r r := fun _ _ _ => Iff.rfl

theorem symm (h : Equivalent r r') : Equivalent r' r := fun b t a => (h b t a).symm

theorem trans (h : Equivalent r₁ r₂) (h' : Equivalent r₂ r₃) : Equivalent r₁ r₃ :=
  fun b t a => (h b t a).trans (h' b t a)

instance : Trans Equivalent Equivalent Equivalent := ⟨Equivalent.trans⟩

theorem concat (h₁ : Equivalent r₁ r₁') (h₂ : Equivalent r₂ r₂') :
    Equivalent (.concat r₁ r₂) (.concat r₁' r₂') := by
  intro b t a
  simp only [accepts_concat_iff, h₁ _ _ _, h₂ _ _ _]

end Equivalent

theorem equivalent_empty_concat (r : Regex) : Equivalent (.concat .empty r) r := by
  intro b t a
  simp only [accepts_concat_iff, accepts_empty_iff]
  constructor
  · rintro ⟨_, s₂, rfl, rfl, h⟩
    exact h
  · exact fun h => ⟨[], t, rfl, rfl, h⟩

theorem equivalent_concat_empty (r : Regex) : Equivalent (.concat r .empty) r := by
  intro b t a
  simp only [accepts_concat_iff, accepts_empty_iff]
  constructor
  · rintro ⟨s₁, _, rfl, h, rfl⟩
    rwa [List.append_nil]
  · exact fun h => ⟨t, [], (List.append_nil t).symm, h, rfl⟩

theorem equivalent_assoc (r₁ r₂ r₃ : Regex) :
    Equivalent (.concat (.concat r₁ r₂) r₃) (.concat r₁ (.concat r₂ r₃)) := by
  intro b t a
  simp only [accepts_concat_iff]
  constructor
  · rintro ⟨_, s₃, rfl, ⟨s₁, s₂, rfl, h₁, h₂⟩, h₃⟩
    exact ⟨s₁, s₂ ++ s₃, List.append_assoc s₁ s₂ s₃, by rwa [firstAfter_append], s₂, s₃, rfl, h₂,
      by rwa [← lastBefore_append]⟩
  · rintro ⟨s₁, _, rfl, h₁, s₂, s₃, rfl, h₂, h₃⟩
    exact ⟨s₁ ++ s₂, s₃, (List.append_assoc s₁ s₂ s₃).symm,
      ⟨s₁, s₂, rfl, by rwa [← firstAfter_append], h₂⟩, by rwa [lastBefore_append]⟩

theorem equivalent_concatAll_cons (r : Regex) (rs : List Regex) :
    Equivalent (concatAll (r :: rs)) (.concat r (concatAll rs)) := by
  cases rs with
  | nil => exact (equivalent_concat_empty r).symm
  | cons r' rs => exact .refl _

theorem equivalent_concatAll_append (rs rs' : List Regex) :
    Equivalent (concatAll (rs ++ rs')) (.concat (concatAll rs) (concatAll rs')) := by
  induction rs with
  | nil => exact (equivalent_empty_concat _).symm
  | cons r rs ih =>
    calc Equivalent (concatAll (r :: (rs ++ rs'))) (.concat r (concatAll (rs ++ rs'))) :=
          equivalent_concatAll_cons _ _
      Equivalent _ (.concat r (.concat (concatAll rs) (concatAll rs'))) := .concat (.refl r) ih
      Equivalent _ (.concat (.concat r (concatAll rs)) (concatAll rs')) :=
          (equivalent_assoc _ _ _).symm
      Equivalent _ (.concat (concatAll (r :: rs)) (concatAll rs')) :=
          .concat (equivalent_concatAll_cons _ _).symm (.refl _)

namespace Form

/-! ## Sequences -/

theorem regexes_eq_map (forms : List Form) : regexes forms = forms.map regex := by
  induction forms with
  | nil => rfl
  | cons f forms ih => rw [regexes, ih, List.map_cons]

theorem equivalent_regexOfText_append (s₁ s₂ : List Char) :
    Equivalent (regexOfText (s₁ ++ s₂)) (.concat (regexOfText s₁) (regexOfText s₂)) := by
  unfold regexOfText
  rw [List.map_append]
  exact equivalent_concatAll_append _ _

theorem equivalent_parts (f : Form) : Equivalent (concatAll (f.parts.map regex)) f.regex := by
  cases f with
  | concat forms =>
    rw [parts, regex, regexes_eq_map]
    exact .refl _
  | _ => exact .refl _

theorem equivalent_flatMap_parts (forms : List Form) :
    Equivalent (concatAll ((forms.flatMap parts).map regex)) (concatAll (forms.map regex)) := by
  induction forms with
  | nil => exact .refl _
  | cons f forms ih =>
    rw [List.flatMap_cons, List.map_append, List.map_cons]
    calc Equivalent _ (.concat (concatAll (f.parts.map regex))
          (concatAll ((forms.flatMap parts).map regex))) := equivalent_concatAll_append _ _
      Equivalent _ (.concat f.regex (concatAll (forms.map regex))) :=
        .concat (equivalent_parts f) ih
      Equivalent _ (concatAll (f.regex :: forms.map regex)) := (equivalent_concatAll_cons _ _).symm

/-- An empty form is left out, and two literals are one. -/
theorem equivalent_consPart (f : Form) (forms : List Form) :
    Equivalent (concatAll ((consPart f forms).map regex))
      (.concat f.regex (concatAll (forms.map regex))) := by
  unfold consPart
  split
  · exact (equivalent_empty_concat _).symm
  · next s₁ s₂ rest =>
    calc Equivalent (concatAll (regexOfText (s₁ ++ s₂) :: rest.map regex))
          (.concat (regexOfText (s₁ ++ s₂)) (concatAll (rest.map regex))) :=
          equivalent_concatAll_cons _ _
      Equivalent _ (.concat (.concat (regexOfText s₁) (regexOfText s₂))
          (concatAll (rest.map regex))) :=
          .concat (equivalent_regexOfText_append s₁ s₂) (.refl _)
      Equivalent _ (.concat (regexOfText s₁) (.concat (regexOfText s₂)
          (concatAll (rest.map regex)))) := equivalent_assoc _ _ _
      Equivalent _ (.concat (regexOfText s₁) (concatAll (regexOfText s₂ :: rest.map regex))) :=
          .concat (.refl _) (equivalent_concatAll_cons _ _).symm
  · exact equivalent_concatAll_cons _ _

theorem equivalent_foldr_consPart (forms : List Form) :
    Equivalent (concatAll ((forms.foldr consPart []).map regex)) (concatAll (forms.map regex)) := by
  induction forms with
  | nil => exact .refl _
  | cons f forms ih =>
    calc Equivalent (concatAll ((consPart f (forms.foldr consPart [])).map regex))
          (.concat f.regex (concatAll ((forms.foldr consPart []).map regex))) :=
          equivalent_consPart f _
      Equivalent _ (.concat f.regex (concatAll (forms.map regex))) := .concat (.refl _) ih
      Equivalent _ (concatAll (f.regex :: forms.map regex)) := (equivalent_concatAll_cons _ _).symm

/-- **Merging leaves the language of a sequence as it is.** -/
theorem equivalent_join (forms : List Form) :
    Equivalent (join forms).regex (concatAll (forms.map regex)) := by
  have hmerged : Equivalent (join forms).regex
      (concatAll (((forms.flatMap parts).foldr consPart []).map regex)) := by
    unfold join
    split
    · next h => rw [h]; exact .refl _
    · next f h => rw [h]; exact .refl _
    · rw [regex, regexes_eq_map]
      exact .refl _
  exact hmerged.trans ((equivalent_foldr_consPart _).trans (equivalent_flatMap_parts forms))

/-! ## Sets -/

open Sift.Unicode CodeSet

variable {s : CodeSet} {n : Nat}

/-- A set of characters ends as often as it starts. -/
theorem even_boundaries (hs : s.Ascending) :
    (s.intersection everything).boundaries.toList.length % 2 = 0 := by
  generalize hl : (s.intersection everything).boundaries.toList = l
  -- Behind all boundaries and all code points nothing is inside.
  obtain ⟨n, hn, hbound⟩ : ∃ n, 0x110000 ≤ n ∧ ∀ a ∈ l, a ≤ n :=
    ⟨0x110000 + l.sum, Nat.le_add_right _ _, fun a ha =>
      Nat.le_trans (List.le_sum_of_mem ha) (Nat.le_add_left _ _)⟩
  have houtside : isInside everything.boundaries.toList n = false := by
    rw [← Bool.not_eq_true, isInside_everything_iff]
    unfold Nat.isValidChar
    omega
  have hinside : isInside l n = false := by
    rw [← hl, intersection, isInside_combine (by rfl) hs ascending_everything, houtside,
      Bool.and_false]
  have hcount : l.countP (· ≤ n) = l.length := List.countP_eq_length.2 (by simpa using hbound)
  rw [isInside, hcount] at hinside
  simpa using hinside

theorem accepts_regexOfText_singleton : Accepts (regexOfText [c]) b t a ↔ t = [c] := by
  change Accepts (.char (.range c.toNat c.toNat)) b t a ↔ _
  simp only [accepts_char_iff, contains_range_self, beq_iff_eq]
  constructor
  · rintro ⟨_, rfl, rfl⟩
    rfl
  · exact fun h => ⟨c, h, rfl⟩

/-- The form of a single character is a literal. -/
theorem ofSet_range_self (unicode : Bool) (c : Char) :
    ofSet unicode (.range c.toNat c.toNat) = literal [c] := by
  have hrange : (CodeSet.range c.toNat c.toNat).Ascending :=
    ascending_ofRanges (ascendingRanges_singleton _)
  have hcut : ((CodeSet.range c.toNat c.toNat).intersection everything).boundaries.toList =
      [c.toNat, c.toNat + 1] := by
    refine eq_of_isInside (ascending_combine _ hrange ascending_everything) (by simp) fun n => ?_
    have hn : isInside (CodeSet.range c.toNat c.toNat).boundaries.toList n =
        isInside [c.toNat, c.toNat + 1] n := isInside_cancel _ n
    rw [intersection, isInside_combine (by rfl) hrange ascending_everything, hn]
    by_cases h : n = c.toNat
    · subst h
      rw [isInside_everything, Bool.and_true]
    · have houtside : isInside [c.toNat, c.toNat + 1] n = false := by
        simp
        omega
      rw [houtside, Bool.false_and]
  have hranges : ((CodeSet.range c.toNat c.toNat).intersection everything).ranges =
      [(c.toNat, c.toNat)] := by
    rw [CodeSet.ranges, hcut]
    rfl
  simp [ofSet, hranges]

/-- **The form of a set accepts its members.** -/
theorem accepts_ofSet (unicode : Bool) (hs : s.Ascending) :
    Accepts (ofSet unicode s).regex b t a ↔ ∃ c, t = [c] ∧ s.contains c = true := by
  have hascending : (s.intersection everything).Ascending :=
    ascending_combine _ hs ascending_everything
  have heven := even_boundaries hs
  have hinside : ∀ n, isInside (s.intersection everything).boundaries.toList n =
      (isInside s.boundaries.toList n && isInside everything.boundaries.toList n) :=
    isInside_combine (by rfl) hs ascending_everything
  have hcontains : ∀ c, (s.intersection everything).contains c = s.contains c := fun c => by
    rw [intersection, contains_combine (by rfl) hs ascending_everything, contains_everything,
      Bool.and_true]
  have hset : Accepts (.char (s.intersection everything)) b t a ↔
      ∃ c, t = [c] ∧ s.contains c = true := by
    simp only [accepts_char_iff, hcontains]
  unfold ofSet
  dsimp only
  generalize s.intersection everything = s' at *
  obtain ⟨⟨l⟩⟩ := s'
  match l with
  | [] => exact hset
  | [x] => cases heven
  | [x, y] =>
    have hxy : x < y := by simpa [Ascending] using hascending
    simp only [CodeSet.ranges, CodeSet.ranges.pairs]
    split_ifs with h
    · -- A single code point is left, and it is a character.
      obtain rfl : y = x + 1 := by omega
      have hx : isInside [x, x + 1] x = true := by simp
      rw [hinside x, Bool.and_eq_true, isInside_everything_iff] at hx
      have hmem : ∀ c, s.contains c = true ↔ c = Char.ofNat x := fun c => by
        rw [← hcontains, contains_eq hascending, ← Char.toNat_inj, toNat_ofNat hx.2]
        simp
        omega
      simp only [regex, accepts_regexOfText_singleton, hmem, exists_eq_right]
    · exact hset
  | [x, y, z] => simp at heven
  | x :: y :: z :: w :: l => exact hset

end Form

end Sift.Regex
