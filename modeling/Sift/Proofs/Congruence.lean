import Sift.Proofs.Displays
import Sift.Proofs.Equality
import Sift.Proofs.Operations

/-!
# What equal values have in common

Two values are equal if they are of the same kind and what they are made of is equal
(`EqualParts`). As this goes on down to texts and numbers, equality is transitive because equality
of numbers is, and two equal values are of the same size and have equal members, name by name.
Objects are made of nothing but their identity, so nothing is said about their members.

**Main result.** Equality of values is symmetric and transitive, and reflexive at the values without
a not-a-number; equal values look alike from outside (`equals_partialEquivalence`).
-/

namespace Sift

/-- Numbers are equal if they are at the same place of the number line. -/
theorem Number.equals_iff {x y : Number} :
    x.equals y = true ↔ ∃ a, x.key = some a ∧ y.key = some a := by
  unfold equals
  cases x.key with
  | none => simp
  | some a =>
    cases y.key with
    | none => simp
    | some b =>
      refine beq_iff_eq.trans ⟨fun h => ⟨a, rfl, congrArg some h.symm⟩, ?_⟩
      rintro ⟨c, ha, hb⟩
      exact Option.some.inj (ha.trans hb.symm)

theorem Number.equals_trans {x y z : Number} (hxy : x.equals y = true) (hyz : y.equals z = true) :
    x.equals z = true := by
  obtain ⟨a, hx, hy⟩ := equals_iff.1 hxy
  obtain ⟨b, hy', hz⟩ := equals_iff.1 hyz
  obtain rfl : a = b := Option.some.inj (hy.symm.trans hy')
  exact equals_iff.2 ⟨a, hx, hz⟩

namespace Value

/-! ## One level of equality -/

theorem equalsList_iff {vs ws : List Value} :
    equalsList vs ws = true ↔ List.Forall₂ (fun v w => v.equals w = true) vs ws := by
  induction vs generalizing ws with
  | nil => cases ws <;> simp [equalsList]
  | cons v vs ih =>
    cases ws with
    | nil => simp [equalsList]
    | cons w ws => rw [equalsList, Bool.and_eq_true, ih, List.forall₂_cons]

theorem equalsEntries_iff {es fs : List (String × Value)} :
    equalsEntries es fs = true ↔
      List.Forall₂ (fun e f => e.1 = f.1 ∧ e.2.equals f.2 = true) es fs := by
  induction es generalizing fs with
  | nil => cases fs <;> simp [equalsEntries]
  | cons e es ih =>
    cases fs with
    | nil => simp [equalsEntries]
    | cons f fs =>
      rw [equalsEntries, Bool.and_eq_true, Bool.and_eq_true, beq_iff_eq, ih, List.forall₂_cons]

/-- Two values are of the same kind, and what they are made of is equal. -/
inductive EqualParts : Value → Value → Prop
  | null : EqualParts null null
  | bool (b : Bool) : EqualParts (bool b) (bool b)
  | number {x y : Number} : x.equals y = true → EqualParts (number x) (number y)
  | string (s : String) : EqualParts (string s) (string s)
  | list {vs ws : List Value} : equalsList vs ws = true → EqualParts (list vs) (list ws)
  | map {es fs : List (String × Value)} : equalsEntries es fs = true → EqualParts (map es) (map fs)
  | object (o : String) (es fs : List (String × Value)) : EqualParts (object o es) (object o fs)

/-- **Equal values are of the same kind**, and equal in what they are made of. -/
theorem equals_iff_equalParts {v w : Value} : v.equals w = true ↔ EqualParts v w := by
  constructor
  · intro h
    cases v with
    | null =>
      cases w with
      | null => exact .null
      | _ => cases h
    | bool b =>
      cases w with
      | bool b' =>
        obtain rfl : b = b' := eq_of_beq h
        exact .bool b
      | _ => cases h
    | number x =>
      cases w with
      | number y => exact .number h
      | _ => cases h
    | string s =>
      cases w with
      | string s' =>
        obtain rfl : s = s' := eq_of_beq h
        exact .string s
      | _ => cases h
    | list vs =>
      cases w with
      | list ws => exact .list h
      | _ => cases h
    | map es =>
      cases w with
      | map fs => exact .map h
      | _ => cases h
    | object o es =>
      cases w with
      | object o' fs =>
        obtain rfl : o = o' := eq_of_beq h
        exact .object o es fs
      | _ => cases h
  · intro h
    cases h with
    | null => rfl
    | bool b => exact beq_self_eq_true b
    | string s => exact beq_self_eq_true s
    | object o es fs => exact beq_self_eq_true o
    | number h | list h | map h => exact h

/-! ## Transitivity -/

mutual

/-- **Equality is transitive** at every depth. -/
theorem equals_trans : ∀ {u v w : Value}, u.equals v = true → v.equals w = true →
    u.equals w = true
  | null, _, _, huv, hvw => by
    cases equals_iff_equalParts.1 huv with
    | null => exact hvw
  | bool _, _, _, huv, hvw => by
    cases equals_iff_equalParts.1 huv with
    | bool _ => exact hvw
  | number _, _, _, huv, hvw => by
    cases equals_iff_equalParts.1 huv with
    | number hxy =>
      cases equals_iff_equalParts.1 hvw with
      | number hyz => exact Number.equals_trans hxy hyz
  | string _, _, _, huv, hvw => by
    cases equals_iff_equalParts.1 huv with
    | string _ => exact hvw
  | list _, _, _, huv, hvw => by
    cases equals_iff_equalParts.1 huv with
    | list huv =>
      cases equals_iff_equalParts.1 hvw with
      | list hvw => exact equalsList_trans huv hvw
  | map _, _, _, huv, hvw => by
    cases equals_iff_equalParts.1 huv with
    | map huv =>
      cases equals_iff_equalParts.1 hvw with
      | map hvw => exact equalsEntries_trans huv hvw
  | object o _, _, _, huv, hvw => by
    cases equals_iff_equalParts.1 huv with
    | object _ _ _ =>
      cases equals_iff_equalParts.1 hvw with
      | object _ _ _ => exact beq_self_eq_true o

theorem equalsList_trans : ∀ {us vs ws : List Value}, equalsList us vs = true →
    equalsList vs ws = true → equalsList us ws = true
  | [], [], _, _, hvw => hvw
  | [], _ :: _, _, huv, _ => nomatch huv
  | _ :: _, [], _, huv, _ => nomatch huv
  | _ :: _, _ :: _, [], _, hvw => nomatch hvw
  | u :: us, v :: vs, w :: ws, huv, hvw => by
    rw [equalsList, Bool.and_eq_true] at huv hvw ⊢
    exact ⟨equals_trans huv.1 hvw.1, equalsList_trans huv.2 hvw.2⟩

theorem equalsEntries_trans : ∀ {es fs gs : List (String × Value)}, equalsEntries es fs = true →
    equalsEntries fs gs = true → equalsEntries es gs = true
  | [], [], _, _, hfg => hfg
  | [], _ :: _, _, hef, _ => nomatch hef
  | _ :: _, [], _, hef, _ => nomatch hef
  | _ :: _, _ :: _, [], _, hfg => nomatch hfg
  | (k, u) :: es, (l, v) :: fs, (m, w) :: gs, hef, hfg => by
    rw [equalsEntries, Bool.and_eq_true, Bool.and_eq_true] at hef hfg ⊢
    obtain ⟨⟨hkl, huv⟩, hef⟩ := hef
    obtain ⟨⟨hlm, hvw⟩, hfg⟩ := hfg
    obtain rfl : k = l := eq_of_beq hkl
    exact ⟨⟨hlm, equals_trans huv hvw⟩, equalsEntries_trans hef hfg⟩

end

/-! ## Equal values from outside -/

variable {v w : Value}

theorem typeName_eq_of_equals (h : v.equals w = true) : v.typeName = w.typeName := by
  cases equals_iff_equalParts.1 h with
  | _ => rfl

theorem size?_eq_of_equals (h : v.equals w = true) : v.size? = w.size? := by
  cases equals_iff_equalParts.1 h with
  | list h => exact congrArg some (equalsList_iff.1 h).length_eq
  | map h => exact congrArg some (equalsEntries_iff.1 h).length_eq
  | _ => rfl

/-- What is found in two values is equal, or nothing is found in either. -/
abbrev EqualFinds : Option Value → Option Value → Prop :=
  Option.Rel fun v w => v.equals w = true

theorem equalFinds_getElem? {vs ws : List Value} (h : equalsList vs ws = true) (i : Nat) :
    EqualFinds vs[i]? ws[i]? := by
  have hall := equalsList_iff.1 h
  cases hv : vs[i]? with
  | none =>
    have hw : ws[i]? = none := by
      rw [List.getElem?_eq_none_iff] at hv ⊢
      exact hall.length_eq ▸ hv
    rw [hw]
    exact .none
  | some v =>
    obtain ⟨w, hw, hequal⟩ := forall₂_getElem? hall hv
    rw [hw]
    exact .some hequal

theorem equalFinds_lookup {es fs : List (String × Value)} (h : equalsEntries es fs = true)
    (name : String) : EqualFinds (es.lookup name) (fs.lookup name) := by
  induction equalsEntries_iff.1 h with
  | nil => exact .none
  | @cons e f es fs hhead htail ih =>
    obtain ⟨k, v⟩ := e
    obtain ⟨l, w⟩ := f
    obtain ⟨rfl, hequal⟩ : k = l ∧ v.equals w = true := hhead
    by_cases hk : (name == k) = true
    · rw [List.lookup_cons, List.lookup_cons, hk]
      exact .some hequal
    · rw [Bool.not_eq_true] at hk
      rw [List.lookup_cons, List.lookup_cons, hk]
      exact ih (equalsEntries_iff.2 htail)

/-- **Equal values have equal members**, unless they are objects, which are equal by their identity
whatever their members. -/
theorem equalFinds_member? (h : v.equals w = true) (hv : v.typeName ≠ "object") (name : String) :
    EqualFinds (v.member? name) (w.member? name) := by
  cases equals_iff_equalParts.1 h with
  | null | bool _ | number _ | string _ => exact .none
  | list h =>
    simp only [member?]
    cases index? name.toList with
    | none => exact .none
    | some i => exact equalFinds_getElem? h i
  | map h => exact equalFinds_lookup h name
  | object o es fs => exact absurd rfl hv

theorem typeName_ne_of_isObjectFree (h : v.isObjectFree = true) : v.typeName ≠ "object" := by
  cases v with
  | object o es => cases h
  | _ => simp [typeName]

/-- **Equality is a partial equivalence** whose domain are the values without a not-a-number. Equal
values have the same kind and the same size, and without objects in them they have equal members
under every name. -/
theorem equals_partialEquivalence (u v w : Value) :
    (u.equals v = true → v.equals u = true) ∧
    (u.equals v = true → v.equals w = true → u.equals w = true) ∧
    (u.equals u = true ↔ u.hasNaN = false) ∧
    (u.equals v = true → u.typeName = v.typeName ∧ u.size? = v.size? ∧
      (u.isObjectFree = true → v.isObjectFree = true → ∀ name,
        EqualFinds (u.member? name) (v.member? name))) := by
  refine ⟨fun huv => ?_, equals_trans, equals_self_iff, fun huv => ?_⟩
  · rw [equals_comm]
    exact huv
  · refine ⟨typeName_eq_of_equals huv, size?_eq_of_equals huv, fun hu _ name => ?_⟩
    exact equalFinds_member? huv (typeName_ne_of_isObjectFree hu) name

/-- A zero in a list and a zero in a map, each with a sign. -/
def sampleZeros (inList inMap : Bool) : Value :=
  list [number (.ofMagnitude inList 0), map [("k", number (.ofMagnitude inMap 0))]]

theorem equals_sampleZeros :
    ((sampleZeros false false).equals (sampleZeros true false) = true ∧
      (sampleZeros true false).equals (sampleZeros true true) = true ∧
      (sampleZeros false false).isObjectFree = true ∧
      (sampleZeros true false).isObjectFree = true ∧
      (sampleZeros false false).hasNaN = false) ∧
    (sampleZeros true false).equals (sampleZeros false false) = true ∧
    (sampleZeros false false).equals (sampleZeros true true) = true ∧
    (sampleZeros false false).equals (sampleZeros false false) = true ∧
    (sampleZeros false false).size? = (sampleZeros true false).size? ∧
    EqualFinds ((sampleZeros false false).member? "+01")
      ((sampleZeros true false).member? "+01") := by
  have huv : (sampleZeros false false).equals (sampleZeros true false) = true := by decide +kernel
  have hvw : (sampleZeros true false).equals (sampleZeros true true) = true := by decide +kernel
  obtain ⟨hsymm, htrans, hself, hcommon⟩ :=
    equals_partialEquivalence (sampleZeros false false) (sampleZeros true false)
      (sampleZeros true true)
  obtain ⟨-, hsize, hmembers⟩ := hcommon huv
  exact ⟨⟨huv, hvw, rfl, rfl, rfl⟩, hsymm huv, htrans huv hvw, hself.2 rfl, hsize,
    hmembers rfl rfl "+01"⟩

end Value

end Sift
