import Sift.Json.Basic
import Sift.Proofs.PlainNotation
import Sift.Value.Path

/-!
# Looking into documents

A name leads from an object to the entry with that key, and from an array to an element if the name
is an index: decimal digits, with a plus sign allowed in front, which stand for a number as large as
they may (`Value.IsIndex`). Several names lead from one part of a document to the next.

**Main result.** Looking a path up in the value of a document finds the value of the part that the
names lead to, or null if they lead nowhere, and paths can be walked piece by piece
(`Json.path_toValue`).
-/

namespace Sift

/-! ## Indices -/

namespace Value

/-- The name is an index: digits, with a plus sign allowed in front, that stand for a number. -/
def IsIndex (name : List Char) (i : Nat) : Prop :=
  ∃ digits : List Char, (name = digits ∨ name = '+' :: digits) ∧ digits ≠ [] ∧
    (∀ c ∈ digits, c.isDigit = true) ∧ Nat.ofDigitChars 10 digits 0 = i

/-- What is left of a name without a plus sign in front. -/
def unsigned : List Char → List Char
  | '+' :: r => r
  | r => r

theorem eq_unsigned_or (name : List Char) : name = unsigned name ∨ name = '+' :: unsigned name := by
  unfold unsigned
  split
  · exact .inr rfl
  · exact .inl rfl

theorem unsigned_digits {digits : List Char} (h : ∀ c ∈ digits, c.isDigit = true) :
    unsigned digits = digits := by
  unfold unsigned
  split
  · next r => exact absurd (h '+' List.mem_cons_self) (by decide)
  · rfl

theorem index?_eq (name : List Char) :
    index? name =
      if unsigned name ≠ [] ∧ (unsigned name).all Char.isDigit = true then
        if Number.natOfDigits (unsigned name) < UInt64.size then
          some (Number.natOfDigits (unsigned name))
        else none
      else none := rfl

/-- **The index that a name is read as** is the number it stands for, if that is below `2 ^ 64`. -/
theorem index?_eq_some_iff {name : List Char} {i : Nat} :
    index? name = some i ↔ IsIndex name i ∧ i < UInt64.size := by
  rw [index?_eq]
  constructor
  · intro h
    split_ifs at h with hdigits hsize
    obtain ⟨hne, hall⟩ := hdigits
    rw [List.all_eq_true] at hall
    obtain rfl := Option.some.inj h
    refine ⟨⟨unsigned name, eq_unsigned_or name, hne, hall, ?_⟩, hsize⟩
    exact (Number.natOfDigits_eq hall).symm
  · rintro ⟨⟨digits, hname, hne, hall, rfl⟩, hsize⟩
    have hunsigned : unsigned name = digits := by
      rcases hname with rfl | rfl
      · exact unsigned_digits hall
      · rfl
    rw [hunsigned, Number.natOfDigits_eq hall, if_pos ⟨hne, List.all_eq_true.2 hall⟩, if_pos hsize]

/-! ## Paths -/

/-- A path can be walked piece by piece. -/
theorem path_append (v : Value) (front rest : List String) :
    v.path (front ++ rest) = (v.path front).path rest := List.foldl_append

@[simp] theorem step_null (name : String) : null.step name = null := rfl

/-- **Null absorbs every further step.** -/
theorem path_null (names : List String) : null.path names = null := by
  induction names with
  | nil => rfl
  | cons name names ih => rw [path_cons, step_null, ih]

end Value

/-! ## Documents -/

namespace Json

/-- A name leads from a document to a part of it: from an object to the entry with that key, and
from an array to the element with that index. -/
inductive Leads : Json → String → Json → Prop
  | key {entries : List (String × Json)} {name : String} {k : Json} :
      entries.lookup name = some k → Leads (object entries) name k
  | element {items : List Json} {name : String} {i : Nat} {k : Json} :
      Value.IsIndex name.toList i → i < UInt64.size → items[i]? = some k →
      Leads (array items) name k

/-- Names lead from a document to a part of it, one after the other. -/
inductive LeadsAlong : Json → List String → Json → Prop
  | nil (j : Json) : LeadsAlong j [] j
  | cons {j k l : Json} {name : String} {names : List String} :
      Leads j name k → LeadsAlong k names l → LeadsAlong j (name :: names) l

theorem toValues_eq_map (items : List Json) : toValues items = items.map toValue := by
  induction items with
  | nil => rfl
  | cons j items ih => rw [toValues, ih, List.map_cons]

theorem lookup_toEntries (entries : List (String × Json)) (name : String) :
    (toEntries entries).lookup name = (entries.lookup name).map toValue := by
  induction entries with
  | nil => rfl
  | cons e entries ih =>
    obtain ⟨k, j⟩ := e
    rw [toEntries, List.lookup_cons, List.lookup_cons, ih]
    cases name == k with
    | true => rfl
    | false => rfl

variable {j k : Json} {name : String} {names : List String}

/-- **A member of a document's value** is the value of the part that the name leads to. -/
theorem member?_toValue_eq_some_iff {w : Value} :
    j.toValue.member? name = some w ↔ ∃ k, j.Leads name k ∧ k.toValue = w := by
  cases j with
  | null | bool _ | number _ | string _ =>
    constructor
    · intro h
      cases h
    · rintro ⟨k, hk, -⟩
      cases hk
  | object entries =>
    have hmember : (object entries).toValue.member? name = (entries.lookup name).map toValue :=
      lookup_toEntries entries name
    rw [hmember, Option.map_eq_some_iff]
    constructor
    · rintro ⟨k, hk, hw⟩
      exact ⟨k, .key hk, hw⟩
    · rintro ⟨k, hk, hw⟩
      cases hk with
      | key hk => exact ⟨k, hk, hw⟩
  | array items =>
    have hmember : (array items).toValue.member? name =
        (Value.index? name.toList).bind fun i => items[i]?.map toValue := by
      simp [toValue, Value.member?, toValues_eq_map]
    rw [hmember, Option.bind_eq_some_iff]
    constructor
    · rintro ⟨i, hi, hw⟩
      obtain ⟨hindex, hsize⟩ := Value.index?_eq_some_iff.1 hi
      obtain ⟨k, hk, hw⟩ := Option.map_eq_some_iff.1 hw
      exact ⟨k, .element hindex hsize hk, hw⟩
    · rintro ⟨k, hk, hw⟩
      cases hk with
      | @element _ _ i _ hindex hsize hk =>
        exact ⟨i, Value.index?_eq_some_iff.2 ⟨hindex, hsize⟩, Option.map_eq_some_iff.2 ⟨k, hk, hw⟩⟩

theorem step_toValue (h : j.Leads name k) : j.toValue.step name = k.toValue := by
  rw [Value.step, member?_toValue_eq_some_iff.2 ⟨k, h, rfl⟩, Option.getD_some]

theorem step_toValue_eq_null (h : ∀ k, ¬ j.Leads name k) : j.toValue.step name = .null := by
  have hnone : j.toValue.member? name = none := by
    rw [Option.eq_none_iff_forall_ne_some]
    intro w hw
    obtain ⟨k, hk, -⟩ := member?_toValue_eq_some_iff.1 hw
    exact h k hk
  rw [Value.step, hnone, Option.getD_none]

theorem path_toValue_of_leadsAlong (h : j.LeadsAlong names k) :
    j.toValue.path names = k.toValue := by
  induction h with
  | nil => rfl
  | cons hname _ ih => rw [Value.path_cons, step_toValue hname, ih]

theorem path_toValue_eq_null (h : ∀ k, ¬ j.LeadsAlong names k) :
    j.toValue.path names = .null := by
  induction names generalizing j with
  | nil => exact absurd (.nil j) (h j)
  | cons name names ih =>
    rw [Value.path_cons]
    by_cases hname : ∃ k, j.Leads name k
    · obtain ⟨k, hk⟩ := hname
      rw [step_toValue hk]
      exact ih fun l hl => h l (.cons hk hl)
    · rw [step_toValue_eq_null (not_exists.1 hname), Value.path_null]

/-- **Looking up commutes with taking the value.** If names lead to a part of a document, the path
finds the value of that part, and null if they lead nowhere. A path may be walked piece by piece,
and nothing is found beyond null. -/
theorem path_toValue (j : Json) (names : List String) (v : Value) (front rest : List String) :
    (∀ k, j.LeadsAlong names k → j.toValue.path names = k.toValue) ∧
    ((∀ k, ¬ j.LeadsAlong names k) → j.toValue.path names = .null) ∧
    v.path (front ++ rest) = (v.path front).path rest ∧
    Value.null.path rest = .null :=
  ⟨fun _ => path_toValue_of_leadsAlong, path_toValue_eq_null, v.path_append front rest,
    Value.path_null rest⟩

/-- An object with an array that ends with an object. -/
def sampleDocument : Json :=
  object [("a", array [number (.integer 10), object [("b", bool true)]])]

/-- The second index is `2 ^ 64 + 1`. -/
theorem path_sampleDocument :
    (sampleDocument.LeadsAlong ["a", "+0001", "b"] (bool true) ∧
      ∀ k, ¬ sampleDocument.LeadsAlong ["a", "18446744073709551617", "b"] k) ∧
    sampleDocument.toValue.path ["a", "+0001", "b"] = .bool true ∧
    sampleDocument.toValue.path ["a", "18446744073709551617", "b"] = .null := by
  have hleads : sampleDocument.LeadsAlong ["a", "+0001", "b"] (bool true) := by
    have hindex : Value.IsIndex "+0001".toList 1 :=
      ⟨['0', '0', '0', '1'], .inr rfl, by decide, List.all_eq_true.1 rfl, rfl⟩
    exact .cons (.key rfl) (.cons (.element hindex (by decide) rfl) (.cons (.key rfl) (.nil _)))
  have hnowhere : ∀ k, ¬ sampleDocument.LeadsAlong ["a", "18446744073709551617", "b"] k := by
    intro k h
    cases h with
    | cons hkey h =>
      cases hkey with
      | key hkey =>
        obtain rfl := Option.some.inj hkey
        cases h with
        | cons helement _ =>
          cases helement with
          | element hindex hsize _ =>
            have hread := Value.index?_eq_some_iff.2 ⟨hindex, hsize⟩
            have hnone : Value.index? "18446744073709551617".toList = none := by decide +kernel
            rw [hnone] at hread
            cases hread
  obtain ⟨hpath, -⟩ := path_toValue sampleDocument ["a", "+0001", "b"] .null [] []
  obtain ⟨-, hnull, -⟩ :=
    path_toValue sampleDocument ["a", "18446744073709551617", "b"] .null [] []
  exact ⟨⟨hleads, hnowhere⟩, hpath _ hleads, hnull hnowhere⟩

end Json

end Sift
