import Sift.Pattern.Chain

/-!
# Adapted matchers

Most matchers of a host look at values of one *shape* only. Some of them judge by the value alone,
others also by data that they have read from the text. Adapted to the contract of a chain, such a
matcher is asked only about values of its shape and only with data of its own; everything else is
left to the matchers behind it.

**Kinds.** An adapted matcher shows the name of the matcher in it, but it is of a kind of its own:
a matcher may stand in a chain bare and adapted.
-/

namespace Sift

/-- What a matcher asks a value to be. -/
inductive Shape where
  | any
  | string
  | number
  | bool
  | list
  | map
  | object
  deriving DecidableEq

/-- Whether a value is of a shape. -/
def Shape.admits : Shape → Value → Bool
  | any, _ => true
  | string, .string _ => true
  | number, .number _ => true
  | bool, .bool _ => true
  | list, .list _ => true
  | map, .map _ => true
  | object, .object _ _ => true
  | _, _ => false

/-! ## Matchers that judge by the value -/

/-- A matcher that needs nothing but a value of a shape. -/
structure ValueMatcher where
  name : String
  label : Nat
  shape : Shape
  judge : Value → View → Verdict

namespace ValueMatcher

/-- The matcher for a chain. It reads nothing. -/
def toAdded (m : ValueMatcher) : Added where
  name := "ByValue(" ++ m.name ++ ")"
  label := m.label
  title := m.name
  read _ := none
  shouldRead _ _ _ := false
  judge v _ view := if m.shape.admits v then m.judge v view else .indeterminate

def toMatcher (m : ValueMatcher) : Matcher := .added m.toAdded

@[simp] theorem name_toMatcher (m : ValueMatcher) : m.toMatcher.name = m.name := rfl

end ValueMatcher

/-! ## Matchers that judge by data -/

/-- A matcher that judges a value of a shape by the data it has read. All data that it reads is its
own. -/
structure DataMatcher where
  name : String
  label : Nat
  shape : Shape
  read : View → Option Value
  /-- Whether data is of the type that the matcher reads. -/
  isOwn : Value → Bool
  isOwn_of_read : ∀ view, ∀ data ∈ read view, isOwn data = true
  shouldRead : Bool → Option Value → View → Bool := fun first _ _ => first
  judge : Value → Value → View → Verdict

namespace DataMatcher

/-- The matcher for a chain. Data that is not its own is neither replaced nor judged by. -/
def toAdded (m : DataMatcher) : Added where
  name := "ByData(" ++ m.name ++ ")"
  label := m.label
  title := m.name
  read := m.read
  shouldRead first kept view := kept.all m.isOwn && m.shouldRead first kept view
  judge v kept view :=
    match kept.filter m.isOwn with
    | some data => if m.shape.admits v then m.judge v data view else .indeterminate
    | none => .indeterminate

def toMatcher (m : DataMatcher) : Matcher := .added m.toAdded

@[simp] theorem name_toMatcher (m : DataMatcher) : m.toMatcher.name = m.name := rfl

/-- Foreign data is left alone. -/
theorem foreign {m : DataMatcher} {data : Value} (h : m.isOwn data = false) (first : Bool)
    (v : Value) (view : View) :
    m.toAdded.shouldRead first (some data) view = false ∧
      m.toAdded.judge v (some data) view = .indeterminate := by
  have hkept : (some data).filter m.isOwn = none := by simp [Option.filter, h]
  exact ⟨by simp [toAdded, h], by simp only [toAdded, hkept]⟩

/-- Values of the shape are judged by what was read. -/
theorem judge_read {m : DataMatcher} {v data : Value} {view : View} (h : m.read view = some data)
    (hv : m.shape.admits v = true) (view' : View) :
    m.toAdded.judge v (m.read view) view' = m.judge v data view' := by
  have hown : (m.read view).filter m.isOwn = some data := by
    rw [h, Option.filter_eq_some_iff]
    exact ⟨rfl, m.isOwn_of_read view data h⟩
  simp only [toAdded, hown, if_pos hv]

end DataMatcher

/-! ## Chains -/

namespace Chain

/-- Inserts a matcher that judges by the value. -/
def insertValue (c : Chain) (m : ValueMatcher) : Chain := c.insert m.toMatcher

/-- Inserts a matcher that judges by data. -/
def insertData (c : Chain) (m : DataMatcher) : Chain := c.insert m.toMatcher

end Chain

end Sift
