/-!
# Verdicts

A matcher answers with one of three verdicts. *Indeterminate* means that the matcher's way of
reading the pattern does not apply, and that the next matcher should be asked.
-/

namespace Sift

/-- The answer of a matcher. -/
inductive Verdict where
  | isMatch
  | mismatch
  | indeterminate
  deriving DecidableEq

namespace Verdict

instance : Inhabited Verdict := ⟨indeterminate⟩

/-- Whether the verdict ends the search for a matcher. -/
def isDeterminate (v : Verdict) : Bool := v ≠ indeterminate

/-- The truth value of a determinate verdict. -/
def toBool? : Verdict → Option Bool
  | isMatch => some true
  | mismatch => some false
  | indeterminate => none

/-- A test whose failure is a verdict of its own. -/
def ofBool (matched : Bool) : Verdict := if matched then isMatch else mismatch

@[simp] theorem ofBool_ne_indeterminate (matched : Bool) : ofBool matched ≠ indeterminate := by
  cases matched <;> decide

@[simp] theorem ofBool_eq_isMatch {matched : Bool} : ofBool matched = isMatch ↔ matched = true := by
  cases matched <;> decide

@[simp] theorem ofBool_eq_mismatch {matched : Bool} :
    ofBool matched = mismatch ↔ matched = false := by
  cases matched <;> decide

/-- A test whose failure leaves the decision to later matchers. -/
def matchOrDefer (matched : Bool) : Verdict := if matched then isMatch else indeterminate

/-- The opposite verdict; indeterminate stays what it is. -/
def negate : Verdict → Verdict
  | isMatch => mismatch
  | mismatch => isMatch
  | indeterminate => indeterminate

@[simp] theorem negate_negate (v : Verdict) : v.negate.negate = v := by cases v <;> rfl

@[simp] theorem negate_eq_indeterminate {v : Verdict} :
    v.negate = indeterminate ↔ v = indeterminate := by
  cases v <;> decide

@[simp] theorem isDeterminate_negate (v : Verdict) : v.negate.isDeterminate = v.isDeterminate := by
  cases v <;> rfl

end Verdict

end Sift
