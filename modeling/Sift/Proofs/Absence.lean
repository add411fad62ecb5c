import Sift.Proofs.Fields
import Sift.Proofs.History

/-!
# Null has no fields

A text with a colon says nothing about null. Behind marks, in groups and in lists of any length,
there is always a part with a colon, and null has no property to follow it with. So the question is
left open at every level, and no variable is bound on the way.

**Main results.** Whatever a pattern with a colon has read before, null is left open, and the
variables stay as they are unless the pattern is a root, which forgets them first
(`Pattern.evaluate_null`). In a session this leaves all other scopes alone
(`Session.step?_evaluate_null`).
-/

namespace Sift

namespace Pattern

variable {p : Pattern}

/-- **Null has no fields.** A pattern with a colon leaves null open, at every depth, and changes no
variable but that a root starts without any. -/
theorem evaluate_null (hs : p.settings.chain = .standard) (hcolon : ':' ∈ p.text)
    (hp : Coherent p.levels p) (s : State) :
    (p.evaluate .null s).1 = .indeterminate ∧
      (p.evaluate .null s).2.2.bindings = if p.isRoot then [] else s.bindings := by
  obtain ⟨hverdict, hbindings, -⟩ := evaluate_of_coherent hp .null s
  rw [fresh_null (p := p.forget) hs hcolon] at hverdict hbindings
  exact ⟨hverdict, hbindings⟩

/-- A text with marks, space, a comma, groups and a variable. -/
def markedFields : List Char := "! !a:b, c:d e:$x".toList

/-- One variable that has been bound before. -/
def sampleState : State := ⟨[("x", .string "d")], []⟩

theorem evaluate_null_markedFields :
    (':' ∈ markedFields ∧ ∀ p ∈ [root .standard markedFields, (ofText "a").derive markedFields],
      p.settings.chain = .standard ∧ Coherent p.levels p) ∧
    ((root .standard markedFields).evaluate .null sampleState).1 = .indeterminate ∧
    ((root .standard markedFields).evaluate .null sampleState).2.2.bindings = [] ∧
    (((ofText "a").derive markedFields).evaluate .null sampleState).1 = .indeterminate ∧
    (((ofText "a").derive markedFields).evaluate .null sampleState).2.2.bindings =
      sampleState.bindings := by
  have hcolon : ':' ∈ markedFields := by decide
  have hregular : Settings.standard.chain.IsRegular := Chain.isBuiltIn_standard.isRegular
  have hroot : Coherent (root .standard markedFields).levels (root .standard markedFields) :=
    coherent_of_cache_eq_nil hregular rfl _
  have hderived : Coherent ((ofText "a").derive markedFields).levels
      ((ofText "a").derive markedFields) :=
    coherent_of_cache_eq_nil hregular rfl _
  obtain ⟨hverdict, hbindings⟩ := evaluate_null rfl hcolon hroot sampleState
  obtain ⟨hverdict', hbindings'⟩ := evaluate_null rfl hcolon hderived sampleState
  refine ⟨⟨hcolon, ?_⟩, hverdict, hbindings, hverdict', hbindings'⟩
  simp only [List.forall_mem_cons]
  exact ⟨⟨rfl, hroot⟩, ⟨rfl, hderived⟩, List.forall_mem_nil _⟩

end Pattern

namespace Session

variable {t : Session} {f : Plan} {name : String} {m : Member}

/-- **In a session**, asking a pattern with a colon about null changes no variable but that the
scope of a root is cleared. -/
theorem step?_evaluate_null (h : Follows t f) (hm : t.get? name = some m)
    (hs : m.pattern.settings.chain = .standard) (hcolon : ':' ∈ m.pattern.text) :
    ∃ t', t.step? (.act name (.evaluate .null)) = some (.verdict .indeterminate, t') ∧
      ∀ scope, t'.bindings scope =
        if scope = m.scope ∧ m.pattern.isRoot then [] else t.bindings scope := by
  obtain ⟨hverdict, hbindings, -⟩ :=
    Pattern.evaluate_of_coherent (h.coherent hm) .null ⟨t.bindings m.scope, t.log⟩
  rw [Pattern.fresh_null (p := m.pattern.forget) hs hcolon] at hverdict hbindings
  refine ⟨(t.act name m (.evaluate .null)).2, ?_, fun scope => ?_⟩
  · simp [step?, hm, act, Operation.perform, hverdict]
  · simp only [act, Operation.perform, bindings] at hbindings ⊢
    by_cases hscope : scope = m.scope
    · subst hscope
      rw [List.getElem?_set_self (h.scope_lt hm), Option.getD_some, hbindings]
      change (if m.pattern.isRoot = true then _ else _) = _
      cases m.pattern.isRoot <;> simp
    · rw [List.getElem?_set_ne (Ne.symm hscope), if_neg fun hroot => hscope hroot.1]

end Session

end Sift
