import Sift.Proofs.Calls
import Sift.Proofs.History
import Sift.Proofs.Reach
import Sift.Proofs.Steady

/-!
# What variables hold

Variables are written deep down, in attempts that succeed and in attempts that fail, and they are
shared by all patterns derived from one root. Still nothing gets into them but what the evaluation
at hand has seen.

**The invariant.** A property of the variables that every single capture keeps is kept by a whole
judgement (`Pattern.verdictFrom_preserves`). Here it is that each name stands in the text of the
root behind a dollar sign, and that each value is one that the value at hand offers
(`Bindings.ComeFrom`). It is kept at every level, since what is handed on is a piece of the text and
something that the value offers.

**Main result.** After any history, a root pattern leaves no variables behind unless it matches, and
then only such as come from its text and its value (`bindings_after_evaluate`).
-/

namespace Sift

/-! ## Keeping a property of the variables -/

/-- Whatever the answer, the variables keep the property. -/
def Preserves {α : Type} (I : Bindings → Prop) (f : Bindings → α × Bindings) : Prop :=
  ∀ b, I b → I (f b).2

namespace Test

variable {I : Bindings → Prop} {ts : List Test}

theorem preserves_all (h : ∀ t ∈ ts, Preserves I t) : Preserves I (all ts) := by
  induction ts with
  | nil => exact fun _ hb => hb
  | cons t ts ih =>
    intro b hb
    have ht := h t List.mem_cons_self b hb
    have hts := ih (fun t' ht' => h t' (List.mem_cons_of_mem t ht')) (t b).2 ht
    rw [all]
    split_ifs
    · exact hts
    · exact ht

theorem preserves_any (h : ∀ t ∈ ts, Preserves I t) : Preserves I (any ts) := by
  induction ts with
  | nil => exact fun _ hb => hb
  | cons t ts ih =>
    intro b hb
    have ht := h t List.mem_cons_self b hb
    have hts := ih (fun t' ht' => h t' (List.mem_cons_of_mem t ht')) (t b).2 ht
    rw [any]
    split_ifs
    · exact ht
    · exact hts

end Test

namespace Pattern

variable {p : Pattern} {v w : Value} {j : Judge} {I : Bindings → Prop}

theorem preserves_asksList {items : List Pattern} {vs : List Value}
    (h : ∀ q ∈ items, ∀ w ∈ vs, Preserves I (j q w)) (mode : Mode) :
    Preserves I (asksList j items vs mode) := by
  cases mode with
  | exact =>
    rw [asksList]
    split_ifs
    · apply Test.preserves_all
      exact forall_mem_zipWith fun q hq w hw => h q hq w hw
    · exact fun _ hb => hb
  | inclusive =>
    apply Test.preserves_all
    rw [List.forall_mem_map]
    intro q hq
    apply Test.preserves_any
    rw [List.forall_mem_map]
    exact fun w hw => h q hq w hw

/-- **A matcher keeps a property of the variables** if captures do, and whatever it asks. -/
theorem verdictFrom_preserves {r : Option (Reading Pattern)}
    (hcapture : ∀ name, r = some (.capture name) → ∀ b, I b → I (b.bind name v).2)
    (hask : ∀ r', r = some r' → ∀ q w, r'.Asks v q w → Preserves I (j q w)) (m : Matcher) :
    Preserves I fun b => verdictFrom j p r v b m := by
  intro b hb
  cases m with
  | added a => exact hb
  | builtIn d =>
    cases r with
    | none => cases d <;> exact hb
    | some r =>
      cases d with
      | anything | nullOrEmpty | glob | comparison | range | regex => exact hb
      | capture =>
        cases r with
        | capture name => exact hcapture name rfl b hb
        | _ => exact hb
      | negation =>
        cases r with
        | negation q => exact hask _ rfl q v .operand b hb
        | _ => exact hb
      | list =>
        cases r with
        | list items =>
          cases v with
          | list vs =>
            have hitems : ∀ q ∈ items, ∀ w ∈ vs, Preserves I (j q w) := by
              intro q hq w hw
              exact hask _ rfl q w (.element hq rfl hw)
            exact preserves_asksList hitems p.settings.mode b hb
          | _ => exact hb
        | _ => exact hb
      | multiField =>
        cases r with
        | fields groups =>
          have hgroups : ∀ t ∈ groups.map fun q => asks j q v, Preserves I t := by
            rw [List.forall_mem_map]
            exact fun q hq => hask _ rfl q v (.group hq)
          exact Test.preserves_all hgroups b hb
        | _ => exact hb
      | property =>
        cases r with
        | property names q =>
          simp only [verdictFrom, verdictOf]
          split_ifs
          · exact hb
          · exact hask _ rfl q (v.path names) .member b hb
        | _ => exact hb

/-- A chain keeps what its matchers keep. -/
theorem firstVerdict_preserves {ms : List Matcher}
    (h : ∀ m ∈ ms, Preserves I fun b => verdictFrom j p (m.read p) v b m) :
    Preserves I (firstVerdict j ms p v) := by
  induction ms with
  | nil => exact fun _ hb => hb
  | cons m ms ih =>
    intro b hb
    have hm := h m List.mem_cons_self b hb
    rw [firstVerdict]
    split_ifs
    · exact hm
    · exact ih (fun m' hm' => h m' (List.mem_cons_of_mem m hm')) _ hm

end Pattern

/-! ## Where variables come from -/

/-- The names of the variables stand in the text behind a dollar sign, and their values are among
what the value offers. -/
def Bindings.ComeFrom (text : List Char) (v : Value) (b : Bindings) : Prop :=
  ∀ name w, (name, w) ∈ b → '$' :: name.toList <:+: text ∧ v.Offers w

variable {text : List Char} {v w : Value}

theorem Bindings.comeFrom_nil (text : List Char) (v : Value) : ComeFrom text v [] := by
  intro name w h
  cases h

theorem Bindings.ComeFrom.bind {b : Bindings} {name : String} (h : b.ComeFrom text v)
    (hname : '$' :: name.toList <:+: text) (hw : v.Offers w) :
    (b.bind name w).2.ComeFrom text v := by
  unfold Bindings.bind
  split
  · exact h
  · intro name' w' hmem
    rcases List.mem_cons.1 hmem with heq | hmem
    · obtain ⟨rfl, rfl⟩ := Prod.mk.inj heq
      exact ⟨hname, hw⟩
    · exact h name' w' hmem

namespace Pattern

variable {p : Pattern} {j : Judge}

/-- Only a capture is read as a capture. -/
theorem readCapture_of_read {m : Matcher} {name : String} (h : m.read p = some (.capture name)) :
    p.readCapture = some (.capture name) := by
  cases m with
  | added a =>
    obtain ⟨data, -, hdata⟩ := Option.map_eq_some_iff.1 h
    cases hdata
  | builtIn d =>
    cases d with
    | capture => exact h
    | anything | nullOrEmpty => cases h
    | glob | comparison | range | regex =>
      obtain ⟨data, -, hdata⟩ := Option.map_eq_some_iff.1 h
      cases hdata
    | negation | list | multiField | property =>
      simp [Matcher.read, Dialect.read, readNegation, readList, readFields, readProperty] at h

/-- **One level** of judging fills variables from the text and the value only, if it does so about
everything that is handed on. -/
theorem chainVerdict_comeFrom (hp : p.text <:+: text) (hw : v.Offers w)
    (hj : ∀ t u, Delegates p.text w t u → Preserves (Bindings.ComeFrom text v) (j (p.derive t) u)) :
    Preserves (Bindings.ComeFrom text v) (chainVerdict j p w) := by
  apply firstVerdict_preserves
  intro m _
  apply verdictFrom_preserves
  · intro name hread b hb
    have hname := infix_of_readCapture (readCapture_of_read hread)
    exact hb.bind (hname.trans hp) hw
  · intro r hread q u hask
    obtain ⟨t, rfl, hd⟩ := delegates_of_asks hread hask
    exact hj t u hd

/-- **All levels.** -/
theorem freshWithin_comeFrom (hp : p.text <:+: text) (hw : v.Offers w)
    (derived : p.isRoot = false) (n : Nat) :
    Preserves (Bindings.ComeFrom text v) (freshWithin n p w) := by
  induction n generalizing p w with
  | zero => exact fun _ hb => hb
  | succ n ih =>
    intro b hb
    rw [freshWithin_of_not_isRoot derived]
    refine chainVerdict_comeFrom hp hw (fun t u hd => ?_) b hb
    exact ih (p := p.derive t) (hd.isInfix.trans hp) (hw.delegates hd) rfl

/-- A root pattern fills its variables from its text and the value, and leaves none unless it
matches. -/
theorem fresh_comeFrom (root : p.isRoot = true) (v : Value) (b : Bindings) :
    ((p.fresh v b).1 ≠ .isMatch → (p.fresh v b).2 = []) ∧
      (p.fresh v b).2.ComeFrom p.text v := by
  have hchain : (chainVerdict (freshWithin (p.settings.depthLimit - p.depth)) p v []).2.ComeFrom
      p.text v := by
    refine chainVerdict_comeFrom List.infix_rfl (Value.offers_self v) (fun t u hd => ?_) []
      (Bindings.comeFrom_nil _ _)
    exact freshWithin_comeFrom (p := p.derive t) hd.isInfix ((Value.offers_self v).delegates hd)
      rfl _
  simp only [fresh, levels, freshWithin_of_isRoot root]
  split_ifs with hmatch
  · exact ⟨fun hne => absurd hmatch hne, hchain⟩
  · exact ⟨fun _ => rfl, Bindings.comeFrom_nil _ _⟩

end Pattern

namespace Session

/-- **Variables never leak.** Whatever has been done in a session before, evaluating a root pattern
leaves no variables unless it matches. If it matches, the name of each variable stands in its text
behind a dollar sign, and the value of each is null or stands in the value just judged. -/
theorem bindings_after_evaluate (steps : List Step) (hs : ∀ step ∈ steps, step.IsRegular)
    {name : String} {q : Pattern} (hq : planned steps name = some q) (root : q.isRoot = true)
    (v : Value) :
    ∃ m verdict t', (empty.after steps).get? name = some m ∧
      (empty.after steps).step? (.act name (.evaluate v)) = some (.verdict verdict, t') ∧
      (verdict ≠ .isMatch → t'.bindings m.scope = []) ∧
      (verdict = .isMatch → ∀ x w, (x, w) ∈ t'.bindings m.scope →
        '$' :: x.toList <:+: q.text ∧ (w = .null ∨ v.Reaches w)) := by
  have h := follows_after steps hs
  generalize empty.after steps = t at h
  rw [← h.plan, Option.map_eq_some_iff] at hq
  obtain ⟨m, hm, rfl⟩ := hq
  obtain ⟨hv, hb, -⟩ :=
    Pattern.evaluate_of_coherent (h.coherent hm) v ⟨t.bindings m.scope, t.log⟩
  have hscope : (t.act name m (.evaluate v)).2.bindings m.scope =
      (m.pattern.forget.fresh v (t.bindings m.scope)).2 := by
    rw [← hb]
    simp only [act, bindings, Operation.perform]
    rw [List.getElem?_set_self (h.scope_lt hm), Option.getD_some]
  obtain ⟨hnone, hfrom⟩ := Pattern.fresh_comeFrom root v (t.bindings m.scope)
  refine ⟨m, (m.pattern.evaluate v ⟨t.bindings m.scope, t.log⟩).1, (t.act name m (.evaluate v)).2,
    hm, ?_, ?_, ?_⟩
  · simp [step?, hm, act, Operation.perform]
  · rw [hv, hscope]
    exact hnone
  · intro _ x w hmem
    rw [hscope] at hmem
    exact hfrom x w hmem

/-- A pattern that has matched one value, and has been given a variable by hand since. -/
def sampleBindings : List Step :=
  [.create "field" .standard "a:$x".toList,
    .act "field" (.evaluate (.map [("a", .bool true)])),
    .act "field" (.bind "y" (.string "left over"))]

theorem bindings_after_sampleBindings :
    ((∀ step ∈ sampleBindings, step.IsRegular) ∧
      planned sampleBindings "field" = some (.ofText "a:$x") ∧
      (Pattern.ofText "a:$x").isRoot = true) ∧
    ∃ m verdict t', (empty.after sampleBindings).get? "field" = some m ∧
      (empty.after sampleBindings).step? (.act "field" (.evaluate (.map [("a", .null)]))) =
        some (.verdict verdict, t') ∧
      (verdict ≠ .isMatch → t'.bindings m.scope = []) ∧
      (verdict = .isMatch → ∀ x w, (x, w) ∈ t'.bindings m.scope →
        '$' :: x.toList <:+: (Pattern.ofText "a:$x").text ∧
          (w = .null ∨ (Value.map [("a", .null)]).Reaches w)) := by
  have hs : ∀ step ∈ sampleBindings, step.IsRegular := by
    simp [sampleBindings, Step.IsRegular, Operation.IsRegular, Chain.IsRegular, Settings.standard,
      Chain.standard, Matcher.IsRegular]
  have hq : planned sampleBindings "field" = some (.ofText "a:$x") := rfl
  exact ⟨⟨hs, hq, rfl⟩, bindings_after_evaluate sampleBindings hs hq rfl (.map [("a", .null)])⟩

end Session

end Sift
