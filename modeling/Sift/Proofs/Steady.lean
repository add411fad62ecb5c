import Sift.Proofs.Delegation

/-!
# Patterns without variables

A function of the variables is *steady* if it neither looks at them nor changes them. A pattern
whose text holds no variable judges steadily, and so do all parts of it.

**What holds a variable.** A text holds a variable if the dialects can take it apart until nothing
but a variable is left (`Pattern.HasVariable`). That needs a dollar sign with a character of a name
right behind it (`Pattern.HasVariable.exists_infix`), but these two alone do not make a variable: in
the regular expression `\$5` there is none.

**Main results.** Judging is steady (`freshWithin_steady`), and steady questions can be asked in any
order: `Test.all_map_of_steady` and `Test.any_map_of_steady` turn them into conjunctions and
disjunctions. What a list of patterns asks about a list of values is then a relation between the
two (`asksList_of_steady`).
-/

namespace Sift

/-- The answer does not depend on the variables, and leaves them as they are. -/
def Steady {α : Type} (f : Bindings → α × Bindings) : Prop := ∀ b, f b = ((f []).1, b)

namespace Test

theorem all_of_steady {ts : List Test} (h : ∀ t ∈ ts, Steady t) (b : Bindings) :
    all ts b = (ts.all fun t => (t []).1, b) := by
  induction ts with
  | nil => rfl
  | cons t ts ih =>
    have ht := h t List.mem_cons_self b
    rw [all, ht, List.all_cons]
    cases (t []).1 with
    | true => simpa using ih fun t' ht' => h t' (List.mem_cons_of_mem t ht')
    | false => simp

theorem any_of_steady {ts : List Test} (h : ∀ t ∈ ts, Steady t) (b : Bindings) :
    any ts b = (ts.any fun t => (t []).1, b) := by
  induction ts with
  | nil => rfl
  | cons t ts ih =>
    have ht := h t List.mem_cons_self b
    rw [any, ht, List.any_cons]
    cases (t []).1 with
    | true => simp
    | false => simpa using ih fun t' ht' => h t' (List.mem_cons_of_mem t ht')

theorem all_cons_of_steady {t : Test} (h : Steady t) (ts : List Test) :
    (all (t :: ts) []).1 = true ↔ (t []).1 = true ∧ (all ts []).1 = true := by
  have ht : (t []).2 = [] := congrArg Prod.snd (h [])
  rw [all, ht]
  cases (t []).1 <;> simp

theorem any_cons_of_steady {t : Test} (h : Steady t) (ts : List Test) :
    (any (t :: ts) []).1 = true ↔ (t []).1 = true ∨ (any ts []).1 = true := by
  have ht : (t []).2 = [] := congrArg Prod.snd (h [])
  rw [any, ht]
  cases (t []).1 <;> simp

/-- Steady questions about the members of a list are a question about all members. -/
theorem all_map_of_steady {α : Type} {l : List α} {f : α → Test} (h : ∀ a ∈ l, Steady (f a))
    (b : Bindings) : all (l.map f) b = (decide (∀ a ∈ l, (f a []).1 = true), b) := by
  rw [all_of_steady (List.forall_mem_map.2 h)]
  simp [List.all_eq]

theorem any_map_of_steady {α : Type} {l : List α} {f : α → Test} (h : ∀ a ∈ l, Steady (f a))
    (b : Bindings) : any (l.map f) b = (decide (∃ a ∈ l, (f a []).1 = true), b) := by
  rw [any_of_steady (List.forall_mem_map.2 h)]
  simp [List.any_eq]

theorem steady_all {ts : List Test} (h : ∀ t ∈ ts, Steady t) : Steady (all ts) := by
  intro b
  rw [all_of_steady h b, all_of_steady h []]

theorem steady_any {ts : List Test} (h : ∀ t ∈ ts, Steady t) : Steady (any ts) := by
  intro b
  rw [any_of_steady h b, any_of_steady h []]

end Test

/-! ## Parts and elements -/

/-- How parts and elements are related in a mode: in exact mode there are as many of both, and each
part is related to the element at its place; in inclusive mode each part is related to some
element. -/
def Mode.Relates {α β : Type} (R : α → β → Prop) (as : List α) (bs : List β) : Mode → Prop
  | .exact => List.Forall₂ R as bs
  | .inclusive => ∀ a ∈ as, ∃ b ∈ bs, R a b

instance {α β : Type} (R : α → β → Prop) [∀ a b, Decidable (R a b)] (as : List α) (bs : List β) :
    (mode : Mode) → Decidable (mode.Relates R as bs)
  | .exact => inferInstanceAs (Decidable (List.Forall₂ R as bs))
  | .inclusive => inferInstanceAs (Decidable (∀ a ∈ as, ∃ b ∈ bs, R a b))

theorem Mode.relates_congr {α β : Type} {R S : α → β → Prop} {as : List α} {bs : List β}
    (h : ∀ a ∈ as, ∀ b ∈ bs, (R a b ↔ S a b)) (mode : Mode) :
    mode.Relates R as bs ↔ mode.Relates S as bs := by
  cases mode with
  | exact =>
    simp only [Relates, List.forall₂_iff_zip]
    refine and_congr_right fun _ => ⟨fun hall a b hab => ?_, fun hall a b hab => ?_⟩
    · exact (h a (List.of_mem_zip hab).1 b (List.of_mem_zip hab).2).1 (hall hab)
    · exact (h a (List.of_mem_zip hab).1 b (List.of_mem_zip hab).2).2 (hall hab)
  | inclusive =>
    exact forall₂_congr fun a ha => exists_congr fun b => and_congr_right fun hb => h a ha b hb

theorem Mode.relates_map_left {α β γ : Type} {R : α → β → Prop} {f : γ → α} {cs : List γ}
    {bs : List β} (mode : Mode) :
    mode.Relates R (cs.map f) bs ↔ mode.Relates (fun c b => R (f c) b) cs bs := by
  cases mode with
  | exact => exact List.forall₂_map_left_iff
  | inclusive => exact List.forall_mem_map

/-- What is related place by place is related somewhere. -/
theorem Mode.Relates.inclusive {α β : Type} {R : α → β → Prop} {as : List α} {bs : List β}
    (h : Mode.exact.Relates R as bs) : Mode.inclusive.Relates R as bs := by
  induction h with
  | nil => exact List.forall_mem_nil _
  | cons hab _ ih =>
    refine List.forall_mem_cons.2 ⟨⟨_, List.mem_cons_self, hab⟩, fun a' ha' => ?_⟩
    obtain ⟨b', hb', hab'⟩ := ih a' ha'
    exact ⟨b', List.mem_cons_of_mem _ hb', hab'⟩

namespace Pattern

variable {p : Pattern} {v : Value} {j : Judge}

/-! ## Texts with variables -/

/-- The text is a variable, or a part of it that is handed on holds one. -/
inductive HasVariable : List Char → Prop
  | whole {text name : List Char} :
      Grammar.complete Grammar.variableName text = some name → HasVariable text
  | part {text t : List Char} {v w : Value} :
      Delegates text v t w → HasVariable t → HasVariable text

/-- A variable stands in its text as a dollar sign with the name right behind it. -/
theorem infix_of_variableName {text name rest : List Char}
    (h : Grammar.variableName text = some (name, rest)) :
    name ≠ [] ∧ (∀ c ∈ name, Grammar.isNameChar c = true) ∧ '$' :: name <:+: text := by
  have hsuffix : Grammar.skipSpace text <:+ text := List.dropWhile_suffix _
  unfold Grammar.variableName at h
  generalize Grammar.skipSpace text = s at h hsuffix
  unfold Grammar.name at h
  split at h
  · next r =>
    dsimp only at h
    split_ifs at h with hempty
    obtain ⟨rfl, -⟩ := Prod.mk.inj (Option.some.inj h)
    have hfront : '$' :: r.takeWhile Grammar.isNameChar <+: '$' :: r :=
      List.cons_prefix_cons.2 ⟨rfl, List.takeWhile_prefix _⟩
    exact ⟨hempty, fun c hc => List.mem_takeWhile_imp hc, hfront.isInfix.trans hsuffix.isInfix⟩
  · cases h

/-- A variable starts with a dollar sign and a character of its name, but for space. -/
theorem exists_infix_of_variableName {text name rest : List Char}
    (h : Grammar.variableName text = some (name, rest)) :
    ∃ c, Grammar.isNameChar c = true ∧ ['$', c] <:+: text := by
  obtain ⟨hne, hchars, hinfix⟩ := infix_of_variableName h
  obtain ⟨c, r, rfl⟩ := List.exists_cons_of_ne_nil hne
  have hfront : ['$', c] <+: '$' :: c :: r := ⟨r, rfl⟩
  exact ⟨c, hchars c List.mem_cons_self, hfront.isInfix.trans hinfix⟩

theorem HasVariable.exists_infix {text : List Char} (h : HasVariable text) :
    ∃ c, Grammar.isNameChar c = true ∧ ['$', c] <:+: text := by
  induction h with
  | whole h =>
    unfold Grammar.complete at h
    split at h
    · next name hname => exact exists_infix_of_variableName hname
    · cases h
  | part hd _ ih =>
    obtain ⟨c, hc, hsub⟩ := ih
    exact ⟨c, hc, hsub.trans hd.isInfix⟩

theorem not_hasVariable_of_not_mem {text : List Char} (h : '$' ∉ text) : ¬ HasVariable text := by
  intro hv
  obtain ⟨c, -, hsub⟩ := hv.exists_infix
  exact h (hsub.subset List.mem_cons_self)

theorem readCapture_eq_none (h : ¬ HasVariable p.text) : p.readCapture = none := by
  unfold readCapture
  cases hname : Grammar.complete Grammar.variableName p.text with
  | none => rfl
  | some name => exact absurd (.whole hname) h

/-- A variable that is read stands in the text. -/
theorem infix_of_readCapture {name : String} (h : p.readCapture = some (.capture name)) :
    '$' :: name.toList <:+: p.text := by
  obtain ⟨x, hx, hname⟩ := Option.map_eq_some_iff.1 h
  obtain rfl : String.ofList x = name := by simpa using hname
  rw [String.toList_ofList]
  unfold Grammar.complete at hx
  split at hx
  · next x' hread =>
    obtain rfl := Option.some.inj hx
    exact (infix_of_variableName hread).2.2
  · cases hx

/-! ## Judging -/

/-- The judge takes every part that is handed on steadily. -/
def SteadyOnParts (j : Judge) (p : Pattern) (v : Value) : Prop :=
  ∀ t w, Delegates p.text v t w → Steady (j (p.derive t) w)

theorem steady_asks {q : Pattern} {w : Value} (h : Steady (j q w)) : Steady (asks j q w) := by
  intro b
  simp only [asks, h b]

/-- If no element passes the first item, the others are not asked. -/
theorem asksList_of_head {q : Pattern} {vs : List Value} {b : Bindings}
    (h : ∀ w ∈ vs, asks j q w b = (false, b)) (qs : List Pattern) (mode : Mode) :
    asksList j (q :: qs) vs mode b = (false, b) := by
  cases mode with
  | exact =>
    cases vs with
    | nil => rfl
    | cons w vs =>
      have hw := h w List.mem_cons_self
      simp only [asksList]
      split_ifs
      · rw [List.zipWith_cons_cons, Test.all_cons_of_false (by rw [hw]), hw]
      · rfl
  | inclusive =>
    have hany : Test.any (vs.map (asks j q)) b = (false, b) := by
      induction vs with
      | nil => rfl
      | cons w vs ih =>
        have hw := h w List.mem_cons_self
        rw [List.map_cons, Test.any_cons_of_false (by rw [hw]), hw]
        exact ih fun w' hw' => h w' (List.mem_cons_of_mem w hw')
    simp only [asksList, List.map_cons]
    rw [Test.all_cons_of_false (by rw [hany]), hany]

/-- **Steady questions about parts and elements** are one question about all of them. -/
theorem asksList_of_steady {qs : List Pattern} {vs : List Value}
    (h : ∀ q ∈ qs, ∀ w ∈ vs, Steady (asks j q w)) (mode : Mode) (b : Bindings) :
    asksList j qs vs mode b =
      (decide (mode.Relates (fun q w => (j q w []).1 = .isMatch) qs vs), b) := by
  cases mode with
  | exact =>
    simp only [asksList]
    split_ifs with hlen
    · rw [Test.all_of_steady (forall_mem_zipWith h), ← List.map_uncurry_zip_eq_zipWith,
        List.all_map]
      refine Prod.ext (Bool.eq_iff_iff.2 ?_) rfl
      rw [List.all_eq_true, decide_eq_true_iff, Mode.Relates, List.forall₂_iff_zip,
        and_iff_right hlen.symm, Prod.forall]
      exact forall₂_congr fun q w => imp_congr_right fun _ => decide_eq_true_iff
    · refine Prod.ext (decide_eq_false fun hall => hlen ?_).symm rfl
      exact (List.Forall₂.length_eq hall).symm
  | inclusive =>
    have hany : ∀ q ∈ qs, Steady (Test.any (vs.map (asks j q))) := fun q hq =>
      Test.steady_any (List.forall_mem_map.2 (h q hq))
    change Test.all (qs.map fun q => Test.any (vs.map (asks j q))) b = _
    rw [Test.all_map_of_steady hany]
    refine Prod.ext (decide_eq_decide.2 (forall₂_congr fun q hq => ?_)) rfl
    rw [Test.any_map_of_steady (h q hq), decide_eq_true_iff]
    exact exists_congr fun w => and_congr_right fun _ => decide_eq_true_iff

theorem steady_asksList {qs : List Pattern} {vs : List Value}
    (h : ∀ q ∈ qs, ∀ w ∈ vs, Steady (asks j q w)) (mode : Mode) :
    Steady (asksList j qs vs mode) := by
  intro b
  rw [asksList_of_steady h, asksList_of_steady h]

/-- **One dialect judges steadily** where there is no variable and the sub-patterns are steady. -/
theorem verdictOf_steady (hp : ¬ HasVariable p.text) (hj : SteadyOnParts j p v) (d : Dialect) :
    Steady fun b => verdictOf j p (d.read p) v b d := by
  intro b
  cases d with
  | anything | nullOrEmpty | glob | comparison | range | regex => rfl
  | capture => simp only [verdictOf, Dialect.read, readCapture_eq_none hp]
  | negation =>
    simp only [Dialect.read, readNegation]
    split_ifs
    · cases ho : operandOfNegation? p.text with
      | none => rfl
      | some t => simp only [verdictOf, Option.map_some, hj t v (.operand ho) b]
    · rfl
  | list =>
    simp only [Dialect.read, readList]
    split_ifs
    · cases v with
      | list vs =>
        have hlist : Steady (asksList j ((listItems p.text).map p.derive) vs p.settings.mode) :=
          steady_asksList (List.forall_mem_map.2 fun t ht w hw =>
            steady_asks (hj t w (.element ht rfl hw))) _
        simp only [verdictOf, hlist b, deferring]
      | _ => rfl
    · rfl
  | multiField =>
    simp only [Dialect.read, readFields]
    split_ifs
    · cases hg : fieldGroups? p.text with
      | none => rfl
      | some gs =>
        have hall : Steady (Test.all ((gs.map p.derive).map fun q => asks j q v)) := by
          refine Test.steady_all fun t ht => ?_
          simp only [List.map_map, List.mem_map] at ht
          obtain ⟨g, hgs, rfl⟩ := ht
          exact steady_asks (hj g v (.group hg hgs))
        simp only [verdictOf, Option.map_some, hall b, deferring]
    · rfl
  | property =>
    simp only [Dialect.read, readProperty]
    split_ifs
    · cases hr : pathAndRest? p.text with
      | none => rfl
      | some r =>
        obtain ⟨names, t⟩ := r
        have hasks := steady_asks (hj t (v.path names) (.member hr))
        simp only [verdictOf, Option.map_some]
        split_ifs
        · rfl
        · simp only [hasks b, deferring]
    · rfl

/-- **A chain judges steadily** if its dialects do; added matchers have no access to variables. -/
theorem chainVerdict_steady_of_parts (hp : ¬ HasVariable p.text) (hj : SteadyOnParts j p v) :
    Steady (chainVerdict j p v) := by
  unfold chainVerdict
  induction p.settings.chain.matchers with
  | nil => exact fun _ => rfl
  | cons m ms ih =>
    have hm : Steady fun b => verdictFrom j p (m.read p) v b m := by
      cases m with
      | builtIn d => exact verdictOf_steady hp hj d
      | added a => exact fun _ => rfl
    intro b
    have hmb : verdictFrom j p (m.read p) v b m = ((verdictFrom j p (m.read p) v [] m).1, b) := hm b
    have hnil : (verdictFrom j p (m.read p) v [] m).2 = [] := congrArg Prod.snd (hm [])
    simp only [firstVerdict, hmb]
    split_ifs
    · rfl
    · rw [hnil]
      exact ih b

/-- **Parts of a text without variables are judged steadily**, at every level. -/
theorem freshWithin_steady (hp : ¬ HasVariable p.text) (derived : p.isRoot = false) (n : Nat)
    (v : Value) : Steady (freshWithin n p v) := by
  induction n generalizing p v with
  | zero => exact fun _ => rfl
  | succ n ih =>
    intro b
    rw [freshWithin_of_not_isRoot derived, freshWithin_of_not_isRoot derived]
    refine chainVerdict_steady_of_parts hp (fun t w hd => ?_) b
    exact ih (fun ht => hp (.part hd ht)) rfl w

theorem steadyOnParts_freshWithin (hp : ¬ HasVariable p.text) (n : Nat) (v : Value) :
    SteadyOnParts (freshWithin n) p v := fun _ w hd =>
  freshWithin_steady (fun ht => hp (.part hd ht)) rfl n w

end Pattern

end Sift
