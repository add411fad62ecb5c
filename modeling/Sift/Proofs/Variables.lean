import Sift.Proofs.Composition
import Sift.Proofs.Correlation

/-!
# Variables

A variable takes the first value it is asked about, and from then on asks for an equal one. The
comparison is made in any case, also with the value that the variable has just taken.

**A single variable** therefore does not match a value that differs from itself, bound or not: the
values that a not-a-number stands in (`evaluate_variable`).

**Lists of variables.** In exact mode each variable is asked about the element at its place, with
the variables of the places before it. What a variable has when it is compared is the element at
the first place of its name, since `Bindings.bind` in front of further pairs changes nothing in
what is looked up first (`lookup_bind_append`). So a list of variables matches exactly if the
element at each place equals the one at the first place of its name (`run_variables`).
-/

namespace Sift

/-! ## Binding -/

namespace Bindings

variable {b : Bindings} {x : String} {v w : Value}

theorem bind_of_lookup_eq_none (h : b.lookup x = none) (v : Value) :
    b.bind x v = (v, (x, v) :: b) := by
  simp only [bind, h]

/-- Binding a variable in front of further pairs finds the same as the pair itself. -/
theorem lookup_bind_append (b : Bindings) (x : String) (w : Value) (rest : Bindings) (y : String) :
    ((b.bind x w).2 ++ rest).lookup y = (b ++ (x, w) :: rest).lookup y := by
  cases h : b.lookup x with
  | some u =>
    rw [bind_of_lookup h, List.lookup_append, List.lookup_append, List.lookup_cons]
    by_cases hy : y = x
    · rw [hy, h, Option.some_or, Option.some_or]
    · rw [beq_false_of_ne hy]
  | none =>
    rw [bind_of_lookup_eq_none h, List.lookup_append, List.lookup_append, List.lookup_cons,
      List.lookup_cons]
    by_cases hy : y = x
    · rw [hy, h, beq_self_eq_true, Option.some_or, Option.none_or]
    · rw [beq_false_of_ne hy]

/-- What a variable has after it was bound. -/
theorem lookup_bind (b : Bindings) (x : String) (w : Value) (rest : Bindings) :
    (b ++ (x, w) :: rest).lookup x = some (b.bind x w).1 := by
  rw [List.lookup_append, List.lookup_cons_self]
  cases h : b.lookup x with
  | some u => rw [bind_of_lookup h, Option.some_or]
  | none => rw [bind_of_lookup_eq_none h, Option.none_or]

/-- No variable is bound twice. -/
theorem nodup_bind (h : (b.map Prod.fst).Nodup) (x : String) (w : Value) :
    ((b.bind x w).2.map Prod.fst).Nodup := by
  cases hx : b.lookup x with
  | some u => rwa [bind_of_lookup hx]
  | none =>
    rw [bind_of_lookup_eq_none hx, List.map_cons, List.nodup_cons]
    refine ⟨fun hmem => ?_, h⟩
    obtain ⟨e, he, rfl⟩ := List.mem_map.1 hmem
    simpa using List.lookup_eq_none_iff.1 hx e he

end Bindings

/-! ## The questions of variables -/

namespace Test

/-- The question that a variable asks about a value. -/
def capture (e : String × Value) : Test := fun b =>
  ((b.bind e.1 e.2).1.equals e.2, (b.bind e.1 e.2).2)

/-- **Variables agree with their values** if every value equals the first one of its variable. -/
theorem all_capture_iff (es b : Bindings) :
    (all (es.map capture) b).1 = true ↔
      ∀ e ∈ es, ∃ u, (b ++ es).lookup e.1 = some u ∧ u.equals e.2 = true := by
  induction es generalizing b with
  | nil => simp [all]
  | cons e es ih =>
    have hfirst : (∃ u, (b ++ e :: es).lookup e.1 = some u ∧ u.equals e.2 = true) ↔
        (b.bind e.1 e.2).1.equals e.2 = true := by
      rw [Bindings.lookup_bind]
      simp
    rw [List.forall_mem_cons, hfirst, List.map_cons]
    cases hequal : (b.bind e.1 e.2).1.equals e.2 with
    | false =>
      rw [all_cons_of_false (t := capture e) hequal]
      simp
    | true =>
      rw [all_cons_of_true (t := capture e) hequal]
      change (all (es.map capture) (b.bind e.1 e.2).2).1 = true ↔ _
      -- The first pair moves into the variables, which changes nothing in what is looked up.
      rw [ih, and_iff_right rfl]
      simp only [Bindings.lookup_bind_append]

/-- After a success, a variable has what it had before, and otherwise the first value of its
own. -/
theorem lookup_all_capture {es b : Bindings} (h : (all (es.map capture) b).1 = true)
    (y : String) : (all (es.map capture) b).2.lookup y = (b ++ es).lookup y := by
  induction es generalizing b with
  | nil => rw [List.append_nil]; rfl
  | cons e es ih =>
    rw [List.map_cons] at h ⊢
    cases hequal : (b.bind e.1 e.2).1.equals e.2 with
    | false =>
      rw [all_cons_of_false (t := capture e) hequal] at h
      cases h
    | true =>
      rw [all_cons_of_true (t := capture e) hequal] at h ⊢
      exact (ih h).trans (Bindings.lookup_bind_append b e.1 e.2 es y)

theorem nodup_all_capture {b : Bindings} (h : (b.map Prod.fst).Nodup) (es : Bindings) :
    ((all (es.map capture) b).2.map Prod.fst).Nodup := by
  induction es generalizing b with
  | nil => exact h
  | cons e es ih =>
    have hbind := Bindings.nodup_bind h e.1 e.2
    rw [List.map_cons]
    cases hequal : (b.bind e.1 e.2).1.equals e.2 with
    | false =>
      rw [all_cons_of_false (t := capture e) hequal]
      exact hbind
    | true =>
      rw [all_cons_of_true (t := capture e) hequal]
      exact ih hbind

end Test

namespace Pattern

variable {p : Pattern} {j : Judge} {v w : Value}

/-! ## A single variable -/

/-- The variables that are bound when a pattern begins to judge: none for a pattern of its own. -/
def scope (p : Pattern) (s : State) : Bindings := if p.isRoot then [] else s.bindings

/-- A variable compares the value with what it has then, and a pattern of its own drops its
variables unless it matches. -/
theorem evaluate_of_readCapture (hs : p.settings.chain = .standard) (hp : Coherent p.levels p)
    {name : String} (hname : p.readCapture = some (.capture name)) (v : Value) (s : State) :
    (p.evaluate v s).1 = .ofBool (((p.scope s).bind name v).1.equals v) ∧
      (p.evaluate v s).2.2.bindings =
        if p.isRoot && !((p.scope s).bind name v).1.equals v then []
        else ((p.scope s).bind name v).2 := by
  obtain ⟨hverdict, hbindings, -⟩ := evaluate_of_coherent hp v s
  have hchain := chainVerdict_capture (p := p.forget) (j := freshWithin (p.levels - 1)) hs hname v
  have hlevels : p.forget.fresh v s.bindings =
      freshWithin (p.levels - 1 + 1) p.forget v s.bindings := rfl
  rw [hverdict, hbindings, hlevels, scope]
  cases hroot : p.isRoot with
  | false =>
    rw [freshWithin_of_not_isRoot (p := p.forget) hroot, hchain]
    exact ⟨rfl, rfl⟩
  | true =>
    rw [freshWithin_of_isRoot (p := p.forget) hroot, hchain]
    refine ⟨rfl, ?_⟩
    simp only [↓reduceIte, Bool.true_and, Verdict.ofBool_eq_isMatch]
    cases (Bindings.bind [] name v).1.equals v <;> rfl

/-- **A single variable.** If the variable is unbound, it takes the value, and matches unless a
not-a-number stands in the value; no other variable changes. If it is bound, it matches the values
that equal its own, and no variable changes. A pattern of its own begins with no variables, and
keeps none if it does not match. -/
theorem evaluate_variable (hs : p.settings.chain = .standard) (hp : Coherent p.levels p)
    {name : String} (hname : p.readCapture = some (.capture name)) (v : Value) (s : State) :
    ((p.scope s).lookup name = none →
      (p.evaluate v s).1 = .ofBool (!v.hasNaN) ∧
        (p.evaluate v s).2.2.bindings =
          if p.isRoot && v.hasNaN then [] else (name, v) :: p.scope s) ∧
    ∀ w, (p.scope s).lookup name = some w →
      (p.evaluate v s).1 = .ofBool (w.equals v) ∧ (p.evaluate v s).2.2.bindings = p.scope s := by
  obtain ⟨hverdict, hbindings⟩ := evaluate_of_readCapture hs hp hname v s
  rw [hverdict, hbindings]
  constructor
  · intro hunbound
    rw [Bindings.bind_of_lookup_eq_none hunbound, Value.equals_self_eq_not_hasNaN, Bool.not_not]
    exact ⟨rfl, rfl⟩
  · intro w hbound
    -- A pattern of its own has no variable bound to begin with.
    have hderived : p.isRoot = false := by
      by_contra hroot
      rw [Bool.not_eq_false] at hroot
      simp [scope, hroot] at hbound
    rw [Bindings.bind_of_lookup hbound, hderived]
    exact ⟨rfl, rfl⟩

/-- A variable behind a field. -/
def sampleVariable : Pattern := (ofText "a:$x").derive "$x".toList

/-- A not-a-number in a list for an unbound variable, and a map for a bound one. -/
theorem evaluate_variable_samples :
    (sampleVariable.settings.chain = .standard ∧
      Coherent sampleVariable.levels sampleVariable ∧
      sampleVariable.readCapture = some (.capture "x")) ∧
    ((sampleVariable.evaluate (.list [.null, .number .nan]) ⟨[("y", .null)], []⟩).1 = .mismatch ∧
      (sampleVariable.evaluate (.list [.null, .number .nan]) ⟨[("y", .null)], []⟩).2.2.bindings =
        [("x", .list [.null, .number .nan]), ("y", .null)]) ∧
    (sampleVariable.evaluate (.map [("b", .null)]) ⟨[("x", .map [("b", .null)])], []⟩).1 =
      .isMatch ∧
    (sampleVariable.evaluate (.map [("b", .null)])
      ⟨[("x", .map [("b", .null)])], []⟩).2.2.bindings = [("x", .map [("b", .null)])] := by
  have hp : Coherent sampleVariable.levels sampleVariable :=
    coherent_of_cache_eq_nil Chain.isBuiltIn_standard.isRegular rfl _
  have hname : sampleVariable.readCapture = some (.capture "x") := rfl
  have hunbound := evaluate_variable rfl hp hname (.list [.null, .number .nan])
    ⟨[("y", .null)], []⟩
  have hbound := evaluate_variable rfl hp hname (.map [("b", .null)])
    ⟨[("x", .map [("b", .null)])], []⟩
  exact ⟨⟨rfl, hp, hname⟩, hunbound.1 rfl, hbound.2 _ rfl⟩

/-- An unbound variable that does not match. -/
theorem run_variable_nan :
    (ofText "$x").readCapture = some (.capture "x") ∧
      (ofText "$x").run (.number .nan) ≠ (.isMatch, [("x", .number .nan)]) := by
  refine ⟨rfl, fun h => ?_⟩
  have hverdict : ((ofText "$x").run (.number .nan)).1 = .mismatch := by decide +kernel
  rw [h] at hverdict
  cases hverdict

/-! ## Lists of variables -/

/-- Values stand in the places of names: there are as many of both, and each value equals the one at
the first place of its name. -/
def Unify (names : List String) (ws : List Value) : Prop :=
  ws.length = names.length ∧
    ∀ x w, (x, w) ∈ names.zip ws → ∃ u, ws[names.idxOf x]? = some u ∧ w.equals u = true

instance (names : List String) (ws : List Value) : Decidable (Unify names ws) :=
  decidable_of_iff (ws.length = names.length ∧
      ∀ e ∈ names.zip ws, (ws[names.idxOf e.1]?).any e.2.equals = true)
    (and_congr_right' (by simp only [Option.any_eq_true, Prod.forall]))

/-- The text of a list of variables. -/
def variablesText (names : List String) : List Char :=
  itemsText (names.map fun x => '$' :: x.toList)

section

variable {names : List String} {ws : List Value}

/-- What is looked up among names and their values stands at the first place of the name. -/
theorem lookup_zip (h : ws.length = names.length) (x : String) :
    (names.zip ws).lookup x = ws[names.idxOf x]? := by
  induction names generalizing ws with
  | nil =>
    rw [List.length_eq_zero_iff.1 h]
    rfl
  | cons y names ih =>
    obtain ⟨w, ws, rfl⟩ := List.exists_cons_of_length_eq_add_one h
    rw [List.zip_cons_cons, List.lookup_cons, List.idxOf_cons]
    by_cases hy : x = y
    · simp [hy]
    · rw [beq_false_of_ne hy, beq_false_of_ne (Ne.symm hy)]
      exact ih (Nat.succ.inj h)

theorem not_mem_variable {x : String} (hx : IsName x.toList) {c : Char} (hdollar : c ≠ '$')
    (hc : Grammar.isNameChar c = false) : c ∉ '$' :: x.toList :=
  List.not_mem_cons_of_ne_of_not_mem hdollar (hx.not_mem hc)

theorem isItem_variable {x : String} (hx : IsName x.toList) : IsItem ('$' :: x.toList) where
  comma := not_mem_variable hx (by decide) (by decide)
  head_isBlank := by
    rintro c hc
    obtain rfl : '$' = c := by simpa using hc
    decide
  getLast_isBlank := by
    rw [List.getLast?_cons_of_ne_nil hx.ne_nil]
    exact hx.getLast_isBlank

/-- A list of variables asks them one by one about the elements of a list that is as long. -/
theorem asksList_variables (hs : p.settings.chain = .standard)
    (hnames : ∀ x ∈ names, IsName x.toList) (n : Nat) (ws : List Value) (b : Bindings) :
    asksList (freshWithin (n + 1)) ((names.map fun x => '$' :: x.toList).map p.derive) ws .exact b =
      if ws.length = names.length then Test.all ((names.zip ws).map Test.capture) b
      else (false, b) := by
  have hask : ∀ e ∈ names.zip ws,
      asks (freshWithin (n + 1)) (p.derive ('$' :: e.1.toList)) e.2 = Test.capture e := by
    intro e he
    have hx := hnames e.1 (List.of_mem_zip he).1
    exact funext fun b => by rw [asks_dollar hs hx, String.ofList_toList, Test.capture]
  simp only [asksList, List.length_map, List.zipWith_map_left]
  split_ifs
  · rw [← List.map_uncurry_zip_eq_zipWith]
    exact congrArg (fun ts => Test.all ts b) (List.map_congr_left hask)
  · rfl

/-- A list of variables is a list of patterns. -/
theorem chainVerdict_variables (hs : p.settings.chain = .standard)
    (hmode : p.settings.mode = .exact) (hcan : p.canDerive = true) (two : 2 ≤ names.length)
    (hnames : ∀ x ∈ names, IsName x.toList) (htext : p.text = variablesText names) (n : Nat)
    (ws : List Value) (b : Bindings) :
    chainVerdict (freshWithin (n + 1)) p (.list ws) b =
      deferring (if ws.length = names.length then Test.all ((names.zip ws).map Test.capture) b
        else (false, b)) := by
  have htwo : 2 ≤ (names.map fun x => '$' :: x.toList).length := by rwa [List.length_map]
  have hitems : ∀ t ∈ names.map fun x => '$' :: x.toList, IsItem t :=
    List.forall_mem_map.2 fun x hx => isItem_variable (hnames x hx)
  have hcolon : ∀ t ∈ names.map fun x => '$' :: x.toList, ':' ∉ t :=
    List.forall_mem_map.2 fun x hx => not_mem_variable (hnames x hx) (by decide) (by decide)
  have hmark : ∀ t ∈ (names.map fun x => '$' :: x.toList).head?, t.head? ≠ some '!' := by
    intro t ht
    obtain ⟨x, -, rfl⟩ := List.mem_map.1 (List.mem_of_mem_head? ht)
    exact fun h => absurd (Option.some.inj h) (by decide)
  rw [chainVerdict_items hs hcan htext htwo hitems hmark hcolon, hmode,
    asksList_variables hs hnames]

theorem all_capture_zip_iff (h : ws.length = names.length) :
    (Test.all ((names.zip ws).map Test.capture) []).1 = true ↔ Unify names ws := by
  rw [Test.all_capture_iff, Unify, and_iff_right h, Prod.forall]
  simp only [List.nil_append, lookup_zip h, Value.equals_comm]

/-- **Lists of variables.** In exact mode a list of variables matches a list exactly if there are as
many of both and the element at each place equals the one at the first place of its name. After a
match each variable has that element, and no other variable is bound. Otherwise the pattern leaves
the question open, and no variables. -/
theorem run_variables (ignoreCase : Bool) (two : 2 ≤ names.length)
    (hnames : ∀ x ∈ names, IsName x.toList) (ws : List Value) :
    (Unify names ws → ∃ b,
      (root (.standardWith .exact ignoreCase) (variablesText names)).run (.list ws) =
        (.isMatch, b) ∧ (b.map Prod.fst).Nodup ∧ ∀ x, b.lookup x = ws[names.idxOf x]?) ∧
    (¬ Unify names ws →
      (root (.standardWith .exact ignoreCase) (variablesText names)).run (.list ws) =
        (.indeterminate, [])) := by
  have hc : (Settings.standardWith .exact ignoreCase).chain.IsBuiltIn := Chain.isBuiltIn_standard
  have hrun := run_root_of_deferring hc.isRegular (chainVerdict_variables
    (p := root (.standardWith .exact ignoreCase) (variablesText names)) rfl rfl rfl two hnames rfl
    255 ws [])
  rw [hrun]
  by_cases hlen : ws.length = names.length
  · have hall := all_capture_zip_iff hlen
    rw [if_pos hlen]
    constructor
    · intro h
      refine ⟨_, if_pos (hall.2 h), Test.nodup_all_capture (b := []) List.nodup_nil _, fun x => ?_⟩
      rw [Test.lookup_all_capture (hall.2 h), List.nil_append, lookup_zip hlen]
    · exact fun h => if_neg (mt hall.1 h)
  · have hnot : ¬ Unify names ws := fun h => hlen h.1
    rw [if_neg hlen]
    exact ⟨fun h => absurd h hnot, fun _ => rfl⟩

/-- A repeated variable asks for equal lists. -/
theorem run_variables_sample :
    (2 ≤ ["x", "y", "x"].length ∧ ∀ x ∈ ["x", "y", "x"], IsName x.toList) ∧
    (∃ b, (root (.standardWith .exact true) "$x,$y,$x".toList).run
        (.list [.list [.null], .null, .list [.null]]) = (.isMatch, b) ∧
      (b.map Prod.fst).Nodup ∧ ∀ x, b.lookup x =
        [.list [.null], .null, .list [.null]][["x", "y", "x"].idxOf x]?) ∧
    (root (.standardWith .exact true) "$x,$y,$x".toList).run
        (.list [.list [.null], .null, .null]) = (.indeterminate, []) := by
  have hnames : ∀ x ∈ ["x", "y", "x"], IsName x.toList := by decide
  have htext : variablesText ["x", "y", "x"] = "$x,$y,$x".toList := by decide
  have hequal := run_variables true (by decide) hnames [.list [.null], .null, .list [.null]]
  have hdifferent := run_variables true (by decide) hnames [.list [.null], .null, .null]
  rw [htext] at hequal hdifferent
  have hunify : Unify ["x", "y", "x"] [.list [.null], .null, .list [.null]] := by decide
  have hnot : ¬ Unify ["x", "y", "x"] [.list [.null], .null, .null] := by decide
  exact ⟨⟨by decide, hnames⟩, hequal.1 hunify, hdifferent.2 hnot⟩

end

end Pattern

end Sift
