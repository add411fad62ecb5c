import Mathlib.Data.List.Nodup
import Sift.Pattern.Adapter
import Sift.Proofs.Coherence

/-!
# Edits of chains

A chain is edited by insertions and removals. An insertion replaces the matcher of the same kind
where it stands, or puts a new kind at the end; a removal closes the gap.

**Places.** All kinds of a chain are different, so every kind has one place or none. An edit is
described by the place of the kind that it is about (`Chain.Edit.effect`).

**Questions.** Place, presence, matcher, names and number are asked for one by one, and patterns
ask the matchers in turn. All of this is about one list (`Chain.InStep`).

**Main result.** Whatever edits a chain has gone through, every one had its effect, all questions
agree, and the matcher of a kind is the one that was inserted last, unless the kind has been
removed since (`Chain.after_edits`).
-/

namespace Sift

/-! ## Asking in turn -/

namespace Pattern

/-- What some matchers say, or what others say afterwards if they leave the question open. -/
def orAsk (said : Verdict × Pattern × State)
    (others : Pattern → State → Verdict × Pattern × State) : Verdict × Pattern × State :=
  if said.1.isDeterminate then said else others said.2.1 said.2.2

theorem orAsk_assoc (said : Verdict × Pattern × State)
    (f g : Pattern → State → Verdict × Pattern × State) :
    orAsk (orAsk said f) g = orAsk said fun p s => orAsk (f p s) g := by
  by_cases h : said.1.isDeterminate = true
  · simp only [orAsk, if_pos h]
  · simp only [orAsk, if_neg h]

theorem dispatch_cons (ev : Evaluator) (m : Matcher) (ms : List Matcher) (p : Pattern) (v : Value)
    (s : State) :
    dispatch ev (m :: ms) p v s =
      orAsk (dispatch ev [m] p v s) fun p s => dispatch ev ms p v s := by
  simp only [dispatch, orAsk]
  split_ifs with h hopen
  · rfl
  · cases hopen
  · rfl

/-- **Matchers are asked in turn:** those behind others only if the others leave the question
open. -/
theorem dispatch_append (ev : Evaluator) (front behind : List Matcher) (p : Pattern) (v : Value)
    (s : State) :
    dispatch ev (front ++ behind) p v s =
      orAsk (dispatch ev front p v s) fun p s => dispatch ev behind p v s := by
  induction front generalizing p s with
  | nil => rfl
  | cons m front ih =>
    rw [List.cons_append, dispatch_cons, dispatch_cons ev m front, orAsk_assoc]
    congr 1
    funext p s
    exact ih p s

end Pattern

namespace Chain

variable {c : Chain} {k : Kind} {m n : Matcher} {i j : Nat}

/-! ## Places -/

/-- A kind has one place at most. -/
theorem place_unique (hi : c.matchers[i]? = some m) (hj : c.matchers[j]? = some n)
    (h : m.kind = n.kind) : i = j := by
  obtain ⟨hlt, rfl⟩ := List.getElem?_eq_some_iff.1 hi
  obtain ⟨hlt', rfl⟩ := List.getElem?_eq_some_iff.1 hj
  have hi' : i < c.kinds.length := by simpa [kinds] using hlt
  have hj' : j < c.kinds.length := by simpa [kinds] using hlt'
  have hkinds : c.kinds[i] = c.kinds[j] := by simpa [kinds] using h
  exact c.nodup.getElem_inj_iff.1 hkinds

theorem position?_eq_some_iff :
    c.position? k = some i ↔ ∃ m, c.matchers[i]? = some m ∧ m.kind = k := by
  unfold position? kinds
  rw [List.findIdx?_eq_some_iff_getElem]
  constructor
  · rintro ⟨hlt, hk, -⟩
    rw [List.length_map] at hlt
    exact ⟨c.matchers[i], List.getElem?_eq_getElem hlt, by simpa using hk⟩
  · rintro ⟨m, hi, rfl⟩
    obtain ⟨hlt, hm⟩ := List.getElem?_eq_some_iff.1 hi
    refine ⟨by simpa using hlt, by simp [hm], fun j hj => ?_⟩
    have hlt' : j < c.matchers.length := Nat.lt_trans hj hlt
    intro hkind
    have hsame : c.matchers[j].kind = m.kind := by simpa using hkind
    have hplace : j = i := place_unique (List.getElem?_eq_getElem hlt') hi hsame
    omega

theorem position?_eq_none_iff : c.position? k = none ↔ ∀ m ∈ c.matchers, m.kind ≠ k := by
  simp [position?, kinds, List.findIdx?_eq_none_iff]

/-- The kinds in front of a place and behind it are others. -/
theorem split_of_position? (h : c.position? k = some i) :
    ∃ front m behind, c.matchers = front ++ m :: behind ∧ front.length = i ∧ m.kind = k ∧
      (∀ n ∈ front, n.kind ≠ k) ∧ ∀ n ∈ behind, n.kind ≠ k := by
  obtain ⟨m, hi, rfl⟩ := position?_eq_some_iff.1 h
  obtain ⟨hlt, hm⟩ := List.getElem?_eq_some_iff.1 hi
  have hsplit : c.matchers = c.matchers.take i ++ m :: c.matchers.drop (i + 1) := by
    rw [← hm, ← List.drop_eq_getElem_cons hlt, List.take_append_drop]
  have hnodup := c.nodup
  rw [hsplit, List.map_append, List.map_cons, List.nodup_middle, List.nodup_cons, List.mem_append,
    not_or] at hnodup
  obtain ⟨⟨hfront, hbehind⟩, -⟩ := hnodup
  refine ⟨_, m, _, hsplit, List.length_take_of_le (Nat.le_of_lt hlt), rfl, ?_, ?_⟩ <;>
    intro n hn hk
  · exact hfront (hk ▸ List.mem_map_of_mem hn)
  · exact hbehind (hk ▸ List.mem_map_of_mem hn)

theorem contains_iff : c.contains k = true ↔ ∃ m ∈ c.matchers, m.kind = k := by
  simp [contains, kinds]

theorem get?_eq_some_iff : c.get? k = some m ↔ m ∈ c.matchers ∧ m.kind = k := by
  unfold get?
  constructor
  · intro h
    exact ⟨List.mem_of_find?_eq_some h, by simpa using List.find?_some h⟩
  · rintro ⟨hm, rfl⟩
    obtain ⟨n, hn⟩ : ∃ n, c.matchers.find? (·.kind = m.kind) = some n :=
      Option.isSome_iff_exists.1 (List.find?_isSome.2 ⟨m, hm, by simp⟩)
    have hkind : n.kind = m.kind := by simpa using List.find?_some hn
    rw [hn, eq_of_kind_eq (List.mem_of_find?_eq_some hn) hm hkind]

/-! ## Insertions and removals -/

theorem replaceIn_of_forall_ne {ms : List Matcher} (h : ∀ n ∈ ms, n.kind ≠ m.kind) :
    replaceIn m ms = ms := by
  conv_rhs => rw [← List.map_id ms]
  exact List.map_congr_left fun n hn => if_neg (h n hn)

theorem matchers_insert (c : Chain) (m : Matcher) :
    (c.insert m).matchers =
      if c.contains m.kind = true then replaceIn m c.matchers else c.matchers ++ [m] := by
  unfold insert contains
  simp only [List.contains_iff_mem]
  split_ifs <;> rfl

theorem contains_eq_isSome : c.contains k = (c.position? k).isSome := by
  rw [Bool.eq_iff_iff, contains_iff, Option.isSome_iff_ne_none, Ne, position?_eq_none_iff]
  push Not
  rfl

/-- **A kind that is there keeps its place.** -/
theorem matchers_insert_of_position? (h : c.position? m.kind = some i) :
    (c.insert m).matchers = c.matchers.set i m := by
  obtain ⟨front, old, behind, hsplit, rfl, hk, hfront, hbehind⟩ := split_of_position? h
  have hreplace : replaceIn m (front ++ old :: behind) =
      replaceIn m front ++ m :: replaceIn m behind := by
    simp [replaceIn, hk]
  rw [matchers_insert, contains_eq_isSome, h, Option.isSome_some, if_pos rfl, hsplit, hreplace,
    replaceIn_of_forall_ne hfront, replaceIn_of_forall_ne hbehind]
  simp

/-- **A new kind goes to the end.** -/
theorem matchers_insert_of_absent (h : c.position? m.kind = none) :
    (c.insert m).matchers = c.matchers ++ [m] := by
  rw [matchers_insert, contains_eq_isSome, h, Option.isSome_none, if_neg Bool.false_ne_true]

/-- **A removal closes the gap**, and nothing else moves. -/
theorem matchers_erase_of_position? (h : c.position? k = some i) :
    (c.erase k).matchers = c.matchers.eraseIdx i := by
  obtain ⟨front, old, behind, hsplit, rfl, hk, hfront, hbehind⟩ := split_of_position? h
  change c.matchers.filter (·.kind ≠ k) = _
  rw [hsplit, List.filter_append, List.filter_cons_of_neg (by simpa using hk),
    List.filter_eq_self.2 (by simpa using hfront), List.filter_eq_self.2 (by simpa using hbehind)]
  simp [List.eraseIdx_append_of_length_le]

theorem matchers_erase_of_absent (h : c.position? k = none) :
    (c.erase k).matchers = c.matchers :=
  List.filter_eq_self.2 (by simpa using position?_eq_none_iff.1 h)

theorem mem_insert_iff : n ∈ (c.insert m).matchers ↔ n = m ∨ n ∈ c.matchers ∧ n.kind ≠ m.kind := by
  rw [matchers_insert]
  by_cases h : c.contains m.kind = true
  · obtain ⟨old, hold, hk⟩ := contains_iff.1 h
    rw [if_pos h, replaceIn, List.mem_map]
    constructor
    · rintro ⟨n', hn', rfl⟩
      by_cases hsame : n'.kind = m.kind
      · exact .inl (if_pos hsame)
      · exact .inr (by rw [if_neg hsame]; exact ⟨hn', hsame⟩)
    · rintro (rfl | ⟨hn, hother⟩)
      · exact ⟨old, hold, if_pos hk⟩
      · exact ⟨n, hn, if_neg hother⟩
  · rw [if_neg h, List.mem_append, List.mem_singleton]
    constructor
    · rintro (hn | rfl)
      · exact .inr ⟨hn, fun hk => h (contains_iff.2 ⟨n, hn, hk⟩)⟩
      · exact .inl rfl
    · rintro (rfl | ⟨hn, -⟩)
      · exact .inr rfl
      · exact .inl hn

theorem get?_insert : (c.insert m).get? k = if m.kind = k then some m else c.get? k := by
  ext n
  by_cases hk : m.kind = k
  · subst hk
    rw [if_pos rfl, get?_eq_some_iff, mem_insert_iff, Option.some.injEq]
    constructor
    · rintro ⟨rfl | ⟨-, hother⟩, hkind⟩
      · rfl
      · exact absurd hkind hother
    · rintro rfl
      exact ⟨.inl rfl, rfl⟩
  · rw [if_neg hk, get?_eq_some_iff, get?_eq_some_iff, mem_insert_iff]
    constructor
    · rintro ⟨rfl | ⟨hn, -⟩, hkind⟩
      · exact absurd hkind hk
      · exact ⟨hn, hkind⟩
    · rintro ⟨hn, rfl⟩
      exact ⟨.inr ⟨hn, fun h => hk h.symm⟩, rfl⟩

theorem get?_erase {k' : Kind} : (c.erase k').get? k = if k' = k then none else c.get? k := by
  have hmem : ∀ n, n ∈ (c.erase k').matchers ↔ n ∈ c.matchers ∧ n.kind ≠ k' := by
    simp [erase]
  ext n
  by_cases hk : k' = k
  · rw [if_pos hk, get?_eq_some_iff, hmem]
    constructor
    · rintro ⟨⟨-, hother⟩, rfl⟩
      exact absurd hk.symm hother
    · intro h
      cases h
  · rw [if_neg hk, get?_eq_some_iff, get?_eq_some_iff, hmem]
    constructor
    · rintro ⟨⟨hn, -⟩, hkind⟩
      exact ⟨hn, hkind⟩
    · rintro ⟨hn, rfl⟩
      exact ⟨⟨hn, fun h => hk h.symm⟩, rfl⟩

/-! ## Questions -/

/-- All questions about a chain have the answers that its list of matchers gives, and patterns ask
the matchers in the order of that list. -/
structure InStep (c : Chain) : Prop where
  distinct : ∀ (i j : Nat) (m n : Matcher), c.matchers[i]? = some m → c.matchers[j]? = some n →
    m.kind = n.kind → i = j
  position : ∀ k i, c.position? k = some i ↔ ∃ m, c.matchers[i]? = some m ∧ m.kind = k
  contains : ∀ k, c.contains k = true ↔ ∃ m ∈ c.matchers, m.kind = k
  get : ∀ k m, c.get? k = some m ↔ m ∈ c.matchers ∧ m.kind = k
  size : c.size = c.matchers.length
  isEmpty : c.isEmpty = true ↔ c.matchers = []
  names : ∀ i : Nat, c.names[i]? = (c.matchers[i]?).map Matcher.name
  order : ∀ k i m, c.position? k = some i → c.get? k = some m →
    ∀ (ev : Pattern.Evaluator) (p : Pattern) (v : Value) (s : State), p.settings.chain = c →
      Pattern.dispatch ev p.settings.chain.matchers p v s =
        Pattern.orAsk (Pattern.dispatch ev (c.matchers.take i) p v s) fun p s =>
          Pattern.dispatch ev (m :: c.matchers.drop (i + 1)) p v s

theorem inStep (c : Chain) : c.InStep where
  distinct _ _ _ _ := place_unique
  position _ _ := position?_eq_some_iff
  contains _ := contains_iff
  get _ _ := get?_eq_some_iff
  size := rfl
  isEmpty := List.isEmpty_iff
  names _ := List.getElem?_map
  order k i m hplace hget ev p v s hp := by
    obtain ⟨n, hn, hnkind⟩ := position?_eq_some_iff.1 hplace
    obtain ⟨hm, hmkind⟩ := get?_eq_some_iff.1 hget
    obtain rfl : n = m := eq_of_kind_eq (List.mem_of_getElem? hn) hm (hnkind.trans hmkind.symm)
    obtain ⟨hlt, rfl⟩ := List.getElem?_eq_some_iff.1 hn
    rw [hp, ← Pattern.dispatch_append, ← List.drop_eq_getElem_cons hlt, List.take_append_drop]

/-! ## Edits -/

/-- A change of a chain. -/
inductive Edit where
  | insert (m : Matcher)
  | insertValue (m : ValueMatcher)
  | insertData (m : DataMatcher)
  | adding (m : Matcher)
  | erase (k : Kind)

namespace Edit

/-- The matcher that an edit inserts. -/
def matcher? : Edit → Option Matcher
  | insert m | adding m => some m
  | insertValue m => some m.toMatcher
  | insertData m => some m.toMatcher
  | erase _ => none

/-- The kind that an edit is about. -/
def kind : Edit → Kind
  | insert m | adding m => m.kind
  | insertValue m => m.toMatcher.kind
  | insertData m => m.toMatcher.kind
  | erase k => k

/-- What an edit answers, and what it makes of a list of matchers in which the kind that it is
about has the given place or none. Only removals have an answer. -/
def effect (e : Edit) (ms : List Matcher) (place : Option Nat) : Option Bool × List Matcher :=
  match e.matcher?, place with
  | some m, some i => (none, ms.set i m)
  | some m, none => (none, ms ++ [m])
  | none, some i => (some true, ms.eraseIdx i)
  | none, none => (some false, ms)

end Edit

/-- Performs an edit. A removal answers whether the kind was there. -/
def perform (c : Chain) : Edit → Option Bool × Chain
  | .insert m => (none, c.insert m)
  | .insertValue m => (none, c.insertValue m)
  | .insertData m => (none, c.insertData m)
  | .adding m => (none, c.adding m)
  | .erase k => (some (c.contains k), c.erase k)

/-- The chain after some edits. -/
def after (start : Chain) (es : List Edit) : Chain := es.foldl (fun c e => (c.perform e).2) start

/-- The matcher of a kind by the last edit that is about the kind. -/
def latest? (start : Chain) (es : List Edit) (k : Kind) : Option Matcher :=
  match es.reverse.find? (·.kind = k) with
  | some e => e.matcher?
  | none => start.get? k

theorem kind_of_matcher? {e : Edit} (h : e.matcher? = some m) : m.kind = e.kind := by
  cases e <;> simp_all [Edit.matcher?, Edit.kind]

theorem perform_of_matcher? {e : Edit} (h : e.matcher? = some m) :
    c.perform e = (none, c.insert m) := by
  cases e with
  | erase k => cases h
  | _ => obtain rfl := Option.some.inj h; rfl

theorem perform_of_matcher?_eq_none {e : Edit} (h : e.matcher? = none) :
    c.perform e = (some (c.contains e.kind), c.erase e.kind) := by
  cases e with
  | erase k => rfl
  | _ => cases h

/-- **Every edit has its effect.** -/
theorem perform_eq_effect (c : Chain) (e : Edit) :
    ((c.perform e).1, (c.perform e).2.matchers) = e.effect c.matchers (c.position? e.kind) := by
  unfold Edit.effect
  cases hm : e.matcher? with
  | some m =>
    rw [perform_of_matcher? hm, ← kind_of_matcher? hm]
    cases hplace : c.position? m.kind with
    | some i => exact congrArg _ (matchers_insert_of_position? hplace)
    | none => exact congrArg _ (matchers_insert_of_absent hplace)
  | none =>
    rw [perform_of_matcher?_eq_none hm, contains_eq_isSome]
    cases hplace : c.position? e.kind with
    | some i => exact congrArg _ (matchers_erase_of_position? hplace)
    | none => exact congrArg _ (matchers_erase_of_absent hplace)

/-- An edit settles the matcher of its kind, and no other. -/
theorem get?_perform (c : Chain) (e : Edit) (k : Kind) :
    (c.perform e).2.get? k = if e.kind = k then e.matcher? else c.get? k := by
  cases hm : e.matcher? with
  | some m => rw [perform_of_matcher? hm, get?_insert, kind_of_matcher? hm]
  | none => rw [perform_of_matcher?_eq_none hm, get?_erase]

theorem latest?_concat (start : Chain) (es : List Edit) (e : Edit) (k : Kind) :
    latest? start (es ++ [e]) k = if e.kind = k then e.matcher? else latest? start es k := by
  unfold latest?
  rw [List.reverse_append, List.reverse_singleton, List.singleton_append, List.find?_cons]
  by_cases hk : e.kind = k
  · simp only [hk, decide_true, ↓reduceIte]
  · simp only [hk, decide_false, ↓reduceIte]

theorem after_concat (start : Chain) (es : List Edit) (e : Edit) :
    start.after (es ++ [e]) = ((start.after es).perform e).2 := by
  simp [after]

/-- The standard chain is built from the empty one. -/
theorem after_empty_dialects :
    empty.after (Dialect.all.map fun d => .adding (.builtIn d)) = standard := rfl

/-- **The last insertion counts.** -/
theorem get?_after (start : Chain) (es : List Edit) (k : Kind) :
    (start.after es).get? k = latest? start es k := by
  induction es using List.reverseRecOn with
  | nil => rfl
  | append_singleton es e ih => rw [after_concat, get?_perform, latest?_concat, ih]

/-- **A chain stays one list of different kinds** under all edits. Each edit of a sequence does to
the list what it should, and says so. All questions about the chain that comes out are answered
from one list. The matcher of a kind is the one that was inserted last, unless it was removed. -/
theorem after_edits (start : Chain) (es : List Edit) :
    (∀ done e rest, es = done ++ e :: rest →
      (((start.after done).perform e).1, (start.after (done ++ [e])).matchers) =
        e.effect (start.after done).matchers ((start.after done).position? e.kind)) ∧
    (start.after es).InStep ∧ ∀ k, (start.after es).get? k = latest? start es k := by
  refine ⟨?_, inStep _, get?_after start es⟩
  intro done e rest _
  rw [after_concat]
  exact perform_eq_effect (start.after done) e

end Chain

end Sift
