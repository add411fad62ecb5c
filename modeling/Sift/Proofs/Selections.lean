import Mathlib.Data.List.FinRange
import Mathlib.Data.List.Sort
import Sift.Proofs.History
import Sift.Selection

/-!
# What a selection keeps

A selection judges all its records by one pattern, whose cache and variables go on from each record
to the next. None of this shows in what is kept.

**One record.** A root pattern that agrees with `q` matches a value exactly if `q` matches it on its
own, and still agrees with `q` afterwards (`Pattern.isMatch_evaluate`).

**A list of records.** So what is kept is decided by a question about each record alone
(`keep_eq_filter`).

**Main result.** After any history, selecting the records that match and selecting those that do
not divide the positions of the records between them, each in order (`select_partition`).
-/

namespace Sift

/-! ## One record -/

namespace Pattern

variable {p q : Pattern}

theorem Agrees.isRegular (h : Agrees q.levels p q) : q.settings.chain.IsRegular := by
  obtain ⟨rfl, hp⟩ := h
  have hp : Coherent p.levels p := hp
  exact hp.isRegular

/-- A pattern of a regular chain that has read nothing agrees with itself. -/
theorem agrees_self (hc : q.settings.chain.IsRegular) (hq : q.forget = q) :
    Agrees q.levels q q :=
  ⟨hq, coherent_of_cache_eq_nil hc (by rw [← hq]; rfl) _⟩

theorem Agrees.forget_eq (h : Agrees q.levels p q) : q.forget = q := by
  obtain ⟨rfl, -⟩ := h
  rfl

/-- **A pattern that has been in use** matches a value exactly if it does on its own. -/
theorem isMatch_evaluate (h : Agrees q.levels p q) (root : q.isRoot = true) (v : Value)
    (s : State) : decide ((p.evaluate v s).1 = .isMatch) = q.isMatch v := by
  have hself : Agrees q.levels q q := agrees_self h.isRegular h.forget_eq
  have hused : (p.evaluate v s).1 = (q.fresh v []).1 := by
    rw [mirrors_evaluate.verdict h, fresh_of_isRoot root]
  have hnew : (q.run v).1 = (q.fresh v []).1 := mirrors_evaluate.verdict hself v ⟨[], []⟩
  rw [isMatch, hused, hnew]

end Pattern

/-! ## A list of records -/

namespace Selection

variable {p q : Pattern}

/-- Whether a selection by a pattern keeps a record. -/
def wants (q : Pattern) (invert : Bool) (r : Record) : Bool := q.isMatch r.value != invert

/-- The places of the records that a selection by a pattern keeps, in order. -/
def places (q : Pattern) (invert : Bool) (records : List Record) : List (Fin records.length) :=
  (List.finRange records.length).filter fun i => wants q invert records[i]

/-- Inverting an answer as a proposition and as a truth value. -/
theorem ne_iff_bne (P : Prop) [Decidable P] (b : Bool) :
    P ≠ (b = true) ↔ (decide P != b) = true := by
  cases b <;> simp

/-- **What is kept is decided record by record.** -/
theorem keep_eq_filter (h : Pattern.Agrees q.levels p q) (root : q.isRoot = true) (invert : Bool)
    (s : State) (records : List Record) :
    (keep invert p s records).1 = records.filter (wants q invert) ∧
      Pattern.Agrees q.levels (keep invert p s records).2.1 q := by
  induction records generalizing p s with
  | nil => exact ⟨rfl, h⟩
  | cons r rest ih =>
    have hmatch := Pattern.isMatch_evaluate h root r.value s
    obtain ⟨hkept, hagrees⟩ :=
      ih (Pattern.mirrors_evaluate.keeps h r.value s) (p.evaluate r.value s).2.2
    refine ⟨?_, hagrees⟩
    rw [List.filter_cons, ← hkept, wants, ← hmatch]
    exact if_congr (ne_iff_bne _ invert) rfl rfl

theorem map_places (q : Pattern) (invert : Bool) (records : List Record) :
    (places q invert records).map records.get = records.filter (wants q invert) := by
  conv_rhs => rw [← List.map_get_finRange records, List.filter_map]
  rfl

theorem mem_places {invert : Bool} {records : List Record} {i : Fin records.length} :
    i ∈ places q invert records ↔ wants q invert records[i] = true := by
  rw [places, List.mem_filter]
  exact and_iff_right (List.mem_finRange i)

theorem pairwise_places (q : Pattern) (invert : Bool) (records : List Record) :
    (places q invert records).Pairwise (· < ·) :=
  (List.sortedLT_finRange _).pairwise.filter _

/-- What is kept stands at the places of the records that are wanted. -/
theorem select_eq (h : Pattern.Agrees q.levels p q) (root : q.isRoot = true) (invert : Bool)
    (s : State) (records : List Record) :
    (select invert p s records).1 = records.length ∧
      (select invert p s records).2.1 = (places q invert records).map records.get :=
  ⟨rfl, by rw [map_places]; exact (keep_eq_filter h root invert s records).1⟩

end Selection

/-! ## Selections by a pattern of a session -/

namespace Session

/-- What a pattern of the session works on. -/
def state (t : Session) (m : Member) : State := ⟨t.bindings m.scope, t.log⟩

/-- What is planned under a name is there, but for its cache. -/
theorem exists_of_planned {steps : List Step} (hs : ∀ step ∈ steps, step.IsRegular)
    {name : String} {q : Pattern} (hq : planned steps name = some q) :
    ∃ m, (empty.after steps).get? name = some m ∧ m.pattern.forget = q := by
  rw [← (follows_after steps hs).plan, Option.map_eq_some_iff] at hq
  exact hq

/-- The patterns of a session agree with what they are without their caches. -/
theorem agrees_after {steps : List Step} (hs : ∀ step ∈ steps, step.IsRegular) {name : String}
    {m : Member} (hm : (empty.after steps).get? name = some m) :
    Pattern.Agrees m.pattern.forget.levels m.pattern m.pattern.forget :=
  ⟨rfl, (follows_after steps hs).coherent hm⟩

/-- **A selection and its inversion divide the records.** Two patterns are alike but for what has
been done with them, and they are root patterns. One selects the records that match, and one those
that do not. Both report the number of all records. Each gives the records at some places, in
order, and every place belongs to exactly one of them: to the first if the record there is matched
by a pattern that has read nothing, on its own. -/
theorem select_partition {steps steps' : List Step} (hs : ∀ step ∈ steps, step.IsRegular)
    (hs' : ∀ step ∈ steps', step.IsRegular) {name name' : String} {m m' : Member}
    (hm : (empty.after steps).get? name = some m)
    (hm' : (empty.after steps').get? name' = some m')
    (alike : m'.pattern.forget = m.pattern.forget) (root : m.pattern.isRoot = true)
    (records : List Record) :
    ∃ (kept rejected : List (Fin records.length)) (p p' : Pattern) (s s' : State),
      Selection.select false m.pattern ((empty.after steps).state m) records =
          (records.length, kept.map records.get, p, s) ∧
        Selection.select true m'.pattern ((empty.after steps').state m') records =
          (records.length, rejected.map records.get, p', s') ∧
        kept.Pairwise (· < ·) ∧ rejected.Pairwise (· < ·) ∧
        (∀ i, i ∈ kept ↔ i ∉ rejected) ∧
        ∀ i, i ∈ kept ↔ m.pattern.forget.isMatch records[i].value = true := by
  set q := m.pattern.forget
  have hq : q.isRoot = true := root
  have h : Pattern.Agrees q.levels m.pattern q := agrees_after hs hm
  have h' : Pattern.Agrees q.levels m'.pattern q := alike ▸ agrees_after hs' hm'
  obtain ⟨htotal, hkept⟩ :=
    Selection.select_eq h hq false ((empty.after steps).state m) records
  obtain ⟨htotal', hrejected⟩ :=
    Selection.select_eq h' hq true ((empty.after steps').state m') records
  refine ⟨Selection.places q false records, Selection.places q true records, _, _, _, _,
    Prod.ext htotal (Prod.ext hkept rfl), Prod.ext htotal' (Prod.ext hrejected rfl),
    Selection.pairwise_places .., Selection.pairwise_places .., fun i => ?_, fun i => ?_⟩
  · rw [Selection.mem_places, Selection.mem_places, Selection.wants, Selection.wants]
    cases q.isMatch records[i].value <;> decide
  · rw [Selection.mem_places, Selection.wants, Bool.bne_false]

/-- A pattern with a variable has judged a value that left the variable bound. -/
def sampleUse : List Step :=
  [.create "pair" .standard "$x,$x".toList,
    .act "pair" (.evaluate (.list [.bool true, .bool true]))]

/-- Two pairs of the same and a pair of different texts. -/
def samplePairs : List Record :=
  Record.number 1 [.array [.string "a", .string "a"], .array [.string "b", .string "b"],
    .array [.string "a", .string "b"]]

theorem isRegular_sampleUse : ∀ step ∈ sampleUse, step.IsRegular := by
  simp [sampleUse, Step.IsRegular, Operation.IsRegular, Settings.standard, Chain.IsRegular,
    Chain.standard, Matcher.IsRegular]

theorem select_partition_samplePairs :
    ∃ m m', (empty.after sampleUse).get? "pair" = some m ∧
      (empty.after (sampleUse ++ sampleUse)).get? "pair" = some m' ∧
      ((∀ step ∈ sampleUse, step.IsRegular) ∧ (∀ step ∈ sampleUse ++ sampleUse, step.IsRegular) ∧
        m'.pattern.forget = m.pattern.forget ∧ m.pattern.isRoot = true) ∧
      ∃ (kept rejected : List (Fin samplePairs.length)) (p p' : Pattern) (s s' : State),
        Selection.select false m.pattern ((empty.after sampleUse).state m) samplePairs =
            (samplePairs.length, kept.map samplePairs.get, p, s) ∧
          Selection.select true m'.pattern ((empty.after (sampleUse ++ sampleUse)).state m')
            samplePairs = (samplePairs.length, rejected.map samplePairs.get, p', s') ∧
          kept.Pairwise (· < ·) ∧ rejected.Pairwise (· < ·) ∧
          (∀ i, i ∈ kept ↔ i ∉ rejected) ∧
          ∀ i, i ∈ kept ↔ m.pattern.forget.isMatch samplePairs[i].value = true := by
  have hs := isRegular_sampleUse
  have hs' : ∀ step ∈ sampleUse ++ sampleUse, step.IsRegular := by
    intro step hstep
    rw [List.mem_append, or_self] at hstep
    exact hs step hstep
  have hq : planned sampleUse "pair" = some (.ofText "$x,$x") := rfl
  have hq' : planned (sampleUse ++ sampleUse) "pair" = some (.ofText "$x,$x") := rfl
  obtain ⟨m, hm, hforget⟩ := exists_of_planned hs hq
  obtain ⟨m', hm', hforget'⟩ := exists_of_planned hs' hq'
  have alike : m'.pattern.forget = m.pattern.forget := by rw [hforget, hforget']
  have root : m.pattern.isRoot = true := congrArg Pattern.isRoot hforget
  exact ⟨m, m', hm, hm', ⟨hs, hs', alike, root⟩,
    select_partition hs hs' hm hm' alike root samplePairs⟩

end Session

end Sift
