import Sift.Proofs.Selections

/-!
# Tasks in any order

Without the sequential setting every source has a task of its own, which works with a copy of the
pattern that has read nothing. The tasks take turns in whatever order; what they share is standard
input.

**A turn.** A task loads the records of its source in one turn, and then judges one record a turn
(`Task.advance`). A `Pool` holds the tasks and what is left of standard input, and a schedule says
whose turn it is.

**The invariant.** What a task will end with is settled from the start: it is what its source gives
on its own (`Task.outcome`). Each turn keeps this, since nobody has read standard input before the
one task whose source it is (`Pool.Sound`).

**Main result.** If standard input is a source at most once, then every schedule that lets all tasks
finish gives the results of one pattern that goes through the sources in order, whatever this
pattern has been through (`runFrom_eq_of_schedule`).
-/

namespace Sift

namespace Selection

variable {o : Selection} {p q : Pattern} {s : State} {input input' : Content} {source : Source}
  {sources : List Source}

/-! ## One source on its own -/

/-- What a source gives by a pattern that has read nothing. -/
def alone (o : Selection) (p : Pattern) (input : Content) (source : Source) :
    Except Failure Result :=
  (runSource o p.forget ⟨[], []⟩ input source).1

theorem runSource_of_error {e : Failure} (h : (load o.whole input source).1 = .error e) :
    runSource o p s input source = (.error e, p, s, (load o.whole input source).2) := by
  unfold runSource
  generalize load o.whole input source = loaded at h
  obtain ⟨records, input'⟩ := loaded
  obtain rfl : records = .error e := h
  rfl

theorem runSource_of_ok {records : List Record}
    (h : (load o.whole input source).1 = .ok records) :
    runSource o p s input source =
      (.ok ⟨source, records.length, (keep o.invert p s records).1⟩,
        (keep o.invert p s records).2.1, (keep o.invert p s records).2.2,
        (load o.whole input source).2) := by
  unfold runSource
  generalize load o.whole input source = loaded at h
  obtain ⟨records', input'⟩ := loaded
  obtain rfl : records' = .ok records := h
  rfl

/-- What is left of standard input depends on the source alone. -/
theorem runSource_input (o : Selection) (p : Pattern) (s : State) (input : Content)
    (source : Source) : (runSource o p s input source).2.2.2 = (load o.whole input source).2 := by
  cases h : (load o.whole input source).1 with
  | error e => rw [runSource_of_error h]
  | ok records => rw [runSource_of_ok h]

/-- A source other than standard input gives the same whatever is left of standard input. -/
theorem alone_congr (h : source.isStandardInput = false) :
    alone o p input source = alone o p input' source := by
  cases source with
  | standardInput => cases h
  | file path content =>
    have hload : (load o.whole input (.file path content)).1 =
        (load o.whole input' (.file path content)).1 := rfl
    unfold alone
    cases hr : (load o.whole input' (.file path content)).1 with
    | error e => rw [runSource_of_error hr, runSource_of_error (hload.trans hr)]
    | ok records => rw [runSource_of_ok hr, runSource_of_ok (hload.trans hr)]

/-- Reading a source leaves the sources behind it what they are, if standard input is among all of
them at most once. -/
theorem map_alone_after (h : (source :: sources).countP Source.isStandardInput ≤ 1) :
    sources.map (alone o p (load o.whole input source).2) = sources.map (alone o p input) := by
  cases source with
  | file path content => rfl
  | standardInput =>
    have hnone : sources.countP Source.isStandardInput = 0 := by
      rw [List.countP_cons_of_pos rfl] at h
      omega
    refine List.map_congr_left fun other hother => alone_congr ?_
    exact Bool.eq_false_iff.2 (List.countP_eq_zero.1 hnone other hother)

/-- **A pattern that has been in use** gives what the source gives on its own, and is the same but
for its cache afterwards. -/
theorem runSource_eq_alone (h : Pattern.Agrees q.levels p q) (root : q.isRoot = true) (s : State)
    (input : Content) (source : Source) :
    (runSource o p s input source).1 = alone o q input source ∧
      Pattern.Agrees q.levels (runSource o p s input source).2.1 q := by
  have hself : Pattern.Agrees q.levels q.forget q := by
    rw [h.forget_eq]
    exact Pattern.agrees_self h.isRegular h.forget_eq
  unfold alone
  cases hr : (load o.whole input source).1 with
  | error e =>
    rw [runSource_of_error hr, runSource_of_error hr]
    exact ⟨rfl, h⟩
  | ok records =>
    obtain ⟨hkept, hagrees⟩ := keep_eq_filter h root o.invert s records
    obtain ⟨hkept', -⟩ := keep_eq_filter hself root o.invert ⟨[], []⟩ records
    rw [runSource_of_ok hr, runSource_of_ok hr, hkept, hkept']
    exact ⟨rfl, hagrees⟩

/-- One pattern that goes through the sources in order gives what each of them gives on its own. -/
theorem runShared_eq_map (h : Pattern.Agrees q.levels p q) (root : q.isRoot = true) (s : State)
    (hinput : sources.countP Source.isStandardInput ≤ 1) :
    runShared o p s input sources = sources.map (alone o q input) := by
  induction sources generalizing p s input with
  | nil => rfl
  | cons source sources ih =>
    obtain ⟨hresult, hagrees⟩ := runSource_eq_alone (o := o) h root s input source
    have hrest : sources.countP Source.isStandardInput ≤ 1 :=
      (List.sublist_cons_self source sources).countP_le.trans hinput
    simp only [runShared, List.map_cons]
    rw [hresult, ih hagrees _ hrest, runSource_input, map_alone_after hinput]

/-- Patterns of their own that go through the sources in order give what each of them gives on its
own. -/
theorem runForked_eq_map (hinput : sources.countP Source.isStandardInput ≤ 1) :
    runForked o p input sources = sources.map (alone o p input) := by
  induction sources generalizing input with
  | nil => rfl
  | cons source sources ih =>
    have hrest : sources.countP Source.isStandardInput ≤ 1 :=
      (List.sublist_cons_self source sources).countP_le.trans hinput
    simp only [runForked, List.map_cons]
    rw [ih hrest, runSource_input, map_alone_after hinput]
    rfl

/-! ## Tasks -/

/-- Records are kept one after the other. -/
theorem keep_cons (invert : Bool) (p : Pattern) (s : State) (r : Record) (rest : List Record) :
    (keep invert p s (r :: rest)).1 = (keep invert p s [r]).1 ++
      (keep invert (keep invert p s [r]).2.1 (keep invert p s [r]).2.2 rest).1 := by
  simp only [keep]
  split_ifs <;> rfl

/-- Where the task of a source stands. -/
inductive Task where
  /-- Its source has not been read. -/
  | waiting (source : Source)
  /-- Its pattern has judged some records of the source, and others are left. -/
  | working (source : Source) (total : Nat) (kept : List Record) (p : Pattern) (s : State)
      (left : List Record)
  /-- It has its result. -/
  | finished (result : Except Failure Result)

namespace Task

/-- One turn of a task, and standard input after it. A task that begins takes a copy of the pattern
that has read nothing. -/
def advance (o : Selection) (p : Pattern) (input : Content) : Task → Task × Content
  | waiting source =>
    let (records, input) := load o.whole input source
    match records with
    | .error e => (finished (.error e), input)
    | .ok records => (working source records.length [] p.forget ⟨[], []⟩ records, input)
  | working source total kept _ _ [] => (finished (.ok ⟨source, total, kept⟩), input)
  | working source total kept p s (r :: left) =>
    let (new, p, s) := keep o.invert p s [r]
    (working source total (kept ++ new) p s left, input)
  | finished result => (finished result, input)

/-- What a task ends with if standard input is as given until the task reads it. -/
def outcome (o : Selection) (p : Pattern) (input : Content) : Task → Except Failure Result
  | waiting source => alone o p input source
  | working source total kept p s left => .ok ⟨source, total, kept ++ (keep o.invert p s left).1⟩
  | finished result => result

/-- The task is going to read standard input. -/
def readsInput : Task → Bool
  | waiting source => source.isStandardInput
  | _ => false

variable {t : Task}

theorem advance_of_error {e : Failure} (h : (load o.whole input source).1 = .error e) :
    (waiting source).advance o p input =
      (finished (.error e), (load o.whole input source).2) := by
  simp only [advance]
  generalize load o.whole input source = loaded at h
  obtain ⟨records, input'⟩ := loaded
  obtain rfl : records = .error e := h
  rfl

theorem advance_of_ok {records : List Record} (h : (load o.whole input source).1 = .ok records) :
    (waiting source).advance o p input =
      (working source records.length [] p.forget ⟨[], []⟩ records,
        (load o.whole input source).2) := by
  simp only [advance]
  generalize load o.whole input source = loaded at h
  obtain ⟨records', input'⟩ := loaded
  obtain rfl : records' = .ok records := h
  rfl

/-- **A turn keeps the outcome** of a task, if nobody has read standard input before it. -/
theorem outcome_advance (h : t.readsInput = true → input' = input) :
    outcome o p input (t.advance o p input').1 = t.outcome o p input := by
  cases t with
  | waiting source =>
    have hsame : alone o p input source = alone o p input' source := by
      cases hs : source.isStandardInput with
      | true => rw [h hs]
      | false => exact alone_congr hs
    rw [outcome, hsame, alone]
    cases hr : (load o.whole input' source).1 with
    | error e => rw [advance_of_error hr, runSource_of_error hr, outcome]
    | ok records => rw [advance_of_ok hr, runSource_of_ok hr, outcome, List.nil_append]
  | working source total kept p' s left =>
    cases left with
    | nil => simp only [advance, outcome, keep, List.append_nil]
    | cons r left =>
      simp only [advance, outcome]
      rw [keep_cons o.invert p' s r left, List.append_assoc]
  | finished result => rfl

/-- Only a task whose source is standard input uses it up. -/
theorem advance_input (h : t.readsInput = false) : (t.advance o p input).2 = input := by
  cases t with
  | waiting source =>
    cases source with
    | standardInput => cases h
    | file path content =>
      cases hr : (load o.whole input (.file path content)).1 with
      | error e => rw [advance_of_error hr]; rfl
      | ok records => rw [advance_of_ok hr]; rfl
  | working source total kept p' s left => cases left <;> rfl
  | finished result => rfl

/-- After a turn a task has read its source. -/
theorem readsInput_advance : (t.advance o p input).1.readsInput = false := by
  cases t with
  | waiting source =>
    cases hr : (load o.whole input source).1 with
    | error e => rw [advance_of_error hr]; rfl
    | ok records => rw [advance_of_ok hr]; rfl
  | working source total kept p' s left => cases left <;> rfl
  | finished result => rfl

end Task

/-! ## Turns -/

/-- Tasks, and what is left of standard input. -/
structure Pool where
  tasks : List Task
  input : Content

namespace Pool

/-- One task for each source, none of which has begun. -/
def start (input : Content) (sources : List Source) : Pool := ⟨sources.map .waiting, input⟩

/-- The turn of the task with a number. -/
def turn (o : Selection) (p : Pattern) (c : Pool) (i : Nat) : Pool :=
  match c.tasks[i]? with
  | some t => ⟨c.tasks.set i (t.advance o p c.input).1, (t.advance o p c.input).2⟩
  | none => c

/-- The turns of a schedule. -/
def follow (o : Selection) (p : Pattern) (c : Pool) (schedule : List Nat) : Pool :=
  schedule.foldl (turn o p) c

/-- All tasks have finished, with these results in the order of their sources. -/
def HasResults (c : Pool) (results : List (Except Failure Result)) : Prop :=
  c.tasks = results.map .finished

/-- Every task is going to end with what its source gives on its own. -/
structure Sound (o : Selection) (p : Pattern) (input : Content) (sources : List Source)
    (c : Pool) : Prop where
  outcomes : c.tasks.map (Task.outcome o p input) = sources.map (alone o p input)
  readers_le : c.tasks.countP Task.readsInput ≤ 1
  untouched : c.tasks.countP Task.readsInput = 1 → c.input = input

variable {c : Pool} {i : Nat} {t : Task} {results : List (Except Failure Result)}

theorem turn_of_some (h : c.tasks[i]? = some t) :
    c.turn o p i = ⟨c.tasks.set i (t.advance o p c.input).1, (t.advance o p c.input).2⟩ := by
  rw [turn, h]

theorem turn_of_none (h : c.tasks[i]? = none) : c.turn o p i = c := by
  rw [turn, h]

theorem follow_append (schedule more : List Nat) :
    c.follow o p (schedule ++ more) = (c.follow o p schedule).follow o p more :=
  List.foldl_append

theorem sound_start (hinput : sources.countP Source.isStandardInput ≤ 1) :
    (start input sources).Sound o p input sources where
  outcomes := by
    rw [start, List.map_map]
    rfl
  readers_le := by
    rw [start, List.countP_map]
    exact hinput
  untouched _ := rfl

/-- **One turn** keeps all outcomes, and standard input until its task reads it. -/
theorem Sound.turn (h : c.Sound o p input sources) (i : Nat) :
    (c.turn o p i).Sound o p input sources := by
  cases ht : c.tasks[i]? with
  | none => rwa [turn_of_none ht]
  | some t =>
    rw [turn_of_some ht]
    obtain ⟨hi, rfl⟩ := List.getElem?_eq_some_iff.1 ht
    -- A task that is going to read standard input is the only one that is.
    have huntouched : c.tasks[i].readsInput = true → c.input = input := by
      intro hreads
      have hpos : 0 < c.tasks.countP Task.readsInput :=
        List.countP_pos_iff.2 ⟨_, List.getElem_mem hi, hreads⟩
      exact h.untouched (Nat.le_antisymm h.readers_le hpos)
    have hcount : (c.tasks.set i (c.tasks[i].advance o p c.input).1).countP Task.readsInput =
        c.tasks.countP Task.readsInput - if c.tasks[i].readsInput = true then 1 else 0 := by
      rw [List.countP_set hi, Task.readsInput_advance]
      rfl
    refine ⟨?_, ?_, ?_⟩
    · have houtcome := Task.outcome_advance (o := o) (p := p) huntouched
      rw [← h.outcomes, List.map_set, houtcome, ← List.map_set, List.set_getElem_self]
    · exact hcount ▸ (Nat.sub_le _ _).trans h.readers_le
    · intro hone
      rw [hcount] at hone
      by_cases hreads : c.tasks[i].readsInput = true
      · rw [if_pos hreads] at hone
        have hle := h.readers_le
        omega
      · rw [if_neg hreads] at hone
        change (c.tasks[i].advance o p c.input).2 = input
        rw [Task.advance_input (Bool.eq_false_iff.2 hreads)]
        exact h.untouched hone

/-- **A schedule** keeps all outcomes. -/
theorem Sound.follow (h : c.Sound o p input sources) (schedule : List Nat) :
    (c.follow o p schedule).Sound o p input sources := by
  induction schedule generalizing c with
  | nil => exact h
  | cons i schedule ih => exact ih (h.turn i)

/-- Tasks that have finished have ended with what their sources give on their own. -/
theorem Sound.results_eq (h : c.Sound o p input sources) (hresults : c.HasResults results) :
    results = sources.map (alone o p input) := by
  rw [← h.outcomes, hresults, List.map_map]
  exact (List.map_id results).symm

/-! ### Schedules that let all tasks finish -/

/-- A task that works finishes when it has had a turn for every record that is left, and one
more. -/
theorem follow_replicate_of_working {total : Nat} {kept left : List Record} {p' : Pattern}
    {s : State} (h : c.tasks[i]? = some (.working source total kept p' s left)) :
    ∃ n result, (c.follow o p (List.replicate n i)).tasks = c.tasks.set i (.finished result) := by
  induction left generalizing c kept p' s with
  | nil =>
    refine ⟨1, .ok ⟨source, total, kept⟩, ?_⟩
    change (c.turn o p i).tasks = _
    rw [turn_of_some h]
    rfl
  | cons r left ih =>
    obtain ⟨hi, -⟩ := List.getElem?_eq_some_iff.1 h
    have hnext : (c.turn o p i).tasks[i]? = some (.working source total
        (kept ++ (keep o.invert p' s [r]).1) (keep o.invert p' s [r]).2.1
        (keep o.invert p' s [r]).2.2 left) := by
      rw [turn_of_some h]
      exact List.getElem?_set_self hi
    obtain ⟨n, result, hn⟩ := ih hnext
    refine ⟨n + 1, result, ?_⟩
    change ((c.turn o p i).follow o p (List.replicate n i)).tasks = _
    rw [hn, turn_of_some h, List.set_set]

/-- A task that has enough turns finishes, and the other tasks stay as they are. -/
theorem exists_follow_replicate (hi : i < c.tasks.length) :
    ∃ n result, (c.follow o p (List.replicate n i)).tasks = c.tasks.set i (.finished result) := by
  have ht : c.tasks[i]? = some c.tasks[i] := List.getElem?_eq_getElem hi
  cases h : c.tasks[i] with
  | finished result =>
    refine ⟨0, result, ?_⟩
    rw [← h]
    exact (List.set_getElem_self hi).symm
  | working source total kept p' s left => exact follow_replicate_of_working (ht.trans (by rw [h]))
  | waiting source =>
    rw [h] at ht
    cases hr : (load o.whole c.input source).1 with
    | error e =>
      refine ⟨1, .error e, ?_⟩
      change (c.turn o p i).tasks = _
      rw [turn_of_some ht, Task.advance_of_error hr]
    | ok records =>
      have hnext : (c.turn o p i).tasks[i]? =
          some (.working source records.length [] p.forget ⟨[], []⟩ records) := by
        rw [turn_of_some ht, Task.advance_of_ok hr]
        exact List.getElem?_set_self hi
      obtain ⟨n, result, hn⟩ := follow_replicate_of_working hnext
      refine ⟨n + 1, result, ?_⟩
      change ((c.turn o p i).follow o p (List.replicate n i)).tasks = _
      rw [hn, turn_of_some ht, List.set_set]

/-- **Every pool can finish**, whatever turns there have been. -/
theorem exists_follow_hasResults (o : Selection) (p : Pattern) (c : Pool) :
    ∃ schedule results, (c.follow o p schedule).HasResults results := by
  suffices h : ∀ (rest : List Task) (results : List (Except Failure Result)) (c : Pool),
      c.tasks = results.map .finished ++ rest →
        ∃ schedule results, (c.follow o p schedule).HasResults results from
    h c.tasks [] c rfl
  intro rest
  induction rest with
  | nil =>
    intro results c hc
    exact ⟨[], results, by rw [HasResults, follow, List.foldl_nil, hc, List.append_nil]⟩
  | cons t rest ih =>
    intro results c hc
    -- The tasks in front have finished; the next one has the number of their results.
    have hi : results.length < c.tasks.length := by
      rw [hc, List.length_append, List.length_map, List.length_cons]
      omega
    obtain ⟨n, result, hn⟩ := exists_follow_replicate (o := o) (p := p) hi
    have hnext : (c.follow o p (List.replicate n results.length)).tasks =
        (results ++ [result]).map .finished ++ rest := by
      rw [hn, hc]
      simp
    obtain ⟨schedule, results', hresults⟩ := ih (results ++ [result]) _ hnext
    exact ⟨List.replicate n results.length ++ schedule, results', by rwa [follow_append]⟩

end Pool

/-! ## Runs -/

/-- In sequence or not, a run gives what each source gives on its own. -/
theorem runFrom_eq_map (h : Pattern.Agrees p.forget.levels p p.forget) (root : p.isRoot = true)
    (s : State) (hinput : sources.countP Source.isStandardInput ≤ 1) :
    runFrom o p s input sources = sources.map (alone o p input) := by
  rw [runFrom]
  split_ifs
  · exact runShared_eq_map h root s hinput
  · exact runForked_eq_map hinput

end Selection

namespace Session

/-- **Any order of tasks gives the results of one pattern.** A root pattern has been through any
history, and standard input is a source at most once. Then every schedule of the tasks can be
continued until all have finished, and when they have, their results are those of a sequential run,
in the order of the sources, and those of a run with the settings as they are. -/
theorem runFrom_eq_of_schedule {steps : List Step} (hs : ∀ step ∈ steps, step.IsRegular)
    {name : String} {m : Member} (hm : (empty.after steps).get? name = some m)
    (root : m.pattern.isRoot = true) (o : Selection) (input : Content) (sources : List Source)
    (hinput : sources.countP Source.isStandardInput ≤ 1) (schedule : List Nat) :
    (∃ more results, ((Selection.Pool.start input sources).follow o m.pattern
        (schedule ++ more)).HasResults results) ∧
      ∀ results, ((Selection.Pool.start input sources).follow o m.pattern
          schedule).HasResults results →
        ({ o with sequential := true } : Selection).runFrom m.pattern
            ((empty.after steps).state m) input sources = results ∧
          o.runFrom m.pattern ((empty.after steps).state m) input sources = results := by
  have hagrees := agrees_after hs hm
  refine ⟨?_, fun results hresults => ?_⟩
  · obtain ⟨more, results, h⟩ := Selection.Pool.exists_follow_hasResults o m.pattern
      ((Selection.Pool.start input sources).follow o m.pattern schedule)
    exact ⟨more, results, by rwa [Selection.Pool.follow_append]⟩
  · have hsound : (Selection.Pool.start input sources).Sound o m.pattern input sources :=
      Selection.Pool.sound_start hinput
    rw [(hsound.follow schedule).results_eq hresults]
    exact ⟨Selection.runFrom_eq_map hagrees root _ hinput,
      Selection.runFrom_eq_map hagrees root _ hinput⟩

/-- Standard input between two files, one with an array and one with lines. -/
def sampleSources : List Source :=
  [.file "pairs.json".toList "[[1,1],[1,2]]".toUTF8, .standardInput,
    .file "pairs.jsonl".toList "[3,3]\n[3,4]".toUTF8]

/-- Turns in which each of three tasks loads two records, judges them and finishes. -/
def sampleSchedule : List Nat := [2, 1, 0, 2, 1, 0, 0, 0, 1, 1, 2, 2]

theorem runFrom_sampleSources :
    ∃ m, (empty.after sampleUse).get? "pair" = some m ∧
      ((∀ step ∈ sampleUse, step.IsRegular) ∧ m.pattern.isRoot = true ∧
        sampleSources.countP Source.isStandardInput ≤ 1) ∧
      ((∃ more results, ((Selection.Pool.start "[5,5]".toUTF8 sampleSources).follow
          ⟨true, false, false⟩ m.pattern (sampleSchedule ++ more)).HasResults results) ∧
        ∀ results, ((Selection.Pool.start "[5,5]".toUTF8 sampleSources).follow
            ⟨true, false, false⟩ m.pattern sampleSchedule).HasResults results →
          Selection.runFrom ⟨true, false, true⟩ m.pattern ((empty.after sampleUse).state m)
              "[5,5]".toUTF8 sampleSources = results ∧
            Selection.runFrom ⟨true, false, false⟩ m.pattern ((empty.after sampleUse).state m)
              "[5,5]".toUTF8 sampleSources = results) := by
  have hs := isRegular_sampleUse
  have hq : planned sampleUse "pair" = some (.ofText "$x,$x") := rfl
  obtain ⟨m, hm, hforget⟩ := exists_of_planned hs hq
  have root : m.pattern.isRoot = true := congrArg Pattern.isRoot hforget
  have hinput : sampleSources.countP Source.isStandardInput ≤ 1 := Nat.le_refl 1
  exact ⟨m, hm, ⟨hs, root, hinput⟩,
    runFrom_eq_of_schedule hs hm root ⟨true, false, false⟩ _ sampleSources hinput sampleSchedule⟩

end Session

end Sift
