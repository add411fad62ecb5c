import Sift.Proofs.History
import Sift.Proofs.Logs
import Sift.Proofs.UpToDate

/-!
# Sub-patterns

Who asks a pattern for its readings finds sub-patterns in them, who asks these finds others, and so
on. A sub-pattern is found along a path of dialects and places (`Pattern.partAt?`).

**The readings.** A pattern of a session and all sub-patterns that are found in it show what their
dialects read at this moment (`Pattern.IsCurrent`), whatever has been done before, and whatever the
matchers of the host are like.

**The scope.** Work on a sub-pattern is work on the whole pattern (`Operation.onParts`). It goes on
with the variables of the whole pattern, as if the sub-pattern were a pattern of the session that
shares its scope (`Session.act_onParts`).

**Main result.** Both hold after any history that leaves the settings of sub-patterns alone
(`Session.parts_after`).
-/

namespace Sift

/-- The operation on the sub-pattern at the end of a path. -/
def Operation.onParts (o : Operation) (path : List (Dialect × Nat)) : Operation :=
  path.foldr (fun step o => .onPart (.builtIn step.1) step.2 o) o

namespace Pattern

/-- A sub-pattern of what a dialect shows of the pattern. -/
def part? (p : Pattern) (d : Dialect) (i : Nat) : Option Pattern :=
  (p.reading? (.builtIn d) ⟨[], []⟩).1.bind (·.part? i)

/-- The sub-pattern at the end of a path. -/
def partAt? (p : Pattern) : List (Dialect × Nat) → Option Pattern
  | [] => some p
  | (d, i) :: path => (p.part? d i).bind (·.partAt? path)

/-- The pattern has the settings of another one, is one level deeper, and is not a root. -/
structure IsDerivedFrom (q p : Pattern) : Prop where
  settings : q.settings = p.settings
  depth : q.depth = p.depth + 1
  isRoot : q.isRoot = false

/-- The pattern has the given settings. What the dialects of its chain show is what they read from a
pattern with its text, settings and depth that has read nothing, be it a root or not, and the
sub-patterns are derived from the pattern. -/
structure IsCurrent (p : Pattern) (c : Settings) : Prop where
  settings : p.settings = c
  reading : ∀ d, .builtIn d ∈ c.chain.kinds → ∀ isRoot s,
    (p.reading? (.builtIn d) s).1.map (Reading.mapParts forget) =
      d.read ⟨p.text, c, isRoot, p.depth, []⟩
  part : ∀ {d i q}, p.part? d i = some q → q.IsDerivedFrom p

variable {p q : Pattern} {d : Dialect} {i : Nat} {path : List (Dialect × Nat)}

/-! ## Asking for a sub-pattern -/

theorem partAt?_cons_eq_some_iff :
    p.partAt? ((d, i) :: path) = some q ↔ ∃ q', p.part? d i = some q' ∧ q'.partAt? path = some q :=
  Option.bind_eq_some_iff

/-- What a matcher shows depends on the pattern alone, and asking for it binds no variables. -/
theorem reading?_of_state (p : Pattern) (k : Kind) (s s' : State) :
    (p.reading? k s).1 = (p.reading? k s').1 ∧ (p.reading? k s).2.2.bindings = s.bindings := by
  unfold Pattern.reading?
  cases p.settings.chain.get? k with
  | none => exact ⟨rfl, rfl⟩
  | some m =>
    simp only [ensureRead]
    split_ifs
    · exact ⟨rfl, rfl⟩
    · exact ⟨rfl, rfl⟩

theorem part?_eq_some_iff (s : State) :
    p.part? d i = some q ↔ ∃ r, (p.reading? (.builtIn d) s).1 = some r ∧ r.part? i = some q := by
  rw [part?, (p.reading?_of_state (.builtIn d) ⟨[], []⟩ s).1]
  exact Option.bind_eq_some_iff

/-! ## Readings along a path -/

/-- No dialect looks at what was read before, or at whether the pattern is a root. -/
theorem read_eq (p : Pattern) (d : Dialect) (isRoot : Bool) :
    d.read p = d.read ⟨p.text, p.settings, isRoot, p.depth, []⟩ := by
  cases d <;> rfl

/-- A sub-pattern of an up-to-date pattern is up to date, and derived from the pattern. -/
theorem IsUpToDate.part? (hp : p.IsUpToDate) (hq : p.part? d i = some q) :
    q.IsUpToDate ∧ q.IsDerivedFrom p := by
  obtain ⟨r, hr, hi⟩ := (part?_eq_some_iff ⟨[], []⟩).1 hq
  have hmem : q ∈ r.parts := Reading.mem_parts_iff.2 ⟨i, hi⟩
  obtain ⟨hreads, -⟩ := hp.reading? (mem_kinds_of_reading?_eq_some hr) ⟨[], []⟩
  rw [hr] at hreads
  obtain ⟨hread, hparts⟩ := hreads d rfl
  -- The reading that was kept has the sub-patterns of what is read just now, but for their caches.
  have hforget : q.forget ∈ (r.mapParts forget).parts := by
    rw [Reading.parts_mapParts]
    exact List.mem_map_of_mem hmem
  obtain ⟨text, hderive⟩ := exists_derive_of_mem_parts (m := .builtIn d) hread.symm hforget
  have hsettings : q.settings = p.settings := congrArg (·.settings) hderive
  have hdepth : q.depth = p.depth + 1 := congrArg (·.depth) hderive
  have hroot : q.isRoot = false := congrArg (·.isRoot) hderive
  exact ⟨hparts r rfl q hmem, hsettings, hdepth, hroot⟩

/-- **Everything found in an up-to-date pattern is up to date**, and has its settings. -/
theorem IsUpToDate.partAt? (hp : p.IsUpToDate) (hq : p.partAt? path = some q) :
    q.IsUpToDate ∧ q.settings = p.settings := by
  induction path generalizing p with
  | nil =>
    obtain rfl := Option.some.inj hq
    exact ⟨hp, rfl⟩
  | cons step path ih =>
    obtain ⟨q', hstep, hpath⟩ := partAt?_cons_eq_some_iff.1 hq
    obtain ⟨hq', hderived⟩ := hp.part? hstep
    obtain ⟨hup, hsettings⟩ := ih hq' hpath
    exact ⟨hup, hsettings.trans hderived.settings⟩

theorem IsUpToDate.isCurrent (hp : p.IsUpToDate) : p.IsCurrent p.settings where
  settings := rfl
  reading d hd isRoot s := by
    obtain ⟨hreads, -⟩ := hp.reading? hd s
    exact (hreads d rfl).1.trans (read_eq p d isRoot)
  part hq := (hp.part? hq).2

/-! ## Work along a path -/

/-- Work on a sub-pattern that is there gives its answer, and binds the variables that it binds. -/
theorem onPart_of_part? (hq : p.part? d i = some q)
    {f : Pattern → State → Answer × Pattern × State} (hf : IgnoresLog (f q)) (s : State) :
    (p.onPart (.builtIn d) i f s).1 = (f q s).1 ∧
      (p.onPart (.builtIn d) i f s).2.2.bindings = (f q s).2.2.bindings := by
  obtain ⟨r, hr, hi⟩ := (part?_eq_some_iff s).1 hq
  obtain ⟨-, hread⟩ := p.reading?_of_state (.builtIn d) s s
  obtain ⟨hanswer, -, hbindings⟩ := hf _ s hread
  simp only [Pattern.onPart, hr, hi]
  exact ⟨hanswer, hbindings⟩

end Pattern

/-- **Work at the end of a path** gives the answer of the sub-pattern that is there, and binds the
variables that it binds. -/
theorem Operation.perform_onParts {p q : Pattern} {path : List (Dialect × Nat)}
    (hq : p.partAt? path = some q) (o : Operation) (s : State) :
    ((o.onParts path).perform p s).1 = (o.perform q s).1 ∧
      ((o.onParts path).perform p s).2.2.bindings = (o.perform q s).2.2.bindings := by
  induction path generalizing p with
  | nil =>
    obtain rfl := Option.some.inj hq
    exact ⟨rfl, rfl⟩
  | cons step path ih =>
    obtain ⟨q', hstep, hpath⟩ := Pattern.partAt?_cons_eq_some_iff.1 hq
    let f : Pattern → State → Answer × Pattern × State := fun q s => (o.onParts path).perform q s
    have hf : IgnoresLog (f q') := (o.onParts path).ignoresLog_perform q'
    obtain ⟨hanswer, hbindings⟩ := Pattern.onPart_of_part? hstep hf s
    obtain ⟨hanswer', hbindings'⟩ := ih hpath
    exact ⟨hanswer.trans hanswer', hbindings.trans hbindings'⟩

namespace Session

variable {m : Member} {part : Pattern} {path : List (Dialect × Nat)}

/-- **A sub-pattern shares the scope of the pattern**: work on it gives the answer, and leaves the
scopes, of the same work on a pattern of the session with this scope. -/
theorem act_onParts (h : m.pattern.partAt? path = some part) (t : Session) (name : String)
    (o : Operation) :
    (t.act name m (o.onParts path)).1 = (t.act name ⟨part, m.scope⟩ o).1 ∧
      (t.act name m (o.onParts path)).2.scopes = (t.act name ⟨part, m.scope⟩ o).2.scopes := by
  obtain ⟨hanswer, hbindings⟩ := o.perform_onParts h ⟨t.bindings m.scope, t.log⟩
  exact ⟨hanswer, congrArg (t.scopes.set m.scope) hbindings⟩

/-! ## Histories -/

/-- The step changes no settings of sub-patterns. -/
def Step.SparesParts : Step → Prop
  | .act _ o => o.SparesParts
  | _ => True

/-- Steps keep patterns up to date. -/
theorem Step.SparesParts.keeps {step : Step} (h : step.SparesParts) :
    step.Keeps Pattern.IsUpToDate := by
  cases step with
  | create name settings text => exact Pattern.isUpToDate_of_cache_eq_nil rfl
  | fork _ _ | derive _ _ _ => exact fun _ _ => Pattern.isUpToDate_of_cache_eq_nil rfl
  | act name o => exact fun p hp s => hp.perform h s

/-- **Readings are never out of date.** After any history that leaves the settings of sub-patterns
alone, a pattern of the session is the planned one but for its cache. The pattern, and any
sub-pattern that is found in it along a path, has the planned settings, shows what its dialects
would read if nothing had been read before, and has sub-patterns that are derived from it. Work on
such a sub-pattern goes on in the scope of the pattern. -/
theorem parts_after (steps : List Step) (hs : ∀ step ∈ steps, step.SparesParts) {name : String}
    {q : Pattern} (hq : planned steps name = some q) :
    let t := empty.after steps
    ∃ m, t.get? name = some m ∧ m.pattern.forget = q ∧ m.scope < t.scopes.length ∧
      ∀ path part, m.pattern.partAt? path = some part →
        part.IsCurrent q.settings ∧
        ∀ o, (t.act name m (o.onParts path)).1 = (t.act name ⟨part, m.scope⟩ o).1 ∧
          (t.act name m (o.onParts path)).2.scopes =
            (t.act name ⟨part, m.scope⟩ o).2.scopes := by
  have h := tracks_after steps fun step hstep => (hs step hstep).keeps
  intro t
  rw [← h.plan, Option.map_eq_some_iff] at hq
  obtain ⟨m, hm, rfl⟩ := hq
  refine ⟨m, hm, rfl, inScope_after steps name m hm, fun path part hpart => ⟨?_, ?_⟩⟩
  · obtain ⟨hup, hsettings⟩ := (h.each hm).partAt? hpart
    have hcurrent := hup.isCurrent
    rwa [hsettings] at hcurrent
  · exact fun o => act_onParts hpart t name o

/-- A matcher of the host that reads whenever it is asked, and keeps the length of the chain. -/
def sampleRestless : Added where
  name := "restless"
  label := 2
  read view := some (.number (.ofNat view.kinds.length))
  shouldRead _ _ _ := true
  judge _ _ _ := .indeterminate

/-- A pattern that judges, gets a matcher that reads again and again, reads ahead of time, lends a
part of a part, loses a matcher, and changes its mode and case setting. -/
def sampleEdits : List Step :=
  [.create "whole" .standard "!a:$x b:$x".toList,
    .act "whole" (.evaluate (.map [("a", .bool true), ("b", .bool false)])),
    .act "whole" (.insert (.added sampleRestless)),
    .act "whole" (.readAll true),
    .act "whole" (Operation.onParts (.evaluate (.map [("b", .null)]))
      [(.negation, 0), (.multiField, 1)]),
    .act "whole" (.erase (.builtIn .glob)),
    .act "whole" (.evaluate .null),
    .act "whole" (.setMode .inclusive),
    .act "whole" (.readKind (.builtIn .negation) false),
    .act "whole" (.setIgnoreCase false),
    .act "whole" (.evaluate (.map [("a", .null)]))]

/-- The planned pattern of the sample history. -/
def sampleEdited : Pattern :=
  ((((Pattern.ofText "!a:$x b:$x").insert (.added sampleRestless)).erase (.builtIn .glob)).setMode
    .inclusive).setIgnoreCase false

theorem parts_after_sampleEdits :
    ((∀ step ∈ sampleEdits, step.SparesParts) ∧
      planned sampleEdits "whole" = some sampleEdited) ∧
    (((empty.after sampleEdits).get? "whole").bind
      (·.pattern.partAt? [(.negation, 0), (.multiField, 1)])).map (·.text) =
        some "b:$x".toList ∧
    let t := empty.after sampleEdits
    ∃ m, t.get? "whole" = some m ∧ m.pattern.forget = sampleEdited ∧ m.scope < t.scopes.length ∧
      ∀ path part, m.pattern.partAt? path = some part →
        part.IsCurrent sampleEdited.settings ∧
        ∀ o, (t.act "whole" m (o.onParts path)).1 = (t.act "whole" ⟨part, m.scope⟩ o).1 ∧
          (t.act "whole" m (o.onParts path)).2.scopes =
            (t.act "whole" ⟨part, m.scope⟩ o).2.scopes := by
  have hs : ∀ step ∈ sampleEdits, step.SparesParts := by
    simp [sampleEdits, Step.SparesParts, Operation.SparesParts, Operation.onParts,
      Operation.IsShared]
  have hq : planned sampleEdits "whole" = some sampleEdited := rfl
  exact ⟨⟨hs, hq⟩, by decide +kernel, parts_after sampleEdits hs hq⟩

end Session

end Sift
