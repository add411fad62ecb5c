import Sift.Proofs.Formats

/-!
# Records on lines

A source of lines is loaded line by line, and every line is either blank, or a document, or invalid
(`line_cases`). Blank lines are counted and hold nothing, documents are records, and loading ends at
the first invalid line.

**Pieces.** Lines are what stands between line feeds, but for carriage returns at their ends and an
empty piece at the end of the text. Neither makes a difference to what is loaded, or to the number
of the line where loading ends (`loadFrom_ofPieces`). So texts that are put together with a line
feed between them are loaded one after the other, the second one counting on from where the first
one ends.

**Main result.** Loading gives the documents of the lines that are not blank, with the numbers of
these lines, or the number of the first that is invalid, and it respects putting texts together
(`ofSourceText_isLines`).
-/

namespace Sift

namespace Text

/-- The lines with their numbers, but for blank ones. -/
def numberedFrom (n : Nat) (lines : List (List Char)) : List (List Char × Nat) :=
  (lines.zipIdx n).filter fun e => !e.1.all isBlank

/-- The lines of a text that are not blank, with their numbers, counted from one. -/
def numberedLines (text : List Char) : List (List Char × Nat) := numberedFrom 1 (lines text)

variable {line : List Char}

theorem trim_eq_nil_iff {s : List Char} : trim s = [] ↔ ∀ c ∈ s, isBlank c = true := by
  constructor
  · intro h c hc
    by_contra hsolid
    exact List.not_mem_nil (h ▸ mem_trim (Bool.not_eq_true _ ▸ hsolid) hc)
  · intro h
    rw [trim, trimStart, List.dropWhile_eq_nil_iff.2 h]
    rfl

theorem numberedFrom_cons_of_blank (h : trim line = []) (n : Nat) (rest : List (List Char)) :
    numberedFrom n (line :: rest) = numberedFrom (n + 1) rest := by
  have hall : line.all isBlank = true := List.all_eq_true.2 (trim_eq_nil_iff.1 h)
  simp [numberedFrom, hall]

theorem numberedFrom_cons (h : trim line ≠ []) (n : Nat) (rest : List (List Char)) :
    numberedFrom n (line :: rest) = (line, n) :: numberedFrom (n + 1) rest := by
  have hall : line.all isBlank = false := by
    rw [← Bool.not_eq_true, List.all_eq_true, ← trim_eq_nil_iff]
    exact h
  rw [numberedFrom, List.zipIdx_cons, List.filter_cons_of_pos (by simp [hall]), numberedFrom]

/-- Numbers of lines ascend. -/
theorem pairwise_numberedFrom (n : Nat) (lines : List (List Char)) :
    (numberedFrom n lines).Pairwise fun e e' => e.2 < e'.2 := by
  refine List.Pairwise.filter _ ?_
  have hnumbers : ((lines.zipIdx n).map Prod.snd).Pairwise (· < ·) := by
    rw [List.zipIdx_map_snd]
    exact List.pairwise_lt_range'
  exact List.pairwise_map.1 hnumbers

/-- A carriage return is blank. -/
theorem trim_dropCarriageReturn : trim (dropCarriageReturn line) = [] ↔ trim line = [] := by
  unfold dropCarriageReturn
  split_ifs with hlast
  · obtain ⟨front, rfl⟩ := List.getLast?_eq_some_iff.1 hlast
    rw [List.dropLast_concat, trim_eq_nil_iff, trim_eq_nil_iff, List.forall_mem_append,
      List.forall_mem_singleton]
    exact (and_iff_left rfl).symm
  · exact Iff.rfl

/-- There is one piece more between line feeds than there are line feeds. -/
theorem length_splitOn_lineFeed (s : List Char) :
    (s.splitOn '\n').length = 1 + lineFeeds s := by
  induction s with
  | nil => rfl
  | cons c s ih =>
    rw [lineFeeds] at ih ⊢
    rw [List.splitOn_cons_eq_if_modifyHead, List.count_cons]
    split_ifs
    · rw [List.length_cons, ih]
      omega
    · rw [List.length_modifyHead, ih]
      omega

end Text

namespace Json

variable {depth : Nat} {t : List Char} {j : Json}

/-- A carriage return behind a document belongs to it. -/
theorem readWithin_of_dropCarriageReturn
    (h : readWithin depth (Text.dropCarriageReturn t) = .ok j) : readWithin depth t = .ok j := by
  unfold Text.dropCarriageReturn at h
  split_ifs at h with hlast
  · obtain ⟨front, rfl⟩ := List.getLast?_eq_some_iff.1 hlast
    rw [List.dropLast_concat] at h
    obtain ⟨value, rest, rfl, -, hblank, hreads⟩ := exists_value (Nat.le_refl depth) h
    have hrest : AllBlank (rest ++ ['\r']) :=
      List.forall_mem_append.2 ⟨hblank, List.forall_mem_singleton.2 rfl⟩
    rw [List.append_assoc]
    exact readWithin_eq_ok.2 ⟨_, hreads _ hrest.stopsNumber, hrest⟩
  · exact h

theorem read_dropCarriageReturn : read (Text.dropCarriageReturn t) = .ok j ↔ read t = .ok j :=
  ⟨readWithin_of_dropCarriageReturn, readWithin_dropCarriageReturn⟩

end Json

namespace Record

variable {line : List Char} {lines front behind : List (List Char)} {records : List Record}
  {j : Json} {n m : Nat}

/-! ## One line -/

/-- The line is no document. -/
def IsInvalid (line : List Char) : Prop := ∀ j, Json.read line ≠ .ok j

/-- **A line is blank, a document, or invalid.** -/
theorem line_cases (line : List Char) :
    Text.trim line = [] ∨ (∃ j, Json.read line = .ok j) ∨ Text.trim line ≠ [] ∧ IsInvalid line := by
  by_cases hblank : Text.trim line = []
  · exact .inl hblank
  · by_cases hdocument : ∃ j, Json.read line = .ok j
    · exact .inr (.inl hdocument)
    · exact .inr (.inr ⟨hblank, not_exists.1 hdocument⟩)

theorem trim_document (h : Json.read line = .ok j) : Text.trim line ≠ [] := by
  obtain ⟨c, hc, hsolid⟩ := Json.exists_mem_document h
  exact List.ne_nil_of_mem (Text.mem_trim hsolid hc)

theorem ofLinesFrom_cons_of_invalid (hblank : Text.trim line ≠ []) (h : IsInvalid line) (n : Nat)
    (rest : List (List Char)) : ofLinesFrom n (line :: rest) = .error ⟨n, line⟩ := by
  rw [ofLinesFrom, if_neg hblank]
  cases hread : Json.read line with
  | error place => rfl
  | ok j => exact absurd hread (h j)

/-- The records of lines that are counted from `n`, or the number of the line that is invalid. -/
def loadFrom (n : Nat) (lines : List (List Char)) : Except Nat (List Record) :=
  (ofLinesFrom n lines).mapError Fault.line

/-- The records of a text of lines, or the number of the line that is invalid. -/
def loadLines (text : List Char) : Except Nat (List Record) := loadFrom 1 (Text.lines text)

theorem loadFrom_cons_of_blank (h : Text.trim line = []) (n : Nat) (rest : List (List Char)) :
    loadFrom n (line :: rest) = loadFrom (n + 1) rest := by
  rw [loadFrom, ofLinesFrom, if_pos h, loadFrom]

theorem loadFrom_cons_of_document (h : Json.read line = .ok j) (n : Nat)
    (rest : List (List Char)) :
    loadFrom n (line :: rest) = (loadFrom (n + 1) rest).map (⟨n, j⟩ :: ·) := by
  rw [loadFrom, ofLinesFrom_cons (Nat.le_refl _) h, loadFrom]
  cases ofLinesFrom (n + 1) rest <;> rfl

theorem loadFrom_cons_of_invalid (hblank : Text.trim line ≠ []) (h : IsInvalid line) (n : Nat)
    (rest : List (List Char)) : loadFrom n (line :: rest) = .error n := by
  rw [loadFrom, ofLinesFrom_cons_of_invalid hblank h]
  rfl

/-! ## Pieces between line feeds -/

/-- A carriage return at the end of a line makes no difference. -/
theorem loadFrom_dropCarriageReturn (n : Nat) (line : List Char) (rest : List (List Char)) :
    loadFrom n (Text.dropCarriageReturn line :: rest) = loadFrom n (line :: rest) := by
  rcases line_cases line with hblank | ⟨j, hread⟩ | ⟨hsolid, hinvalid⟩
  · rw [loadFrom_cons_of_blank hblank,
      loadFrom_cons_of_blank (Text.trim_dropCarriageReturn.2 hblank)]
  · rw [loadFrom_cons_of_document hread,
      loadFrom_cons_of_document (Json.read_dropCarriageReturn.2 hread)]
  · have hinvalid' : IsInvalid (Text.dropCarriageReturn line) :=
      fun j hj => hinvalid j (Json.read_dropCarriageReturn.1 hj)
    rw [loadFrom_cons_of_invalid hsolid hinvalid,
      loadFrom_cons_of_invalid (mt Text.trim_dropCarriageReturn.1 hsolid) hinvalid']

/-- **The pieces between line feeds are as good as the lines.** -/
theorem loadFrom_ofPieces (n : Nat) (pieces : List (List Char)) :
    loadFrom n (Text.ofPieces pieces) = loadFrom n pieces := by
  induction pieces generalizing n with
  | nil => rfl
  | cons piece pieces ih =>
    cases pieces with
    | nil =>
      rw [Text.ofPieces]
      split_ifs with hempty
      · subst hempty
        rfl
      · rfl
    | cons piece' pieces =>
      -- Behind the first piece both sides go on alike, whatever the first piece is.
      have hrest : ∀ line, loadFrom n (line :: Text.ofPieces (piece' :: pieces)) =
          loadFrom n (line :: piece' :: pieces) := by
        intro line
        rcases line_cases line with hblank | ⟨j, hread⟩ | ⟨hsolid, hinvalid⟩
        · rw [loadFrom_cons_of_blank hblank, loadFrom_cons_of_blank hblank, ih]
        · rw [loadFrom_cons_of_document hread, loadFrom_cons_of_document hread, ih]
        · rw [loadFrom_cons_of_invalid hsolid hinvalid, loadFrom_cons_of_invalid hsolid hinvalid]
      rw [Text.ofPieces_cons (List.cons_ne_nil _ _), hrest, loadFrom_dropCarriageReturn]

theorem loadLines_eq (text : List Char) : loadLines text = loadFrom 1 (text.splitOn '\n') :=
  loadFrom_ofPieces 1 _

/-! ## Lines behind lines -/

/-- The record, counted on. -/
def shift (k : Nat) (r : Record) : Record := { r with index := r.index + k }

/-- What loading gives, counted on. -/
def shiftLoaded (k : Nat) : Except Nat (List Record) → Except Nat (List Record)
  | .ok records => .ok (records.map (shift k))
  | .error n => .error (n + k)

theorem loadFrom_add (n k : Nat) (lines : List (List Char)) :
    loadFrom (n + k) lines = shiftLoaded k (loadFrom n lines) := by
  induction lines generalizing n with
  | nil => rfl
  | cons line lines ih =>
    have hnext := ih (n + 1)
    rw [Nat.add_right_comm] at hnext
    rcases line_cases line with hblank | ⟨j, hread⟩ | ⟨hsolid, hinvalid⟩
    · rw [loadFrom_cons_of_blank hblank, loadFrom_cons_of_blank hblank, hnext]
    · rw [loadFrom_cons_of_document hread, loadFrom_cons_of_document hread, hnext]
      cases loadFrom (n + 1) lines <;> rfl
    · rw [loadFrom_cons_of_invalid hsolid hinvalid, loadFrom_cons_of_invalid hsolid hinvalid]
      rfl

/-- **Lines behind others are loaded if these could be loaded**, and are counted on. -/
theorem loadFrom_append (n : Nat) (front behind : List (List Char)) :
    loadFrom n (front ++ behind) = (loadFrom n front).bind fun records =>
      (loadFrom (n + front.length) behind).map (records ++ ·) := by
  induction front generalizing n with
  | nil =>
    rw [List.nil_append, List.length_nil, Nat.add_zero]
    cases loadFrom n behind <;> rfl
  | cons line front ih =>
    have hnext := ih (n + 1)
    rw [Nat.add_right_comm, Nat.add_assoc] at hnext
    rw [List.cons_append, List.length_cons]
    rcases line_cases line with hblank | ⟨j, hread⟩ | ⟨hsolid, hinvalid⟩
    · rw [loadFrom_cons_of_blank hblank, loadFrom_cons_of_blank hblank, hnext]
    · rw [loadFrom_cons_of_document hread, loadFrom_cons_of_document hread, hnext]
      cases loadFrom (n + 1) front with
      | error m => rfl
      | ok records => cases loadFrom (n + (front.length + 1)) behind <;> rfl
    · rw [loadFrom_cons_of_invalid hsolid hinvalid, loadFrom_cons_of_invalid hsolid hinvalid]
      rfl

/-- **Texts with a line feed between them** are loaded one after the other. -/
theorem loadLines_append (a b : List Char) :
    loadLines (a ++ '\n' :: b) = (loadLines a).bind fun records =>
      (shiftLoaded (1 + Text.lineFeeds a) (loadLines b)).map (records ++ ·) := by
  rw [loadLines_eq, loadLines_eq, loadLines_eq, List.splitOn_append_cons_self, loadFrom_append,
    Text.length_splitOn_lineFeed, loadFrom_add]

/-! ## What is loaded -/

/-- The record is the document on a line, with the number of the line. -/
def IsOn (r : Record) (e : List Char × Nat) : Prop := Json.read e.1 = .ok r.json ∧ r.index = e.2

theorem loadFrom_eq_ok : loadFrom n lines = .ok records ↔
    List.Forall₂ IsOn records (Text.numberedFrom n lines) := by
  induction lines generalizing n records with
  | nil =>
    change Except.ok [] = Except.ok records ↔ List.Forall₂ IsOn records []
    rw [List.forall₂_nil_right_iff, Except.ok.injEq, eq_comm]
  | cons line lines ih =>
    rcases line_cases line with hblank | ⟨j, hread⟩ | ⟨hsolid, hinvalid⟩
    · rw [loadFrom_cons_of_blank hblank, Text.numberedFrom_cons_of_blank hblank, ih]
    · rw [loadFrom_cons_of_document hread, Text.numberedFrom_cons (trim_document hread),
        List.forall₂_cons_right_iff]
      constructor
      · intro h
        cases hrest : loadFrom (n + 1) lines with
        | error m =>
          rw [hrest] at h
          cases h
        | ok rest =>
          rw [hrest] at h
          cases h
          exact ⟨⟨n, j⟩, rest, ⟨hread, rfl⟩, ih.1 hrest, rfl⟩
      · rintro ⟨⟨i, j'⟩, rest, ⟨hread', rfl⟩, hrest, rfl⟩
        obtain rfl : j = j' := Except.ok.inj (hread.symm.trans hread')
        rw [ih.2 hrest]
        rfl
    · rw [loadFrom_cons_of_invalid hsolid hinvalid, Text.numberedFrom_cons hsolid,
        List.forall₂_cons_right_iff]
      constructor
      · intro h
        cases h
      · rintro ⟨r, -, ⟨hread, -⟩, -⟩
        exact absurd hread (hinvalid r.json)

/-- The first of the numbered lines that is invalid has the number. -/
def IsFirstInvalid (numbered : List (List Char × Nat)) (n : Nat) : Prop :=
  ∃ front line behind, numbered = front ++ (line, n) :: behind ∧
    (∀ e ∈ front, ∃ j, Json.read e.1 = .ok j) ∧ IsInvalid line

theorem isFirstInvalid_cons_of_document (hread : Json.read line = .ok j)
    {numbered : List (List Char × Nat)} :
    IsFirstInvalid ((line, n) :: numbered) m ↔ IsFirstInvalid numbered m := by
  constructor
  · rintro ⟨front, line', behind, heq, hfront, hinvalid⟩
    cases front with
    | nil =>
      obtain ⟨rfl, -⟩ : line = line' ∧ n = m := by simpa using (List.cons.inj heq).1
      exact absurd hread (hinvalid j)
    | cons e front =>
      exact ⟨front, line', behind, (List.cons.inj heq).2,
        fun e' he' => hfront e' (List.mem_cons_of_mem e he'), hinvalid⟩
  · rintro ⟨front, line', behind, rfl, hfront, hinvalid⟩
    exact ⟨(line, n) :: front, line', behind, rfl,
      List.forall_mem_cons.2 ⟨⟨j, hread⟩, hfront⟩, hinvalid⟩

theorem isFirstInvalid_cons_of_invalid (hinvalid : IsInvalid line)
    {numbered : List (List Char × Nat)} : IsFirstInvalid ((line, n) :: numbered) m ↔ n = m := by
  constructor
  · rintro ⟨front, line', behind, heq, hfront, -⟩
    cases front with
    | nil => exact congrArg Prod.snd (List.cons.inj heq).1
    | cons e front =>
      obtain ⟨j, hread⟩ := hfront e List.mem_cons_self
      rw [← (List.cons.inj heq).1] at hread
      exact absurd hread (hinvalid j)
  · rintro rfl
    exact ⟨[], line, numbered, rfl, List.forall_mem_nil _, hinvalid⟩

theorem loadFrom_eq_error :
    loadFrom n lines = .error m ↔ IsFirstInvalid (Text.numberedFrom n lines) m := by
  induction lines generalizing n with
  | nil =>
    constructor
    · intro h
      cases h
    · rintro ⟨front, line, behind, heq, -⟩
      simp [Text.numberedFrom] at heq
  | cons line lines ih =>
    rcases line_cases line with hblank | ⟨j, hread⟩ | ⟨hsolid, hinvalid⟩
    · rw [loadFrom_cons_of_blank hblank, Text.numberedFrom_cons_of_blank hblank, ih]
    · rw [loadFrom_cons_of_document hread, Text.numberedFrom_cons (trim_document hread),
        isFirstInvalid_cons_of_document hread, ← ih]
      cases loadFrom (n + 1) lines with
      | error m' => exact Iff.rfl
      | ok records =>
        constructor <;>
          · intro h
            cases h
    · rw [loadFrom_cons_of_invalid hsolid hinvalid, Text.numberedFrom_cons hsolid,
        isFirstInvalid_cons_of_invalid hinvalid, Except.error.injEq]

/-- Whether all lines that are not blank are documents. -/
theorem exists_loadFrom_iff : (∃ records, loadFrom n lines = .ok records) ↔
    ∀ e ∈ Text.numberedFrom n lines, ∃ j, Json.read e.1 = .ok j := by
  constructor
  · rintro ⟨records, h⟩
    rw [loadFrom_eq_ok] at h
    generalize Text.numberedFrom n lines = numbered at h
    induction h with
    | nil => exact List.forall_mem_nil _
    | cons hr _ ih => exact List.forall_mem_cons.2 ⟨⟨_, hr.1⟩, ih⟩
  · intro h
    cases hload : loadFrom n lines with
    | ok records => exact ⟨records, rfl⟩
    | error m =>
      obtain ⟨front, line, behind, heq, -, hinvalid⟩ := loadFrom_eq_error.1 hload
      obtain ⟨j, hread⟩ := h (line, m) (by simp [heq])
      exact absurd hread (hinvalid j)

/-- Records on ascending lines have ascending numbers. -/
theorem pairwise_index {numbered : List (List Char × Nat)} (h : List.Forall₂ IsOn records numbered)
    (hnumbered : numbered.Pairwise fun e e' => e.2 < e'.2) :
    records.Pairwise fun r r' => r.index < r'.index := by
  have hindex : records.map index = numbered.map Prod.snd := by
    induction h with
    | nil => rfl
    | cons hr _ ih => rw [List.map_cons, List.map_cons, hr.2, ih (List.pairwise_cons.1 hnumbered).2]
  rw [← List.pairwise_map (f := Prod.snd), ← hindex, List.pairwise_map] at hnumbered
  exact hnumbered

/-! ## Sources of lines -/

variable {s : Source} {whole : Bool} {text : List Char} {e : InputError}

/-- A source of lines gives the records of the lines of its text. -/
theorem ofSourceText_eq_loadLines (hs : s.isLines = true) (whole : Bool) (text : List Char) :
    ofSourceText s whole text = (loadLines text).mapError (.malformed s.name) := by
  rw [ofSourceText_eq, ofText, if_pos hs, loadLines, loadFrom, ofLines]
  cases ofLinesFrom 1 (Text.lines text) <;> rfl

theorem ofSourceText_eq_ok (hs : s.isLines = true) :
    ofSourceText s whole text = .ok records ↔ loadLines text = .ok records := by
  rw [ofSourceText_eq_loadLines hs]
  cases loadLines text with
  | ok records' => simp [Except.mapError]
  | error n => simp [Except.mapError]

theorem ofSourceText_eq_error (hs : s.isLines = true) :
    ofSourceText s whole text = .error e ↔
      ∃ n, loadLines text = .error n ∧ e = .malformed s.name n := by
  rw [ofSourceText_eq_loadLines hs]
  cases loadLines text with
  | ok records => simp [Except.mapError]
  | error n => simp [Except.mapError, eq_comm]

/-- **Loading lines.** A source of lines can be loaded exactly if all lines of its text that are not
blank are documents. Then its records are these documents in their order, each with the number of
its line, so that the numbers ascend. If it cannot be loaded, the error has the number of the first
line that is neither blank nor a document. Of two texts with a line feed between them, the first one
is loaded as it is alone, and the second one if the first one can be loaded: as it is alone, but
that its numbers are greater by the number of lines in front of it. -/
theorem ofSourceText_isLines {s : Source} (hs : s.isLines = true) (whole : Bool) :
    (∀ text,
      ((∃ records, ofSourceText s whole text = .ok records) ↔
        ∀ e ∈ Text.numberedLines text, ∃ j, Json.read e.1 = .ok j) ∧
      (∀ records, ofSourceText s whole text = .ok records →
        List.Forall₂ IsOn records (Text.numberedLines text) ∧
          records.Pairwise fun r r' => r.index < r'.index) ∧
      ∀ e, ofSourceText s whole text = .error e →
        ∃ n, e = .malformed s.name n ∧ IsFirstInvalid (Text.numberedLines text) n) ∧
    ∀ a b,
      (∀ front behind, ofSourceText s whole a = .ok front → ofSourceText s whole b = .ok behind →
        ofSourceText s whole (a ++ '\n' :: b) =
          .ok (front ++ behind.map (shift (1 + Text.lineFeeds a)))) ∧
      (∀ e, ofSourceText s whole a = .error e → ofSourceText s whole (a ++ '\n' :: b) = .error e) ∧
      ∀ front e, ofSourceText s whole a = .ok front → ofSourceText s whole b = .error e →
        ∃ n, e = .malformed s.name n ∧ ofSourceText s whole (a ++ '\n' :: b) =
          .error (.malformed s.name (n + (1 + Text.lineFeeds a))) := by
  simp only [ofSourceText_eq_ok hs, ofSourceText_eq_error hs]
  constructor
  · intro text
    refine ⟨exists_loadFrom_iff, ?_, ?_⟩
    · intro records hload
      have hon := loadFrom_eq_ok.1 hload
      exact ⟨hon, pairwise_index hon (Text.pairwise_numberedFrom 1 _)⟩
    · rintro e ⟨n, hload, rfl⟩
      exact ⟨n, rfl, loadFrom_eq_error.1 hload⟩
  · intro a b
    rw [loadLines_append]
    refine ⟨?_, ?_, ?_⟩
    · intro front behind hfront hbehind
      rw [hfront, hbehind]
      rfl
    · rintro e ⟨n, hload, rfl⟩
      exact ⟨n, by rw [hload]; rfl, rfl⟩
    · rintro front e hfront ⟨n, hload, rfl⟩
      exact ⟨n, rfl, n + (1 + Text.lineFeeds a), by rw [hfront, hload]; rfl, rfl⟩

/-- A file of lines. -/
def sampleFile : Source := .file "x.jsonl".toList ByteArray.empty

/-- Two documents with a blank line between them; the last line has no end. -/
def sampleLines : List Char := "1\r\n \n[]".toList

/-- A line that is invalid, behind an empty line and in front of a document. -/
def sampleInvalid : List Char := "\n\x7boops\x7d\n2".toList

theorem ofSourceText_sampleLines :
    sampleFile.isLines = true ∧
      (∃ records, ofSourceText sampleFile false sampleLines = .ok records ∧
        List.Forall₂ IsOn records [("1".toList, 1), ("[]".toList, 3)] ∧
        records.Pairwise fun r r' => r.index < r'.index) ∧
      ofSourceText sampleFile false (sampleLines ++ '\n' :: sampleInvalid) =
        .error (.malformed "x.jsonl" 5) := by
  have hlines : sampleFile.isLines = true := by decide
  obtain ⟨hloads, happend⟩ := ofSourceText_isLines hlines false
  have hload : ofSourceText sampleFile false sampleLines =
      .ok [⟨1, .number (.integer 1)⟩, ⟨3, .array []⟩] := rfl
  have herror : ofSourceText sampleFile false sampleInvalid = .error (.malformed "x.jsonl" 2) := rfl
  obtain ⟨n, hn, hfails⟩ := (happend sampleLines sampleInvalid).2.2 _ _ hload herror
  obtain ⟨-, rfl⟩ := InputError.malformed.inj hn
  exact ⟨hlines, ⟨_, hload, (hloads sampleLines).2.1 _ hload⟩, hfails⟩

end Record

end Sift
