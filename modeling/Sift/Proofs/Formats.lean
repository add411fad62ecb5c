import Mathlib.Data.List.Forall2
import Sift.Input.Record
import Sift.Proofs.Parts
import Sift.Proofs.ValueFronts

/-!
# Documents in arrays and on lines

The same documents can be given as the elements of an array or one to a line.

**Documents.** What may follow a document is settled by what readers of JSON take from the front
of a text: a comma, a closing bracket or a line feed behind a document changes nothing, and neither
does a carriage return that is taken off its end (`readWithin_dropCarriageReturn`).

**Arrays.** Documents between commas are the elements of an array (`readWithin_array`), which is
nested one deeper.

**Lines.** Documents on lines are read one by one (`ofLines_intercalate`), and two or more of them
are not one document, so standard input is read as lines (`read_intercalate`,
`hasManyLines_append`).

**Main result.** An array of documents, the documents on lines, and the same lines on standard input
give the same records (`ofSourceText_agree`).
-/

namespace Sift

namespace Json

variable {depth depth' : Nat} {t u s rest : List Char} {j : Json} {texts : List (List Char)}
  {docs : List Json}

/-! ## Documents -/

theorem readWithin_eq_ok :
    readWithin depth t = .ok j ↔ ∃ rest, valueWithin depth t = .ok (j, rest) ∧ AllBlank rest := by
  unfold readWithin
  constructor
  · intro h
    split at h
    · cases h
    · next j' rest hvalue =>
      split at h
      · next hrest =>
        cases h
        exact ⟨rest, hvalue, skipBlanks_eq_nil.1 hrest⟩
      · cases h
  · rintro ⟨rest, hvalue, hrest⟩
    rw [hvalue]
    dsimp only
    rw [skipBlanks_eq_nil.2 hrest]

theorem AllBlank.stopsNumber (h : AllBlank rest) : StopsNumber rest := by
  rw [← List.append_nil rest]
  exact stopsNumber_nil.append_left h

/-- A document is a value and blanks behind it. -/
theorem exists_value (hle : depth ≤ depth') (h : readWithin depth t = .ok j) :
    ∃ front rest, t = front ++ rest ∧ EndsSolid front ∧ AllBlank rest ∧
      ∀ u, StopsNumber u → valueWithin depth' (front ++ u) = .ok (j, u) := by
  obtain ⟨rest, hvalue, hblank⟩ := readWithin_eq_ok.1 h
  obtain ⟨front, -, rfl, hsolid, hreads⟩ := valueWithin_takes hle _ _ _ hvalue
  exact ⟨front, rest, rfl, hsolid, hblank, hreads⟩

/-- A document is a value in front of anything that cannot go on with a number. -/
theorem valueWithin_document (hle : depth ≤ depth') (h : readWithin depth t = .ok j)
    (hu : StopsNumber u) :
    ∃ rest, AllBlank rest ∧ valueWithin depth' (t ++ u) = .ok (j, rest ++ u) := by
  obtain ⟨front, rest, rfl, -, hblank, hreads⟩ := exists_value hle h
  refine ⟨rest, hblank, ?_⟩
  rw [List.append_assoc]
  exact hreads _ (hu.append_left hblank)

/-- A reader for a greater depth reads the same documents. -/
theorem readWithin_mono (hle : depth ≤ depth') (h : readWithin depth t = .ok j) :
    readWithin depth' t = .ok j := by
  obtain ⟨rest, hblank, hvalue⟩ := valueWithin_document hle h stopsNumber_nil
  rw [List.append_nil, List.append_nil] at hvalue
  exact readWithin_eq_ok.2 ⟨rest, hvalue, hblank⟩

/-- A carriage return at its end does not belong to what a document says. -/
theorem readWithin_dropCarriageReturn (h : readWithin depth t = .ok j) :
    readWithin depth (Text.dropCarriageReturn t) = .ok j := by
  unfold Text.dropCarriageReturn
  split_ifs with hlast
  · obtain ⟨front, rest, rfl, hsolid, hblank, hreads⟩ := exists_value (Nat.le_refl depth) h
    -- The carriage return stands behind the value, since no value ends with a blank.
    have hne : rest ≠ [] := by
      rintro rfl
      rw [List.append_nil] at hlast
      cases hsolid '\r' hlast
    have hdrop : AllBlank rest.dropLast := fun c hc => hblank c (List.mem_of_mem_dropLast hc)
    rw [List.dropLast_append_of_ne_nil hne]
    exact readWithin_eq_ok.2 ⟨_, hreads _ hdrop.stopsNumber, hdrop⟩
  · exact h

/-! ## The first character -/

/-- A value can start with the character. -/
def startsValue (c : Char) : Bool :=
  c.isDigit || c = 'n' || c = 't' || c = 'f' || c = '"' || c = '[' || c = '\x7b' || c = '-'

theorem isBlank_of_startsValue {c : Char} (h : startsValue c = true) : Text.isBlank c = false := by
  simp only [startsValue, Bool.or_eq_true, decide_eq_true_eq] at h
  rcases h with ((((((hdigit | rfl) | rfl) | rfl) | rfl) | rfl) | rfl) | rfl
  · have hrange : 48 ≤ c.toNat ∧ c.toNat ≤ 57 := by
      simpa [Char.isDigit, UInt32.le_iff_toNat_le] using hdigit
    simp only [Text.isBlank]
    simp
    omega
  all_goals rfl

theorem ne_bracket_of_startsValue {c : Char} (h : startsValue c = true) : c ≠ ']' := by
  rintro rfl
  cases h

theorem startsValue_of_valueWithin {x : Json × List Char} (h : valueWithin depth s = .ok x) :
    ∃ c r, skipBlanks s = c :: r ∧ startsValue c = true := by
  cases depth with
  | zero => cases h
  | succ depth =>
    rw [valueWithin] at h
    split at h
    · cases h
    · next c r hs =>
      refine ⟨c, r, hs, ?_⟩
      split at h
      case h_8 =>
        split_ifs at h with hdigit
        simp [startsValue, hdigit]
      all_goals rfl

/-- The first character of a document that is not blank starts its value. -/
theorem skipBlanks_document (h : readWithin depth t = .ok j) (u : List Char) :
    ∃ c r, skipBlanks (t ++ u) = c :: (r ++ u) ∧ startsValue c = true := by
  obtain ⟨rest, hvalue, -⟩ := readWithin_eq_ok.1 h
  obtain ⟨c, r, hs, hc⟩ := startsValue_of_valueWithin hvalue
  obtain ⟨b, rfl, hb, hsolid⟩ := exists_blanks hs
  refine ⟨c, r, ?_, hc⟩
  rw [List.append_assoc, skipBlanks_append hb, List.cons_append, skipBlanks_cons hsolid]

/-- A text whose first character behind blanks starts a value has a character that is not blank. -/
theorem exists_mem_of_skipBlanks {c : Char} {r : List Char} (hs : skipBlanks s = c :: r)
    (hc : startsValue c = true) : ∃ c ∈ s, Text.isBlank c = false := by
  have hmem : c ∈ skipBlanks s := hs ▸ List.mem_cons_self
  exact ⟨c, (List.dropWhile_suffix _).mem hmem, isBlank_of_startsValue hc⟩

/-- A document has a character that is not blank. -/
theorem exists_mem_document (h : readWithin depth t = .ok j) : ∃ c ∈ t, Text.isBlank c = false := by
  obtain ⟨c, r, hs, hc⟩ := skipBlanks_document h []
  rw [List.append_nil, List.append_nil] at hs
  exact exists_mem_of_skipBlanks hs hc

/-! ## Arrays of documents -/

/-- A value is read behind blanks as it is in front of them. -/
theorem valueWithin_skipBlanks {x : Json × List Char} (h : valueWithin depth s = .ok x) :
    valueWithin depth (skipBlanks s) = .ok x := by
  cases depth with
  | zero => cases h
  | succ depth =>
    have hb : AllBlank (s.takeWhile isBlank) := fun _ hc => List.mem_takeWhile_imp hc
    rw [← valueWithin_append hb, skipBlanks, List.takeWhile_append_dropWhile]
    exact h

/-- A separator stands behind the first of several texts that are joined. -/
theorem intercalate_singleton_cons_cons (c : Char) (t t' : List Char) (texts : List (List Char)) :
    [c].intercalate (t :: t' :: texts) = t ++ c :: [c].intercalate (t' :: texts) := by
  rw [List.intercalate_cons_cons, List.append_assoc, List.singleton_append]

/-- Joined documents start with the value of the first of them. -/
theorem skipBlanks_intercalate (h : readWithin depth t = .ok j) (d : Char)
    (texts : List (List Char)) (u : List Char) :
    ∃ c r, skipBlanks ([d].intercalate (t :: texts) ++ u) = c :: r ∧ startsValue c = true := by
  cases texts with
  | nil =>
    obtain ⟨c, r, hs, hc⟩ := skipBlanks_document h u
    exact ⟨c, r ++ u, by rw [List.intercalate_singleton, hs], hc⟩
  | cons t' texts =>
    set more := d :: [d].intercalate (t' :: texts) ++ u
    obtain ⟨c, r, hs, hc⟩ := skipBlanks_document h more
    exact ⟨c, r ++ more, by rw [intercalate_singleton_cons_cons, List.append_assoc, hs], hc⟩

/-- Documents between commas are the parts of an array. -/
theorem parts_documents (hdocs : List.Forall₂ (fun t j => readWithin depth t = .ok j) texts docs)
    (hne : texts ≠ []) (read : List Json) :
    parts (valueWithin depth) ']' List.cons texts.length read
        (skipBlanks ([','].intercalate texts ++ [']'])) = .ok (docs.reverse ++ read, []) := by
  induction hdocs generalizing read with
  | nil => exact absurd rfl hne
  | @cons t j texts docs ht hdocs ih =>
    cases hdocs with
    | nil =>
      obtain ⟨rest, hblank, hvalue⟩ :=
        valueWithin_document (Nat.le_refl depth) ht (stopsNumber_cons (c := ']') rfl [])
      rw [List.intercalate_singleton]
      exact parts_eq_ok.2
        ⟨j, _, valueWithin_skipBlanks hvalue, .inl ⟨separator_append_close hblank rfl [], rfl⟩⟩
    | @cons t' j' texts docs ht' hdocs =>
      set more := [','].intercalate (t' :: texts) ++ [']']
      have hsplit : [','].intercalate (t :: t' :: texts) ++ [']'] = t ++ ',' :: more := by
        rw [intercalate_singleton_cons_cons, List.append_assoc]
        rfl
      obtain ⟨rest, hblank, hvalue⟩ :=
        valueWithin_document (Nat.le_refl depth) ht (stopsNumber_cons (c := ',') rfl more)
      obtain ⟨c, r, hs, hc⟩ := skipBlanks_intercalate ht' ',' texts [']']
      have hseparator : separator ']' (rest ++ ',' :: more) = .ok (true, skipBlanks more) := by
        rw [hs]
        exact separator_append_comma hblank (by decide) hs (ne_bracket_of_startsValue hc)
      rw [hsplit, List.reverse_cons, List.append_assoc, List.singleton_append]
      exact parts_eq_ok.2 ⟨j, _, valueWithin_skipBlanks hvalue,
        .inr ⟨_, hseparator, ih (List.cons_ne_nil _ _) (j :: read)⟩⟩

/-- **Documents between commas are an array**, one deeper than they are. -/
theorem readWithin_array (hdocs : List.Forall₂ (fun t j => readWithin depth t = .ok j) texts docs)
    (hne : texts ≠ []) :
    readWithin (depth + 1) ('[' :: [','].intercalate texts ++ [']']) = .ok (.array docs) := by
  have hparts := parts_documents hdocs hne []
  rw [List.append_nil] at hparts
  -- The fuel of an array is the length of its text, which is more than its elements need.
  obtain ⟨front, -, heq, -, hreads⟩ :=
    parts_takes rfl (valueWithin_takes (Nat.le_refl depth)) hparts
  rw [List.append_nil] at heq
  cases hdocs with
  | nil => exact absurd rfl hne
  | @cons t j texts docs ht hdocs =>
    obtain ⟨c, r, hs, hc⟩ := skipBlanks_intercalate ht ',' texts [']']
    have hdepth : depth ≠ 0 := by
      rintro rfl
      obtain ⟨rest, hvalue, -⟩ := readWithin_eq_ok.1 ht
      cases hvalue
    refine readWithin_eq_ok.2 ⟨[], ?_, by simp [AllBlank]⟩
    rw [List.cons_append, valueWithin_array hdepth, arrayBody, partsBehind, hs]
    dsimp only
    have hread := hreads (r.length + 2) [] (by rw [← heq, hs, List.length_cons]; omega)
    rw [List.append_nil, ← heq, hs] at hread
    rw [if_neg (ne_bracket_of_startsValue hc), hread]
    simp [Except.map]

/-! ## Documents on lines -/

/-- **Documents on several lines are no document.** -/
theorem read_intercalate {j' : Json} {t' : List Char} (h : readWithin depth t = .ok j)
    (hle : depth ≤ maxDepth) (h' : readWithin depth t' = .ok j') (texts : List (List Char)) :
    ∃ line, read (['\n'].intercalate (t :: t' :: texts)) = .error line := by
  set more := ['\n'].intercalate (t' :: texts)
  obtain ⟨rest, hblank, hvalue⟩ :=
    valueWithin_document hle h (stopsNumber_cons (c := '\n') rfl more)
  obtain ⟨c, r, hs, -⟩ := skipBlanks_intercalate h' '\n' texts []
  have hrest : skipBlanks (rest ++ '\n' :: more) = c :: r := by
    rw [skipBlanks_append hblank, ← hs, List.append_nil]
    rfl
  rw [read, readWithin, intercalate_singleton_cons_cons, hvalue]
  simp only [hrest]
  exact ⟨_, rfl⟩

end Json

namespace Text

variable {a b : List Char}

theorem ofPieces_cons {pieces : List (List Char)} (hne : pieces ≠ []) (line : List Char) :
    ofPieces (line :: pieces) = dropCarriageReturn line :: ofPieces pieces := by
  cases pieces with
  | nil => exact absurd rfl hne
  | cons piece pieces => rfl

/-- The first line of a text. -/
theorem lines_append (ha : '\n' ∉ a) (b : List Char) :
    lines (a ++ '\n' :: b) = dropCarriageReturn a :: lines b := by
  have hpiece : ∀ c ∈ a, (c == '\n') = false := by
    intro c hc
    rw [beq_eq_false_iff_ne]
    rintro rfl
    exact ha hc
  have hpieces : (a ++ '\n' :: b).splitOn '\n' = a :: b.splitOn '\n' :=
    List.splitOnP_append_cons_of_forall_mem hpiece '\n' (beq_self_eq_true _) b
  rw [lines, hpieces, ofPieces_cons (List.splitOn_ne_nil _ _)]
  rfl

theorem lines_ne_nil (hb : b ≠ []) : lines b ≠ [] := by
  intro hnil
  rw [lines] at hnil
  cases hpieces : b.splitOn '\n' with
  | nil => exact List.splitOn_ne_nil _ _ hpieces
  | cons piece pieces =>
    rw [hpieces] at hnil
    cases pieces with
    | cons piece' pieces => cases hnil
    | nil =>
      have hjoin : ['\n'].intercalate (b.splitOn '\n') = b := List.intercalate_splitOn '\n'
      rw [hpieces, List.intercalate_singleton] at hjoin
      rw [ofPieces, hjoin, if_neg hb] at hnil
      cases hnil

/-- Trimming stops at a character that is not blank, whatever is behind it. -/
theorem trimStart_append {c : Char} (hc : c ∈ a) (hsolid : isBlank c = false) (b : List Char) :
    trimStart (a ++ b) = trimStart a ++ b := by
  have hne : trimStart a ≠ [] := List.ne_nil_of_mem (mem_trimStart hsolid hc)
  unfold trimStart at hne ⊢
  rw [List.dropWhile_append, if_neg]
  simpa using hne

theorem trimEnd_append {c : Char} (hc : c ∈ b) (hsolid : isBlank c = false) (a : List Char) :
    trimEnd (a ++ b) = a ++ trimEnd b := by
  have hstart := trimStart_append (List.mem_reverse.2 hc) hsolid a.reverse
  unfold trimStart at hstart
  rw [trimEnd, List.reverse_append, hstart, List.reverse_append, List.reverse_reverse, trimEnd]

theorem mem_trimEnd {c : Char} (hc : c ∈ a) (hsolid : isBlank c = false) : c ∈ trimEnd a :=
  List.mem_reverse.2 (mem_trimStart hsolid (List.mem_reverse.2 hc))

end Text

namespace Record

/-- A text with two lines that are not blank has more than one line. -/
theorem hasManyLines_append {a b : List Char} (hline : '\n' ∉ a) {c d : Char} (hc : c ∈ a)
    (hsolid : Text.isBlank c = false) (hd : d ∈ b) (hsolid' : Text.isBlank d = false) :
    hasManyLines (a ++ '\n' :: b) = true := by
  -- Trimming stops in the first line at one end and behind it at the other: its line feed stays.
  have htrim : Text.trim (a ++ '\n' :: b) = Text.trimStart a ++ '\n' :: Text.trimEnd b := by
    rw [Text.trim, Text.trimStart_append hc hsolid, ← List.singleton_append, ← List.append_assoc,
      Text.trimEnd_append hd hsolid', List.append_assoc, List.singleton_append]
  have hstart : '\n' ∉ Text.trimStart a := fun h => hline ((Text.trimStart_isSuffix a).mem h)
  have hend : Text.lines (Text.trimEnd b) ≠ [] :=
    Text.lines_ne_nil (List.ne_nil_of_mem (Text.mem_trimEnd hd hsolid'))
  rw [hasManyLines, htrim, Text.lines_append hstart, List.length_cons, decide_eq_true_eq]
  exact Nat.succ_lt_succ (List.length_pos_iff.2 hend)

/-- A document on a line is a record. -/
theorem ofLinesFrom_cons {line : List Char} {j : Json} {depth : Nat} (hle : depth ≤ Json.maxDepth)
    (h : Json.readWithin depth line = .ok j) (n : Nat) (rest : List (List Char)) :
    ofLinesFrom n (line :: rest) = (ofLinesFrom (n + 1) rest).map (⟨n, j⟩ :: ·) := by
  obtain ⟨c, hc, hsolid⟩ := Json.exists_mem_document h
  have htrim : Text.trim line ≠ [] := List.ne_nil_of_mem (Text.mem_trim hsolid hc)
  have hread : Json.read line = .ok j := Json.readWithin_mono hle h
  rw [ofLinesFrom, if_neg htrim, hread]

/-- **Documents on lines** are read one by one. -/
theorem ofLinesFrom_documents {texts : List (List Char)} {docs : List Json} {depth : Nat}
    (hle : depth ≤ Json.maxDepth)
    (hdocs : List.Forall₂ (fun t j => Json.readWithin depth t = .ok j) texts docs) (n : Nat) :
    ofLinesFrom n (Text.ofPieces texts) = .ok (number n docs) := by
  induction hdocs generalizing n with
  | nil => rfl
  | @cons t j texts docs ht hdocs ih =>
    cases hdocs with
    | nil =>
      obtain ⟨c, hc, -⟩ := Json.exists_mem_document ht
      rw [Text.ofPieces, if_neg (List.ne_nil_of_mem hc), ofLinesFrom_cons hle ht]
      rfl
    | @cons t' j' texts docs ht' hdocs =>
      rw [Text.ofPieces_cons (List.cons_ne_nil _ _),
        ofLinesFrom_cons hle (Json.readWithin_dropCarriageReturn ht), ih]
      rfl

/-! ## Records -/

theorem map_index_number (n : Nat) (docs : List Json) :
    (number n docs).map Record.index = List.range' n docs.length := by
  induction docs generalizing n with
  | nil => rfl
  | cons j docs ih => rw [number, List.map_cons, ih, List.length_cons, List.range'_succ]

/-- Records that are numbered hold their documents. -/
theorem forall₂_number {R : List Char → Json → Prop} {texts : List (List Char)} {docs : List Json}
    (h : List.Forall₂ R texts docs) (n : Nat) :
    List.Forall₂ (fun t r => R t r.json) texts (number n docs) := by
  induction h generalizing n with
  | nil => exact .nil
  | cons ht _ ih => exact .cons ht (ih (n + 1))

/-- A source gives the records of its text, or the line of the fault in it. -/
theorem ofSourceText_eq (source : Source) (whole : Bool) (text : List Char) :
    ofSourceText source whole text =
      (ofText source.isLines source.isStandardInput whole text).mapError
        fun f => .malformed source.name f.line := by
  rw [ofSourceText, load]
  cases ofText source.isLines source.isStandardInput whole text <;> rfl

/-- Documents between commas are the records of an array. -/
theorem ofSourceText_array {texts : List (List Char)} {docs : List Json} {depth : Nat}
    (hlt : depth < Json.maxDepth)
    (hdocs : List.Forall₂ (fun t j => Json.readWithin depth t = .ok j) texts docs)
    (hne : texts ≠ []) {source : Source} (hsource : source.isLines = false) :
    ofSourceText source false ('[' :: [','].intercalate texts ++ [']']) = .ok (number 1 docs) := by
  have hread := Json.readWithin_mono hlt (Json.readWithin_array hdocs hne)
  rw [ofSourceText_eq, ofText, hsource, if_neg Bool.false_ne_true, Json.read, hread]
  rfl

/-- Documents on lines are the records of their text. -/
theorem ofLines_intercalate {texts : List (List Char)} {docs : List Json} {depth : Nat}
    (hle : depth ≤ Json.maxDepth)
    (hdocs : List.Forall₂ (fun t j => Json.readWithin depth t = .ok j) texts docs)
    (hlines : ∀ t ∈ texts, '\n' ∉ t) (hne : texts ≠ []) :
    ofLines (['\n'].intercalate texts) = .ok (number 1 docs) := by
  rw [ofLines, Text.lines, List.splitOn_intercalate '\n' hlines hne]
  exact ofLinesFrom_documents hle hdocs 1

/-- Documents on several lines of standard input are read as lines, after they have been refused as
one document. -/
theorem ofSourceText_standardInput {t t' : List Char} {j j' : Json} {texts : List (List Char)}
    {docs : List Json} {depth : Nat} (hle : depth ≤ Json.maxDepth)
    (ht : Json.readWithin depth t = .ok j) (ht' : Json.readWithin depth t' = .ok j')
    (hdocs : List.Forall₂ (fun t j => Json.readWithin depth t = .ok j) texts docs)
    (hlines : ∀ s ∈ t :: t' :: texts, '\n' ∉ s) (whole : Bool) :
    ofSourceText .standardInput whole (['\n'].intercalate (t :: t' :: texts)) =
      .ok (number 1 (j :: j' :: docs)) := by
  have hrecords := ofLines_intercalate hle (.cons ht (.cons ht' hdocs)) hlines
    (List.cons_ne_nil _ _)
  obtain ⟨line, herror⟩ := Json.read_intercalate ht hle ht' texts
  have hmany : hasManyLines (['\n'].intercalate (t :: t' :: texts)) = true := by
    obtain ⟨c, hc, hsolid⟩ := Json.exists_mem_document ht
    obtain ⟨d, r, hs, hd⟩ := Json.skipBlanks_intercalate ht' '\n' texts []
    rw [List.append_nil] at hs
    obtain ⟨d, hd, hsolid'⟩ := Json.exists_mem_of_skipBlanks hs hd
    rw [Json.intercalate_singleton_cons_cons]
    exact hasManyLines_append (hlines t List.mem_cons_self) hc hsolid hd hsolid'
  rw [ofSourceText_eq, ofText]
  simp only [Source.isLines, Source.isStandardInput, Bool.false_eq_true, ↓reduceIte, herror, hmany,
    Bool.and_self, hrecords]
  rfl

/-- Documents that can be read one by one. -/
theorem exists_documents {depth : Nat} {texts : List (List Char)}
    (h : ∀ t ∈ texts, ∃ j, Json.readWithin depth t = .ok j) :
    ∃ docs, List.Forall₂ (fun t j => Json.readWithin depth t = .ok j) texts docs := by
  induction texts with
  | nil => exact ⟨[], .nil⟩
  | cons t texts ih =>
    obtain ⟨j, ht⟩ := h t List.mem_cons_self
    obtain ⟨docs, hdocs⟩ := ih fun t' ht' => h t' (List.mem_cons_of_mem t ht')
    exact ⟨j :: docs, .cons ht hdocs⟩

/-- **The formats agree.** Two or more texts without line feeds are documents that are nested less
deep by one than documents may be. Then these give the same records: the texts between commas in an
array, as a file of the extension `json` that is not taken as a whole; the texts one to a line, as a
file of the extension `jsonl`; and the same lines on standard input, taken as a whole or not. The
records are numbered from one and hold what is read from the texts. -/
theorem ofSourceText_agree {texts : List (List Char)} (two : 2 ≤ texts.length)
    (hlines : ∀ t ∈ texts, '\n' ∉ t)
    (hvalid : ∀ t ∈ texts, ∃ j, Json.readWithin (Json.maxDepth - 1) t = .ok j)
    {path path' : List Char} (hpath : Path.hasExtension path "json" = true)
    (hpath' : Path.hasExtension path' "jsonl" = true) (content content' : Content)
    (whole whole' : Bool) :
    ∃ records : List Record,
      ofSourceText (.file path content) false ('[' :: [','].intercalate texts ++ [']']) =
          .ok records ∧
        ofSourceText (.file path' content') whole (['\n'].intercalate texts) = .ok records ∧
        ofSourceText .standardInput whole' (['\n'].intercalate texts) = .ok records ∧
        records.map Record.index = List.range' 1 texts.length ∧
        List.Forall₂ (fun t r => Json.read t = .ok r.json) texts records := by
  have hlt : Json.maxDepth - 1 < Json.maxDepth := by decide
  have hne : texts ≠ [] := List.ne_nil_of_length_pos (by omega)
  have hfile : (Source.file path content).isLines = false := by
    have hextension : Path.extension? path = some "json".toList := by
      simpa [Path.hasExtension] using hpath
    simp [Source.isLines, Path.hasExtension, hextension]
  have hfile' : (Source.file path' content').isLines = true := hpath'
  obtain ⟨docs, hdocs⟩ := exists_documents hvalid
  refine ⟨number 1 docs, ofSourceText_array hlt hdocs hne hfile, ?_, ?_, ?_, ?_⟩
  · rw [ofSourceText_eq, ofText, hfile', if_pos rfl, ofLines_intercalate hlt.le hdocs hlines hne]
    rfl
  · cases hdocs with
    | nil => exact absurd rfl hne
    | cons ht hrest =>
      cases hrest with
      | nil => exact absurd two (by simp)
      | cons ht' hrest => exact ofSourceText_standardInput hlt.le ht ht' hrest hlines whole'
  · rw [map_index_number, hdocs.length_eq]
  · exact forall₂_number (hdocs.imp fun t j ht => Json.readWithin_mono hlt.le ht) 1

/-- Documents with a carriage return at the end, with blanks in front, and with a comma and a
bracket inside a string. -/
def sampleTexts : List (List Char) :=
  ["\x7b\"a\": [1, -2]\x7d\r".toList, "\t null".toList, "\"],\"".toList]

theorem ofSourceText_sampleTexts :
    (2 ≤ sampleTexts.length ∧ (∀ t ∈ sampleTexts, '\n' ∉ t) ∧
      (∀ t ∈ sampleTexts, ∃ j, Json.readWithin (Json.maxDepth - 1) t = .ok j) ∧
      Path.hasExtension "a.json".toList "json" = true ∧
      Path.hasExtension "b/c.jsonl".toList "jsonl" = true) ∧
    ∃ records : List Record,
      ofSourceText (.file "a.json".toList ByteArray.empty) false
          ('[' :: [','].intercalate sampleTexts ++ [']']) = .ok records ∧
        ofSourceText (.file "b/c.jsonl".toList ByteArray.empty) true
          (['\n'].intercalate sampleTexts) = .ok records ∧
        ofSourceText .standardInput true (['\n'].intercalate sampleTexts) = .ok records ∧
        records.map Record.index = List.range' 1 sampleTexts.length ∧
        List.Forall₂ (fun t r => Json.read t = .ok r.json) sampleTexts records := by
  have two : 2 ≤ sampleTexts.length := by decide
  have hlines : ∀ t ∈ sampleTexts, '\n' ∉ t := by decide
  have hvalid : ∀ t ∈ sampleTexts, ∃ j, Json.readWithin (Json.maxDepth - 1) t = .ok j := by
    have hobject : Json.readWithin (Json.maxDepth - 1) "\x7b\"a\": [1, -2]\x7d\r".toList =
        .ok (.object [("a", .array [.number (.integer 1), .number (.integer (-2))])]) := rfl
    have hnull : Json.readWithin (Json.maxDepth - 1) "\t null".toList = .ok .null := rfl
    have hstring : Json.readWithin (Json.maxDepth - 1) "\"],\"".toList = .ok (.string "],") := rfl
    intro t ht
    simp only [sampleTexts, List.mem_cons, List.not_mem_nil, or_false] at ht
    rcases ht with rfl | rfl | rfl
    · exact ⟨_, hobject⟩
    · exact ⟨_, hnull⟩
    · exact ⟨_, hstring⟩
  have hpath : Path.hasExtension "a.json".toList "json" = true := by decide
  have hpath' : Path.hasExtension "b/c.jsonl".toList "jsonl" = true := by decide
  exact ⟨⟨two, hlines, hvalid, hpath, hpath'⟩,
    ofSourceText_agree two hlines hvalid hpath hpath' ByteArray.empty ByteArray.empty true true⟩

end Record

end Sift
