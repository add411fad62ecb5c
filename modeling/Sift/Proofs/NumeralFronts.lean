import Sift.Json.Numeral
import Sift.Json.Reader
import Sift.Proofs.Phrases

/-!
# What a reader of JSON takes

A reader of JSON takes a part in front of the text. It looks at nothing behind that part, except
that a number has to end there; and it would take the same part whatever else followed that cannot
go on with a number (`Takes`).

**Numbers.** What is read of digits depends on them alone (`accumulate_append`), also where there
are more of them than are added up. So each piece of a number is taken up to what stops it, and with
the pieces the number (`Numeral.read_takes`).
-/

namespace Sift.Json

/-! ## Fronts of texts -/

/-- A number could go on with the character. -/
def continuesNumber (c : Char) : Bool := c.isDigit || c = '.' || c = 'e' || c = 'E'

/-- Nothing that a number could go on with follows. -/
def StopsNumber (u : List Char) : Prop := ∀ c ∈ u.head?, continuesNumber c = false

/-- The text does not end with a blank. -/
def EndsSolid (front : List Char) : Prop := ∀ c ∈ front.getLast?, isBlank c = false

/-- From the text `s` the reader takes `front` to make `a` of it, whatever follows that cannot go on
with a number. -/
structure Takes {α : Type} (read : Reader α) (front : List Char) (s : List Char) (a : α)
    (rest : List Char) : Prop where
  eq : s = front ++ rest
  solid : EndsSolid front
  reads : ∀ u, StopsNumber u → read (front ++ u) = .ok (a, u)

/-- What the first reader takes, the second one takes from the front of the text. -/
def TakesSame {α : Type} (read read' : Reader α) : Prop :=
  ∀ s a rest, read s = .ok (a, rest) → ∃ front, front ≠ [] ∧ Takes read' front s a rest

theorem continuesNumber_eq_false {c : Char} :
    continuesNumber c = false ↔ c.isDigit = false ∧ c ≠ '.' ∧ c ≠ 'e' ∧ c ≠ 'E' := by
  simp [continuesNumber, and_assoc]

theorem stopsNumber_nil : StopsNumber [] := by
  intro c hc
  cases hc

theorem stopsNumber_cons {c : Char} (hc : continuesNumber c = false) (s : List Char) :
    StopsNumber (c :: s) := by
  rintro d ⟨⟩
  exact hc

theorem endsSolid_nil : EndsSolid [] := by
  intro c hc
  cases hc

theorem endsSolid_singleton {c : Char} (h : isBlank c = false) : EndsSolid [c] := by
  rintro d ⟨⟩
  exact h

theorem EndsSolid.append {a b : List Char} (ha : EndsSolid a) (hb : EndsSolid b) :
    EndsSolid (a ++ b) := by
  intro c hc
  rw [List.getLast?_append] at hc
  cases h : b.getLast? with
  | none => exact ha c (by rwa [h, Option.none_or] at hc)
  | some d => exact hb c (by rw [h] at hc ⊢; exact hc)

theorem EndsSolid.append_left {b : List Char} (hb : EndsSolid b) (hne : b ≠ []) (a : List Char) :
    EndsSolid (a ++ b) := by
  intro c hc
  rw [List.getLast?_append, List.getLast?_eq_some_getLast hne] at hc
  exact hb c (by rw [List.getLast?_eq_some_getLast hne]; exact hc)

theorem isBlank_of_isDigit {c : Char} (h : c.isDigit = true) : isBlank c = false := by
  simp only [isBlank, Bool.or_eq_false_iff, decide_eq_false_iff_not]
  refine ⟨⟨⟨?_, ?_⟩, ?_⟩, ?_⟩ <;>
  · rintro rfl
    cases h

theorem endsSolid_of_digits {ds : List Char} (h : ∀ c ∈ ds, c.isDigit = true) : EndsSolid ds :=
  fun c hc => isBlank_of_isDigit (h c (List.mem_of_mem_getLast? hc))

section Takes

variable {α β : Type} {read read' : Reader α} {front s rest : List Char} {a : α}

/-- A reader that looks at a character and goes on with another reader takes the character, too. -/
theorem Takes.cons (h : Takes read front s a rest) (hne : front ≠ []) {c : Char}
    (hread : ∀ u, read' (c :: u) = read u) : Takes read' (c :: front) (c :: s) a rest := by
  refine ⟨congrArg (c :: ·) h.eq, h.solid.append_left hne [c], fun u hu => ?_⟩
  rw [List.cons_append, hread]
  exact h.reads u hu

theorem Takes.map (h : Takes read front s a rest) (f : α → β) :
    Takes (fun s => (read s).map fun (a, rest) => (f a, rest)) front s (f a) rest :=
  ⟨h.eq, h.solid, fun u hu => by rw [h.reads u hu]; rfl⟩

theorem exists_of_map_eq_ok {ε α β : Type} {x : Except ε α} {f : α → β} {b : β}
    (h : x.map f = .ok b) : ∃ a, x = .ok a ∧ f a = b := by
  cases x with
  | error e => cases h
  | ok a => exact ⟨a, rfl, Except.ok.inj h⟩

theorem TakesSame.map (h : TakesSame read read') (f : α → β) :
    TakesSame (fun s => (read s).map fun (a, rest) => (f a, rest))
      (fun s => (read' s).map fun (a, rest) => (f a, rest)) := by
  intro s b rest hs
  obtain ⟨⟨a, r⟩, hr, heq⟩ := exists_of_map_eq_ok hs
  cases heq
  obtain ⟨front, hne, htakes⟩ := h s a rest hr
  exact ⟨front, hne, htakes.map f⟩

end Takes

/-! ## Numbers -/

namespace Numeral

variable {negative negativeExponent : Bool} {significand tail : Nat} {exponent : Int}
  {ds s u rest : List Char} {n : Numeral}

/-- No digit follows. -/
def StopsDigits (u : List Char) : Prop := ∀ c ∈ u.head?, c.isDigit = false

theorem stopsDigits_of_stopsNumber (h : StopsNumber u) : StopsDigits u :=
  fun c hc => (continuesNumber_eq_false.1 (h c hc)).1

theorem stopsDigits_dropWhile (s : List Char) : StopsDigits (s.dropWhile Char.isDigit) := by
  intro c hc
  have h := List.head?_dropWhile_not Char.isDigit s
  rw [hc] at h
  exact h

/-- A text is digits and what stops them. -/
theorem exists_digits (s : List Char) :
    ∃ ds u, s = ds ++ u ∧ (∀ c ∈ ds, c.isDigit = true) ∧ StopsDigits u :=
  ⟨s.takeWhile Char.isDigit, s.dropWhile Char.isDigit, List.takeWhile_append_dropWhile.symm,
    fun _ hc => List.mem_takeWhile_imp hc, stopsDigits_dropWhile s⟩

/-- What stops digits in front of a text stops them if another text follows. -/
theorem StopsDigits.append {front v : List Char} (h : StopsDigits (front ++ rest))
    (hv : StopsDigits v) : StopsDigits (front ++ v) := by
  cases front with
  | nil => exact hv
  | cons c front => exact h

theorem startsWithDigit_eq_false : startsWithDigit u = false ↔ StopsDigits u := by
  cases u with
  | nil => simp [startsWithDigit, StopsDigits]
  | cons c u => simp [startsWithDigit, StopsDigits]

theorem startsWithDigit_append (hds : ∀ c ∈ ds, c.isDigit = true) (hu : StopsDigits u) :
    startsWithDigit (ds ++ u) = !ds.isEmpty := by
  cases ds with
  | cons d ds => exact hds d List.mem_cons_self
  | nil =>
    cases u with
    | nil => rfl
    | cons c u => exact hu c rfl

theorem dropWhile_append (hds : ∀ c ∈ ds, c.isDigit = true) (hu : StopsDigits u) :
    (ds ++ u).dropWhile Char.isDigit = u := by
  rw [List.dropWhile_append_of_pos hds, Grammar.dropWhile_eq_self hu]

theorem takeWhile_append (hds : ∀ c ∈ ds, c.isDigit = true) (hu : StopsDigits u) :
    (ds ++ u).takeWhile Char.isDigit = ds := by
  rw [List.takeWhile_append_of_pos hds, Grammar.takeWhile_eq_nil hu, List.append_nil]

/-- The digits that are added up are the same whatever stops them. -/
theorem accumulate_append (limit value count : Nat) (hds : ∀ c ∈ ds, c.isDigit = true)
    (hu : StopsDigits u) :
    accumulate limit value count (ds ++ u) =
      ((accumulate limit value count ds).1, (accumulate limit value count ds).2.1,
        (accumulate limit value count ds).2.2 ++ u) := by
  induction ds generalizing value count with
  | nil =>
    cases u with
    | nil => rfl
    | cons c u =>
      have hc : c.isDigit = false := hu c rfl
      simp [accumulate, hc]
  | cons d ds ih =>
    have hd : d.isDigit = true := hds d List.mem_cons_self
    have hrest : ∀ c ∈ ds, c.isDigit = true := fun c hc => hds c (List.mem_cons_of_mem d hc)
    simp only [List.cons_append, accumulate, hd, ↓reduceIte]
    split_ifs
    · rfl
    · exact ih _ _ hrest

/-- What is not added up is a part of the digits. -/
theorem isDigit_of_mem_accumulate (limit value count : Nat) (hds : ∀ c ∈ ds, c.isDigit = true) :
    ∀ c ∈ (accumulate limit value count ds).2.2, c.isDigit = true := by
  induction ds generalizing value count with
  | nil => exact hds
  | cons d ds ih =>
    have hd : d.isDigit = true := hds d List.mem_cons_self
    simp only [accumulate, hd, ↓reduceIte]
    split_ifs
    · exact hds
    · exact ih _ _ fun c hc => hds c (List.mem_cons_of_mem d hc)

theorem ofParts_eq_ok (h : ofParts negative significand exponent s = .ok (n, rest)) :
    rest = s ∧ ∀ u, ofParts negative significand exponent u = .ok (n, u) := by
  unfold ofParts at h ⊢
  cases hm : scale 5 (Number.Format.binary64.round significand 1) exponent with
  | none =>
    rw [hm] at h
    cases h
  | some m =>
    rw [hm] at h
    cases h
    exact ⟨rfl, fun u => rfl⟩

/-- What is read of an exponent behind its sign depends on its digits alone. -/
theorem exponentDigits_append (hne : ds ≠ []) (hds : ∀ c ∈ ds, c.isDigit = true)
    (hu : StopsDigits u) :
    exponentDigits negative significand exponent negativeExponent (ds ++ u) =
      if (accumulate maxExponent 0 0 ds).2.2 ≠ [] then
        if significand ≠ 0 ∧ !negativeExponent then
          .error (((accumulate maxExponent 0 0 ds).2.2 ++ u).drop 1)
        else .ok (.float (Number.ofMagnitude negative 0), u)
      else
        ofParts negative significand
          (if negativeExponent then exponent - (accumulate maxExponent 0 0 ds).1
            else exponent + (accumulate maxExponent 0 0 ds).1) u := by
  obtain ⟨d, ds', rfl⟩ := List.exists_cons_of_ne_nil hne
  have hd : d.isDigit = true := hds d List.mem_cons_self
  have hleft := isDigit_of_mem_accumulate maxExponent 0 0 hds
  simp only [exponentDigits, List.cons_append, hd, Bool.not_true, Bool.false_eq_true, ↓reduceIte]
  rw [← List.cons_append, accumulate_append maxExponent 0 0 hds hu]
  simp only [startsWithDigit_append hleft hu, dropWhile_append hleft hu]
  by_cases hnil : (accumulate maxExponent 0 0 (d :: ds')).2.2 = []
  · simp [hnil]
  · simp [hnil]

theorem exponentDigits_takes
    (h : exponentDigits negative significand exponent negativeExponent s = .ok (n, rest)) :
    ∃ front, front ≠ [] ∧
      Takes (exponentDigits negative significand exponent negativeExponent) front s n rest := by
  obtain ⟨ds, u, rfl, hds, hu⟩ := exists_digits s
  have hne : ds ≠ [] := by
    rintro rfl
    cases u with
    | nil => cases h
    | cons c u =>
      have hc : c.isDigit = false := hu c rfl
      simp [exponentDigits, hc] at h
  rw [exponentDigits_append hne hds hu] at h
  by_cases hleft : (accumulate maxExponent 0 0 ds).2.2 ≠ []
  · rw [if_pos hleft] at h
    split_ifs at h with hzero
    cases h
    refine ⟨ds, hne, rfl, endsSolid_of_digits hds, fun v hv => ?_⟩
    rw [exponentDigits_append hne hds (stopsDigits_of_stopsNumber hv), if_pos hleft, if_neg hzero]
  · rw [if_neg hleft] at h
    obtain ⟨rfl, hparts⟩ := ofParts_eq_ok h
    refine ⟨ds, hne, rfl, endsSolid_of_digits hds, fun v hv => ?_⟩
    rw [exponentDigits_append hne hds (stopsDigits_of_stopsNumber hv), if_neg hleft]
    exact hparts v

theorem exponentPart_takes (h : exponentPart negative significand exponent s = .ok (n, rest)) :
    ∃ front, front ≠ [] ∧ Takes (exponentPart negative significand exponent) front s n rest := by
  unfold exponentPart at h
  split at h
  · obtain ⟨front, hne, htakes⟩ := exponentDigits_takes h
    exact ⟨'+' :: front, List.cons_ne_nil _ _, htakes.cons hne fun _ => rfl⟩
  · obtain ⟨front, hne, htakes⟩ := exponentDigits_takes h
    exact ⟨'-' :: front, List.cons_ne_nil _ _, htakes.cons hne fun _ => rfl⟩
  · next hplus hminus =>
    obtain ⟨front, hne, rfl, hsolid, hreads⟩ := exponentDigits_takes h
    refine ⟨front, hne, rfl, hsolid, fun u hu => ?_⟩
    obtain ⟨c, front, rfl⟩ := List.exists_cons_of_ne_nil hne
    rw [← hreads u hu, exponentPart]
    · rintro r ⟨⟩
      exact hplus _ rfl
    · rintro r ⟨⟩
      exact hminus _ rfl

/-- Behind what stops a number there is no exponent. -/
theorem afterFraction_of_stopsNumber (hu : StopsNumber u) :
    afterFraction negative significand exponent u = ofParts negative significand exponent u := by
  cases u with
  | nil => rfl
  | cons c u =>
    obtain ⟨-, -, he, hE⟩ := continuesNumber_eq_false.1 (hu c rfl)
    simp [afterFraction, he, hE]

theorem afterFraction_takes (h : afterFraction negative significand exponent s = .ok (n, rest)) :
    ∃ front, Takes (afterFraction negative significand exponent) front s n rest := by
  have hparts (h : ofParts negative significand exponent s = .ok (n, rest)) :
      ∃ front, Takes (afterFraction negative significand exponent) front s n rest := by
    obtain ⟨rfl, hgo⟩ := ofParts_eq_ok h
    refine ⟨[], rfl, endsSolid_nil, fun u hu => ?_⟩
    rw [List.nil_append, afterFraction_of_stopsNumber hu]
    exact hgo u
  cases s with
  | nil => exact hparts h
  | cons c r =>
    simp only [afterFraction] at h
    split_ifs at h with hc
    · obtain ⟨front, hne, htakes⟩ := exponentPart_takes h
      exact ⟨c :: front, htakes.cons hne fun _ => if_pos hc⟩
    · exact hparts h

/-- What is read of a fraction depends on its digits and on what follows them. -/
theorem fractionPart_append (hds : ∀ c ∈ ds, c.isDigit = true) (hu : StopsDigits u) :
    fractionPart negative significand exponent (ds ++ u) =
      if (accumulate maxSignificand significand 0 ds).2.2 = [] ∧
          (accumulate maxSignificand significand 0 ds).2.1 = 0 then .error (u.drop 1)
      else
        afterFraction negative (accumulate maxSignificand significand 0 ds).1
          (exponent - (accumulate maxSignificand significand 0 ds).2.1) u := by
  have hleft := isDigit_of_mem_accumulate maxSignificand significand 0 hds
  simp only [fractionPart]
  rw [accumulate_append maxSignificand significand 0 hds hu]
  simp only [startsWithDigit_append hleft hu, dropWhile_append hleft hu]
  by_cases hnil : (accumulate maxSignificand significand 0 ds).2.2 = []
  · simp [hnil]
  · simp [hnil]

theorem fractionPart_takes (h : fractionPart negative significand exponent s = .ok (n, rest)) :
    ∃ front, front ≠ [] ∧ Takes (fractionPart negative significand exponent) front s n rest := by
  obtain ⟨ds, u, rfl, hds, hu⟩ := exists_digits s
  rw [fractionPart_append hds hu] at h
  split_ifs at h with hnone
  obtain ⟨front, rfl, hsolid, hreads⟩ := afterFraction_takes h
  have hne : ds ≠ [] := by
    rintro rfl
    exact hnone ⟨rfl, rfl⟩
  refine ⟨ds ++ front, List.append_ne_nil_of_left_ne_nil hne front, (List.append_assoc ..).symm,
    (endsSolid_of_digits hds).append hsolid, fun v hv => ?_⟩
  rw [List.append_assoc, fractionPart_append hds (hu.append (stopsDigits_of_stopsNumber hv)),
    if_neg hnone]
  exact hreads v hv

/-- Behind what stops a number there is neither a fraction nor an exponent. -/
theorem afterWhole_of_stopsNumber (hu : StopsNumber u) :
    afterWhole negative significand tail u =
      if tail = 0 then .ok (ofInteger negative significand, u)
      else ofParts negative significand tail u := by
  cases u with
  | nil => rfl
  | cons c u =>
    obtain ⟨-, hpoint, he, hE⟩ := continuesNumber_eq_false.1 (hu c rfl)
    rw [afterWhole, if_neg (not_or.2 ⟨he, hE⟩)]
    exact hpoint

theorem afterWhole_takes (h : afterWhole negative significand tail s = .ok (n, rest)) :
    ∃ front, Takes (afterWhole negative significand tail) front s n rest := by
  have hstops (h : (if tail = 0 then .ok (ofInteger negative significand, s)
      else ofParts negative significand tail s : Outcome Numeral) = .ok (n, rest)) :
      ∃ front, Takes (afterWhole negative significand tail) front s n rest := by
    split_ifs at h with htail
    · cases h
      refine ⟨[], rfl, endsSolid_nil, fun u hu => ?_⟩
      rw [List.nil_append, afterWhole_of_stopsNumber hu, if_pos htail]
    · obtain ⟨rfl, hparts⟩ := ofParts_eq_ok h
      refine ⟨[], rfl, endsSolid_nil, fun u hu => ?_⟩
      rw [List.nil_append, afterWhole_of_stopsNumber hu, if_neg htail]
      exact hparts u
  unfold afterWhole at h
  split at h
  · obtain ⟨front, hne, htakes⟩ := fractionPart_takes h
    exact ⟨'.' :: front, htakes.cons hne fun _ => rfl⟩
  · next c r hpoint =>
    by_cases hc : c = 'e' ∨ c = 'E'
    · rw [if_pos hc] at h
      obtain ⟨front, hne, htakes⟩ := exponentPart_takes h
      refine ⟨c :: front, htakes.cons hne fun u => ?_⟩
      rcases hc with rfl | rfl <;> rfl
    · rw [if_neg hc] at h
      exact hstops h
  · exact hstops h

/-- What is read of a number that does not start with a zero depends on its digits and on what
follows them. -/
theorem read_append {d : Char} (hd : d.isDigit = true) (hzero : d ≠ '0')
    (hds : ∀ c ∈ ds, c.isDigit = true) (hu : StopsDigits u) :
    read negative (d :: ds ++ u) =
      afterWhole negative (accumulate maxSignificand 0 0 (d :: ds)).1
        (accumulate maxSignificand 0 0 (d :: ds)).2.2.length u := by
  have hall : ∀ c ∈ d :: ds, c.isDigit = true := List.forall_mem_cons.2 ⟨hd, hds⟩
  have hleft := isDigit_of_mem_accumulate maxSignificand 0 0 hall
  simp only [read, List.cons_append, hd, hzero, Bool.not_true, Bool.false_eq_true, ↓reduceIte]
  rw [← List.cons_append, accumulate_append maxSignificand 0 0 hall hu]
  simp only [dropWhile_append hleft hu, takeWhile_append hleft hu]

/-- **Numbers** are taken from the front of texts. -/
theorem read_takes (negative : Bool) : TakesSame (read negative) (read negative) := by
  intro s n rest h
  obtain ⟨ds, u, rfl, hds, hu⟩ := exists_digits s
  cases ds with
  | nil =>
    cases u with
    | nil => cases h
    | cons c u =>
      have hc : c.isDigit = false := hu c rfl
      simp [read, hc] at h
  | cons d ds =>
    have hd : d.isDigit = true := hds d List.mem_cons_self
    by_cases hzero : d = '0'
    · subst hzero
      simp only [read, List.cons_append, hd, Bool.not_true, Bool.false_eq_true, ↓reduceIte] at h
      split_ifs at h with hstarts
      rw [Bool.not_eq_true] at hstarts
      obtain ⟨front, heq, hsolid, hreads⟩ := afterWhole_takes h
      -- No digit may follow the zero. If nothing is taken behind it, this is a fact about the rest.
      rw [heq, startsWithDigit_eq_false] at hstarts
      refine ⟨'0' :: front, List.cons_ne_nil _ _, congrArg ('0' :: ·) heq,
        (endsSolid_singleton rfl).append hsolid, fun v hv => ?_⟩
      have hstops := hstarts.append (stopsDigits_of_stopsNumber hv)
      simp only [read, List.cons_append, hd, Bool.not_true, Bool.false_eq_true, ↓reduceIte,
        startsWithDigit_eq_false.2 hstops]
      exact hreads v hv
    · have hrest : ∀ c ∈ ds, c.isDigit = true := (List.forall_mem_cons.1 hds).2
      rw [read_append hd hzero hrest hu] at h
      obtain ⟨front, rfl, hsolid, hreads⟩ := afterWhole_takes h
      refine ⟨d :: ds ++ front, List.cons_ne_nil _ _, (List.append_assoc ..).symm,
        (endsSolid_of_digits hds).append hsolid, fun v hv => ?_⟩
      rw [List.append_assoc,
        read_append hd hzero hrest (hu.append (stopsDigits_of_stopsNumber hv))]
      exact hreads v hv

end Numeral

end Sift.Json
