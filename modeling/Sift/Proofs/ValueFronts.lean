import Sift.Proofs.NumeralFronts

/-!
# Values in front of texts

Strings, arrays and objects are taken from the front of texts as numbers are, whatever follows.

**Fuel.** Strings, arrays and objects are read with as much fuel as the text is long. What they take
needs no more fuel than it is long itself.

**Depth.** A reader for a greater depth takes the same. So two readers are compared (`TakesSame`),
and a reader of arrays or objects takes the same as another if their readers of parts do.

**Main result.** Values are taken from the front of texts (`valueWithin_takes`).
-/

namespace Sift.Json

/-! ## Strings -/

variable {s rest u : List Char}

theorem hexUnit_takes {n : Nat} (h : hexUnit s = .ok (n, rest)) :
    ∃ front, s = front ++ rest ∧ ∀ u, hexUnit (front ++ u) = .ok (n, u) := by
  unfold hexUnit at h
  split at h
  · next a b c d r =>
    split at h
    · next ha hb hc hd =>
      cases h
      exact ⟨[a, b, c, d], rfl, fun u => by simp [hexUnit, ha, hb, hc, hd]⟩
    · cases h
  · cases h

theorem lowSurrogate_takes {high : Nat} {c : Char} (h : lowSurrogate high s = .ok (c, rest)) :
    ∃ front, s = front ++ rest ∧ ∀ u, lowSurrogate high (front ++ u) = .ok (c, u) := by
  unfold lowSurrogate at h
  split at h
  · next r =>
    cases hr : hexUnit r with
    | error r' =>
      rw [hr] at h
      cases h
    | ok low =>
      obtain ⟨low, r'⟩ := low
      rw [hr] at h
      obtain ⟨front, rfl, hreads⟩ := hexUnit_takes hr
      by_cases hlow : isLowSurrogate low = true
      · simp only [hlow, ↓reduceIte] at h
        obtain ⟨rfl, rfl⟩ := Prod.mk.inj (Except.ok.inj h)
        exact ⟨'\\' :: 'u' :: front, rfl, fun u => by simp [lowSurrogate, hreads, hlow]⟩
      · simp only [hlow, Bool.false_eq_true, ↓reduceIte] at h
        cases h
  · cases h
  · cases h

theorem unicodeEscape_takes {c : Char} (h : unicodeEscape s = .ok (c, rest)) :
    ∃ front, s = front ++ rest ∧ ∀ u, unicodeEscape (front ++ u) = .ok (c, u) := by
  unfold unicodeEscape at h
  cases hs : hexUnit s with
  | error r =>
    rw [hs] at h
    cases h
  | ok unit =>
    obtain ⟨n, r⟩ := unit
    rw [hs] at h
    obtain ⟨front, rfl, hreads⟩ := hexUnit_takes hs
    by_cases hlow : isLowSurrogate n = true
    · simp only [hlow, ↓reduceIte] at h
      cases h
    · by_cases hhigh : isHighSurrogate n = true
      · simp only [hlow, hhigh, Bool.false_eq_true, ↓reduceIte] at h
        obtain ⟨front', rfl, hreads'⟩ := lowSurrogate_takes h
        exact ⟨front ++ front', (List.append_assoc ..).symm, fun u => by
          simp [unicodeEscape, List.append_assoc, hreads, hlow, hhigh, hreads']⟩
      · simp only [hlow, hhigh, Bool.false_eq_true, ↓reduceIte] at h
        cases h
        exact ⟨front, rfl, fun u => by simp [unicodeEscape, hreads, hlow, hhigh]⟩

theorem escape_takes {c : Char} (h : escape s = .ok (c, rest)) :
    ∃ front, s = front ++ rest ∧ ∀ u, escape (front ++ u) = .ok (c, u) := by
  cases s with
  | nil => cases h
  | cons d r =>
    simp only [escape] at h
    split at h
    case h_9 =>
      obtain ⟨front, rfl, hreads⟩ := unicodeEscape_takes h
      exact ⟨'u' :: front, rfl, hreads⟩
    case h_10 => cases h
    all_goals
      obtain ⟨rfl, rfl⟩ := Prod.mk.inj (Except.ok.inj h)
      exact ⟨[_], rfl, fun u => rfl⟩

/-- A string is taken up to its closing quote, with fuel for each of its characters. -/
theorem stringBody_takes {fuel : Nat} {read : List Char} {t : String}
    (h : stringBody fuel read s = .ok (t, rest)) :
    ∃ front, front ≠ [] ∧ s = front ++ rest ∧ EndsSolid front ∧
      ∀ fuel' u, front.length ≤ fuel' → stringBody fuel' read (front ++ u) = .ok (t, u) := by
  induction fuel generalizing read s with
  | zero => cases h
  | succ fuel ih =>
    unfold stringBody at h
    split at h
    · cases h
    · cases h
      refine ⟨['"'], List.cons_ne_nil _ _, rfl, endsSolid_singleton rfl, fun fuel' u hle => ?_⟩
      obtain ⟨fuel', rfl⟩ := Nat.exists_eq_add_of_le' hle
      rfl
    · next r =>
      cases hr : escape r with
      | error r' =>
        rw [hr] at h
        cases h
      | ok escaped =>
        obtain ⟨c, r'⟩ := escaped
        rw [hr] at h
        obtain ⟨front, rfl, hescape⟩ := escape_takes hr
        obtain ⟨front', hne, rfl, hsolid, hreads⟩ := ih h
        refine ⟨'\\' :: front ++ front', List.cons_ne_nil _ _, by simp,
          hsolid.append_left hne _, fun fuel' u hle => ?_⟩
        rw [List.length_append, List.length_cons] at hle
        obtain ⟨fuel', rfl⟩ : ∃ k, fuel' = k + 1 := ⟨fuel' - 1, by omega⟩
        rw [List.append_assoc, List.cons_append, stringBody, hescape]
        exact hreads fuel' u (by omega)
    · next c r hquote hbackslash =>
      split_ifs at h with hcontrol
      obtain ⟨front, hne, rfl, hsolid, hreads⟩ := ih h
      refine ⟨c :: front, List.cons_ne_nil _ _, rfl, hsolid.append_left hne [c],
        fun fuel' u hle => ?_⟩
      rw [List.length_cons] at hle
      obtain ⟨fuel', rfl⟩ : ∃ k, fuel' = k + 1 := ⟨fuel' - 1, by omega⟩
      rw [List.cons_append, stringBody, if_neg hcontrol]
      · exact hreads fuel' u (by omega)
      · exact hquote
      · exact hbackslash

theorem quotedString_takes : TakesSame quotedString quotedString := by
  intro s t rest h
  obtain ⟨front, hne, rfl, hsolid, hreads⟩ := stringBody_takes h
  refine ⟨front, hne, rfl, hsolid, fun u _ => hreads _ u ?_⟩
  rw [List.length_append]
  omega

/-! ## Blanks -/

/-- What holds of the four blanks. -/
theorem of_isBlank {P : Char → Prop} (space : P ' ') (tab : P '\t') (lineFeed : P '\n')
    (carriageReturn : P '\r') {c : Char} (h : isBlank c = true) : P c := by
  simp only [isBlank, Bool.or_eq_true, decide_eq_true_eq] at h
  rcases h with ((rfl | rfl) | rfl) | rfl
  · exact space
  · exact tab
  · exact lineFeed
  · exact carriageReturn

/-- All characters are blanks. -/
def AllBlank (b : List Char) : Prop := ∀ c ∈ b, isBlank c = true

theorem skipBlanks_append {b : List Char} (hb : AllBlank b) (s : List Char) :
    skipBlanks (b ++ s) = skipBlanks s :=
  List.dropWhile_append_of_pos hb

theorem skipBlanks_cons {c : Char} (hc : isBlank c = false) (s : List Char) :
    skipBlanks (c :: s) = c :: s :=
  List.dropWhile_cons_of_neg (by simp [hc])

theorem skipBlanks_eq_nil : skipBlanks s = [] ↔ AllBlank s := by
  simp [skipBlanks, AllBlank]

/-- A text is blanks and a character that is none, unless there are only blanks. -/
theorem exists_blanks {c : Char} {r : List Char} (h : skipBlanks s = c :: r) :
    ∃ b, s = b ++ c :: r ∧ AllBlank b ∧ isBlank c = false := by
  refine ⟨s.takeWhile isBlank, ?_, fun _ hx => List.mem_takeWhile_imp hx, ?_⟩
  · rw [← h]
    exact List.takeWhile_append_dropWhile.symm
  · have hhead := List.head?_dropWhile_not isBlank s
    rw [← skipBlanks, h] at hhead
    exact hhead

/-- Blanks stop a number, and so does what they end in front of. -/
theorem StopsNumber.append_left (h : StopsNumber s) {b : List Char} (hb : AllBlank b) :
    StopsNumber (b ++ s) := by
  cases b with
  | nil => exact h
  | cons c b =>
    exact stopsNumber_cons (of_isBlank (P := fun c => continuesNumber c = false) rfl rfl rfl rfl
      (hb c List.mem_cons_self)) _

/-! ## Arrays and objects -/

section Parts

variable {α β : Type} {close : Char} {part part' : Reader α} {add : α → β → β}

theorem separator_append_close {b : List Char} (hb : AllBlank b) (hclose : isBlank close = false)
    (u : List Char) : separator close (b ++ close :: u) = .ok (false, u) := by
  rw [separator, skipBlanks_append hb, skipBlanks_cons hclose]
  exact if_pos rfl

theorem separator_append_comma {b : List Char} (hb : AllBlank b) (hcomma : ',' ≠ close) {d : Char}
    {r : List Char} (hu : skipBlanks u = d :: r) (hd : d ≠ close) :
    separator close (b ++ ',' :: u) = .ok (true, d :: r) := by
  rw [separator, skipBlanks_append hb, skipBlanks_cons rfl]
  simp only [hcomma, hu, hd, ↓reduceIte]

/-- Behind the last part stands the closing bracket. -/
theorem separator_close (h : separator close s = .ok (false, rest)) :
    ∃ b, s = b ++ close :: rest ∧ AllBlank b ∧ isBlank close = false := by
  unfold separator at h
  split at h
  · cases h
  · next c r hs =>
    by_cases hclose : c = close
    · rw [if_pos hclose] at h
      subst hclose
      cases h
      exact exists_blanks hs
    · rw [if_neg hclose] at h
      split_ifs at h
      split at h
      · cases h
      · split_ifs at h
        cases h

/-- Behind any other part stands a comma, which is taken up to the next part, whatever follows the
start of that part. -/
theorem separator_comma (h : separator close s = .ok (true, rest)) :
    ∃ b b' d r, AllBlank b ∧ s = b ++ ',' :: b' ++ rest ∧ rest = d :: r ∧
      ∀ u, separator close (b ++ ',' :: b' ++ d :: u) = .ok (true, d :: u) := by
  unfold separator at h
  split at h
  · cases h
  · next c r hs =>
    by_cases hclose : c = close
    · rw [if_pos hclose] at h
      cases h
    · rw [if_neg hclose] at h
      split_ifs at h with hcomma
      subst hcomma
      split at h
      · cases h
      · next d r' hr =>
        split_ifs at h with hd
        cases h
        obtain ⟨b, rfl, hb, -⟩ := exists_blanks hs
        obtain ⟨b', rfl, hb', hd'⟩ := exists_blanks hr
        refine ⟨b, b', d, r', hb, by simp, rfl, fun u => ?_⟩
        rw [List.append_assoc, List.cons_append]
        exact separator_append_comma hb hclose
          ((skipBlanks_append hb' _).trans (skipBlanks_cons hd' u)) hd

/-- Parts are read by reading the first one and then, behind a comma, the others. -/
theorem parts_eq_ok {fuel : Nat} {read y : β} :
    parts part close add (fuel + 1) read s = .ok (y, rest) ↔
      ∃ a r, part s = .ok (a, r) ∧
        (separator close r = .ok (false, rest) ∧ add a read = y ∨
          ∃ r', separator close r = .ok (true, r') ∧
            parts part close add fuel (add a read) r' = .ok (y, rest)) := by
  constructor
  · intro h
    unfold parts at h
    cases hs : part s with
    | error r =>
      rw [hs] at h
      cases h
    | ok first =>
      obtain ⟨a, r⟩ := first
      rw [hs] at h
      dsimp only at h
      refine ⟨a, r, rfl, ?_⟩
      cases hr : separator close r with
      | error r' =>
        rw [hr] at h
        cases h
      | ok next =>
        obtain ⟨more, r'⟩ := next
        rw [hr] at h
        cases more with
        | false =>
          cases h
          exact .inl ⟨rfl, rfl⟩
        | true => exact .inr ⟨r', rfl, h⟩
  · rintro ⟨a, r, hs, ⟨hr, rfl⟩ | ⟨r', hr, h⟩⟩
    · simp only [parts, hs, hr]
    · simp only [parts, hs, hr, h]

/-- **Parts** are taken up to the closing bracket, with fuel for each of their characters. -/
theorem parts_takes (hclose : continuesNumber close = false) (hpart : TakesSame part part')
    {fuel : Nat} {read y : β} (h : parts part close add fuel read s = .ok (y, rest)) :
    ∃ front, front ≠ [] ∧ s = front ++ rest ∧ EndsSolid front ∧
      ∀ fuel' u, front.length ≤ fuel' →
        parts part' close add fuel' read (front ++ u) = .ok (y, u) := by
  induction fuel generalizing read s with
  | zero => cases h
  | succ fuel ih =>
    obtain ⟨a, r, hs, hr⟩ := parts_eq_ok.1 h
    obtain ⟨front, -, rfl, -, hreads⟩ := hpart s a r hs
    rcases hr with ⟨hr, rfl⟩ | ⟨r', hr, hmore⟩
    · obtain ⟨b, rfl, hb, hsolid⟩ := separator_close hr
      refine ⟨front ++ b ++ [close], by simp, by simp,
        (endsSolid_singleton hsolid).append_left (List.cons_ne_nil _ _) _, fun fuel' u hle => ?_⟩
      obtain ⟨fuel', rfl⟩ : ∃ k, fuel' = k + 1 := by
        rw [List.length_append, List.length_singleton] at hle
        exact ⟨fuel' - 1, by omega⟩
      have hstops : StopsNumber (b ++ close :: u) := (stopsNumber_cons hclose u).append_left hb
      rw [List.append_assoc, List.append_assoc, List.singleton_append]
      exact parts_eq_ok.2
        ⟨a, _, hreads _ hstops, .inl ⟨separator_append_close hb hsolid u, rfl⟩⟩
    · -- The next part starts with the character that the separator stops at.
      obtain ⟨b, b', d, r'', hb, rfl, rfl, hseparator⟩ := separator_comma hr
      obtain ⟨front', hne', heq, hsolid, hparts⟩ := ih hmore
      obtain ⟨d, front', rfl⟩ := List.exists_cons_of_ne_nil hne'
      cases heq
      refine ⟨front ++ (b ++ ',' :: b' ++ d :: front'), by simp, by simp,
        (hsolid.append_left hne' _).append_left (by simp) _, fun fuel' u hle => ?_⟩
      obtain ⟨fuel', rfl⟩ : ∃ k, fuel' = k + 1 := by
        simp only [List.length_append, List.length_cons] at hle
        exact ⟨fuel' - 1, by omega⟩
      have hstops : StopsNumber (b ++ ',' :: b' ++ d :: (front' ++ u)) := by
        rw [List.append_assoc, List.cons_append]
        exact (stopsNumber_cons rfl _).append_left hb
      have hassoc : front ++ (b ++ ',' :: b' ++ d :: front') ++ u =
          front ++ (b ++ ',' :: b' ++ d :: (front' ++ u)) := by simp
      rw [hassoc]
      refine parts_eq_ok.2 ⟨a, _, hreads _ hstops, .inr ⟨_, hseparator _, hparts fuel' u ?_⟩⟩
      simp only [List.length_append, List.length_cons] at hle ⊢
      omega

/-- Behind an opening bracket everything is taken up to the closing one. -/
theorem partsBehind_takes (hclose : continuesNumber close = false) (hpart : TakesSame part part')
    (start : β) :
    TakesSame (partsBehind part close add start) (partsBehind part' close add start) := by
  intro s y rest h
  unfold partsBehind at h
  split at h
  · cases h
  · next c r hs =>
    obtain ⟨b, rfl, hb, hc⟩ := exists_blanks hs
    by_cases hcc : c = close
    · rw [if_pos hcc] at h
      subst hcc
      cases h
      refine ⟨b ++ [c], by simp, by simp,
        (endsSolid_singleton hc).append_left (List.cons_ne_nil _ _) b, fun u _ => ?_⟩
      rw [List.append_assoc, partsBehind, skipBlanks_append hb, List.singleton_append,
        skipBlanks_cons hc]
      exact if_pos rfl
    · rw [if_neg hcc] at h
      obtain ⟨front, hne, heq, hsolid, hparts⟩ := parts_takes hclose hpart h
      obtain ⟨c, front, rfl⟩ := List.exists_cons_of_ne_nil hne
      cases heq
      refine ⟨b ++ c :: front, by simp, by simp, hsolid.append_left hne b, fun u _ => ?_⟩
      rw [List.append_assoc, partsBehind, skipBlanks_append hb, List.cons_append,
        skipBlanks_cons hc]
      dsimp only
      rw [if_neg hcc]
      refine hparts _ u ?_
      simp only [List.length_append, List.length_cons]
      omega

end Parts

section Values

variable {value value' : Reader Json}

/-- An entry is a key, a colon and a value. -/
theorem entry_eq_ok {key : String} {j : Json} :
    entry value s = .ok ((key, j), rest) ↔
      ∃ r r' r'', s = '"' :: r ∧ quotedString r = .ok (key, r') ∧ skipBlanks r' = ':' :: r'' ∧
        value r'' = .ok (j, rest) := by
  constructor
  · intro h
    unfold entry at h
    split at h
    · next r =>
      cases hr : quotedString r with
      | error r' =>
        rw [hr] at h
        cases h
      | ok quoted =>
        obtain ⟨key', r'⟩ := quoted
        rw [hr] at h
        dsimp only at h
        split at h
        · next r'' hcolon =>
          cases hv : value r'' with
          | error r =>
            rw [hv] at h
            cases h
          | ok member =>
            rw [hv] at h
            cases h
            exact ⟨r, r', r'', rfl, hr, hcolon, hv⟩
        · cases h
    · cases h
  · rintro ⟨r, r', r'', rfl, hr, hcolon, hv⟩
    simp only [entry, hr, hcolon, hv]

variable (hvalue : TakesSame value value')

include hvalue

theorem arrayBody_takes : TakesSame (arrayBody value) (arrayBody value') := by
  have hparts :
      TakesSame (partsBehind value ']' List.cons []) (partsBehind value' ']' List.cons []) :=
    partsBehind_takes rfl hvalue []
  exact hparts.map fun items => Json.array items.reverse

theorem entry_takes : TakesSame (entry value) (entry value') := by
  rintro s ⟨key, j⟩ rest h
  obtain ⟨r, r', r'', rfl, hr, hcolon, hv⟩ := entry_eq_ok.1 h
  obtain ⟨front, -, rfl, -, hquoted⟩ := quotedString_takes _ _ _ hr
  obtain ⟨b, rfl, hb, hc⟩ := exists_blanks hcolon
  obtain ⟨front', hne, rfl, hsolid, hreads⟩ := hvalue _ _ _ hv
  refine ⟨'"' :: front ++ b ++ ':' :: front', List.cons_ne_nil _ _, by simp,
    (hsolid.append_left hne [':']).append_left (List.cons_ne_nil _ _) _, fun u hu => ?_⟩
  have hstops : StopsNumber (b ++ ':' :: (front' ++ u)) := (stopsNumber_cons rfl _).append_left hb
  have hcolon : skipBlanks (b ++ ':' :: (front' ++ u)) = ':' :: (front' ++ u) := by
    rw [skipBlanks_append hb, skipBlanks_cons hc]
  exact entry_eq_ok.2 ⟨front ++ (b ++ ':' :: (front' ++ u)), _, _, by simp,
    hquoted _ hstops, hcolon, hreads u hu⟩

theorem objectBody_takes : TakesSame (objectBody value) (objectBody value') :=
  (partsBehind_takes rfl (entry_takes hvalue) []).map Json.object

end Values

/-! ## Values -/

theorem word_takes {json j : Json} {ws : List Char} (h : word json ws s = .ok (j, rest)) :
    s = ws ++ rest ∧ ∀ u, word json ws (ws ++ u) = .ok (j, u) := by
  induction ws generalizing s with
  | nil =>
    cases h
    exact ⟨rfl, fun u => rfl⟩
  | cons w ws ih =>
    cases s with
    | nil => cases h
    | cons c r =>
      simp only [word] at h
      split_ifs at h with hc
      obtain ⟨rfl, hreads⟩ := ih h
      subst hc
      refine ⟨rfl, fun u => ?_⟩
      rw [List.cons_append, word, if_pos rfl]
      exact hreads u

/-- Blanks in front of a value do not matter. -/
theorem valueWithin_append {b : List Char} (hb : AllBlank b) (depth : Nat) (s : List Char) :
    valueWithin (depth + 1) (b ++ s) = valueWithin (depth + 1) s := by
  rw [valueWithin, valueWithin, skipBlanks_append hb]

theorem valueWithin_array {depth : Nat} (hdepth : depth ≠ 0) (r : List Char) :
    valueWithin (depth + 1) ('[' :: r) = arrayBody (valueWithin depth) r :=
  if_neg hdepth

theorem valueWithin_object {depth : Nat} (hdepth : depth ≠ 0) (r : List Char) :
    valueWithin (depth + 1) ('\x7b' :: r) = objectBody (valueWithin depth) r :=
  if_neg hdepth

theorem valueWithin_quote (depth : Nat) (r : List Char) :
    valueWithin (depth + 1) ('"' :: r) =
      (quotedString r).map fun (t, rest) => (.string t, rest) := by
  rw [valueWithin, skipBlanks_cons rfl]
  dsimp only
  cases quotedString r with
  | error rest => rfl
  | ok quoted => rfl

theorem valueWithin_minus (depth : Nat) (r : List Char) :
    valueWithin (depth + 1) ('-' :: r) =
      (Numeral.read true r).map fun (n, rest) => (.number n, rest) :=
  rfl

theorem valueWithin_of_isDigit {c : Char} (hc : c.isDigit = true) (depth : Nat) (r : List Char) :
    valueWithin (depth + 1) (c :: r) =
      (Numeral.read false (c :: r)).map fun (n, rest) => (.number n, rest) := by
  rw [valueWithin, skipBlanks_cons (isBlank_of_isDigit hc)]
  dsimp only
  split
  case h_8 => rw [if_pos hc]
  all_goals cases hc

/-- **Values** are taken from the front of texts, and a reader for a greater depth takes the
same. -/
theorem valueWithin_takes {depth depth' : Nat} (hle : depth ≤ depth') :
    TakesSame (valueWithin depth) (valueWithin depth') := by
  induction depth generalizing depth' with
  | zero =>
    intro s j rest h
    cases h
  | succ depth ih =>
    intro s j rest h
    obtain ⟨depth', rfl⟩ : ∃ k, depth' = k + 1 := ⟨depth' - 1, by omega⟩
    have hle : depth ≤ depth' := Nat.le_of_succ_le_succ hle
    rw [valueWithin] at h
    split at h
    · cases h
    · next c r hs =>
      obtain ⟨b, rfl, hb, hc⟩ := exists_blanks hs
      -- Blanks in front are taken along, so the cases are about the character behind them.
      suffices hfront : ∃ front, front ≠ [] ∧
          Takes (valueWithin (depth' + 1)) front (c :: r) j rest by
        obtain ⟨front, hne, heq, hsolid, hreads⟩ := hfront
        refine ⟨b ++ front, List.append_ne_nil_of_right_ne_nil b hne, ?_,
          hsolid.append_left hne b, fun u hu => ?_⟩
        · rw [heq, List.append_assoc]
        · rw [List.append_assoc, valueWithin_append hb]
          exact hreads u hu
      split at h
      · obtain ⟨rfl, hreads⟩ := word_takes h
        exact ⟨['n', 'u', 'l', 'l'], by decide, rfl, by rintro d ⟨⟩; rfl, fun u _ => hreads u⟩
      · obtain ⟨rfl, hreads⟩ := word_takes h
        exact ⟨['t', 'r', 'u', 'e'], by decide, rfl, by rintro d ⟨⟩; rfl, fun u _ => hreads u⟩
      · obtain ⟨rfl, hreads⟩ := word_takes h
        exact ⟨['f', 'a', 'l', 's', 'e'], by decide, rfl, by rintro d ⟨⟩; rfl,
          fun u _ => hreads u⟩
      · cases hr : quotedString r with
        | error r' =>
          rw [hr] at h
          cases h
        | ok quoted =>
          obtain ⟨t, r'⟩ := quoted
          rw [hr] at h
          cases h
          obtain ⟨body, hne, htakes⟩ := quotedString_takes _ _ _ hr
          exact ⟨'"' :: body, List.cons_ne_nil _ _,
            (htakes.map Json.string).cons hne (valueWithin_quote depth')⟩
      · split_ifs at h with hdepth
        obtain ⟨body, hne, htakes⟩ := arrayBody_takes (ih hle) _ _ _ h
        exact ⟨'[' :: body, List.cons_ne_nil _ _, htakes.cons hne (valueWithin_array (by omega))⟩
      · split_ifs at h with hdepth
        obtain ⟨body, hne, htakes⟩ := objectBody_takes (ih hle) _ _ _ h
        exact ⟨'\x7b' :: body, List.cons_ne_nil _ _,
          htakes.cons hne (valueWithin_object (by omega))⟩
      · obtain ⟨body, hne, htakes⟩ := (Numeral.read_takes true).map Json.number _ _ _ h
        exact ⟨'-' :: body, List.cons_ne_nil _ _, htakes.cons hne (valueWithin_minus depth')⟩
      · split_ifs at h with hdigit
        obtain ⟨body, hne, heq, hsolid, hreads⟩ :=
          (Numeral.read_takes false).map Json.number _ _ _ h
        refine ⟨body, hne, heq, hsolid, fun u hu => ?_⟩
        obtain ⟨d, body, rfl⟩ := List.exists_cons_of_ne_nil hne
        obtain ⟨rfl, -⟩ := List.cons.inj heq
        rw [List.cons_append, valueWithin_of_isDigit hdigit]
        exact hreads u hu

end Sift.Json
