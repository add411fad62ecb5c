import Sift.Proofs.Phrases

/-!
# The language of numbers

A number is an optional minus, digits, and digits behind a point if there are any. It goes on as
long as it can: what is read ends where no digit and no point with a digit behind it follows.

**Main results.** The reader of numbers reads this language (`readBy_numberLanguage`), and makes of
a number what the general reader of decimal texts makes of it (`ofText?_text`).
-/

namespace Sift.Grammar

/-- The parts of a number: a minus, digits, and digits behind a point. -/
@[ext] structure NumberPhrase where
  negative : Bool
  whole : Run Char.isDigit
  fraction : Option (Run Char.isDigit)

namespace NumberPhrase

/-- The text behind the sign. -/
def unsignedText (n : NumberPhrase) : List Char :=
  n.whole.chars ++ n.fraction.elim [] fun f => '.' :: f.chars

def text (n : NumberPhrase) : List Char := (if n.negative then ['-'] else []) ++ n.unsignedText

/-- The number that the digits stand for. -/
def value (n : NumberPhrase) : Number :=
  Number.ofDigits n.negative n.whole.chars (n.fraction.elim [] Run.chars)

end NumberPhrase

/-- The language of numbers. -/
def numberLanguage : Language Number where
  Phrase := NumberPhrase
  Core := NumberPhrase
  text := NumberPhrase.text
  core := id
  meaning := NumberPhrase.value

theorem ne_of_isDigit {c d : Char} (hc : c.isDigit = true) (hd : d.isDigit = false) : c ≠ d := by
  rintro rfl
  rw [hc] at hd
  cases hd

theorem minus_of_head {s : List Char} (h : ∀ c ∈ s.head?, c ≠ '-') : minus s = (false, s) := by
  unfold minus
  split
  · exact absurd rfl (h '-' rfl)
  · rfl

/-- A number behind its sign goes on as long as there are digits. -/
theorem unsignedNumber_append (negative : Bool) (whole : Run Char.isDigit) (s : List Char) :
    unsignedNumber negative (whole.chars ++ s) =
      match s.dropWhile Char.isDigit with
      | '.' :: r =>
        if r.takeWhile Char.isDigit = [] then
          some (Number.ofDigits negative (whole.chars ++ s.takeWhile Char.isDigit) [],
            s.dropWhile Char.isDigit)
        else
          some (Number.ofDigits negative (whole.chars ++ s.takeWhile Char.isDigit)
            (r.takeWhile Char.isDigit), r.dropWhile Char.isDigit)
      | _ =>
        some (Number.ofDigits negative (whole.chars ++ s.takeWhile Char.isDigit) [],
          s.dropWhile Char.isDigit) := by
  have hne := whole.takeWhile_append_ne_nil s
  rw [whole.takeWhile_append] at hne
  simp only [unsignedNumber, whole.takeWhile_append, whole.dropWhile_append]
  exact if_neg hne

theorem minus_text_append (n : NumberPhrase) (s : List Char) :
    minus (n.text ++ s) = (n.negative, n.unsignedText ++ s) := by
  have hhead : ∀ c ∈ (n.unsignedText ++ s).head?, c ≠ '-' := by
    rw [NumberPhrase.unsignedText, List.append_assoc]
    exact n.whole.head_append (fun c hc => ne_of_isDigit hc (by decide)) _
  unfold NumberPhrase.text
  cases n.negative with
  | true => rfl
  | false => exact minus_of_head hhead

theorem number_text_append (n : NumberPhrase) (s : List Char) :
    number (n.text ++ s) = unsignedNumber n.negative (n.unsignedText ++ s) := by
  simp only [number, minus_text_append]

/-- Nothing that could belong to a number follows. -/
def EndsNumber (s : List Char) : Prop := ∀ c ∈ s.head?, c.isDigit = false ∧ c ≠ '.'

/-- A number is read as it is if nothing that could belong to it follows. -/
theorem number_of_endsNumber (n : NumberPhrase) {s : List Char} (h : EndsNumber s) :
    number (n.text ++ s) = some (n.value, s) := by
  have htake : s.takeWhile Char.isDigit = [] := takeWhile_eq_nil fun c hc => (h c hc).1
  have hdrop : s.dropWhile Char.isDigit = s := dropWhile_eq_self fun c hc => (h c hc).1
  rw [number_text_append, NumberPhrase.unsignedText, NumberPhrase.value, List.append_assoc,
    unsignedNumber_append]
  cases n.fraction with
  | none =>
    simp only [Option.elim_none, List.nil_append, htake, hdrop, List.append_nil]
    split
    · exact absurd rfl (h '.' rfl).2
    · rfl
  | some f =>
    have hne := f.takeWhile_append_ne_nil s
    rw [f.takeWhile_append, htake, List.append_nil] at hne
    have hpoint : ('.' :: (f.chars ++ s)).dropWhile Char.isDigit = '.' :: (f.chars ++ s) := rfl
    have hdigits : ('.' :: (f.chars ++ s)).takeWhile Char.isDigit = [] := rfl
    simp only [Option.elim_some, List.cons_append, hpoint, hdigits, f.takeWhile_append,
      f.dropWhile_append, htake, hdrop, List.append_nil, if_neg hne]

/-- No number in front of a text reaches further than what is read. -/
theorem number_reaches (n : NumberPhrase) (s : List Char) :
    ∃ x rest, number (n.text ++ s) = some (x, rest) ∧ rest <:+ s := by
  rw [number_text_append, NumberPhrase.unsignedText, List.append_assoc, unsignedNumber_append]
  cases n.fraction with
  | none =>
    have hsuffix : s.dropWhile Char.isDigit <:+ s := List.dropWhile_suffix _
    simp only [Option.elim_none, List.nil_append]
    split
    · next r hr =>
      have hr' : r.dropWhile Char.isDigit <:+ s :=
        ((List.dropWhile_suffix _).trans (List.suffix_cons '.' r)).trans (hr ▸ hsuffix)
      split_ifs
      · exact ⟨_, _, rfl, hr ▸ hsuffix⟩
      · exact ⟨_, _, rfl, hr'⟩
    · exact ⟨_, _, rfl, hsuffix⟩
  | some f =>
    have hpoint : ('.' :: (f.chars ++ s)).dropWhile Char.isDigit = '.' :: (f.chars ++ s) := rfl
    simp only [Option.elim_some, List.cons_append, hpoint, f.dropWhile_append,
      if_neg (f.takeWhile_append_ne_nil s)]
    exact ⟨_, _, rfl, List.dropWhile_suffix _⟩

theorem unsignedNumber_sound {negative : Bool} {s rest : List Char} {x : Number}
    (h : unsignedNumber negative s = some (x, rest)) :
    ∃ n : NumberPhrase, n.negative = negative ∧ s = n.unsignedText ++ rest ∧ n.value = x := by
  have hs := List.takeWhile_append_dropWhile (p := Char.isDigit) (l := s)
  simp only [unsignedNumber] at h
  split_ifs at h with hwhole
  split at h
  · next r hr =>
    have hfraction := List.takeWhile_append_dropWhile (p := Char.isDigit) (l := r)
    split_ifs at h with hnone
    · obtain ⟨rfl, rfl⟩ := Prod.mk.inj (Option.some.inj h)
      refine ⟨⟨negative, .front s hwhole, none⟩, rfl, ?_, rfl⟩
      simpa [NumberPhrase.unsignedText, Run.front, hr] using hs.symm
    · obtain ⟨rfl, rfl⟩ := Prod.mk.inj (Option.some.inj h)
      refine ⟨⟨negative, .front s hwhole, some (.front r hnone)⟩, rfl, ?_, rfl⟩
      simp [NumberPhrase.unsignedText, Run.front, hfraction, ← hr]
  · obtain ⟨rfl, rfl⟩ := Prod.mk.inj (Option.some.inj h)
    refine ⟨⟨negative, .front s hwhole, none⟩, rfl, ?_, rfl⟩
    simp [NumberPhrase.unsignedText, Run.front]

/-- Whatever is read as a number is one. -/
theorem number_sound {s rest : List Char} {x : Number} (h : number s = some (x, rest)) :
    ∃ n : NumberPhrase, s = n.text ++ rest ∧ n.value = x := by
  unfold number minus at h
  split at h
  · next negative r hr =>
    split at hr
    · next t =>
      obtain ⟨rfl, rfl⟩ := Prod.mk.inj hr
      obtain ⟨n, hn, rfl, hx⟩ := unsignedNumber_sound h
      exact ⟨n, by simp [NumberPhrase.text, hn], hx⟩
    · obtain ⟨rfl, rfl⟩ := Prod.mk.inj hr
      obtain ⟨n, hn, rfl, hx⟩ := unsignedNumber_sound h
      exact ⟨n, by simp [NumberPhrase.text, hn], hx⟩

/-- The parts of a number are clear from its text. -/
theorem NumberPhrase.eq_of_text_eq {n m : NumberPhrase} (h : n.text = m.text) : n = m := by
  have hminus := minus_text_append n []
  rw [h, minus_text_append m []] at hminus
  obtain ⟨hnegative, hunsigned⟩ := Prod.mk.inj hminus
  simp only [List.append_nil, unsignedText] at hunsigned
  have htake : ∀ f : Option (Run Char.isDigit),
      (f.elim [] fun f => '.' :: f.chars).takeWhile Char.isDigit = [] := by
    rintro (- | f) <;> rfl
  have hwhole := congrArg (List.takeWhile Char.isDigit) hunsigned
  rw [Run.takeWhile_append, Run.takeWhile_append, htake, htake, List.append_nil,
    List.append_nil] at hwhole
  rw [hwhole] at hunsigned
  have hfraction := List.append_cancel_left hunsigned
  refine NumberPhrase.ext hnegative.symm (Run.ext hwhole.symm) ?_
  cases hn : n.fraction with
  | none =>
    cases hm : m.fraction with
    | none => rfl
    | some f => simp [hn, hm] at hfraction
  | some f =>
    cases hm : m.fraction with
    | none => simp [hn, hm] at hfraction
    | some g =>
      simp only [hn, hm, Option.elim_some, List.cons.injEq, true_and] at hfraction
      rw [Run.ext hfraction]

/-- A number in front of something else is clear from the text. -/
theorem NumberPhrase.eq_of_append_eq {n m : NumberPhrase} {s t : List Char} (hs : EndsNumber s)
    (ht : EndsNumber t) (h : n.text ++ s = m.text ++ t) : n = m ∧ s = t := by
  have hread := number_of_endsNumber n hs
  rw [h, number_of_endsNumber m ht] at hread
  obtain ⟨-, rfl⟩ := Prod.mk.inj (Option.some.inj hread)
  exact ⟨eq_of_text_eq (List.append_cancel_right h), rfl⟩

theorem NumberPhrase.head_append (n : NumberPhrase) (s : List Char) :
    ∀ c ∈ (n.text ++ s).head?, c = '-' ∨ c.isDigit = true := by
  intro c hc
  unfold NumberPhrase.text at hc
  cases hn : n.negative with
  | true =>
    simp only [hn, ↓reduceIte, List.cons_append, List.head?_cons, Option.mem_def,
      Option.some.injEq] at hc
    exact .inl hc.symm
  | false =>
    simp only [hn, Bool.false_eq_true, ↓reduceIte, List.nil_append, NumberPhrase.unsignedText,
      List.append_assoc] at hc
    exact .inr (n.whole.head_append (fun _ h => h) _ c hc)

theorem readBy_numberLanguage : numberLanguage.ReadBy number :=
  .of_reaches (fun _ _ _ h => number_sound h) number_reaches
    fun _ _ h => NumberPhrase.eq_of_text_eq h

/-! The general reader of decimal texts, which also knows exponents and words such as `nan`, makes
the same number of a phrase. -/

theorem toLower_of_isDigit {c : Char} (h : c.isDigit = true) : c.toLower = c := by
  unfold Char.toLower
  refine dif_neg fun hupper => ?_
  simp only [Char.isDigit, Bool.and_eq_true, decide_eq_true_eq] at h
  have hle : (65 : UInt32) ≤ 57 := UInt32.le_trans hupper.1 h.2
  exact absurd hle (by decide)

theorem takeSign_text (n : NumberPhrase) :
    Number.takeSign n.text = (n.negative, n.unsignedText) := by
  obtain ⟨negative, ⟨chars, hne, hdigit⟩, fraction⟩ := n
  obtain ⟨c, chars, rfl⟩ := List.exists_cons_of_ne_nil hne
  have hc := hdigit c List.mem_cons_self
  cases negative with
  | true => rfl
  | false =>
    simp only [NumberPhrase.text, NumberPhrase.unsignedText, Bool.false_eq_true, ↓reduceIte,
      List.nil_append, List.cons_append]
    unfold Number.takeSign
    split
    · next heq =>
      obtain ⟨rfl, -⟩ := List.cons.inj heq
      cases hc
    · next heq =>
      obtain ⟨rfl, -⟩ := List.cons.inj heq
      cases hc
    · rfl

theorem unsignedDecimal?_unsignedText (n : NumberPhrase) :
    Number.unsignedDecimal? n.negative n.unsignedText =
      some ⟨n.negative, Number.natOfDigits (n.whole.chars ++ n.fraction.elim [] Run.chars),
        -((n.fraction.elim [] Run.chars).length : Int)⟩ := by
  have hne := n.whole.ne_nil
  unfold Number.unsignedDecimal? NumberPhrase.unsignedText
  rw [n.whole.takeWhile_append, n.whole.dropWhile_append]
  cases n.fraction with
  | none => simp [hne, Number.exponentPart?]
  | some f =>
    have hpoint : ('.' :: f.chars).dropWhile Char.isDigit = '.' :: f.chars := rfl
    have hdigits : ('.' :: f.chars).takeWhile Char.isDigit = [] := rfl
    have htake := f.takeWhile_append []
    have hdrop := f.dropWhile_append []
    simp only [List.append_nil, List.takeWhile_nil, List.dropWhile_nil] at htake hdrop
    simp [hpoint, hdigits, htake, hdrop, hne, Number.exponentPart?]

/-- A text that starts with a digit is no word. -/
theorem ofList_map_toLower_ne (n : NumberPhrase) {w : String} {c : Char} {r : List Char}
    (hw : w.toList = c :: r) (hc : c.isDigit = false) :
    String.ofList (n.unsignedText.map Char.toLower) ≠ w := by
  obtain ⟨negative, ⟨chars, hne, hdigit⟩, fraction⟩ := n
  obtain ⟨d, chars, rfl⟩ := List.exists_cons_of_ne_nil hne
  have hd := hdigit d List.mem_cons_self
  rintro rfl
  simp only [String.toList_ofList, NumberPhrase.unsignedText, List.cons_append, List.map_cons,
    List.cons.injEq, toLower_of_isDigit hd] at hw
  exact ne_of_isDigit hd hc hw.1

/-- The number of a phrase is what decimal texts read as in general. -/
theorem ofText?_text (n : NumberPhrase) :
    Number.ofText? (String.ofList n.text) = some n.value := by
  have hinf := ofList_map_toLower_ne n (w := "inf") rfl rfl
  have hinfinity := ofList_map_toLower_ne n (w := "infinity") rfl rfl
  have hnan := ofList_map_toLower_ne n (w := "nan") rfl rfl
  simp only [Number.ofText?, Number.literal?, String.toList_ofList, takeSign_text, hinf, hinfinity,
    hnan, or_self, ↓reduceIte, unsignedDecimal?_unsignedText, Option.map_some]
  rfl

end Sift.Grammar
