import Sift.Number.Notation
import Sift.Proofs.Catchments
import Sift.Proofs.NumberPhrases

/-!
# Plain notation

In plain notation a finite number is a number of the grammar: digits with a point among them, or
with zeros on one side to fill the places up to the point. Read in this way, it has the value of the
decimal that it was written from, so it lies in the catchment of the number.

**Words.** Infinity and not-a-number are words, which no digit starts.

**Main result.** The text of a number shows which number it is and where it ends, if it is followed
by nothing that could belong to a number (`display_append_inj`).
-/

namespace Sift.Number

open Grammar

/-! ## The value of digits -/

section

variable {ds : List Char}

theorem natOfDigits_eq (h : ∀ c ∈ ds, c.isDigit = true) :
    natOfDigits ds = Nat.ofDigitChars 10 ds 0 := by
  rw [natOfDigits, Nat.ofDigitChars_eq_foldl]
  refine List.foldl_ext _ _ 0 fun n c hc => ?_
  rw [digitValue, if_pos (h c hc)]

theorem isDigit_of_mem_replicate {k : Nat} : ∀ c ∈ List.replicate k '0', c.isDigit = true := by
  intro c hc
  rw [List.eq_of_mem_replicate hc]
  rfl

theorem natOfDigits_zeros_append (h : ∀ c ∈ ds, c.isDigit = true) (k : Nat) :
    natOfDigits (List.replicate k '0' ++ ds) = natOfDigits ds := by
  rw [natOfDigits_eq (List.forall_mem_append.2 ⟨isDigit_of_mem_replicate, h⟩), natOfDigits_eq h,
    Nat.ofDigitChars_append, Nat.ofDigitChars_replicate_zero, Nat.mul_zero]

theorem natOfDigits_append_zeros (h : ∀ c ∈ ds, c.isDigit = true) (k : Nat) :
    natOfDigits (ds ++ List.replicate k '0') = 10 ^ k * natOfDigits ds := by
  rw [natOfDigits_eq (List.forall_mem_append.2 ⟨h, isDigit_of_mem_replicate⟩), natOfDigits_eq h,
    Nat.ofDigitChars_append, Nat.ofDigitChars_replicate_zero]

theorem isDigit_of_mem_toDigits {n : Nat} : ∀ c ∈ Nat.toDigits 10 n, c.isDigit = true := fun _ hc =>
  Nat.isDigit_of_mem_toDigits (by decide) (by decide) hc

theorem natOfDigits_toDigits (n : Nat) : natOfDigits (Nat.toDigits 10 n) = n := by
  rw [natOfDigits_eq isDigit_of_mem_toDigits, Nat.ofDigitChars_toDigits (by decide) (by decide)]

end

/-! ## Plain notation as a number of the grammar -/

/-- The value of a number without its sign. -/
def magnitudeOf (n : NumberPhrase) : ℚ :=
  natOfDigits (n.whole.chars ++ n.fraction.elim [] Run.chars) *
    (10 : ℚ) ^ (-((n.fraction.elim [] Run.chars).length : Int))

/-- The text is that of a number without a sign that has the value. -/
def Denotes (text : List Char) (x : ℚ) : Prop :=
  ∃ n : NumberPhrase, n.negative = false ∧ n.text = text ∧ magnitudeOf n = x

/-- The digit in front of the point if there is no other. -/
def zeroDigit : Run Char.isDigit := ⟨['0'], List.cons_ne_nil _ _, by simp⟩

theorem denotes_whole (whole : Run Char.isDigit) :
    Denotes whole.chars (natOfDigits whole.chars) :=
  ⟨⟨false, whole, none⟩, rfl, by simp [NumberPhrase.text, NumberPhrase.unsignedText],
    by simp [magnitudeOf]⟩

theorem denotes_fraction (whole fraction : Run Char.isDigit) :
    Denotes (whole.chars ++ '.' :: fraction.chars)
      (natOfDigits (whole.chars ++ fraction.chars) * (10 : ℚ) ^ (-(fraction.chars.length : Int))) :=
  ⟨⟨false, whole, some fraction⟩, rfl, by simp [NumberPhrase.text, NumberPhrase.unsignedText],
    rfl⟩

section

variable {digits : List Char} {k : Nat}

/-! The point stands in front of the digits, among them, or behind them. -/

theorem positional_before (digits : List Char) (k : Nat) :
    (positional digits (-(k : Int)) "").toList =
      '0' :: '.' :: (List.replicate k '0' ++ digits) := by
  simp [positional]

theorem positional_among (hpos : 0 < k) (hlt : k < digits.length) :
    (positional digits k "").toList = digits.take k ++ '.' :: digits.drop k := by
  have hpoint : ¬ (k : Int) ≤ 0 := by omega
  simp only [positional, if_neg hpoint, Int.toNat_natCast, if_pos hlt, String.toList_append,
    String.toList_ofList, List.append_assoc]
  rfl

theorem positional_behind (hpos : 0 < k) (hle : digits.length ≤ k) :
    (positional digits k "").toList = digits ++ List.replicate (k - digits.length) '0' := by
  have hpoint : ¬ (k : Int) ≤ 0 := by omega
  simp only [positional, if_neg hpoint, Int.toNat_natCast, if_neg (Nat.not_lt_of_le hle),
    String.append_empty, String.toList_ofList]

theorem denotes_before (h : ∀ c ∈ digits, c.isDigit = true) (hne : digits ≠ []) (k : Nat) :
    Denotes (positional digits (-(k : Int)) "").toList
      (natOfDigits digits * (10 : ℚ) ^ (-(k : Int) - digits.length)) := by
  have hzeros := natOfDigits_zeros_append h (k + 1)
  have hall := List.forall_mem_append.2 ⟨isDigit_of_mem_replicate (k := k), h⟩
  have hdenotes := denotes_fraction zeroDigit
    ⟨_, List.append_ne_nil_of_right_ne_nil (List.replicate k '0') hne, hall⟩
  have hlength : (-((List.replicate k '0' ++ digits).length : Int)) = -(k : Int) - digits.length := by
    rw [List.length_append, List.length_replicate]
    omega
  rw [hlength] at hdenotes
  rw [positional_before, ← hzeros]
  exact hdenotes

theorem denotes_among (h : ∀ c ∈ digits, c.isDigit = true) (hpos : 0 < k)
    (hlt : k < digits.length) :
    Denotes (positional digits k "").toList
      (natOfDigits digits * (10 : ℚ) ^ ((k : Int) - digits.length)) := by
  have htake : digits.take k ≠ [] := List.ne_nil_of_length_pos (by rw [List.length_take]; omega)
  have hdrop : digits.drop k ≠ [] := List.ne_nil_of_length_pos (by rw [List.length_drop]; omega)
  have hdenotes := denotes_fraction ⟨_, htake, fun c hc => h c (List.mem_of_mem_take hc)⟩
    ⟨_, hdrop, fun c hc => h c (List.mem_of_mem_drop hc)⟩
  have hlength : (-((digits.drop k).length : Int)) = (k : Int) - digits.length := by
    rw [List.length_drop]
    omega
  dsimp only at hdenotes
  rw [hlength, List.take_append_drop] at hdenotes
  rw [positional_among hpos hlt]
  exact hdenotes

theorem denotes_behind (h : ∀ c ∈ digits, c.isDigit = true) (hne : digits ≠ []) (hpos : 0 < k)
    (hle : digits.length ≤ k) :
    Denotes (positional digits k "").toList
      (natOfDigits digits * (10 : ℚ) ^ ((k : Int) - digits.length)) := by
  have hall := List.forall_mem_append.2
    ⟨h, isDigit_of_mem_replicate (k := k - digits.length)⟩
  have hdenotes := denotes_whole ⟨_, List.append_ne_nil_of_left_ne_nil hne _, hall⟩
  have hvalue : (natOfDigits (digits ++ List.replicate (k - digits.length) '0') : ℚ) =
      natOfDigits digits * (10 : ℚ) ^ ((k : Int) - digits.length) := by
    rw [natOfDigits_append_zeros h, ← Nat.cast_sub hle, zpow_natCast, mul_comm]
    push_cast
    rfl
  rw [positional_behind hpos hle, ← hvalue]
  exact hdenotes

/-- **A point gives each digit its place.** -/
theorem denotes_positional (h : ∀ c ∈ digits, c.isDigit = true) (hne : digits ≠ [])
    (point : Int) : Denotes (positional digits point "").toList
      (natOfDigits digits * (10 : ℚ) ^ (point - digits.length)) := by
  by_cases hleft : point ≤ 0
  · obtain ⟨k, rfl⟩ : ∃ k : Nat, point = -k := ⟨(-point).toNat, by omega⟩
    exact denotes_before h hne k
  · obtain ⟨k, rfl⟩ : ∃ k : Nat, point = k := ⟨point.toNat, by omega⟩
    have hpos : 0 < k := by omega
    rcases Nat.lt_or_ge k digits.length with hlt | hle
    · exact denotes_among h hpos hlt
    · exact denotes_behind h hne hpos hle

end

/-- **A decimal laid out with a point keeps its value.** -/
theorem denotes_layout (d : Decimal) :
    Denotes (positional d.layout.1 d.layout.2 "").toList d.value := by
  have hdenotes := denotes_positional (isDigit_of_mem_toDigits (n := d.digits))
    Nat.toDigits_ne_nil d.layout.2
  have hpoint : d.layout.2 - (Nat.toDigits 10 d.digits).length = d.exponent :=
    add_sub_cancel_left _ _
  rw [natOfDigits_toDigits, hpoint] at hdenotes
  exact hdenotes

/-! ## The text of a number -/

/-- The text of a finite number without its sign. -/
def magnitudeText (m : Nat) : List Char :=
  if m = infinity then "inf".toList
  else if m = 0 then "0".toList
  else (positional (shortest .up m).layout.1 (shortest .up m).layout.2 "").toList

theorem toList_display (negative : Bool) (m : Fin (infinity + 1)) :
    (display (signed negative m)).toList =
      (if negative then ['-'] else []) ++ magnitudeText m := by
  cases negative <;> simp only [display, withSign, magnitudeText] <;> split_ifs <;> simp

/-- **A finite number is written as a number of the grammar** that lies in its catchment. -/
theorem denotes_magnitudeText {m : Nat} (h : m ≠ infinity) :
    ∃ x, Denotes (magnitudeText m) x ∧ (catchmentAt m).Contains x := by
  by_cases hzero : m = 0
  · subst hzero
    have hdenotes := denotes_whole zeroDigit
    have hvalue : natOfDigits zeroDigit.chars = 0 := rfl
    rw [hvalue, Nat.cast_zero] at hdenotes
    exact ⟨0, hdenotes, contains_zero⟩
  · rw [magnitudeText, if_neg h, if_neg hzero]
    exact ⟨_, denotes_layout _, contains_shortest (Nat.pos_of_ne_zero hzero)⟩

section

variable {m m' : Nat} {s t : List Char}

theorem Denotes.head_append {text : List Char} {x : ℚ} (h : Denotes text x) (s : List Char) :
    ∃ c r, text ++ s = c :: r ∧ c.isDigit = true := by
  obtain ⟨n, hsign, rfl, -⟩ := h
  obtain ⟨c, r, hwhole⟩ := List.exists_cons_of_ne_nil n.whole.ne_nil
  have hc : c.isDigit = true := n.whole.all c (hwhole ▸ List.mem_cons_self)
  exact ⟨c, _, by simp [NumberPhrase.text, NumberPhrase.unsignedText, hsign, hwhole]; rfl, hc⟩

/-- The text of a magnitude starts with a digit or is a word. -/
theorem head_magnitudeText (m : Nat) (s : List Char) :
    ∃ c r, magnitudeText m ++ s = c :: r ∧ (c = 'i' ∨ c.isDigit = true) := by
  by_cases hinfinite : m = infinity
  · rw [magnitudeText, if_pos hinfinite]
    exact ⟨'i', _, rfl, .inl rfl⟩
  · obtain ⟨x, hdenotes, -⟩ := denotes_magnitudeText hinfinite
    obtain ⟨c, r, htext, hc⟩ := hdenotes.head_append s
    exact ⟨c, r, htext, .inr hc⟩

theorem magnitudeText_append_ne (hm : m = infinity) (hm' : m' ≠ infinity) :
    magnitudeText m ++ s ≠ magnitudeText m' ++ t := by
  obtain ⟨x, hdenotes, -⟩ := denotes_magnitudeText hm'
  obtain ⟨c, r, htext, hc⟩ := hdenotes.head_append t
  rw [magnitudeText, if_pos hm, htext]
  intro h
  obtain rfl : 'i' = c := (List.cons.inj h).1
  cases hc

/-- The text of a magnitude shows which one it is and where it ends. -/
theorem magnitudeText_append_inj (hs : EndsNumber s) (ht : EndsNumber t)
    (h : magnitudeText m ++ s = magnitudeText m' ++ t) : m = m' ∧ s = t := by
  by_cases hm : m = infinity
  · by_cases hm' : m' = infinity
    · rw [hm, hm'] at h
      exact ⟨hm.trans hm'.symm, List.append_cancel_left h⟩
    · exact absurd h (magnitudeText_append_ne hm hm')
  · by_cases hm' : m' = infinity
    · exact absurd h.symm (magnitudeText_append_ne hm' hm)
    · obtain ⟨x, ⟨n, -, htext, hx⟩, hcatch⟩ := denotes_magnitudeText hm
      obtain ⟨y, ⟨n', -, htext', hy⟩, hcatch'⟩ := denotes_magnitudeText hm'
      rw [← htext, ← htext'] at h
      obtain ⟨rfl, hrest⟩ := NumberPhrase.eq_of_append_eq hs ht h
      rw [← hx] at hcatch
      rw [← hy] at hcatch'
      exact ⟨position_unique hcatch hcatch', hrest⟩

/-- A number starts with a minus, with a digit, or as one of the two words. -/
theorem head_display (x : Number) (s : List Char) :
    ∃ c r, x.display.toList ++ s = c :: r ∧ (c ∈ ['-', 'i', 'N'] ∨ c.isDigit = true) := by
  cases x with
  | nan => exact ⟨'N', _, rfl, .inl (by decide)⟩
  | signed negative m =>
    rw [toList_display]
    cases negative with
    | true => exact ⟨'-', _, rfl, .inl (by decide)⟩
    | false =>
      obtain ⟨c, r, htext, hc⟩ := head_magnitudeText m s
      refine ⟨c, r, htext, ?_⟩
      rcases hc with rfl | hc
      · exact .inl (by decide)
      · exact .inr hc

theorem display_nan_append_ne (negative : Bool) (m : Fin (infinity + 1)) :
    nan.display.toList ++ s ≠ (signed negative m).display.toList ++ t := by
  rw [toList_display]
  cases negative with
  | true => exact fun h => absurd (List.cons.inj h).1 (by decide)
  | false =>
    obtain ⟨c, r, htext, hc⟩ := head_magnitudeText m t
    intro h
    obtain rfl : 'N' = c := (List.cons.inj (h.trans htext)).1
    rcases hc with hc | hc <;> cases hc

theorem minus_append_ne (s : List Char) : '-' :: s ≠ magnitudeText m ++ t := by
  obtain ⟨c, r, htext, hc⟩ := head_magnitudeText m t
  intro h
  obtain rfl : '-' = c := (List.cons.inj (h.trans htext)).1
  rcases hc with hc | hc <;> cases hc

/-- **The text of a number shows which number it is and where it ends.** -/
theorem display_append_inj {x y : Number} (hs : EndsNumber s) (ht : EndsNumber t)
    (h : x.display.toList ++ s = y.display.toList ++ t) : x = y ∧ s = t := by
  cases x with
  | nan =>
    cases y with
    | nan => exact ⟨rfl, List.append_cancel_left h⟩
    | signed negative m => exact absurd h (display_nan_append_ne negative m)
  | signed negative m =>
    cases y with
    | nan => exact absurd h.symm (display_nan_append_ne negative m)
    | signed negative' m' =>
      rw [toList_display, toList_display] at h
      cases negative with
      | false =>
        cases negative' with
        | false =>
          obtain ⟨hm, hrest⟩ := magnitudeText_append_inj hs ht h
          exact ⟨by rw [Fin.ext hm], hrest⟩
        | true => exact absurd h.symm (minus_append_ne _)
      | true =>
        cases negative' with
        | false => exact absurd h (minus_append_ne _)
        | true =>
          obtain ⟨hm, hrest⟩ := magnitudeText_append_inj hs ht (List.cons.inj h).2
          exact ⟨by rw [Fin.ext hm], hrest⟩

end

end Sift.Number
