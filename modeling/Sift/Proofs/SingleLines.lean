import Sift.Json.Writer
import Sift.Proofs.Parts

/-!
# Documents on a line

The writer of documents escapes what could end a line. A text is inline if it has no character
below the space (`Text.Inline`); all other texts a document is made of are inline by themselves:
brackets, keywords and numbers.

**Main result.** Every document is written inline (`Json.inline_write`).
-/

namespace Sift

namespace Text

/-- The text has no character below the space, and so no end of a line. -/
def Inline (s : List Char) : Prop := ∀ c ∈ s, 0x20 ≤ c.toNat

variable {s t : List Char} {c : Char}

instance : DecidablePred Inline := fun s =>
  decidable_of_iff (s.all fun c => 0x20 ≤ c.toNat) (by simp [Inline])

theorem Inline.not_mem (h : Inline s) : '\n' ∉ s := fun hmem => absurd (h _ hmem) (by decide)

@[simp] theorem inline_nil : Inline [] := by simp [Inline]

@[simp] theorem inline_cons : Inline (c :: s) ↔ 0x20 ≤ c.toNat ∧ Inline s := by simp [Inline]

@[simp] theorem inline_append : Inline (s ++ t) ↔ Inline s ∧ Inline t := by
  simp [Inline, or_imp, forall_and]

theorem Inline.of_subset (h : Inline t) (hs : s ⊆ t) : Inline s := fun c hc => h c (hs hc)

theorem inline_replicate (h : 0x20 ≤ c.toNat) (n : Nat) : Inline (List.replicate n c) := by
  intro d hd
  rwa [(List.mem_replicate.1 hd).2]

theorem inline_intercalate (hc : 0x20 ≤ c.toNat) {texts : List (List Char)}
    (h : ∀ t ∈ texts, Inline t) : Inline ([c].intercalate texts) := by
  intro d hd
  rcases mem_intercalate hd with rfl | ⟨t, ht, hmem⟩
  · exact hc
  · exact h t ht d hmem

end Text

open Text

/-! ## Digits and numbers -/

theorem le_toNat_of_isDigit {c : Char} (h : c.isDigit = true) : 0x20 ≤ c.toNat := by
  simp only [Char.isDigit, Bool.and_eq_true, decide_eq_true_eq] at h
  have hlow : 48 ≤ c.toNat := h.1
  omega

theorem inline_toDigits (n : Nat) : Inline (Nat.toDigits 10 n) := fun _ hc =>
  le_toNat_of_isDigit (Nat.isDigit_of_mem_toDigits (by decide) (by decide) hc)

@[simp] theorem inline_toString_nat (n : Nat) : Inline (toString n).toList := by
  rw [Nat.toString_eq_repr, Nat.toList_repr]
  exact inline_toDigits n

theorem inline_toString_int : ∀ i : Int, Inline (toString i).toList
  | .ofNat n => inline_toString_nat n
  | .negSucc n => by
    change Inline ("-" ++ (n + 1).repr).toList
    rw [String.toList_append, Nat.toList_repr]
    exact inline_append.2 ⟨by decide, inline_toDigits _⟩

namespace Number

variable {digits : List Char}

theorem inline_positional (h : Inline digits) (point : Int) {suffix : String}
    (hsuffix : Inline suffix.toList) : Inline (positional digits point suffix).toList := by
  have htake : Inline (digits.take point.toNat) := h.of_subset (List.take_subset _ _)
  have hdrop : Inline (digits.drop point.toNat) := h.of_subset (List.drop_subset _ _)
  have hzeros : ∀ n, Inline (List.replicate n '0') := inline_replicate (by decide)
  simp only [positional]
  split_ifs <;> simp [*]

theorem inline_scientific (h : Inline digits) (point : Int) :
    Inline (scientific digits point).toList := by
  have hsign : Inline (if point - 1 < 0 then "e-" else "e+").toList := by split_ifs <;> decide
  simp only [scientific, String.toList_append, inline_append, inline_toString_nat, and_true]
  refine ⟨?_, hsign⟩
  match digits, h with
  | [], _ => decide
  | [d], h => simpa using h
  | d :: d' :: ds, h => simpa using h

theorem inline_withSign (negative : Bool) {text : String} (h : Inline text.toList) :
    Inline (withSign negative text).toList := by
  cases negative with
  | false => exact h
  | true => simp [withSign, h]

theorem inline_documentText (x : Number) : Inline x.documentText.toList := by
  cases x with
  | nan => decide
  | signed negative m =>
    have hdigits : Inline (shortest .even m.val).layout.1 := inline_toDigits _
    simp only [documentText]
    split_ifs
    · decide
    · exact inline_withSign negative (by decide)
    · exact inline_withSign negative (inline_positional hdigits _ (by decide))
    · exact inline_withSign negative (inline_scientific hdigits _)

end Number

/-! ## Documents -/

namespace Json

theorem inline_escapeChar (c : Char) : Inline (escapeChar c) := by
  have hdigit : ∀ n < 16, 0x20 ≤ (Nat.digitChar n).toNat := by decide
  unfold escapeChar
  split_ifs with _ _ _ _ _ _ _ h
  iterate 7 exact (by decide)
  · have hhigh := hdigit (c.toNat / 16) (by omega)
    have hlow := hdigit (c.toNat % 16) (Nat.mod_lt _ (by decide))
    simp [hhigh, hlow]
  · simpa using h

theorem inline_quote (s : String) : Inline (quote s) := by
  have hchars : Inline (s.toList.flatMap escapeChar) := by
    intro c hc
    obtain ⟨d, -, hmem⟩ := List.mem_flatMap.1 hc
    exact inline_escapeChar d c hmem
  simp [quote, hchars]

theorem Numeral.inline_write : ∀ n : Numeral, Inline n.write
  | integer i => inline_toString_int i
  | float x => x.inline_documentText

mutual

/-- **Documents are written without ends of lines.** -/
theorem inline_write : ∀ j : Json, Inline j.write
  | null => by decide
  | bool true => by decide
  | bool false => by decide
  | number n => n.inline_write
  | string s => inline_quote s
  | array items => by
    simp [write, inline_intercalate (c := ',') (by decide) (inline_writeItems items)]
  | object entries => by
    simp [write, inline_intercalate (c := ',') (by decide) (inline_writeEntries entries)]

theorem inline_writeItems : ∀ items : List Json, ∀ t ∈ writeItems items, Inline t
  | [] => by simp [writeItems]
  | j :: rest => by
    simp only [writeItems, List.forall_mem_cons]
    exact ⟨inline_write j, inline_writeItems rest⟩

theorem inline_writeEntries : ∀ entries : List (String × Json), ∀ t ∈ writeEntries entries, Inline t
  | [] => by simp [writeEntries]
  | (k, j) :: rest => by
    simp only [writeEntries, List.forall_mem_cons]
    exact ⟨by simp [inline_quote k, inline_write j], inline_writeEntries rest⟩

end

end Json

end Sift
