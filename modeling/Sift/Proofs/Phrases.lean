import Mathlib.Data.List.Infix
import Mathlib.Data.List.TakeWhile
import Sift.Pattern.Grammar

/-!
# Phrases in front of texts

The readers of numbers, comparisons, ranges and variables are greedy, and apart from an operator or
a fraction that is not there they never go back. They are compared with *languages*: phrases that
are put together from parts, each with its text.

**Longest phrases.** A reader reads a language if it takes the longest phrase that a text starts
with, fails if there is none, and gives the meaning of the phrase (`Language.ReadBy`). For this it
is enough that whatever is read is a phrase, and that no phrase in front of a text reaches further
than what is read (`Language.ReadBy.of_reaches`).

**Cores.** A phrase cannot be told from its text where two runs of space meet, but what it says can:
its core, which is the phrase without the space.
-/

namespace Sift.Grammar

/-! ## Languages -/

/-- Phrases with their texts. The core of a phrase is what it says; it has a meaning. -/
structure Language (α : Type) where
  Phrase : Type
  Core : Type
  text : Phrase → List Char
  core : Phrase → Core
  meaning : Core → α

namespace Language

variable {α : Type} {L : Language α} {r : Reader α}

/-- The text starts with the phrase, and with no longer one. -/
def IsLongest (L : Language α) (d : L.Phrase) (s : List Char) : Prop :=
  L.text d <+: s ∧ ∀ e, L.text e <+: s → (L.text e).length ≤ (L.text d).length

/-- The reader reads the language: it takes the longest phrase. -/
structure ReadBy (L : Language α) (r : Reader α) : Prop where
  isSome_iff : ∀ s, (r s).isSome = true ↔ ∃ d, L.text d <+: s
  eq_some_iff : ∀ s a rest, r s = some (a, rest) ↔
    ∃ d, s = L.text d ++ rest ∧ L.IsLongest d s ∧ L.meaning (L.core d) = a
  complete_eq_some_iff : ∀ s a, complete r s = some a ↔
    ∃ d, L.text d = s ∧ L.meaning (L.core d) = a
  core_eq : ∀ d e, L.text d = L.text e → L.core d = L.core e

theorem complete_eq_some {s : List Char} {a : α} : complete r s = some a ↔ r s = some (a, []) := by
  unfold complete
  split
  · next b h =>
    rw [h]
    simp
  · next h =>
    constructor
    · intro hnone
      cases hnone
    · intro hs
      exact absurd hs (h a)

/-- Whatever is read is a phrase, and no phrase in front of a text reaches further. -/
theorem ReadBy.of_reaches
    (sound : ∀ s a rest, r s = some (a, rest) →
      ∃ d, s = L.text d ++ rest ∧ L.meaning (L.core d) = a)
    (reaches : ∀ d rest, ∃ a rest', r (L.text d ++ rest) = some (a, rest') ∧ rest' <:+ rest)
    (core_eq : ∀ d e, L.text d = L.text e → L.core d = L.core e) : L.ReadBy r := by
  have hlongest : ∀ s a rest, r s = some (a, rest) →
      ∃ d, s = L.text d ++ rest ∧ L.IsLongest d s ∧ L.meaning (L.core d) = a := by
    intro s a rest h
    obtain ⟨d, rfl, hd⟩ := sound s a rest h
    refine ⟨d, rfl, ⟨List.prefix_append _ _, ?_⟩, hd⟩
    rintro e ⟨rest₁, he⟩
    obtain ⟨a', rest', hread, hsuffix⟩ := reaches e rest₁
    rw [he, h] at hread
    obtain ⟨-, rfl⟩ := Prod.mk.inj (Option.some.inj hread)
    have hlength := congrArg List.length he
    rw [List.length_append, List.length_append] at hlength
    have := hsuffix.length_le
    omega
  have hiff : ∀ s a rest, r s = some (a, rest) ↔
      ∃ d, s = L.text d ++ rest ∧ L.IsLongest d s ∧ L.meaning (L.core d) = a := by
    refine fun s a rest => ⟨hlongest s a rest, ?_⟩
    rintro ⟨d, rfl, ⟨-, hd⟩, rfl⟩
    obtain ⟨a', rest', hread, hsuffix⟩ := reaches d rest
    obtain ⟨e, he, -, rfl⟩ := hlongest _ _ _ hread
    have hlength := congrArg List.length he
    rw [List.length_append, List.length_append] at hlength
    have hle := hd e ⟨rest', he.symm⟩
    obtain rfl := hsuffix.eq_of_length_le (by omega)
    rw [hread, core_eq e d (List.append_cancel_right he).symm]
  refine ⟨fun s => ⟨?_, ?_⟩, hiff, fun s a => ?_, core_eq⟩
  · intro h
    obtain ⟨⟨a, rest⟩, hread⟩ := Option.isSome_iff_exists.1 h
    obtain ⟨d, rfl, -⟩ := sound s a rest hread
    exact ⟨d, List.prefix_append _ _⟩
  · rintro ⟨d, rest, rfl⟩
    obtain ⟨a, rest', hread, -⟩ := reaches d rest
    rw [hread]
    rfl
  · rw [complete_eq_some, hiff]
    constructor
    · rintro ⟨d, hd, -, ha⟩
      exact ⟨d, by rw [hd, List.append_nil], ha⟩
    · rintro ⟨d, rfl, ha⟩
      exact ⟨d, by rw [List.append_nil], ⟨List.prefix_rfl, fun e he => he.length_le⟩, ha⟩

end Language

/-! ## Runs of characters -/

/-- One or more characters of a class. -/
@[ext] structure Run (p : Char → Bool) where
  chars : List Char
  ne_nil : chars ≠ []
  all : ∀ c ∈ chars, p c = true

/-- Any number of spaces. -/
structure Space where
  chars : List Char
  all : ∀ c ∈ chars, isSpace c = true

namespace Run

variable {p : Char → Bool}

/-- The characters of a class in front of a text. -/
def front (s : List Char) (h : s.takeWhile p ≠ []) : Run p :=
  ⟨s.takeWhile p, h, fun _ hc => List.mem_takeWhile_imp hc⟩

theorem takeWhile_append (x : Run p) (s : List Char) :
    (x.chars ++ s).takeWhile p = x.chars ++ s.takeWhile p :=
  List.takeWhile_append_of_pos x.all

theorem dropWhile_append (x : Run p) (s : List Char) :
    (x.chars ++ s).dropWhile p = s.dropWhile p :=
  List.dropWhile_append_of_pos x.all

theorem takeWhile_append_ne_nil (x : Run p) (s : List Char) : (x.chars ++ s).takeWhile p ≠ [] := by
  rw [x.takeWhile_append]
  exact List.append_ne_nil_of_left_ne_nil x.ne_nil _

/-- What holds of the characters of the class holds of the first character. -/
theorem head_append {P : Char → Prop} (h : ∀ c, p c = true → P c) (x : Run p) (s : List Char) :
    ∀ c ∈ (x.chars ++ s).head?, P c := by
  intro c hc
  rw [List.head?_append_of_ne_nil _ x.ne_nil] at hc
  exact h c (x.all c (List.mem_of_mem_head? hc))

end Run

theorem takeWhile_eq_nil {p : Char → Bool} {s : List Char} (h : ∀ c ∈ s.head?, p c = false) :
    s.takeWhile p = [] := by
  cases s with
  | nil => rfl
  | cons c s => exact List.takeWhile_cons_of_neg (by simp [h c rfl])

theorem dropWhile_eq_self {p : Char → Bool} {s : List Char} (h : ∀ c ∈ s.head?, p c = false) :
    s.dropWhile p = s := by
  cases s with
  | nil => rfl
  | cons c s => exact List.dropWhile_cons_of_neg (by simp [h c rfl])

/-! ## Space -/

/-- What holds of the four characters that are space. -/
theorem of_isSpace {P : Char → Prop} (space : P ' ') (tab : P '\t') (carriageReturn : P '\r')
    (lineFeed : P '\n') {c : Char} (h : isSpace c = true) : P c := by
  simp only [isSpace, Bool.or_eq_true, decide_eq_true_eq] at h
  rcases h with ((rfl | rfl) | rfl) | rfl
  · exact space
  · exact tab
  · exact carriageReturn
  · exact lineFeed

namespace Space

/-- The space in front of a text. -/
def front (s : List Char) : Space := ⟨s.takeWhile isSpace, fun _ hc => List.mem_takeWhile_imp hc⟩

theorem front_append_skipSpace (s : List Char) : (front s).chars ++ skipSpace s = s :=
  List.takeWhile_append_dropWhile

theorem skipSpace_append (x : Space) (s : List Char) :
    skipSpace (x.chars ++ s) = skipSpace s :=
  List.dropWhile_append_of_pos x.all

/-- What is left of space and a text, once space is skipped, is left of the text. -/
theorem skipSpace_isSuffix (x : Space) {s rest : List Char} (h : rest <:+ x.chars ++ s) :
    skipSpace rest <:+ s := by
  rcases List.suffix_or_suffix_of_suffix h (List.suffix_append x.chars s) with hle | ⟨y, rfl⟩
  · exact (List.dropWhile_suffix _).trans hle
  · obtain ⟨z, hz⟩ := h
    rw [← List.append_assoc] at hz
    have hy : ∀ c ∈ y, isSpace c = true := by
      intro c hc
      apply x.all
      rw [← List.append_cancel_right hz]
      exact List.mem_append_right z hc
    exact (skipSpace_append ⟨y, hy⟩ s).symm ▸ List.dropWhile_suffix _

end Space

end Sift.Grammar
