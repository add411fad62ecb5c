import Mathlib.Data.List.Infix
import Mathlib.Data.List.TakeWhile
import Sift.Pattern.Dialects

/-!
# Parts of texts

A dialect that takes a pattern apart cuts its text into pieces. Here is what the cuts say: each
piece stands in the text as it is, and it is shorter than the text unless it is a list item and
there is no comma.

**Where a text is cut.** A negation is cut behind its exclamation mark, a list at every comma, a
sequence of groups at every blank, and a property at its first colon.
-/

namespace Sift

/-! ## Splitting -/

namespace Text

variable {p : Char → Bool} {s t : List Char}

/-- A split gives back a text without separators, or else cuts it at the first one. -/
theorem splitOnP_cases (p : Char → Bool) (s : List Char) :
    ((∀ c ∈ s, p c = false) ∧ s.splitOnP p = [s]) ∨
      ∃ front c rest, s = front ++ c :: rest ∧ p c = true ∧
        s.splitOnP p = front :: rest.splitOnP p := by
  induction s with
  | nil => exact Or.inl ⟨by simp, rfl⟩
  | cons d s ih =>
    rw [List.splitOnP_cons_eq_if_modifyHead]
    by_cases hd : p d = true
    · exact Or.inr ⟨[], d, s, rfl, hd, by simp [hd]⟩
    · rw [if_neg hd]
      rcases ih with ⟨hs, he⟩ | ⟨front, c, rest, rfl, hc, he⟩
      · refine Or.inl ⟨?_, by rw [he]; rfl⟩
        simpa using ⟨by simpa using hd, by simpa using hs⟩
      · exact Or.inr ⟨d :: front, c, rest, rfl, hc, by rw [he]; rfl⟩

theorem infix_of_mem_splitOnP (h : t ∈ s.splitOnP p) : t <:+: s := by
  induction hn : s.length using Nat.strong_induction_on generalizing s with
  | _ n ih =>
    rcases splitOnP_cases p s with ⟨-, he⟩ | ⟨front, c, rest, rfl, -, he⟩
    · rw [he, List.mem_singleton] at h
      exact h ▸ List.infix_rfl
    · rw [he, List.mem_cons] at h
      rcases h with rfl | h
      · exact (List.prefix_append t (c :: rest)).isInfix
      · have hrest : rest <:+ front ++ c :: rest :=
          (List.suffix_cons c rest).trans (List.suffix_append front (c :: rest))
        exact (ih rest.length (by subst hn; simp; omega) h rfl).trans hrest.isInfix

/-- Where there is a separator, every piece is shorter than the whole. -/
theorem length_lt_of_mem_splitOnP (h : t ∈ s.splitOnP p) (hs : ∃ c ∈ s, p c = true) :
    t.length < s.length := by
  rcases splitOnP_cases p s with ⟨hno, -⟩ | ⟨front, c, rest, rfl, -, he⟩
  · obtain ⟨c, hc, hp⟩ := hs
    rw [hno c hc] at hp
    cases hp
  · rw [he, List.mem_cons] at h
    rw [List.length_append, List.length_cons]
    rcases h with rfl | h
    · omega
    · have := (infix_of_mem_splitOnP h).length_le
      omega

theorem trimStart_isSuffix (s : List Char) : trimStart s <:+ s := List.dropWhile_suffix _

theorem trimEnd_isPrefix (s : List Char) : trimEnd s <+: s := by
  rw [← List.reverse_suffix, trimEnd, List.reverse_reverse]
  exact List.dropWhile_suffix _

theorem trim_isInfix (s : List Char) : trim s <:+: s :=
  (trimEnd_isPrefix _).isInfix.trans (trimStart_isSuffix s).isInfix

theorem infix_of_mem_words (h : t ∈ words s) : t <:+: s :=
  infix_of_mem_splitOnP (List.mem_filter.1 h).1

/-- If there are two words or more, each is shorter than the text. -/
theorem length_lt_of_mem_words (h : t ∈ words s) (two : 2 ≤ (words s).length) :
    t.length < s.length := by
  refine length_lt_of_mem_splitOnP (List.mem_filter.1 h).1 ?_
  by_contra hno
  have hall : ∀ c ∈ s, isBlank c = false := by simpa using hno
  have hle : (words s).length ≤ (s.splitOnP isBlank).length := List.length_filter_le _ _
  rw [List.splitOnP_eq_singleton hall] at hle
  simp at hle
  omega

/-- A word in front of a blank is a word of its own. -/
theorem words_append_cons {g : List Char} (hg : g ≠ []) (hblank : ∀ c ∈ g, isBlank c = false)
    {c : Char} (hc : isBlank c = true) (rest : List Char) :
    words (g ++ c :: rest) = g :: words rest := by
  unfold words
  rw [List.splitOnP_append_cons_of_forall_mem hblank c hc, List.filter_cons_of_pos (by simpa)]

theorem words_eq_singleton {g : List Char} (hg : g ≠ [])
    (hblank : ∀ c ∈ g, isBlank c = false) : words g = [g] := by
  unfold words
  rw [List.splitOnP_eq_singleton hblank, List.filter_cons_of_pos (by simpa), List.filter_nil]

/-- Words with spaces between them are the words of the text. -/
theorem words_intercalate {gs : List (List Char)}
    (h : ∀ g ∈ gs, g ≠ [] ∧ ∀ c ∈ g, isBlank c = false) : words ([' '].intercalate gs) = gs := by
  induction gs with
  | nil => rfl
  | cons g gs ih =>
    obtain ⟨hne, hblank⟩ := h g List.mem_cons_self
    have hrest := ih fun g' hg' => h g' (List.mem_cons_of_mem g hg')
    cases gs with
    | nil =>
      rw [List.intercalate_singleton]
      exact words_eq_singleton hne hblank
    | cons g' gs =>
      rw [List.intercalate_cons_cons, List.append_assoc, List.singleton_append,
        words_append_cons hne hblank (by decide), hrest]

/-- A character that is not blank survives trimming. -/
theorem mem_trimStart {c : Char} (hc : isBlank c = false) (h : c ∈ s) : c ∈ trimStart s := by
  unfold trimStart
  induction s with
  | nil => cases h
  | cons d s ih =>
    rw [List.dropWhile_cons]
    split_ifs with hd
    · rcases List.mem_cons.1 h with rfl | h
      · rw [hc] at hd
        cases hd
      · exact ih h
    · exact h

theorem mem_trim {c : Char} (hc : isBlank c = false) (h : c ∈ s) : c ∈ trim s := by
  have hstart := List.mem_reverse.2 (mem_trimStart hc h)
  exact List.mem_reverse.2 (mem_trimStart hc hstart)

theorem trimStart_eq_self (h : ∀ c ∈ s.head?, isBlank c = false) : trimStart s = s := by
  cases s with
  | nil => rfl
  | cons c s => exact List.dropWhile_cons_of_neg (by simp [h c rfl])

/-- A text without blanks at its ends is left as it is. -/
theorem trim_eq_self (hstart : ∀ c ∈ s.head?, isBlank c = false)
    (hend : ∀ c ∈ s.getLast?, isBlank c = false) : trim s = s := by
  have hreverse : trimStart s.reverse = s.reverse :=
    trimStart_eq_self (by rwa [List.head?_reverse])
  rw [trim, trimStart_eq_self hstart, trimEnd]
  change (trimStart s.reverse).reverse = s
  rw [hreverse, List.reverse_reverse]

theorem mem_intercalate {c d : Char} {gs : List (List Char)} (h : c ∈ [d].intercalate gs) :
    c = d ∨ ∃ g ∈ gs, c ∈ g := by
  induction gs with
  | nil => cases h
  | cons g gs ih =>
    cases gs with
    | nil => exact .inr ⟨g, List.mem_cons_self, by rwa [List.intercalate_singleton] at h⟩
    | cons g' gs =>
      rw [List.intercalate_cons_cons, List.mem_append, List.mem_append, List.mem_singleton] at h
      rcases h with (h | h) | h
      · exact .inr ⟨g, List.mem_cons_self, h⟩
      · exact .inl h
      · exact (ih h).imp_right fun ⟨g', hg', hc⟩ => ⟨g', List.mem_cons_of_mem g hg', hc⟩

end Text

namespace Pattern

open Text

variable {text t : List Char}

/-- A text whose first character that is not blank is no exclamation mark is no negation. -/
theorem operandOfNegation?_eq_none (h : (trimStart text).head? ≠ some '!') :
    operandOfNegation? text = none := by
  unfold operandOfNegation?
  split
  · next r heq => exact absurd (heq ▸ rfl) h
  · rfl

/-- A text that starts with anything but a blank or an exclamation mark is no negation. -/
theorem operandOfNegation?_cons {c : Char} (hblank : isBlank c = false) (hc : c ≠ '!')
    (s : List Char) : operandOfNegation? (c :: s) = none := by
  have htrim : trimStart (c :: s) = c :: s := List.dropWhile_cons_of_neg (by simp [hblank])
  apply operandOfNegation?_eq_none
  rw [htrim]
  simpa using hc

/-- An operand stands behind blanks and an exclamation mark. -/
theorem operandOfNegation?_eq_some (h : operandOfNegation? text = some t) :
    ∃ r, trimStart text = '!' :: r ∧ t = trimStart r ∧ t ≠ [] := by
  unfold operandOfNegation? at h
  split at h
  · rename_i r hr
    split_ifs at h with hne
    obtain rfl := Option.some.inj h
    exact ⟨r, hr, rfl, hne⟩
  · cases h

theorem suffix_of_operandOfNegation? (h : operandOfNegation? text = some t) :
    t <:+ text ∧ t.length < text.length := by
  obtain ⟨r, hr, rfl, -⟩ := operandOfNegation?_eq_some h
  have hsuffix : '!' :: r <:+ text := hr ▸ trimStart_isSuffix text
  have hlen := hsuffix.length_le
  rw [List.length_cons] at hlen
  have hshort := (trimStart_isSuffix r).length_le
  exact ⟨(trimStart_isSuffix r).trans ((List.suffix_cons '!' r).trans hsuffix), by omega⟩

/-- Any character of a negation but blanks and exclamation marks is one of its operand. -/
theorem mem_operandOfNegation? (h : operandOfNegation? text = some t) {c : Char}
    (hblank : isBlank c = false) (hc : c ≠ '!') (hmem : c ∈ text) : c ∈ t := by
  obtain ⟨r, hr, rfl, -⟩ := operandOfNegation?_eq_some h
  have hstart : c ∈ '!' :: r := hr ▸ mem_trimStart hblank hmem
  exact mem_trimStart hblank (List.mem_of_ne_of_mem hc hstart)

theorem infix_of_mem_listItems (h : t ∈ listItems text) : t <:+: text := by
  obtain ⟨item, hitem, rfl⟩ := List.mem_map.1 h
  exact (trim_isInfix item).trans (infix_of_mem_splitOnP hitem)

theorem fieldGroups?_eq_some {gs : List (List Char)} (h : fieldGroups? text = some gs) :
    gs = words text ∧ 2 ≤ gs.length ∧ ∀ g ∈ gs, ':' ∈ g := by
  simp only [fieldGroups?, Option.ite_none_right_eq_some, Option.some.injEq] at h
  obtain ⟨⟨htwo, hcolon⟩, rfl⟩ := h
  exact ⟨rfl, htwo, by simpa using hcolon⟩

theorem infix_of_mem_fieldGroups? {gs : List (List Char)} (h : fieldGroups? text = some gs)
    (ht : t ∈ gs) : t <:+: text ∧ t.length < text.length := by
  obtain ⟨rfl, htwo, -⟩ := fieldGroups?_eq_some h
  exact ⟨infix_of_mem_words ht, length_lt_of_mem_words ht htwo⟩

/-- A text is no sequence of groups if it has less than two words or a word without a colon. -/
theorem fieldGroups?_eq_none (h : ¬ (2 ≤ (words text).length ∧ ∀ g ∈ words text, ':' ∈ g)) :
    fieldGroups? text = none := by
  cases hg : fieldGroups? text with
  | none => rfl
  | some gs =>
    obtain ⟨rfl, htwo, hcolon⟩ := fieldGroups?_eq_some hg
    exact absurd ⟨htwo, hcolon⟩ h

theorem fieldGroups?_intercalate {gs : List (List Char)} (two : 2 ≤ gs.length)
    (hblank : ∀ g ∈ gs, ∀ c ∈ g, isBlank c = false) (hcolon : ∀ g ∈ gs, ':' ∈ g) :
    fieldGroups? ([' '].intercalate gs) = some gs := by
  have hwords : words ([' '].intercalate gs) = gs :=
    words_intercalate fun g hg => ⟨List.ne_nil_of_mem (hcolon g hg), hblank g hg⟩
  simp only [fieldGroups?, hwords]
  exact if_pos ⟨two, by simpa using hcolon⟩

/-- A text is read as a property at its first colon. -/
theorem pathAndRest?_eq_some {names : List String} (h : pathAndRest? text = some (names, t)) :
    ∃ path, text = path ++ ':' :: t ∧ ':' ∉ path ∧
      names = ((trim path).splitOn '.').map String.ofList := by
  unfold pathAndRest? at h
  split at h
  · rename_i c rest hrest
    obtain ⟨rfl, rfl⟩ := Prod.mk.inj (Option.some.inj h)
    have hc : c = ':' := by
      have hne : text.dropWhile (fun x => decide (x ≠ ':')) ≠ [] := by
        rw [hrest]
        exact List.cons_ne_nil c rest
      have hhead := List.head_dropWhile_not (fun x => decide (x ≠ ':')) hne
      simp only [hrest, List.head_cons] at hhead
      simpa using hhead
    subst hc
    refine ⟨text.takeWhile (· ≠ ':'), ?_, ?_, rfl⟩
    · rw [← hrest, List.takeWhile_append_dropWhile]
    · intro hmem
      simpa using List.mem_takeWhile_imp hmem
  · cases h

theorem pathAndRest?_append {path : List Char} (h : ':' ∉ path) (rest : List Char) :
    pathAndRest? (path ++ ':' :: rest) =
      some (((trim path).splitOn '.').map String.ofList, rest) := by
  have hall : ∀ c ∈ path, (decide (c ≠ ':')) = true := by
    intro c hc
    exact decide_eq_true (fun he => h (he ▸ hc))
  have hdrop : (path ++ ':' :: rest).dropWhile (fun c => decide (c ≠ ':')) = ':' :: rest := by
    rw [List.dropWhile_append_of_pos hall]
    rfl
  have htake : (path ++ ':' :: rest).takeWhile (fun c => decide (c ≠ ':')) = path := by
    rw [List.takeWhile_append_of_pos hall]
    simp
  simp only [pathAndRest?, hdrop, htake]

/-- A path without points is a single name. -/
theorem pathAndRest?_single {path : List Char} (hcolon : ':' ∉ path) (hpoint : '.' ∉ path)
    (hstart : ∀ c ∈ path.head?, isBlank c = false) (hend : ∀ c ∈ path.getLast?, isBlank c = false)
    (rest : List Char) :
    pathAndRest? (path ++ ':' :: rest) = some ([String.ofList path], rest) := by
  rw [pathAndRest?_append hcolon, trim_eq_self hstart hend, List.splitOn_eq_singleton hpoint,
    List.map_singleton]

theorem suffix_of_pathAndRest? {names : List String} (h : pathAndRest? text = some (names, t)) :
    t <:+ text ∧ t.length < text.length := by
  obtain ⟨path, rfl, -, -⟩ := pathAndRest?_eq_some h
  refine ⟨(List.suffix_cons ':' t).trans (List.suffix_append path (':' :: t)), ?_⟩
  simp
  omega

end Pattern

end Sift
