import Sift.Proofs.GlobExpression
import Sift.Proofs.GlobLanguage
import Sift.Proofs.GlobSize
import Sift.Proofs.Marks

/-!
# Globs as patterns

A text with a wildcard that does not read like a regular expression is a glob. It is none of the
dialects in front of the globs unless it is a lone star or a negation, and as a glob it decides
about every text, so that no dialect behind the globs is asked.

**Main result.** A glob matches the texts that it covers and rejects all others, and so does the
regular expression into which it is translated (`verdict_glob`).
-/

namespace Sift

namespace Glob

variable {text : List Char}

theorem dotted_of_hasDottedWildcard (h : hasDottedWildcard text = true) :
    ['.', '*'] <:+: text ∨ ['.', '?'] <:+: text := by
  fun_induction hasDottedWildcard text with
  | case1 c d rest ih =>
    simp only [Bool.or_eq_true, Bool.and_eq_true, decide_eq_true_eq, isWildcard] at h
    rcases h with ⟨rfl, rfl | rfl⟩ | h
    · exact .inl ⟨[], rest, rfl⟩
    · exact .inr ⟨[], rest, rfl⟩
    · exact (ih h).imp List.infix_cons List.infix_cons
  | case2 text hshort => cases h

/-- A text is a glob if it has a wildcard and nothing in it reads like a regular expression. -/
theorem isGlob_of_plain (hwildcard : ∃ c ∈ text, c = '*' ∨ c = '?')
    (hplain : ∀ c ∈ text, c ∉ ['\\', '(', ')', '[', ']', '\x7b', '\x7d', '^', '$', '|', '+'])
    (hdotted : ¬ ['.', '*'] <:+: text ∧ ¬ ['.', '?'] <:+: text) : isGlob text = true := by
  have hany : text.any isWildcard = true := by
    obtain ⟨c, hc, hwild⟩ := hwildcard
    exact List.any_eq_true.2 ⟨c, hc, by simpa [isWildcard] using hwild⟩
  have hnone : text.any isExcluded = false := by
    refine List.any_eq_false.2 fun c hc => ?_
    simpa [isExcluded] using hplain c hc
  have hdots : hasDottedWildcard text = false := by
    rw [← Bool.not_eq_true]
    exact fun h => (dotted_of_hasDottedWildcard h).elim hdotted.1 hdotted.2
  simp only [isGlob, hany, hnone, hdots, Bool.not_false, Bool.and_self]

end Glob

namespace Pattern

variable {p : Pattern} {j : Judge} {g : List Char}

/-- **A glob decides about every text.** -/
theorem chainVerdict_glob (hs : p.settings.chain = .standard) (hglob : Glob.isGlob p.text = true)
    (htrim : Text.trim p.text ≠ ['*']) (hmark : (Text.trimStart p.text).head? ≠ some '!')
    (hfits : (⟨p.text.map Glob.Part.ofChar, p.settings.ignoreCase⟩ : Glob).fits = true)
    (s : String) (b : Bindings) :
    chainVerdict j p (.string s) b = (.ofBool
      ((⟨p.text.map Glob.Part.ofChar, p.settings.ignoreCase⟩ : Glob).covers s.toList), b) := by
  obtain ⟨c, hc, hmem, hdollar⟩ : ∃ c ∈ marks, c ∈ p.text ∧ c ≠ '$' := by
    simp only [Glob.isGlob, Bool.and_eq_true, List.any_eq_true, Glob.isWildcard, Bool.or_eq_true,
      decide_eq_true_eq] at hglob
    obtain ⟨⟨⟨c, hmem, rfl | rfl⟩, -⟩, -⟩ := hglob
    · exact ⟨'*', by decide, hmem, by decide⟩
    · exact ⟨'?', by decide, hmem, by decide⟩
  have hread : p.readGlob =
      some (.glob ⟨p.text.map Glob.Part.ofChar, p.settings.ignoreCase⟩) := by
    rw [readGlob, Glob.ofText?, if_pos hglob, Option.filter_some, if_pos hfits, Option.map_some]
  have hverdict : verdictFrom j p (Matcher.read p (.builtIn .glob)) (.string s) b (.builtIn .glob) =
      (.ofBool ((⟨p.text.map Glob.Part.ofChar, p.settings.ignoreCase⟩ : Glob).covers s.toList),
        b) := by
    simp only [verdictFrom, verdictOf, Matcher.read, Dialect.read, hread, judgeGlob]
  have hoperand : operandOfNegation? p.text = none := operandOfNegation?_eq_none hmark
  rw [chainVerdict_of_mark hs htrim hc hdollar hmem, List.map_cons,
    firstVerdict_cons_of_indeterminate (verdictFrom_negation hoperand _ b), List.map_cons]
  exact firstVerdict_cons_of_determinate hverdict (Verdict.ofBool_ne_indeterminate _) _

/-- **Globs match what they cover.** -/
theorem verdict_glob (mode : Mode) (ignoreCase : Bool)
    (hwildcard : ∃ c ∈ g, c = '*' ∨ c = '?')
    (hplain : ∀ c ∈ g, c ∉ ['\\', '(', ')', '[', ']', '\x7b', '\x7d', '^', '$', '|', '+'])
    (hdotted : ¬ ['.', '*'] <:+: g ∧ ¬ ['.', '?'] <:+: g) (htrim : Text.trim g ≠ ['*'])
    (hmark : (Text.trimStart g).head? ≠ some '!')
    (hfits : (⟨g.map Glob.Part.ofChar, ignoreCase⟩ : Glob).fits = true) (s : String) :
    (((root (.standardWith mode ignoreCase) g).run (.string s)).1 = .isMatch ↔
      Glob.Covers ignoreCase (g.map Glob.Part.ofChar) s.toList) ∧
    (((root (.standardWith mode ignoreCase) g).run (.string s)).1 = .mismatch ↔
      ¬ Glob.Covers ignoreCase (g.map Glob.Part.ofChar) s.toList) ∧
    ∃ r, Regex.ofTextUnder? ignoreCase (Glob.translate g) = some r ∧
      (r.Occurs s.toList ↔ Glob.Covers ignoreCase (g.map Glob.Part.ofChar) s.toList) := by
  have hglob : Glob.isGlob g = true := Glob.isGlob_of_plain hwildcard hplain hdotted
  have hverdict : ((root (.standardWith mode ignoreCase) g).run (.string s)).1 =
      .ofBool ((⟨g.map Glob.Part.ofChar, ignoreCase⟩ : Glob).covers s.toList) := by
    rw [verdict_root Chain.isBuiltIn_standard.isRegular,
      chainVerdict_glob (p := root (.standardWith mode ignoreCase) g) rfl hglob htrim hmark hfits]
    rfl
  have hcovers := Glob.covers_iff ⟨g.map Glob.Part.ofChar, ignoreCase⟩ s.toList
  have hexpression := Glob.ofTextUnder?_source ⟨g.map Glob.Part.ofChar, ignoreCase⟩
  rw [if_pos hfits, ← Glob.translate_eq_source] at hexpression
  rw [hverdict, ← hcovers, Bool.not_eq_true]
  exact ⟨Verdict.ofBool_eq_isMatch, Verdict.ofBool_eq_mismatch, _, hexpression,
    (Glob.occurs_form_iff _ _).trans hcovers.symm⟩

/-- A glob with both wildcards and a character that must be escaped. -/
def sampleGlob : List Char := ['a', '*', '?', '.', 'c']

theorem verdict_glob_sample :
    ((∃ c ∈ sampleGlob, c = '*' ∨ c = '?') ∧
      (∀ c ∈ sampleGlob,
        c ∉ ['\\', '(', ')', '[', ']', '\x7b', '\x7d', '^', '$', '|', '+']) ∧
      (¬ ['.', '*'] <:+: sampleGlob ∧ ¬ ['.', '?'] <:+: sampleGlob) ∧
      Text.trim sampleGlob ≠ ['*'] ∧ (Text.trimStart sampleGlob).head? ≠ some '!' ∧
      (⟨sampleGlob.map Glob.Part.ofChar, false⟩ : Glob).fits = true) ∧
    ((root (.standardWith .exact false) sampleGlob).run (.string "a\nb.c")).1 = .isMatch ∧
    ((root (.standardWith .exact false) sampleGlob).run (.string "a.cc")).1 = .mismatch ∧
    ∃ r, Regex.ofTextUnder? false (Glob.translate sampleGlob) = some r ∧
      r.Occurs "a\nb.c".toList := by
  have hwildcard : ∃ c ∈ sampleGlob, c = '*' ∨ c = '?' := ⟨'*', by decide, .inl rfl⟩
  have hplain : ∀ c ∈ sampleGlob,
      c ∉ ['\\', '(', ')', '[', ']', '\x7b', '\x7d', '^', '$', '|', '+'] := by
    have hall : sampleGlob.all (fun c => !Glob.isExcluded c) = true := by decide
    simpa [Glob.isExcluded] using hall
  have hdotted : ¬ ['.', '*'] <:+: sampleGlob ∧ ¬ ['.', '?'] <:+: sampleGlob := by decide
  have htrim : Text.trim sampleGlob ≠ ['*'] := by decide
  have hmark : (Text.trimStart sampleGlob).head? ≠ some '!' := by decide
  have hfits : (⟨sampleGlob.map Glob.Part.ofChar, false⟩ : Glob).fits = true :=
    Glob.fits_of_length_le (by decide)
  have hcovers : Glob.Covers false (sampleGlob.map Glob.Part.ofChar) "a\nb.c".toList :=
    (Glob.covers_iff ⟨sampleGlob.map Glob.Part.ofChar, false⟩ _).1 (by decide +kernel)
  have hrejects : ¬ Glob.Covers false (sampleGlob.map Glob.Part.ofChar) "a.cc".toList :=
    mt (Glob.covers_iff ⟨sampleGlob.map Glob.Part.ofChar, false⟩ _).2 (by decide +kernel)
  obtain ⟨hmatch, -, r, hr, hoccurs⟩ :=
    verdict_glob .exact false hwildcard hplain hdotted htrim hmark hfits "a\nb.c"
  obtain ⟨-, hmismatch, -⟩ :=
    verdict_glob .exact false hwildcard hplain hdotted htrim hmark hfits "a.cc"
  exact ⟨⟨hwildcard, hplain, hdotted, htrim, hmark, hfits⟩, hmatch.2 hcovers,
    hmismatch.2 hrejects, r, hr, hoccurs.2 hcovers⟩

end Pattern

end Sift
