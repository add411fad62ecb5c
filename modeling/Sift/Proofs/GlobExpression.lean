import Sift.Proofs.BehindEnd
import Sift.Proofs.CaseVariants
import Sift.Proofs.FormLanguage
import Sift.Pattern.Glob
import Sift.Regex.Text

/-!
# Globs as regular expressions

A glob is searched as a regular expression: its text is translated into the text of an expression
(`translate`), and that text is read like any other one. This leads back to the glob.

**Reading.** Every part of the glob is read as what it stands for, since literal characters are
escaped where they would mean something else, and since no character behind a star makes it lazy
(`read?_source`). Under the flags of the glob it has the form of the part (`meaning?_written`).

**Main result.** The expression occurs in a text exactly if the glob covers the whole text
(`occurs_form_iff`).
-/

namespace Sift

/-- The regular expression that a text is, if case is ignored or not from its start on. -/
def Regex.ofTextUnder? (ignoreCase : Bool) (text : List Char) : Option Regex :=
  (Reader.read? text).bind fun e =>
    (e.meaning? { Flags.initial with caseInsensitive := ignoreCase }).bind fun (f, _) => ofForm? f

/-- Case is respected where nothing else is said. -/
theorem Regex.ofTextUnder?_false (text : List Char) : ofTextUnder? false text = ofText? text := rfl

namespace Glob

open Regex Unicode

variable {ic : Bool} {c : Char} {part : Part} {parts : List Part} {text rest : List Char}
  {a b : Option Char}

/-! ## The translation -/

/-- A text in which no character has a meaning of its own. -/
def escaped (text : List Char) : List Char :=
  text.flatMap fun c => if needsEscape c then ['\\', c] else [c]

/-- The translation of the rest of a glob. The characters since the last wildcard are in `run`;
they are escaped and written down when the next one comes. -/
def translateFrom (run : List Char) : List Char → List Char
  | [] => escaped run ++ ['$']
  | '*' :: rest => escaped run ++ ['.', '*'] ++ translateFrom [] rest
  | '?' :: rest => escaped run ++ ['.'] ++ translateFrom [] rest
  | c :: rest => translateFrom (run ++ [c]) rest

/-- The text of a regular expression for the text of a glob. -/
def translate (text : List Char) : List Char :=
  ['(', '?', 's', ')', '^'] ++ translateFrom [] text

theorem translateFrom_eq (run text : List Char) :
    translateFrom run text =
      escaped run ++ (text.map Part.ofChar).flatMap Part.source ++ ['$'] := by
  fun_induction translateFrom run text with
  | case1 run => simp
  | case2 run rest ih => simp [ih, escaped, Part.ofChar, Part.source]
  | case3 run rest ih => simp [ih, escaped, Part.ofChar, Part.source]
  | case4 run c rest hstar hquery ih =>
    have hchar : Part.ofChar c = .char c := by
      unfold Part.ofChar
      rw [if_neg (by rintro rfl; exact hstar rfl), if_neg (by rintro rfl; exact hquery rfl)]
    simp [ih, escaped, hchar, Part.source]

/-- **Collecting characters does not change the translation.** -/
theorem translate_eq_source (ic : Bool) (text : List Char) :
    translate text = (⟨text.map Part.ofChar, ic⟩ : Glob).source := by
  simp [translate, source, translateFrom_eq, escaped]

/-! ## Reading -/

/-- What is written for a part. -/
def Part.written : Part → Expression
  | anyRun => .repetition .dot 0 none false
  | anyOne => .dot
  | char c => .atom (.letter ⟨c, false⟩)

/-- What is written for a glob. -/
def written (parts : List Part) : List Expression :=
  [.setFlags [(.dotMatchesLineFeed, true)], .atom (.anchor .lineStart)] ++
    parts.map Part.written ++ [.atom (.anchor .lineEnd)]

theorem escape_of_needsEscape (h : needsEscape c = true) (rest : List Char) :
    Reader.escape false (c :: rest) = some (.letter ⟨c, false⟩, rest) := by
  simp only [needsEscape, List.contains_eq_mem, List.mem_cons, List.not_mem_nil, or_false,
    decide_eq_true_eq] at h
  rcases h with rfl | rfl | rfl | rfl | rfl | rfl | rfl | rfl | rfl | rfl | rfl | rfl | rfl | rfl |
    rfl | rfl | rfl | rfl <;> rfl

/-- No part is read as if it made a repetition lazy. -/
theorem laziness_source (parts : List Part) :
    Reader.laziness (parts.flatMap Part.source ++ ['$']) =
      (false, parts.flatMap Part.source ++ ['$']) := by
  cases parts with
  | nil => rfl
  | cons part parts =>
    cases part with
    | anyRun | anyOne => rfl
    | char c =>
      rw [List.flatMap_cons, Part.source]
      split_ifs with h
      · rfl
      · unfold Reader.laziness
        split
        · next heq =>
          obtain ⟨rfl, -⟩ := List.cons.inj heq
          exact absurd rfl h
        · rfl

/-- The steps that the reader takes for a part. -/
def Part.steps : Part → Nat
  | anyRun => 2
  | _ => 1

theorem steps_le_length (part : Part) : part.steps ≤ part.source.length := by
  cases part with
  | anyRun | anyOne => exact Nat.le_refl _
  | char c =>
    rw [Part.source]
    split_ifs <;> simp [Part.steps]

/-- **A part is read as what it stands for.** -/
theorem expression_part (part : Part) (parts : List Part) (fuel : Nat) (items : List Expression) :
    Reader.expression (fuel + part.steps) ⟨false, [], items⟩ [] []
        (part.source ++ (parts.flatMap Part.source ++ ['$'])) =
      Reader.expression fuel ⟨false, [], part.written :: items⟩ [] []
        (parts.flatMap Part.source ++ ['$']) := by
  have hlazy := laziness_source parts
  generalize parts.flatMap Part.source ++ ['$'] = rest at hlazy ⊢
  cases part with
  | anyRun =>
    have hdot : Reader.expression (fuel + 2) ⟨false, [], items⟩ [] [] ('.' :: '*' :: rest) =
        Reader.expression (fuel + 1) ⟨false, [], .dot :: items⟩ [] [] ('*' :: rest) := rfl
    have hstar : Reader.expression (fuel + 1) ⟨false, [], .dot :: items⟩ [] [] ('*' :: rest) =
        Reader.expression fuel
          ⟨false, [], .repetition .dot 0 none (Reader.laziness rest).1 :: items⟩
          [] [] (Reader.laziness rest).2 := rfl
    rw [hlazy] at hstar
    exact hdot.trans hstar
  | anyOne => rfl
  | char c =>
    rw [Part.source]
    split_ifs with h
    · have hbackslash : Reader.expression (fuel + 1) ⟨false, [], items⟩ [] [] ('\\' :: c :: rest) =
          (Reader.escape false (c :: rest)).bind fun read =>
            Reader.expression fuel ⟨false, [], .atom read.1 :: items⟩ [] [] read.2 := rfl
      rw [escape_of_needsEscape h] at hbackslash
      exact hbackslash
    · exact Reader.expression_letter (Bool.not_eq_true _ ▸ h) fuel items rest

/-- The parts are read one after the other, up to the dollar sign. -/
theorem expression_source (parts : List Part) {fuel : Nat}
    (hfuel : (parts.flatMap Part.source ++ ['$']).length < fuel) (items : List Expression) :
    Reader.expression fuel ⟨false, [], items⟩ [] [] (parts.flatMap Part.source ++ ['$']) =
      some (Reader.Progress.finish
        ⟨false, [], .atom (.anchor .lineEnd) :: (parts.map Part.written).reverse ++ items⟩) := by
  induction parts generalizing fuel items with
  | nil =>
    obtain ⟨fuel, rfl⟩ : ∃ n, fuel = n + 2 := ⟨fuel - 2, by simp at hfuel; omega⟩
    rfl
  | cons part parts ih =>
    rw [List.flatMap_cons, List.append_assoc, List.length_append] at hfuel
    have hsteps := steps_le_length part
    obtain ⟨fuel, rfl⟩ : ∃ n, fuel = n + part.steps := ⟨fuel - part.steps, by omega⟩
    rw [List.flatMap_cons, List.append_assoc, expression_part, ih (by omega), List.map_cons,
      List.reverse_cons]
    simp

theorem depth_written (part : Part) : part.written.depth ≤ 1 := by
  cases part with
  | anyRun => exact Nat.le_refl _
  | anyOne | char => exact Nat.zero_le _

theorem depthOfList_written (parts : List Part) :
    Expression.depthOfList (parts.map Part.written ++ [.atom (.anchor .lineEnd)]) ≤ 1 := by
  induction parts with
  | nil => exact Nat.zero_le _
  | cons part parts ih => exact Nat.max_le.2 ⟨depth_written part, ih⟩

/-- **The translation is read as the glob.** -/
theorem read?_source (g : Glob) : Reader.read? g.source = some (.sequence (written g.parts)) := by
  have hopening : ∀ (fuel : Nat) (rest : List Char),
      Reader.expression (fuel + 2) (.start false) [] []
          (['(', '?', 's', ')', '^'] ++ rest) =
        Reader.expression fuel ⟨false, [], [.atom (.anchor .lineStart),
          .setFlags [(.dotMatchesLineFeed, true)]]⟩ [] [] rest := fun _ _ => rfl
  have hdepth : (Expression.sequence (written g.parts)).depth ≤ Expression.maxDepth := by
    have hle : Expression.depthOfList (written g.parts) ≤ 1 :=
      Nat.max_le.2 ⟨Nat.zero_le _, Nat.max_le.2 ⟨Nat.zero_le _, depthOfList_written g.parts⟩⟩
    exact Nat.le_trans (Nat.succ_le_succ hle) (by decide)
  have hlength : g.source.length + 1 =
      (g.parts.flatMap Part.source ++ ['$']).length + 4 + 2 := by
    simp [source]
  have hfinish : Reader.Progress.finish ⟨false, [], .atom (.anchor .lineEnd) ::
      (g.parts.map Part.written).reverse ++ [.atom (.anchor .lineStart),
        .setFlags [(.dotMatchesLineFeed, true)]]⟩ = .sequence (written g.parts) := by
    simp [Reader.Progress.finish, Reader.Progress.endBranch, Expression.ofItems,
      Expression.ofBranches, written]
  rw [Reader.read?, hlength, source, List.append_assoc, hopening,
    expression_source _ (by omega), hfinish, Option.filter_some, if_pos (decide_eq_true hdepth)]

/-! ## Meaning -/

/-- The flags behind the first setting, which lets a dot stand for a line feed. -/
def dottedFlags (ic : Bool) : Flags :=
  { Flags.initial with caseInsensitive := ic, dotMatchesLineFeed := true }

/-- **Every part means its form.** -/
theorem meaning?_written (ic : Bool) (part : Part) :
    part.written.meaning? (dottedFlags ic) = some (part.form ic, dottedFlags ic) := by
  cases part with
  | anyRun | anyOne => rfl
  | char c => cases ic <;> rfl

theorem meanings?_map_written (ic : Bool) (parts : List Part) :
    Expression.meanings? (dottedFlags ic) (parts.map Part.written ++ [.atom (.anchor .lineEnd)]) =
      some (parts.map (Part.form ic) ++ [.look .textEnd], dottedFlags ic) := by
  induction parts with
  | nil => rfl
  | cons part parts ih =>
    rw [List.map_cons, List.cons_append, Expression.meanings?, meaning?_written, Option.bind_some]
    simp only [ih, Option.map_some, List.map_cons, List.cons_append]

/-- **The expression that is read has the form of the glob.** -/
theorem meaning?_source (g : Glob) :
    (Expression.sequence (written g.parts)).meaning?
        { Flags.initial with caseInsensitive := g.ignoreCase } =
      some (g.form, dottedFlags g.ignoreCase) := by
  have hfront : Expression.meanings? { Flags.initial with caseInsensitive := g.ignoreCase }
      (written g.parts) =
      some ([.empty, .look .textStart] ++ (g.parts.map (Part.form g.ignoreCase) ++
        [.look .textEnd]), dottedFlags g.ignoreCase) := by
    have hflags : (Expression.setFlags [(.dotMatchesLineFeed, true)]).meaning?
        { Flags.initial with caseInsensitive := g.ignoreCase } =
          some (.empty, dottedFlags g.ignoreCase) := rfl
    have hstart : (Expression.atom (.anchor .lineStart)).meaning? (dottedFlags g.ignoreCase) =
        some (.look .textStart, dottedFlags g.ignoreCase) := rfl
    simp only [written, List.cons_append, List.nil_append, Expression.meanings?, hflags, hstart,
      Option.bind_some, meanings?_map_written, Option.map_some]
  rw [Expression.meaning?, hfront]
  rfl

theorem isPlain_join_look (l : Look) (forms : List Form) :
    (Form.join (Form.look l :: forms)).isPlain = false := by
  have hparts : ((Form.look l :: forms).flatMap Form.parts).foldr Form.consPart [] =
      Form.look l :: (forms.flatMap Form.parts).foldr Form.consPart [] := rfl
  rw [Form.join, hparts]
  cases (forms.flatMap Form.parts).foldr Form.consPart [] <;> rfl

/-- A form with an assertion has no list of matches to take its place. -/
theorem listing?_form (g : Glob) : g.form.listing? = none := by
  have hplain : g.form.isPlain = false := isPlain_join_look _ _
  unfold Form.listing?
  rw [hplain]
  rfl

/-- **The translation is an expression if the glob is not too large**, and it is that of the
glob. -/
theorem ofTextUnder?_source (g : Glob) : Regex.ofTextUnder? g.ignoreCase g.source =
    if g.fits then some g.form.regex else none := by
  simp only [Regex.ofTextUnder?, read?_source, Option.bind_some, meaning?_source, ofForm?,
    listing?_form, Option.map_none]
  rfl

/-! ## Language -/

/-- The texts that a part can stand for. -/
def Part.Takes (ic : Bool) : Part → List Char → Prop
  | anyRun, _ => True
  | anyOne, text => ∃ c, text = [c]
  | char d, text => ∃ c, text = [c] ∧ sameChar ic d c = true

theorem covers_cons_iff : Covers ic (part :: parts) text ↔
    ∃ front rest, text = front ++ rest ∧ part.Takes ic front ∧ Covers ic parts rest := by
  cases part with
  | anyRun => simp [Covers, Part.Takes]
  | anyOne =>
    constructor
    · rintro ⟨c, rest, rfl, h⟩
      exact ⟨[c], rest, rfl, ⟨c, rfl⟩, h⟩
    · rintro ⟨_, rest, rfl, ⟨c, rfl⟩, h⟩
      exact ⟨c, rest, rfl, h⟩
  | char d =>
    constructor
    · rintro ⟨c, rest, rfl, hsame, h⟩
      exact ⟨[c], rest, rfl, ⟨c, rfl, hsame⟩, h⟩
    · rintro ⟨_, rest, rfl, ⟨c, rfl, hsame⟩, h⟩
      exact ⟨c, rest, rfl, hsame, h⟩

/-- The form of a dot accepts every character. -/
theorem accepts_anyOne : Accepts (Part.anyOne.form ic).regex b text a ↔ ∃ c, text = [c] := by
  rw [Part.form, Form.accepts_ofSet true CodeSet.ascending_everything]
  simp only [CodeSet.contains_everything, and_true]

theorem accepts_anyRun (b : Option Char) (text : List Char) (a : Option Char) :
    Accepts (Part.anyRun.form ic).regex b text a := by
  have hform : (Part.anyRun.form ic).regex =
      .rounds (Part.anyOne.form ic).regex 0 none := rfl
  rw [hform]
  induction text generalizing b with
  | nil => exact .stop
  | cons c text ih =>
    change Accepts _ b ([c] ++ text) a
    exact .round (by simp) (accepts_anyOne.2 ⟨c, rfl⟩) (ih _)

/-- **The form of a part accepts what the part can stand for.** -/
theorem accepts_form_iff (ic : Bool) (part : Part) :
    Accepts (part.form ic).regex b text a ↔ part.Takes ic text := by
  cases part with
  | anyRun => exact iff_of_true (accepts_anyRun b text a) trivial
  | anyOne => exact accepts_anyOne
  | char d =>
    simp only [Part.form, Part.Takes, sameChar]
    cases ic with
    | false =>
      have hrange : (CodeSet.range d.toNat d.toNat).Ascending :=
        CodeSet.ascending_ofRanges (CodeSet.ascendingRanges_singleton _)
      simp only [Bool.false_eq_true, ↓reduceIte, Form.accepts_ofSet true hrange,
        CodeSet.contains_range_self]
    | true =>
      simp only [↓reduceIte, Form.accepts_ofSet true (CaseVariant.ascending_setOf d),
        CaseVariant.contains_setOf]

/-- Up to the dollar sign, the forms accept what the parts cover. -/
theorem accepts_parts_iff (parts : List Part) :
    Accepts (concatAll ((parts.map (Part.form ic) ++ [Form.look .textEnd]).map Form.regex))
        b text a ↔
      a = none ∧ Covers ic parts text := by
  induction parts generalizing b text with
  | nil =>
    change Accepts (Regex.look .textEnd) b text a ↔ _
    rw [accepts_look_iff, and_comm]
    exact and_congr_left' beq_iff_eq
  | cons part parts ih =>
    rw [List.map_cons, List.cons_append, List.map_cons, equivalent_concatAll_cons,
      accepts_concat_iff, covers_cons_iff]
    simp only [accepts_form_iff, ih]
    constructor
    · rintro ⟨front, rest, rfl, htakes, hend, hcovers⟩
      exact ⟨hend, front, rest, rfl, htakes, hcovers⟩
    · rintro ⟨hend, front, rest, rfl, htakes, hcovers⟩
      exact ⟨front, rest, rfl, htakes, hend, hcovers⟩

/-- The form accepts whole texts only. -/
theorem accepts_regex_form_iff (g : Glob) : Accepts g.form.regex b text a ↔
    b = none ∧ a = none ∧ Covers g.ignoreCase g.parts text := by
  rw [form, Form.equivalent_join, List.append_assoc, List.singleton_append, List.map_cons,
    equivalent_concatAll_cons, accepts_concat_iff]
  simp only [Form.regex, accepts_look_iff, accepts_parts_iff]
  constructor
  · rintro ⟨_, rest, rfl, ⟨rfl, hstart⟩, hend, hcovers⟩
    exact ⟨beq_iff_eq.1 hstart, hend, hcovers⟩
  · rintro ⟨rfl, hend, hcovers⟩
    exact ⟨[], text, rfl, ⟨rfl, rfl⟩, hend, hcovers⟩

/-- **The expression for a glob occurs in the texts that the glob covers.** -/
theorem occurs_form_iff (g : Glob) (text : List Char) :
    g.form.regex.Occurs text ↔ Covers g.ignoreCase g.parts text := by
  simp only [Occurs, accepts_regex_form_iff, List.getLast?_eq_none_iff, List.head?_eq_none_iff]
  constructor
  · rintro ⟨_, part, _, rfl, rfl, rfl, h⟩
    rwa [List.nil_append, List.append_nil]
  · exact fun h => ⟨[], text, [], (List.append_nil text).symm, rfl, rfl, h⟩

end Glob

end Sift
