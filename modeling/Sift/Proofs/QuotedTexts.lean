import Mathlib.Data.List.TakeWhile
import Sift.Text.Quoted
import Sift.Unicode.Runs

/-!
# Quoted texts

What stands between quotes can be read back, one character after the other: an escape shows by its
second character what it stands for and how long it is, and a quote that is not escaped is none of
them, so it is the end.

**Main results.** Escapes are read back (`unescape_escape`), and a quoted text shows which text it is
and where it ends (`quote_append_inj`).
-/

namespace Sift.Text

open Unicode

/-! ## Hexadecimal digits -/

theorem exists_digitChar_of_mem_toDigits {n : Nat} :
    ∀ c ∈ Nat.toDigits 16 n, ∃ k < 16, c = Nat.digitChar k := by
  induction n using Nat.strongRecOn with
  | ind n ih =>
    intro c hc
    rw [Nat.toDigits_eq_if (by decide)] at hc
    split_ifs at hc with hlt
    · exact ⟨n, hlt, List.mem_singleton.1 hc⟩
    · rcases List.mem_append.1 hc with hc | hc
      · exact ih (n / 16) (by omega) c hc
      · exact ⟨n % 16, Nat.mod_lt n (by decide), List.mem_singleton.1 hc⟩

theorem hexDigit?_digitChar : ∀ k < 16, hexDigit? (Nat.digitChar k) = some k := by decide

theorem hexNumber_append (ds : List Char) (c : Char) :
    hexNumber (ds ++ [c]) = 16 * hexNumber ds + (hexDigit? c).getD 0 := by
  rw [hexNumber, List.foldl_append]
  rfl

/-- A number is read back from its hexadecimal digits. -/
theorem hexNumber_toDigits (n : Nat) : hexNumber (Nat.toDigits 16 n) = n := by
  induction n using Nat.strongRecOn with
  | ind n ih =>
    rw [Nat.toDigits_eq_if (by decide)]
    split_ifs with hlt
    · rw [← List.nil_append [n.digitChar], hexNumber_append, hexDigit?_digitChar n hlt]
      exact Nat.zero_add n
    · have hmod : n % 16 < 16 := Nat.mod_lt n (by decide)
      rw [hexNumber_append, hexDigit?_digitChar _ hmod, ih (n / 16) (by omega)]
      exact Nat.div_add_mod n 16

/-! ## Reading back -/

/-- Reads what an escape stands for, behind its backslash. -/
def unescapeTail : List Char → Option (Char × List Char)
  | '"' :: r => some ('"', r)
  | '\\' :: r => some ('\\', r)
  | 'n' :: r => some ('\n', r)
  | 'r' :: r => some ('\r', r)
  | 't' :: r => some ('\t', r)
  | '0' :: r => some (Char.ofNat 0, r)
  | 'u' :: '\x7b' :: r =>
    some (Char.ofNat (hexNumber (r.takeWhile (· ≠ '\x7d'))), (r.dropWhile (· ≠ '\x7d')).drop 1)
  | _ => none

/-- Reads one character inside quotes; there is none in front of a quote. -/
def unescape : List Char → Option (Char × List Char)
  | '\\' :: r => unescapeTail r
  | '"' :: _ => none
  | c :: r => some (c, r)
  | [] => none

variable {c : Char} {r r' s t : List Char}

theorem unescape_of_ne (hquote : c ≠ '"') (hbackslash : c ≠ '\\') (r : List Char) :
    unescape (c :: r) = some (c, r) := by
  unfold unescape
  split
  · next heq => exact absurd (List.cons.inj heq).1 hbackslash
  · next heq => exact absurd (List.cons.inj heq).1 hquote
  · next heq =>
    obtain ⟨rfl, rfl⟩ := List.cons.inj heq
    rfl
  · next heq => cases heq

theorem ne_brace_of_mem_hexDigits (c : Char) : ∀ d ∈ hexDigits c, d ≠ '\x7d' := by
  have hnone : ∀ k < 16, Nat.digitChar k ≠ '\x7d' := by decide
  intro d hd
  obtain ⟨k, hk, rfl⟩ := exists_digitChar_of_mem_toDigits d hd
  exact hnone k hk

theorem unescapeTail_hexDigits (c : Char) (r : List Char) :
    unescapeTail ('u' :: '\x7b' :: (hexDigits c ++ '\x7d' :: r)) = some (c, r) := by
  have hdigits : ∀ d ∈ hexDigits c, decide (d ≠ '\x7d') = true := fun d hd =>
    decide_eq_true (ne_brace_of_mem_hexDigits c d hd)
  have htake : (hexDigits c ++ '\x7d' :: r).takeWhile (· ≠ '\x7d') = hexDigits c := by
    rw [List.takeWhile_append_of_pos hdigits]
    simp
  have hdrop : (hexDigits c ++ '\x7d' :: r).dropWhile (· ≠ '\x7d') = '\x7d' :: r := by
    rw [List.dropWhile_append_of_pos hdigits]
    simp
  have hread : hexNumber (hexDigits c) = c.toNat := hexNumber_toDigits c.toNat
  rw [unescapeTail, htake, hdrop, hread, Char.ofNat_toNat]
  rfl

/-- **An escape is read back**, and nothing behind it. -/
theorem unescape_escape (c : Char) (r : List Char) : unescape (escape c ++ r) = some (c, r) := by
  unfold escape
  split_ifs with hquote hbackslash hfeed hreturn htab hnul hvisible
  · rw [hquote]
    rfl
  · rw [hbackslash]
    rfl
  · rw [hfeed]
    rfl
  · rw [hreturn]
    rfl
  · rw [htab]
    rfl
  · rw [hnul]
    rfl
  · exact unescape_of_ne hquote hbackslash r
  · have happend : ['\\', 'u', '\x7b'] ++ hexDigits c ++ ['\x7d'] ++ r =
        '\\' :: 'u' :: '\x7b' :: (hexDigits c ++ '\x7d' :: r) := by simp
    rw [happend]
    exact unescapeTail_hexDigits c r

theorem escape_append_ne_quote (c : Char) (r r' : List Char) : '"' :: r ≠ escape c ++ r' := by
  intro h
  have hread := unescape_escape c r'
  rw [← h] at hread
  cases hread

theorem escape_append_inj {d : Char} (h : escape c ++ r = escape d ++ r') : c = d ∧ r = r' := by
  have hread := unescape_escape c r
  rw [h, unescape_escape d r'] at hread
  obtain ⟨rfl, rfl⟩ := Prod.mk.inj (Option.some.inj hread)
  exact ⟨rfl, rfl⟩

theorem flatMap_escape_append_inj
    (h : s.flatMap escape ++ '"' :: r = t.flatMap escape ++ '"' :: r') : s = t ∧ r = r' := by
  induction s generalizing t with
  | nil =>
    cases t with
    | nil => exact ⟨rfl, (List.cons.inj h).2⟩
    | cons d t =>
      rw [List.flatMap_cons, List.append_assoc] at h
      exact absurd h (escape_append_ne_quote d r _)
  | cons c s ih =>
    rw [List.flatMap_cons, List.append_assoc] at h
    cases t with
    | nil => exact absurd h.symm (escape_append_ne_quote c r' _)
    | cons d t =>
      rw [List.flatMap_cons, List.append_assoc] at h
      obtain ⟨rfl, hrest⟩ := escape_append_inj h
      obtain ⟨rfl, hend⟩ := ih hrest
      exact ⟨rfl, hend⟩

theorem quote_append (s r : List Char) :
    quote s ++ r = '"' :: (s.flatMap escape ++ '"' :: r) := by
  simp [quote]

/-- **A quoted text shows which text it is and where it ends.** -/
theorem quote_append_inj (h : quote s ++ r = quote t ++ r') : s = t ∧ r = r' := by
  rw [quote_append, quote_append] at h
  exact flatMap_escape_append_inj (List.cons.inj h).2

end Sift.Text
