import Sift.Regex.Form
import Sift.Unicode.Encoding

/-!
# How matches start

The matches of a form start with certain texts. Where few texts are enough to tell all matches
apart from everything else, `Form.listing?` gives them: a text has a match exactly if one of them
occurs in it. A text that begins with an earlier one of the list adds nothing to it, and so what
follows it in the form, however large, does not matter.

**Limits.** Starts are followed only so far: through sets of ten characters, ten rounds of a
repetition, a hundred bytes and 250 starts at once.
-/

namespace Sift.Regex

open Sift.Unicode

/-- How a match starts: with a text that is the whole match, or with the first bytes of it. -/
inductive Start where
  | whole (text : List Char)
  | front (bytes : List Nat)

namespace Start

/-- The bytes of a start. -/
def bytes : Start → List Nat
  | whole text => encodeText text
  | front bytes => bytes

/-- Whether a start is a whole match. -/
def isWhole : Start → Bool
  | whole _ => true
  | front _ => false

/-- The start of a match that goes on. -/
def opened (s : Start) : Start := front s.bytes

/-- A start with no more than some bytes. -/
def cut (n : Nat) (s : Start) : Start :=
  if s.bytes.length ≤ n then s else front (s.bytes.take n)

/-- What the match starts with if a whole match is followed by another start. -/
def append : Start → Start → Start
  | whole text, whole next => whole (text ++ next)
  | whole text, front next => front (encodeText text ++ next)
  | front bytes, _ => front bytes

/-- A start in front of others, which is one with the next one if both have the same bytes. -/
def cons (s : Start) : List Start → List Start
  | next :: rest =>
    if s.bytes = next.bytes then (if s.isWhole && next.isWhole then s else s.opened) :: rest
    else s :: next :: rest
  | [] => [s]

/-- The starts, neighbours with the same bytes being one. -/
def merge (starts : List Start) : List Start := starts.foldr cons []

/-- The starts, each no longer than some bytes. -/
def cutAll (n : Nat) (starts : List Start) : List Start := starts.map (cut n)

/-- The starts without those that have one before them as their beginning. -/
def withoutCovered (starts : List Start) : List Start :=
  (starts.foldl (fun kept s =>
    if kept.any fun (k : Start) => k.bytes.isPrefixOf s.bytes then kept else s :: kept) []).reverse

end Start

/-- The starts of all matches, in the order of preference; `none` if there are too many. -/
abbrev Starts := Option (List Start)

namespace Starts

/-- The greatest number of characters of a set that is followed. -/
def maxMembers : Nat := 10

/-- The greatest number of rounds that is followed. -/
def maxRounds : Nat := 10

/-- The greatest number of bytes of a start. -/
def maxBytes : Nat := 100

/-- The greatest number of starts. -/
def maxCount : Nat := 250

/-- The start of the empty match. -/
def epsilon : Starts := some [.whole []]

/-- The starts of matches that go on. -/
def opened (a : Starts) : Starts := a.map fun starts => starts.map Start.opened

/-- Whether a start is a whole match, so that what follows it matters. -/
def isExtensible (a : Starts) : Bool := a.any fun starts => starts.any Start.isWhole

/-- The starts of one form and those of another one. -/
def union (a b : Starts) : Starts :=
  match a, b with
  | some a, some b =>
    if a.length + b.length ≤ maxCount then some (Start.merge (a ++ b))
    else
      let a := Start.merge (Start.cutAll 4 a)
      let b := Start.merge (Start.cutAll 4 b)
      if a.length + b.length ≤ maxCount then some (Start.merge (a ++ b)) else none
  | _, _ => none

/-- The starts of one form followed by another one. -/
def cross (a b : Starts) : Starts :=
  match a with
  | none => none
  | some starts =>
    match b.filter fun next => starts.length * next.length ≤ maxCount with
    | none =>
      if starts.any fun s => s.bytes.isEmpty then none
      else opened (some starts)
    | some next =>
      some (Start.cutAll maxBytes (Start.merge (starts.flatMap fun s =>
        if s.isWhole then next.map s.append else [s])))

/-- The starts of some rounds. -/
def rounds (a : Starts) : (count : Nat) → (sofar : Starts) → Starts
  | 0, sofar => sofar
  | count + 1, sofar => if sofar.isExtensible then rounds a count (sofar.cross a) else sofar

end Starts

namespace Form

/-- The starts of the matches of a set. -/
def startsOfSet (s : CodeSet) : Starts :=
  if s.ranges.foldl (fun n r => n + (r.2 + 1 - r.1)) 0 ≤ Starts.maxMembers then
    some (s.ranges.flatMap fun r =>
      (List.range (r.2 + 1 - r.1)).map fun i => .whole [Char.ofNat (r.1 + i)])
  else none

mutual

/-- The starts of the matches of a form. -/
def starts : Form → Starts
  | empty => .epsilon
  | look _ => .epsilon
  | literal text => some [(Start.whole text).cut Starts.maxBytes]
  | set s _ => startsOfSet s
  | repetition body least most greedy =>
    let once := starts body
    if least = 0 then
      let more := if most = some 1 then once else once.opened
      if greedy then more.union .epsilon else Starts.epsilon.union more
    else
      let first := once.rounds (min least Starts.maxRounds) .epsilon
      if most = some least ∧ least ≤ Starts.maxRounds then first else first.opened
  | capture body => starts body
  | concat parts => startsOfSequence .epsilon parts
  | alternation branches => startsOfBranches (some []) branches

/-- The starts of a sequence behind others. -/
def startsOfSequence (sofar : Starts) : List Form → Starts
  | [] => sofar
  | f :: rest =>
    if sofar.isExtensible then startsOfSequence (sofar.cross (starts f)) rest else sofar

/-- The starts of branches after others. -/
def startsOfBranches (sofar : Starts) : List Form → Starts
  | [] => sofar
  | f :: rest => startsOfBranches (sofar.union (starts f)) rest

end

end Form

/-! ## Lists of matches -/

namespace Start

/-- The bytes that occur so often in texts that a search does not start from one of them alone. -/
def isFrequent (byte : Nat) : Bool :=
  0x80 ≤ byte ||
    (" \n\r(),-./0129:_abcdefghilmnoprstuvxy|".toList.any fun c => c.toNat = byte)

/-- What all starts begin with. -/
def commonBytes : List Start → List Nat
  | [] => []
  | s :: rest => rest.foldl (fun common next =>
      ((common.zip next.bytes).takeWhile fun p => p.1 = p.2).map (·.1)) s.bytes

/-- The starts cut to what all of them begin with, if a search for that alone is better. -/
def focus (several : Bool) (starts : List Start) : List Start :=
  let common := commonBytes starts
  let isFast := starts.all isWhole && starts.length ≤ 16
  if several ∧ 1 ≤ common.length ∧ common.length ≤ 3 ∧ ¬ common.head?.any isFrequent then
    merge (cutAll 1 starts)
  else if 4 < common.length ∨ (1 < common.length ∧ ¬ isFast) then
    merge (cutAll common.length starts)
  else starts

/-- The starts cut until there are few of them. Every step says to how many bytes the starts are
cut if there are more of them than it allows. -/
def shrink : (steps : List (Nat × Nat)) → List Start → List Start
  | [], starts => starts
  | (bytes, most) :: steps, starts =>
    if starts.length ≤ most then starts
    else shrink steps (withoutCovered (cutAll bytes starts))

/-- The starts if they are all there is to search for: whole matches that it does not pay to cut.
-/
def complete? (starts : List Start) : Option (List Start) :=
  let shrunk := shrink [(5, 10), (4, 10), (3, 64), (2, 64), (1, 10)] starts
  if starts.isEmpty ∨ ¬ starts.all isWhole then none
  else if shrunk.all isWhole ∨ (shrunk.any fun s => s.bytes.length ≤ 2) ∨ 64 < shrunk.length then
    some starts
  else none

/-- The text of a start that is a whole match. -/
def text? : Start → Option (List Char)
  | whole text => some text
  | front _ => none

end Start

namespace Form

/-- The number of words from which on a list of words is searched for as such. -/
def manyWords : Nat := 3000

/-- The texts that tell all matches, if few are enough or if the form lists many words. -/
def listing? (f : Form) : Option (List (List Char)) :=
  if ¬ f.isPlain then none
  else
    let few := f.starts.bind fun starts =>
      let starts := Start.merge starts
      if starts.any fun s => s.bytes.isEmpty then none
      else (Start.complete? (Start.focus (1 < starts.length) (Start.withoutCovered starts))).bind
        fun starts => starts.mapM Start.text?
    few <|>
      match f with
      | alternation branches =>
        if manyWords ≤ branches.length then branches.mapM text? else none
      | _ => none

end Form

end Sift.Regex
