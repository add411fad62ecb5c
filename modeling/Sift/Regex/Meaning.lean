import Sift.Regex.Class
import Sift.Regex.Form

/-!
# The meaning of expressions

Applies the flags of an expression. A setting of flags holds for what follows it in its group,
across the branches of an alternation, and ends with the group.
-/

namespace Sift.Regex

open Sift.Unicode

/-- The set of a letter outside a class. -/
def Letter.set? (f : Flags) (l : Letter) : Option CodeSet :=
  let n := l.char.toNat
  if !f.unicode && l.byte && 0x80 ≤ n then none
  else if !f.caseInsensitive then some (.range n n)
  else if f.unicode then some (CaseVariant.setOf l.char)
  else some (f.fold (.range n n))

/-- The characters that a dot stands for. -/
def dotSet? (f : Flags) : Option CodeSet :=
  if !f.unicode then none
  else if f.dotMatchesLineFeed then some .everything
  else if f.carriageReturn then some (CodeSet.ofRanges [(10, 10), (13, 13)]).complement
  else some (CodeSet.range 10 10).complement

/-- The assertion that an anchor makes. -/
def Anchor.look (f : Flags) : Anchor → Look
  | lineStart => if f.multiLine then .lineStart f.carriageReturn else .textStart
  | lineEnd => if f.multiLine then .lineEnd f.carriageReturn else .textEnd
  | textStart => .textStart
  | textEnd => .textEnd
  | boundary => .word .boundary f.unicode
  | noBoundary => .word .noBoundary f.unicode
  | wordStart => .word .start f.unicode
  | wordEnd => .word .stop f.unicode
  | wordStartHalf => .word .startHalf f.unicode
  | wordEndHalf => .word .stopHalf f.unicode

/-- The meaning of an atom. -/
def Atom.meaning? (f : Flags) : Atom → Option Form
  | letter l => (l.set? f).map (.ofSet f.unicode)
  | anchor a => some (.look (a.look f))
  | shorthand s negated => (f.negate? negated (s.set f.unicode)).map (.ofSet f.unicode)
  | property q negated => (q.under? f negated).map (.ofSet f.unicode)

namespace Expression

mutual

/-- The meaning of an expression, and the flags in force behind it. -/
def meaning? (f : Flags) : Expression → Option (Form × Flags)
  | nothing => some (.empty, f)
  | atom a => (a.meaning? f).map fun r => (r, f)
  | dot => (dotSet? f).map fun s => (.ofSet f.unicode s, f)
  | set negated contents =>
    ((contents.set? f).bind (f.foldAndNegate? negated)).map fun s => (.ofSet f.unicode s, f)
  | setFlags changes => some (.empty, f.apply changes)
  | group captures changes inner =>
    (meaning? (f.apply changes) inner).map fun (r, _) => (if captures then .capture r else r, f)
  | repetition inner least most isLazy =>
    (meaning? f inner).map fun (r, g) => (r.repeated least most (isLazy == g.swapGreed), g)
  | sequence items => (meanings? f items).map fun (rs, g) => (.join rs, g)
  | alternation branches => (meanings? f branches).map fun (rs, g) => (.alternate rs, g)

/-- The meanings of a list of expressions, the flags running on from one to the next. -/
def meanings? (f : Flags) : List Expression → Option (List Form × Flags)
  | [] => some ([], f)
  | item :: rest =>
    (meaning? f item).bind fun (r, g) =>
      (meanings? g rest).map fun (rs, h) => (r :: rs, h)

end

end Expression

end Sift.Regex
