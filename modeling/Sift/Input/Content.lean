/-!
# Contents

A file, or standard input, holds bytes, or it cannot be read. Its text is encoded in UTF-8, and
bytes that are no text cannot be read either.

**Causes.** Why something cannot be done is said by whoever has tried: the system about a file, the
reader of documents about a text. What they say stands behind a report, on the same line.
-/

namespace Sift

/-- What is said about why something has failed, without an end of line. -/
structure Cause where
  text : String
  inline : '\n' ∉ text.toList
  deriving DecidableEq

namespace Cause

/-- A text as a cause, without its ends of lines. -/
def ofText (s : String) : Cause where
  text := String.ofList (s.toList.filter (· ≠ '\n'))
  inline := by simp

/-- What is said about bytes that are no text. -/
def notUTF8 : Cause := ⟨"stream did not contain valid UTF-8", by decide⟩

end Cause

/-- What there is to be read: bytes, or nothing, for a cause. -/
inductive Content where
  | bytes (b : ByteArray)
  | unreadable (cause : Cause)

namespace Content

instance : Coe ByteArray Content := ⟨bytes⟩

/-- The text that is read, or why there is none. -/
def text : Content → Except Cause String
  | bytes b =>
    match String.fromUTF8? b with
    | some s => .ok s
    | none => .error .notUTF8
  | unreadable cause => .error cause

/-- What is there to be read after everything has been read. -/
def rest : Content → Content
  | bytes _ => bytes ByteArray.empty
  | unreadable cause => unreadable cause

end Content

end Sift
