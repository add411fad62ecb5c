import Sift.Number.Shortest

/-!
# Writing numbers

A number is written from its shortest decimal. **Plain notation** never uses an exponent, whole
numbers have no point, and zero keeps its sign. **Document notation** is that of floating-point
numbers in JSON: a whole number ends in `.0`, and numbers below `1e-5` or from `1e16` on have an
exponent with a sign.
-/

namespace Sift

namespace Number

/-- A number with the decimal point `point` places to the right of the first digit's left edge. -/
def positional (digits : List Char) (point : Int) (wholeSuffix : String) : String :=
  let n := digits.length
  if point ≤ 0 then
    "0." ++ String.ofList (List.replicate (-point).toNat '0' ++ digits)
  else if point.toNat < n then
    String.ofList (digits.take point.toNat) ++ "." ++ String.ofList (digits.drop point.toNat)
  else
    String.ofList (digits ++ List.replicate (point.toNat - n) '0') ++ wholeSuffix

/-- A number with one digit before the point and an exponent with a sign. -/
def scientific (digits : List Char) (point : Int) : String :=
  let mantissa := match digits with
    | [] => ""
    | [d] => String.ofList [d]
    | d :: ds => String.ofList (d :: '.' :: ds)
  let e := point - 1
  mantissa ++ (if e < 0 then "e-" else "e+") ++ toString e.natAbs

/-- The digits of a decimal and the place of its point. -/
def Decimal.layout (d : Decimal) : List Char × Int :=
  let digits := Nat.toDigits 10 d.digits
  (digits, digits.length + d.exponent)

/-- Puts the sign before a text. -/
def withSign (negative : Bool) (text : String) : String :=
  if negative then "-" ++ text else text

/-- Plain notation. -/
def display : Number → String
  | nan => "NaN"
  | signed negative m =>
    withSign negative <|
      if m.val = infinity then "inf"
      else if m.val = 0 then "0"
      else
        let (digits, point) := (shortest .up m.val).layout
        positional digits point ""

/-- Document notation. Documents hold finite numbers only. -/
def documentText : Number → String
  | nan => "null"
  | signed negative m =>
    if m.val = infinity then "null"
    else withSign negative <|
      if m.val = 0 then "0.0"
      else
        let (digits, point) := (shortest .even m.val).layout
        if -4 ≤ point ∧ point ≤ 16 then positional digits point ".0"
        else scientific digits point

end Number

end Sift
