import SqlCompose.Decimal.Shortest

/-!
# Texts of doubles

The positional text writes every digit in its place, without an exponent: `0.1`, `1`, and a one with
twenty zeros. The document text is positional between `10 ^ -5` and `10 ^ 16`, always with a
fraction, and has a signed exponent elsewhere: `100.0`, `1e+20`, `1.5e-7`.
-/

namespace SqlCompose.Decimal

/-- The digits in their places, with zeros up to the point where needed and no fraction without
digits. -/
def Digits.positional (d : Digits) : List Char :=
  let count : Int := d.digits.length
  if d.point ≤ 0 then '0' :: '.' :: List.replicate (-d.point).toNat '0' ++ d.digits
  else if count ≤ d.point then d.digits ++ List.replicate (d.point - count).toNat '0'
  else d.digits.take d.point.toNat ++ '.' :: d.digits.drop d.point.toNat

/-- A whole number with its sign, `+` also. -/
def signedText (n : Int) : List Char :=
  (if n < 0 then '-' else '+') :: Nat.toDigits 10 n.natAbs

/-- One digit before the point, the others behind it, and the exponent that puts the point back. -/
def Digits.scientific (d : Digits) : List Char :=
  let mantissa :=
    match d.digits with
    | [] => []
    | [c] => [c]
    | c :: rest => c :: '.' :: rest
  mantissa ++ 'e' :: signedText (d.point - 1)

end SqlCompose.Decimal

namespace SqlCompose.Binary64

/-- The value in positional digits, `NaN`, `inf` or `-inf`. -/
def positionalText (x : Binary64) : String :=
  if x.isNaN then "NaN"
  else
    let magnitude :=
      if !x.isFinite then "inf"
      else if x.significand = 0 then "0"
      else String.ofList (Decimal.shortest .up x).positional
    if x.isNegative then "-" ++ magnitude else magnitude

/-- The text of a finite double in a document. -/
def documentText (x : Binary64) : String :=
  let magnitude :=
    if x.significand = 0 then "0.0"
    else
      let d := Decimal.shortest .even x
      if d.point ≤ -5 || 16 < d.point then String.ofList d.scientific
      else if d.digits.length ≤ d.point then String.ofList (d.positional ++ ['.', '0'])
      else String.ofList d.positional
  if x.isNegative then "-" ++ magnitude else magnitude

example : documentText ⟨0x4415af1d78b58c40⟩ = "1e+20" := by decide +kernel
example : documentText ⟨0x3e7ad7f29abcaf48⟩ = "1e-7" := by decide +kernel
example : documentText ⟨0x8000000000000000⟩ = "-0.0" := by decide +kernel

end SqlCompose.Binary64
