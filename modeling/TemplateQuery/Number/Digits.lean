/-! Decimal numerals: digits as text, and whole numbers read with an optional sign and with
underscores between their digits. -/

set_option autoImplicit false

-- Powers are those of the numbers themselves in every module, also where those of monoids are known.
attribute [instance (high)] instPowNat

namespace TemplateQuery.Number

def natText (n : Nat) : List Char := Nat.toDigits 10 n

def intText (n : Int) : List Char :=
  if n < 0 then '-' :: natText n.natAbs else natText n.natAbs

def padded (width n : Nat) : List Char :=
  let digits := natText n
  List.replicate (width - digits.length) '0' ++ digits

def ofDigits (cs : List Char) : Nat := Nat.ofDigitChars 10 cs 0

/-- A digit, then digits and underscores; the underscores count for nothing. -/
def readMagnitude? : List Char → Option Nat
  | [] => none
  | c :: cs =>
    if c.isDigit && cs.all (fun c => c.isDigit || c == '_') then some (ofDigits ((c :: cs).filter (· != '_')))
    else none

def readInteger? : List Char → Option Int
  | '-' :: cs => (readMagnitude? cs).map fun n => -(n : Int)
  | '+' :: cs => (readMagnitude? cs).map Int.ofNat
  | cs => (readMagnitude? cs).map Int.ofNat

def readExponent? (cs : List Char) : Option Int :=
  if cs.contains '_' then none else readInteger? cs

end TemplateQuery.Number
