/-! Hexadecimal digits. -/

set_option autoImplicit false

namespace TemplateQuery.Text

def hexValue? (c : Char) : Option Nat :=
  if '0' ≤ c && c ≤ '9' then some (c.toNat - '0'.toNat)
  else if 'a' ≤ c && c ≤ 'f' then some (c.toNat - 'a'.toNat + 10)
  else if 'A' ≤ c && c ≤ 'F' then some (c.toNat - 'A'.toNat + 10)
  else none

def isHex (c : Char) : Bool := (hexValue? c).isSome

def hexNumber? (cs : List Char) : Option Nat :=
  cs.foldl (fun n? c => n?.bind fun n => (hexValue? c).map (n * 16 + ·)) (some 0)

def charOf? (n : Nat) : Option Char :=
  if h : n.isValidChar then some (Char.ofNatAux n h) else none

def hexDigit (n : Nat) : Char := (Nat.toDigits 16 (n % 16)).headD '0'

/-- Exactly `width` lower-case digits, the high ones dropped if they do not fit. -/
def hexText (width n : Nat) : List Char :=
  match width with
  | 0 => []
  | w + 1 => hexText w (n / 16) ++ [hexDigit n]

def hexTextUpper (width n : Nat) : List Char := (hexText width n).map Char.toUpper

end TemplateQuery.Text
