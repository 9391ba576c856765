import TemplateQuery.Digest.Block

/-! The SHA-2 family. Its constants are the first bits of the fractions of roots of the first primes. -/

set_option autoImplicit false

namespace TemplateQuery.Digest

def isPrime (n : Nat) : Bool := 2 ≤ n && (List.range n).all fun d => d < 2 || n % d != 0

def primes : List Nat := (List.range 410).filter isPrime

/-- The largest number whose `k`-th power is at most `n`, from `r` on with `bits` bits to settle. -/
def rootFrom (k n r : Nat) : Nat → Nat
  | 0 => r
  | bits + 1 => rootFrom k n (if (r + 2 ^ bits) ^ k ≤ n then r + 2 ^ bits else r) bits

/-- The first 64 bits of the fraction of the `k`-th root. -/
def rootFraction (k n : Nat) : Nat := rootFrom k (n * 2 ^ (64 * k)) 0 70 % 2 ^ (64 : Nat)

def leading (w : Nat) (fraction : Nat) : BitVec w := BitVec.ofNat w (fraction / 2 ^ (64 - w))

def squareRoots : List Nat := (primes.take 16).map (rootFraction 2)

def cubeRoots : List Nat := primes.map (rootFraction 3)

structure Sha2 (w : Nat) where
  rounds : Nat
  sum0 : Nat × Nat × Nat
  sum1 : Nat × Nat × Nat
  /-- Two rotations and a shift. -/
  mix0 : Nat × Nat × Nat
  mix1 : Nat × Nat × Nat

namespace Sha2

def narrow : Sha2 32 := ⟨64, (2, 13, 22), (6, 11, 25), (7, 18, 3), (17, 19, 10)⟩

def wide : Sha2 64 := ⟨80, (28, 34, 39), (14, 18, 41), (1, 8, 7), (19, 61, 6)⟩

structure State (w : Nat) where
  a : BitVec w
  b : BitVec w
  c : BitVec w
  d : BitVec w
  e : BitVec w
  f : BitVec w
  g : BitVec w
  h : BitVec w

namespace State

variable {w : Nat}

def toList (s : State w) : List (BitVec w) := [s.a, s.b, s.c, s.d, s.e, s.f, s.g, s.h]

def ofList (words : List (BitVec w)) : State w :=
  let at' (i : Nat) := words.getD i 0
  ⟨at' 0, at' 1, at' 2, at' 3, at' 4, at' 5, at' 6, at' 7⟩

def add (s t : State w) : State w := ofList (List.zipWith (· + ·) s.toList t.toList)

end State

variable {w : Nat}

def rotate3 (n : Nat × Nat × Nat) (x : BitVec w) : BitVec w :=
  x.rotateRight n.1 ^^^ x.rotateRight n.2.1 ^^^ x.rotateRight n.2.2

def mix (n : Nat × Nat × Nat) (x : BitVec w) : BitVec w :=
  x.rotateRight n.1 ^^^ x.rotateRight n.2.1 ^^^ x >>> n.2.2

def schedule (p : Sha2 w) (block : List (BitVec w)) : List (BitVec w) :=
  let extend (latest : List (BitVec w)) (_ : Nat) :=
    (mix p.mix1 (latest.getD 1 0) + latest.getD 6 0 + mix p.mix0 (latest.getD 14 0) + latest.getD 15 0) :: latest
  ((List.range (p.rounds - 16)).foldl extend block.reverse).reverse

def round (p : Sha2 w) (s : State w) (k : BitVec w) (word : BitVec w) : State w :=
  let choice := s.e &&& s.f ^^^ ~~~s.e &&& s.g
  let majority := s.a &&& s.b ^^^ s.a &&& s.c ^^^ s.b &&& s.c
  let t1 := s.h + rotate3 p.sum1 s.e + choice + k + word
  let t2 := rotate3 p.sum0 s.a + majority
  ⟨t1 + t2, s.a, s.b, s.c, s.d + t1, s.e, s.f, s.g⟩

def compress (p : Sha2 w) (s : State w) (block : List (BitVec w)) : State w :=
  let rounds := (cubeRoots.map (leading w)).zip (p.schedule block)
  s.add (rounds.foldl (fun s (k, word) => p.round s k word) s)

def run (p : Sha2 w) (initial : List (BitVec w)) (size : Nat) (message : List Nat) : List Char :=
  hexWords .big (((blocks .big w message).foldl p.compress (State.ofList initial)).toList.take size)

end Sha2

def sha256 (text : String) : List Char :=
  Sha2.narrow.run ((squareRoots.take 8).map (leading 32)) 8 (bytesOf text)

def sha384 (text : String) : List Char :=
  Sha2.wide.run ((squareRoots.drop 8).map (leading 64)) 6 (bytesOf text)

def sha512 (text : String) : List Char :=
  Sha2.wide.run ((squareRoots.take 8).map (leading 64)) 8 (bytesOf text)

end TemplateQuery.Digest
