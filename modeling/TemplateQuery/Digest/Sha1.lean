import TemplateQuery.Digest.Block

/-! The SHA-1 digest. -/

set_option autoImplicit false

namespace TemplateQuery.Digest.Sha1

abbrev Word := BitVec 32

structure State where
  a : Word
  b : Word
  c : Word
  d : Word
  e : Word

def initial : State := ⟨0x67452301, 0xEFCDAB89, 0x98BADCFE, 0x10325476, 0xC3D2E1F0⟩

def schedule (block : List Word) : List Word :=
  let extend (latest : List Word) (_ : Nat) :=
    (latest.getD 2 0 ^^^ latest.getD 7 0 ^^^ latest.getD 13 0 ^^^ latest.getD 15 0).rotateLeft 1 :: latest
  ((List.range 64).foldl extend block.reverse).reverse

def mixing (round : Nat) (b c d : Word) : Word × Word :=
  if round < 20 then (b &&& c ||| ~~~b &&& d, 0x5A827999)
  else if round < 40 then (b ^^^ c ^^^ d, 0x6ED9EBA1)
  else if round < 60 then (b &&& c ||| b &&& d ||| c &&& d, 0x8F1BBCDC)
  else (b ^^^ c ^^^ d, 0xCA62C1D6)

def step (s : State) (word : Word) (round : Nat) : State :=
  let (mixed, constant) := mixing round s.b s.c s.d
  ⟨s.a.rotateLeft 5 + mixed + s.e + constant + word, s.a, s.b.rotateLeft 30, s.c, s.d⟩

def compress (s : State) (block : List Word) : State :=
  let t := (schedule block).zipIdx.foldl (fun s (word, round) => step s word round) s
  ⟨s.a + t.a, s.b + t.b, s.c + t.c, s.d + t.d, s.e + t.e⟩

end Sha1

def sha1 (text : String) : List Char :=
  let s := (blocks .big 32 (bytesOf text)).foldl Sha1.compress Sha1.initial
  hexWords .big [s.a, s.b, s.c, s.d, s.e]

end TemplateQuery.Digest
