import TemplateQuery.ReadError

/-! Tokens still to be read. The last one marks the end and is never passed. -/

set_option autoImplicit false

namespace TemplateQuery

abbrev Tokens := List Token

namespace Tokens

def kindAt (ts : Tokens) (n : Nat) : Token.Kind :=
  match ts[n]? with
  | some t => t.kind
  | none => .eof

def kind (ts : Tokens) : Token.Kind := ts.kindAt 0

def offset (ts : Tokens) : Nat :=
  match ts with
  | [] => 0
  | t :: _ => t.start

def advance (ts : Tokens) : Tokens :=
  match ts with
  | [] => []
  | t :: rest => if t.kind = .eof then ts else rest

def fail {α : Type} (ts : Tokens) (fault : ParseFault) : Except ReadError α := .error (.parse ts.offset fault)

def accept? (ts : Tokens) (kind : Token.Kind) : Option Tokens :=
  if ts.kind = kind then some ts.advance else none

def expect (ts : Tokens) (kind : Token.Kind) (what : String) : Except ReadError Tokens :=
  match ts.accept? kind with
  | some rest => .ok rest
  | none => ts.fail (.expected what ts.kind)

end Tokens

end TemplateQuery
