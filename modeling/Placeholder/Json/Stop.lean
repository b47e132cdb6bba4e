import Placeholder.Complaint

/-! Where and why the reading of a JSON document stops. The place is kept as the number of bytes
that are left; line and column are read off the document when they are asked for. -/

namespace Placeholder.Json

inductive Cause : Type
  | endInValue : Cause
  | endInObject : Cause
  | endInList : Cause
  | endInString : Cause
  | expectedColon : Cause
  | expectedCommaOrBrace : Cause
  | expectedCommaOrBracket : Cause
  | expectedValue : Cause
  | expectedIdent : Cause
  | keyMustBeString : Cause
  | trailingComma : Cause
  | trailingCharacters : Cause
  | invalidNumber : Cause
  | numberOutOfRange : Cause
  | invalidEscape : Cause
  | endOfHexEscape : Cause
  | loneSurrogate : Cause
  | controlCharacter : Cause
  | complaint : Complaint → Cause

/-- Floats are positional from `1e-5` up to, but not including, `1e16`. -/
def wording : Wording := ⟨"null".toList, ⟨fun lead => lead < -5 || 15 < lead, .even⟩⟩

namespace Cause

def text : Cause → Text
  | .endInValue => "EOF while parsing a value".toList
  | .endInObject => "EOF while parsing an object".toList
  | .endInList => "EOF while parsing a list".toList
  | .endInString => "EOF while parsing a string".toList
  | .expectedColon => "expected \x60:\x60".toList
  | .expectedCommaOrBrace => "expected \x60,\x60 or \x60\x7d\x60".toList
  | .expectedCommaOrBracket => "expected \x60,\x60 or \x60]\x60".toList
  | .expectedValue => "expected value".toList
  | .expectedIdent => "expected ident".toList
  | .keyMustBeString => "key must be a string".toList
  | .trailingComma => "trailing comma".toList
  | .trailingCharacters => "trailing characters".toList
  | .invalidNumber => "invalid number".toList
  | .numberOutOfRange => "number out of range".toList
  | .invalidEscape => "invalid escape".toList
  | .endOfHexEscape => "unexpected end of hex escape".toList
  | .loneSurrogate => "lone leading surrogate in hex escape".toList
  | .controlCharacter =>
    "control character (\\u0000-\\u001F) found while parsing a string".toList
  | .complaint c => c.text wording

end Cause

structure Stop where
  cause : Cause
  left : Nat

namespace Stop

def before (cause : Cause) (rest : Text) : Stop := ⟨cause, rest.bytes⟩

/-- Stops behind the first byte of the rest, or at its end if it is empty. -/
def within (cause : Cause) (rest : Text) : Stop := ⟨cause, rest.bytes - 1⟩

end Stop

structure Position where
  line : Nat
  column : Nat
  deriving DecidableEq

namespace Position

def first : Position := ⟨1, 0⟩

def advance (p : Position) : Nat → Text → Position
  | _, [] => p
  | k, c :: s =>
    if k < c.utf8Size then { p with column := p.column + k }
    else if c = '\n' then advance ⟨p.line + 1, 0⟩ (k - 1) s
    else advance { p with column := p.column + c.utf8Size } (k - c.utf8Size) s

end Position

structure Fault where
  cause : Cause
  position : Position

namespace Fault

def ofStop (document : Text) (s : Stop) : Fault :=
  ⟨s.cause, Position.first.advance (document.bytes - s.left) document⟩

def message (f : Fault) : Text :=
  f.cause.text ++ " at line ".toList ++ Text.ofNat f.position.line ++ " column ".toList ++
    Text.ofNat f.position.column

end Fault
end Placeholder.Json
