import Placeholder.Text.Quoted
import Placeholder.Number.Decimal

namespace Placeholder

inductive Found : Type
  | nothing : Found
  | boolean : Bool → Found
  | integer : Int → Found
  /-- An integer beyond 64 bits, with the name of the width it needs. -/
  | wide : Int → Text → Found
  | float : Number.Float → Found
  | string : Text → Found
  | sequence : Found
  | map : Found

inductive Wanted : Type
  | map : Wanted
  | string : Wanted
  | boolean : Wanted
  | integer : Wanted
  | float : Wanted
  | null : Wanted
  | unit : Wanted
  | config : Wanted
  | field : Wanted
  | tag : Wanted
  deriving DecidableEq

inductive Complaint : Type
  | invalidType : Found → Wanted → Complaint
  | invalidValue : Found → Wanted → Complaint
  | unknownField : Text → List Text → Complaint
  | unknownVariant : Text → List Text → Complaint
  | duplicateField : Text → Complaint

structure Wording where
  nothing : Text
  float : Number.Manner

namespace Text

def ticked (s : Text) : Text := '\x60' :: (s ++ ['\x60'])

def alternatives : List Text → Text
  | [] => []
  | [a] => ticked a
  | [a, b] => ticked a ++ " or ".toList ++ ticked b
  | names => "one of ".toList ++ join ", ".toList (names.map ticked)

end Text

open Text

def Found.text (w : Wording) : Found → Text
  | .nothing => w.nothing
  | .boolean b => "boolean ".toList ++ ticked (if b then "true".toList else "false".toList)
  | .integer n => "integer ".toList ++ ticked (ofInt n)
  | .wide n width => "integer ".toList ++ ticked (ofInt n) ++ " as ".toList ++ width
  | .float x => "floating point ".toList ++ ticked (x.text w.float)
  | .string s => "string ".toList ++ quoted s
  | .sequence => "sequence".toList
  | .map => "map".toList

def Wanted.text : Wanted → Text
  | .map => "a map".toList
  | .string => "a string".toList
  | .boolean => "a boolean".toList
  | .integer => "an integer".toList
  | .float => "a float".toList
  | .null => "null".toList
  | .unit => "unit".toList
  | .config => "struct EngineConfig".toList
  | .field => "field identifier".toList
  | .tag => "a YAML tag starting with '!'".toList

def Complaint.text (w : Wording) : Complaint → Text
  | .invalidType f x => "invalid type: ".toList ++ f.text w ++ ", expected ".toList ++ x.text
  | .invalidValue f x => "invalid value: ".toList ++ f.text w ++ ", expected ".toList ++ x.text
  | .unknownField n ns =>
    "unknown field ".toList ++ ticked n ++ ", expected ".toList ++ alternatives ns
  | .unknownVariant n ns =>
    "unknown variant ".toList ++ ticked n ++ ", expected ".toList ++ alternatives ns
  | .duplicateField n => "duplicate field ".toList ++ ticked n

end Placeholder
