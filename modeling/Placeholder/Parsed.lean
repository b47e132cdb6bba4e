import Placeholder.Marker.Scan

namespace Placeholder

inductive WarningKind : Type
  | templateUndefined : WarningKind
  | variablesUndefined : WarningKind
  | variableNotFound : WarningKind
  | variableNotReplaced : WarningKind
  deriving DecidableEq

structure Warning where
  kind : WarningKind
  message : Text
  deriving DecidableEq

namespace Warning

def notFoundMessage (name : Text) : Text :=
  "Variable ".toList ++ name ++ " not found in template".toList

def notReplacedMessage (name : Text) : Text :=
  "Variable ".toList ++ name ++ " was no replaced".toList

def templateUndefined : Warning := ⟨.templateUndefined, "Text is not defined".toList⟩

def variablesUndefined : Warning := ⟨.variablesUndefined, "Variables is not defined".toList⟩

def notFound (name : Text) : Warning := ⟨.variableNotFound, notFoundMessage name⟩

def notReplaced (name : Text) : Warning := ⟨.variableNotReplaced, notReplacedMessage name⟩

end Warning

structure Parsed where
  text : Text
  warnings : List Warning
  deriving DecidableEq

namespace Parsed

def ofText (s : Text) : Parsed := ⟨s, []⟩

def messages (p : Parsed) : List Text := p.warnings.map Warning.message

def isClean (p : Parsed) : Bool := p.warnings.isEmpty

def withWarnings (p : Parsed) (ws : List Warning) : Parsed :=
  { p with warnings := p.warnings ++ ws }

end Parsed
end Placeholder
