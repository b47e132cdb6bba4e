import Placeholder.Json.Stop
import Placeholder.Yaml.Fault

namespace Placeholder

inductive Fault : Type
  | missingFields : List Text → Fault
  | warnings : List Text → Fault
  | invalidConfig : Text → Fault
  | json : Json.Fault → Fault
  | yaml : Yaml.Fault → Fault

namespace Fault

def denyWithoutDiagnostics : Fault :=
  .invalidConfig "deny_warnings only applies to the diagnostic policy".toList

def quote (s : Text) : Text := '\'' :: (s ++ ['\''])

def message? : Fault → Option Text
  | .missingFields names =>
    some ("The follow fields are not received: [".toList ++
      Text.join ", ".toList (names.map quote) ++ "]".toList)
  | .warnings messages =>
    some ("Template rendered with warnings: ".toList ++ Text.join "; ".toList messages)
  | .invalidConfig reason =>
    some ("Configuration validation failed: ".toList ++ reason ++ ".".toList)
  | .json f => some ("Failed to parse JSON. Original error: ".toList ++ f.message)
  | .yaml f => f.message?.map ("Failed to parse YAML. Original error: ".toList ++ ·)

end Fault
end Placeholder
