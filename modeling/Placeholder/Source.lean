import Placeholder.Json.Reading
import Placeholder.Yaml.Reading
import Placeholder.Renderer
import Placeholder.Config.Validation

namespace Placeholder

inductive Format : Type
  | json : Format
  | yaml : Format
  deriving DecidableEq

structure Source where
  format : Format
  content : Text

namespace Source

def readVariables (s : Source) : Except Fault Variables :=
  match s.format with
  | .json => (Json.readVariables s.content).mapError .json
  | .yaml => (Yaml.readVariables s.content).mapError .yaml

def readConfig (s : Source) : Except Fault Config :=
  match s.format with
  | .json => (Json.readConfig s.content).mapError .json >>= Config.validate
  | .yaml => (Yaml.readConfig s.content).mapError .yaml >>= Config.validate

end Source

/-- Renders a template by a written configuration with written variables. The configuration comes
first. -/
def renderFrom (config vars : Source) (template : Text) : Logged (Except Fault Text) :=
  match config.readConfig with
  | .error f => .silent (.error f)
  | .ok c =>
    match vars.readVariables with
    | .error f => .silent (.error f)
    | .ok vs => (Renderer.ofConfig c).render template vs

end Placeholder
