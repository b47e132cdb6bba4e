import Placeholder.Source

/-! A session keeps variables, a configuration and a parsed text from one step to the next. A step
that fails leaves all of them as they are. -/

namespace Placeholder

inductive RendererChoice : Type
  | auto : RendererChoice
  | diagnostic : RendererChoice
  | strict : RendererChoice
  | diagnosticDefault : RendererChoice
  | strictDefault : RendererChoice
  deriving DecidableEq

def RendererChoice.renderer (c : Config) : RendererChoice → Renderer
  | .auto => .ofConfig c
  | .diagnostic => .diagnostic c
  | .strict => .strict c
  | .diagnosticDefault => .diagnostic .default
  | .strictDefault => .strict .default

structure Session where
  vars : Variables := .empty
  config : Config := .default
  parsed : Parsed := .ofText []

inductive Session.Step : Type
  | insert : Text → Text → Session.Step
  | get : Text → Session.Step
  | names : Session.Step
  | size : Session.Step
  | set : Variables → Session.Step
  | equals : Variables → Session.Step
  | load : Source → Session.Step
  | loadConfig : Source → Session.Step
  | configure : Draft → Session.Step
  | validate : Session.Step
  | text : Text → Session.Step
  | substitute : Session.Step
  | warn : List Warning → Session.Step
  | compare : Parsed → Session.Step
  | renderText : Session.Step
  | replaceFields : Session.Step
  | render : RendererChoice → Session.Step
  | scan : Session.Step

inductive Session.Answer : Type
  | inserted : Option Text → Variables → Session.Answer
  | value : Option Text → Session.Answer
  | names : List Text → Session.Answer
  | size : Nat → Bool → Session.Answer
  | vars : Variables → Session.Answer
  | equal : Bool → Session.Answer
  | config : Config → Session.Answer
  | valid : Session.Answer
  | parsed : Parsed → Session.Answer
  | warned : Parsed → Parsed → Session.Answer
  | text : Text → Session.Answer
  | scan : Text → Session.Answer
  | fault : Fault → Session.Answer

namespace Session

def conclude (s : Session) : Except Fault Text → Answer × Session
  | .ok t => (.text t, { s with parsed := .ofText t })
  | .error f => (.fault f, s)

def resume (s : Session) (p : Parsed) : Parsed :=
  ⟨p.text, (s.parsed.withWarnings p.warnings).warnings⟩

def step (s : Session) : Step → Logged (Answer × Session)
  | .insert name value =>
    let (old, vs) := s.vars.insert name value
    .silent (.inserted old vs, { s with vars := vs })
  | .get name => .silent (.value (s.vars.get? name), s)
  | .names => .silent (.names s.vars.names, s)
  | .size => .silent (.size s.vars.size s.vars.isEmpty, s)
  | .set vs => .silent (.vars vs, { s with vars := vs })
  | .equals vs => .silent (.equal (s.vars.same vs), s)
  | .load source =>
    match source.readVariables with
    | .ok vs => .silent (.vars vs, { s with vars := vs })
    | .error f => .silent (.fault f, s)
  | .loadConfig source =>
    match source.readConfig with
    | .ok c => .silent (.config c, { s with config := c })
    | .error f => .silent (.fault f, s)
  | .configure d =>
    let c := d.onto s.config
    .silent (.config c, { s with config := c })
  | .validate =>
    match s.config.validate with
    | .ok _ => .silent (.valid, s)
    | .error f => .silent (.fault f, s)
  | .text t => .silent (.parsed (.ofText t), { s with parsed := .ofText t })
  | .substitute =>
    (Placeholder.substitute s.config (some s.parsed.text) (some s.vars)).map fun p =>
      (.parsed (s.resume p), { s with parsed := s.resume p })
  | .warn ws =>
    let p := s.parsed.withWarnings ws
    .silent (.warned s.parsed p, { s with parsed := p })
  | .compare p => .silent (.equal (s.parsed == p), s)
  | .renderText => (renderPlain s.parsed.text s.vars).map fun t => s.conclude (.ok t)
  | .replaceFields => (Placeholder.replaceFields s.config s.parsed.text s.vars).map s.conclude
  | .render c => ((c.renderer s.config).render s.parsed.text s.vars).map s.conclude
  | .scan => .silent (.scan s.parsed.text, s)

def run (s : Session) : List Step → Logged (List Answer)
  | [] => .silent []
  | x :: xs =>
    let a := s.step x
    let as := a.value.2.run xs
    ⟨a.value.1 :: as.value, a.records ++ as.records⟩

end Session
end Placeholder
