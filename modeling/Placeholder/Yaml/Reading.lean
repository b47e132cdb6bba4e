import Placeholder.Yaml.Implicit
import Placeholder.Variables
import Placeholder.Config.Draft

/-! Documents that hold variables, and documents that hold a configuration. Items are read in order,
so the first thing that does not fit is what is complained about, even if the document breaks off
later. -/

namespace Placeholder.Yaml

namespace Document

def follow (d : Document) (i : Item × Mark) : Except Fault (Item × Mark) :=
  match i.1 with
  | .alias k =>
    match d.target? k with
    | some target => .ok target
    | none => .error d.runsOut
  | _ => .ok i

def complaint (d : Document) (wanted : Wanted) (path : Text) (i : Item × Mark) : Fault :=
  match i with
  | (.scalar tag s style, m) => .complaint (scalarComplaint wanted tag s style) path m
  | (.sequenceStart _, m) => .complaint (.invalidType .sequence wanted) path m
  | (.mappingStart _, m) => .complaint (.invalidType .map wanted) path m
  | _ => d.runsOut

def text (d : Document) (wanted : Wanted) (path : Text) (i : Item × Mark) :
    Except Fault (Text × Mark) := do
  match ← d.follow i with
  | (.scalar _ s _, m) => .ok (s, m)
  | i => .error (d.complaint wanted path i)

def pathOf : Item × Mark → Text
  | (.scalar _ s _, _) => s
  | _ => ['?']

def textMembers (d : Document) : Variables → Items → Except Fault Variables
  | _, [] => .error d.runsOut
  | vs, (.mappingEnd, _) :: _ => .ok vs
  | vs, k :: r => do
    let (name, _) ← d.text .string rootPath k
    match r with
    | [] => .error d.runsOut
    | v :: r => do
      let (value, _) ← d.text .string (pathOf k) v
      d.textMembers (vs.insert name value).2 r

def mayBeBoolean (tag : Option Uri) (style : Style) : Bool :=
  style == .plain || (style == .literal && tag == some (kindTag "bool".toList))

def boolean (d : Document) (path : Text) (i : Item × Mark) : Except Fault Bool := do
  let i ← d.follow i
  let wrong := d.complaint .boolean path i
  match i with
  | (.scalar tag s style, _) =>
    if mayBeBoolean tag style then
      match boolean? s with
      | some b => .ok b
      | none => .error wrong
    else .error wrong
  | _ => .error wrong

def tagName? (tag : Option Uri) : Option Text :=
  match tag with
  | some (some '!' :: u) => if u.isEmpty then some ['!'] else Uri.text? u
  | _ => none

def tagOf : Item → Option Uri
  | .scalar tag _ _ => tag
  | .sequenceStart tag => tag
  | .mappingStart tag => tag
  | _ => none

def unknown {α : Type} (choices : Choices α) (name : Text) : Complaint :=
  .unknownVariant name (choices.map Prod.fst)

def nothing (d : Document) (path : Text) (i : Item × Mark) : Except Fault Unit :=
  match i with
  | (.scalar _ s style, m) =>
    if style = .plain ∧ (s.isEmpty ∨ isNull s) then .ok ()
    else .error (.complaint (.invalidValue (.string s) .null) path m)
  | i => .error (d.complaint .unit path i)

/-- One of the choices, named by a scalar or by a tag. A name behind a tag is looked up without a
place; `lost` is the place that a complaint about it is given. -/
def choice {α : Type} (d : Document) (choices : Choices α) (path : Text) (lost : Text × Mark)
    (i : Item × Mark) : Except Fault α := do
  let lost : Text × Mark :=
    match i with
    | (.alias _, m) => (path, m)
    | _ => lost
  let i ← d.follow i
  match tagName? (tagOf i.1) with
  | some name =>
    match choices.lookup name with
    | none => .error (.complaint (unknown choices name) lost.1 lost.2)
    | some a =>
      d.nothing path i
      .ok a
  | none =>
    match i with
    | (.scalar _ name _, m) =>
      match choices.lookup name with
      | some a => .ok a
      | none => .error (.complaint (unknown choices name) path m)
    | i => .error (d.complaint .tag path i)

def setting (d : Document) (root : Mark) (draft : Draft) (x : Setting) (path : Text)
    (i : Item × Mark) : Except Fault Draft :=
  match x with
  | .policy => do
    let p ← d.choice Policy.choices path (rootPath, root) i
    .ok { draft with policy := some p }
  | .notFoundCheck => do
    let n ← d.choice NotFoundCheck.choices path (rootPath, root) i
    .ok { draft with notFoundCheck := some n }
  | .matchMode => do
    let m ← d.choice MatchMode.choices path (rootPath, root) i
    .ok { draft with matchMode := some m }
  | .denyWarnings => do
    let b ← d.boolean path i
    .ok { draft with denyWarnings := some b }

def settingMembers (d : Document) (root : Mark) : Draft → Items → Except Fault Draft
  | _, [] => .error d.runsOut
  | draft, (.mappingEnd, _) :: _ => .ok draft
  | draft, k :: r => do
    let (name, m) ← d.text .field rootPath k
    match Setting.named? name with
    | none => .error (.complaint (.unknownField name (Setting.all.map Setting.name)) rootPath m)
    | some x =>
      if draft.gives x then .error (.complaint (.duplicateField x.name) rootPath root)
      else
        match r with
        | [] => .error d.runsOut
        | v :: r => do
          let draft ← d.setting root draft x (pathOf k) v
          d.settingMembers root draft r

def root {α : Type} (d : Document) (wanted : Wanted) (empty : α)
    (mapping : Mark → Items → Except Fault α) : Except Fault α := do
  let a ←
    match d.items with
    | [] => if d.fault.isNone then .ok empty else .error d.runsOut
    | (.mappingStart _, m) :: r => mapping m r
    | (.scalar _ [] .plain, _) :: _ => .ok empty
    | i :: _ => .error (d.complaint wanted rootPath i)
  d.conclude a

end Document

def readVariables (document : Text) : Except Fault Variables :=
  let d := Document.ofText document
  d.root .map .empty fun _ r => d.textMembers .empty r

def readConfig (document : Text) : Except Fault Config :=
  let d := Document.ofText document
  d.root .config .default fun m r => do
    let draft ← d.settingMembers m {} r
    .ok draft.toConfig

end Placeholder.Yaml
