import Placeholder.Yaml.Token.Read
import Placeholder.Yaml.Event.OfTokens

namespace Placeholder.Yaml

inductive Item : Type
  | alias : Nat → Item
  | scalar : Option Uri → Text → Style → Item
  | sequenceStart : Option Uri → Item
  | sequenceEnd : Item
  | mappingStart : Option Uri → Item
  | mappingEnd : Item
  deriving DecidableEq

abbrev Items := List (Item × Mark)

structure Anchors where
  names : List (Text × Nat) := []
  nodes : List (Nat × Nat) := []

namespace Anchors

def size (a : Anchors) : Nat := (a.names.map Prod.fst).eraseDups.length

def define (a : Anchors) (name : Option Text) (position : Nat) : Anchors :=
  match name with
  | none => a
  | some name => ⟨(name, a.size) :: a.names, (a.size, position) :: a.nodes⟩

end Anchors

structure Document where
  items : Items := []
  anchors : Anchors := {}
  fault : Option Fault := none
  single : Bool := false

namespace Document

/-- Adds the events one after the other. An alias of a name that has not been defined is the end. -/
def load (fault : Option Fault) (single : Bool) : Document → List Located → Document
  | d, [] => { d with fault, single }
  | d, ⟨e, m⟩ :: es =>
    let add (item : Item) (name : Option Text) : Document :=
      { d with items := d.items ++ [(item, m)], anchors := d.anchors.define name d.items.length }
    match e with
    | .alias a =>
      match d.anchors.names.lookup a with
      | none => { d with fault := some (.unknownAnchor m) }
      | some k => load fault single (add (.alias k) none) es
    | .scalar ps text style => load fault single (add (.scalar ps.tag text style) ps.anchor) es
    | .sequenceStart ps => load fault single (add (.sequenceStart ps.tag) ps.anchor) es
    | .sequenceEnd => load fault single (add .sequenceEnd none) es
    | .mappingStart ps => load fault single (add (.mappingStart ps.tag) ps.anchor) es
    | .mappingEnd => load fault single (add .mappingEnd none) es

def ofText (s : Text) : Document :=
  match firstDocument (tokens s) with
  | (es, some r) => load none (endsStream r) {} es
  | (es, none) => load (some .malformed) false {} es

def target? (d : Document) (number : Nat) : Option (Item × Mark) :=
  (d.anchors.nodes.lookup number).bind fun position => d.items[position]?

def runsOut (d : Document) : Fault := d.fault.getD .malformed

def conclude {α : Type} (d : Document) (a : α) : Except Fault α :=
  match d.fault with
  | some f => .error f
  | none => if d.single then .ok a else .error .severalDocuments

end Document
end Placeholder.Yaml
