import Placeholder.Marker.Basic

namespace Placeholder

structure Marker where
  name : Text
  start : Nat
  deriving DecidableEq

namespace Marker

def text (m : Marker) : Text := wrap m.name

def stop (m : Marker) : Nat := m.start + m.text.bytes

def shift (k : Nat) (m : Marker) : Marker := { m with start := k + m.start }

def locate : Nat → List Piece → List Marker
  | _, [] => []
  | start, .plain c :: ps => locate (start + c.utf8Size) ps
  | start, .marker n :: ps => ⟨n, start⟩ :: locate (start + (wrap n).bytes) ps

theorem locate_add (k start : Nat) (ps : List Piece) :
    locate (k + start) ps = (locate start ps).map (shift k) := by
  induction ps generalizing start with
  | nil => rfl
  | cons p ps ih => cases p <;> simp [locate, shift, Nat.add_assoc, ih]

theorem locate_append (start : Nat) (ps qs : List Piece) :
    locate start (ps ++ qs) =
      locate start ps ++ locate (start + Text.bytes (ps.flatMap Piece.text)) qs := by
  induction ps generalizing start with
  | nil => rfl
  | cons p ps ih => cases p <;> simp [locate, Piece.text, Nat.add_assoc, ih]

theorem locate_map_plain (start : Nat) (u : Text) : locate start (u.map .plain) = [] := by
  induction u generalizing start with
  | nil => rfl
  | cons c u ih => exact ih (start + c.utf8Size)

theorem map_text_locate (start : Nat) (ps : List Piece) :
    (locate start ps).map text = (ps.filter Piece.isMarker).map Piece.text := by
  induction ps generalizing start with
  | nil => rfl
  | cons p ps ih =>
    cases p <;> simp [locate, text, List.filter_cons, Piece.isMarker, Piece.text, ih]

theorem map_name_locate (start : Nat) (ps : List Piece) :
    (locate start ps).map name = ps.filterMap Piece.name? := by
  induction ps generalizing start with
  | nil => rfl
  | cons p ps ih => cases p <;> simp [locate, List.filterMap_cons, Piece.name?, ih]

end Marker

namespace Pattern

def scan (p : Pattern) (s : Text) : List Marker := Marker.locate 0 (p.cut s)

theorem scan_wrap_append {p : Pattern} {n s : Text} (h : p.nameAt (wrap n ++ s) = some n) :
    p.scan (wrap n ++ s) = ⟨n, 0⟩ :: (p.scan s).map (Marker.shift (wrap n).bytes) := by
  rw [scan, cut_wrap_append h, Marker.locate, Nat.add_comm, Marker.locate_add, scan]

theorem scan_cons {p : Pattern} {c : Char} {s : Text} (h : p.nameAt (c :: s) = none) :
    p.scan (c :: s) = (p.scan s).map (Marker.shift c.utf8Size) := by
  rw [scan, cut_of_nameAt_eq_none h, Marker.locate, Nat.add_comm, Marker.locate_add, scan]

def found (p : Pattern) : Text → Bool
  | [] => (p.nameAt []).isSome
  | c :: s => (p.nameAt (c :: s)).isSome || p.found s

def count (p : Pattern) (s : Text) : Nat := (p.cut s).countP Piece.isMarker

theorem length_locate (start : Nat) (ps : List Piece) :
    (Marker.locate start ps).length = ps.countP Piece.isMarker := by
  induction ps generalizing start with
  | nil => rfl
  | cons p ps ih => cases p <;> simp [Marker.locate, List.countP_cons, Piece.isMarker, ih]

theorem length_scan (p : Pattern) (s : Text) : (p.scan s).length = p.count s :=
  length_locate 0 _

end Pattern

def identifiers : Text → List Marker := Pattern.identifier.scan

def fields : Text → List Marker := Pattern.field.scan

def hasIdentifier : Text → Bool := Pattern.identifier.found

def occurrences (name s : Text) : Nat := (Pattern.literal name).count s

/-- The marker of the name, met from the left without overlap, gives way to the value, which is not
read again. -/
def replace (name value s : Text) : Text :=
  ((Pattern.literal name).cut s).flatMap (Piece.fill fun _ => value)

theorem flatMap_fill_of_countP_eq_zero (value : Text → Text) {ps : List Piece}
    (h : ps.countP Piece.isMarker = 0) : ps.flatMap (Piece.fill value) = ps.flatMap Piece.text := by
  induction ps with
  | nil => rfl
  | cons p ps ih => cases p <;> simp_all [Piece.isMarker, Piece.fill, Piece.text]

theorem replace_of_occurrences_eq_zero {name value s : Text} (h : occurrences name s = 0) :
    replace name value s = s := by
  rw [replace, flatMap_fill_of_countP_eq_zero _ h, Pattern.flatMap_text_cut]

end Placeholder
