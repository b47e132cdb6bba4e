import Placeholder.Marker.Scan

namespace Placeholder

structure Division where
  parts : List (Text × Marker)
  rest : Text

namespace Division

def fill (value : Marker → Text) (d : Division) : Text :=
  d.parts.flatMap (fun e => e.1 ++ value e.2) ++ d.rest

def text (d : Division) : Text := d.fill Marker.text

def markers (d : Division) : List Marker := d.parts.map Prod.snd

def Placed : Nat → List (Text × Marker) → Prop
  | _, [] => True
  | start, (gap, m) :: es => m.start = start + gap.bytes ∧ Placed m.stop es

structure Cuts (d : Division) (s : Text) (ms : List Marker) : Prop where
  markers : d.markers = ms
  text : d.text = s
  placed : Placed 0 d.parts

@[simp] theorem fill_nil (value : Marker → Text) (rest : Text) : fill value ⟨[], rest⟩ = rest := rfl

@[simp] theorem fill_cons (value : Marker → Text) (gap : Text) (m : Marker)
    (es : List (Text × Marker)) (rest : Text) :
    fill value ⟨(gap, m) :: es, rest⟩ = gap ++ (value m ++ fill value ⟨es, rest⟩) := by
  simp [fill]

theorem fill_congr {v w : Marker → Text} {d : Division} (h : ∀ m ∈ d.markers, v m = w m) :
    d.fill v = d.fill w := by
  obtain ⟨es, rest⟩ := d
  induction es with
  | nil => rfl
  | cons e es ih =>
    simp only [markers, List.map_cons, List.forall_mem_cons] at h
    rw [fill_cons, fill_cons, h.1, ih h.2]

theorem infix_fill {value : Marker → Text} {d : Division} {m : Marker} (h : m ∈ d.markers) :
    value m <:+: d.fill value := by
  obtain ⟨es, rest⟩ := d
  induction es with
  | nil => cases h
  | cons e es ih =>
    obtain ⟨gap, n⟩ := e
    rw [fill_cons]
    rcases List.mem_cons.1 h with rfl | later
    · exact List.infix_append' gap (value m) _
    · exact ((ih later).trans (List.suffix_append (value n) _).isInfix).trans
        (List.suffix_append gap _).isInfix

/-- The division of a text that begins with `gap`, `start` bytes into a longer one, and goes on with
the pieces. -/
def ofPieces (start : Nat) (gap : Text) : List Piece → Division
  | [] => ⟨[], gap⟩
  | .plain c :: ps => ofPieces start (gap ++ [c]) ps
  | .marker n :: ps =>
    let m : Marker := ⟨n, start + gap.bytes⟩
    let d := ofPieces m.stop [] ps
    ⟨(gap, m) :: d.parts, d.rest⟩

theorem fill_ofPieces (value : Text → Text) (start : Nat) (gap : Text) (ps : List Piece) :
    (ofPieces start gap ps).fill (fun m => value m.name) = gap ++ ps.flatMap (Piece.fill value) := by
  induction ps generalizing start gap with
  | nil => simp [ofPieces]
  | cons p ps ih => cases p <;> simp [ofPieces, Piece.fill, ih]

theorem markers_ofPieces (start : Nat) (gap : Text) (ps : List Piece) :
    (ofPieces start gap ps).markers = Marker.locate (start + gap.bytes) ps := by
  induction ps generalizing start gap with
  | nil => rfl
  | cons p ps ih =>
    cases p with
    | plain c => simp [ofPieces, Marker.locate, ih, Nat.add_assoc]
    | marker n =>
      have tail := ih (Marker.stop ⟨n, start + gap.bytes⟩) []
      simp only [markers, ofPieces, Marker.locate, List.map_cons] at tail ⊢
      rw [tail]
      rfl

theorem placed_ofPieces (start : Nat) (gap : Text) (ps : List Piece) :
    Placed start (ofPieces start gap ps).parts := by
  induction ps generalizing start gap with
  | nil => trivial
  | cons p ps ih =>
    cases p with
    | plain c => exact ih start _
    | marker n => exact ⟨rfl, ih _ []⟩

end Division

def Pattern.divide (p : Pattern) (s : Text) : Division := .ofPieces 0 [] (p.cut s)

namespace Pattern

theorem fill_divide (p : Pattern) (value : Text → Text) (s : Text) :
    (p.divide s).fill (fun m => value m.name) = (p.cut s).flatMap (Piece.fill value) :=
  Division.fill_ofPieces value 0 [] (p.cut s)

theorem text_divide (p : Pattern) (s : Text) : (p.divide s).text = s :=
  calc
    (p.divide s).text = (p.cut s).flatMap (Piece.fill wrap) := p.fill_divide wrap s
    _ = (p.cut s).flatMap Piece.text := rfl
    _ = s := p.flatMap_text_cut s

theorem cuts_divide (p : Pattern) (s : Text) : (p.divide s).Cuts s (p.scan s) :=
  ⟨Division.markers_ofPieces 0 [] (p.cut s), p.text_divide s,
    Division.placed_ofPieces 0 [] (p.cut s)⟩

end Pattern
end Placeholder
