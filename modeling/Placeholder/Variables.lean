import Placeholder.Text.Basic

namespace Placeholder

structure Variables where
  entries : List (Text × Text)
  distinct : (entries.map Prod.fst).Nodup

namespace Variables

/-- Puts the value at the name's place, or at the end, and answers the value it takes the place of.
-/
def exchange (name value : Text) : List (Text × Text) → Option Text × List (Text × Text)
  | [] => (none, [(name, value)])
  | (n, v) :: es =>
    if n = name then (some v, (n, value) :: es)
    else ((exchange name value es).1, (n, v) :: (exchange name value es).2)

theorem fst_mem_exchange {name value n : Text} {es : List (Text × Text)} :
    n ∈ (exchange name value es).2.map Prod.fst ↔ n = name ∨ n ∈ es.map Prod.fst := by
  induction es with
  | nil => simp [exchange]
  | cons e es ih =>
    obtain ⟨m, v⟩ := e
    by_cases h : m = name
    · subst h; simp [exchange]
    · simp only [exchange, h, if_false, List.map_cons, List.mem_cons, ih]
      constructor <;> rintro (h | h | h) <;> simp [h]

theorem distinct_exchange (name value : Text) {es : List (Text × Text)}
    (h : (es.map Prod.fst).Nodup) : ((exchange name value es).2.map Prod.fst).Nodup := by
  induction es with
  | nil => simp [exchange]
  | cons e es ih =>
    obtain ⟨m, v⟩ := e
    rw [List.map_cons, List.nodup_cons] at h
    by_cases e : m = name
    · subst e; simpa [exchange] using h
    · simp only [exchange, e, if_false, List.map_cons, List.nodup_cons]
      exact ⟨fun mem => (fst_mem_exchange.1 mem).elim e h.1, ih h.2⟩

def empty : Variables := ⟨[], List.nodup_nil⟩

def insert (vs : Variables) (name value : Text) : Option Text × Variables :=
  ((exchange name value vs.entries).1,
    ⟨(exchange name value vs.entries).2, distinct_exchange name value vs.distinct⟩)

def insertAll (vs : Variables) (es : List (Text × Text)) : Variables :=
  es.foldl (fun vs e => (vs.insert e.1 e.2).2) vs

def ofList (es : List (Text × Text)) : Variables := empty.insertAll es

def get? (vs : Variables) (name : Text) : Option Text := vs.entries.lookup name

def names (vs : Variables) : List Text := vs.entries.map Prod.fst

def size (vs : Variables) : Nat := vs.entries.length

def isEmpty (vs : Variables) : Bool := vs.entries.isEmpty

def same (vs ws : Variables) : Bool :=
  vs.size == ws.size && vs.entries.all fun e => ws.get? e.1 == some e.2

end Variables
end Placeholder
