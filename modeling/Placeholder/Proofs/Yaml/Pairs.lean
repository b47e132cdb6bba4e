import Placeholder.Proofs.Yaml.Flow
import Placeholder.Yaml.Reading

namespace Placeholder.Yaml

open Line

section Events

def entryEvents (e : Text × Text) : List Event :=
  [.scalar {} e.1 .doubleQuoted, .scalar {} e.2 .doubleQuoted]

variable {hs : Handles} {places : List Place} {ts : List Placed} {rest : List Token}

theorem exists_placed_of_map_token {token : Token} (h : ts.map Placed.token = token :: rest) :
    ∃ m m' r, ts = ⟨token, m, m'⟩ :: r ∧ r.map Placed.token = rest := by
  obtain ⟨⟨token, m, m'⟩, r, split, rfl, rest⟩ := List.map_eq_cons_iff.1 h
  exact ⟨m, m', r, split, rest⟩

theorem exists_flowKey_eq (hs : Handles) (places : List Place) {name : Text} {style : Style}
    (h : ts.map Placed.token = .key :: .scalar name style :: rest) :
    ∃ m r, r.map Placed.token = rest ∧ flowKey hs places ts =
      some ⟨⟨.scalar {} name style, m⟩, .flowMappingValue :: places, r⟩ := by
  obtain ⟨_, _, ts₁, rfl, h₁⟩ := exists_placed_of_map_token h
  obtain ⟨m, _, ts₂, rfl, h₂⟩ := exists_placed_of_map_token h₁
  exact ⟨m, ts₂, h₂, rfl⟩

theorem exists_flowValue_eq (hs : Handles) (places : List Place) {value : Text} {style : Style}
    (h : ts.map Placed.token = .value :: .scalar value style :: rest) :
    ∃ m r, r.map Placed.token = rest ∧ flowValue hs places ts =
      some ⟨⟨.scalar {} value style, m⟩, .flowMappingKey :: places, r⟩ := by
  obtain ⟨_, _, ts₁, rfl, h₁⟩ := exists_placed_of_map_token h
  obtain ⟨m, _, ts₂, rfl, h₂⟩ := exists_placed_of_map_token h₁
  exact ⟨m, ts₂, h₂, rfl⟩

theorem readEvents_succ {place : Place} {s : Step} (h : stepAt hs places ts place = some s) (n : Nat) :
    readEvents hs (n + 1) (place :: places) ts =
      (s.event :: (readEvents hs n s.places s.rest).1, (readEvents hs n s.places s.rest).2) := by
  rw [readEvents, h]

theorem readEvents_of_mappingEnd {place : Place} {m : Mark} {t : Placed} {r : List Placed}
    (close : stepAt hs [] ts place = some ⟨⟨.mappingEnd, m⟩, [], t :: r⟩) (n : Nat) :
    readEvents hs (n + 1) [place] ts = ([⟨.mappingEnd, m⟩], some (t :: r)) := by
  rw [readEvents_succ close, readEvents]
  rfl

theorem exists_readEvents_entry {place : Place} {r : List Placed} {e : Text × Text}
    (key : stepAt hs places ts place = flowKey hs places r)
    (h : r.map Placed.token = entryTokens e ++ rest) :
    ∃ evs t, evs.map Located.event = entryEvents e ∧ t.map Placed.token = rest ∧
      ∀ n, readEvents hs (n + 2) (place :: places) ts =
        (evs ++ (readEvents hs n (.flowMappingKey :: places) t).1,
          (readEvents hs n (.flowMappingKey :: places) t).2) := by
  obtain ⟨m, r₁, h₁, first⟩ := exists_flowKey_eq hs places h
  obtain ⟨m', r₂, h₂, second⟩ := exists_flowValue_eq hs places h₁
  have value : stepAt hs places r₁ .flowMappingValue = flowValue hs places r₁ := rfl
  refine ⟨[⟨.scalar {} e.1 .doubleQuoted, m⟩, ⟨.scalar {} e.2 .doubleQuoted, m'⟩], r₂, rfl, h₂, ?_⟩
  intro n
  rw [readEvents_succ (key.trans first), readEvents_succ (value.trans second)]
  rfl

theorem exists_readEvents_further {es : List (Text × Text)} {n : Nat} {token : Token}
    (h : ts.map Placed.token = furtherTokens es ++ .flowMappingEnd :: token :: rest)
    (enough : 2 * es.length + 1 ≤ n) :
    ∃ evs t, evs.map Located.event = es.flatMap entryEvents ++ [.mappingEnd] ∧
      t.map Placed.token = token :: rest ∧
      readEvents hs n [.flowMappingKey] ts = (evs, some t) := by
  induction es generalizing ts n with
  | nil =>
    obtain ⟨n, rfl⟩ : ∃ k, n = k + 1 := ⟨n - 1, by omega⟩
    obtain ⟨m, m', ts₁, rfl, h₁⟩ := exists_placed_of_map_token h
    obtain ⟨_, _, ts₂, rfl, -⟩ := exists_placed_of_map_token h₁
    exact ⟨[⟨.mappingEnd, m⟩], _, rfl, h₁, readEvents_of_mappingEnd rfl n⟩
  | cons e es ih =>
    rw [List.length_cons] at enough
    obtain ⟨n, rfl⟩ : ∃ k, n = k + 2 := ⟨n - 2, by omega⟩
    rw [furtherTokens, List.flatMap_cons, List.cons_append, List.cons_append,
      List.append_assoc] at h
    obtain ⟨m, m', ts₁, rfl, h₁⟩ := exists_placed_of_map_token h
    have key : stepAt hs [] (⟨.flowEntry, m, m'⟩ :: ts₁) .flowMappingKey = flowKey hs [] ts₁ := rfl
    obtain ⟨evs, t, events, h₂, read⟩ := exists_readEvents_entry key h₁
    have enough' : 2 * es.length + 1 ≤ n := by omega
    obtain ⟨evs', t', events', h₃, read'⟩ := ih h₂ enough'
    refine ⟨evs ++ evs', t', by simp [events, events'], h₃, ?_⟩
    rw [read n, read']

theorem exists_readEvents_inner {es : List (Text × Text)} {n : Nat} {token : Token} {t : Placed}
    (h : ts.map Placed.token = innerTokens es ++ .flowMappingEnd :: token :: rest)
    (enough : 2 * es.length + 1 ≤ n) :
    ∃ evs r, evs.map Located.event = es.flatMap entryEvents ++ [.mappingEnd] ∧
      r.map Placed.token = token :: rest ∧
      readEvents hs n [.flowMappingFirst] (t :: ts) = (evs, some r) := by
  cases es with
  | nil =>
    obtain ⟨n, rfl⟩ : ∃ k, n = k + 1 := ⟨n - 1, by omega⟩
    obtain ⟨m, m', ts₁, rfl, h₁⟩ := exists_placed_of_map_token h
    obtain ⟨_, _, ts₂, rfl, -⟩ := exists_placed_of_map_token h₁
    exact ⟨[⟨.mappingEnd, m⟩], _, rfl, h₁, readEvents_of_mappingEnd rfl n⟩
  | cons e es =>
    rw [List.length_cons] at enough
    obtain ⟨n, rfl⟩ : ∃ k, n = k + 2 := ⟨n - 2, by omega⟩
    rw [innerTokens, List.append_assoc] at h
    have key : stepAt hs [] (t :: ts) .flowMappingFirst = flowKey hs [] ts := rfl
    obtain ⟨evs, r, events, h₁, read⟩ := exists_readEvents_entry key h
    have enough' : 2 * es.length + 1 ≤ n := by omega
    obtain ⟨evs', r', events', h₂, read'⟩ := exists_readEvents_further h₁ enough'
    refine ⟨evs ++ evs', r', by simp [events, events'], h₂, ?_⟩
    rw [read n, read']

theorem length_furtherTokens (es : List (Text × Text)) :
    (furtherTokens es).length = 5 * es.length := by
  induction es with
  | nil => rfl
  | cons e es ih =>
    rw [furtherTokens] at ih ⊢
    rw [List.flatMap_cons, List.length_append, ih, List.length_cons, List.length_cons, entryTokens]
    simp only [List.length_cons, List.length_nil]
    omega

theorem length_innerTokens (es : List (Text × Text)) :
    2 * es.length ≤ (innerTokens es).length := by
  cases es with
  | nil => exact Nat.zero_le _
  | cons e es =>
    rw [innerTokens, List.length_append, length_furtherTokens, List.length_cons, entryTokens]
    simp only [List.length_cons, List.length_nil]
    omega

theorem exists_firstDocument_eq {es : List (Text × Text)}
    (h : ts.map Placed.token =
      .flowMappingStart :: (innerTokens es ++ [.flowMappingEnd, .streamEnd])) :
    ∃ evs r, evs.map Located.event =
        .mappingStart {} :: (es.flatMap entryEvents ++ [.mappingEnd]) ∧
      r.map Placed.token = [.streamEnd] ∧ firstDocument ts = (evs, some r) := by
  obtain ⟨m, m', ts₁, rfl, h₁⟩ := exists_placed_of_map_token h
  let brace : Placed := ⟨.flowMappingStart, m, m'⟩
  have start : stepAt Handles.defaults [] (brace :: ts₁) .node =
      some ⟨⟨.mappingStart {}, m⟩, [.flowMappingFirst], brace :: ts₁⟩ := rfl
  have long : 2 * es.length + 1 ≤ 8 * ts₁.length := by
    have inner := length_innerTokens es
    have length := congrArg List.length h₁
    simp only [List.length_map, List.length_append, List.length_cons, List.length_nil] at length
    omega
  have enough : 2 * es.length + 1 ≤ 8 * ts₁.length + 15 := by omega
  obtain ⟨evs, r, events, h₂, read⟩ := exists_readEvents_inner h₁ enough
  refine ⟨⟨.mappingStart {}, m⟩ :: evs, r, by simp [events], h₂, ?_⟩
  have run := readEvents_succ start (8 * ts₁.length + 15)
  rw [read] at run
  exact run

end Events

section Items

def entryItems (e : Text × Text) : List Item :=
  [.scalar none e.1 .doubleQuoted, .scalar none e.2 .doubleQuoted]

def Event.bare? : Event → Option Item
  | .scalar ⟨none, tag⟩ text style => some (.scalar tag text style)
  | .sequenceStart ⟨none, tag⟩ => some (.sequenceStart tag)
  | .sequenceEnd => some .sequenceEnd
  | .mappingStart ⟨none, tag⟩ => some (.mappingStart tag)
  | .mappingEnd => some .mappingEnd
  | _ => none

namespace Document

variable {d : Document} {evs : List Located} {items : List Item}

theorem load_cons_of_bare {e : Event} {i : Item} (h : e.bare? = some i) (fault : Option Fault)
    (single : Bool) (d : Document) (m : Mark) (evs : List Located) :
    load fault single d (⟨e, m⟩ :: evs) = load fault single { d with items := d.items ++ [(i, m)] } evs := by
  unfold Event.bare? at h
  split at h <;> cases h <;> rfl

theorem exists_load_eq (h : evs.map (fun e => e.event.bare?) = items.map some)
    (fault : Option Fault) (single : Bool) (d : Document) :
    ∃ is, is.map Prod.fst = items ∧
      load fault single d evs = { d with items := d.items ++ is, fault, single } := by
  induction evs generalizing items d with
  | nil =>
    obtain rfl : items = [] := List.map_eq_nil_iff.1 h.symm
    exact ⟨[], rfl, by simp [load]⟩
  | cons e evs ih =>
    obtain ⟨i, items', rfl, bare, others⟩ := List.map_eq_cons_iff.1 h.symm
    obtain ⟨is, rfl, loaded⟩ := ih others.symm { d with items := d.items ++ [(i, e.mark)] }
    refine ⟨(i, e.mark) :: is, rfl, ?_⟩
    rw [load_cons_of_bare bare.symm, loaded]
    simp

theorem textMembers_of_entries (d : Document) {es : List (Text × Text)} {is : Items}
    {rest : List Item} (h : is.map Prod.fst = es.flatMap entryItems ++ .mappingEnd :: rest)
    (vs : Variables) : d.textMembers vs is = .ok (vs.insertAll es) := by
  induction es generalizing is vs with
  | nil =>
    obtain ⟨⟨i, m⟩, is', rfl, rfl, -⟩ := List.map_eq_cons_iff.1 h
    rfl
  | cons e es ih =>
    rw [List.flatMap_cons, List.append_assoc] at h
    obtain ⟨⟨name, m⟩, is₁, rfl, rfl, h₁⟩ := List.map_eq_cons_iff.1 h
    obtain ⟨⟨value, m'⟩, is₂, rfl, rfl, h₂⟩ := List.map_eq_cons_iff.1 h₁
    exact ih h₂ (vs.insert e.1 e.2).2

end Document
end Items

theorem exists_ofText_eq {es : List (Text × Text)}
    (printable : ∀ e ∈ es, Printable e.1 ∧ Printable e.2) (short : ∀ e ∈ es, e.1.length ≤ 500) :
    ∃ m is, is.map Prod.fst = es.flatMap entryItems ++ [.mappingEnd] ∧
      Document.ofText (document es) = { items := (.mappingStart none, m) :: is, single := true } := by
  obtain ⟨evs, r, events, rest, first⟩ :=
    exists_firstDocument_eq (map_token_tokens_document printable short)
  have ends : endsStream r = true := by
    obtain ⟨_, _, r', rfl, -⟩ := exists_placed_of_map_token rest
    rfl
  have whole : (Event.mappingStart {} :: (es.flatMap entryEvents ++ [.mappingEnd])).map Event.bare? =
      (.mappingStart none :: (es.flatMap entryItems ++ [.mappingEnd])).map some := by
    simp [List.map_flatMap, entryEvents, entryItems, Event.bare?]
  have bare : evs.map (fun e => e.event.bare?) =
      (.mappingStart none :: (es.flatMap entryItems ++ [.mappingEnd])).map some := by
    rw [← whole, ← events, List.map_map]
    rfl
  obtain ⟨is, items, loaded⟩ := Document.exists_load_eq bare none true {}
  obtain ⟨⟨i, m⟩, is', rfl, rfl, members⟩ := List.map_eq_cons_iff.1 items
  refine ⟨m, is', members, ?_⟩
  rw [Document.ofText, first]
  simp only [ends, loaded, List.nil_append]

theorem readVariables_document {es : List (Text × Text)}
    (printable : ∀ e ∈ es, Printable e.1 ∧ Printable e.2) (short : ∀ e ∈ es, e.1.length ≤ 500) :
    readVariables (document es) = .ok (.ofList es) := by
  obtain ⟨m, is, members, document⟩ := exists_ofText_eq printable short
  have read := Document.textMembers_of_entries (Document.ofText (Line.document es)) members .empty
  rw [readVariables]
  rw [document] at read ⊢
  rw [Document.root]
  simp only [read]
  rfl

end Placeholder.Yaml
