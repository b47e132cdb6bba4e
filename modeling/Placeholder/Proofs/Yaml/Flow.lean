import Placeholder.Proofs.Yaml.Quoted
import Placeholder.Proofs.Yaml.Turn

/-! The tokens of variables on one line. They are a mapping in flow; its keys are in quotes, and so
short that their colons find them. -/

namespace Placeholder.Yaml

open Line
open Relation (ReflTransGen)

def entryTokens (e : Text × Text) : List Token :=
  [.key, .scalar e.1 .doubleQuoted, .value, .scalar e.2 .doubleQuoted]

def furtherTokens (es : List (Text × Text)) : List Token :=
  es.flatMap fun e => .flowEntry :: entryTokens e

def innerTokens : List (Text × Text) → List Token
  | [] => []
  | e :: es => entryTokens e ++ furtherTokens es

theorem Candidate.isStale_after {c : Candidate} {v : Text} (printable : Printable v)
    (short : v.length ≤ keyLimit) : c.isStale (c.mark.after v) = false := by
  have index : (c.mark.after v).index = c.mark.index + v.length := by
    rw [Mark.index_after, printable.bytes_eq]
  simp [isStale, Mark.line_after _ printable, index, short]

theorem isDocumentLine_eq_false {c : Char} (dash : c ≠ '-') (dot : c ≠ '.') (r : Text) :
    isDocumentLine (c :: r) = false := by
  unfold isDocumentLine
  split
  case h_1 h =>
    cases h
    simp [dash, dot]
  case h_2 => rfl

namespace Lexing

variable {s t : Lexing} {ts : List Token} {r : Text}

section Token

theorem token_open (s : Lexing) (r : Text) : s.token '{' r = s.flowStart .flowMappingStart r := by
  simp [token, isDocumentLine_eq_false]

theorem token_close (s : Lexing) (r : Text) : s.token '}' r = s.flowEnd .flowMappingEnd r := by
  simp [token, isDocumentLine_eq_false]

theorem token_comma (s : Lexing) (r : Text) : s.token ',' r = s.flowEntry r := by
  simp [token, isDocumentLine_eq_false]

theorem token_colon (flow : s.flow = true) (r : Text) : s.token ':' r = s.value r := by
  simp [token, isDocumentLine_eq_false, flow]

theorem token_quote (s : Lexing) (r : Text) :
    s.token '"' r =
      s.node ((double .none false r).map fun (t, r) => (.scalar t .doubleQuoted, r)) := by
  simp [token, isDocumentLine_eq_false]

end Token

theorem isFinished_eq_false (h : .streamEnd ∉ s.tokens.map Placed.token) :
    s.isFinished = false := by
  cases last : s.tokens.getLast? with
  | none => simp [isFinished, last]
  | some p =>
    have other : p.token ≠ .streamEnd := by
      intro same
      exact h (List.mem_map.2 ⟨p, List.mem_of_getLast? last, same⟩)
    simp [isFinished, last, other]

/-- Within the braces of a mapping in flow that is all of the document, with no candidate that would
have to be a key. -/
structure Inside (s : Lexing) : Prop where
  columns : s.columns = []
  outer : ∃ o, s.outer = [o] ∧ ∀ c ∈ o, c.required = false
  candidate : ∀ c ∈ s.candidate, c.required = false ∧ c.isStale s.mark = false
  unfinished : .streamEnd ∉ s.tokens.map Placed.token

namespace Inside

theorem flow (h : s.Inside) : s.flow = true := by
  obtain ⟨o, outer, -⟩ := h.outer
  simp [Lexing.flow, outer]

theorem exists_dropStale (h : s.Inside) :
    ∃ o, s.dropStale = some { s with outer := [o] } ∧ Inside { s with outer := [o] } := by
  obtain ⟨o, outer, optional⟩ := h.outer
  obtain ⟨o', fresh, optional'⟩ := exists_refresh_of_optional s.mark optional
  have candidate : refresh s.mark s.candidate = some s.candidate := by
    cases own : s.candidate with
    | none => rfl
    | some c => simp [refresh, (h.candidate c own).2]
  refine ⟨o', by simp [dropStale, candidate, outer, fresh], ?_⟩
  exact ⟨h.columns, ⟨o', rfl, optional'⟩, h.candidate, h.unfinished⟩

theorem drop (h : s.Inside) : Inside { s with candidate := none } :=
  ⟨h.columns, h.outer, (fun _ hc => by cases hc), h.unfinished⟩

theorem allow (h : s.Inside) (keyAllowed : Bool) : Inside { s with keyAllowed } :=
  ⟨h.columns, h.outer, h.candidate, h.unfinished⟩

theorem insert_key (h : s.Inside) (k : Nat) (m : Mark) : Inside (s.insert k .key m) := by
  refine ⟨h.columns, h.outer, h.candidate, ?_⟩
  have unfinished := h.unfinished
  rw [← List.take_append_drop k s.tokens, List.map_append, List.mem_append, not_or] at unfinished
  simpa only [insert, List.map_append, List.map_cons, List.mem_append, List.mem_cons, not_or,
    reduceCtorEq, not_false_eq_true, true_and] using unfinished

end Inside

/-- Inside, where the reading has come to. The colon of a key would go in front of a token with this
number. -/
structure At (s : Lexing) (waiting : Option Nat) (keyAllowed : Bool) (ts : List Token)
    (rest : Text) : Prop where
  inside : s.Inside
  candidate : s.candidate.map Candidate.token = waiting
  keyAllowed : s.keyAllowed = keyAllowed
  tokens : s.tokens.map Placed.token = ts
  rest : s.rest = rest

theorem Inside.at_read (h : s.Inside) {token : Token} (other : token ≠ .streamEnd)
    (near : ∀ c ∈ s.candidate, c.isStale (s.markAt r) = false) :
    At (s.read token r) (s.candidate.map Candidate.token) s.keyAllowed
      (s.tokens.map Placed.token ++ [token]) r := by
  have tokens : (s.read token r).tokens.map Placed.token = s.tokens.map Placed.token ++ [token] :=
    List.map_append
  have unfinished : .streamEnd ∉ (s.read token r).tokens.map Placed.token := by
    rw [tokens, List.mem_append, List.mem_singleton, not_or]
    exact ⟨h.unfinished, other.symm⟩
  exact ⟨⟨h.columns, h.outer, fun c hc => ⟨(h.candidate c hc).1, near c hc⟩, unfinished⟩, rfl, rfl,
    tokens, rfl⟩

theorem saveCandidate_of_flow (flow : s.flow = true) (keyAllowed : s.keyAllowed = true)
    (optional : ∀ c ∈ s.candidate, c.required = false) :
    s.saveCandidate = some { s with candidate := some ⟨false, s.tokens.length, s.mark⟩ } := by
  simp [saveCandidate, keyAllowed, dropCandidate_of_optional optional, flow]

theorem saveCandidate_of_keyAllowed_eq_false (h : s.keyAllowed = false) :
    s.saveCandidate = some s := by
  simp [saveCandidate, h]

theorem value_of_flow (flow : s.flow = true) {c : Candidate} (h : s.candidate = some c)
    (r : Text) :
    s.value r = some ({ s.insert c.token .key c.mark with
      candidate := none, keyAllowed := false }.read .value r) := by
  have flow' : (s.insert c.token .key c.mark).flow = true := flow
  have stay : (s.insert c.token .key c.mark).roll c.mark.column c.token .blockMappingStart c.mark =
      s.insert c.token .key c.mark := by
    simp [roll, flow']
  simp only [value, h, stay]

theorem token_signs {v : Text} (printable : Printable v) (s : Lexing) (r : Text) :
    s.token '"' (v.flatMap sign ++ '"' :: r) =
      s.saveCandidate.map fun s => { s with keyAllowed := false }.read (.scalar v .doubleQuoted) r := by
  have text : double .none false (v.flatMap sign ++ '"' :: r) = some (v, r) :=
    double_signs printable r rfl
  rw [token_quote, text, node, Option.map_some]
  cases s.saveCandidate <;> rfl

namespace At

variable {waiting : Option Nat} {keyAllowed : Bool}

theorem exists_turn {c : Char} (h : s.At waiting keyAllowed ts (c :: r)) (solid : Solid c) :
    ∃ u, At u waiting keyAllowed ts (c :: r) ∧
      ∀ t, u.token c r = some t → t.rest.length ≤ r.length → Turn s t := by
  obtain ⟨o, fresh, inside⟩ := h.inside.exists_dropStale
  refine ⟨_, ⟨inside, h.candidate, h.keyAllowed, h.tokens, h.rest⟩, ?_⟩
  intro t token shorter
  apply turn_of_token fresh (isFinished_eq_false inside.unfinished) inside.columns h.rest solid token
  rw [h.rest, List.length_cons]
  omega

theorem optional (h : s.At waiting keyAllowed ts r) : ∀ c ∈ s.candidate, c.required = false :=
  fun c hc => (h.inside.candidate c hc).1

theorem exists_comma (h : s.At none false ts (',' :: r)) :
    ∃ t, Turn s t ∧ t.At none true (ts ++ [.flowEntry]) r := by
  obtain ⟨u, here, turn⟩ := h.exists_turn (by decide)
  have token : u.token ',' r =
      some ({ u with candidate := none, keyAllowed := true }.read .flowEntry r) := by
    rw [token_comma, flowEntry, dropCandidate_of_optional here.optional]
    rfl
  rw [← here.tokens]
  exact ⟨_, turn _ token (Nat.le_refl _),
    (here.inside.drop.allow true).at_read (by decide) fun _ hc => by cases hc⟩

theorem exists_colon {k : Nat} (h : s.At (some k) false ts (':' :: r)) :
    ∃ t, Turn s t ∧ t.At none false (ts.take k ++ .key :: ts.drop k ++ [.value]) r := by
  obtain ⟨u, here, turn⟩ := h.exists_turn (by decide)
  obtain ⟨c, candidate, rfl⟩ := Option.map_eq_some_iff.1 here.candidate
  have flow := here.inside.flow
  have inserted : (u.insert c.token .key c.mark).tokens.map Placed.token =
      ts.take c.token ++ .key :: ts.drop c.token := by
    rw [← here.tokens, ← List.map_take, ← List.map_drop]
    exact List.map_append
  have inside := (here.inside.insert_key c.token c.mark).drop.allow false
  rw [← inserted]
  exact ⟨_, turn _ ((token_colon flow r).trans (value_of_flow flow candidate r)) (Nat.le_refl _),
    inside.at_read (by decide) fun _ hc => by cases hc⟩

theorem exists_turn_of_quote {v : Text} (printable : Printable v)
    (h : s.At waiting keyAllowed ts (quote v ++ r)) :
    ∃ u, At u waiting keyAllowed ts (quote v ++ r) ∧ ∀ w, u.saveCandidate = some w →
      Turn s ({ w with keyAllowed := false }.read (.scalar v .doubleQuoted) r) := by
  rw [quote_append] at h ⊢
  obtain ⟨u, here, turn⟩ := h.exists_turn (by decide)
  refine ⟨u, here, ?_⟩
  intro w saved
  apply turn
  · rw [token_signs printable, saved, Option.map_some]
  · exact ((List.suffix_cons '"' r).trans (List.suffix_append _ _)).length_le

theorem exists_value {v : Text} (printable : Printable v) (h : s.At none false ts (quote v ++ r)) :
    ∃ t, Turn s t ∧ t.At none false (ts ++ [.scalar v .doubleQuoted]) r := by
  obtain ⟨u, here, turn⟩ := h.exists_turn_of_quote printable
  have candidate : u.candidate = none := Option.map_eq_none_iff.1 here.candidate
  rw [← here.tokens, ← here.candidate]
  refine ⟨_, turn u (saveCandidate_of_keyAllowed_eq_false here.keyAllowed), ?_⟩
  apply (here.inside.allow false).at_read (by simp)
  intro c hc
  rw [candidate] at hc
  cases hc

theorem exists_key {v : Text} (printable : Printable v) (short : v.length ≤ 500)
    (h : s.At none true ts (quote v ++ r)) :
    ∃ t, Turn s t ∧ t.At (some ts.length) false (ts ++ [.scalar v .doubleQuoted]) r := by
  obtain ⟨u, here, turn⟩ := h.exists_turn_of_quote printable
  have save := saveCandidate_of_flow here.inside.flow here.keyAllowed here.optional
  let c : Candidate := ⟨false, u.tokens.length, u.mark⟩
  -- each character may have taken two, and the quotes another two
  have near : c.isStale (u.markAt r) = false := by
    rw [markAt_of_append here.rest]
    apply Candidate.isStale_after (c := c) printable.quote
    have length := length_quote_le v
    rw [keyLimit]
    omega
  have inside : Inside { u with candidate := some c, keyAllowed := false } := by
    refine ⟨here.inside.columns, here.inside.outer, ?_, here.inside.unfinished⟩
    rintro _ ⟨⟩
    exact ⟨rfl, by simp [c, Candidate.isStale]⟩
  have length : u.tokens.length = ts.length := by rw [← here.tokens, List.length_map]
  rw [← length, ← here.tokens]
  refine ⟨_, turn _ save, ?_⟩
  apply inside.at_read (by simp)
  rintro _ ⟨⟩
  exact near

theorem exists_entry {e : Text × Text} (printable : Printable e.1 ∧ Printable e.2)
    (short : e.1.length ≤ 500) (h : s.At none true ts (entry e ++ r)) :
    ∃ t, ReflTransGen Turn s t ∧ t.At none false (ts ++ entryTokens e) r := by
  rw [entry, List.append_assoc, List.cons_append] at h
  obtain ⟨t₁, key, h⟩ := h.exists_key printable.1 short
  obtain ⟨t₂, colon, h⟩ := h.exists_colon
  rw [List.take_left, List.drop_left] at h
  obtain ⟨t₃, value, h⟩ := h.exists_value printable.2
  refine ⟨t₃, .head key (.head colon (.single value)), ?_⟩
  simpa [entryTokens] using h

theorem exists_further {es : List (Text × Text)}
    (printable : ∀ e ∈ es, Printable e.1 ∧ Printable e.2) (short : ∀ e ∈ es, e.1.length ≤ 500)
    (h : s.At none false ts (further es ++ r)) :
    ∃ t, ReflTransGen Turn s t ∧ t.At none false (ts ++ furtherTokens es) r := by
  induction es generalizing s ts with
  | nil => exact ⟨s, .refl, by simpa [further, furtherTokens] using h⟩
  | cons e es ih =>
    rw [List.forall_mem_cons] at printable short
    rw [further, List.flatMap_cons, List.append_assoc, List.cons_append] at h
    obtain ⟨t₁, comma, h⟩ := h.exists_comma
    obtain ⟨t₂, entry, h⟩ := h.exists_entry printable.1 short.1
    obtain ⟨t₃, others, h⟩ := ih printable.2 short.2 h
    refine ⟨t₃, .head comma (entry.trans others), ?_⟩
    simpa [furtherTokens] using h

theorem exists_inner {es : List (Text × Text)}
    (printable : ∀ e ∈ es, Printable e.1 ∧ Printable e.2) (short : ∀ e ∈ es, e.1.length ≤ 500)
    (h : s.At none true ts (Text.join [','] (es.map entry) ++ r)) :
    ∃ t keyAllowed, ReflTransGen Turn s t ∧ t.At none keyAllowed (ts ++ innerTokens es) r := by
  cases es with
  | nil => exact ⟨s, true, .refl, by simpa [innerTokens, Text.join] using h⟩
  | cons e es =>
    rw [List.forall_mem_cons] at printable short
    rw [join_map_cons, List.append_assoc] at h
    obtain ⟨t₁, entry, h⟩ := h.exists_entry printable.1 short.1
    obtain ⟨t₂, others, h⟩ := h.exists_further printable.2 short.2
    refine ⟨t₂, false, entry.trans others, ?_⟩
    simpa [innerTokens] using h

theorem exists_answers_of_close (h : s.At none keyAllowed ts ['}']) :
    ∃ out, Answers s out ∧ out.map Placed.token = ts ++ [.flowMappingEnd, .streamEnd] := by
  obtain ⟨u, here, turn⟩ := h.exists_turn (by decide)
  obtain ⟨o, outer, optional⟩ := here.inside.outer
  let t : Lexing := { u with candidate := o, outer := [], keyAllowed := false }.read
    .flowMappingEnd []
  have token : u.token '}' [] = some t := by
    rw [token_close, flowEnd, dropCandidate_of_optional here.optional]
    simp only [Option.bind_eq_bind, Option.bind_some, outer]
    rfl
  have tokens : t.tokens.map Placed.token = ts ++ [.flowMappingEnd] := by
    rw [← here.tokens]
    exact List.map_append
  have unfinished : .streamEnd ∉ t.tokens.map Placed.token := by
    have before := here.inside.unfinished
    rw [here.tokens] at before
    simpa [tokens] using before
  -- it may be stale by now, which is no fault as it need not be a key
  obtain ⟨o', fresh, optional'⟩ := exists_refresh_of_optional t.mark optional
  have dropped : t.dropStale = some { t with candidate := o' } := by
    have candidate : t.candidate = o := rfl
    have outer : t.outer = [] := rfl
    simp [dropStale, candidate, outer, fresh]
  obtain ⟨m, ends⟩ := exists_answers_of_rest_eq_nil dropped (isFinished_eq_false unfinished)
    here.inside.columns rfl rfl optional'
  refine ⟨_, (turn t token (Nat.le_refl _)).answers ends, ?_⟩
  rw [List.map_append, tokens, List.append_assoc]
  rfl

end At

theorem exists_turn_of_open (r : Text) :
    ∃ t, Turn { mark := .origin, rest := '{' :: r } t ∧ t.At none true [.flowMappingStart] r := by
  let s : Lexing := { mark := .origin, rest := '{' :: r }
  let o : Candidate := ⟨false, 0, .origin⟩
  let t : Lexing := { s with outer := [some o], keyAllowed := true }.read .flowMappingStart r
  have token : s.token '{' r = some t := by
    rw [token_open]
    rfl
  refine ⟨t, turn_of_token (u := s) rfl rfl rfl rfl (by decide) token (Nat.lt_succ_self _), ?_⟩
  refine ⟨⟨rfl, ⟨some o, rfl, ?_⟩, (fun _ hc => by cases hc), ?_⟩, rfl, rfl, rfl, rfl⟩
  · rintro _ ⟨⟩
    rfl
  · change Token.streamEnd ∉ [Token.flowMappingStart]
    decide

end Lexing

theorem map_token_tokens_document {es : List (Text × Text)}
    (printable : ∀ e ∈ es, Printable e.1 ∧ Printable e.2) (short : ∀ e ∈ es, e.1.length ≤ 500) :
    (tokens (document es)).map Placed.token =
      .flowMappingStart :: (innerTokens es ++ [.flowMappingEnd, .streamEnd]) := by
  have whole := Printable.document printable
  obtain ⟨t₁, first, h⟩ := Lexing.exists_turn_of_open (Text.join [','] (es.map entry) ++ ['}'])
  obtain ⟨t₂, keyAllowed, inner, h⟩ := h.exists_inner printable short
  obtain ⟨out, answers, map⟩ := h.exists_answers_of_close
  have run := first.answers (Lexing.answers_of_turns inner answers)
  rw [tokens, if_pos (all_isAllowed whole), normal_eq_self whole]
  rw [document, run _ [] (Nat.le_refl _), map]
  simp

end Placeholder.Yaml
