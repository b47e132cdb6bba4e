import Mathlib.Tactic.IntervalCases
import Placeholder.Json.Scalar

namespace Placeholder.Json

def HexDigit (c : Char) (n : Nat) : Prop :=
  "0123456789abcdef".toList[n]? = some c ∨ "0123456789ABCDEF".toList[n]? = some c

inductive Hex : Text → Nat → Prop
  | mk {a b c d : Char} {i j k l : Nat} :
    HexDigit a i → HexDigit b j → HexDigit c k → HexDigit d l →
      Hex [a, b, c, d] (i * 16 ^ 3 + j * 16 ^ 2 + k * 16 + l)

def shorthands : List (Char × Char) :=
  [('"', '"'), ('\\', '\\'), ('/', '/'), ('b', '\x08'), ('f', '\x0c'), ('n', '\n'), ('r', '\r'),
    ('t', '\t')]

/-- What may follow a backslash. A character beyond the first plane takes two numbers, one from each
half of the surrogates; no number of that range is a character of its own. -/
inductive Escape : Text → Char → Prop
  | shorthand {e c : Char} : (e, c) ∈ shorthands → Escape [e] c
  | unicode {u : Text} {c : Char} : Hex u c.toNat → Escape ('u' :: u) c
  | pair {u v : Text} {high low : Nat} {c : Char} :
    Hex u high → 0xD800 ≤ high → high < 0xDC00 → Hex v low → 0xDC00 ≤ low → low < 0xE000 →
      c.toNat = 0x10000 + (high - 0xD800) * 0x400 + (low - 0xDC00) →
        Escape ('u' :: (u ++ '\\' :: 'u' :: v)) c

inductive Spells : Text → Text → Prop
  | nil : Spells [] []
  | plain {c : Char} {u s : Text} :
    c ≠ '"' → c ≠ '\\' → 0x20 ≤ c.toNat → Spells u s → Spells (c :: u) (c :: s)
  | escape {e u s : Text} {c : Char} :
    Escape e c → Spells u s → Spells ('\\' :: (e ++ u)) (c :: s)

inductive Literal : Text → Text → Prop
  | mk {u s : Text} : Spells u s → Literal ('"' :: (u ++ ['"'])) s

theorem HexDigit.lt {c : Char} {n : Nat} (h : HexDigit c n) : n < 16 := by
  rcases h with small | capital
  · exact (List.getElem?_eq_some_iff.1 small).1
  · exact (List.getElem?_eq_some_iff.1 capital).1

theorem Hex.lt {u : Text} {n : Nat} (h : Hex u n) : n < 0x10000 := by
  obtain ⟨ha, hb, hc, hd⟩ := h
  have first := ha.lt
  have second := hb.lt
  have third := hc.lt
  have fourth := hd.lt
  omega

theorem of_range {low high : Char} {P : Char → Prop}
    (all : ∀ n, low.toNat ≤ n → n ≤ high.toNat → P (Char.ofNat n)) {c : Char}
    (h : low ≤ c ∧ c ≤ high) : P c := by
  have here := all c.toNat h.1 h.2
  rwa [Char.ofNat_toNat] at here

theorem hexDigit_of_hexDigit? {c : Char} {n : Nat} (h : hexDigit? c = some n) : HexDigit c n := by
  unfold hexDigit? at h
  split at h
  case isTrue range =>
    cases h
    apply of_range (P := fun c => HexDigit c (c.toNat - '0'.toNat)) _ range
    intro n (low : 48 ≤ n) (high : n ≤ 57)
    interval_cases n <;> exact .inl rfl
  case isFalse =>
    split at h
    case isTrue range =>
      cases h
      apply of_range (P := fun c => HexDigit c (c.toNat - 'a'.toNat + 10)) _ range
      intro n (low : 97 ≤ n) (high : n ≤ 102)
      interval_cases n <;> exact .inl rfl
    case isFalse =>
      split at h
      case isTrue range =>
        cases h
        apply of_range (P := fun c => HexDigit c (c.toNat - 'A'.toNat + 10)) _ range
        intro n (low : 65 ≤ n) (high : n ≤ 70)
        interval_cases n <;> exact .inr rfl
      case isFalse => cases h

theorem hexDigit?_eq_some_iff {c : Char} {n : Nat} : hexDigit? c = some n ↔ HexDigit c n := by
  constructor
  · exact hexDigit_of_hexDigit?
  · intro h
    have lt := h.lt
    rcases h with small | capital
    · interval_cases n <;> cases small <;> rfl
    · interval_cases n <;> cases capital <;> rfl

theorem unit_eq_ok_iff {s r : Text} {n : Nat} :
    unit s = .ok (n, r) ↔ ∃ u, Hex u n ∧ s = u ++ r := by
  constructor
  · intro h
    unfold unit at h
    split at h
    case h_1 a b c d s =>
      split at h
      case h_1 i j k l ha hb hc hd =>
        cases h
        refine ⟨[a, b, c, d], ?_, rfl⟩
        rw [hexDigit?_eq_some_iff] at ha hb hc hd
        have value : ((i * 16 + j) * 16 + k) * 16 + l = i * 16 ^ 3 + j * 16 ^ 2 + k * 16 + l := by
          omega
        rw [value]
        exact .mk ha hb hc hd
      case h_2 => cases h
    case h_2 => cases h
  · rintro ⟨u, ⟨ha, hb, hc, hd⟩, rfl⟩
    rw [← hexDigit?_eq_some_iff] at ha hb hc hd
    simp only [List.cons_append, List.nil_append, unit, ha, hb, hc, hd, Except.ok.injEq,
      Prod.mk.injEq, and_true]
    omega

section Surrogates

theorem isLeading_iff {n : Nat} : isLeading n = true ↔ 0xD800 ≤ n ∧ n < 0xDC00 := by
  rw [isLeading, Bool.and_eq_true, decide_eq_true_iff, decide_eq_true_iff]

theorem isTrailing_iff {n : Nat} : isTrailing n = true ↔ 0xDC00 ≤ n ∧ n < 0xE000 := by
  rw [isTrailing, Bool.and_eq_true, decide_eq_true_iff, decide_eq_true_iff]

theorem isValidChar_iff {n : Nat} (lt : n < 0x10000) :
    n.isValidChar ↔ ¬ isTrailing n = true ∧ ¬ isLeading n = true := by
  rw [isTrailing_iff, isLeading_iff, Nat.isValidChar]
  omega

theorem ofNat_eq_iff {n : Nat} (valid : n.isValidChar) {c : Char} :
    Char.ofNat n = c ↔ c.toNat = n := by
  constructor
  · rintro rfl
    rw [Char.ofNat, dif_pos valid]
    rfl
  · rintro rfl
    exact Char.ofNat_toNat c

theorem pair_eq_iff {high low : Nat} (h : isLeading high = true) (h' : isTrailing low = true)
    {c : Char} :
    pair high low = c ↔ c.toNat = 0x10000 + (high - 0xD800) * 0x400 + (low - 0xDC00) := by
  rw [isLeading_iff] at h
  rw [isTrailing_iff] at h'
  apply ofNat_eq_iff
  right
  omega

end Surrogates

theorem trailing_eq_ok_iff {high : Nat} {s r : Text} {c : Char} :
    trailing high s = .ok (c, r) ↔
      ∃ v low, Hex v low ∧ isTrailing low = true ∧ pair high low = c ∧
        s = '\\' :: 'u' :: (v ++ r) := by
  constructor
  · intro h
    unfold trailing at h
    split at h
    case h_1 d e s =>
      split at h
      case isTrue => cases h
      case isFalse backslash =>
        split at h
        case isTrue => cases h
        case isFalse letter =>
          obtain rfl : d = '\\' := Classical.not_not.1 backslash
          obtain rfl : e = 'u' := Classical.not_not.1 letter
          split at h
          case h_1 => cases h
          case h_2 low t four =>
            obtain ⟨v, hex, rfl⟩ := unit_eq_ok_iff.1 four
            split at h
            case isTrue half =>
              simp only [Except.ok.injEq, Prod.mk.injEq] at h
              obtain ⟨rfl, rfl⟩ := h
              exact ⟨v, low, hex, half, rfl, rfl⟩
            case isFalse => cases h
    case h_2 => split at h <;> cases h
    case h_3 => cases h
  · rintro ⟨v, low, hex, half, rfl, rfl⟩
    have four : unit (v ++ r) = .ok (low, r) := unit_eq_ok_iff.2 ⟨v, hex, rfl⟩
    simp [trailing, four, half]

theorem escape_of_unicode {s r : Text} {c : Char} (h : unicode s = .ok (c, r)) :
    ∃ e, Escape ('u' :: e) c ∧ s = e ++ r := by
  unfold unicode at h
  split at h
  case h_1 => cases h
  case h_2 n t four =>
    obtain ⟨u, hex, rfl⟩ := unit_eq_ok_iff.1 four
    split at h
    case isTrue => cases h
    case isFalse whole =>
      split at h
      case isTrue half =>
        obtain ⟨v, low, hex', half', same, rfl⟩ := trailing_eq_ok_iff.1 h
        obtain ⟨high_le, high_lt⟩ := isLeading_iff.1 half
        obtain ⟨low_le, low_lt⟩ := isTrailing_iff.1 half'
        refine ⟨u ++ '\\' :: 'u' :: v, ?_, by simp⟩
        exact .pair hex high_le high_lt hex' low_le low_lt ((pair_eq_iff half half').1 same)
      case isFalse half =>
        cases h
        have valid := (isValidChar_iff hex.lt).2 ⟨whole, half⟩
        rw [← (ofNat_eq_iff valid).1 rfl] at hex
        exact ⟨u, .unicode hex, rfl⟩

theorem unicode_of_hex {u : Text} {c : Char} (hex : Hex u c.toNat) (r : Text) :
    unicode (u ++ r) = .ok (c, r) := by
  have four : unit (u ++ r) = .ok (c.toNat, r) := unit_eq_ok_iff.2 ⟨u, hex, rfl⟩
  obtain ⟨whole, half⟩ := (isValidChar_iff hex.lt).1 c.valid
  simp only [unicode, four, if_neg whole, if_neg half, Char.ofNat_toNat]

theorem unicode_of_pair {u v : Text} {high low : Nat} (hex : Hex u high) (hex' : Hex v low)
    (half : isLeading high = true) (half' : isTrailing low = true) (r : Text) :
    unicode (u ++ '\\' :: 'u' :: v ++ r) = .ok (pair high low, r) := by
  have four : unit (u ++ '\\' :: 'u' :: (v ++ r)) = .ok (high, '\\' :: 'u' :: (v ++ r)) :=
    unit_eq_ok_iff.2 ⟨u, hex, rfl⟩
  have whole : ¬ isTrailing high = true := by
    rw [isLeading_iff] at half
    rw [isTrailing_iff]
    omega
  rw [List.append_assoc, List.cons_append, List.cons_append]
  simp only [unicode, four, if_neg whole, half, if_true]
  exact trailing_eq_ok_iff.2 ⟨v, low, hex', half', rfl, rfl⟩

theorem escape_of_shorthand {e c : Char} (h : (e, c) ∈ shorthands) (r : Text) :
    escape (e :: r) = .ok (c, r) := by
  have all : ∀ p ∈ shorthands, escape (p.1 :: r) = .ok (p.2, r) := by
    simp [shorthands, escape]
  exact all (e, c) h

theorem escape_eq_ok_iff {s r : Text} {c : Char} :
    escape s = .ok (c, r) ↔ ∃ e, Escape e c ∧ s = e ++ r := by
  constructor
  · intro h
    unfold escape at h
    split at h
    case h_1 => cases h
    case h_10 s =>
      obtain ⟨e, escape, rfl⟩ := escape_of_unicode h
      exact ⟨'u' :: e, escape, rfl⟩
    case h_11 => cases h
    all_goals
      cases h
      exact ⟨[_], .shorthand (by decide), rfl⟩
  · rintro ⟨e, escape, rfl⟩
    cases escape with
    | shorthand h => exact escape_of_shorthand h r
    | unicode hex => exact unicode_of_hex hex r
    | pair hex high_le high_lt hex' low_le low_lt value =>
      have half := isLeading_iff.2 ⟨high_le, high_lt⟩
      have half' := isTrailing_iff.2 ⟨low_le, low_lt⟩
      rw [← (pair_eq_iff half half').2 value]
      exact unicode_of_pair hex hex' half half' r

theorem spells_of_string {s t r : Text} (h : string s = .ok (t, r)) :
    ∃ u, Spells u t ∧ s = u ++ '"' :: r := by
  fun_induction string s generalizing t with
  | case1 => cases h
  | case2 =>
    cases h
    exact ⟨[], .nil, rfl⟩
  | case3 => cases h
  | case4 => cases h
  | case5 s x r' escaped t r'' inner quote ih =>
    cases h
    obtain ⟨e, escape, rfl⟩ := escape_eq_ok_iff.1 escaped
    obtain ⟨u, spells, rfl⟩ := ih inner
    exact ⟨'\\' :: (e ++ u), .escape escape spells, by simp⟩
  | case6 => cases h
  | case7 => cases h
  | case8 c s quote backslash control t r' inner ih =>
    cases h
    obtain ⟨u, spells, rfl⟩ := ih inner
    exact ⟨c :: u, .plain quote backslash (Nat.le_of_not_lt control) spells, rfl⟩

theorem string_of_spells {u t : Text} (h : Spells u t) (r : Text) :
    string (u ++ '"' :: r) = .ok (t, r) := by
  induction h with
  | nil => simp [string]
  | plain quote backslash control _ ih =>
    rw [List.cons_append, string, if_neg quote, if_neg backslash, if_neg (Nat.not_lt.2 control), ih]
  | @escape e u t c escape _ ih =>
    have escaped : Json.escape (e ++ (u ++ '"' :: r)) = .ok (c, u ++ '"' :: r) :=
      escape_eq_ok_iff.2 ⟨e, escape, rfl⟩
    rw [List.cons_append, List.append_assoc, string, if_neg (by decide), if_pos rfl]
    split
    case h_1 failed =>
      rw [escaped] at failed
      cases failed
    case h_2 found =>
      rw [escaped] at found
      cases found
      rw [ih]

theorem string_eq_ok_iff {s t r : Text} :
    string s = .ok (t, r) ↔ ∃ u, Spells u t ∧ s = u ++ '"' :: r := by
  constructor
  · exact spells_of_string
  · rintro ⟨u, spells, rfl⟩
    exact string_of_spells spells r

end Placeholder.Json
