import LlmMax.JsonText
import Mathlib.Data.List.TakeWhile

/-! Reading JSON text, as `json.loads` does: what is written by `dumps` is read back, and what
is read is well formed. -/
namespace LlmMax.JsonParser
open JsonText

def isWhitespace (c : Char) : Bool := c == ' ' || c == '\t' || c == '\n' || c == '\r'

def skipWhitespace (text : List Char) : List Char := text.dropWhile isWhitespace

/-- What follows a word, if the text begins with it. -/
def keyword (word text : List Char) : Option (List Char) :=
  if word.isPrefixOf text then some (text.drop word.length) else none

section strings

def hexVal (c : Char) : Option ℕ :=
  if c.isDigit then some (c.toNat - 48)
  else if 'a' ≤ c ∧ c ≤ 'f' then some (c.toNat - 87)
  else if 'A' ≤ c ∧ c ≤ 'F' then some (c.toNat - 55)
  else none

/-- Four hexadecimal digits. -/
def scanHex : List Char → Option (ℕ × List Char)
  | a :: b :: c :: d :: rest => do
    let a ← hexVal a
    let b ← hexVal b
    let c ← hexVal c
    let d ← hexVal d
    return (4096 * a + 256 * b + 16 * c + d, rest)
  | _ => none

/-- A sixteen-bit unit on its own. -/
def ofUnit (n : ℕ) : CodePoint :=
  if h : 0xd800 ≤ n ∧ n < 0xe000 then .surrogate ⟨n - 0xd800, by omega⟩ else .char (Char.ofNat n)

/-- The character above the basic plane, if the second half of a pair follows the first. -/
def scanLow (high : ℕ) : List Char → Option (CodePoint × List Char)
  | '\\' :: 'u' :: text => do
    let (low, rest) ← scanHex text
    if (0xd800 ≤ high ∧ high < 0xdc00) ∧ 0xdc00 ≤ low ∧ low < 0xe000 then
      return (.char (Char.ofNat (0x10000 + 1024 * (high - 0xd800) + (low - 0xdc00))), rest)
    else none
  | _ => none

/-- What a backslash and what follows it stand for; half of a pair may stand alone. -/
def scanEscape : List Char → Option (CodePoint × List Char)
  | 'u' :: text => do
    let (n, rest) ← scanHex text
    return (scanLow n rest).getD (ofUnit n, rest)
  | 'n' :: rest => some (.char '\n', rest)
  | 'r' :: rest => some (.char '\r', rest)
  | 't' :: rest => some (.char '\t', rest)
  | 'b' :: rest => some (.char '\x08', rest)
  | 'f' :: rest => some (.char '\x0c', rest)
  | c :: rest => if c = '\x22' ∨ c = '\\' ∨ c = '/' then some (.char c, rest) else none
  | [] => none

/-- The next character of a string; a control character may not stand in one. -/
def scanChar : List Char → Option (CodePoint × List Char)
  | '\\' :: rest => scanEscape rest
  | c :: rest => if c < ' ' then none else some (.char c, rest)
  | [] => none

/-- The rest of a string after its opening quote. -/
def scanString : ℕ → List Char → Option (Text × List Char)
  | _, '\x22' :: rest => some ([], rest)
  | 0, _ => none
  | n + 1, text => do
    let (c, rest) ← scanChar text
    let (cs, rest) ← scanString n rest
    return (c :: cs, rest)

end strings

section numbers

/-- The digits at the front, of which there must be one. -/
def scanDigits (text : List Char) : Option (List Char × List Char) :=
  match text.span Char.isDigit with
  | ([], _) => none
  | parts => some parts

def scanNatural : List Char → Option (List Char × List Char)
  | c :: text => if c = '0' then some ([c], text) else scanDigits (c :: text)
  | [] => none

def scanInteger : List Char → Option (List Char × List Char)
  | c :: text =>
    if c = '-' then (scanNatural text).map fun parts => (c :: parts.1, parts.2)
    else scanNatural (c :: text)
  | [] => none

/-- The fraction, where there is one. -/
def scanFraction : List Char → List Char × List Char
  | c :: text =>
    if c = '.' then
      match scanDigits text with
      | some (digits, rest) => (c :: digits, rest)
      | none => ([], c :: text)
    else ([], c :: text)
  | [] => ([], [])

def scanSign : List Char → List Char × List Char
  | c :: text => if c = '-' ∨ c = '+' then ([c], text) else ([], c :: text)
  | [] => ([], [])

/-- The exponent, where there is one. -/
def scanExponent : List Char → List Char × List Char
  | c :: text =>
    if c = 'e' ∨ c = 'E' then
      match scanDigits (scanSign text).2 with
      | some (digits, rest) => (c :: ((scanSign text).1 ++ digits), rest)
      | none => ([], c :: text)
    else ([], c :: text)
  | [] => ([], [])

def nan : List Char := ['N', 'a', 'N']

def infinity : List Char := ['I', 'n', 'f', 'i', 'n', 'i', 't', 'y']

/-- The constants that are numbers. -/
def scanConstant (text : List Char) : Option (List Char × List Char) :=
  [nan, infinity, '-' :: infinity].findSome? fun word =>
    (keyword word text).map fun rest => (word, rest)

/-- The text of a number, and what follows it. -/
def scanNumber (text : List Char) : Option (List Char × List Char) :=
  match scanInteger text with
  | some (integer, rest) =>
    let fraction := scanFraction rest
    let exponent := scanExponent fraction.2
    some (integer ++ fraction.1 ++ exponent.1, exponent.2)
  | none => scanConstant text

/-- The text of a number that is zero. -/
def isZero (text : List Char) : Bool :=
  let mantissa := text.takeWhile fun c => c ≠ 'e' && c ≠ 'E'
  mantissa.contains '0' && mantissa.all fun c => c < '1' || '9' < c

/-- The text is that of one number. -/
def IsNumber (text : List Char) : Prop := scanNumber text = some (text, [])

end numbers

/-- How values are read. What is written for a number is a number's text, and is read as the same
number; `int` may refuse a text for its length. Arrays and objects nest as deep as recursion
goes. -/
structure Reading where
  number : List Char → Option Numeral
  opens : ℕ → Bool
  literal : ∀ text n, IsNumber text → number text = some n → IsNumber n.text
  stable : ∀ text n, IsNumber text → number text = some n → number n.text = some n
  outermost : opens 0 = true

/-- `dict(pairs)`: a later value replaces an earlier one of its key, in its place. -/
def insert (fields : List (Text × Json)) (key : Text) (value : Json) : List (Text × Json) :=
  if key ∈ fields.map Prod.fst then
    fields.map fun field => if field.1 = key then (key, value) else field
  else fields ++ [(key, value)]

def dictOf (pairs : List (Text × Json)) : List (Text × Json) :=
  pairs.foldl (fun fields pair => insert fields pair.1 pair.2) []

section parser
variable (reading : Reading)

def parseAtom (text : List Char) : Option (Json × List Char) :=
  match keyword "null".toList text with
  | some rest => some (.null, rest)
  | none =>
    match keyword "true".toList text with
    | some rest => some (.bool true, rest)
    | none =>
      match keyword "false".toList text with
      | some rest => some (.bool false, rest)
      | none => do
        let (number, rest) ← scanNumber text
        let n ← reading.number number
        return (.number n, rest)

mutual

/-- A value at that level of nesting. -/
def parseValue : ℕ → ℕ → List Char → Option (Json × List Char)
  | 0, _, _ => none
  | n + 1, level, text =>
    match text with
    | '\x22' :: rest => (scanString rest.length rest).map fun parts => (.str parts.1, parts.2)
    | '[' :: rest =>
      if reading.opens level then
        match skipWhitespace rest with
        | ']' :: rest => some (.arr [], rest)
        | rest => (parseItems n (level + 1) rest).map fun parts => (.arr parts.1, parts.2)
      else none
    | '\x7b' :: rest =>
      if reading.opens level then
        match skipWhitespace rest with
        | '\x7d' :: rest => some (.obj [], rest)
        | rest => (parseFields n (level + 1) rest).map fun parts => (.obj (dictOf parts.1), parts.2)
      else none
    | text => parseAtom reading text

/-- At least one item, up to the bracket that closes the array. -/
def parseItems : ℕ → ℕ → List Char → Option (List Json × List Char)
  | 0, _, _ => none
  | n + 1, level, text =>
    match parseValue n level text with
    | none => none
    | some (item, rest) =>
      match skipWhitespace rest with
      | ']' :: rest => some ([item], rest)
      | ',' :: rest =>
        (parseItems n level (skipWhitespace rest)).map fun parts => (item :: parts.1, parts.2)
      | _ => none

/-- At least one field, up to the brace that closes the object. -/
def parseFields : ℕ → ℕ → List Char → Option (List (Text × Json) × List Char)
  | 0, _, _ => none
  | n + 1, level, text =>
    match (keyword ['\x22'] text).bind fun rest => scanString rest.length rest with
    | none => none
    | some (key, rest) =>
      match keyword [':'] (skipWhitespace rest) with
      | none => none
      | some rest =>
        match parseValue n level (skipWhitespace rest) with
        | none => none
        | some (value, rest) =>
          match skipWhitespace rest with
          | '\x7d' :: rest => some ([(key, value)], rest)
          | ',' :: rest => (parseFields n level (skipWhitespace rest)).map fun parts =>
              ((key, value) :: parts.1, parts.2)
          | _ => none

end

/-- `json.loads`: one value, and nothing but whitespace around it. -/
def loads (text : List Char) : Option Json :=
  match parseValue reading (2 * text.length + 1) 0 (skipWhitespace text) with
  | some (json, rest) => if skipWhitespace rest = [] then some json else none
  | none => none

end parser

lemma keyword_eq_some {word text rest : List Char} :
    keyword word text = some rest ↔ text = word ++ rest := by
  unfold keyword
  constructor
  · intro h
    split_ifs at h with hprefix
    obtain ⟨tail, rfl⟩ := List.isPrefixOf_iff_prefix.mp hprefix
    simpa using h
  · rintro rfl
    simp

section strings

lemma hexVal_digitChar : ∀ d < 16, hexVal (Nat.digitChar d) = some d := by decide

lemma scanHex_hex4 {n : ℕ} (h : n < 0x10000) (rest : List Char) :
    scanHex (hex4 n ++ rest) = some (n, rest) := by
  have hdigit (m : ℕ) : hexVal (Nat.digitChar (m % 16)) = some (m % 16) :=
    hexVal_digitChar _ (Nat.mod_lt m (by norm_num))
  have hsum : 4096 * (n / 4096 % 16) + 256 * (n / 256 % 16) + 16 * (n / 16 % 16) + n % 16 = n := by
    omega
  simp [scanHex, hex4, hdigit, hsum]

lemma char_valid (c : Char) : c.toNat < 0xd800 ∨ (0xdfff < c.toNat ∧ c.toNat < 0x110000) := c.valid

/-- What follows is not the second half of a pair. -/
def NoLow (rest : List Char) : Prop := ∀ high, scanLow high rest = none

lemma noLow_of_head {rest : List Char} (h : ∀ c ∈ rest.head?, c ≠ '\\') : NoLow rest := by
  intro high
  cases rest with
  | nil => rfl
  | cons c rest =>
    have hslash := h c rfl
    rw [scanLow.eq_def]
    split
    · rename_i heq
      exact absurd (List.cons.inj heq).1 hslash
    · rfl

lemma noLow_escape {c : Char} (h : c ≠ 'u') (rest : List Char) : NoLow ('\\' :: c :: rest) := by
  intro high
  rw [scanLow.eq_def]
  split
  · rename_i heq
    exact absurd (List.cons.inj (List.cons.inj heq).2).1 h
  · rfl

lemma noLow_unit {n : ℕ} (h : n < 0x10000) (hlow : n < 0xdc00 ∨ 0xe000 ≤ n) (rest : List Char) :
    NoLow ('\\' :: 'u' :: hex4 n ++ rest) := by
  intro high
  have hrange : ¬ ((0xd800 ≤ high ∧ high < 0xdc00) ∧ 0xdc00 ≤ n ∧ n < 0xe000) := by omega
  rw [List.cons_append, List.cons_append, scanLow, scanHex_hex4 h]
  simp only [Option.bind_eq_bind, Option.bind_some, hrange, if_false]

/-- Only the second half of a pair is taken for one. -/
lemma noLow_escaped {c : CodePoint} (h : c.isLow = false) (rest : List Char) :
    NoLow (escape c ++ rest) := by
  cases c with
  | surrogate n =>
    have hn : (n : ℕ) < 1024 := by simpa [CodePoint.isLow] using h
    exact noLow_unit (by omega) (by omega) rest
  | char c =>
    have hvalid := char_valid c
    rw [escape, escapeChar]
    split_ifs with hquote hslash hn hr ht hb hf hprint hplane
    on_goal 8 =>
      apply noLow_of_head
      rintro d ⟨⟩
      exact hslash
    on_goal 8 => exact noLow_unit hplane (by omega) rest
    on_goal 8 =>
      rw [List.append_assoc]
      exact noLow_unit (by omega) (by omega) _
    all_goals exact noLow_escape (by decide) rest

lemma ofUnit_surrogate (n : Fin 2048) : ofUnit (0xd800 + n) = .surrogate n := by
  have hrange : 0xd800 ≤ 0xd800 + (n : ℕ) ∧ 0xd800 + (n : ℕ) < 0xe000 := by omega
  simp [ofUnit, hrange]

lemma ofUnit_char {c : Char} : ofUnit c.toNat = .char c := by
  have hscalar : ¬ (0xd800 ≤ c.toNat ∧ c.toNat < 0xe000) := by
    have := char_valid c
    omega
  rw [ofUnit, dif_neg hscalar, Char.ofNat_toNat]

/-- A unit stands alone if it is not the first half of a pair that goes on. -/
lemma scanChar_unit {n : ℕ} (h : n < 0x10000) {rest : List Char} (hrest : scanLow n rest = none) :
    scanChar ('\\' :: 'u' :: hex4 n ++ rest) = some (ofUnit n, rest) := by
  rw [List.cons_append, List.cons_append, scanChar, scanEscape, scanHex_hex4 h]
  simp [hrest]

lemma scanLow_char {n : ℕ} (h : n < 0xd800 ∨ 0xdc00 ≤ n) (rest : List Char) :
    scanLow n rest = none := by
  unfold scanLow
  split
  · rename_i text
    cases scanHex text with
    | none => rfl
    | some parts =>
      have hrange : ¬ ((0xd800 ≤ n ∧ n < 0xdc00) ∧ 0xdc00 ≤ parts.1 ∧ parts.1 < 0xe000) := by omega
      simp [hrange]
  · rfl

lemma scanChar_surrogates {high low : ℕ} (hhigh : 0xd800 ≤ high ∧ high < 0xdc00)
    (hlow : 0xdc00 ≤ low ∧ low < 0xe000) (rest : List Char) :
    scanChar ('\\' :: 'u' :: hex4 high ++ ('\\' :: 'u' :: hex4 low ++ rest)) =
      some (.char (Char.ofNat (0x10000 + 1024 * (high - 0xd800) + (low - 0xdc00))), rest) := by
  have hpair : scanLow high ('\\' :: 'u' :: hex4 low ++ rest) =
      some (.char (Char.ofNat (0x10000 + 1024 * (high - 0xd800) + (low - 0xdc00))), rest) := by
    rw [List.cons_append, List.cons_append, scanLow, scanHex_hex4 (by omega)]
    simp only [Option.bind_eq_bind, Option.bind_some, hhigh, hlow, and_self, if_true,
      Option.pure_def]
  rw [List.cons_append, List.cons_append, scanChar, scanEscape, scanHex_hex4 (by omega)]
  simp only [Option.bind_eq_bind, Option.bind_some, hpair, Option.getD_some, Option.pure_def]

lemma scanChar_pair (c : Char) (h : 0x10000 ≤ c.toNat) (rest : List Char) :
    scanChar ('\\' :: 'u' :: hex4 (0xd800 + (c.toNat - 0x10000) / 1024) ++
      ('\\' :: 'u' :: hex4 (0xdc00 + (c.toNat - 0x10000) % 1024) ++ rest)) =
        some (.char c, rest) := by
  have hvalid := char_valid c
  obtain ⟨high, hhigh⟩ : ∃ n, n = 0xd800 + (c.toNat - 0x10000) / 1024 := ⟨_, rfl⟩
  obtain ⟨low, hlow⟩ : ∃ n, n = 0xdc00 + (c.toNat - 0x10000) % 1024 := ⟨_, rfl⟩
  have hsum : 0x10000 + 1024 * (high - 0xd800) + (low - 0xdc00) = c.toNat := by omega
  rw [← hhigh, ← hlow, scanChar_surrogates (by omega) (by omega), hsum, Char.ofNat_toNat]

lemma scanChar_escapeChar (c : Char) (rest : List Char) :
    scanChar (escapeChar c ++ rest) = some (.char c, rest) := by
  have hvalid := char_valid c
  unfold escapeChar
  split_ifs with hquote hslash hn hr ht hb hf hprint hplane
  · subst hquote
    rfl
  · subst hslash
    rfl
  · subst hn
    rfl
  · subst hr
    rfl
  · subst ht
    rfl
  · subst hb
    rfl
  · subst hf
    rfl
  · have hcontrol : ¬ c < ' ' := Char.not_lt.mpr hprint.1
    rw [List.singleton_append, scanChar.eq_def]
    split
    · rename_i heq
      exact absurd (List.cons.inj heq).1 hslash
    · rename_i heq
      obtain ⟨rfl, rfl⟩ := List.cons.inj heq
      rw [if_neg hcontrol]
    · rename_i heq
      cases heq
  · rw [scanChar_unit hplane (scanLow_char (by omega) rest), ofUnit_char]
  · rw [List.append_assoc]
    exact scanChar_pair c (Nat.le_of_not_lt hplane) rest

/-- What a code point is escaped to is read as the code point, if it is not half of a pair that
what follows completes. -/
lemma scanChar_escape (c : CodePoint) {rest : List Char} (h : c.isHigh → NoLow rest) :
    scanChar (escape c ++ rest) = some (c, rest) := by
  cases c with
  | char c => exact scanChar_escapeChar c rest
  | surrogate n =>
    have hlow : scanLow (0xd800 + n) rest = none := by
      by_cases hhigh : (n : ℕ) < 1024
      · exact h (by simpa [CodePoint.isHigh] using hhigh) _
      · exact scanLow_char (by omega) rest
    rw [escape, scanChar_unit (by omega) hlow, ofUnit_surrogate]

/-- The text of a code point never begins with a quote. -/
lemma escape_head (c : CodePoint) : ∃ d text, escape c = d :: text ∧ d ≠ '\x22' := by
  cases c with
  | surrogate n => exact ⟨'\\', _, rfl, by decide⟩
  | char c =>
    rw [escape, escapeChar]
    split_ifs with hquote
    on_goal 8 => exact ⟨c, [], rfl, hquote⟩
    all_goals exact ⟨'\\', _, rfl, by decide⟩

lemma scanString_cons {n : ℕ} {d : Char} {text : List Char} (h : d ≠ '\x22') :
    scanString (n + 1) (d :: text) = do
      let (c, rest) ← scanChar (d :: text)
      let (cs, rest) ← scanString n rest
      return (c :: cs, rest) := by
  rw [scanString.eq_def]
  split
  · rename_i heq
    exact absurd (List.cons.inj heq).1 h
  · rename_i heq _
    cases heq
  · rename_i heq _
    obtain rfl := Nat.succ.inj heq
    rfl

/-- The halves of a pair do not stand together. -/
def Joined (s : Text) : Prop := s.IsChain fun a b => a.isHigh → b.isLow = false

lemma noLow_rest {c : CodePoint} {cs : Text} (h : Joined (c :: cs)) (rest : List Char) :
    c.isHigh → NoLow (cs.flatMap escape ++ '\x22' :: rest) := by
  intro hhigh
  cases cs with
  | nil =>
    apply noLow_of_head
    rintro d ⟨⟩
    decide
  | cons d cs =>
    rw [List.flatMap_cons, List.append_assoc]
    exact noLow_escaped ((List.isChain_cons_cons.mp h).1 hhigh) _

/-- A quoted string is read up to its closing quote. -/
lemma scanString_escaped {cs : Text} (hcs : Joined cs) (rest : List Char) {n : ℕ}
    (h : cs.length ≤ n) :
    scanString n (cs.flatMap escape ++ '\x22' :: rest) = some (cs, rest) := by
  induction cs generalizing n with
  | nil => cases n <;> rfl
  | cons c cs ih =>
    obtain ⟨n, rfl⟩ : ∃ m, n = m + 1 := ⟨n - 1, by simp at h; omega⟩
    obtain ⟨d, text, htext, hd⟩ := escape_head c
    have hscan := scanChar_escape c (noLow_rest hcs rest)
    rw [List.flatMap_cons, List.append_assoc]
    rw [htext, List.cons_append] at hscan ⊢
    rw [scanString_cons hd, hscan]
    simp [ih (List.isChain_cons.mp hcs).2 (n := n) (by simpa using h)]

end strings

section numbers

/-- The text does not go on with a character of that kind. -/
def Avoids (kind : Char → Bool) (rest : List Char) : Prop := ∀ c ∈ rest.head?, kind c = false

/-- The characters that a number can go on with. -/
def inNumber (c : Char) : Bool :=
  c.isDigit || c == '.' || c == 'e' || c == 'E' || c == '+' || c == '-'

lemma Avoids.mono {kind kind' : Char → Bool} {rest : List Char} (h : Avoids kind rest)
    (hkind : ∀ c, kind' c = true → kind c = true) : Avoids kind' rest := by
  intro c hc
  by_contra hkind'
  have hbanned := hkind c (by simpa using hkind')
  rw [h c hc] at hbanned
  cases hbanned

/-- The parts of a longer text, when the first part ends where it did. -/
def extend (rest : List Char) (parts : List Char × List Char) : List Char × List Char :=
  (parts.1, parts.2 ++ rest)

section digits
variable {rest : List Char} (h : Avoids Char.isDigit rest)
include h

lemma span_append (text : List Char) :
    (text ++ rest).span Char.isDigit = extend rest (text.span Char.isDigit) := by
  simp only [List.span_eq_takeWhile_dropWhile, extend]
  induction text with
  | nil =>
    cases rest with
    | nil => rfl
    | cons c rest => simp [h c rfl]
  | cons c text ih =>
    obtain ⟨htake, hdrop⟩ := Prod.mk.inj ih
    cases hc : c.isDigit with
    | true => simp [hc, htake, hdrop]
    | false => simp [hc]

lemma scanDigits_append (text : List Char) :
    scanDigits (text ++ rest) = (scanDigits text).map (extend rest) := by
  unfold scanDigits
  rw [span_append h]
  rcases text.span Char.isDigit with ⟨_ | ⟨c, digits⟩, left⟩ <;> rfl

lemma scanNatural_append (text : List Char) :
    scanNatural (text ++ rest) = (scanNatural text).map (extend rest) := by
  cases text with
  | nil =>
    cases rest with
    | nil => rfl
    | cons c rest =>
      have hdigit := h c rfl
      have hzero : c ≠ '0' := by
        rintro rfl
        cases hdigit
      simp [scanNatural, hzero, scanDigits, hdigit]
  | cons c text =>
    rw [List.cons_append, scanNatural, scanNatural]
    split_ifs
    · rfl
    · exact scanDigits_append h (c :: text)

lemma scanInteger_append (hminus : Avoids (· == '-') rest) (text : List Char) :
    scanInteger (text ++ rest) = (scanInteger text).map (extend rest) := by
  cases text with
  | nil =>
    cases rest with
    | nil => rfl
    | cons c rest =>
      have hc : c ≠ '-' := by simpa using hminus c rfl
      rw [List.nil_append, scanInteger, if_neg hc]
      exact scanNatural_append h []
  | cons c text =>
    rw [List.cons_append, scanInteger, scanInteger]
    split_ifs
    · rw [scanNatural_append h]
      cases scanNatural text <;> rfl
    · exact scanNatural_append h (c :: text)

lemma scanFraction_append (hdot : Avoids (· == '.') rest) (text : List Char) :
    scanFraction (text ++ rest) = extend rest (scanFraction text) := by
  cases text with
  | nil =>
    cases rest with
    | nil => rfl
    | cons c rest =>
      have hc : c ≠ '.' := by simpa using hdot c rfl
      simp [scanFraction, hc, extend]
  | cons c text =>
    rw [List.cons_append, scanFraction, scanFraction]
    split_ifs
    · rw [scanDigits_append h]
      cases scanDigits text <;> rfl
    · rfl

end digits

section ends
variable {rest : List Char} (h : Avoids inNumber rest)
include h

lemma avoids_digit : Avoids Char.isDigit rest := h.mono (by simp +contextual [inNumber])

lemma avoids_char {d : Char} (hd : inNumber d = true) : Avoids (· == d) rest := by
  apply h.mono
  intro c hc
  obtain rfl : c = d := by simpa using hc
  exact hd

lemma scanSign_append (text : List Char) : scanSign (text ++ rest) = extend rest (scanSign text) := by
  cases text with
  | nil =>
    cases rest with
    | nil => rfl
    | cons c rest =>
      have hminus : c ≠ '-' := by simpa using avoids_char h (d := '-') rfl c rfl
      have hplus : c ≠ '+' := by simpa using avoids_char h (d := '+') rfl c rfl
      simp [scanSign, hplus, hminus, extend]
  | cons c text =>
    rw [List.cons_append, scanSign, scanSign]
    split_ifs <;> rfl

lemma scanExponent_append (text : List Char) :
    scanExponent (text ++ rest) = extend rest (scanExponent text) := by
  cases text with
  | nil =>
    cases rest with
    | nil => rfl
    | cons c rest =>
      have hlower : c ≠ 'e' := by simpa using avoids_char h (d := 'e') rfl c rfl
      have hupper : c ≠ 'E' := by simpa using avoids_char h (d := 'E') rfl c rfl
      simp [scanExponent, hlower, hupper, extend]
  | cons c text =>
    have hdigits : scanDigits (scanSign (text ++ rest)).2 =
        (scanDigits (scanSign text).2).map (extend rest) := by
      rw [scanSign_append h]
      exact scanDigits_append (avoids_digit h) _
    have hsign : (scanSign (text ++ rest)).1 = (scanSign text).1 := by rw [scanSign_append h, extend]
    rw [List.cons_append, scanExponent, scanExponent]
    split_ifs
    · rw [hdigits, hsign]
      cases scanDigits (scanSign text).2 <;> rfl
    · rfl

/-- A number's text is read up to where it ends. -/
lemma scanNumber_append {text : List Char} (htext : IsNumber text) :
    scanNumber (text ++ rest) = some (text, rest) := by
  have hdigit := avoids_digit h
  unfold IsNumber scanNumber at htext
  unfold scanNumber
  rw [scanInteger_append hdigit (avoids_char h rfl)]
  cases hinteger : scanInteger text with
  | some parts =>
    obtain ⟨integer, left⟩ := parts
    rw [hinteger] at htext
    simp only [Option.some.injEq, Prod.mk.injEq] at htext
    obtain ⟨htaken, hleft⟩ := htext
    simp only [Option.map_some, extend, scanFraction_append hdigit (avoids_char h rfl),
      scanExponent_append h, htaken, hleft, List.nil_append]
  | none =>
    rw [hinteger] at htext
    obtain ⟨word, hword, hrest⟩ := List.exists_of_findSome?_eq_some htext
    obtain ⟨left, -, hparts⟩ := Option.map_eq_some_iff.mp hrest
    obtain ⟨rfl, -⟩ := Prod.mk.inj hparts
    fin_cases hword <;> rfl

end ends

lemma number_head {text : List Char} (htext : IsNumber text) : ∃ c tail, text = c :: tail ∧
    (c.isDigit = true ∨ c = '-' ∨ c = 'N' ∨ c = 'I') := by
  unfold IsNumber scanNumber at htext
  cases hinteger : scanInteger text with
  | some parts =>
    cases text with
    | nil => cases hinteger
    | cons c tail =>
      refine ⟨c, tail, rfl, ?_⟩
      rw [scanInteger] at hinteger
      split_ifs at hinteger with hminus
      · exact .inr (.inl hminus)
      · rw [scanNatural] at hinteger
        split_ifs at hinteger with hzero
        · subst hzero
          exact .inl rfl
        · left
          by_contra hdigit
          simp [scanDigits, hdigit] at hinteger
  | none =>
    rw [hinteger] at htext
    obtain ⟨word, hword, hrest⟩ := List.exists_of_findSome?_eq_some htext
    obtain ⟨left, -, hparts⟩ := Option.map_eq_some_iff.mp hrest
    obtain ⟨rfl, -⟩ := Prod.mk.inj hparts
    fin_cases hword
    · exact ⟨'N', _, rfl, by simp⟩
    · exact ⟨'I', _, rfl, by simp⟩
    · exact ⟨'-', _, rfl, by simp⟩

end numbers

/-- What is taken of a text is its front, and is taken whole when it stands alone. -/
lemma scanDigits_taken {text digits left : List Char} (h : scanDigits text = some (digits, left)) :
    text = digits ++ left ∧ digits ≠ [] ∧ scanDigits digits = some (digits, []) := by
  unfold scanDigits at h
  rw [List.span_eq_takeWhile_dropWhile] at h
  have hparts : text.takeWhile Char.isDigit = digits ∧ text.dropWhile Char.isDigit = left := by
    split at h
    · cases h
    · exact Prod.mk.inj (Option.some.inj h)
  obtain ⟨rfl, rfl⟩ := hparts
  have hall : ∀ c ∈ text.takeWhile Char.isDigit, c.isDigit = true :=
    fun c hc => List.mem_takeWhile_imp hc
  have hne : text.takeWhile Char.isDigit ≠ [] := by
    intro hnil
    rw [hnil] at h
    cases h
  refine ⟨List.takeWhile_append_dropWhile.symm, hne, ?_⟩
  obtain ⟨c, tail, hcons⟩ := List.exists_cons_of_ne_nil hne
  unfold scanDigits
  rw [List.span_eq_takeWhile_dropWhile, List.takeWhile_eq_self_iff.mpr hall,
    List.dropWhile_eq_nil_iff.mpr hall, hcons]

lemma scanNatural_taken {text natural left : List Char}
    (h : scanNatural text = some (natural, left)) :
    text = natural ++ left ∧ natural ≠ [] ∧ scanNatural natural = some (natural, []) := by
  cases text with
  | nil => cases h
  | cons c text =>
    rw [scanNatural] at h
    split_ifs at h with hzero
    · obtain ⟨rfl, rfl⟩ := Prod.mk.inj (Option.some.inj h)
      exact ⟨rfl, by simp, by rw [scanNatural, if_pos hzero]⟩
    · obtain ⟨hsplit, hne, htaken⟩ := scanDigits_taken h
      refine ⟨hsplit, hne, ?_⟩
      obtain ⟨d, tail, rfl⟩ := List.exists_cons_of_ne_nil hne
      obtain ⟨rfl, -⟩ := List.cons.inj hsplit
      rw [scanNatural, if_neg hzero, htaken]

lemma scanInteger_taken {text integer left : List Char}
    (h : scanInteger text = some (integer, left)) :
    text = integer ++ left ∧ integer ≠ [] ∧ scanInteger integer = some (integer, []) := by
  cases text with
  | nil => cases h
  | cons c text =>
    rw [scanInteger] at h
    split_ifs at h with hminus
    · obtain ⟨⟨natural, rest⟩, hnatural, hparts⟩ := Option.map_eq_some_iff.mp h
      obtain ⟨rfl, rfl⟩ := Prod.mk.inj hparts
      obtain ⟨rfl, -, htaken⟩ := scanNatural_taken hnatural
      refine ⟨rfl, by simp, ?_⟩
      rw [scanInteger, if_pos hminus, htaken]
      rfl
    · obtain ⟨hsplit, hne, htaken⟩ := scanNatural_taken h
      refine ⟨hsplit, hne, ?_⟩
      obtain ⟨d, tail, rfl⟩ := List.exists_cons_of_ne_nil hne
      obtain ⟨rfl, -⟩ := List.cons.inj hsplit
      rw [scanInteger, if_neg hminus, htaken]

/-- A fraction begins with a dot, if there is one. -/
lemma scanFraction_taken (text : List Char) :
    text = (scanFraction text).1 ++ (scanFraction text).2 ∧
      scanFraction (scanFraction text).1 = ((scanFraction text).1, []) ∧
      ∀ c ∈ (scanFraction text).1.head?, c = '.' := by
  cases text with
  | nil => exact ⟨rfl, rfl, by rintro c ⟨⟩⟩
  | cons c text =>
    rw [scanFraction]
    split_ifs with hdot
    · cases hdigits : scanDigits text with
      | none => exact ⟨rfl, rfl, by rintro c ⟨⟩⟩
      | some parts =>
        obtain ⟨digits, rest⟩ := parts
        obtain ⟨rfl, -, htaken⟩ := scanDigits_taken hdigits
        refine ⟨rfl, ?_, ?_⟩
        · rw [scanFraction, if_pos hdot, htaken]
        · rintro d ⟨⟩
          exact hdot
    · exact ⟨rfl, rfl, by rintro c ⟨⟩⟩

lemma scanSign_split (text : List Char) : text = (scanSign text).1 ++ (scanSign text).2 := by
  cases text with
  | nil => rfl
  | cons c text =>
    rw [scanSign]
    split_ifs <;> rfl

/-- A sign is taken again before the digits that followed it. -/
lemma scanSign_digits {digits left : List Char} (h : scanDigits digits = some (digits, left))
    (text : List Char) :
    scanSign ((scanSign text).1 ++ digits) = ((scanSign text).1, digits) := by
  have hdigits : scanSign digits = ([], digits) := by
    cases digits with
    | nil => rfl
    | cons d tail =>
      have hd : d.isDigit = true := by
        by_contra hd
        simp [scanDigits, hd] at h
      have hsign : ¬ (d = '-' ∨ d = '+') := by
        rintro (rfl | rfl) <;> cases hd
      rw [scanSign, if_neg hsign]
  cases text with
  | nil => exact hdigits
  | cons c text =>
    rw [scanSign]
    split_ifs with hsign
    · rw [List.singleton_append, scanSign, if_pos hsign]
    · exact hdigits

lemma scanExponent_taken (text : List Char) :
    text = (scanExponent text).1 ++ (scanExponent text).2 ∧
      scanExponent (scanExponent text).1 = ((scanExponent text).1, []) ∧
      ∀ c ∈ (scanExponent text).1.head?, c = 'e' ∨ c = 'E' := by
  cases text with
  | nil => exact ⟨rfl, rfl, by rintro c ⟨⟩⟩
  | cons c text =>
    rw [scanExponent]
    split_ifs with he
    · cases hdigits : scanDigits (scanSign text).2 with
      | none => exact ⟨rfl, rfl, by rintro c ⟨⟩⟩
      | some parts =>
        obtain ⟨digits, rest⟩ := parts
        obtain ⟨hsplit, hne, htaken⟩ := scanDigits_taken hdigits
        refine ⟨?_, ?_, ?_⟩
        · simp only [List.cons_append, List.append_assoc, ← hsplit, ← scanSign_split]
        · rw [scanExponent, if_pos he, scanSign_digits htaken, htaken]
        · rintro d ⟨⟩
          exact he
    · exact ⟨rfl, rfl, by rintro c ⟨⟩⟩

lemma scanConstant_taken {text word left : List Char} (h : scanConstant text = some (word, left)) :
    text = word ++ left ∧ word ≠ [] ∧ IsNumber word := by
  obtain ⟨found, hfound, hrest⟩ := List.exists_of_findSome?_eq_some h
  obtain ⟨rest, hkeyword, hparts⟩ := Option.map_eq_some_iff.mp hrest
  obtain ⟨rfl, rfl⟩ := Prod.mk.inj hparts
  refine ⟨keyword_eq_some.mp hkeyword, ?_, ?_⟩
  · fin_cases hfound <;> decide
  · fin_cases hfound <;> rfl

/-- The text that a number is read from is that of a number. -/
lemma scanNumber_taken {text taken left : List Char} (h : scanNumber text = some (taken, left)) :
    text = taken ++ left ∧ taken ≠ [] ∧ IsNumber taken := by
  unfold scanNumber at h
  cases hinteger : scanInteger text with
  | none =>
    rw [hinteger] at h
    exact scanConstant_taken h
  | some parts =>
    obtain ⟨integer, rest⟩ := parts
    rw [hinteger] at h
    obtain ⟨hsplit, hne, hinteger'⟩ := scanInteger_taken hinteger
    obtain ⟨hfraction, hfraction', hdot⟩ := scanFraction_taken rest
    obtain ⟨hexponent, hexponent', he⟩ := scanExponent_taken (scanFraction rest).2
    simp only [Option.some.injEq, Prod.mk.injEq] at h
    obtain ⟨rfl, rfl⟩ := h
    have havoids (kind : Char → Bool) (hkind : kind '.' = false) (hlower : kind 'e' = false)
        (hupper : kind 'E' = false) :
        Avoids kind ((scanFraction rest).1 ++ (scanExponent (scanFraction rest).2).1) := by
      intro c hc
      cases hparts : (scanFraction rest).1 with
      | cons d digits =>
        rw [hparts] at hc hdot
        obtain rfl : d = c := Option.some.inj hc
        rw [hdot d rfl]
        exact hkind
      | nil =>
        rw [hparts] at hc
        rcases he c hc with rfl | rfl
        · exact hlower
        · exact hupper
    have hends (kind : Char → Bool) (hlower : kind 'e' = false) (hupper : kind 'E' = false) :
        Avoids kind (scanExponent (scanFraction rest).2).1 := by
      intro c hc
      rcases he c hc with rfl | rfl
      · exact hlower
      · exact hupper
    refine ⟨?_, ?_, ?_⟩
    · rw [List.append_assoc, List.append_assoc, ← hexponent, ← hfraction]
      exact hsplit
    · simp [hne]
    · unfold IsNumber scanNumber
      rw [List.append_assoc, scanInteger_append (havoids _ rfl rfl rfl) (havoids _ rfl rfl rfl),
        hinteger', Option.map_some]
      simp only [extend, List.nil_append,
        scanFraction_append (hends _ rfl rfl) (hends _ rfl rfl), hfraction', hexponent',
        List.append_assoc]

section characters

lemma digits_inNumber {text digits left : List Char} (h : scanDigits text = some (digits, left)) :
    ∀ c ∈ digits, inNumber c = true := by
  obtain ⟨-, -, htaken⟩ := scanDigits_taken h
  unfold scanDigits at htaken
  rw [List.span_eq_takeWhile_dropWhile] at htaken
  have hall : digits.takeWhile Char.isDigit = digits := by
    split at htaken
    · cases htaken
    · exact (Prod.mk.inj (Option.some.inj htaken)).1
  intro c hc
  rw [← hall] at hc
  simp [inNumber, List.mem_takeWhile_imp hc]

lemma natural_inNumber {text natural left : List Char}
    (h : scanNatural text = some (natural, left)) : ∀ c ∈ natural, inNumber c = true := by
  cases text with
  | nil => cases h
  | cons c text =>
    rw [scanNatural] at h
    split_ifs at h with hzero
    · obtain ⟨rfl, -⟩ := Prod.mk.inj (Option.some.inj h)
      simp [hzero, inNumber]
    · exact digits_inNumber h

lemma integer_inNumber {text integer left : List Char}
    (h : scanInteger text = some (integer, left)) : ∀ c ∈ integer, inNumber c = true := by
  cases text with
  | nil => cases h
  | cons c text =>
    rw [scanInteger] at h
    split_ifs at h with hminus
    · obtain ⟨⟨natural, rest⟩, hnatural, hparts⟩ := Option.map_eq_some_iff.mp h
      obtain ⟨rfl, -⟩ := Prod.mk.inj hparts
      refine List.forall_mem_cons.mpr ⟨?_, natural_inNumber hnatural⟩
      simp [hminus, inNumber]
    · exact natural_inNumber h

lemma fraction_inNumber (text : List Char) : ∀ c ∈ (scanFraction text).1, inNumber c = true := by
  cases text with
  | nil => rintro c ⟨⟩
  | cons c text =>
    rw [scanFraction]
    split_ifs with hdot
    · cases hdigits : scanDigits text with
      | none => rintro c ⟨⟩
      | some parts =>
        refine List.forall_mem_cons.mpr ⟨?_, digits_inNumber hdigits⟩
        simp [hdot, inNumber]
    · rintro c ⟨⟩

lemma sign_inNumber (text : List Char) : ∀ c ∈ (scanSign text).1, inNumber c = true := by
  cases text with
  | nil => rintro c ⟨⟩
  | cons c text =>
    rw [scanSign]
    split_ifs with hsign
    · rcases hsign with rfl | rfl <;> simp [inNumber]
    · rintro c ⟨⟩

lemma exponent_inNumber (text : List Char) : ∀ c ∈ (scanExponent text).1, inNumber c = true := by
  cases text with
  | nil => rintro c ⟨⟩
  | cons c text =>
    rw [scanExponent]
    split_ifs with he
    · cases hdigits : scanDigits (scanSign text).2 with
      | none => rintro c ⟨⟩
      | some parts =>
        refine List.forall_mem_cons.mpr ⟨?_, List.forall_mem_append.mpr
          ⟨sign_inNumber text, digits_inNumber hdigits⟩⟩
        rcases he with rfl | rfl <;> simp [inNumber]
    · rintro c ⟨⟩

lemma number_oneLine {text : List Char} (h : IsNumber text) : '\n' ∉ text := by
  unfold IsNumber scanNumber at h
  cases hinteger : scanInteger text with
  | none =>
    rw [hinteger] at h
    obtain ⟨word, hword, hrest⟩ := List.exists_of_findSome?_eq_some h
    obtain ⟨left, -, hparts⟩ := Option.map_eq_some_iff.mp hrest
    obtain ⟨rfl, -⟩ := Prod.mk.inj hparts
    fin_cases hword <;> decide
  | some parts =>
    obtain ⟨integer, rest⟩ := parts
    rw [hinteger] at h
    obtain ⟨htext, -⟩ := Prod.mk.inj (Option.some.inj h)
    have hall : ∀ c ∈ text, inNumber c = true := by
      rw [← htext]
      exact List.forall_mem_append.mpr ⟨List.forall_mem_append.mpr
        ⟨integer_inNumber hinteger, fraction_inNumber rest⟩, exponent_inNumber _⟩
    intro hline
    cases hall _ hline

end characters

/-- Numbers as they are written, nested as deep as that. -/
def verbatim (depth : ℕ) : Reading where
  number text := some ⟨text.filter (· ≠ '\n'), isZero (text.filter (· ≠ '\n')), by simp⟩
  opens level := level ≤ depth
  literal := by
    rintro text n h ⟨⟩
    have hkept : text.filter (· ≠ '\n') = text := by
      rw [List.filter_eq_self]
      intro c hc
      exact decide_eq_true fun hline => number_oneLine h (hline ▸ hc)
    dsimp only
    rwa [hkept]
  stable := by
    rintro text n h ⟨⟩
    simp
  outermost := by simp

end LlmMax.JsonParser
