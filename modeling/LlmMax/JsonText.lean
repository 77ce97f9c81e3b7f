import Mathlib.Tactic

/-! JSON values and the text they are written as, which is one line whatever the value. -/
namespace LlmMax.JsonText

/-- A code point of a Python string: a character, or half of a surrogate pair, which is none. -/
inductive CodePoint
  | char (c : Char)
  | surrogate (n : Fin 2048)
  deriving DecidableEq

abbrev Text := List CodePoint

instance : LawfulBEq Text := inferInstance

def text (s : String) : Text := s.toList.map .char

namespace CodePoint

/-- The first half of a pair. -/
def isHigh : CodePoint → Bool
  | .char _ => false
  | .surrogate n => (n : ℕ) < 1024

def isLow : CodePoint → Bool
  | .char _ => false
  | .surrogate n => 1024 ≤ (n : ℕ)

end CodePoint

/-- A number by what is written for it, and whether it is zero. -/
structure Numeral where
  text : List Char
  isZero : Bool
  oneLine : '\n' ∉ text

inductive Json
  | null
  | bool (b : Bool)
  | number (n : Numeral)
  | str (s : Text)
  | arr (items : List Json)
  | obj (fields : List (Text × Json))

namespace Json

/-- Whether a condition on the value holds. -/
def truthy : Json → Bool
  | .null => false
  | .bool b => b
  | .number n => !n.isZero
  | .str s => !s.isEmpty
  | .arr items => !items.isEmpty
  | .obj fields => !fields.isEmpty

/-- The value of a key, if this is an object that has it. -/
def get (json : Json) (key : Text) : Option Json :=
  match json with
  | .obj fields => fields.lookup key
  | _ => none

end Json

def hex4 (n : ℕ) : List Char :=
  [Nat.digitChar (n / 4096 % 16), Nat.digitChar (n / 256 % 16), Nat.digitChar (n / 16 % 16),
    Nat.digitChar (n % 16)]

/-- Only printable ASCII is written as it is; above the basic plane a character is two units. -/
def escapeChar (c : Char) : List Char :=
  if c = '\x22' then ['\\', '\x22']
  else if c = '\\' then ['\\', '\\']
  else if c = '\n' then ['\\', 'n']
  else if c = '\r' then ['\\', 'r']
  else if c = '\t' then ['\\', 't']
  else if c = '\x08' then ['\\', 'b']
  else if c = '\x0c' then ['\\', 'f']
  else if ' ' ≤ c ∧ c ≤ '~' then [c]
  else if c.toNat < 0x10000 then '\\' :: 'u' :: hex4 c.toNat
  else '\\' :: 'u' :: hex4 (0xd800 + (c.toNat - 0x10000) / 1024) ++
    '\\' :: 'u' :: hex4 (0xdc00 + (c.toNat - 0x10000) % 1024)

/-- Half of a pair is written on its own. -/
def escape : CodePoint → List Char
  | .char c => escapeChar c
  | .surrogate n => '\\' :: 'u' :: hex4 (0xd800 + n)

def quote (s : Text) : List Char :=
  '\x22' :: (s.flatMap escape ++ ['\x22'])

mutual

def dumps : Json → List Char
  | .null => "null".toList
  | .bool b => if b then "true".toList else "false".toList
  | .number n => n.text
  | .str s => quote s
  | .arr items => '[' :: ([',', ' '].intercalate (dumpsItems items) ++ [']'])
  | .obj fields => '\x7b' :: ([',', ' '].intercalate (dumpsFields fields) ++ ['\x7d'])

def dumpsItems : List Json → List (List Char)
  | [] => []
  | item :: items => dumps item :: dumpsItems items

def dumpsFields : List (Text × Json) → List (List Char)
  | [] => []
  | (key, value) :: fields => (quote key ++ [':', ' '] ++ dumps value) :: dumpsFields fields

end

lemma hex4_oneLine (n : ℕ) : '\n' ∉ hex4 n := by
  have hdigit : ∀ d < 16, '\n' ≠ Nat.digitChar d := by decide
  have hmod (m : ℕ) : m % 16 < 16 := Nat.mod_lt m (by norm_num)
  simp [hex4, hdigit _ (hmod _)]

lemma escapeChar_oneLine (c : Char) : '\n' ∉ escapeChar c := by
  unfold escapeChar
  split_ifs <;> simp_all [hex4_oneLine, eq_comm]

lemma escape_oneLine (c : CodePoint) : '\n' ∉ escape c := by
  cases c with
  | char c => exact escapeChar_oneLine c
  | surrogate n => simp [escape, hex4_oneLine]

lemma quote_oneLine (s : Text) : '\n' ∉ quote s := by
  simp [quote, escape_oneLine]

lemma intercalate_oneLine {sep : List Char} (hsep : '\n' ∉ sep) {texts : List (List Char)}
    (h : ∀ text ∈ texts, '\n' ∉ text) : '\n' ∉ sep.intercalate texts := by
  induction texts with
  | nil => simp
  | cons text texts ih =>
    obtain ⟨htext, hlater⟩ := List.forall_mem_cons.mp h
    cases texts with
    | nil => simpa using htext
    | cons next texts =>
      rw [List.intercalate_cons_cons]
      simp [htext, hsep, ih hlater]

lemma comma_oneLine : '\n' ∉ [',', ' '] := by decide

mutual

lemma dumps_oneLine : ∀ json : Json, '\n' ∉ dumps json
  | .null => by decide
  | .bool b => by cases b <;> decide
  | .number n => n.oneLine
  | .str s => quote_oneLine s
  | .arr items => by
    have hitems := intercalate_oneLine comma_oneLine (dumpsItems_oneLine items)
    simp [dumps, hitems]
  | .obj fields => by
    have hfields := intercalate_oneLine comma_oneLine (dumpsFields_oneLine fields)
    simp [dumps, hfields]

lemma dumpsItems_oneLine : ∀ items : List Json, ∀ text ∈ dumpsItems items, '\n' ∉ text
  | [] => by simp [dumpsItems]
  | item :: items =>
    List.forall_mem_cons.mpr ⟨dumps_oneLine item, dumpsItems_oneLine items⟩

lemma dumpsFields_oneLine :
    ∀ fields : List (Text × Json), ∀ text ∈ dumpsFields fields, '\n' ∉ text
  | [] => by simp [dumpsFields]
  | (key, value) :: fields => by
    have hfield : '\n' ∉ quote key ++ [':', ' '] ++ dumps value := by
      simp [quote_oneLine, dumps_oneLine value]
    exact List.forall_mem_cons.mpr ⟨hfield, dumpsFields_oneLine fields⟩

end

/-- One document as a line. -/
def line (json : Json) : List Char := dumps json ++ ['\n']

/-- The lines of a text that ends every line. -/
def lines (text : List Char) : List (List Char) := (text.splitOn '\n').dropLast

/-- Documents written one per line are read back one per line. -/
theorem lines_flatMap_line (docs : List Json) : lines (docs.flatMap line) = docs.map dumps := by
  unfold lines
  induction docs with
  | nil => simp
  | cons doc docs ih =>
    rw [List.flatMap_cons, line, List.append_assoc, List.singleton_append,
      List.splitOn_append_cons_self_of_not_mem (dumps_oneLine doc),
      List.dropLast_cons_of_ne_nil (List.splitOn_ne_nil _ _), ih, List.map_cons]

end LlmMax.JsonText
