import LlmMax.JsonParser

/-! What is written as JSON is read back, what is read is well formed, and reading never stops
short of the end of its text. -/
namespace LlmMax.JsonRoundTrip
open JsonText JsonParser

section roundTrip
variable (reading : Reading)

mutual

/-- A value that reading can come to at that level: its strings have no pairs in halves, its
numbers are as they are read, its keys are distinct, and it nests no deeper than reading goes. -/
def WellFormed : ℕ → Json → Prop
  | _, .null | _, .bool _ => True
  | _, .str s => Joined s
  | _, .number n => IsNumber n.text ∧ reading.number n.text = some n
  | level, .arr items => reading.opens level ∧ ItemsWellFormed (level + 1) items
  | level, .obj fields =>
    reading.opens level ∧ (fields.map Prod.fst).Nodup ∧ FieldsWellFormed (level + 1) fields

def ItemsWellFormed : ℕ → List Json → Prop
  | _, [] => True
  | level, item :: items => WellFormed level item ∧ ItemsWellFormed level items

def FieldsWellFormed : ℕ → List (Text × Json) → Prop
  | _, [] => True
  | level, (key, value) :: fields =>
    Joined key ∧ WellFormed level value ∧ FieldsWellFormed level fields

end

variable {reading} {level : ℕ}

/-- The characters that a value's text can begin with. -/
def Begins (c : Char) : Prop :=
  c = '\x22' ∨ c = '[' ∨ c = '\x7b' ∨ c = 'n' ∨ c = 't' ∨ c = 'f' ∨ c.isDigit = true ∨ c = '-' ∨
    c = 'N' ∨ c = 'I'

lemma Begins.spec {c : Char} (h : Begins c) :
    isWhitespace c = false ∧ c ≠ ']' ∧ c ≠ '\x7d' ∧ c ≠ ',' ∧ c ≠ ':' := by
  rcases h with rfl | rfl | rfl | rfl | rfl | rfl | hdigit | rfl | rfl | rfl
  on_goal 7 =>
    refine ⟨?_, ?_, ?_, ?_, ?_⟩
    · by_contra hspace
      simp only [isWhitespace, Bool.or_eq_true, beq_iff_eq, Bool.not_eq_false] at hspace
      rcases hspace with ((rfl | rfl) | rfl) | rfl <;> cases hdigit
    all_goals
      rintro rfl
      cases hdigit
  all_goals decide

lemma dumps_begins {json : Json} (h : WellFormed reading level json) :
    ∃ c text, dumps json = c :: text ∧ Begins c := by
  cases json with
  | null => exact ⟨'n', _, rfl, by simp [Begins]⟩
  | bool b =>
    cases b with
    | true => exact ⟨'t', _, rfl, by simp [Begins]⟩
    | false => exact ⟨'f', _, rfl, by simp [Begins]⟩
  | number n =>
    obtain ⟨c, text, htext, hc⟩ := number_head h.1
    refine ⟨c, text, htext, ?_⟩
    unfold Begins
    tauto
  | str s => exact ⟨'\x22', _, rfl, by simp [Begins]⟩
  | arr items => exact ⟨'[', _, rfl, by simp [Begins]⟩
  | obj fields => exact ⟨'\x7b', _, rfl, by simp [Begins]⟩

lemma skipWhitespace_cons {c : Char} {text : List Char} (h : isWhitespace c = false) :
    skipWhitespace (c :: text) = c :: text := by simp [skipWhitespace, h]

lemma skipWhitespace_dumps {json : Json} (h : WellFormed reading level json) (rest : List Char) :
    skipWhitespace (dumps json ++ rest) = dumps json ++ rest := by
  obtain ⟨c, text, htext, hc⟩ := dumps_begins h
  rw [htext]
  exact skipWhitespace_cons hc.spec.1

lemma avoids_cons {c : Char} {text : List Char} (h : c ∈ [',', ']', '\x7d']) :
    Avoids inNumber (c :: text) := by
  intro d hd
  obtain rfl : c = d := Option.some.inj hd
  fin_cases h <;> decide

lemma parseValue_atom {n : ℕ} {c : Char} {text : List Char} (hquote : c ≠ '\x22') (harr : c ≠ '[')
    (hobj : c ≠ '\x7b') :
    parseValue reading (n + 1) level (c :: text) = parseAtom reading (c :: text) := by
  rw [parseValue.eq_def]
  split
  · rename_i heq
    cases heq
  · rename_i heq
    obtain rfl := Nat.succ.inj heq
    split
    · rename_i heq
      exact absurd (List.cons.inj heq).1 hquote
    · rename_i heq
      exact absurd (List.cons.inj heq).1 harr
    · rename_i heq
      exact absurd (List.cons.inj heq).1 hobj
    · rfl

lemma parseAtom_number {n : Numeral} (h : WellFormed reading level (.number n)) {rest : List Char}
    (hrest : Avoids inNumber rest) :
    parseAtom reading (n.text ++ rest) = some (.number n, rest) := by
  obtain ⟨hnumber, hstable⟩ := h
  obtain ⟨c, text, htext, hc⟩ := number_head hnumber
  have hword (d : Char) (word : List Char) (hd : d ≠ c) :
      keyword (d :: word) (n.text ++ rest) = none := by
    rw [htext, keyword]
    simp [hd]
  have hletters : 'n' ≠ c ∧ 't' ≠ c ∧ 'f' ≠ c := by
    rcases hc with hdigit | rfl | rfl | rfl
    · refine ⟨?_, ?_, ?_⟩ <;>
      · rintro rfl
        cases hdigit
    all_goals decide
  have hnull : keyword "null".toList (n.text ++ rest) = none := hword 'n' _ hletters.1
  have htrue : keyword "true".toList (n.text ++ rest) = none := hword 't' _ hletters.2.1
  have hfalse : keyword "false".toList (n.text ++ rest) = none := hword 'f' _ hletters.2.2
  simp only [parseAtom, hnull, htrue, hfalse, scanNumber_append hrest hnumber,
    Option.bind_eq_bind, Option.bind_some, hstable, Option.pure_def]

lemma parseValue_number {n : Numeral} (h : WellFormed reading level (.number n)) {rest : List Char}
    (hrest : Avoids inNumber rest) (fuel : ℕ) :
    parseValue reading (fuel + 1) level (n.text ++ rest) = some (.number n, rest) := by
  obtain ⟨c, text, htext, hc⟩ := number_head h.1
  have hatom : parseAtom reading (n.text ++ rest) = _ := parseAtom_number h hrest
  rw [htext, List.cons_append] at hatom ⊢
  rw [parseValue_atom ?_ ?_ ?_, hatom]
  all_goals
    rintro rfl
    simp at hc

lemma length_le_escaped (cs : Text) : cs.length ≤ (cs.flatMap escape).length := by
  induction cs with
  | nil => simp
  | cons c cs ih =>
    obtain ⟨d, text, htext, -⟩ := escape_head c
    rw [List.flatMap_cons, htext, List.length_append, List.length_cons, List.length_cons]
    omega

lemma scanString_quote {s : Text} (h : Joined s) (rest : List Char) :
    ((keyword ['\x22'] (quote s ++ rest)).bind fun text => scanString text.length text) =
      some (s, rest) := by
  have hquote : quote s ++ rest = ['\x22'] ++ (s.flatMap escape ++ '\x22' :: rest) := by
    simp [quote]
  have hlength := length_le_escaped s
  rw [keyword_eq_some.mpr hquote, Option.bind_some, scanString_escaped h]
  rw [List.length_append]
  omega

lemma parseValue_str {s : Text} (h : Joined s) (rest : List Char) (fuel : ℕ) :
    parseValue reading (fuel + 1) level (quote s ++ rest) = some (.str s, rest) := by
  have hquote : quote s ++ rest = '\x22' :: (s.flatMap escape ++ '\x22' :: rest) := by
    simp [quote]
  have hlength := length_le_escaped s
  rw [hquote, parseValue, scanString_escaped h]
  · simp
  · rw [List.length_append]
    omega

lemma foldl_insert {fields pairs : List (Text × Json)}
    (h : ((fields ++ pairs).map Prod.fst).Nodup) :
    pairs.foldl (fun fields pair => JsonParser.insert fields pair.1 pair.2) fields =
      fields ++ pairs := by
  induction pairs generalizing fields with
  | nil => simp
  | cons pair pairs ih =>
    have hnew : pair.1 ∉ fields.map Prod.fst := by
      intro hmem
      rw [List.map_append, List.map_cons] at h
      exact (List.disjoint_of_nodup_append h hmem) (List.mem_cons_self ..)
    rw [List.foldl_cons, JsonParser.insert, if_neg hnew, ih]
    · simp
    · simpa using h

/-- Pairs with distinct keys are the dictionary that they make. -/
lemma dictOf_nodup {fields : List (Text × Json)} (h : (fields.map Prod.fst).Nodup) :
    dictOf fields = fields := foldl_insert h

/-- The items of an array as they are written. -/
def itemsText (items : List Json) : List Char := [',', ' '].intercalate (dumpsItems items)

def fieldsText (fields : List (Text × Json)) : List Char :=
  [',', ' '].intercalate (dumpsFields fields)

lemma parseValue_arr {n : ℕ} {c : Char} {text : List Char} (hopens : reading.opens level)
    (h : Begins c) :
    parseValue reading (n + 1) level ('[' :: c :: text) =
      (parseItems reading n (level + 1) (c :: text)).map fun parts => (.arr parts.1, parts.2) := by
  obtain ⟨hspace, hbracket, -⟩ := h.spec
  rw [parseValue, if_pos hopens, skipWhitespace_cons hspace]
  split
  · rename_i heq
    exact absurd (List.cons.inj heq).1 hbracket
  · rfl

lemma parseValue_obj {n : ℕ} {c : Char} {text : List Char} (hopens : reading.opens level)
    (h : Begins c) :
    parseValue reading (n + 1) level ('\x7b' :: c :: text) =
      (parseFields reading n (level + 1) (c :: text)).map fun parts =>
        (.obj (dictOf parts.1), parts.2) := by
  obtain ⟨hspace, -, hbrace, -⟩ := h.spec
  rw [parseValue, if_pos hopens, skipWhitespace_cons hspace]
  split
  · rename_i heq
    exact absurd (List.cons.inj heq).1 hbrace
  · rfl

/-- What follows one item: the end of the array, or the next one. -/
lemma parseItems_last {n : ℕ} {text rest : List Char} {item : Json}
    (h : parseValue reading n level text = some (item, ']' :: rest)) :
    parseItems reading (n + 1) level text = some ([item], rest) := by
  rw [parseItems, h]
  rfl

lemma parseItems_more {n : ℕ} {text rest : List Char} {item : Json}
    (h : parseValue reading n level text = some (item, ',' :: ' ' :: rest)) :
    parseItems reading (n + 1) level text =
      (parseItems reading n level (skipWhitespace rest)).map fun parts =>
        (item :: parts.1, parts.2) := by
  rw [parseItems, h]
  rfl

section fields
variable {n : ℕ} {text rest : List Char} {key : Text} {value : Json}

lemma colon_blank (text : List Char) :
    keyword [':'] (skipWhitespace (':' :: ' ' :: text)) = some (' ' :: text) := rfl

/-- What follows one field: the end of the object, or the next one. -/
lemma parseFields_last (hkey : Joined key) (hspace : skipWhitespace text = text)
    (h : parseValue reading n level text = some (value, '\x7d' :: rest)) :
    parseFields reading (n + 1) level (quote key ++ ':' :: ' ' :: text) =
      some ([(key, value)], rest) := by
  have hblank : skipWhitespace (' ' :: text) = text := hspace
  rw [parseFields, scanString_quote hkey]
  simp only [colon_blank, hblank, h]
  rfl

lemma parseFields_more (hkey : Joined key) (hspace : skipWhitespace text = text)
    (h : parseValue reading n level text = some (value, ',' :: ' ' :: rest)) :
    parseFields reading (n + 1) level (quote key ++ ':' :: ' ' :: text) =
      (parseFields reading n level (skipWhitespace rest)).map fun parts =>
        ((key, value) :: parts.1, parts.2) := by
  have hblank : skipWhitespace (' ' :: text) = text := hspace
  rw [parseFields, scanString_quote hkey]
  simp only [colon_blank, hblank, h]
  rfl

end fields

section texts
variable {item next : Json} {items : List Json} {key key' : Text} {value value' : Json}
  {fields : List (Text × Json)}

lemma itemsText_one : itemsText [item] = dumps item := by simp [itemsText, dumpsItems]

lemma itemsText_more : itemsText (item :: next :: items) =
    dumps item ++ ',' :: ' ' :: itemsText (next :: items) := by
  simp [itemsText, dumpsItems, List.intercalate_cons_cons]

lemma fieldsText_one : fieldsText [(key, value)] = quote key ++ ':' :: ' ' :: dumps value := by
  simp [fieldsText, dumpsFields]

lemma fieldsText_more : fieldsText ((key, value) :: (key', value') :: fields) =
    quote key ++ ':' :: ' ' ::
      (dumps value ++ ',' :: ' ' :: fieldsText ((key', value') :: fields)) := by
  simp [fieldsText, dumpsFields, List.intercalate_cons_cons]

lemma itemsText_begins (h : ItemsWellFormed reading level (item :: items)) :
    ∃ c text, itemsText (item :: items) = c :: text ∧ Begins c := by
  obtain ⟨c, text, htext, hc⟩ := dumps_begins h.1
  cases items with
  | nil => exact ⟨c, text, by rw [itemsText_one, htext], hc⟩
  | cons next items => exact ⟨c, _, by rw [itemsText_more, htext, List.cons_append], hc⟩

lemma fieldsText_begins (key : Text) (value : Json) (fields : List (Text × Json)) :
    ∃ text, fieldsText ((key, value) :: fields) = '\x22' :: text := by
  cases fields with
  | nil => exact ⟨_, by rw [fieldsText_one, quote, List.cons_append]⟩
  | cons field fields => exact ⟨_, by rw [fieldsText_more, quote, List.cons_append]⟩

end texts

mutual

lemma parseValue_dumps : ∀ {level : ℕ} (json : Json), WellFormed reading level json →
    ∀ (rest : List Char), Avoids inNumber rest → ∀ fuel : ℕ, 2 * (dumps json).length + 1 ≤ fuel →
      parseValue reading fuel level (dumps json ++ rest) = some (json, rest)
  | _, .null, h, rest, hrest, fuel + 1, hfuel => by
    rw [dumps]
    rfl
  | _, .bool b, h, rest, hrest, fuel + 1, hfuel => by
    cases b <;> rfl
  | _, .number n, h, rest, hrest, fuel + 1, hfuel => parseValue_number h hrest fuel
  | _, .str s, h, rest, hrest, fuel + 1, hfuel => parseValue_str h rest fuel
  | _, .arr [], h, rest, hrest, fuel + 1, hfuel => if_pos h.1
  | _, .obj [], h, rest, hrest, fuel + 1, hfuel => if_pos h.1
  | _, .arr (item :: items), h, rest, hrest, fuel + 1, hfuel => by
    have hdumps : dumps (.arr (item :: items)) = '[' :: (itemsText (item :: items) ++ [']']) := rfl
    rw [hdumps] at hfuel ⊢
    obtain ⟨hopens, hwell⟩ := h
    have hitems := parseItems_dumps item items hwell rest fuel
      (by simp at hfuel; omega)
    obtain ⟨c, text, htext, hc⟩ := itemsText_begins hwell
    rw [htext] at hitems ⊢
    simp only [List.cons_append, List.append_assoc, List.nil_append] at hitems ⊢
    rw [parseValue_arr hopens hc, hitems]
    rfl
  | _, .obj ((key, value) :: fields), h, rest, hrest, fuel + 1, hfuel => by
    have hdumps : dumps (.obj ((key, value) :: fields)) =
        '\x7b' :: (fieldsText ((key, value) :: fields) ++ ['\x7d']) := rfl
    rw [hdumps] at hfuel ⊢
    obtain ⟨hopens, hnodup, hwell⟩ := h
    have hfields := parseFields_dumps key value fields hwell rest fuel
      (by simp at hfuel; omega)
    obtain ⟨text, htext⟩ := fieldsText_begins key value fields
    rw [htext] at hfields ⊢
    simp only [List.cons_append, List.append_assoc, List.nil_append] at hfields ⊢
    rw [parseValue_obj hopens (.inl rfl), hfields, Option.map_some, dictOf_nodup hnodup]

lemma parseItems_dumps : ∀ {level : ℕ} (item : Json) (items : List Json),
    ItemsWellFormed reading level (item :: items) → ∀ (rest : List Char) (fuel : ℕ),
      2 * (itemsText (item :: items)).length + 2 ≤ fuel →
      parseItems reading fuel level (itemsText (item :: items) ++ ']' :: rest) =
        some (item :: items, rest)
  | _, item, [], h, rest, fuel + 1, hfuel => by
    rw [itemsText_one] at hfuel ⊢
    exact parseItems_last (parseValue_dumps item h.1 _ (avoids_cons (by simp)) _ (by omega))
  | _, item, next :: items, h, rest, fuel + 1, hfuel => by
    rw [itemsText_more] at hfuel ⊢
    simp only [List.length_append, List.length_cons] at hfuel
    have hitem := parseValue_dumps item h.1
      (',' :: ' ' :: (itemsText (next :: items) ++ ']' :: rest)) (avoids_cons (by simp)) fuel
      (by omega)
    have hitems := parseItems_dumps next items h.2 rest fuel (by omega)
    obtain ⟨c, text, htext, hc⟩ := itemsText_begins h.2
    have hspace : skipWhitespace (itemsText (next :: items) ++ ']' :: rest) =
        itemsText (next :: items) ++ ']' :: rest := by
      rw [htext]
      exact skipWhitespace_cons hc.spec.1
    rw [List.append_assoc, List.cons_append, List.cons_append, parseItems_more hitem, hspace, hitems]
    rfl

lemma parseFields_dumps : ∀ {level : ℕ} (key : Text) (value : Json) (fields : List (Text × Json)),
    FieldsWellFormed reading level ((key, value) :: fields) → ∀ (rest : List Char) (fuel : ℕ),
      2 * (fieldsText ((key, value) :: fields)).length + 2 ≤ fuel →
      parseFields reading fuel level (fieldsText ((key, value) :: fields) ++ '\x7d' :: rest) =
        some ((key, value) :: fields, rest)
  | _, key, value, [], h, rest, fuel + 1, hfuel => by
    rw [fieldsText_one] at hfuel ⊢
    simp only [List.length_append, List.length_cons] at hfuel
    rw [List.append_assoc, List.cons_append, List.cons_append]
    exact parseFields_last h.1 (skipWhitespace_dumps h.2.1 _)
      (parseValue_dumps value h.2.1 _ (avoids_cons (by simp)) _ (by omega))
  | _, key, value, (key', value') :: fields, h, rest, fuel + 1, hfuel => by
    rw [fieldsText_more] at hfuel ⊢
    simp only [List.length_append, List.length_cons] at hfuel
    have hvalue := parseValue_dumps value h.2.1
      (',' :: ' ' :: (fieldsText ((key', value') :: fields) ++ '\x7d' :: rest))
      (avoids_cons (by simp)) fuel (by omega)
    have hfields := parseFields_dumps key' value' fields h.2.2 rest fuel (by omega)
    obtain ⟨text, htext⟩ := fieldsText_begins key' value' fields
    have hspace : skipWhitespace (fieldsText ((key', value') :: fields) ++ '\x7d' :: rest) =
        fieldsText ((key', value') :: fields) ++ '\x7d' :: rest := by
      rw [htext]
      rfl
    simp only [List.append_assoc, List.cons_append]
    rw [parseFields_more h.1 (skipWhitespace_dumps h.2.1 _) hvalue, hspace, hfields]
    rfl

end

/-- What is written is read back. -/
theorem loads_dumps {json : Json} (h : WellFormed reading 0 json) :
    loads reading (dumps json) = some json := by
  have hvalue := parseValue_dumps json h [] (by rintro c ⟨⟩) _ le_rfl
  have hspace := skipWhitespace_dumps h []
  rw [List.append_nil] at hvalue hspace
  rw [loads, hspace, hvalue]
  rfl

/-- Different values are written differently. -/
lemma dumps_inj {json json' : Json} (h : WellFormed reading 0 json) (h' : WellFormed reading 0 json')
    (hdumps : dumps json = dumps json') : json = json' := by
  have hread := loads_dumps h
  rw [hdumps, loads_dumps h'] at hread
  exact (Option.some.inj hread).symm

/-- A text of characters has no halves. -/
lemma joined_text (s : String) : Joined (text s) := by
  have hjoined : ∀ cs : List Char, Joined (cs.map .char) := by
    intro cs
    induction cs with
    | nil => exact .nil
    | cons c cs ih =>
      refine List.isChain_cons.mpr ⟨?_, ih⟩
      rintro d - ⟨⟩
  exact hjoined s.toList

example : (loads (verbatim 0) " [1.50e3 ,\t\"\\u0041\\ud83d\"]".toList).map dumps =
    some "[1.50e3, \"A\\ud83d\"]".toList := by decide +kernel

end roundTrip

end LlmMax.JsonRoundTrip
