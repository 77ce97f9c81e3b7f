import LlmMax.JsonRoundTrip

/-! What `loads` accepts is well formed, and the bound on its steps never decides: the text ends
first. -/
namespace LlmMax.JsonSound
open JsonText JsonParser JsonRoundTrip

section consumed
variable {text rest : List Char}

lemma skipWhitespace_length (text : List Char) : (skipWhitespace text).length ≤ text.length :=
  (List.dropWhile_suffix isWhitespace).length_le

lemma scanHex_length {n : ℕ} (h : scanHex text = some (n, rest)) :
    rest.length + 4 = text.length := by
  unfold scanHex at h
  split at h
  · simp only [Option.bind_eq_bind, Option.bind_eq_some_iff, Option.pure_def, Option.some.injEq,
      Prod.mk.injEq] at h
    obtain ⟨-, -, -, -, -, -, -, -, -, rfl⟩ := h
    simp
  · cases h

lemma scanLow_length {high : ℕ} {c : CodePoint} (h : scanLow high text = some (c, rest)) :
    rest.length < text.length := by
  unfold scanLow at h
  split at h
  · obtain ⟨⟨low, left⟩, hhex, h⟩ := Option.bind_eq_some_iff.mp h
    have hlength := scanHex_length hhex
    dsimp only at h
    split_ifs at h
    simp only [Option.pure_def, Option.some.injEq, Prod.mk.injEq] at h
    obtain ⟨-, rfl⟩ := h
    simp only [List.length_cons]
    omega
  · cases h

lemma scanEscape_length {c : CodePoint} (h : scanEscape text = some (c, rest)) :
    rest.length < text.length := by
  unfold scanEscape at h
  split at h
  case h_1 =>
    obtain ⟨⟨n, left⟩, hhex, h⟩ := Option.bind_eq_some_iff.mp h
    have hlength := scanHex_length hhex
    simp only [Option.pure_def, Option.some.injEq] at h
    cases hlow : scanLow n left with
    | none =>
      rw [hlow] at h
      obtain ⟨-, rfl⟩ := Prod.mk.inj h
      simp only [List.length_cons]
      omega
    | some parts =>
      rw [hlow] at h
      obtain rfl : parts = (c, rest) := h
      have hrest := scanLow_length hlow
      simp only [List.length_cons]
      omega
  case h_7 =>
    split_ifs at h
    obtain ⟨-, rfl⟩ := Prod.mk.inj (Option.some.inj h)
    simp
  case h_8 => cases h
  all_goals
    obtain ⟨-, rfl⟩ := Prod.mk.inj (Option.some.inj h)
    simp

lemma scanChar_length {c : CodePoint} (h : scanChar text = some (c, rest)) :
    rest.length < text.length := by
  unfold scanChar at h
  split at h
  · have hescape := scanEscape_length h
    simp only [List.length_cons]
    omega
  · split_ifs at h
    obtain ⟨-, rfl⟩ := Prod.mk.inj (Option.some.inj h)
    simp
  · cases h

lemma scanString_length {n : ℕ} {cs : Text} (h : scanString n text = some (cs, rest)) :
    rest.length < text.length := by
  induction n generalizing text cs with
  | zero =>
    cases text with
    | nil => cases h
    | cons c text =>
      obtain rfl | hquote := eq_or_ne c '\x22'
      · obtain ⟨-, rfl⟩ := Prod.mk.inj (Option.some.inj h)
        simp
      · simp [scanString, hquote] at h
  | succ n ih =>
    cases text with
    | nil => cases h
    | cons c text =>
      obtain rfl | hquote := eq_or_ne c '\x22'
      · obtain ⟨-, rfl⟩ := Prod.mk.inj (Option.some.inj h)
        simp
      · rw [scanString_cons hquote] at h
        obtain ⟨⟨d, left⟩, hchar, h⟩ := Option.bind_eq_some_iff.mp h
        obtain ⟨⟨later, left'⟩, hlater, h⟩ := Option.bind_eq_some_iff.mp h
        obtain ⟨-, rfl⟩ := Prod.mk.inj (Option.some.inj h)
        have hfirst := scanChar_length hchar
        have hrest := ih hlater
        omega

lemma keyword_length {word : List Char} (h : keyword word text = some rest) :
    text.length = word.length + rest.length := by
  rw [keyword_eq_some.mp h, List.length_append]

lemma scanNumber_length {number : List Char} (h : scanNumber text = some (number, rest)) :
    rest.length < text.length := by
  obtain ⟨hsplit, hne, -⟩ := scanNumber_taken h
  have hlength := List.length_pos_of_ne_nil hne
  rw [hsplit, List.length_append]
  omega

end consumed

section pairs
variable {text rest : List Char}

lemma ofUnit_eq_surrogate {n : ℕ} {k : Fin 2048} (h : ofUnit n = .surrogate k) :
    n = 0xd800 + k := by
  unfold ofUnit at h
  split_ifs at h with hrange
  obtain rfl := CodePoint.surrogate.inj h
  dsimp only
  omega

lemma scanLow_isChar {high : ℕ} {c : CodePoint} (h : scanLow high text = some (c, rest)) :
    ∃ d, c = .char d := by
  unfold scanLow at h
  split at h
  · obtain ⟨⟨low, left⟩, -, h⟩ := Option.bind_eq_some_iff.mp h
    dsimp only at h
    split_ifs at h
    obtain ⟨rfl, -⟩ := Prod.mk.inj (Option.some.inj h)
    exact ⟨_, rfl⟩
  · cases h

/-- Half of a pair comes from an escape that the next one does not complete. -/
lemma scanChar_surrogate {k : Fin 2048} (h : scanChar text = some (.surrogate k, rest)) :
    ∃ digits, text = '\\' :: 'u' :: digits ∧ scanHex digits = some (0xd800 + (k : ℕ), rest) ∧
      scanLow (0xd800 + k) rest = none := by
  unfold scanChar at h
  split at h
  case h_1 =>
    unfold scanEscape at h
    split at h
    case h_1 digits =>
      obtain ⟨⟨n, left⟩, hhex, h⟩ := Option.bind_eq_some_iff.mp h
      simp only [Option.pure_def, Option.some.injEq] at h
      cases hlow : scanLow n left with
      | none =>
        rw [hlow] at h
        obtain ⟨hunit, rfl⟩ := Prod.mk.inj h
        obtain rfl := ofUnit_eq_surrogate hunit
        exact ⟨digits, rfl, hhex, hlow⟩
      | some parts =>
        rw [hlow] at h
        obtain rfl : parts = (.surrogate k, rest) := h
        obtain ⟨c, hc⟩ := scanLow_isChar hlow
        cases hc
    case h_7 =>
      split_ifs at h
      cases h
    all_goals cases h
  case h_2 =>
    split_ifs at h
    cases h
  case h_3 => cases h

/-- The two halves of a pair are not read apart. -/
lemma not_low_after_high {c d : CodePoint} {rest' : List Char} (hc : scanChar text = some (c, rest))
    (hd : scanChar rest = some (d, rest')) (hhigh : c.isHigh) : d.isLow = false := by
  by_contra hlow
  rw [Bool.not_eq_false] at hlow
  cases c with
  | char c => cases hhigh
  | surrogate k =>
    cases d with
    | char d => cases hlow
    | surrogate l =>
      obtain ⟨-, -, -, hnone⟩ := scanChar_surrogate hc
      obtain ⟨digits, rfl, hhex, -⟩ := scanChar_surrogate hd
      have hk : (k : ℕ) < 1024 := by simpa [CodePoint.isHigh] using hhigh
      have hl : 1024 ≤ (l : ℕ) := by simpa [CodePoint.isLow] using hlow
      have hrange : (0xd800 ≤ 0xd800 + (k : ℕ) ∧ 0xd800 + (k : ℕ) < 0xdc00) ∧
          0xdc00 ≤ 0xd800 + (l : ℕ) ∧ 0xd800 + (l : ℕ) < 0xe000 := by omega
      simp only [scanLow, hhex, Option.bind_eq_bind, Option.bind_some, hrange, and_self, if_true,
        Option.pure_def] at hnone
      cases hnone

lemma scanString_head {n : ℕ} {c : CodePoint} {cs : Text}
    (h : scanString n text = some (c :: cs, rest)) : ∃ m left, scanChar text = some (c, left) ∧
      scanString m left = some (cs, rest) := by
  cases text with
  | nil => cases n <;> cases h
  | cons d text =>
    have hquote : d ≠ '\x22' := by
      rintro rfl
      cases n <;> cases h
    cases n with
    | zero => simp [scanString, hquote] at h
    | succ n =>
      rw [scanString_cons hquote] at h
      obtain ⟨⟨e, left⟩, hchar, h⟩ := Option.bind_eq_some_iff.mp h
      obtain ⟨⟨later, left'⟩, hlater, h⟩ := Option.bind_eq_some_iff.mp h
      obtain ⟨hcs, rfl⟩ := Prod.mk.inj (Option.some.inj h)
      obtain ⟨rfl, rfl⟩ := List.cons.inj hcs
      exact ⟨n, left, hchar, hlater⟩

lemma scanString_joined {n : ℕ} {cs : Text} (h : scanString n text = some (cs, rest)) :
    Joined cs := by
  induction cs generalizing n text with
  | nil => exact .nil
  | cons c cs ih =>
    obtain ⟨m, left, hchar, hlater⟩ := scanString_head h
    refine List.isChain_cons.mpr ⟨?_, ih hlater⟩
    intro d hd hhigh
    cases cs with
    | nil => cases hd
    | cons e cs =>
      obtain rfl : e = d := Option.some.inj hd
      obtain ⟨-, left', hnext, -⟩ := scanString_head hlater
      exact not_low_after_high hchar hnext hhigh

end pairs

section dict
variable {reading : Reading} {level : ℕ}

lemma fieldsWellFormed_iff {fields : List (Text × Json)} : FieldsWellFormed reading level fields ↔
    ∀ field ∈ fields, Joined field.1 ∧ WellFormed reading level field.2 := by
  induction fields with
  | nil => simp [FieldsWellFormed]
  | cons field fields ih => simp [FieldsWellFormed, ih, and_assoc]

lemma insert_keys (fields : List (Text × Json)) (key : Text) (value : Json) :
    (JsonParser.insert fields key value).map Prod.fst =
      if key ∈ fields.map Prod.fst then fields.map Prod.fst else fields.map Prod.fst ++ [key] := by
  unfold JsonParser.insert
  split_ifs
  · rw [List.map_map]
    refine List.map_congr_left fun field hfield => ?_
    rw [Function.comp_apply]
    split_ifs with hkey
    · exact hkey.symm
    · rfl
  · simp

lemma insert_nodup {fields : List (Text × Json)} (h : (fields.map Prod.fst).Nodup) (key : Text)
    (value : Json) : ((JsonParser.insert fields key value).map Prod.fst).Nodup := by
  rw [insert_keys]
  split_ifs with hkey
  · exact h
  · rw [List.nodup_append_comm]
    exact List.nodup_cons.mpr ⟨hkey, h⟩

lemma insert_mem {fields : List (Text × Json)} {key : Text} {value : Json}
    {field : Text × Json} (h : field ∈ JsonParser.insert fields key value) :
    field ∈ fields ∨ field = (key, value) := by
  unfold JsonParser.insert at h
  split_ifs at h
  · obtain ⟨old, hold, rfl⟩ := List.mem_map.mp h
    split_ifs
    · exact .inr rfl
    · exact .inl hold
  · simpa using h

/-- A dictionary has distinct keys, and only values that were in its pairs. -/
lemma dictOf_wellFormed {pairs : List (Text × Json)} (hopens : reading.opens level)
    (h : FieldsWellFormed reading (level + 1) pairs) :
    WellFormed reading level (.obj (dictOf pairs)) := by
  rw [fieldsWellFormed_iff] at h
  refine List.foldlRecOn pairs _ (motive := fun fields => WellFormed reading level (.obj fields))
    ⟨hopens, List.nodup_nil, trivial⟩ ?_
  rintro fields ⟨-, hnodup, hfields⟩ pair hpair
  refine ⟨hopens, insert_nodup hnodup _ _, fieldsWellFormed_iff.mpr fun field hfield => ?_⟩
  rcases insert_mem hfield with hold | rfl
  · exact fieldsWellFormed_iff.mp hfields field hold
  · exact h pair hpair

end dict

section sound
variable {reading : Reading} {n level : ℕ} {text rest : List Char}

lemma parseAtom_sound {json : Json} (h : parseAtom reading text = some (json, rest)) :
    rest.length < text.length ∧ WellFormed reading level json := by
  unfold parseAtom at h
  split at h
  · rename_i hword
    obtain ⟨rfl, rfl⟩ := Prod.mk.inj (Option.some.inj h)
    exact ⟨by simp [keyword_length hword], trivial⟩
  split at h
  · rename_i hword
    obtain ⟨rfl, rfl⟩ := Prod.mk.inj (Option.some.inj h)
    exact ⟨by simp [keyword_length hword], trivial⟩
  split at h
  · rename_i hword
    obtain ⟨rfl, rfl⟩ := Prod.mk.inj (Option.some.inj h)
    exact ⟨by simp [keyword_length hword], trivial⟩
  obtain ⟨⟨number, left⟩, hnumber, h⟩ := Option.bind_eq_some_iff.mp h
  obtain ⟨n, hn, h⟩ := Option.bind_eq_some_iff.mp h
  obtain ⟨rfl, rfl⟩ := Prod.mk.inj (Option.some.inj h)
  have hliteral := (scanNumber_taken hnumber).2.2
  exact ⟨scanNumber_length hnumber, reading.literal _ _ hliteral hn, reading.stable _ _ hliteral hn⟩

/-- What is read with that many steps is well formed, and something is taken for it. -/
structure Sound (reading : Reading) (n : ℕ) : Prop where
  value : ∀ {level text json rest}, parseValue reading n level text = some (json, rest) →
    rest.length < text.length ∧ WellFormed reading level json
  items : ∀ {level text items rest}, parseItems reading n level text = some (items, rest) →
    rest.length < text.length ∧ ItemsWellFormed reading level items
  fields : ∀ {level text fields rest}, parseFields reading n level text = some (fields, rest) →
    rest.length < text.length ∧ FieldsWellFormed reading level fields

lemma parseValue_sound (hsound : Sound reading n) {json : Json}
    (h : parseValue reading (n + 1) level text = some (json, rest)) :
    rest.length < text.length ∧ WellFormed reading level json := by
  rw [parseValue.eq_def] at h
  dsimp only at h
  split at h
  · obtain ⟨⟨cs, left⟩, hstring, h⟩ := Option.map_eq_some_iff.mp h
    obtain ⟨rfl, rfl⟩ := Prod.mk.inj h
    exact ⟨(scanString_length hstring).trans (by simp), scanString_joined hstring⟩
  · rename_i left
    have hskip := skipWhitespace_length left
    split_ifs at h with hopens
    split at h
    · rename_i hclosed
      obtain ⟨rfl, rfl⟩ := Prod.mk.inj (Option.some.inj h)
      rw [hclosed] at hskip
      simp only [List.length_cons] at hskip ⊢
      exact ⟨by omega, hopens, trivial⟩
    · obtain ⟨⟨items, left'⟩, hitems, h⟩ := Option.map_eq_some_iff.mp h
      obtain ⟨rfl, rfl⟩ := Prod.mk.inj h
      obtain ⟨hlength, hwell⟩ := hsound.items hitems
      simp only [List.length_cons]
      exact ⟨by omega, hopens, hwell⟩
  · rename_i left
    have hskip := skipWhitespace_length left
    split_ifs at h with hopens
    split at h
    · rename_i hclosed
      obtain ⟨rfl, rfl⟩ := Prod.mk.inj (Option.some.inj h)
      rw [hclosed] at hskip
      simp only [List.length_cons] at hskip ⊢
      exact ⟨by omega, hopens, List.nodup_nil, trivial⟩
    · obtain ⟨⟨fields, left'⟩, hfields, h⟩ := Option.map_eq_some_iff.mp h
      obtain ⟨rfl, rfl⟩ := Prod.mk.inj h
      obtain ⟨hlength, hwell⟩ := hsound.fields hfields
      simp only [List.length_cons]
      exact ⟨by omega, dictOf_wellFormed hopens hwell⟩
  · exact parseAtom_sound h

lemma parseItems_sound (hsound : Sound reading n) {items : List Json}
    (h : parseItems reading (n + 1) level text = some (items, rest)) :
    rest.length < text.length ∧ ItemsWellFormed reading level items := by
  rw [parseItems] at h
  split at h
  · cases h
  · rename_i item left hitem
    obtain ⟨hlength, hwell⟩ := hsound.value hitem
    have hskip := skipWhitespace_length left
    split at h
    · rename_i hclosed
      obtain ⟨rfl, rfl⟩ := Prod.mk.inj (Option.some.inj h)
      rw [hclosed, List.length_cons] at hskip
      exact ⟨by omega, hwell, trivial⟩
    · rename_i left' hcomma
      obtain ⟨⟨later, left''⟩, hlater, h⟩ := Option.map_eq_some_iff.mp h
      obtain ⟨rfl, rfl⟩ := Prod.mk.inj h
      obtain ⟨hlength', hwell'⟩ := hsound.items hlater
      have hskip' := skipWhitespace_length left'
      rw [hcomma, List.length_cons] at hskip
      refine ⟨?_, hwell, hwell'⟩
      dsimp only
      omega
    · cases h

lemma parseFields_sound (hsound : Sound reading n) {fields : List (Text × Json)}
    (h : parseFields reading (n + 1) level text = some (fields, rest)) :
    rest.length < text.length ∧ FieldsWellFormed reading level fields := by
  rw [parseFields] at h
  split at h
  · cases h
  rename_i key left hkey
  obtain ⟨body, hquote, hstring⟩ := Option.bind_eq_some_iff.mp hkey
  have hopen := keyword_length hquote
  have hname := scanString_length hstring
  have hskip := skipWhitespace_length left
  split at h
  · cases h
  rename_i left' hcolon
  have hcolon := keyword_length hcolon
  have hskip' := skipWhitespace_length left'
  split at h
  · cases h
  rename_i value left'' hvalue
  obtain ⟨hlength, hwell⟩ := hsound.value hvalue
  have hskip'' := skipWhitespace_length left''
  split at h
  · rename_i hclosed
    obtain ⟨rfl, rfl⟩ := Prod.mk.inj (Option.some.inj h)
    rw [hclosed, List.length_cons] at hskip''
    exact ⟨by omega, scanString_joined hstring, hwell, trivial⟩
  · rename_i left₃ hcomma
    obtain ⟨⟨later, left₄⟩, hlater, h⟩ := Option.map_eq_some_iff.mp h
    obtain ⟨rfl, rfl⟩ := Prod.mk.inj h
    obtain ⟨hlength', hwell'⟩ := hsound.fields hlater
    have hskip₃ := skipWhitespace_length left₃
    rw [hcomma, List.length_cons] at hskip''
    refine ⟨?_, scanString_joined hstring, hwell, hwell'⟩
    dsimp only
    omega
  · cases h

lemma sound (reading : Reading) (n : ℕ) : Sound reading n := by
  induction n with
  | zero =>
    constructor
    · intro level text json rest h
      rw [parseValue] at h
      cases h
    · intro level text items rest h
      rw [parseItems] at h
      cases h
    · intro level text fields rest h
      rw [parseFields] at h
      cases h
  | succ n ih => exact ⟨parseValue_sound ih, parseItems_sound ih, parseFields_sound ih⟩

/-- What is accepted is well formed, so that it is what is read back from its own text. -/
theorem loads_wellFormed {json : Json} (h : loads reading text = some json) :
    WellFormed reading 0 json := by
  unfold loads at h
  split at h
  · rename_i found left hvalue
    split_ifs at h
    obtain rfl := Option.some.inj h
    exact ((sound reading _).value hvalue).2
  · cases h

end sound

section fuel
variable {reading : Reading} {text : List Char} {n m level : ℕ}

lemma scanString_fuel (hn : text.length ≤ n) (hm : text.length ≤ m) :
    scanString n text = scanString m text := by
  induction n generalizing text m with
  | zero =>
    obtain rfl := List.length_eq_zero_iff.mp (Nat.le_zero.mp hn)
    cases m <;> rfl
  | succ n ih =>
    cases text with
    | nil => cases m <;> rfl
    | cons c text =>
      obtain ⟨m, rfl⟩ : ∃ m', m = m' + 1 := ⟨m - 1, by simp at hm; omega⟩
      obtain rfl | hquote := eq_or_ne c '\x22'
      · rfl
      · rw [scanString_cons hquote, scanString_cons hquote]
        cases hchar : scanChar (c :: text) with
        | none => rfl
        | some parts =>
          obtain ⟨d, left⟩ := parts
          have hlength := scanChar_length hchar
          rw [List.length_cons] at hn hm hlength
          simp only [Option.bind_eq_bind, Option.bind_some, ih (by omega : left.length ≤ n)
            (by omega : left.length ≤ m)]

/-- More steps than that, whatever their number, read the same. -/
structure Settled (reading : Reading) (n m : ℕ) : Prop where
  value : ∀ (level : ℕ) (text : List Char), 2 * text.length + 1 ≤ n → 2 * text.length + 1 ≤ m →
    parseValue reading n level text = parseValue reading m level text
  items : ∀ (level : ℕ) (text : List Char), 2 * text.length + 2 ≤ n → 2 * text.length + 2 ≤ m →
    parseItems reading n level text = parseItems reading m level text
  fields : ∀ (level : ℕ) (text : List Char), 2 * text.length + 2 ≤ n → 2 * text.length + 2 ≤ m →
    parseFields reading n level text = parseFields reading m level text

lemma parseValue_settled (hsettled : Settled reading n m) (hn : 2 * text.length ≤ n)
    (hm : 2 * text.length ≤ m) :
    parseValue reading (n + 1) level text = parseValue reading (m + 1) level text := by
  rw [parseValue.eq_def, parseValue.eq_def]
  dsimp only
  split
  · rfl
  · rename_i left
    have hskip := skipWhitespace_length left
    rw [List.length_cons] at hn hm
    split_ifs
    on_goal 2 => rfl
    split
    · rfl
    · rw [hsettled.items _ _ (by omega) (by omega)]
  · rename_i left
    have hskip := skipWhitespace_length left
    rw [List.length_cons] at hn hm
    split_ifs
    on_goal 2 => rfl
    split
    · rfl
    · rw [hsettled.fields _ _ (by omega) (by omega)]
  · rfl

lemma parseItems_settled (hsettled : Settled reading n m) (hn : 2 * text.length + 1 ≤ n)
    (hm : 2 * text.length + 1 ≤ m) :
    parseItems reading (n + 1) level text = parseItems reading (m + 1) level text := by
  rw [parseItems, parseItems, hsettled.value _ text hn hm]
  split
  · rfl
  rename_i item left hitem
  have hlength := ((sound reading m).value hitem).1
  have hskip := skipWhitespace_length left
  split
  · rfl
  · rename_i left' hcomma
    have hskip' := skipWhitespace_length left'
    rw [hcomma, List.length_cons] at hskip
    rw [hsettled.items _ _ (by omega) (by omega)]
  · rfl

lemma parseFields_settled (hsettled : Settled reading n m) (hn : 2 * text.length + 1 ≤ n)
    (hm : 2 * text.length + 1 ≤ m) :
    parseFields reading (n + 1) level text = parseFields reading (m + 1) level text := by
  rw [parseFields, parseFields]
  split
  · rfl
  rename_i key left hkey
  obtain ⟨body, hquote, hstring⟩ := Option.bind_eq_some_iff.mp hkey
  have hopen := keyword_length hquote
  have hname := scanString_length hstring
  have hskip := skipWhitespace_length left
  split
  · rfl
  rename_i left' hcolon
  have hcolon := keyword_length hcolon
  have hskip' := skipWhitespace_length left'
  rw [hsettled.value _ _ (by omega) (by omega)]
  split
  · rfl
  rename_i value left'' hvalue
  have hlength := ((sound reading m).value hvalue).1
  have hskip'' := skipWhitespace_length left''
  split
  · rfl
  · rename_i left₃ hcomma
    have hskip₃ := skipWhitespace_length left₃
    rw [hcomma, List.length_cons] at hskip''
    rw [hsettled.fields _ _ (by omega) (by omega)]
  · rfl

lemma settled (reading : Reading) (n m : ℕ) : Settled reading n m := by
  induction n generalizing m with
  | zero => constructor <;> omega
  | succ n ih =>
    cases m with
    | zero => constructor <;> omega
    | succ m =>
      constructor
      · intro level text hn hm
        exact parseValue_settled (ih m) (by omega) (by omega)
      · intro level text hn hm
        exact parseItems_settled (ih m) (by omega) (by omega)
      · intro level text hn hm
        exact parseFields_settled (ih m) (by omega) (by omega)

/-- Reading is not cut short: with any more steps the outcome is the same. -/
theorem loads_settled (h : 2 * text.length + 1 ≤ n) :
    parseValue reading (2 * text.length + 1) 0 (skipWhitespace text) =
      parseValue reading n 0 (skipWhitespace text) := by
  have hskip := skipWhitespace_length text
  exact (settled reading (2 * text.length + 1) n).value _ _ (by omega) (by omega)

end fuel

end LlmMax.JsonSound
