import IssuanceCheck.Json.Reader
import IssuanceCheck.Proofs.Text.Digits
import Mathlib.Data.List.DropRight
import Mathlib.Tactic.SplitIfs

namespace IssuanceCheck.Json

open Text

variable {c : Char} {cs rest : List Char} {depth n : Nat}

theorem skipSpaces_append {spaces : List Char} (h : ∀ c ∈ spaces, isSpace c = true)
    (rest : List Char) : skipSpaces (spaces ++ rest) = skipSpaces rest :=
  List.dropWhile_append_of_pos h

theorem skipSpaces_newline (depth : Nat) (rest : List Char) :
    skipSpaces (newline depth ++ rest) = skipSpaces rest := by
  refine skipSpaces_append (fun c hc => ?_) rest
  rcases List.mem_cons.1 hc with rfl | hc
  · rfl
  · rw [List.eq_of_mem_replicate hc]
    rfl

theorem skipSpaces_cons (h : isSpace c = false) (rest : List Char) :
    skipSpaces (c :: rest) = c :: rest := by
  rw [skipSpaces, List.dropWhile_cons_of_neg (Bool.eq_false_iff.1 h)]

theorem skipSpaces_idem (cs : List Char) : skipSpaces (skipSpaces cs) = skipSpaces cs :=
  List.dropWhile_idempotent isSpace cs

theorem readCode?_of_control (h : c.toNat < 0x20) (rest : List Char) :
    readCode? ('0' :: '0' :: hexDigit (c.toNat / 16) :: hexDigit (c.toNat % 16) :: rest) =
      some (c, rest) := by
  have hunit : readUnit?
      ('0' :: '0' :: hexDigit (c.toNat / 16) :: hexDigit (c.toNat % 16) :: rest) =
        some (c.toNat, rest) := by
    have hzero : hexDigit? '0' = some 0 := rfl
    have hvalue :
        0 * 0x1000 + 0 * 0x100 + c.toNat / 16 % 16 * 0x10 + c.toNat % 16 % 16 = c.toNat := by omega
    simp only [readUnit?, hexDigit?_hexDigit, hzero, Option.bind_eq_bind, Option.bind_some, hvalue]
  have hhigh : isHighSurrogate c.toNat = false := by
    rw [isHighSurrogate, decide_eq_false (by omega), Bool.false_and]
  have hlow : isLowSurrogate c.toNat = false := by
    rw [isLowSurrogate, decide_eq_false (by omega), Bool.false_and]
  simp only [readCode?, hunit, Option.bind_eq_bind, Option.bind_some, hhigh, hlow, Char.ofNat_toNat,
    Bool.false_eq_true, if_false]

theorem escapeChar_cases (c : Char) :
    escapeChar c = [c] ∧ c ≠ '"' ∧ c ≠ '\\' ∧ ¬c.toNat < 0x20 ∨
      ∃ code, escapeChar c = '\\' :: code ∧
        ∀ rest, readEscape? (code ++ rest) = some (c, rest) := by
  have hchar {m : Nat} (h : c.toNat = m) : c = Char.ofNat m := by rw [← h, Char.ofNat_toNat]
  unfold escapeChar
  split_ifs with hquote hslash hback htab hfeed hform hreturn hcontrol
  · exact .inr ⟨['"'], rfl, fun rest => by rw [hquote]; rfl⟩
  · exact .inr ⟨['\\'], rfl, fun rest => by rw [hslash]; rfl⟩
  · exact .inr ⟨['b'], rfl, fun rest => by rw [hchar hback]; rfl⟩
  · exact .inr ⟨['t'], rfl, fun rest => by rw [hchar htab]; rfl⟩
  · exact .inr ⟨['n'], rfl, fun rest => by rw [hchar hfeed]; rfl⟩
  · exact .inr ⟨['f'], rfl, fun rest => by rw [hchar hform]; rfl⟩
  · exact .inr ⟨['r'], rfl, fun rest => by rw [hchar hreturn]; rfl⟩
  · exact .inr ⟨_, rfl, readCode?_of_control hcontrol⟩
  · exact .inl ⟨rfl, hquote, hslash, hcontrol⟩

theorem readString?_of_escape {code : List Char}
    (h : readEscape? (code ++ rest) = some (c, rest)) :
    readString? ('\\' :: (code ++ rest)) =
      (readString? rest).map fun read => (c :: read.1, read.2) := by
  rw [readString?, if_neg (by decide), if_pos rfl]
  split
  next hnone => cases h.symm.trans hnone
  next c' rest' hsome =>
    cases h.symm.trans hsome
    rfl

theorem readString?_flatMap (cs rest : List Char) :
    readString? (cs.flatMap escapeChar ++ '"' :: rest) = some (cs, rest) := by
  induction cs with
  | nil =>
      rw [List.flatMap_nil, List.nil_append, readString?]
      rfl
  | cons c cs ih =>
      rw [List.flatMap_cons, List.append_assoc]
      rcases escapeChar_cases c with ⟨hplain, hquote, hslash, hcontrol⟩ | ⟨code, hescape, hread⟩
      · rw [hplain, List.singleton_append, readString?, if_neg hquote, if_neg hslash,
          if_neg hcontrol, ih]
        rfl
      · rw [hescape, List.cons_append, readString?_of_escape (hread _), ih]
        rfl

theorem readNumber?_digits (m : Nat) (h : ∀ c ∈ rest.head?, c.isDigit = false) :
    readNumber? (Decimal.digits m ++ rest) = some (m, rest) := by
  have hdigits : ∀ c ∈ Decimal.digits m, c.isDigit = true := fun _ => Decimal.isDigit_of_mem_digits
  have htake : (Decimal.digits m ++ rest).takeWhile Char.isDigit = Decimal.digits m := by
    rw [List.takeWhile_append_of_pos hdigits]
    cases rest with
    | nil => simp
    | cons c rest => simp [h c rfl]
  have hdrop : (Decimal.digits m ++ rest).dropWhile Char.isDigit = rest := by
    rw [List.dropWhile_append_of_pos hdigits]
    cases rest with
    | nil => rfl
    | cons c rest => simp [h c rfl]
  have hzero : ¬((Decimal.digits m).head? = some '0' ∧ 1 < (Decimal.digits m).length) := by
    rintro ⟨hhead, hlength⟩
    exact absurd (Decimal.length_digits_of_head? hhead) hlength.ne'
  rw [readNumber?, htake, hdrop, if_neg hzero, Decimal.readDigits?_digits]
  rfl

theorem isSpace_of_isDigit (h : c.isDigit = true) : isSpace c = false := by
  rw [Bool.eq_false_iff, Ne, isSpace]
  simp only [Bool.or_eq_true, beq_iff_eq]
  rintro (((rfl | rfl) | rfl) | rfl) <;> cases h

theorem chars_eq_cons (depth : Nat) (j : Json) :
    ∃ c cs, chars depth j = c :: cs ∧ isSpace c = false ∧ c ≠ ']' := by
  cases j with
  | null => exact ⟨'n', _, rfl, rfl, by decide⟩
  | bool b => cases b <;> exact ⟨_, _, rfl, rfl, by decide⟩
  | number m =>
      obtain ⟨c, cs, hdigits⟩ := List.exists_cons_of_ne_nil (Decimal.digits_ne_nil m)
      have hdigit : c.isDigit = true := Decimal.isDigit_of_mem_digits (by rw [hdigits]; simp)
      refine ⟨c, cs, hdigits, isSpace_of_isDigit hdigit, ?_⟩
      rintro rfl
      cases hdigit
  | string s => exact ⟨'"', _, rfl, rfl, by decide⟩
  | array items =>
      rw [chars]
      split <;> exact ⟨_, _, rfl, rfl, by decide⟩
  | object fields =>
      rw [chars]
      split <;> exact ⟨_, _, rfl, rfl, by decide⟩

theorem readValue?_skipSpaces (n : Nat) (cs : List Char) :
    readValue? n (skipSpaces cs) = readValue? n cs := by
  cases n with
  | zero => rw [readValue?, readValue?]
  | succ n => rw [readValue?, readValue?, skipSpaces_idem]

theorem readItems?_skipSpaces (n : Nat) (cs : List Char) :
    readItems? n (skipSpaces cs) = readItems? n cs := by
  cases n with
  | zero => rw [readItems?, readItems?]
  | succ n => rw [readItems?, readItems?, readValue?_skipSpaces]

theorem readFields?_skipSpaces (n : Nat) (cs : List Char) :
    readFields? n (skipSpaces cs) = readFields? n cs := by
  cases n with
  | zero => rw [readFields?, readFields?]
  | succ n => rw [readFields?, readFields?, skipSpaces_idem]

theorem readValue?_string (s : String) (n : Nat) (rest : List Char) :
    readValue? (n + 1) (stringChars s ++ rest) = some (string s, rest) := by
  have hcs : stringChars s ++ rest = '"' :: (s.toList.flatMap escapeChar ++ '"' :: rest) := by
    simp [stringChars]
  rw [hcs, readValue?, skipSpaces_cons rfl]
  simp only [readString?_flatMap, Option.map_some, String.ofList_toList]

theorem readValue?_number (m : Nat) (h : ∀ c ∈ rest.head?, c.isDigit = false) :
    readValue? (n + 1) (Decimal.digits m ++ rest) = some (number m, rest) := by
  have hread := readNumber?_digits m h
  obtain ⟨c, cs, hdigits⟩ := List.exists_cons_of_ne_nil (Decimal.digits_ne_nil m)
  have hdigit : c.isDigit = true := Decimal.isDigit_of_mem_digits (by rw [hdigits]; simp)
  rw [hdigits, List.cons_append] at hread ⊢
  have hne {d : Char} {ds : List Char} (he : c :: (cs ++ rest) = d :: ds)
      (hd : d.isDigit = false) : False := by
    rw [(List.cons.inj he).1, hd] at hdigit
    cases hdigit
  rw [readValue?, skipSpaces_cons (isSpace_of_isDigit hdigit)]
  split
  next he => exact (hne he rfl).elim
  next he => exact (hne he rfl).elim
  next he => exact (hne he rfl).elim
  next he => exact (hne he rfl).elim
  next he => exact (hne he rfl).elim
  next he => exact (hne he rfl).elim
  next => rw [hread]; rfl

theorem readValue?_array {items : List Json} (hcs : (skipSpaces cs).head? ≠ some ']')
    (h : readItems? n cs = some (items, rest)) :
    readValue? (n + 1) ('[' :: cs) = some (array items, rest) := by
  rw [readValue?, skipSpaces_cons rfl]
  simp only
  split
  next he => exact absurd (by rw [he]; rfl) hcs
  next => rw [readItems?_skipSpaces, h]; rfl

theorem readValue?_object {fields : List (String × Json)}
    (hcs : (skipSpaces cs).head? ≠ some '\x7d') (h : readFields? n cs = some (fields, rest)) :
    readValue? (n + 1) ('\x7b' :: cs) = some (object fields, rest) := by
  rw [readValue?, skipSpaces_cons rfl]
  simp only
  split
  next he => exact absurd (by rw [he]; rfl) hcs
  next => rw [readFields?_skipSpaces, h]; rfl

theorem readItems?_last {item : Json} (outer : Nat)
    (h : readValue? n cs = some (item, newline outer ++ ']' :: rest)) :
    readItems? (n + 1) cs = some ([item], rest) := by
  rw [readItems?, h]
  simp only [skipSpaces_newline, skipSpaces_cons (c := ']') rfl]

theorem readItems?_more {item : Json} {items : List Json} {behind : List Char}
    (h : readValue? n cs = some (item, ',' :: behind))
    (hbehind : readItems? n behind = some (items, rest)) :
    readItems? (n + 1) cs = some (item :: items, rest) := by
  rw [readItems?, h]
  simp only [skipSpaces_cons (c := ',') rfl, hbehind, Option.map_some]

section

variable {key : String} {value : Json}

theorem skipSpaces_field (depth : Nat) (key : String) (cs : List Char) :
    skipSpaces (newline depth ++ stringChars key ++ [':', ' '] ++ cs) =
      '"' :: (key.toList.flatMap escapeChar ++ '"' :: ':' :: ' ' :: cs) := by
  rw [List.append_assoc, List.append_assoc, skipSpaces_newline]
  simp [stringChars, skipSpaces_cons (c := '"') rfl]

theorem readValue?_space (n : Nat) (cs : List Char) :
    readValue? n (' ' :: cs) = readValue? n cs := by
  rw [← readValue?_skipSpaces n (' ' :: cs), ← readValue?_skipSpaces n cs]
  rfl

theorem readFields?_last (depth outer : Nat)
    (h : readValue? n cs = some (value, newline outer ++ '\x7d' :: rest)) :
    readFields? (n + 1) (newline depth ++ stringChars key ++ [':', ' '] ++ cs) =
      some ([(key, value)], rest) := by
  rw [readFields?, skipSpaces_field]
  simp only [readString?_flatMap, skipSpaces_cons (c := ':') rfl, readValue?_space, h,
    skipSpaces_newline, skipSpaces_cons (c := '\x7d') rfl, String.ofList_toList]

theorem readFields?_more {fields : List (String × Json)} {behind : List Char} (depth : Nat)
    (h : readValue? n cs = some (value, ',' :: behind))
    (hbehind : readFields? n behind = some (fields, rest)) :
    readFields? (n + 1) (newline depth ++ stringChars key ++ [':', ' '] ++ cs) =
      some ((key, value) :: fields, rest) := by
  rw [readFields?, skipSpaces_field]
  simp only [readString?_flatMap, skipSpaces_cons (c := ':') rfl, readValue?_space, h,
    skipSpaces_cons (c := ',') rfl, hbehind, Option.map_some, String.ofList_toList]

end

theorem itemChars_false (depth : Nat) (item : Json) (items : List Json) :
    itemChars depth false (item :: items) = ',' :: itemChars depth true (item :: items) := by
  simp [itemChars]

theorem fieldChars_false (depth : Nat) (field : String × Json) (fields : List (String × Json)) :
    fieldChars depth false (field :: fields) = ',' :: fieldChars depth true (field :: fields) := by
  simp [fieldChars]

theorem itemChars_true (depth : Nat) (item : Json) (items : List Json) :
    itemChars depth true (item :: items) =
      newline depth ++ chars depth item ++ itemChars depth false items := by
  rw [itemChars, if_pos rfl, List.nil_append]

theorem fieldChars_true (depth : Nat) (key : String) (value : Json)
    (fields : List (String × Json)) :
    fieldChars depth true ((key, value) :: fields) =
      newline depth ++ stringChars key ++ [':', ' '] ++ chars depth value ++
        fieldChars depth false fields := by
  rw [fieldChars, if_pos rfl, List.nil_append]

theorem length_newline (depth : Nat) : (newline depth).length = 2 * depth + 1 := by
  rw [newline, List.length_cons, List.length_replicate]

theorem readValue?_newline (n depth : Nat) (cs : List Char) :
    readValue? n (newline depth ++ cs) = readValue? n cs := by
  rw [← readValue?_skipSpaces n (newline depth ++ cs), skipSpaces_newline, readValue?_skipSpaces]

mutual

theorem readValue?_chars (j : Json) (depth n : Nat) (rest : List Char)
    (hn : 2 * (chars depth j).length ≤ n + 1) (hrest : ∀ c ∈ rest.head?, c.isDigit = false) :
    readValue? (n + 1) (chars depth j ++ rest) = some (j, rest) := by
  -- Lists go through `readItems?` and `readFields?`, which call back with a value inside this one,
  -- one level deeper and with what closes the list behind it.
  match j with
  | null =>
      rw [readValue?]
      rfl
  | bool b =>
      rw [readValue?]
      cases b <;> rfl
  | number m =>
      rw [chars]
      exact readValue?_number m hrest
  | string s =>
      rw [chars]
      exact readValue?_string s n rest
  | array [] =>
      rw [readValue?]
      rfl
  | array (item :: items) =>
      have htext : chars depth (array (item :: items)) ++ rest =
          '[' :: (itemChars (depth + 1) true (item :: items) ++ newline depth ++ ']' :: rest) := by
        rw [chars, List.isEmpty_cons, if_neg Bool.false_ne_true]
        simp only [List.append_assoc, List.cons_append, List.nil_append]
      have hlength := congrArg List.length htext
      simp only [List.length_append, List.length_cons] at hlength
      rw [htext]
      refine readValue?_array ?_
        (readItems?_chars (item :: items) (depth + 1) depth n rest (by simp) (by omega))
      obtain ⟨c, cs, hchars, hspace, hclose⟩ := chars_eq_cons (depth + 1) item
      rw [itemChars_true, List.append_assoc, List.append_assoc, List.append_assoc,
        skipSpaces_newline, hchars, List.cons_append, skipSpaces_cons hspace, List.head?_cons]
      exact fun he => hclose (Option.some.inj he)
  | object [] =>
      rw [readValue?]
      rfl
  | object ((key, value) :: fields) =>
      have htext : chars depth (object ((key, value) :: fields)) ++ rest =
          '\x7b' :: (fieldChars (depth + 1) true ((key, value) :: fields) ++ newline depth ++
            '\x7d' :: rest) := by
        rw [chars, List.isEmpty_cons, if_neg Bool.false_ne_true]
        simp only [List.append_assoc, List.cons_append, List.nil_append]
      have hlength := congrArg List.length htext
      simp only [List.length_append, List.length_cons] at hlength
      rw [htext]
      refine readValue?_object ?_
        (readFields?_chars ((key, value) :: fields) (depth + 1) depth n rest (by simp) (by omega))
      rw [fieldChars_true, List.append_assoc, List.append_assoc, List.append_assoc,
        skipSpaces_field, List.head?_cons]
      decide

theorem readItems?_chars (items : List Json) (depth outer n : Nat) (rest : List Char)
    (hne : items ≠ []) (hn : 2 * (itemChars depth true items).length ≤ n) :
    readItems? n (itemChars depth true items ++ newline outer ++ ']' :: rest) =
      some (items, rest) := by
  match items with
  | [] => exact absurd rfl hne
  | [item] =>
      have hlength := congrArg List.length (itemChars_true depth item [])
      simp only [List.length_append, length_newline] at hlength
      obtain ⟨n, rfl⟩ : ∃ m, n = m + 2 := ⟨n - 2, by omega⟩
      have htext : itemChars depth true [item] ++ newline outer ++ ']' :: rest =
          newline depth ++ (chars depth item ++ (newline outer ++ ']' :: rest)) := by
        rw [itemChars_true, itemChars]
        simp only [List.append_assoc, List.nil_append]
      rw [htext]
      refine readItems?_last outer ?_
      rw [readValue?_newline]
      exact readValue?_chars item depth n _ (by omega) (by simp [newline])
  | item :: next :: items =>
      have hlength := congrArg List.length (itemChars_true depth item (next :: items))
      simp only [itemChars_false, List.length_append, List.length_cons, length_newline] at hlength
      obtain ⟨n, rfl⟩ : ∃ m, n = m + 2 := ⟨n - 2, by omega⟩
      have htext : itemChars depth true (item :: next :: items) ++ newline outer ++ ']' :: rest =
          newline depth ++ (chars depth item ++
            ',' :: (itemChars depth true (next :: items) ++ newline outer ++ ']' :: rest)) := by
        rw [itemChars_true, itemChars_false]
        simp only [List.append_assoc, List.cons_append]
      rw [htext]
      refine readItems?_more ?_
        (readItems?_chars (next :: items) depth outer (n + 1) rest (by simp) (by omega))
      rw [readValue?_newline]
      exact readValue?_chars item depth n _ (by omega) (by simp)

theorem readFields?_chars (fields : List (String × Json)) (depth outer n : Nat) (rest : List Char)
    (hne : fields ≠ []) (hn : 2 * (fieldChars depth true fields).length ≤ n) :
    readFields? n (fieldChars depth true fields ++ newline outer ++ '\x7d' :: rest) =
      some (fields, rest) := by
  match fields with
  | [] => exact absurd rfl hne
  | [(key, value)] =>
      have hlength := congrArg List.length (fieldChars_true depth key value [])
      simp only [List.length_append, length_newline] at hlength
      obtain ⟨n, rfl⟩ : ∃ m, n = m + 2 := ⟨n - 2, by omega⟩
      have htext : fieldChars depth true [(key, value)] ++ newline outer ++ '\x7d' :: rest =
          newline depth ++ stringChars key ++ [':', ' '] ++
            (chars depth value ++ (newline outer ++ '\x7d' :: rest)) := by
        rw [fieldChars_true, fieldChars]
        simp only [List.append_assoc, List.nil_append]
      rw [htext]
      refine readFields?_last depth outer ?_
      exact readValue?_chars value depth n _ (by omega) (by simp [newline])
  | (key, value) :: next :: fields =>
      have hlength := congrArg List.length (fieldChars_true depth key value (next :: fields))
      simp only [fieldChars_false, List.length_append, List.length_cons, length_newline] at hlength
      obtain ⟨n, rfl⟩ : ∃ m, n = m + 2 := ⟨n - 2, by omega⟩
      have htext : fieldChars depth true ((key, value) :: next :: fields) ++ newline outer ++
          '\x7d' :: rest = newline depth ++ stringChars key ++ [':', ' '] ++ (chars depth value ++
            ',' :: (fieldChars depth true (next :: fields) ++ newline outer ++
              '\x7d' :: rest)) := by
        rw [fieldChars_true, fieldChars_false]
        simp only [List.append_assoc, List.cons_append]
      rw [htext]
      refine readFields?_more depth ?_
        (readFields?_chars (next :: fields) depth outer (n + 1) rest (by simp) (by omega))
      exact readValue?_chars value depth n _ (by omega) (by simp)

end

/-- What is written for a document is read back. -/
theorem read?_pretty (j : Json) : read? j.pretty = some j := by
  have htext : j.pretty.toList = chars 0 j := String.toList_ofList
  have hread := readValue?_chars j 0 (2 * j.pretty.length + 1) []
    (by rw [← htext, String.length_toList]; omega) (by simp)
  rw [List.append_nil, ← htext] at hread
  rw [read?, hread]
  rfl

end IssuanceCheck.Json
