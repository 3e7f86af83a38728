import Mathlib.Data.Int.Notation
import Mathlib.Data.List.TakeDrop
import PixelPanel.Json.Print
import PixelPanel.Json.Token
import PixelPanel.Proofs.HexText
import PixelPanel.Proofs.JsonValues

/-!
# Tokens read back

A text that is printed is read as the text that it is, whatever comes behind it: characters are escaped by
a letter, by four digits or as two halves of a surrogate pair, and every escape is undone. The same holds of
an integer if its digits end where a value can end.
-/

namespace PixelPanel.Json

/-- The code units of a code point: one, or the two halves of a surrogate pair. -/
def unitsOf (point : ℕ) : Points :=
  if point < 0x10000 then [point]
  else [0xD800 + (point - 0x10000) / 0x400, 0xDC00 + (point - 0x10000) % 0x400]

/-- The code points that are escaped by a letter or a mark. -/
def letteredPoints : List ℕ := [0x22, 0x5C, 0x0A, 0x0D, 0x09, 0x0C, 0x08]

/-- A value can end here: a comma or a new line comes next. -/
def EndsValue (rest : List Char) : Prop :=
  ∃ c later, rest = c :: later ∧ (c = ',' ∨ c = '\n')

/-- A text is read as a token if something suitable comes behind it. -/
def Token.IsWritten (token : Token) (written : List Char) (Next : List Char → Prop) : Prop :=
  ∃ c later, written = c :: later ∧ isBlank c = false ∧
    ∀ rest, Next rest → readToken c (later ++ rest) = (token, rest)

end PixelPanel.Json

namespace PixelPanel.Proofs
open Json

variable {opened point unit n : ℕ} {c : Char} {text tail rest : List Char} {points : Points}

/-! ### Hexadecimal digits -/

lemma digitChar_eq_digit : ∀ value < 16, Nat.digitChar value = Hex.digit value := by
  decide

lemma padded_one {value : ℕ} (h : value < 16) : (Hex.padded 1 value).toList = [Hex.digit value] := by
  rw [Hex.padded, Nat.toDigits_of_lt_base h, digitChar_eq_digit value h]
  exact String.toList_ofList

/-- One more place is one more digit at the end. -/
lemma padded_succ {width : ℕ} (hwidth : 0 < width) (value : ℕ) : (Hex.padded (width + 1) value).toList =
    (Hex.padded width (value / 16)).toList ++ [Hex.digit (value % 16)] := by
  rw [Hex.padded, Hex.padded, String.toList_ofList, String.toList_ofList,
    ← digitChar_eq_digit _ (Nat.mod_lt value (by decide))]
  by_cases hvalue : value < 16
  · have hzeros : List.replicate (width - 1) '0' ++ ['0'] = List.replicate width '0' := by
      rw [← List.replicate_succ', Nat.sub_add_cancel hwidth]
    rw [Nat.toDigits_of_lt_base hvalue, Nat.div_eq_of_lt hvalue, Nat.mod_eq_of_lt hvalue,
      Nat.toDigits_zero, List.length_singleton, List.length_singleton, Nat.add_sub_cancel, hzeros]
  · rw [Nat.toDigits_of_base_le (by decide) (Nat.not_lt.mp hvalue), List.length_append,
      List.length_singleton, Nat.add_sub_add_right, List.append_assoc]

lemma padded_four (h : unit < 0x10000) : (Hex.padded 4 unit).toList =
    [Hex.digit (unit / 4096), Hex.digit (unit / 256 % 16), Hex.digit (unit / 16 % 16),
      Hex.digit (unit % 16)] := by
  have hfirst : unit / 16 / 16 / 16 = unit / 4096 := by omega
  have hsecond : unit / 16 / 16 = unit / 256 := by omega
  rw [padded_succ (by decide), padded_succ (by decide), padded_succ (by decide), hfirst, hsecond,
    padded_one (by omega)]
  rfl

lemma hexPoint?_digits {high second third low : ℕ} (hhigh : high < 16) (hsecond : second < 16)
    (hthird : third < 16) (hlow : low < 16) :
    hexPoint? (Hex.digit high) (Hex.digit second) (Hex.digit third) (Hex.digit low) =
      some ((high * 16 + second) * 256 + third * 16 + low) := by
  have hvalue : ∀ value < 16, Hex.value? (Hex.digit value) = some value :=
    fun value h => (value?_digit value h Hex.digit (by simp)).2
  rw [hexPoint?, hvalue high hhigh, hvalue second hsecond, hvalue third hthird, hvalue low hlow]
  rfl

/-! ### Texts -/

lemma readText_plain (hquote : c ≠ '"') (hslash : c ≠ '\\') (hcontrol : ¬c < ' ')
    (h : readText opened tail = .ok (points, rest)) :
    readText opened (c :: tail) = .ok (c.toNat :: points, rest) := by
  rw [readText, if_neg hcontrol, h]
  · rfl
  · exact hquote
  all_goals
    intros
    contradiction

lemma readText_letter {letter : Char} (hletter : escaped? letter = some point)
    (h : readText opened tail = .ok (points, rest)) :
    readText opened ('\\' :: letter :: tail) = .ok (point :: points, rest) := by
  have hunit : letter ≠ 'u' := by
    rintro rfl
    cases hletter
  rw [readText, hletter]
  · simp only
    rw [h]
    rfl
  all_goals
    intros
    contradiction

lemma readText_unitEscape (hunit : unit < 0x10000) (h : readText opened tail = .ok (points, rest)) :
    readText opened ((unitEscape unit).toList ++ tail) = .ok (unit :: points, rest) := by
  have hunits : (unitEscape unit).toList = '\\' :: 'u' :: (Hex.padded 4 unit).toList :=
    String.toList_append
  have hpoint := @hexPoint?_digits (unit / 4096) (unit / 256 % 16) (unit / 16 % 16) (unit % 16)
    (by omega) (by omega) (by omega) (by omega)
  have hsame : (unit / 4096 * 16 + unit / 256 % 16) * 256 + unit / 16 % 16 * 16 + unit % 16 = unit := by
    omega
  rw [hsame] at hpoint
  rw [hunits, padded_four hunit]
  cases tail with
  | nil => cases h
  | cons next later =>
    change readText opened ('\\' :: 'u' :: _ :: _ :: _ :: _ :: next :: later) = _
    rw [readText, hpoint]
    simp only
    rw [h]
    rfl

/-- A code point that is written with a letter of its own is that letter behind a backslash. -/
lemma printPoint_of_mem (h : point ∈ letteredPoints) :
    ∃ letter, (printPoint point).toList = ['\\', letter] ∧ escaped? letter = some point := by
  simp only [letteredPoints, List.mem_cons, List.not_mem_nil, or_false] at h
  rcases h with rfl | rfl | rfl | rfl | rfl | rfl | rfl
  · exact ⟨'"', rfl, rfl⟩
  · exact ⟨'\\', rfl, rfl⟩
  · exact ⟨'n', rfl, rfl⟩
  · exact ⟨'r', rfl, rfl⟩
  · exact ⟨'t', rfl, rfl⟩
  · exact ⟨'f', rfl, rfl⟩
  · exact ⟨'b', rfl, rfl⟩

lemma printPoint_of_not_mem (h : point ∉ letteredPoints) : printPoint point =
    if 0x20 ≤ point ∧ point < 0x7F then String.singleton (Char.ofNat point)
    else if point < 0x10000 then unitEscape point
    else unitEscape (0xD800 + (point - 0x10000) / 0x400) ++
      unitEscape (0xDC00 + (point - 0x10000) % 0x400) := by
  simp only [letteredPoints, List.mem_cons, List.not_mem_nil, or_false, not_or] at h
  obtain ⟨hquote, hslash, hline, hreturn, htab, hfeed, hback⟩ := h
  rw [printPoint, if_neg hquote, if_neg hslash, if_neg hline, if_neg hreturn, if_neg htab, if_neg hfeed,
    if_neg hback]

/-- A code point that is printed inside of a text is read as its code units. -/
lemma readText_printPoint (hpoint : point < 0x110000) (h : readText opened tail = .ok (points, rest)) :
    readText opened ((printPoint point).toList ++ tail) = .ok (unitsOf point ++ points, rest) := by
  by_cases hmem : point ∈ letteredPoints
  · have hunits : ∀ point ∈ letteredPoints, unitsOf point = [point] := by decide
    obtain ⟨letter, hprint, hletter⟩ := printPoint_of_mem hmem
    rw [hprint, hunits point hmem]
    exact readText_letter hletter h
  rw [printPoint_of_not_mem hmem]
  split
  · rename_i hplain
    have hchar : (Char.ofNat point).toNat = point := toNat_ofNat (.inl (by omega))
    have hnot : ∀ c : Char, c.toNat ∈ letteredPoints → Char.ofNat point ≠ c :=
      fun c hc heq => hmem (hchar ▸ heq ▸ hc)
    have hread := readText_plain (hnot '"' (by decide)) (hnot '\\' (by decide)) ?_ h
    · rw [hchar] at hread
      rw [unitsOf, if_pos (by omega), String.toList_singleton]
      exact hread
    · change ¬(Char.ofNat point).toNat < 0x20
      rw [hchar]
      exact Nat.not_lt.mpr hplain.1
  split
  · rename_i hunit
    rw [unitsOf, if_pos hunit]
    exact readText_unitEscape hunit h
  · rename_i hunit
    rw [unitsOf, if_neg hunit, String.toList_append, List.append_assoc]
    exact readText_unitEscape (by omega) (readText_unitEscape (by omega) h)

/-- The body of a text that is printed is read up to its closing quote. -/
lemma readText_points (points : Points) (h : ∀ point ∈ points, point < 0x110000) :
    readText opened ((String.join (points.map printPoint)).toList ++ '"' :: rest) =
      .ok (points.flatMap unitsOf, rest) := by
  rw [String.toList_join, List.flatMap_map]
  induction points with
  | nil => rfl
  | cons point later ih =>
    rw [List.forall_mem_cons] at h
    rw [List.flatMap_cons, List.flatMap_cons, List.append_assoc]
    exact readText_printPoint h.1 (ih h.2)

/-- The halves of a surrogate pair are joined again. -/
lemma joinPairs_unitsOf (h : point.isValidChar) :
    joinPairs (unitsOf point ++ points) = point :: joinPairs points := by
  rw [Nat.isValidChar] at h
  rw [unitsOf]
  split
  · cases points with
    | nil => rfl
    | cons low later =>
      change joinPairs (point :: low :: later) = _
      rw [joinPairs, if_neg]
      omega
  · change joinPairs (_ :: _ :: points) = _
    have hjoined : 0x10000 + (0xD800 + (point - 0x10000) / 0x400 - 0xD800) * 0x400 +
        (0xDC00 + (point - 0x10000) % 0x400 - 0xDC00) = point := by omega
    rw [joinPairs, if_pos (by omega), hjoined]

lemma joinPairs_points (text : String) :
    joinPairs ((Json.points text).flatMap unitsOf) = Json.points text := by
  rw [Json.points]
  induction text.toList with
  | nil => rfl
  | cons c later ih =>
    have hvalid : c.toNat.isValidChar := c.valid
    rw [List.map_cons, List.flatMap_cons, joinPairs_unitsOf hvalid, ih]

lemma lt_of_mem_points (text : String) : ∀ point ∈ Json.points text, point < 0x110000 := by
  intro point hpoint
  obtain ⟨c, -, rfl⟩ := List.mem_map.mp hpoint
  have hvalid : c.toNat.isValidChar := c.valid
  rw [Nat.isValidChar] at hvalid
  omega

/-- A text that is printed is read as its code points. -/
lemma isWritten_text (text : String) :
    (Token.text (Json.points text)).IsWritten (printText (Json.points text)).toList fun _ => True := by
  have hprint : (printText (Json.points text)).toList =
      '"' :: ((String.join ((Json.points text).map printPoint)).toList ++ ['"']) := by
    rw [printText, String.toList_append, String.toList_append]
    rfl
  refine ⟨'"', _, hprint, rfl, fun rest _ => ?_⟩
  have hmark : Mark.ofChar? '"' = none := rfl
  rw [List.append_assoc, readToken, hmark]
  simp only [if_true, List.cons_append, List.nil_append,
    readText_points (Json.points text) (lt_of_mem_points text), joinPairs_points]

/-! ### Integers -/

lemma digitsValue_toDigits (n : ℕ) : Text.digitsValue (Nat.toDigits 10 n) = n :=
  Nat.ofDigitChars_ten_toDigits

/-- No zero stands in front. -/
lemma head?_toDigits (h : n ≠ 0) : (Nat.toDigits 10 n).head? ≠ some '0' := by
  induction n using Nat.strongRecOn with
  | ind n ih =>
    by_cases hlt : n < 10
    · have hdigit : ∀ n < 10, n ≠ 0 → Nat.digitChar n ≠ '0' := by decide
      rw [Nat.toDigits_of_lt_base hlt]
      exact fun hzero => hdigit n hlt h (Option.some.inj hzero)
    · rw [Nat.toDigits_of_base_le (by decide) (Nat.not_lt.mp hlt),
        List.head?_append_of_ne_nil _ Nat.toDigits_ne_nil]
      exact ih (n / 10) (by omega) (by omega)

/-- Digits are split off whole if there is no other digit behind them. -/
lemma span_toDigits (n : ℕ) (h : ∀ c ∈ rest.head?, c.isDigit = false) :
    (Nat.toDigits 10 n ++ rest).span Char.isDigit = (Nat.toDigits 10 n, rest) := by
  have hdigits : ∀ c ∈ Nat.toDigits 10 n, c.isDigit = true :=
    fun c => Nat.isDigit_of_mem_toDigits (by decide) (by decide)
  rw [List.span_eq_takeWhile_dropWhile, List.takeWhile_append_of_pos hdigits,
    List.dropWhile_append_of_pos hdigits]
  cases rest with
  | nil => rw [List.takeWhile_nil, List.dropWhile_nil, List.append_nil]
  | cons c later =>
    have hc : ¬c.isDigit = true := Bool.eq_false_iff.mp (h c rfl)
    rw [List.takeWhile_cons_of_neg hc, List.dropWhile_cons_of_neg hc, List.append_nil]

lemma splitWhole_toDigits (n : ℕ) (h : ∀ c ∈ rest.head?, c.isDigit = false) :
    splitWhole (Nat.toDigits 10 n ++ rest) = (Nat.toDigits 10 n, rest) := by
  by_cases hzero : n = 0
  · rw [hzero, Nat.toDigits_zero]
    rfl
  · unfold splitWhole
    split
    · rename_i later heq
      have hhead := congrArg List.head? heq
      rw [List.head?_append_of_ne_nil _ Nat.toDigits_ne_nil] at hhead
      exact absurd hhead (head?_toDigits hzero)
    · exact span_toDigits n h

lemma splitFraction_of_endsValue (h : EndsValue rest) : splitFraction rest = ([], rest) := by
  obtain ⟨c, later, rfl, rfl | rfl⟩ := h <;> rfl

lemma splitExponent_of_endsValue (h : EndsValue rest) : splitExponent rest = (none, rest) := by
  obtain ⟨c, later, rfl, rfl | rfl⟩ := h <;> rfl

lemma head_of_endsValue (h : EndsValue rest) : ∀ c ∈ rest.head?, c.isDigit = false := by
  obtain ⟨c, later, rfl, rfl | rfl⟩ := h
  · exact fun c hc => Option.some.inj hc ▸ rfl
  · exact fun c hc => Option.some.inj hc ▸ rfl

/-- The digits of a number are read as they are written, with or without a sign in front of them. -/
lemma readNumeral?_toDigits (n : ℕ) (h : EndsValue rest) :
    readNumeral? (Nat.toDigits 10 n ++ rest) = some (⟨false, Nat.toDigits 10 n, [], none⟩, rest) ∧
      readNumeral? ('-' :: (Nat.toDigits 10 n ++ rest)) =
        some (⟨true, Nat.toDigits 10 n, [], none⟩, rest) := by
  have hwhole := splitWhole_toDigits n (head_of_endsValue h)
  have hne : (Nat.toDigits 10 n).isEmpty = false := List.isEmpty_eq_false_iff.mpr Nat.toDigits_ne_nil
  constructor
  · unfold readNumeral?
    split
    rename_i negative text heq
    split at heq
    · rename_i later hsign
      have hdigit : (Nat.toDigits 10 n).head? = some '-' := by
        rw [← List.head?_append_of_ne_nil _ Nat.toDigits_ne_nil, hsign]
        rfl
      have hminus := Nat.isDigit_of_mem_toDigits (by decide) (by decide) (List.mem_of_head? hdigit)
      cases hminus
    · cases heq
      simp only [hwhole, hne, splitFraction_of_endsValue h, splitExponent_of_endsValue h,
        Bool.false_eq_true, if_false]
  · simp only [readNumeral?, hwhole, hne, splitFraction_of_endsValue h, splitExponent_of_endsValue h,
      Bool.false_eq_true, if_false]

/-- No word that is a value begins with a digit, or with a sign and a digit. -/
lemma readWord?_of_isDigit (h : c.isDigit = true) :
    readWord? (c :: rest) = none ∧ readWord? ('-' :: c :: rest) = none := by
  have hne : ∀ letter : Char, letter.isDigit = false → letter ≠ c := by
    rintro letter hletter rfl
    exact Bool.false_ne_true (hletter.symm.trans h)
  have hn := hne 'n' rfl
  have ht := hne 't' rfl
  have hf := hne 'f' rfl
  have hN := hne 'N' rfl
  have hI := hne 'I' rfl
  have hminus := hne '-' rfl
  constructor <;> simp [readWord?, words, hn, ht, hf, hN, hI, hminus]

lemma token_numeral {negative : Bool} (h : (Nat.toDigits 10 n).length ≤ Text.maxIntegerDigits) :
    Numeral.token ⟨negative, Nat.toDigits 10 n, [], none⟩ =
      .scalar (.integer (if negative then -(n : ℤ) else n)) := by
  rw [Numeral.token, if_pos ⟨rfl, rfl⟩, if_neg (Nat.not_lt.mpr h), digitsValue_toDigits]

/-- A digit is no mark and no quote and does not stand for anything but itself. -/
lemma not_mark_of_isDigit (h : c.isDigit = true) :
    Json.isBlank c = false ∧ Mark.ofChar? c = none ∧ c ≠ '"' := by
  have hlt : c.toNat < 128 := by
    simp only [Char.isDigit, Bool.and_eq_true, decide_eq_true_eq] at h
    exact Nat.lt_of_le_of_lt (UInt32.le_iff_toNat_le.mp h.2) (by decide)
  exact forall_ascii (P := fun c => c.isDigit = true →
    Json.isBlank c = false ∧ Mark.ofChar? c = none ∧ c ≠ '"') (by decide +kernel) hlt h

lemma exists_toDigits (n : ℕ) :
    ∃ c digits, Nat.toDigits 10 n = c :: digits ∧ c.isDigit = true := by
  obtain ⟨c, digits, heq⟩ := List.exists_cons_of_ne_nil (@Nat.toDigits_ne_nil n 10)
  have hmem : c ∈ Nat.toDigits 10 n := heq ▸ List.mem_cons_self
  exact ⟨c, digits, heq, Nat.isDigit_of_mem_toDigits (by decide) (by decide) hmem⟩

/-- An integer is read from its digits. -/
lemma isWritten_integer {value : ℤ}
    (h : (Nat.toDigits 10 value.natAbs).length ≤ Text.maxIntegerDigits) :
    (Token.scalar (.integer value)).IsWritten (toString value).toList EndsValue := by
  cases value with
  | ofNat n =>
    obtain ⟨c, digits, heq, hc⟩ := exists_toDigits n
    obtain ⟨hblank, hmark, hquote⟩ := not_mark_of_isDigit hc
    have hprint : (toString (Int.ofNat n)).toList = c :: digits := heq ▸ Nat.toList_repr
    refine ⟨c, digits, hprint, hblank, fun rest hrest => ?_⟩
    have hnumeral := (readNumeral?_toDigits n hrest).1
    rw [heq, List.cons_append] at hnumeral
    rw [readToken, hmark]
    simp only [if_neg hquote, (readWord?_of_isDigit hc).1, hnumeral]
    rw [← heq, @token_numeral n false h]
    rfl
  | negSucc n =>
    obtain ⟨c, digits, heq, hc⟩ := exists_toDigits (n + 1)
    have hprint : (toString (Int.negSucc n)).toList = '-' :: Nat.toDigits 10 (n + 1) := by
      change ("-" ++ Nat.repr (n + 1)).toList = _
      rw [String.toList_append, Nat.toList_repr]
      rfl
    refine ⟨'-', _, hprint, rfl, fun rest hrest => ?_⟩
    have hword : readWord? ('-' :: (Nat.toDigits 10 (n + 1) ++ rest)) = none := by
      rw [heq]
      exact (readWord?_of_isDigit hc).2
    have hmark : Mark.ofChar? '-' = none := rfl
    have hquote : '-' ≠ '"' := by decide
    rw [readToken, hmark]
    simp only [if_neg hquote, hword, (readNumeral?_toDigits (n + 1) hrest).2]
    rw [@token_numeral (n + 1) true h]
    rfl

/-! ### Words -/

lemma isWritten_null : (Token.scalar .null).IsWritten "null".toList fun _ => True :=
  ⟨'n', ['u', 'l', 'l'], rfl, rfl, fun _ _ => rfl⟩

lemma isWritten_bool (value : Bool) :
    (Token.scalar (.bool value)).IsWritten (if value then "true" else "false").toList fun _ => True := by
  cases value with
  | true => exact ⟨'t', ['r', 'u', 'e'], rfl, rfl, fun _ _ => rfl⟩
  | false => exact ⟨'f', ['a', 'l', 's', 'e'], rfl, rfl, fun _ _ => rfl⟩

end PixelPanel.Proofs
