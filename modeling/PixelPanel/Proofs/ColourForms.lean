import PixelPanel.ColourText
import PixelPanel.Proofs.CommandReading
import PixelPanel.Proofs.HexText
import PixelPanel.Proofs.TextEnds

/-!
# How colours are written

A text names a colour exactly if three or six digits are left of it, once the white space at its ends and
a mark in front of the digits are taken away. Although texts are read in small letters, no letter of
another script becomes a part of a colour. The colours that are read can be shown, and they are read
again from six digits behind each of the marks.
-/

namespace PixelPanel.Hex

/-- Two digits write an octet, the higher one first. -/
def IsPair (high low : Char) (octet : UInt8) : Prop :=
  IsDigit high (octet.toNat / 16) ∧ IsDigit low (octet.toNat % 16)

end PixelPanel.Hex

namespace PixelPanel.Colour
open Hex

/-- What can stand in front of the digits of a colour. -/
def marks : List (List Char) :=
  [[], ['#'], ['0', 'x'], ['0', 'X'], ['#', '0', 'x'], ['#', '0', 'X']]

/-- Digits denote a colour: a pair of them for each component, or one that stands for a pair of equal
digits. -/
inductive Denotes : List Char → Colour → Prop
  | short {red green blue : Char} {colour : Colour} (hred : IsPair red red colour.red)
    (hgreen : IsPair green green colour.green) (hblue : IsPair blue blue colour.blue) :
    Denotes [red, green, blue] colour
  | long {red red' green green' blue blue' : Char} {colour : Colour}
    (hred : IsPair red red' colour.red) (hgreen : IsPair green green' colour.green)
    (hblue : IsPair blue blue' colour.blue) :
    Denotes [red, red', green, green', blue, blue'] colour

/-- A text names a colour: there is nothing but white space around its digits and a mark in front of
them. -/
def Names (text : List Char) (colour : Colour) : Prop :=
  ∃ mark ∈ marks, ∃ digits, Text.Strips text (mark ++ digits) ∧ Denotes digits colour

/-- A character can be part of a colour in small letters. -/
def MayStand (c : Char) : Prop :=
  (value? c).isSome ∨ c = '#' ∨ c = 'x'

instance : DecidablePred MayStand := fun _ => inferInstanceAs (Decidable (_ ∨ _))

/-- The marks in small letters. -/
def smallMarks : List (List Char) := [[], ['#'], ['0', 'x'], ['#', '0', 'x']]

/-- What is left of a text in small letters without its mark. -/
def unmarked (text : List Char) : List Char :=
  dropStart ['0', 'x'] (dropStart ['#'] text)

end PixelPanel.Colour

namespace PixelPanel.Proofs
open Colour Hex

variable {c : Char} {text digits : List Char} {colour : Colour}

/-! ### Small letters -/

lemma ascii_of_mayStand (h : MayStand c) : c.toNat < 128 := by
  obtain h | rfl | rfl := h
  · obtain ⟨value, hvalue⟩ := Option.isSome_iff_exists.mp h
    exact lt_of_value? hvalue
  · decide
  · decide

lemma not_mayStand_ofNat {n : ℕ} (h : 128 ≤ n) : ¬MayStand (Char.ofNat n) := by
  by_cases hvalid : n.isValidChar
  · intro hmay
    have hnumber : (Char.ofNat n).toNat = n := by
      rw [Char.ofNat, dif_pos hvalid]
      rfl
    have hascii := ascii_of_mayStand hmay
    omega
  · rw [Char.ofNat, dif_neg hvalid]
    unfold MayStand
    decide

lemma inRows?_eq_some {rows : Array (ℕ × ℕ × ℕ × ℕ)} {n found : ℕ}
    (h : Text.inRows? rows n = some found) :
    ∃ row ∈ rows.toList, row.1 ≤ n ∧ n ≤ row.2.1 ∧ found = row.2.2.2 + (n - row.1) := by
  obtain ⟨⟨first, last, step, image⟩, hmem, hrow⟩ := Array.exists_of_findSome?_eq_some h
  refine ⟨(first, last, step, image), hmem.val, ?_⟩
  dsimp only at hrow ⊢
  split at hrow
  · rename_i hwithin
    exact ⟨hwithin.1, hwithin.2.1, (Option.some.inj hrow).symm⟩
  · cases hrow

/-- Among the capitals beyond ASCII, only the sign for kelvin becomes a letter of ASCII. -/
lemma beyond_smallRows : ∀ row ∈ Text.smallRows.toList,
    row.2.1 < 128 ∨ 128 ≤ row.2.2.2 ∨ row = (0x212A, 0x212A, 1, 0x6B) := by
  decide +kernel

lemma inRows?_smallRows_of_ascii {n : ℕ} (h : n < 128) : Text.inRows? Text.smallRows n =
    if 0x41 ≤ n ∧ n ≤ 0x5A then some (n + 0x20) else none := by
  have hrows : Text.smallRows.toList = (0x41, 0x5A, 1, 0x61) :: Text.smallRows.toList.tail := rfl
  have hbeyond : ∀ row ∈ Text.smallRows.toList.tail, 128 ≤ row.1 := by decide +kernel
  rw [Text.inRows?, ← Array.findSome?_toList, hrows, List.findSome?_cons]
  dsimp only
  rw [Nat.mod_one]
  split
  · rename_i found hfound
    split at hfound
    · rename_i hwithin
      obtain rfl := Option.some.inj hfound
      rw [if_pos ⟨hwithin.1, hwithin.2.1⟩]
      exact congrArg some (by omega)
    · cases hfound
  · rename_i hnone
    rw [if_neg (fun hwithin => by simp [hwithin] at hnone), List.findSome?_eq_none_iff]
    intro row hmem
    have hfirst := hbeyond row hmem
    exact if_neg (by omega)

lemma small_of_ascii (h : c.toNat < 128) : Text.small c = [c.toLower] := by
  have hdotted : c ≠ '\u0130' := by
    rintro rfl
    exact absurd h (by decide)
  rw [Text.small, if_neg hdotted, inRows?_smallRows_of_ascii h]
  have hlower : c.toLower =
      if 0x41 ≤ c.toNat ∧ c.toNat ≤ 0x5A then Char.ofNat (c.toNat + 0x20) else c :=
    forall_ascii (P := fun c => c.toLower =
      if 0x41 ≤ c.toNat ∧ c.toNat ≤ 0x5A then Char.ofNat (c.toNat + 0x20) else c) (by decide +kernel) h
  rw [hlower]
  by_cases hcapital : 0x41 ≤ c.toNat ∧ c.toNat ≤ 0x5A
  · rw [if_pos hcapital, if_pos hcapital]
  · rw [if_neg hcapital, if_neg hcapital]

lemma exists_mem_small (h : 128 ≤ c.toNat) : ∃ d ∈ Text.small c, ¬MayStand d := by
  unfold Text.small
  split
  · exact ⟨'i', by simp, by unfold MayStand; decide⟩
  · split
    · rename_i found hfound
      refine ⟨_, List.mem_singleton_self _, ?_⟩
      obtain ⟨row, hmem, hfirst, hlast, rfl⟩ := inRows?_eq_some hfound
      obtain hascii | hbeyond | rfl := beyond_smallRows row hmem
      · omega
      · exact not_mayStand_ofNat (Nat.le_add_right_of_le hbeyond)
      · have hkelvin : c.toNat = 0x212A := Nat.le_antisymm hlast hfirst
        rw [hkelvin]
        unfold MayStand
        decide
    · rename_i hstays
      rw [← Char.ofNat_toNat c]
      exact ⟨_, List.mem_singleton_self _, not_mayStand_ofNat h⟩

lemma not_mayStand_smallSigma (behindLetter : Bool) (rest : List Char) :
    ¬MayStand (Text.smallSigma behindLetter rest) := by
  unfold Text.smallSigma MayStand
  split <;> decide

lemma lowerFrom_of_ascii (h : ∀ c ∈ text, c.toNat < 128) (behindLetter : Bool) :
    Text.lowerFrom behindLetter text = text.map Char.toLower := by
  induction text generalizing behindLetter with
  | nil => rfl
  | cons c rest ih =>
    rw [List.forall_mem_cons] at h
    have hsigma : c ≠ 'Σ' := by
      rintro rfl
      exact absurd h.1 (by decide)
    rw [Text.lowerFrom, if_neg hsigma, small_of_ascii h.1, ih h.2]
    rfl

/-- If nothing but parts of a colour stands in a text in small letters, it was ASCII before. -/
lemma ascii_of_lowerFrom {behindLetter : Bool}
    (h : ∀ c ∈ Text.lowerFrom behindLetter text, MayStand c) : ∀ c ∈ text, c.toNat < 128 := by
  induction text generalizing behindLetter with
  | nil => exact List.forall_mem_nil _
  | cons c rest ih =>
    rw [Text.lowerFrom, List.forall_mem_append] at h
    refine List.forall_mem_cons.mpr ⟨?_, ih h.2⟩
    by_contra hbeyond
    have hfound := h.1
    split at hfound
    · exact not_mayStand_smallSigma _ _ (hfound _ (List.mem_singleton_self _))
    · obtain ⟨d, hd, hnot⟩ := exists_mem_small (Nat.le_of_not_lt hbeyond)
      exact hnot (hfound d hd)

/-! ### Digits -/

lemma isPair_iff {high low : Char} {octet : UInt8} : IsPair high low octet ↔
    ∃ h l, value? high = some h ∧ value? low = some l ∧ octet = UInt8.ofNat (16 * h + l) := by
  have hlt : octet.toNat < 256 := octet.toNat_lt_size
  constructor
  · rintro ⟨hhigh, hlow⟩
    refine ⟨_, _, value?_eq_some_iff.mpr hhigh, value?_eq_some_iff.mpr hlow, ?_⟩
    rw [Nat.div_add_mod, UInt8.ofNat_toNat]
  · rintro ⟨h, l, hhigh, hlow, rfl⟩
    rw [value?_eq_some_iff] at hhigh hlow
    have hh := hhigh.1
    have hl := hlow.1
    rw [IsPair, UInt8.toNat_ofNat', Nat.mod_eq_of_lt (by omega)]
    rw [show (16 * h + l) / 16 = h by omega, show (16 * h + l) % 16 = l by omega]
    exact ⟨hhigh, hlow⟩

lemma mapM_value?_eq_some {values : List ℕ} :
    digits.mapM value? = some values ↔ List.Forall₂ (fun c v => value? c = some v) digits values := by
  induction digits generalizing values with
  | nil => simp [eq_comm]
  | cons c rest ih =>
    rw [List.mapM_cons, List.forall₂_cons_left_iff]
    simp only [Option.bind_eq_bind, Option.bind_eq_some_iff, Option.pure_def, Option.some.injEq, ih]
    constructor
    · rintro ⟨v, hv, later, hlater, rfl⟩
      exact ⟨v, later, hv, hlater, rfl⟩
    · rintro ⟨v, later, hv, hlater, rfl⟩
      exact ⟨v, hv, later, hlater, rfl⟩

lemma isSome_of_mapM {values : List ℕ} (h : digits.mapM value? = some values) :
    ∀ c ∈ digits, (value? c).isSome := by
  have hall := mapM_value?_eq_some.mp h
  clear h
  induction hall with
  | nil => exact List.forall_mem_nil _
  | cons hv hrest ih => exact List.forall_mem_cons.mpr ⟨Option.isSome_of_eq_some hv, ih⟩

/-- A digit stands for a pair of equal ones. -/
lemma isPair_self_iff {octet : UInt8} :
    IsPair c c octet ↔ ∃ v, value? c = some v ∧ octet = UInt8.ofNat (17 * v) := by
  rw [isPair_iff]
  constructor
  · rintro ⟨h, l, hh, hl, rfl⟩
    obtain rfl := Option.some.inj (hh.symm.trans hl)
    exact ⟨h, hh, congrArg UInt8.ofNat (by omega)⟩
  · rintro ⟨v, hv, rfl⟩
    exact ⟨v, v, hv, hv, congrArg UInt8.ofNat (by omega)⟩

lemma denotes_iff : Denotes digits colour ↔
    ∃ values, digits.mapM value? = some values ∧ ofDigits? values = some colour := by
  simp only [mapM_value?_eq_some]
  constructor
  · intro h
    cases h with
    | short hred hgreen hblue =>
      rw [isPair_self_iff] at hred hgreen hblue
      obtain ⟨r, hr, hred⟩ := hred
      obtain ⟨g, hg, hgreen⟩ := hgreen
      obtain ⟨b, hb, hblue⟩ := hblue
      refine ⟨[r, g, b], .cons hr (.cons hg (.cons hb .nil)), ?_⟩
      rw [ofDigits?, ← hred, ← hgreen, ← hblue]
    | long hred hgreen hblue =>
      rw [isPair_iff] at hred hgreen hblue
      obtain ⟨r, r', hr, hr', hred⟩ := hred
      obtain ⟨g, g', hg, hg', hgreen⟩ := hgreen
      obtain ⟨b, b', hb, hb', hblue⟩ := hblue
      refine ⟨[r, r', g, g', b, b'],
        .cons hr (.cons hr' (.cons hg (.cons hg' (.cons hb (.cons hb' .nil))))), ?_⟩
      rw [ofDigits?, ← hred, ← hgreen, ← hblue]
  · rintro ⟨values, hvalues, hcolour⟩
    unfold ofDigits? at hcolour
    split at hcolour
    · obtain rfl := Option.some.inj hcolour
      obtain _ | ⟨hr, _ | ⟨hg, _ | ⟨hb, ⟨⟩⟩⟩⟩ := hvalues
      exact .short (isPair_self_iff.mpr ⟨_, hr, rfl⟩) (isPair_self_iff.mpr ⟨_, hg, rfl⟩)
        (isPair_self_iff.mpr ⟨_, hb, rfl⟩)
    · obtain rfl := Option.some.inj hcolour
      obtain _ | ⟨hr, _ | ⟨hr', _ | ⟨hg, _ | ⟨hg', _ | ⟨hb, _ | ⟨hb', ⟨⟩⟩⟩⟩⟩⟩⟩ := hvalues
      exact .long (isPair_iff.mpr ⟨_, _, hr, hr', rfl⟩) (isPair_iff.mpr ⟨_, _, hg, hg', rfl⟩)
        (isPair_iff.mpr ⟨_, _, hb, hb', rfl⟩)
    · cases hcolour

/-! ### Marks -/

lemma eq_or_eq_append_dropStart (start text : List Char) :
    text = dropStart start text ∨ text = start ++ dropStart start text := by
  unfold dropStart
  split
  · rename_i h
    obtain ⟨rest, rfl⟩ := List.isPrefixOf_iff_prefix.mp h
    exact .inr (by rw [List.drop_left])
  · exact .inl rfl

lemma dropStart_append (start text : List Char) : dropStart start (start ++ text) = text := by
  rw [dropStart, if_pos (List.isPrefixOf_iff_prefix.mpr (List.prefix_append start text)),
    List.drop_left]

lemma dropStart_of_not_mem {start : List Char} (hmem : c ∈ start) (h : c ∉ text) :
    dropStart start text = text := by
  rw [dropStart, if_neg]
  exact fun hprefix => h ((List.isPrefixOf_iff_prefix.mp hprefix).subset hmem)

/-- What holds of some characters in rows is checked row by row. -/
lemma forall_rows {rows : List (List Char)} {P : Char → Prop} [DecidablePred P]
    (h : (rows.all fun row => row.all fun c => decide (P c)) = true) : ∀ row ∈ rows, ∀ c ∈ row, P c :=
  fun row hrow c hc => of_decide_eq_true (List.all_eq_true.mp (List.all_eq_true.mp h row hrow) c hc)

lemma exists_mark (text : List Char) : ∃ mark ∈ smallMarks, text = mark ++ unmarked text := by
  unfold unmarked
  obtain h | h := eq_or_eq_append_dropStart ['#'] text
  · obtain h' | h' := eq_or_eq_append_dropStart ['0', 'x'] (dropStart ['#'] text)
    · exact ⟨[], by decide, h.trans h'⟩
    · exact ⟨['0', 'x'], by decide, h.trans h'⟩
  · obtain h' | h' := eq_or_eq_append_dropStart ['0', 'x'] (dropStart ['#'] text)
    · exact ⟨['#'], by decide, h.trans (congrArg _ h')⟩
    · exact ⟨['#', '0', 'x'], by decide, h.trans (congrArg _ h')⟩

lemma unmarked_append {mark : List Char} (hmark : mark ∈ smallMarks)
    (h : ∀ c ∈ digits, (value? c).isSome) : unmarked (mark ++ digits) = digits := by
  have hhash : '#' ∉ digits := fun hmem => absurd (h _ hmem) (by decide)
  have hx : 'x' ∉ digits := fun hmem => absurd (h _ hmem) (by decide)
  have hbase : dropStart ['0', 'x'] digits = digits := dropStart_of_not_mem (by simp) hx
  have hwithout : '#' ∉ ['0', 'x'] ++ digits := by simp [hhash]
  unfold unmarked
  simp only [smallMarks, List.mem_cons, List.not_mem_nil, or_false] at hmark
  obtain rfl | rfl | rfl | rfl := hmark
  · rw [List.nil_append, dropStart_of_not_mem (List.mem_singleton_self _) hhash, hbase]
  · rw [dropStart_append, hbase]
  · rw [dropStart_of_not_mem (List.mem_singleton_self _) hwithout, dropStart_append]
  · rw [show ['#', '0', 'x'] ++ digits = ['#'] ++ (['0', 'x'] ++ digits) from rfl, dropStart_append,
      dropStart_append]

/-- Which characters become parts of a mark. -/
lemma eq_of_toLower (h : c.toNat < 128) : (c.toLower = '#' → c = '#') ∧
    (c.toLower = '0' → c = '0') ∧ (c.toLower = 'x' → c = 'x' ∨ c = 'X') :=
  forall_ascii (P := fun c => (c.toLower = '#' → c = '#') ∧ (c.toLower = '0' → c = '0') ∧
    (c.toLower = 'x' → c = 'x' ∨ c = 'X')) (by decide +kernel) h

lemma mem_marks {mark : List Char} (hascii : ∀ c ∈ mark, c.toNat < 128)
    (h : mark.map Char.toLower ∈ smallMarks) : mark ∈ marks := by
  have hcases := fun c hc => eq_of_toLower (hascii c hc)
  simp only [smallMarks, List.mem_cons, List.not_mem_nil, or_false] at h
  obtain h | h | h | h := h
  · rw [List.map_eq_nil_iff.mp h]
    decide
  · obtain ⟨a, rfl, ha⟩ := List.map_eq_singleton_iff.mp h
    obtain rfl := (hcases a (by simp)).1 ha
    decide
  · obtain ⟨a, others, rfl, ha, h⟩ := List.map_eq_cons_iff.mp h
    obtain ⟨b, rfl, hb⟩ := List.map_eq_singleton_iff.mp h
    obtain rfl := (hcases a (by simp)).2.1 ha
    obtain rfl | rfl := (hcases b (by simp)).2.2 hb <;> decide
  · obtain ⟨a, others, rfl, ha, h⟩ := List.map_eq_cons_iff.mp h
    obtain ⟨b, others, rfl, hb, h⟩ := List.map_eq_cons_iff.mp h
    obtain ⟨d, rfl, hd⟩ := List.map_eq_singleton_iff.mp h
    obtain rfl := (hcases a (by simp)).1 ha
    obtain rfl := (hcases b (by simp)).2.1 hb
    obtain rfl | rfl := (hcases d (by simp)).2.2 hd <;> decide

/-! ### Reading -/

lemma mapM_toLower (h : ∀ c ∈ digits, c.toNat < 128) :
    (digits.map Char.toLower).mapM value? = digits.mapM value? := by
  induction digits with
  | nil => rfl
  | cons c rest ih =>
    rw [List.forall_mem_cons] at h
    have hsame : value? c.toLower = value? c :=
      forall_ascii (P := fun c => value? c.toLower = value? c) (by decide +kernel) h.1
    rw [List.map_cons, List.mapM_cons, List.mapM_cons, hsame, ih h.2]

lemma colourOfText?_eq (text : List Char) : Colour.ofText? text =
    ((unmarked (Text.lower (Text.strip text))).mapM value?).bind ofDigits? := rfl

lemma names_of_ofText? (h : Colour.ofText? text = some colour) : Names text colour := by
  rw [colourOfText?_eq] at h
  obtain ⟨values, hvalues, hcolour⟩ := Option.bind_eq_some_iff.mp h
  obtain ⟨small, hsmall, hbody⟩ := exists_mark (Text.lower (Text.strip text))
  have hmarks : ∀ mark ∈ smallMarks, ∀ c ∈ mark, MayStand c := forall_rows (by decide)
  have hmay : ∀ c ∈ Text.lower (Text.strip text), MayStand c := by
    rw [hbody, List.forall_mem_append]
    exact ⟨hmarks small hsmall, fun c hc => .inl (isSome_of_mapM hvalues c hc)⟩
  -- so no other script was used, and small letters are those of ASCII
  have hascii := ascii_of_lowerFrom hmay
  have hlower : (Text.strip text).map Char.toLower = small ++ unmarked (Text.lower (Text.strip text)) :=
    (lowerFrom_of_ascii hascii false).symm.trans hbody
  obtain ⟨mark, digits, hcore, hmark, hdigits⟩ := List.map_eq_append_iff.mp hlower
  have hstrips := strips_strip text
  rw [hcore] at hstrips hascii
  rw [List.forall_mem_append] at hascii
  have hdigitsRead : digits.mapM value? = some values := by
    rw [← mapM_toLower hascii.2, hdigits, hvalues]
  exact ⟨mark, mem_marks hascii.1 (hmark ▸ hsmall), digits, hstrips,
    denotes_iff.mpr ⟨values, hdigitsRead, hcolour⟩⟩

lemma ofText?_of_names (h : Names text colour) : Colour.ofText? text = some colour := by
  obtain ⟨mark, hmark, digits, hstrips, hdenotes⟩ := h
  obtain ⟨values, hvalues, hcolour⟩ := denotes_iff.mp hdenotes
  have hmarkAscii : ∀ mark ∈ marks, ∀ c ∈ mark, c.toNat < 128 := forall_rows (by decide)
  have hdigitsAscii : ∀ c ∈ digits, c.toNat < 128 := by
    intro c hc
    obtain ⟨value, hvalue⟩ := Option.isSome_iff_exists.mp (isSome_of_mapM hvalues c hc)
    exact lt_of_value? hvalue
  have hlower : Text.lower (mark ++ digits) = mark.map Char.toLower ++ digits.map Char.toLower := by
    rw [Text.lower, lowerFrom_of_ascii (List.forall_mem_append.mpr ⟨hmarkAscii mark hmark, hdigitsAscii⟩),
      List.map_append]
  have hsmall : ∀ mark ∈ marks, mark.map Char.toLower ∈ smallMarks := by decide
  have hread : (digits.map Char.toLower).mapM value? = some values :=
    (mapM_toLower hdigitsAscii).trans hvalues
  rw [colourOfText?_eq, strip_of_strips hstrips, hlower,
    unmarked_append (hsmall mark hmark) (isSome_of_mapM hread), hread]
  exact hcolour

lemma colourOfText?_eq_some_iff : Colour.ofText? text = some colour ↔ Names text colour :=
  ⟨names_of_ofText?, ofText?_of_names⟩

/-! ### Writing -/

lemma isPair_ofOctet (octet : UInt8) {digitOf : ℕ → Char}
    (h : ∀ value < 16, IsDigit (digitOf value) value) :
    IsPair (digitOf (octet.toNat / 16)) (digitOf (octet.toNat % 16)) octet := by
  have hlt : octet.toNat < 256 := octet.toNat_lt_size
  exact ⟨h _ (by omega), h _ (by omega)⟩

lemma denotes_flatMap (colour : Colour) {digitOf : ℕ → Char}
    (h : ∀ value < 16, IsDigit (digitOf value) value) :
    Denotes (colour.toOctets.flatMap (ofOctet digitOf)) colour :=
  .long (isPair_ofOctet _ h) (isPair_ofOctet _ h) (isPair_ofOctet _ h)

/-- The six digits of a colour in either case. -/
lemma denotes_written (colour : Colour) :
    ∀ written ∈ [Hex.encode colour.toOctets, Hex.encodeUpper colour.toOctets],
      Denotes written.toList colour := by
  simp only [List.mem_cons, List.not_mem_nil, or_false, forall_eq_or_imp, forall_eq, Hex.encode,
    Hex.encodeUpper, String.toList_ofList]
  exact ⟨denotes_flatMap colour fun value hlt => ⟨hlt, .inl rfl⟩,
    denotes_flatMap colour fun value hlt => isDigit_upperDigit hlt⟩

/-- There is no white space in the digits of a colour and the mark in front of them. -/
lemma names_append {mark : List Char} (hmark : mark ∈ marks) (h : Denotes digits colour) :
    Names (mark ++ digits) colour := by
  obtain ⟨values, hvalues, -⟩ := denotes_iff.mp h
  have hblank : ∀ mark ∈ marks, ∀ c ∈ mark, Text.isBlank c = false := forall_rows (by decide)
  refine ⟨mark, hmark, digits, strips_self (List.forall_mem_append.mpr ⟨hblank mark hmark, ?_⟩), h⟩
  intro c hc
  have hsome := isSome_of_mapM hvalues c hc
  obtain ⟨value, hvalue⟩ := Option.isSome_iff_exists.mp hsome
  exact forall_ascii (P := fun c => (value? c).isSome → Text.isBlank c = false) (by decide +kernel)
    (lt_of_value? hvalue) hsome

/-! ### Showing -/

lemma isColour_toInts (colour : Colour) : IsColour colour.toInts := by
  have hlt : ∀ component : UInt8, component.toNat < 256 := fun component => component.toNat_lt_size
  have hred := hlt colour.red
  have hgreen := hlt colour.green
  have hblue := hlt colour.blue
  refine ⟨rfl, ?_⟩
  simp only [Colour.toInts, List.mem_cons, List.not_mem_nil, or_false, forall_eq_or_imp, forall_eq]
  omega

lemma encode_ok_iff {command : Command} (h : IsDated command) :
    (∃ octets, command.encode = .ok octets) ↔ Acceptable command := by
  obtain ⟨payload, hacceptable, hok, -⟩ | ⟨refusal, hnot, herror, -⟩ := encode_cases h
  · exact iff_of_true ⟨_, hok⟩ hacceptable
  · refine iff_of_false ?_ hnot
    rintro ⟨octets, hok⟩
    cases herror.symm.trans hok

/-- A text is read as a colour exactly if it names this colour, and refused if it names none. The
components of a colour are octets, so that clock and lamp take every colour, and a colour is read again
from its six digits behind each of the marks. -/
theorem colours_read_back :
    (∀ text colour, Colour.ofText? text = some colour ↔ Names text colour) ∧
    (∀ text, Colour.ofText? text = none ↔ ¬∃ colour, Names text colour) ∧
    ∀ colour : Colour,
      (∀ component ∈ colour.toInts, 0 ≤ component ∧ component ≤ 255) ∧
      (∀ face : ClockFace, (∃ octets, (Command.showClock { face with colour := colour.toInts }).encode =
        .ok octets) ↔ face.style ∈ clockStyles.names) ∧
      (∀ style brightness, (∃ octets, (Command.showLight style colour.toInts brightness).encode =
        .ok octets) ↔ (0 ≤ brightness ∧ brightness ≤ 100) ∧ style ∈ lightStyles.names) ∧
      ∀ mark ∈ marks, ∀ written ∈ [Hex.encode colour.toOctets, Hex.encodeUpper colour.toOctets],
        Colour.ofText? (mark ++ written.toList) = some colour := by
  refine ⟨fun _ _ => colourOfText?_eq_some_iff, fun text => ?_, fun colour => ⟨?_, ?_, ?_, ?_⟩⟩
  · simp only [Option.eq_none_iff_forall_ne_some, ne_eq, colourOfText?_eq_some_iff, not_exists]
  · exact (isColour_toInts colour).2
  · intro face
    refine (encode_ok_iff ?_).trans (and_iff_left (isColour_toInts colour))
    trivial
  · intro style brightness
    refine (encode_ok_iff ?_).trans (and_congr_right fun _ => and_iff_left (isColour_toInts colour))
    trivial
  · intro mark hmark written hwritten
    exact colourOfText?_eq_some_iff.mpr (names_append hmark (denotes_written colour written hwritten))

/-- Digits of both cases, a capital in the mark, and white space of other scripts. -/
def oddColour : List Char := "\u2003#0Xa1C\x1f".toList

/-- Besides it, there are texts that look like colours: a mark with one digit behind it, marks in the
wrong order, digits of another script, and a capital whose small form is longer. -/
theorem colours_read_back_odd :
    let colour : Colour := ⟨0xaa, 0x11, 0xcc⟩
    Names oddColour colour ∧ Colour.ofText? oddColour = some colour ∧
      (∀ text ∈ ["0x1", "0x#fff", "\uff11\uff12\uff13", "\u0130ff"],
        ¬∃ colour, Names text.toList colour) ∧
      (∃ octets, (Command.showClock { style := "BOXED", colour := colour.toInts }).encode = .ok octets) ∧
      ['#', '0', 'X'] ∈ marks ∧ Colour.ofText? ("#0Xaa11cc".toList) = some colour := by
  intro colour
  obtain ⟨hread, hrefused, hall⟩ := colours_read_back
  obtain ⟨-, hclock, -, hagain⟩ := hall colour
  have hodd : Colour.ofText? oddColour = some colour := by decide +kernel
  have hnone : ∀ text ∈ ["0x1", "0x#fff", "\uff11\uff12\uff13", "\u0130ff"],
      Colour.ofText? text.toList = none := by decide +kernel
  refine ⟨(hread _ _).mp hodd, hodd, fun text hmem => (hrefused _).mp (hnone text hmem),
    (hclock { style := "BOXED" }).mpr (by decide), by decide, ?_⟩
  have hwritten : "#0Xaa11cc".toList = ['#', '0', 'X'] ++ (Hex.encode colour.toOctets).toList := by
    decide +kernel
  rw [hwritten]
  exact hagain _ (by decide) _ List.mem_cons_self

end PixelPanel.Proofs
