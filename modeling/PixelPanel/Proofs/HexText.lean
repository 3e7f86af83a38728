import Mathlib.Data.List.Basic
import PixelPanel.Hex

/-!
# Hexadecimal text

What is read as octets is a row of pairs of digits, with white space before, between and after the pairs.
So octets that are written can be read back.
-/

namespace PixelPanel.Hex

/-- The white space of ASCII. -/
def blanks : List Char := [' ', '\t', '\n', '\x0b', '\x0c', '\r']

/-- A character is the digit for a value in one of the two cases. -/
def IsDigit (c : Char) (value : ℕ) : Prop :=
  value < 16 ∧ (c = digit value ∨ c = upperDigit value)

/-- A text spells octets: two digits for each of them, the higher one first, and white space before,
between and after these pairs. -/
inductive Spells : List Char → Octets → Prop
  | nothing {text : List Char} (hblanks : ∀ c ∈ text, c ∈ blanks) : Spells text []
  | pair {front text : List Char} {high low : Char} {octet : UInt8} {octets : Octets}
    (hblanks : ∀ c ∈ front, c ∈ blanks) (hhigh : IsDigit high (octet.toNat / 16))
    (hlow : IsDigit low (octet.toNat % 16)) (hrest : Spells text octets) :
    Spells (front ++ high :: low :: text) (octet :: octets)

end PixelPanel.Hex

namespace PixelPanel.Proofs
open Hex

variable {c : Char} {text : List Char} {octets : Octets} {value : ℕ}

/-! ### Characters -/

/-- What holds of the characters of ASCII one by one holds of each of them. -/
lemma forall_ascii {P : Char → Prop} (h : ∀ n < 128, P (Char.ofNat n)) (hlt : c.toNat < 128) : P c := by
  have hc := h c.toNat hlt
  rwa [Char.ofNat_toNat] at hc

lemma isBlank_iff : Hex.isBlank c = true ↔ c ∈ blanks := by
  by_cases hlt : c.toNat < 128
  · exact forall_ascii (P := fun c => Hex.isBlank c = true ↔ c ∈ blanks) (by decide +kernel) hlt
  · refine iff_of_false (fun hblank => hlt ?_) (fun hmem => hlt ?_)
    · simp only [Hex.isBlank, decide_eq_true_eq, Char.le_def, UInt32.le_iff_toNat_le] at hblank
      obtain rfl | ⟨-, hle⟩ := hblank
      · decide
      · exact Nat.lt_of_le_of_lt hle (by decide)
    · simp only [blanks, List.mem_cons, List.not_mem_nil, or_false] at hmem
      rcases hmem with rfl | rfl | rfl | rfl | rfl | rfl <;> decide

instance (c : Char) (value : ℕ) : Decidable (IsDigit c value) :=
  inferInstanceAs (Decidable (_ ∧ _))

/-- A digit of either case is no white space and has its value. -/
lemma value?_digit : ∀ value < 16, ∀ digitOf ∈ [digit, upperDigit],
    Hex.isBlank (digitOf value) = false ∧ value? (digitOf value) = some value := by
  decide +kernel

lemma not_blank_of_isDigit (h : IsDigit c value) : Hex.isBlank c = false := by
  obtain ⟨hlt, rfl | rfl⟩ := h
  · exact (value?_digit value hlt digit (by simp)).1
  · exact (value?_digit value hlt upperDigit (by simp)).1

lemma lt_of_value? (h : value? c = some value) : c.toNat < 128 := by
  have hbound : ∀ last : Char, last.toNat < 128 → c ≤ last → c.toNat < 128 :=
    fun last hlast hle => Nat.lt_of_le_of_lt (UInt32.le_iff_toNat_le.mp hle) hlast
  unfold value? at h
  split at h
  · rename_i hrange
    exact hbound '9' (by decide) hrange.2
  · split at h
    · rename_i hrange
      exact hbound 'f' (by decide) hrange.2
    · split at h
      · rename_i hrange
        exact hbound 'F' (by decide) hrange.2
      · cases h

lemma value?_eq_some_iff : value? c = some value ↔ IsDigit c value := by
  constructor
  · intro h
    have hdigit := forall_ascii (P := fun c => ∀ value ∈ value? c, IsDigit c value)
      (by decide +kernel) (lt_of_value? h)
    exact hdigit value h
  · rintro ⟨hlt, rfl | rfl⟩
    · exact (value?_digit value hlt digit (by simp)).2
    · exact (value?_digit value hlt upperDigit (by simp)).2

/-! ### Rows of pairs -/

lemma decode_blank (hblank : c ∈ blanks) : decode (c :: text) = decode text := by
  cases text <;> simp [decode, isBlank_iff.mpr hblank]

lemma decode_blanks_append {front : List Char} (h : ∀ c ∈ front, c ∈ blanks) :
    decode (front ++ text) = decode text := by
  induction front with
  | nil => rfl
  | cons c rest ih =>
    rw [List.forall_mem_cons] at h
    rw [List.cons_append, decode_blank h.1, ih h.2]

lemma decode_pair {high low : Char} {octet : UInt8} (hhigh : IsDigit high (octet.toNat / 16))
    (hlow : IsDigit low (octet.toNat % 16)) :
    decode (high :: low :: text) = (decode text).map (octet :: ·) := by
  have hoctet : UInt8.ofNat (16 * (octet.toNat / 16) + octet.toNat % 16) = octet := by
    rw [Nat.div_add_mod, UInt8.ofNat_toNat]
  rw [decode, not_blank_of_isDigit hhigh]
  simp only [Bool.false_eq_true, if_false, value?_eq_some_iff.mpr hhigh,
    value?_eq_some_iff.mpr hlow, hoctet]

lemma decode_of_spells (h : Spells text octets) : decode text = some octets := by
  induction h with
  | @nothing text hblanks =>
    rw [← List.append_nil text, decode_blanks_append hblanks, decode]
  | pair hblanks hhigh hlow hrest ih =>
    rw [decode_blanks_append hblanks, decode_pair hhigh hlow, ih, Option.map_some]

lemma spells_blank (hblank : c ∈ blanks) (h : Spells text octets) : Spells (c :: text) octets := by
  cases h with
  | nothing hblanks => exact .nothing (List.forall_mem_cons.mpr ⟨hblank, hblanks⟩)
  | @pair front _ _ _ _ _ hblanks hhigh hlow hrest =>
    exact @Spells.pair (c :: front) _ _ _ _ _ (List.forall_mem_cons.mpr ⟨hblank, hblanks⟩) hhigh hlow
      hrest

lemma spells_of_decode (h : decode text = some octets) : Spells text octets := by
  fun_induction decode text generalizing octets with
  | case1 =>
    obtain rfl := Option.some.inj h
    exact .nothing (List.forall_mem_nil _)
  | case2 c rest hblank ih => exact spells_blank (isBlank_iff.mp hblank) (ih h)
  | case3 c hblank => cases h
  | case4 c hblank d rest high low hhigh hlow ih =>
    obtain ⟨later, hlater, rfl⟩ := Option.map_eq_some_iff.mp h
    rw [value?_eq_some_iff] at hhigh hlow
    have hlt := hhigh.1
    have hlt' := hlow.1
    have hvalue : (UInt8.ofNat (16 * high + low)).toNat = 16 * high + low := by
      rw [UInt8.toNat_ofNat']
      omega
    refine @Spells.pair [] _ _ _ _ _ (List.forall_mem_nil _) ?_ ?_ (ih hlater)
    · rwa [hvalue, show (16 * high + low) / 16 = high by omega]
    · rwa [hvalue, show (16 * high + low) % 16 = low by omega]
  | case5 => cases h

/-- Reading finds exactly the octets that a text spells. -/
theorem decode_eq_some_iff : decode text = some octets ↔ Spells text octets :=
  ⟨spells_of_decode, decode_of_spells⟩

/-! ### Writing -/

lemma isDigit_upperDigit (h : value < 16) : IsDigit (upperDigit value) value :=
  ⟨h, .inr rfl⟩

lemma spells_flatMap_upperDigit (octets : Octets) :
    Spells (octets.flatMap (ofOctet upperDigit)) octets := by
  induction octets with
  | nil => exact .nothing (List.forall_mem_nil _)
  | cons octet rest ih =>
    have hlt : octet.toNat < 256 := octet.toNat_lt_size
    exact @Spells.pair [] _ _ _ _ _ (List.forall_mem_nil _) (isDigit_upperDigit (by omega))
      (isDigit_upperDigit (by omega)) ih

lemma decode_encodeUpper (octets : Octets) :
    Hex.decode (Hex.encodeUpper octets).toList = some octets := by
  rw [Hex.encodeUpper, String.toList_ofList]
  exact decode_of_spells (spells_flatMap_upperDigit octets)

end PixelPanel.Proofs
