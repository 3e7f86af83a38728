import Mathlib.Tactic.Lemma
import Mathlib.Tactic.Ring
import Mathlib.Data.Nat.Bitwise
import PixelPanel.Raster.Indices

/-!
# The stream of indices as one number

Packing writes each index at a cursor, with `or` into at most two octets. Bit by bit this is the sum
of the indices, each shifted by the bits before it, so the packed octets are those of one number. What
`unpack` reads are the digits of this number.
-/

namespace PixelPanel.Proofs
open Raster

/-- The number that indices of `width` bits stand for, the first of them in its low bits. -/
def streamNumber (width : ℕ) : List ℕ → ℕ
  | [] => 0
  | index :: rest => 2 ^ width * streamNumber width rest + index

/-- A bit of a string of octets, counted from the low bit of the first octet. -/
def bitAt (octets : Octets) (place : ℕ) : Bool :=
  (octets.getD (place / 8) 0).toNat.testBit (place % 8)

variable {octets other : Octets} {count width n : ℕ} {indices : List ℕ}

/-! ### Octets and their bits -/

lemma length_ofNumber (count n : ℕ) : (Octets.ofNumber count n).length = count := by
  induction count generalizing n with
  | zero => rfl
  | succ count ih => rw [Octets.ofNumber, List.length_cons, ih]

lemma toNumber_ofNumber (count n : ℕ) :
    Octets.toNumber (Octets.ofNumber count n) = n % 256 ^ count := by
  induction count generalizing n with
  | zero => rw [Octets.ofNumber, Octets.toNumber, pow_zero, Nat.mod_one]
  | succ count ih =>
    have hmod : n % 256 ^ (count + 1) = n % 256 + 256 * (n / 256 % 256 ^ count) := by
      rw [pow_succ', Nat.mod_mul]
    rw [Octets.ofNumber, Octets.toNumber, ih, UInt8.toNat_ofNat', hmod]

lemma bitAt_ofNumber (count n place : ℕ) :
    bitAt (Octets.ofNumber count n) place = (decide (place < 8 * count) && n.testBit place) := by
  induction count generalizing n place with
  | zero => simp [bitAt, Octets.ofNumber]
  | succ count ih =>
    by_cases hlt : place < 8
    · have hquot : place / 8 = 0 := by omega
      have hrest : place % 8 = place := by omega
      have hin : place < 8 * (count + 1) := by omega
      rw [bitAt, Octets.ofNumber, hquot, hrest, List.getD_cons_zero, UInt8.toNat_ofNat',
        Nat.testBit_mod_two_pow]
      simp [hlt, hin]
    · -- the bit lies in the octets behind the first one
      obtain ⟨rest, rfl⟩ := Nat.exists_eq_add_of_le (Nat.le_of_not_lt hlt)
      have hquot : (8 + rest) / 8 = rest / 8 + 1 := by omega
      have hrest : (8 + rest) % 8 = rest % 8 := by omega
      have hin : 8 + rest < 8 * (count + 1) ↔ rest < 8 * count := by omega
      have hdiv : (n / 256).testBit rest = n.testBit (8 + rest) := by
        rw [show (256 : ℕ) = 2 ^ 8 from rfl, Nat.testBit_div_two_pow, Nat.add_comm]
      rw [decide_eq_decide.mpr hin, ← hdiv, ← ih, bitAt, bitAt, Octets.ofNumber, hquot, hrest,
        List.getD_cons_succ]

lemma octet_eq_of_testBit {octet found : UInt8}
    (h : ∀ bit < 8, octet.toNat.testBit bit = found.toNat.testBit bit) : octet = found := by
  apply UInt8.toNat_inj.mp
  apply Nat.eq_of_testBit_eq
  intro bit
  by_cases hlt : bit < 8
  · exact h bit hlt
  · have hbound : ∀ octet : UInt8, octet.toNat.testBit bit = false := by
      intro octet
      refine Nat.testBit_lt_two_pow (octet.toNat_lt.trans_le ?_)
      exact Nat.pow_le_pow_right (by omega) (Nat.le_of_not_lt hlt)
    rw [hbound, hbound]

/-- Octets are determined by their bits. -/
lemma octets_ext (hlength : octets.length = other.length)
    (h : ∀ place < 8 * octets.length, bitAt octets place = bitAt other place) : octets = other := by
  refine List.ext_getElem hlength fun i hi hother => octet_eq_of_testBit fun bit hbit => ?_
  have hbits := h (8 * i + bit) (by omega)
  have hquot : (8 * i + bit) / 8 = i := by omega
  have hrest : (8 * i + bit) % 8 = bit := by omega
  rwa [bitAt, bitAt, hquot, hrest, List.getD_eq_getElem _ _ hi, List.getD_eq_getElem _ _ hother]
    at hbits

lemma length_setBits (octets : Octets) (place : ℕ) (bits : UInt8) :
    (Indices.setBits octets place bits).length = octets.length :=
  List.length_modify ..

lemma bitAt_setBits (bits : UInt8) {place : ℕ} (hplace : place < octets.length) (i : ℕ) :
    bitAt (Indices.setBits octets place bits) i =
      (bitAt octets i || (decide (i / 8 = place) && bits.toNat.testBit (i % 8))) := by
  rw [bitAt, bitAt, Indices.setBits, List.getD_eq_getElem?_getD, List.getD_eq_getElem?_getD,
    List.getElem?_modify]
  by_cases heq : place = i / 8
  · subst heq
    rw [List.getElem?_eq_getElem hplace]
    simp
  · simp [heq, Ne.symm heq]

/-! ### Writing at the cursor -/

lemma ofInt_natCast (n : ℕ) : Octets.ofInt n = UInt8.ofNat n := by
  have hmod : ((n : ℤ) % 256).toNat = n % 256 := by omega
  apply UInt8.toNat_inj.mp
  rw [Octets.ofInt, hmod, UInt8.toNat_ofNat', UInt8.toNat_ofNat', Nat.mod_mod]

section Cursor

variable {place offset index : ℕ}

/-- An index that is added at a free place of a number leaves the bits before this place alone. -/
lemma bitAt_ofNumber_add (hn : n < 2 ^ (8 * place + offset)) {i : ℕ} (hi : i < 8 * count) :
    bitAt (Octets.ofNumber count (2 ^ (8 * place + offset) * index + n)) i =
      (bitAt (Octets.ofNumber count n) i ||
        (decide (8 * place + offset ≤ i) && index.testBit (i - (8 * place + offset)))) := by
  rw [bitAt_ofNumber, bitAt_ofNumber, Nat.testBit_two_pow_mul_add _ hn]
  by_cases hle : 8 * place + offset ≤ i
  · have hfree : n.testBit i = false :=
      Nat.testBit_lt_two_pow (hn.trans_le (Nat.pow_le_pow_right (by omega) hle))
    simp [hi, hle, hfree, Nat.not_lt.mpr hle]
  · simp [hi, hle, Nat.lt_of_not_le hle]

/-- The bits of an index that fit into the octet of the cursor. -/
lemma testBit_low (i : ℕ) :
    (decide (i / 8 = place) && (UInt8.ofNat (index * 2 ^ offset)).toNat.testBit (i % 8)) =
      (decide (i / 8 = place) && (decide (8 * place + offset ≤ i) &&
        index.testBit (i - (8 * place + offset)))) := by
  by_cases heq : i / 8 = place
  · have hbit : i % 8 < 8 := by omega
    have hle : offset ≤ i % 8 ↔ 8 * place + offset ≤ i := by omega
    have hsub : i % 8 - offset = i - (8 * place + offset) := by omega
    rw [UInt8.toNat_ofNat', Nat.testBit_mod_two_pow, Nat.testBit_mul_two_pow, hsub,
      decide_eq_true hbit, Bool.true_and, decide_eq_decide.mpr hle]
  · simp [heq]

/-- The bits of an index that spill into the octet behind the cursor. -/
lemma testBit_high (hoffset : offset ≤ 8) (i : ℕ) :
    (decide (i / 8 = place + 1) &&
        (UInt8.ofNat (index / 2 ^ (8 - offset))).toNat.testBit (i % 8)) =
      (decide (i / 8 = place + 1) && (decide (8 * place + offset ≤ i) &&
        index.testBit (i - (8 * place + offset)))) := by
  by_cases heq : i / 8 = place + 1
  · have hbit : i % 8 < 8 := by omega
    have hle : 8 * place + offset ≤ i := by omega
    have hsub : i % 8 + (8 - offset) = i - (8 * place + offset) := by omega
    rw [UInt8.toNat_ofNat', Nat.testBit_mod_two_pow, Nat.testBit_div_two_pow, hsub,
      decide_eq_true hbit, decide_eq_true hle]
  · simp [heq]

/-- An index that is written at a free place of a number is added to it at this place. -/
lemma write_ofNumber (hwidth : width ≤ 8) (hpos : 0 < width) (hindex : index < 2 ^ width)
    (hoffset : offset ≤ 8) (hn : n < 2 ^ (8 * place + offset))
    (hroom : 8 * place + offset + width ≤ 8 * count) :
    Indices.write (Octets.ofNumber count n) place offset index =
      .ok (Octets.ofNumber count (2 ^ (8 * place + offset) * index + n)) := by
  have hlow : Octets.ofInt (index * Nat.pow 2 offset) = UInt8.ofNat (index * 2 ^ offset) := by
    rw [← ofInt_natCast]
    rfl
  have hhigh : Octets.ofInt (index / Nat.pow 2 (8 - offset)) =
      UInt8.ofNat (index / 2 ^ (8 - offset)) := by
    rw [← ofInt_natCast]
    rfl
  have hplace : place < (Octets.ofNumber count n).length := by
    rw [length_ofNumber]
    omega
  rw [Indices.write, if_neg (Nat.not_le.mpr hplace), hlow, hhigh]
  dsimp only
  rw [length_setBits, length_ofNumber]
  split
  · -- the index ends in the last octet
    rename_i hlast
    refine congrArg Except.ok (octets_ext ?_ fun i hi => ?_)
    · rw [length_setBits, length_ofNumber, length_ofNumber]
    · rw [length_setBits, length_ofNumber] at hi
      rw [bitAt_ofNumber_add hn hi, bitAt_setBits _ hplace, testBit_low]
      by_cases heq : i / 8 = place
      · simp [heq]
      · have hbefore : ¬8 * place + offset ≤ i := by omega
        simp [heq, hbefore]
  · rename_i hnext
    rw [if_neg (by omega)]
    refine congrArg Except.ok (octets_ext ?_ fun i hi => ?_)
    · rw [length_setBits, length_setBits, length_ofNumber, length_ofNumber]
    · rw [length_setBits, length_setBits, length_ofNumber] at hi
      have hsecond : place + 1 < (Indices.setBits (Octets.ofNumber count n) place
          (UInt8.ofNat (index * 2 ^ offset))).length := by
        rw [length_setBits, length_ofNumber]
        omega
      rw [bitAt_ofNumber_add hn hi, bitAt_setBits _ hsecond, bitAt_setBits _ hplace,
        testBit_low, testBit_high hoffset, Bool.or_assoc]
      congr 1
      by_cases hfirst : i / 8 = place
      · simp [hfirst]
      · by_cases hspill : i / 8 = place + 1
        · simp [hspill]
        · -- beyond both octets the index has no bits
          have hnone : (decide (8 * place + offset ≤ i) &&
              index.testBit (i - (8 * place + offset))) = false := by
            by_cases hle : 8 * place + offset ≤ i
            · have hbeyond : width ≤ i - (8 * place + offset) := by omega
              have hbits := Nat.testBit_lt_two_pow
                (hindex.trans_le (Nat.pow_le_pow_right Nat.two_pos hbeyond))
              rw [hbits, Bool.and_false]
            · simp [hle]
          simp [hfirst, hspill, hnone]

end Cursor

/-! ### Packing -/

lemma streamNumber_lt (h : ∀ index ∈ indices, index < 2 ^ width) :
    streamNumber width indices < 2 ^ (width * indices.length) := by
  induction indices with
  | nil => exact Nat.one_pos
  | cons index rest ih =>
    have hindex := h index List.mem_cons_self
    have hrest := ih fun other hmem => h other (List.mem_cons_of_mem _ hmem)
    rw [streamNumber, List.length_cons, Nat.mul_succ, Nat.pow_add, Nat.mul_comm (2 ^ _) (2 ^ width)]
    calc 2 ^ width * streamNumber width rest + index
        < 2 ^ width * (streamNumber width rest + 1) := by
          rw [Nat.mul_succ]
          omega
      _ ≤ 2 ^ width * 2 ^ (width * rest.length) := Nat.mul_le_mul_left _ hrest

/-- The number of a stream fits into its octets. -/
lemma streamNumber_lt_octets (h : ∀ index ∈ indices, index < 2 ^ width) :
    streamNumber width indices < 256 ^ ((width * indices.length + 7) / 8) := by
  refine (streamNumber_lt h).trans_le ?_
  rw [show (256 : ℕ) = 2 ^ 8 from rfl, ← pow_mul]
  exact Nat.pow_le_pow_right (by omega) (by omega)

/-- From a cursor on, the indices are added at the bits behind it. -/
lemma packFrom_ofNumber (hwidth : width ≤ 8) (hpos : 0 < width) {place offset : ℕ}
    (hindices : ∀ index ∈ indices, index < 2 ^ width) (hoffset : offset ≤ 8)
    (hn : n < 2 ^ (8 * place + offset))
    (hroom : 8 * place + offset + width * indices.length ≤ 8 * count) :
    Indices.packFrom width (Octets.ofNumber count n) place offset (indices.map Nat.cast) =
      .ok (Octets.ofNumber count (2 ^ (8 * place + offset) * streamNumber width indices + n)) := by
  induction indices generalizing n place offset with
  | nil => rw [List.map_nil, Indices.packFrom, streamNumber, Nat.mul_zero, Nat.zero_add]
  | cons index rest ih =>
    have hindex := hindices index List.mem_cons_self
    have hrest : ∀ other ∈ rest, other < 2 ^ width := fun other hmem =>
      hindices other (List.mem_cons_of_mem _ hmem)
    rw [List.length_cons, Nat.mul_succ] at hroom
    have hwrite := @write_ofNumber count width n place offset index hwidth hpos hindex hoffset hn
      (by omega)
    -- the cursor has moved by the width of the index, whatever octet it is in now
    have hbelow : 2 ^ (8 * place + offset) * index + n < 2 ^ (8 * place + offset + width) := by
      calc 2 ^ (8 * place + offset) * index + n < 2 ^ (8 * place + offset) * (index + 1) := by
            rw [Nat.mul_succ]
            omega
        _ ≤ 2 ^ (8 * place + offset) * 2 ^ width := Nat.mul_le_mul_left _ hindex
        _ = 2 ^ (8 * place + offset + width) := (Nat.pow_add ..).symm
    have hsum : 2 ^ (8 * place + offset + width) * streamNumber width rest +
        (2 ^ (8 * place + offset) * index + n) =
        2 ^ (8 * place + offset) * streamNumber width (index :: rest) + n := by
      rw [streamNumber, Nat.pow_add]
      ring
    rw [List.map_cons, Indices.packFrom, hwrite]
    dsimp only
    split
    · have hcursor : 8 * (place + 1) + (offset + width - 8) = 8 * place + offset + width := by omega
      rw [ih hrest (by omega) (by rwa [hcursor]) (by omega), hcursor, hsum]
    · have hcursor : 8 * place + (offset + width) = 8 * place + offset + width := by omega
      rw [ih hrest (by omega) (by rwa [hcursor]) (by omega), hcursor, hsum]

lemma octetCount_natCast (width count : ℕ) :
    Indices.octetCount width count = ((width * count + 7) / 8 : ℕ) := by
  rw [Indices.octetCount, Int.fdiv_eq_ediv_of_nonneg _ (by omega)]
  push_cast
  rfl

lemma replicate_zero_eq_ofNumber (count : ℕ) :
    List.replicate count (0 : UInt8) = Octets.ofNumber count 0 := by
  induction count with
  | zero => rfl
  | succ count ih => rw [List.replicate_succ, ih, Octets.ofNumber, Nat.zero_div]; rfl

/-- Packed indices are the octets of one number. -/
theorem pack_eq_ofNumber (hwidth : width ≤ 8) (hindices : ∀ index ∈ indices, index < 2 ^ width) :
    Indices.pack (indices.map Nat.cast) width =
      .ok (Octets.ofNumber ((width * indices.length + 7) / 8) (streamNumber width indices)) := by
  rw [Indices.pack, List.length_map, octetCount_natCast, if_neg (by omega)]
  split
  · rename_i hnone
    rw [Int.natCast_eq_zero.mp hnone, Octets.ofNumber]
  · rename_i hsome
    have hpos : 0 < width := by
      rcases Nat.eq_zero_or_pos width with rfl | hpos
      · simp at hsome
      · exact hpos
    rw [Int.toNat_natCast, Int.toNat_natCast, replicate_zero_eq_ofNumber,
      packFrom_ofNumber hwidth hpos hindices (Nat.zero_le _) (by simp) (by omega)]
    simp

/-! ### Unpacking -/

/-- Indices are the digits of the number that they stand for. -/
lemma map_digits_streamNumber (hindices : ∀ index ∈ indices, index < 2 ^ width) :
    (List.range indices.length).map (fun i =>
      streamNumber width indices / 2 ^ (i * width) % 2 ^ width) = indices := by
  induction indices with
  | nil => rfl
  | cons index rest ih =>
    have hindex := hindices index List.mem_cons_self
    have hrest := ih fun other hmem => hindices other (List.mem_cons_of_mem _ hmem)
    have hfirst : streamNumber width (index :: rest) / 2 ^ (0 * width) % 2 ^ width = index := by
      rw [Nat.zero_mul, pow_zero, Nat.div_one, streamNumber, Nat.mul_add_mod,
        Nat.mod_eq_of_lt hindex]
    have hlater : ∀ i, streamNumber width (index :: rest) / 2 ^ ((i + 1) * width) =
        streamNumber width rest / 2 ^ (i * width) := by
      intro i
      rw [Nat.succ_mul, Nat.add_comm (i * width), Nat.pow_add, ← Nat.div_div_eq_div_mul,
        streamNumber, Nat.mul_add_div (Nat.two_pow_pos width), Nat.div_eq_of_lt hindex,
        Nat.add_zero]
    rw [List.length_cons, List.range_succ_eq_map, List.map_cons, List.map_map, hfirst]
    refine congrArg (index :: ·) (Eq.trans (List.map_congr_left fun i _ => ?_) hrest)
    exact congrArg (· % 2 ^ width) (hlater i)

/-- Unpacking gives back what was packed. -/
theorem unpack_ofNumber_streamNumber (hindices : ∀ index ∈ indices, index < 2 ^ width) :
    Indices.unpack (Octets.ofNumber ((width * indices.length + 7) / 8) (streamNumber width indices))
      width indices.length = .ok indices := by
  rw [Indices.unpack]
  split
  · -- indices without bits are all zero
    rename_i hzero
    obtain rfl : width = 0 := by omega
    rw [Int.toNat_natCast]
    refine congrArg Except.ok (List.eq_replicate_iff.mpr ⟨rfl, fun index hmem => ?_⟩).symm
    have hlt := hindices index hmem
    rw [pow_zero] at hlt
    omega
  · rw [if_neg (by omega)]
    dsimp only
    rw [toNumber_ofNumber, Nat.mod_eq_of_lt (streamNumber_lt_octets hindices), Int.toNat_natCast,
      Int.toNat_natCast]
    exact congrArg Except.ok (map_digits_streamNumber hindices)

end PixelPanel.Proofs
