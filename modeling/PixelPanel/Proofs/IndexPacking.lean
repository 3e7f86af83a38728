import Mathlib.Algebra.BigOperators.Fin
import Mathlib.Algebra.Order.Floor.Div
import Mathlib.GroupTheory.GroupAction.Ring
import PixelPanel.Proofs.IndexStream

/-!
# Packing and unpacking undo each other

Packed indices are the octets of one number, the sum of the indices, each of them shifted by the bits
of those before it. Unpacking gives the indices back. The other way round, any octets that are just
long enough are packed again to what they were, except for the bits behind the last index, which are
cleared.
-/

namespace PixelPanel.Proofs
open Raster

variable {width count n : ℕ}

/-! ### The number of a stream -/

lemma streamNumber_eq_sum (width : ℕ) (indices : List ℕ) :
    (streamNumber width indices : ℤ) = ∑ i : Fin (indices.map (Nat.cast : ℕ → ℤ)).length,
      (indices.map (Nat.cast : ℕ → ℤ))[i] * 2 ^ (i.val * width) := by
  induction indices with
  | nil => rfl
  | cons index rest ih =>
    have hlater : ∀ i : Fin (rest.map (Nat.cast : ℕ → ℤ)).length,
        (rest.map (Nat.cast : ℕ → ℤ))[i] * 2 ^ ((i.val + 1) * width) =
          2 ^ width * ((rest.map (Nat.cast : ℕ → ℤ))[i] * 2 ^ (i.val * width)) := by
      intro i
      ring
    calc (streamNumber width (index :: rest) : ℤ)
        = index * 2 ^ (0 * width) + 2 ^ width * streamNumber width rest := by
          rw [streamNumber]
          push_cast
          ring
      _ = index * 2 ^ (0 * width) + ∑ i : Fin (rest.map (Nat.cast : ℕ → ℤ)).length,
          (rest.map (Nat.cast : ℕ → ℤ))[i] * 2 ^ ((i.val + 1) * width) := by
          rw [ih, Finset.mul_sum, Finset.sum_congr rfl fun i _ => hlater i]
      _ = _ := (Fin.sum_univ_succ fun i : Fin ((rest.map (Nat.cast : ℕ → ℤ)).length + 1) =>
          ((index : ℤ) :: rest.map Nat.cast)[i] * 2 ^ (i.val * width)).symm

/-- The digits of a number stand for what is left of it below them. -/
lemma streamNumber_digits (width count n : ℕ) :
    streamNumber width ((List.range count).map fun i => n / 2 ^ (i * width) % 2 ^ width) =
      n % 2 ^ (width * count) := by
  induction count generalizing n with
  | zero => rw [Nat.mul_zero, pow_zero, Nat.mod_one]; rfl
  | succ count ih =>
    have hlater : ((List.range count).map Nat.succ).map (fun i => n / 2 ^ (i * width) % 2 ^ width) =
        (List.range count).map fun i => n / 2 ^ width / 2 ^ (i * width) % 2 ^ width := by
      rw [List.map_map]
      refine List.map_congr_left fun i _ => ?_
      rw [Function.comp_apply, Nat.succ_mul, Nat.add_comm, Nat.pow_add, Nat.div_div_eq_div_mul]
    rw [List.range_succ_eq_map, List.map_cons, hlater, streamNumber, ih, Nat.zero_mul, pow_zero,
      Nat.div_one, Nat.mul_succ, Nat.add_comm (width * count), Nat.pow_add, Nat.mod_mul,
      Nat.add_comm]

lemma ofNumber_toNumber (octets : Octets) :
    Octets.ofNumber octets.length octets.toNumber = octets := by
  induction octets with
  | nil => rfl
  | cons octet rest ih =>
    have hoctet := octet.toNat_lt
    have hfirst : UInt8.ofNat (octet.toNat + 256 * Octets.toNumber rest) = octet := by
      apply UInt8.toNat_inj.mp
      rw [UInt8.toNat_ofNat']
      omega
    have hlater : (octet.toNat + 256 * Octets.toNumber rest) / 256 = Octets.toNumber rest := by
      omega
    rw [Octets.toNumber, List.length_cons, Octets.ofNumber, hfirst, hlater, ih]

/-! ### Both ways -/

lemma exists_natCast {indices : List ℤ} (h : ∀ index ∈ indices, 0 ≤ index ∧ index < 2 ^ width) :
    ∃ naturals : List ℕ, naturals.map Nat.cast = indices ∧ ∀ index ∈ naturals, index < 2 ^ width := by
  refine ⟨indices.map Int.toNat, ?_, List.forall_mem_map.mpr fun index hmem => ?_⟩
  · rw [List.map_map]
    exact (List.map_congr_left fun index hmem => Int.toNat_of_nonneg (h index hmem).1).trans
      (List.map_id _)
  · obtain ⟨hnonneg, hlt⟩ := h index hmem
    have hcast : ((2 ^ width : ℕ) : ℤ) = 2 ^ width := by push_cast; rfl
    omega

/-- Indices that fit into at most eight bits are packed into as few octets as hold all their bits.
These are the octets of the sum of the indices, each shifted by its place, and unpacking them gives the
indices back. Any octets of this length can be unpacked, and packing what they hold clears the bits
behind the last index and changes no other bit. -/
theorem packing_is_bit_stream (width : ℕ) (hwidth : width ≤ 8) :
    (∀ indices : List ℤ, (∀ index ∈ indices, 0 ≤ index ∧ index < 2 ^ width) →
      ∃ stream, Indices.pack indices width = .ok stream ∧
        stream.length = (width * indices.length) ⌈/⌉ 8 ∧
        (stream.toNumber : ℤ) = ∑ i : Fin indices.length, indices[i] * 2 ^ (i.val * width) ∧
        ∃ found, Indices.unpack stream width indices.length = .ok found ∧
          found.map Nat.cast = indices) ∧
    (1 ≤ width → ∀ (count : ℕ) (octets : Octets), octets.length = (width * count) ⌈/⌉ 8 →
      ∃ indices, Indices.unpack octets width count = .ok indices ∧ indices.length = count ∧
        ∃ cleared, Indices.pack (indices.map Nat.cast) width = .ok cleared ∧
          cleared.length = octets.length ∧
          ∀ place, bitAt cleared place = (decide (place < width * count) && bitAt octets place)) := by
  have hceil : ∀ bits : ℕ, bits ⌈/⌉ 8 = (bits + 7) / 8 := fun bits => Nat.ceilDiv_eq_add_pred_div bits 8
  constructor
  · intro indices hindices
    obtain ⟨naturals, rfl, hnaturals⟩ := exists_natCast hindices
    refine ⟨_, pack_eq_ofNumber hwidth hnaturals, ?_, ?_, naturals, ?_, rfl⟩
    · rw [length_ofNumber, hceil, List.length_map]
    · rw [toNumber_ofNumber, Nat.mod_eq_of_lt (streamNumber_lt_octets hnaturals),
        streamNumber_eq_sum]
    · rw [List.length_map]
      exact unpack_ofNumber_streamNumber hnaturals
  · intro hpos count octets hlength
    have hunpack : Indices.unpack octets width count =
        .ok ((List.range count).map fun i => octets.toNumber / 2 ^ (i * width) % 2 ^ width) := by
      rw [Indices.unpack, if_neg (by omega), if_neg (by omega)]
      rfl
    have hdigits : ∀ index ∈ (List.range count).map fun i =>
        octets.toNumber / 2 ^ (i * width) % 2 ^ width, index < 2 ^ width :=
      List.forall_mem_map.mpr fun i _ => Nat.mod_lt _ (Nat.two_pow_pos width)
    have hpack := pack_eq_ofNumber hwidth hdigits
    rw [List.length_map, List.length_range, ← hceil, ← hlength, streamNumber_digits] at hpack
    refine ⟨_, hunpack, by simp, _, hpack, length_ofNumber .., fun place => ?_⟩
    have hbits := bitAt_ofNumber octets.length octets.toNumber place
    rw [ofNumber_toNumber] at hbits
    rw [bitAt_ofNumber, Nat.testBit_mod_two_pow, hbits, Bool.and_left_comm]

/-- Three indices of three bits reach into a second octet; two of them leave two bits of one octet. -/
theorem packing_is_bit_stream_across :
    3 ≤ 8 ∧ (∀ index ∈ ([5, 1, 7] : List ℤ), 0 ≤ index ∧ index < 2 ^ 3) ∧
      (∃ stream, Indices.pack [5, 1, 7] 3 = .ok stream ∧ stream.length = 2 ∧
        stream.toNumber = 461 ∧ Indices.unpack stream 3 3 = .ok [5, 1, 7]) ∧
      Indices.unpack [0xFF] 3 2 = .ok [7, 7] ∧
      ∃ cleared, Indices.pack [7, 7] 3 = .ok cleared ∧ cleared.length = 1 ∧
        ∀ place, bitAt cleared place = (decide (place < 6) && bitAt [0xFF] place) := by
  obtain ⟨hpack, hunpack⟩ := packing_is_bit_stream 3 (by decide)
  have hrange : ∀ index ∈ ([5, 1, 7] : List ℤ), 0 ≤ index ∧ index < 2 ^ 3 := by decide
  obtain ⟨stream, hstream, hlength, hnumber, found, hfound, hback⟩ := hpack [5, 1, 7] hrange
  have hsum : ∑ i : Fin ([5, 1, 7] : List ℤ).length, ([5, 1, 7] : List ℤ)[i] * 2 ^ (i.val * 3) = 461 :=
    rfl
  have hsame : found = [5, 1, 7] := List.map_injective_iff.mpr Nat.cast_injective hback
  obtain ⟨indices, hindices, -, cleared, hcleared, hshort, hbits⟩ := hunpack (by decide) 2 [0xFF] rfl
  have hsevens : Indices.unpack [0xFF] 3 2 = .ok [7, 7] := by decide
  obtain rfl : [7, 7] = indices := Except.ok.inj (hsevens.symm.trans hindices)
  exact ⟨by decide, hrange, ⟨stream, hstream, hlength, by omega, hsame ▸ hfound⟩, hsevens, cleared,
    hcleared, hshort, hbits⟩

end PixelPanel.Proofs
