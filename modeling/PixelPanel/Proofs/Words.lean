import Mathlib.Tactic.Lemma
import Mathlib.Data.Nat.Notation
import PixelPanel.Octets

/-!
# Sixteen bit words

Writing a number below 65536 as a word and reading it back gives the number, and every pair of
octets is the word of the number that it stands for.
-/

namespace PixelPanel.Proofs

lemma ofWord_lt (low high : UInt8) : Octets.ofWord low high < 65536 := by
  have hl := low.toNat_lt
  have hh := high.toNat_lt
  unfold Octets.ofWord
  omega

lemma ofWord_ofNat (n : ℕ) (h : n < 65536) :
    Octets.ofWord (UInt8.ofNat n) (UInt8.ofNat (n / 256)) = n := by
  rw [Octets.ofWord, UInt8.toNat_ofNat', UInt8.toNat_ofNat']
  omega

@[simp] lemma word_ofWord (low high : UInt8) :
    Octets.word (Octets.ofWord low high) = [low, high] := by
  have hl := low.toNat_lt
  have hlow : UInt8.ofNat (Octets.ofWord low high) = low := by
    apply UInt8.toNat_inj.mp
    rw [UInt8.toNat_ofNat', Octets.ofWord]
    omega
  have hhigh : Octets.ofWord low high / 256 = high.toNat := by
    rw [Octets.ofWord]
    omega
  rw [Octets.word, hlow, hhigh, UInt8.ofNat_toNat]

/-- A word and the number it stands for determine each other. -/
lemma word_eq_iff (n : ℕ) (h : n < 65536) (low high : UInt8) :
    Octets.word n = [low, high] ↔ Octets.ofWord low high = n := by
  constructor
  · intro hw
    simp only [Octets.word, List.cons.injEq, and_true] at hw
    rw [← hw.1, ← hw.2, ofWord_ofNat n h]
  · intro hn
    rw [← hn, word_ofWord]

end PixelPanel.Proofs
