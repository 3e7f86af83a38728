import Mathlib.Data.List.Basic
import PixelPanel.Text.Utf8

/-!
# UTF-8 and text

Octets are read as a text exactly if they are its UTF-8. A first octet fixes how many octets its character
has; those that may follow are just the ones with which the number of the character and its form agree.
-/

namespace PixelPanel.Text.Utf8

/-- Octets complete a character that has begun, and this is its number. -/
inductive Completes : Lead → Octets → ℕ → Prop
  | last {lead : Lead} {octet : UInt8} (hlater : lead.later = 0) (hlow : lead.low ≤ octet.toNat)
    (hhigh : octet.toNat ≤ lead.high) :
    Completes lead [octet] (64 * lead.value + (octet.toNat - 0x80))
  | next {lead : Lead} {octet : UInt8} {later number : ℕ} {octets : Octets}
    (hlater : lead.later = later + 1) (hlow : lead.low ≤ octet.toNat) (hhigh : octet.toNat ≤ lead.high)
    (hrest : Completes ⟨64 * lead.value + (octet.toNat - 0x80), 0x80, 0xBF, later⟩ octets number) :
    Completes lead (octet :: octets) number

/-- The octets of the character with a number, as numbers. -/
def form (number : ℕ) : List ℕ :=
  if number ≤ 0x7F then [number]
  else if number ≤ 0x7FF then [number / 64 % 32 + 192, number % 64 + 128]
  else if number ≤ 0xFFFF then [number / 4096 % 16 + 224, number / 64 % 64 + 128, number % 64 + 128]
  else [number / 262144 % 8 + 240, number / 4096 % 64 + 128, number / 64 % 64 + 128, number % 64 + 128]

/-- The octets of a text. -/
def encode (text : List Char) : Octets :=
  text.flatMap String.utf8EncodeChar

end PixelPanel.Text.Utf8

namespace PixelPanel.Proofs
open Text.Utf8

variable {octet : UInt8} {octets more : Octets} {text : List Char} {c : Char} {lead : Lead} {number : ℕ}

/-! ### One character -/

lemma completes_one {value low high : ℕ} : Completes ⟨value, low, high, 0⟩ octets number ↔
    ∃ octet : UInt8, octets = [octet] ∧ (low ≤ octet.toNat ∧ octet.toNat ≤ high) ∧
      number = 64 * value + (octet.toNat - 0x80) := by
  constructor
  · intro h
    cases h with
    | @last _ octet hlater hlow hhigh => exact ⟨octet, rfl, ⟨hlow, hhigh⟩, rfl⟩
    | next hlater => cases hlater
  · rintro ⟨octet, rfl, ⟨hlow, hhigh⟩, hnumber⟩
    rw [hnumber]
    exact .last rfl hlow hhigh

lemma completes_more {value low high later : ℕ} :
    Completes ⟨value, low, high, later + 1⟩ octets number ↔
      ∃ (octet : UInt8) (rest : Octets), octets = octet :: rest ∧
        (low ≤ octet.toNat ∧ octet.toNat ≤ high) ∧
        Completes ⟨64 * value + (octet.toNat - 0x80), 0x80, 0xBF, later⟩ rest number := by
  constructor
  · intro h
    cases h with
    | last hlater => cases hlater
    | next hlater hlow hhigh hrest =>
      obtain rfl := Nat.succ.inj hlater
      exact ⟨_, _, rfl, ⟨hlow, hhigh⟩, hrest⟩
  · rintro ⟨octet, rest, rfl, ⟨hlow, hhigh⟩, hrest⟩
    exact .next rfl hlow hhigh hrest

/-- A first octet of two, three or four. The first of those to follow has narrower bounds only where a
shorter form, half of a surrogate pair or too large a number would come of it. -/
lemma lead?_eq (n : ℕ) : lead? n =
    if n < 0xC2 then none
    else if n < 0xE0 then some ⟨n - 0xC0, 0x80, 0xBF, 0⟩
    else if n < 0xF0 then
      some ⟨n - 0xE0, if n = 0xE0 then 0xA0 else 0x80, if n = 0xED then 0x9F else 0xBF, 1⟩
    else if n < 0xF5 then
      some ⟨n - 0xF0, if n = 0xF0 then 0x90 else 0x80, if n = 0xF4 then 0x8F else 0xBF, 2⟩
    else none := by
  unfold lead?
  by_cases hlt : n < 0xF5
  · revert n
    decide +kernel
  · simp only [show ¬n < 0xC2 by omega, show ¬n < 0xE0 by omega, show ¬n < 0xF0 by omega,
      show ¬n < 0xF4 by omega, show n ≠ 0xE0 by omega, show n ≠ 0xED by omega,
      show n ≠ 0xF0 by omega, show n ≠ 0xF4 by omega, hlt, if_false]

lemma toNat_of_mem_form {n : ℕ} (h : n ∈ form number) : (UInt8.ofNat n).toNat = n := by
  rw [UInt8.toNat_ofNat', Nat.mod_eq_of_lt]
  unfold form at h
  split_ifs at h <;> simp only [List.mem_cons, List.not_mem_nil, or_false] at h <;> omega

/-- Octets are those of a character exactly if their numbers are those of its form. -/
lemma utf8EncodeChar_eq_iff (h : number.isValidChar) :
    String.utf8EncodeChar (Char.ofNat number) = octets ↔ form number = octets.map UInt8.toNat := by
  have hform : String.utf8EncodeChar (Char.ofNat number) = (form number).map UInt8.ofNat := by
    rw [Char.ofNat, dif_pos h, form, apply_ite (List.map _), apply_ite (List.map _),
      apply_ite (List.map _)]
    rfl
  rw [hform]
  constructor
  · rintro rfl
    rw [List.map_map]
    exact (List.map_congr_left fun n hn => toNat_of_mem_form hn).trans (List.map_id _) |>.symm
  · intro hoctets
    rw [hoctets, List.map_map]
    exact (List.map_congr_left fun octet _ => UInt8.ofNat_toNat).trans (List.map_id _)

/-- A form of two octets: their bounds, and their parts of the number. -/
lemma form_two {n a b : ℕ} : (n.isValidChar ∧ form n = [a, b]) ↔
    (0xC2 ≤ a ∧ a < 0xE0) ∧ (0x80 ≤ b ∧ b ≤ 0xBF) ∧ n = 64 * (a - 0xC0) + (b - 0x80) := by
  unfold form Nat.isValidChar
  split_ifs <;> simp only [List.cons.injEq] <;> simp <;> omega

lemma form_three {n a b c : ℕ} : (n.isValidChar ∧ form n = [a, b, c]) ↔
    (0xE0 ≤ a ∧ a < 0xF0) ∧ ((if a = 0xE0 then 0xA0 else 0x80) ≤ b ∧
      b ≤ if a = 0xED then 0x9F else 0xBF) ∧ (0x80 ≤ c ∧ c ≤ 0xBF) ∧
      n = 64 * (64 * (a - 0xE0) + (b - 0x80)) + (c - 0x80) := by
  unfold form Nat.isValidChar
  split_ifs <;> simp only [List.cons.injEq] <;> simp <;> omega

lemma form_four {n a b c d : ℕ} : (n.isValidChar ∧ form n = [a, b, c, d]) ↔
    (0xF0 ≤ a ∧ a < 0xF5) ∧ ((if a = 0xF0 then 0x90 else 0x80) ≤ b ∧
      b ≤ if a = 0xF4 then 0x8F else 0xBF) ∧ (0x80 ≤ c ∧ c ≤ 0xBF) ∧ (0x80 ≤ d ∧ d ≤ 0xBF) ∧
      n = 64 * (64 * (64 * (a - 0xF0) + (b - 0x80)) + (c - 0x80)) + (d - 0x80) := by
  unfold form Nat.isValidChar
  split_ifs <;> simp only [List.cons.injEq] <;> simp <;> omega

/-- What completes a first octet is the form of a character. -/
lemma encode_of_completes (hlead : lead? octet.toNat = some lead) (h : Completes lead octets number) :
    number.isValidChar ∧ String.utf8EncodeChar (Char.ofNat number) = octet :: octets := by
  suffices hform : number.isValidChar ∧ form number = (octet :: octets).map UInt8.toNat from
    ⟨hform.1, (utf8EncodeChar_eq_iff hform.1).mpr hform.2⟩
  rw [lead?_eq] at hlead
  split at hlead
  · cases hlead
  split at hlead
  · obtain rfl := Option.some.inj hlead
    obtain ⟨second, rfl, hsecond, hnumber⟩ := completes_one.mp h
    exact form_two.mpr ⟨⟨by omega, by omega⟩, hsecond, hnumber⟩
  split at hlead
  · obtain rfl := Option.some.inj hlead
    obtain ⟨second, rest, rfl, hsecond, hrest⟩ := completes_more.mp h
    obtain ⟨third, rfl, hthird, hnumber⟩ := completes_one.mp hrest
    exact form_three.mpr ⟨⟨by omega, by omega⟩, hsecond, hthird, hnumber⟩
  split at hlead
  · obtain rfl := Option.some.inj hlead
    obtain ⟨second, rest, rfl, hsecond, hrest⟩ := completes_more.mp h
    obtain ⟨third, rest, rfl, hthird, hlast⟩ := completes_more.mp hrest
    obtain ⟨fourth, rfl, hfourth, hnumber⟩ := completes_one.mp hlast
    exact form_four.mpr ⟨⟨by omega, by omega⟩, hsecond, hthird, hfourth, hnumber⟩
  · cases hlead

lemma length_form (h : 0x7F < number) : 2 ≤ (form number).length ∧ (form number).length ≤ 4 := by
  unfold form
  rw [if_neg (Nat.not_le.mpr h)]
  split_ifs <;> simp

/-- The form of a character beyond ASCII has a first octet, and the others complete it. -/
lemma completes_of_encode (hc : 0x7F < c.toNat) : ∃ octet lead octets,
    String.utf8EncodeChar c = octet :: octets ∧ lead? octet.toNat = some lead ∧
      Completes lead octets c.toNat := by
  have hvalid : c.toNat.isValidChar := c.valid
  have hform : form c.toNat = (String.utf8EncodeChar c).map UInt8.toNat :=
    (utf8EncodeChar_eq_iff hvalid).mp (by rw [Char.ofNat_toNat])
  have hlength := length_form hc
  rw [hform, List.length_map] at hlength
  generalize c.toNat = number at hvalid hform ⊢
  match String.utf8EncodeChar c, hform, hlength with
  | [first, second], hform, _ =>
    obtain ⟨hfirst, hsecond, hnumber⟩ := form_two.mp ⟨hvalid, hform⟩
    have hlead := lead?_eq first.toNat
    rw [if_neg (by omega), if_pos hfirst.2] at hlead
    exact ⟨first, _, _, rfl, hlead, completes_one.mpr ⟨_, rfl, hsecond, hnumber⟩⟩
  | [first, second, third], hform, _ =>
    obtain ⟨hfirst, hsecond, hthird, hnumber⟩ := form_three.mp ⟨hvalid, hform⟩
    have hlead := lead?_eq first.toNat
    rw [if_neg (by omega), if_neg (by omega), if_pos hfirst.2] at hlead
    exact ⟨first, _, _, rfl, hlead, completes_more.mpr
      ⟨_, _, rfl, hsecond, completes_one.mpr ⟨_, rfl, hthird, hnumber⟩⟩⟩
  | [first, second, third, fourth], hform, _ =>
    obtain ⟨hfirst, hsecond, hthird, hfourth, hnumber⟩ := form_four.mp ⟨hvalid, hform⟩
    have hlead := lead?_eq first.toNat
    rw [if_neg (by omega), if_neg (by omega), if_neg (by omega), if_pos hfirst.2] at hlead
    exact ⟨first, _, _, rfl, hlead, completes_more.mpr ⟨_, _, rfl, hsecond, completes_more.mpr
      ⟨_, _, rfl, hthird, completes_one.mpr ⟨_, rfl, hfourth, hnumber⟩⟩⟩⟩
  | [], _, hlength => exact absurd hlength.1 (by decide)
  | [_], _, hlength => exact absurd hlength.1 (by simp)
  | _ :: _ :: _ :: _ :: _ :: _, _, hlength => exact absurd hlength.2 (by simp)

/-! ### Texts -/

variable {position : ℕ} {begun : Text.Utf8.Begun} {rest : Octets}

/-- Octets that complete a character are read as it. -/
lemma decodeFrom_of_completes (h : Completes begun.lead more number) :
    decodeFrom position (some begun) (more ++ rest) =
      (decodeFrom (position + more.length) none rest).map (Char.ofNat number :: ·) := by
  generalize hlead : begun.lead = lead at h
  induction h generalizing begun position with
  | last hlater hlow hhigh =>
    subst hlead
    rw [List.singleton_append, decodeFrom, if_neg (by omega), hlater]
    rfl
  | @next _ octet later _ octets hlater hlow hhigh hrest ih =>
    subst hlead
    have hmore := @ih (position + 1)
      ⟨begun.octet, begun.start, ⟨64 * begun.lead.value + (octet.toNat - 0x80), 0x80, 0xBF, later⟩⟩ rfl
    rw [List.cons_append, decodeFrom, if_neg (by omega), hlater, List.length_cons,
      Nat.add_comm octets.length, ← Nat.add_assoc]
    exact hmore

/-- If octets are a text, the first of them complete the character that has begun. -/
lemma exists_completes (h : decodeFrom position (some begun) octets = .ok text) :
    ∃ more rest number, octets = more ++ rest ∧ Completes begun.lead more number := by
  induction octets generalizing begun position with
  | nil => cases h
  | cons octet octets ih =>
    rw [decodeFrom] at h
    split at h
    · cases h
    · rename_i hbounds
      rw [not_or, Nat.not_lt, Nat.not_lt] at hbounds
      split at h
      · rename_i hlater
        exact ⟨[octet], octets, _, rfl, .last hlater hbounds.1 hbounds.2⟩
      · rename_i later hlater
        obtain ⟨more, rest, number, rfl, hmore⟩ := ih h
        exact ⟨octet :: more, rest, number, rfl, .next hlater hbounds.1 hbounds.2 hmore⟩

lemma encode_cons (c : Char) (text : List Char) :
    encode (c :: text) = String.utf8EncodeChar c ++ encode text :=
  List.flatMap_cons

lemma utf8EncodeChar_ascii (h : octet < 0x80) :
    String.utf8EncodeChar (Char.ofNat octet.toNat) = [octet] := by
  have hlt : octet.toNat < 0x80 := UInt8.lt_iff_toNat_lt.mp h
  rw [utf8EncodeChar_eq_iff (.inl (by omega)), form, if_pos (by omega), List.map_singleton]

lemma exists_of_map_eq_ok {result : Except Text.Utf8.Fault (List Char)}
    (h : result.map (c :: ·) = .ok text) : ∃ later, result = .ok later ∧ text = c :: later := by
  cases result with
  | error fault => cases h
  | ok later => exact ⟨later, rfl, (Except.ok.inj h).symm⟩

lemma eq_encode_of_decodeFrom (h : decodeFrom position none octets = .ok text) :
    octets = encode text := by
  induction hlength : octets.length using Nat.strongRecOn generalizing octets position text with
  | ind length ih =>
    subst hlength
    cases octets with
    | nil =>
      obtain rfl := Except.ok.inj h
      rfl
    | cons octet octets =>
      rw [decodeFrom] at h
      split at h
      · rename_i hascii
        obtain ⟨later, hrest, rfl⟩ := exists_of_map_eq_ok h
        rw [encode_cons, utf8EncodeChar_ascii hascii, ← ih _ (Nat.lt_succ_self _) hrest rfl]
        rfl
      · split at h
        · cases h
        · rename_i lead hlead
          obtain ⟨more, rest, number, rfl, hmore⟩ := exists_completes h
          rw [decodeFrom_of_completes hmore] at h
          obtain ⟨later, hrest, rfl⟩ := exists_of_map_eq_ok h
          have hshorter : rest.length < (octet :: (more ++ rest)).length := by
            rw [List.length_cons, List.length_append]
            omega
          rw [encode_cons, (encode_of_completes hlead hmore).2, ← ih _ hshorter hrest rfl]
          rfl

lemma decodeFrom_encode (position : ℕ) (text : List Char) :
    decodeFrom position none (encode text) = .ok text := by
  induction text generalizing position with
  | nil => rfl
  | cons c text ih =>
    rw [encode_cons]
    by_cases hascii : c.toNat ≤ 0x7F
    · obtain ⟨octet, hnat⟩ : ∃ octet : UInt8, octet.toNat = c.toNat :=
        ⟨UInt8.ofNat c.toNat, by rw [UInt8.toNat_ofNat', Nat.mod_eq_of_lt (by omega)]⟩
      have hlt : octet < 0x80 := UInt8.lt_iff_toNat_lt.mpr (hnat ▸ Nat.lt_succ_of_le hascii)
      have hc : Char.ofNat octet.toNat = c := by rw [hnat, Char.ofNat_toNat]
      rw [← hc, utf8EncodeChar_ascii hlt, List.singleton_append, decodeFrom, if_pos hlt, ih]
      rfl
    · obtain ⟨octet, lead, octets, hform, hlead, hcompletes⟩ :=
        completes_of_encode (Nat.lt_of_not_le hascii)
      have hnot : ¬octet < 0x80 := by
        intro hlt
        rw [lead?_eq, if_pos (Nat.lt_trans (UInt8.lt_iff_toNat_lt.mp hlt) (by decide))] at hlead
        cases hlead
      have hread := @decodeFrom_of_completes _ _ (position + 1) ⟨octet, position, lead⟩ (encode text)
        hcompletes
      rw [ih, Char.ofNat_toNat] at hread
      rw [hform, List.cons_append, decodeFrom, if_neg hnot, hlead]
      exact hread

/-- Octets are read as a text exactly if they are its UTF-8. -/
theorem decode_eq_ok_iff : Text.Utf8.decode octets = .ok text ↔ octets = encode text := by
  refine ⟨eq_encode_of_decodeFrom, ?_⟩
  rintro rfl
  exact decodeFrom_encode 0 text

end PixelPanel.Proofs
