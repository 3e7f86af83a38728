import Mathlib.Tactic.IntervalCases
import PixelPanel.Proofs.HexText
import PixelPanel.Proofs.JsonValues
import PixelPanel.Proofs.Link.Openings
import PixelPanel.Proofs.TextEnds

/-!
# How addresses are written

A text is an address if it spells six octets once the white space at its ends and all separators are taken
away. The system has one form of its own for each address, which is read as that address again, and in this
form the address of a link gets to its sockets.
-/

namespace PixelPanel.Address

/-- A text without separators. -/
def bare (text : List Char) : List Char :=
  text.filter fun c => c ∉ [':', '-']

/-- The digits of the form of the system. -/
def capitals : List Char := "0123456789ABCDEF".toList

/-- The form of the system: six pairs of digits, and a colon between two pairs. -/
def IsSystemForm (text : List Char) : Prop :=
  text.length = 17 ∧
    ∀ place < 17, ∃ c ∈ if place % 3 = 2 then [':'] else capitals, text[place]? = some c

instance (text : List Char) : Decidable (IsSystemForm text) :=
  inferInstanceAs (Decidable (_ ∧ _))

/-- Code points are a text, and it is an address. -/
def IsWritten (points : Json.Points) : Prop :=
  ∃ text : String, points = Json.points text ∧ (ofText? text.toList).isSome

end PixelPanel.Address

namespace PixelPanel.Proofs
open Address Hex

variable {text core : List Char} {octets : Octets}

/-! ### Reading -/

lemma bare_eq (text : List Char) : text.filter (fun c => !isSeparator c) = bare text := by
  refine List.filter_congr fun c _ => ?_
  simp [isSeparator]

lemma ofText?_eq_some_iff : Address.ofText? text = some octets ↔
    octets.length = 6 ∧ ∃ core, Text.Strips text core ∧ Spells (bare core) octets.reverse := by
  simp only [← strip_eq_iff, exists_eq_left']
  rw [Address.ofText?, bare_eq]
  constructor
  · intro h
    obtain ⟨found, hfound, h⟩ := Option.bind_eq_some_iff.mp h
    split at h
    · rename_i hlength
      obtain rfl := Option.some.inj h
      rw [List.length_reverse, List.reverse_reverse]
      exact ⟨hlength, decode_eq_some_iff.mp hfound⟩
    · cases h
  · rintro ⟨hlength, hspells⟩
    refine Option.bind_eq_some_iff.mpr ⟨octets.reverse, decode_eq_some_iff.mpr hspells, ?_⟩
    rw [if_pos (by rwa [List.length_reverse]), List.reverse_reverse]

/-! ### Characters and code points -/

lemma ascii_of_isDigit {c : Char} {n : ℕ} (h : IsDigit c n) : c.toNat < 128 :=
  lt_of_value? (value?_eq_some_iff.mpr h)

/-- Nothing but ASCII spells octets. -/
lemma ascii_of_spells (h : Spells text octets) :
    ∀ c ∈ text, c.toNat < 128 := by
  have hblank : ∀ c ∈ blanks, c.toNat < 128 := by simp [blanks]
  induction h with
  | nothing hblanks => exact fun c hc => hblank c (hblanks c hc)
  | pair hblanks hhigh hlow hrest ih =>
    rw [List.forall_mem_append, List.forall_mem_cons, List.forall_mem_cons]
    exact ⟨fun c hc => hblank c (hblanks c hc), ascii_of_isDigit hhigh, ascii_of_isDigit hlow, ih⟩

/-- The replacement character stands in no address. -/
lemma replacement_not_mem (h : (Address.ofText? text).isSome) : '\uFFFD' ∉ text := by
  intro hmem
  obtain ⟨octets, hoctets⟩ := Option.isSome_iff_exists.mp h
  obtain ⟨-, core, ⟨⟨front, back, rfl, hblank⟩, -, -⟩, hspells⟩ := ofText?_eq_some_iff.mp hoctets
  have hcore : '\uFFFD' ∈ core := by
    by_contra hnot
    have hends : '\uFFFD' ∈ front ++ back := by
      rw [List.mem_append, List.mem_append] at hmem
      exact List.mem_append.mpr (hmem.imp_left fun h => h.resolve_right hnot)
    exact absurd (hblank _ hends) (by decide)
  exact absurd (ascii_of_spells hspells _ (List.mem_filter.mpr ⟨hcore, by decide⟩)) (by decide)

lemma isWritten_iff {written : Json.Points} :
    IsWritten written ↔ (Address.ofText? (Text.ofPoints written).toList).isSome := by
  constructor
  · rintro ⟨text, rfl, h⟩
    rwa [ofPoints_points]
  · exact fun h => ⟨_, (points_ofPoints (replacement_not_mem h)).symm, h⟩

/-! ### Writing -/

/-- What a capital digit is, and what it is not. -/
lemma upperDigit_spec : ∀ value < 16, upperDigit value ∈ capitals ∧
    Text.isBlank (upperDigit value) = false ∧ upperDigit value ∉ [':', '-'] := by
  decide +kernel

/-- The digits of an octet are all alike in this respect. -/
lemma forall_ofOctet {P : Char → Prop} (h : ∀ value < 16, P (upperDigit value)) (octet : UInt8) :
    P (upperDigit (octet.toNat / 16)) ∧ P (upperDigit (octet.toNat % 16)) := by
  have hlt : octet.toNat < 256 := octet.toNat_lt_size
  exact ⟨h _ (by omega), h _ (by omega)⟩

lemma exists_of_length (h : octets.length = 6) : ∃ a b c d e f, octets = [a, b, c, d, e, f] := by
  match octets, h with
  | [a, b, c, d, e, f], _ => exact ⟨a, b, c, d, e, f, rfl⟩

lemma text_eq (a b c d e f : UInt8) : (Address.text [a, b, c, d, e, f]).toList =
    ofOctet upperDigit f ++ ':' :: (ofOctet upperDigit e ++ ':' :: (ofOctet upperDigit d ++ ':' ::
      (ofOctet upperDigit c ++ ':' :: (ofOctet upperDigit b ++ ':' :: ofOctet upperDigit a)))) := by
  simp [Address.text, encodeUpper]

lemma isSystemForm_text (h : octets.length = 6) : IsSystemForm (Address.text octets).toList := by
  obtain ⟨a, b, c, d, e, f, rfl⟩ := exists_of_length h
  have hdigit := forall_ofOctet (P := (· ∈ capitals)) fun value hlt => (upperDigit_spec value hlt).1
  rw [text_eq]
  refine ⟨rfl, fun place hplace => ?_⟩
  interval_cases place
  all_goals first
    | exact ⟨_, (hdigit _).1, rfl⟩
    | exact ⟨_, (hdigit _).2, rfl⟩
    | exact ⟨_, List.mem_singleton_self _, rfl⟩

/-- The form of the system begins and ends with a digit. -/
lemma strips_text (h : octets.length = 6) :
    Text.Strips (Address.text octets).toList (Address.text octets).toList := by
  obtain ⟨a, b, c, d, e, f, rfl⟩ := exists_of_length h
  have hblank := forall_ofOctet (P := fun c => Text.isBlank c = false) fun value hlt =>
    (upperDigit_spec value hlt).2.1
  refine ⟨⟨[], [], by rw [List.nil_append, List.append_nil], List.forall_mem_nil _⟩, ?_, ?_⟩
  · have hfirst : (Address.text [a, b, c, d, e, f]).toList.head? =
        some (upperDigit (f.toNat / 16)) := by rw [text_eq]; rfl
    rw [hfirst]
    exact fun c hc => Option.some.inj hc ▸ (hblank f).1
  · have hlast : (Address.text [a, b, c, d, e, f]).toList.getLast? =
        some (upperDigit (a.toNat % 16)) := by rw [text_eq]; rfl
    rw [hlast]
    exact fun c hc => Option.some.inj hc ▸ (hblank a).2

/-- What is left of it without separators are the digits, from those of the last octet on. -/
lemma bare_text (h : octets.length = 6) :
    bare (Address.text octets).toList = octets.reverse.flatMap (ofOctet upperDigit) := by
  obtain ⟨a, b, c, d, e, f, rfl⟩ := exists_of_length h
  have hkept : ∀ octet, (ofOctet upperDigit octet).filter (fun c => c ∉ [':', '-']) =
      ofOctet upperDigit octet := by
    intro octet
    obtain ⟨hhigh, hlow⟩ := forall_ofOctet (P := (· ∉ [':', '-']))
      (fun value hlt => (upperDigit_spec value hlt).2.2) octet
    exact List.filter_eq_self.mpr (by simp only [ofOctet, List.forall_mem_cons]; simp [hhigh, hlow])
  have hcolon : ∀ text : List Char, (':' :: text).filter (fun c => c ∉ [':', '-']) =
      text.filter fun c => c ∉ [':', '-'] := fun _ => rfl
  rw [bare, text_eq]
  simp only [List.filter_append, hkept, hcolon]
  simp

/-- The form of the system is read as the address that it is the form of. -/
lemma ofText?_text (h : octets.length = 6) :
    Address.ofText? (Address.text octets).toList = some octets := by
  refine ofText?_eq_some_iff.mpr ⟨h, _, strips_text h, ?_⟩
  rw [bare_text h]
  exact spells_flatMap_upperDigit octets.reverse

/-- An address is read from exactly the texts that spell six octets without their separators and the white
space at their ends. Every address is read again from its form of the system, and a socket is only ever
opened to this form of the address of its link. -/
theorem addresses_read_back :
    (∀ text octets, Address.ofText? text = some octets ↔
      octets.length = 6 ∧ ∃ core, Text.Strips text core ∧ Spells (bare core) octets.reverse) ∧
    (∀ octets : Octets, octets.length = 6 → IsSystemForm (Address.text octets).toList ∧
      Address.ofText? (Address.text octets).toList = some octets) ∧
    (∀ text octets, Address.ofText? text = some octets →
      IsSystemForm (Address.text octets).toList ∧
        Address.ofText? (Address.text octets).toList = some octets) ∧
    ∀ (link : Link) (events : List Link.Event) (address : String) (channel : ℤ),
      .opened address channel ∈ seenSince link (link.run events) →
        channel = link.channel ∧ IsSystemForm address.toList ∧
          (Address.ofText? link.address.toList).isSome ∧
          Address.ofText? address.toList = Address.ofText? link.address.toList := by
  have hback : ∀ octets : Octets, octets.length = 6 → IsSystemForm (Address.text octets).toList ∧
      Address.ofText? (Address.text octets).toList = some octets :=
    fun octets h => ⟨isSystemForm_text h, ofText?_text h⟩
  refine ⟨fun _ _ => ofText?_eq_some_iff, hback, fun text octets h => ?_, ?_⟩
  · exact hback octets (ofText?_eq_some_iff.mp h).1
  · intro link events address channel hmem
    obtain ⟨octets, hoctets, hopening⟩ := opensAs_of_seen hmem
    obtain ⟨rfl, rfl⟩ := Prod.mk.inj hopening
    obtain ⟨hform, hread⟩ := hback octets (ofText?_eq_some_iff.mp hoctets).1
    rw [hread, hoctets]
    exact ⟨rfl, hform, rfl, rfl⟩

/-- Hardly any separator is where it should be, and there is white space of all kinds. -/
def oddText : List Char := "\u2003a:Ab-B\tcC 0dee-:f:F\x1f".toList

theorem addresses_read_back_odd :
    let octets : Octets := [0xff, 0xee, 0x0d, 0xcc, 0xbb, 0xaa]
    let link : Link := { address := "aabbcc0deeff", channel := 4 }
    Address.ofText? oddText = some octets ∧ octets.length = 6 ∧
      (∃ core, Text.Strips oddText core ∧ Spells (bare core) octets.reverse) ∧
      (Address.text octets).toList = "AA:BB:CC:0D:EE:FF".toList ∧
      IsSystemForm (Address.text octets).toList ∧
      .opened "AA:BB:CC:0D:EE:FF" 4 ∈ seenSince link (link.run [.connect .accepted]) ∧
      Address.ofText? "AA:BB:CC:0D:EE:FF".toList = Address.ofText? link.address.toList := by
  intro octets link
  obtain ⟨hspells, hback, hafter, hopened⟩ := addresses_read_back
  have hodd : Address.ofText? oddText = some octets := by decide +kernel
  have hseen : .opened "AA:BB:CC:0D:EE:FF" 4 ∈ seenSince link (link.run [.connect .accepted]) := by
    decide +kernel
  obtain ⟨hlength, hoctets⟩ := (hspells oddText octets).mp hodd
  exact ⟨hodd, hlength, hoctets, by decide +kernel, (hafter oddText octets hodd).1, hseen,
    (hopened link _ _ _ hseen).2.2.2⟩

end PixelPanel.Proofs
