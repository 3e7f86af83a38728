import Mathlib.Order.Bounds.Basic
import Mathlib.Data.List.Induction
import Mathlib.Data.List.Perm.Subperm
import PixelPanel.Raster
import PixelPanel.Proofs.IndexStream

/-!
# Encoded pictures

The palette of a picture lists its colours once each, in the order in which they first occur, and the
stream of indices is as short as the palette allows. Decoding gives the pixels back, so encoded
pictures are equal exactly if their pixels are.
-/

namespace PixelPanel.Proofs
open Raster

/-- A palette that lists the colours of some pixels once each, in the order of their first places. -/
structure IsPalette (pixels palette : List Colour) : Prop where
  mem_iff : ∀ colour, colour ∈ palette ↔ colour ∈ pixels
  nodup : palette.Nodup
  ordered : palette.Pairwise fun first second => pixels.idxOf first < pixels.idxOf second

variable {pixels palette : List Colour} {picture other : Picture}

/-! ### The palette -/

lemma firstSeen_concat (pixels : List Colour) (colour : Colour) :
    firstSeen (pixels ++ [colour]) =
      if colour ∈ firstSeen pixels then firstSeen pixels else firstSeen pixels ++ [colour] := by
  rw [firstSeen, List.foldl_append]
  rfl

lemma IsPalette.concat_of_mem (h : IsPalette pixels palette) {colour : Colour}
    (hmem : colour ∈ palette) : IsPalette (pixels ++ [colour]) palette where
  mem_iff other := by
    rw [List.mem_append, List.mem_singleton, h.mem_iff]
    refine ⟨.inl, Or.rec id ?_⟩
    rintro rfl
    exact (h.mem_iff other).mp hmem
  nodup := h.nodup
  ordered := by
    refine h.ordered.imp_of_mem fun hfirst hsecond hlt => ?_
    rwa [List.idxOf_append_of_mem ((h.mem_iff _).mp hfirst),
      List.idxOf_append_of_mem ((h.mem_iff _).mp hsecond)]

lemma IsPalette.concat_of_not_mem (h : IsPalette pixels palette) {colour : Colour}
    (hnew : colour ∉ palette) : IsPalette (pixels ++ [colour]) (palette ++ [colour]) where
  mem_iff other := by rw [List.mem_append, List.mem_append, h.mem_iff]
  nodup := by
    refine List.nodup_append.mpr ⟨h.nodup, List.pairwise_singleton .., ?_⟩
    rintro first hfirst second hsecond rfl
    exact hnew (List.mem_singleton.mp hsecond ▸ hfirst)
  ordered := by
    have hplace : ∀ first ∈ palette, (pixels ++ [colour]).idxOf first = pixels.idxOf first :=
      fun first hmem => List.idxOf_append_of_mem ((h.mem_iff first).mp hmem)
    refine List.pairwise_append.mpr ⟨?_, List.pairwise_singleton .., ?_⟩
    · refine h.ordered.imp_of_mem fun hfirst hsecond hlt => ?_
      rwa [hplace _ hfirst, hplace _ hsecond]
    · intro first hfirst second hsecond
      obtain rfl := List.mem_singleton.mp hsecond
      have hout : second ∉ pixels := fun hmem => hnew ((h.mem_iff second).mpr hmem)
      rw [hplace first hfirst, List.idxOf_append_of_notMem hout]
      exact (List.idxOf_lt_length_of_mem ((h.mem_iff first).mp hfirst)).trans_le
        (Nat.le_add_right ..)

lemma isPalette_firstSeen (pixels : List Colour) : IsPalette pixels (firstSeen pixels) := by
  induction pixels using List.reverseRecOn with
  | nil => exact ⟨fun _ => Iff.rfl, List.nodup_nil, .nil⟩
  | append_singleton pixels colour ih =>
    rw [firstSeen_concat]
    split
    · rename_i hmem
      exact ih.concat_of_mem hmem
    · rename_i hnew
      exact ih.concat_of_not_mem hnew

lemma IsPalette.length_le (h : IsPalette pixels palette) : palette.length ≤ pixels.length :=
  (List.Nodup.subperm h.nodup fun colour hmem => (h.mem_iff colour).mp hmem).length_le

lemma IsPalette.length_pos (h : IsPalette pixels palette) (hne : pixels ≠ []) :
    0 < palette.length := by
  obtain ⟨colour, hmem⟩ := List.exists_mem_of_ne_nil pixels hne
  exact List.length_pos_of_mem ((h.mem_iff colour).mpr hmem)

/-! ### The width of an index -/

lemma bitsPerIndex_le_iff (size bits : ℕ) : bitsPerIndex size ≤ bits ↔ size ≤ 2 ^ bits := by
  rw [bitsPerIndex]
  split
  · rename_i hone
    have hsize : size ≤ 1 := by omega
    exact ⟨fun _ => hsize.trans Nat.one_le_two_pow, fun _ => Nat.zero_le _⟩
  · rename_i hmany
    have hpred : ((size : ℤ) - 1).toNat = size - 1 := by omega
    rw [hpred, Nat.succ_le_iff, Nat.log2_lt (by omega)]
    omega

/-- The width of an index is the least one that tells all colours apart. -/
lemma isLeast_bitsPerIndex (size : ℕ) : IsLeast {bits | size ≤ 2 ^ bits} (bitsPerIndex size) :=
  ⟨(bitsPerIndex_le_iff size _).mp le_rfl, fun bits hle => (bitsPerIndex_le_iff size bits).mpr hle⟩

/-! ### Encoding and decoding -/

lemma readPalette_flatMap_toOctets (palette : List Colour) :
    readPalette (palette.flatMap Colour.toOctets) = palette.map .ok := by
  induction palette with
  | nil => rfl
  | cons colour rest ih =>
    rw [List.flatMap_cons, List.map_cons, ← ih]
    rfl

lemma mapM_eq_ok {α β ε : Type} {f : β → Except ε α} {g : α → β} {values : List α}
    (h : ∀ value ∈ values, f (g value) = .ok value) : (values.map g).mapM f = .ok values := by
  induction values with
  | nil => rfl
  | cons value rest ih =>
    rw [List.map_cons, List.mapM_cons, h value List.mem_cons_self,
      ih fun other hmem => h other (List.mem_cons_of_mem _ hmem)]
    rfl

/-- The places of the pixels in the palette fit into the width of an index. -/
lemma idxOf_lt_two_pow (h : IsPalette pixels palette) :
    ∀ index ∈ pixels.map palette.idxOf, index < 2 ^ bitsPerIndex palette.length := by
  intro index hmem
  obtain ⟨colour, hcolour, rfl⟩ := List.mem_map.mp hmem
  exact (List.idxOf_lt_length_of_mem ((h.mem_iff colour).mpr hcolour)).trans_le
    (isLeast_bitsPerIndex palette.length).1

lemma length_pixels_of_size (hwidth : picture.width = panelSide)
    (hheight : picture.height = panelSide) : picture.pixels.length = 256 := by
  rw [picture.length_pixels, hwidth, hheight]
  rfl

lemma bitsPerIndex_firstSeen_le (hwidth : picture.width = panelSide)
    (hheight : picture.height = panelSide) :
    bitsPerIndex (firstSeen picture.pixels).length ≤ 8 := by
  have hle := (isPalette_firstSeen picture.pixels).length_le
  rw [length_pixels_of_size hwidth hheight] at hle
  exact (bitsPerIndex_le_iff _ 8).mpr hle

/-- What a picture of the size of the panel is encoded as. -/
lemma encode_eq (hwidth : picture.width = panelSide) (hheight : picture.height = panelSide) :
    encode picture = .ok ⟨firstSeen picture.pixels,
      Octets.ofNumber (32 * bitsPerIndex (firstSeen picture.pixels).length)
        (streamNumber (bitsPerIndex (firstSeen picture.pixels).length)
          (picture.pixels.map (firstSeen picture.pixels).idxOf))⟩ := by
  have hpack := pack_eq_ofNumber (bitsPerIndex_firstSeen_le hwidth hheight)
    (idxOf_lt_two_pow (isPalette_firstSeen picture.pixels))
  rw [List.map_map, List.length_map, length_pixels_of_size hwidth hheight] at hpack
  have hcount : (bitsPerIndex (firstSeen picture.pixels).length * 256 + 7) / 8 =
      32 * bitsPerIndex (firstSeen picture.pixels).length := by
    omega
  rw [hcount] at hpack
  rw [encode, if_pos ⟨hwidth, hheight⟩]
  have hindices : (picture.pixels.map fun colour => ((firstSeen picture.pixels).idxOf colour : ℤ)) =
      picture.pixels.map (Nat.cast ∘ (firstSeen picture.pixels).idxOf) := rfl
  dsimp only
  rw [hindices, hpack]

/-- Decoding gives back the pixels that were encoded. -/
lemma decode_of_encode (hwidth : picture.width = panelSide) (hheight : picture.height = panelSide)
    {encoded : Encoded} (h : encode picture = .ok encoded) :
    decode encoded.paletteOctets encoded.stream = .ok picture.pixels := by
  have hpalette := isPalette_firstSeen picture.pixels
  have hlength := length_pixels_of_size hwidth hheight
  have hunpack := unpack_ofNumber_streamNumber (idxOf_lt_two_pow hpalette)
  rw [List.length_map, hlength] at hunpack
  have hcount : (bitsPerIndex (firstSeen picture.pixels).length * 256 + 7) / 8 =
      32 * bitsPerIndex (firstSeen picture.pixels).length := by
    omega
  rw [hcount] at hunpack
  rw [encode_eq hwidth hheight] at h
  obtain rfl := Except.ok.inj h
  rw [decode, Encoded.paletteOctets, readPalette_flatMap_toOctets]
  dsimp only
  have hpanel : panelSide * panelSide = 256 := rfl
  rw [List.length_map, hpanel, hunpack]
  refine mapM_eq_ok fun colour hmem => ?_
  have hlt := List.idxOf_lt_length_of_mem ((hpalette.mem_iff colour).mpr hmem)
  rw [List.getElem?_map, List.getElem?_eq_getElem hlt, List.getElem_idxOf hlt]
  rfl

/-- A picture of the size of the panel is encoded with a palette of its 1 to 256 colours in the order
of their first places and with the shortest indices that tell them apart. Decoding gives its pixels
back, and another picture is encoded in the same way exactly if it has the same pixels. -/
theorem encode_decodes (picture : Picture) (hwidth : picture.width = panelSide)
    (hheight : picture.height = panelSide) :
    ∃ encoded, encode picture = .ok encoded ∧ IsPalette picture.pixels encoded.palette ∧
      1 ≤ encoded.palette.length ∧ encoded.palette.length ≤ 256 ∧
      (∃ bits ≤ 8, IsLeast {bits | encoded.palette.length ≤ 2 ^ bits} bits ∧
        encoded.stream.length = 32 * bits) ∧
      decode encoded.paletteOctets encoded.stream = .ok picture.pixels ∧
      ∀ other found, other.width = panelSide → other.height = panelSide →
        encode other = .ok found →
        ((found.paletteOctets = encoded.paletteOctets ∧ found.stream = encoded.stream) ↔
          other.pixels = picture.pixels) := by
  have hpalette := isPalette_firstSeen picture.pixels
  have hlength := length_pixels_of_size hwidth hheight
  have hencode := encode_eq hwidth hheight
  refine ⟨_, hencode, hpalette, hpalette.length_pos ?_, hlength ▸ hpalette.length_le,
    ⟨_, bitsPerIndex_firstSeen_le hwidth hheight, isLeast_bitsPerIndex _, length_ofNumber ..⟩,
    decode_of_encode hwidth hheight hencode, ?_⟩
  · rintro hnil
    rw [hnil] at hlength
    cases hlength
  · intro other found hwidth' hheight' hfound
    constructor
    · rintro ⟨hsame, hstream⟩
      have hdecode := decode_of_encode hwidth' hheight' hfound
      rw [hsame, hstream, decode_of_encode hwidth hheight hencode] at hdecode
      exact (Except.ok.inj hdecode).symm
    · intro hpixels
      rw [encode_eq hwidth' hheight', hpixels] at hfound
      obtain rfl := Except.ok.inj hfound
      exact ⟨rfl, rfl⟩

/-- Stripes in five shades of red. -/
def striped : Picture :=
  Picture.ofColours panelSide panelSide
    ((List.range 256).map fun place => ⟨UInt8.ofNat (place % 5), 0, 0⟩)

/-- Five colours need indices of three bits, which do not fit into octets evenly. -/
theorem encode_decodes_striped :
    striped.width = panelSide ∧ striped.height = panelSide ∧
      ∃ encoded, encode striped = .ok encoded ∧ encoded.palette.length = 5 ∧
        encoded.stream.length = 96 ∧
        decode encoded.paletteOctets encoded.stream = .ok striped.pixels := by
  obtain ⟨encoded, hencode, -, -, -, ⟨bits, -, hbits, hlength⟩, hdecode, -⟩ :=
    encode_decodes striped rfl rfl
  have hfive : encoded.palette.length = 5 := by
    have hsame : encoded.palette = firstSeen striped.pixels := by
      rw [encode_eq rfl rfl] at hencode
      rw [← Except.ok.inj hencode]
    rw [hsame]
    decide +kernel
  rw [hfive] at hbits
  have hthree : bits = 3 := hbits.unique (isLeast_bitsPerIndex 5)
  rw [hthree] at hlength
  exact ⟨rfl, rfl, encoded, hencode, hfive, hlength, hdecode⟩

end PixelPanel.Proofs
