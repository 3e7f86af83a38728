import Mathlib.Data.List.Nodup
import PixelPanel.Proofs.FrameReading

/-!
# What a frame says about itself

The head of a frame tells how long the frame is, for how long it is shown and how many colours its
palette has, so the frame is decoded with what it holds itself. Frames that stand one behind the other
are cut apart by their lengths.
-/

namespace PixelPanel.Proofs
open Raster

/-- The word at a place, low octet first. -/
def wordAt (octets : Octets) (place : ℕ) : ℕ :=
  Octets.toNumber ((octets.drop place).take 2)

/-- The number of colours that an octet stands for: there is no empty palette, and zero stands for 256. -/
def coloursOf (count : UInt8) : ℕ :=
  if count = 0 then 256 else count.toNat

/-- The pixels of a frame, and the time to show them. -/
def readBlock (block : Octets) : Option (List Colour × ℕ) :=
  match block[6]? with
  | none => none
  | some count =>
    match decode ((block.drop 7).take (3 * coloursOf count)) (block.drop (7 + 3 * coloursOf count)) with
    | .error _ => none
    | .ok pixels => some (pixels, wordAt block 3)

/-- Cuts octets into blocks, each as long as the word behind its first octet says. -/
def cutBlocks (octets : Octets) : Option (List Octets) :=
  if octets = [] then some []
  else if _h : 0 < wordAt octets 1 ∧ wordAt octets 1 ≤ octets.length then
    (cutBlocks (octets.drop (wordAt octets 1))).map (octets.take (wordAt octets 1) :: ·)
  else none
termination_by octets.length
decreasing_by
  rw [List.length_drop]
  omega

/-- A block that is a frame of some pixels and tells all that is needed to decode it. -/
structure Describes (block : Octets) (pixels : List Colour) (duration : ℤ) : Prop where
  mark : block[0]? = some 0xAA
  size : wordAt block 1 = block.length
  time : (wordAt block 3 : ℤ) = duration % 65536
  reset : block[5]? = some 0
  shows : ∃ count, block[6]? = some count ∧
    decode ((block.drop 7).take (3 * coloursOf count)) (block.drop (7 + 3 * coloursOf count)) = .ok pixels

variable {picture : Picture} {shots others : List (Picture × ℤ)} {block : Octets} {blocks found : List Octets}
  {pixels : List Colour} {duration : ℤ}

/-! ### One frame -/

lemma toNumber_word {n : ℕ} (h : n < 65536) : Octets.toNumber (Octets.word n) = n := by
  have hword := ofWord_ofNat n h
  rw [Octets.ofWord] at hword
  simp only [Octets.word, Octets.toNumber]
  omega

/-- The size, the time and the number of colours of a frame are all there is to know of it. -/
lemma exists_describes (h : OnPanel picture) (duration : ℤ) :
    ∃ block, Frame.build picture duration = .ok block ∧ Describes block picture.pixels duration := by
  obtain ⟨encoded, hencode, hpos, hle, hstream, hdecode⟩ := exists_encode h
  have hpalette := length_paletteOctets encoded
  have hcolours : coloursOf (UInt8.ofNat encoded.palette.length) = encoded.palette.length :=
    colours_ofNat hpos hle
  have hsize : Frame.headSize + encoded.paletteOctets.length + encoded.stream.length < 65536 := by
    rw [Frame.headSize]
    omega
  have htime : (duration % 65536).toNat < 65536 := by omega
  refine ⟨_, by rw [Frame.build, hencode], rfl, ?_, ?_, rfl, _, rfl, ?_⟩
  · refine (toNumber_word hsize).trans ?_
    simp only [Frame.headSize, Octets.word, Octets.wordOfInt, List.length_append, List.length_cons,
      List.length_nil]
  · have hread := toNumber_word htime
    exact (congrArg Nat.cast hread).trans (Int.toNat_of_nonneg (by omega))
  · rw [hcolours, ← hpalette, ← List.drop_drop]
    have hbody : List.drop 7 (Frame.mark :: Octets.word
        (Frame.headSize + encoded.paletteOctets.length + encoded.stream.length) ++
        Octets.wordOfInt duration ++ [Frame.paletteReset, UInt8.ofNat encoded.palette.length] ++
        encoded.paletteOctets ++ encoded.stream) = encoded.paletteOctets ++ encoded.stream := by
      simp only [Octets.word, Octets.wordOfInt, List.cons_append, List.nil_append,
        List.drop_succ_cons, List.drop_zero]
    rw [hbody, List.take_left, List.drop_left, hdecode]

lemma describes_of_build (h : Frame.build picture duration = .ok block) :
    Describes block picture.pixels duration := by
  have hpanel : OnPanel picture := by
    by_contra hnot
    rw [build_of_not_onPanel hnot] at h
    cases h
  obtain ⟨other, hother, hdescribes⟩ := exists_describes hpanel duration
  obtain rfl : block = other := Except.ok.inj (h.symm.trans hother)
  exact hdescribes

lemma Describes.lt_length (h : Describes block pixels duration) : 6 < block.length := by
  obtain ⟨count, hcount, -⟩ := h.shows
  exact (List.getElem?_eq_some_iff.mp hcount).1

lemma Describes.readBlock (h : Describes block pixels duration) :
    readBlock block = some (pixels, (duration % 65536).toNat) := by
  obtain ⟨count, hcount, hdecode⟩ := h.shows
  have htime : wordAt block 3 = (duration % 65536).toNat := by
    have := h.time
    omega
  simp only [Proofs.readBlock, hcount, hdecode, htime]

/-! ### Frames one behind the other -/

/-- The first block ends where it says, whatever stands behind it. -/
lemma Describes.cutBlocks_append (h : Describes block pixels duration) (rest : Octets) :
    cutBlocks (block ++ rest) = (cutBlocks rest).map (block :: ·) := by
  have hlength := h.lt_length
  have hne : block ++ rest ≠ [] := by
    intro hnil
    rw [(List.append_eq_nil_iff.mp hnil).1] at hlength
    cases hlength
  have hsize : wordAt (block ++ rest) 1 = block.length := by
    rw [← h.size, wordAt, wordAt, List.drop_append_of_le_length (by omega),
      List.take_append_of_le_length (by rw [List.length_drop]; omega)]
  have hwithin : 0 < block.length ∧ block.length ≤ (block ++ rest).length := by
    rw [List.length_append]
    omega
  rw [cutBlocks, if_neg hne, hsize, dif_pos hwithin, List.take_left, List.drop_left]

lemma cutBlocks_flatten (h : AreFrames shots blocks) : cutBlocks blocks.flatten = some blocks := by
  induction h with
  | nil => rw [List.flatten_nil, cutBlocks, if_pos rfl]
  | cons hframe _ ih =>
    rw [List.flatten_cons, (describes_of_build hframe).cutBlocks_append, ih, Option.map_some]

lemma mapM_readBlock (h : AreFrames shots blocks) : blocks.mapM readBlock =
    some (shots.map fun shot => (shot.1.pixels, (shot.2 % 65536).toNat)) := by
  induction h with
  | nil => rfl
  | cons hframe _ ih =>
    rw [List.mapM_cons, (describes_of_build hframe).readBlock, ih]
    rfl

/-- For every picture of the size of the panel and every time there is a frame, and it tells its size,
its time modulo 65536 and the number of its colours, with which it decodes to the pixels. Any frames
that stand one behind the other are cut apart and read, and no others have the same octets. -/
theorem frame_describes_itself :
    (∀ (picture : Picture) (duration : ℤ), OnPanel picture →
      ∃ block, Frame.build picture duration = .ok block ∧ Describes block picture.pixels duration) ∧
    ∀ (shots : List (Picture × ℤ)) (blocks : List Octets), AreFrames shots blocks →
      cutBlocks blocks.flatten = some blocks ∧
      blocks.mapM readBlock = some (shots.map fun shot => (shot.1.pixels, (shot.2 % 65536).toNat)) ∧
      ∀ others found, AreFrames others found → found.flatten = blocks.flatten →
        found = blocks ∧ List.Forall₂ SameFrame shots others := by
  refine ⟨fun picture duration h => exists_describes h duration, fun shots blocks h =>
    ⟨cutBlocks_flatten h, mapM_readBlock h, fun others found hothers hflatten => ?_⟩⟩
  have hcut := cutBlocks_flatten hothers
  rw [hflatten, cutBlocks_flatten h] at hcut
  obtain rfl := Option.some.inj hcut
  exact ⟨rfl, sameFrames_of_buildAll (buildAll_of_areFrames h) (buildAll_of_areFrames hothers)⟩

/-! ### Many colours and one -/

lemma length_firstSeen_of_nodup (h : pixels.Nodup) : (firstSeen pixels).length = pixels.length := by
  have hpalette := isPalette_firstSeen pixels
  have hsub := List.Nodup.subperm h fun colour hmem => (hpalette.mem_iff colour).mpr hmem
  exact hpalette.length_le.antisymm hsub.length_le

lemma count_of_build (h : Frame.build picture duration = .ok block) (hpanel : OnPanel picture) :
    block[6]? = some (UInt8.ofNat (firstSeen picture.pixels).length) := by
  rw [Frame.build, encode_eq hpanel.1 hpanel.2] at h
  rw [← Except.ok.inj h]
  rfl

/-- A picture in which no colour occurs twice. -/
def spectrum : Picture where
  width := panelSide
  height := panelSide
  pixels := (List.range 256).map fun place => ⟨UInt8.ofNat place, 0, 0⟩
  length_pixels := by rw [List.length_map, List.length_range]; rfl

/-- A dark picture. -/
def dark : Picture :=
  Picture.ofColours panelSide panelSide []

lemma nodup_spectrum : spectrum.pixels.Nodup := by
  refine List.Nodup.map_on (fun first hfirst second hsecond heq => ?_) List.nodup_range
  have hshade : UInt8.ofNat first = UInt8.ofNat second := congrArg Colour.red heq
  have hlt := List.mem_range.mp hfirst
  have hlt' := List.mem_range.mp hsecond
  have hnat := congrArg UInt8.toNat hshade
  rw [UInt8.toNat_ofNat', UInt8.toNat_ofNat'] at hnat
  omega

/-- A frame of 256 colours writes zero for their number, and one of a single colour has no indices. Both
are found again in a row. -/
theorem frame_describes_itself_spectrum :
    OnPanel spectrum ∧ OnPanel dark ∧
      ∃ block last, AreFrames [(spectrum, -1), (dark, 65636)] [block, last] ∧
        block[6]? = some 0 ∧ Describes block spectrum.pixels (-1) ∧
        last = [0xAA, 10, 0, 100, 0, 0, 1, 0, 0, 0] ∧ Describes last dark.pixels 65636 ∧
        cutBlocks (block ++ last) = some [block, last] ∧
        [block, last].mapM readBlock = some [(spectrum.pixels, 65535), (dark.pixels, 100)] := by
  obtain ⟨hbuild, hrows⟩ := frame_describes_itself
  have hspectrum : OnPanel spectrum := ⟨rfl, rfl⟩
  have hdark : OnPanel dark := ⟨rfl, rfl⟩
  obtain ⟨block, hblock, hdescribes⟩ := hbuild spectrum (-1) hspectrum
  obtain ⟨last, hlast, hdescribes'⟩ := hbuild dark 65636 hdark
  have hframes : AreFrames [(spectrum, -1), (dark, 65636)] [block, last] :=
    .cons hblock (.cons hlast .nil)
  obtain ⟨hcut, hread, -⟩ := hrows _ _ hframes
  rw [List.flatten_cons, List.flatten_cons, List.flatten_nil, List.append_nil] at hcut
  have hcount := count_of_build hblock hspectrum
  rw [length_firstSeen_of_nodup nodup_spectrum, spectrum.length_pixels] at hcount
  have hoctets : Frame.build dark 65636 = .ok [0xAA, 10, 0, 100, 0, 0, 1, 0, 0, 0] := by
    decide +kernel
  rw [hlast] at hoctets
  exact ⟨hspectrum, hdark, block, last, hframes, hcount, hdescribes, Except.ok.inj hoctets,
    hdescribes', hcut, hread⟩

end PixelPanel.Proofs
