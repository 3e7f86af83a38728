import Mathlib.Data.List.Forall2
import Mathlib.Data.Int.ModEq
import PixelPanel.Frame
import PixelPanel.Proofs.PictureCoding
import PixelPanel.Proofs.Words

/-!
# Reading frames

The size in the head of a frame tells where the frame ends, and the number of colours where its
palette ends, so a frame can be read off the front of any octets that begin with it: its pixels, its
time modulo 65536 and the octets behind it. Frames that stand one behind the other are therefore
told apart.
-/

namespace PixelPanel.Proofs
open Raster

def OnPanel (picture : Picture) : Prop :=
  picture.width = panelSide ∧ picture.height = panelSide

instance (picture : Picture) : Decidable (OnPanel picture) :=
  inferInstanceAs (Decidable (_ ∧ _))

/-- Reads a frame off the front: its pixels, its time and the octets behind it. -/
def readFrame : Octets → Option (List Colour × ℕ × Octets)
  | _ :: sizeLow :: sizeHigh :: timeLow :: timeHigh :: _ :: count :: rest =>
    let length := Octets.ofWord sizeLow sizeHigh - Frame.headSize
    -- 256 colours are written as zero
    let colours := if count = 0 then 256 else count.toNat
    match decode ((rest.take length).take (3 * colours)) ((rest.take length).drop (3 * colours)) with
    | .ok pixels => some (pixels, Octets.ofWord timeLow timeHigh, rest.drop length)
    | .error _ => none
  | _ => none

/-- The same pixels for the same time, as far as a word can tell. -/
def SameFrame (shot other : Picture × ℤ) : Prop :=
  shot.1.pixels = other.1.pixels ∧ shot.2 ≡ other.2 [ZMOD 65536]

/-- Each block is the frame of the picture and the time at its place. -/
def AreFrames (shots : List (Picture × ℤ)) (blocks : List Octets) : Prop :=
  List.Forall₂ (fun shot block => Frame.build shot.1 shot.2 = .ok block) shots blocks

variable {picture : Picture} {shots others : List (Picture × ℤ)} {frames : Octets}

/-! ### Pictures of the size of the panel -/

lemma length_paletteOctets (encoded : Encoded) :
    encoded.paletteOctets.length = 3 * encoded.palette.length := by
  rw [Encoded.paletteOctets]
  induction encoded.palette with
  | nil => rfl
  | cons colour rest ih =>
    rw [List.flatMap_cons, List.length_append, ih, List.length_cons]
    simp only [Colour.toOctets, List.length_cons, List.length_nil]
    omega

lemma exists_encode (h : OnPanel picture) :
    ∃ encoded, encode picture = .ok encoded ∧
      1 ≤ encoded.palette.length ∧ encoded.palette.length ≤ 256 ∧ encoded.stream.length ≤ 256 ∧
      decode encoded.paletteOctets encoded.stream = .ok picture.pixels := by
  obtain ⟨hwidth, hheight⟩ := h
  have hencode := encode_eq hwidth hheight
  have hpalette := isPalette_firstSeen picture.pixels
  have hlength := length_pixels_of_size hwidth hheight
  have hbits := bitsPerIndex_firstSeen_le hwidth hheight
  have hne : picture.pixels ≠ [] := by
    intro hnil
    rw [hnil] at hlength
    cases hlength
  refine ⟨_, hencode, hpalette.length_pos hne, hlength ▸ hpalette.length_le, ?_,
    decode_of_encode hwidth hheight hencode⟩
  rw [length_ofNumber]
  exact Nat.mul_le_mul_left 32 hbits

lemma encode_of_not_onPanel (h : ¬OnPanel picture) :
    encode picture = .error (.wrongSize picture.width picture.height) := by
  rw [OnPanel] at h
  rw [encode, if_neg h]

lemma build_of_not_onPanel (h : ¬OnPanel picture) (duration : ℤ) :
    Frame.build picture duration = .error (.wrongSize picture.width picture.height) := by
  rw [Frame.build, encode_of_not_onPanel h]

lemma colours_ofNat {count : ℕ} (hpos : 1 ≤ count) (hle : count ≤ 256) :
    (if UInt8.ofNat count = 0 then 256 else (UInt8.ofNat count).toNat) = count := by
  have hzero : UInt8.ofNat count = 0 ↔ count % 256 = 0 := by
    rw [← UInt8.toNat_inj, UInt8.toNat_ofNat']
    simp
  by_cases h : count % 256 = 0
  · rw [if_pos (hzero.mpr h)]
    omega
  · rw [if_neg (mt hzero.mp h), UInt8.toNat_ofNat']
    omega

/-- The frame of a picture of the size of the panel can be read off the front. -/
lemma exists_build (h : OnPanel picture) (duration : ℤ) :
    ∃ frame, Frame.build picture duration = .ok frame ∧ frame ≠ [] ∧ frame.length ≤ 1031 ∧
      ∀ rest, readFrame (frame ++ rest) =
        some (picture.pixels, (duration % 65536).toNat, rest) := by
  obtain ⟨encoded, hencode, hpos, hle, hstream, hdecode⟩ := exists_encode h
  have hpalette := length_paletteOctets encoded
  refine ⟨_, by rw [Frame.build, hencode], ?_, ?_, ?_⟩
  · simp
  · simp only [Octets.word, Octets.wordOfInt, List.length_append, List.length_cons, List.length_nil]
    omega
  · intro rest
    have hsize : Frame.headSize + encoded.paletteOctets.length + encoded.stream.length < 65536 := by
      rw [Frame.headSize]
      omega
    have hbody : Frame.headSize + encoded.paletteOctets.length + encoded.stream.length -
        Frame.headSize = (encoded.paletteOctets ++ encoded.stream).length := by
      rw [List.length_append]
      omega
    have htime : (duration % 65536).toNat < 65536 := by omega
    simp only [Octets.word, Octets.wordOfInt, List.cons_append, List.nil_append, List.append_assoc,
      readFrame, ofWord_ofNat _ hsize, ofWord_ofNat _ htime, hbody, colours_ofNat hpos hle]
    rw [← List.append_assoc encoded.paletteOctets, List.take_left, List.drop_left, ← hpalette,
      List.take_left, List.drop_left, hdecode]

/-! ### Frames one behind the other -/

lemma buildAll_of_areFrames {blocks : List Octets} (h : AreFrames shots blocks) :
    Frame.buildAll shots = .ok blocks.flatten := by
  induction h with
  | nil => rfl
  | cons hframe _ ih => simp only [Frame.buildAll, hframe, ih, List.flatten_cons]

lemma exists_buildAll (h : ∀ shot ∈ shots, OnPanel shot.1) :
    ∃ blocks, AreFrames shots blocks ∧ Frame.buildAll shots = .ok blocks.flatten := by
  suffices hframes : ∃ blocks, AreFrames shots blocks by
    obtain ⟨blocks, hblocks⟩ := hframes
    exact ⟨blocks, hblocks, buildAll_of_areFrames hblocks⟩
  induction shots with
  | nil => exact ⟨[], .nil⟩
  | cons shot rest ih =>
    obtain ⟨frame, hframe, -⟩ := exists_build (h shot List.mem_cons_self) shot.2
    obtain ⟨blocks, hblocks⟩ := ih fun other hmem => h other (List.mem_cons_of_mem _ hmem)
    exact ⟨frame :: blocks, .cons hframe hblocks⟩

/-- The first picture that has not the size of the panel is the reason why there are no frames. -/
lemma buildAll_of_find? (h : (shots.map Prod.fst).find? (fun shown => ¬OnPanel shown) = some picture) :
    Frame.buildAll shots = .error (.wrongSize picture.width picture.height) := by
  induction shots with
  | nil => cases h
  | cons shot rest ih =>
    by_cases hshot : OnPanel shot.1
    · obtain ⟨frame, hframe, -⟩ := exists_build hshot shot.2
      rw [List.map_cons, List.find?_cons_of_neg (by simpa using hshot)] at h
      simp only [Frame.buildAll, hframe, ih h]
    · rw [List.map_cons, List.find?_cons_of_pos (by simpa using hshot)] at h
      obtain rfl := Option.some.inj h
      simp only [Frame.buildAll, build_of_not_onPanel hshot]

lemma buildAll_cons_eq_ok {shot : Picture × ℤ} (h : Frame.buildAll (shot :: shots) = .ok frames) :
    OnPanel shot.1 ∧ ∃ frame rest, Frame.build shot.1 shot.2 = .ok frame ∧
      Frame.buildAll shots = .ok rest ∧ frames = frame ++ rest := by
  by_cases hshot : OnPanel shot.1
  · obtain ⟨frame, hframe, -⟩ := exists_build hshot shot.2
    simp only [Frame.buildAll, hframe] at h
    cases hrest : Frame.buildAll shots with
    | error fault =>
      rw [hrest] at h
      cases h
    | ok rest =>
      rw [hrest] at h
      exact ⟨hshot, frame, rest, hframe, rfl, (Except.ok.inj h).symm⟩
  · simp only [Frame.buildAll, build_of_not_onPanel hshot] at h
    cases h

/-- Reading the first frame tells its pixels and its time, and leaves the other frames. -/
lemma readFrame_buildAll_cons {shot : Picture × ℤ}
    (h : Frame.buildAll (shot :: shots) = .ok frames) :
    ∃ rest, Frame.buildAll shots = .ok rest ∧ frames ≠ [] ∧
      readFrame frames = some (shot.1.pixels, (shot.2 % 65536).toNat, rest) := by
  obtain ⟨hshot, frame, rest, hframe, hrest, rfl⟩ := buildAll_cons_eq_ok h
  obtain ⟨frame', hframe', hne, -, hread⟩ := exists_build hshot shot.2
  obtain rfl : frame = frame' := Except.ok.inj (hframe.symm.trans hframe')
  exact ⟨rest, hrest, by simp [hne], hread rest⟩

lemma sameFrames_of_buildAll (h : Frame.buildAll shots = .ok frames)
    (h' : Frame.buildAll others = .ok frames) : List.Forall₂ SameFrame shots others := by
  induction shots generalizing others frames with
  | nil =>
    obtain rfl : [] = frames := Except.ok.inj h
    cases others with
    | nil => exact .nil
    | cons other others =>
      obtain ⟨-, -, hne, -⟩ := readFrame_buildAll_cons h'
      exact (hne rfl).elim
  | cons shot shots ih =>
    obtain ⟨rest, hrest, hne, hread⟩ := readFrame_buildAll_cons h
    cases others with
    | nil => exact (hne (Except.ok.inj h').symm).elim
    | cons other others =>
      obtain ⟨rest', hrest', -, hread'⟩ := readFrame_buildAll_cons h'
      rw [hread] at hread'
      simp only [Option.some.injEq, Prod.mk.injEq] at hread'
      obtain ⟨hpixels, htime, rfl⟩ := hread'
      refine .cons ⟨hpixels, ?_⟩ (ih hrest hrest')
      rw [Int.ModEq]
      omega

lemma build_congr {shot other : Picture × ℤ} (h : SameFrame shot other) (hshot : OnPanel shot.1)
    (hother : OnPanel other.1) : Frame.build shot.1 shot.2 = Frame.build other.1 other.2 := by
  obtain ⟨hpixels, htime⟩ := h
  have hword : Octets.wordOfInt shot.2 = Octets.wordOfInt other.2 := by
    rw [Octets.wordOfInt, htime, Octets.wordOfInt]
  rw [Frame.build, Frame.build, encode_eq hshot.1 hshot.2, encode_eq hother.1 hother.2, hpixels,
    hword]

lemma buildAll_congr (h : List.Forall₂ SameFrame shots others)
    (hshots : ∀ shot ∈ shots, OnPanel shot.1) (hothers : ∀ other ∈ others, OnPanel other.1) :
    Frame.buildAll shots = Frame.buildAll others := by
  induction h with
  | nil => rfl
  | @cons shot other shots others hsame _ ih =>
    have hfirst := build_congr hsame (hshots shot List.mem_cons_self) (hothers other List.mem_cons_self)
    have hrest := ih (fun _ hmem => hshots _ (List.mem_cons_of_mem _ hmem))
      (fun _ hmem => hothers _ (List.mem_cons_of_mem _ hmem))
    simp only [Frame.buildAll, hfirst, hrest]

end PixelPanel.Proofs
