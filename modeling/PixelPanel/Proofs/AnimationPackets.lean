import PixelPanel.Animation
import PixelPanel.Proofs.EnvelopeRow
import PixelPanel.Proofs.FrameReading

/-!
# Packets of an animation

The windows of an animation begin every 200 octets and are up to 400 octets long, so writing each
one at its place gives the frames back, although the size and the numbers in the packets wrap. From
the frames the pictures and their times can be read, so two animations have the same packets exactly
if they show the same pixels for the same times, as far as a word can tell.
-/

namespace PixelPanel.Proofs
open Animation Envelope

/-- Writes a slice over octets, from an offset on. -/
def overlay (octets : Octets) (offset : ℕ) (slice : Octets) : Octets :=
  octets.take offset ++ slice ++ octets.drop (offset + slice.length)

/-- Writes slices over octets, one every stride. -/
def overlayAll (octets : Octets) (offset : ℕ) : List Octets → Octets
  | [] => octets
  | slice :: rest => overlayAll (overlay octets offset slice) (offset + stride) rest

/-- The slice of the frames that a packet carries, behind a head of four octets. -/
def carried (packet : Octets) : Octets :=
  match unwrap packet with
  | .ok [payload] => payload.drop 4
  | _ => []

/-- The packets that frames are cut into. -/
structure Carry (packets : List Octets) (frames : Octets) : Prop where
  /-- There is a packet for every 200 octets, rounded up. -/
  count : packets.length = (frames.length + 199) / 200
  payload : ∀ k (h : k < packets.length), unwrap packets[k] =
    .ok [0x49 :: Octets.word (frames.length % 65536) ++ [UInt8.ofNat (k % 256)] ++
      (frames.drop (200 * k)).take 400]
  rebuilt : overlayAll [] 0 (packets.map carried) = frames
  /-- What two packets both carry is the same in both of them. -/
  agree : ∀ k (h : k + 1 < packets.length),
    (carried packets[k]).drop stride = (carried packets[k + 1]).take stride

variable {frames : Octets} {pictures : List Picture} {durations : List ℤ}

/-! ### Windows -/

lemma length_slices (octets : Octets) : (slices octets).length = (octets.length + 199) / 200 := by
  induction octets using slices.induct with
  | case1 octets hempty =>
    rw [slices, if_pos hempty, List.isEmpty_iff.mp hempty]
    rfl
  | case2 octets hempty ih =>
    have hpos : 0 < octets.length := List.length_pos_iff.mpr (by simpa using hempty)
    rw [slices, if_neg hempty, List.length_cons, ih, List.length_drop, stride]
    omega

lemma getElem_slices (octets : Octets) (k : ℕ) (h : k < (slices octets).length) :
    (slices octets)[k] = (octets.drop (200 * k)).take 400 := by
  induction octets using slices.induct generalizing k with
  | case1 octets hempty =>
    rw [slices, if_pos hempty] at h
    cases h
  | case2 octets hempty ih =>
    have hcons : slices octets = octets.take window :: slices (octets.drop stride) := by
      rw [slices, if_neg hempty]
    simp only [hcons]
    cases k with
    | zero => rfl
    | succ k =>
      rw [hcons, List.length_cons, Nat.succ_lt_succ_iff] at h
      rw [List.getElem_cons_succ, ih k h, List.drop_drop, stride]
      congr 2
      omega

lemma overlay_take (octets : Octets) (offset written : ℕ) (hle : offset ≤ written)
    (hnear : written ≤ offset + window) :
    overlay (octets.take written) offset ((octets.drop offset).take window) =
      octets.take (offset + window) := by
  have hbehind : (octets.take written).length ≤ offset + ((octets.drop offset).take window).length := by
    simp only [List.length_take, List.length_drop]
    omega
  rw [overlay, List.drop_eq_nil_of_le hbehind, List.append_nil, List.take_take, Nat.min_eq_left hle,
    List.take_add]

lemma overlayAll_slices (octets : Octets) (offset written : ℕ) (hle : offset ≤ written)
    (hnear : written ≤ offset + window) :
    overlayAll (octets.take written) offset (slices (octets.drop offset)) = octets := by
  induction h : octets.drop offset using slices.induct generalizing offset written with
  | case1 rest hempty =>
    have hend : octets.length ≤ offset := List.drop_eq_nil_iff.mp (h.trans (List.isEmpty_iff.mp hempty))
    rw [slices, if_pos hempty, overlayAll, List.take_of_length_le (by omega)]
  | case2 rest hempty ih =>
    -- the part written so far ends within this window, and then it ends where the window ends
    have hover := overlay_take octets offset written hle hnear
    rw [h] at hover
    rw [slices, if_neg hempty, overlayAll, hover]
    apply ih
    · rw [stride, window]
      omega
    · rw [stride, window]
      omega
    · rw [← h, List.drop_drop]

/-! ### Packets -/

lemma ofNat_congr {m n : ℕ} (h : m % 256 = n % 256) : UInt8.ofNat m = UInt8.ofNat n := by
  apply UInt8.toNat_inj.mp
  rw [UInt8.toNat_ofNat', UInt8.toNat_ofNat']
  exact h

lemma word_mod (n : ℕ) : Octets.word (n % 65536) = Octets.word n := by
  have hlow : n % 65536 % 256 = n % 256 := by omega
  have hhigh : n % 65536 / 256 % 256 = n / 256 % 256 := by omega
  rw [Octets.word, ofNat_congr hlow, ofNat_congr hhigh, Octets.word]

lemma packet_eq (size number : ℕ) (slice : Octets) :
    packet size number slice =
      0x49 :: Octets.word (size % 65536) ++ [UInt8.ofNat (number % 256)] ++ slice := by
  rw [packet, word_mod, ofNat_congr (Nat.mod_mod number 256)]

lemma length_packets (frames : Octets) : (packets frames).length = (slices frames).length := by
  rw [packets, List.length_mapIdx]

/-- A packet is short enough for its length field. -/
lemma unwrap_packets (frames : Octets) (k : ℕ) (h : k < (packets frames).length) :
    unwrap (packets frames)[k] =
      .ok [packet frames.length k ((frames.drop (200 * k)).take 400)] := by
  have hk : k < (slices frames).length := length_packets frames ▸ h
  have hget : (packets frames)[k] =
      wrap (packet frames.length k ((frames.drop (200 * k)).take 400)) := by
    simp only [packets, List.getElem_mapIdx, getElem_slices frames k hk]
  rw [hget]
  apply unwrap_wrap
  simp only [packet, Octets.word, List.length_append, List.length_cons, List.length_nil,
    List.length_take]
  omega

lemma carried_packets (frames : Octets) (k : ℕ) (h : k < (packets frames).length) :
    carried (packets frames)[k] = (frames.drop (200 * k)).take 400 := by
  rw [carried, unwrap_packets frames k h]
  rfl

lemma map_carried_packets (frames : Octets) : (packets frames).map carried = slices frames := by
  apply List.ext_getElem
  · rw [List.length_map, length_packets]
  · intro k h hk
    rw [List.getElem_map, carried_packets, getElem_slices frames k hk]

lemma overlayAll_packets (frames : Octets) :
    overlayAll [] 0 ((packets frames).map carried) = frames := by
  have hslices := overlayAll_slices frames 0 0 le_rfl (Nat.zero_le _)
  rwa [List.drop_zero, List.take_zero, ← map_carried_packets] at hslices

lemma packets_injective : Function.Injective packets := by
  intro frames others h
  rw [← overlayAll_packets frames, h, overlayAll_packets]

lemma carry_packets (frames : Octets) : Carry (packets frames) frames where
  count := by rw [length_packets, length_slices]
  payload k h := by rw [unwrap_packets frames k h, packet_eq]
  rebuilt := overlayAll_packets frames
  agree k h := by
    rw [carried_packets frames k (by omega), carried_packets frames (k + 1) h, List.drop_take,
      List.drop_drop, List.take_take, stride, Nat.mul_add]
    rfl

/-! ### Animations -/

lemma encode_eq_ok_iff {found : List Octets} :
    Animation.encode pictures durations = .ok found ↔
      pictures.length = durations.length ∧
        ∃ frames, Frame.buildAll (pictures.zip durations) = .ok frames ∧ found = packets frames := by
  rw [Animation.encode]
  by_cases hlength : pictures.length = durations.length
  · rw [if_neg (not_not_intro hlength)]
    cases Frame.buildAll (pictures.zip durations) with
    | error fault => simp
    | ok frames => simp [hlength, eq_comm]
  · simp [hlength]

lemma onPanel_of_buildAll {shots : List (Picture × ℤ)} (h : Frame.buildAll shots = .ok frames) :
    ∀ shot ∈ shots, OnPanel shot.1 := by
  induction shots generalizing frames with
  | nil => simp
  | cons shot shots ih =>
    obtain ⟨hshot, frame, rest, -, hrest, -⟩ := buildAll_cons_eq_ok h
    exact List.forall_mem_cons.mpr ⟨hshot, ih hrest⟩

lemma forall_mem_zip (hlength : pictures.length = durations.length) :
    (∀ shot ∈ pictures.zip durations, OnPanel shot.1) ↔ ∀ picture ∈ pictures, OnPanel picture := by
  have hfst := List.map_fst_zip hlength.le
  rw [← List.forall_mem_map, hfst]

/-- An animation has packets exactly if there is a time for each picture and all pictures have the
size of the panel, and otherwise one of these is the reason why not. The packets carry the frames,
which can be put together again, and other packets are the same exactly if they are for the same
pixels and, modulo 65536, the same times. -/
theorem animation_recoverable (pictures : List Picture) (durations : List ℤ) :
    ((∃ found, Animation.encode pictures durations = .ok found) ↔
      pictures.length = durations.length ∧ ∀ picture ∈ pictures, OnPanel picture) ∧
    (pictures.length ≠ durations.length → Animation.encode pictures durations =
      .error (.durationCount pictures.length durations.length)) ∧
    (pictures.length = durations.length → ∀ picture,
      pictures.find? (fun shown => ¬OnPanel shown) = some picture →
      Animation.encode pictures durations =
        .error (.picture (.wrongSize picture.width picture.height))) ∧
    ∀ found, Animation.encode pictures durations = .ok found →
      (∃ blocks, AreFrames (pictures.zip durations) blocks ∧ Carry found blocks.flatten) ∧
      ∀ others times same, Animation.encode others times = .ok same →
        (same = found ↔ List.Forall₂ SameFrame (pictures.zip durations) (others.zip times)) := by
  refine ⟨?_, ?_, ?_, ?_⟩
  · constructor
    · rintro ⟨found, h⟩
      obtain ⟨hlength, frames, hframes, -⟩ := encode_eq_ok_iff.mp h
      exact ⟨hlength, (forall_mem_zip hlength).mp (onPanel_of_buildAll hframes)⟩
    · rintro ⟨hlength, hall⟩
      obtain ⟨blocks, -, hframes⟩ := exists_buildAll ((forall_mem_zip hlength).mpr hall)
      exact ⟨_, encode_eq_ok_iff.mpr ⟨hlength, _, hframes, rfl⟩⟩
  · intro hlength
    rw [Animation.encode, if_pos hlength]
  · intro hlength picture hfind
    rw [← List.map_fst_zip hlength.le] at hfind
    rw [Animation.encode, if_neg (not_not_intro hlength), buildAll_of_find? hfind]
  · intro found h
    obtain ⟨-, frames, hframes, rfl⟩ := encode_eq_ok_iff.mp h
    have hall := onPanel_of_buildAll hframes
    constructor
    · obtain ⟨blocks, hblocks, hflatten⟩ := exists_buildAll hall
      obtain rfl : frames = blocks.flatten := Except.ok.inj (hframes.symm.trans hflatten)
      exact ⟨blocks, hblocks, carry_packets _⟩
    · intro others times same hsame
      obtain ⟨-, frames', hframes', rfl⟩ := encode_eq_ok_iff.mp hsame
      constructor
      · intro heq
        rw [packets_injective heq] at hframes'
        exact sameFrames_of_buildAll hframes hframes'
      · intro hshots
        have hbuild := buildAll_congr hshots hall (onPanel_of_buildAll hframes')
        rw [hframes, hframes'] at hbuild
        rw [Except.ok.inj hbuild]

/-- Times beyond a word are cut to it, so two animations with other times have the same packets. -/
theorem animation_recoverable_wrapped :
    Animation.encode [striped] [] = .error (.durationCount 1 0) ∧
      Animation.encode [striped, Picture.ofColours 1 1 []] [100, 100] =
        .error (.picture (.wrongSize 1 1)) ∧
      ∃ found, Animation.encode [striped, striped] [100, -1] = .ok found ∧
        Animation.encode [striped, striped] [65636, 65535] = .ok found ∧
        ∀ other, Animation.encode [striped, striped] [100, 0] = .ok other → other ≠ found := by
  obtain ⟨-, hcount, -⟩ := animation_recoverable [striped] []
  obtain ⟨-, -, hsize, -⟩ := animation_recoverable [striped, Picture.ofColours 1 1 []] [100, 100]
  obtain ⟨hfound, -, -, hrecover⟩ := animation_recoverable [striped, striped] [100, -1]
  obtain ⟨hsame, -⟩ := animation_recoverable [striped, striped] [65636, 65535]
  have hstriped : OnPanel striped := ⟨rfl, rfl⟩
  have hpanel : ∀ picture ∈ [striped, striped], OnPanel picture := by simp [hstriped]
  obtain ⟨found, hencode⟩ := hfound.mpr ⟨rfl, hpanel⟩
  obtain ⟨same, hencode'⟩ := hsame.mpr ⟨rfl, hpanel⟩
  obtain ⟨-, hiff⟩ := hrecover found hencode
  have hshots : List.Forall₂ SameFrame [(striped, 100), (striped, -1)]
      [(striped, 65636), (striped, 65535)] :=
    .cons ⟨rfl, by decide⟩ (.cons ⟨rfl, by decide⟩ .nil)
  obtain rfl := (hiff _ _ _ hencode').mpr hshots
  refine ⟨hcount (by decide), hsize rfl _ rfl, same, hencode, hencode', ?_⟩
  intro other hother heq
  have hshots' := (hiff _ _ _ hother).mp heq
  cases hshots' with
  | cons _ hrest =>
    cases hrest with
    | cons hlast _ => exact absurd hlast.2 (by decide)

end PixelPanel.Proofs
