import PixelPanel.Proofs.EnvelopeRow

/-!
# Damaged envelopes

An envelope in which one octet was replaced is refused. An octet of the payload or of the checksum
spoils the checksum. An octet of the length field may cut the envelope into several shorter ones, as the
payload may hold anything; but the last of these would have the checksum of the whole, and it holds
less. This needs a checksum that is the sum itself, without a carry that is lost, and a payload whose
length fits into the length field.
-/

namespace PixelPanel.Envelope

/-- What stands before the payload. -/
def header (payload : Octets) : Octets :=
  startMark :: Octets.word (payload.length + 2)

/-- What the checksum is the sum of. -/
def summed (payload : Octets) : Octets :=
  Octets.word (payload.length + 2) ++ payload

/-- What stands behind the payload. -/
def trailer (payload : Octets) : Octets :=
  Octets.word (checksum (summed payload)) ++ [endMark]

/-- The length of the payload fits into its field, and the sum of the octets into the checksum. -/
structure IsExact (payload : Octets) : Prop where
  length : payload.length ≤ 65533
  sum : (summed payload).total < 65536

end PixelPanel.Envelope

namespace PixelPanel.Proofs
open Envelope

variable {payload other first last middle octets : Octets} {position : ℕ} {octet : UInt8}

lemma row_nil : row [] = [] := rfl

/-! ### Sums -/

lemma total_append (octets more : Octets) :
    (octets ++ more).total = octets.total + more.total := by
  induction octets with
  | nil => simp [Octets.total]
  | cons octet rest ih =>
    simp only [Octets.total, List.cons_append, List.foldr_cons] at ih ⊢
    omega

lemma total_le (octets : Octets) : octets.total ≤ 255 * octets.length := by
  induction octets with
  | nil => simp [Octets.total]
  | cons octet rest ih =>
    have hoctet := octet.toNat_lt
    simp only [Octets.total, List.foldr_cons, List.length_cons] at ih ⊢
    omega

lemma total_set (h : position < octets.length) :
    Octets.total (octets.set position octet) + octets[position].toNat = octets.total + octet.toNat := by
  induction octets generalizing position with
  | nil => simp at h
  | cons head rest ih =>
    cases position with
    | zero =>
      simp only [Octets.total, List.set_cons_zero, List.foldr_cons, List.getElem_cons_zero]
      omega
    | succ position =>
      have hrest := @ih position (by simpa using h)
      simp only [Octets.total, List.set_cons_succ, List.foldr_cons, List.getElem_cons_succ] at hrest ⊢
      omega

lemma isExact_of_length_le (h : payload.length ≤ 256) : IsExact payload := by
  refine ⟨by omega, ?_⟩
  have hpayload := total_le payload
  have hword : (Octets.word (payload.length + 2)).total ≤ 255 := by
    simp only [Octets.word, Octets.total, List.foldr_cons, List.foldr_nil, UInt8.toNat_ofNat']
    omega
  rw [summed, total_append]
  omega

/-! ### The parts of an envelope -/

lemma wrap_eq (payload : Octets) :
    wrap payload = header payload ++ (payload ++ trailer payload) := by
  simp [wrap, header, trailer, summed]

lemma length_header (payload : Octets) : (header payload).length = 3 := rfl

lemma length_trailer (payload : Octets) : (trailer payload).length = 3 := rfl

/-- An envelope begins with the header of another payload only if it is as long as that one. -/
lemma length_eq_of_header {tail rest : Octets} (hpayload : payload.length ≤ 65533)
    (hother : other.length ≤ 65533) (h : header payload ++ tail = wrap other ++ rest) :
    other.length = payload.length := by
  have hcons : startMark :: UInt8.ofNat (payload.length + 2) ::
      UInt8.ofNat ((payload.length + 2) / 256) :: tail = wrap other ++ rest := h
  have hlength := ((cons_eq_wrap_append_iff hother).mp hcons).1
  rw [ofWord_ofNat _ (by omega)] at hlength
  omega

/-! ### One envelope -/

lemma set_ne_self (hlt : position < octets.length) (hne : octets[position]? ≠ some octet) :
    octets.set position octet ≠ octets := by
  intro heq
  have hnew : (octets.set position octet)[position]? = some octet := List.getElem?_set_self hlt
  rw [heq] at hnew
  exact hne hnew

/-- Two payloads of one length that differ in one octet have different checksums. -/
lemma checksum_set_ne (hlt : position < payload.length) (hne : payload[position]? ≠ some octet) :
    checksum (summed (payload.set position octet)) ≠ checksum (summed payload) := by
  have hsum := @total_set payload position octet hlt
  have hold := payload[position].toNat_lt
  have hnew := octet.toNat_lt
  have hdiffer : payload[position].toNat ≠ octet.toNat := by
    intro heq
    rw [List.getElem?_eq_getElem hlt, UInt8.toNat_inj.mp heq] at hne
    exact hne rfl
  rw [checksum, checksum, summed, summed, total_append, total_append, List.length_set]
  omega

lemma checksum_eq_of_trailer (h : trailer other = trailer payload) :
    checksum (summed other) = checksum (summed payload) := by
  have hword := (List.append_inj' h rfl).1
  exact ((word_eq_iff _ (checksum_lt _) _ _).mp hword).symm.trans
    (ofWord_ofNat _ (checksum_lt _))

/-- A damaged envelope is no other envelope. -/
lemma set_wrap_ne_wrap (hlt : position < (wrap payload).length)
    (hne : (wrap payload)[position]? ≠ some octet) :
    (wrap payload).set position octet ≠ wrap other := by
  intro heq
  have hlength : other.length = payload.length := by
    have hwhole := congrArg List.length heq
    rw [List.length_set, length_wrap, length_wrap] at hwhole
    omega
  have hheader : header other = header payload := by
    rw [header, header, hlength]
  rw [length_wrap] at hlt
  rw [wrap_eq payload] at heq hne
  rw [wrap_eq other, hheader] at heq
  have hthree := length_header payload
  by_cases hfront : position < 3
  · -- the header is damaged
    rw [List.set_append_left _ _ hfront] at heq
    rw [List.getElem?_append_left hfront] at hne
    exact set_ne_self hfront hne (List.append_inj heq (by rw [List.length_set])).1
  rw [List.set_append_right _ _ (by omega), hthree] at heq
  rw [List.getElem?_append_right (by omega), hthree] at hne
  have hrest := List.append_cancel_left heq
  by_cases hinside : position - 3 < payload.length
  · -- the payload is damaged, and the trailer tells it
    rw [List.set_append_left _ _ hinside] at hrest
    rw [List.getElem?_append_left hinside] at hne
    obtain ⟨hpayload, htrailer⟩ := List.append_inj hrest (by rw [List.length_set, hlength])
    have hsame := checksum_eq_of_trailer htrailer.symm
    rw [← hpayload] at hsame
    exact checksum_set_ne hinside hne hsame
  · -- the trailer is damaged, and the payload tells it
    rw [List.set_append_right _ _ (by omega)] at hrest
    rw [List.getElem?_append_right (by omega)] at hne
    obtain ⟨hpayload, htrailer⟩ := List.append_inj hrest hlength.symm
    rw [← hpayload] at htrailer
    refine set_ne_self ?_ hne htrailer
    rw [length_trailer]
    omega

/-! ### Several envelopes -/

lemma length_eq_of_damage_behind (hpayload : payload.length ≤ 65533) (hfirst : first.length ≤ 65533)
    (hbehind : 3 ≤ position) {rest : Octets}
    (h : (wrap payload).set position octet = wrap first ++ rest) : rest = [] := by
  rw [wrap_eq, List.set_append_right _ _ (by rwa [length_header])] at h
  have hlength := length_eq_of_header hpayload hfirst h
  have hwhole := congrArg List.length h
  rw [List.length_append, List.length_append, List.length_set, List.length_append, length_wrap,
    length_header, length_trailer] at hwhole
  exact List.length_eq_zero_iff.mp (by omega)

/-- Where an envelope whose sum has no carry ends, no shorter one ends that begins behind another: its
sum would be smaller, and its checksum the same. -/
lemma false_of_ends {front : Octets} (hexact : IsExact payload) (hfront : front.length = 3)
    (h : front ++ (payload ++ trailer payload) = wrap first ++ (middle ++ wrap last)) : False := by
  rw [wrap_eq last] at h
  obtain ⟨hinside, htrailer⟩ : front ++ payload = wrap first ++ (middle ++ (header last ++ last)) ∧
      trailer payload = trailer last := by
    refine List.append_inj' ?_ rfl
    simpa only [List.append_assoc] using h
  have hsame := checksum_eq_of_trailer htrailer
  have hpayload : payload = first ++ trailer first ++ (middle ++ (header last ++ last)) := by
    rw [wrap_eq first, List.append_assoc] at hinside
    exact (List.append_inj hinside (hfront.trans (length_header first).symm)).2
  have htotal := congrArg Octets.total hpayload
  have hheader : (header last).total = 1 + (Octets.word (last.length + 2)).total := rfl
  have hsum := hexact.sum
  simp only [total_append, hheader] at htotal
  simp only [checksum, summed, total_append] at hsame hsum
  omega

/-- An envelope in which one octet was replaced is refused, whichever octet that is, if its checksum is the
sum without a carry; as it is for every payload of at most 256 octets. -/
theorem damage_refused (h : IsExact payload ∨ payload.length ≤ 256)
    (hlt : position < (wrap payload).length) (hne : (wrap payload)[position]? ≠ some octet) :
    ∃ fault, unwrap ((wrap payload).set position octet) = .error fault := by
  have hexact : IsExact payload := h.elim id isExact_of_length_le
  cases hread : unwrap ((wrap payload).set position octet) with
  | error fault => exact ⟨fault, rfl⟩
  | ok payloads =>
    obtain ⟨hrow, hall⟩ := eq_row_of_unwrap hread
    exfalso
    cases payloads with
    | nil =>
      have hlength := congrArg List.length hrow
      rw [List.length_set, length_wrap] at hlength
      cases hlength
    | cons first rest =>
      rw [row_cons] at hrow
      rw [List.forall_mem_cons] at hall
      by_cases hbehind : 3 ≤ position
      · -- the length field is sound, so the first envelope that is read is the whole
        have hnil := length_eq_of_damage_behind hexact.length hall.1 hbehind hrow
        rw [hnil, List.append_nil] at hrow
        exact set_wrap_ne_wrap hlt hne hrow
      · rw [wrap_eq payload, List.set_append_left _ _ (by rw [length_header]; omega)] at hrow
        rcases List.eq_nil_or_concat rest with rfl | ⟨middle, last, rfl⟩
        · rw [row_nil, List.append_nil,
            ← List.set_append_left _ _ (by rw [length_header]; omega), ← wrap_eq payload] at hrow
          exact set_wrap_ne_wrap hlt hne hrow
        · -- the last envelope that is read ends with the same trailer
          have hends : row (middle ++ [last]) = row middle ++ wrap last := by
            rw [row_append, row_cons, row_nil, List.append_nil]
          rw [List.concat_eq_append, hends] at hrow
          exact false_of_ends hexact (by rw [List.length_set, length_header]) hrow

/-! ### A length that does not fit -/

/-- A payload that is too long for the length field, which shows 4 for it. It begins with the rest of an
envelope of four octets, and the beginning of another one. -/
def overlong : Octets :=
  [0xff, 0x7b, 0x7e, 0x01, 0x02, 0x01, 0xfc, 0xff] ++ List.replicate 65530 0

lemma total_replicate_zero (count : ℕ) : Octets.total (List.replicate count 0) = 0 := by
  induction count with
  | zero => rfl
  | succ count ih =>
    rw [List.replicate_succ, Octets.total, List.foldr_cons]
    exact (Nat.zero_add _).trans ih

lemma length_overlong : overlong.length = 65538 := by
  rw [overlong, List.length_append, List.length_replicate]
  rfl

lemma total_overlong : overlong.total = 1015 := by
  rw [overlong, total_append, total_replicate_zero]
  rfl

lemma summed_overlong : (summed overlong).total = 1019 := by
  rw [summed, total_append, total_overlong, length_overlong]
  rfl

lemma wrap_overlong : wrap overlong =
    [0x01, 0x04, 0x00] ++ (overlong ++ [0xfb, 0x03, 0x02]) := by
  rw [wrap_eq, header, trailer, checksum, summed_overlong, length_overlong]
  rfl

/-- Its envelope with another checksum is a row of two envelopes. -/
lemma damaged_overlong : (wrap overlong).set 65542 0x01 =
    row [[0xff, 0x7b], List.replicate 65530 0] := by
  have hsecond : wrap (List.replicate 65530 0) =
      [0x01, 0xfc, 0xff] ++ (List.replicate 65530 0 ++ [0xfb, 0x01, 0x02]) := by
    rw [wrap_eq, header, trailer, checksum, summed, total_append, total_replicate_zero,
      List.length_replicate]
    rfl
  have hrow : row [[0xff, 0x7b], List.replicate 65530 0] =
      [0x01, 0x04, 0x00] ++ (overlong ++ [0xfb, 0x01, 0x02]) := by
    rw [row_cons, row_cons, row_nil, List.append_nil, hsecond, overlong]
    rfl
  rw [hrow, wrap_overlong, List.set_append_right _ _ (by decide),
    List.set_append_right _ _ (by rw [length_overlong]; decide), length_overlong]
  rfl

/-- A payload that is too long breaks the rule: one octet of the checksum is replaced, and what comes out
can be read. -/
theorem overlong_damage_accepted :
    (summed overlong).total < 65536 ∧ 65542 < (wrap overlong).length ∧
      (wrap overlong)[65542]? ≠ some 0x01 ∧
      unwrap ((wrap overlong).set 65542 0x01) = .ok [[0xff, 0x7b], List.replicate 65530 0] := by
  refine ⟨?_, ?_, ?_, ?_⟩
  · rw [summed_overlong]
    decide
  · rw [length_wrap, length_overlong]
    decide
  · rw [wrap_overlong, List.getElem?_append_right (by decide),
      List.getElem?_append_right (by rw [length_overlong]; decide), length_overlong]
    decide
  · rw [damaged_overlong]
    refine unwrap_row _ fun payload hmem => ?_
    rcases List.mem_pair.mp hmem with rfl | rfl
    · decide
    · rw [List.length_replicate]
      decide

/-- The payload ends one envelope and begins another, so the damaged length field finds an envelope, and the
last checksum alone is wrong. -/
theorem damage_refused_inner :
    IsExact [0x01, 0x02, 0x07, 0x00, 0x02, 0x01, 0x02, 0x00] ∧
      (wrap [0x01, 0x02] <+:
        (wrap [0x01, 0x02, 0x07, 0x00, 0x02, 0x01, 0x02, 0x00]).set 1 0x04) ∧
      ∃ fault, unwrap ((wrap [0x01, 0x02, 0x07, 0x00, 0x02, 0x01, 0x02, 0x00]).set 1 0x04) =
        .error fault :=
  ⟨isExact_of_length_le (by decide), by decide,
    damage_refused (.inr (by decide)) (by decide) (by decide)⟩

end PixelPanel.Proofs
