import Mathlib.Data.List.Forall2
import PixelPanel.Capture
import PixelPanel.Proofs.EnvelopeRow

/-!
# Strict and lenient decoding

A fault of the envelopes refuses a row whatever is done with malformed payloads; only a capture that
is decoded leniently still gives the reports in front of it. Without such a fault, the lenient ways
give the reports of all payloads that are well formed, and the strict ways give the same reports if
there are no others and the first malformed payload if there are.
-/

namespace PixelPanel

/-- Whether some payload says this. -/
def Report.IsDecoded (report : Report) : Prop :=
  ∃ payload, decode payload = .ok report

end PixelPanel

namespace PixelPanel.Proofs
open Envelope Report

/-- The two header octets are at their places, so that there are at least three octets. -/
def WellFormed (payload : Octets) : Prop :=
  payload[0]? = some firstHeader ∧ payload[2]? = some secondHeader

instance (payload : Octets) : Decidable (WellFormed payload) :=
  inferInstanceAs (Decidable (_ ∧ _))

/-- The reports are those of the well formed payloads, in their order. -/
def Tells (payloads : List Octets) (reports : List Report) : Prop :=
  List.Forall₂ (fun payload report => decode payload = .ok report)
    (payloads.filter fun payload => WellFormed payload) reports

/-- The malformed payloads, in their order. -/
def malformedOf (payloads : List Octets) : List Malformed :=
  (payloads.filter fun payload => ¬WellFormed payload).map Malformed.mk

variable {payload : Octets} {payloads : List Octets} {octets : Octets}

/-! ### Decoding one payload -/

lemma exists_decode_of_wellFormed (h : WellFormed payload) :
    ∃ report, decode payload = .ok report := by
  match payload with
  | [] => cases h.1
  | [_] => cases h.2
  | [_, _] => cases h.2
  | first :: command :: second :: data =>
    obtain rfl : first = firstHeader := Option.some.inj h.1
    obtain rfl : second = secondHeader := Option.some.inj h.2
    rw [decode, if_neg (by simp)]
    cases Kind.ofCommand? command with
    | none => exact ⟨_, rfl⟩
    | some kind => exact ⟨_, rfl⟩

lemma decode_of_not_wellFormed (h : ¬WellFormed payload) : decode payload = .error ⟨payload⟩ := by
  match payload with
  | [] => rfl
  | [_] => rfl
  | [_, _] => rfl
  | first :: command :: second :: data =>
    have hheaders : first ≠ firstHeader ∨ second ≠ secondHeader := by
      by_contra hboth
      simp only [not_or, not_not] at hboth
      apply h
      rw [hboth.1, hboth.2]
      exact ⟨rfl, rfl⟩
    rw [decode, if_pos hheaders]

lemma malformedOf_cons_of_wellFormed (h : WellFormed payload) :
    malformedOf (payload :: payloads) = malformedOf payloads := by
  simp [malformedOf, h]

lemma malformedOf_cons_of_not (h : ¬WellFormed payload) :
    malformedOf (payload :: payloads) = ⟨payload⟩ :: malformedOf payloads := by
  simp [malformedOf, h]

/-! ### Decoding payloads -/

lemma decodeEach_eq (payloads : List Octets) :
    Tells payloads (decodeEach payloads).1 ∧ (decodeEach payloads).2 = malformedOf payloads := by
  induction payloads with
  | nil => exact ⟨List.Forall₂.nil, rfl⟩
  | cons payload rest ih =>
    obtain ⟨htells, hmalformed⟩ := ih
    by_cases h : WellFormed payload
    · obtain ⟨report, hreport⟩ := exists_decode_of_wellFormed h
      rw [malformedOf_cons_of_wellFormed h, Tells, List.filter_cons_of_pos (by simpa using h)]
      simp only [decodeEach, hreport]
      exact ⟨.cons hreport htells, hmalformed⟩
    · rw [malformedOf_cons_of_not h, Tells, List.filter_cons_of_neg (by simpa using h)]
      simp only [decodeEach, decode_of_not_wellFormed h]
      exact ⟨htells, by rw [hmalformed]⟩

/-- All payloads are decoded, or the first malformed one is the reason why not. -/
lemma decodeAll_eq (payloads : List Octets) :
    decodeAll payloads =
      match malformedOf payloads with
      | [] => .ok (decodeEach payloads).1
      | first :: _ => .error first := by
  induction payloads with
  | nil => rfl
  | cons payload rest ih =>
    by_cases h : WellFormed payload
    · obtain ⟨report, hreport⟩ := exists_decode_of_wellFormed h
      rw [malformedOf_cons_of_wellFormed h, decodeAll, List.mapM_cons, hreport]
      rw [decodeAll] at ih
      simp only [decodeEach, hreport]
      rw [ih]
      cases malformedOf rest with
      | nil => rfl
      | cons first others => rfl
    · rw [malformedOf_cons_of_not h, decodeAll, List.mapM_cons, decode_of_not_wellFormed h]
      rfl

/-! ### Reading a row -/

lemma unwrap_of_fault {fault : Fault} (h : unwrapPartial octets = (payloads, some fault)) :
    unwrap octets = .error fault := by
  rw [unwrap, h]

lemma unwrap_of_no_fault (h : unwrapPartial octets = (payloads, none)) :
    unwrap octets = .ok payloads := by
  rw [unwrap, h]

lemma readAll_of_no_fault (h : unwrapPartial octets = (payloads, none)) :
    readAll octets =
      match malformedOf payloads with
      | [] => .ok (decodeEach payloads).1
      | first :: _ => .error (.malformed first) := by
  rw [readAll, unwrap_of_no_fault h]
  dsimp only
  rw [decodeAll_eq]
  cases malformedOf payloads with
  | nil => rfl
  | cons first others => rfl

lemma decodeLenient_eq {fault? : Option Fault} (h : unwrapPartial octets = (payloads, fault?)) :
    Capture.decodeLenient octets = ⟨octets, (decodeEach payloads).1,
      fault?.toList.map .fault ++ (malformedOf payloads).map .malformed⟩ := by
  rw [Capture.decodeLenient, h]
  dsimp only
  rw [(decodeEach_eq payloads).2]

lemma error?_cons (octets : Octets) (reports : List Report) (failure : Failure)
    (rest : List Failure) :
    Capture.error? ⟨octets, reports, failure :: rest⟩ =
      some ("; ".intercalate (failure.message :: rest.map Failure.message)) := rfl

/-- The text of a lenient error behind a fault: the fault alone, or more behind a semicolon. -/
lemma intercalate_cons (first : String) (rest : List String) :
    "; ".intercalate (first :: rest) = first ∨
      ∃ more, "; ".intercalate (first :: rest) = first ++ "; " ++ more := by
  cases rest with
  | nil => exact .inl String.intercalate_singleton
  | cons second others => exact .inr ⟨_, String.intercalate_cons_cons⟩

lemma readEach_of_no_fault (h : unwrapPartial octets = (payloads, none)) :
    readEach octets = .ok ((decodeEach payloads).1, malformedOf payloads) := by
  rw [readEach, unwrap_of_no_fault h, ← (decodeEach_eq payloads).2]

lemma lenient_error?_of_no_fault (h : unwrapPartial octets = (payloads, none)) :
    (Capture.decodeLenient octets).error? =
      if malformedOf payloads = [] then none
      else some ("; ".intercalate ((malformedOf payloads).map Malformed.message)) := by
  rw [decodeLenient_eq h]
  cases malformedOf payloads with
  | nil => rfl
  | cons first others =>
    rw [if_neg (List.cons_ne_nil _ _)]
    change Capture.error? ⟨octets, _, .malformed first :: others.map .malformed⟩ = _
    rw [error?_cons, List.map_map]
    rfl

/-! ### Decoded reports -/

lemma isDecoded_of_mem_decodeEach {report : Report} (h : report ∈ (decodeEach payloads).1) :
    report.IsDecoded := by
  induction payloads with
  | nil => cases h
  | cons payload rest ih =>
    rw [decodeEach] at h
    cases hdecode : decode payload with
    | error malformed =>
      rw [hdecode] at h
      exact ih h
    | ok found =>
      rw [hdecode] at h
      obtain rfl | hlater := List.mem_cons.mp h
      · exact ⟨payload, hdecode⟩
      · exact ih hlater

lemma isDecoded_of_decodeAll {reports : List Report} (h : decodeAll payloads = .ok reports) :
    ∀ report ∈ reports, report.IsDecoded := by
  rw [decodeAll_eq] at h
  split at h
  · obtain rfl := Except.ok.inj h
    exact fun report hmem => isDecoded_of_mem_decodeEach hmem
  · cases h

lemma isDecoded_of_readAll {reports : List Report}
    (h : readAll octets = .ok reports) : ∀ report ∈ reports, report.IsDecoded := by
  unfold readAll at h
  split at h
  · cases h
  · split at h
    · cases h
    · rename_i decoded hdecoded
      obtain rfl := Except.ok.inj h
      exact isDecoded_of_decodeAll hdecoded

/-- Whatever a capture reports has been decoded. -/
lemma isDecoded_of_mem_reports {lenient : Bool} :
    ∀ report ∈ (Capture.decode lenient octets).reports, report.IsDecoded := by
  cases lenient with
  | true => exact fun report h => isDecoded_of_mem_decodeEach h
  | false =>
    change ∀ report ∈ (Capture.decodeStrict octets).reports, report.IsDecoded
    rw [Capture.decodeStrict]
    split
    · rename_i hread
      exact isDecoded_of_readAll hread
    · exact List.forall_mem_nil _

/-! ### The ways of decoding compared -/

lemma strict_error?_eq_none_iff (octets : Octets) :
    (Capture.decodeStrict octets).error? = none ↔
      ∃ payloads, unwrapPartial octets = (payloads, none) ∧ malformedOf payloads = [] := by
  rcases h : unwrapPartial octets with ⟨payloads, _ | fault⟩
  · rw [Capture.decodeStrict, readAll_of_no_fault h]
    cases hcases : malformedOf payloads with
    | nil => simp [Capture.error?, hcases]
    | cons first others => simp [Capture.error?, hcases]
  · rw [Capture.decodeStrict, readAll, unwrap_of_fault h]
    simp [Capture.error?]

lemma lenient_error?_eq_none_iff (octets : Octets) :
    (Capture.decodeLenient octets).error? = none ↔
      ∃ payloads, unwrapPartial octets = (payloads, none) ∧ malformedOf payloads = [] := by
  rcases h : unwrapPartial octets with ⟨payloads, _ | fault⟩
  · rw [decodeLenient_eq h]
    simp [Capture.error?]
  · rw [decodeLenient_eq h]
    simp [Capture.error?]

/-- A fault of the envelopes refuses a row with and without its malformed payloads skipped, and is
the strict error and the beginning of the lenient one. Without a fault the lenient ways agree, with
one warning and one part of the error for each malformed payload; the strict ways give the same
reports if there is no malformed payload, and else the first of them. -/
theorem decodings_agree (octets : Octets) :
    (∀ payloads fault, unwrapPartial octets = (payloads, some fault) →
      readAll octets = .error (.fault fault) ∧ readEach octets = .error fault ∧
      skipLog octets = [] ∧
      (Capture.decodeStrict octets).reports = [] ∧
      (Capture.decodeStrict octets).error? = some fault.message ∧
      Tells payloads (Capture.decodeLenient octets).reports ∧
      ∃ error, (Capture.decodeLenient octets).error? = some error ∧
        (error = fault.message ∨ ∃ more, error = fault.message ++ "; " ++ more)) ∧
    (∀ payloads, unwrapPartial octets = (payloads, none) → ∃ reports, Tells payloads reports ∧
      readEach octets = .ok (reports, malformedOf payloads) ∧
      skipLog octets = (malformedOf payloads).map
        (fun malformed => ⟨.warning, .report, "Skipping message: " ++ malformed.message⟩) ∧
      (Capture.decodeLenient octets).reports = reports ∧
      (Capture.decodeLenient octets).error? =
        (if malformedOf payloads = [] then none
          else some ("; ".intercalate ((malformedOf payloads).map Malformed.message))) ∧
      (readAll octets = .ok reports ↔ malformedOf payloads = []) ∧
      ∀ first others, malformedOf payloads = first :: others →
        readAll octets = .error (.malformed first) ∧
        (Capture.decodeStrict octets).reports = [] ∧
        (Capture.decodeStrict octets).error? = some first.message) ∧
    ((Capture.decodeStrict octets).error? = none ↔
      (Capture.decodeLenient octets).error? = none) ∧
    ((Capture.decodeStrict octets).error? = none →
      (Capture.decodeStrict octets).reports = (Capture.decodeLenient octets).reports) := by
  refine ⟨?_, ?_, ?_, ?_⟩
  · intro payloads fault h
    have hunwrap := unwrap_of_fault h
    have hread : readAll octets = .error (.fault fault) := by
      rw [readAll, hunwrap]
    have heach : readEach octets = .error fault := by
      rw [readEach, hunwrap]
    have hlenient := decodeLenient_eq h
    refine ⟨hread, heach, ?_, ?_, ?_, ?_, ?_⟩
    · rw [skipLog, heach]
    · rw [Capture.decodeStrict, hread]
    · rw [Capture.decodeStrict, hread]
      rfl
    · rw [hlenient]
      exact (decodeEach_eq payloads).1
    · rw [hlenient]
      exact ⟨_, error?_cons _ _ _ _, intercalate_cons _ _⟩
  · intro payloads h
    have hread := readAll_of_no_fault h
    have heach := readEach_of_no_fault h
    refine ⟨(decodeEach payloads).1, (decodeEach_eq payloads).1, heach, ?_, ?_,
      lenient_error?_of_no_fault h, ?_, ?_⟩
    · rw [skipLog, heach]
      rfl
    · rw [decodeLenient_eq h]
    · rw [hread]
      cases malformedOf payloads with
      | nil => simp
      | cons first others => simp
    · intro first others hcases
      rw [hcases] at hread
      rw [Capture.decodeStrict, hread]
      exact ⟨rfl, rfl, rfl⟩
  · rw [strict_error?_eq_none_iff, lenient_error?_eq_none_iff]
  · intro hnone
    obtain ⟨payloads, h, hclean⟩ := (strict_error?_eq_none_iff octets).mp hnone
    rw [decodeLenient_eq h, Capture.decodeStrict, readAll_of_no_fault h, hclean]

/-- A report, a malformed payload and a cut envelope, and the same without the cut envelope. -/
theorem decodings_agree_cut :
    (unwrapPartial (row [[0x04, 0x09, 0x55, 0x08], [0x46]] ++ [0x01, 0x05]) =
        ([[0x04, 0x09, 0x55, 0x08], [0x46]], some (.lengthMissing 17)) ∧
      readAll (row [[0x04, 0x09, 0x55, 0x08], [0x46]] ++ [0x01, 0x05]) =
        .error (.fault (.lengthMissing 17)) ∧
      (Capture.decodeLenient (row [[0x04, 0x09, 0x55, 0x08], [0x46]] ++ [0x01, 0x05])).reports.length
        = 1) ∧
    unwrapPartial (row [[0x04, 0x09, 0x55, 0x08], [0x46]]) =
      ([[0x04, 0x09, 0x55, 0x08], [0x46]], none) ∧
    readAll (row [[0x04, 0x09, 0x55, 0x08], [0x46]]) = .error (.malformed ⟨[0x46]⟩) := by
  have hcut : unwrapPartial (row [[0x04, 0x09, 0x55, 0x08], [0x46]] ++ [0x01, 0x05]) =
      ([[0x04, 0x09, 0x55, 0x08], [0x46]], some (.lengthMissing 17)) := by decide +kernel
  have hwhole : unwrapPartial (row [[0x04, 0x09, 0x55, 0x08], [0x46]]) =
      ([[0x04, 0x09, 0x55, 0x08], [0x46]], none) := by decide +kernel
  obtain ⟨hread, -, -, -, -, htells, -⟩ := (decodings_agree _).1 _ _ hcut
  obtain ⟨reports, -, -, -, -, -, -, hfirst⟩ := (decodings_agree _).2.1 _ hwhole
  refine ⟨⟨hcut, hread, ?_⟩, hwhole, (hfirst ⟨[0x46]⟩ [] (by decide)).1⟩
  have hone := htells.length_eq
  rw [← hone]
  decide

end PixelPanel.Proofs
