import Mathlib.Data.Int.Notation
import Mathlib.Data.List.Basic
import PixelPanel.Proofs.CaptureModes

/-!
# What payloads report

A payload of the panel is decoded unless its header is missing, and it can be put together again from
its report. A table says which octet of the data tells the channel, the brightness and the volume. Every
report has a description but those with an unknown command, with too little data, or with data that no
button and no change of the alarm configuration has.
-/

namespace PixelPanel.Report

/-- A payload is too short, or one of the two header octets is another one. -/
def LacksHeader (payload : Octets) : Prop :=
  payload.length < 3 ∨ payload[0]? ≠ some 0x04 ∨ payload[2]? ≠ some 0x55

instance (payload : Octets) : Decidable (LacksHeader payload) :=
  inferInstanceAs (Decidable (_ ∨ _))

/-- Where a value can be found: the number of the command, the least number of octets of data, and the
place of the value among them. -/
structure Source where
  command : UInt8
  least : ℕ
  place : ℕ
  deriving DecidableEq

/-- Where reports tell the channel. -/
def channelSources : List Source := [⟨0x46, 21, 20⟩, ⟨0x45, 1, 0⟩]

/-- Where reports tell the brightness. -/
def brightnessSources : List Source := [⟨0x46, 20, 6⟩, ⟨0x32, 1, 0⟩, ⟨0x31, 1, 0⟩]

/-- Where reports tell the volume. -/
def volumeSources : List Source := [⟨0x09, 1, 0⟩]

/-- A value is what can be found at one of the places, and missing if there is none of them. -/
def IsFoundAt (sources : List Source) (command : UInt8) (data : Octets) (value : Option ℤ) : Prop :=
  ∀ found, value = some found ↔ ∃ source ∈ sources, source.command = command ∧
    source.least ≤ data.length ∧ ∃ _ : source.place < data.length, found = data[source.place].toNat

/-- The numbers of the commands that have a description. -/
def describedCommands : List UInt8 :=
  [0x09, 0x13, 0x18, 0x31, 0x32, 0x44, 0x45, 0x46, 0x49, 0xBD]

/-- The data of the button presses that have a description. -/
def buttonPatterns : List Octets := [[19, 1, 50, 0], [23, 0], [19, 1, 30, 0]]

/-- There is no description for a command with some data. -/
def Undescribed (command : UInt8) (data : Octets) : Prop :=
  command ∉ describedCommands ∨ (command ∈ [0x45, 0x32, 0x31, 0x09] ∧ data = []) ∨
    (command = 0x46 ∧ data.length < 20) ∨ (command = 0xBD ∧ data ∉ buttonPatterns) ∨
    (command = 0x13 ∧ data ≠ [0] ∧ data ≠ [10])

instance (command : UInt8) (data : Octets) : Decidable (Undescribed command data) :=
  inferInstanceAs (Decidable (_ ∨ _))

/-- How the text of a report begins that has no description. -/
def unknownStart : String := "Unknown message with command ID"

/-- A report tells what the table says about a command and its data. -/
structure Tabulated (command : UInt8) (data : Octets) (report : Report) : Prop where
  command_eq : report.command = command.toNat
  data_eq : report.data = data
  channel : IsFoundAt channelSources command data report.channel
  brightness : IsFoundAt brightnessSources command data report.brightness
  volume : IsFoundAt volumeSources command data report.volume
  unknown_iff : unknownStart.toList <+: report.text.toList ↔ Undescribed command data

/-- Two texts differ before one of them ends. -/
def Diverge (text other : String) : Prop :=
  ¬text.toList <+: other.toList ∧ ¬other.toList <+: text.toList

instance (text other : String) : Decidable (Diverge text other) :=
  inferInstanceAs (Decidable (_ ∧ _))

/-- The number of the command of a kind. -/
def Kind.number : Kind → UInt8
  | volumeSet => 0x09
  | alarmConfig => 0x13
  | timeSet => 0x18
  | acknowledge => 0x31
  | brightnessSet => 0x32
  | imageSet => 0x44
  | channelSet => 0x45
  | settings => 0x46
  | animationSet => 0x49
  | buttonPress => 0xBD

/-- What is known about a kind of report from its data alone. -/
def Kind.tells (kind : Kind) (data : Octets) : Report :=
  describe { command := kind.number.toNat, data } kind

end PixelPanel.Report

namespace PixelPanel.Proofs
open Report

variable {command : UInt8} {data payload : Octets} {sources : List Source} {report : Report}
  {kind : Kind}

/-! ### Headers -/

lemma lacksHeader_iff : LacksHeader payload ↔ ¬WellFormed payload := by
  rw [LacksHeader, WellFormed, not_and_or]
  refine or_iff_right_of_imp fun hshort => .inr ?_
  rw [List.getElem?_eq_none (by omega)]
  exact nofun

lemma exists_of_wellFormed (h : WellFormed payload) :
    ∃ command data, payload = [0x04, command, 0x55] ++ data := by
  match payload with
  | [] => cases h.1
  | [_] => cases h.2
  | [_, _] => cases h.2
  | first :: command :: second :: data =>
    obtain rfl : first = 0x04 := Option.some.inj h.1
    obtain rfl : second = 0x55 := Option.some.inj h.2
    exact ⟨command, data, rfl⟩

/-! ### Kinds of reports -/

lemma ofCommand?_eq_some_iff : Kind.ofCommand? command = some kind ↔ command = kind.number := by
  constructor
  · intro h
    unfold Kind.ofCommand? at h
    split at h
    all_goals
      cases h
      try rfl
  · rintro rfl
    cases kind <;> rfl

lemma not_mem_describedCommands (h : Kind.ofCommand? command = none) : command ∉ describedCommands := by
  have hknown : (describedCommands.all fun command => (Kind.ofCommand? command).isSome) = true := by
    decide
  intro hmem
  have hsome := List.all_eq_true.mp hknown command hmem
  rw [h] at hsome
  cases hsome

/-- A payload is decoded by the kind of its command. -/
lemma decode_cases (command : UInt8) (data : Octets) :
    (command ∉ describedCommands ∧
      decode ([0x04, command, 0x55] ++ data) = .ok { command := command.toNat, data }) ∨
    ∃ kind : Kind, command = kind.number ∧
      decode ([0x04, command, 0x55] ++ data) = .ok (kind.tells data) := by
  have hheader : ¬((0x04 : UInt8) ≠ firstHeader ∨ (0x55 : UInt8) ≠ secondHeader) := by decide
  change (_ ∧ decode (0x04 :: command :: 0x55 :: data) = _) ∨
    ∃ kind : Kind, _ ∧ decode (0x04 :: command :: 0x55 :: data) = _
  rw [decode, if_neg hheader]
  cases hkind : Kind.ofCommand? command with
  | none => exact .inl ⟨not_mem_describedCommands hkind, rfl⟩
  | some kind =>
    obtain rfl := ofCommand?_eq_some_iff.mp hkind
    exact .inr ⟨kind, rfl, rfl⟩

/-! ### Values -/

lemma isFoundAt_none (h : ∀ source ∈ sources, source.command = command → data.length < source.least) :
    IsFoundAt sources command data none := by
  intro found
  refine iff_of_false nofun ?_
  rintro ⟨source, hmem, hcommand, hleast, -⟩
  exact absurd (h source hmem hcommand) (Nat.not_lt.mpr hleast)

/-- There is no place for a value in the data of a command. -/
lemma isFoundAt_other (h : ∀ source ∈ sources, source.command ≠ command) :
    IsFoundAt sources command data none :=
  isFoundAt_none fun source hmem hcommand => absurd hcommand (h source hmem)

lemma isFoundAt_some {source : Source} (hmem : source ∈ sources)
    (hunique : ∀ other ∈ sources, other.command = source.command → other = source)
    (hleast : source.least ≤ data.length) (hplace : source.place < data.length) :
    IsFoundAt sources source.command data (some data[source.place].toNat) := by
  intro found
  rw [Option.some.injEq]
  constructor
  · rintro rfl
    exact ⟨source, hmem, rfl, hleast, hplace, rfl⟩
  · rintro ⟨other, hother, hcommand, -, -, rfl⟩
    obtain rfl := hunique other hother hcommand
    rfl

/-! ### Texts -/

lemma Diverge.append {text other : String} (h : Diverge text other) (rest : String) :
    Diverge text (other ++ rest) := by
  have hfront : other.toList <+: (other ++ rest).toList := by
    rw [String.toList_append]
    exact List.prefix_append _ _
  refine ⟨fun hbefore => ?_, fun hbefore => h.2 (hfront.trans hbefore)⟩
  exact (List.prefix_or_prefix_of_prefix hbefore hfront).elim h.1 h.2

lemma ne_empty_of_diverge {text other : String} (h : Diverge text other) : other ≠ "" := by
  rintro rfl
  exact h.2 List.nil_prefix

/-- Only the text of a report without a description begins as all such texts do. -/
lemma unknown_iff_of_description (h : report.description = "" ∨ Diverge unknownStart report.description) :
    unknownStart.toList <+: report.text.toList ↔ report.description = "" := by
  obtain hnone | hdiverge := h
  · have hstart : unknownStart.toList <+: "Unknown message with command ID ".toList := by
      decide +kernel
    refine iff_of_true ?_ hnone
    rw [Report.text, if_neg (not_not_intro hnone)]
    simp only [String.toList_append, List.append_assoc, toString]
    exact hstart.trans (List.prefix_append _ _)
  · have hsome := ne_empty_of_diverge hdiverge
    rw [Report.text, if_pos hsome]
    exact iff_of_false hdiverge.1 hsome

/-! ### The table -/

/-- A report whose values are found where they should be, and whose description is missing when it
should be. -/
lemma tabulated_of_description (hcommand : report.command = command.toNat) (hdata : report.data = data)
    (hchannel : IsFoundAt channelSources command data report.channel)
    (hbrightness : IsFoundAt brightnessSources command data report.brightness)
    (hvolume : IsFoundAt volumeSources command data report.volume)
    (hdescription : Undescribed command data ∧ report.description = "" ∨
      ¬Undescribed command data ∧ Diverge unknownStart report.description) :
    Tabulated command data report := by
  refine ⟨hcommand, hdata, hchannel, hbrightness, hvolume, ?_⟩
  rw [unknown_iff_of_description (hdescription.imp And.right And.right)]
  obtain ⟨hnot, hnone⟩ | ⟨hknown, hdiverge⟩ := hdescription
  · exact iff_of_true hnone hnot
  · exact iff_of_false (ne_empty_of_diverge hdiverge) hknown

lemma tabulated_unknown (h : command ∉ describedCommands) :
    Tabulated command data { command := command.toNat, data } := by
  have hother : ∀ sources : List Source, (∀ source ∈ sources, source.command ∈ describedCommands) →
      ∀ source ∈ sources, source.command ≠ command := by
    rintro sources hall source hmem rfl
    exact h (hall source hmem)
  exact tabulated_of_description rfl rfl
    (isFoundAt_other (hother _ (by decide))) (isFoundAt_other (hother _ (by decide)))
    (isFoundAt_other (hother _ (by decide))) (.inl ⟨.inl h, rfl⟩)

/-- When a command of a known kind has no description. -/
lemma undescribed_number (kind : Kind) (data : Octets) : Undescribed kind.number data ↔
    match kind with
    | .channelSet | .brightnessSet | .acknowledge | .volumeSet => data = []
    | .settings => data.length < 20
    | .buttonPress => data ∉ buttonPatterns
    | .alarmConfig => data ≠ [0] ∧ data ≠ [10]
    | .timeSet | .imageSet | .animationSet => False := by
  cases kind <;> simp [Undescribed, Kind.number, describedCommands]

/-- A report of a kind that has no values. -/
lemma tabulated_of_no_sources {text : String}
    (htells : kind.tells data = { command := kind.number.toNat, data, description := text })
    (hsources : ∀ source ∈ channelSources ++ brightnessSources ++ volumeSources,
      source.command ≠ kind.number)
    (hdescription : Undescribed kind.number data ∧ text = "" ∨
      ¬Undescribed kind.number data ∧ Diverge unknownStart text) :
    Tabulated kind.number data (kind.tells data) := by
  simp only [List.forall_mem_append] at hsources
  obtain ⟨⟨hchannel, hbrightness⟩, hvolume⟩ := hsources
  rw [htells]
  exact tabulated_of_description rfl rfl (isFoundAt_other hchannel) (isFoundAt_other hbrightness)
    (isFoundAt_other hvolume) hdescription

/-- A report with too little data for any of its values. -/
lemma tabulated_of_short (htells : kind.tells data = { command := kind.number.toNat, data })
    (hshort : ∀ source ∈ channelSources ++ brightnessSources ++ volumeSources,
      source.command = kind.number → data.length < source.least)
    (hundescribed : Undescribed kind.number data) :
    Tabulated kind.number data (kind.tells data) := by
  simp only [List.forall_mem_append] at hshort
  obtain ⟨⟨hchannel, hbrightness⟩, hvolume⟩ := hshort
  rw [htells]
  exact tabulated_of_description rfl rfl (isFoundAt_none hchannel) (isFoundAt_none hbrightness)
    (isFoundAt_none hvolume) (.inl ⟨hundescribed, rfl⟩)

lemma tabulated_fixed (hkind : kind ∈ [Kind.timeSet, .imageSet, .animationSet]) :
    Tabulated kind.number data (kind.tells data) := by
  have hdescribed : ¬Undescribed kind.number data := by
    rw [undescribed_number]
    simp only [List.mem_cons, List.not_mem_nil, or_false] at hkind
    obtain rfl | rfl | rfl := hkind <;> exact id
  simp only [List.mem_cons, List.not_mem_nil, or_false] at hkind
  obtain rfl | rfl | rfl := hkind
  · exact tabulated_of_no_sources rfl (by decide) (.inr ⟨hdescribed, by decide +kernel⟩)
  · exact tabulated_of_no_sources rfl (by decide) (.inr ⟨hdescribed, by decide +kernel⟩)
  · exact tabulated_of_no_sources rfl (by decide) (.inr ⟨hdescribed, by decide +kernel⟩)

lemma tabulated_buttonPress (data : Octets) :
    Tabulated Kind.buttonPress.number data (Kind.buttonPress.tells data) := by
  refine tabulated_of_no_sources rfl (by decide) ?_
  rw [undescribed_number]
  change data ∉ buttonPatterns ∧ buttonText data = "" ∨ ¬data ∉ buttonPatterns ∧ _
  by_cases hmem : data ∈ buttonPatterns
  · have htexts : ∀ data ∈ buttonPatterns, Diverge unknownStart (buttonText data) := by decide +kernel
    exact .inr ⟨not_not_intro hmem, htexts data hmem⟩
  · refine .inl ⟨hmem, ?_⟩
    unfold buttonText
    split
    · exact absurd (by decide) hmem
    · exact absurd (by decide) hmem
    · exact absurd (by decide) hmem
    · rfl

lemma tabulated_alarmConfig (data : Octets) :
    Tabulated Kind.alarmConfig.number data (Kind.alarmConfig.tells data) := by
  refine tabulated_of_no_sources rfl (by decide) ?_
  rw [undescribed_number]
  change (data ≠ [0] ∧ data ≠ [10]) ∧ alarmText data = "" ∨ ¬(data ≠ [0] ∧ data ≠ [10]) ∧ _
  unfold alarmText
  split
  · exact .inr ⟨fun h => h.1 rfl, by decide +kernel⟩
  · exact .inr ⟨fun h => h.2 rfl, by decide +kernel⟩
  · rename_i hzero hten
    exact .inl ⟨⟨hzero, hten⟩, rfl⟩

lemma isFoundAt_first {source : Source} {value : UInt8} {rest : Octets} (hmem : source ∈ sources)
    (hunique : ∀ other ∈ sources, other.command = source.command → other = source)
    (hleast : source.least ≤ 1) (hplace : source.place = 0) :
    IsFoundAt sources source.command (value :: rest) (some value.toNat) := by
  obtain ⟨number, least, place⟩ := source
  obtain rfl : place = 0 := hplace
  have hfilled : 1 ≤ (value :: rest).length := Nat.succ_le_succ (Nat.zero_le _)
  exact @isFoundAt_some _ sources ⟨number, least, 0⟩ hmem hunique (Nat.le_trans hleast hfilled) hfilled

/-- The kinds whose only value is the first octet. -/
lemma tabulated_firstOctet (hkind : kind ∈ [Kind.channelSet, .brightnessSet, .acknowledge, .volumeSet])
    (data : Octets) : Tabulated kind.number data (kind.tells data) := by
  simp only [List.mem_cons, List.not_mem_nil, or_false] at hkind
  cases data with
  | nil =>
    obtain rfl | rfl | rfl | rfl := hkind <;>
      exact tabulated_of_short rfl (by decide) ((undescribed_number _ []).mpr rfl)
  | cons value rest =>
    have hdescribed : ¬Undescribed kind.number (value :: rest) := by
      rw [undescribed_number]
      obtain rfl | rfl | rfl | rfl := hkind <;> exact List.cons_ne_nil value rest
    obtain rfl | rfl | rfl | rfl := hkind
    · refine tabulated_of_description rfl rfl ?_ (isFoundAt_other (by decide))
        (isFoundAt_other (by decide)) (.inr ⟨hdescribed, ?_⟩)
      · exact @isFoundAt_first _ ⟨0x45, 1, 0⟩ _ _ (by decide) (by decide) (Nat.le_refl 1) rfl
      · exact Diverge.append (by decide +kernel) _
    · refine tabulated_of_description rfl rfl (isFoundAt_other (by decide)) ?_
        (isFoundAt_other (by decide)) (.inr ⟨hdescribed, ?_⟩)
      · exact @isFoundAt_first _ ⟨0x32, 1, 0⟩ _ _ (by decide) (by decide) (Nat.le_refl 1) rfl
      · exact Diverge.append (by decide +kernel) _
    · refine tabulated_of_description rfl rfl (isFoundAt_other (by decide)) ?_
        (isFoundAt_other (by decide)) (.inr ⟨hdescribed, ?_⟩)
      · exact @isFoundAt_first _ ⟨0x31, 1, 0⟩ _ _ (by decide) (by decide) (Nat.le_refl 1) rfl
      · exact Diverge.append (by decide +kernel) _
    · refine tabulated_of_description rfl rfl (isFoundAt_other (by decide))
        (isFoundAt_other (by decide)) ?_ (.inr ⟨hdescribed, ?_⟩)
      · exact @isFoundAt_first _ ⟨0x09, 1, 0⟩ _ _ (by decide) (by decide) (Nat.le_refl 1) rfl
      · exact Diverge.append (Diverge.append (by decide +kernel) _) _

/-- Settings have a brightness from twenty octets on, and a channel from one more on. -/
lemma tabulated_settings (data : Octets) :
    Tabulated Kind.settings.number data (Kind.settings.tells data) := by
  by_cases hshort : data.length < 20
  · have htells : Kind.settings.tells data = { command := Kind.settings.number.toNat, data } :=
      (dif_neg (Nat.not_lt.mpr (Nat.le_of_lt hshort))).trans (dif_neg (Nat.not_le.mpr hshort))
    refine tabulated_of_short htells ?_ ((undescribed_number _ _).mpr hshort)
    have hleast : ∀ source ∈ channelSources ++ brightnessSources ++ volumeSources,
        source.command = Kind.settings.number → 20 ≤ source.least := by decide
    exact fun source hmem hcommand => Nat.lt_of_lt_of_le hshort (hleast source hmem hcommand)
  · have hdescribed : ¬Undescribed Kind.settings.number data := mt (undescribed_number _ _).mp hshort
    have hbrightness : brightnessPlace < data.length := by
      rw [brightnessPlace]
      omega
    have hfound : IsFoundAt brightnessSources 0x46 data (some data[brightnessPlace].toNat) :=
      @isFoundAt_some _ _ ⟨0x46, 20, 6⟩ (by decide) (by decide) (Nat.le_of_not_lt hshort) hbrightness
    by_cases hlong : channelPlace < data.length
    · have htells : Kind.settings.tells data = _ := dif_pos hlong
      rw [htells]
      refine tabulated_of_description rfl rfl ?_ hfound (isFoundAt_other (by decide))
        (.inr ⟨hdescribed, ?_⟩)
      · exact @isFoundAt_some _ _ ⟨0x46, 21, 20⟩ (by decide) (by decide) hlong hlong
      · exact Diverge.append (Diverge.append (Diverge.append (by decide +kernel) _) _) _
    · have htells : Kind.settings.tells data = _ :=
        (dif_neg hlong).trans (dif_pos (Nat.le_of_not_lt hshort))
      rw [htells]
      have hmissing : ∀ source ∈ channelSources, source.command = 0x46 → 21 ≤ source.least := by decide
      refine tabulated_of_description rfl rfl (isFoundAt_none ?_) hfound (isFoundAt_other (by decide))
        (.inr ⟨hdescribed, ?_⟩)
      · intro source hmem hcommand
        have hleast := hmissing source hmem hcommand
        exact Nat.lt_of_le_of_lt (Nat.le_of_not_lt hlong) hleast
      · exact Diverge.append (by decide +kernel) _

lemma tabulated_tells (kind : Kind) (data : Octets) : Tabulated kind.number data (kind.tells data) := by
  cases kind with
  | settings => exact tabulated_settings data
  | buttonPress => exact tabulated_buttonPress data
  | alarmConfig => exact tabulated_alarmConfig data
  | timeSet | imageSet | animationSet => exact tabulated_fixed (by decide)
  | channelSet | brightnessSet | acknowledge | volumeSet => exact tabulated_firstOctet (by decide) data

/-- A payload with its header is decoded as the table says. -/
lemma exists_tabulated (command : UInt8) (data : Octets) :
    ∃ report, decode ([0x04, command, 0x55] ++ data) = .ok report ∧ Tabulated command data report := by
  obtain ⟨hunknown, hdecode⟩ | ⟨kind, rfl, hdecode⟩ := decode_cases command data
  · exact ⟨_, hdecode, tabulated_unknown hunknown⟩
  · exact ⟨_, hdecode, tabulated_tells kind data⟩

/-- Whatever has been decoded tells what the table says. -/
lemma exists_tabulated_of_isDecoded (h : report.IsDecoded) :
    ∃ command, Tabulated command report.data report := by
  obtain ⟨payload, hpayload⟩ := h
  have hwell : WellFormed payload := by
    by_contra hnot
    cases (decode_of_not_wellFormed hnot).symm.trans hpayload
  obtain ⟨command, data, rfl⟩ := exists_of_wellFormed hwell
  obtain ⟨found, hfound, htabulated⟩ := exists_tabulated command data
  obtain rfl := Except.ok.inj (hfound.symm.trans hpayload)
  exact ⟨command, htabulated.data_eq.symm ▸ htabulated⟩

/-- A value that is told is an octet. -/
lemma natAbs_lt_of_isFoundAt {value : Option ℤ} (h : IsFoundAt sources command data value) :
    ∀ found ∈ value, found.natAbs < 256 := by
  intro found hfound
  obtain ⟨source, -, -, -, hplace, rfl⟩ := (h found).mp hfound
  exact data[source.place].toNat_lt_size

/-- A payload is refused exactly if it lacks its header. Any other payload consists of its header, a
command and the data of its report, and this report tells what the table says about command and data. -/
theorem payloads_decoded (payload : Octets) :
    (decode payload = .error ⟨payload⟩ ↔ LacksHeader payload) ∧
    (¬LacksHeader payload → ∃ command report, decode payload = .ok report ∧
      payload = [0x04, command, 0x55] ++ report.data ∧ Tabulated command report.data report) := by
  constructor
  · rw [lacksHeader_iff]
    refine ⟨fun herror h => ?_, decode_of_not_wellFormed⟩
    obtain ⟨report, hreport⟩ := exists_decode_of_wellFormed h
    cases hreport.symm.trans herror
  · rw [lacksHeader_iff, not_not]
    intro h
    obtain ⟨command, data, rfl⟩ := exists_of_wellFormed h
    obtain ⟨report, hdecode, htabulated⟩ := exists_tabulated command data
    refine ⟨command, report, hdecode, ?_, ?_⟩
    · rw [htabulated.data_eq]
    · rwa [htabulated.data_eq]

/-- Settings with a brightness of fifty on the channel for effects: as long as they can be, and cut before
the last octet that the brightness needs. -/
theorem payloads_decoded_settings :
    let data : Octets := List.replicate 6 0 ++ 50 :: List.replicate 13 0 ++ [3]
    ¬LacksHeader ([0x04, 0x46, 0x55] ++ data) ∧
      (∃ report, decode ([0x04, 0x46, 0x55] ++ data) = .ok report ∧ report.channel = some 3 ∧
        report.brightness = some 50 ∧ ¬unknownStart.toList <+: report.text.toList) ∧
      ¬LacksHeader ([0x04, 0x46, 0x55] ++ data.take 19) ∧
      (∃ report, decode ([0x04, 0x46, 0x55] ++ data.take 19) = .ok report ∧ report.brightness = none ∧
        unknownStart.toList <+: report.text.toList) ∧
      decode [0x04, 0x46] = .error ⟨[0x04, 0x46]⟩ := by
  intro data
  have hlong : ¬LacksHeader ([0x04, 0x46, 0x55] ++ data) := by decide
  have hshort : ¬LacksHeader ([0x04, 0x46, 0x55] ++ data.take 19) := by decide
  refine ⟨hlong, ?_, hshort, ?_, (payloads_decoded _).1.mpr (by decide)⟩
  · obtain ⟨command, report, hdecode, hsame, htabulated⟩ := (payloads_decoded _).2 hlong
    simp only [List.cons_append, List.nil_append, List.cons.injEq, true_and] at hsame
    obtain ⟨hcommand, hdata⟩ := hsame
    rw [← hcommand, ← hdata] at htabulated
    exact ⟨report, hdecode,
      (htabulated.channel 3).mpr ⟨⟨0x46, 21, 20⟩, by decide, rfl, by decide, by decide, rfl⟩,
      (htabulated.brightness 50).mpr ⟨⟨0x46, 20, 6⟩, by decide, rfl, by decide, by decide, rfl⟩,
      mt htabulated.unknown_iff.mp (by decide)⟩
  · obtain ⟨command, report, hdecode, hsame, htabulated⟩ := (payloads_decoded _).2 hshort
    simp only [List.cons_append, List.nil_append, List.cons.injEq, true_and] at hsame
    obtain ⟨hcommand, hdata⟩ := hsame
    rw [← hcommand, ← hdata] at htabulated
    have hmissing : ∀ source ∈ brightnessSources, source.command = 0x46 →
        ¬source.least ≤ (data.take 19).length := by decide
    refine ⟨report, hdecode, Option.eq_none_iff_forall_ne_some.mpr fun found hfound => ?_,
      htabulated.unknown_iff.mpr (by decide)⟩
    obtain ⟨source, hmem, hnumber, hleast, -⟩ := (htabulated.brightness found).mp hfound
    exact hmissing source hmem hnumber hleast

end PixelPanel.Proofs
