import PixelPanel.CommandLine.Run
import PixelPanel.Proofs.DocumentLimits
import PixelPanel.Proofs.Utf8Text

/-!
# Loading a configuration

Whatever is wrong with a configuration should be told as a fault of the configuration. This is so for all
that the system reports, for flaws of the document and for what it describes. It is not so below that: a
path that holds a zero, octets that are no text, and documents that ask too much of their reader. The program
ends with the same code for all of them, but it has a message for those of the first kind only.
-/

namespace PixelPanel.Config
open Text.Utf8

/-- Loading fails below the configuration. -/
inductive FailsBelow (room : ℕ) (storage : Storage) (path : String) : Prop
  | zero (h : Storage.holdsZero path = true)
  | noText {octets : Octets} (hread : storage.read path = .ok octets) (h : ∀ text, octets ≠ encode text)
  | tooMuch {text : List Char} (hread : storage.read path = .ok (encode text))
    (h : Json.AsksTooMuch room (Storage.unifyLines text))

/-- A path leads to the text of a document, and this describes a configuration. -/
structure Holds (room : ℕ) (storage : Storage) (path : String) (config : Config) : Prop where
  zero : Storage.holdsZero path = false
  document : ∃ text value, storage.read path = .ok (encode text) ∧
    Json.read room (Storage.unifyLines text) = .ok value ∧ Config.ofJson value = .ok config

end PixelPanel.Config

namespace PixelPanel.CommandLine

/-- A command line needs a configuration: it is to be carried out, and it names no address. -/
def NeedsConfig (surroundings : Surroundings) (words : List String) (target : Target) : Prop :=
  ∃ invocation packets,
    Invocation.ofWords surroundings.storage surroundings.environment words = .ok invocation ∧
      (invocation.request.prepare surroundings).2 = .ok packets ∧ invocation.options.dryRun = false ∧
      invocation.options.target = target ∧ target.address.filter (· ≠ "") = none

/-- A run fails before it opens a link, and this is its report. -/
structure FailsEarly (report : String) (result : Result) : Prop where
  code : result.code = 1
  notes : result.notes = []
  report : result.failure.map Failure.report = some report

end PixelPanel.CommandLine

namespace PixelPanel.Proofs
open Config CommandLine Text.Utf8

variable {room : ℕ} {storage : Storage} {environment : List (String × String)} {given : Option String}
  {surroundings : Surroundings} {words : List String} {target : Target} {failure : Failure}

/-! ### Loading -/

lemma isOfConfig_json {path : Path} {fault : Json.Fault} :
    (LoadFault.json path fault).isOfConfig = false ↔ fault.IsLimit := by
  cases fault <;> simp [LoadFault.isOfConfig, Json.Fault.IsLimit]

/-- What is read from a file is a text, or no text has these octets. -/
lemma readText_of_read {path : String} {octets : Octets} (hzero : Storage.holdsZero path = false)
    (hread : storage.read path = .ok octets) :
    (∃ text, octets = encode text ∧ storage.readText path = .ok (Storage.unifyLines text)) ∨
      (∀ text, octets ≠ encode text) ∧ ∃ fault, storage.readText path = .error (.undecodable fault) := by
  rw [Storage.readText, if_neg (by rw [hzero]; exact Bool.false_ne_true), hread]
  dsimp only
  split
  · rename_i fault hfault
    refine .inr ⟨fun text htext => ?_, fault, rfl⟩
    rw [decode_eq_ok_iff.mpr htext] at hfault
    cases hfault
  · rename_i text htext
    exact .inl ⟨text, decode_eq_ok_iff.mp htext, rfl⟩

lemma encode_injective {text text' : List Char} (h : encode text = encode text') : text = text' := by
  have hread : Text.Utf8.decode (encode text) = .ok text' := decode_eq_ok_iff.mpr h
  exact Except.ok.inj ((decode_eq_ok_iff.mpr rfl).symm.trans hread)

lemma exists_of_readText {path : String} {text : List Char} (h : storage.readText path = .ok text) :
    Storage.holdsZero path = false ∧ ∃ written, storage.read path = .ok (encode written) ∧
      text = Storage.unifyLines written := by
  unfold Storage.readText at h
  split at h
  · cases h
  · rename_i hzero
    split at h
    · cases h
    · rename_i octets hread
      split at h
      · cases h
      · rename_i written hwritten
        obtain rfl := Except.ok.inj h
        rw [decode_eq_ok_iff.mp hwritten] at hread
        exact ⟨Bool.eq_false_iff.mpr hzero, written, hread, rfl⟩

lemma load_of_fault {fault : Storage.ReadFault}
    (h : storage.readText (pathOf given environment).text = .error fault) :
    Config.load room storage environment given = .error (.reading (pathOf given environment) fault) := by
  unfold Config.load
  simp only [h]

lemma load_of_text {text : List Char} (h : storage.readText (pathOf given environment).text = .ok text) :
    Config.load room storage environment given =
      match Json.read room text with
      | .error fault => .error (.json (pathOf given environment) fault)
      | .ok value =>
        match Config.ofJson value with
        | .error fault => .error (.content fault)
        | .ok config => .ok config := by
  unfold Config.load
  cases hread : Json.read room text with
  | error fault => simp only [h, hread]
  | ok value => cases hvalue : Config.ofJson value <;> simp only [h, hread, hvalue]

/-- Once a text has been read, its document alone can fail below the configuration. -/
lemma below_of_text {text : List Char} (h : storage.readText (pathOf given environment).text = .ok text) :
    (∃ fault, Config.load room storage environment given = .error fault ∧ fault.isOfConfig = false) ↔
      Json.AsksTooMuch room text := by
  rw [← read_isLimit_iff, load_of_text h]
  cases hread : Json.read room text with
  | error fault =>
    constructor
    · rintro ⟨found, hfound, hbelow⟩
      obtain rfl := Except.error.inj hfound
      exact ⟨fault, rfl, isOfConfig_json.mp hbelow⟩
    · rintro ⟨found, hfound, hlimit⟩
      obtain rfl := Except.error.inj hfound
      exact ⟨_, rfl, isOfConfig_json.mpr hlimit⟩
  | ok value =>
    refine iff_of_false ?_ fun ⟨_, hfound, _⟩ => by cases hfound
    rintro ⟨found, hfound, hbelow⟩
    dsimp only at hfound
    split at hfound
    · obtain rfl := Except.error.inj hfound
      cases hbelow
    · cases hfound

/-- A fault is below the configuration exactly if loading fails there. -/
lemma load_below_iff :
    (∃ fault, Config.load room storage environment given = .error fault ∧ fault.isOfConfig = false) ↔
      FailsBelow room storage (pathOf given environment).text := by
  cases hzero : Storage.holdsZero (pathOf given environment).text with
  | true =>
    have htext : storage.readText (pathOf given environment).text = .error .zeroInPath := if_pos hzero
    exact iff_of_true ⟨_, load_of_fault htext, rfl⟩ (.zero hzero)
  | false =>
    cases hread : storage.read (pathOf given environment).text with
    | error error =>
      have htext : storage.readText (pathOf given environment).text =
          .error (.system error (pathOf given environment).text) := by
        rw [Storage.readText, hzero, hread]
        rfl
      refine iff_of_false ?_ fun h => ?_
      · rintro ⟨found, hfound, hbelow⟩
        obtain rfl := Except.error.inj ((load_of_fault htext).symm.trans hfound)
        cases hbelow
      · cases h with
        | zero h => cases hzero.symm.trans h
        | noText h => cases hread.symm.trans h
        | tooMuch h => cases hread.symm.trans h
    | ok octets =>
      obtain ⟨text, rfl, htext⟩ | ⟨hnone, fault, htext⟩ := readText_of_read hzero hread
      · rw [below_of_text htext]
        refine ⟨fun h => .tooMuch hread h, fun h => ?_⟩
        cases h with
        | zero h => cases hzero.symm.trans h
        | noText hread' h => exact (h text (Except.ok.inj (hread'.symm.trans hread))).elim
        | tooMuch hread' h =>
          rwa [← encode_injective (Except.ok.inj (hread'.symm.trans hread))]
      · exact iff_of_true ⟨_, load_of_fault htext, rfl⟩ (.noText hread hnone)

lemma load_eq_ok_iff {config : Config} : Config.load room storage environment given = .ok config ↔
    Holds room storage (pathOf given environment).text config := by
  constructor
  · intro h
    cases htext : storage.readText (pathOf given environment).text with
    | error fault => cases (load_of_fault htext).symm.trans h
    | ok text =>
      obtain ⟨hzero, written, hread, rfl⟩ := exists_of_readText htext
      rw [load_of_text htext] at h
      split at h
      · cases h
      · rename_i value hvalue
        split at h
        · cases h
        · rename_i found hfound
          obtain rfl := Except.ok.inj h
          exact ⟨hzero, written, value, hread, hvalue, hfound⟩
  · rintro ⟨hzero, text, value, hread, hvalue, hconfig⟩
    obtain ⟨found, hfound, htext⟩ | ⟨hnone, -⟩ := readText_of_read hzero hread
    · obtain rfl := encode_injective hfound
      rw [load_of_text htext, hvalue]
      dsimp only
      rw [hconfig]
    · exact (hnone text rfl).elim

/-! ### The program -/

lemma failsEarly_of_resolve (hneeds : NeedsConfig surroundings words target)
    (hfailure : target.resolve surroundings = .error failure) (hcode : failure.code = 1) :
    FailsEarly failure.report (CommandLine.run surroundings words) := by
  obtain ⟨invocation, packets, hwords, hpackets, hplain, rfl, -⟩ := hneeds
  have hrun : CommandLine.run surroundings words = {
      lines := (invocation.request.prepare surroundings).1 ++ []
      failure := some failure
      threshold := invocation.options.threshold } := by
    rw [CommandLine.run, hwords]
    simp only [Invocation.run, hpackets, hplain, hfailure]
    rfl
  rw [hrun]
  exact ⟨hcode, rfl, rfl⟩

lemma resolve_of_fault {fault : LoadFault} (hneeds : NeedsConfig surroundings words target)
    (h : Config.load surroundings.room surroundings.storage surroundings.environment target.config =
      .error fault) : target.resolve surroundings = .error (.config fault) := by
  obtain ⟨-, -, -, -, -, -, haddress⟩ := hneeds
  rw [Target.resolve, haddress, h]

lemma resolve_of_missing {config : Config} {missing : Config.Missing}
    (hneeds : NeedsConfig surroundings words target)
    (h : Config.load surroundings.room surroundings.storage surroundings.environment target.config =
      .ok config) (hmissing : config.find (target.device.map Json.points) = .error missing) :
    target.resolve surroundings = .error (.noDevice missing) := by
  obtain ⟨-, -, -, -, -, -, haddress⟩ := hneeds
  rw [Target.resolve, haddress, h]
  dsimp only
  rw [hmissing]

/-- The report of an error for which there is advice. -/
lemma report_withAdvice (text : String) : s!"Error: {Failure.withAdvice text}\n" =
    "Error: " ++ text ++ ". Use --address or a config file.\n" := by
  have hend : ". Use --address or a config file.\n" = ". Use --address or a config file." ++ "\n" := by
    decide +kernel
  change "Error: " ++ (text ++ ". Use --address or a config file.") ++ "\n" = _
  rw [hend, ← String.append_assoc, ← String.append_assoc]

lemma report_config (fault : LoadFault) : (Failure.config fault).report =
    if fault.isOfConfig then "Error: " ++ fault.message ++ ". Use --address or a config file.\n"
    else "" := by
  have hreport : (Failure.config fault).report = if !fault.isOfConfig then "" else
      s!"Error: {if fault.isOfConfig then Failure.withAdvice fault.message else fault.message}\n" := rfl
  rw [hreport]
  cases fault.isOfConfig with
  | true => exact report_withAdvice _
  | false => rfl

/-- What the file holds is loaded if it is the text of a configuration. Otherwise loading fails with a fault
of the configuration unless it fails below it. The program ends with the code 1 in both cases, before it
opens a link; it tells of a fault of the configuration, and of a device that is not there as well. -/
theorem load_fails_with_config_fault_unless_below (room : ℕ) (storage : Storage)
    (environment : List (String × String)) (given : Option String) :
    (∀ config, Config.load room storage environment given = .ok config ↔
      Holds room storage (pathOf given environment).text config) ∧
    ((∃ fault, Config.load room storage environment given = .error fault ∧ fault.isOfConfig = false) ↔
      FailsBelow room storage (pathOf given environment).text) ∧
    ∀ surroundings words target, NeedsConfig surroundings words target →
      let loaded :=
        Config.load surroundings.room surroundings.storage surroundings.environment target.config
      let result := CommandLine.run surroundings words
      (∀ fault, loaded = .error fault → FailsEarly (if fault.isOfConfig then
        "Error: " ++ fault.message ++ ". Use --address or a config file.\n" else "") result) ∧
      ∀ config missing, loaded = .ok config →
        config.find (target.device.map Json.points) = .error missing → FailsEarly
          ("Error: " ++ Text.ofPointsEscaped missing.message ++ ". Use --address or a config file.\n")
          result := by
  refine ⟨fun _ => load_eq_ok_iff, load_below_iff, ?_⟩
  intro surroundings words target hneeds loaded result
  refine ⟨?_, ?_⟩
  · intro fault hfault
    rw [← report_config]
    exact failsEarly_of_resolve hneeds (resolve_of_fault hneeds hfault) rfl
  · intro config missing hconfig hmissing
    rw [← report_withAdvice]
    exact failsEarly_of_resolve hneeds (resolve_of_missing hneeds hconfig hmissing) rfl

/-! ### A file that is no text -/

/-- The file is there, but an octet is all that it holds, and no text has it. -/
def badOctet : Surroundings where
  now := ⟨2024, 2, 29, 12, 0, 0⟩
  storage := [("config.json", .document [0xff])]

lemma readText_badOctet : badOctet.storage.readText (pathOf none badOctet.environment).text =
    .error (.undecodable ⟨.start, 0xff, 0, 1⟩) := by
  decide +kernel

/-- Its fault is none of the configuration. -/
theorem bad_octet_below_config :
    ∃ fault, Config.load badOctet.room badOctet.storage badOctet.environment none = .error fault ∧
      fault.isOfConfig = false ∧
      fault.message = "'utf-8' codec can't decode byte 0xff in position 0: invalid start byte" :=
  ⟨_, load_of_fault readText_badOctet, rfl, by decide +kernel⟩

lemma needsConfig_of_options {options : Options} {packets : List Octets}
    (h : (Invocation.ofWords surroundings.storage surroundings.environment words).toOption.map
      (fun invocation => (invocation.options, (invocation.request.prepare surroundings).2.toOption)) =
        some (options, some packets))
    (hplain : options.dryRun = false) (haddress : options.target.address.filter (· ≠ "") = none) :
    NeedsConfig surroundings words options.target := by
  obtain ⟨invocation, hmeant, hfound⟩ := Option.map_eq_some_iff.mp h
  obtain ⟨rfl, hpackets⟩ := Prod.mk.inj hfound
  refine ⟨invocation, packets, ?_, ?_, hplain, rfl, haddress⟩
  · cases hwords : Invocation.ofWords surroundings.storage surroundings.environment words with
    | error stop =>
      rw [hwords] at hmeant
      cases hmeant
    | ok meant =>
      rw [hwords] at hmeant
      obtain rfl := Option.some.inj hmeant
      rfl
  · cases hprepared : (invocation.request.prepare surroundings).2 with
    | error failure =>
      rw [hprepared] at hpackets
      cases hpackets
    | ok found =>
      rw [hprepared] at hpackets
      obtain rfl := Option.some.inj hpackets
      rfl

/-- The options of a line that has none. -/
def noOptions : Options :=
  { target := {}, listen := .zero, dryRun := false, threshold := Level.info.weight }

/-- The same without the file. -/
def noFile : Surroundings :=
  { badOctet with storage := [] }

/-- What the system has to say about it. -/
def notThere : LoadFault :=
  .reading (pathOf none noFile.environment) (.system .noSuchFile "config.json")

lemma report_notThere : (if notThere.isOfConfig then
    "Error: " ++ notThere.message ++ ". Use --address or a config file.\n" else "") =
      "Error: could not read config.json: [Errno 2] No such file or directory: 'config.json'" ++
        ". Use --address or a config file.\n" := by
  decide +kernel

theorem load_fails_with_config_fault_unless_below_bad_octet :
    FailsBelow badOctet.room badOctet.storage "config.json" ∧ NeedsConfig badOctet ["settings"] {} ∧
      FailsEarly "" (CommandLine.run badOctet ["settings"]) ∧ NeedsConfig noFile ["settings"] {} ∧
      FailsEarly ("Error: could not read config.json: [Errno 2] No such file or directory: " ++
        "'config.json'. Use --address or a config file.\n") (CommandLine.run noFile ["settings"]) := by
  obtain ⟨-, hbelow, hearly⟩ :=
    load_fails_with_config_fault_unless_below badOctet.room badOctet.storage badOctet.environment none
  obtain ⟨fault, hfault, hlow⟩ : ∃ fault, Config.load badOctet.room badOctet.storage
      badOctet.environment none = .error fault ∧ fault.isOfConfig = false :=
    ⟨_, load_of_fault readText_badOctet, rfl⟩
  have hload : Config.load noFile.room noFile.storage noFile.environment none = .error notThere :=
    load_of_fault (by decide +kernel)
  have hneeds : NeedsConfig badOctet ["settings"] noOptions.target :=
    @needsConfig_of_options badOctet _ noOptions [[0x01, 0x03, 0x00, 0x46, 0x49, 0x00, 0x02]]
      (by decide +kernel) rfl rfl
  have hneeds' : NeedsConfig noFile ["settings"] noOptions.target :=
    @needsConfig_of_options noFile _ noOptions [[0x01, 0x03, 0x00, 0x46, 0x49, 0x00, 0x02]]
      (by decide +kernel) rfl rfl
  have hfails := (hearly badOctet _ _ hneeds).1 fault hfault
  rw [hlow] at hfails
  have hfails' := (hearly noFile _ _ hneeds').1 notThere hload
  rw [report_notThere] at hfails'
  exact ⟨hbelow.mp ⟨fault, hfault, hlow⟩, hneeds, hfails, hneeds', hfails'⟩

end PixelPanel.Proofs
