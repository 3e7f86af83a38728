import Mathlib.Data.List.Forall2
import Mathlib.Data.List.Nodup
import PixelPanel.Capture.Listing
import PixelPanel.Proofs.PrintedDocuments
import PixelPanel.Proofs.ReportTable

/-!
# Listings of captures compared

If a text writes no capture, both listings name the first such text and nothing else. Otherwise they have
the same entries, one for each text and in the same order: the lines of the one tell them, and the document
that the other one is can be read and tells them too. The captures that it tells are listed as before.
-/

namespace PixelPanel.Capture

/-- A text writes octets, with spaces and colons anywhere in it. -/
def Writes (text : String) (octets : Octets) : Prop :=
  Hex.Spells (text.toList.filter fun c => c ∉ [' ', ':']) octets

/-- What a listing tells about a report. -/
structure Message where
  command : String
  data : String
  channel : Option ℤ
  channelName : Option String
  brightness : Option ℤ
  volume : Option ℤ
  description : String
  deriving DecidableEq

/-- What a listing tells about a capture. -/
structure Entry where
  capture : String
  messages : List Message
  error : Option String
  deriving DecidableEq

/-- What there is to be told about a report. -/
def Message.of (report : Report) : Message where
  command := commandText report
  data := Hex.encodeUpper report.data
  channel := report.channel
  channelName := report.channelName
  brightness := report.brightness
  volume := report.volume
  description := report.text

/-- What there is to be told about a capture. -/
def Entry.of (capture : Capture) : Entry where
  capture := Hex.encodeUpper capture.octets
  messages := capture.reports.map Message.of
  error := capture.error?

/-- The lines that tell an entry: a heading, its messages, its error and an empty line. -/
def Entry.lines (number : ℕ) (entry : Entry) : List String :=
  s!"--- Capture {number} ({entry.capture.length / 2} bytes) ---" ::
    entry.messages.map (fun message => s!"  [{message.command}] {message.description}") ++
    (entry.error.map ("  ERROR: " ++ ·)).toList ++ [""]

/-- Entries as text, with numbers from a first one on. -/
def Entry.textFrom (number : ℕ) : List Entry → String
  | [] => ""
  | entry :: later => String.join ((entry.lines number).map (· ++ "\n")) ++ textFrom (number + 1) later

/-- A JSON value tells a message. -/
structure Message.IsToldBy (message : Message) (value : Json.Value) : Prop where
  command : value.member? "command" = some (.text (Json.points message.command))
  data : value.member? "data" = some (.text (Json.points message.data))
  channel : value.member? "channel" = some (message.channel.elim .null .integer)
  channelName : value.member? "channel_name" =
    some (message.channelName.elim .null fun name => .text (Json.points name))
  brightness : value.member? "brightness" = some (message.brightness.elim .null .integer)
  volume : value.member? "volume" = some (message.volume.elim .null .integer)
  description : value.member? "description" = some (.text (Json.points message.description))

/-- A JSON value tells an entry. -/
structure Entry.IsToldBy (entry : Entry) (value : Json.Value) : Prop where
  capture : value.member? "capture" = some (.text (Json.points entry.capture))
  messages : ∃ values, value.member? "messages" = some (.list values) ∧
    List.Forall₂ Message.IsToldBy entry.messages values
  error : value.member? "error" = some (entry.error.elim .null fun error => .text (Json.points error))

end PixelPanel.Capture

namespace PixelPanel.Proofs
open Capture

variable {lenient : Bool} {text : String} {octets : Octets} {written : List String}
  {captured : List Octets} {capture : Capture} {report : Report}

/-! ### Texts that write captures -/

lemma octetsOf?_eq_some_iff : octetsOf? text = some octets ↔ Writes text octets := by
  have hkept : text.toList.filter (fun c => c ≠ ' ' ∧ c ≠ ':') =
      text.toList.filter fun c => c ∉ [' ', ':'] := by
    refine List.filter_congr fun c _ => ?_
    simp
  rw [octetsOf?, Writes, hkept, decode_eq_some_iff]

lemma octetsOf?_eq_none_iff : octetsOf? text = none ↔ ∀ octets, ¬Writes text octets := by
  simp only [Option.eq_none_iff_forall_ne_some, ne_eq, octetsOf?_eq_some_iff]

/-- The digits of octets write these octets. -/
lemma writes_encodeUpper (octets : Octets) : Writes (Hex.encodeUpper octets) octets := by
  have hdigit : ∀ value < 16, Hex.upperDigit value ≠ ' ' ∧ Hex.upperDigit value ≠ ':' := by decide +kernel
  have hkept : (Hex.encodeUpper octets).toList.filter (fun c => c ≠ ' ' ∧ c ≠ ':') =
      (Hex.encodeUpper octets).toList := by
    refine List.filter_eq_self.mpr fun c hc => decide_eq_true ?_
    rw [Hex.encodeUpper, String.toList_ofList, List.mem_flatMap] at hc
    obtain ⟨octet, -, hc⟩ := hc
    have hlt : octet.toNat < 256 := octet.toNat_lt_size
    rw [Hex.ofOctet, List.mem_pair] at hc
    obtain rfl | rfl := hc
    · exact hdigit _ (by omega)
    · exact hdigit _ (by omega)
  rw [← octetsOf?_eq_some_iff, octetsOf?, hkept, decode_encodeUpper]

lemma decode_octets (lenient : Bool) (octets : Octets) : (decode lenient octets).octets = octets := by
  cases lenient with
  | true => rfl
  | false =>
    change (decodeStrict octets).octets = octets
    rw [decodeStrict]
    split <;> rfl

lemma exists_captured (h : ∀ text ∈ written, ∃ octets, Writes text octets) :
    ∃ captured, List.Forall₂ Writes written captured := by
  induction written with
  | nil => exact ⟨[], .nil⟩
  | cons text rest ih =>
    rw [List.forall_mem_cons] at h
    obtain ⟨octets, hoctets⟩ := h.1
    obtain ⟨captured, hcaptured⟩ := ih h.2
    exact ⟨octets :: captured, .cons hoctets hcaptured⟩

/-- Captures are decoded one by one. -/
lemma decodeAll_of_writes (h : List.Forall₂ Writes written captured) :
    decodeAll lenient written = .ok (captured.map (decode lenient)) := by
  induction h with
  | nil => rfl
  | cons hoctets hrest ih =>
    rw [decodeAll, octetsOf?_eq_some_iff.mpr hoctets]
    simp only [ih]
    rfl

/-- The first text that writes no capture is what is found. -/
lemma decodeAll_of_not_writes {before later : List String} {bad : String}
    (hbefore : ∀ text ∈ before, ∃ octets, Writes text octets) (hbad : ∀ octets, ¬Writes bad octets) :
    decodeAll lenient (before ++ bad :: later) = .error bad := by
  induction before with
  | nil => rw [List.nil_append, decodeAll, octetsOf?_eq_none_iff.mpr hbad]
  | cons text rest ih =>
    rw [List.forall_mem_cons] at hbefore
    obtain ⟨octets, hoctets⟩ := hbefore.1
    rw [List.cons_append, decodeAll, octetsOf?_eq_some_iff.mpr hoctets]
    simp only [ih hbefore.2]
    rfl

/-! ### Lines -/

lemma length_encodeUpper (octets : Octets) : (Hex.encodeUpper octets).length / 2 = octets.length := by
  have hflat : (octets.flatMap (Hex.ofOctet Hex.upperDigit)).length = octets.length * 2 := by
    induction octets with
    | nil => rfl
    | cons octet rest ih =>
      rw [List.flatMap_cons, List.length_append, ih, List.length_cons, Nat.succ_mul, Nat.add_comm]
      rfl
  rw [Hex.encodeUpper, String.length_ofList, hflat, Nat.mul_div_cancel _ (by decide)]

lemma lines_eq (number : ℕ) (capture : Capture) :
    Capture.lines number capture = (Entry.of capture).lines number := by
  rw [Capture.lines, Entry.lines, Entry.of]
  simp only [length_encodeUpper, List.map_map, List.cons_append, List.nil_append]
  cases capture.error? <;> rfl

lemma textOf_eq (captures : List Capture) : textOf captures = Entry.textFrom 1 (captures.map Entry.of) := by
  have hfrom : ∀ (captures : List Capture) (number : ℕ),
      String.join (((captures.mapIdx fun index capture =>
        Capture.lines (index + number) capture).flatten).map (· ++ "\n")) =
      Entry.textFrom number (captures.map Entry.of) := by
    intro captures
    induction captures with
    | nil => exact fun _ => rfl
    | cons capture rest ih =>
      intro number
      have hnext : (fun index => Capture.lines (index + 1 + number)) =
          fun index => Capture.lines (index + (number + 1)) := by
        funext index
        rw [Nat.add_assoc, Nat.add_comm 1]
      rw [List.mapIdx_cons, List.flatten_cons, List.map_append, String.join_append, hnext, ih, Nat.zero_add,
        lines_eq]
      rfl
  exact hfrom captures 1

/-- Whether reports are missing can be told from the error. -/
lemma isEmpty_failures_iff : capture.failures.isEmpty = true ↔ capture.error? = none := by
  rw [Capture.error?]
  split <;> simp_all

/-! ### Documents -/

lemma member?_jsonObject (name : String) (members : List (String × Json.Value)) :
    (jsonObject members).member? name = members.lookup name := by
  rw [jsonObject, Json.Value.member?]
  induction members with
  | nil => rfl
  | cons member later ih =>
    obtain ⟨other, value⟩ := member
    have hname : (Json.points name == Json.points other) = (name == other) := by
      rw [Bool.eq_iff_iff, beq_iff_eq, beq_iff_eq, points_injective.eq_iff]
    simp only [List.map_cons, List.lookup_cons, hname, ih]

lemma isPlain_jsonObject {depth : ℕ} {members : List (String × Json.Value)}
    (hnames : (members.map Prod.fst).Nodup) (h : ∀ member ∈ members, member.2.IsPlain depth) :
    (jsonObject members).IsPlain (depth + 1) := by
  refine .object ?_ ?_ ?_
  · rw [List.map_map]
    have hpoints := List.Nodup.map points_injective hnames
    rwa [List.map_map] at hpoints
  · intro member hmember
    obtain ⟨origin, -, rfl⟩ := List.mem_map.mp hmember
    exact ⟨origin.1, rfl⟩
  · intro member hmember
    obtain ⟨origin, horigin, rfl⟩ := List.mem_map.mp hmember
    exact h origin horigin

lemma jsonOption_eq {α : Type} (json : α → Json.Value) (value : Option α) :
    jsonOption json value = value.elim .null json := by
  cases value <;> rfl

lemma isPlain_jsonOption {depth : ℕ} {α : Type} {json : α → Json.Value} {value : Option α}
    (h : ∀ found ∈ value, (json found).IsPlain depth) : (jsonOption json value).IsPlain depth := by
  cases value with
  | none => exact .null
  | some found => exact h found rfl

/-- A report is told by its object. -/
lemma isToldBy_reportJson (report : Report) : (Message.of report).IsToldBy (reportJson report) := by
  constructor <;> rw [reportJson, member?_jsonObject]
  · rfl
  · rfl
  · exact congrArg some (jsonOption_eq _ _)
  · exact congrArg some (jsonOption_eq _ _)
  · exact congrArg some (jsonOption_eq _ _)
  · exact congrArg some (jsonOption_eq _ _)
  · rfl

lemma forall₂_map {α β γ : Type} {R : α → β → Prop} {f : γ → α} {g : γ → β}
    (h : ∀ item, R (f item) (g item)) (items : List γ) : List.Forall₂ R (items.map f) (items.map g) := by
  rw [List.forall₂_map_left_iff, List.forall₂_map_right_iff, List.forall₂_same]
  exact fun item _ => h item

/-- A capture is told by its object. -/
lemma isToldBy_toJson (capture : Capture) : (Entry.of capture).IsToldBy (toJson capture) := by
  constructor <;> rw [toJson, member?_jsonObject]
  · rfl
  · refine ⟨_, rfl, ?_⟩
    exact forall₂_map isToldBy_reportJson capture.reports
  · exact congrArg some (jsonOption_eq _ _)

/-- The octets that a report tells are integers of three digits at most. -/
lemma isPlain_octet {value : ℤ} (h : value.natAbs < 256) (depth : ℕ) :
    (Json.Value.integer value).IsPlain depth := by
  have hdigits : (Nat.toDigits 10 value.natAbs).length ≤ 3 :=
    (Nat.length_toDigits_le_iff (by decide) (by decide)).mpr (Nat.lt_trans h (by decide))
  exact .integer (Nat.le_trans hdigits (by decide))

lemma isPlain_reportJson (h : report.IsDecoded) : (reportJson report).IsPlain 1 := by
  obtain ⟨command, htabulated⟩ := exists_tabulated_of_isDecoded h
  have hoctet : ∀ {value : Option ℤ} {sources : List Report.Source},
      Report.IsFoundAt sources command report.data value → (jsonOption .integer value).IsPlain 0 :=
    fun hfound => isPlain_jsonOption fun found hmem =>
      isPlain_octet (natAbs_lt_of_isFoundAt hfound found hmem) 0
  have hnames : ["command", "data", "channel", "channel_name", "brightness", "volume",
      "description"].Nodup := by decide +kernel
  refine isPlain_jsonObject hnames ?_
  simp only [List.forall_mem_cons]
  exact ⟨.text _, .text _, hoctet htabulated.channel, isPlain_jsonOption fun name _ => .text name,
    hoctet htabulated.brightness, hoctet htabulated.volume, .text _, List.forall_mem_nil _⟩

lemma isPlain_toJson (h : ∀ report ∈ capture.reports, report.IsDecoded) : (toJson capture).IsPlain 3 := by
  have hnames : ["capture", "messages", "error"].Nodup := by decide +kernel
  refine isPlain_jsonObject hnames ?_
  simp only [List.forall_mem_cons]
  refine ⟨.text _, .list fun value hvalue => ?_, isPlain_jsonOption fun error _ => .text error,
    List.forall_mem_nil _⟩
  obtain ⟨report, hreport, rfl⟩ := List.mem_map.mp hvalue
  exact isPlain_reportJson (h report hreport)

/-! ### Listings -/

/-- Captures that are all written are listed, and nothing is said about errors but by the exit code. -/
lemma list_of_writes (json : Bool) (h : List.Forall₂ Writes written captured) :
    Capture.list lenient json written =
      { code := if ∀ octets ∈ captured, (decode lenient octets).error? = none then 0 else 1
        stdout :=
          if json then jsonOf (captured.map (decode lenient))
          else textOf (captured.map (decode lenient)) } := by
  have hcode : ((captured.map (decode lenient)).all fun capture => capture.failures.isEmpty) = true ↔
      ∀ octets ∈ captured, (decode lenient octets).error? = none := by
    simp only [List.all_eq_true, List.forall_mem_map, isEmpty_failures_iff]
  rw [Capture.list, decodeAll_of_writes h]
  simp only [hcode]

/-- The texts in front of the first one that writes no capture write captures. -/
lemma exists_first (h : ∃ text ∈ written, ∀ octets, ¬Writes text octets) :
    ∃ before bad later, written = before ++ bad :: later ∧
      (∀ text ∈ before, ∃ octets, Writes text octets) ∧ ∀ octets, ¬Writes bad octets := by
  simp only [← octetsOf?_eq_none_iff] at h ⊢
  have hfound : (written.find? fun text => (octetsOf? text).isNone).isSome := by
    rw [List.find?_isSome]
    obtain ⟨text, hmem, hnone⟩ := h
    exact ⟨text, hmem, Option.isNone_iff_eq_none.mpr hnone⟩
  obtain ⟨bad, hbad⟩ := Option.isSome_iff_exists.mp hfound
  obtain ⟨hnone, before, later, hsplit, hbefore⟩ := List.find?_eq_some_iff_append.mp hbad
  refine ⟨before, bad, later, hsplit, fun text htext => ?_, Option.isNone_iff_eq_none.mp hnone⟩
  have hsome := hbefore text htext
  rw [Bool.not_eq_true', Option.isNone_eq_false_iff, Option.isSome_iff_exists] at hsome
  simpa only [octetsOf?_eq_some_iff] using hsome

/-- The document of some captures is read as what it has been made of. -/
lemma read_jsonOf {room : ℕ} (hroom : 4 ≤ room) (captured : List Octets) :
    Json.read room (jsonOf (captured.map (decode lenient))).toList =
      .ok (.list ((captured.map (decode lenient)).map toJson)) := by
  refine read_print (.list fun value hvalue => ?_) hroom
  obtain ⟨capture, hcapture, rfl⟩ := List.mem_map.mp hvalue
  obtain ⟨octets, -, rfl⟩ := List.mem_map.mp hcapture
  exact isPlain_toJson isDecoded_of_mem_reports

/-- If some text writes no capture, both listings are the same: they name the first such text and have no
entries. Otherwise there is one entry for each text, and both listings tell these entries and whether there
is an error among them. The document that one of them is can be read, and the captures of its entries are
listed as the same document again. -/
theorem listings_agree (lenient : Bool) (written : List String) :
    ((∃ text ∈ written, ∀ octets, ¬Writes text octets) →
      ∃ before bad later, written = before ++ bad :: later ∧
        (∀ text ∈ before, ∃ octets, Writes text octets) ∧ (∀ octets, ¬Writes bad octets) ∧
        ∀ json, Capture.list lenient json written =
          { code := 2, stdout := "", stderr := s!"Not a hex string: {bad}\n" }) ∧
    ((∀ text ∈ written, ∃ octets, Writes text octets) → ∃ entries : List Entry,
      List.Forall₂ (fun text entry => ∃ octets, Writes text octets ∧
        entry = Entry.of (decode lenient octets)) written entries ∧
      (∀ json, (Capture.list lenient json written).stderr = "" ∧
        (Capture.list lenient json written).code =
          if ∀ entry ∈ entries, entry.error = none then 0 else 1) ∧
      (Capture.list lenient false written).stdout = Entry.textFrom 1 entries ∧
      (∃ values, List.Forall₂ Entry.IsToldBy entries values ∧ ∀ room, 4 ≤ room →
        Json.read room (Capture.list lenient true written).stdout.toList = .ok (.list values)) ∧
      Capture.list lenient true (entries.map Entry.capture) = Capture.list lenient true written) := by
  constructor
  · intro h
    obtain ⟨before, bad, later, rfl, hbefore, hbad⟩ := exists_first h
    refine ⟨before, bad, later, rfl, hbefore, hbad, fun json => ?_⟩
    rw [Capture.list, decodeAll_of_not_writes hbefore hbad]
  · intro h
    obtain ⟨captured, hcaptured⟩ := exists_captured h
    have hagain : List.Forall₂ Writes (captured.map Hex.encodeUpper) captured := by
      rw [List.forall₂_map_left_iff, List.forall₂_same]
      exact fun octets _ => writes_encodeUpper octets
    refine ⟨captured.map fun octets => Entry.of (decode lenient octets), ?_, fun json => ?_, ?_,
      ⟨(captured.map (decode lenient)).map toJson, ?_, fun room hroom => ?_⟩, ?_⟩
    · rw [List.forall₂_map_right_iff]
      exact hcaptured.imp fun text octets hoctets => ⟨octets, hoctets, rfl⟩
    · rw [list_of_writes json hcaptured]
      refine ⟨rfl, ?_⟩
      simp only [List.forall_mem_map]
      rfl
    · rw [list_of_writes false hcaptured, textOf_eq, List.map_map]
      rfl
    · rw [List.map_map]
      exact forall₂_map (fun octets => isToldBy_toJson (decode lenient octets)) captured
    · rw [list_of_writes true hcaptured]
      exact read_jsonOf hroom captured
    · have hdigits : (fun octets => (Entry.of (decode lenient octets)).capture) = Hex.encodeUpper :=
        funext fun octets => congrArg Hex.encodeUpper (decode_octets lenient octets)
      rw [List.map_map, Function.comp_def, hdigits, list_of_writes true hcaptured, list_of_writes true hagain]

/-- A text of one digit behind a capture, and a report with separators in front of an empty capture and
one that cannot be decoded. -/
theorem listings_agree_mixture :
    ((∃ text ∈ ["AB", "0"], ∀ octets, ¬Writes text octets) ∧
      ∀ json, Capture.list false json ["AB", "0"] = { code := 2, stderr := "Not a hex string: 0\n" }) ∧
    (∀ text ∈ ["01:06 00 04 09 55 08 70 00 02", "", "AB"], ∃ octets, Writes text octets) ∧
    ∃ entries : List Entry, entries.map Entry.capture = ["01060004095508700002", "", "AB"] ∧
      entries.map (fun entry => entry.error.isSome) = [false, false, true] ∧
      (∀ json, (Capture.list true json ["01:06 00 04 09 55 08 70 00 02", "", "AB"]).code = 1) ∧
      Capture.list true true ["01060004095508700002", "", "AB"] =
        Capture.list true true ["01:06 00 04 09 55 08 70 00 02", "", "AB"] := by
  have hreport : octetsOf? "01:06 00 04 09 55 08 70 00 02" =
      some [0x01, 0x06, 0x00, 0x04, 0x09, 0x55, 0x08, 0x70, 0x00, 0x02] := by decide +kernel
  have hempty : octetsOf? "" = some [] := by decide +kernel
  have hwrong : octetsOf? "AB" = some [0xAB] := by decide +kernel
  have hdigit : octetsOf? "0" = none := by decide +kernel
  have hnot : ∃ text ∈ ["AB", "0"], ∀ octets, ¬Writes text octets :=
    ⟨"0", by simp, octetsOf?_eq_none_iff.mp hdigit⟩
  have hall : ∀ text ∈ ["01:06 00 04 09 55 08 70 00 02", "", "AB"], ∃ octets, Writes text octets := by
    simp only [List.forall_mem_cons, ← octetsOf?_eq_some_iff]
    exact ⟨⟨_, hreport⟩, ⟨_, hempty⟩, ⟨_, hwrong⟩, List.forall_mem_nil _⟩
  refine ⟨⟨hnot, ?_⟩, hall, ?_⟩
  · obtain ⟨before, bad, later, hsplit, -, hbad, hlist⟩ := (listings_agree false _).1 hnot
    have hnone := octetsOf?_eq_none_iff.mpr hbad
    cases before with
    | nil =>
      obtain ⟨rfl, -⟩ := List.cons.inj hsplit
      cases hwrong.symm.trans hnone
    | cons first rest =>
      obtain ⟨-, hsplit⟩ := List.cons.inj hsplit
      cases rest with
      | nil =>
        obtain ⟨rfl, -⟩ := List.cons.inj hsplit
        exact hlist
      | cons second rest =>
        obtain ⟨-, hsplit⟩ := List.cons.inj hsplit
        cases rest <;> cases hsplit
  · obtain ⟨entries, hentries, hcode, -, -, hagain⟩ := (listings_agree true _).2 hall
    obtain _ | ⟨⟨first, hfirst, rfl⟩, _ | ⟨⟨second, hsecond, rfl⟩, _ | ⟨⟨third, hthird, rfl⟩, _ | _⟩⟩⟩ :=
      hentries
    obtain rfl := Option.some.inj (hreport.symm.trans (octetsOf?_eq_some_iff.mpr hfirst))
    obtain rfl := Option.some.inj (hempty.symm.trans (octetsOf?_eq_some_iff.mpr hsecond))
    obtain rfl := Option.some.inj (hwrong.symm.trans (octetsOf?_eq_some_iff.mpr hthird))
    have hcaptures : [Entry.of (decode true [0x01, 0x06, 0x00, 0x04, 0x09, 0x55, 0x08, 0x70, 0x00, 0x02]),
        Entry.of (decode true []), Entry.of (decode true [0xAB])].map Entry.capture =
        ["01060004095508700002", "", "AB"] := by decide +kernel
    rw [hcaptures] at hagain
    refine ⟨_, hcaptures, by decide +kernel, fun json => ?_, hagain⟩
    exact (hcode json).2.trans (if_neg (by decide +kernel))

end PixelPanel.Proofs
