import PixelPanel.Command
import PixelPanel.Proofs.EnvelopeRow
import PixelPanel.Proofs.FrameReading

/-!
# Reading commands

A command is refused for a wrong argument, or it has a payload from which the command with all its
arguments can be read, so that no two commands share an envelope. Most payloads are written number
by number; the checks of the arguments see to it that each number is an octet.
-/

namespace PixelPanel.Proofs
open Command Envelope

/-- Three values for red, green and blue. -/
def IsColour (components : List ℤ) : Prop :=
  components.length = 3 ∧ ∀ component ∈ components, 0 ≤ component ∧ component ≤ 255

/-- The arguments of a command are such as the panel takes. -/
def Acceptable : Command → Prop
  | .requestSettings => True
  | .displayOff => True
  | .setTime _ => True
  | .setVolume volume => 0 ≤ volume ∧ volume ≤ 16
  | .setBrightness brightness => 0 ≤ brightness ∧ brightness ≤ 100
  | .setWeather temperature weather =>
    weather ∈ weatherStyles.names ∧ -100 < temperature ∧ temperature < 100
  | .showClock face => face.style ∈ clockStyles.names ∧ IsColour face.colour
  | .showLight style colour brightness =>
    (0 ≤ brightness ∧ brightness ≤ 100) ∧ style ∈ lightStyles.names ∧ IsColour colour
  | .showCloud => True
  | .showEffect effect => 0 ≤ effect ∧ effect ≤ 15
  | .showVisualisation visualisation => 0 ≤ visualisation ∧ visualisation ≤ 11
  | .showScoreboard red blue => (0 ≤ red ∧ red ≤ 999) ∧ 0 ≤ blue ∧ blue ≤ 999
  | .showPicture picture => OnPanel picture

/-- A time to be set is one that a calendar and a clock can show. -/
def IsDated : Command → Prop
  | .setTime moment => moment.year ≤ 9999 ∧ moment.month ≤ 12 ∧ moment.day ≤ 31 ∧
    moment.hour ≤ 23 ∧ moment.minute ≤ 59 ∧ moment.second ≤ 59
  | _ => True

/-- The refusal says which argument is wrong: a value out of its range, an unknown style, or a
picture that has not the size of the panel. -/
def OfArgument : Refusal → Prop
  | .outOfRange .. => True
  | .temperature _ => True
  | .colour _ => True
  | .unknownStyle .. => True
  | .picture (.wrongSize ..) => True
  | _ => False

/-- The numbers that octets stand for. -/
def numbersOf (octets : Octets) : List ℤ :=
  octets.map fun octet => octet.toNat

def AreOctets (numbers : List ℤ) : Prop :=
  ∀ number ∈ numbers, 0 ≤ number ∧ number < 256

instance (numbers : List ℤ) : Decidable (AreOctets numbers) :=
  inferInstanceAs (Decidable (∀ number ∈ numbers, _))

/-- The number that two's complement gives an octet. -/
def signed (number : ℤ) : ℤ :=
  if number < 128 then number else number - 256

/-- The name of the style with a number. -/
def nameOf (styles : Styles) (number : ℤ) : Option String :=
  (styles.find? fun style => style.2 = number).map Prod.fst

def readShown : ℤ → List ℤ → Option Command
  | 0, [_, style, time, weather, temperature, calendar, red, green, blue] =>
    (nameOf clockStyles style).map fun name =>
      .showClock ⟨name, time = 1, weather = 1, temperature = 1, calendar = 1, [red, green, blue]⟩
  -- the lamp with its power off
  | 1, [_, _, _, _, _, 0, _, _, _] => some .displayOff
  | 1, [red, green, blue, brightness, style, _, _, _, _] =>
    (nameOf lightStyles style).map fun name => .showLight name [red, green, blue] brightness
  | 2, _ => some .showCloud
  | 3, [effect] => some (.showEffect effect)
  | 4, [visualisation] => some (.showVisualisation visualisation)
  | 6, [_, redLow, redHigh, blueLow, blueHigh] =>
    some (.showScoreboard (redLow + 256 * redHigh) (blueLow + 256 * blueHigh))
  | _, _ => none

/-- Reads the payload of a command. -/
def readCommand (payload : Octets) : Option Command :=
  match numbersOf payload with
  | [0x46] => some .requestSettings
  | [0x18, years, centuries, month, day, hour, minute, second, _] =>
    some (.setTime ⟨(100 * centuries + years).toNat, month.toNat, day.toNat, hour.toNat,
      minute.toNat, second.toNat⟩)
  | [0x08, volume] => some (.setVolume volume)
  | [0x74, brightness] => some (.setBrightness brightness)
  | [0x5F, temperature, weather] =>
    (nameOf weatherStyles weather).map fun name => .setWeather (signed temperature) name
  | 0x45 :: channel :: shown => readShown channel shown
  | 0x44 :: _ =>
    (readFrame (payload.drop 5)).map fun frame => .showPicture (.ofColours panelSide panelSide frame.1)
  | _ => none

/-- What comes of a command: it is accepted and can be read from its payload, or it is refused for an
argument. -/
inductive Settles (command : Command) : Except Refusal Octets → Prop
  | accepted {payload : Octets} (acceptable : Acceptable command) (short : payload.length ≤ 65533)
      (read : readCommand payload = some command) : Settles command (.ok payload)
  | refused {refusal : Refusal} (unacceptable : ¬Acceptable command)
      (argument : OfArgument refusal) : Settles command (.error refusal)

/-- The numbers of a family of styles are octets and tell the styles apart. -/
structure IsTable (styles : Styles) : Prop where
  octet : ∀ style ∈ styles, 0 ≤ style.2 ∧ style.2 < 256
  nodup : (styles.map Prod.snd).Nodup

variable {command : Command} {numbers : List ℤ} {styles : Styles}

/-! ### Numbers and octets -/

lemma areOctets_nil : AreOctets [] := List.forall_mem_nil _

lemma areOctets_cons {number : ℤ} :
    AreOctets (number :: numbers) ↔ (0 ≤ number ∧ number < 256) ∧ AreOctets numbers :=
  List.forall_mem_cons

lemma areOctets_append {others : List ℤ} :
    AreOctets (numbers ++ others) ↔ AreOctets numbers ∧ AreOctets others :=
  List.forall_mem_append

lemma areOctets_showChannel (channel : Channel) : AreOctets (showChannel channel) := by
  cases channel <;> decide

lemma exists_written (h : AreOctets numbers) :
    ∃ octets, written numbers = .ok octets ∧ numbersOf octets = numbers := by
  have hoctets : ∃ octets, Octets.ofInts? numbers = some octets ∧ numbersOf octets = numbers := by
    induction numbers with
    | nil => exact ⟨[], rfl, rfl⟩
    | cons number rest ih =>
      obtain ⟨hnumber, hrest⟩ := areOctets_cons.mp h
      obtain ⟨octets, hoctets, hsame⟩ := ih hrest
      refine ⟨UInt8.ofNat number.toNat :: octets, ?_, ?_⟩
      · rw [Octets.ofInts?] at hoctets ⊢
        rw [List.mapM_cons, if_pos hnumber, hoctets]
        rfl
      · rw [numbersOf, List.map_cons, ← numbersOf, hsame, UInt8.toNat_ofNat']
        congr 1
        omega
  obtain ⟨octets, hsome, hsame⟩ := hoctets
  exact ⟨octets, by rw [written, hsome], hsame⟩

lemma settles_written (hacceptable : Acceptable command)
    (hnumbers : AreOctets numbers) (hshort : numbers.length ≤ 11)
    (hread : ∀ payload, numbersOf payload = numbers → readCommand payload = some command) :
    Settles command (written numbers) := by
  obtain ⟨octets, hwritten, rfl⟩ := exists_written hnumbers
  rw [numbersOf, List.length_map] at hshort
  rw [hwritten]
  exact .accepted hacceptable (by omega) (hread octets rfl)

lemma readCommand_shown {channel : Channel} {payload : Octets}
    (h : numbersOf payload = showChannel channel ++ numbers) :
    readCommand payload = readShown channel.number.toNat numbers := by
  rw [readCommand, h]
  rfl

/-- What is shown on a channel is read behind the number of the channel. -/
lemma settles_shown {channel : Channel} (hacceptable : Acceptable command)
    (hnumbers : AreOctets numbers) (hshort : numbers.length ≤ 9)
    (hread : readShown channel.number.toNat numbers = some command) :
    Settles command (written (showChannel channel ++ numbers)) := by
  apply settles_written hacceptable
  · exact areOctets_append.mpr ⟨areOctets_showChannel channel, hnumbers⟩
  · rw [List.length_append, showChannel, List.length_cons, List.length_singleton]
    omega
  · intro payload hsame
    rw [readCommand_shown hsame, hread]

lemma flag_octet (value : Bool) : 0 ≤ flag value ∧ flag value < 256 := by
  cases value <;> decide

@[simp] lemma decide_flag_eq_one (value : Bool) : decide (flag value = 1) = value := by
  cases value <;> rfl

/-! ### Styles -/

lemma isTable_weatherStyles : IsTable weatherStyles := ⟨by decide, by decide⟩

lemma isTable_clockStyles : IsTable clockStyles := ⟨by decide, by decide⟩

lemma isTable_lightStyles : IsTable lightStyles := ⟨by decide, by decide⟩

lemma IsTable.nameOf_of_lookup (h : IsTable styles) {name : String} {number : ℤ}
    (hlookup : styles.lookup name = some number) : nameOf styles number = some name := by
  obtain ⟨before, behind, rfl, -⟩ := List.lookup_eq_some_iff.mp hlookup
  have hnodup := h.nodup
  rw [List.map_append, List.map_cons, List.nodup_append] at hnodup
  have hfind : (before ++ (name, number) :: behind).find? (fun style => style.2 = number) =
      some (name, number) := by
    refine List.find?_eq_some_iff_append.mpr ⟨by simp, before, behind, rfl, ?_⟩
    intro style hmem
    have hother := hnodup.2.2 style.2 (List.mem_map_of_mem hmem) number List.mem_cons_self
    simpa using hother
  rw [nameOf, hfind]
  rfl

lemma mem_names_of_lookup {name : String} {number : ℤ} (h : styles.lookup name = some number) :
    name ∈ styles.names ∧ (name, number) ∈ styles := by
  obtain ⟨before, behind, rfl, -⟩ := List.lookup_eq_some_iff.mp h
  simp [Styles.names]

lemma not_mem_names_of_lookup {name : String} (h : styles.lookup name = none) :
    name ∉ styles.names := by
  intro hmem
  obtain ⟨style, hstyle, rfl⟩ := List.mem_map.mp hmem
  simpa using List.lookup_eq_none_iff.mp h style hstyle

/-! ### The checks of arguments -/

section Checks
variable {rest : Except Refusal Octets}

lemma settles_checkRange {field : String} {highest : ℕ} {value : ℤ}
    (hneeds : Acceptable command → 0 ≤ value ∧ value ≤ highest)
    (hrest : 0 ≤ value ∧ value ≤ highest → Settles command rest) :
    Settles command (do checkRange field highest value; rest) := by
  by_cases h : 0 ≤ value ∧ value ≤ highest
  · have hok : checkRange field highest value = .ok () := if_neg (by omega)
    rw [hok]
    exact hrest h
  · have herror : checkRange field highest value = .error (.outOfRange field highest value) :=
      if_pos (by omega)
    rw [herror]
    exact .refused (mt hneeds h) trivial

lemma settles_checkTemperature {value : ℤ}
    (hneeds : Acceptable command → -100 < value ∧ value < 100)
    (hrest : -100 < value ∧ value < 100 → Settles command rest) :
    Settles command (do checkTemperature value; rest) := by
  by_cases h : -100 < value ∧ value < 100
  · have hok : checkTemperature value = .ok () := if_neg (by rw [temperatureBound]; omega)
    rw [hok]
    exact hrest h
  · have herror : checkTemperature value = .error (.temperature value) :=
      if_pos (by rw [temperatureBound]; omega)
    rw [herror]
    exact .refused (mt hneeds h) trivial

lemma settles_checkColour {components : List ℤ} (hneeds : Acceptable command → IsColour components)
    (hrest : IsColour components → Settles command rest) :
    Settles command (do checkColour components; rest) := by
  have hiff : (components.length ≠ 3 ∨
      components.any fun component => component < 0 ∨ 255 < component) ↔ ¬IsColour components := by
    rw [IsColour, not_and_or, List.any_eq_true]
    simp only [decide_eq_true_eq, not_forall, ← not_le, ← not_and_or, exists_prop]
  by_cases h : IsColour components
  · have hok : checkColour components = .ok () := if_neg (not_not_intro h ∘ hiff.mp)
    rw [hok]
    exact hrest h
  · have herror : checkColour components = .error (.colour components) := if_pos (hiff.mpr h)
    rw [herror]
    exact .refused (mt hneeds h) trivial

lemma settles_checkStyle {rest : ℤ → Except Refusal Octets} (htable : IsTable styles)
    {family name : String} (hneeds : Acceptable command → name ∈ styles.names)
    (hrest : ∀ number, name ∈ styles.names → nameOf styles number = some name →
      0 ≤ number ∧ number < 256 → Settles command (rest number)) :
    Settles command (do let number ← checkStyle family styles name; rest number) := by
  cases hlookup : styles.lookup name with
  | some number =>
    have hok : checkStyle family styles name = .ok number := by rw [checkStyle, hlookup]
    obtain ⟨hname, hmem⟩ := mem_names_of_lookup hlookup
    rw [hok]
    exact hrest number hname (htable.nameOf_of_lookup hlookup) (htable.octet _ hmem)
  | none =>
    have herror : checkStyle family styles name = .error (.unknownStyle family name styles.names) := by
      rw [checkStyle, hlookup]
    rw [herror]
    exact .refused (mt hneeds (not_mem_names_of_lookup hlookup)) trivial

end Checks

lemma IsColour.exists_eq {components : List ℤ} (h : IsColour components) :
    ∃ red green blue, components = [red, green, blue] ∧ (0 ≤ red ∧ red ≤ 255) ∧
      (0 ≤ green ∧ green ≤ 255) ∧ 0 ≤ blue ∧ blue ≤ 255 := by
  obtain ⟨hlength, hall⟩ := h
  obtain ⟨red, green, blue, rfl⟩ := List.length_eq_three.mp hlength
  exact ⟨red, green, blue, rfl, hall red (by simp), hall green (by simp), hall blue (by simp)⟩

/-! ### The commands -/

lemma settles_requestSettings : Settles .requestSettings (payload .requestSettings) := by
  rw [payload]
  apply settles_written
  · trivial
  · decide
  · simp
  · intro payload hsame
    rw [readCommand, hsame]
    rfl

lemma settles_displayOff : Settles .displayOff (payload .displayOff) := by
  rw [payload]
  apply settles_shown
  · trivial
  · decide
  · simp
  · rfl

lemma settles_showCloud : Settles .showCloud (payload .showCloud) := by
  rw [payload, ← List.append_nil (showChannel .cloud)]
  apply settles_shown
  · trivial
  · decide
  · simp
  · rfl

lemma settles_setTime {moment : Moment} (h : IsDated (.setTime moment)) :
    Settles (.setTime moment) (payload (.setTime moment)) := by
  obtain ⟨hyear, hmonth, hday, hhour, hminute, hsecond⟩ := h
  rw [payload]
  apply settles_written
  · trivial
  · simp only [areOctets_cons, areOctets_nil, and_true]
    omega
  · simp
  · intro payload hsame
    have hyears : (100 * ((moment.year : ℤ) / 100) + moment.year % 100).toNat = moment.year := by
      omega
    rw [readCommand, hsame]
    simp [hyears]

/-- A command with one value in a range, behind some fixed numbers. -/
lemma settles_ranged (front : List ℤ) {field : String} {highest : ℕ} {value : ℤ}
    (hiff : Acceptable command ↔ 0 ≤ value ∧ value ≤ highest) (hhighest : highest ≤ 255)
    (hfront : AreOctets front) (hshort : front.length ≤ 10)
    (hread : ∀ payload, numbersOf payload = front ++ [value] → readCommand payload = some command) :
    Settles command (do checkRange field highest value; written (front ++ [value])) := by
  apply settles_checkRange hiff.mp
  intro h
  apply settles_written
  · exact hiff.mpr h
  · simp only [areOctets_append, areOctets_cons, areOctets_nil, and_true]
    exact ⟨hfront, by omega⟩
  · rw [List.length_append, List.length_singleton]
    omega
  · exact hread

lemma settles_setVolume (volume : ℤ) : Settles (.setVolume volume) (payload (.setVolume volume)) := by
  apply settles_ranged [0x08] Iff.rfl (by decide) (by decide) (by decide)
  intro payload hsame
  rw [readCommand, hsame]
  rfl

lemma settles_setBrightness (brightness : ℤ) :
    Settles (.setBrightness brightness) (payload (.setBrightness brightness)) := by
  apply settles_ranged [0x74] Iff.rfl (by decide) (by decide) (by decide)
  intro payload hsame
  rw [readCommand, hsame]
  rfl

lemma settles_showEffect (effect : ℤ) :
    Settles (.showEffect effect) (payload (.showEffect effect)) := by
  apply settles_ranged (showChannel .effect) Iff.rfl (by decide) (by decide) (by decide)
  intro payload hsame
  rw [readCommand_shown hsame]
  rfl

lemma settles_showVisualisation (visualisation : ℤ) :
    Settles (.showVisualisation visualisation) (payload (.showVisualisation visualisation)) := by
  apply settles_ranged (showChannel .visualisation) Iff.rfl (by decide) (by decide) (by decide)
  intro payload hsame
  rw [readCommand_shown hsame]
  rfl

lemma settles_setWeather (temperature : ℤ) (weather : String) :
    Settles (.setWeather temperature weather) (payload (.setWeather temperature weather)) := by
  rw [payload]
  apply settles_checkStyle isTable_weatherStyles
  · exact And.left
  · intro number hname hread hnumber
    apply settles_checkTemperature
    · exact And.right
    · intro h
      apply settles_written
      · exact ⟨hname, h⟩
      · simp only [areOctets_cons, areOctets_nil, and_true]
        omega
      · simp
      · intro payload hsame
        have hsigned : signed (temperature % 256) = temperature := by
          rw [signed]
          split <;> omega
        rw [readCommand, hsame]
        simp [hread, hsigned]

lemma settles_showClock (face : ClockFace) :
    Settles (.showClock face) (payload (.showClock face)) := by
  rw [payload]
  apply settles_checkStyle isTable_clockStyles
  · exact And.left
  · intro number hname hread hnumber
    apply settles_checkColour
    · exact And.right
    · intro h
      obtain ⟨style, time, weather, temperature, calendar, colour⟩ := face
      obtain ⟨red, green, blue, rfl, hred, hgreen, hblue⟩ := h.exists_eq
      have htime := flag_octet time
      have hweather := flag_octet weather
      have htemperature := flag_octet temperature
      have hcalendar := flag_octet calendar
      rw [List.append_assoc]
      apply settles_shown
      · exact ⟨hname, h⟩
      · simp only [areOctets_append, areOctets_cons, areOctets_nil, and_true]
        omega
      · simp
      · simp [Channel.number, readShown, hread]

lemma settles_showLight (style : String) (colour : List ℤ) (brightness : ℤ) :
    Settles (.showLight style colour brightness) (payload (.showLight style colour brightness)) := by
  rw [payload]
  apply settles_checkRange
  · exact And.left
  · intro hbrightness
    apply settles_checkStyle isTable_lightStyles
    · exact fun h => h.2.1
    · intro number hname hread hnumber
      apply settles_checkColour
      · exact fun h => h.2.2
      · intro h
        obtain ⟨red, green, blue, rfl, hred, hgreen, hblue⟩ := h.exists_eq
        rw [maxBrightness] at hbrightness
        rw [List.append_assoc]
        apply settles_shown
        · exact ⟨hbrightness, hname, h⟩
        · simp only [areOctets_append, areOctets_cons, areOctets_nil, and_true]
          omega
        · simp
        · simp [Channel.number, readShown, hread]

lemma settles_showScoreboard (red blue : ℤ) :
    Settles (.showScoreboard red blue) (payload (.showScoreboard red blue)) := by
  rw [payload]
  apply settles_checkRange
  · exact And.left
  · intro hred
    apply settles_checkRange
    · exact And.right
    · intro hblue
      rw [maxScore] at hred hblue
      have hred' : red % 256 + 256 * (red / 256 % 256) = red := by omega
      have hblue' : blue % 256 + 256 * (blue / 256 % 256) = blue := by omega
      rw [List.append_assoc, List.append_assoc]
      apply settles_shown
      · exact ⟨hred, hblue⟩
      · simp only [lowWord, areOctets_append, areOctets_cons, areOctets_nil, and_true]
        omega
      · simp [lowWord]
      · simp [Channel.number, lowWord, readShown, hred', hblue']

lemma ofColours_pixels {picture : Picture} (h : OnPanel picture) :
    Picture.ofColours panelSide panelSide picture.pixels = picture := by
  obtain ⟨width, height, pixels, hlength⟩ := picture
  obtain ⟨rfl, rfl⟩ : width = panelSide ∧ height = panelSide := h
  simp only [Picture.ofColours, Picture.mk.injEq, true_and]
  rw [hlength, Nat.sub_self, List.replicate_zero, List.append_nil, ← hlength, List.take_length]

lemma settles_showPicture (picture : Picture) :
    Settles (.showPicture picture) (payload (.showPicture picture)) := by
  rw [payload]
  by_cases h : OnPanel picture
  · obtain ⟨frame, hframe, -, hshort, hread⟩ := exists_build h 0
    rw [hframe]
    apply Settles.accepted
    · exact h
    · simp only [List.length_append, List.length_cons, List.length_nil]
      omega
    · have hread := hread []
      rw [List.append_nil] at hread
      change (readFrame frame).map _ = _
      rw [hread, Option.map_some, ofColours_pixels h]
  · rw [build_of_not_onPanel h]
    exact .refused h trivial

lemma settles_payload (h : IsDated command) : Settles command command.payload := by
  cases command with
  | requestSettings => exact settles_requestSettings
  | displayOff => exact settles_displayOff
  | setTime moment => exact settles_setTime h
  | setVolume volume => exact settles_setVolume volume
  | setBrightness brightness => exact settles_setBrightness brightness
  | setWeather temperature weather => exact settles_setWeather temperature weather
  | showClock face => exact settles_showClock face
  | showLight style colour brightness => exact settles_showLight style colour brightness
  | showCloud => exact settles_showCloud
  | showEffect effect => exact settles_showEffect effect
  | showVisualisation visualisation => exact settles_showVisualisation visualisation
  | showScoreboard red blue => exact settles_showScoreboard red blue
  | showPicture picture => exact settles_showPicture picture

/-! ### Envelopes -/

lemma encode_cases (h : IsDated command) :
    (∃ payload, Acceptable command ∧ command.encode = .ok (wrap payload) ∧
      unwrap (wrap payload) = .ok [payload] ∧ readCommand payload = some command) ∨
    ∃ refusal, ¬Acceptable command ∧ command.encode = .error refusal ∧ OfArgument refusal := by
  have hsettles := settles_payload h
  rw [encode]
  generalize command.payload = result at hsettles
  cases hsettles with
  | @accepted payload hacceptable hshort hread =>
    exact .inl ⟨payload, hacceptable, rfl, unwrap_wrap hshort, hread⟩
  | @refused refusal hnot hargument => exact .inr ⟨refusal, hnot, rfl, hargument⟩

end PixelPanel.Proofs
