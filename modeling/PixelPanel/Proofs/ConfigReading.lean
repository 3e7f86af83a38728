import PixelPanel.Config
import PixelPanel.Proofs.AddressForms

/-!
# What a configuration is

A value is a configuration if all entries of its list are: each of them has an address, and a channel only
if it is one. Then every entry becomes a device. Otherwise the first entry that is none is named, with what
is wrong about it. A device that is found can be connected to, unless the system is against it.
-/

namespace PixelPanel

namespace Json.Value

/-- A value is an object. -/
def IsObject : Value → Prop
  | .object _ => True
  | _ => False

end Json.Value

namespace Device

/-- What is given as a channel, or that nothing is, gives a channel. -/
def GivesChannel (given : Option Json.Value) (channel : ℤ) : Prop :=
  given = none ∧ channel = 1 ∨ given = some (.integer channel) ∧ 1 ≤ channel ∧ channel ≤ 30

/-- What is given as a name, or else the place in the list, gives a name. -/
def GivesName (index : ℕ) (given : Option Json.Value) (name : Json.Points) : Prop :=
  (∃ value, given = some value ∧ value.isGiven ∧ name = value.plain) ∨
    (∀ value, given = some value → value.isGiven = false) ∧ name = Json.points s!"device{index}"

/-- The entry at a place of the list describes a device. -/
structure GivesDevice (index : ℕ) (entry : Json.Value) (device : Device) : Prop where
  address : entry.member? "mac" = some (.text (Json.points device.address))
  isAddress : (Address.ofText? device.address.toList).isSome
  channel : GivesChannel (entry.member? "channel") device.channel
  name : GivesName index (entry.member? "name") device.name

/-- What is wrong with an entry that describes no device. -/
inductive Wrong (entry : Json.Value) : Fault → Prop
  | notObject (h : ¬entry.IsObject) : Wrong entry .notObject
  | noAddress (hobject : entry.IsObject)
    (h : ∀ written, entry.member? "mac" ≠ some (.text written)) : Wrong entry .noAddress
  | address {written : Json.Points} (hwritten : entry.member? "mac" = some (.text written))
    (h : ¬Address.IsWritten written) : Wrong entry (.address written)
  | channel {written : Json.Points} {given : Json.Value}
    (hwritten : entry.member? "mac" = some (.text written)) (haddress : Address.IsWritten written)
    (hgiven : entry.member? "channel" = some given) (h : ∀ channel, ¬GivesChannel (some given) channel) :
    Wrong entry (.channel given)

end Device

namespace Config
open Device

/-- A value holds a list of entries. Without a list there are none. -/
def Lists (value : Json.Value) (entries : List Json.Value) : Prop :=
  value.IsObject ∧ (value.member? "devices" = some (.list entries) ∨
    value.member? "devices" = none ∧ entries = [])

/-- The entries of a list describe devices one by one, the first of them at a place. -/
def GiveDevices (index : ℕ) (entries : List Json.Value) (devices : List Device) : Prop :=
  devices.length = entries.length ∧ ∀ place entry device, entries[place]? = some entry →
    devices[place]? = some device → GivesDevice (index + place) entry device

/-- A device has the name that is looked for. Every device will do if there is none. -/
def Suits (name : Option Json.Points) (device : Device) : Prop :=
  ∀ wanted ∈ name, device.name = wanted

instance (name : Option Json.Points) (device : Device) : Decidable (Suits name device) :=
  inferInstanceAs (Decidable (∀ wanted ∈ name, _))

/-- A device is the one to be found: the first one that suits. -/
def IsFirst (config : Config) (name : Option Json.Points) (device : Device) : Prop :=
  ∃ front later, config.devices = front ++ device :: later ∧ Suits name device ∧
    ∀ other ∈ front, ¬Suits name other

end Config
end PixelPanel

namespace PixelPanel.Proofs
open Device Config Link

variable {index : ℕ} {entry value : Json.Value} {entries : List Json.Value} {device : Device}

/-! ### Entries -/

lemma channelOf?_eq_ok_iff {given : Option Json.Value} {channel : ℤ} :
    channelOf? given = .ok channel ↔ GivesChannel given channel := by
  constructor
  · intro h
    unfold channelOf? at h
    split at h
    · exact .inl ⟨rfl, (Except.ok.inj h).symm⟩
    · split at h
      · rename_i hrange
        obtain rfl := Except.ok.inj h
        exact .inr ⟨rfl, hrange⟩
      · cases h
    · cases h
  · rintro (⟨rfl, rfl⟩ | ⟨rfl, hrange⟩)
    · rfl
    · exact if_pos hrange

lemma channelOf?_eq_error {given : Option Json.Value} {fault : Device.Fault}
    (h : channelOf? given = .error fault) : ∃ value, given = some value ∧ fault = .channel value := by
  unfold channelOf? at h
  split at h
  · cases h
  · split at h
    · cases h
    · exact ⟨_, rfl, (Except.error.inj h).symm⟩
  · exact ⟨_, rfl, (Except.error.inj h).symm⟩

lemma givesName_iff {given : Option Json.Value} {name : Json.Points} :
    GivesName index given name ↔ Device.nameOf index given = name := by
  rw [Device.nameOf]
  constructor
  · rintro (⟨value, rfl, hgiven, rfl⟩ | ⟨hnone, rfl⟩)
    · rw [Option.filter_some_pos hgiven]
    · have hfilter : given.filter Json.Value.isGiven = none := by
        rw [Option.filter_eq_none_iff]
        exact fun value hvalue => Bool.eq_false_iff.mp (hnone value hvalue)
      rw [hfilter]
  · rintro rfl
    cases hfilter : given.filter Json.Value.isGiven with
    | none =>
      rw [Option.filter_eq_none_iff] at hfilter
      exact .inr ⟨fun value hvalue => Bool.eq_false_iff.mpr (hfilter value hvalue), rfl⟩
    | some value =>
      obtain ⟨hvalue, hgiven⟩ := Option.filter_eq_some_iff.mp hfilter
      exact .inl ⟨value, hvalue, hgiven, rfl⟩

lemma ofJson_of_givesDevice (h : GivesDevice index entry device) :
    Device.ofJson index entry = .ok device := by
  obtain ⟨haddress, hread, hchannel, hname⟩ := h
  obtain ⟨octets, hoctets⟩ := Option.isSome_iff_exists.mp hread
  cases entry with
  | object members =>
    have hlookup : members.lookup (Json.points "mac") = some (.text (Json.points device.address)) :=
      haddress
    have hgiven : channelOf? (members.lookup (Json.points "channel")) = .ok device.channel :=
      channelOf?_eq_ok_iff.mpr hchannel
    have hcalled : Device.nameOf index (members.lookup (Json.points "name")) = device.name :=
      givesName_iff.mp hname
    rw [← ofPoints_points device.address] at hoctets
    rw [Device.ofJson, hlookup]
    simp only [ofPoints_points] at hoctets ⊢
    simp only [hoctets, hgiven, hcalled]
  | _ => cases haddress

/-- An entry is read as the device that it describes, or it is told what is wrong with it. -/
lemma givesDevice_or_wrong (index : ℕ) (entry : Json.Value) :
    (∃ device, Device.ofJson index entry = .ok device ∧ GivesDevice index entry device) ∨
      ∃ fault, Device.ofJson index entry = .error fault ∧ Wrong entry fault := by
  cases entry with
  | object members =>
    rw [Device.ofJson]
    split
    · rename_i written hlookup
      have hmac : Json.Value.member? "mac" (.object members) = some (.text written) := hlookup
      split
      · rename_i hnone
        refine .inr ⟨_, rfl, .address hmac fun h => ?_⟩
        rw [isWritten_iff, hnone] at h
        cases h
      · rename_i octets hoctets
        have hread : (Address.ofText? (Text.ofPoints written).toList).isSome :=
          Option.isSome_iff_exists.mpr ⟨octets, hoctets⟩
        split
        · rename_i fault hfault
          obtain ⟨given, hgiven, rfl⟩ := channelOf?_eq_error hfault
          refine .inr ⟨_, rfl, .channel hmac (isWritten_iff.mpr hread) hgiven fun channel h => ?_⟩
          rw [← hgiven, ← channelOf?_eq_ok_iff, hfault] at h
          cases h
        · rename_i channel hchannel
          have hback := points_ofPoints (replacement_not_mem hread)
          exact .inl ⟨_, rfl, by rw [hback, hmac], hread, channelOf?_eq_ok_iff.mp hchannel,
            givesName_iff.mpr rfl⟩
    · rename_i hnone
      exact .inr ⟨_, rfl, .noAddress trivial hnone⟩
  | _ => exact .inr ⟨_, rfl, .notObject id⟩

lemma ofJson_eq_ok_iff : Device.ofJson index entry = .ok device ↔ GivesDevice index entry device := by
  refine ⟨fun h => ?_, ofJson_of_givesDevice⟩
  obtain ⟨found, hfound, hdescribes⟩ | ⟨fault, hfault, -⟩ := givesDevice_or_wrong index entry
  · obtain rfl := Except.ok.inj (hfound.symm.trans h)
    exact hdescribes
  · cases hfault.symm.trans h

variable {devices : List Device}

lemma giveDevices_cons : GiveDevices index (entry :: entries) (device :: devices) ↔
    GivesDevice index entry device ∧ GiveDevices (index + 1) entries devices := by
  rw [GiveDevices, GiveDevices, List.length_cons, List.length_cons, Nat.add_right_cancel_iff]
  constructor
  · rintro ⟨hlength, hall⟩
    refine ⟨hall 0 entry device rfl rfl, hlength, fun place other found hother hfound => ?_⟩
    rw [Nat.add_right_comm]
    exact hall (place + 1) other found hother hfound
  · rintro ⟨hfirst, hlength, hall⟩
    refine ⟨hlength, fun place other found hother hfound => ?_⟩
    cases place with
    | zero =>
      obtain rfl := Option.some.inj hother
      obtain rfl := Option.some.inj hfound
      exact hfirst
    | succ place =>
      rw [← Nat.add_assoc, Nat.add_right_comm]
      exact hall place other found hother hfound

lemma devicesFrom_eq_ok_iff : devicesFrom index entries = .ok devices ↔
    GiveDevices index entries devices := by
  induction entries generalizing index devices with
  | nil =>
    rw [devicesFrom, Except.ok.injEq, GiveDevices, List.length_nil, List.length_eq_zero_iff]
    exact ⟨fun h => ⟨h.symm, fun _ _ _ hentry => by cases hentry⟩, fun h => h.1.symm⟩
  | cons entry entries ih =>
    constructor
    · intro h
      rw [devicesFrom] at h
      split at h
      · cases h
      · rename_i device hdevice
        split at h
        · cases h
        · rename_i rest hrest
          obtain rfl := Except.ok.inj h
          exact giveDevices_cons.mpr ⟨ofJson_eq_ok_iff.mp hdevice, ih.mp hrest⟩
    · intro h
      cases devices with
      | nil => cases h.1
      | cons device devices =>
        obtain ⟨hfirst, hrest⟩ := giveDevices_cons.mp h
        rw [devicesFrom, ofJson_eq_ok_iff.mpr hfirst, ih.mpr hrest]

lemma ofJson_of_lists (h : Lists value entries) :
    Config.ofJson value = (devicesFrom 0 entries).map Config.mk := by
  obtain ⟨hobject, hlist⟩ := h
  cases value with
  | object members =>
    rw [Config.ofJson]
    obtain hsome | ⟨hnone, rfl⟩ := hlist
    · rw [show members.lookup (Json.points "devices") = _ from hsome]
      rfl
    · rw [show members.lookup (Json.points "devices") = _ from hnone]
      rfl
  | _ => cases hobject

/-- A value lists entries, or its member is no list, or it is no object at all. -/
lemma lists_or_error (value : Json.Value) : (∃ entries, Lists value entries) ∨
    (value.IsObject ∧ ∀ entries, ¬Lists value entries) ∧
        Config.ofJson value = .error .devicesNotList ∨
      ¬value.IsObject ∧ Config.ofJson value = .error .notObject := by
  cases value with
  | object members =>
    cases hlookup : members.lookup (Json.points "devices") with
    | none => exact .inl ⟨[], trivial, .inr ⟨hlookup, rfl⟩⟩
    | some found =>
      cases found with
      | list entries => exact .inl ⟨entries, trivial, .inl hlookup⟩
      | _ =>
        refine .inr (.inl ⟨⟨trivial, ?_⟩, by rw [Config.ofJson, hlookup]; rfl⟩)
        rintro entries ⟨-, hsome | ⟨hnone, -⟩⟩
        · cases hlookup.symm.trans hsome
        · cases hlookup.symm.trans hnone
  | _ => exact .inr (.inr ⟨id, rfl⟩)

lemma lists_unique {others : List Json.Value} (h : Lists value entries) (h' : Lists value others) :
    entries = others := by
  obtain ⟨-, hsome | ⟨hnone, rfl⟩⟩ := h
  · obtain ⟨-, hsome' | ⟨hnone', rfl⟩⟩ := h'
    · exact Json.Value.list.inj (Option.some.inj (hsome.symm.trans hsome'))
    · cases hnone'.symm.trans hsome
  · obtain ⟨-, hsome' | ⟨-, rfl⟩⟩ := h'
    · cases hnone.symm.trans hsome'
    · rfl

lemma config_eq_ok_iff {config : Config} : Config.ofJson value = .ok config ↔
    ∃ entries, Lists value entries ∧ GiveDevices 0 entries config.devices := by
  constructor
  · intro h
    obtain ⟨entries, hentries⟩ | ⟨-, herror⟩ | ⟨-, herror⟩ := lists_or_error value
    · refine ⟨entries, hentries, ?_⟩
      rw [ofJson_of_lists hentries] at h
      cases hdevices : devicesFrom 0 entries with
      | error fault =>
        rw [hdevices] at h
        cases h
      | ok devices =>
        rw [hdevices] at h
        obtain rfl := Except.ok.inj h
        exact devicesFrom_eq_ok_iff.mp hdevices
    · cases herror.symm.trans h
    · cases herror.symm.trans h
  · rintro ⟨entries, hentries, hall⟩
    rw [ofJson_of_lists hentries, devicesFrom_eq_ok_iff.mpr hall]
    rfl

variable {config : Config} {name : Option Json.Points}

lemma find_cases (config : Config) (name : Option Json.Points) :
    (∃ device, config.find name = .ok device ∧ config.devices.find? (Suits name) = some device) ∨
      ∃ missing, config.find name = .error missing ∧ config.devices.find? (Suits name) = none := by
  unfold Config.find
  split
  · rename_i hnil
    exact .inr ⟨_, rfl, by rw [hnil, List.find?_nil]⟩
  · rename_i first rest hdevices
    cases name with
    | none => exact .inl ⟨first, rfl, by rw [hdevices, List.find?_cons_of_pos (by simp [Suits])]⟩
    | some wanted =>
      have hsuits : ∀ device : Device, Suits (some wanted) device ↔ device.name = wanted := by
        simp [Suits]
      simp only [hsuits]
      split
      · rename_i device hdevice
        exact .inl ⟨device, rfl, hdevice⟩
      · rename_i hnone
        exact .inr ⟨_, rfl, hnone⟩

lemma find?_eq_some_iff_isFirst :
    config.devices.find? (Suits name) = some device ↔ IsFirst config name device := by
  rw [List.find?_eq_some_iff_append]
  simp only [decide_eq_true_eq, Bool.not_eq_true', decide_eq_false_iff_not]
  constructor
  · rintro ⟨hsuits, front, later, hdevices, hfront⟩
    exact ⟨front, later, hdevices, hsuits, hfront⟩
  · rintro ⟨front, later, hdevices, hsuits, hfront⟩
    exact ⟨hsuits, front, later, hdevices, hfront⟩

lemma find_eq_ok_iff : config.find name = .ok device ↔ IsFirst config name device := by
  rw [← find?_eq_some_iff_isFirst]
  obtain ⟨found, hfound, hfirst⟩ | ⟨missing, hmissing, hnone⟩ := find_cases config name
  · rw [hfound, hfirst, Except.ok.injEq, Option.some.injEq]
  · rw [hmissing, hnone]
    exact iff_of_false (fun h => by cases h) (fun h => by cases h)

/-- A value that lists some entries. -/
def listing (entries : List Json.Value) : Json.Value :=
  .object [(Json.points "devices", .list entries)]

/-- An entry with an address and some more members. -/
def entryOf (address : String) (more : List (String × Json.Value)) : Json.Value :=
  .object ((Json.points "mac", .text (Json.points address)) ::
    more.map fun (name, value) => (Json.points name, value))

lemma ok_of_toOption (h : (Config.ofJson value).toOption = some config) :
    Config.ofJson value = .ok config := by
  cases hread : Config.ofJson value with
  | error fault =>
    rw [hread] at h
    cases h
  | ok found =>
    rw [hread] at h
    rw [Option.some.inj h]

end PixelPanel.Proofs
