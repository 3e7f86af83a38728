import PixelPanel.Proofs.ConfigReading

/-!
# Names of devices

Every device should be found by its name. A device has the name that its entry gives, or else one made of
its place in the list, and of all devices with a name only the first is found. Names of the two kinds can be
the same: then one of the two devices is out of reach, and its commands go to the other one.
-/

namespace PixelPanel

namespace Device

/-- The name that an entry of the list gives to its device. -/
def givenName? (entry : Json.Value) : Option Json.Points :=
  ((entry.member? "name").filter Json.Value.isGiven).map Json.Value.plain

/-- The name of a device that is given none. -/
def placeName (place : ℕ) : Json.Points :=
  Json.points s!"device{place}"

end Device

namespace Config

/-- The name that one of two entries gives is the one that the other one gets for its place. -/
def Collide (entries : List Json.Value) (earlier later : ℕ) : Prop :=
  ∃ first second, entries[earlier]? = some first ∧ entries[later]? = some second ∧
    (Device.givenName? first = none ∧ Device.givenName? second = some (Device.placeName earlier) ∨
      Device.givenName? first = some (Device.placeName later) ∧ Device.givenName? second = none)

/-- The device at a place is found by its name, and not by chance: it is the first one with this name. -/
def FoundAt (config : Config) (place : ℕ) (device : Device) : Prop :=
  config.find (some device.name) = .ok device ∧
    ∀ other ∈ config.devices.take place, other.name ≠ device.name

end Config
end PixelPanel

namespace PixelPanel.Proofs
open Device Config

variable {value : Json.Value} {config : Config} {entries : List Json.Value}
  {earlier later place : ℕ} {entry first second : Json.Value} {device other : Device}

lemma exists_device {devices : List Device} (h : GiveDevices place entries devices) {index : ℕ}
    (hentry : entries[index]? = some entry) : ∃ device, devices[index]? = some device :=
  ⟨_, List.getElem?_eq_getElem (h.1 ▸ (List.getElem?_eq_some_iff.mp hentry).1)⟩

lemma exists_entry {devices : List Device} (h : GiveDevices place entries devices) {index : ℕ}
    (hdevice : devices[index]? = some device) : ∃ entry, entries[index]? = some entry :=
  ⟨_, List.getElem?_eq_getElem (h.1 ▸ (List.getElem?_eq_some_iff.mp hdevice).1)⟩

lemma exists_before (hdevice : config.devices[later]? = some device) (hlt : earlier < later) :
    ∃ other, config.devices[earlier]? = some other :=
  ⟨_, List.getElem?_eq_getElem (hlt.trans (List.getElem?_eq_some_iff.mp hdevice).1)⟩

lemma placeName_injective (h : placeName earlier = placeName later) : earlier = later := by
  have hdigits : earlier.repr = later.repr := (String.append_right_inj _).mp (points_injective h)
  rw [← @Nat.ofDigitChars_ten_toDigits earlier, ← @Nat.ofDigitChars_ten_toDigits later,
    ← Nat.toList_repr, ← Nat.toList_repr, hdigits]

lemma name_of_givesDevice (h : GivesDevice place entry device) :
    device.name = (givenName? entry).getD (placeName place) := by
  rw [← givesName_iff.mp h.name, Device.nameOf, givenName?]
  cases (entry.member? "name").filter Json.Value.isGiven <;> rfl

/-- Of two entries that give a name, each gives another one. -/
lemma ne_of_distinct (hdistinct : (entries.filterMap givenName?).Nodup) (hlt : earlier < later)
    (hfirst : entries[earlier]? = some first) (hsecond : entries[later]? = some second)
    {name : Json.Points} (hname : givenName? first = some name) : givenName? second ≠ some name := by
  obtain ⟨hearlier, rfl⟩ := List.getElem?_eq_some_iff.mp hfirst
  obtain ⟨hlater, rfl⟩ := List.getElem?_eq_some_iff.mp hsecond
  have hpairs := List.pairwise_iff_getElem.mp (List.pairwise_filterMap.mp hdistinct)
  exact fun hsame => hpairs earlier later hearlier hlater hlt name hname name hsame rfl

/-- Two devices have the same name only if one name is given and the other one comes from its place. -/
lemma name_eq_iff_collide (hdescribed : GiveDevices 0 entries config.devices)
    (hdistinct : (entries.filterMap givenName?).Nodup) (hlt : earlier < later)
    (hother : config.devices[earlier]? = some other) (hdevice : config.devices[later]? = some device) :
    other.name = device.name ↔ Collide entries earlier later := by
  obtain ⟨first, hfirst⟩ := exists_entry hdescribed hother
  obtain ⟨second, hsecond⟩ := exists_entry hdescribed hdevice
  have hcollide : Collide entries earlier later ↔
      (givenName? first = none ∧ givenName? second = some (placeName earlier) ∨
        givenName? first = some (placeName later) ∧ givenName? second = none) := by
    simp only [Collide, hfirst, hsecond, Option.some.injEq, exists_and_left, exists_eq_left']
  have hne := @ne_of_distinct entries earlier later first second hdistinct hlt hfirst hsecond
  rw [hcollide, name_of_givesDevice (hdescribed.2 earlier first other hfirst hother),
    name_of_givesDevice (hdescribed.2 later second device hsecond hdevice), Nat.zero_add, Nat.zero_add]
  cases hgiven : givenName? first with
  | none =>
    cases hgiven' : givenName? second with
    | none =>
      have hplaces : placeName earlier ≠ placeName later :=
        fun h => Nat.ne_of_lt hlt (placeName_injective h)
      simp [hplaces]
    | some written => simp [eq_comm]
  | some name =>
    cases hgiven' : givenName? second with
    | none => simp
    | some written =>
      have hnames : name ≠ written := fun h => hne hgiven (h ▸ hgiven')
      simp [hnames]

/-- Of two names that are the same one is given and the other one is not. -/
lemma given_ne_of_collide (h : Collide entries earlier later) (hfirst : entries[earlier]? = some first)
    (hsecond : entries[later]? = some second) :
    (givenName? first).isSome ≠ (givenName? second).isSome := by
  obtain ⟨found, found', hfound, hfound', hnames⟩ := h
  obtain rfl := Option.some.inj (hfirst.symm.trans hfound)
  obtain rfl := Option.some.inj (hsecond.symm.trans hfound')
  rcases hnames with ⟨hnone, hsome⟩ | ⟨hsome, hnone⟩ <;> simp [hnone, hsome]

/-- So there are no three devices with the same name. -/
lemma not_collide_both {earliest : ℕ} (hfirst : Collide entries earliest earlier)
    (hsecond : Collide entries earliest later) : ¬Collide entries earlier later := by
  intro hthird
  obtain ⟨one, two, hone, htwo, -⟩ := id hfirst
  obtain ⟨-, three, -, hthree, -⟩ := id hsecond
  have honetwo := given_ne_of_collide hfirst hone htwo
  have honethree := given_ne_of_collide hsecond hone hthree
  have htwothree := given_ne_of_collide hthird htwo hthree
  revert honetwo honethree htwothree
  cases (givenName? one).isSome <;> cases (givenName? two).isSome <;>
    cases (givenName? three).isSome <;> decide

/-- The first device with a name is found by it. -/
lemma find_of_first (hdevice : config.devices[place]? = some device)
    (hfirst : ∀ other ∈ config.devices.take place, other.name ≠ device.name) :
    config.find (some device.name) = .ok device := by
  obtain ⟨hlt, rfl⟩ := List.getElem?_eq_some_iff.mp hdevice
  refine find_eq_ok_iff.mpr ⟨config.devices.take place, config.devices.drop (place + 1), ?_, ?_, ?_⟩
  · rw [← List.drop_eq_getElem_cons hlt, List.take_append_drop]
  · exact fun wanted hwanted => Option.some.inj hwanted
  · exact fun other hmem hsuits => hfirst other hmem (hsuits _ rfl)

lemma forall_mem_take {P : Device → Prop} : (∀ other ∈ config.devices.take place, P other) ↔
    ∀ earlier < place, ∀ other, config.devices[earlier]? = some other → P other := by
  constructor
  · intro h earlier hlt other hother
    exact h other (List.mem_of_getElem? ((List.getElem?_take_of_lt hlt).trans hother))
  · intro h other hmem
    obtain ⟨earlier, hearlier⟩ := List.mem_iff_getElem?.mp hmem
    rw [List.getElem?_take] at hearlier
    split at hearlier
    · rename_i hlt
      exact h earlier hlt other hearlier
    · cases hearlier

/-- In a configuration whose given names all differ, a device is found by its name exactly if no device
before it has come to the same name in the other way. Otherwise that device is found in its place. -/
theorem found_unless_names_collide (haccepted : Config.ofJson value = .ok config)
    (hlists : Lists value entries) (hdistinct : (entries.filterMap givenName?).Nodup) :
    (∀ place device, config.devices[place]? = some device →
      (FoundAt config place device ↔ ∀ earlier < place, ¬Collide entries earlier place)) ∧
    ∀ earlier place, earlier < place → Collide entries earlier place →
      ∃ first device, config.devices[earlier]? = some first ∧ config.devices[place]? = some device ∧
        config.find (some device.name) = .ok first := by
  obtain ⟨found, hfound, hdescribed⟩ := config_eq_ok_iff.mp haccepted
  obtain rfl := lists_unique hfound hlists
  have hcollide := @name_eq_iff_collide config found
  refine ⟨fun place device hdevice => ?_, fun earlier place hlt hnames => ?_⟩
  · have hfirst : (∀ other ∈ config.devices.take place, other.name ≠ device.name) ↔
        ∀ earlier < place, ¬Collide found earlier place := by
      rw [forall_mem_take]
      refine forall₂_congr fun earlier hlt => ?_
      obtain ⟨other, hother⟩ := exists_before hdevice hlt
      rw [← hcollide hdescribed hdistinct hlt hother hdevice]
      simp [hother]
    rw [FoundAt, hfirst, and_iff_right_iff_imp, ← hfirst]
    exact find_of_first hdevice
  · obtain ⟨-, second, -, hsecond, -⟩ := id hnames
    obtain ⟨device, hdevice⟩ := exists_device hdescribed hsecond
    obtain ⟨first, hfirst⟩ := exists_before hdevice hlt
    have hsame := (hcollide hdescribed hdistinct hlt hfirst hdevice).mpr hnames
    refine ⟨first, device, hfirst, hdevice, hsame ▸ find_of_first hfirst ?_⟩
    rw [forall_mem_take]
    intro earliest hlt' other hother hname
    have hnames' := (hcollide hdescribed hdistinct hlt' hother hfirst).mp hname
    have hnames'' := (hcollide hdescribed hdistinct (hlt'.trans hlt) hother hdevice).mp (hname.trans hsame)
    exact not_collide_both hnames' hnames'' hnames

/-! ### A name that is taken -/

/-- The second device is given the name that the first one gets for its place. -/
def sharedName : List Json.Value :=
  [entryOf "11:22:33:44:55:66" [],
    entryOf "66:55:44:33:22:11" [("name", .text (Json.points "device0"))]]

/-- The devices that come of it. -/
def sharedConfig : Config :=
  ⟨[⟨Json.points "device0", "11:22:33:44:55:66", 1⟩,
    ⟨Json.points "device0", "66:55:44:33:22:11", 1⟩]⟩

/-- There is one given name only, and its device is not found. -/
theorem given_name_taken :
    Config.ofJson (listing sharedName) = .ok sharedConfig ∧
      sharedName.filterMap givenName? = [Json.points "device0"] ∧
      ¬∀ device ∈ sharedConfig.devices, sharedConfig.find (some device.name) = .ok device := by
  refine ⟨ok_of_toOption (by decide +kernel), by decide +kernel, fun h => ?_⟩
  have hsecond := h ⟨Json.points "device0", "66:55:44:33:22:11", 1⟩ (by decide +kernel)
  revert hsecond
  decide +kernel

theorem found_unless_names_collide_shared :
    Config.ofJson (listing sharedName) = .ok sharedConfig ∧ Lists (listing sharedName) sharedName ∧
      (sharedName.filterMap givenName?).Nodup ∧
      FoundAt sharedConfig 0 ⟨Json.points "device0", "11:22:33:44:55:66", 1⟩ ∧
      ¬FoundAt sharedConfig 1 ⟨Json.points "device0", "66:55:44:33:22:11", 1⟩ := by
  have haccepted : Config.ofJson (listing sharedName) = .ok sharedConfig :=
    ok_of_toOption (by decide +kernel)
  have hlists : Lists (listing sharedName) sharedName := ⟨trivial, .inl rfl⟩
  have hdistinct : (sharedName.filterMap givenName?).Nodup := by decide +kernel
  obtain ⟨hfound, -⟩ := found_unless_names_collide haccepted hlists hdistinct
  refine ⟨haccepted, hlists, hdistinct,
    (hfound 0 _ rfl).mpr fun earlier hlt => absurd hlt earlier.not_lt_zero, ?_⟩
  rw [hfound 1 _ rfl]
  exact fun h => h 0 (by decide) ⟨_, _, rfl, rfl, .inl ⟨by decide +kernel, by decide +kernel⟩⟩

end PixelPanel.Proofs
