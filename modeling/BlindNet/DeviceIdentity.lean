import BlindNet.DeviceRegistry
import BlindNet.Lib.Machine

/-!
# Device identity

Every run of the registry keeps one record for each MAC, under the id made from that
MAC. A sighting of a MAC at an IP ends in one record for both exactly when no other
MAC holds the IP: a record that is found by its IP keeps the MAC and the id of the
device that had the IP before.
-/

namespace BlindNet

set_option autoImplicit false

open ByteLayout SlotTable EventMachine

inductive DeviceRegistryCall where
  | init (zoneId : UInt32)
  | reset
  | upsertMacIp (sighting : DeviceSighting)
  | setStateByIp (ip : UInt32) (state : DeviceState) (riskScore : UInt8)
  | setStateById (deviceId : UInt32) (state : DeviceState) (riskScore : UInt8)
  | removeByIp (ip : UInt32)

def DeviceRegistry.step (registry : DeviceRegistry) :
    DeviceRegistryCall → DeviceRegistry × List ZgEvent
  | .init zoneId => (registry.init zoneId, [])
  | .reset => (registry.reset, [])
  | .upsertMacIp sighting => (registry.upsertMacIp sighting).2
  | .setStateByIp ip state riskScore => (registry.setStateByIp ip state riskScore).2
  | .setStateById deviceId state riskScore => (registry.setStateById deviceId state riskScore).2
  | .removeByIp ip => ((registry.removeByIp ip).2, [])

/-! ## What a sighting does -/

/-- The four ways out of `device_registry_upsert_mac_ip`. -/
inductive Upserted (registry : DeviceRegistry) (sighting : DeviceSighting) :
    Result DeviceRecord × DeviceRegistry → Prop
  | refused (err : EspErr) : Upserted registry sighting (.error err, registry)
  | foundByMac {index : Fin deviceRegistryMaxDevices} {record : DeviceRecord}
      (held : registry.devices.get index = some record) (sameMac : record.mac = sighting.mac) :
      Upserted registry sighting (.ok (sighting.write record),
        { registry with devices := registry.devices.set index (some (sighting.write record)) })
  | foundByIp {index : Fin deviceRegistryMaxDevices} {record : DeviceRecord}
      (newMac : ∀ slot other, registry.devices.get slot = some other →
        other.mac ≠ sighting.mac)
      (held : registry.devices.get index = some record) (sameIp : record.ip = sighting.ip) :
      Upserted registry sighting (.ok (sighting.write record),
        { registry with devices := registry.devices.set index (some (sighting.write record)) })
  | joined {index : Fin deviceRegistryMaxDevices} {record : DeviceRecord}
      (isNew : record = sighting.write (sighting.joined registry.zoneId))
      (newMac : ∀ slot other, registry.devices.get slot = some other →
        other.mac ≠ sighting.mac)
      (newIp : ∀ slot other, registry.devices.get slot = some other →
        other.ip ≠ sighting.ip) :
      Upserted registry sighting (.ok record,
        { registry with devices := registry.devices.set index (some record) })

theorem find_by_mac_none {registry : DeviceRegistry} {mac : ByteArr 6}
    (missing : registry.findByMacLocked mac = none) (slot : Fin deviceRegistryMaxDevices)
    (other : DeviceRecord) (held : registry.devices.get slot = some other) :
    other.mac ≠ mac := by
  simpa using find_entry_none missing held

theorem find_by_ip_none {registry : DeviceRegistry} {ip : UInt32}
    (missing : registry.findByIpLocked ip = none) (slot : Fin deviceRegistryMaxDevices)
    (other : DeviceRecord) (held : registry.devices.get slot = some other) :
    other.ip ≠ ip := by
  simpa using find_entry_none missing held

theorem upsert_mac_ip_cases (registry : DeviceRegistry) (sighting : DeviceSighting) :
    Upserted registry sighting
      ((registry.upsertMacIp sighting).1, (registry.upsertMacIp sighting).2.1) := by
  unfold DeviceRegistry.upsertMacIp
  split
  · exact .refused .invalidArg
  · cases byMac : registry.findByMacLocked sighting.mac with
    | some found =>
        obtain ⟨held, sameMac⟩ := find_entry_some byMac
        exact .foundByMac held (by simpa using sameMac)
    | none =>
        have newMac := find_by_mac_none byMac
        cases byIp : registry.findByIpLocked sighting.ip with
        | some found =>
            obtain ⟨held, sameIp⟩ := find_entry_some byIp
            exact .foundByIp newMac held (by simpa using sameIp)
        | none =>
            cases free : findEmpty registry.devices with
            | none => exact .refused .noMem
            | some index => exact .joined rfl newMac (find_by_ip_none byIp)

/-! ## What every run keeps -/

/-- One record for each MAC, each under the id made from it. -/
structure DeviceSlots.WellKept (slots : Slots DeviceRecord deviceRegistryMaxDevices) :
    Prop where
  keyed : ∃ table : Keyed DeviceRecord DeviceRecord.mac deviceRegistryMaxDevices,
    table.slots = slots
  ids : ∀ index record, slots.get index = some record →
    record.deviceId = DeviceRegistry.makeIdFromMac record.mac

namespace DeviceSlots

variable {slots : Slots DeviceRecord deviceRegistryMaxDevices}
  {index : Fin deviceRegistryMaxDevices} {record next : DeviceRecord}

theorem WellKept.same_slot (kept : WellKept slots) {first second : Fin deviceRegistryMaxDevices}
    {one other : DeviceRecord} (heldFirst : slots.get first = some one)
    (heldSecond : slots.get second = some other) (sameMac : one.mac = other.mac) :
    first = second := by
  obtain ⟨table, rfl⟩ := kept.keyed
  exact table.distinct first second one other heldFirst heldSecond sameMac

theorem empty_well_kept :
    WellKept (List.Vector.replicate deviceRegistryMaxDevices none) where
  keyed := ⟨Keyed.empty, rfl⟩
  ids := by
    intro index record held
    rw [List.Vector.get_replicate] at held
    cases held

theorem WellKept.freed (kept : WellKept slots) (index : Fin deviceRegistryMaxDevices) :
    WellKept (slots.set index none) where
  keyed := by
    obtain ⟨table, rfl⟩ := kept.keyed
    exact ⟨table.clear index, rfl⟩
  ids := by
    intro slot record held
    exact kept.ids slot record (cleared_held held)

theorem ids_written
    (ids : ∀ index record, slots.get index = some record →
      record.deviceId = DeviceRegistry.makeIdFromMac record.mac)
    (id : next.deviceId = DeviceRegistry.makeIdFromMac next.mac)
    (slot : Fin deviceRegistryMaxDevices) (other : DeviceRecord)
    (held : (slots.set index (some next)).get slot = some other) :
    other.deviceId = DeviceRegistry.makeIdFromMac other.mac := by
  rcases set_held_iff.mp held with ⟨_, rfl⟩ | ⟨_, before⟩
  · exact id
  · exact ids slot other before

theorem WellKept.rewritten (kept : WellKept slots) (held : slots.get index = some record)
    (sameMac : next.mac = record.mac) (sameId : next.deviceId = record.deviceId) :
    WellKept (slots.set index (some next)) where
  keyed := by
    obtain ⟨table, rfl⟩ := kept.keyed
    use table.modify index (fun entry => { next with mac := entry.mac }) (fun _ => rfl)
    change table.slots.set index ((table.slots.get index).map _) = _
    rw [held, Option.map_some, ← sameMac]
  ids := by
    apply ids_written kept.ids
    rw [sameId, sameMac]
    exact kept.ids index record held

theorem WellKept.joined (kept : WellKept slots)
    (newMac : ∀ slot other, slots.get slot = some other → other.mac ≠ next.mac)
    (id : next.deviceId = DeviceRegistry.makeIdFromMac next.mac) :
    WellKept (slots.set index (some next)) where
  keyed := by
    obtain ⟨table, rfl⟩ := kept.keyed
    exact ⟨table.place index next newMac, rfl⟩
  ids := ids_written kept.ids id

end DeviceSlots

open DeviceSlots in
theorem upsert_well_kept {registry : DeviceRegistry} (sighting : DeviceSighting)
    (kept : WellKept registry.devices) :
    WellKept (registry.upsertMacIp sighting).2.1.devices := by
  have outcome := upsert_mac_ip_cases registry sighting
  generalize (registry.upsertMacIp sighting).1 = result at outcome
  generalize (registry.upsertMacIp sighting).2.1 = next at outcome ⊢
  cases outcome with
  | refused err => exact kept
  | foundByMac held _ => exact kept.rewritten held rfl rfl
  | foundByIp _ held _ => exact kept.rewritten held rfl rfl
  | joined isNew newMac _ =>
      subst isNew
      exact kept.joined newMac rfl

open DeviceSlots in
theorem device_registry_step_well_kept {registry : DeviceRegistry} (call : DeviceRegistryCall)
    (kept : WellKept registry.devices) : WellKept (registry.step call).1.devices := by
  cases call with
  | init zoneId => exact empty_well_kept
  | reset => exact empty_well_kept
  | upsertMacIp sighting => exact upsert_well_kept sighting kept
  | setStateByIp ip state riskScore =>
      simp only [DeviceRegistry.step, DeviceRegistry.setStateByIp]
      split
      · exact kept
      · split
        next => exact kept
        next index record found =>
          exact kept.rewritten (find_entry_some found).1 rfl rfl
  | setStateById deviceId state riskScore =>
      simp only [DeviceRegistry.step, DeviceRegistry.setStateById]
      split
      · exact kept
      · split
        next => exact kept
        next index record found =>
          exact kept.rewritten (find_entry_some found).1 rfl rfl
  | removeByIp ip =>
      simp only [DeviceRegistry.step, DeviceRegistry.removeByIp]
      split
      · exact kept
      · split
        next => exact kept
        next index _ _ => exact kept.freed index

theorem device_registry_well_kept (calls : List DeviceRegistryCall) :
    DeviceSlots.WellKept (run DeviceRegistry.step .boot calls).1.devices :=
  invariant_run DeviceRegistry.step (fun registry => DeviceSlots.WellKept registry.devices)
    (fun _ call kept => device_registry_step_well_kept call kept) .boot calls
    DeviceSlots.empty_well_kept

/-! ## Identity -/

/-- One record holds the MAC and the IP, under the id of the MAC, and no other record
holds either. -/
def DeviceRegistry.Identified (registry : DeviceRegistry) (mac : ByteArr 6) (ip : UInt32) :
    Prop :=
  ∃ index record, registry.devices.get index = some record ∧
    record.mac = mac ∧ record.ip = ip ∧ record.deviceId = makeIdFromMac mac ∧
    ∀ slot other, registry.devices.get slot = some other →
      other.mac = mac ∨ other.ip = ip → slot = index

/-- No other MAC holds the IP. -/
def DeviceRegistry.IpAvailable (registry : DeviceRegistry) (mac : ByteArr 6) (ip : UInt32) :
    Prop :=
  ∀ index record, registry.devices.get index = some record → record.ip = ip → record.mac = mac

section Sightings

variable {registry : DeviceRegistry} {sighting : DeviceSighting}
  {index : Fin deviceRegistryMaxDevices} {record : DeviceRecord}

/-- The record of the MAC moves to the IP; whoever else holds the IP keeps it. -/
theorem found_by_mac_identified_iff (kept : DeviceSlots.WellKept registry.devices)
    (held : registry.devices.get index = some record) (sameMac : record.mac = sighting.mac) :
    ({ registry with devices := registry.devices.set index (some (sighting.write record)) } :
        DeviceRegistry).Identified sighting.mac sighting.ip ↔
      registry.IpAvailable sighting.mac sighting.ip := by
  constructor
  · rintro ⟨found, _, _, _, _, _, only⟩ slot other heldOther sameIp
    have here : index = found :=
      only index _ (List.Vector.get_set_same _ _ _) (Or.inl sameMac)
    by_cases isIndex : slot = index
    · rw [isIndex, held] at heldOther
      cases heldOther
      exact sameMac
    · have there := only slot other (set_held_iff.mpr (Or.inr ⟨isIndex, heldOther⟩))
        (Or.inr sameIp)
      exact absurd (there.trans here.symm) isIndex
  · intro available
    have id : record.deviceId = DeviceRegistry.makeIdFromMac sighting.mac := by
      rw [← sameMac]
      exact kept.ids index record held
    refine ⟨index, _, List.Vector.get_set_same _ _ _, sameMac, rfl, id, ?_⟩
    intro slot other heldOther hit
    rcases set_held_iff.mp heldOther with ⟨isIndex, _⟩ | ⟨_, before⟩
    · exact isIndex
    · have otherMac : other.mac = sighting.mac := by
        rcases hit with isMac | isIp
        · exact isMac
        · exact available slot other before isIp
      exact kept.same_slot before held (otherMac.trans sameMac.symm)

/-- Nobody holds the new MAC afterwards. -/
theorem found_by_ip_not_identified
    (newMac : ∀ slot other, registry.devices.get slot = some other → other.mac ≠ sighting.mac)
    (held : registry.devices.get index = some record) :
    ¬ ({ registry with devices := registry.devices.set index (some (sighting.write record)) } :
      DeviceRegistry).Identified sighting.mac sighting.ip := by
  rintro ⟨found, other, heldOther, isMac, _⟩
  rcases set_held_iff.mp heldOther with ⟨_, rfl⟩ | ⟨_, before⟩
  · exact newMac index record held isMac
  · exact newMac found other before isMac

theorem joined_identified
    (newMac : ∀ slot other, registry.devices.get slot = some other → other.mac ≠ sighting.mac)
    (newIp : ∀ slot other, registry.devices.get slot = some other → other.ip ≠ sighting.ip) :
    ({ registry with
        devices := registry.devices.set index
          (some (sighting.write (sighting.joined registry.zoneId))) } :
      DeviceRegistry).Identified sighting.mac sighting.ip := by
  refine ⟨index, _, List.Vector.get_set_same _ _ _, rfl, rfl, rfl, ?_⟩
  intro slot other heldOther hit
  rcases set_held_iff.mp heldOther with ⟨isIndex, _⟩ | ⟨_, before⟩
  · exact isIndex
  · rcases hit with isMac | isIp
    · exact absurd isMac (newMac slot other before)
    · exact absurd isIp (newIp slot other before)

end Sightings

/-- After a sighting that a reachable registry accepts, one record stands for the MAC and
the IP exactly when no other MAC held the IP before. -/
theorem upsert_identifies_iff (calls : List DeviceRegistryCall) (sighting : DeviceSighting)
    (record : DeviceRecord)
    (accepted : ((run DeviceRegistry.step .boot calls).1.upsertMacIp sighting).1 = .ok record) :
    ((run DeviceRegistry.step .boot calls).1.upsertMacIp sighting).2.1.Identified
        sighting.mac sighting.ip ↔
      (run DeviceRegistry.step .boot calls).1.IpAvailable sighting.mac sighting.ip := by
  have kept := device_registry_well_kept calls
  generalize (run DeviceRegistry.step .boot calls).1 = registry at accepted kept ⊢
  have outcome := upsert_mac_ip_cases registry sighting
  generalize (registry.upsertMacIp sighting).1 = result at accepted outcome
  generalize (registry.upsertMacIp sighting).2.1 = next at outcome ⊢
  cases outcome with
  | refused err => cases accepted
  | foundByMac held sameMac => exact found_by_mac_identified_iff kept held sameMac
  | foundByIp newMac held sameIp =>
      apply iff_of_false (found_by_ip_not_identified newMac held)
      intro available
      exact newMac _ _ held (available _ _ held sameIp)
  | joined isNew newMac newIp =>
      subst isNew
      apply iff_of_true (joined_identified newMac newIp)
      intro slot other held isIp
      exact absurd isIp (newIp slot other held)

def cameraSighting : DeviceSighting where
  mac := ⟨[0x24, 0x6F, 0x28, 0, 0, 3], rfl⟩
  ip := 0x0204A8C0
  name := none
  profile := none
  timestamp := 1000

def visitorSighting : DeviceSighting :=
  { cameraSighting with mac := ⟨[0x24, 0x6F, 0x28, 0, 0, 4], rfl⟩ }

def lampSighting : DeviceSighting :=
  { cameraSighting with mac := ⟨[0x24, 0x6F, 0x28, 0, 0, 5], rfl⟩, ip := 0x0304A8C0 }

def movedCamera : DeviceSighting :=
  { cameraSighting with ip := 0x0404A8C0, timestamp := 2000 }

/-- Beside the lamp, the camera comes back under another IP. -/
theorem camera_identified :
    ((run DeviceRegistry.step .boot [.init 1, .upsertMacIp lampSighting,
        .upsertMacIp cameraSighting]).1.upsertMacIp movedCamera).1 =
      .ok (movedCamera.write (cameraSighting.write (cameraSighting.joined 1))) ∧
    ((run DeviceRegistry.step .boot [.init 1, .upsertMacIp lampSighting,
        .upsertMacIp cameraSighting]).1.upsertMacIp movedCamera).2.1.Identified
      movedCamera.mac movedCamera.ip := by
  have unheld : ∀ index, ((run DeviceRegistry.step .boot [.init 1, .upsertMacIp lampSighting,
        .upsertMacIp cameraSighting]).1.devices.get index).map DeviceRecord.ip ≠
      some movedCamera.ip := by
    decide +kernel
  refine ⟨?accepted, (upsert_identifies_iff _ movedCamera _ ?accepted).mpr ?_⟩
  case accepted => decide +kernel
  intro index record held isIp
  apply absurd _ (unheld index)
  rw [held, Option.map_some, isIp]

/-- The visitor is registered under the MAC and the id of the camera. -/
theorem visitor_not_identified :
    ((run DeviceRegistry.step .boot [.init 1, .upsertMacIp cameraSighting]).1.upsertMacIp
        visitorSighting).1 = .ok (cameraSighting.write (cameraSighting.joined 1)) ∧
      ¬ ((run DeviceRegistry.step .boot [.init 1, .upsertMacIp cameraSighting]).1.upsertMacIp
        visitorSighting).2.1.Identified visitorSighting.mac visitorSighting.ip := by
  apply And.intro (by decide +kernel)
  have unheld : ∀ index, (((run DeviceRegistry.step .boot
      [.init 1, .upsertMacIp cameraSighting]).1.upsertMacIp visitorSighting).2.1.devices.get
      index).map DeviceRecord.mac ≠ some visitorSighting.mac := by
    decide +kernel
  rintro ⟨index, record, held, isMac, _⟩
  apply unheld index
  rw [held, Option.map_some, isMac]

end BlindNet
