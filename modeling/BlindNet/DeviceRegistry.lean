import BlindNet.FlowTable

/-!
# Device registry

The devices of the zone, and the events that the registry and the firewall publish.
Whether the bus takes an event is not looked at by any of its publishers.
-/

namespace BlindNet

set_option autoImplicit false

open ByteLayout SlotTable

def deviceRegistryMaxDevices : Nat := 32

inductive ZgEventType where
  | deviceJoined
  | deviceQuarantined
  | flowSeen
  | policyDeny
  | rateExceeded
  deriving DecidableEq, Repr

structure ZgEvent where
  type : ZgEventType
  zoneId : UInt32
  deviceId : UInt32
  srcIp : UInt32
  dstIp : UInt32
  srcPort : UInt16
  dstPort : UInt16
  proto : UInt8
  riskScore : UInt8
  reason : ByteArr 48
  deriving DecidableEq

inductive DeviceState where
  | unknown
  | trusted
  | suspicious
  | quarantined
  | blocked
  deriving DecidableEq, Repr

structure DeviceRecord where
  deviceId : UInt32
  mac : ByteArr 6
  ip : UInt32
  zoneId : UInt32
  state : DeviceState
  riskScore : UInt8
  firstSeenMs : UInt32
  lastSeenMs : UInt32
  name : ByteArr 32
  profile : ByteArr 24
  deriving DecidableEq

structure DeviceRegistry where
  initialized : Bool
  zoneId : UInt32
  devices : Slots DeviceRecord deviceRegistryMaxDevices

namespace DeviceRegistry

def macValid (mac : ByteArr 6) : Bool := mac != List.Vector.replicate 6 0

/-- `device_registry_make_id_from_mac`: the bytes hashed with FNV-1a, never zero. -/
def makeIdFromMac (mac : ByteArr 6) : UInt32 :=
  let hash := mac.toList.foldl (fun hash byte => (hash ^^^ byte.toUInt32) * 16777619) 2166136261
  if hash = 0 then 1 else hash

def boot : DeviceRegistry := ⟨false, 1, List.Vector.replicate _ none⟩

def init (zoneId : UInt32) (_ : DeviceRegistry) : DeviceRegistry :=
  ⟨true, zoneId, List.Vector.replicate _ none⟩

def reset (registry : DeviceRegistry) : DeviceRegistry :=
  { registry with devices := List.Vector.replicate _ none }

def findByIpLocked (registry : DeviceRegistry) (ip : UInt32) :
    Option (Fin deviceRegistryMaxDevices × DeviceRecord) :=
  findEntry (fun record => record.ip == ip) registry.devices

def findByMacLocked (registry : DeviceRegistry) (mac : ByteArr 6) :
    Option (Fin deviceRegistryMaxDevices × DeviceRecord) :=
  findEntry (fun record => record.mac == mac) registry.devices

def findByIdLocked (registry : DeviceRegistry) (deviceId : UInt32) :
    Option (Fin deviceRegistryMaxDevices × DeviceRecord) :=
  findEntry (fun record => record.deviceId == deviceId) registry.devices

def setStateByIp (registry : DeviceRegistry) (ip : UInt32) (state : DeviceState)
    (riskScore : UInt8) : Bool × DeviceRegistry × List ZgEvent :=
  if !registry.initialized || ip == 0 then
    (false, registry, [])
  else
    match registry.findByIpLocked ip with
    | none => (false, registry, [])
    | some (index, record) =>
        (true,
          { registry with
            devices := registry.devices.set index
              (some { record with state := state, riskScore := min riskScore 100 }) },
          if state = .quarantined then
            [⟨.deviceQuarantined, registry.zoneId, record.deviceId, ip, 0, 0, 0, 0, riskScore,
              strncpyCleared 48 (CString.utf8 "registry_state_quarantined")⟩]
          else
            [])

def setStateById (registry : DeviceRegistry) (deviceId : UInt32) (state : DeviceState)
    (riskScore : UInt8) : Bool × DeviceRegistry × List ZgEvent :=
  if !registry.initialized || deviceId == 0 then
    (false, registry, [])
  else
    match registry.findByIdLocked deviceId with
    | none => (false, registry, [])
    | some (index, record) =>
        (true,
          { registry with
            devices := registry.devices.set index
              (some { record with state := state, riskScore := min riskScore 100 }) },
          if state = .quarantined then
            [⟨.deviceQuarantined, registry.zoneId, deviceId, record.ip, 0, 0, 0, 0, riskScore,
              strncpyCleared 48 (CString.utf8 "registry_state_quarantined")⟩]
          else
            [])

def removeByIp (registry : DeviceRegistry) (ip : UInt32) : Bool × DeviceRegistry :=
  if !registry.initialized || ip == 0 then
    (false, registry)
  else
    match registry.findByIpLocked ip with
    | none => (false, registry)
    | some (index, _) => (true, { registry with devices := registry.devices.set index none })

end DeviceRegistry

/-- The arguments of `device_registry_upsert_mac_ip`, and the time it reads. -/
structure DeviceSighting where
  mac : ByteArr 6
  ip : UInt32
  name : Option Bytes
  profile : Option Bytes
  timestamp : UInt32

def DeviceSighting.joined (sighting : DeviceSighting) (zoneId : UInt32) : DeviceRecord where
  deviceId := DeviceRegistry.makeIdFromMac sighting.mac
  mac := sighting.mac
  ip := 0
  zoneId := zoneId
  state := .unknown
  riskScore := 0
  firstSeenMs := sighting.timestamp
  lastSeenMs := 0
  name := List.Vector.replicate 32 0
  profile := List.Vector.replicate 24 0

/-- What every accepted sighting writes. A record that was found keeps its MAC and its
id, also when it was found by its IP. -/
def DeviceSighting.write (sighting : DeviceSighting) (record : DeviceRecord) : DeviceRecord :=
  { record with
    ip := sighting.ip
    lastSeenMs := sighting.timestamp
    name := (sighting.name.map (strncpyCleared 32)).getD record.name
    profile := (sighting.profile.map (strncpyCleared 24)).getD record.profile }

namespace DeviceRegistry

def upsertMacIp (registry : DeviceRegistry) (sighting : DeviceSighting) :
    Result DeviceRecord × DeviceRegistry × List ZgEvent :=
  if !registry.initialized || !macValid sighting.mac || sighting.ip == 0 then
    (.error .invalidArg, registry, [])
  else
    match (registry.findByMacLocked sighting.mac).or (registry.findByIpLocked sighting.ip) with
    | some (index, record) =>
        let copy := sighting.write record
        (.ok copy, { registry with devices := registry.devices.set index (some copy) }, [])
    | none =>
        match findEmpty registry.devices with
        | none => (.error .noMem, registry, [])
        | some index =>
            let copy := sighting.write (sighting.joined registry.zoneId)
            (.ok copy, { registry with devices := registry.devices.set index (some copy) },
              [⟨.deviceJoined, registry.zoneId, copy.deviceId, copy.ip, 0, 0, 0, 0, 0,
                strncpyCleared 48 (CString.utf8 "device_joined")⟩])

end DeviceRegistry

end BlindNet
