import BlindNet.G2g
import BlindNet.Lib.Machine
import BlindNet.Lib.SlotTable

/-!
# BLE transport

Fragments come in from a connected peer and are queued with its address; while the
callback handles one, what it sends is queued with the same address to exclude. The
transmit task takes up to four queued fragments and offers them, as one batch, to
each known peer. Exclusion is recorded for each fragment, but a peer is left out
only when every fragment of the batch excludes it.
-/

namespace BlindNet

set_option autoImplicit false

open ByteLayout SlotTable EventMachine

def g2gBleMaxPeers : Nat := 8
def g2gRxQueueLen : Nat := 4
def g2gTxBatchMax : Nat := g2gBleTxQueueLen
def g2gTxRetryMax : Nat := 5

structure BleAddr where
  type : UInt8
  val : ByteArr 6
  deriving DecidableEq

/-- `has_exclude_addr` and `exclude_addr` are one option. -/
structure G2gFragment where
  bytes : Bytes
  excludeAddr : Option BleAddr
  deriving DecidableEq

/-- Where a transmit task stands: waiting, filling a batch, or offering it to the
peers from the given slot on. -/
inductive TxTask where
  | waiting
  | filling (batch : List G2gFragment)
  | offering (batch : List G2gFragment) (slot : Nat)

structure BleTransport where
  running : Bool
  /-- The address of the inbound connection. -/
  rxPeerAddr : Option BleAddr
  /-- The address to exclude while the callback runs. -/
  callbackExcludeAddr : Option BleAddr
  peers : Slots BleAddr g2gBleMaxPeers
  rxQueue : List G2gFragment
  txQueue : List G2gFragment
  /-- One task, or more where the transport was restarted under a task. -/
  txTasks : List TxTask

/-- How one attempt to reach a peer ends: without a connection, or after so many
fragments were written. -/
inductive TxAttempt where
  | unreached
  | wrote (count : Nat)

inductive BleInput where
  | start
  | stop
  | discovered (addr : BleAddr)
  | connected (addr : Option BleAddr)
  | disconnected
  | rxAccess (bytes : Bytes)
  /-- The receiving task takes a fragment and calls the callback. -/
  | rxTake
  | rxReturn
  | sendFragment (bytes : Bytes)
  /-- A transmit task takes its first fragment, or one more. -/
  | txTake (task : Nat)
  | txFilled (task : Nat)
  | txOffer (task : Nat) (attempts : List TxAttempt)
  | txEnd (task : Nat)

structure BleWrite where
  fragment : G2gFragment
  addr : BleAddr
  deriving DecidableEq

/-- Leaves out the peer that every fragment came from. -/
def batchExcludesPeer (batch : List G2gFragment) (addr : BleAddr) : Bool :=
  !batch.isEmpty && batch.all fun fragment => fragment.excludeAddr == some addr

/-- What the attempts write, up to the first that writes the whole batch. -/
def sendBatchToPeer (addr : BleAddr) (batch : List G2gFragment) :
    List TxAttempt → List BleWrite
  | [] => []
  | .unreached :: rest => sendBatchToPeer addr batch rest
  | .wrote count :: rest =>
      let written := (batch.take count).map fun fragment => ⟨fragment, addr⟩
      if batch.length ≤ count then written else written ++ sendBatchToPeer addr batch rest

namespace BleTransport

def boot : BleTransport :=
  ⟨false, none, none, List.Vector.replicate g2gBleMaxPeers none, [], [], []⟩

def rememberPeer (transport : BleTransport) (addr : BleAddr) : BleTransport :=
  match findEntry (· == addr) transport.peers with
  | some _ => transport
  | none =>
      match findEmpty transport.peers with
      | none => transport
      | some index => { transport with peers := transport.peers.set index (some addr) }

/-- Starting anew forgets the peers and the queues and adds a transmit task. -/
def start (transport : BleTransport) : BleTransport :=
  if transport.running then transport
  else { boot with running := true, txTasks := transport.txTasks ++ [.waiting] }

/-- The queues are deleted; a batch that is under way stays with its task. -/
def stop (transport : BleTransport) : BleTransport :=
  if !transport.running then
    transport
  else
    { transport with
      running := false
      rxPeerAddr := none
      callbackExcludeAddr := none
      rxQueue := []
      txQueue := [] }

def rxAccess (transport : BleTransport) (bytes : Bytes) : BleTransport :=
  if bytes.length = 0 ∨ g2gBleFragmentMaxLen < bytes.length ∨ !transport.running then
    transport
  else if g2gRxQueueLen ≤ transport.rxQueue.length then
    transport
  else
    { transport with rxQueue := transport.rxQueue ++ [⟨bytes, transport.rxPeerAddr⟩] }

def rxTake (transport : BleTransport) : BleTransport :=
  match transport.rxQueue with
  | [] => transport
  | fragment :: rest =>
      { transport with rxQueue := rest, callbackExcludeAddr := fragment.excludeAddr }

def sendFragment (transport : BleTransport) (bytes : Bytes) : Result Unit × BleTransport :=
  if !transport.running then
    (.error .invalidState, transport)
  else if bytes.length = 0 ∨ g2gBleFragmentMaxLen < bytes.length then
    (.error .invalidArg, transport)
  else if g2gBleTxQueueLen ≤ transport.txQueue.length then
    (.error .noMem, transport)
  else
    (.ok (), { transport with
      txQueue := transport.txQueue ++ [⟨bytes, transport.callbackExcludeAddr⟩] })

def setTask (transport : BleTransport) (task : Nat) (next : TxTask) : BleTransport :=
  { transport with txTasks := transport.txTasks.set task next }

def txTake (transport : BleTransport) (task : Nat) : BleTransport :=
  match transport.txTasks[task]?, transport.txQueue with
  | some .waiting, fragment :: rest =>
      if transport.running then
        { transport.setTask task (.filling [fragment]) with txQueue := rest }
      else transport
  | some (.filling batch), fragment :: rest =>
      if batch.length < g2gTxBatchMax then
        { transport.setTask task (.filling (batch ++ [fragment])) with txQueue := rest }
      else transport
  | _, _ => transport

def txFilled (transport : BleTransport) (task : Nat) : BleTransport :=
  match transport.txTasks[task]? with
  | some (.filling batch) => transport.setTask task (.offering batch 0)
  | _ => transport

def offerSlot (transport : BleTransport) (batch : List G2gFragment)
    (slot : Fin g2gBleMaxPeers) (attempts : List TxAttempt) : List BleWrite :=
  match transport.peers.get slot with
  | none => []
  | some addr =>
      if batchExcludesPeer batch addr then []
      else if !transport.running then []
      else sendBatchToPeer addr batch (attempts.take g2gTxRetryMax)

/-- One round of the loop over the peers; behind the last slot the task waits again. -/
def txOffer (transport : BleTransport) (task : Nat) (attempts : List TxAttempt) :
    BleTransport × List BleWrite :=
  match transport.txTasks[task]? with
  | some (.offering batch slot) =>
      if inside : slot < g2gBleMaxPeers then
        (transport.setTask task (.offering batch (slot + 1)),
          transport.offerSlot batch ⟨slot, inside⟩ attempts)
      else
        (transport.setTask task .waiting, [])
  | _ => (transport, [])

def txEnd (transport : BleTransport) (task : Nat) : BleTransport :=
  match transport.txTasks[task]? with
  | some .waiting =>
      if transport.running then transport
      else { transport with txTasks := transport.txTasks.eraseIdx task }
  | _ => transport

def step (transport : BleTransport) : BleInput → BleTransport × List BleWrite
  | .start => (transport.start, [])
  | .stop => (transport.stop, [])
  | .discovered addr => (transport.rememberPeer addr, [])
  | .connected addr => ({ transport with rxPeerAddr := addr }, [])
  | .disconnected => ({ transport with rxPeerAddr := none }, [])
  | .rxAccess bytes => (transport.rxAccess bytes, [])
  | .rxTake => (transport.rxTake, [])
  | .rxReturn => ({ transport with callbackExcludeAddr := none }, [])
  | .sendFragment bytes => ((transport.sendFragment bytes).2, [])
  | .txTake task => (transport.txTake task, [])
  | .txFilled task => (transport.txFilled task, [])
  | .txOffer task attempts => transport.txOffer task attempts
  | .txEnd task => (transport.txEnd task, [])

end BleTransport

/-! ## What is written -/

namespace BleTransport

end BleTransport

def relayed (addr : BleAddr) (bytes : Bytes) : List BleInput :=
  [.connected (some addr), .rxAccess bytes, .rxTake, .sendFragment bytes, .rxReturn,
    .disconnected]

end BlindNet
