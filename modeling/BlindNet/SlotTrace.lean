import BlindNet.FragmentDecoder
import BlindNet.Reassembly
import BlindNet.Lib.Patchwork

/-!
# What happens to the reassembly slots

The statics of the fragment module are private, so whatever a handler does to
them it does by calls of the public functions. A handler is given by the calls
it makes; a run of the module is a run of such calls. Each call reports what it
did to the slots: which one it opened, which fragment it took and which message
it completed.
-/

namespace BlindNet

set_option autoImplicit false

open ByteLayout RecencyRing Patchwork

/-- The calls that touch the statics. Receiving is split where the source calls
on: `handle_received_fragment` hands a completed message to
`handle_received_action_pill_bytes`, and that hands the pill to the handler. -/
inductive G2gCall where
  | receiveFragment (bytes : Bytes)
  | acceptActionPillBytes (bytes : Bytes) (messageId : MessageId)
  | sendActionPillBytes (ble : G2gBle) (bytes : Bytes) (messageId : MessageId)
  | clearSeenCache

inductive SlotEvent where
  | opened (index : Fin g2gRxSlots) (messageId : MessageId) (seen : List MessageId)
  | accepted (messageId : MessageId) (fragment : Patch UInt8)
  | completed (messageId : MessageId) (message : Bytes)
  deriving DecidableEq

def G2g.clearSeenCache (g2g : G2g) : G2g :=
  { g2g with seenCache := G2g.boot.seenCache }

instance (slot : RxSlot) (messageId : MessageId) : Decidable (slot.HeldFor messageId) :=
  inferInstanceAs (Decidable (_ ∧ _))

/-- What one fragment does to the slots: `rx_slot_for` opens a slot unless one
holds the message; then the fragment is rejected, stored or the last one. -/
def G2g.fragmentEvents (g2g : G2g) (bytes : Bytes) : List SlotEvent :=
  match checkFragment bytes with
  | .error _ => []
  | .ok header =>
      if g2g.seenCache.contains header.messageId then
        []
      else
        let index := (rxSlotFor g2g.rxSlots header.messageId).1
        let fragment : Patch UInt8 := ⟨header.fragOffset.toNat, bytes.drop wireHeaderLen⟩
        (if (g2g.rxSlots index).HeldFor header.messageId then []
          else [.opened index header.messageId g2g.seenCache.recent]) ++
        match (g2g.receive bytes).1 with
        | .rejected _ => []
        | .stored => [.accepted header.messageId fragment]
        | .complete messageId message =>
            [.accepted header.messageId fragment, .completed messageId message]

def G2g.call (crypto : Crypto) (g2g : G2g) : G2gCall → G2g × List SlotEvent
  | .receiveFragment bytes => ((g2g.receive bytes).2, g2g.fragmentEvents bytes)
  | .acceptActionPillBytes bytes messageId =>
      ((g2g.acceptActionPillBytes crypto bytes messageId).2, [])
  | .sendActionPillBytes ble bytes messageId =>
      ((sendActionPillBytes ble g2g bytes messageId).2, [])
  | .clearSeenCache => (g2g.clearSeenCache, [])

/-- A handler as far as the fragment module can tell: what it calls, in which
order, and what it leaves and returns. -/
structure PublicHandler (Core : Type) where
  calls : ActionPill → Node Core → List G2gCall
  core : ActionPill → Node Core → Core
  result : ActionPill → Node Core → Result Unit
  events : ActionPill → Node Core → List Event

/-- One call of the fragment handler, with the handler installed at that time. -/
structure Arrival (Core : Type) where
  frame : Bytes
  handler : Option (PublicHandler Core)

section Arrivals

variable {Core : Type} (crypto : Crypto)

def PublicHandler.handle (handler : PublicHandler Core) : ActionPillHandler Core :=
  fun pill node =>
    { result := handler.result pill node
      node := ⟨(EventMachine.run (G2g.call crypto) node.g2g (handler.calls pill node)).1,
        handler.core pill node⟩
      events := handler.events pill node }

def fragmentCalls (node : Node Core) (arrival : Arrival Core) : List G2gCall :=
  let received := node.g2g.receive arrival.frame
  .receiveFragment arrival.frame ::
    match received.1 with
    | .complete messageId message =>
        let accepted := received.2.acceptActionPillBytes crypto message messageId
        .acceptActionPillBytes message messageId ::
          match accepted.1, arrival.handler with
          | .ok pill, some handler => handler.calls pill { node with g2g := accepted.2 }
          | _, _ => []
    | _ => []

def arriveFrame (node : Node Core) (arrival : Arrival Core) : Node Core × List SlotEvent :=
  ((handleReceivedFragment crypto (arrival.handler.map (PublicHandler.handle crypto)) node
      arrival.frame).node,
    (EventMachine.run (G2g.call crypto) node.g2g (fragmentCalls crypto node arrival)).2)

/-- The fragment handler touches the statics by exactly those calls. -/
theorem arrive_calls (node : Node Core) (arrival : Arrival Core) :
    (arriveFrame crypto node arrival).1.g2g =
      (EventMachine.run (G2g.call crypto) node.g2g (fragmentCalls crypto node arrival)).1 := by
  simp only [arriveFrame, handleReceivedFragment, fragmentCalls, EventMachine.run_cons, G2g.call]
  cases (node.g2g.receive arrival.frame).1 with
  | rejected err => rfl
  | stored => rfl
  | complete messageId message =>
      simp only [handleReceivedActionPillBytes, EventMachine.run_cons, G2g.call]
      cases ((node.g2g.receive arrival.frame).2.acceptActionPillBytes crypto message
        messageId).1 with
      | error err => rfl
      | ok pill =>
          cases arrival.handler with
          | none => rfl
          | some handler => rfl

/-- What every call carries on holds after every sequence of frames, whatever
the handlers. -/
theorem arrivals_history (invariant : G2g → List SlotEvent → Prop)
    (carried : ∀ g2g history call, invariant g2g history →
      invariant (g2g.call crypto call).1 (history ++ (g2g.call crypto call).2))
    (node : Node Core) (arrivals : List (Arrival Core)) (holds : invariant node.g2g []) :
    invariant (EventMachine.run (arriveFrame crypto) node arrivals).1.g2g
      (EventMachine.run (arriveFrame crypto) node arrivals).2 := by
  have stepped : ∀ (node : Node Core) history arrival, invariant node.g2g history →
      invariant (arriveFrame crypto node arrival).1.g2g
        (history ++ (arriveFrame crypto node arrival).2) := by
    intro node history arrival before
    rw [arrive_calls]
    exact EventMachine.history_run (G2g.call crypto) invariant carried node.g2g history
      (fragmentCalls crypto node arrival) before
  have final := EventMachine.history_run (arriveFrame crypto)
    (fun node history => invariant node.g2g history) stepped node [] arrivals holds
  rwa [List.nil_append] at final

end Arrivals

/-- The handler that normal mode installs makes at most one call, the relay. -/
def installedHandler (crypto : Crypto) (env : Environment) : PublicHandler Core where
  calls pill _ :=
    match computeInnerId crypto pill with
    | .error _ => []
    | .ok messageId => [.sendActionPillBytes env.ble (ActionPill.layout.encode pill) messageId]
  core pill node := (onActionPillReceived crypto env pill node).node.core
  result pill node := (onActionPillReceived crypto env pill node).result
  events pill node := (onActionPillReceived crypto env pill node).events

theorem installed_handler_handles (crypto : Crypto) (env : Environment) :
    (installedHandler crypto env).handle crypto = onActionPillReceived crypto env := by
  funext pill node
  have statics : (EventMachine.run (G2g.call crypto) node.g2g
      ((installedHandler crypto env).calls pill node)).1 =
        (onActionPillReceived crypto env pill node).node.g2g := by
    simp only [installedHandler, onActionPillReceived, sendActionPill]
    cases computeInnerId crypto pill with
    | error err => rfl
    | ok messageId => rfl
  rw [PublicHandler.handle, statics]
  rfl

/-- A Guardian in normal mode is such a run: its frames arrive with the installed
handler. -/
theorem guardian_arrives (crypto : Crypto) (guardian : Guardian) (receptions : List Reception) :
    (runGuardian crypto guardian receptions).1 =
      (EventMachine.run (arriveFrame crypto) guardian (receptions.map fun reception =>
        ⟨reception.frame, some (installedHandler crypto reception.env)⟩)).1 := by
  induction receptions generalizing guardian with
  | nil => rfl
  | cons reception rest induction =>
      have step : (onFragmentReceived crypto guardian reception).1 =
          (arriveFrame crypto guardian
            ⟨reception.frame, some (installedHandler crypto reception.env)⟩).1 := by
        simp only [onFragmentReceived, arriveFrame, Option.map_some, installed_handler_handles]
      rw [runGuardian, EventMachine.run_cons, List.map_cons, EventMachine.run_cons]
      dsimp only
      rw [← step]
      exact induction _

/-- The slot as it stands when a fragment is written: the one that held the
message, or one opened for it with the shape the fragment names. -/
def RxSlot.shaped (header : WireHeader) : RxSlot :=
  { RxSlot.opened header.messageId with
    totalLen := header.totalLen.toNat
    fragCount := header.fragCount.toNat }

def RxSlot.filled (slot : RxSlot) (header : WireHeader) (payload : Bytes) : RxSlot :=
  { slot with
    bytes := splice slot.bytes header.fragOffset.toNat payload
    receivedMask := slot.receivedMask ||| BitMask.bit 32 header.fragIndex.toNat }

inductive G2g.Current (g2g : G2g) (header : WireHeader) (index : Fin g2gRxSlots) :
    RxSlot → List SlotEvent → Prop where
  | held (holder : (g2g.rxSlots index).HeldFor header.messageId) :
      G2g.Current g2g header index (g2g.rxSlots index) []
  | opened (absent : ∀ other, ¬ (g2g.rxSlots other).HeldFor header.messageId) :
      G2g.Current g2g header index (RxSlot.shaped header)
        [.opened index header.messageId g2g.seenCache.recent]

/-- The slot fits the fragment and lacks it. -/
structure RxSlot.Takes (slot : RxSlot) (header : WireHeader) : Prop where
  totalLen : slot.totalLen = header.totalLen.toNat
  fragCount : slot.fragCount = header.fragCount.toNat
  missing : header.fragIndex.toNat ∉ BitMask.indices slot.receivedMask

def takenFragment (header : WireHeader) (bytes : Bytes) : Patch UInt8 :=
  ⟨header.fragOffset.toNat, bytes.drop wireHeaderLen⟩

def G2g.setSlot (g2g : G2g) (index : Fin g2gRxSlots) (slot : RxSlot) : G2g :=
  { g2g with rxSlots := Function.update g2g.rxSlots index slot }

theorem set_slot_slots (g2g : G2g) (index : Fin g2gRxSlots) (slot : RxSlot) :
    (g2g.setSlot index slot).rxSlots = Function.update g2g.rxSlots index slot := rfl

/-- Everything a fragment can do to slots whose shape is set. -/
inductive G2g.FragmentStep (g2g : G2g) (bytes : Bytes) : G2g → List SlotEvent → Prop where
  | ignored : G2g.FragmentStep g2g bytes g2g []
  | dropped (index : Fin g2gRxSlots) :
      G2g.FragmentStep g2g bytes (g2g.setSlot index RxSlot.empty) []
  | stored (header : WireHeader) (index : Fin g2gRxSlots) (slot : RxSlot)
      (opening : List SlotEvent) (admissible : header.Admissible bytes)
      (unseen : header.messageId ∉ g2g.seenCache.recent)
      (current : g2g.Current header index slot opening) (takes : slot.Takes header)
      (more : insert header.fragIndex.toNat (BitMask.indices slot.receivedMask) ≠
        Finset.range slot.fragCount) :
      G2g.FragmentStep g2g bytes
        (g2g.setSlot index (slot.filled header (bytes.drop wireHeaderLen)))
        (opening ++ [.accepted header.messageId (takenFragment header bytes)])
  | completed (header : WireHeader) (index : Fin g2gRxSlots) (slot : RxSlot)
      (opening : List SlotEvent) (admissible : header.Admissible bytes)
      (unseen : header.messageId ∉ g2g.seenCache.recent)
      (current : g2g.Current header index slot opening) (takes : slot.Takes header) :
      G2g.FragmentStep g2g bytes (g2g.setSlot index RxSlot.empty)
        (opening ++ [.accepted header.messageId (takenFragment header bytes),
          .completed header.messageId
            ((slot.filled header (bytes.drop wireHeaderLen)).bytes.toList.take slot.totalLen)])

section Step

variable {header : WireHeader} {bytes : Bytes} {slots : Fin g2gRxSlots → RxSlot} {g2g : G2g}

theorem rx_slot_for_cases (slots : Fin g2gRxSlots → RxSlot) (messageId : MessageId) :
    (∃ index, (slots index).HeldFor messageId ∧ rxSlotFor slots messageId = (index, slots)) ∨
    ((∀ other, ¬ (slots other).HeldFor messageId) ∧
      ∃ index, rxSlotFor slots messageId =
        (index, Function.update slots index (RxSlot.opened messageId))) := by
  cases search : (List.finRange g2gRxSlots).find? fun index =>
      (slots index).inUse && (slots index).messageId == messageId with
  | some index =>
      have matching := List.find?_some search
      rw [Bool.and_eq_true, beq_iff_eq] at matching
      exact Or.inl ⟨index, matching, by rw [rxSlotFor, search]⟩
  | none =>
      refine Or.inr ⟨?_, _, by rw [rxSlotFor, search]⟩
      intro other held
      have missed := List.find?_eq_none.mp search other (List.mem_finRange other)
      simp [held.1, held.2] at missed

theorem opened_store_shaped (admissible : header.Admissible bytes) (payload : Bytes) :
    (RxSlot.opened header.messageId).store header payload =
      (RxSlot.shaped header).store header payload := by
  have positive : ¬ (RxSlot.shaped header).totalLen = 0 :=
    Nat.pos_iff_ne_zero.mp admissible.total_pos
  have unset : (RxSlot.opened header.messageId).totalLen = 0 := rfl
  rw [RxSlot.store, if_pos unset, RxSlot.store, if_neg positive]
  rfl

theorem RxSlot.store_cases {slot : RxSlot} (set : slot.totalLen ≠ 0)
    (admissible : header.Admissible bytes) (payload : Bytes) :
    ((slot.totalLen ≠ header.totalLen.toNat ∨ slot.fragCount ≠ header.fragCount.toNat) ∧
      slot.store header payload = (.rejected .invalidState, RxSlot.empty)) ∨
    (header.fragIndex.toNat ∈ BitMask.indices slot.receivedMask ∧
      slot.store header payload = (.rejected .invalidState, slot)) ∨
    (slot.Takes header ∧
      slot.store header payload =
        (.complete header.messageId ((slot.filled header payload).bytes.toList.take slot.totalLen),
          RxSlot.empty)) ∨
    (slot.Takes header ∧
      insert header.fragIndex.toNat (BitMask.indices slot.receivedMask) ≠
        Finset.range slot.fragCount ∧
      slot.store header payload = (.stored, slot.filled header payload)) := by
  have few : header.fragCount.toNat ≤ 32 := admissible.count_le
  have inside : header.fragIndex.toNat < 32 := lt_of_lt_of_le admissible.index_lt few
  simp only [RxSlot.store, if_neg set]
  by_cases mismatch : slot.totalLen ≠ header.totalLen.toNat ∨
      slot.fragCount ≠ header.fragCount.toNat
  · exact Or.inl ⟨mismatch, if_pos mismatch⟩
  · rw [if_neg mismatch]
    obtain ⟨total, count⟩ := not_or.mp mismatch
    have bit := BitMask.and_bit_eq_zero slot.receivedMask inside
    by_cases again : slot.receivedMask &&& BitMask.bit 32 header.fragIndex.toNat = 0
    · have takes : slot.Takes header := ⟨not_not.mp total, not_not.mp count, bit.mp again⟩
      rw [if_neg (not_not.mpr again)]
      by_cases last : slot.receivedMask ||| BitMask.bit 32 header.fragIndex.toNat =
          BitMask.lowest 32 header.fragCount.toNat
      · rw [if_pos last]
        exact Or.inr (Or.inr (Or.inl ⟨takes, rfl⟩))
      · rw [if_neg last]
        refine Or.inr (Or.inr (Or.inr ⟨takes, ?_, rfl⟩))
        rw [takes.fragCount, ← BitMask.indices_or_bit _ inside, ← BitMask.indices_lowest few]
        exact fun same => last (BitMask.indices_injective same)
    · rw [if_pos again]
      exact Or.inr (Or.inl ⟨not_not.mp fun missing => again (bit.mpr missing), rfl⟩)

theorem receive_unseen (checked : checkFragment bytes = .ok header)
    (unseen : ¬ g2g.seenCache.contains header.messageId = true) :
    g2g.receive bytes =
      ((storeFragment g2g.rxSlots header (bytes.drop wireHeaderLen)).1,
        { g2g with rxSlots :=
            (storeFragment g2g.rxSlots header (bytes.drop wireHeaderLen)).2 }) := by
  simp only [G2g.receive, checked, if_neg unseen]

/-- One fragment, on slots whose shape is set while they are in use. -/
theorem fragment_step (set : ∀ index, (g2g.rxSlots index).inUse = true →
      (g2g.rxSlots index).totalLen ≠ 0) (bytes : Bytes) :
    g2g.FragmentStep bytes (g2g.receive bytes).2 (g2g.fragmentEvents bytes) := by
  cases checked : checkFragment bytes with
  | error err =>
      simp only [G2g.receive, G2g.fragmentEvents, checked]
      exact .ignored
  | ok header =>
      have admissible := check_fragment_ok.mp checked
      by_cases seen : g2g.seenCache.contains header.messageId = true
      · simp only [G2g.receive, G2g.fragmentEvents, checked, if_pos seen]
        exact .ignored
      · have unseen : header.messageId ∉ g2g.seenCache.recent := by
          rwa [Ring.contains_iff_recent] at seen
        simp only [G2g.fragmentEvents, checked, if_neg seen, receive_unseen checked seen,
          storeFragment]
        rcases rx_slot_for_cases g2g.rxSlots header.messageId with
          ⟨index, held, found⟩ | ⟨absent, index, found⟩
        · -- The message has a slot already.
          have current : g2g.Current header index (g2g.rxSlots index) [] := .held held
          simp only [found, if_pos held, List.nil_append]
          rcases RxSlot.store_cases (set index held.1) admissible (bytes.drop wireHeaderLen) with
            ⟨-, stored⟩ | ⟨-, stored⟩ | ⟨takes, stored⟩ | ⟨takes, more, stored⟩
          · rw [stored]
            exact .dropped index
          · rw [stored]
            dsimp only
            rw [Function.update_eq_self]
            exact .ignored
          · rw [stored]
            exact .completed header index _ [] admissible unseen current takes
          · rw [stored]
            exact .stored header index _ [] admissible unseen current takes more
        · -- A slot is opened; it has the shape of the fragment and holds nothing yet.
          have current : g2g.Current header index (RxSlot.shaped header)
              [.opened index header.messageId g2g.seenCache.recent] := .opened absent
          have positive : (RxSlot.shaped header).totalLen ≠ 0 :=
            Nat.pos_iff_ne_zero.mp admissible.total_pos
          have nothing : header.fragIndex.toNat ∉
              BitMask.indices (RxSlot.shaped header).receivedMask := by
            change header.fragIndex.toNat ∉ BitMask.indices (BitVec.ofNat 32 0)
            rw [BitMask.indices_zero]
            exact Finset.notMem_empty _
          simp only [found, if_neg (absent index), Function.update_self, Function.update_idem,
            opened_store_shaped admissible]
          rcases RxSlot.store_cases positive admissible (bytes.drop wireHeaderLen) with
            ⟨mismatch, -⟩ | ⟨again, -⟩ | ⟨takes, stored⟩ | ⟨takes, more, stored⟩
          · exact absurd ⟨rfl, rfl⟩ (not_and_or.mpr mismatch)
          · exact absurd again nothing
          · rw [stored]
            exact .completed header index _ _ admissible unseen current takes
          · rw [stored]
            exact .stored header index _ _ admissible unseen current takes more

end Step

section Slots

variable {crypto : Crypto}

theorem accept_rx_slots (g2g : G2g) (bytes : Bytes) (messageId : MessageId) :
    (g2g.acceptActionPillBytes crypto bytes messageId).2.rxSlots = g2g.rxSlots := by
  rcases accept_action_pill_bytes_cases crypto g2g bytes messageId with
    ⟨err, same⟩ | ⟨pill, -, -, -, added⟩
  · rw [same]
  · rw [added]

theorem send_rx_slots (ble : G2gBle) (g2g : G2g) (bytes : Bytes) (messageId : MessageId) :
    (sendActionPillBytes ble g2g bytes messageId).2.rxSlots = g2g.rxSlots := by
  simp only [sendActionPillBytes]
  split_ifs
  · rfl
  · rfl
  · cases (sendFragments bytes messageId (fragmentCount bytes.length) ble
        (List.range (fragmentCount bytes.length))).result with
    | error err => rfl
    | ok => rfl

/-- Only fragments change the slots: what every fragment carries on holds after
every sequence of frames, whatever the handlers. -/
theorem slots_history {Core : Type}
    (invariant : (Fin g2gRxSlots → RxSlot) → List SlotEvent → Prop)
    (set : ∀ slots history, invariant slots history →
      ∀ index, (slots index).inUse = true → (slots index).totalLen ≠ 0)
    (carried : ∀ (g2g : G2g) history bytes later events, invariant g2g.rxSlots history →
      g2g.FragmentStep bytes later events → invariant later.rxSlots (history ++ events))
    (node : Node Core) (arrivals : List (Arrival Core)) (holds : invariant node.g2g.rxSlots []) :
    invariant (EventMachine.run (arriveFrame crypto) node arrivals).1.g2g.rxSlots
      (EventMachine.run (arriveFrame crypto) node arrivals).2 := by
  apply arrivals_history crypto fun g2g history => invariant g2g.rxSlots history
  · intro g2g history call before
    cases call with
    | receiveFragment bytes =>
        exact carried g2g history bytes _ _ before
          (fragment_step (set g2g.rxSlots history before) bytes)
    | acceptActionPillBytes bytes messageId =>
        simp only [G2g.call, accept_rx_slots, List.append_nil]
        exact before
    | sendActionPillBytes ble bytes messageId =>
        simp only [G2g.call, send_rx_slots, List.append_nil]
        exact before
    | clearSeenCache =>
        simp only [G2g.call, List.append_nil]
        exact before
  · exact holds

end Slots

end BlindNet
