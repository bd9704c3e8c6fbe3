import UsbSec.Device.Allocation
import UsbSec.Device.ConfigurationWalk
import UsbSec.Device.ControlStages
import UsbSec.Device.ResponseSize

/-!
# Reading a configuration

The host asks for the configuration, the slave passes it on in packets of any size, and other
messages and transfers may come between. No packet stops the master, and with the last one the
endpoints of the configuration are opened, each with the driver of its interface.
-/

namespace UsbSec.Device

open Library Usb Rp2040

/-! ## What is opened -/

/-- The call opens an endpoint. -/
def Call.opensEndpoint : Call → Bool
  | .edptOpen _ _ _ => true
  | _ => false

/-- The calls that have opened endpoints. -/
def openings (calls : List Call) : List Call := calls.filter Call.opensEndpoint

instance (message : SpiMessage) : Decidable (AsksToOpen message) :=
  inferInstanceAs (Decidable (hasFlag _ _))

/-- The messages that ask the slave to open an endpoint. -/
def openMessages (messages : List SpiMessage) : List SpiMessage :=
  messages.filter fun message => AsksToOpen message

/-- The call that opens the endpoint of a descriptor. -/
def openCall (d : Descriptor) : Call :=
  .edptOpen (addressIn d) d.endpoint.maxPacketSize d.endpoint.xfer

theorem openings_append (first second : List Call) :
    openings (first ++ second) = openings first ++ openings second := List.filter_append _ _

theorem openMessages_append (first second : List SpiMessage) :
    openMessages (first ++ second) = openMessages first ++ openMessages second :=
  List.filter_append _ _

theorem openings_openCalls (pairs : List (Descriptor × Descriptor)) :
    openings (pairs.flatMap openCalls) = (pairs.map Prod.snd).map openCall := by
  induction pairs with
  | nil => rfl
  | cons pair rest ih =>
      rw [List.flatMap_cons, openings_append, ih]
      rfl

theorem openMessages_openRequests (config : List Descriptor) :
    openMessages (openRequests config) = openRequests config := by
  refine List.filter_eq_self.mpr fun message hmem => decide_eq_true ?_
  obtain ⟨d, -, rfl⟩ := List.mem_map.mp hmem
  show hasFlag (MsgType.edptOpen ||| MsgType.debugPrintAsHex) MsgType.edptOpen
  decide

/-! ## What leaves the request alone -/

/-- The setup packet and the allocation pointer are the same, and nothing was opened. -/
structure Undisturbed (s t : Master) : Prop where
  setup : t.events.setup = s.events.setup
  allocation : t.allocation = s.allocation
  openings : openings t.calls = openings s.calls
  asked : openMessages t.outbox = openMessages s.outbox

instance : IsPreorder Master Undisturbed where
  refl _ := ⟨rfl, rfl, rfl, rfl⟩
  trans _ _ _ h k :=
    ⟨k.setup.trans h.setup, k.allocation.trans h.allocation, k.openings.trans h.openings,
      k.asked.trans h.asked⟩

theorem SamePolicy.openMessages_eq {s t : Master} (h : SamePolicy s t) :
    openMessages t.outbox = openMessages s.outbox := by
  obtain ⟨more, hmore, hnone⟩ := h.outbox
  have hempty : openMessages more = [] :=
    List.filter_eq_nil_iff.mpr fun message hmem hasks =>
      hnone message hmem (of_decide_eq_true hasks)
  rw [hmore, openMessages_append, hempty, List.append_nil]

theorem OnlyTransfers.openings_eq {s t : Master} (h : OnlyTransfers s t) :
    openings t.calls = openings s.calls := by
  obtain ⟨more, hmore, htransfer⟩ := h.calls
  have hempty : openings more = [] := List.filter_eq_nil_iff.mpr fun call hcall => by
    cases htransfer call hcall <;> simp [Call.opensEndpoint]
  rw [hmore, openings_append, hempty, List.append_nil]

theorem undisturbed_of_transfers {α : Type} {program : MasterM α}
    (htransfers : Program.Moves OnlyTransfers program)
    (hpolicy : Program.Moves SamePolicy program)
    (hallocation : Program.Moves SameAllocation program) :
    Program.Moves Undisturbed program := by
  intro s
  have hevents := (htransfers s).events
  exact ⟨by rw [hevents], hallocation s, (htransfers s).openings_eq, (hpolicy s).openMessages_eq⟩

theorem handleSpiSlaveEventWithDriver_undisturbed (message : SlavePacket) (edpt : UInt8) :
    Program.Moves Undisturbed (handleSpiSlaveEventWithDriver message edpt) :=
  undisturbed_of_transfers (handleSpiSlaveEventWithDriver_only_transfers _ _)
    (handleSpiSlaveEventWithDriver_same_policy _ _)
    (handleSpiSlaveEventWithDriver_allocation _ _)

theorem hwHandleBuffStatus_undisturbed : Program.Moves Undisturbed hwHandleBuffStatus :=
  undisturbed_of_transfers hwHandleBuffStatus_only_transfers
    (hwHandleBuffStatus_moves hwHandleBuffStatusBit_same_policy)
    (hwHandleBuffStatus_moves hwHandleBuffStatusBit_allocation)

theorem registerResponse_undisturbed {message : SlavePacket} {s t : Master}
    (h : registerResponse message s = .ok () t) : Undisturbed s t := by
  have hallocation := (registerResponse_allocation message).ok h
  obtain ⟨d, rfl⟩ := registerResponse_eq_ok h
  exact ⟨rfl, hallocation, rfl, rfl⟩

/-- What `handle_spi_slave_event` takes from `rx` has a last reply in it, or leaves the request
alone. -/
theorem handleSpiSlaveEvent_reads {s t : Master} (h : handleSpiSlaveEvent s = .ok () t) :
    ∃ more, s.rx.items = more ++ t.rx.items ∧
      ((∃ message ∈ more, IsLastReply message) ∨ Undisturbed s t) := by
  obtain ⟨_, _, hread, hbody⟩ := Program.bind_eq_ok h
  cases hread
  by_cases hwriting : s.events.setupResponseDir = .writingResponse
  · rw [if_pos hwriting] at hbody
    cases hbody
    exact ⟨[], rfl, .inr ⟨rfl, rfl, rfl, rfl⟩⟩
  · rw [if_neg hwriting] at hbody
    cases hremove : (s.rx.dropWhile isString).remove with
    | none =>
        simp only [hremove] at hbody
        cases hbody
        refine ⟨s.rx.items.takeWhile isString, ?_, .inr ⟨rfl, rfl, rfl, rfl⟩⟩
        exact List.takeWhile_append_dropWhile.symm
    | some taken =>
        obtain ⟨message, rest⟩ := taken
        simp only [hremove] at hbody
        have hitems := taken_items hremove
        obtain ⟨_, _, hupdate, hmessage⟩ := Program.bind_eq_ok hbody
        cases hupdate
        unfold handleMessage at hmessage
        cases hlast : message.payload.getLast? with
        | none =>
            rw [hlast] at hmessage
            cases hmessage
        | some epAddr =>
            rw [hlast] at hmessage
            obtain ⟨_, _, hassert, hrest⟩ := Program.bind_eq_ok hmessage
            obtain ⟨-, rfl⟩ := Program.require_eq_ok hassert
            by_cases hreply : hasFlag message.eFlag MsgType.setupData
            · rw [if_pos hreply] at hrest
              have hhandled :=
                handleSetupData_handled _ (handlerPacket_data message).2 _ _ _ hrest
              obtain ⟨_, middle, hregister, hwhen⟩ := Program.bind_eq_ok hrest
              cases hhandled with
              | collected hnot happended =>
                  have hnot : ¬ hasFlag message.eFlag MsgType.lastPacket := hnot
                  rw [Program.when_false hnot] at hwhen
                  cases hwhen
                  have hsame := registerResponse_undisturbed hregister
                  refine ⟨_, by rw [happended.rx]; exact hitems, .inr ?_⟩
                  exact ⟨hsame.setup, hsame.allocation, hsame.openings, hsame.asked⟩
              | responded hlastPacket _ _ hrx _ =>
                  refine ⟨_, by rw [hrx]; exact hitems, .inl ⟨message, ?_, hreply, hlastPacket⟩⟩
                  simp
            · rw [if_neg hreply] at hrest
              have hsame := (handleSpiSlaveEventWithDriver_undisturbed _ _).ok hrest
              have hrx := ((handleSpiSlaveEventWithDriver_only_transfers _ _).ok hrest).rx
              refine ⟨_, by rw [hrx]; exact hitems, .inr ?_⟩
              exact ⟨hsame.setup, hsame.allocation, hsame.openings, hsame.asked⟩

/-! ## The last packet -/

/-- A configuration as the handler can work with it: valid, with distinct endpoint addresses, and
no larger than the place for a response. -/
structure IsConfiguration (config : List Descriptor) : Prop where
  valid : ValidFrom false config
  distinct : ((endpointsOf config).map addressIn).Nodup
  bounded : (configurationBytes config).length ≤ maxSetupResponseBugger

/-- The endpoints of the configuration were opened in order, the slave was asked to open the same
ones, and each is set up for the nearest interface before it. -/
structure Configured (config : List Descriptor) (s t : Master) : Prop where
  openings : openings t.calls = openings s.calls ++ (endpointsOf config).map openCall
  asked : openMessages t.outbox = openMessages s.outbox ++ openRequests config
  endpoints : ∀ d ∈ endpointsOf config, ∃ itf, Under config itf d ∧ PairSetUp itf d t

theorem Configured.of_undisturbed {config : List Descriptor} {s t u : Master}
    (h : Configured config t u) (hs : Undisturbed s t) : Configured config s u where
  openings := by rw [h.openings, hs.openings]
  asked := by rw [h.asked, hs.asked]
  endpoints := h.endpoints

/-- A transfer afterwards leaves the endpoints set up. -/
theorem PairSetUp.of_transfers {itf d : Descriptor} {s t : Master} (h : PairSetUp itf d s)
    (hsame : OnlyTransfers s t) : PairSetUp itf d t := by
  obtain ⟨buffer, hshape⟩ := h.shape
  refine ⟨?_, ?_, buffer, ?_⟩
  · rw [hsame.itfCopy]
    exact h.itfCopy
  · rw [hsame.edptDriver]
    exact h.edptDriver
  · exact (hsame.shapes _ _).trans hshape

theorem Configured.of_transfers {config : List Descriptor} {s t u : Master}
    (h : Configured config s t) (hsame : OnlyTransfers t u) (hpolicy : SamePolicy t u) :
    Configured config s u where
  openings := hsame.openings_eq.trans h.openings
  asked := hpolicy.openMessages_eq.trans h.asked
  endpoints d hmem := by
    obtain ⟨itf, hunder, hset⟩ := h.endpoints d hmem
    exact ⟨itf, hunder, hset.of_transfers hsame⟩

/-- Interpreting a configuration that ends has made the calls of the walk, behind the one for the
response. -/
theorem handleSetupResponse_opensAll {config : List Descriptor} (hconfig : IsConfiguration config)
    {s t : Master} (hs : HoldsConfiguration config s) (hrun : handleSetupResponse s = .ok () t) :
    OpensAll (pairsFrom none config)
      { s with calls := s.calls ++ [.handleSetupResponse s.events.setup s.collected] } t := by
  have hlength : (configurationBytes config).length = s.aggregator.len.toNat := by
    rw [← hs.response]
    exact Buffer.length_bytesAt _ _ _
  have hlaid : s.aggregator.bugger.bytesAt 0 (configurationBytes config).length =
      configurationBytes config := by
    rw [hlength]
    exact hs.response
  have hdevice : ¬ IsDeviceRequest s.events.setup := by
    rintro ⟨-, hvalue⟩
    exact absurd (hs.request.1.symm.trans hvalue) (by decide)
  have hreport : ¬ (s.events.setup.wValue = 0x2200 ∧ s.events.setup.wIndex = 0x01) := by
    rintro ⟨hvalue, -⟩
    exact absurd (hs.request.1.symm.trans hvalue) (by decide)
  obtain ⟨_, _, hread, hrun⟩ := Program.bind_eq_ok hrun
  cases hread
  obtain ⟨_, first, hrecord, hrun⟩ := Program.bind_eq_ok hrun
  cases hrecord
  obtain ⟨_, second, hdescriptor, hrun⟩ := Program.bind_eq_ok hrun
  rw [Program.when_false hdevice] at hdescriptor
  cases hdescriptor
  rw [if_neg hs.live] at hrun
  obtain ⟨_, third, hwalk, hquiet⟩ := Program.bind_eq_ok hrun
  rw [Program.when_true hs.request] at hwalk
  unfold handleHidReport at hquiet
  rw [Program.when_false hreport] at hquiet
  cases hquiet
  refine walk_opensAll hconfig.valid hconfig.distinct nofun ?_ hlaid (by omega) hwalk
  exact fun interface hnone => by cases hnone

theorem handleSetupResponse_configures {config : List Descriptor} (hconfig : IsConfiguration config)
    {s : Master} (hs : HoldsConfiguration config s) (hdpram : s.InDpram)
    (hfits : s.dcd.nextBufferPtr + dpramNeed config ≤ usbDpramMax) :
    Program.Outcome handleSetupResponse s (fun _ t => Configured config s t) fun _ => False := by
  have houtcome := handleSetupResponse_outcome hs hdpram
  cases hrun : handleSetupResponse s with
  | error reason t => exact absurd hfits (houtcome.error hrun)
  | ok value t =>
      obtain ⟨-, hhandled, -⟩ := houtcome.ok hrun
      have hopens := handleSetupResponse_opensAll hconfig hs hrun
      refine .of_ok hrun ⟨?_, ?_, fun d hmem => ?_⟩
      · rw [hopens.calls, openings_append, openings_openCalls,
          hconfig.valid.pairsFrom_endpoints none nofun, openings_append]
        exact congrArg (· ++ _) (List.append_nil _)
      · rw [hhandled.outbox, openMessages_append, openMessages_openRequests]
      · rw [← hconfig.valid.pairsFrom_endpoints none nofun] at hmem
        obtain ⟨⟨itf, _⟩, hpair, rfl⟩ := List.mem_map.mp hmem
        rcases mem_pairsFrom hpair with hunder | ⟨hnone, -⟩
        · exact ⟨itf, hunder, hopens.each itf _ hpair⟩
        · cases hnone

/-- Interpreting a configuration whose buffers fit ends. -/
theorem handleSetupResponse_ends {config : List Descriptor} (hconfig : IsConfiguration config)
    {s : Master} (hs : HoldsConfiguration config s) (hdpram : s.InDpram)
    (hfits : s.dcd.nextBufferPtr + dpramNeed config ≤ usbDpramMax) :
    handleSetupResponse s = .ok () (Program.final (handleSetupResponse s)) := by
  obtain ⟨_, t, hrun, -⟩ := (handleSetupResponse_configures hconfig hs hdpram hfits).exists_ok
  exact Program.eq_ok_final hrun

/-- The last packet of a configuration opens its endpoints, and the master goes on. -/
theorem handleSetupData_configures {config : List Descriptor} (hconfig : IsConfiguration config)
    {message : SlavePacket} {s : Master} (hwired : s.Wired) (hdpram : s.InDpram)
    (hread : message.payloadLength.toNat ≤ message.payload.length) (hfitsBehind : FitsBehind s message)
    (hlast : hasFlag message.eFlag MsgType.lastPacket)
    (hs : HoldsConfiguration config (s.withResponse message))
    (hfits : s.dcd.nextBufferPtr + dpramNeed config ≤ usbDpramMax) :
    Program.Outcome (handleSetupData message) s (fun _ t => Configured config s t)
      fun _ => False := by
  unfold handleSetupData
  rw [Program.when_true hlast]
  refine .bind ((registerResponse_control hwired hread).mono (fun _ _ h => h)
    fun _ hnot => hnot hfitsBehind) ?_
  rintro _ t ⟨-, hregistered⟩
  obtain ⟨d, rfl⟩ := hregistered.collected
  have hdirection := hregistered.direction
  have hpointer : d.nextBufferPtr = s.dcd.nextBufferPtr := hdirection.nextBufferPtr
  have hpacket : d.setupPacket = s.dcd.setupPacket := hdirection.setupPacket
  have hholds : HoldsConfiguration config { s.withResponse message with dcd := d } :=
    ⟨hs.valid, hs.response, hs.request, hpacket ▸ hs.live⟩
  have hroom : Master.InDpram { s.withResponse message with dcd := d } :=
    ⟨hpointer ▸ hdpram.aligned, hpointer ▸ hdpram.bounded⟩
  have hwired' : Master.Wired { s.withResponse message with dcd := d } := hdirection.wired
  have hends := handleSetupResponse_configures hconfig hholds hroom (hpointer ▸ hfits)
  cases hrun : handleSetupResponse { s.withResponse message with dcd := d } with
  | error reason u => exact absurd (hends.error hrun) id
  | ok value u =>
      let passed : Master :=
        { u with events := { u.events with setupResponseDir := .writingResponse } }
      obtain ⟨hopenings, hasked, hendpoints⟩ := hends.ok hrun
      have hconfigured : Configured config s passed := by
        refine ⟨hopenings, hasked, fun below hmem => ?_⟩
        obtain ⟨itf, hunder, hset⟩ := hendpoints below hmem
        exact ⟨itf, hunder, hset.itfCopy, hset.edptDriver, hset.shape⟩
      have hkept : u.Wired := handleSetupResponse_wired _ _ _ hrun hwired'
      have hwiredAfter : passed.Wired := hkept
      refine .of_eq (Program.bind_ok hrun) (.of_eq (Program.update_bind _ _ _) (.read_bind ?_))
      -- The status stage changes nothing but the controller.
      refine .when (fun _ => ?_) fun _ => hconfigured
      have hstatus : Program.Outcome (onDcd (dcdEdptXferNew 0x00 .null 0)) passed
          (fun _ _ => True) fun _ => False :=
        .onPart (dcdEdptXferNew_empty false hwiredAfter) (fun _ _ _ => trivial) fun _ => id
      have hmoves : Program.Moves (fun a b => OnlyTransfers a b ∧ SamePolicy a b)
          (onDcd (dcdEdptXferNew 0x00 .null 0)) := fun v =>
        ⟨dcdEdptXferNew_only_transfers _ _ _ v, dcdEdptXferNew_same_policy _ _ _ v⟩
      refine (hstatus.and_moves hmoves fun _ h _ => h).mono (fun _ v hv => ?_) fun _ h => h
      exact hconfigured.of_transfers hv.2.1 hv.2.2

/-! ## A response in packets -/

/-- The host has asked for the configuration and waits for the response: its setup packet is the
current one, none is pending, and the aggregator is empty or about to be emptied. -/
structure AwaitsConfiguration (m : Core0) : Prop where
  getDescriptor : m.master.events.setup.bRequest = 0x6
  request : IsConfigRequest m.master.events.setup
  packet : m.master.livePacket = m.master.events.setup
  noReset : m.busReset = false
  noSetup : m.setupReq = false
  empty : m.master.events.setupResponseDir = .readingResponse → m.master.collected = []

instance (m : Core0) : Decidable (AwaitsConfiguration m) :=
  decidable_of_iff (m.master.events.setup.bRequest = 0x6 ∧ IsConfigRequest m.master.events.setup ∧
    m.master.livePacket = m.master.events.setup ∧ m.busReset = false ∧ m.setupReq = false ∧
    (m.master.events.setupResponseDir = .readingResponse → m.master.collected = []))
    ⟨fun h => ⟨h.1, h.2.1, h.2.2.1, h.2.2.2.1, h.2.2.2.2.1, h.2.2.2.2.2⟩,
      fun h => ⟨h.1, h.2, h.3, h.4, h.5, h.6⟩⟩

/-- The messages are the packets of a response with the given bytes: replies, of which the last and
no other is marked as last. -/
structure RespondWith (bytes : List UInt8) (packets : List SpiMessage) : Prop where
  reply : ∀ message ∈ packets, IsReply message
  packet : ∀ message ∈ packets, hasFlag message.eFlag MsgType.isPacket ∧ message.payload ≠ []
  last : ∃ front final, packets = front ++ [final] ∧
    hasFlag final.eFlag MsgType.lastPacket ∧
    ∀ message ∈ front, ¬ hasFlag message.eFlag MsgType.lastPacket
  bytes : packets.flatMap (fun message => message.payload.dropLast) = bytes

/-- The host does not begin another transfer and does not reset the bus. -/
def Event.KeepsTransfer : Event → Prop
  | .hostSetup _ => False
  | .hostReset => False
  | _ => True

instance : ∀ event : Event, Decidable event.KeepsTransfer
  | .hostSetup _ => isFalse id
  | .hostReset => isFalse id
  | .hostIn _ | .hostOut _ _ | .receive _ | .handleSpiSlaveEvent | .dcdIrq => isTrue trivial

/-- What is known between the request and the last packet. The messages taken from `rx` since the
request are `done`, and the aggregator has the bytes of the replies among them. -/
structure Reading (m : Core0) (events : List Event) (p : Core0) : Prop where
  noReset : p.busReset = false
  noSetup : p.setupReq = false
  taken : ∃ done, m.master.rx.items ++ arrived events = done ++ p.master.rx.items ∧
    Collects done p.master ∧
    ((∃ message ∈ done, IsLastReply message) ∨ Undisturbed m.master p.master)

theorem Reading.start {m : Core0} (h : AwaitsConfiguration m) : Reading m [] m where
  noReset := h.noReset
  noSetup := h.noSetup
  taken := by
    refine ⟨[], List.append_nil _, ⟨fun hreading => ?_, fun _ => rfl⟩, .inr ?_⟩
    · exact h.empty hreading
    · exact refl_of Undisturbed m.master

/-- An event that takes nothing from `rx` and leaves the request alone. -/
theorem Reading.of_undisturbed {m p q : Core0} {events : List Event} {event : Event}
    (h : Reading m events p) (hreset : q.busReset = false) (hsetup : q.setupReq = false)
    (hrx : q.master.rx.items = p.master.rx.items ++ arrived [event])
    (hdir : q.master.events.setupResponseDir = p.master.events.setupResponseDir)
    (hcollected : q.master.collected = p.master.collected)
    (hsame : Undisturbed p.master q.master) : Reading m (events ++ [event]) q := by
  obtain ⟨done, hdone, hcollects, hstate⟩ := h.taken
  refine ⟨hreset, hsetup, done, ?_, hcollects.of_same hdir hcollected, ?_⟩
  · rw [arrived_append, ← List.append_assoc, hdone, hrx, List.append_assoc]
  · rcases hstate with hlast | hbefore
    · exact .inl hlast
    · exact .inr (trans_of Undisturbed hbefore hsame)

theorem Reading.step {m p q : Core0} {events : List Event} {event : Event}
    (h : Reading m events p) (hkeeps : event.KeepsTransfer) (hstep : step p event = some q) :
    Reading m (events ++ [event]) q := by
  cases event with
  | hostSetup packet => exact absurd hkeeps id
  | hostReset => exact absurd hkeeps id
  | hostIn num =>
      obtain ⟨d, hsend, rfl⟩ := Option.map_eq_some_iff.mp hstep
      refine h.of_undisturbed h.noReset h.noSetup (List.append_nil _).symm rfl rfl ?_
      exact ⟨rfl, sendIn_allocation hsend, rfl, rfl⟩
  | hostOut num packet =>
      obtain ⟨d, hreceive, rfl⟩ := Option.map_eq_some_iff.mp hstep
      refine h.of_undisturbed h.noReset h.noSetup (List.append_nil _).symm rfl rfl ?_
      exact ⟨rfl, receiveOut_allocation hreceive, rfl, rfl⟩
  | receive message =>
      obtain ⟨rx, hadd, rfl⟩ := Option.map_eq_some_iff.mp hstep
      refine h.of_undisturbed h.noReset h.noSetup (Fifo.add_eq_some.mp hadd).2 rfl rfl ?_
      exact ⟨rfl, rfl, rfl, rfl⟩
  | dcdIrq =>
      obtain ⟨master, hrun, rfl⟩ := runHandler_eq_some hstep
      have hints : p.ints = ⟨false, false, p.master.dcd.bufStatus != 0⟩ := by
        unfold Core0.ints
        rw [h.noReset, h.noSetup]
      rw [hints] at hrun
      have hquiet : Program.Moves Undisturbed
          (dcdRp2040Irq ⟨false, false, p.master.dcd.bufStatus != 0⟩) := by
        refine .bind (.pure _) fun _ => .bind (.pure _) fun _ => .when ?_
        exact hwHandleBuffStatus_undisturbed
      rcases dcdRp2040Irq_exchange hrun with ⟨hreq, -⟩ | ⟨-, hsame⟩
      · cases hreq
      · refine h.of_undisturbed rfl rfl ?_ hsame.setupResponseDir hsame.collected
          (hquiet.ok hrun)
        exact (congrArg Fifo.items hsame.rx).trans (List.append_nil _).symm
  | handleSpiSlaveEvent =>
      obtain ⟨master, hrun, rfl⟩ := runHandler_eq_some hstep
      obtain ⟨done, hdone, hcollects, hstate⟩ := h.taken
      obtain ⟨more, hmore, hreads⟩ := handleSpiSlaveEvent_reads hrun
      obtain ⟨other, hother, hafter⟩ := handleSpiSlaveEvent_collects hcollects hrun
      obtain rfl : more = other := List.append_cancel_right (hmore.symm.trans hother)
      refine ⟨h.noReset, h.noSetup, done ++ more, ?_, hafter, ?_⟩
      · have hnone : arrived [.handleSpiSlaveEvent] = [] := rfl
        rw [arrived_append, hnone, List.append_nil, hdone, hmore, List.append_assoc]
      · rcases hstate with ⟨message, hmem, hlast⟩ | hbefore
        · exact .inl ⟨message, List.mem_append_left _ hmem, hlast⟩
        · rcases hreads with ⟨message, hmem, hlast⟩ | hsame
          · exact .inl ⟨message, List.mem_append_right _ hmem, hlast⟩
          · exact .inr (trans_of Undisturbed hbefore hsame)

/-- In every run after the request that the host does not break off. -/
theorem reading_of_run {m p : Core0} {events : List Event} (hm : AwaitsConfiguration m)
    (hkeeps : ∀ event ∈ events, event.KeepsTransfer)
    (hrun : Machine.run step m events = some p) : Reading m events p := by
  have hhistory := Machine.run_history
    (H := fun before p => (∀ event ∈ before, event.KeepsTransfer) → Reading m before p)
    (fun before p event q hbefore hstep hall => ?_) (fun _ => Reading.start hm) hrun
  · exact hhistory hkeeps
  · have hp := hbefore fun other hmem => hall other (List.mem_append_left _ hmem)
    exact hp.step (hall event (by simp)) hstep

/-- A message that is followed by others in a response is not marked as last. -/
theorem RespondWith.not_last {bytes : List UInt8} {packets front later : List SpiMessage}
    {message : SpiMessage} (h : RespondWith bytes packets)
    (hsplit : packets = front ++ message :: later) (hlater : later ≠ []) :
    ∀ other ∈ front ++ [message], ¬ hasFlag other.eFlag MsgType.lastPacket := by
  obtain ⟨before, final, hpackets, -, hbefore⟩ := h.last
  obtain ⟨middle, last, rfl⟩ : ∃ middle last, later = middle ++ [last] :=
    ⟨_, _, (List.dropLast_concat_getLast hlater).symm⟩
  have hsame : before ++ [final] = (front ++ [message] ++ middle) ++ [last] := by
    rw [← hpackets, hsplit]
    simp
  have hinit : before = front ++ [message] ++ middle := (List.append_inj' hsame rfl).1
  intro other hmem
  refine hbefore other ?_
  rw [hinit]
  exact List.mem_append_left _ hmem

/-- The packet marked as last is the last one. -/
theorem RespondWith.last_split {bytes : List UInt8} {packets front later : List SpiMessage}
    {message : SpiMessage} (h : RespondWith bytes packets)
    (hsplit : packets = front ++ message :: later) :
    hasFlag message.eFlag MsgType.lastPacket ↔ later = [] := by
  constructor
  · intro hlast
    by_contra hlater
    exact h.not_last hsplit hlater message (by simp) hlast
  · rintro rfl
    obtain ⟨before, final, hpackets, hlast, -⟩ := h.last
    obtain ⟨-, hsame⟩ := List.append_inj' (hpackets.symm.trans hsplit) rfl
    cases hsame
    exact hlast

/-- When a packet of the response is next, the aggregator has the bytes of those before it. -/
theorem Reading.next {m p : Core0} {events : List Event} {bytes : List UInt8}
    {packets : List SpiMessage} {message : SpiMessage} {rest : SpiQueue} (h : Reading m events p)
    (hpackets : RespondWith bytes packets)
    (harrived : (m.master.rx.items ++ arrived events).filter (fun other => IsReply other) <+:
      packets)
    (hreading : p.master.events.setupResponseDir = .readingResponse)
    (htaken : (p.master.rx.dropWhile isString).remove = some (message, rest))
    (hreply : IsReply message) :
    ∃ front later, packets = front ++ message :: later ∧
      p.master.collected = front.flatMap (fun other => other.payload.dropLast) ∧
      Undisturbed m.master p.master := by
  obtain ⟨done, hdone, hcollects, hstate⟩ := h.taken
  obtain ⟨missing, hmissing⟩ := harrived
  let before := done.filter fun other => IsReply other
  let waiting := rest.items.filter fun other => IsReply other
  have hsplit : packets = before ++ message :: (waiting ++ missing) := by
    rw [← hmissing, hdone, taken_items htaken]
    simp only [List.filter_append, filter_no_reply (texts_no_reply p.master.rx), List.nil_append,
      List.append_assoc]
    simp [before, waiting, hreply]
  obtain ⟨front, final, hfront, -, hnotLast⟩ := hpackets.last
  have hbefore : ∀ other ∈ before, ¬ hasFlag other.eFlag MsgType.lastPacket := by
    intro other hmem
    -- What comes in front of another packet is in front of the last one.
    refine hnotLast other ?_
    have hprefix : before <+: front := by
      have hgrows : before <+: front ++ [final] := by
        rw [← hfront, hsplit]
        exact List.prefix_append _ _
      rcases List.prefix_concat_iff.mp hgrows with hall | hinside
      · rw [hfront, hall, List.append_assoc] at hsplit
        have hlength := congrArg List.length hsplit
        simp at hlength
      · exact hinside
    exact hprefix.subset hmem
  refine ⟨before, waiting ++ missing, hsplit, ?_, ?_⟩
  · rw [hcollects.reading hreading]
    unfold openResponse
    have hall : before.rtakeWhile
        (fun other => ¬ hasFlag other.eFlag MsgType.lastPacket) = before :=
      List.rtakeWhile_eq_self_iff.mpr fun other hmem => decide_eq_true (hbefore other hmem)
    rw [hall]
  · rcases hstate with ⟨last, hmem, hlast⟩ | hsame
    · have hin : last ∈ before := List.mem_filter.mpr ⟨hmem, decide_eq_true hlast.1⟩
      exact absurd hlast.2 (hbefore last hin)
    · exact hsame

/-- The host asks for the configuration while the aggregator is empty, and the response comes in
any packets, among any other messages and transfers. Then every packet is handled. Those before the
last open nothing, and the last one opens the endpoints of the configuration in order, each with the
driver and the interface descriptor of the nearest interface before it. -/
theorem configuration_read {romWord : BitVec 32} {before events : List Event} {m p : Core0}
    {config : List Descriptor} {packets : List SpiMessage} {message : SpiMessage} {rest : SpiQueue}
    (hreach : Reaches romWord before m) (hawaits : AwaitsConfiguration m)
    (hconfig : IsConfiguration config)
    (hfits : m.master.dcd.nextBufferPtr + dpramNeed config ≤ usbDpramMax)
    (hpackets : RespondWith (configurationBytes config) packets)
    (hkeeps : ∀ event ∈ events, event.KeepsTransfer)
    (hrun : Machine.run step m events = some p)
    (harrived : (m.master.rx.items ++ arrived events).filter (fun other => IsReply other) <+:
      packets)
    (hreading : p.master.events.setupResponseDir = .readingResponse)
    (htaken : (p.master.rx.dropWhile isString).remove = some (message, rest))
    (hreply : IsReply message) :
    ∃ q, step p .handleSpiSlaveEvent = some q ∧
      if hasFlag message.eFlag MsgType.lastPacket then Configured config m.master q.master
      else Undisturbed m.master q.master := by
  have hreachP : Reaches romWord (before ++ events) p := by
    unfold Reaches
    rw [Machine.run_append, hreach]
    exact hrun
  obtain ⟨front, later, hsplit, hcollected, hsame⟩ :=
    (reading_of_run hawaits hkeeps hrun).next hpackets harrived hreading htaken hreply
  have hmem : message ∈ packets := by simp [hsplit]
  obtain ⟨hpacket, haddressed⟩ := hpackets.packet message hmem
  have hcalls := RegistersReply.calls ⟨hreading, htaken, hreply, hpacket, haddressed⟩
  let s : Master := { p.master with rx := rest }
  let packet := handlerPacket message
  have hdata := handlerPacket_data message
  have hpayload : packet.payloadLength.toNat = message.payload.dropLast.length := by
    rw [← hdata.2, hdata.1]
  have hread : packet.payloadLength.toNat ≤ packet.payload.length := by
    rw [hpayload, List.length_dropLast]
    exact Nat.sub_le _ _
  -- The bytes so far and those of the packet are the beginning of the configuration.
  have hbytes : configurationBytes config = p.master.collected ++ message.payload.dropLast ++
      later.flatMap fun other => other.payload.dropLast := by
    rw [← hpackets.bytes, hsplit, hcollected]
    simp
  have hlen : p.master.collected.length = p.master.aggregator.len.toNat :=
    Buffer.length_bytesAt _ _ _
  have hfitsBehind : FitsBehind s packet := by
    have hbounded := hconfig.bounded
    rw [hbytes] at hbounded
    simp only [List.length_append] at hbounded
    show p.master.aggregator.len.toNat + packet.payloadLength.toNat ≤ _
    omega
  have hwired : s.Wired := hreachP.wired
  have hdpram : s.InDpram := hreachP.inDpram
  have hallocation := hsame.allocation
  have hpointer : p.master.dcd.nextBufferPtr = m.master.dcd.nextBufferPtr :=
    congrArg Prod.fst hallocation
  have hstarted : Undisturbed m.master s :=
    ⟨hsame.setup, hsame.allocation, hsame.openings, hsame.asked⟩
  unfold step runHandler
  rw [hcalls]
  by_cases hlast : hasFlag message.eFlag MsgType.lastPacket
  · have hholds : HoldsConfiguration config (s.withResponse packet) := by
      constructor
      case valid => exact hconfig.valid
      case response =>
        have happended := collected_append s packet hdata.2 hfitsBehind
        have hnone := (hpackets.last_split hsplit).mp hlast
        refine happended.trans ?_
        rw [hbytes, hnone, hdata.1]
        exact (List.append_nil _).symm
      case request =>
        show IsConfigRequest p.master.events.setup
        rw [hsame.setup]
        exact hawaits.request
      case live =>
        show (ControlRequest.ofBuffer p.master.dcd.setupPacket).bRequest ≠ 0x5
        have hlive : p.master.dcd.setupPacket = m.master.dcd.setupPacket :=
          congrArg Prod.snd hallocation
        have hrequest : ControlRequest.ofBuffer m.master.dcd.setupPacket =
            m.master.events.setup := hawaits.packet
        rw [hlive, hrequest, hawaits.getDescriptor]
        decide
    have hends := handleSetupData_configures hconfig hwired hdpram hread hfitsBehind hlast hholds
      (hpointer ▸ hfits)
    obtain ⟨value, t, hok, hconfigured⟩ := hends.exists_ok
    refine ⟨{ p with master := t }, ?_, ?_⟩
    · rw [hok]
    · rw [if_pos hlast]
      exact hconfigured.of_undisturbed hstarted
  · have hends : Program.Outcome (registerResponse packet) s _ _ :=
      registerResponse_control hwired hread
    cases hok : registerResponse packet s with
    | error reason t => exact absurd hfitsBehind (hends.error hok)
    | ok value t =>
        have hhandled : handleSetupData packet s = .ok () t := by
          have hnot : ¬ hasFlag packet.eFlag MsgType.lastPacket := hlast
          unfold handleSetupData
          rw [Program.bind_ok hok, Program.when_false hnot]
          rfl
        refine ⟨{ p with master := t }, ?_, ?_⟩
        · rw [hhandled]
        · rw [if_neg hlast]
          exact trans_of Undisturbed hstarted (registerResponse_undisturbed hok)

/-! ## A mouse and its configuration -/

/-- A mouse with a HID descriptor between its interface and its endpoint. -/
def mouseDescriptors : List Descriptor :=
  [⟨0x02, [34, 0, 1, 1, 0, 0x80, 50], by decide⟩, ⟨0x04, [0, 0, 1, 3, 1, 2, 0], by decide⟩,
    ⟨0x21, [0x11, 1, 0, 1, 0x22, 52, 0], by decide⟩, ⟨0x05, [0x81, 3, 8, 0, 10], by decide⟩]

/-- A packet of the response, as the slave passes it on. -/
def configurationPacket (start count : Nat) (flag : UInt16) : SpiMessage where
  eFlag := MsgType.isPacket ||| MsgType.setupData ||| flag
  payload := ((configurationBytes mouseDescriptors).drop start).take (min count 64) ++ [0x80]
  payload_lt := by
    simp
    omega

/-- The configuration in packets of 20 and 14 bytes. -/
def mousePackets : List SpiMessage :=
  [configurationPacket 0 20 MsgType.firstPacket, configurationPacket 20 64 MsgType.lastPacket]

/-- The host asks for the configuration. -/
def askForConfiguration : List Event := [.hostSetup ⟨0x80, 6, 0x0200, 0, 0xff⟩, .dcdIrq]

/-- The first packet is passed on and taken by the host, and the last one arrives. -/
def firstPacketRead : List Event :=
  mousePackets.map .receive ++ [.handleSpiSlaveEvent, .hostIn 0, .dcdIrq]

/-- The last packet is next. -/
def LastPacketNext (p : Core0) : Prop :=
  p.master.events.setupResponseDir = .readingResponse ∧
    ∃ taken ∈ (p.master.rx.dropWhile isString).remove,
      taken.1 = configurationPacket 20 64 MsgType.lastPacket

instance (p : Core0) : Decidable (LastPacketNext p) :=
  inferInstanceAs (Decidable (_ ∧ ∃ _ ∈ _, _))

theorem mouseConfiguration_read :
    ∃ m p q, Reaches 0 askForConfiguration m ∧ Machine.run step m firstPacketRead = some p ∧
      step p .handleSpiSlaveEvent = some q ∧ Configured mouseDescriptors m.master q.master := by
  have hstart : ∃ m, Reaches 0 askForConfiguration m ∧
      (AwaitsConfiguration m ∧
        m.master.dcd.nextBufferPtr + dpramNeed mouseDescriptors ≤ usbDpramMax ∧
        m.master.rx.items = []) ∧
      (Machine.run step m firstPacketRead).any (fun p => decide (LastPacketNext p)) = true :=
    exists_reaches_of_any (by decide +kernel)
  obtain ⟨m, hreach, ⟨hawaits, hfits, hnone⟩, hrest⟩ := hstart
  obtain ⟨p, hrun, hreading, ⟨⟨message, rest⟩, htaken, hmessage⟩⟩ :=
    Machine.exists_run_of_any hrest
  cases hmessage
  have hpackets : RespondWith (configurationBytes mouseDescriptors) mousePackets := by
    refine ⟨by decide, by decide, ?_, by decide⟩
    exact ⟨[configurationPacket 0 20 MsgType.firstPacket], _, rfl, by decide, by decide⟩
  have harrived : (m.master.rx.items ++ arrived firstPacketRead).filter
      (fun other => IsReply other) <+: mousePackets := by
    rw [hnone]
    decide
  obtain ⟨q, hstep, hconfigured⟩ := configuration_read hreach hawaits
    ⟨by decide, by decide, by decide⟩ hfits hpackets (by decide) hrun harrived hreading htaken
    (by decide)
  rw [if_pos (by decide)] at hconfigured
  exact ⟨m, p, q, hreach, hrun, hstep, hconfigured⟩

end UsbSec.Device
