import Mathlib.Data.List.DropRight
import UsbSec.Device.SetupExchange
import UsbSec.Device.Tables
import UsbSec.Host.ControlRead

/-!
# The size of a response

The aggregator has place for `MAX_SETUP_RESPONSE_BUGGER` bytes, and `register_response` does not
look whether the bytes of a reply fit behind those it has. What lies in the buffer is what the
replies since the last one marked as last have carried, so a reply fits exactly when these
replies and itself carry no more bytes than there is place for.
-/

namespace UsbSec.Device

open Library Usb

/-! ## The response that is still open -/

/-- The bytes of the replies that follow the last one marked as last. -/
def openResponse (messages : List SpiMessage) : List UInt8 :=
  ((messages.filter fun message => IsReply message).rtakeWhile
    fun message => ¬ hasFlag message.eFlag MsgType.lastPacket).flatMap
      fun message => message.payload.dropLast

/-- The messages that core 1 has put into `rx`, oldest first. -/
def arrived (events : List Event) : List SpiMessage :=
  events.filterMap fun
    | .receive message => some message
    | _ => none

/-- The messages that `handle_spi_slave_event` has taken out of `rx`. -/
def dequeued (events : List Event) (m : Core0) : List SpiMessage :=
  (arrived events).take ((arrived events).length - m.master.rx.items.length)

/-- `handle_spi_slave_event` is about to call `register_response` for the message. -/
structure RegistersReply (s : Master) (message : SpiMessage) (rest : SpiQueue) : Prop where
  reading : s.events.setupResponseDir = .readingResponse
  taken : (s.rx.dropWhile isString).remove = some (message, rest)
  reply : IsReply message
  packet : hasFlag message.eFlag MsgType.isPacket
  addressed : message.payload ≠ []

/-- The bytes of the message fit behind those of the response. -/
def Fits (s : Master) (message : SpiMessage) : Prop :=
  s.aggregator.len.toNat + (handlerPacket message).payloadLength.toNat ≤ maxSetupResponseBugger

instance (s : Master) (message : SpiMessage) : Decidable (Fits s message) :=
  inferInstanceAs (Decidable (_ ≤ _))

theorem RegistersReply.calls {s : Master} {message : SpiMessage} {rest : SpiQueue}
    (h : RegistersReply s message rest) :
    handleSpiSlaveEvent s = handleSetupData (handlerPacket message) { s with rx := rest } := by
  obtain ⟨epAddr, hlast⟩ : ∃ epAddr, message.payload.getLast? = some epAddr :=
    Option.ne_none_iff_exists'.mp fun hnone => h.addressed (List.getLast?_eq_none_iff.mp hnone)
  have hsetup : hasFlag message.eFlag MsgType.setupData := h.reply
  have hnot : s.events.setupResponseDir ≠ .writingResponse := by
    rw [h.reading]
    exact nofun
  unfold handleSpiSlaveEvent handleMessage
  rw [Program.read_bind, if_neg hnot]
  simp only [h.taken, hlast, Program.update_bind]
  rw [runtimeAssert, Program.require_bind h.packet, if_pos hsetup]
  rfl

theorem filter_no_reply {skipped : List SpiMessage} (h : ∀ message ∈ skipped, ¬ IsReply message) :
    skipped.filter (fun message => IsReply message) = [] := by
  rw [List.filter_eq_nil_iff]
  intro message hmem htrue
  exact h message hmem (of_decide_eq_true htrue)

/-- Messages that are no replies leave the response as it is. -/
theorem openResponse_skip (messages : List SpiMessage) {skipped : List SpiMessage}
    (h : ∀ message ∈ skipped, ¬ IsReply message) :
    openResponse (messages ++ skipped) = openResponse messages := by
  unfold openResponse
  rw [List.filter_append, filter_no_reply h, List.append_nil]

/-- A reply that is not the last one is added to the response. -/
theorem openResponse_collect (messages : List SpiMessage) {message : SpiMessage}
    (hreply : IsReply message) (hlast : ¬ hasFlag message.eFlag MsgType.lastPacket) :
    openResponse (messages ++ [message]) = openResponse messages ++ message.payload.dropLast := by
  unfold openResponse
  simp [List.filter_append, hreply, hlast]

/-- The last reply ends the response. -/
theorem openResponse_last (messages : List SpiMessage) {message : SpiMessage}
    (hreply : IsReply message) (hlast : hasFlag message.eFlag MsgType.lastPacket) :
    openResponse (messages ++ [message]) = [] := by
  unfold openResponse
  simp [List.filter_append, hreply, hlast]

/-! ## What is in the buffer -/

/-- The messages that have arrived are those dequeued and those in `rx`, and the buffer has what
the dequeued ones leave open. -/
structure Collects (done : List SpiMessage) (s : Master) : Prop where
  reading : s.events.setupResponseDir = .readingResponse → s.collected = openResponse done
  writing : s.events.setupResponseDir = .writingResponse → openResponse done = []

/-- Every message that has arrived is accounted for. -/
def Accounted (events : List Event) (m : Core0) : Prop :=
  ∃ done, arrived events = done ++ m.master.rx.items ∧ Collects done m.master

theorem Collects.of_same {done : List SpiMessage} {s t : Master} (h : Collects done s)
    (hdir : t.events.setupResponseDir = s.events.setupResponseDir)
    (hcollected : t.collected = s.collected) : Collects done t where
  reading hreading := hcollected.trans (h.reading (hdir ▸ hreading))
  writing hwriting := h.writing (hdir ▸ hwriting)

theorem Collects.skip {done skipped : List SpiMessage} {s : Master} (h : Collects done s)
    (hskipped : ∀ message ∈ skipped, ¬ IsReply message) : Collects (done ++ skipped) s where
  reading hreading := (h.reading hreading).trans (openResponse_skip done hskipped).symm
  writing hwriting := (openResponse_skip done hskipped).trans (h.writing hwriting)

/-- The texts in front of `rx` are no replies. -/
theorem texts_no_reply (rx : SpiQueue) :
    ∀ message ∈ rx.items.takeWhile isString, ¬ IsReply message :=
  fun _ hmem => Exchange.isString_not_reply (List.mem_takeWhile_imp hmem)

theorem taken_items {rx rest : SpiQueue} {message : SpiMessage}
    (h : (rx.dropWhile isString).remove = some (message, rest)) :
    rx.items = rx.items.takeWhile isString ++ [message] ++ rest.items := by
  have hitems : rx.items.dropWhile isString = message :: rest.items := Fifo.remove_eq_some.mp h
  calc rx.items = rx.items.takeWhile isString ++ rx.items.dropWhile isString :=
        List.takeWhile_append_dropWhile.symm
    _ = rx.items.takeWhile isString ++ [message] ++ rest.items := by
        rw [hitems, List.append_assoc, List.singleton_append]

theorem handleSpiSlaveEvent_collects {done : List SpiMessage} {s t : Master}
    (hs : Collects done s) (h : handleSpiSlaveEvent s = .ok () t) :
    ∃ more, s.rx.items = more ++ t.rx.items ∧ Collects (done ++ more) t := by
  have htexts := texts_no_reply s.rx
  cases handleSpiSlaveEvent_handled h with
  | passedOn hwriting hreading hcollected hsetup hrx hsetups =>
      refine ⟨[], by rw [hrx]; rfl, ?_, ?_⟩
      · intro _
        rw [List.append_nil, hcollected, hs.writing hwriting]
      · intro hdir
        rw [hreading] at hdir
        cases hdir
  | idle hrx hnone hsame =>
      refine ⟨s.rx.items.takeWhile isString, ?_, ?_⟩
      · rw [hrx]
        exact List.takeWhile_append_dropWhile.symm
      · exact (hs.skip htexts).of_same hsame.setupResponseDir hsame.collected
  | other msg rest htaken hflag hsame =>
      have hnoReply : ∀ message ∈ s.rx.items.takeWhile isString ++ [msg], ¬ IsReply message := by
        intro message hmem
        rcases List.mem_append.mp hmem with htext | hmsg
        · exact htexts message htext
        · rw [List.mem_singleton.mp hmsg]
          exact hflag
      refine ⟨_, ?_, (hs.skip hnoReply).of_same hsame.setupResponseDir hsame.collected⟩
      rw [hsame.rx]
      exact taken_items htaken
  | reply msg rest hreading htaken hflag hhandled =>
      refine ⟨s.rx.items.takeWhile isString ++ [msg], ?_, ?_⟩
      · have hrx : t.rx = rest := by
          cases hhandled with
          | collected _ happended => exact happended.rx
          | responded _ _ _ hrx _ => exact hrx
        rw [hrx]
        exact taken_items htaken
      · rw [← List.append_assoc]
        have hbefore := hs.skip htexts
        cases hhandled with
        | collected hlast happended =>
            refine ⟨fun _ => ?_, fun hdir => ?_⟩
            · rw [openResponse_collect _ hflag hlast, ← hbefore.reading hreading]
              rw [happended.collected, (handlerPacket_data msg).1]
              rfl
            · rw [happended.setupResponseDir] at hdir
              exact absurd (hreading.symm.trans hdir) nofun
        | responded hlast hsetup hdir hrx hsetups =>
            refine ⟨fun hread => ?_, fun _ => openResponse_last _ hflag hlast⟩
            rw [hdir] at hread
            cases hread

theorem arrived_append (first second : List Event) :
    arrived (first ++ second) = arrived first ++ arrived second := List.filterMap_append

/-- An event that brings no message and leaves the exchange alone. -/
theorem Accounted.of_same {before : List Event} {m n : Core0} {event : Event}
    (h : Accounted before m) (hquiet : arrived [event] = [])
    (hrx : n.master.rx = m.master.rx)
    (hdir : n.master.events.setupResponseDir = m.master.events.setupResponseDir)
    (hcollected : n.master.collected = m.master.collected) : Accounted (before ++ [event]) n := by
  obtain ⟨done, hdone, hcollects⟩ := h
  refine ⟨done, ?_, hcollects.of_same hdir hcollected⟩
  rw [arrived_append, hquiet, List.append_nil, hdone, hrx]

theorem step_accounted {before : List Event} {m n : Core0} {event : Event}
    (h : Accounted before m) (hstep : step m event = some n) : Accounted (before ++ [event]) n := by
  cases event with
  | hostSetup packet | hostReset =>
      cases hstep
      exact h.of_same rfl rfl rfl rfl
  | hostIn num | hostOut num packet =>
      obtain ⟨dcd, -, rfl⟩ := Option.map_eq_some_iff.mp hstep
      exact h.of_same rfl rfl rfl rfl
  | receive message =>
      obtain ⟨rx, hadd, rfl⟩ := Option.map_eq_some_iff.mp hstep
      obtain ⟨done, hdone, hcollects⟩ := h
      refine ⟨done, ?_, hcollects.of_same rfl rfl⟩
      rw [arrived_append, hdone, List.append_assoc]
      exact congrArg _ (Fifo.add_eq_some.mp hadd).2.symm
  | handleSpiSlaveEvent =>
      obtain ⟨master, hrun, rfl⟩ := runHandler_eq_some hstep
      obtain ⟨done, hdone, hcollects⟩ := h
      obtain ⟨more, hmore, hafter⟩ := handleSpiSlaveEvent_collects hcollects hrun
      refine ⟨done ++ more, ?_, hafter⟩
      have hquiet : arrived [.handleSpiSlaveEvent] = [] := rfl
      rw [arrived_append, hquiet, List.append_nil, hdone, hmore, List.append_assoc]
  | dcdIrq =>
      obtain ⟨master, hrun, rfl⟩ := runHandler_eq_some hstep
      rcases dcdRp2040Irq_exchange hrun with ⟨-, hreceived⟩ | ⟨-, hsame⟩
      · exact h.of_same rfl hreceived.rx hreceived.setupResponseDir hreceived.collected
      · exact h.of_same rfl hsame.rx hsame.setupResponseDir hsame.collected

theorem Reaches.accounted {romWord : BitVec 32} {events : List Event} {m : Core0}
    (h : Reaches romWord events m) : Accounted events m := by
  refine Machine.run_history (fun before m event n => step_accounted) ?_ h
  exact ⟨[], rfl, fun _ => rfl, fun _ => rfl⟩

theorem dequeued_eq {events : List Event} {m : Core0} {done : List SpiMessage}
    (h : arrived events = done ++ m.master.rx.items) : dequeued events m = done := by
  unfold dequeued
  rw [h, List.length_append, Nat.add_sub_cancel]
  exact List.take_left

/-- In every run, the bytes of a reply fit behind those of the response exactly when the replies
since the last one marked as last, and this one, carry at most `MAX_SETUP_RESPONSE_BUGGER` bytes. -/
theorem registerResponse_fits_iff {romWord : BitVec 32} {events : List Event} {m : Core0}
    {message : SpiMessage} {rest : SpiQueue} (hreach : Reaches romWord events m)
    (hcall : RegistersReply m.master message rest) :
    Fits m.master message ↔
      (openResponse (dequeued events m)).length + message.payload.dropLast.length ≤
        maxSetupResponseBugger := by
  obtain ⟨done, hdone, hcollects⟩ := hreach.accounted
  have hlen : m.master.aggregator.len.toNat = (openResponse done).length := by
    rw [← hcollects.reading hcall.reading, Master.collected, Buffer.length_bytesAt]
  have hpayload : (handlerPacket message).payloadLength.toNat = message.payload.dropLast.length := by
    rw [← (handlerPacket_data message).2, (handlerPacket_data message).1]
  unfold Fits
  rw [hlen, hpayload, dequeued_eq hdone]

/-! ## A descriptor of more than 1024 bytes -/

/-- The host asks for a string descriptor of 2000 bytes. -/
def longRequest : ControlRequest := ⟨0x80, 6, 0x0301, 0, 2000⟩

/-- The device answers with packets of 64 bytes. -/
def longPacket : Packet := ⟨List.replicate 64 0, by decide⟩

/-- The slave reads the first packets of the descriptor. -/
def longRead (count : Nat) : List Host.Event :=
  [.receive ⟨MsgType.chgEpxPacketsize, [64], by decide⟩, .slavework] ++
    Host.controlRead longRequest (List.replicate count longPacket)

/-- The master handles messages of the slave as they arrive. -/
def handleAll (messages : List SpiMessage) : List Event :=
  messages.flatMap fun message => [.receive message, .handleSpiSlaveEvent]

/-- The message in which the slave forwards such a packet. -/
def longReply : SpiMessage :=
  ⟨MsgType.setupData ||| MsgType.isPacket, List.replicate 64 0 ++ [0x80], by decide⟩

theorem registersReply_longReply {s : Master} (hrx : s.rx.items = [longReply])
    (hreading : s.events.setupResponseDir = .readingResponse) :
    RegistersReply s longReply .empty where
  reading := hreading
  taken := by
    rw [Fifo.remove_eq_some, Fifo.dropWhile_items, hrx]
    rfl
  reply := by decide
  packet := by decide
  addressed := by decide

/-- The host reads the device descriptor, in one reply, and then a descriptor of which the slave has
forwarded sixteen packets, the last of them not handled yet. -/
def laterReplies : List Event :=
  [.hostSetup ⟨0x80, 6, 0x100, 0, 18⟩, .dcdIrq,
    .receive (lastReply [18, 1, 0, 2, 0, 0, 0, 64, 0, 0, 0, 0, 0, 1, 0, 0, 0, 1] (by decide)),
    .handleSpiSlaveEvent, .handleSpiSlaveEvent] ++
    handleAll (List.replicate 15 longReply) ++ [.receive longReply]

/-- The packets since the last reply marked as last carry 1024 bytes, which fit. -/
theorem laterReplies_fits :
    ∃ m, Reaches 0 laterReplies m ∧ (openResponse (dequeued laterReplies m)).length = 960 ∧
      Fits m.master longReply := by
  have hrun : ∃ m, Reaches 0 laterReplies m ∧ m.master.rx.items = [longReply] ∧
      m.master.events.setupResponseDir = .readingResponse ∧
      (openResponse (dequeued laterReplies m)).length = 960 :=
    exists_reaches_of_any (by decide +kernel)
  obtain ⟨m, hreach, hrx, hreading, hopen⟩ := hrun
  have hcall := registersReply_longReply hrx hreading
  refine ⟨m, hreach, hopen, (registerResponse_fits_iff hreach hcall).mpr ?_⟩
  rw [hopen]
  decide

/-- The slave forwards seventeen packets of 64 bytes, none of them as the last one. The bytes of
the seventeenth do not fit. -/
theorem longReply_not_fits :
    ¬ ∀ slaveRom masterRom slaveEvents c events m message rest,
      Machine.run Host.step (.init slaveRom) slaveEvents = some c →
      arrived events <+: c.slave.outbox → Reaches masterRom events m →
      RegistersReply m.master message rest → Fits m.master message := by
  intro hclaim
  have hslave : ∃ c, Machine.run Host.step (.init 0) (longRead 17) = some c ∧
      c.slave.outbox = List.replicate 17 longReply := Machine.exists_run_of_any (by decide +kernel)
  have hmaster : ∃ m, Reaches 0
      (handleAll (List.replicate 16 longReply) ++ [.receive longReply]) m ∧
      m.master.rx.items = [longReply] ∧ m.master.events.setupResponseDir = .readingResponse ∧
      ¬ Fits m.master longReply := exists_reaches_of_any (by decide +kernel)
  obtain ⟨c, hread, houtbox⟩ := hslave
  obtain ⟨m, hreach, hrx, hreading, hoverflow⟩ := hmaster
  refine hoverflow (hclaim 0 0 _ c _ m longReply .empty hread ?_ hreach
    (registersReply_longReply hrx hreading))
  rw [houtbox]
  exact ⟨[], rfl⟩

end UsbSec.Device
