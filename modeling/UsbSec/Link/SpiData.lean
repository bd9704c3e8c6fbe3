import Mathlib.Logic.Function.Basic
import UsbSec.Library.Channel
import UsbSec.Library.Machine
import UsbSec.Messages.Message
import UsbSec.Usb.Types

/-!
# Frames on the SPI link

After `lib/messages/spi_data.c`. A frame is the sync byte 0xff, the length, the flag and the data,
the two words with their low byte first. The receiver reads single bytes until it finds the sync
byte, and it reads them into `dummy`, the static from which the sender takes the sync byte.

`spi_write_blocking` puts bytes on the wire and drops what it clocks in; `spi_read_blocking` waits
for the number of bytes it is asked for. Each chip therefore has one stream of bytes coming in, and a
call that needs more bytes than have come does not return. `link_round_trip` is about every order in
which the two chips send and receive, with idle bytes between the frames.
-/

namespace UsbSec.Link

open Library Usb

/-- The statics of `spi_data.c` on one chip. -/
structure SpiData where
  flag : UInt16
  dummy : UInt8
  deriving DecidableEq

/-- The statics before the first call. -/
def SpiData.init : SpiData := ⟨0, 0xff⟩

/-- `spi_send_blocking`: the statics after the call and the bytes written. -/
def spiSendBlocking (data : List UInt8) (len newFlag : UInt16) (statics : SpiData) :
    SpiData × List UInt8 :=
  let statics : SpiData := { statics with flag := newFlag }
  let hdr : List UInt8 := [statics.dummy, len.toUInt8, (len >>> 8).toUInt8,
    statics.flag.toUInt8, (statics.flag >>> 8).toUInt8]
  (statics, hdr ++ data.take len.toNat)

/-- `spi_read_blocking`: the first `count` bytes and what is left, once there are as many. -/
def spiReadBlocking (count : Nat) (incoming : List UInt8) : Option (List UInt8 × List UInt8) :=
  if count ≤ incoming.length then some (incoming.take count, incoming.drop count) else none

/-- The loop `do .. while (dummy != 0xff)`. -/
def scanSync (statics : SpiData) : List UInt8 → Option (SpiData × List UInt8)
  | [] => none
  | byte :: rest =>
      let statics := { statics with dummy := byte }
      if statics.dummy ≠ 0xff then scanSync statics rest else some (statics, rest)

/-- What a call of `spi_receive_blocking` gives: the length it returns, the bytes it stored and the
flag it set. -/
structure Received where
  length : UInt16
  data : List UInt8
  flag : UInt16
  deriving DecidableEq

/-- `*(uint16_t *) &hdr[i]`. -/
def wordAt (hdr : List UInt8) (i : Nat) : UInt16 := le16 (hdr.getD i 0) (hdr.getD (i + 1) 0)

/-- `spi_receive_blocking`: what it gives, the statics after the call and the bytes left. -/
def spiReceiveBlocking (statics : SpiData) (incoming : List UInt8) :
    Option (Received × SpiData × List UInt8) := do
  let (statics, incoming) ← scanSync statics incoming
  let (hdr, incoming) ← spiReadBlocking 4 incoming
  let len := wordAt hdr 0
  let (data, incoming) ← spiReadBlocking len.toNat incoming
  let statics := { statics with flag := wordAt hdr 2 }
  some (⟨len, data, statics.flag⟩, statics, incoming)

/-! ## The two chips -/

/-- The chip at the other end. -/
def peer : SpiRole → SpiRole
  | .master => .slave
  | .slave => .master

/-- Both chips with the bytes on their way to each, the frames sent to each and what the calls of
each have given. -/
structure Wires where
  statics : SpiRole → SpiData
  incoming : SpiRole → List UInt8
  sent : SpiRole → List SpiMessage
  received : SpiRole → List Received

/-- The link before the first call. -/
def Wires.init : Wires := ⟨fun _ => .init, fun _ => [], fun _ => [], fun _ => []⟩

/-- An idle byte comes in at a chip between two frames, a chip sends a frame, or a call to receive
one returns on a chip. -/
inductive WireEvent where
  | idle (role : SpiRole) (byte : UInt8)
  | send (role : SpiRole) (frame : SpiMessage)
  | receive (role : SpiRole)

/-- One step of the two chips. -/
def wireStep (w : Wires) : WireEvent → Option Wires
  | .idle role byte =>
      if byte ≠ 0xff then
        some { w with incoming := Function.update w.incoming role (w.incoming role ++ [byte]) }
      else none
  | .send role frame =>
      let (statics, bytes) := spiSendBlocking frame.payload (UInt16.ofNat frame.payload.length)
        frame.eFlag (w.statics role)
      let target := peer role
      some { w with
        statics := Function.update w.statics role statics
        incoming := Function.update w.incoming target (w.incoming target ++ bytes)
        sent := Function.update w.sent target (w.sent target ++ [frame]) }
  | .receive role => do
      let (result, statics, rest) ← spiReceiveBlocking (w.statics role) (w.incoming role)
      some { w with
        statics := Function.update w.statics role statics
        incoming := Function.update w.incoming role rest
        received := Function.update w.received role (w.received role ++ [result]) }

/-! ## One frame -/

/-- The bytes of a frame. -/
def frameBytes (frame : SpiMessage) : List UInt8 :=
  let len := UInt16.ofNat frame.payload.length
  [0xff, len.toUInt8, (len >>> 8).toUInt8, frame.eFlag.toUInt8, (frame.eFlag >>> 8).toUInt8] ++
    frame.payload

/-- What a call that receives the frame gives. -/
def resultOf (frame : SpiMessage) : Received :=
  ⟨UInt16.ofNat frame.payload.length, frame.payload, frame.eFlag⟩

theorem payload_length_toNat (frame : SpiMessage) :
    (UInt16.ofNat frame.payload.length).toNat = frame.payload.length := by
  rw [UInt16.toNat_ofNat']
  exact Nat.mod_eq_of_lt frame.payload_lt

/-- A chip whose `dummy` is the sync byte sends the frame. -/
theorem spiSendBlocking_frame (frame : SpiMessage) {statics : SpiData}
    (h : statics.dummy = 0xff) :
    spiSendBlocking frame.payload (UInt16.ofNat frame.payload.length) frame.eFlag statics =
      ({ statics with flag := frame.eFlag }, frameBytes frame) := by
  unfold spiSendBlocking frameBytes
  rw [payload_length_toNat, List.take_length]
  simp [h]

theorem spiReadBlocking_append {count : Nat} {bytes : List UInt8} (h : bytes.length = count)
    (rest : List UInt8) : spiReadBlocking count (bytes ++ rest) = some (bytes, rest) := by
  unfold spiReadBlocking
  subst h
  simp

/-- Idle bytes are skipped, up to the sync byte. -/
theorem scanSync_idle {idle : List UInt8} (h : ∀ byte ∈ idle, byte ≠ 0xff) (statics : SpiData)
    (rest : List UInt8) :
    scanSync statics (idle ++ 0xff :: rest) = some ({ statics with dummy := 0xff }, rest) := by
  induction idle generalizing statics with
  | nil => simp [scanSync]
  | cons byte others ih =>
      have hbyte := h byte List.mem_cons_self
      have hothers := ih fun other hmem => h other (List.mem_cons_of_mem _ hmem)
      simp [scanSync, hbyte, hothers]

/-- Without a sync byte the scan goes on. -/
theorem scanSync_none {idle : List UInt8} (h : ∀ byte ∈ idle, byte ≠ 0xff) (statics : SpiData) :
    scanSync statics idle = none := by
  induction idle generalizing statics with
  | nil => rfl
  | cons byte others ih =>
      have hbyte := h byte List.mem_cons_self
      have hothers := ih fun other hmem => h other (List.mem_cons_of_mem _ hmem)
      simp [scanSync, hbyte, hothers]

/-- A call that starts at a frame boundary gives the next frame and takes its bytes only, whatever
the frame contains. -/
theorem spiReceiveBlocking_frame {idle : List UInt8} (h : ∀ byte ∈ idle, byte ≠ 0xff)
    (frame : SpiMessage) (statics : SpiData) (rest : List UInt8) :
    spiReceiveBlocking statics (idle ++ (frameBytes frame ++ rest)) =
      some (resultOf frame, ⟨frame.eFlag, 0xff⟩, rest) := by
  let len := UInt16.ofNat frame.payload.length
  let hdr : List UInt8 :=
    [len.toUInt8, (len >>> 8).toUInt8, frame.eFlag.toUInt8, (frame.eFlag >>> 8).toUInt8]
  have hbytes : frameBytes frame ++ rest = 0xff :: (hdr ++ (frame.payload ++ rest)) := rfl
  have hheader : spiReadBlocking 4 (hdr ++ (frame.payload ++ rest)) =
      some (hdr, frame.payload ++ rest) := spiReadBlocking_append (show hdr.length = 4 from rfl) _
  have hlen : wordAt hdr 0 = len := le16_toUInt8 len
  have hflag : wordAt hdr 2 = frame.eFlag := le16_toUInt8 frame.eFlag
  have hdata : spiReadBlocking len.toNat (frame.payload ++ rest) = some (frame.payload, rest) :=
    spiReadBlocking_append (payload_length_toNat frame).symm _
  unfold spiReceiveBlocking
  rw [hbytes, scanSync_idle h]
  simp only [Option.bind_eq_bind, Option.bind_some, hheader, hlen, hflag, hdata]
  rfl

/-- A call that finds idle bytes only waits. -/
theorem spiReceiveBlocking_none {idle : List UInt8} (h : ∀ byte ∈ idle, byte ≠ 0xff)
    (statics : SpiData) : spiReceiveBlocking statics idle = none := by
  unfold spiReceiveBlocking
  rw [scanSync_none h]
  rfl

/-! ## A stream of frames -/

/-- The bytes are the frames in order, with idle bytes before each of them and after the last. -/
def Holds : List SpiMessage → List UInt8 → Prop
  | [], bytes => ∀ byte ∈ bytes, byte ≠ 0xff
  | frame :: rest, bytes =>
      ∃ idle tail, (∀ byte ∈ idle, byte ≠ 0xff) ∧ bytes = idle ++ (frameBytes frame ++ tail) ∧
        Holds rest tail

theorem Holds.idle {frames : List SpiMessage} {bytes : List UInt8} (h : Holds frames bytes)
    {byte : UInt8} (hbyte : byte ≠ 0xff) : Holds frames (bytes ++ [byte]) := by
  induction frames generalizing bytes with
  | nil =>
      intro other hmem
      rcases List.mem_append.mp hmem with hold | hnew
      · exact h other hold
      · rw [List.mem_singleton.mp hnew]
        exact hbyte
  | cons frame rest ih =>
      obtain ⟨idle, tail, hidle, hbytes, hrest⟩ := h
      refine ⟨idle, tail ++ [byte], hidle, ?_, ih hrest⟩
      rw [hbytes]
      simp

theorem Holds.send {frames : List SpiMessage} {bytes : List UInt8} (h : Holds frames bytes)
    (frame : SpiMessage) : Holds (frames ++ [frame]) (bytes ++ frameBytes frame) := by
  induction frames generalizing bytes with
  | nil =>
      refine ⟨bytes, [], h, ?_, List.forall_mem_nil _⟩
      simp
  | cons first rest ih =>
      obtain ⟨idle, tail, hidle, hbytes, hrest⟩ := h
      refine ⟨idle, tail ++ frameBytes frame, hidle, ?_, ih hrest⟩
      rw [hbytes]
      simp

/-! ## Runs -/

/-- What is known of one chip: its `dummy` is the sync byte, and the frames sent to it went through
a channel, whose contents are the bytes still coming in. -/
def ChannelHolds (w : Wires) (role : SpiRole) : Prop :=
  (w.statics role).dummy = 0xff ∧ ∃ channel : Channel SpiMessage, channel.sent = w.sent role ∧
    channel.received.map resultOf = w.received role ∧ Holds channel.inside (w.incoming role)

theorem Wires.init_channelHolds (role : SpiRole) : ChannelHolds .init role :=
  ⟨rfl, .empty, rfl, rfl, List.forall_mem_nil _⟩

theorem peer_ne (role : SpiRole) : role ≠ peer role := by
  cases role <;> decide

/-- A call that returns gives the first frame inside the channel and leaves the others. -/
theorem receive_first {statics : SpiData} {frames : List SpiMessage} {bytes : List UInt8}
    {result : Received} {after : SpiData} {left : List UInt8} (h : Holds frames bytes)
    (hcall : spiReceiveBlocking statics bytes = some (result, after, left)) :
    ∃ frame rest, frames = frame :: rest ∧ result = resultOf frame ∧
      after = ⟨frame.eFlag, 0xff⟩ ∧ Holds rest left := by
  cases frames with
  | nil =>
      rw [spiReceiveBlocking_none h] at hcall
      cases hcall
  | cons frame rest =>
      obtain ⟨idle, tail, hidle, hbytes, hrest⟩ := h
      rw [hbytes, spiReceiveBlocking_frame hidle] at hcall
      cases hcall
      exact ⟨frame, rest, rfl, rfl, rfl, hrest⟩

/-- Each step keeps both chips in step with their channels. -/
theorem wireStep_channelHolds {w next : Wires} {event : WireEvent} (h : ∀ role, ChannelHolds w role)
    (hstep : wireStep w event = some next) : ∀ role, ChannelHolds next role := by
  intro role
  obtain ⟨hdummy, channel, hsent, hreceived, hholds⟩ := h role
  cases event with
  | idle target byte =>
      by_cases hbyte : byte ≠ 0xff
      · rw [wireStep, if_pos hbyte] at hstep
        cases hstep
        refine ⟨hdummy, channel, hsent, hreceived, ?_⟩
        by_cases hsame : role = target
        · subst hsame
          simpa using hholds.idle hbyte
        · simpa [Function.update_of_ne hsame] using hholds
      · rw [wireStep, if_neg hbyte] at hstep
        cases hstep
  | send sender frame =>
      rw [wireStep, spiSendBlocking_frame frame (h sender).1] at hstep
      cases hstep
      by_cases hsame : role = sender
      · -- the sender's own stream is the other one
        subst hsame
        refine ⟨by simpa using hdummy, channel, ?_, hreceived, ?_⟩
        · simpa [Function.update_of_ne (peer_ne role)] using hsent
        · simpa [Function.update_of_ne (peer_ne role)] using hholds
      · have hpeer : role = peer sender := by
          cases role <;> cases sender <;> first | rfl | exact absurd rfl hsame
        subst hpeer
        refine ⟨by simpa [Function.update_of_ne hsame] using hdummy, channel.send frame, ?_,
          hreceived, ?_⟩
        · simpa [Channel.send] using hsent
        · simpa [Channel.send] using hholds.send frame
  | receive receiver =>
      rw [wireStep, Option.bind_eq_bind, Option.bind_eq_some_iff] at hstep
      obtain ⟨⟨result, statics, left⟩, hcall, hnext⟩ := hstep
      cases hnext
      by_cases hsame : role = receiver
      · subst hsame
        obtain ⟨frame, rest, hframes, rfl, rfl, hrest⟩ := receive_first hholds hcall
        obtain ⟨after, -, hafterSent, hafterReceived, hafterInside⟩ :=
          Channel.receive_cons hframes
        refine ⟨by simp, after, hafterSent.trans hsent, ?_, ?_⟩
        · simp [hafterReceived, hreceived]
        · simpa [hafterInside] using hrest
      · refine ⟨by simpa [Function.update_of_ne hsame] using hdummy, channel, hsent, ?_, ?_⟩
        · simpa [Function.update_of_ne hsame] using hreceived
        · simpa [Function.update_of_ne hsame] using hholds

/-- What a call to receive does on a chip that still has the given frames coming: it waits when
there is none, and otherwise gives the first, takes its bytes and the idle bytes before it, and
leaves `dummy` as it was before. -/
def Gives (w : Wires) (role : SpiRole) : List SpiMessage → Prop
  | [] => wireStep w (.receive role) = none
  | frame :: _ => ∃ idle tail, (∀ byte ∈ idle, byte ≠ 0xff) ∧
      w.incoming role = idle ++ (frameBytes frame ++ tail) ∧
      wireStep w (.receive role) = some { w with
        statics := Function.update w.statics role ⟨frame.eFlag, 0xff⟩
        incoming := Function.update w.incoming role tail
        received := Function.update w.received role (w.received role ++ [resultOf frame]) }

theorem gives_of_holds {w : Wires} {role : SpiRole} {frames : List SpiMessage}
    (h : Holds frames (w.incoming role)) : Gives w role frames := by
  cases frames with
  | nil =>
      show wireStep w (.receive role) = none
      rw [wireStep, spiReceiveBlocking_none h]
      rfl
  | cons frame rest =>
      obtain ⟨idle, tail, hidle, hbytes, -⟩ := h
      refine ⟨idle, tail, hidle, hbytes, ?_⟩
      rw [wireStep, hbytes, spiReceiveBlocking_frame hidle]
      rfl

/-- After every run of sends, idle bytes and calls to receive on both chips, the calls of each chip
have given the first frames sent to it, in order and with their flags; the next call gives the next
one; and `dummy` is the sync byte. -/
theorem link_round_trip {events : List WireEvent} {w : Wires}
    (hrun : Machine.run wireStep .init events = some w) (role : SpiRole) :
    (w.statics role).dummy = 0xff ∧ ∃ given coming, w.sent role = given ++ coming ∧
      w.received role = given.map resultOf ∧ Gives w role coming := by
  have hinv : ∀ role, ChannelHolds w role := Machine.run_invariant (I := fun w => ∀ role, ChannelHolds w role)
    (fun _ _ _ h hstep => wireStep_channelHolds h hstep) Wires.init_channelHolds hrun
  obtain ⟨hdummy, channel, hsent, hreceived, hholds⟩ := hinv role
  refine ⟨hdummy, channel.received, channel.inside, ?_, hreceived.symm, gives_of_holds hholds⟩
  rw [← hsent, channel.accounted]

/-- The exchange of the test program: five bytes to the slave, of which three come back. -/
def testExchange : List WireEvent :=
  [.idle .slave 0, .send .master ⟨21, [0, 1, 2, 3, 4], by decide⟩, .receive .slave,
    .send .slave ⟨33, [9, 1, 2], by decide⟩, .receive .master]

theorem testExchange_round_trip : ∃ w, Machine.run wireStep .init testExchange = some w ∧
    w.received .slave = [⟨5, [0, 1, 2, 3, 4], 21⟩] ∧ w.received .master = [⟨3, [9, 1, 2], 33⟩] ∧
    (w.statics .slave).dummy = 0xff ∧ ∃ given coming, w.sent .slave = given ++ coming ∧
      w.received .slave = given.map resultOf ∧ Gives w .slave coming := by
  have hruns : ∃ w, Machine.run wireStep .init testExchange = some w ∧
      w.received .slave = [⟨5, [0, 1, 2, 3, 4], 21⟩] ∧
      w.received .master = [⟨3, [9, 1, 2], 33⟩] := Machine.exists_run_of_any (by decide +kernel)
  obtain ⟨w, hrun, hslave, hmaster⟩ := hruns
  exact ⟨w, hrun, hslave, hmaster, link_round_trip hrun .slave⟩

end UsbSec.Link
