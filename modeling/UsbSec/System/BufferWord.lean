import UsbSec.Host.ControlRead
import UsbSec.Rp2040.NextBuffer

/-!
# The word that arms a buffer

`_hw_endpoint_start_next_buffer` ORs a length of 16 bits into the buffer control word without a
mask: on the master the length of the next packet, on the slave all that remains. What remains may
be the `wLength` that the host chose. `bufferWord_good_iff` says when the word is as the controller
expects it.
-/

namespace UsbSec.System

open Library Usb Rp2040 Host

/-- The size of the endpoint's data buffer: on the master what `_hw_endpoint_alloc` reserves, or
`ep0_buf_a`; on the slave 128 bytes for EPX and 64 for an interrupt endpoint. -/
def dataBufferSize (role : SpiRole) (ep : HwEndpoint) : Nat :=
  match role with
  | .master =>
      if tuEdptNumber ep.epAddr = 0 then 64 else (allocSize ep.wMaxPacketSize ep.transferType).toNat
  | .slave => if ep.bufferControl = some 0x80 then 128 else 64

/-- The word that arms the buffer of an endpoint is what the controller expects: `left` is what
remains behind the buffer. -/
structure GoodWord (role : SpiRole) (ep : HwEndpoint) (left : UInt16) (word : BitVec 32) : Prop where
  avail : hasBits word bufCtrlAvail = true
  stall : hasBits word bufCtrlStall = false
  pid : hasBits word bufCtrlData1Pid = decide (ep.nextPid ≠ 0)
  full : hasBits word bufCtrlFull = !ep.rx
  last : hasBits word bufCtrlLast = decide (left = 0)
  length : (bufLen word).toNat ≤ dataBufferSize role ep
  noFlag : hasBits (lenBits (wordLen role ep)) (0xffff#32 &&& ~~~bufCtrlLenMask) = false

/-- The length is below the flags and within the data buffer. -/
def LengthFits (role : SpiRole) (ep : HwEndpoint) : Prop :=
  (wordLen role ep).toNat < 1024 ∧ (wordLen role ep).toNat ≤ dataBufferSize role ep

/-- With a length that fits, the word is good. -/
theorem bufferWord_good {role : SpiRole} {ep : HwEndpoint} (h : LengthFits role ep) :
    GoodWord role ep ep.leftLen (Rp2040.bufferWord role ep) := by
  obtain ⟨havail, hstall, -, hfull, hlast, hmask⟩ := wordFlags_bits role ep
  have hnone {bits : BitVec 32} (hbits : bufCtrlLenMask &&& bits = 0) :
      hasBits (lenBits (wordLen role ep)) bits = false := hasBits_lenBits h.1 hbits
  have hlength : bufLen (Rp2040.bufferWord role ep) = wordLen role ep := bufLen_lenBits_or h.1 hmask
  constructor
  case avail => rw [Rp2040.bufferWord, hasBits_or, havail, Bool.or_true]
  case stall => rw [Rp2040.bufferWord, hasBits_or, hnone (by decide), hstall, Bool.or_false]
  case pid => exact bufferWord_pid h.1
  case full => rw [Rp2040.bufferWord, hasBits_or, hnone (by decide), hfull, Bool.false_or]
  case last => rw [Rp2040.bufferWord, hasBits_or, hnone (by decide), hlast, Bool.false_or]
  case length =>
    rw [hlength]
    exact h.2
  case noFlag => exact (lenBits_noFlag _).mpr h.1

/-- A good word was made from a length that fits. -/
theorem GoodWord.lengthFits {role : SpiRole} {ep : HwEndpoint} {left : UInt16}
    (h : GoodWord role ep left (Rp2040.bufferWord role ep)) : LengthFits role ep := by
  have hsmall := (lenBits_noFlag _).mp h.noFlag
  have hlength : bufLen (Rp2040.bufferWord role ep) = wordLen role ep :=
    bufLen_lenBits_or hsmall (wordFlags_bits role ep).2.2.2.2.2
  have hinside := h.length
  rw [hlength] at hinside
  exact ⟨hsmall, hinside⟩

/-- The word that arms the next buffer of an endpoint is good exactly when the length that is put
into it fits: on the slave all that remains, on the master the next packet. -/
theorem bufferWord_good_iff {role : SpiRole} {c d : Channel} {offset : Nat}
    (hmode : role = .master → DeviceMode c.memory) (hbuffer : c.ep.bufferControl = some offset)
    (hrun : hwEndpointStartNextBuffer role c = .ok () d) :
    GoodWord role c.ep d.ep.remainingLen (d.memory.word offset) ↔ LengthFits role c.ep := by
  obtain ⟨-, hd⟩ := (startNextBuffer_outcome hmode).ok hrun
  have hleft : (nextEp role c.ep).remainingLen = c.ep.leftLen := by
    cases role <;> rfl
  subst hd
  rw [nextMemory_word role hbuffer]
  show GoodWord role c.ep (nextEp role c.ep).remainingLen _ ↔ _
  rw [hleft]
  exact ⟨GoodWord.lengthFits, bufferWord_good⟩

/-! ## Two requests -/

/-- The slave knows that packets have eight bytes and has sent a GET_DESCRIPTOR for `wLength`
bytes. -/
def descriptorRequest (wLength : UInt16) : List Event :=
  packetSizeEight ++ [.receive (setupMessage ⟨0x80, 6, 0x0200, 0, wLength⟩), .slavework,
    .setupSent, .hcdIrq]

/-- The channel on which the read of the response is armed. -/
def responseChannel (wLength : UInt16) (h : Hcd) : Channel :=
  ⟨{ h.epPool epx with remainingLen := wLength, nextPid := 1 }, h.memory⟩

/-- With 64 bytes requested the word is good. -/
theorem shortRequest_good : ∃ m d, Machine.run step (.init 0) (descriptorRequest 64) = some m ∧
    hwEndpointStartNextBuffer .slave (responseChannel 64 m.slave.hcd) = .ok () d ∧
    GoodWord .slave (responseChannel 64 m.slave.hcd).ep d.ep.remainingLen
      (d.memory.word epxBufCtrl) := by
  obtain ⟨m, hrun, hrx, hbuffer, hfits⟩ : ∃ m,
      Machine.run step (.init 0) (descriptorRequest 64) = some m ∧
        (responseChannel 64 m.slave.hcd).ep.rx = true ∧
        (responseChannel 64 m.slave.hcd).ep.bufferControl = some epxBufCtrl ∧
        ((wordLen .slave (responseChannel 64 m.slave.hcd).ep).toNat < 1024 ∧
          (wordLen .slave (responseChannel 64 m.slave.hcd).ep).toNat ≤
            dataBufferSize .slave (responseChannel 64 m.slave.hcd).ep) :=
    Machine.exists_run_of_any (by decide +kernel)
  have hmode : SpiRole.slave = .master → DeviceMode (responseChannel 64 m.slave.hcd).memory := nofun
  have harmed := startNextBuffer_receives hmode hrx
  exact ⟨m, _, hrun, harmed, (bufferWord_good_iff hmode hbuffer harmed).mpr hfits⟩

/-- With 2048 bytes requested the word in the register has the STALL bit. -/
theorem longRequest_not_good :
    ∃ m d, Machine.run step (.init 0) (descriptorRequest 2048) = some m ∧
      hwEndpointStartNextBuffer .slave (responseChannel 2048 m.slave.hcd) = .ok () d ∧
      d.memory.word epxBufCtrl = m.slave.hcd.memory.word epxBufCtrl ∧
      d.ep = m.slave.hcd.epPool epx ∧
      hasBits (m.slave.hcd.memory.word epxBufCtrl) bufCtrlStall = true ∧
      ¬ GoodWord .slave (responseChannel 2048 m.slave.hcd).ep d.ep.remainingLen
        (d.memory.word epxBufCtrl) := by
  obtain ⟨m, hrun, hrx, hbuffer, hword, hep, hstall⟩ : ∃ m,
      Machine.run step (.init 0) (descriptorRequest 2048) = some m ∧
        (responseChannel 2048 m.slave.hcd).ep.rx = true ∧
        (responseChannel 2048 m.slave.hcd).ep.bufferControl = some epxBufCtrl ∧
        m.slave.hcd.memory.word epxBufCtrl =
          bufferWord .slave (responseChannel 2048 m.slave.hcd).ep ∧
        m.slave.hcd.epPool epx = nextEp .slave (responseChannel 2048 m.slave.hcd).ep ∧
        hasBits (m.slave.hcd.memory.word epxBufCtrl) bufCtrlStall = true :=
    Machine.exists_run_of_any (by decide +kernel)
  have hmode : SpiRole.slave = .master → DeviceMode (responseChannel 2048 m.slave.hcd).memory :=
    nofun
  have hsame : (nextMemory .slave (responseChannel 2048 m.slave.hcd)).word epxBufCtrl =
      m.slave.hcd.memory.word epxBufCtrl := by
    rw [nextMemory_word .slave hbuffer, hword]
  refine ⟨m, _, hrun, startNextBuffer_receives hmode hrx, hsame, hep.symm, hstall,
    fun hgood => ?_⟩
  have hclear := hgood.stall
  rw [hsame, hstall] at hclear
  cases hclear

end UsbSec.System
