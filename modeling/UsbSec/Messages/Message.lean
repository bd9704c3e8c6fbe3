import Mathlib.Algebra.Group.Nat.Defs
import UsbSec.Library.Buffer
import UsbSec.Library.Fifo

/-!
# Messages between the two microcontrollers

After `lib/messages/messages.h` and `lib/messages/masterslave.h`: the two roles, the flag bits of
`msg_type`, and `spi_message_t`. A message is modelled as it lies in a queue, where
`queue_add_with_copy` has put a copy of its payload: the flag word and the payload bytes, whose
number fits the 16-bit `payload_length`.
-/

namespace UsbSec

open Library

/-- The role of a microcontroller, fixed when the firmware is built. -/
inductive SpiRole where
  | master
  | slave
  deriving DecidableEq, Repr

/-- `SPI_QUEUE_MAX_CAPACITY`. -/
def spiQueueMaxCapacity : Nat := 20

namespace MsgType

def usbData : UInt16 := 0x1
def setupData : UInt16 := 0x2
def resetUsb : UInt16 := 0x4
def edptOpen : UInt16 := 0x8
def slaveDataQuery : UInt16 := 0x10
def chgAddr : UInt16 := 0x20
def chgEpxPacketsize : UInt16 := 0x40
def isPacket : UInt16 := 0x0100
def firstPacket : UInt16 := 0x0200
def lastPacket : UInt16 := 0x0400
def debugPrintAsString : UInt16 := 0x4000
def debugPrintAsHex : UInt16 := 0x8000

end MsgType

/-- The bit test `flag & bits` of C. -/
def hasFlag (flag bits : UInt16) : Prop := flag &&& bits ≠ 0

instance (flag bits : UInt16) : Decidable (hasFlag flag bits) :=
  inferInstanceAs (Decidable (_ ≠ _))

theorem hasFlag_or (first second bits : UInt16) :
    hasFlag (first ||| second) bits ↔ hasFlag first bits ∨ hasFlag second bits := by
  have hand : (first ||| second) &&& bits = (first &&& bits) ||| (second &&& bits) := by
    apply UInt16.toBitVec_inj.mp
    ext i hi
    simp [Bool.and_or_distrib_right]
  unfold hasFlag
  rw [hand, ne_eq, UInt16.or_eq_zero_iff]
  by_cases hfirst : first &&& bits = 0 <;> simp [hfirst]

/-- `spi_message_t` in a queue: its flag and its own copy of the payload. -/
structure SpiMessage where
  eFlag : UInt16
  payload : List UInt8
  payload_lt : payload.length < 2 ^ 16
  deriving DecidableEq

namespace SpiMessage

@[ext] theorem ext {first second : SpiMessage} (hflag : first.eFlag = second.eFlag)
    (hpayload : first.payload = second.payload) : first = second := by
  cases first
  cases second
  cases hflag
  cases hpayload
  rfl

/-- The message `queue_add_with_copy` puts into a queue: a copy of `payloadLength` bytes. -/
def copyOf (eFlag : UInt16) (source : Buffer) (start : Nat) (payloadLength : UInt16) :
    SpiMessage where
  eFlag := eFlag
  payload := source.bytesAt start payloadLength.toNat
  payload_lt := by
    rw [Buffer.length_bytesAt]
    exact payloadLength.toNat_lt

theorem nil_lt : ([] : List UInt8).length < 2 ^ 16 := by decide

theorem single_lt (byte : UInt8) : [byte].length < 2 ^ 16 := by
  rw [List.length_singleton]
  decide

theorem zeros_lt (len last : UInt8) : (List.replicate len.toNat 0 ++ [last]).length < 2 ^ 16 := by
  have hlen := len.toNat_lt
  rw [List.length_append, List.length_replicate, List.length_singleton]
  omega

/-- A message without payload. -/
def bare (eFlag : UInt16) : SpiMessage := ⟨eFlag, [], nil_lt⟩

@[simp] theorem copyOf_payload (eFlag : UInt16) (source : Buffer) (start : Nat)
    (payloadLength : UInt16) :
    (copyOf eFlag source start payloadLength).payload =
      source.bytesAt start payloadLength.toNat := rfl

@[simp] theorem copyOf_eFlag (eFlag : UInt16) (source : Buffer) (start : Nat)
    (payloadLength : UInt16) : (copyOf eFlag source start payloadLength).eFlag = eFlag := rfl

end SpiMessage

/-- `tx` or `rx`: a queue of messages with blocking addition. -/
abbrev SpiQueue := Fifo SpiMessage spiQueueMaxCapacity

end UsbSec
