import Mathlib.Algebra.Group.Nat.Defs
import UsbSec.Library.Buffer

/-!
# USB requests and descriptors

The layouts of `tusb_types.h` that the firmware reads: the setup packet, the interface descriptor
and the endpoint descriptor. An endpoint descriptor stays a pointer into its buffer, because the
firmware reads some of its fields and forwards `bLength` bytes of whatever lies there.
-/

namespace UsbSec.Usb

open Library

/-- A little-endian 16-bit word. -/
def le16 (low high : UInt8) : UInt16 := low.toUInt16 ||| (high.toUInt16 <<< 8)

/-- A word is what its two bytes say. -/
theorem le16_toUInt8 (word : UInt16) : le16 word.toUInt8 (word >>> 8).toUInt8 = word := by
  have hword := word.toNat_lt
  have hlow : word.toNat % 256 < 2 ^ 8 := Nat.mod_lt _ (by decide)
  have hhigh : word.toNat / 256 < 256 := by omega
  apply UInt16.toNat_inj.mp
  unfold le16
  rw [UInt16.toNat_or, UInt16.toNat_shiftLeft]
  have hbytes : word.toUInt8.toUInt16.toNat = word.toNat % 256 := by simp
  have hshift : (word >>> 8).toUInt8.toUInt16.toNat = word.toNat / 256 % 256 := by
    simp [Nat.shiftRight_eq_div_pow]
  rw [hbytes, hshift]
  show word.toNat % 256 ||| (word.toNat / 256 % 256) <<< 8 % 2 ^ 16 = _
  rw [Nat.mod_eq_of_lt hhigh, Nat.or_comm, Nat.mod_eq_of_lt (by rw [Nat.shiftLeft_eq]; omega),
    ← Nat.shiftLeft_add_eq_or_of_lt hlow, Nat.shiftLeft_eq]
  omega

/-- `tusb_control_request_t`. -/
structure ControlRequest where
  bmRequestType : UInt8
  bRequest : UInt8
  wValue : UInt16
  wIndex : UInt16
  wLength : UInt16
  deriving DecidableEq, Repr

namespace ControlRequest

/-- The request laid out in the first eight bytes of a buffer. -/
def ofBuffer (bytes : Buffer) : ControlRequest where
  bmRequestType := bytes 0
  bRequest := bytes 1
  wValue := le16 (bytes 2) (bytes 3)
  wIndex := le16 (bytes 4) (bytes 5)
  wLength := le16 (bytes 6) (bytes 7)

/-- The eight bytes of the request. -/
def toBytes (request : ControlRequest) : List UInt8 :=
  [request.bmRequestType, request.bRequest,
    request.wValue.toUInt8, (request.wValue >>> 8).toUInt8,
    request.wIndex.toUInt8, (request.wIndex >>> 8).toUInt8,
    request.wLength.toUInt8, (request.wLength >>> 8).toUInt8]

theorem length_toBytes (request : ControlRequest) : request.toBytes.length = 8 := rfl

theorem toBytes_lt (request : ControlRequest) : request.toBytes.length < 2 ^ 16 := by
  rw [length_toBytes]
  decide

/-- The bytes of a request are read back as the request. -/
theorem ofBuffer_toBytes (request : ControlRequest) :
    ofBuffer (fun i => request.toBytes.getD i 0) = request := by
  cases request
  simp [ofBuffer, toBytes, le16_toUInt8]

/-- `bmRequestType_bit.recipient`. -/
def recipient (request : ControlRequest) : UInt8 := request.bmRequestType &&& 0x1f

/-- `bmRequestType_bit.type`. -/
def type (request : ControlRequest) : UInt8 := (request.bmRequestType >>> 5) &&& 0x3

/-- `bmRequestType_bit.direction`. -/
def direction (request : ControlRequest) : UInt8 := request.bmRequestType >>> 7

end ControlRequest

/-- `tusb_desc_interface_t`. -/
structure InterfaceDescriptor where
  bLength : UInt8
  bDescriptorType : UInt8
  bInterfaceNumber : UInt8
  bAlternateSetting : UInt8
  bNumEndpoints : UInt8
  bInterfaceClass : UInt8
  bInterfaceSubClass : UInt8
  bInterfaceProtocol : UInt8
  iInterface : UInt8
  deriving DecidableEq, Repr

/-- The interface descriptor at index `pos` of a buffer. -/
def InterfaceDescriptor.ofBuffer (bytes : Buffer) (pos : Nat) : InterfaceDescriptor where
  bLength := bytes pos
  bDescriptorType := bytes (pos + 1)
  bInterfaceNumber := bytes (pos + 2)
  bAlternateSetting := bytes (pos + 3)
  bNumEndpoints := bytes (pos + 4)
  bInterfaceClass := bytes (pos + 5)
  bInterfaceSubClass := bytes (pos + 6)
  bInterfaceProtocol := bytes (pos + 7)
  iInterface := bytes (pos + 8)

/-- A pointer to a `tusb_desc_endpoint_t`. -/
structure EndpointPointer where
  bytes : Buffer
  pos : Nat

namespace EndpointPointer

def bLength (desc : EndpointPointer) : UInt8 := desc.bytes desc.pos

def bEndpointAddress (desc : EndpointPointer) : UInt8 := desc.bytes (desc.pos + 2)

/-- `bmAttributes.xfer`. -/
def xfer (desc : EndpointPointer) : UInt8 := desc.bytes (desc.pos + 3) &&& 0x3

/-- `wMaxPacketSize.size`: the low eleven bits. -/
def maxPacketSize (desc : EndpointPointer) : UInt16 :=
  le16 (desc.bytes (desc.pos + 4)) (desc.bytes (desc.pos + 5)) &&& 0x7ff

def bInterval (desc : EndpointPointer) : UInt8 := desc.bytes (desc.pos + 6)

end EndpointPointer

/-- `TUSB_XFER_BULK`. -/
def xferBulk : UInt8 := 2

/-- `TUSB_XFER_INTERRUPT`. -/
def xferInterrupt : UInt8 := 3

/-- A statement about bytes that holds of the 256 of them. -/
theorem forall_byte (P : UInt8 → Prop) (h : ∀ n < 256, P (UInt8.ofNat n)) (byte : UInt8) :
    P byte := by
  have hbyte := h byte.toNat byte.toNat_lt
  rwa [UInt8.ofNat_toNat] at hbyte

/-- `tu_edpt_number`. -/
def tuEdptNumber (address : UInt8) : UInt8 := address &&& 0x7f

/-- `tu_edpt_dir(address) == TUSB_DIR_IN`. -/
def tuEdptDirIn (address : UInt8) : Bool := address &&& 0x80 != 0

/-- `tu_min16`. -/
def tuMin16 (first second : UInt16) : UInt16 := if first < second then first else second

/-- A data packet: at most 1023 bytes, the most a full-speed bus carries and the length field of
a buffer control word holds. -/
structure Packet where
  bytes : List UInt8
  bounded : bytes.length ≤ 1023

end UsbSec.Usb
