import UsbSec.Rp2040.Endpoint

/-!
# The device controller driver

After `lib/rp2040/dcd_rp2040.c`: the endpoint table of the master, the allocator of DPRAM buffers,
and the functions that start transfers towards the host. The interrupt handler calls back into
the event handlers and follows in `Device/Irq.lean`.

Pointers into the DPRAM are offsets from its base. `hw_endpoints` is indexed by endpoint number
and direction, with `true` for IN.
-/

namespace UsbSec.Rp2040

open Library Usb

/-- `USB_MAX_ENDPOINTS`. -/
def usbMaxEndpoints : Nat := 16

/-- `usb_dpram`, the base address of the DPRAM. -/
def usbDpram : Nat := 0x50100000

/-- `hw_data_offset` of the pointer at an offset from the base. -/
def hwDataOffset (offset : Nat) : Nat := (usbDpram + offset) ^^^ usbDpram

/-- `&usb_dpram->ep_buf_ctrl[num]`, `.in` or `.out`. -/
def epBufCtrl (num : Nat) (dirIn : Bool) : Nat := 0x80 + 8 * num + if dirIn then 0 else 4

/-- `&usb_dpram->ep_ctrl[index]`, `.in` or `.out`. -/
def epCtrl (index : Nat) (dirIn : Bool) : Nat := 0x08 + 8 * index + if dirIn then 0 else 4

/-- The offset of `ep0_buf_a`. -/
def ep0BufA : Nat := 0x100

/-- The statics of `dcd_rp2040.c` and the registers of the controller in device mode. -/
structure Dcd where
  hwEndpoints : Nat → Bool → HwEndpoint
  nextBufferPtr : Nat
  memory : Memory
  setupPacket : Buffer
  devAddrCtrl : BitVec 32
  bufStatus : BitVec 32

/-- A program of the device controller driver. -/
abbrev DcdM (α : Type) := Program Halt Dcd α

/-- Store an endpoint in the table. -/
def Dcd.setEndpoint (dcd : Dcd) (num : Nat) (dirIn : Bool) (ep : HwEndpoint) : Dcd :=
  { dcd with
    hwEndpoints := Function.update dcd.hwEndpoints num
      (Function.update (dcd.hwEndpoints num) dirIn ep) }

/-- Run the transfer engine on one endpoint of the table. -/
def withEndpoint {α : Type} (num : Nat) (dirIn : Bool) (engine : Engine α) : DcdM α :=
  Program.onPart (fun d => ⟨d.hwEndpoints num dirIn, d.memory⟩)
    (fun c d => { d.setEndpoint num dirIn c.ep with memory := c.memory }) engine

/-- `hw_endpoint_get_by_addr`. The code does not test the number. Past the end of the table C leaves
the access undefined, and the model ends its run there. -/
def hwEndpointGetByAddr (epAddr : UInt8) : DcdM (Nat × Bool) := do
  defined ((tuEdptNumber epAddr).toNat < usbMaxEndpoints)
  pure ((tuEdptNumber epAddr).toNat, tuEdptDirIn epAddr)

/-- The DPRAM that `_hw_endpoint_alloc` reserves: the packet size rounded up to 64 bytes, twice
for a bulk endpoint, in 16-bit arithmetic. -/
def allocSize (wMaxPacketSize : UInt16) (transferType : UInt8) : UInt16 :=
  let size := UInt16.ofNat ((wMaxPacketSize.toNat + 63) / 64 * 64)
  if transferType = xferBulk then size * 2 else size

/-- The endpoint control word for an endpoint of the given type and buffer. -/
def endpointReg (transferType : UInt8) (dpramOffset : Nat) : BitVec 32 :=
  epCtrlEnable ||| (transferType.toBitVec.setWidth 32 <<< 26) ||| BitVec.ofNat 32 dpramOffset

/-- `_hw_endpoint_alloc`. -/
def hwEndpointAlloc (num : Nat) (dirIn : Bool) (transferType : UInt8) : DcdM Unit := do
  let d ← Program.read
  let buffer := d.nextBufferPtr
  let size := allocSize (d.hwEndpoints num dirIn).wMaxPacketSize transferType
  -- The endpoint has its buffer before the assertions look at the end of it.
  withEndpoint num dirIn (setEp fun ep => { ep with hwDataBuf := some buffer })
  Program.update fun d => { d with nextBufferPtr := buffer + size.toNat }
  runtimeAssert ((usbDpram + (buffer + size.toNat)) % 64 = 0)
  runtimeAssert (hwDataOffset (buffer + size.toNat) ≤ usbDpramMax)
  Program.update fun d =>
    let control := (d.hwEndpoints num dirIn).endpointControl
    let reg := endpointReg transferType (hwDataOffset buffer)
    { d with memory := d.memory.writeWord control reg }

/-- `hw_endpoint_init`. -/
def hwEndpointInit (epAddr : UInt8) (wMaxPacketSize : UInt16) (transferType : UInt8) :
    DcdM Unit := do
  let (num, dirIn) ← hwEndpointGetByAddr epAddr
  withEndpoint num dirIn <| setEp fun ep =>
    { ep with epAddr := epAddr, rx := !dirIn, nextPid := 0, wMaxPacketSize := wMaxPacketSize,
              transferType := transferType, bufferControl := some (epBufCtrl num dirIn) }
  Program.update fun d => { d with memory := d.memory.writeWord (some (epBufCtrl num dirIn)) 0 }
  if num = 0 then
    withEndpoint num dirIn <| setEp fun ep =>
      { ep with endpointControl := none, hwDataBuf := some ep0BufA }
  else do
    withEndpoint num dirIn <| setEp fun ep =>
      { ep with endpointControl := some (epCtrl (num - 1) dirIn) }
    hwEndpointAlloc num dirIn transferType

/-- `reset_ep0_pid`. -/
def resetEp0Pid : DcdM Unit := do
  withEndpoint 0 false (setEp fun ep => { ep with nextPid := 1 })
  withEndpoint 0 true (setEp fun ep => { ep with nextPid := 1 })

/-- `reset_non_control_endpoints`. -/
def resetNonControlEndpoints : DcdM Unit :=
  Program.update fun d =>
    { d with
      memory := { d.memory with word := fun offset =>
        if 0x08 ≤ offset ∧ offset < 0x80 then 0 else d.memory.word offset }
      hwEndpoints := fun num dirIn =>
        if 1 ≤ num ∧ num < usbMaxEndpoints then .zero else d.hwEndpoints num dirIn
      nextBufferPtr := epxDataOffset }

/-- `dcd_edpt0_status_complete`, on the request that lies in the DPRAM. -/
def dcdEdpt0StatusComplete (request : ControlRequest) : DcdM Unit :=
  if request.recipient = 0 ∧ request.type = 0 ∧ request.bRequest = 5 then
    Program.update fun d => { d with devAddrCtrl := request.wValue.toUInt8.toBitVec.setWidth 32 }
  else pure ()

/-- `dcd_edpt_open_new`. -/
def dcdEdptOpenNew (desc : EndpointPointer) : DcdM Unit :=
  hwEndpointInit desc.bEndpointAddress desc.maxPacketSize desc.xfer

/-- `dcd_edpt_xfer_new`. -/
def dcdEdptXferNew (epAddr : UInt8) (buffer : UserBuf) (totalBytes : UInt16) : DcdM Unit := do
  let (num, dirIn) ← hwEndpointGetByAddr epAddr
  withEndpoint num dirIn (hwEndpointXferStart .master buffer totalBytes)

/-- `dcd_edpt_xfer_partial`. -/
def dcdEdptXferPartial (epAddr : UInt8) (buffer : UserBuf) (totalBytes : UInt16) :
    DcdM Unit := do
  let (num, dirIn) ← hwEndpointGetByAddr epAddr
  withEndpoint num dirIn (hwEndpointXferPartial .master buffer totalBytes)

/-- The controller and the table before `dcd_init_new` sets up endpoint 0. `rp2040_usb_init`
clears the DPRAM. -/
def Dcd.cleared (romWord : BitVec 32) : Dcd where
  hwEndpoints := fun _ _ => .zero
  nextBufferPtr := epxDataOffset
  memory :=
    { word := fun _ => 0, data := fun _ => 0, bugger := fun _ => 0, reserveBugger := fun _ => 0
      object := fun _ => 0, mainCtrl := mainCtrlControllerEn, romWord := romWord }
  setupPacket := fun _ => 0
  devAddrCtrl := 0
  bufStatus := 0

/-- `dcd_init_new`: set up endpoint 0 in both directions and clear the others. -/
def dcdInitNew : DcdM Unit := do
  hwEndpointInit 0x00 64 0
  hwEndpointInit 0x80 64 0
  resetNonControlEndpoints

end UsbSec.Rp2040
