import UsbSec.Rp2040.Dcd

/-!
# The host controller driver

After `lib/rp2040/hcd_rp2040.c`: the endpoint pool of the slave, and the functions that open
endpoints and start transfers towards the device. The interrupt handler calls back into the event
handlers and follows in `Host/Irq.lean`.

One set of registers, EPX, serves every transfer that the slave starts. Slot 0 of the pool, `epx`,
is the endpoint of control transfers; a bulk endpoint has another slot but the same registers.
-/

namespace UsbSec.Rp2040

open Library Usb

/-! ## Registers in host mode -/

def sieCtrlStartTrans : BitVec 32 := 0x1#32
def sieCtrlSendSetup : BitVec 32 := 0x2#32
def sieCtrlSendData : BitVec 32 := 0x4#32
def sieCtrlReceiveData : BitVec 32 := 0x8#32
def sieCtrlPreambleEn : BitVec 32 := 0x40#32
def sieCtrlResetBus : BitVec 32 := 0x2000#32

/-- `SIE_CTRL_BASE`. -/
def sieCtrlBase : BitVec 32 := 0x20008600#32

/-- `USB_ADDR_ENDP1_INTEP_PREAMBLE_BITS`. -/
def intepPreamble : BitVec 32 := 0x4000000#32

/-- `&usbh_dpram->epx_buf_ctrl`. -/
def epxBufCtrl : Nat := 0x80

/-- `&usbh_dpram->epx_ctrl`. -/
def epxCtrl : Nat := 0x100

/-- `&usbh_dpram->int_ep_buffer_ctrl[num].ctrl`. -/
def intEpBufferCtrl (num : Nat) : Nat := 0x88 + 8 * num

/-- `&usbh_dpram->int_ep_ctrl[num].ctrl`. -/
def intEpCtrl (num : Nat) : Nat := 0x08 + 8 * num

/-- `PICO_USB_HOST_INTERRUPT_ENDPOINTS`. -/
def hostInterruptEndpoints : Nat := 15

/-- The statics of `hcd_rp2040.c` and the registers of the controller in host mode. -/
structure Hcd where
  epPool : Nat → HwEndpoint
  activeEp : Option Nat
  memory : Memory
  setupPacket : Buffer
  sieCtrl : BitVec 32
  devAddrCtrl : BitVec 32
  intEpAddrCtrl : Nat → BitVec 32
  intEpCtrl : BitVec 32
  devSpeed : UInt8
  bufStatus : BitVec 32
  transComplete : Bool

/-- A program of the host controller driver. -/
abbrev HcdM (α : Type) := Program Halt Hcd α

/-- The slot of `epx` in the pool. -/
def epx : Nat := 0

/-- Run the transfer engine on one slot of the pool. -/
def onSlot {α : Type} (slot : Nat) (engine : Engine α) : HcdM α :=
  Program.onPart (fun h => ⟨h.epPool slot, h.memory⟩)
    (fun c h => { h with epPool := Function.update h.epPool slot c.ep, memory := c.memory }) engine

/-! ## The endpoint pool -/

/-- The slots behind `epx`, in the order in which they are searched. -/
def interruptSlots : List Nat := (List.range hostInterruptEndpoints).map (· + 1)

/-- `get_dev_ep`: the slot of an endpoint, when there is one. -/
def getDevEp (h : Hcd) (epAddr : UInt8) : Option Nat :=
  if tuEdptNumber epAddr = 0 then some epx
  else interruptSlots.find? fun i => (h.epPool i).configured && (h.epPool i).epAddr == epAddr

/-- `need_pre`. -/
def needPre (h : Hcd) : Bool := h.devSpeed == 1

/-- `_next_free_interrupt_ep`. When every slot is configured the search ends on the last one,
whose `interrupt_num` it leaves as it is. -/
def nextFreeInterruptEp : HcdM Nat := do
  let h ← Program.read
  match interruptSlots.find? fun i => !(h.epPool i).configured with
  | some i => do
      onSlot i (setEp fun ep => { ep with interruptNum := UInt8.ofNat (i - 1) })
      pure i
  | none => pure hostInterruptEndpoints

/-- The fields of an endpoint that is given the registers of an interrupt endpoint. -/
def HwEndpoint.onInterruptRegisters (num : Nat) (ep : HwEndpoint) : HwEndpoint :=
  { ep with bufferControl := some (intEpBufferCtrl num), endpointControl := some (intEpCtrl num)
            hwDataBuf := some (epxDataOffset + 64 * (num + 2)) }

/-- The fields of an endpoint that is given the EPX registers. -/
def HwEndpoint.onEpxRegisters (ep : HwEndpoint) : HwEndpoint :=
  { ep with interruptNum := 255, bufferControl := some epxBufCtrl
            endpointControl := some epxCtrl, hwDataBuf := some epxDataOffset }

/-- `_hw_endpoint_allocate`: give a slot its registers. -/
def hwEndpointAllocate (transferType epAddr : UInt8) : HcdM Nat :=
  if transferType = xferInterrupt then do
    let slot ← nextFreeInterruptEp
    let h ← Program.read
    let num := (h.epPool slot).interruptNum.toNat
    defined (num < hostInterruptEndpoints)
    onSlot slot (setEp (HwEndpoint.onInterruptRegisters num))
    pure slot
  else do
    let slot ← if epAddr = 0 then pure epx else nextFreeInterruptEp
    onSlot slot (setEp HwEndpoint.onEpxRegisters)
    pure slot

/-- The endpoint control word for an endpoint of the given type, buffer and polling interval. -/
def hostEndpointReg (transferType : UInt8) (dpramOffset : Nat) (bmInterval : UInt8) : BitVec 32 :=
  endpointReg transferType dpramOffset ||| epCtrlInterruptPerBuffer |||
    if bmInterval ≠ 0 then (bmInterval - 1).toBitVec.setWidth 32 <<< 16 else 0

/-- The part of `_hw_endpoint_init` for endpoints that the controller polls by itself. -/
def enablePolling (slot : Nat) (devAddr epAddr : UInt8) : HcdM Unit := do
  runtimeAssert (tuEdptDirIn epAddr = true)
  let h ← Program.read
  let num := (h.epPool slot).interruptNum.toNat
  defined (num < hostInterruptEndpoints)
  let reg := devAddr.toBitVec.setWidth 32 ||| (tuEdptNumber epAddr).toBitVec.setWidth 32 <<< 16
  let reg := if needPre h then reg ||| intepPreamble else reg
  Program.update fun h =>
    { h with intEpAddrCtrl := Function.update h.intEpAddrCtrl num reg
             intEpCtrl := h.intEpCtrl ||| (1#32 <<< (num + 1)) }

/-- The fields that `_hw_endpoint_init` fills in. A response to a setup packet starts with the
PID of DATA1. -/
def HwEndpoint.initialised (devAddr epAddr : UInt8) (wMaxPacketSize : UInt16)
    (transferType : UInt8) (ep : HwEndpoint) : HwEndpoint :=
  { ep with epAddr := epAddr, devAddr := devAddr, rx := tuEdptDirIn epAddr
            nextPid := if tuEdptNumber epAddr = 0 then 1 else 0
            wMaxPacketSize := wMaxPacketSize, transferType := transferType }

/-- `_hw_endpoint_init`. -/
def hostEndpointInit (slot : Nat) (devAddr epAddr : UInt8) (wMaxPacketSize : UInt16)
    (transferType bmInterval : UInt8) : HcdM Unit := do
  let h ← Program.read
  let ep := h.epPool slot
  runtimeAssert (ep.endpointControl ≠ none)
  runtimeAssert (ep.bufferControl ≠ none)
  runtimeAssert (ep.hwDataBuf ≠ none)
  onSlot slot (setEp (HwEndpoint.initialised devAddr epAddr wMaxPacketSize transferType))
  let dpramOffset := hwDataOffset (ep.hwDataBuf.getD 0)
  runtimeAssert (dpramOffset % 64 = 0)
  let reg := hostEndpointReg transferType dpramOffset bmInterval
  Program.update fun h => { h with memory := h.memory.writeWord ep.endpointControl reg }
  onSlot slot (setEp fun ep => { ep with configured := true })
  Program.when (bmInterval ≠ 0) (enablePolling slot devAddr epAddr)

/-! ## Opening endpoints and starting transfers -/

/-- `hcd_edpt_open`. -/
def hcdEdptOpen (desc : EndpointPointer) (devAddr : UInt8) : HcdM Unit := do
  let slot ← hwEndpointAllocate desc.xfer desc.bEndpointAddress
  hostEndpointInit slot devAddr desc.bEndpointAddress desc.maxPacketSize desc.xfer desc.bInterval

/-- The preamble bit for a low-speed device. -/
def preambleBits (h : Hcd) : BitVec 32 := if needPre h then sieCtrlPreambleEn else 0

/-- The word that starts a data transaction. -/
def startDataFlags (h : Hcd) (epAddr : UInt8) : BitVec 32 :=
  sieCtrlStartTrans ||| sieCtrlBase |||
    (if tuEdptDirIn epAddr then sieCtrlReceiveData else sieCtrlSendData) ||| preambleBits h

/-- `hcd_edpt_xfer`. The transaction is started on the EPX registers whichever registers the
endpoint has. -/
def hcdEdptXfer (devAddr epAddr : UInt8) (buffer : UserBuf) (buflen : UInt16) : HcdM Unit := do
  let h ← Program.read
  match getDevEp h epAddr with
  | none => Program.stop .assertion
  | some slot => do
      Program.update fun h => { h with activeEp := some slot }
      let ep := h.epPool slot
      Program.when (epAddr ≠ ep.epAddr)
        (hostEndpointInit slot devAddr epAddr ep.wMaxPacketSize ep.transferType 0)
      onSlot slot (hwEndpointXferStart .slave buffer buflen)
      let addrEndp := devAddr.toBitVec.setWidth 32 |||
        (tuEdptNumber epAddr).toBitVec.setWidth 32 <<< 16
      Program.update fun h =>
        { h with devAddrCtrl := addrEndp, sieCtrl := startDataFlags h epAddr }

/-- The word that sends a setup packet. -/
def sendSetupFlags (h : Hcd) : BitVec 32 :=
  sieCtrlBase ||| sieCtrlSendSetup ||| sieCtrlStartTrans ||| preambleBits h

/-- `hcd_setup_send`. The number of bytes transferred before is left in the endpoint. -/
def hcdSetupSend (devAddr : UInt8) (setupPacket : List UInt8) : HcdM Unit := do
  Program.update fun h => { h with setupPacket := h.setupPacket.writeAt 0 setupPacket }
  let slot ← hwEndpointAllocate 0 0
  let h ← Program.read
  hostEndpointInit slot devAddr 0x00 (h.epPool slot).wMaxPacketSize 0 0
  Program.update fun h => { h with activeEp := some slot }
  onSlot slot (setEp fun ep => { ep with remainingLen := 8, active := true })
  Program.update fun h =>
    { h with devAddrCtrl := devAddr.toBitVec.setWidth 32, sieCtrl := sendSetupFlags h }

/-- `change_epx_packetsize`. -/
def changeEpxPacketsize (bMaxPacketSize0 : UInt8) : HcdM Unit :=
  onSlot epx (setEp fun ep => { ep with wMaxPacketSize := bMaxPacketSize0.toUInt16 })

/-- The controller and the pool after `hcd_init`. -/
def Hcd.init (romWord : BitVec 32) : Hcd where
  epPool := fun _ => .zero
  activeEp := none
  memory :=
    { word := fun _ => 0, data := fun _ => 0, bugger := fun _ => 0, reserveBugger := fun _ => 0
      object := fun _ => 0, mainCtrl := mainCtrlControllerEn ||| mainCtrlHostNdevice
      romWord := romWord }
  setupPacket := fun _ => 0
  sieCtrl := sieCtrlBase
  devAddrCtrl := 0
  intEpAddrCtrl := fun _ => 0
  intEpCtrl := 0
  devSpeed := 0
  bufStatus := 0
  transComplete := false

end UsbSec.Rp2040
