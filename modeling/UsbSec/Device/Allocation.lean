import UsbSec.Device.DescriptorWalk

/-!
# The allocation pointer of the master

Only opening an endpoint and a bus reset move the pointer to the next buffer in the DPRAM. In every
reachable state it points into the DPRAM, to a multiple of 64, so whether the buffers of a
configuration fit is a matter of their sizes alone.
-/

namespace UsbSec.Device

open Library Usb Rp2040

/-! ## What the walk begins with -/

/-- The allocation pointer and the setup packet in the DPRAM. -/
def allocation (d : Dcd) : Nat × Buffer := (d.nextBufferPtr, d.setupPacket)

def Master.allocation (s : Master) : Nat × Buffer := Device.allocation s.dcd

/-- The allocation pointer and the setup packet in the DPRAM are the same. -/
abbrev SameAllocation : Master → Master → Prop := Program.Same Master.allocation

theorem withEndpoint_allocation {α : Type} (num : Nat) (dirIn : Bool) (engine : Engine α) :
    Program.Moves (Program.Same allocation) (withEndpoint num dirIn engine) :=
  Program.Moves.onPart fun _ _ => rfl

theorem dcdEdptXferNew_allocation (epAddr : UInt8) (buffer : UserBuf) (totalBytes : UInt16) :
    Program.Moves (Program.Same allocation) (dcdEdptXferNew epAddr buffer totalBytes) :=
  .bind (.bind (.require _ _) fun _ => .pure _) fun _ => withEndpoint_allocation _ _ _

theorem dcdEdptXferPartial_allocation (epAddr : UInt8) (buffer : UserBuf) (totalBytes : UInt16) :
    Program.Moves (Program.Same allocation) (dcdEdptXferPartial epAddr buffer totalBytes) :=
  .bind (.bind (.require _ _) fun _ => .pure _) fun _ => withEndpoint_allocation _ _ _

theorem onDcd_allocation {α : Type} {program : DcdM α}
    (h : Program.Moves (Program.Same allocation) program) :
    Program.Moves SameAllocation (onDcd program) :=
  Program.Moves.onPart_of h fun _ _ hsame => hsame

theorem update_allocation {change : Master → Master}
    (h : ∀ s, (change s).allocation = s.allocation) :
    Program.Moves SameAllocation (Program.update change : MasterM Unit) :=
  Program.Moves.update h

theorem mscSpi_allocation (message : SlavePacket) (edpt : UInt8) :
    Program.Moves SameAllocation (mscSpi message edpt) := by
  refine .bind (update_allocation fun _ => rfl) fun _ => .ite (.bind .read fun s => ?_) ?_
  · refine .bind (update_allocation fun _ => rfl) fun _ => ?_
    exact onDcd_allocation (dcdEdptXferNew_allocation _ _ _)
  · refine .bind (update_allocation fun _ => rfl) fun _ => ?_
    exact onDcd_allocation (dcdEdptXferPartial_allocation _ _ _)

theorem handleSpiSlaveEventWithDriver_allocation (message : SlavePacket) (edpt : UInt8) :
    Program.Moves SameAllocation (handleSpiSlaveEventWithDriver message edpt) := by
  refine .bind .read fun s => .bind (.require _ _) fun _ => .bind (.when (.stop _)) fun _ => ?_
  cases s.drivers.edptDriver (idx edpt).toNat with
  | illegal => exact .stop _
  | massStorage => exact mscSpi_allocation message edpt
  | hid =>
      refine .bind (update_allocation fun _ => rfl) fun _ => ?_
      exact onDcd_allocation (dcdEdptXferNew_allocation _ _ _)

theorem handleDeviceXferCompleteWithDriver_allocation (edpt : UInt8) (xferredBytes : UInt16) :
    Program.Moves SameAllocation (handleDeviceXferCompleteWithDriver edpt xferredBytes) := by
  refine .bind .read fun s => .bind (.require _ _) fun _ => ?_
  cases s.drivers.edptDriver (idx edpt).toNat with
  | illegal => exact .stop _
  | hid => exact .bind .read fun s => update_allocation fun _ => rfl
  | massStorage =>
      refine .bind .read fun s => .ite ?_ (.when (update_allocation fun _ => rfl))
      refine .bind (update_allocation fun _ => rfl) fun _ => .bind (.require _ _) fun _ => ?_
      refine .bind (update_allocation fun _ => rfl) fun _ => .bind .read fun t => ?_
      exact update_allocation fun _ => rfl

theorem dcdEventXferCompleteNew_allocation (epAddr : UInt8) (xferredBytes : UInt16) :
    Program.Moves SameAllocation (dcdEventXferCompleteNew epAddr xferredBytes) := by
  refine .bind .read fun s => .ite (onDcd_allocation ?_) (.ite (.pure _) ?_)
  · exact .ite (.update fun _ => rfl) (.pure _)
  · exact handleDeviceXferCompleteWithDriver_allocation _ _

theorem hwHandleBuffStatusBit_allocation (i : Nat) :
    Program.Moves SameAllocation (hwHandleBuffStatusBit i) := by
  refine .bind (update_allocation fun _ => rfl) fun _ => ?_
  refine .bind (.bind (update_allocation fun _ => rfl) fun _ =>
    onDcd_allocation (withEndpoint_allocation _ _ _)) fun done => .when ?_
  refine .bind .read fun s => .bind (dcdEventXferCompleteNew_allocation _ _) fun _ => ?_
  exact onDcd_allocation (withEndpoint_allocation _ _ _)

theorem dcdEventSetupReceivedNew_allocation (pSetup : Buffer) :
    Program.Moves SameAllocation (dcdEventSetupReceivedNew pSetup) := by
  refine .bind (update_allocation fun _ => rfl) fun _ => .bind (update_allocation fun _ => rfl) ?_
  intro _
  refine .ite (update_allocation fun _ => rfl) (.ite ?_ (.ite ?_ (update_allocation fun _ => rfl)))
  · exact onDcd_allocation (dcdEdptXferNew_allocation _ _ _)
  · exact onDcd_allocation (dcdEdptXferNew_allocation _ _ _)

theorem handleSetupReq_allocation : Program.Moves SameAllocation handleSetupReq := by
  refine .bind (onDcd_allocation ?_) fun _ => .bind .read fun s => ?_
  · exact .bind (withEndpoint_allocation _ _ _) fun _ => withEndpoint_allocation _ _ _
  · exact dcdEventSetupReceivedNew_allocation _

theorem registerResponse_allocation (message : SlavePacket) :
    Program.Moves SameAllocation (registerResponse message) := by
  refine .bind .read fun s => .bind (.require _ _) fun _ => ?_
  refine .bind (update_allocation fun _ => rfl) fun _ => ?_
  refine .bind (onDcd_allocation (dcdEdptXferNew_allocation _ _ _)) fun _ => ?_
  exact update_allocation fun _ => rfl

/-! ## The allocation pointer in reachable states -/

/-- The allocation pointer of the master is in the DPRAM. -/
def Master.InDpram (s : Master) : Prop := Device.InDpram s.dcd

theorem inDpram_of_sameAllocation {α : Type} {program : MasterM α}
    (h : Program.Moves SameAllocation program) :
    Program.Ends (Program.Keeps Master.InDpram) program := by
  intro s value t hrun hs
  have hpointer : t.dcd.nextBufferPtr = s.dcd.nextBufferPtr := congrArg Prod.fst (h.ok hrun)
  refine ⟨?_, ?_⟩
  · rw [hpointer]
    exact hs.aligned
  · rw [hpointer]
    exact hs.bounded

theorem bufferSize_bounds (edpt : EndpointPointer) :
    64 ∣ bufferSize edpt ∧ bufferSize edpt ≤ usbDpramMax := by
  unfold bufferSize
  split
  · exact ⟨Nat.dvd_zero _, Nat.zero_le _⟩
  · obtain ⟨haligned, -, hbound⟩ := allocSize_bounds (maxPacketSize_le edpt) edpt.xfer
    exact ⟨haligned, hbound⟩

theorem dcdEdptOpenNew_inDpram {desc : EndpointPointer} {d e : Dcd} (hd : InDpram d)
    (h : dcdEdptOpenNew desc d = .ok () e) : InDpram e := by
  obtain ⟨hopen, hnext, -⟩ := (dcdEdptOpenNew_outcome desc d).ok h
  obtain ⟨haligned, hbound⟩ := bufferSize_bounds desc
  refine ⟨?_, ?_⟩
  · rw [hnext]
    exact Nat.dvd_add hd.aligned haligned
  · rw [hnext]
    by_cases hzero : (tuEdptNumber desc.bEndpointAddress).toNat = 0
    · have hnone : bufferSize desc = 0 := if_pos hzero
      rw [hnone, Nat.add_zero]
      exact hd.bounded
    · exact (roomFor_iff hd.aligned hd.bounded haligned hbound).mp (hopen.2 hzero)

theorem openEndpoint_inDpram (arr : Buffer) (pos : Nat) (itf : Option Nat) :
    Program.Ends (Program.Keeps Master.InDpram) (openEndpoint arr pos itf) := by
  refine .bind (inDpram_of_sameAllocation (update_allocation fun _ => rfl)) fun _ => .bind ?_ ?_
  · intro s value t hrun hs
    obtain ⟨d, hd, rfl⟩ := Program.onPart_eq_ok hrun
    exact dcdEdptOpenNew_inDpram hs hd
  · intro _
    refine .read_bind fun s => .bind (inDpram_of_sameAllocation ?_) fun _ =>
      inDpram_of_sameAllocation (update_allocation fun _ => rfl)
    refine .bind (update_allocation fun _ => rfl) fun _ => ?_
    cases itf.map (InterfaceDescriptor.ofBuffer arr) with
    | none => exact .stop _
    | some descriptor =>
        refine .bind (update_allocation fun _ => rfl) fun _ => .bind (.require _ _) fun _ => ?_
        refine .bind (update_allocation fun _ => rfl) fun _ =>
          .ite (update_allocation fun _ => rfl) (.ite ?_ (.stop _))
        refine .bind (update_allocation fun _ => rfl) fun _ =>
          .ite ?_ (update_allocation fun _ => rfl)
        exact onDcd_allocation (dcdEdptXferNew_allocation _ _ _)

theorem walk_inDpram (arr : Buffer) (len fuel pos : Nat) (itf : Option Nat) :
    Program.Ends (Program.Keeps Master.InDpram) (walk arr len fuel pos itf) := by
  induction fuel generalizing pos itf with
  | zero => exact .ite (.stop _) (Program.Moves.pure _).ends
  | succ fuel ih =>
      refine .ite ?_ (Program.Moves.pure _).ends
      exact .bind (.when (openEndpoint_inDpram _ _ _)) fun _ => ih _ _

theorem handleSetupData_inDpram (message : SlavePacket) :
    Program.Ends (Program.Keeps Master.InDpram) (handleSetupData message) := by
  have hquiet {change : Master → Master} (h : ∀ s, (change s).allocation = s.allocation) :
      Program.Ends (Program.Keeps Master.InDpram) (Program.update change : MasterM Unit) :=
    inDpram_of_sameAllocation (update_allocation h)
  refine .bind (inDpram_of_sameAllocation (registerResponse_allocation _)) fun _ => .when ?_
  refine .bind (.read_bind fun s => .bind (hquiet fun _ => rfl) fun _ => ?_) fun _ => ?_
  · refine .bind (.when ?_) fun _ => .ite (Program.Moves.pure _).ends ?_
    · exact .bind (hquiet fun _ => rfl) fun _ => .bind (hquiet fun _ => rfl) fun _ =>
        hquiet fun _ => rfl
    · refine .bind (.when (walk_inDpram _ _ _ _ _)) fun _ => .when (.read_bind fun s => ?_)
      exact hquiet fun _ => rfl
  · refine .bind (hquiet fun _ => rfl) fun _ => .read_bind fun s => .when ?_
    exact inDpram_of_sameAllocation (onDcd_allocation (dcdEdptXferNew_allocation _ _ _))

theorem handleSpiSlaveEvent_inDpram :
    Program.Ends (Program.Keeps Master.InDpram) handleSpiSlaveEvent := by
  have hquiet {change : Master → Master} (h : ∀ s, (change s).allocation = s.allocation) :
      Program.Ends (Program.Keeps Master.InDpram) (Program.update change : MasterM Unit) :=
    inDpram_of_sameAllocation (update_allocation h)
  refine .read_bind fun s => .ite ?_ ?_
  · exact .bind (.bind (hquiet fun _ => rfl) fun _ => (Program.Moves.pure _).ends) fun done =>
      .when (hquiet fun _ => rfl)
  · dsimp only
    cases (s.rx.dropWhile isString).remove with
    | none => exact hquiet fun _ => rfl
    | some taken =>
        refine .bind (hquiet fun _ => rfl) fun _ => ?_
        unfold handleMessage
        cases taken.1.payload.getLast? with
        | none => exact .stop _
        | some epAddr =>
            refine .bind (Program.Moves.require _ _).ends fun _ => .ite ?_ ?_
            · exact handleSetupData_inDpram _
            · exact inDpram_of_sameAllocation (handleSpiSlaveEventWithDriver_allocation _ _)

/-- The first buffer begins in the DPRAM, at a multiple of 64. -/
theorem firstBuffer_inDpram : 64 ∣ epxDataOffset ∧ epxDataOffset ≤ usbDpramMax := by decide

theorem dcdRp2040Irq_inDpram (ints : DcdInts) :
    Program.Ends (Program.Keeps Master.InDpram) (dcdRp2040Irq ints) := by
  refine .bind (.when ?_) fun _ => ?_
  · -- A bus reset puts the pointer back to the first buffer.
    intro s value t hrun _
    cases hrun
    exact ⟨firstBuffer_inDpram.1, firstBuffer_inDpram.2⟩
  · refine inDpram_of_sameAllocation (.bind (.when handleSetupReq_allocation) fun _ => .when ?_)
    exact hwHandleBuffStatus_moves hwHandleBuffStatusBit_allocation

theorem sendIn_allocation {d e : Dcd} {num : Nat} (h : sendIn d num = some e) :
    allocation e = allocation d := by
  simp only [sendIn, Option.bind_eq_bind, Option.bind_eq_some_iff] at h
  obtain ⟨_, -, _, -, h⟩ := h
  cases h
  rfl

theorem receiveOut_allocation {d e : Dcd} {num : Nat} {packet : Packet}
    (h : receiveOut d num packet = some e) : allocation e = allocation d := by
  simp only [receiveOut, Option.bind_eq_bind, Option.bind_eq_some_iff] at h
  obtain ⟨_, -, _, -, h⟩ := h
  cases h
  rfl

theorem step_inDpram {m n : Core0} {event : Event} (hm : m.master.InDpram)
    (hstep : step m event = some n) : n.master.InDpram := by
  cases event with
  | hostSetup packet =>
      cases hstep
      exact ⟨hm.aligned, hm.bounded⟩
  | hostReset =>
      cases hstep
      exact hm
  | hostIn num =>
      obtain ⟨d, hsend, rfl⟩ := Option.map_eq_some_iff.mp hstep
      have hpointer : d.nextBufferPtr = _ := congrArg Prod.fst (sendIn_allocation hsend)
      exact ⟨hpointer ▸ hm.aligned, hpointer ▸ hm.bounded⟩
  | hostOut num packet =>
      obtain ⟨d, hreceive, rfl⟩ := Option.map_eq_some_iff.mp hstep
      have hpointer : d.nextBufferPtr = _ := congrArg Prod.fst (receiveOut_allocation hreceive)
      exact ⟨hpointer ▸ hm.aligned, hpointer ▸ hm.bounded⟩
  | receive message =>
      obtain ⟨rx, -, rfl⟩ := Option.map_eq_some_iff.mp hstep
      exact hm
  | handleSpiSlaveEvent =>
      obtain ⟨t, hrun, rfl⟩ := runHandler_eq_some hstep
      exact handleSpiSlaveEvent_inDpram _ _ _ hrun hm
  | dcdIrq =>
      obtain ⟨t, hrun, rfl⟩ := runHandler_eq_some hstep
      exact dcdRp2040Irq_inDpram _ _ _ _ hrun hm

/-- In every reachable state the next buffer begins in the DPRAM, at a multiple of 64. -/
theorem Reaches.inDpram {romWord : BitVec 32} {events : List Event} {m : Core0}
    (h : Reaches romWord events m) : m.master.InDpram :=
  Machine.run_invariant (I := fun m => m.master.InDpram)
    (fun _ _ _ hm hstep => step_inDpram hm hstep)
    ⟨firstBuffer_inDpram.1, firstBuffer_inDpram.2⟩ h

end UsbSec.Device
