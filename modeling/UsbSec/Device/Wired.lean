import UsbSec.Device.EndpointPolicy
import UsbSec.Rp2040.Registers

/-!
# The registers of the endpoints in reachable states

In every reachable state of the master each endpoint points to its own registers, and endpoint 0
is set up as `dcd_init_new` has left it.
-/

namespace UsbSec.Device

open Library Usb Rp2040

/-- The endpoints of the master have their own registers. -/
def Master.Wired (s : Master) : Prop := Rp2040.Wired s.dcd

theorem wired_of_samePolicy {α : Type} {program : MasterM α}
    (h : Program.Moves SamePolicy program) :
    Program.Ends (Program.Keeps Master.Wired) program := by
  intro s value t hrun hs
  exact Rp2040.Wired.of_progress hs (h.ok hrun).endpoints

theorem onDcd_wired {α : Type} {program : DcdM α}
    (h : Program.Ends (Program.Keeps Rp2040.Wired) program) :
    Program.Ends (Program.Keeps Master.Wired) (onDcd program) := by
  intro s value t hrun hs
  obtain ⟨d, hd, rfl⟩ := Program.onPart_eq_ok hrun
  exact h _ _ _ hd hs

theorem update_wired {change : Master → Master} (h : ∀ s, (change s).dcd = s.dcd) :
    Program.Ends (Program.Keeps Master.Wired) (Program.update change : MasterM Unit) := by
  refine (Program.Moves.update fun s hs => ?_).ends
  unfold Master.Wired
  rw [h s]
  exact hs

theorem dcdEdptOpenNew_wired (desc : EndpointPointer) :
    Program.Ends (Program.Keeps Rp2040.Wired) (dcdEdptOpenNew desc) :=
  fun _ _ _ hrun hd => (hwEndpointInit_setUp hrun).2.wired hd

theorem registerDriverForEdpt_wired (edpt : EndpointPointer) (itf : Option InterfaceDescriptor)
    (newMps : UInt8) :
    Program.Ends (Program.Keeps Master.Wired) (registerDriverForEdpt edpt itf newMps) := by
  refine .bind (update_wired fun _ => rfl) fun _ => ?_
  cases itf with
  | none => exact .stop _
  | some descriptor =>
      refine .bind (update_wired fun _ => rfl) fun _ =>
        .bind (Program.Moves.require _ _).ends fun _ => ?_
      refine .bind (update_wired fun _ => rfl) fun _ => .ite (update_wired fun _ => rfl) ?_
      refine .ite (.bind (update_wired fun _ => rfl) fun _ => ?_) (.stop _)
      exact .ite (wired_of_samePolicy (dcdEdptXferNew_same_policy _ _ _)) (update_wired fun _ => rfl)

theorem walk_wired (arr : Buffer) (len fuel pos : Nat) (itf : Option Nat) :
    Program.Ends (Program.Keeps Master.Wired) (walk arr len fuel pos itf) := by
  induction fuel generalizing pos itf with
  | zero => exact .ite (.stop _) (Program.Moves.pure _).ends
  | succ fuel ih =>
      refine .ite (.bind (.when ?_) fun _ => ih _ _) (Program.Moves.pure _).ends
      refine .bind (update_wired fun _ => rfl) fun _ => ?_
      refine .bind (onDcd_wired (dcdEdptOpenNew_wired _)) fun _ => .read_bind fun s => ?_
      exact .bind (registerDriverForEdpt_wired _ _ _) fun _ => update_wired fun _ => rfl

theorem handleSetupResponse_wired :
    Program.Ends (Program.Keeps Master.Wired) handleSetupResponse := by
  refine .read_bind fun s => .bind (update_wired fun _ => rfl) fun _ => .bind (.when ?_) fun _ => ?_
  · exact wired_of_samePolicy fun s => (handleDeviceDescriptor_untouched _ s).policy
  · refine .ite (Program.Moves.pure _).ends (.bind (.when (walk_wired _ _ _ _ _)) fun _ => ?_)
    exact wired_of_samePolicy fun s => (handleHidReport_untouched _ s).policy

theorem handleSpiSlaveEvent_wired :
    Program.Ends (Program.Keeps Master.Wired) handleSpiSlaveEvent := by
  refine .read_bind fun s => .ite ?_ ?_
  · exact .bind (.bind (update_wired fun _ => rfl) fun _ => (Program.Moves.pure _).ends) fun _ =>
      .when (update_wired fun _ => rfl)
  · dsimp only
    cases (s.rx.dropWhile isString).remove with
    | none => exact update_wired fun _ => rfl
    | some taken =>
        refine .bind (update_wired fun _ => rfl) fun _ => ?_
        unfold handleMessage
        cases taken.1.payload.getLast? with
        | none => exact .stop _
        | some epAddr =>
            refine .bind (Program.Moves.require _ _).ends fun _ => .ite ?_ ?_
            · refine .bind (wired_of_samePolicy fun s => (registerResponse_untouched _ s).policy)
                fun _ => .when (.bind handleSetupResponse_wired fun _ => ?_)
              refine .bind (update_wired fun _ => rfl) fun _ => .read_bind fun t => .when ?_
              exact wired_of_samePolicy (dcdEdptXferNew_same_policy _ _ _)
            · exact wired_of_samePolicy (handleSpiSlaveEventWithDriver_same_policy _ _)

theorem dcdRp2040Irq_wired (ints : DcdInts) :
    Program.Ends (Program.Keeps Master.Wired) (dcdRp2040Irq ints) := by
  refine .bind (.when ?_) fun _ => ?_
  · have hbegin : Program.Moves (Program.Keeps Master.Wired)
        (Program.update fun s => { s with dcd := { s.dcd with devAddrCtrl := 0 } } : MasterM Unit) :=
      .update fun s hs => ⟨hs.own, hs.control⟩
    refine .bind hbegin.ends fun _ => ?_
    refine .bind (onDcd_wired resetNonControlEndpoints_wired.ends) fun _ => ?_
    exact .bind (update_wired fun _ => rfl) fun _ => update_wired fun _ => rfl
  · refine wired_of_samePolicy (.bind (.when handleSetupReq_same_policy) fun _ => .when ?_)
    exact hwHandleBuffStatus_moves hwHandleBuffStatusBit_same_policy

theorem step_wired {m n : Core0} {event : Event} (hm : m.master.Wired)
    (hstep : step m event = some n) : n.master.Wired := by
  cases event with
  | hostSetup packet =>
      cases hstep
      exact ⟨hm.own, hm.control⟩
  | hostReset =>
      cases hstep
      exact hm
  | hostIn num =>
      obtain ⟨d, hsend, rfl⟩ := Option.map_eq_some_iff.mp hstep
      refine Rp2040.Wired.of_progress hm fun other dirIn => ?_
      show (d.hwEndpoints other dirIn).fixed = _
      rw [sendIn_hwEndpoints hsend]
  | hostOut num packet =>
      obtain ⟨d, hreceive, rfl⟩ := Option.map_eq_some_iff.mp hstep
      refine Rp2040.Wired.of_progress hm fun other dirIn => ?_
      show (d.hwEndpoints other dirIn).fixed = _
      rw [receiveOut_hwEndpoints hreceive]
  | receive message =>
      obtain ⟨rx, -, rfl⟩ := Option.map_eq_some_iff.mp hstep
      exact hm
  | handleSpiSlaveEvent =>
      obtain ⟨t, hrun, rfl⟩ := runHandler_eq_some hstep
      exact handleSpiSlaveEvent_wired _ _ _ hrun hm
  | dcdIrq =>
      obtain ⟨t, hrun, rfl⟩ := runHandler_eq_some hstep
      exact dcdRp2040Irq_wired _ _ _ _ hrun hm

theorem init_wired (romWord : BitVec 32) : (Core0.init romWord).master.Wired :=
  dcdAfterInit_wired romWord

/-- In every reachable state each endpoint has its own registers, and endpoint 0 is set up. -/
theorem Reaches.wired {romWord : BitVec 32} {events : List Event} {m : Core0}
    (h : Reaches romWord events m) : m.master.Wired :=
  Machine.run_invariant (fun _ _ _ hm hstep => step_wired hm hstep) (init_wired romWord) h

end UsbSec.Device
