import Mathlib.Data.List.Nodup
import UsbSec.Device.Reread
import UsbSec.Host.Reread

/-!
# Reading a configuration again

The host may ask for the same configuration several times, and each time the master handles the
response in full: every endpoint gets one more buffer in the DPRAM, and one more slot of the
slave's pool. So only a configuration without endpoints can be handled twice with the tables of
handling it once, and handling it once gives each endpoint one slot when the endpoints are distinct
and both controllers have room for them.
-/

namespace UsbSec.System

open Library Usb

/-! ## The requests on the slave -/

/-- Handle messages one after another. -/
def handleMessages : List SpiMessage → Host.SlaveM Unit
  | [] => pure ()
  | message :: rest => do
      Host.handleMessage message
      handleMessages rest

/-- Whenever a message is handled the pool has a free slot. -/
def FindsRoom : List SpiMessage → Host.Slave → Prop
  | [], _ => True
  | message :: rest, s =>
      ¬ Host.Exhausted s.hcd ∧ ∀ t, Host.handleMessage message s = .ok () t → FindsRoom rest t

theorem handleMessage_openRequest (d : Descriptor) :
    Host.handleMessage (Device.openRequest d) = Host.handleEdptOpen d.bytes := by
  refine Host.handleMessage_open ?_
  show (MsgType.edptOpen ||| MsgType.debugPrintAsHex) &&& ~~~MsgType.debugPrintAsHex = _
  decide

/-- Opening endpoints finds a free slot for each and ends when there are enough of them and every
endpoint can be polled. -/
theorem handleMessages_opens {ds : List Descriptor} (hwhole : ∀ d ∈ ds, d.IsWhole)
    (s : Host.Slave) :
    ((∃ t, handleMessages (ds.map Device.openRequest) s = .ok () t) ∧
        FindsRoom (ds.map Device.openRequest) s) ↔
      Host.inUse s.hcd + ds.length ≤ Rp2040.hostInterruptEndpoints ∧
        ∀ d ∈ ds, Host.Polled d.endpoint := by
  induction ds generalizing s with
  | nil =>
      refine iff_of_true ⟨⟨s, rfl⟩, trivial⟩ ⟨Host.inUse_le s.hcd, ?_⟩
      intro d hmem
      cases hmem
  | cons d rest ih =>
      obtain ⟨hd, hrest⟩ := List.forall_mem_cons.mp hwhole
      by_cases hroom : Host.Exhausted s.hcd
      · refine iff_of_false (fun h => h.2.1 hroom) fun h => ?_
        have hall := Host.exhausted_iff.mp hroom
        have hlength : (d :: rest).length = rest.length + 1 := rfl
        omega
      have houtcome := Host.handleEdptOpen_outcome hd hroom
      have hhandle : handleMessages ((d :: rest).map Device.openRequest) =
          (do Host.handleEdptOpen d.bytes; handleMessages (rest.map Device.openRequest)) := by
        rw [← handleMessage_openRequest]
        rfl
      cases hrun : Host.handleEdptOpen d.bytes s with
      | error reason t =>
          have hnot := houtcome.error hrun
          refine iff_of_false ?_ fun h => hnot (h.2 d List.mem_cons_self)
          rintro ⟨⟨u, hu⟩, -⟩
          rw [hhandle, Program.bind_error hrun] at hu
          cases hu
      | ok value t =>
          obtain ⟨hpolled, hadds⟩ := houtcome.ok hrun
          have hrestRun : handleMessages ((d :: rest).map Device.openRequest) s =
              handleMessages (rest.map Device.openRequest) t := by
            rw [hhandle, Program.bind_ok hrun]
          have hfinds : FindsRoom ((d :: rest).map Device.openRequest) s ↔
              FindsRoom (rest.map Device.openRequest) t := by
            refine ⟨fun h => h.2 t ?_, fun h => ⟨hroom, fun u hu => ?_⟩⟩
            · rw [handleMessage_openRequest, hrun]
            · rw [handleMessage_openRequest, hrun] at hu
              cases hu
              exact h
          have hcount := hadds.inUse
          rw [hrestRun, hfinds, ih hrest t, List.forall_mem_cons, List.length_cons]
          constructor
          · rintro ⟨hfits, hall⟩
            exact ⟨by omega, hpolled, hall⟩
          · rintro ⟨hfits, -, hall⟩
            exact ⟨by omega, hall⟩

/-- Each endpoint is then in as many more slots as there were requests for it. -/
theorem handleMessages_entries {ds : List Descriptor} (hwhole : ∀ d ∈ ds, d.IsWhole)
    {s t : Host.Slave} (hrun : handleMessages (ds.map Device.openRequest) s = .ok () t)
    (hroom : FindsRoom (ds.map Device.openRequest) s) (epAddr : UInt8) :
    Host.entries t.hcd epAddr = Host.entries s.hcd epAddr +
      ds.countP fun d => d.endpoint.bEndpointAddress = epAddr := by
  induction ds generalizing s with
  | nil =>
      cases hrun
      rfl
  | cons d rest ih =>
      obtain ⟨hd, hrest⟩ := List.forall_mem_cons.mp hwhole
      obtain ⟨_, middle, hopen, hlater⟩ := Program.bind_eq_ok hrun
      have houtcome := Host.handleEdptOpen_outcome hd hroom.1
      rw [← handleMessage_openRequest] at houtcome
      obtain ⟨-, hadds⟩ := houtcome.ok hopen
      rw [ih hrest hlater (hroom.2 middle hopen), hadds.entries, List.countP_cons]
      simp only [decide_eq_true_eq]
      omega

/-! ## Both controllers -/

/-- When the master handles the response `count` times, and the slave the messages that it hands
over, both end in the given states, and every request finds a free slot. -/
structure Reads (count : Nat) (s : Device.Master) (t : Host.Slave) (master : Device.Master)
    (slave : Host.Slave) : Prop where
  handled : Device.readTimes count s = .ok () master
  received : handleMessages (master.outbox.drop s.outbox.length) t = .ok () slave
  room : FindsRoom (master.outbox.drop s.outbox.length) t

/-- The endpoint tables of the master, up to PIDs. -/
def masterTables (d : Rp2040.Dcd) : (Nat → Bool → Rp2040.HwEndpoint) × Nat :=
  (fun num dirIn => { d.hwEndpoints num dirIn with nextPid := 0 }, d.nextBufferPtr)

/-- The endpoint table of the slave, up to PIDs. -/
def slaveTables (h : Rp2040.Hcd) (slot : Nat) : Rp2040.HwEndpoint :=
  { h.epPool slot with nextPid := 0 }

/-- The endpoints that are opened when a configuration is handled a number of times. -/
def opened (config : List Descriptor) (count : Nat) : List Descriptor :=
  (List.replicate count (endpointsOf config)).flatten

theorem allRequests_eq (config : List Descriptor) (count : Nat) :
    Device.allRequests config count = (opened config count).map Device.openRequest := by
  simp [Device.allRequests, opened, Device.openRequests, List.map_flatten]

theorem opened_succ (config : List Descriptor) (count : Nat) :
    opened config (count + 1) = endpointsOf config ++ opened config count := rfl

theorem length_opened (config : List Descriptor) (count : Nat) :
    (opened config count).length = count * (endpointsOf config).length := by
  induction count with
  | zero => simp [opened]
  | succ count ih => rw [opened_succ, List.length_append, ih, Nat.succ_mul, Nat.add_comm]

theorem countP_opened (config : List Descriptor) (count : Nat) (p : Descriptor → Bool) :
    (opened config count).countP p = count * (endpointsOf config).countP p := by
  induction count with
  | zero => simp [opened]
  | succ count ih => rw [opened_succ, List.countP_append, ih, Nat.succ_mul, Nat.add_comm]

theorem mem_opened {config : List Descriptor} {count : Nat} {d : Descriptor} :
    d ∈ opened config count ↔ count ≠ 0 ∧ d ∈ endpointsOf config := by
  simp [opened, List.mem_flatten, List.mem_replicate, and_assoc]

/-- Both controllers have room for the endpoints of a configuration `count` times, and each
endpoint can be polled. -/
structure Fits (config : List Descriptor) (s : Device.Master) (t : Host.Slave) (count : Nat) :
    Prop where
  dpram : s.dcd.nextBufferPtr + count * Device.dpramNeed config ≤ Rp2040.usbDpramMax
  pool : Host.inUse t.hcd + count * (endpointsOf config).length ≤ Rp2040.hostInterruptEndpoints
  polled : count ≠ 0 → ∀ d ∈ endpointsOf config, Host.Polled d.endpoint

section

variable {config : List Descriptor} {s : Device.Master} (hconfig : Device.HoldsConfiguration config s)
  (hs : Device.InDpram s.dcd) {t : Host.Slave} {count : Nat}

include hconfig

theorem opened_whole : ∀ d ∈ opened config count, d.IsWhole :=
  fun d hmem => hconfig.valid.whole d (mem_opened.mp hmem).2

include hs

/-- What the master hands over. -/
theorem Reads.requests {master : Device.Master}
    (hmaster : Device.readTimes count s = .ok () master) :
    s.dcd.nextBufferPtr + count * Device.dpramNeed config ≤ Rp2040.usbDpramMax ∧
      master.outbox.drop s.outbox.length = (opened config count).map Device.openRequest ∧
      (endpointsOf config = [] → master.dcd = s.dcd) := by
  obtain ⟨hfits, hhandled, hsame⟩ := (Device.readTimes_outcome count hconfig hs).ok hmaster
  refine ⟨hfits, ?_, hsame⟩
  rw [hhandled.outbox, List.drop_left, allRequests_eq]

/-- What a configuration that could be handled has needed, and the slots it is in. -/
theorem Reads.needs {master : Device.Master} {slave : Host.Slave}
    (h : Reads count s t master slave) :
    Fits config s t count ∧ ∀ epAddr, Host.entries slave.hcd epAddr = Host.entries t.hcd epAddr +
      count * (endpointsOf config).countP fun d => d.endpoint.bEndpointAddress = epAddr := by
  obtain ⟨hdpram, hhanded, -⟩ := Reads.requests hconfig hs h.handled
  have hslave := h.received
  have hroom := h.room
  rw [hhanded] at hslave hroom
  have hwhole : ∀ d ∈ opened config count, d.IsWhole := opened_whole hconfig
  obtain ⟨hpool, hpolled⟩ := (handleMessages_opens hwhole t).mp ⟨⟨slave, hslave⟩, hroom⟩
  rw [length_opened] at hpool
  refine ⟨⟨hdpram, hpool, fun hcount d hmem => ?_⟩, fun epAddr => ?_⟩
  · exact hpolled d (mem_opened.mpr ⟨hcount, hmem⟩)
  · rw [handleMessages_entries hwhole hslave hroom, countP_opened]

/-- A configuration that fits can be handled, and nothing happens if it has no endpoints. -/
theorem Fits.reads (h : Fits config s t count) :
    ∃ master slave, Reads count s t master slave ∧
      (endpointsOf config = [] → master.dcd = s.dcd ∧ slave = t) := by
  have houtcome := Device.readTimes_outcome count hconfig hs
  cases hrun : Device.readTimes count s with
  | error reason master => exact absurd h.dpram (houtcome.error hrun)
  | ok value master =>
      obtain ⟨-, hhanded, hsame⟩ := Reads.requests hconfig hs hrun
      have hwhole : ∀ d ∈ opened config count, d.IsWhole := opened_whole hconfig
      obtain ⟨⟨slave, hslave⟩, hroom⟩ := (handleMessages_opens hwhole t).mpr ⟨by
        rw [length_opened]
        exact h.pool, fun d hmem => by
        obtain ⟨hcount, hmem⟩ := mem_opened.mp hmem
        exact h.polled hcount d hmem⟩
      refine ⟨master, slave, ⟨hrun, ?_, ?_⟩, fun hnone => ⟨hsame hnone, ?_⟩⟩
      · rw [hhanded]
        exact hslave
      · rw [hhanded]
        exact hroom
      · have hempty : opened config count = [] := by simp [opened, hnone]
        rw [hempty] at hslave
        cases hslave
        rfl

end

/-- Handling a configuration `count` times leaves the tables of handling it once, with one slot
for the address of every endpoint. -/
def SameAsOnce (config : List Descriptor) (s : Device.Master) (t : Host.Slave) (count : Nat) :
    Prop :=
  ∃ master slave masterOnce slaveOnce, Reads count s t master slave ∧
    Reads 1 s t masterOnce slaveOnce ∧ masterTables master.dcd = masterTables masterOnce.dcd ∧
    slaveTables slave.hcd = slaveTables slaveOnce.hcd ∧
    ∀ d ∈ endpointsOf config, Host.entries slave.hcd d.endpoint.bEndpointAddress = 1

/-- The configuration can be handled once: there is room for its endpoints, which can be polled,
have distinct addresses and are not in the pool. -/
structure ReadableOnce (config : List Descriptor) (s : Device.Master) (t : Host.Slave) : Prop where
  fits : Fits config s t 1
  distinct : ((endpointsOf config).map fun d => d.endpoint.bEndpointAddress).Nodup
  absent : ∀ d ∈ endpointsOf config, Host.entries t.hcd d.endpoint.bEndpointAddress = 0

theorem count_addresses (config : List Descriptor) (epAddr : UInt8) :
    ((endpointsOf config).map fun d => d.endpoint.bEndpointAddress).count epAddr =
      (endpointsOf config).countP fun d => d.endpoint.bEndpointAddress = epAddr := by
  rw [List.count, List.countP_map]
  refine List.countP_congr fun d _ => ?_
  simp

section

variable {config : List Descriptor} {s : Device.Master} {t : Host.Slave} {count : Nat}
  (hconfig : Device.HoldsConfiguration config s) (hs : Device.InDpram s.dcd)

include hconfig hs

/-- Endpoints are in one slot each only when they were opened once. -/
theorem SameAsOnce.readable (hcount : 1 ≤ count) (h : SameAsOnce config s t count) :
    endpointsOf config = [] ∨ count = 1 ∧ ReadableOnce config s t := by
  obtain ⟨master, slave, masterOnce, slaveOnce, hreads, -, -, -, hone⟩ := h
  obtain ⟨hfits, hentries⟩ := Reads.needs hconfig hs hreads
  by_cases hnone : endpointsOf config = []
  · exact .inl hnone
  have hslots {d : Descriptor} (hmem : d ∈ endpointsOf config) := hone d hmem
  simp only [hentries] at hslots
  have hused {d : Descriptor} (hmem : d ∈ endpointsOf config) :
      0 < (endpointsOf config).countP
        fun e => e.endpoint.bEndpointAddress = d.endpoint.bEndpointAddress :=
    List.countP_pos_iff.mpr ⟨d, hmem, decide_eq_true rfl⟩
  obtain ⟨first, hfirst⟩ := List.exists_mem_of_ne_nil _ hnone
  have hcountOne : count = 1 := by
    have hpos := Nat.mul_le_mul_left count (hused hfirst)
    have hfirstSlots := hslots hfirst
    omega
  subst hcountOne
  refine .inr ⟨rfl, hfits, ?_, fun d hmem => ?_⟩
  · refine List.nodup_iff_count_le_one.mpr fun epAddr => ?_
    by_cases hmem : epAddr ∈ (endpointsOf config).map fun d => d.endpoint.bEndpointAddress
    · obtain ⟨d, hd, rfl⟩ := List.mem_map.mp hmem
      have hdSlots := hslots hd
      rw [count_addresses]
      omega
    · rw [List.count_eq_zero_of_not_mem hmem]
      exact Nat.zero_le 1
  · have hdSlots := hslots hmem
    have hpos := hused hmem
    omega

/-- Without endpoints nothing is opened. -/
theorem SameAsOnce.of_none (hnone : endpointsOf config = []) : SameAsOnce config s t count := by
  have hfits (times : Nat) : Fits config s t times := by
    refine ⟨?_, ?_, ?_⟩
    · simpa [Device.dpramNeed, hnone] using hs.bounded
    · simpa [hnone] using Host.inUse_le t.hcd
    · simp [hnone]
  obtain ⟨master, slave, hreads, hsame⟩ := Fits.reads hconfig hs (hfits count)
  obtain ⟨masterOnce, slaveOnce, hreadsOnce, hsameOnce⟩ := Fits.reads hconfig hs (hfits 1)
  refine ⟨master, slave, masterOnce, slaveOnce, hreads, hreadsOnce, ?_, ?_, by simp [hnone]⟩
  · rw [(hsame hnone).1, (hsameOnce hnone).1]
  · rw [(hsame hnone).2, (hsameOnce hnone).2]

theorem ReadableOnce.sameAsOnce (h : ReadableOnce config s t) : SameAsOnce config s t 1 := by
  obtain ⟨master, slave, hreads, -⟩ := Fits.reads hconfig hs h.fits
  refine ⟨master, slave, master, slave, hreads, hreads, rfl, rfl, fun d hmem => ?_⟩
  have honce := List.nodup_iff_count_eq_one.mp h.distinct _ (List.mem_map_of_mem hmem)
  rw [count_addresses] at honce
  rw [(Reads.needs hconfig hs hreads).2, h.absent d hmem, Nat.zero_add, Nat.one_mul]
  exact honce

end

/-- Handling a configuration a number of times is handling it once only when it has no endpoints,
or when the number is 1 and it can be handled once. -/
theorem reread_configuration {config : List Descriptor} {s : Device.Master} {t : Host.Slave}
    {count : Nat} (hconfig : Device.HoldsConfiguration config s) (hs : Device.InDpram s.dcd)
    (hcount : 1 ≤ count) :
    SameAsOnce config s t count ↔
      endpointsOf config = [] ∨ count = 1 ∧ ReadableOnce config s t := by
  constructor
  · exact SameAsOnce.readable hconfig hs hcount
  · rintro (hnone | ⟨rfl, honce⟩)
    · exact SameAsOnce.of_none hconfig hs hnone
    · exact ReadableOnce.sameAsOnce hconfig hs honce

theorem mouseInterface_lt : ([0, 0, 1, 3, 1, 2, 0] : List UInt8).length + 2 < 256 := by decide

theorem mouseEndpoint_lt : ([0x81, 3, 8, 0, 10] : List UInt8).length + 2 < 256 := by decide

/-- The configuration of a mouse with endpoint 0x81. -/
def mouseConfiguration : List Descriptor :=
  [⟨0x02, [25, 0, 1, 1, 0, 0x80, 50], by decide⟩, ⟨0x04, [0, 0, 1, 3, 1, 2, 0], mouseInterface_lt⟩,
    ⟨0x05, [0x81, 3, 8, 0, 10], mouseEndpoint_lt⟩]

/-- The master after the host asked for the configuration and the mouse sent it. -/
def mouseResponse : Device.Master :=
  { Device.Master.init 0 with
    events := ⟨64, ⟨0x80, 6, 0x0200, 0, 25⟩, .readingResponse⟩
    aggregator := ⟨fun i => (configurationBytes mouseConfiguration).getD i 0, 64, 25⟩ }

theorem mouseResponse_holdsConfiguration :
    Device.HoldsConfiguration mouseConfiguration mouseResponse where
  valid := by decide
  response := by decide
  request := by decide
  live := by decide

theorem mouseResponse_inDpram : Device.InDpram mouseResponse.dcd where
  aligned := by decide
  bounded := by decide

theorem mouseConfiguration_once :
    SameAsOnce mouseConfiguration mouseResponse (Host.Slave.init 0) 1 := by
  refine (reread_configuration mouseResponse_holdsConfiguration mouseResponse_inDpram
    (Nat.le_refl 1)).mpr (.inr ⟨rfl, ?_⟩)
  refine ⟨⟨by decide, by decide, fun _ => by decide⟩, by decide, by decide⟩

/-- Asking for the configuration of the mouse twice opens its endpoint twice. -/
theorem mouseConfiguration_not_twice :
    ¬ ∀ config s t count, Device.HoldsConfiguration config s → Device.InDpram s.dcd →
      Host.inUse t.hcd = 0 → 1 ≤ count → SameAsOnce config s t count := by
  intro hclaim
  have htwice : SameAsOnce mouseConfiguration mouseResponse (Host.Slave.init 0) 2 :=
    hclaim _ _ _ _ mouseResponse_holdsConfiguration mouseResponse_inDpram (by decide) (by decide)
  rcases htwice.readable mouseResponse_holdsConfiguration mouseResponse_inDpram (by decide) with
    hnone | ⟨hcount, -⟩
  · exact absurd hnone (by decide)
  · exact absurd hcount (by decide)

end UsbSec.System
