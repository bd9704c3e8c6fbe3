import Mathlib.Data.List.TakeWhile
import Mathlib.Logic.Relation
import UsbSec.Device.Responses

/-!
# A response under the setup packet that asked for it

Nothing in the master ties the collected response to the setup packet it is interpreted under.
This module adds what is known about the slave: it answers setup packets that were forwarded to
it, and marks the last reply to each. In every run that handles a setup packet only when the
forwarded ones before it are answered, a response consists of the replies to its own setup packet.
-/

namespace UsbSec.Device

open Library Usb

/-- A message of the slave in the order of arrival, with the number of the setup packet that it
replies to. For messages that are no replies the number means nothing. -/
structure Delivery where
  request : Nat
  message : SpiMessage

/-- The message is a reply to a setup packet. -/
def IsReply (message : SpiMessage) : Prop := hasFlag message.eFlag MsgType.setupData

instance (message : SpiMessage) : Decidable (IsReply message) :=
  inferInstanceAs (Decidable (hasFlag _ _))

/-- The message is the last reply to a setup packet. -/
def IsLastReply (message : SpiMessage) : Prop :=
  IsReply message ∧ hasFlag message.eFlag MsgType.lastPacket

instance (message : SpiMessage) : Decidable (IsLastReply message) :=
  inferInstanceAs (Decidable (_ ∧ _))

/-- The setup packet is forwarded to the slave, as itself or as an address change. -/
def Forwarded (setup : ControlRequest) : Prop :=
  IsSetAddress setup ∨ ¬ IsDeviceQualifier setup ∧ ¬ IsSetReport setup

instance (setup : ControlRequest) : Decidable (Forwarded setup) :=
  inferInstanceAs (Decidable (_ ∨ _))

/-- The last reply to the setup packet is among the deliveries. -/
def Answered (deliveries : List Delivery) (request : Nat) : Prop :=
  ∃ delivery ∈ deliveries, delivery.request = request ∧ IsLastReply delivery.message

instance (deliveries : List Delivery) (request : Nat) : Decidable (Answered deliveries request) :=
  inferInstanceAs (Decidable (∃ _ ∈ _, _))

/-- The payloads of the replies to a setup packet, less the endpoint address behind each. -/
def repliesTo (request : Nat) (deliveries : List Delivery) : List UInt8 :=
  (deliveries.filter fun delivery => delivery.request = request ∧ IsReply delivery.message).flatMap
    fun delivery => delivery.message.payload.dropLast

@[simp] theorem repliesTo_append (request : Nat) (first second : List Delivery) :
    repliesTo request (first ++ second) = repliesTo request first ++ repliesTo request second := by
  simp [repliesTo, List.filter_append]

theorem repliesTo_eq_nil {request : Nat} {deliveries : List Delivery}
    (h : ∀ delivery ∈ deliveries, IsReply delivery.message → delivery.request ≠ request) :
    repliesTo request deliveries = [] := by
  have hfilter : deliveries.filter
      (fun delivery => delivery.request = request ∧ IsReply delivery.message) = [] := by
    rw [List.filter_eq_nil_iff]
    intro delivery hmem htrue
    obtain ⟨hrequest, hreply⟩ := of_decide_eq_true htrue
    exact h delivery hmem hreply hrequest
  rw [repliesTo, hfilter]
  rfl

/-! ## The exchange seen from outside -/

/-- The part of the master that the exchange is about: the setup packets received, the one that
is kept, the direction and the bytes of the response, and the messages dequeued and waiting. -/
@[ext] structure ExchangeView where
  setups : List ControlRequest
  setup : ControlRequest
  setupResponseDir : SetupResponseDir
  collected : List UInt8
  dequeued : List Delivery
  waiting : List Delivery

namespace ExchangeView

/-- The number of the current setup packet. -/
def current (v : ExchangeView) : Nat := v.setups.length - 1

/-- The setup packet with this number was received and forwarded. -/
def WasForwarded (v : ExchangeView) (request : Nat) : Prop :=
  ∃ setup ∈ v.setups[request]?, Forwarded setup

instance (v : ExchangeView) (request : Nat) : Decidable (v.WasForwarded request) :=
  inferInstanceAs (Decidable (∃ _ ∈ _, _))

/-- The setup packet was forwarded, and its last reply is not dequeued yet. -/
def Outstanding (v : ExchangeView) (request : Nat) : Prop :=
  v.WasForwarded request ∧ ¬ Answered v.dequeued request

instance (v : ExchangeView) (request : Nat) : Decidable (v.Outstanding request) :=
  inferInstanceAs (Decidable (_ ∧ _))

/-- A message may come from the slave: a reply answers a forwarded setup packet whose last reply
has not been delivered. -/
def MayDeliver (v : ExchangeView) (delivery : Delivery) : Prop :=
  IsReply delivery.message → v.WasForwarded delivery.request ∧
    ¬ Answered (v.dequeued ++ v.waiting) delivery.request

instance (v : ExchangeView) (delivery : Delivery) : Decidable (v.MayDeliver delivery) :=
  inferInstanceAs (Decidable (_ → _))

/-- What can happen to the exchange while it is orderly. -/
inductive Step : ExchangeView → ExchangeView → Prop where
  | receive (v : ExchangeView) (setup : ControlRequest) (orderly : ∀ n, ¬ v.Outstanding n) :
      Step v { v with setups := v.setups ++ [setup], setup := setup }
  | deliver (v : ExchangeView) (delivery : Delivery) (may : v.MayDeliver delivery) :
      Step v { v with waiting := v.waiting ++ [delivery] }
  | passOn (v : ExchangeView) (writing : v.setupResponseDir = .writingResponse) :
      Step v { v with setupResponseDir := .readingResponse, collected := [] }
  | skip (v : ExchangeView) (delivery : Delivery) (rest : List Delivery)
      (waiting : v.waiting = delivery :: rest) (noReply : ¬ IsReply delivery.message) :
      Step v { v with dequeued := v.dequeued ++ [delivery], waiting := rest }
  | collect (v : ExchangeView) (delivery : Delivery) (rest : List Delivery)
      (waiting : v.waiting = delivery :: rest) (reading : v.setupResponseDir = .readingResponse)
      (reply : IsReply delivery.message) (notLast : ¬ IsLastReply delivery.message) :
      Step v
        { v with
          dequeued := v.dequeued ++ [delivery], waiting := rest
          collected := v.collected ++ delivery.message.payload.dropLast }
  | respond (v : ExchangeView) (delivery : Delivery) (rest : List Delivery)
      (collected : List UInt8) (waiting : v.waiting = delivery :: rest)
      (reading : v.setupResponseDir = .readingResponse) (last : IsLastReply delivery.message) :
      Step v
        { v with
          dequeued := v.dequeued ++ [delivery], waiting := rest, collected := collected
          setupResponseDir := .writingResponse }

/-- What holds while the exchange is orderly. -/
structure Invariant (v : ExchangeView) : Prop where
  setup : ∀ setup ∈ v.setups.getLast?, v.setup = setup
  forwarded : ∀ delivery ∈ v.dequeued ++ v.waiting, IsReply delivery.message →
    v.WasForwarded delivery.request
  closed : (v.dequeued ++ v.waiting).Pairwise fun earlier later =>
    IsLastReply earlier.message → IsReply later.message → later.request ≠ earlier.request
  settled : ∀ request, v.Outstanding request → request = v.current
  writing : v.setupResponseDir = .writingResponse → v.Outstanding v.current →
    repliesTo v.current v.dequeued = []
  reading : v.setupResponseDir = .readingResponse →
    v.collected = if v.Outstanding v.current then repliesTo v.current v.dequeued else []

theorem WasForwarded.lt {v : ExchangeView} {request : Nat} (h : v.WasForwarded request) :
    request < v.setups.length := by
  obtain ⟨setup, hsetup, -⟩ := h
  exact (List.getElem?_eq_some_iff.mp hsetup).1

/-- A waiting reply is one to the current setup packet, which is outstanding. -/
theorem Invariant.waiting_reply {v : ExchangeView} (h : v.Invariant) {delivery : Delivery}
    (hmem : delivery ∈ v.waiting) (hreply : IsReply delivery.message) :
    v.Outstanding delivery.request ∧ delivery.request = v.current := by
  have hforwarded := h.forwarded delivery (List.mem_append_right _ hmem) hreply
  have hopen : ¬ Answered v.dequeued delivery.request := by
    rintro ⟨last, hlast, hrequest, hislast⟩
    exact (List.pairwise_append.mp h.closed).2.2 last hlast delivery hmem hislast hreply
      hrequest.symm
  exact ⟨⟨hforwarded, hopen⟩, h.settled _ ⟨hforwarded, hopen⟩⟩

/-- Behind the last reply to a setup packet there is no other reply to it. -/
theorem Invariant.nothing_behind {v : ExchangeView} (h : v.Invariant)
    {skipped rest : List Delivery} {last : Delivery}
    (hwaiting : v.waiting = skipped ++ last :: rest) (hlast : IsLastReply last.message) :
    repliesTo last.request rest = [] := by
  have hclosed := (List.pairwise_append.mp h.closed).2.1
  rw [hwaiting] at hclosed
  have hbehind := (List.pairwise_cons.mp (List.pairwise_append.mp hclosed).2.1).1
  exact repliesTo_eq_nil fun other hother hreply => hbehind other hother hlast hreply

theorem answered_append {first second : List Delivery} {request : Nat} :
    Answered (first ++ second) request ↔ Answered first request ∨ Answered second request := by
  simp only [Answered, List.mem_append, or_and_right, exists_or]

theorem answered_singleton {delivery : Delivery} {request : Nat} :
    Answered [delivery] request ↔ delivery.request = request ∧ IsLastReply delivery.message := by
  simp [Answered]

theorem outstanding_concat (v : ExchangeView) {delivery : Delivery}
    (h : ¬ IsLastReply delivery.message) (rest : List Delivery) (collected : List UInt8)
    (request : Nat) :
    Outstanding { v with dequeued := v.dequeued ++ [delivery], waiting := rest,
                         collected := collected } request ↔ v.Outstanding request := by
  unfold Outstanding
  rw [answered_append, answered_singleton]
  simp only [h, and_false, or_false]
  exact Iff.rfl

theorem repliesTo_no_reply {delivery : Delivery} (hreply : ¬ IsReply delivery.message)
    (request : Nat) : repliesTo request [delivery] = [] := by
  refine repliesTo_eq_nil fun other hother => ?_
  rw [List.mem_singleton.mp hother]
  exact fun h => absurd h hreply

theorem repliesTo_singleton (delivery : Delivery) (hreply : IsReply delivery.message) :
    repliesTo delivery.request [delivery] = delivery.message.payload.dropLast := by
  simp [repliesTo, hreply]

theorem Invariant.receive {v : ExchangeView} (h : v.Invariant) (setup : ControlRequest)
    (horderly : ∀ n, ¬ v.Outstanding n) :
    Invariant { v with setups := v.setups ++ [setup], setup := setup } := by
  have hcurrent : current { v with setups := v.setups ++ [setup], setup := setup } =
      v.setups.length := by
    simp [current]
  have hforwarded : ∀ n, v.WasForwarded n →
      WasForwarded { v with setups := v.setups ++ [setup], setup := setup } n := by
    intro n hn
    have hlt := hn.lt
    obtain ⟨other, hother, hkind⟩ := hn
    refine ⟨other, ?_, hkind⟩
    show other ∈ (v.setups ++ [setup])[n]?
    rwa [List.getElem?_append_left hlt]
  have hfresh : repliesTo v.setups.length v.dequeued = [] := by
    refine repliesTo_eq_nil fun delivery hmem hreply => ?_
    exact Nat.ne_of_lt (h.forwarded delivery (List.mem_append_left _ hmem) hreply).lt
  refine ⟨?_, ?_, h.closed, ?_, ?_, ?_⟩
  · intro other hother
    simpa using hother
  · exact fun delivery hmem hreply => hforwarded _ (h.forwarded delivery hmem hreply)
  · rintro n ⟨hn, hopen⟩
    rw [hcurrent]
    by_contra hne
    have hlt : n < v.setups.length := by
      have hle := hn.lt
      simp only [List.length_append, List.length_singleton] at hle
      omega
    obtain ⟨other, hother, hkind⟩ := hn
    refine horderly n ⟨⟨other, ?_, hkind⟩, hopen⟩
    have hsame : (v.setups ++ [setup])[n]? = v.setups[n]? := List.getElem?_append_left hlt
    rwa [← hsame]
  · rw [hcurrent]
    exact fun _ _ => hfresh
  · intro hreading
    rw [hcurrent]
    have hempty := h.reading hreading
    rw [if_neg (horderly _)] at hempty
    show v.collected = if _ then repliesTo v.setups.length v.dequeued else []
    rw [hfresh, hempty, ite_self]

theorem Invariant.deliver {v : ExchangeView} (h : v.Invariant) {delivery : Delivery}
    (hmay : v.MayDeliver delivery) :
    Invariant { v with waiting := v.waiting ++ [delivery] } := by
  refine ⟨h.setup, ?_, ?_, h.settled, h.writing, h.reading⟩
  · intro other hmem hreply
    rw [← List.append_assoc] at hmem
    rcases List.mem_append.mp hmem with hold | hnew
    · exact h.forwarded other hold hreply
    · rw [List.mem_singleton.mp hnew] at hreply ⊢
      exact (hmay hreply).1
  · show (v.dequeued ++ (v.waiting ++ [delivery])).Pairwise _
    rw [← List.append_assoc, List.pairwise_append]
    refine ⟨h.closed, List.pairwise_singleton _ _, fun earlier hearlier later hlater => ?_⟩
    rw [List.mem_singleton.mp hlater]
    intro hlast hreply hsame
    exact (hmay hreply).2 ⟨earlier, hearlier, hsame.symm, hlast⟩

theorem Invariant.passOn {v : ExchangeView} (h : v.Invariant)
    (hwriting : v.setupResponseDir = .writingResponse) :
    Invariant { v with setupResponseDir := .readingResponse, collected := [] } := by
  refine ⟨h.setup, h.forwarded, h.closed, h.settled, nofun, fun _ => ?_⟩
  by_cases hout : v.Outstanding v.current
  · exact ((if_pos hout).trans (h.writing hwriting hout)).symm
  · exact (if_neg hout).symm

theorem append_of_waiting {v : ExchangeView} {delivery : Delivery} {rest : List Delivery}
    (hwaiting : v.waiting = delivery :: rest) :
    v.dequeued ++ v.waiting = v.dequeued ++ [delivery] ++ rest := by
  rw [hwaiting, List.append_assoc, List.singleton_append]

theorem Invariant.skip {v : ExchangeView} (h : v.Invariant) {delivery : Delivery}
    {rest : List Delivery} (hwaiting : v.waiting = delivery :: rest)
    (hreply : ¬ IsReply delivery.message) :
    Invariant { v with dequeued := v.dequeued ++ [delivery], waiting := rest } := by
  have hall := append_of_waiting hwaiting
  have hlast : ¬ IsLastReply delivery.message := fun hlast => hreply hlast.1
  have hout := outstanding_concat v hlast rest v.collected
  have hreplies (n : Nat) :
      repliesTo n (v.dequeued ++ [delivery]) = repliesTo n v.dequeued := by
    rw [repliesTo_append, repliesTo_no_reply hreply, List.append_nil]
  refine ⟨h.setup, hall ▸ h.forwarded, hall ▸ h.closed, ?_, ?_, ?_⟩
  · exact fun n hn => h.settled n ((hout n).mp hn)
  · intro hwriting hcurrent
    exact (hreplies _).trans (h.writing hwriting ((hout _).mp hcurrent))
  · intro hreading
    refine (h.reading hreading).trans ?_
    exact (if_congr (hout _) (hreplies _) rfl).symm

theorem Invariant.collect {v : ExchangeView} (h : v.Invariant) {delivery : Delivery}
    {rest : List Delivery} (hwaiting : v.waiting = delivery :: rest)
    (hreading : v.setupResponseDir = .readingResponse) (hreply : IsReply delivery.message)
    (hlast : ¬ IsLastReply delivery.message) :
    Invariant { v with
      dequeued := v.dequeued ++ [delivery], waiting := rest
      collected := v.collected ++ delivery.message.payload.dropLast } := by
  have hall := append_of_waiting hwaiting
  have hout := outstanding_concat v hlast rest
    (v.collected ++ delivery.message.payload.dropLast)
  obtain ⟨hopen, hcurrent⟩ := h.waiting_reply (hwaiting ▸ List.mem_cons_self) hreply
  rw [hcurrent] at hopen
  refine ⟨h.setup, hall ▸ h.forwarded, hall ▸ h.closed, ?_, ?_, ?_⟩
  · exact fun n hn => h.settled n ((hout n).mp hn)
  · intro hwriting
    exact absurd (hreading.symm.trans hwriting) nofun
  · intro _
    have hcollected := h.reading hreading
    rw [if_pos hopen] at hcollected
    have hnew : repliesTo v.current [delivery] = delivery.message.payload.dropLast := by
      rw [← hcurrent, repliesTo_singleton delivery hreply]
    refine Eq.trans ?_ (if_pos ((hout _).mpr hopen)).symm
    show v.collected ++ _ = repliesTo v.current (v.dequeued ++ [delivery])
    rw [repliesTo_append, hnew, hcollected]

theorem Invariant.respond {v : ExchangeView} (h : v.Invariant) {delivery : Delivery}
    {rest : List Delivery} (collected : List UInt8) (hwaiting : v.waiting = delivery :: rest)
    (hlast : IsLastReply delivery.message) :
    Invariant { v with
      dequeued := v.dequeued ++ [delivery], waiting := rest, collected := collected
      setupResponseDir := .writingResponse } := by
  have hall := append_of_waiting hwaiting
  obtain ⟨hopen, hcurrent⟩ := h.waiting_reply (hwaiting ▸ List.mem_cons_self) hlast.1
  have hanswered : Answered (v.dequeued ++ [delivery]) v.current :=
    answered_append.mpr (.inr (answered_singleton.mpr ⟨hcurrent, hlast⟩))
  refine ⟨h.setup, hall ▸ h.forwarded, hall ▸ h.closed, ?_, ?_, nofun⟩
  · rintro n ⟨hforwarded, hnot⟩
    refine h.settled n ⟨hforwarded, fun hold => hnot (answered_append.mpr (.inl hold))⟩
  · exact fun _ hout => absurd hanswered hout.2

/-- Every step of an orderly exchange keeps the invariant. -/
theorem Step.invariant {v w : ExchangeView} (hstep : Step v w) (h : v.Invariant) :
    w.Invariant := by
  cases hstep with
  | receive setup horderly => exact h.receive setup horderly
  | deliver delivery hmay => exact h.deliver hmay
  | passOn hwriting => exact h.passOn hwriting
  | skip delivery rest hwaiting hreply => exact h.skip hwaiting hreply
  | collect delivery rest hwaiting hreading hreply hlast =>
      exact h.collect hwaiting hreading hreply hlast
  | respond delivery rest collected hwaiting hreading hlast =>
      exact h.respond collected hwaiting hlast

theorem steps_invariant {v w : ExchangeView} (hsteps : Relation.ReflTransGen Step v w)
    (h : v.Invariant) : w.Invariant := by
  induction hsteps with
  | refl => exact h
  | tail _ hlast ih => exact hlast.invariant ih

/-- Messages that are no replies are dequeued one after the other. -/
theorem skips {skipped rest : List Delivery} (h : ∀ delivery ∈ skipped, ¬ IsReply delivery.message)
    {v : ExchangeView} (hwaiting : v.waiting = skipped ++ rest) :
    Relation.ReflTransGen Step v
      { v with dequeued := v.dequeued ++ skipped, waiting := rest } := by
  induction skipped generalizing v with
  | nil =>
      have hsame : { v with dequeued := v.dequeued ++ [], waiting := rest } = v := by
        ext1 <;> simp [hwaiting]
      rw [hsame]
  | cons delivery others ih =>
      have hfirst := Step.skip v delivery (others ++ rest) hwaiting (h delivery (by simp))
      have hrest := ih (fun other hother => h other (by simp [hother]))
        (v := { v with dequeued := v.dequeued ++ [delivery], waiting := others ++ rest }) rfl
      refine .head hfirst ?_
      simpa using hrest

end ExchangeView

/-! ## The exchange of the master -/

/-- The master with the messages delivered to it so far. -/
structure Exchange where
  core : Core0
  deliveries : List Delivery

/-- A step of the master, or the delivery of a message. -/
inductive ExchangeAction where
  | master (event : Event)
  | deliver (delivery : Delivery)

namespace Exchange

/-- How many of the deliveries are dequeued. -/
def dequeuedCount (x : Exchange) : Nat := x.deliveries.length - x.core.master.rx.items.length

/-- The exchange seen from outside. -/
def view (x : Exchange) : ExchangeView where
  setups := setups x.core.master.calls
  setup := x.core.master.events.setup
  setupResponseDir := x.core.master.events.setupResponseDir
  collected := x.core.master.collected
  dequeued := x.deliveries.take x.dequeuedCount
  waiting := x.deliveries.drop x.dequeuedCount

/-- One step of the exchange. Messages get into `rx` by deliveries only. -/
def step (x : Exchange) : ExchangeAction → Option Exchange
  | .master (.receive _) => none
  | .master event => (Device.step x.core event).map fun core => { x with core := core }
  | .deliver delivery =>
      if x.view.MayDeliver delivery then
        (Device.step x.core (.receive delivery.message)).map fun core =>
          ⟨core, x.deliveries ++ [delivery]⟩
      else none

/-- The exchange when the loop of the master's core 0 starts. -/
def init (romWord : BitVec 32) : Exchange := ⟨.init romWord, []⟩

/-- A setup packet is handled only when no forwarded one is outstanding. -/
def Orderly (x : Exchange) : ExchangeAction → Prop
  | .master .dcdIrq =>
      x.core.setupReq = true → ∀ n < x.view.setups.length, ¬ x.view.Outstanding n
  | _ => True

instance (x : Exchange) : ∀ action, Decidable (x.Orderly action)
  | .master .dcdIrq => inferInstanceAs (Decidable (_ → _))
  | .master (.hostSetup _) => isTrue trivial
  | .master .hostReset => isTrue trivial
  | .master (.hostIn _) => isTrue trivial
  | .master (.hostOut _ _) => isTrue trivial
  | .master (.receive _) => isTrue trivial
  | .master .handleSpiSlaveEvent => isTrue trivial
  | .deliver _ => isTrue trivial

/-- If `handle_spi_slave_event` interprets a response now, it does so under the current setup
packet, and the response consists of the replies to that packet. -/
def ResponseMatches (x : Exchange) : Prop :=
  ∀ more, responses (Program.final (handleSpiSlaveEvent x.core.master)).calls =
      responses x.core.master.calls ++ more →
    ∀ response ∈ more, x.view.setups.getLast? = some response.1 ∧
      response.2 = repliesTo x.view.current x.deliveries

/-- The messages that wait are those in `rx`. -/
def RxInLine (x : Exchange) : Prop :=
  x.view.waiting.map Delivery.message = x.core.master.rx.items

/-- A state whose deliveries are split as its `rx` is. -/
theorem view_eq {x : Exchange} {dequeued waiting : List Delivery}
    (hsplit : x.deliveries = dequeued ++ waiting)
    (hrx : waiting.map Delivery.message = x.core.master.rx.items) :
    x.view.dequeued = dequeued ∧ x.view.waiting = waiting := by
  have hlength : x.core.master.rx.items.length = waiting.length := by
    rw [← hrx, List.length_map]
  have hcount : x.dequeuedCount = dequeued.length := by
    rw [dequeuedCount, hsplit, hlength, List.length_append, Nat.add_sub_cancel]
  unfold view
  rw [hcount, hsplit]
  exact ⟨List.take_left, List.drop_left⟩

theorem view_append (x : Exchange) : x.view.dequeued ++ x.view.waiting = x.deliveries :=
  List.take_append_drop _ _

/-- The view after a step that leaves the exchange alone. -/
theorem view_of_same {x : Exchange} {core : Core0}
    (h : SameExchange x.core.master core.master) :
    view { x with core := core } = x.view := by
  unfold view dequeuedCount
  rw [h.setups, h.setup, h.setupResponseDir, h.collected, h.rx]

theorem view_ext {x : Exchange} {v : ExchangeView}
    (hsetups : setups x.core.master.calls = v.setups)
    (hsetup : x.core.master.events.setup = v.setup)
    (hdir : x.core.master.events.setupResponseDir = v.setupResponseDir)
    (hcollected : x.core.master.collected = v.collected)
    (hdequeued : x.view.dequeued = v.dequeued) (hwaiting : x.view.waiting = v.waiting) :
    x.view = v :=
  ExchangeView.ext hsetups hsetup hdir hcollected hdequeued hwaiting

theorem isString_not_reply {message : SpiMessage} (h : isString message = true) :
    ¬ IsReply message := by
  have hflag : message.eFlag = MsgType.debugPrintAsString := by simpa [isString] using h
  rw [IsReply, hflag]
  decide

/-- The deliveries that a run of texts and the message behind it belong to. -/
theorem taken_split {x : Exchange} (hx : x.RxInLine) {msg : SpiMessage} {rest : SpiQueue}
    (h : (x.core.master.rx.dropWhile isString).remove = some (msg, rest)) :
    ∃ skipped delivery waiting, x.view.waiting = skipped ++ delivery :: waiting ∧
      (∀ other ∈ skipped, ¬ IsReply other.message) ∧ delivery.message = msg ∧
      waiting.map Delivery.message = rest.items := by
  have hitems : x.core.master.rx.items.dropWhile isString = msg :: rest.items :=
    Fifo.remove_eq_some.mp h
  have hsplit : x.view.waiting.map Delivery.message =
      x.core.master.rx.items.takeWhile isString ++ msg :: rest.items := by
    rw [hx, ← hitems, List.takeWhile_append_dropWhile]
  obtain ⟨skipped, others, hwaiting, hskipped, hothers⟩ := List.map_eq_append_iff.mp hsplit
  obtain ⟨delivery, waiting, rfl, hmsg, hrest⟩ := List.map_eq_cons_iff.mp hothers
  refine ⟨skipped, delivery, waiting, hwaiting, fun other hother => ?_, hmsg, hrest⟩
  have hmem : other.message ∈ x.core.master.rx.items.takeWhile isString := by
    rw [← hskipped]
    exact List.mem_map_of_mem hother
  exact isString_not_reply (List.mem_takeWhile_imp hmem)

/-- The view after a message is taken out of `rx`. -/
theorem view_taken {x y : Exchange} {skipped waiting : List Delivery} {delivery : Delivery}
    (hwaiting : x.view.waiting = skipped ++ delivery :: waiting)
    (hdeliveries : y.deliveries = x.deliveries)
    (hrx : waiting.map Delivery.message = y.core.master.rx.items) :
    y.view.dequeued = x.view.dequeued ++ skipped ++ [delivery] ∧ y.view.waiting = waiting := by
  refine view_eq ?_ hrx
  rw [hdeliveries, ← view_append, hwaiting]
  simp

theorem handleSpiSlaveEvent_refines {x : Exchange} (hx : x.RxInLine) {core : Core0}
    (h : handleSpiSlaveEvent x.core.master = .ok () core.master) :
    RxInLine { x with core := core } ∧
      Relation.ReflTransGen ExchangeView.Step x.view (view { x with core := core }) := by
  cases handleSpiSlaveEvent_handled h with
  | passedOn hwriting hreading hcollected hsetup hrx hsetups =>
      have hview : view { x with core := core } =
          { x.view with setupResponseDir := .readingResponse, collected := [] } := by
        unfold view dequeuedCount
        rw [hsetups, hsetup, hreading, hcollected, hrx]
      refine ⟨?_, ?_⟩
      · rw [RxInLine, hview, hrx]
        exact hx
      · rw [hview]
        exact .single (.passOn x.view hwriting)
  | idle hrx hnone hsame =>
      have htexts : ∀ delivery ∈ x.view.waiting, ¬ IsReply delivery.message := by
        intro delivery hmem
        have hin : delivery.message ∈ x.core.master.rx.items := by
          rw [← hx]
          exact List.mem_map_of_mem hmem
        have hdropped : x.core.master.rx.items.dropWhile isString = [] := by
          rw [← hnone, hrx]
          rfl
        exact isString_not_reply (List.dropWhile_eq_nil_iff.mp hdropped _ hin)
      have hall : x.deliveries = x.view.dequeued ++ x.view.waiting ++ [] := by
        rw [view_append, List.append_nil]
      obtain ⟨hdequeued, hwaiting⟩ := view_eq (x := { x with core := core }) hall hnone.symm
      refine ⟨?_, ?_⟩
      · rw [RxInLine, hwaiting]
        exact hnone.symm
      · have hskips := ExchangeView.skips htexts (List.append_nil x.view.waiting).symm
        have hview : view { x with core := core } =
            { x.view with dequeued := x.view.dequeued ++ x.view.waiting, waiting := [] } :=
          view_ext hsame.setups hsame.setup hsame.setupResponseDir hsame.collected hdequeued
            hwaiting
        rwa [hview]
  | other msg rest htaken hflag hsame =>
      obtain ⟨skipped, delivery, waiting, hwaiting, hskipped, rfl, hrest⟩ := taken_split hx htaken
      have hrx : core.master.rx = rest := hsame.rx
      obtain ⟨hdequeued, hleft⟩ := view_taken (y := { x with core := core }) hwaiting rfl
        (by rw [hrest, hrx])
      refine ⟨?_, ?_⟩
      · rw [RxInLine, hleft, hrest, hrx]
      · have hskips := ExchangeView.skips hskipped hwaiting
        have hview : view { x with core := core } =
            { x.view with
              dequeued := x.view.dequeued ++ skipped ++ [delivery], waiting := waiting } :=
          view_ext hsame.setups hsame.setup hsame.setupResponseDir hsame.collected hdequeued hleft
        rw [hview]
        exact hskips.tail (.skip _ delivery waiting rfl hflag)
  | reply msg rest hreading htaken hflag hhandled =>
      obtain ⟨skipped, delivery, waiting, hwaiting, hskipped, rfl, hrest⟩ := taken_split hx htaken
      have hskips := ExchangeView.skips hskipped hwaiting
      cases hhandled with
      | collected hlast happended =>
          have hrx : core.master.rx = rest := happended.rx
          obtain ⟨hdequeued, hleft⟩ := view_taken (y := { x with core := core }) hwaiting rfl
            (by rw [hrest, hrx])
          refine ⟨?_, ?_⟩
          · rw [RxInLine, hleft, hrest, hrx]
          · have hcollected := happended.collected
            rw [(handlerPacket_data _).1] at hcollected
            have hview : view { x with core := core } =
                { x.view with
                  dequeued := x.view.dequeued ++ skipped ++ [delivery], waiting := waiting
                  collected := x.view.collected ++ delivery.message.payload.dropLast } :=
              view_ext happended.setups happended.setup happended.setupResponseDir hcollected
                hdequeued hleft
            rw [hview]
            exact hskips.tail (.collect _ delivery waiting rfl hreading hflag
              fun h => hlast h.2)
      | responded hlast hsetup hdir hrx hsetups =>
          have hrx' : core.master.rx = rest := hrx
          obtain ⟨hdequeued, hleft⟩ := view_taken (y := { x with core := core }) hwaiting rfl
            (by rw [hrest, hrx'])
          refine ⟨?_, ?_⟩
          · rw [RxInLine, hleft, hrest, hrx']
          · have hview : view { x with core := core } =
                { x.view with
                  dequeued := x.view.dequeued ++ skipped ++ [delivery], waiting := waiting
                  collected := core.master.collected, setupResponseDir := .writingResponse } :=
              view_ext hsetups hsetup hdir rfl hdequeued hleft
            rw [hview]
            exact hskips.tail (.respond _ delivery waiting _ rfl hreading ⟨hflag, hlast⟩)

/-- A step that leaves the exchange alone. -/
theorem refines_of_same {x : Exchange} (hx : x.RxInLine) {core : Core0}
    (h : SameExchange x.core.master core.master) :
    RxInLine { x with core := core } ∧
      Relation.ReflTransGen ExchangeView.Step x.view (view { x with core := core }) := by
  have hview := view_of_same h
  refine ⟨?_, ?_⟩
  · rw [RxInLine, hview, h.rx]
    exact hx
  · rw [hview]

theorem dcdIrq_refines {x : Exchange} (hx : x.RxInLine)
    (horderly : x.core.setupReq = true → ∀ n, ¬ x.view.Outstanding n) {core : Core0}
    (h : dcdRp2040Irq x.core.ints x.core.master = .ok () core.master) :
    RxInLine { x with core := core } ∧
      Relation.ReflTransGen ExchangeView.Step x.view (view { x with core := core }) := by
  rcases dcdRp2040Irq_exchange h with ⟨hreq, hreceived⟩ | ⟨-, hsame⟩
  · obtain ⟨setup, hsetup, hsetups⟩ := hreceived.setups
    have hview : view { x with core := core } =
        { x.view with setups := x.view.setups ++ [setup], setup := setup } := by
      unfold view dequeuedCount
      rw [hsetups, hsetup, hreceived.setupResponseDir, hreceived.collected, hreceived.rx]
    refine ⟨?_, ?_⟩
    · rw [RxInLine, hview, hreceived.rx]
      exact hx
    · rw [hview]
      exact .single (.receive x.view setup (horderly hreq))
  · exact refines_of_same hx hsame

theorem deliver_refines {x : Exchange} (hx : x.RxInLine) {delivery : Delivery}
    (hmay : x.view.MayDeliver delivery) {rx : SpiQueue}
    (hadd : x.core.master.rx.add delivery.message = some rx) {core : Core0}
    (hcore : core.master = { x.core.master with rx := rx }) :
    RxInLine ⟨core, x.deliveries ++ [delivery]⟩ ∧
      Relation.ReflTransGen ExchangeView.Step x.view
        (view ⟨core, x.deliveries ++ [delivery]⟩) := by
  have hitems : core.master.rx.items = x.core.master.rx.items ++ [delivery.message] := by
    rw [hcore]
    exact (Fifo.add_eq_some.mp hadd).2
  have hsplit : x.deliveries ++ [delivery] =
      x.view.dequeued ++ (x.view.waiting ++ [delivery]) := by
    rw [← List.append_assoc, view_append]
  have hmap : (x.view.waiting ++ [delivery]).map Delivery.message = core.master.rx.items := by
    rw [List.map_append, hx, hitems]
    rfl
  obtain ⟨hdequeued, hwaiting⟩ :=
    view_eq (x := ⟨core, x.deliveries ++ [delivery]⟩) hsplit hmap
  have hview : view ⟨core, x.deliveries ++ [delivery]⟩ =
      { x.view with waiting := x.view.waiting ++ [delivery] } :=
    view_ext (by rw [hcore]; rfl) (by rw [hcore]; rfl) (by rw [hcore]; rfl) (by rw [hcore]; rfl)
      hdequeued hwaiting
  refine ⟨?_, ?_⟩
  · rw [RxInLine, hwaiting, hmap]
  · rw [hview]
    exact .single (.deliver x.view delivery hmay)

/-- Each orderly step of the master is a run of the exchange seen from outside. -/
theorem step_refines {x y : Exchange} {action : ExchangeAction} (hx : x.RxInLine)
    (horderly : x.Orderly action) (hstep : x.step action = some y) :
    y.RxInLine ∧ Relation.ReflTransGen ExchangeView.Step x.view y.view := by
  cases action with
  | master event =>
      cases event with
      | hostSetup packet =>
          cases hstep
          exact refines_of_same hx ⟨rfl, rfl, rfl, rfl, rfl, rfl⟩
      | hostReset =>
          cases hstep
          exact refines_of_same hx (refl_of SameExchange _)
      | hostIn num =>
          obtain ⟨core, hcore, rfl⟩ := Option.map_eq_some_iff.mp hstep
          obtain ⟨d, -, rfl⟩ := Option.map_eq_some_iff.mp hcore
          exact refines_of_same hx ⟨rfl, rfl, rfl, rfl, rfl, rfl⟩
      | hostOut num packet =>
          obtain ⟨core, hcore, rfl⟩ := Option.map_eq_some_iff.mp hstep
          obtain ⟨d, -, rfl⟩ := Option.map_eq_some_iff.mp hcore
          exact refines_of_same hx ⟨rfl, rfl, rfl, rfl, rfl, rfl⟩
      | receive message => cases hstep
      | handleSpiSlaveEvent =>
          obtain ⟨core, hcore, rfl⟩ := Option.map_eq_some_iff.mp hstep
          obtain ⟨master, hrun, rfl⟩ := runHandler_eq_some hcore
          exact handleSpiSlaveEvent_refines hx hrun
      | dcdIrq =>
          obtain ⟨core, hcore, rfl⟩ := Option.map_eq_some_iff.mp hstep
          obtain ⟨master, hrun, rfl⟩ := runHandler_eq_some hcore
          refine dcdIrq_refines hx (fun hreq n hout => ?_) hrun
          exact horderly hreq n hout.1.lt hout
  | deliver delivery =>
      simp only [step] at hstep
      split at hstep
      · rename_i hmay
        obtain ⟨core, hcore, rfl⟩ := Option.map_eq_some_iff.mp hstep
        obtain ⟨rx, hadd, rfl⟩ := Option.map_eq_some_iff.mp hcore
        exact deliver_refines hx hmay hadd rfl
      · cases hstep

/-- What holds of the exchange in an orderly run. -/
def InLine (x : Exchange) : Prop := x.RxInLine ∧ x.view.Invariant

theorem init_inLine (romWord : BitVec 32) : (init romWord).InLine := by
  refine ⟨rfl, nofun, nofun, .nil, ?_, nofun, ?_⟩
  · rintro n ⟨⟨setup, hsetup, -⟩, -⟩
    cases hsetup
  · intro _
    have hnot : ¬ (init romWord).view.Outstanding (init romWord).view.current := by
      rintro ⟨⟨setup, hsetup, -⟩, -⟩
      cases hsetup
    rw [if_neg hnot]
    rfl

theorem step_inLine {x y : Exchange} {action : ExchangeAction} (hx : x.InLine)
    (horderly : x.Orderly action) (hstep : x.step action = some y) : y.InLine := by
  obtain ⟨hrx, hsteps⟩ := step_refines hx.1 horderly hstep
  exact ⟨hrx, ExchangeView.steps_invariant hsteps hx.2⟩

theorem InLine.responseMatches {x : Exchange} (hx : x.InLine) : x.ResponseMatches := by
  intro more hmore response hmem
  obtain ⟨hrx, hinv⟩ := hx
  rcases handleSpiSlaveEvent_responses x.core.master with hsame |
    ⟨msg, rest, hreading, htaken, hlast, hnew⟩
  · have hnone : more = [] := by
      rw [hsame] at hmore
      exact List.append_right_eq_self.mp hmore.symm
    rw [hnone] at hmem
    cases hmem
  · have hone := List.append_cancel_left (hmore.symm.trans hnew)
    rw [hone] at hmem
    have hresponse := List.mem_singleton.mp hmem
    subst hresponse
    obtain ⟨skipped, delivery, waiting, hwaiting, hskipped, rfl, -⟩ := taken_split hrx htaken
    have hin : delivery ∈ x.view.waiting := by simp [hwaiting]
    obtain ⟨hopen, hcurrent⟩ := hinv.waiting_reply hin hlast.1
    have hcollected := hinv.reading hreading
    rw [hcurrent] at hopen
    rw [if_pos hopen] at hcollected
    refine ⟨?_, ?_⟩
    · have hlength := hopen.1.lt
      have hne : x.view.setups ≠ [] := List.ne_nil_of_length_pos (by omega)
      have hcurrentSetup := hinv.setup _ (List.getLast?_eq_some_getLast hne)
      rw [List.getLast?_eq_some_getLast hne]
      exact congrArg some hcurrentSetup.symm
    · have hbehind := hinv.nothing_behind hwaiting hlast
      have hbefore : repliesTo x.view.current skipped = [] :=
        repliesTo_eq_nil fun other hother hreply => absurd hreply (hskipped other hother)
      rw [hcurrent] at hbehind
      rw [← view_append, hwaiting, repliesTo_append, repliesTo_append, hbefore, List.nil_append,
        ← List.singleton_append, repliesTo_append, hbehind, List.append_nil, ← hcollected,
        ← hcurrent, ExchangeView.repliesTo_singleton delivery hlast.1]
      rfl

/-- In a run that handles setup packets only when no forwarded one is outstanding, every response
is interpreted under the setup packet that asked for it. -/
theorem responseMatches_of_orderly {romWord : BitVec 32} {actions : List ExchangeAction}
    {x : Exchange} (horderly : Machine.Guarded step Orderly (init romWord) actions)
    (hrun : Machine.run step (init romWord) actions = some x) : x.ResponseMatches :=
  InLine.responseMatches <| Machine.guarded_invariant
    (fun _ _ _ hx horderly hstep => step_inLine hx horderly hstep) (init_inLine romWord)
    horderly hrun

/-- A packet of a setup response. -/
def replyPacket (bytes : List UInt8) (h : bytes.length ≤ 64) (flags : UInt16) : SpiMessage where
  eFlag := MsgType.isPacket ||| MsgType.setupData ||| flags
  payload := bytes ++ [0x80]
  payload_lt := by
    simp
    omega

/-- The host asks for the device descriptor and the first of its packets arrives. -/
def deviceDescriptorStarted : List ExchangeAction :=
  [.master (.hostSetup ⟨0x80, 6, 0x0100, 0, 18⟩), .master .dcdIrq,
    .deliver ⟨0, replyPacket [18, 1, 0, 2, 0, 0, 0, 8] (by decide) 0⟩,
    .master .handleSpiSlaveEvent]

/-- The rest of the device descriptor. -/
def deviceDescriptorRest : ExchangeAction :=
  .deliver ⟨0, replyPacket [0x5e, 4, 0xa5, 7, 0x10, 1, 1, 2, 3, 1] (by decide)
    MsgType.lastPacket⟩

theorem deviceDescriptor_responseMatches :
    ∃ x, Machine.run step (init 0) (deviceDescriptorStarted ++ [deviceDescriptorRest]) = some x ∧
      x.ResponseMatches := by
  have hrun : ∃ x, Machine.run step (init 0)
      (deviceDescriptorStarted ++ [deviceDescriptorRest]) = some x ∧ x.core.busReset = false :=
    Machine.exists_run_of_any (by decide +kernel)
  obtain ⟨x, hx, -⟩ := hrun
  exact ⟨x, hx, responseMatches_of_orderly (by decide +kernel) hx⟩

/-- The host gives up on the device descriptor and asks for the configuration: the descriptor is
interpreted as the configuration. -/
theorem abandonedResponse_not_responseMatches :
    ¬ ∀ romWord actions x, Machine.run step (init romWord) actions = some x →
      x.ResponseMatches := by
  intro hclaim
  have hrun : ∃ x, Machine.run step (init 0)
      (deviceDescriptorStarted ++ [.master (.hostSetup ⟨0x80, 6, 0x0200, 0, 255⟩),
        .master .dcdIrq, deviceDescriptorRest]) = some x ∧
      repliesTo x.view.current x.deliveries = [] ∧
      responses (Program.final (handleSpiSlaveEvent x.core.master)).calls =
        responses x.core.master.calls ++ [(⟨0x80, 6, 0x0200, 0, 255⟩,
          [18, 1, 0, 2, 0, 0, 0, 8, 0x5e, 4, 0xa5, 7, 0x10, 1, 1, 2, 3, 1])] :=
    Machine.exists_run_of_any (by decide +kernel)
  obtain ⟨x, hx, hnone, hresponse⟩ := hrun
  obtain ⟨-, hbytes⟩ := hclaim 0 _ x hx _ hresponse _ (List.mem_singleton_self _)
  rw [hnone] at hbytes
  cases hbytes

end Exchange

end UsbSec.Device
