import SmartMeter.Dhcp.AddressPool
import SmartMeter.Dhcp.ClientTable

/-!
Leases over runs of the server: the address a client was acknowledged last stays with it until it
speaks again or is deleted.
-/

namespace SmartMeter

open DhcpServer

/-- The server, and the address it acknowledged last to each client. -/
structure LeaseWatch where
  server : DhcpServer
  acked : EtherAddr → Option UInt32

namespace LeaseWatch

def note (acked : EtherAddr → Option UInt32) (reply : DhcpReply) : EtherAddr → Option UInt32 :=
  if reply.msgType = dhcpMsgAck then Function.update acked reply.chaddr (some reply.yiaddr)
  else acked

def step (watch : LeaseWatch) (event : DhcpEvent) : LeaseWatch where
  server := event.step watch.server
  acked := (event.reply watch.server).elim watch.acked (note watch.acked)

end LeaseWatch

namespace DhcpEvent

/-- Only clients with a MAC address other than zero send messages. -/
def Known : DhcpEvent → Prop
  | message host packet => ∀ request, readRequest host packet = some request →
      request.chaddr ≠ .zero
  | tick => True
  | clientDelete _ => True

def Concerns (macAddr : EtherAddr) : DhcpEvent → Prop
  | message host packet => ∃ request, readRequest host packet = some request ∧
      request.chaddr = macAddr ∧ request.options.msgType ∈
        [dhcpMsgDiscover, dhcpMsgRequest, dhcpMsgRelease, dhcpMsgDecline]
  | tick => False
  | clientDelete deleted => deleted = macAddr

end DhcpEvent

namespace DhcpServer

variable {server before after left : DhcpServer} {macAddr other : EtherAddr} {ip : UInt32}

def Holds (server : DhcpServer) (macAddr : EtherAddr) (ip : UInt32) : Prop :=
  ∃ index, (server.clients index).state = .bind ∧ (server.clients index).macAddr = macAddr ∧
    (server.clients index).ipAddr = ip

theorem Handled.holds {outcome : Option DhcpReply × DhcpServer}
    (handled : Handled other before outcome) (foreign : macAddr ≠ other)
    (holds : before.Holds macAddr ip) : outcome.2.Holds macAddr ip := by
  obtain ⟨index, bound, mac, address⟩ := holds
  have live : (before.clients index).state ≠ .idle := by
    rw [bound]
    decide
  cases handled with
  | refused freed _ =>
      refine ⟨index, ?_⟩
      rw [freed.others index live (mac ▸ foreign)]
      exact ⟨bound, mac, address⟩
  | @granted left after given _ freed grantable grant _ _ _ =>
      have kept := freed.others index live (mac ▸ foreign)
      have apart : index ≠ given := by
        rintro rfl
        rcases grantable.1 with idle | own
        · exact live (kept ▸ idle)
        · exact foreign (mac.symm.trans (kept ▸ own))
      refine ⟨index, ?_⟩
      rw [grant.live index apart (kept ▸ live), kept]
      exact ⟨bound, mac, address⟩

theorem Handled.ipAddr {outcome : Option DhcpReply × DhcpServer}
    (handled : Handled macAddr before outcome) (index : Fin 8) :
    (outcome.2.clients index).ipAddr = (before.clients index).ipAddr := by
  cases handled with
  | refused freed _ => exact freed.ipAddr index
  | granted freed _ given _ _ _ => exact (given.ipAddr index).trans (freed.ipAddr index)

theorem handleRequest_other {request : DhcpRequest} (quiet : request.options.msgType ∉
    [dhcpMsgDiscover, dhcpMsgRequest, dhcpMsgRelease, dhcpMsgDecline]) :
    (server.handleRequest request).2 = server := by
  simp only [List.mem_cons, List.not_mem_nil, or_false, not_or] at quiet
  obtain ⟨discover, ask, release, decline⟩ := quiet
  simp [handleRequest, clientTableLookup, takeMac, discover, ask, release, decline]

theorem dhcpTickHandle_holds (holds : server.Holds macAddr ip) :
    server.dhcpTickHandle.Holds macAddr ip := by
  obtain ⟨index, bound, rest⟩ := holds
  refine ⟨index, ?_⟩
  unfold dhcpTickHandle
  split
  · exact ⟨bound, rest⟩
  · simp only [bound, reduceCtorEq, false_and, if_false, true_and]
    exact rest

theorem clientDelete_holds (foreign : macAddr ≠ other) (holds : server.Holds macAddr ip) :
    (server.clientDelete other).2.Holds macAddr ip := by
  rcases server.clientDelete_cases other with same | ⟨deleted, own, cleared⟩
  · rwa [same]
  · obtain ⟨index, bound, mac, address⟩ := holds
    have apart : index ≠ deleted := by
      rintro rfl
      exact foreign (mac.symm.trans own)
    rw [cleared]
    refine ⟨index, ?_⟩
    rw [setClient_other _ apart]
    exact ⟨bound, mac, address⟩

end DhcpServer

open DhcpServer

section Step

variable {server : DhcpServer} {macAddr : EtherAddr} {ip : UInt32}

theorem DhcpEvent.step_holds (exclusive : server.Exclusive) {event : DhcpEvent}
    (elsewhere : ¬event.Concerns macAddr) (holds : server.Holds macAddr ip) :
    (event.step server).Holds macAddr ip := by
  cases event with
  | message host packet =>
      dsimp only [step, dhcpsRecvCb]
      cases read : readRequest host packet with
      | none => exact holds
      | some request =>
          by_cases own : request.chaddr = macAddr
          · rw [handleRequest_other fun talks => elsewhere ⟨request, read, own, talks⟩]
            exact holds
          · exact (handleRequest_handled exclusive request).holds (Ne.symm own) holds
  | tick => exact dhcpTickHandle_holds holds
  | clientDelete deleted => exact clientDelete_holds (Ne.symm elsewhere) holds

theorem run_holds (exclusive : server.Exclusive) {events : List DhcpEvent}
    (elsewhere : ∀ event ∈ events, ¬event.Concerns macAddr) (holds : server.Holds macAddr ip) :
    (events.foldl DhcpEvent.step server).Holds macAddr ip := by
  induction events generalizing server with
  | nil => exact holds
  | cons event rest ih =>
      obtain ⟨first, later⟩ := List.forall_mem_cons.mp elsewhere
      exact ih (DhcpEvent.step_exclusive exclusive event) later
        (DhcpEvent.step_holds exclusive first holds)

theorem DhcpEvent.step_ipAddr (exclusive : server.Exclusive) (event : DhcpEvent) (index : Fin 8) :
    ((event.step server).clients index).ipAddr = (server.clients index).ipAddr := by
  cases event with
  | message host packet =>
      dsimp only [step, dhcpsRecvCb]
      cases readRequest host packet with
      | none => rfl
      | some request => exact (handleRequest_handled exclusive request).ipAddr index
  | tick => exact server.dhcpTickHandle_faded.ipAddr index
  | clientDelete deleted => exact (server.clientDelete_faded deleted).ipAddr index

/-- An event that is answered is a message that was let in. -/
theorem DhcpEvent.reply_handled (exclusive : server.Exclusive) {event : DhcpEvent}
    {reply : DhcpReply} (sent : event.reply server = some reply) :
    ∃ macAddr, Handled macAddr server (some reply, event.step server) := by
  cases event with
  | message host packet =>
      dsimp only [DhcpEvent.reply, step, dhcpsRecvCb] at sent ⊢
      cases read : readRequest host packet with
      | none =>
          rw [read] at sent
          cases sent
      | some request =>
          rw [read] at sent
          have handled := handleRequest_handled exclusive request
          refine ⟨request.chaddr, ?_⟩
          rwa [← sent]
  | tick => cases sent
  | clientDelete deleted => cases sent

theorem granted_holder {outcome : DhcpServer} {reply : DhcpReply}
    (handled : Handled macAddr server (some reply, outcome))
    (grant : reply.msgType = dhcpMsgOffer ∨ reply.msgType = dhcpMsgAck) :
    reply.chaddr = macAddr ∧ ∃ index, (outcome.clients index).macAddr = macAddr ∧
      (outcome.clients index).ipAddr = reply.yiaddr ∧
        (reply.msgType = dhcpMsgAck → (outcome.clients index).state = .bind) := by
  cases handled with
  | refused _ nak =>
      have kind := nak reply rfl
      rw [kind] at grant
      exact absurd grant (by decide)
  | @granted _ _ index _ _ _ given client address kind =>
      refine ⟨client, index, given.owner, address.symm, ?_⟩
      intro ack
      rcases kind with ⟨offer, _⟩ | ⟨_, bound⟩
      · exact absurd (offer.symm.trans ack) (by decide)
      · exact bound

theorem ack_holds (exclusive : server.Exclusive) {event : DhcpEvent} {reply : DhcpReply}
    (sent : event.reply server = some reply) (ack : reply.msgType = dhcpMsgAck) :
    (event.step server).Holds reply.chaddr reply.yiaddr := by
  obtain ⟨_, handled⟩ := DhcpEvent.reply_handled exclusive sent
  obtain ⟨rfl, index, owner, address, bound⟩ := granted_holder handled (.inr ack)
  exact ⟨index, bound ack, owner, address⟩

/-- While a client is bound to an address, nobody else is granted it. -/
theorem grant_to_holder (exclusive : server.Exclusive)
    (distinct : Function.Injective fun index => (server.clients index).ipAddr)
    {event : DhcpEvent} {reply : DhcpReply} (sent : event.reply server = some reply)
    (grant : reply.msgType = dhcpMsgOffer ∨ reply.msgType = dhcpMsgAck)
    (holds : server.Holds macAddr reply.yiaddr) : reply.chaddr = macAddr := by
  obtain ⟨client, handled⟩ := DhcpEvent.reply_handled exclusive sent
  obtain ⟨rfl, granted, owner, address, _⟩ := granted_holder handled grant
  by_contra foreign
  obtain ⟨held, _, mac, same⟩ := handled.holds (Ne.symm foreign) holds
  have here : held = granted := by
    apply distinct
    dsimp only
    rw [← DhcpEvent.step_ipAddr exclusive event, ← DhcpEvent.step_ipAddr exclusive event, same,
      address]
  rw [here, owner] at mac
  exact foreign mac

/-- What the run keeps: the table is exclusive, and a bound client has the address it was
acknowledged last. -/
structure LeaseWatch.Leased (watch : LeaseWatch) : Prop where
  exclusive : watch.server.Exclusive
  known : ∀ index, (watch.server.clients index).state ≠ .idle →
    (watch.server.clients index).macAddr ≠ .zero
  acked : ∀ index, (watch.server.clients index).state = .bind →
    watch.acked (watch.server.clients index).macAddr = some (watch.server.clients index).ipAddr

theorem LeaseWatch.Leased.faded {watch : LeaseWatch} (leased : watch.Leased)
    {after : DhcpServer} (faded : Faded watch.server after) :
    LeaseWatch.Leased ⟨after, watch.acked⟩ where
  exclusive := faded.exclusive leased.exclusive
  known index live := by
    obtain ⟨state, mac⟩ := faded.live index live
    rw [mac]
    exact leased.known index (state ▸ live)
  acked index bound := by
    have live : (after.clients index).state ≠ .idle := by
      rw [bound]
      decide
    obtain ⟨state, mac⟩ := faded.live index live
    dsimp only
    rw [mac, faded.ipAddr]
    exact leased.acked index (state ▸ bound)

theorem LeaseWatch.Leased.handled {watch : LeaseWatch} (leased : watch.Leased)
    {reply : Option DhcpReply} {after : DhcpServer} (known : macAddr ≠ .zero)
    (handled : Handled macAddr watch.server (reply, after)) :
    LeaseWatch.Leased ⟨after, reply.elim watch.acked (note watch.acked)⟩ := by
  cases handled with
  | refused freed nak =>
      have quiet : reply.elim watch.acked (note watch.acked) = watch.acked := by
        cases reply with
        | none => rfl
        | some sent =>
            have kind := nak sent rfl
            simp [note, kind, dhcpMsgNak, dhcpMsgAck]
      rw [quiet]
      exact leased.faded freed.faded
  | @granted left _ index sent freed grantable given client address kind =>
      have before := leased.faded freed.faded
      constructor
      case exclusive => exact given.exclusive before.exclusive grantable
      case known =>
        intro other live
        by_cases here : other = index
        · rw [here, given.owner]
          exact known
        · obtain ⟨liveLeft, same⟩ := given.live_before here live
          dsimp only
          rw [same]
          exact before.known other liveLeft
      case acked =>
        intro other bound
        have live : (after.clients other).state ≠ .idle := by
          rw [bound]
          decide
        by_cases here : other = index
        · subst here
          have ack : sent.msgType = dhcpMsgAck := by
            rcases kind with ⟨_, request⟩ | ⟨ack, _⟩
            · cases request.symm.trans bound
            · exact ack
          simp [note, ack, client, given.owner, address]
        · have foreign := mt (given.own grantable live).mp here
          obtain ⟨_, same⟩ := given.live_before here live
          have noted : note watch.acked sent (after.clients other).macAddr =
              watch.acked (after.clients other).macAddr := by
            unfold note
            split
            · rw [client, Function.update_of_ne foreign]
            · rfl
          dsimp only [Option.elim_some] at bound ⊢
          rw [noted, same]
          exact before.acked other (same ▸ bound)

theorem LeaseWatch.Leased.step {watch : LeaseWatch} (leased : watch.Leased) {event : DhcpEvent}
    (known : event.Known) : (watch.step event).Leased := by
  cases event with
  | message host packet =>
      dsimp only [LeaseWatch.step, DhcpEvent.step, DhcpEvent.reply, dhcpsRecvCb]
      cases read : readRequest host packet with
      | none => exact leased
      | some request =>
          exact leased.handled (known request read) (handleRequest_handled leased.exclusive request)
  | tick => exact leased.faded watch.server.dhcpTickHandle_faded
  | clientDelete deleted => exact leased.faded (watch.server.clientDelete_faded deleted)

theorem LeaseWatch.Leased.run {watch : LeaseWatch} (leased : watch.Leased)
    {events : List DhcpEvent} (known : ∀ event ∈ events, event.Known) :
    (events.foldl LeaseWatch.step watch).Leased := by
  induction events generalizing watch with
  | nil => exact leased
  | cons event rest ih =>
      obtain ⟨first, later⟩ := List.forall_mem_cons.mp known
      exact ih (leased.step first) later

theorem LeaseWatch.Leased.start {netif : Netif} {pcb : Bool} {before : DhcpServer}
    (started : dhcpsStart netif pcb before = some (0, server)) :
    LeaseWatch.Leased ⟨server, fun _ => none⟩ where
  exclusive := dhcpsStart_exclusive started
  known index live := absurd (dhcpsStart_idle started index).1 live
  acked index bound := by
    dsimp only at bound
    rw [(dhcpsStart_idle started index).1] at bound
    cases bound

theorem getIpByMac_bound (exclusive : server.Exclusive) {index : Fin 8}
    (bound : (server.clients index).state = .bind)
    (known : (server.clients index).macAddr ≠ .zero) :
    server.getIpByMac (server.clients index).macAddr = some (server.clients index).ipAddr := by
  cases found : server.firstClient
      fun client => client.macAddr = (server.clients index).macAddr with
  | none => simpa using firstClient_none found index
  | some first =>
      have same := of_decide_eq_true (firstClient_some found)
      rw [getIpByMac, found, Option.map_some, exclusive.bound index first bound known same]

theorem run_ipAddr (exclusive : server.Exclusive) (events : List DhcpEvent) (index : Fin 8) :
    ((events.foldl DhcpEvent.step server).clients index).ipAddr =
      (server.clients index).ipAddr := by
  induction events generalizing server with
  | nil => rfl
  | cons event rest ih =>
      rw [List.foldl_cons, ih (DhcpEvent.step_exclusive exclusive event),
        DhcpEvent.step_ipAddr exclusive event]

end Step

def firstLease : List DhcpEvent :=
  [.message .admitting (dhcpPacket [2, 0, 0, 0, 0, 1] [53, 1, 1]),
    .message .admitting (dhcpPacket [2, 0, 0, 0, 0, 1] [53, 1, 3, 50, 4, 192, 168, 1, 2])]

theorem firstLease_known : ∀ event ∈ firstLease, event.Known := by
  have macs : ∀ packet ∈ [dhcpPacket [2, 0, 0, 0, 0, 1] [53, 1, 1],
      dhcpPacket [2, 0, 0, 0, 0, 1] [53, 1, 3, 50, 4, 192, 168, 1, 2]],
      (readRequest .admitting packet).map DhcpRequest.chaddr ≠ some .zero := by decide +kernel
  simp only [firstLease, List.forall_mem_cons, DhcpEvent.Known] at macs ⊢
  refine ⟨?_, ?_, fun _ none => nomatch none⟩
  · intro request read zero
    exact macs.1 (by rw [read, Option.map_some, zero])
  · intro request read zero
    exact macs.2.1 (by rw [read, Option.map_some, zero])

end SmartMeter
