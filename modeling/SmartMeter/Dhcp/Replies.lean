import SmartMeter.Dhcp.AddressPool
import SmartMeter.Dhcp.ClientTable

/-!
Which reply a message gets. The entry the lookup returns says nothing about why it was chosen, so
the reply fits the request only when the lookup had the entry that was asked for.
-/

namespace SmartMeter

open DhcpServer

/-- The reply fits the request that `server` got. -/
structure DhcpReply.Matches (server : DhcpServer) (request : DhcpRequest) (reply : DhcpReply) :
    Prop where
  offer : reply.msgType = dhcpMsgOffer → request.options.msgType = dhcpMsgDiscover
  answer : reply.msgType = dhcpMsgAck ∨ reply.msgType = dhcpMsgNak →
    request.options.msgType = dhcpMsgRequest
  address : reply.msgType = dhcpMsgAck → request.options.msgType = dhcpMsgRequest →
    request.options.hasReqIpAddr = true → reply.yiaddr = request.options.reqIpAddr
  elsewhere : reply.msgType = dhcpMsgAck → request.options.msgType = dhcpMsgRequest →
    request.options.hasServerId = true → request.options.serverId = server.serverIpAddr

namespace DhcpServer

variable {server before left : DhcpServer} {macAddr : EtherAddr} {request : DhcpRequest}

/-- A `DISCOVER` finds an entry; a `REQUEST` that is acknowledged finds the address it asks for,
and its server id is not zero. Other messages are not answered. -/
structure Proper (server : DhcpServer) (request : DhcpRequest) : Prop where
  known : request.options.msgType ∈
    [dhcpMsgDiscover, dhcpMsgRequest, dhcpMsgRelease, dhcpMsgDecline]
  room : request.options.msgType = dhcpMsgDiscover → ∃ index,
    (server.clients index).state = .idle ∨ (server.clients index).macAddr = request.chaddr
  address : request.options.msgType = dhcpMsgRequest →
    server.ipUnavailable request.chaddr request.options.reqIpAddr = false →
    server.forMe request.options.serverId → request.options.hasReqIpAddr = true →
    server.reqClient request.options.reqIpAddr = none →
    ∀ mine, server.myClient request.chaddr = some mine →
      (server.clients mine).ipAddr = request.options.reqIpAddr
  elsewhere : request.options.msgType = dhcpMsgRequest →
    server.ipUnavailable request.chaddr request.options.reqIpAddr = false →
    server.forMe request.options.serverId → request.options.hasServerId = true →
    (server.reqClient request.options.reqIpAddr).or (server.myClient request.chaddr) ≠ none →
    request.options.serverId = server.serverIpAddr

def gist (reply : Option DhcpReply) : Option (UInt8 × UInt32) :=
  reply.map fun reply => (reply.msgType, reply.yiaddr)

theorem handleRequest_gist {found : Option (Fin 8)} (exclusive : before.Exclusive)
    (looked : LookedUp request.chaddr before left found)
    (lookup : before.clientTableLookup request.chaddr request.options.reqIpAddr
      request.options.serverId request.options.msgType = takeMac request.chaddr (found, left)) :
    gist (before.handleRequest request).1 =
      found.elim
        (if request.options.msgType ≠ dhcpMsgRelease ∧ request.options.msgType ≠ dhcpMsgDecline
          then some (dhcpMsgNak, 0)
          else none)
        fun index => some
          (if (left.clients index).state = .idle ∧ request.options.msgType ≠ dhcpMsgRequest
            then dhcpMsgOffer
            else dhcpMsgAck, (before.clients index).ipAddr) := by
  unfold handleRequest
  dsimp only
  rw [lookup]
  cases found with
  | none =>
      dsimp only [takeMac]
      split <;> rfl
  | some index =>
      dsimp only [takeMac]
      have settled := looked.settled exclusive index
      rw [dhcpClientSMEHandle_eq (by simpa using settled), setClient_same]
      dsimp only
      by_cases offered : (left.clients index).state = .idle ∧
          request.options.msgType ≠ dhcpMsgRequest
      · rw [if_pos offered, Option.elim_some, if_pos offered]
        simp [gist, offer, dhcpOfferGenAndSend, dhcpGrantGenAndSend, looked.freed.ipAddr]
      · rw [if_neg offered, Option.elim_some, if_neg offered]
        simp [gist, acknowledge, dhcpAckGenAndSend, dhcpGrantGenAndSend, looked.freed.ipAddr]

theorem lookupDiscover_idle (reqIpAddr : UInt32) {index : Fin 8}
    (found : (server.lookupDiscover macAddr reqIpAddr).1 = some index) :
    ((server.lookupDiscover macAddr reqIpAddr).2.clients index).state = .idle := by
  rw [lookupDiscover] at found ⊢
  cases mine : server.myClient macAddr with
  | some mineIndex =>
      rw [mine] at found
      dsimp only at found ⊢
      cases requested : server.reqClient reqIpAddr with
      | some requestedIndex =>
          rw [requested] at found
          cases found
          dsimp only
          by_cases same : index = mineIndex
          · rw [same, setClient_same, toIdle_forget]
          · rw [setClient_other _ same]
            exact (reqClient_some requested).1
      | none =>
          rw [requested] at found
          cases found
          dsimp only
          rw [setClient_same, DhcpClient.toIdle]
  | none =>
      rw [mine] at found
      dsimp only at found ⊢
      simp only [Option.orElse_eq_orElse, Option.orElse_eq_or, Option.or_eq_some_iff] at found
      rcases found with found | ⟨_, found | ⟨_, found | ⟨_, found⟩⟩⟩
      · exact firstClient_idle found
      · exact firstClient_idle found
      · exact firstClient_idle found
      · exact firstClient_idle found

theorem lookupDiscover_none_iff (server : DhcpServer) (macAddr : EtherAddr)
    (reqIpAddr : UInt32) :
    (server.lookupDiscover macAddr reqIpAddr).1 = none ↔ ¬∃ index,
      (server.clients index).state = .idle ∨ (server.clients index).macAddr = macAddr := by
  rw [lookupDiscover]
  cases mine : server.myClient macAddr with
  | some mineIndex =>
      have own := (myClient_some mine).2
      have room : ∃ index, (server.clients index).state = .idle ∨
          (server.clients index).macAddr = macAddr := ⟨mineIndex, .inr own⟩
      simp only [room, not_true_eq_false, iff_false]
      cases server.reqClient reqIpAddr with
      | some requested => exact Option.some_ne_none requested
      | none => exact Option.some_ne_none mineIndex
  | none =>
      simp only [Option.orElse_eq_orElse, Option.orElse_eq_or, Option.or_eq_none_iff]
      constructor
      · rintro ⟨_, _, free, history⟩ ⟨index, room⟩
        have busy : (server.clients index).state ≠ .idle := by
          intro idle
          have used := firstClient_none free index
          have fresh := firstClient_none history index
          simp only [idle, true_and, decide_eq_false_iff_not] at used fresh
          exact fresh used
        rcases room with idle | own
        · exact busy idle
        · exact myClient_none mine busy own
      · intro full
        have busy (index : Fin 8) : (server.clients index).state ≠ .idle :=
          fun idle => full ⟨index, .inl idle⟩
        have nobody (wanted : DhcpClient → Prop) [DecidablePred wanted] :
            server.firstClient (fun client => client.state = .idle ∧ wanted client) = none := by
          simp [firstClient, busy]
        exact ⟨nobody _, nobody _, nobody _, nobody _⟩

theorem lookupRequest_found (reqIpAddr serverId : UInt32) :
    (server.lookupRequest macAddr reqIpAddr serverId).1 =
      if server.ipUnavailable macAddr reqIpAddr = false ∧ server.forMe serverId then
        (server.reqClient reqIpAddr).or (server.myClient macAddr)
      else none := by
  rw [lookupRequest]
  cases server.myClient macAddr with
  | some mine =>
      cases taken : server.ipUnavailable macAddr reqIpAddr with
      | true => simp
      | false => cases server.reqClient reqIpAddr <;> simp
  | none =>
      cases taken : server.ipUnavailable macAddr reqIpAddr with
      | true => simp
      | false => simp

theorem gist_none {reply : Option DhcpReply} (silent : gist reply = none) : reply = none :=
  Option.map_eq_none_iff.mp silent

theorem gist_some {reply : Option DhcpReply} {msgType : UInt8} {yiaddr : UInt32}
    (sent : gist reply = some (msgType, yiaddr)) :
    ∃ answer, reply = some answer ∧ answer.msgType = msgType ∧ answer.yiaddr = yiaddr := by
  obtain ⟨answer, given, same⟩ := Option.map_eq_some_iff.mp sent
  obtain ⟨type, address⟩ := Prod.mk.inj same
  exact ⟨answer, given, type, address⟩

section Types

variable (exclusive : before.Exclusive)
include exclusive

theorem other_matches_iff (unknown : request.options.msgType ∉
    [dhcpMsgDiscover, dhcpMsgRequest, dhcpMsgRelease, dhcpMsgDecline]) :
    (∀ reply, (before.handleRequest request).1 = some reply → reply.Matches before request) ↔
      before.Proper request := by
  refine iff_of_false ?_ fun proper => unknown proper.known
  intro fits
  have types := unknown
  simp only [List.mem_cons, List.not_mem_nil, or_false, not_or] at types
  obtain ⟨discover, ask, release, decline⟩ := types
  have looked : LookedUp request.chaddr before before none :=
    ⟨Freed.refl request.chaddr before, fun index found => nomatch found⟩
  have gist := handleRequest_gist exclusive looked
    (by simp [clientTableLookup, discover, ask, release, decline])
  rw [Option.elim_none, if_pos ⟨release, decline⟩] at gist
  obtain ⟨reply, sent, nak, _⟩ := gist_some gist
  exact ask ((fits reply sent).answer (.inr nak))

theorem release_matches_iff (release : request.options.msgType = dhcpMsgRelease ∨
    request.options.msgType = dhcpMsgDecline) :
    (∀ reply, (before.handleRequest request).1 = some reply → reply.Matches before request) ↔
      before.Proper request := by
  have discover : request.options.msgType ≠ dhcpMsgDiscover := by
    rcases release with type | type <;> rw [type] <;> decide
  have ask : request.options.msgType ≠ dhcpMsgRequest := by
    rcases release with type | type <;> rw [type] <;> decide
  obtain ⟨nobody, freed⟩ := lookupRelease_spec before request.chaddr
  have looked : LookedUp request.chaddr before (before.lookupRelease request.chaddr).2 none :=
    ⟨freed, fun index found => nomatch found⟩
  have gist := handleRequest_gist exclusive looked
    (by rw [clientTableLookup, if_neg discover, if_neg ask, if_pos release, ← nobody])
  have quiet : ¬(request.options.msgType ≠ dhcpMsgRelease ∧
      request.options.msgType ≠ dhcpMsgDecline) := by
    rcases release with type | type <;> simp [type]
  rw [Option.elim_none, if_neg quiet] at gist
  refine iff_of_true ?_ ⟨?_, fun type => absurd type discover, fun type => absurd type ask,
    fun type => absurd type ask⟩
  · rw [gist_none gist]
    exact fun _ sent => nomatch sent
  · rcases release with type | type <;> simp [type]

theorem discover_matches_iff (discover : request.options.msgType = dhcpMsgDiscover) :
    (∀ reply, (before.handleRequest request).1 = some reply → reply.Matches before request) ↔
      before.Proper request := by
  have ask : request.options.msgType ≠ dhcpMsgRequest := by
    rw [discover]
    decide
  have gist := handleRequest_gist exclusive
    (lookupDiscover_spec request.options.reqIpAddr exclusive)
    (by rw [clientTableLookup, if_pos discover])
  have room := lookupDiscover_none_iff before request.chaddr request.options.reqIpAddr
  cases found : (before.lookupDiscover request.chaddr request.options.reqIpAddr).1 with
  | none =>
      rw [found, Option.elim_none, if_pos (by rw [discover]; decide)] at gist
      obtain ⟨reply, sent, nak, _⟩ := gist_some gist
      exact iff_of_false (fun fits => ask ((fits reply sent).answer (.inr nak)))
        fun proper => room.mp found (proper.room discover)
  | some index =>
      have idle := lookupDiscover_idle request.options.reqIpAddr found
      rw [found, Option.elim_some, if_pos ⟨idle, ask⟩] at gist
      obtain ⟨reply, sent, offer, _⟩ := gist_some gist
      have ack : reply.msgType ≠ dhcpMsgAck := by
        rw [offer]
        decide
      have nak : reply.msgType ≠ dhcpMsgNak := by
        rw [offer]
        decide
      refine iff_of_true ?_ ⟨by simp [discover], fun _ => ?_, fun type => absurd type ask,
        fun type => absurd type ask⟩
      · intro answer same
        cases sent.symm.trans same
        exact ⟨fun _ => discover, fun kind => absurd kind (not_or.mpr ⟨ack, nak⟩),
          fun kind => absurd kind ack, fun kind => absurd kind ack⟩
      · by_contra full
        rw [room.mpr full] at found
        cases found

theorem request_matches_iff (ask : request.options.msgType = dhcpMsgRequest) :
    (∀ reply, (before.handleRequest request).1 = some reply → reply.Matches before request) ↔
      before.Proper request := by
  have discover : request.options.msgType ≠ dhcpMsgDiscover := by
    rw [ask]
    decide
  have gist := handleRequest_gist exclusive
    (lookupRequest_spec request.options.reqIpAddr request.options.serverId exclusive)
    (by rw [clientTableLookup, if_neg discover, if_pos ask])
  rw [lookupRequest_found] at gist
  have known : request.options.msgType ∈
      [dhcpMsgDiscover, dhcpMsgRequest, dhcpMsgRelease, dhcpMsgDecline] := by simp [ask]
  have nakGist (reply : DhcpReply) (nak : reply.msgType = dhcpMsgNak) :
      reply.Matches before request := by
    have offer : reply.msgType ≠ dhcpMsgOffer := by
      rw [nak]
      decide
    have ack : reply.msgType ≠ dhcpMsgAck := by
      rw [nak]
      decide
    exact ⟨fun kind => absurd kind offer, fun _ => ask, fun kind => absurd kind ack,
      fun kind => absurd kind ack⟩
  by_cases mayGrant : before.ipUnavailable request.chaddr request.options.reqIpAddr = false ∧
      before.forMe request.options.serverId
  case neg =>
    rw [if_neg mayGrant, Option.elim_none, if_pos (by rw [ask]; decide)] at gist
    obtain ⟨reply, sent, nak, _⟩ := gist_some gist
    refine iff_of_true ?_ ⟨known, fun type => absurd type discover,
      fun _ free mine => absurd ⟨free, mine⟩ mayGrant,
      fun _ free mine => absurd ⟨free, mine⟩ mayGrant⟩
    intro answer same
    cases sent.symm.trans same
    exact nakGist reply nak
  case pos =>
    rw [if_pos mayGrant] at gist
    cases found : (before.reqClient request.options.reqIpAddr).or
        (before.myClient request.chaddr) with
    | none =>
        obtain ⟨noRequested, noMine⟩ := Option.or_eq_none_iff.mp found
        rw [found, Option.elim_none, if_pos (by rw [ask]; decide)] at gist
        obtain ⟨reply, sent, nak, _⟩ := gist_some gist
        refine iff_of_true ?_ ⟨known, fun type => absurd type discover, ?_,
          fun _ _ _ _ some => absurd found some⟩
        · intro answer same
          cases sent.symm.trans same
          exact nakGist reply nak
        · intro _ _ _ _ _ mine own
          cases noMine.symm.trans own
    | some index =>
        rw [found, Option.elim_some, if_neg fun offered => offered.2 ask] at gist
        obtain ⟨reply, sent, ack, address⟩ := gist_some gist
        constructor
        · intro fits
          have fit := fits reply sent
          refine ⟨known, fun type => absurd type discover, ?_,
            fun _ _ _ named _ => fit.elsewhere ack ask named⟩
          intro _ _ _ named missing mine own
          rw [missing, own, Option.none_or] at found
          cases found
          rw [← address]
          exact fit.address ack ask named
        · intro proper answer same
          cases sent.symm.trans same
          have offer : reply.msgType ≠ dhcpMsgOffer := by
            rw [ack]
            decide
          refine ⟨fun kind => absurd kind offer, fun _ => ask, ?_, ?_⟩
          · intro _ _ named
            rw [address]
            rcases Option.or_eq_some_iff.mp found with requested | ⟨missing, own⟩
            · exact (reqClient_some requested).2
            · exact proper.address ask mayGrant.1 mayGrant.2 named missing index own
          · intro _ _ named
            exact proper.elsewhere ask mayGrant.1 mayGrant.2 named (by rw [found]; nofun)

theorem handleRequest_matches_iff :
    (∀ reply, (before.handleRequest request).1 = some reply → reply.Matches before request) ↔
      before.Proper request := by
  by_cases discover : request.options.msgType = dhcpMsgDiscover
  · exact discover_matches_iff exclusive discover
  by_cases ask : request.options.msgType = dhcpMsgRequest
  · exact request_matches_iff exclusive ask
  by_cases release : request.options.msgType = dhcpMsgRelease ∨
      request.options.msgType = dhcpMsgDecline
  · exact release_matches_iff exclusive release
  · apply other_matches_iff exclusive
    rw [not_or] at release
    simp [discover, ask, release]

end Types

end DhcpServer

/-- In every state the server can reach, a reply fits its message exactly if the message is
proper there. -/
theorem replies_match_iff {netif : Netif} {pcb : Bool} {before server : DhcpServer}
    (started : dhcpsStart netif pcb before = some (0, server)) (events : List DhcpEvent)
    (host : DhcpHost) (packet : List UInt8) :
    let reached := events.foldl DhcpEvent.step server
    (∀ request reply, readRequest host packet = some request →
      (reached.dhcpsRecvCb host packet).1 = some reply → reply.Matches reached request) ↔
      ∀ request, readRequest host packet = some request → reached.Proper request := by
  intro reached
  have exclusive : reached.Exclusive := exclusive_of_run (dhcpsStart_exclusive started) events
  unfold dhcpsRecvCb
  cases readRequest host packet with
  | none => simp
  | some request =>
      have handled := @handleRequest_matches_iff reached request exclusive
      constructor
      · rintro fits _ ⟨⟩
        exact handled.mp fun reply => fits request reply rfl
      · rintro proper _ reply ⟨⟩
        exact handled.mpr (proper request rfl) reply

theorem replies_match_first_discover :
    ∃ server, dhcpsStart ⟨true, 0x0101A8C0, 0x00FFFFFF⟩ true .off = some (0, server) ∧
      ∀ request reply,
        readRequest .admitting (dhcpPacket [2, 0, 0, 0, 0, 1] [53, 1, 1]) = some request →
        (server.dhcpsRecvCb .admitting (dhcpPacket [2, 0, 0, 0, 0, 1] [53, 1, 1])).1 =
          some reply → reply.Matches server request := by
  let server := ((dhcpsStart ⟨true, 0x0101A8C0, 0x00FFFFFF⟩ true .off).get rfl).2
  let packet := dhcpPacket [2, 0, 0, 0, 0, 1] [53, 1, 1]
  have started : dhcpsStart ⟨true, 0x0101A8C0, 0x00FFFFFF⟩ true .off = some (0, server) := rfl
  refine ⟨server, started, (replies_match_iff started [] .admitting packet).mpr ?_⟩
  intro request read
  have type : (readRequest .admitting packet).map (fun request => request.options.msgType) =
      some dhcpMsgDiscover := by decide +kernel
  rw [read] at type
  have discover : request.options.msgType = dhcpMsgDiscover := Option.some.inj type
  have ask : request.options.msgType ≠ dhcpMsgRequest := by
    rw [discover]
    decide
  exact ⟨by simp [discover], fun _ => ⟨0, .inl (dhcpsStart_idle started 0).1⟩,
    fun type => absurd type ask, fun type => absurd type ask⟩

/-- A client that was offered 192.168.1.2 and asks for 10.0.0.1 is acknowledged 192.168.1.2. -/
theorem wrong_address_acknowledged :
    ∃ server, dhcpsStart ⟨true, 0x0101A8C0, 0x00FFFFFF⟩ true .off = some (0, server) ∧
      let reached := [DhcpEvent.message .admitting
        (dhcpPacket [2, 0, 0, 0, 0, 1] [53, 1, 1])].foldl DhcpEvent.step server
      ∃ request reply,
        readRequest .admitting
          (dhcpPacket [2, 0, 0, 0, 0, 1] [53, 1, 3, 50, 4, 10, 0, 0, 1]) = some request ∧
        (reached.dhcpsRecvCb .admitting
          (dhcpPacket [2, 0, 0, 0, 0, 1] [53, 1, 3, 50, 4, 10, 0, 0, 1])).1 = some reply ∧
        ¬reply.Matches reached request := by
  let server := ((dhcpsStart ⟨true, 0x0101A8C0, 0x00FFFFFF⟩ true .off).get rfl).2
  refine ⟨server, rfl, ?_⟩
  intro reached
  let packet := dhcpPacket [2, 0, 0, 0, 0, 1] [53, 1, 3, 50, 4, 10, 0, 0, 1]
  have asked : (readRequest .admitting packet).map (fun request => (request.options.msgType,
      request.options.hasReqIpAddr, request.options.reqIpAddr)) =
        some (dhcpMsgRequest, true, 0x0100000A) := by decide +kernel
  have given : gist (reached.dhcpsRecvCb .admitting packet).1 =
      some (dhcpMsgAck, 0x0201A8C0) := by decide +kernel
  obtain ⟨request, read, options⟩ := Option.map_eq_some_iff.mp asked
  obtain ⟨reply, sent, ack, address⟩ := gist_some given
  simp only [Prod.mk.injEq] at options
  obtain ⟨ask, named, wanted⟩ := options
  refine ⟨request, reply, read, sent, ?_⟩
  intro fits
  have same := fits.address ack ask named
  rw [address, wanted] at same
  exact absurd same (by decide)

end SmartMeter
