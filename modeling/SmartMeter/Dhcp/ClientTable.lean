import SmartMeter.Dhcp.DhcpCore

/-!
What one message, tick or deletion does to the table: a client gives up its own entry or is granted
one, and the entries that other clients hold stay as they are. Hence no two clients share an entry.
-/

namespace SmartMeter

namespace DhcpServer

variable {server before left after : DhcpServer} {macAddr : EtherAddr}

theorem firstClient_some {wanted : DhcpClient → Bool} {index : Fin 8}
    (found : server.firstClient wanted = some index) : wanted (server.clients index) = true := by
  simpa using List.find?_some found

theorem firstClient_none {wanted : DhcpClient → Bool} (missing : server.firstClient wanted = none)
    (index : Fin 8) : wanted (server.clients index) = false := by
  simpa using List.find?_eq_none.mp missing index (List.mem_finRange index)

theorem firstClient_idle {wanted : DhcpClient → Prop} [DecidablePred wanted] {index : Fin 8}
    (found : server.firstClient (fun client => client.state = .idle ∧ wanted client) =
      some index) : (server.clients index).state = .idle :=
  (of_decide_eq_true (firstClient_some found)).1

theorem myClient_some {mine : Fin 8} (found : server.myClient macAddr = some mine) :
    (server.clients mine).state ≠ .idle ∧ (server.clients mine).macAddr = macAddr := by
  simpa using List.find?_some found

theorem myClient_none (missing : server.myClient macAddr = none) {index : Fin 8}
    (live : (server.clients index).state ≠ .idle) : (server.clients index).macAddr ≠ macAddr := by
  have other := List.find?_eq_none.mp missing index (by simp)
  simpa [live] using other

theorem reqClient_some {reqIpAddr : UInt32} {index : Fin 8}
    (found : server.reqClient reqIpAddr = some index) :
    (server.clients index).state = .idle ∧ (server.clients index).ipAddr = reqIpAddr := by
  simpa using firstClient_some found

@[simp] theorem setClient_same (server : DhcpServer) (index : Fin 8) (client : DhcpClient) :
    (server.setClient index client).clients index = client := Function.update_self ..

theorem setClient_other (server : DhcpServer) {index other : Fin 8} (apart : other ≠ index)
    (client : DhcpClient) : (server.setClient index client).clients other = server.clients other :=
  Function.update_of_ne apart ..

structure Exclusive (server : DhcpServer) : Prop where
  lone : ∀ first second, (server.clients first).state ≠ .idle →
    (server.clients second).state ≠ .idle →
    (server.clients first).macAddr = (server.clients second).macAddr → first = second
  bound : ∀ index other, (server.clients index).state = .bind →
    (server.clients index).macAddr ≠ .zero →
    (server.clients other).macAddr = (server.clients index).macAddr → other = index
  settled : ∀ index, (server.clients index).state ≠ .select

theorem Exclusive.mine (exclusive : server.Exclusive) {mine index : Fin 8}
    (found : server.myClient macAddr = some mine)
    (live : (server.clients index).state ≠ .idle)
    (same : (server.clients index).macAddr = macAddr) : index = mine := by
  obtain ⟨liveMine, own⟩ := myClient_some found
  exact exclusive.lone index mine live liveMine (same.trans own.symm)

/-- The client gives up the entry it has, or keeps it; nothing else changes. -/
structure Freed (macAddr : EtherAddr) (before left : DhcpServer) : Prop where
  ipAddr : ∀ index, (left.clients index).ipAddr = (before.clients index).ipAddr
  others : ∀ index, (before.clients index).state ≠ .idle →
    (before.clients index).macAddr ≠ macAddr → left.clients index = before.clients index
  live : ∀ index, (left.clients index).state ≠ .idle → left.clients index = before.clients index
  macs : ∀ index, (left.clients index).macAddr = (before.clients index).macAddr ∨
    (left.clients index).macAddr = .zero

theorem Freed.refl (macAddr : EtherAddr) (server : DhcpServer) : Freed macAddr server server :=
  ⟨fun _ => rfl, fun _ _ _ => rfl, fun _ _ => rfl, fun _ => .inl rfl⟩

theorem Freed.release {mine : Fin 8} (found : before.myClient macAddr = some mine)
    {client : DhcpClient} (idle : client.state = .idle)
    (ipAddr : client.ipAddr = (before.clients mine).ipAddr)
    (mac : client.macAddr = (before.clients mine).macAddr ∨ client.macAddr = .zero) :
    Freed macAddr before (before.setClient mine client) := by
  have own := (myClient_some found).2
  refine ⟨?_, ?_, ?_, ?_⟩
  · intro index
    by_cases same : index = mine
    · rw [same, setClient_same, ipAddr]
    · rw [setClient_other _ same]
  · intro index _ other
    have apart : index ≠ mine := by
      rintro rfl
      exact other own
    exact setClient_other _ apart _
  · intro index live
    by_cases same : index = mine
    · rw [same, setClient_same] at live
      exact absurd idle live
    · exact setClient_other _ same _
  · intro index
    by_cases same : index = mine
    · rw [same, setClient_same]
      exact mac
    · exact .inl (by rw [setClient_other _ same])

/-- An entry that may be handed to the client: the client holds no other. -/
def Grantable (macAddr : EtherAddr) (left : DhcpServer) (index : Fin 8) : Prop :=
  ((left.clients index).state = .idle ∨ (left.clients index).macAddr = macAddr) ∧
    ∀ other, (left.clients other).state ≠ .idle → (left.clients other).macAddr = macAddr →
      other = index

structure LookedUp (macAddr : EtherAddr) (before left : DhcpServer) (found : Option (Fin 8)) :
    Prop where
  freed : Freed macAddr before left
  grantable : ∀ index, found = some index → Grantable macAddr left index

section Lookups

variable (reqIpAddr serverId : UInt32)

theorem grantable_of_released (exclusive : before.Exclusive) {mine index : Fin 8}
    (found : before.myClient macAddr = some mine) {client : DhcpClient}
    (idle : client.state = .idle)
    (free : index = mine ∨ (before.clients index).state = .idle) :
    Grantable macAddr (before.setClient mine client) index := by
  have none (other : Fin 8) (live : ((before.setClient mine client).clients other).state ≠ .idle) :
      ((before.setClient mine client).clients other).macAddr ≠ macAddr := by
    by_cases same : other = mine
    · rw [same, setClient_same] at live
      exact absurd idle live
    · rw [setClient_other _ same] at live ⊢
      exact fun own => same (exclusive.mine found live own)
  refine ⟨.inl ?_, fun other live own => absurd own (none other live)⟩
  by_cases same : index = mine
  · rw [same, setClient_same, idle]
  · rw [setClient_other _ same]
    exact free.resolve_left same

theorem grantable_of_new (missing : before.myClient macAddr = none) {index : Fin 8}
    (idle : (before.clients index).state = .idle) : Grantable macAddr before index :=
  ⟨.inl idle, fun _ live own => absurd own (myClient_none missing live)⟩

theorem forget_toIdle_mac (client : DhcpClient) :
    client.forget.toIdle.macAddr = client.macAddr ∨ client.forget.toIdle.macAddr = .zero := by
  by_cases bound : client.state = .bind
  · exact .inl (by simp [DhcpClient.forget, DhcpClient.toIdle, bound])
  · exact .inr (by simp [DhcpClient.forget, DhcpClient.toIdle, bound])

theorem forget_ipAddr (client : DhcpClient) : client.forget.ipAddr = client.ipAddr := by
  unfold DhcpClient.forget
  split <;> rfl

theorem toIdle_forget (client : DhcpClient) :
    client.toIdle.forget = { client with state := .idle, macAddr := .zero } := by
  simp [DhcpClient.forget, DhcpClient.toIdle]

theorem freed_forget {mine : Fin 8} (found : before.myClient macAddr = some mine) :
    Freed macAddr before (before.setClient mine (before.clients mine).forget.toIdle) :=
  Freed.release found rfl (forget_ipAddr _) (forget_toIdle_mac _)

theorem lookupDiscover_spec (exclusive : before.Exclusive) :
    LookedUp macAddr before (before.lookupDiscover macAddr reqIpAddr).2
      (before.lookupDiscover macAddr reqIpAddr).1 := by
  rw [lookupDiscover]
  cases mine : before.myClient macAddr with
  | some mineIndex =>
      cases requested : before.reqClient reqIpAddr with
      | some index =>
          dsimp only
          rw [toIdle_forget]
          refine ⟨Freed.release mine rfl rfl (.inr rfl), ?_⟩
          rintro _ ⟨⟩
          exact grantable_of_released exclusive mine rfl (.inr (reqClient_some requested).1)
      | none =>
          refine ⟨Freed.release mine rfl rfl (.inl rfl), ?_⟩
          rintro _ ⟨⟩
          exact grantable_of_released exclusive mine rfl (.inl rfl)
  | none =>
      refine ⟨Freed.refl _ _, ?_⟩
      intro index found
      apply grantable_of_new mine
      simp only [Option.orElse_eq_orElse, Option.orElse_eq_or, Option.or_eq_some_iff] at found
      rcases found with found | ⟨_, found | ⟨_, found | ⟨_, found⟩⟩⟩
      · exact firstClient_idle found
      · exact firstClient_idle found
      · exact firstClient_idle found
      · exact firstClient_idle found

theorem lookupRequest_spec (exclusive : before.Exclusive) :
    LookedUp macAddr before (before.lookupRequest macAddr reqIpAddr serverId).2
      (before.lookupRequest macAddr reqIpAddr serverId).1 := by
  rw [lookupRequest]
  cases mine : before.myClient macAddr with
  | some mineIndex =>
      dsimp only
      have freed := freed_forget mine
      by_cases taken : before.ipUnavailable macAddr reqIpAddr = true
      · rw [if_pos taken]
        exact ⟨freed, fun index found => nomatch found⟩
      · rw [if_neg taken]
        cases requested : before.reqClient reqIpAddr with
        | some index =>
            refine ⟨freed, ?_⟩
            intro granted found
            obtain ⟨_, same⟩ := Option.ite_none_right_eq_some.mp found
            cases same
            exact grantable_of_released exclusive mine rfl (.inr (reqClient_some requested).1)
        | none =>
            refine ⟨Freed.refl _ _, ?_⟩
            intro granted found
            obtain ⟨_, same⟩ := Option.ite_none_right_eq_some.mp found
            cases same
            exact ⟨.inr (myClient_some mine).2, fun _ live own => exclusive.mine mine live own⟩
  | none =>
      dsimp only
      by_cases taken : before.ipUnavailable macAddr reqIpAddr = true
      · rw [if_pos taken]
        exact ⟨Freed.refl _ _, fun index found => nomatch found⟩
      · rw [if_neg taken]
        refine ⟨Freed.refl _ _, ?_⟩
        intro granted found
        obtain ⟨_, requested⟩ := Option.ite_none_right_eq_some.mp found
        exact grantable_of_new mine (reqClient_some requested).1

theorem lookupRelease_spec (before : DhcpServer) (macAddr : EtherAddr) :
    (before.lookupRelease macAddr).1 = none ∧
      Freed macAddr before (before.lookupRelease macAddr).2 := by
  rw [lookupRelease]
  cases mine : before.myClient macAddr with
  | some mineIndex => exact ⟨rfl, freed_forget mine⟩
  | none => exact ⟨rfl, Freed.refl _ _⟩

theorem clientTableLookup_spec (macAddr : EtherAddr) (exclusive : before.Exclusive)
    (msgType : UInt8) :
    ∃ left found, LookedUp macAddr before left found ∧
      before.clientTableLookup macAddr reqIpAddr serverId msgType =
        takeMac macAddr (found, left) := by
  unfold clientTableLookup
  by_cases discover : msgType = dhcpMsgDiscover
  · exact ⟨_, _, lookupDiscover_spec reqIpAddr exclusive, by rw [if_pos discover]⟩
  · rw [if_neg discover]
    by_cases request : msgType = dhcpMsgRequest
    · exact ⟨_, _, lookupRequest_spec reqIpAddr serverId exclusive, by rw [if_pos request]⟩
    · rw [if_neg request]
      by_cases release : msgType = dhcpMsgRelease ∨ msgType = dhcpMsgDecline
      · obtain ⟨nobody, freed⟩ := lookupRelease_spec before macAddr
        refine ⟨_, none, ⟨freed, fun index found => nomatch found⟩, ?_⟩
        rw [if_pos release, ← nobody]
      · refine ⟨_, none, ⟨Freed.refl _ before, fun index found => nomatch found⟩, ?_⟩
        rw [if_neg release]

end Lookups

/-- Entry `index` goes to the client, offered or bound. A bound client leaves no history. -/
structure Granted (macAddr : EtherAddr) (left after : DhcpServer) (index : Fin 8) : Prop where
  ipAddr : ∀ other, (after.clients other).ipAddr = (left.clients other).ipAddr
  owner : (after.clients index).macAddr = macAddr
  state : (after.clients index).state = .request ∨ (after.clients index).state = .bind
  live : ∀ other, other ≠ index → (left.clients other).state ≠ .idle →
    after.clients other = left.clients other
  idle : ∀ other, other ≠ index → (left.clients other).state = .idle →
    (after.clients other).state = .idle
  macs : ∀ other, other ≠ index → (after.clients other).macAddr = (left.clients other).macAddr ∨
    (after.clients other).macAddr = .zero
  clean : (after.clients index).state = .bind → macAddr ≠ .zero → ∀ other, other ≠ index →
    (after.clients other).state = .idle → (after.clients other).macAddr ≠ macAddr

theorem Granted.offer {index : Fin 8} {client : DhcpClient} (owner : client.macAddr = macAddr)
    (state : client.state = .request) (ipAddr : client.ipAddr = (left.clients index).ipAddr) :
    Granted macAddr left (left.setClient index client) index where
  ipAddr other := by
    by_cases same : other = index
    · rw [same, setClient_same, ipAddr]
    · rw [setClient_other _ same]
  owner := by rw [setClient_same, owner]
  state := .inl (by rw [setClient_same, state])
  live _ apart _ := setClient_other _ apart _
  idle _ apart idle := by rw [setClient_other _ apart, idle]
  macs _ apart := .inl (by rw [setClient_other _ apart])
  clean bound := by
    rw [setClient_same, state] at bound
    cases bound

theorem cleanClientHistory_live (macAddr : EtherAddr) {index : Fin 8} (live : (server.clients index).state ≠ .idle) :
    (server.cleanClientHistory macAddr).clients index = server.clients index := by
  simp [cleanClientHistory, live]

theorem cleanClientHistory_state (index : Fin 8) :
    ((server.cleanClientHistory macAddr).clients index).state =
      (server.clients index).state := by
  dsimp only [cleanClientHistory]
  split <;> rfl

theorem cleanClientHistory_ipAddr (index : Fin 8) :
    ((server.cleanClientHistory macAddr).clients index).ipAddr =
      (server.clients index).ipAddr := by
  dsimp only [cleanClientHistory]
  split <;> rfl

theorem cleanClientHistory_macs (macAddr : EtherAddr) (index : Fin 8) :
    ((server.cleanClientHistory macAddr).clients index).macAddr =
        (server.clients index).macAddr ∨
      ((server.cleanClientHistory macAddr).clients index).macAddr = .zero := by
  dsimp only [cleanClientHistory]
  split
  · exact .inr rfl
  · exact .inl rfl

theorem cleanClientHistory_idle (known : macAddr ≠ .zero) {index : Fin 8}
    (idle : (server.clients index).state = .idle) :
    ((server.cleanClientHistory macAddr).clients index).macAddr ≠ macAddr := by
  dsimp only [cleanClientHistory]
  split
  · exact known.symm
  · rename_i other
    exact fun same => other ⟨idle, same⟩

theorem Granted.acknowledge {index : Fin 8} {client : DhcpClient}
    (owner : client.macAddr = macAddr) (state : client.state = .bind)
    (ipAddr : client.ipAddr = (left.clients index).ipAddr) :
    Granted macAddr left ((left.setClient index client).cleanClientHistory macAddr) index := by
  have live : ((left.setClient index client).clients index).state ≠ .idle := by
    rw [setClient_same, state]
    decide
  have given := cleanClientHistory_live macAddr live
  rw [setClient_same] at given
  constructor
  case ipAddr =>
    intro other
    rw [cleanClientHistory_ipAddr]
    by_cases same : other = index
    · rw [same, setClient_same, ipAddr]
    · rw [setClient_other _ same]
  case owner => rw [given, owner]
  case state => exact .inr (by rw [given, state])
  case live =>
    intro other apart live
    rw [cleanClientHistory_live macAddr (by rwa [setClient_other _ apart]), setClient_other _ apart]
  case idle =>
    intro other apart idle
    rw [cleanClientHistory_state, setClient_other _ apart, idle]
  case macs =>
    intro other apart
    have macs := (left.setClient index client).cleanClientHistory_macs macAddr other
    rwa [setClient_other _ apart] at macs
  case clean =>
    intro _ known other _ idle
    rw [cleanClientHistory_state] at idle
    exact cleanClientHistory_idle known idle

theorem setClient_offer (index : Fin 8) (client : DhcpClient) (xid : UInt32) (flags : UInt16) :
    ((server.setClient index client).offer index xid flags).2 =
      server.setClient index
        { client with timeout := dhcpDeffaultTimeout, state := .request } := by
  simp [offer, setClient]

theorem setClient_acknowledge (index : Fin 8) (client : DhcpClient) (xid : UInt32)
    (flags : UInt16) :
    ((server.setClient index client).acknowledge index xid flags).2 =
      (server.setClient index
        { client with lease := dhcpDefaultLeaseTime, state := .bind }).cleanClientHistory
          client.macAddr := by
  simp [acknowledge, setClient]

theorem dhcpClientSMEHandle_eq {index : Fin 8} (settled : (server.clients index).state ≠ .select)
    (xid : UInt32) (flags : UInt16) (msgType : UInt8) :
    server.dhcpClientSMEHandle index xid flags msgType =
      if (server.clients index).state = .idle ∧ msgType ≠ dhcpMsgRequest then
        server.offer index xid flags
      else server.acknowledge index xid flags := by
  cases state : (server.clients index).state with
  | idle =>
      by_cases discover : msgType = dhcpMsgDiscover
      · subst discover
        simp [dhcpClientSMEHandle, state, offer, setClient, dhcpOfferGenAndSend,
          dhcpGrantGenAndSend, dhcpMsgDiscover, dhcpMsgRequest]
      · by_cases request : msgType = dhcpMsgRequest
        · simp [dhcpClientSMEHandle, state, request, dhcpMsgDiscover, dhcpMsgRequest]
        · simp [dhcpClientSMEHandle, state, discover, request]
  | select => exact absurd state settled
  | request => simp [dhcpClientSMEHandle, state]
  | bind => simp [dhcpClientSMEHandle, state]

/-- What a message of the client comes to: its entry is given up and it is refused, or an entry is
offered or acknowledged to it. -/
inductive Handled (macAddr : EtherAddr) (before : DhcpServer) :
    Option DhcpReply × DhcpServer → Prop
  | refused {left : DhcpServer} {reply : Option DhcpReply} (freed : Freed macAddr before left)
      (nak : ∀ sent, reply = some sent → sent.msgType = dhcpMsgNak) :
      Handled macAddr before (reply, left)
  | granted {left after : DhcpServer} {index : Fin 8} {reply : DhcpReply}
      (freed : Freed macAddr before left) (grantable : Grantable macAddr left index)
      (given : Granted macAddr left after index) (client : reply.chaddr = macAddr)
      (address : reply.yiaddr = (after.clients index).ipAddr)
      (kind : reply.msgType = dhcpMsgOffer ∧ (after.clients index).state = .request ∨
        reply.msgType = dhcpMsgAck ∧ (after.clients index).state = .bind) :
      Handled macAddr before (some reply, after)

theorem LookedUp.settled {found : Option (Fin 8)} (exclusive : before.Exclusive)
    (looked : LookedUp macAddr before left found) (index : Fin 8) :
    (left.clients index).state ≠ .select := by
  intro select
  have live : (left.clients index).state ≠ .idle := by
    rw [select]
    decide
  rw [looked.freed.live index live] at select
  exact exclusive.settled index select

theorem handleRequest_handled (exclusive : before.Exclusive) (request : DhcpRequest) :
    Handled request.chaddr before (before.handleRequest request) := by
  obtain ⟨left, found, looked, lookup⟩ := clientTableLookup_spec request.options.reqIpAddr
    request.options.serverId request.chaddr exclusive request.options.msgType
  unfold handleRequest
  dsimp only
  rw [lookup]
  cases found with
  | none =>
      dsimp only [takeMac]
      split
      · apply Handled.refused looked.freed
        rintro _ ⟨⟩
        rfl
      · apply Handled.refused looked.freed
        rintro _ ⟨⟩
  | some index =>
      dsimp only [takeMac]
      have settled := looked.settled exclusive index
      rw [dhcpClientSMEHandle_eq (by simpa using settled)]
      split
      · apply Handled.granted looked.freed (looked.grantable index rfl)
        · rw [setClient_offer]
          exact Granted.offer rfl rfl rfl
        · simp [offer, dhcpOfferGenAndSend, dhcpGrantGenAndSend]
        · simp [offer, dhcpOfferGenAndSend, dhcpGrantGenAndSend]
        · exact .inl ⟨rfl, by simp [offer]⟩
      · apply Handled.granted looked.freed (looked.grantable index rfl)
        · rw [setClient_acknowledge]
          exact Granted.acknowledge rfl rfl rfl
        · simp [acknowledge, dhcpAckGenAndSend, dhcpGrantGenAndSend]
        · simp [acknowledge, dhcpAckGenAndSend, dhcpGrantGenAndSend, cleanClientHistory_ipAddr]
        · exact .inr ⟨rfl, by simp [acknowledge, cleanClientHistory_state]⟩

/-- Entries may become idle and lose their MAC address. -/
structure Faded (before after : DhcpServer) : Prop where
  ipAddr : ∀ index, (after.clients index).ipAddr = (before.clients index).ipAddr
  live : ∀ index, (after.clients index).state ≠ .idle →
    (after.clients index).state = (before.clients index).state ∧
      (after.clients index).macAddr = (before.clients index).macAddr
  macs : ∀ index, (after.clients index).macAddr = (before.clients index).macAddr ∨
    (after.clients index).macAddr = .zero

theorem Freed.faded (freed : Freed macAddr before left) : Faded before left where
  ipAddr := freed.ipAddr
  live index live := by rw [freed.live index live]; exact ⟨rfl, rfl⟩
  macs := freed.macs

theorem Faded.exclusive (exclusive : before.Exclusive) (faded : Faded before after) :
    after.Exclusive := by
  constructor
  case lone =>
    intro first second firstLive secondLive same
    obtain ⟨firstState, firstMac⟩ := faded.live first firstLive
    obtain ⟨secondState, secondMac⟩ := faded.live second secondLive
    apply exclusive.lone first second (firstState ▸ firstLive) (secondState ▸ secondLive)
    rw [← firstMac, ← secondMac, same]
  case bound =>
    intro index other bound known same
    obtain ⟨state, mac⟩ := faded.live index (by rw [bound]; decide)
    rw [mac] at known same
    apply exclusive.bound index other (state ▸ bound) known
    rcases faded.macs other with kept | zero
    · rw [← kept, same]
    · exact absurd (same.symm.trans zero) known
  case settled =>
    intro index select
    obtain ⟨state, _⟩ := faded.live index (by rw [select]; decide)
    exact exclusive.settled index (state.symm.trans select)

theorem Granted.live_before {index other : Fin 8} (given : Granted macAddr left after index)
    (apart : other ≠ index) (live : (after.clients other).state ≠ .idle) :
    (left.clients other).state ≠ .idle ∧ after.clients other = left.clients other := by
  have liveLeft : (left.clients other).state ≠ .idle :=
    fun idle => live (given.idle other apart idle)
  exact ⟨liveLeft, given.live other apart liveLeft⟩

/-- The client has no other entry, and no other client has this one. -/
theorem Granted.own {index other : Fin 8} (given : Granted macAddr left after index)
    (grantable : Grantable macAddr left index) (live : (after.clients other).state ≠ .idle) :
    (after.clients other).macAddr = macAddr ↔ other = index := by
  constructor
  · intro own
    by_contra apart
    obtain ⟨liveLeft, same⟩ := given.live_before apart live
    exact apart (grantable.2 other liveLeft (same ▸ own))
  · rintro rfl
    exact given.owner

theorem Granted.exclusive {index : Fin 8} (exclusive : left.Exclusive)
    (grantable : Grantable macAddr left index) (given : Granted macAddr left after index) :
    after.Exclusive := by
  constructor
  case lone =>
    intro first second firstLive secondLive same
    have firstOwn := given.own grantable firstLive
    have secondOwn := given.own grantable secondLive
    by_cases own : (after.clients first).macAddr = macAddr
    · rw [firstOwn.mp own, secondOwn.mp (same ▸ own)]
    · have secondApart : second ≠ index := fun here => own (same.trans (secondOwn.mpr here))
      obtain ⟨firstLeft, firstSame⟩ := given.live_before (fun here => own (firstOwn.mpr here))
        firstLive
      obtain ⟨secondLeft, secondSame⟩ := given.live_before secondApart secondLive
      rw [firstSame, secondSame] at same
      exact exclusive.lone first second firstLeft secondLeft same
  case bound =>
    intro bound other isBound known same
    have live : (after.clients bound).state ≠ .idle := by
      rw [isBound]
      decide
    have own := given.own grantable live
    by_cases here : bound = index
    · subst here
      rw [given.owner] at known same
      by_cases idle : (after.clients other).state = .idle
      · by_contra apart
        exact given.clean isBound known other apart idle same
      · exact (given.own grantable idle).mp same
    · obtain ⟨_, boundSame⟩ := given.live_before here live
      have foreign : (after.clients bound).macAddr ≠ macAddr := fun mine => here (own.mp mine)
      have apart : other ≠ index := by
        rintro rfl
        exact foreign (same.symm.trans given.owner)
      rcases given.macs other apart with kept | zero
      · rw [boundSame] at isBound known same
        exact exclusive.bound bound other isBound known (kept ▸ same)
      · exact absurd (same.symm.trans zero) known
  case settled =>
    intro other select
    by_cases here : other = index
    · subst here
      rcases given.state with state | state
      · cases state.symm.trans select
      · cases state.symm.trans select
    · obtain ⟨_, same⟩ := given.live_before here (by rw [select]; decide)
      exact exclusive.settled other (same ▸ select)

theorem Handled.exclusive {outcome : Option DhcpReply × DhcpServer} (exclusive : before.Exclusive)
    (handled : Handled macAddr before outcome) : outcome.2.Exclusive := by
  cases handled with
  | refused freed _ => exact freed.faded.exclusive exclusive
  | granted freed grantable given _ _ _ =>
      exact given.exclusive (freed.faded.exclusive exclusive) grantable

theorem dhcpTickHandle_faded (server : DhcpServer) : Faded server server.dhcpTickHandle := by
  unfold dhcpTickHandle
  by_cases enabled : server.enable = false
  · rw [if_pos enabled]
    exact ⟨fun _ => rfl, fun _ _ => ⟨rfl, rfl⟩, fun _ => .inl rfl⟩
  · rw [if_neg enabled]
    constructor
    case ipAddr =>
      intro index
      dsimp only
      split
      · split <;> rfl
      · rfl
    case live =>
      intro index
      dsimp only
      split
      · split
        · exact fun live => absurd rfl live
        · exact fun _ => ⟨rfl, rfl⟩
      · exact fun _ => ⟨rfl, rfl⟩
    case macs =>
      intro index
      dsimp only
      split
      · split
        · exact .inr rfl
        · exact .inl rfl
      · exact .inl rfl

theorem clientDelete_cases (server : DhcpServer) (macAddr : EtherAddr) :
    (server.clientDelete macAddr).2 = server ∨
      ∃ index, (server.clients index).macAddr = macAddr ∧
        (server.clientDelete macAddr).2 =
          server.setClient index (server.clients index).toIdle := by
  unfold clientDelete
  by_cases enabled : server.enable = false
  · exact .inl (by rw [if_pos enabled])
  · rw [if_neg enabled]
    split
    · rename_i index found
      by_cases bound : (server.clients index).state ≠ .bind
      · exact .inl (by rw [if_pos bound])
      · rw [if_neg bound]
        exact .inr ⟨index, (of_decide_eq_true (firstClient_some found)).2, rfl⟩
    · exact .inl rfl

theorem clientDelete_faded (server : DhcpServer) (macAddr : EtherAddr) :
    Faded server (server.clientDelete macAddr).2 := by
  rcases server.clientDelete_cases macAddr with same | ⟨index, _, deleted⟩
  · rw [same]
    exact ⟨fun _ => rfl, fun _ _ => ⟨rfl, rfl⟩, fun _ => .inl rfl⟩
  · rw [deleted]
    constructor
    case ipAddr =>
      intro other
      by_cases here : other = index
      · rw [here, setClient_same, DhcpClient.toIdle]
      · rw [setClient_other _ here]
    case live =>
      intro other live
      by_cases here : other = index
      · rw [here, setClient_same] at live
        exact absurd rfl live
      · rw [setClient_other _ here]
        exact ⟨rfl, rfl⟩
    case macs =>
      intro other
      left
      by_cases here : other = index
      · rw [here, setClient_same, DhcpClient.toIdle]
      · rw [setClient_other _ here]

theorem dhcpsRecvCb_exclusive (host : DhcpHost) (packet : List UInt8)
    (exclusive : before.Exclusive) : (before.dhcpsRecvCb host packet).2.Exclusive := by
  unfold dhcpsRecvCb
  split
  · exact (handleRequest_handled exclusive _).exclusive exclusive
  · exact exclusive

end DhcpServer

theorem DhcpEvent.step_exclusive {server : DhcpServer} (exclusive : server.Exclusive)
    (event : DhcpEvent) : (event.step server).Exclusive := by
  cases event with
  | message host packet => exact DhcpServer.dhcpsRecvCb_exclusive host packet exclusive
  | tick => exact server.dhcpTickHandle_faded.exclusive exclusive
  | clientDelete macAddr => exact (server.clientDelete_faded macAddr).exclusive exclusive

theorem dhcpsStart_idle {netif : Netif} {pcb : Bool} {before started : DhcpServer}
    (ran : dhcpsStart netif pcb before = some (0, started)) (index : Fin 8) :
    (started.clients index).state = .idle ∧ (started.clients index).macAddr = .zero := by
  unfold dhcpsStart at ran
  cases up : netif.up with
  | false => simp [up] at ran
  | true =>
      simp only [up, Bool.true_eq_false, if_false, Option.bind_eq_bind, Option.bind_eq_some_iff,
        Option.pure_def, Option.some.injEq, Prod.mk.injEq] at ran
      obtain ⟨_, _, _, _, _, rfl⟩ := ran
      exact ⟨rfl, rfl⟩

theorem dhcpsStart_exclusive {netif : Netif} {pcb : Bool} {before started : DhcpServer}
    (ran : dhcpsStart netif pcb before = some (0, started)) : started.Exclusive where
  lone first _ live := absurd (dhcpsStart_idle ran first).1 live
  bound index _ bound := by
    rw [(dhcpsStart_idle ran index).1] at bound
    cases bound
  settled index := by
    rw [(dhcpsStart_idle ran index).1]
    decide

theorem exclusive_of_run {server : DhcpServer} (exclusive : server.Exclusive)
    (events : List DhcpEvent) : (events.foldl DhcpEvent.step server).Exclusive := by
  induction events generalizing server with
  | nil => exact exclusive
  | cons event rest ih => exact ih (DhcpEvent.step_exclusive exclusive event)

end SmartMeter
