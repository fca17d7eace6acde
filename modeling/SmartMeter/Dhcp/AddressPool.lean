import SmartMeter.Dhcp.DhcpCore
import SmartMeter.Library.BitFields

/-!
The addresses that `DHCPS_Start` gives to the table. The host part of an address is counted on
modulo the host mask, with 1 in the place of 0.
-/

namespace SmartMeter

open BitFields

namespace Netif

def hostMask (netif : Netif) : UInt32 := ~~~ntohl netif.netmask

def hostPart (netif : Netif) : UInt32 := ntohl netif.ipAddr &&& netif.hostMask

/-- A contiguous netmask that leaves at least 16 host addresses. -/
def Roomy (netif : Netif) : Prop :=
  ∃ bits, netif.hostMask.toNat + 1 = 2 ^ bits ∧ 16 ≤ 2 ^ bits

structure Usable (netif : Netif) (server : DhcpServer) : Prop where
  distinct : ∀ first second,
    (server.clients first).ipAddr = (server.clients second).ipAddr → first = second
  subnet : ∀ index, ntohl (server.clients index).ipAddr &&& ntohl netif.netmask =
    ntohl netif.ipAddr &&& ntohl netif.netmask
  network : ∀ index, ntohl (server.clients index).ipAddr ≠
    ntohl netif.ipAddr &&& ntohl netif.netmask
  broadcast : ∀ index, ntohl (server.clients index).ipAddr ≠
    (ntohl netif.ipAddr &&& ntohl netif.netmask) ||| netif.hostMask
  own : ∀ index, (server.clients index).ipAddr ≠ netif.ipAddr

/-- No division by zero, and eight good addresses in a subnet that has room for them. -/
def PoolValid (netif : Netif) (pcb : Bool) (before : DhcpServer) : Prop :=
  dhcpsStart netif pcb before ≠ none ∧
    (netif.up = true → netif.Roomy → ∀ result, dhcpsStart netif pcb before = some result →
      netif.Usable result.2)

end Netif

def wrapped (mask value : UInt32) : UInt32 :=
  if value % ~~~mask ≠ 0 then value % ~~~mask else 1

theorem wrapHost_eq {mask : UInt32} (some_hosts : ~~~mask ≠ 0) (value : UInt32) :
    wrapHost mask value = some (wrapped mask value) := by
  simp [wrapHost, umod, some_hosts, wrapped]

/-- The host part that stands for a count: the count modulo the host mask, 1 in the place of 0. -/
def wrapCount (most count : Nat) : Nat :=
  if count % most = 0 then 1 else count % most

theorem wrapped_toNat (mask value : UInt32) :
    (wrapped mask value).toNat = wrapCount (~~~mask).toNat value.toNat := by
  rw [wrapped, wrapCount, ← UInt32.toNat_mod]
  by_cases zero : value % ~~~mask = 0
  · have none : (value % ~~~mask).toNat = 0 := congrArg UInt32.toNat zero
    rw [if_neg (not_not.mpr zero), if_pos none]
    rfl
  · have some : (value % ~~~mask).toNat ≠ 0 := fun none => zero (UInt32.toNat_inj.mp none)
    rw [if_pos zero, if_neg some]

section Counting

variable {most count : Nat}

theorem wrapCount_below (positive : 0 < count) (below : count < most) :
    wrapCount most count = count := by
  rw [wrapCount, Nat.mod_eq_of_lt below, if_neg (by omega)]

theorem wrapCount_zero (most : Nat) : wrapCount most 0 = 1 := by
  rw [wrapCount, Nat.zero_mod, if_pos rfl]

theorem wrapCount_self (most : Nat) : wrapCount most most = 1 := by
  rw [wrapCount, Nat.mod_self, if_pos rfl]

theorem wrapCount_next (some : 1 < most) : wrapCount most (most + 1) = 1 := by
  rw [wrapCount, Nat.add_mod_left, Nat.mod_eq_of_lt some, if_neg Nat.one_ne_zero]

theorem wrapCount_lt (some : 1 < most) (count : Nat) : wrapCount most count < most := by
  have below := Nat.mod_lt count (by omega : 0 < most)
  rw [wrapCount]
  split <;> omega

/-- The count that follows the last host part, in a word of 32 bits. -/
theorem wrapCount_over (some : 1 < most) (bound : most < 4294967296) :
    wrapCount most ((most + 1) % 4294967296) = 1 := by
  by_cases last : most + 1 = 4294967296
  · rw [last, Nat.mod_self, wrapCount_zero]
  · rw [Nat.mod_eq_of_lt (by omega), wrapCount_next some]

end Counting

namespace Netif

/-- `StartIpAddr` and the address of an entry, in host order. -/
def start (netif : Netif) : UInt32 :=
  (ntohl netif.ipAddr &&& ntohl netif.netmask) |||
    wrapped (ntohl netif.netmask) (netif.hostPart + 1)

def entryFrom (netif : Netif) (start : UInt32) (index : Fin 8) : UInt32 :=
  (start &&& ntohl netif.netmask) |||
    wrapped (ntohl netif.netmask) ((start &&& netif.hostMask) + UInt32.ofNat index)

end Netif

theorem dhcpsStart_pool {netif : Netif} (up : netif.up = true) (some_hosts : netif.hostMask ≠ 0)
    (pcb : Bool) (before : DhcpServer) :
    ∃ result, dhcpsStart netif pcb before = some result ∧
      ∀ index, (result.2.clients index).ipAddr = htonl (netif.entryFrom netif.start index) := by
  have host := @wrapHost_eq (ntohl netif.netmask) some_hosts
  have address (start : UInt32) : poolAddress (ntohl netif.netmask) (htonl start) =
      fun index => some (htonl (netif.entryFrom start index)) := by
    funext index
    rw [poolAddress, ntohl_htonl, host]
    rfl
  have pool (start : UInt32) :
      (List.finRange 8).mapM (poolAddress (ntohl netif.netmask) (htonl start)) =
        some ((List.finRange 8).map fun index => htonl (netif.entryFrom start index)) := by
    rw [address start]
    exact List.mapM_pure
  simp only [dhcpsStart, up, Bool.true_eq_false, if_false, host, Option.bind_eq_bind,
    Option.bind_some, Option.pure_def, pool]
  refine ⟨_, rfl, ?_⟩
  intro index
  simp [Netif.start, Netif.hostPart, Netif.hostMask]

namespace Netif

def base (netif : Netif) (bits : Nat) : Nat :=
  (ntohl netif.ipAddr).toNat / 2 ^ bits * 2 ^ bits

def firstHost (netif : Netif) : Nat :=
  if netif.hostPart.toNat + 1 < netif.hostMask.toNat then netif.hostPart.toNat + 1 else 1

def entryHost (netif : Netif) (index : Fin 8) : Nat :=
  wrapCount netif.hostMask.toNat ((netif.firstHost + index) % 4294967296)

section Roomy

variable {netif : Netif} {bits : Nat} (contiguous : netif.hostMask.toNat + 1 = 2 ^ bits)
  (roomy : 16 ≤ 2 ^ bits)

include contiguous

theorem hostPart_toNat : netif.hostPart.toNat = (ntohl netif.ipAddr).toNat % 2 ^ bits :=
  and_not_toNat contiguous _

theorem hostPart_le : netif.hostPart.toNat ≤ netif.hostMask.toNat := by
  have below := Nat.mod_lt (ntohl netif.ipAddr).toNat (Nat.two_pow_pos bits)
  rw [hostPart_toNat contiguous]
  omega

theorem part_toNat {part : UInt32} (small : part.toNat ≤ netif.hostMask.toNat)
    {address : UInt32} (based : address.toNat / 2 ^ bits * 2 ^ bits = netif.base bits) :
    ((address &&& ntohl netif.netmask) ||| part).toNat = netif.base bits + part.toNat := by
  rw [or_part_toNat contiguous address (by omega), based]

theorem base_add_div {part : Nat} (small : part ≤ netif.hostMask.toNat) :
    (netif.base bits + part) / 2 ^ bits * 2 ^ bits = netif.base bits := by
  have positive := Nat.two_pow_pos bits
  have none : part / 2 ^ bits = 0 := Nat.div_eq_of_lt (by omega)
  rw [base, Nat.add_comm, Nat.add_mul_div_right _ _ positive, none, Nat.zero_add]

theorem base_add_mod {part : Nat} (small : part ≤ netif.hostMask.toNat) :
    (netif.base bits + part) % 2 ^ bits = part := by
  rw [base, Nat.add_comm, Nat.add_mul_mod_self_right, Nat.mod_eq_of_lt (by omega)]

include roomy

theorem firstHost_bounds : 1 ≤ netif.firstHost ∧ netif.firstHost < netif.hostMask.toNat := by
  rw [firstHost]
  split <;> omega

theorem wrapped_firstHost :
    (wrapped (ntohl netif.netmask) (netif.hostPart + 1)).toNat = netif.firstHost := by
  have small := hostPart_le contiguous
  have bound := netif.hostMask.toNat_lt
  have next : (netif.hostPart + 1).toNat = (netif.hostPart.toNat + 1) % 4294967296 := by
    rw [UInt32.toNat_add]
    rfl
  rw [wrapped_toNat, next, firstHost]
  change wrapCount netif.hostMask.toNat _ = _
  by_cases inside : netif.hostPart.toNat + 1 < netif.hostMask.toNat
  · rw [if_pos inside, Nat.mod_eq_of_lt (by omega), wrapCount_below (by omega) inside]
  · rw [if_neg inside]
    by_cases last : netif.hostPart.toNat + 1 = netif.hostMask.toNat
    · rw [last, Nat.mod_eq_of_lt bound, wrapCount_self]
    · have broadcast : netif.hostPart.toNat = netif.hostMask.toNat := by omega
      rw [broadcast, wrapCount_over (by omega) bound]

theorem start_toNat : netif.start.toNat = netif.base bits + netif.firstHost := by
  have bounds := firstHost_bounds contiguous roomy
  have first := wrapped_firstHost contiguous roomy
  rw [start, part_toNat contiguous (by omega) rfl, first]

theorem entryFrom_toNat (index : Fin 8) :
    (netif.entryFrom netif.start index).toNat = netif.base bits + netif.entryHost index := by
  have bounds := firstHost_bounds contiguous roomy
  have started := start_toNat contiguous roomy
  have host : (netif.start &&& netif.hostMask).toNat = netif.firstHost := by
    rw [hostMask, and_not_toNat contiguous, started, base_add_mod contiguous (by omega)]
  have count : ((netif.start &&& netif.hostMask) + UInt32.ofNat index).toNat =
      (netif.firstHost + index) % 4294967296 := by
    rw [UInt32.toNat_add, host, UInt32.toNat_ofNat', Nat.add_mod_mod]
  have entry : (wrapped (ntohl netif.netmask)
      ((netif.start &&& netif.hostMask) + UInt32.ofNat index)).toNat = netif.entryHost index := by
    rw [wrapped_toNat, count]
    rfl
  have small := wrapCount_lt (by omega : 1 < netif.hostMask.toNat)
    ((netif.firstHost + index) % 4294967296)
  rw [entryFrom, part_toNat contiguous (by rw [entry]; exact Nat.le_of_lt small), entry]
  rw [started, base_add_div contiguous (by omega)]

theorem entryHost_below {index : Fin 8} (below : netif.firstHost + index < netif.hostMask.toNat) :
    netif.entryHost index = netif.firstHost + index := by
  have bounds := firstHost_bounds contiguous roomy
  have bound := netif.hostMask.toNat_lt
  rw [entryHost, Nat.mod_eq_of_lt (by omega), wrapCount_below (by omega) below]

omit contiguous roomy in
theorem entryHost_last {index : Fin 8} (last : netif.firstHost + index = netif.hostMask.toNat) :
    netif.entryHost index = 1 := by
  rw [entryHost, last, Nat.mod_eq_of_lt netif.hostMask.toNat_lt, wrapCount_self]

theorem entryHost_over {index : Fin 8}
    (beyond : netif.firstHost + index = netif.hostMask.toNat + 1) : netif.entryHost index = 1 := by
  rw [entryHost, beyond, wrapCount_over (by omega) netif.hostMask.toNat_lt]

/-- The eight hosts when at most the last one is wrapped. -/
theorem entryHost_cases (enough : netif.firstHost + 7 ≤ netif.hostMask.toNat) (index : Fin 8) :
    netif.firstHost + index < netif.hostMask.toNat ∧
        netif.entryHost index = netif.firstHost + index ∨
      (index : Nat) = 7 ∧ netif.entryHost index = 1 ∧
        netif.firstHost + 7 = netif.hostMask.toNat := by
  have bound := index.isLt
  by_cases below : netif.firstHost + index < netif.hostMask.toNat
  · exact .inl ⟨below, entryHost_below contiguous roomy below⟩
  · have last : (index : Nat) = 7 := by omega
    have host := entryHost_last
      (by omega : netif.firstHost + index = netif.hostMask.toNat)
    exact .inr ⟨last, host, by omega⟩

variable {server : DhcpServer}
  (pool : ∀ index, (server.clients index).ipAddr = htonl (netif.entryFrom netif.start index))

include pool

theorem address_toNat (index : Fin 8) :
    (ntohl (server.clients index).ipAddr).toNat = netif.base bits + netif.entryHost index := by
  rw [pool, ntohl_htonl, entryFrom_toNat contiguous roomy]

theorem usable_of_enough (enough : netif.firstHost + 7 ≤ netif.hostMask.toNat) :
    netif.Usable server := by
  have bounds := firstHost_bounds contiguous roomy
  have host := entryHost_cases contiguous roomy enough
  have address := address_toNat contiguous roomy pool
  have inside (index : Fin 8) : 1 ≤ netif.entryHost index ∧
      netif.entryHost index < netif.hostMask.toNat := by
    have bound := index.isLt
    rcases host index with ⟨below, plain⟩ | ⟨_, one, _⟩ <;> omega
  have networkPart : (ntohl netif.ipAddr &&& ntohl netif.netmask).toNat = netif.base bits :=
    and_mask_toNat contiguous _
  have own : (ntohl netif.ipAddr).toNat = netif.base bits + netif.hostPart.toNat := by
    rw [hostPart_toNat contiguous, base, Nat.div_add_mod']
  refine ⟨?_, ?_, ?_, ?_, ?_⟩
  · intro first second same
    have hosts : netif.entryHost first = netif.entryHost second := by
      have addresses := congrArg (fun word => (ntohl word).toNat) same
      simp only [address] at addresses
      omega
    have firstBound := first.isLt
    have secondBound := second.isLt
    apply Fin.ext
    rcases host first with ⟨_, plain⟩ | ⟨seven, one, full⟩
    · rcases host second with ⟨_, other⟩ | ⟨_, other, full⟩ <;> omega
    · rcases host second with ⟨_, other⟩ | ⟨other, _, _⟩ <;> omega
  · intro index
    apply UInt32.toNat_inj.mp
    rw [and_mask_toNat contiguous, address,
      base_add_div contiguous (Nat.le_of_lt (inside index).2), networkPart]
  · intro index same
    have addresses := congrArg UInt32.toNat same
    rw [address, networkPart] at addresses
    have least := (inside index).1
    omega
  · intro index same
    have addresses := congrArg UInt32.toNat same
    rw [address, part_toNat contiguous (Nat.le_refl _) rfl] at addresses
    have most := (inside index).2
    omega
  · intro index same
    have addresses := congrArg (fun word => (ntohl word).toNat) same
    simp only [address, own] at addresses
    have first : netif.firstHost = netif.hostPart.toNat + 1 ∨
        netif.firstHost = 1 ∧ netif.hostMask.toNat ≤ netif.hostPart.toNat + 1 := by
      rw [firstHost]
      split <;> omega
    have bound := index.isLt
    rcases host index with ⟨_, plain⟩ | ⟨_, one, full⟩ <;> omega

theorem usable_iff : netif.Usable server ↔
    netif.hostPart.toNat + 7 < netif.hostMask.toNat ∨
      netif.hostMask.toNat ≤ netif.hostPart.toNat + 1 := by
  have address := address_toNat contiguous roomy pool
  constructor
  · intro usable
    apply Classical.byContradiction
    intro near
    have first : netif.firstHost = netif.hostPart.toNat + 1 := if_pos (by omega)
    -- The entry that reaches the host mask and the one behind it both get the host 1.
    let last : Fin 8 := ⟨netif.hostMask.toNat - netif.firstHost, by omega⟩
    let beyond : Fin 8 := ⟨netif.hostMask.toNat - netif.firstHost + 1, by omega⟩
    have lastHost : netif.entryHost last = 1 :=
      entryHost_last (by simp only [last]; omega)
    have overHost : netif.entryHost beyond = 1 :=
      entryHost_over contiguous roomy (by simp only [beyond]; omega)
    have addresses : (server.clients last).ipAddr = (server.clients beyond).ipAddr := by
      have words : ntohl (server.clients last).ipAddr = ntohl (server.clients beyond).ipAddr :=
        UInt32.toNat_inj.mp (by rw [address, address, lastHost, overHost])
      rw [← ntohl_htonl (server.clients last).ipAddr, ← ntohl_htonl (server.clients beyond).ipAddr]
      exact congrArg htonl words
    have same := congrArg Fin.val (usable.distinct last beyond addresses)
    simp only [last, beyond] at same
    omega
  · rintro (room | wrapped)
    · have first : netif.firstHost = netif.hostPart.toNat + 1 := if_pos (by omega)
      exact usable_of_enough contiguous roomy pool (by omega)
    · have first : netif.firstHost = 1 := if_neg (by omega)
      exact usable_of_enough contiguous roomy pool (by omega)

end Roomy

end Netif

theorem dhcpsStart_no_hosts {netif : Netif} (up : netif.up = true) (none : netif.hostMask = 0)
    (pcb : Bool) (before : DhcpServer) : dhcpsStart netif pcb before = .none := by
  have divisor : ~~~ntohl netif.netmask = 0 := none
  have stuck (value : UInt32) : wrapHost (ntohl netif.netmask) value = .none := by
    rw [wrapHost, umod, if_pos divisor]
    rfl
  simp [dhcpsStart, up, stuck]

/-- The pool is good unless the server sits on one of the six host addresses in front of the last
one, and it is computed at all unless the netmask is 255.255.255.255. -/
theorem pool_valid_iff (netif : Netif) (pcb : Bool) (before : DhcpServer) :
    netif.PoolValid pcb before ↔ (netif.up = true → netif.hostMask ≠ 0 ∧
      (netif.Roomy → netif.hostPart.toNat + 7 < netif.hostMask.toNat ∨
        netif.hostMask.toNat ≤ netif.hostPart.toNat + 1)) := by
  by_cases up : netif.up = true
  · by_cases none : netif.hostMask = 0
    · have stuck := dhcpsStart_no_hosts up none pcb before
      simp [Netif.PoolValid, stuck, up, none]
    · obtain ⟨result, started, pool⟩ := dhcpsStart_pool up none pcb before
      simp only [Netif.PoolValid, started, ne_eq, reduceCtorEq, not_false_eq_true, true_and, up,
        none, forall_const, Option.some.injEq, forall_eq']
      apply forall_congr'
      rintro ⟨bits, contiguous, roomy⟩
      exact Netif.usable_iff contiguous roomy pool
  · have down : dhcpsStart netif pcb before = some (-1, before) := by
      simp [dhcpsStart, up]
    simp [Netif.PoolValid, down, up]

def DhcpServer.off : DhcpServer where
  enable := false
  serverIpAddr := 0
  startIpAddr := 0
  subnetMask := 0
  gateWay := 0
  dns1 := 0
  dns2 := 0
  leaseTime := 0
  clients := fun _ => ⟨.idle, 0, 0, .zero, 0⟩

/-- 192.168.1.250/24: two entries get the host address 1. -/
theorem near_end_not_valid :
    ¬(Netif.mk true 0xFA01A8C0 0x00FFFFFF).PoolValid true .off := by
  intro valid
  have roomy : (Netif.mk true 0xFA01A8C0 0x00FFFFFF).Roomy := ⟨8, by decide, by decide⟩
  have usable := valid.2 rfl roomy _ rfl
  exact absurd (usable.distinct 4 5 (by decide)) (by decide)

end SmartMeter
