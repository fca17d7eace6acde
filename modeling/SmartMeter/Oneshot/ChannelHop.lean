import SmartMeter.Library.Buffer
import SmartMeter.Library.Runs
import Mathlib.Algebra.Group.Nat.Defs

/-!
`wm_wifi_oneshot.c`: the task that hops over the channels of the last scan until a phone is heard.
-/

namespace SmartMeter

open Runs

def totalChanNum : Nat := 14

/-- The messages of the task. A scan comes with the channels of the access points in it, or with
`none` where there is no memory for them. `restart` is `tls_wifi_set_oneshot_flag(1)`. -/
inductive OneshotMsg where
  | scanStart
  | scanFinished (scan : Option (List UInt8))
  | switchChannel
  | stopTmpChanSwitch
  | stopChanSwitch
  | handshakeTimeout
  | stopDataClear
  | netUp
  | restart

structure OneshotTask where
  firstStartOneshotFlag : UInt32
  uctotalchannum : Nat
  airwifichan : Nat → UInt8
  chanCnt : Nat

def OneshotTask.boot : OneshotTask := ⟨0, 0, fun _ => 0xF, 0⟩

structure ChannelVisit where
  index : Nat
  chanid : UInt8

structure ScanDeal where
  lastchanmap : Nat
  uctotalchannum : Nat
  airwifichan : Nat → UInt8

def dealBss (j : Nat) : List UInt8 → ScanDeal → ScanDeal
  | [], deal => deal
  | channel :: rest, deal =>
      if deal.lastchanmap >>> (j - 1) &&& 1 = 0 ∧ j = channel.toNat then
        { lastchanmap := deal.lastchanmap ||| 1 <<< (j - 1)
          uctotalchannum := deal.uctotalchannum + 1
          airwifichan :=
            Function.update deal.airwifichan deal.uctotalchannum (UInt8.ofNat (j - 1)) }
      else dealBss j rest deal

namespace OneshotTask

def tlsOneshotScanResultDeal (scan : Option (List UInt8)) (task : OneshotTask) : OneshotTask :=
  let deal : ScanDeal := ⟨0, 0, task.airwifichan⟩
  let deal := match scan with
    | none => deal
    | some bss =>
        (List.range totalChanNum).foldl (fun deal i => dealBss (i + 1) bss deal) deal
  if deal.uctotalchannum = 0 then
    { task with
      uctotalchannum := totalChanNum
      airwifichan := Buffer.copy deal.airwifichan 0 UInt8.ofNat totalChanNum }
  else { task with uctotalchannum := deal.uctotalchannum, airwifichan := deal.airwifichan }

def clearChannels (task : OneshotTask) : OneshotTask :=
  if task.firstStartOneshotFlag = 0 then
    { task with
      uctotalchannum := 0
      airwifichan := Buffer.fill task.airwifichan 0xF totalChanNum }
  else task

def tlsOneshotStopClearData (task : OneshotTask) : OneshotTask := task.clearChannels

def tlsOneshotInitData (task : OneshotTask) : OneshotTask := task.clearChannels

def tlsOneshotTaskHandle (task : OneshotTask) : OneshotMsg → OneshotTask × Option ChannelVisit
  | .scanFinished scan =>
      let task :=
        if task.firstStartOneshotFlag = 0 then task.tlsOneshotScanResultDeal scan else task
      ({ task with chanCnt := 1 }, some ⟨0, task.airwifichan 0⟩)
  | .switchChannel =>
      let visit := ⟨task.chanCnt, task.airwifichan task.chanCnt⟩
      -- the count is an `int` in the comparison: with no channels it is less than nothing
      if (task.chanCnt : Int) ≥ task.uctotalchannum - 1 then
        ({ task with chanCnt := 0 }, some visit)
      else ({ task with chanCnt := task.chanCnt + 1 }, some visit)
  | .stopChanSwitch => ({ task with firstStartOneshotFlag := 1 }, none)
  | .handshakeTimeout =>
      let task := { task with firstStartOneshotFlag := 0 }
      (task.tlsOneshotStopClearData.tlsOneshotInitData, none)
  | .stopDataClear => (task.tlsOneshotStopClearData, none)
  | .restart => (task.tlsOneshotInitData, none)
  -- a scan, or the message that stands for one, comes back as `scanFinished`
  | .scanStart | .stopTmpChanSwitch | .netUp => (task, none)

def next (task : OneshotTask) (msg : OneshotMsg) : OneshotTask := (task.tlsOneshotTaskHandle msg).1

end OneshotTask

/-! The tour that the hopping is to make. -/

/-- Channels are numbered from 0 here, and from 1 in a scan. -/
def heardChannels (bss : List UInt8) (count : Nat) : List UInt8 :=
  ((List.range count).filter fun i => bss.any fun channel => i + 1 = channel.toNat).map UInt8.ofNat

def listedChannels (scan : Option (List UInt8)) : List UInt8 :=
  let heard := heardChannels (scan.getD []) totalChanNum
  if heard = [] then (List.range totalChanNum).map UInt8.ofNat else heard

structure ChannelTour where
  listed : List UInt8
  turn : Nat

namespace ChannelTour

/-- A report starts the tour again, over the same channels where the scan was left out. -/
def report (tour : ChannelTour) (firstStartOneshotFlag : UInt32) (scan : Option (List UInt8)) :
    ChannelTour :=
  ⟨if firstStartOneshotFlag = 0 then listedChannels scan else tour.listed, 0⟩

def visited (tour : ChannelTour) : ChannelTour := { tour with turn := tour.turn + 1 }

end ChannelTour

structure Hopping where
  task : OneshotTask
  tour : ChannelTour

namespace Hopping

def boot : Hopping := ⟨.boot, ⟨[], 0⟩⟩

/-- The tour as a message finds it, with the report that it brings. -/
def tourOf (hopping : Hopping) : OneshotMsg → ChannelTour
  | .scanFinished scan => hopping.tour.report hopping.task.firstStartOneshotFlag scan
  | _ => hopping.tour

def step (hopping : Hopping) (msg : OneshotMsg) : Hopping where
  task := hopping.task.next msg
  tour := match (hopping.task.tlsOneshotTaskHandle msg).2 with
    | none => hopping.tourOf msg
    | some _ => (hopping.tourOf msg).visited

/-- A visit reads a cell that is in use, and finds the channel whose turn it is. -/
def VisitsListed (hopping : Hopping) (msg : OneshotMsg) : Prop :=
  ∀ visit, (hopping.task.tlsOneshotTaskHandle msg).2 = some visit →
    visit.index < (hopping.task.next msg).uctotalchannum ∧
    let tour := hopping.tourOf msg
    tour.listed[tour.turn % tour.listed.length]? = some visit.chanid

end Hopping

/-- Cells in use hold the listed channels, and the position is that of the tour. With a single
channel it stands beside it once, right after a report. -/
structure OnTour (task : OneshotTask) (tour : ChannelTour) : Prop where
  listed : task.uctotalchannum ≠ 0 →
    Buffer.toList task.airwifichan task.uctotalchannum = tour.listed
  position : task.uctotalchannum ≠ 0 → task.chanCnt = tour.turn % task.uctotalchannum ∨
    task.uctotalchannum = 1 ∧ task.chanCnt = 1
  few : task.uctotalchannum ≤ totalChanNum
  inTable : task.chanCnt < totalChanNum

def Hopping.InStep (hopping : Hopping) : Prop := OnTour hopping.task hopping.tour


/-- Where a visit is one of the tour: there are channels, and the only one has been left again
since the report. -/
def OneshotTask.Hops (task : OneshotTask) : OneshotMsg → Prop
  | .scanFinished _ => task.firstStartOneshotFlag = 0 ∨ task.uctotalchannum ≠ 0
  | .switchChannel =>
      task.uctotalchannum ≠ 0 ∧ ¬(task.uctotalchannum = 1 ∧ task.chanCnt = 1)
  | _ => True

section Deal

variable {bss : List UInt8} {deal : ScanDeal} {i count : Nat}

theorem heardChannels_succ (bss : List UInt8) (count : Nat) :
    heardChannels bss (count + 1) = heardChannels bss count ++
      if (bss.any fun channel => count + 1 = channel.toNat) = true then [UInt8.ofNat count]
      else [] := by
  rw [heardChannels, List.range_succ, List.filter_append, List.map_append, heardChannels]
  by_cases heard : (bss.any fun channel => count + 1 = channel.toNat) = true
  · simp only [List.filter_cons, if_pos heard, List.filter_nil, List.map_cons, List.map_nil]
  · simp only [List.filter_cons, if_neg heard, List.filter_nil, List.map_nil]

/-- What the inner loop does where the channel is not in the map yet. -/
theorem dealBss_unmapped (unmapped : deal.lastchanmap < 2 ^ i) :
    dealBss (i + 1) bss deal =
      if (bss.any fun channel => i + 1 = channel.toNat) = true then
        { lastchanmap := deal.lastchanmap ||| 1 <<< i
          uctotalchannum := deal.uctotalchannum + 1
          airwifichan := Function.update deal.airwifichan deal.uctotalchannum (UInt8.ofNat i) }
      else deal := by
  have clear : deal.lastchanmap >>> i &&& 1 = 0 := by
    rw [Nat.shiftRight_eq_div_pow, Nat.div_eq_of_lt unmapped, Nat.zero_and]
  induction bss with
  | nil => rfl
  | cons channel rest ih =>
      rw [dealBss, Nat.add_sub_cancel]
      by_cases here : i + 1 = channel.toNat
      · rw [if_pos ⟨clear, here⟩, if_pos (by simp [here])]
      · rw [if_neg fun both => here both.2, ih, List.any_cons, decide_eq_false here, Bool.false_or]

structure Dealt (bss : List UInt8) (count : Nat) (deal : ScanDeal) : Prop where
  unmapped : deal.lastchanmap < 2 ^ count
  heard : Buffer.toList deal.airwifichan deal.uctotalchannum = heardChannels bss count

theorem Dealt.step (dealt : Dealt bss count deal) :
    Dealt bss (count + 1) (dealBss (count + 1) bss deal) := by
  have wider : 2 ^ count < 2 ^ (count + 1) := Nat.pow_lt_pow_right (by omega) (by omega)
  rw [dealBss_unmapped dealt.unmapped]
  constructor
  · split
    · refine Nat.or_lt_two_pow (Nat.lt_trans dealt.unmapped wider) ?_
      rw [Nat.one_shiftLeft]
      exact wider
    · exact Nat.lt_trans dealt.unmapped wider
  · rw [heardChannels_succ, ← dealt.heard]
    split
    · exact Buffer.toList_update_last _ _ _
    · exact (List.append_nil _).symm

theorem dealt_loop (bss : List UInt8) (airwifichan : Nat → UInt8) (count : Nat) :
    Dealt bss count ((List.range count).foldl (fun deal i => dealBss (i + 1) bss deal)
      ⟨0, 0, airwifichan⟩) := by
  induction count with
  | zero => exact ⟨Nat.one_pos, rfl⟩
  | succ count ih =>
      rw [List.range_succ, List.foldl_append]
      exact ih.step

end Deal

theorem heardChannels_length_le (bss : List UInt8) (count : Nat) :
    (heardChannels bss count).length ≤ count := by
  rw [heardChannels, List.length_map]
  exact Nat.le_trans (List.length_filter_le _ _) (Nat.le_of_eq List.length_range)

theorem listedChannels_length_le (scan : Option (List UInt8)) :
    (listedChannels scan).length ≤ totalChanNum := by
  simp only [listedChannels]
  split
  · exact Nat.le_of_eq ((List.length_map _).trans List.length_range)
  · exact heardChannels_length_le _ _

theorem listedChannels_ne_nil (scan : Option (List UInt8)) : listedChannels scan ≠ [] := by
  simp only [listedChannels]
  split
  · decide
  · assumption

namespace OneshotTask

variable {task : OneshotTask} {scan : Option (List UInt8)}

theorem tlsOneshotScanResultDeal_dealt (scan : Option (List UInt8)) (task : OneshotTask) :
    ∃ deal, Dealt (scan.getD []) totalChanNum deal ∧ task.tlsOneshotScanResultDeal scan =
      if deal.uctotalchannum = 0 then
        { task with
          uctotalchannum := totalChanNum
          airwifichan := Buffer.copy deal.airwifichan 0 UInt8.ofNat totalChanNum }
      else { task with uctotalchannum := deal.uctotalchannum, airwifichan := deal.airwifichan } := by
  cases scan with
  | none => exact ⟨⟨0, 0, task.airwifichan⟩, ⟨Nat.two_pow_pos _, rfl⟩, rfl⟩
  | some bss => exact ⟨_, dealt_loop bss task.airwifichan totalChanNum, rfl⟩

/-- The cells in use are the channels of the scan, in order, or all of them where it heard none. -/
theorem tlsOneshotScanResultDeal_listed (scan : Option (List UInt8)) (task : OneshotTask) :
    let done := task.tlsOneshotScanResultDeal scan
    Buffer.toList done.airwifichan done.uctotalchannum = listedChannels scan := by
  obtain ⟨deal, dealt, done⟩ := tlsOneshotScanResultDeal_dealt scan task
  have heard := dealt.heard
  have count : deal.uctotalchannum = (heardChannels (scan.getD []) totalChanNum).length := by
    rw [← heard, Buffer.toList_length]
  simp only [done, listedChannels]
  by_cases none_ : deal.uctotalchannum = 0
  · rw [if_pos none_, if_pos (List.length_eq_zero_iff.mp (count.symm.trans none_))]
    exact Buffer.toList_copy_zero _ _ _
  · rw [if_neg none_,
      if_neg fun empty => none_ (count.trans (List.length_eq_zero_iff.mpr empty))]
    exact heard

theorem tlsOneshotScanResultDeal_count (scan : Option (List UInt8)) (task : OneshotTask) :
    (task.tlsOneshotScanResultDeal scan).uctotalchannum = (listedChannels scan).length := by
  rw [← tlsOneshotScanResultDeal_listed scan task, Buffer.toList_length]

theorem clearChannels_eq (task : OneshotTask) : task.clearChannels = task ∨
    task.clearChannels.uctotalchannum = 0 ∧ task.clearChannels.chanCnt = task.chanCnt := by
  by_cases first : task.firstStartOneshotFlag = 0
  · simp [clearChannels, first]
  · simp [clearChannels, first]

/-- The position goes round, and from beyond the last cell back to the first one. -/
theorem next_switchChannel (task : OneshotTask) : task.next .switchChannel =
    { task with
      chanCnt := if task.uctotalchannum ≤ task.chanCnt + 1 then 0 else task.chanCnt + 1 } := by
  simp only [next, tlsOneshotTaskHandle]
  by_cases last : task.uctotalchannum ≤ task.chanCnt + 1
  · rw [if_pos (by omega), if_pos last]
  · rw [if_neg (by omega), if_neg last]

theorem visit_switchChannel (task : OneshotTask) :
    (task.tlsOneshotTaskHandle .switchChannel).2 =
      some ⟨task.chanCnt, task.airwifichan task.chanCnt⟩ := by
  simp only [tlsOneshotTaskHandle]
  split <;> rfl

end OneshotTask

theorem next_mod {turn count : Nat} (some_ : 0 < count) :
    (if turn % count + 1 = count then 0 else turn % count + 1) = (turn + 1) % count := by
  have below := Nat.mod_lt turn some_
  rw [← Nat.mod_add_mod turn count 1]
  split
  next last => rw [last, Nat.mod_self]
  next more => exact (Nat.mod_eq_of_lt (by omega)).symm

namespace OnTour

variable {task : OneshotTask} {tour : ChannelTour}

/-- A task whose channels were cleared, or left as they are, is where it was on its tour. -/
theorem cleared (onTour : OnTour task tour) : OnTour task.clearChannels tour := by
  rcases task.clearChannels_eq with same | ⟨none_, position⟩
  · rwa [same]
  · refine ⟨fun some_ => absurd none_ some_, fun some_ => absurd none_ some_, ?_, ?_⟩
    · rw [none_]
      exact Nat.zero_le _
    · rw [position]
      exact onTour.inTable

/-- A report leaves the position behind the first cell. -/
theorem reported {listed : List UInt8} (cells : task.uctotalchannum ≠ 0 →
      Buffer.toList task.airwifichan task.uctotalchannum = listed)
    (few : task.uctotalchannum ≤ totalChanNum) :
    OnTour { task with chanCnt := 1 } ⟨listed, 1⟩ := by
  refine ⟨cells, ?_, few, Nat.lt_of_lt_of_le Nat.one_lt_two (by decide)⟩
  intro some_
  by_cases single : task.uctotalchannum = 1
  · exact .inr ⟨single, rfl⟩
  · refine .inl (Nat.mod_eq_of_lt ?_).symm
    change task.uctotalchannum ≠ 0 at some_
    change 1 < task.uctotalchannum
    omega

theorem switched (onTour : OnTour task tour) :
    OnTour (task.next .switchChannel) tour.visited := by
  have few := onTour.few
  have inTable := onTour.inTable
  rw [OneshotTask.next_switchChannel]
  refine ⟨onTour.listed, fun some_ => .inl ?_, few, ?_⟩
  · change task.uctotalchannum ≠ 0 at some_
    change (if task.uctotalchannum ≤ task.chanCnt + 1 then 0 else task.chanCnt + 1) =
      (tour.turn + 1) % task.uctotalchannum
    have next := @next_mod tour.turn _ (Nat.pos_of_ne_zero some_)
    rcases onTour.position some_ with here | ⟨single, beside⟩
    · have below := Nat.mod_lt tour.turn (Nat.pos_of_ne_zero some_)
      rw [← next, here]
      split <;> split <;> omega
    · rw [single, Nat.mod_one, if_pos (by omega)]
  · change (if task.uctotalchannum ≤ task.chanCnt + 1 then 0 else task.chanCnt + 1) < totalChanNum
    split <;> omega

end OnTour

theorem cell_of_listed {cells : Nat → UInt8} {count index : Nat} {listed : List UInt8}
    (filled : Buffer.toList cells count = listed) (below : index < count) :
    listed[index]? = some (cells index) := by
  rw [← filled, Buffer.toList, List.getElem?_map, List.getElem?_range below]
  rfl

theorem length_of_listed {cells : Nat → UInt8} {count : Nat} {listed : List UInt8}
    (filled : Buffer.toList cells count = listed) : listed.length = count := by
  rw [← filled, Buffer.toList_length]

namespace Hopping

variable {hopping : Hopping}

theorem inStep_boot : boot.InStep :=
  ⟨fun some_ => absurd rfl some_, fun some_ => absurd rfl some_, Nat.zero_le _,
    Nat.succ_pos _⟩

/-- The tour is kept by every message, lawful or not. -/
theorem InStep.step (onTour : hopping.InStep) (msg : OneshotMsg) : (hopping.step msg).InStep := by
  rw [InStep]
  cases msg with
  | scanFinished scan =>
      simp only [Hopping.step, tourOf, OneshotTask.next, OneshotTask.tlsOneshotTaskHandle,
        ChannelTour.report, ChannelTour.visited]
      by_cases first : hopping.task.firstStartOneshotFlag = 0
      · rw [if_pos first, if_pos first]
        refine OnTour.reported (fun _ => ?_) ?_
        · exact OneshotTask.tlsOneshotScanResultDeal_listed scan hopping.task
        · rw [OneshotTask.tlsOneshotScanResultDeal_count]
          exact listedChannels_length_le scan
      · rw [if_neg first, if_neg first]
        exact OnTour.reported onTour.listed onTour.few
  | switchChannel =>
      have visited : (hopping.step .switchChannel).tour = hopping.tour.visited := by
        simp only [Hopping.step, OneshotTask.visit_switchChannel, tourOf]
      rw [visited]
      exact onTour.switched
  | handshakeTimeout =>
      have again : OnTour { hopping.task with firstStartOneshotFlag := 0 } hopping.tour :=
        ⟨onTour.listed, onTour.position, onTour.few, onTour.inTable⟩
      exact again.cleared.cleared
  | stopChanSwitch => exact ⟨onTour.listed, onTour.position, onTour.few, onTour.inTable⟩
  | stopDataClear => exact onTour.cleared
  | restart => exact onTour.cleared
  | scanStart => exact onTour
  | stopTmpChanSwitch => exact onTour
  | netUp => exact onTour

theorem reportVisits_iff (onTour : hopping.InStep) (scan : Option (List UInt8)) :
    hopping.VisitsListed (.scanFinished scan) ↔ hopping.task.Hops (.scanFinished scan) := by
  by_cases first : hopping.task.firstStartOneshotFlag = 0
  · refine iff_of_true ?_ (.inl first)
    have cells := OneshotTask.tlsOneshotScanResultDeal_listed scan hopping.task
    have some_ : 0 < (hopping.task.tlsOneshotScanResultDeal scan).uctotalchannum := by
      rw [OneshotTask.tlsOneshotScanResultDeal_count]
      exact List.length_pos_iff.mpr (listedChannels_ne_nil scan)
    rintro visit ⟨⟩
    simp only [OneshotTask.next, OneshotTask.tlsOneshotTaskHandle, tourOf, ChannelTour.report,
      if_pos first, Nat.zero_mod]
    exact ⟨some_, cell_of_listed cells some_⟩
  · constructor
    · intro lawful
      have below := (lawful _ rfl).1
      simp only [OneshotTask.next, OneshotTask.tlsOneshotTaskHandle, if_neg first] at below
      exact .inr (Nat.ne_of_gt below)
    · rintro (zero | some_)
      · exact absurd zero first
      · rintro visit ⟨⟩
        have below := Nat.pos_of_ne_zero some_
        simp only [OneshotTask.next, OneshotTask.tlsOneshotTaskHandle, tourOf, ChannelTour.report,
          if_neg first, Nat.zero_mod]
        exact ⟨below, cell_of_listed (onTour.listed some_) below⟩

theorem switchVisits_iff (onTour : hopping.InStep) :
    hopping.VisitsListed .switchChannel ↔ hopping.task.Hops .switchChannel := by
  have visits : hopping.VisitsListed .switchChannel ↔
      hopping.task.chanCnt < hopping.task.uctotalchannum ∧
        hopping.tour.listed[hopping.tour.turn % hopping.tour.listed.length]? =
          some (hopping.task.airwifichan hopping.task.chanCnt) := by
    simp [VisitsListed, OneshotTask.visit_switchChannel, OneshotTask.next_switchChannel, tourOf]
  rw [visits]
  constructor
  · rintro ⟨below, -⟩
    exact ⟨Nat.ne_of_gt (Nat.lt_of_le_of_lt (Nat.zero_le _) below), by omega⟩
  · rintro ⟨some_, apart⟩
    have cells := onTour.listed some_
    have here : hopping.task.chanCnt = hopping.tour.turn % hopping.task.uctotalchannum := by
      rcases onTour.position some_ with here | beside
      · exact here
      · exact absurd beside apart
    have below := Nat.mod_lt hopping.tour.turn (Nat.pos_of_ne_zero some_)
    rw [length_of_listed cells, here]
    exact ⟨below, cell_of_listed cells below⟩

theorem visitsListed_iff (onTour : hopping.InStep) (msg : OneshotMsg) :
    hopping.VisitsListed msg ↔ hopping.task.Hops msg := by
  cases msg with
  | scanFinished scan => exact reportVisits_iff onTour scan
  | switchChannel => exact switchVisits_iff onTour
  | _ => exact iff_of_true (fun visit none_ => by cases none_) trivial

end Hopping

theorem channel_hops_iff (msgs : List OneshotMsg) :
    Along Hopping.step Hopping.VisitsListed .boot msgs ↔
      Along OneshotTask.next OneshotTask.Hops .boot msgs := by
  have watched := @along_project _ _ OneshotTask.next _ Hopping.step Hopping.task
    (fun _ _ => rfl) OneshotTask.Hops .boot msgs
  refine Iff.trans ?_ watched
  refine @along_iff_along_of_invariant _ _ Hopping.step Hopping.InStep _ _ ?_ ?_ _
    Hopping.inStep_boot msgs
  · exact fun _ msg onTour => Hopping.visitsListed_iff onTour msg
  · exact fun _ msg onTour _ => onTour.step msg

/-- One access point, on channel 7: the first switch reads the cell beside it, which was never
filled. -/
theorem single_channel_missed :
    (OneshotTask.next .boot (.scanFinished (some [7]))).tlsOneshotTaskHandle .switchChannel =
      ({ OneshotTask.next .boot (.scanFinished (some [7])) with chanCnt := 0 }, some ⟨1, 0xF⟩) ∧
    ¬Along Hopping.step Hopping.VisitsListed .boot [.scanFinished (some [7]), .switchChannel] := by
  refine ⟨rfl, ?_⟩
  rintro ⟨-, switch, -⟩
  exact absurd (switch ⟨1, 0xF⟩ rfl).1 (by decide)

end SmartMeter
