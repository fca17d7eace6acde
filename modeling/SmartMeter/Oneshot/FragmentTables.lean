import Mathlib.Data.List.TakeWhile
import SmartMeter.Library.Assembly
import SmartMeter.Oneshot.FragmentCore
import SmartMeter.Oneshot.MulticastSession

/-!
The tables of fragments between the calls of a resolver, and what a call makes of them.
-/

namespace SmartMeter

namespace FragmentTable

/-- `most` is the number of fragments a text of this table can have. -/
structure Regular (most : Nat) (table : FragmentTable) : Prop where
  joined : table.joined = []
  total : table.seqTotalTmp.toNat ≤ most
  held : ∀ index, (table.slots index).isSome → index < table.seqTotalTmp.toNat
  counted : table.seq.toNat = Assembly.count table.slots table.seqTotalTmp.toNat
  short : ∀ index data, table.slots index = some data → data.length ≤ 4

/-- The fragments that are kept when one of `seqtotal` arrives. -/
def heldOf (seqtotal : UInt8) (table : FragmentTable) (index : Nat) : Option (List UInt8) :=
  if table.seqTotalTmp = seqtotal then table.slots index else none

variable {kind : FragmentKind} {most : Nat} {table : FragmentTable}

theorem heldOf_short (regular : Regular most table) {seqtotal : UInt8} {index : Nat}
    {data : List UInt8} (present : table.heldOf seqtotal index = some data) : data.length ≤ 4 := by
  rw [heldOf] at present
  split at present
  · exact regular.short index data present
  · cases present

theorem free_slots (kind : FragmentKind) (held : ∀ index, (table.slots index).isSome →
    index < table.seqTotalTmp.toNat) : (table.free kind).slots = fun _ => none := by
  funext index
  rw [free]
  dsimp only
  split
  · rfl
  · rename_i beyond
    by_contra present
    exact beyond (held index (Option.isSome_iff_ne_none.mpr present))

theorem count_none (total : Nat) :
    Assembly.count (fun _ => (none : Option (List UInt8))) total = 0 := by
  simp [Assembly.count]

theorem regular_of_empty (joined : table.joined = []) (total : table.seqTotalTmp.toNat ≤ most)
    (slots : table.slots = fun _ => none) (seq : table.seq = 0) : Regular most table := by
  refine ⟨joined, total, ?_, ?_, ?_⟩
  · intro index present
    rw [slots] at present
    cases present
  · rw [seq, slots, count_none]
    rfl
  · intro index data present
    rw [slots] at present
    cases present

theorem retarget_total (kind : FragmentKind) (seqtotal : UInt8) (table : FragmentTable) :
    (table.retarget kind seqtotal).seqTotalTmp = seqtotal := by
  rw [retarget]
  split
  · rfl
  · split
    · rfl
    · rename_i same
      exact not_not.mp same

theorem retarget_slots (regular : Regular most table) (kind : FragmentKind) {seqtotal : UInt8}
    (positive : 0 < seqtotal) :
    (table.retarget kind seqtotal).slots = table.heldOf seqtotal := by
  funext index
  rw [retarget, heldOf]
  split
  · rename_i fresh
    have other : table.seqTotalTmp ≠ seqtotal := by
      rw [fresh]
      exact (UInt8.ne_of_lt positive)
    rw [if_neg other]
    by_contra present
    have inside := regular.held index (Option.isSome_iff_ne_none.mpr present)
    rw [fresh] at inside
    cases inside
  · split
    · exact congrFun (free_slots kind regular.held) index
    · rename_i same
      rw [if_pos (not_not.mp same)]

theorem retarget_regular (regular : Regular most table) (kind : FragmentKind) {seqtotal : UInt8}
    (positive : 0 < seqtotal) (bound : seqtotal.toNat ≤ most) :
    Regular most (table.retarget kind seqtotal) := by
  have slots := retarget_slots regular kind positive
  have total := retarget_total kind seqtotal table
  constructor
  · rw [retarget]
    split
    · exact regular.joined
    · split
      · exact regular.joined
      · exact regular.joined
  · rw [total]
    exact bound
  · intro index present
    rw [slots, heldOf] at present
    rw [total]
    split at present
    · rename_i same
      rw [← same]
      exact regular.held index present
    · cases present
  · rw [slots, total]
    by_cases same : table.seqTotalTmp = seqtotal
    · have nonzero : ¬table.seqTotalTmp = 0 := by
        rw [same]
        exact Ne.symm (UInt8.ne_of_lt positive)
      have kept : table.heldOf seqtotal = table.slots := by
        funext index
        exact if_pos same
      rw [retarget, if_neg nonzero, if_neg (not_not.mpr same), kept, regular.counted, same]
    · have dropped : table.heldOf seqtotal = fun _ => none := by
        funext index
        exact if_neg same
      rw [dropped, count_none, retarget]
      split
      · rename_i fresh
        rw [regular.counted, fresh]
        rfl
      · rfl
  · intro index data present
    rw [slots] at present
    exact heldOf_short regular present

theorem keep_regular (regular : Regular most table) (kind : FragmentKind) {data : List UInt8}
    {seqnum : UInt8} (fits : most ≤ 16) (inside : seqnum.toNat < table.seqTotalTmp.toNat)
    (missing : table.slots seqnum.toNat = none) (short : data.length ≤ 4) :
    Regular most (table.keep kind data seqnum) := by
  constructor
  · exact regular.joined
  · exact regular.total
  · intro index present
    by_cases here : index = seqnum.toNat
    · rw [here]
      exact inside
    · change (Function.update table.slots seqnum.toNat (some data) index).isSome at present
      rw [Function.update_of_ne here] at present
      exact regular.held index present
  · have more := Assembly.count_update inside missing data
    have few := Assembly.count_le (Function.update table.slots seqnum.toNat (some data))
      table.seqTotalTmp.toNat
    have total := regular.total
    have counted := regular.counted
    change (table.seq + 1).toNat = Assembly.count (Function.update table.slots seqnum.toNat
      (some data)) table.seqTotalTmp.toNat
    rw [more, UInt8.toNat_add, counted]
    exact Nat.mod_eq_of_lt (by change _ + 1 < 256; omega)
  · intro index bytes present
    by_cases here : index = seqnum.toNat
    · change Function.update table.slots seqnum.toNat (some data) index = some bytes at present
      rw [here, Function.update_self] at present
      rw [← Option.some.inj present]
      exact short
    · change Function.update table.slots seqnum.toNat (some data) index = some bytes at present
      rw [Function.update_of_ne here] at present
      exact regular.short index bytes present

/-! The joined text. -/

def text (table : FragmentTable) (index : Nat) : List UInt8 :=
  cString ((table.slots index).getD [])

theorem strcat_joined (kind : FragmentKind) (table : FragmentTable) (index : Nat) :
    (table.strcat kind index).joined = table.joined ++ table.text index := by
  rw [strcat]
  split
  · rename_i skipped
    have empty : table.text index = [] := by
      rw [Bool.and_eq_true] at skipped
      exact List.isEmpty_iff.mp skipped.2
    rw [empty, List.append_nil]
  · rfl

theorem strcat_keeps (kind : FragmentKind) (table : FragmentTable) (index : Nat) :
    (table.strcat kind index).slots = table.slots ∧
      (table.strcat kind index).seqTotalTmp = table.seqTotalTmp := by
  rw [strcat]
  split
  · exact ⟨rfl, rfl⟩
  · exact ⟨rfl, rfl⟩

theorem foldl_strcat (kind : FragmentKind) (indices : List Nat) (table : FragmentTable) :
    (indices.foldl (strcat kind) table).joined = table.joined ++ indices.flatMap table.text ∧
      (indices.foldl (strcat kind) table).slots = table.slots ∧
      (indices.foldl (strcat kind) table).seqTotalTmp = table.seqTotalTmp := by
  induction indices generalizing table with
  | nil => simp
  | cons index rest ih =>
      obtain ⟨joined, slots, total⟩ := ih (table.strcat kind index)
      obtain ⟨sameSlots, sameTotal⟩ := strcat_keeps kind table index
      have sameText : (table.strcat kind index).text = table.text := by
        funext other
        rw [text, sameSlots, text]
      refine ⟨?_, slots.trans sameSlots, total.trans sameTotal⟩
      rw [List.foldl_cons, joined, strcat_joined, sameText, List.flatMap_cons, List.append_assoc]

theorem join_joined (regular : Regular most table) (kind : FragmentKind) (seqtotal : UInt8) :
    (table.join kind seqtotal).joined = (List.range seqtotal.toNat).flatMap table.text := by
  rw [join, (foldl_strcat kind _ table).1, regular.joined, List.nil_append]

theorem flatMap_text {held : Nat → Option (List UInt8)} (slots : table.slots = held) {total : Nat}
    (full : Assembly.Full held total) :
    (List.range total).flatMap table.text = (Assembly.contents held total).flatMap cString := by
  have whole : Assembly.contents held total =
      (List.range total).map fun index => (held index).getD [] :=
    Assembly.contents_of_full full
  rw [whole, List.flatMap_map]
  apply List.flatMap_congr
  intro index _
  rw [text, slots]

theorem cString_length (bytes : List UInt8) : (cString bytes).length ≤ bytes.length :=
  (List.takeWhile_sublist _).length_le

theorem cString_nonzero {bytes : List UInt8} {byte : UInt8} (member : byte ∈ cString bytes) :
    byte ≠ 0 := by
  simpa using List.mem_takeWhile_imp member

theorem text_short (regular : Regular most table) (index : Nat) :
    (table.text index).length ≤ 4 := by
  rw [text]
  refine Nat.le_trans (cString_length _) ?_
  cases present : table.slots index with
  | none => exact Nat.zero_le 4
  | some data => exact regular.short index data present

theorem joined_length (regular : Regular most table) (count : Nat) :
    ((List.range count).flatMap table.text).length ≤ 4 * count := by
  induction count with
  | zero => exact Nat.zero_le 0
  | succ count ih =>
      have last := text_short regular count
      rw [List.range_succ, List.flatMap_append, List.length_append]
      simp only [List.flatMap_cons, List.flatMap_nil, List.append_nil]
      omega

theorem finish_regular (kind : FragmentKind) (most : Nat)
    (held : ∀ index, (table.slots index).isSome → index < table.seqTotalTmp.toNat) :
    Regular most (table.finish kind) :=
  regular_of_empty rfl (Nat.zero_le most) (free_slots kind held) rfl

/-! A whole call. -/

variable {data : List UInt8} {seqnum seqtotal : UInt8}

/-- The call keeps the fragment or, when it was the last one missing, hands the text on. -/
theorem resolve_kept (kind : FragmentKind) (regular : Regular most table) (fits : most ≤ 16)
    (number : seqnum < seqtotal) (bound : seqtotal.toNat ≤ most) (short : data.length ≤ 4)
    (missing : table.heldOf seqtotal seqnum.toNat = none) :
    let held := Function.update (table.heldOf seqtotal) seqnum.toNat (some data)
    let after := table.resolve kind true data seqnum seqtotal
    Regular most after.1 ∧
      if Assembly.Full held seqtotal.toNat then
        after.2 = .complete ((Assembly.contents held seqtotal.toNat).flatMap cString) ∧
          ((Assembly.contents held seqtotal.toNat).flatMap cString).length ≤
            4 * seqtotal.toNat ∧
          after.1.slots = (fun _ => none) ∧ after.1.seqTotalTmp = 0
      else after.2 = .kept ∧ after.1.slots = held ∧ after.1.seqTotalTmp = seqtotal := by
  intro held after
  have positive : 0 < seqtotal := UInt8.lt_of_le_of_lt (UInt8.zero_le) number
  have target := retarget_regular regular kind positive bound
  have slots := retarget_slots regular kind positive
  have total := retarget_total kind seqtotal table
  have empty : (table.retarget kind seqtotal).slots seqnum.toNat = none := by
    rw [slots]
    exact missing
  have inside : seqnum.toNat < (table.retarget kind seqtotal).seqTotalTmp.toNat := by
    rw [total]
    exact number
  have kept := keep_regular target kind fits inside empty short
  have keptSlots : ((table.retarget kind seqtotal).keep kind data seqnum).slots = held := by
    change Function.update (table.retarget kind seqtotal).slots seqnum.toNat (some data) = held
    rw [slots]
  have keptTotal : ((table.retarget kind seqtotal).keep kind data seqnum).seqTotalTmp = seqtotal :=
    total
  have last : ((table.retarget kind seqtotal).keep kind data seqnum).seq = seqtotal ↔
      Assembly.Full held seqtotal.toNat := by
    rw [← Assembly.count_eq_iff_full, ← UInt8.toNat_inj, kept.counted, keptSlots, keptTotal]
  have unfolded : after =
      if ((table.retarget kind seqtotal).keep kind data seqnum).seq = seqtotal then
        ((((table.retarget kind seqtotal).keep kind data seqnum).join kind seqtotal).finish kind,
          .complete (((table.retarget kind seqtotal).keep kind data seqnum).join kind
            seqtotal).joined)
      else ((table.retarget kind seqtotal).keep kind data seqnum, .kept) := by
    change table.resolve kind true data seqnum seqtotal = _
    rw [resolve, place]
    simp only [empty, Option.isSome_none, Bool.false_eq_true, if_false, if_true]
  generalize (table.retarget kind seqtotal).keep kind data seqnum = keeping at *
  by_cases full : Assembly.Full held seqtotal.toNat
  · obtain ⟨_, joinSlots, joinTotal⟩ := foldl_strcat kind (List.range seqtotal.toNat) keeping
    have stillHeld : ∀ index, ((keeping.join kind seqtotal).slots index).isSome →
        index < (keeping.join kind seqtotal).seqTotalTmp.toNat := by
      intro index present
      rw [join, joinSlots] at present
      rw [join, joinTotal]
      exact kept.held index present
    rw [if_pos (last.mpr full)] at unfolded
    rw [if_pos full, unfolded]
    have text := flatMap_text keptSlots full
    refine ⟨finish_regular kind most stillHeld, ?_, ?_, free_slots kind stillHeld, rfl⟩
    · dsimp only
      rw [join_joined kept, text]
    · rw [← text]
      exact joined_length kept seqtotal.toNat
  · rw [if_neg (fun equal => full (last.mp equal))] at unfolded
    rw [if_neg full, unfolded]
    exact ⟨kept, rfl, keptSlots, keptTotal⟩

end FragmentTable

theorem seqTotal_le (datasave : Nat → UInt8) : (seqTotal datasave).toNat ≤ 16 := by
  have nibble : (datasave 0 &&& 0xF).toNat ≤ 15 := by
    rw [UInt8.toNat_and]
    exact Nat.and_le_right
  rw [seqTotal, UInt8.toNat_add]
  exact Nat.le_trans (Nat.mod_le _ _) (Nat.succ_le_succ nibble)

structure WellFormedHead (datasave : Nat → UInt8) : Prop where
  tag : tagId datasave ≤ 2
  number : seqNum datasave < seqTotal datasave
  short : fragmentLen datasave ≤ 4
  whole : seqNum datasave + 1 ≠ seqTotal datasave → fragmentLen datasave = 4
  nonempty : 1 < seqTotal datasave → 0 < seqNum datasave → fragmentLen datasave ≠ 0

instance (datasave : Nat → UInt8) : Decidable (WellFormedHead datasave) :=
  decidable_of_iff (tagId datasave ≤ 2 ∧ seqNum datasave < seqTotal datasave ∧
      fragmentLen datasave ≤ 4 ∧
      (seqNum datasave + 1 ≠ seqTotal datasave → fragmentLen datasave = 4) ∧
      (1 < seqTotal datasave → 0 < seqNum datasave → fragmentLen datasave ≠ 0))
    ⟨fun head => ⟨head.1, head.2.1, head.2.2.1, head.2.2.2.1, head.2.2.2.2⟩,
      fun head => ⟨head.tag, head.number, head.short, head.whole, head.nonempty⟩⟩

theorem headResolve_iff (datasave : Nat → UInt8) (state : FragmentState) :
    state.tlsWifiOneshotPacketHeadResolve datasave = 0 ↔
      WellFormedHead datasave ∧ state.received datasave = false := by
  rw [FragmentState.tlsWifiOneshotPacketHeadResolve]
  constructor
  · intro accepted
    split at accepted
    · cases accepted
    rename_i tag
    split at accepted
    · cases accepted
    rename_i number
    split at accepted
    · cases accepted
    rename_i missing
    split at accepted
    · cases accepted
    rename_i length
    split at accepted
    · cases accepted
    rename_i content
    obtain ⟨short, whole⟩ := not_or.mp length
    refine ⟨⟨Nat.le_of_not_lt tag, UInt8.not_le.mp number, Nat.le_of_not_lt short, ?_, ?_⟩,
      Bool.eq_false_iff.mpr missing⟩
    · intro inner
      by_contra cut
      exact whole ⟨inner, cut⟩
    · intro several later empty
      exact content ⟨several, later, empty⟩
  · rintro ⟨head, missing⟩
    have tag : ¬2 < tagId datasave := Nat.not_lt.mpr head.tag
    have number : ¬seqTotal datasave ≤ seqNum datasave := UInt8.not_le.mpr head.number
    have length : ¬(4 < fragmentLen datasave ∨
        seqNum datasave + 1 ≠ seqTotal datasave ∧ fragmentLen datasave ≠ 4) := by
      rintro (long | ⟨inner, cut⟩)
      · exact Nat.not_lt.mpr head.short long
      · exact cut (head.whole inner)
    have content : ¬(1 < seqTotal datasave ∧ 0 < seqNum datasave ∧ fragmentLen datasave = 0) := by
      rintro ⟨several, later, empty⟩
      exact head.nonempty several later empty
    rw [if_neg tag, if_neg number, missing, if_neg Bool.false_ne_true, if_neg length,
      if_neg content]

def FragmentTable.blank : FragmentTable := ⟨0, 0, fun _ => none, [], []⟩

def FragmentState.boot : FragmentState where
  toLsdState := .boot
  tagRecved := fun _ _ => false
  ssid := .blank
  pwd := .blank
  custom := .blank

end SmartMeter
