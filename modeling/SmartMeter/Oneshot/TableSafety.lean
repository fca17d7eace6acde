import SmartMeter.Oneshot.FragmentTables

/-!
The stores of the fragment resolvers: into the tables, the blocks and the joined texts.
-/

namespace SmartMeter

/-- Room for `most` fragments in the table and in the joined text. -/
structure FragmentKind.Fits (kind : FragmentKind) (most : Nat) : Prop where
  few : most ≤ 16
  entries : most ≤ kind.entries.size
  whole : 4 * most + 1 ≤ kind.whole.size

theorem ssidKind_fits : ssidKind.Fits 8 :=
  ⟨Nat.le_add_right 8 8, Nat.le_refl 8, Nat.le_refl 33⟩

theorem pwdKind_fits : pwdKind.Fits 16 :=
  ⟨Nat.le_refl 16, Nat.le_add_right 16 16, Nat.le_refl 65⟩

theorem customKind_fits : customKind.Fits 16 :=
  ⟨Nat.le_refl 16, Nat.le_add_right 16 16, Nat.le_refl 65⟩

namespace FragmentTable

structure Safe (most : Nat) (table : FragmentTable) : Prop where
  regular : Regular most table
  stores : ∀ store ∈ table.stores, store.Inside

variable {kind : FragmentKind} {most : Nat} {table : FragmentTable}

theorem free_stores (fits : kind.Fits most) (safe : Safe most table) :
    ∀ store ∈ (table.free kind).stores, store.Inside := by
  intro store member
  rcases List.mem_append.mp member with old | new
  · exact safe.stores store old
  · obtain ⟨index, held, rfl⟩ := List.mem_map.mp new
    have inside := List.mem_range.mp (List.mem_filter.mp held).1
    have total := safe.regular.total
    have entries := fits.entries
    change index + 1 ≤ kind.entries.size
    omega

theorem retarget_safe (fits : kind.Fits most) (safe : Safe most table) {seqtotal : UInt8}
    (positive : 0 < seqtotal) (bound : seqtotal.toNat ≤ most) :
    Safe most (table.retarget kind seqtotal) := by
  refine ⟨retarget_regular safe.regular kind positive bound, ?_⟩
  rw [retarget]
  split
  · exact safe.stores
  · split
    · exact free_stores fits safe
    · exact safe.stores

theorem drop_safe (fits : kind.Fits most) (safe : Safe most table) :
    Safe most { table.free kind with seq := 0, seqTotalTmp := 0 } :=
  ⟨regular_of_empty safe.regular.joined (Nat.zero_le most)
    (free_slots kind safe.regular.held) rfl, free_stores fits safe⟩

theorem join_stores (fits : kind.Fits most) (safe : Safe most table) {count : Nat}
    (bound : count ≤ most) :
    ∀ store ∈ ((List.range count).foldl (strcat kind) table).stores, store.Inside := by
  induction count with
  | zero => exact safe.stores
  | succ count ih =>
      have before := ih (by omega)
      have joined := (foldl_strcat kind (List.range count) table).1
      have slots := (foldl_strcat kind (List.range count) table).2.1
      rw [safe.regular.joined, List.nil_append] at joined
      have length := joined_length safe.regular count
      have last := text_short safe.regular count
      have whole := fits.whole
      rw [List.range_succ, List.foldl_append, List.foldl_cons, List.foldl_nil, strcat]
      split
      · exact before
      · intro store member
        rcases List.mem_append.mp member with old | new
        · exact before store old
        · rw [List.mem_singleton.mp new, slots, joined]
          change ((List.range count).flatMap table.text).length +
            ((table.text count).length + 1) ≤ kind.whole.size
          omega

theorem finish_stores (fits : kind.Fits most) {before : FragmentTable}
    (safe : Safe most before) (total : table.seqTotalTmp = before.seqTotalTmp)
    (inside : ∀ store ∈ table.stores, store.Inside) :
    ∀ store ∈ (table.finish kind).stores, store.Inside := by
  intro store member
  rcases List.mem_append.mp member with old | new
  · rcases List.mem_append.mp old with older | freed
    · exact inside store older
    · obtain ⟨index, held, rfl⟩ := List.mem_map.mp freed
      have below := List.mem_range.mp (List.mem_filter.mp held).1
      have few := safe.regular.total
      have entries := fits.entries
      rw [total] at below
      change index + 1 ≤ kind.entries.size
      omega
  · rw [List.mem_singleton.mp new]
    change 0 + kind.whole.size ≤ kind.whole.size
    omega

variable {memory : Bool} {data : List UInt8} {seqnum seqtotal : UInt8}

theorem keep_safe (fits : kind.Fits most) (safe : Safe most table)
    (inside : seqnum.toNat < table.seqTotalTmp.toNat) (missing : table.slots seqnum.toNat = none)
    (short : data.length ≤ 4) (block : data.length < kind.blockSize data.length) :
    Safe most (table.keep kind data seqnum) := by
  refine ⟨keep_regular safe.regular kind fits.few inside missing short, ?_⟩
  intro store member
  rcases List.mem_append.mp member with old | new
  · exact safe.stores store old
  · have total := safe.regular.total
    have entries := fits.entries
    simp only [List.mem_cons, List.not_mem_nil, or_false] at new
    obtain rfl | rfl | rfl := new
    · change seqnum.toNat + 1 ≤ kind.entries.size
      omega
    · change 0 + data.length ≤ kind.blockSize data.length
      omega
    · change data.length + 1 ≤ kind.blockSize data.length
      omega

/-- With a block that is long enough a fragment is stored inside, and the text of a complete
table fits the joined text. -/
theorem place_safe (memory : Bool) (fits : kind.Fits most) (safe : Safe most table) (number : seqnum < seqtotal)
    (total : table.seqTotalTmp = seqtotal) (short : data.length ≤ 4)
    (block : memory = true → data.length < kind.blockSize data.length) :
    Safe most (table.place kind memory data seqnum seqtotal).1 ∧
      ∀ text, (table.place kind memory data seqnum seqtotal).2 = .complete text →
        text.length ≤ 4 * most := by
  have inside : seqnum.toNat < table.seqTotalTmp.toNat := by
    rw [total]
    exact number
  have bound : seqtotal.toNat ≤ most := by
    rw [← total]
    exact safe.regular.total
  rw [place]
  split
  · refine ⟨safe, ?_⟩
    intro text impossible
    cases impossible
  rename_i taken
  have missing : table.slots seqnum.toNat = none := Option.not_isSome_iff_eq_none.mp taken
  split
  · rename_i allocated
    have kept := keep_safe fits safe inside missing short (block allocated)
    dsimp only
    split
    · obtain ⟨_, joinSlots, joinTotal⟩ :=
        foldl_strcat kind (List.range seqtotal.toNat) (table.keep kind data seqnum)
      have joined := join_stores fits kept bound
      refine ⟨⟨finish_regular kind most ?_, finish_stores fits kept joinTotal joined⟩, ?_⟩
      · intro index present
        rw [join, joinSlots] at present
        rw [join, joinTotal]
        exact kept.regular.held index present
      · intro text complete
        rw [FragmentOutcome.complete.injEq] at complete
        rw [← complete, join_joined kept.regular]
        exact Nat.le_trans (joined_length kept.regular _) (Nat.mul_le_mul_left 4 bound)
    · refine ⟨kept, ?_⟩
      intro text impossible
      cases impossible
  · refine ⟨⟨⟨safe.regular.joined, safe.regular.total, safe.regular.held,
      safe.regular.counted, safe.regular.short⟩, ?_⟩, ?_⟩
    · intro store member
      rcases List.mem_append.mp member with old | new
      · exact safe.stores store old
      · have few := safe.regular.total
        have entries := fits.entries
        rw [List.mem_singleton.mp new]
        change seqnum.toNat + 1 ≤ kind.entries.size
        omega
    · intro text impossible
      cases impossible

theorem resolve_safe (memory : Bool) (fits : kind.Fits most) (safe : Safe most table) (number : seqnum < seqtotal)
    (bound : seqtotal.toNat ≤ most) (short : data.length ≤ 4)
    (block : memory = true → data.length < kind.blockSize data.length) :
    Safe most (table.resolve kind memory data seqnum seqtotal).1 ∧
      ∀ text, (table.resolve kind memory data seqnum seqtotal).2 = .complete text →
        text.length ≤ 4 * most := by
  have positive : 0 < seqtotal := UInt8.lt_of_le_of_lt UInt8.zero_le number
  exact place_safe memory fits (retarget_safe fits safe positive bound) number
    (retarget_total kind seqtotal table) short block

/-- A table that holds nothing, whatever total it remembers. -/
structure Unused (table : FragmentTable) : Prop where
  seq : table.seq = 0
  slots : ∀ index, table.slots index = none
  joined : table.joined = []
  stores : ∀ store ∈ table.stores, store.Inside

theorem Unused.safe (unused : Unused table) (bound : table.seqTotalTmp.toNat ≤ most) :
    Safe most table :=
  ⟨regular_of_empty unused.joined bound (funext unused.slots) unused.seq, unused.stores⟩

theorem free_unused (kind : FragmentKind) (unused : Unused table) : Unused (table.free kind) := by
  refine ⟨unused.seq, ?_, unused.joined, ?_⟩
  · intro index
    rw [free]
    dsimp only
    rw [unused.slots index, ite_self]
  · intro store member
    rcases List.mem_append.mp member with old | new
    · exact unused.stores store old
    · obtain ⟨index, held, _⟩ := List.mem_map.mp new
      have present := (List.mem_filter.mp held).2
      rw [unused.slots index] at present
      cases present

theorem retarget_unused (kind : FragmentKind) (unused : Unused table) (seqtotal : UInt8) :
    Unused (table.retarget kind seqtotal) := by
  have freed := free_unused kind unused
  rw [retarget]
  split
  · exact ⟨unused.seq, unused.slots, unused.joined, unused.stores⟩
  · split
    · exact ⟨rfl, freed.slots, freed.joined, freed.stores⟩
    · exact unused

/-- The name's table stays unused as long as nothing but the empty name is stored in it. -/
theorem resolve_unused (unused : Unused table) (entry : seqnum.toNat < 8)
    (single : memory = true → data = [] ∧ seqnum = 0 ∧ seqtotal = 1) :
    Unused (table.resolve ssidKind memory data seqnum seqtotal).1 ∧
      ∀ text, (table.resolve ssidKind memory data seqnum seqtotal).2 = .complete text →
        text.length ≤ 32 := by
  have ready := retarget_unused ssidKind unused seqtotal
  have total := retarget_total ssidKind seqtotal table
  rw [resolve]
  generalize table.retarget ssidKind seqtotal = target at *
  cases memory with
  | false =>
      rw [place, ready.slots]
      refine ⟨⟨ready.seq, ready.slots, ready.joined, ?_⟩, ?_⟩
      · intro store member
        rcases List.mem_append.mp member with old | new
        · exact ready.stores store old
        · rw [List.mem_singleton.mp new]
          exact entry
      · intro text impossible
        cases impossible
  | true =>
      obtain ⟨rfl, rfl, rfl⟩ := single rfl
      have bound : target.seqTotalTmp.toNat ≤ 8 := by
        rw [total]
        decide
      have empty : ([] : List UInt8).length ≤ 4 := Nat.zero_le 4
      obtain ⟨safe, short⟩ := place_safe true ssidKind_fits (ready.safe bound)
        (by decide : (0 : UInt8) < 1) total empty fun _ => Nat.one_pos
      have counted : (target.keep ssidKind [] 0).seq = 1 := by
        change target.seq + 1 = 1
        rw [ready.seq]
        rfl
      have emptied : (target.place ssidKind true [] 0 1).1.seqTotalTmp = 0 := by
        rw [place, ready.slots]
        simp only [Option.isSome_none, Bool.false_eq_true, if_false, if_true, counted]
        rfl
      have held := safe.regular.held
      rw [emptied] at held
      refine ⟨⟨?_, ?_, safe.regular.joined, safe.stores⟩, short⟩
      · rw [← UInt8.toNat_inj, safe.regular.counted, emptied]
        rfl
      · intro index
        by_contra present
        exact Nat.not_lt_zero _ (held index (Option.isSome_iff_ne_none.mpr present))

end FragmentTable

theorem copiedBytes_le (limit : Nat) (text : List UInt8) : copiedBytes limit text ≤ limit + 1 := by
  rw [copiedBytes]
  split
  · omega
  · omega

end SmartMeter
