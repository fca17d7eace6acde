import Mathlib.Data.List.Nodup
import Mathlib.Logic.Function.Basic

/-!
Doubly linked rings. Nodes know their neighbours, and one node of a ring, its anchor, holds nothing;
the others are a list, read from the anchor along `next` or backwards along `prev`.
-/

namespace LinkRing

structure Links (α : Type) where
  next : α → α
  prev : α → α

variable {α : Type}

def Path (links : Links α) : α → List α → α → Prop
  | first, [], last => links.next first = last ∧ links.prev last = first
  | first, node :: rest, last =>
      links.next first = node ∧ links.prev node = first ∧ Path links node rest last

structure Ring (links : Links α) (anchor : α) (nodes : List α) : Prop where
  distinct : (anchor :: nodes).Nodup
  path : Path links anchor nodes anchor

section Reading

variable {links other : Links α} {first last anchor node : α} {before after nodes : List α}

theorem getLastD_mem (nodes : List α) (first : α) : nodes.getLastD first ∈ first :: nodes := by
  rw [List.getLastD_eq_getLast?]
  cases here : nodes.getLast? with
  | none => exact List.mem_cons_self
  | some node => exact List.mem_cons_of_mem _ (List.mem_of_getLast? here)

theorem headD_mem (nodes : List α) (last : α) : nodes.headD last ∈ nodes ++ [last] := by
  cases nodes <;> simp

theorem path_append : Path links first (before ++ node :: after) last ↔
    Path links first before node ∧ Path links node after last := by
  induction before generalizing first with
  | nil => simp [Path, and_assoc]
  | cons head rest ih =>
      rw [List.cons_append, Path, Path, ih]
      simp [and_assoc]

theorem Path.congr (path : Path links first nodes last)
    (next : ∀ node ∈ first :: nodes, other.next node = links.next node)
    (prev : ∀ node ∈ nodes ++ [last], other.prev node = links.prev node) :
    Path other first nodes last := by
  induction nodes generalizing first with
  | nil => exact ⟨(next first (by simp)).trans path.1, (prev last (by simp)).trans path.2⟩
  | cons head rest ih =>
      obtain ⟨forth, back, more⟩ := path
      refine ⟨(next first (by simp)).trans forth, (prev head (by simp)).trans back, ih more ?_ ?_⟩
      · exact fun node member => next node (List.mem_cons_of_mem _ member)
      · exact fun node member => prev node (List.mem_cons_of_mem _ member)

theorem Path.next_first (path : Path links first nodes last) :
    links.next first = nodes.headD last := by
  cases nodes with
  | nil => exact path.1
  | cons head rest => exact path.1

theorem Path.prev_last (path : Path links first nodes last) :
    links.prev last = nodes.getLastD first := by
  induction nodes generalizing first with
  | nil => exact path.2
  | cons head rest ih =>
      rw [List.getLastD_cons]
      exact ih path.2.2

theorem path_split : Path links first (before ++ after) last ↔
    Path links first before (after.headD last) ∧ Path links (before.getLastD first) after last := by
  induction before generalizing first with
  | nil =>
      cases after with
      | nil => simp [Path]
      | cons head rest =>
          simp only [List.nil_append, List.getLastD_nil, List.headD_cons, Path]
          tauto
  | cons head rest ih =>
      rw [List.cons_append, Path, Path, ih, List.getLastD_cons]
      simp [and_assoc]

theorem Path.end_at (path : Path links first nodes last) (distinct : (first :: nodes).Nodup)
    (forth : other.next (nodes.getLastD first) = node)
    (back : other.prev node = nodes.getLastD first)
    (next : ∀ here ∈ first :: nodes, here ≠ nodes.getLastD first →
      other.next here = links.next here)
    (prev : ∀ here ∈ nodes, other.prev here = links.prev here) : Path other first nodes node := by
  induction nodes generalizing first with
  | nil => exact ⟨forth, back⟩
  | cons head rest ih =>
      obtain ⟨ahead, behind, more⟩ := path
      rw [List.getLastD_cons] at forth back next
      have later : rest.getLastD head ∈ head :: rest := getLastD_mem rest head
      have apart : first ≠ rest.getLastD head := by
        intro same
        exact (List.nodup_cons.mp distinct).1 (same ▸ later)
      refine ⟨(next first (by simp) apart).trans ahead, (prev head (by simp)).trans behind, ?_⟩
      refine ih more (List.nodup_cons.mp distinct).2 forth back ?_ ?_
      · exact fun here member => next here (List.mem_cons_of_mem _ member)
      · exact fun here member => prev here (List.mem_cons_of_mem _ member)

theorem Path.start_at (path : Path links first nodes last) (distinct : (nodes ++ [last]).Nodup)
    (forth : other.next node = nodes.headD last) (back : other.prev (nodes.headD last) = node)
    (next : ∀ here ∈ nodes, other.next here = links.next here)
    (prev : ∀ here ∈ nodes ++ [last], here ≠ nodes.headD last →
      other.prev here = links.prev here) : Path other node nodes last := by
  cases nodes with
  | nil => exact ⟨forth, back⟩
  | cons head rest =>
      refine ⟨forth, back, path.2.2.congr next fun here member => ?_⟩
      refine prev here (List.mem_cons_of_mem _ member) ?_
      rintro rfl
      exact (List.nodup_cons.mp distinct).1 member

theorem Ring.next_anchor (ring : Ring links anchor nodes) :
    links.next anchor = nodes.headD anchor :=
  ring.path.next_first

theorem Ring.prev_anchor (ring : Ring links anchor nodes) :
    links.prev anchor = nodes.getLastD anchor :=
  ring.path.prev_last

theorem Ring.next_node (ring : Ring links anchor (before ++ node :: after)) :
    links.next node = after.headD anchor :=
  (path_append.mp ring.path).2.next_first

theorem Ring.prev_node (ring : Ring links anchor (before ++ node :: after)) :
    links.prev node = before.getLastD anchor :=
  (path_append.mp ring.path).1.prev_last

/-- The node behind a position, which is the anchor's where nothing is in front. -/
theorem Ring.next_position (ring : Ring links anchor (before ++ after)) :
    links.next (before.getLastD anchor) = after.headD anchor := by
  rcases List.eq_nil_or_concat before with rfl | ⟨front, node, rfl⟩
  · exact ring.next_anchor
  · rw [List.concat_eq_append, List.append_assoc] at ring
    rw [List.concat_eq_append, List.getLastD_concat]
    exact ring.next_node

theorem Ring.congr (ring : Ring links anchor nodes)
    (next : ∀ node ∈ anchor :: nodes, other.next node = links.next node)
    (prev : ∀ node ∈ anchor :: nodes, other.prev node = links.prev node) :
    Ring other anchor nodes := by
  refine ⟨ring.distinct, ring.path.congr next fun node member => prev node ?_⟩
  simpa [or_comm] using member

/-- Where a node comes between two parts of a path, nothing comes twice, but for an anchor that is
both ends. -/
structure Parts (first : α) (before : List α) (node : α) (after : List α) (last : α) : Prop where
  front : (first :: before).Nodup
  rear : (after ++ [last]).Nodup
  apart : ∀ here ∈ before, here ∉ after ++ [last]
  behind : first ∉ after
  freshFront : node ∉ first :: before
  freshRear : node ∉ after ++ [last]

theorem parts_of_distinct (distinct : (anchor :: (before ++ node :: after)).Nodup) :
    Parts anchor before node after anchor := by
  simp only [List.nodup_cons, List.mem_append, List.mem_cons, not_or, List.nodup_append',
    List.disjoint_cons_right] at distinct
  obtain ⟨⟨offFront, offNode, offRear⟩, front, ⟨newRear, rear⟩, newFront, apart⟩ := distinct
  have other : node ≠ anchor := fun same => offNode same.symm
  refine ⟨?_, ?_, ?_, offRear, ?_, ?_⟩
  · exact List.nodup_cons.mpr ⟨offFront, front⟩
  · rw [List.nodup_append_comm]
    exact List.nodup_cons.mpr ⟨offRear, rear⟩
  · intro here member later
    rcases List.mem_append.mp later with later | later
    · exact apart member later
    · rw [List.mem_singleton.mp later] at member
      exact offFront member
  · simp [other, newFront]
  · simp [other, newRear]

end Reading

section Writing

variable [DecidableEq α]

def Links.setNext (links : Links α) (node value : α) : Links α :=
  { links with next := Function.update links.next node value }

def Links.setPrev (links : Links α) (node value : α) : Links α :=
  { links with prev := Function.update links.prev node value }

def Links.init (links : Links α) (anchor : α) : Links α :=
  (links.setNext anchor anchor).setPrev anchor anchor

def Links.insertAfter (links : Links α) (position node : α) : Links α :=
  let joined := (links.setNext node (links.next position)).setPrev node position
  (joined.setPrev (joined.next position) node).setNext position node

def Links.unlink (links : Links α) (node : α) : Links α :=
  let closed := links.setPrev (links.next node) (links.prev node)
  closed.setNext (closed.prev node) (closed.next node)

variable {links : Links α} {first last anchor position node : α} {before after nodes : List α}

theorem insertAfter_next (links : Links α) (position node : α) :
    (links.insertAfter position node).next =
      Function.update (Function.update links.next node (links.next position)) position node := by
  simp [Links.insertAfter, Links.setNext, Links.setPrev]

theorem insertAfter_prev (links : Links α) (apart : node ≠ position) :
    (links.insertAfter position node).prev =
      Function.update (Function.update links.prev node position) (links.next position) node := by
  simp [Links.insertAfter, Links.setNext, Links.setPrev, apart.symm]

theorem unlink_next (links : Links α) (away : links.next node ≠ node) :
    (links.unlink node).next = Function.update links.next (links.prev node) (links.next node) := by
  simp [Links.unlink, Links.setNext, Links.setPrev, away.symm]

theorem unlink_prev (links : Links α) (node : α) :
    (links.unlink node).prev = Function.update links.prev (links.next node) (links.prev node) :=
  rfl

theorem Path.insert (path : Path links first (before ++ after) last)
    (parts : Parts first before node after last) :
    Path (links.insertAfter (before.getLastD first) node) first (before ++ node :: after) last := by
  obtain ⟨one, two⟩ := path_split.mp path
  obtain ⟨front, rear, apart, behind, freshFront, freshRear⟩ := parts
  have inside := getLastD_mem before first
  have beside := headD_mem after last
  have new : node ≠ before.getLastD first := fun same => freshFront (same ▸ inside)
  have old : node ≠ after.headD last := fun same => freshRear (same ▸ beside)
  have ahead : links.next (before.getLastD first) = after.headD last := two.next_first
  have next := insertAfter_next links (before.getLastD first) node
  have prev := insertAfter_prev links new
  rw [ahead] at next prev
  refine path_append.mpr ⟨one.end_at front ?_ ?_ ?_ ?_, two.start_at rear ?_ ?_ ?_ ?_⟩
  · rw [next, Function.update_self]
  · rw [prev, Function.update_of_ne old, Function.update_self]
  · intro here member off
    rw [next, Function.update_of_ne off, Function.update_of_ne]
    exact fun same => freshFront (same ▸ member)
  · intro here member
    have off : here ≠ after.headD last := fun same => apart here member (same ▸ beside)
    rw [prev, Function.update_of_ne off, Function.update_of_ne]
    exact fun same => freshFront (same ▸ List.mem_cons_of_mem _ member)
  · rw [next, Function.update_of_ne new, Function.update_self]
  · rw [prev, Function.update_self]
  · intro here member
    have off : here ≠ before.getLastD first := by
      rintro rfl
      rcases List.mem_cons.mp inside with same | member_
      · exact behind (same ▸ member)
      · exact apart _ member_ (List.mem_append_left _ member)
    rw [next, Function.update_of_ne off, Function.update_of_ne]
    exact fun same => freshRear (same ▸ List.mem_append_left _ member)
  · intro here member off
    rw [prev, Function.update_of_ne off, Function.update_of_ne]
    exact fun same => freshRear (same ▸ member)

theorem Path.remove (path : Path links first (before ++ node :: after) last)
    (parts : Parts first before node after last) :
    Path (links.unlink node) first (before ++ after) last := by
  obtain ⟨one, two⟩ := path_append.mp path
  obtain ⟨front, rear, apart, behind, freshFront, freshRear⟩ := parts
  have inside := getLastD_mem before first
  have beside := headD_mem after last
  have new : node ≠ before.getLastD first := fun same => freshFront (same ▸ inside)
  have old : node ≠ after.headD last := fun same => freshRear (same ▸ beside)
  have ahead : links.next node = after.headD last := two.next_first
  have back : links.prev node = before.getLastD first := one.prev_last
  have next := unlink_next links (ahead ▸ old.symm)
  have prev := unlink_prev links node
  rw [ahead, back] at next prev
  refine path_split.mpr ⟨one.end_at front ?_ ?_ ?_ ?_, two.start_at rear ?_ ?_ ?_ ?_⟩
  · rw [next, Function.update_self]
  · rw [prev, Function.update_self]
  · intro here _ off
    rw [next, Function.update_of_ne off]
  · intro here member
    have off : here ≠ after.headD last := fun same => apart here member (same ▸ beside)
    rw [prev, Function.update_of_ne off]
  · rw [next, Function.update_self]
  · rw [prev, Function.update_self]
  · intro here member
    have off : here ≠ before.getLastD first := by
      rintro rfl
      rcases List.mem_cons.mp inside with same | member_
      · exact behind (same ▸ member)
      · exact apart _ member_ (List.mem_append_left _ member)
    rw [next, Function.update_of_ne off]
  · intro here _ off
    rw [prev, Function.update_of_ne off]

theorem Ring.insert (ring : Ring links anchor (before ++ after))
    (fresh : node ∉ anchor :: (before ++ after)) :
    Ring (links.insertAfter (before.getLastD anchor) node) anchor (before ++ node :: after) := by
  have distinct : (anchor :: (before ++ node :: after)).Nodup := by
    rw [← List.cons_append, List.nodup_middle]
    exact List.nodup_cons.mpr ⟨fresh, ring.distinct⟩
  exact ⟨distinct, ring.path.insert (parts_of_distinct distinct)⟩

theorem Ring.remove (ring : Ring links anchor (before ++ node :: after)) :
    Ring (links.unlink node) anchor (before ++ after) := by
  refine ⟨?_, ring.path.remove (parts_of_distinct ring.distinct)⟩
  have distinct := ring.distinct
  rw [← List.cons_append, List.nodup_middle] at distinct
  exact (List.nodup_cons.mp distinct).2

theorem ring_init (links : Links α) (anchor : α) : Ring (links.init anchor) anchor [] := by
  refine ⟨List.nodup_singleton anchor, ?_, ?_⟩
  · exact Function.update_self ..
  · exact Function.update_self ..

/-! Other rings are as they were. -/

theorem Ring.init_other (ring : Ring links anchor nodes) (away : node ∉ anchor :: nodes) :
    Ring (links.init node) anchor nodes := by
  have off {here : α} (member : here ∈ anchor :: nodes) : here ≠ node :=
    fun same => away (same ▸ member)
  refine ring.congr (fun here member => ?_) (fun here member => ?_)
  · exact Function.update_of_ne (off member) ..
  · exact Function.update_of_ne (off member) ..

theorem Ring.insert_other (ring : Ring links anchor nodes) (new : node ≠ position)
    (away : node ∉ anchor :: nodes) (offPosition : position ∉ anchor :: nodes)
    (offNext : links.next position ∉ anchor :: nodes) :
    Ring (links.insertAfter position node) anchor nodes := by
  refine ring.congr (fun here member => ?_) (fun here member => ?_)
  · rw [insertAfter_next, Function.update_of_ne, Function.update_of_ne]
    · exact fun same => away (same ▸ member)
    · exact fun same => offPosition (same ▸ member)
  · rw [insertAfter_prev links new, Function.update_of_ne, Function.update_of_ne]
    · exact fun same => away (same ▸ member)
    · exact fun same => offNext (same ▸ member)

theorem Ring.unlink_other (ring : Ring links anchor nodes) (away : links.next node ≠ node)
    (offPrev : links.prev node ∉ anchor :: nodes) (offNext : links.next node ∉ anchor :: nodes) :
    Ring (links.unlink node) anchor nodes := by
  refine ring.congr (fun here member => ?_) (fun here member => ?_)
  · rw [unlink_next links away, Function.update_of_ne]
    exact fun same => offPrev (same ▸ member)
  · rw [unlink_prev, Function.update_of_ne]
    exact fun same => offNext (same ▸ member)

end Writing

end LinkRing
