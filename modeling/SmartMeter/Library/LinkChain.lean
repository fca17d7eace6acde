import SmartMeter.Library.LinkRing

/-!
Singly linked chains: the nodes that are met on the way from `first` to `last` along `next`, and the
loop that follows the links as long as the next node satisfies a condition.
-/

namespace LinkChain

variable {α : Type} {next other : α → α} {first last node : α} {nodes before after : List α}

def Chain (next : α → α) : α → List α → α → Prop
  | first, [], last => next first = last
  | first, node :: rest, last => next first = node ∧ Chain next node rest last

theorem chain_append : Chain next first (before ++ node :: after) last ↔
    Chain next first before node ∧ Chain next node after last := by
  induction before generalizing first with
  | nil => simp [Chain]
  | cons head rest ih => simp [Chain, ih, and_assoc]

theorem Chain.congr (chain : Chain next first nodes last)
    (same : ∀ node ∈ first :: nodes, other node = next node) : Chain other first nodes last := by
  induction nodes generalizing first with
  | nil => exact (same first (by simp)).trans chain
  | cons head rest ih =>
      refine ⟨(same first (by simp)).trans chain.1, ih chain.2 fun node member => ?_⟩
      exact same node (List.mem_cons_of_mem _ member)

theorem Chain.next_first (chain : Chain next first nodes last) :
    next first = nodes.headD last := by
  cases nodes with
  | nil => exact chain
  | cons head rest => exact chain.1

/-- The node in front of the part behind `before` is the last of `before`. -/
theorem chain_split : Chain next first (before ++ after) last ↔
    Chain next first before (after.headD last) ∧
      Chain next (before.getLastD first) after last := by
  induction before generalizing first with
  | nil =>
      refine ⟨fun chain => ⟨chain.next_first, chain⟩, And.right⟩
  | cons head rest ih =>
      simp only [List.cons_append, Chain, ih, and_assoc, List.getLastD_cons]

theorem Chain.relink (chain : Chain next first before node)
    (joined : other (before.getLastD first) = last)
    (same : ∀ node ∈ first :: before, node ≠ before.getLastD first → other node = next node)
    (distinct : (first :: before).Nodup) : Chain other first before last := by
  induction before generalizing first with
  | nil => exact joined
  | cons head rest ih =>
      obtain ⟨fresh, unique⟩ := List.nodup_cons.mp distinct
      rw [List.getLastD_cons] at joined same
      refine ⟨?_, ih chain.2 joined (fun node member => ?_) unique⟩
      · rw [same first (by simp) fun here => ?_, chain.1]
        have last_ := LinkRing.getLastD_mem rest head
        rw [← here] at last_
        exact fresh last_
      · exact same node (List.mem_cons_of_mem _ member)

theorem ne_getLastD (distinct : (first :: (before ++ after)).Nodup) {entry : α}
    (member : entry ∈ after) : entry ≠ before.getLastD first := by
  intro same
  have last_ := LinkRing.getLastD_mem before first
  rw [← same] at last_
  exact (List.nodup_append.mp distinct).2.2 entry last_ entry member rfl

/-- A node is taken out: the one in front of it takes its link. -/
theorem Chain.remove (chain : Chain next first (before ++ node :: after) last)
    (joined : other (before.getLastD first) = next node)
    (same : ∀ entry ∈ first :: (before ++ after), entry ≠ before.getLastD first →
      other entry = next entry)
    (distinct : (first :: (before ++ after)).Nodup) :
    Chain other first (before ++ after) last := by
  obtain ⟨front, back⟩ := chain_append.mp chain
  have joined' := joined.trans back.next_first
  have front' := front.relink joined' (fun entry member => same entry (by
    rw [← List.cons_append]
    exact List.mem_append_left _ member)) (List.nodup_append.mp distinct).1
  refine chain_split.mpr ⟨front', ?_⟩
  cases after with
  | nil => exact joined'
  | cons head rest =>
      refine ⟨joined', back.2.congr fun entry member => ?_⟩
      exact same entry (by simp [List.mem_cons.mp member]) (ne_getLastD distinct member)

/-- A node is put in: it takes the link of the one in front of it. -/
theorem Chain.insert (chain : Chain next first (before ++ after) last)
    (joined : other (before.getLastD first) = node)
    (behind : other node = next (before.getLastD first))
    (same : ∀ entry ∈ first :: (before ++ after), entry ≠ before.getLastD first →
      other entry = next entry)
    (distinct : (first :: (before ++ after)).Nodup) :
    Chain other first (before ++ node :: after) last := by
  obtain ⟨front, back⟩ := chain_split.mp chain
  have front' := front.relink joined (fun entry member => same entry (by
    rw [← List.cons_append]
    exact List.mem_append_left _ member)) (List.nodup_append.mp distinct).1
  refine chain_append.mpr ⟨front', ?_⟩
  cases after with
  | nil => exact behind.trans back
  | cons head rest =>
      refine ⟨behind.trans back.1, back.2.congr fun entry member => ?_⟩
      exact same entry (by simp [List.mem_cons.mp member]) (ne_getLastD distinct member)

end LinkChain
