import Mathlib.Logic.Basic

/-!
An agenda of deadlines: entries in the order of their deadlines and, where these are equal, in
the order in which they were made.
-/

namespace Agenda

variable {β : Type}

structure Entry (β : Type) where
  due : Nat
  id : Nat
  payload : β

def Precedes (first second : Entry β) : Prop :=
  first.due < second.due ∨ first.due = second.due ∧ first.id < second.id

def insert (entry : Entry β) : List (Entry β) → List (Entry β)
  | [] => [entry]
  | head :: rest => if head.due ≤ entry.due then head :: insert entry rest else entry :: head :: rest

theorem insert_split (entry : Entry β) (entries : List (Entry β)) :
    ∃ before after, entries = before ++ after ∧ insert entry entries = before ++ entry :: after := by
  induction entries with
  | nil => exact ⟨[], [], rfl, rfl⟩
  | cons head rest ih =>
      rw [insert]
      split
      · obtain ⟨before, after, split, inserted⟩ := ih
        exact ⟨head :: before, after, by simp [← split], by simp [inserted]⟩
      · exact ⟨[], head :: rest, rfl, rfl⟩

theorem mem_insert {entry other : Entry β} {entries : List (Entry β)} :
    other ∈ insert entry entries ↔ other = entry ∨ other ∈ entries := by
  induction entries with
  | nil => simp [insert]
  | cons head rest ih =>
      rw [insert]
      split
      · simp only [List.mem_cons, ih]
        constructor
        · rintro (same | same | inside)
          · exact .inr (.inl same)
          · exact .inl same
          · exact .inr (.inr inside)
        · rintro (same | same | inside)
          · exact .inr (.inl same)
          · exact .inl same
          · exact .inr (.inr inside)
      · simp

theorem ordered_insert {entry : Entry β} {entries : List (Entry β)}
    (ordered : entries.Pairwise Precedes) (fresh : ∀ other ∈ entries, other.id < entry.id) :
    (insert entry entries).Pairwise Precedes := by
  induction entries with
  | nil => simp [insert]
  | cons head rest ih =>
      obtain ⟨first, tail⟩ := List.pairwise_cons.mp ordered
      have older := fresh head List.mem_cons_self
      rw [insert]
      split
      next early =>
        refine List.pairwise_cons.mpr ⟨?_, ih tail fun other inside =>
          fresh other (List.mem_cons_of_mem _ inside)⟩
        intro other inside
        rcases mem_insert.mp inside with rfl | inside
        · unfold Precedes
          omega
        · exact first other inside
      next late =>
        refine List.pairwise_cons.mpr ⟨?_, ordered⟩
        intro other inside
        rcases List.mem_cons.mp inside with rfl | inside
        · unfold Precedes
          omega
        · have later := first other inside
          unfold Precedes at later ⊢
          omega

/-- `promised` has the deadline of every entry there ever was, under its `id`. -/
structure State (β : Type) where
  now : Nat
  entries : List (Entry β)
  fired : List (Entry β)
  promised : List Nat

namespace State

def add (state : State β) (delay : Nat) (payload : β) : State β :=
  { state with
    entries := insert ⟨state.now + delay, state.promised.length, payload⟩ state.entries
    promised := state.promised ++ [state.now + delay] }

def remove (state : State β) (chosen : Entry β → Bool) : State β :=
  { state with entries := state.entries.eraseP chosen }

def pass (state : State β) (span : Nat) : State β :=
  { state with now := state.now + span }

def serve (state : State β) : State β :=
  match state.entries with
  | [] => state
  | head :: rest =>
      { state with now := head.due, entries := rest, fired := state.fired ++ [head] }

/-- Entries are served in order, none late, and all that were made keep their deadlines. -/
structure Sound (state : State β) : Prop where
  ordered : (state.fired ++ state.entries).Pairwise Precedes
  past : ∀ entry ∈ state.fired, entry.due ≤ state.now
  ahead : ∀ entry ∈ state.entries, state.now ≤ entry.due
  kept : ∀ entry ∈ state.fired ++ state.entries, state.promised[entry.id]? = some entry.due

variable {state : State β}

theorem Sound.known (sound : state.Sound) {entry : Entry β}
    (inside : entry ∈ state.fired ++ state.entries) : entry.id < state.promised.length := by
  have there := sound.kept entry inside
  rw [List.getElem?_eq_some_iff] at there
  exact there.1

theorem Sound.add (sound : state.Sound) (delay : Nat) (payload : β) :
    (state.add delay payload).Sound := by
  have known (entry : Entry β) (inside : entry ∈ state.fired ++ state.entries) :=
    sound.known inside
  obtain ⟨ordered, past, ahead, kept⟩ := sound
  obtain ⟨served, waiting, apart⟩ := List.pairwise_append.mp ordered
  refine ⟨?_, past, ?_, ?_⟩
  · refine List.pairwise_append.mpr ⟨served, ?_, ?_⟩
    · exact ordered_insert waiting fun other inside =>
        known other (List.mem_append_right _ inside)
    · intro first inFired second inside
      rcases mem_insert.mp inside with rfl | inside
      · have early := past first inFired
        have older := known first (List.mem_append_left _ inFired)
        unfold Precedes
        simp only
        omega
      · exact apart first inFired second inside
  · intro entry inside
    rcases mem_insert.mp inside with rfl | inside
    · exact Nat.le_add_right _ _
    · exact ahead entry inside
  · intro entry inside
    rcases List.mem_append.mp inside with inFired | inside
    · have there := List.mem_append_left state.entries inFired
      exact (List.getElem?_append_left (known entry there)).trans (kept entry there)
    · rcases mem_insert.mp inside with rfl | inside
      · exact List.getElem?_concat_length
      · have there := List.mem_append_right state.fired inside
        exact (List.getElem?_append_left (known entry there)).trans (kept entry there)

theorem Sound.remove (sound : state.Sound) (chosen : Entry β → Bool) : (state.remove chosen).Sound := by
  obtain ⟨ordered, past, ahead, kept⟩ := sound
  have fewer : (state.fired ++ state.entries.eraseP chosen).Sublist (state.fired ++ state.entries) :=
    (List.Sublist.refl _).append List.eraseP_sublist
  exact ⟨ordered.sublist fewer, past, fun entry inside => ahead entry (List.mem_of_mem_eraseP inside),
    fun entry inside => kept entry (fewer.subset inside)⟩

theorem Sound.pass (sound : state.Sound) {span : Nat}
    (early : ∀ head ∈ state.entries.head?, state.now + span ≤ head.due) : (state.pass span).Sound := by
  obtain ⟨ordered, past, ahead, kept⟩ := sound
  refine ⟨ordered, fun entry inside => Nat.le_add_right_of_le (past entry inside), ?_, kept⟩
  intro entry inside
  have waiting := (List.pairwise_append.mp ordered).2.1
  cases entries : state.entries with
  | nil =>
      have absent : entry ∈ state.entries := inside
      rw [entries] at absent
      cases absent
  | cons head rest =>
      have first := early head (by rw [entries]; rfl)
      have there : entry ∈ state.entries := inside
      rw [entries] at there waiting
      rcases List.mem_cons.mp there with rfl | there
      · exact first
      · have later := (List.pairwise_cons.mp waiting).1 entry there
        unfold Precedes at later
        change state.now + span ≤ entry.due
        omega

theorem Sound.serve (sound : state.Sound) : state.serve.Sound := by
  cases entries : state.entries with
  | nil =>
      have same : state.serve = state := by rw [State.serve, entries]
      rw [same]
      exact sound
  | cons head rest =>
      have served : state.serve =
          { state with now := head.due, entries := rest, fired := state.fired ++ [head] } := by
        rw [State.serve, entries]
      obtain ⟨ordered, past, ahead, kept⟩ := sound
      have waiting := (List.pairwise_append.mp ordered).2.1
      rw [entries] at ordered ahead kept waiting
      rw [served]
      have join : state.fired ++ head :: rest = state.fired ++ [head] ++ rest := by simp
      rw [join] at ordered kept
      refine ⟨ordered, ?_, ?_, kept⟩
      · intro entry inside
        have now := ahead head List.mem_cons_self
        rcases List.mem_append.mp inside with inside | last
        · exact Nat.le_trans (past entry inside) now
        · exact Nat.le_of_eq (congrArg Entry.due (List.mem_singleton.mp last))
      · intro entry inside
        have later := (List.pairwise_cons.mp waiting).1 entry inside
        unfold Precedes at later
        change head.due ≤ entry.due
        omega

end State

end Agenda
