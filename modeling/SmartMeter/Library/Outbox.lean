import Mathlib.Data.List.Basic

/-!
One outgoing slot that is served on request. Filling it replaces what is left of the content
before; serving hands over some elements from the front of the content, however many are gone
already. The question is whether each content goes out whole.
-/

namespace Outbox

variable {α δ : Type}

structure Reply (α δ : Type) where
  content : List α
  dest : δ
  handed : List (δ × List α)

def Reply.bytes (reply : Reply α δ) : List α :=
  reply.handed.flatMap Prod.snd

def Reply.Complete (reply : Reply α δ) : Prop :=
  reply.content ≠ [] → reply.bytes = reply.content ∧ ∀ part ∈ reply.handed, part.1 = reply.dest

instance [DecidableEq α] [DecidableEq δ] (reply : Reply α δ) : Decidable reply.Complete :=
  inferInstanceAs (Decidable (reply.content ≠ [] →
    reply.bytes = reply.content ∧ ∀ part ∈ reply.handed, part.1 = reply.dest))

/-- The replies, latest first; how much of the latest one is left, and whether a request to
serve it is on its way. -/
structure Box (α δ : Type) where
  replies : List (Reply α δ)
  remaining : Nat
  requested : Bool

inductive Action (α δ : Type)
  | idle
  | skip (requested : Bool)
  | serve (count : Nat) (requested : Bool)
  | fill (content : List α) (dest : δ) (requested : Bool)

def credit (parts : List (δ × List α)) : List (Reply α δ) → List (Reply α δ)
  | [] => []
  | latest :: earlier => { latest with handed := latest.handed ++ parts } :: earlier

def Box.part (box : Box α δ) (count : Nat) : List (δ × List α) :=
  (box.replies.head?.map fun latest => (latest.dest, latest.content.take count)).toList

def Box.step (box : Box α δ) : Action α δ → Box α δ
  | .idle => box
  | .skip requested => { box with requested := requested }
  | .serve count requested =>
      ⟨credit (box.part count) box.replies, box.remaining - count, requested⟩
  | .fill content dest requested =>
      ⟨⟨content, dest, []⟩ :: box.replies, content.length, requested⟩

def Box.Possible (box : Box α δ) : Action α δ → Prop
  | .idle => True
  | .skip _ => box.requested = true
  | .serve count _ => box.requested = true ∧ 0 < box.remaining ∧ count ≤ box.remaining
  | .fill _ _ _ => True

/-- What keeps the replies whole: the slot is filled when it is empty, what is left is
requested again, and the front of the content is what comes next. -/
def Box.Allowed (box : Box α δ) : Action α δ → Prop
  | .idle => True
  | .skip requested => 0 < box.remaining → requested = true
  | .serve count requested => (∀ latest, box.replies.head? = some latest →
      latest.content.take count =
        (latest.content.drop (latest.content.length - box.remaining)).take count) ∧
      (count < box.remaining → requested = true)
  | .fill content _ requested => box.remaining = 0 ∧ (content ≠ [] → requested = true)

structure InOrder (reply : Reply α δ) (remaining : Nat) : Prop where
  bound : remaining ≤ reply.content.length
  bytes : reply.bytes = reply.content.take (reply.content.length - remaining)
  dest : ∀ part ∈ reply.handed, part.1 = reply.dest

structure Sound (box : Box α δ) : Prop where
  earlier : ∀ reply ∈ box.replies.tail, reply.Complete
  latest : ∀ reply, box.replies.head? = some reply → InOrder reply box.remaining
  empty : box.replies = [] → box.remaining = 0
  served : 0 < box.remaining → box.requested = true

/-- A reply that nothing can complete any more. -/
def Broken (box : Box α δ) : Prop :=
  (∃ reply ∈ box.replies.tail, ¬reply.Complete) ∨
    ∃ reply, box.replies.head? = some reply ∧ reply.content ≠ [] ∧
      (¬reply.bytes <+: reply.content ∨
        box.requested = false ∧ reply.bytes.length < reply.content.length)

theorem take_append_prefix_iff (content : List α) (done count : Nat)
    (bound : done + count ≤ content.length) :
    content.take done ++ content.take count <+: content ↔
      content.take count = (content.drop done).take count := by
  rw [List.prefix_iff_eq_take, List.length_append, List.length_take, List.length_take,
    Nat.min_eq_left (by omega), Nat.min_eq_left (by omega), List.take_add, List.append_cancel_left_eq]

theorem InOrder.complete {reply : Reply α δ} (inOrder : InOrder reply 0) : reply.Complete := by
  intro _
  refine ⟨?_, inOrder.dest⟩
  rw [inOrder.bytes, Nat.sub_zero, List.take_length]

theorem InOrder.length {reply : Reply α δ} {remaining : Nat} (inOrder : InOrder reply remaining) :
    reply.bytes.length = reply.content.length - remaining := by
  rw [inOrder.bytes, List.length_take]
  omega

theorem not_complete_of_short {reply : Reply α δ}
    (short : reply.bytes.length < reply.content.length) : ¬reply.Complete := by
  intro complete
  have some : reply.content ≠ [] := List.length_pos_iff.mp (by omega)
  rw [(complete some).1] at short
  exact absurd short (Nat.lt_irrefl _)

theorem not_complete_of_not_prefix {reply : Reply α δ} (some : reply.content ≠ [])
    (garbled : ¬reply.bytes <+: reply.content) : ¬reply.Complete := by
  intro complete
  rw [(complete some).1] at garbled
  exact garbled List.prefix_rfl

theorem Broken.not_complete {box : Box α δ} (broken : Broken box) :
    ¬∀ reply ∈ box.replies, reply.Complete := by
  intro every
  rcases broken with ⟨reply, earlier, incomplete⟩ | ⟨reply, latest, some, garbled | ⟨_, short⟩⟩
  · exact incomplete (every reply (List.mem_of_mem_tail earlier))
  · exact not_complete_of_not_prefix some garbled (every reply (List.mem_of_mem_head? latest))
  · exact not_complete_of_short short (every reply (List.mem_of_mem_head? latest))

theorem Sound.complete {box : Box α δ} (sound : Sound box) (drained : box.requested = false) :
    ∀ reply ∈ box.replies, reply.Complete := by
  have none : box.remaining = 0 := by
    apply Nat.eq_zero_of_not_pos
    intro some
    rw [sound.served some] at drained
    cases drained
  intro reply member
  cases held : box.replies with
  | nil => simp [held] at member
  | cons latest earlier =>
      rw [held] at member
      rcases List.mem_cons.mp member with rfl | before
      · have inOrder := sound.latest reply (by simp [held])
        rw [none] at inOrder
        exact inOrder.complete
      · exact sound.earlier reply (by simpa [held] using before)

def Reply.served (reply : Reply α δ) (count : Nat) : Reply α δ :=
  { reply with handed := reply.handed ++ [(reply.dest, reply.content.take count)] }

theorem bytes_served (reply : Reply α δ) (count : Nat) :
    (reply.served count).bytes = reply.bytes ++ reply.content.take count := by
  simp [Reply.served, Reply.bytes]

theorem step_serve {box : Box α δ} {latest : Reply α δ} {earlier : List (Reply α δ)}
    (held : box.replies = latest :: earlier) (count : Nat) (requested : Bool) :
    box.step (.serve count requested) =
      ⟨latest.served count :: earlier, box.remaining - count, requested⟩ := by
  simp [Box.step, Box.part, credit, held, Reply.served]

theorem InOrder.served_iff {reply : Reply α δ} {remaining count : Nat}
    (inOrder : InOrder reply remaining) (bound : count ≤ remaining) :
    (reply.served count).bytes <+: reply.content ↔
      reply.content.take count =
        (reply.content.drop (reply.content.length - remaining)).take count := by
  have fits := inOrder.bound
  rw [bytes_served, inOrder.bytes]
  exact take_append_prefix_iff _ _ _ (by omega)

theorem InOrder.served {reply : Reply α δ} {remaining count : Nat}
    (inOrder : InOrder reply remaining) (bound : count ≤ remaining)
    (next : reply.content.take count =
      (reply.content.drop (reply.content.length - remaining)).take count) :
    InOrder (reply.served count) (remaining - count) := by
  have fits := inOrder.bound
  refine ⟨Nat.le_trans (Nat.sub_le _ _) fits, ?_, ?_⟩
  · have sum : reply.content.length - (remaining - count) =
        reply.content.length - remaining + count := by omega
    rw [bytes_served, inOrder.bytes, next, ← List.take_add, ← sum]
    rfl
  · intro part member
    rcases List.mem_append.mp member with before | added
    · exact inOrder.dest part before
    · rw [List.mem_singleton.mp added]
      rfl

theorem Sound.pending {box : Box α δ} (sound : Sound box) (some : 0 < box.remaining) :
    ∃ latest earlier, box.replies = latest :: earlier ∧ InOrder latest box.remaining := by
  cases held : box.replies with
  | nil =>
      have none := sound.empty held
      omega
  | cons latest earlier => exact ⟨latest, earlier, rfl, sound.latest latest (by simp [held])⟩

theorem Sound.step {box : Box α δ} {action : Action α δ} (sound : Sound box)
    (possible : box.Possible action) (allowed : box.Allowed action) : Sound (box.step action) := by
  cases action with
  | idle => exact sound
  | skip requested => exact ⟨sound.earlier, sound.latest, sound.empty, allowed⟩
  | serve count requested =>
      obtain ⟨_, some, bound⟩ := possible
      obtain ⟨latest, earlier, held, inOrder⟩ := sound.pending some
      have next := allowed.1 latest (by simp [held])
      have before := sound.earlier
      rw [held] at before
      rw [step_serve held]
      refine ⟨before, ?_, by simp, ?_⟩
      · rintro reply ⟨⟩
        exact inOrder.served bound next
      · intro left
        exact allowed.2 (Nat.lt_of_sub_pos left)
  | fill content dest requested =>
      obtain ⟨emptied, requests⟩ := allowed
      refine ⟨?_, ?_, by simp [Box.step], ?_⟩
      · intro reply member
        cases held : box.replies with
        | nil => simp [Box.step, held] at member
        | cons latest earlier =>
            simp only [Box.step, held, List.tail_cons] at member
            rcases List.mem_cons.mp member with rfl | before
            · have inOrder := sound.latest reply (by simp [held])
              rw [emptied] at inOrder
              exact inOrder.complete
            · exact sound.earlier reply (by simpa [held] using before)
      · rintro reply ⟨⟩
        refine ⟨Nat.le_refl _, ?_, ?_⟩
        · simp [Box.step, Reply.bytes]
        · intro part member
          cases member
      · intro some
        exact requests (List.length_pos_iff.mp some)

theorem Sound.lost {box : Box α δ} {action : Action α δ} (sound : Sound box)
    (possible : box.Possible action) (broken : ¬box.Allowed action) : Broken (box.step action) := by
  cases action with
  | idle => exact absurd trivial broken
  | skip requested =>
      simp only [Box.Allowed, Classical.not_imp, Bool.not_eq_true] at broken
      obtain ⟨some, dropped⟩ := broken
      obtain ⟨latest, earlier, held, inOrder⟩ := sound.pending some
      have bound := inOrder.bound
      refine .inr ⟨latest, by simp [Box.step, held], ?_, .inr ⟨dropped, ?_⟩⟩
      · exact List.length_pos_iff.mp (by omega)
      · rw [inOrder.length]
        omega
  | serve count requested =>
      obtain ⟨_, some, fits⟩ := possible
      obtain ⟨latest, earlier, held, inOrder⟩ := sound.pending some
      have bound := inOrder.bound
      rw [step_serve held]
      refine .inr ⟨latest.served count, rfl, List.length_pos_iff.mp (Nat.lt_of_lt_of_le some bound), ?_⟩
      by_cases next : latest.content.take count =
          (latest.content.drop (latest.content.length - box.remaining)).take count
      · right
        have after := inOrder.served fits next
        have dropped : ¬(count < box.remaining → requested = true) := by
          intro requests
          exact broken ⟨by simpa [held] using next, requests⟩
        simp only [Classical.not_imp, Bool.not_eq_true] at dropped
        refine ⟨dropped.2, ?_⟩
        rw [after.length]
        have same : (latest.served count).content.length = latest.content.length := rfl
        omega
      · left
        intro whole
        exact next ((inOrder.served_iff fits).mp whole)
  | fill content dest requested =>
      by_cases emptied : box.remaining = 0
      · have dropped : ¬(content ≠ [] → requested = true) := by
          intro requests
          exact broken ⟨emptied, requests⟩
        simp only [Classical.not_imp, Bool.not_eq_true] at dropped
        refine .inr ⟨⟨content, dest, []⟩, rfl, dropped.1, .inr ⟨dropped.2, ?_⟩⟩
        exact List.length_pos_iff.mpr dropped.1
      · left
        obtain ⟨latest, earlier, held, inOrder⟩ := sound.pending (Nat.pos_of_ne_zero emptied)
        have bound := inOrder.bound
        refine ⟨latest, by simp [Box.step, held], not_complete_of_short ?_⟩
        rw [inOrder.length]
        omega

theorem Broken.step {box : Box α δ} {action : Action α δ} (broken : Broken box)
    (possible : box.Possible action) : Broken (box.step action) := by
  cases action with
  | idle => exact broken
  | skip requested =>
      rcases broken with earlier | ⟨reply, latest, some, garbled | ⟨stuck, _⟩⟩
      · exact .inl earlier
      · exact .inr ⟨reply, latest, some, .inl garbled⟩
      · rw [possible] at stuck
        cases stuck
  | serve count requested =>
      cases held : box.replies with
      | nil => simp [Broken, held] at broken
      | cons latest earlier =>
          rw [step_serve held]
          simp only [Broken, held, List.tail_cons, List.head?_cons, Option.some.injEq] at broken
          rcases broken with before | ⟨reply, rfl, some, garbled | ⟨stuck, _⟩⟩
          · exact .inl before
          · refine .inr ⟨latest.served count, rfl, some, .inl ?_⟩
            intro whole
            rw [bytes_served] at whole
            exact garbled ((List.prefix_append _ _).trans whole)
          · rw [possible.1] at stuck
            cases stuck
  | fill content dest requested =>
      left
      rcases broken with ⟨reply, earlier, incomplete⟩ | ⟨reply, latest, some, garbled | ⟨_, short⟩⟩
      · exact ⟨reply, List.mem_of_mem_tail earlier, incomplete⟩
      · exact ⟨reply, List.mem_of_mem_head? latest, not_complete_of_not_prefix some garbled⟩
      · exact ⟨reply, List.mem_of_mem_head? latest, not_complete_of_short short⟩

end Outbox
