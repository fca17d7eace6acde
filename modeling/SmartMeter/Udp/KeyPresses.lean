import SmartMeter.Udp.WifiTaskCore

/-!
What the key timer makes of a press. `KeyScanTimerProc` finds the rest of the Wi-Fi task as
anything may have left it, with room in the queue; the key pulls its pin low.
-/

namespace SmartMeter

abbrev Surroundings := { task : WifiTask // task.queue.length < wifiQueueSize }

def pressed (task : WifiTask) : Bool :=
  task.board.gpio.bankA.data &&& pinBit wmIoPa00 = 0

def keyScanPosts : List Surroundings → KeyScan → List (List Msg)
  | [], _ => []
  | around :: rest, key =>
      let after := keyScanTimerProc { around.val with key := key }
      after.queue.drop around.val.queue.length :: keyScanPosts rest after.key

/-- `held` pressed samples in a row have come last; the first of them is not counted. -/
structure Holds (held : Nat) (key : KeyScan) : Prop where
  level : key.preStatus = if held = 0 then 1 else 0
  count : key.count.toNat = held - 1

def nextHeld (held : Nat) (level : Bool) : Nat :=
  if level then held + 1 else 0

def samplePost (held : Nat) (level : Bool) : List Msg :=
  if level then if held = 10 then [.oneshot] else []
  else if 1 ≤ held ∧ held ≤ 10 then [.key] else []

def levelPosts : Nat → List Bool → List (List Msg)
  | _, [] => []
  | held, level :: rest => samplePost held level :: levelPosts (nextHeld held level) rest

section Step

variable {key : KeyScan} {held : Nat}

theorem long_iff (count : key.count.toNat = held - 1) (some_held : held ≠ 0)
    (bound : held < 4294967296) : keyLongCount = key.count + 1 ↔ held = 10 := by
  have limit : keyLongCount.toNat = 10 := rfl
  have one : (1 : UInt32).toNat = 1 := rfl
  rw [← UInt32.toNat_inj, UInt32.toNat_add]
  omega

theorem short_iff (count : key.count.toNat = held - 1) (some_held : held ≠ 0) :
    key.count < keyLongCount ↔ 1 ≤ held ∧ held ≤ 10 := by
  have limit : keyLongCount.toNat = 10 := rfl
  rw [UInt32.lt_iff_toNat_lt]
  omega

theorem readKey_level (task : WifiTask) :
    (readKey.run task.board.gpio).1 = if pressed task then 0 else 1 := by
  have read : (readKey.run task.board.gpio).1 =
      if task.board.gpio.bankA.data &&& pinBit wmIoPa00 ≠ 0 then 1 else 0 := rfl
  rw [read]
  by_cases low : task.board.gpio.bankA.data &&& pinBit wmIoPa00 = 0 <;> simp [pressed, low]

/-- A message that is posted under a condition joins a queue with room, and the key stays. -/
theorem post_if {task : WifiTask} (room : task.queue.length < wifiQueueSize) (condition : Prop)
    [Decidable condition] (msg : Msg) :
    (if condition then task.post msg else task).queue =
        task.queue ++ (if condition then [msg] else []) ∧
      (if condition then task.post msg else task).key = task.key := by
  by_cases met : condition
  · simp only [if_pos met, WifiTask.post, if_pos room, and_self]
  · simp only [if_neg met, List.append_nil, and_self]

theorem holds_post_if {task : WifiTask} (room : task.queue.length < wifiQueueSize)
    (condition : Prop) [Decidable condition] (msg : Msg) (holds : Holds held task.key) :
    Holds held (if condition then task.post msg else task).key := by
  rw [(post_if room condition msg).2]
  exact holds

/-- One sample: what it posts and how many pressed ones are now in a row. -/
theorem keyScan_step {task : WifiTask} (room : task.queue.length < wifiQueueSize)
    (before : Holds held task.key) (bound : held < 4294967296) :
    (keyScanTimerProc task).queue = task.queue ++ samplePost held (pressed task) ∧
      Holds (nextHeld held (pressed task)) (keyScanTimerProc task).key := by
  obtain ⟨level, count⟩ := before
  have read := readKey_level task
  unfold keyScanTimerProc
  simp only [read, level]
  cases now : pressed task with
  | true =>
      by_cases first : held = 0
      · subst first
        simp [samplePost, nextHeld]
        exact ⟨rfl, count⟩
      · simp [first, samplePost, nextHeld, long_iff count first bound]
        have counted : (task.key.count + 1).toNat = held + 1 - 1 := by
          have one : (1 : UInt32).toNat = 1 := rfl
          rw [UInt32.toNat_add]
          omega
        refine ⟨(post_if ?_ _ _).1, holds_post_if ?_ _ _ ⟨?_, ?_⟩⟩
        · exact room
        · exact room
        · rfl
        · exact counted
  | false =>
      by_cases first : held = 0
      · subst first
        simp [samplePost, nextHeld]
        exact ⟨rfl, count⟩
      · simp [first, samplePost, nextHeld, short_iff count first]
        refine ⟨(post_if ?_ _ _).1, holds_post_if ?_ _ _ ⟨?_, ?_⟩⟩
        · exact room
        · exact room
        · rfl
        · rfl

theorem keyScanPosts_eq (before : Holds held key) (samples : List Surroundings)
    (bound : held + samples.length ≤ 4294967296) :
    keyScanPosts samples key = levelPosts held (samples.map fun around => pressed around.val) := by
  induction samples generalizing held key with
  | nil => rfl
  | cons around rest ih =>
      simp only [List.length_cons] at bound
      obtain ⟨post, after⟩ := @keyScan_step _ { around.val with key := key } around.property
        before (by omega)
      have same : pressed { around.val with key := key } = pressed around.val := rfl
      have short : nextHeld held (pressed around.val) ≤ held + 1 := by
        unfold nextHeld
        split <;> omega
      rw [same] at post after
      simp only [keyScanPosts, List.map_cons, levelPosts]
      rw [ih after (by omega), post, List.drop_left]

end Step

/-- What the samples of a press post: a message at the eleventh and no other. -/
def pressPosts (count : Nat) : List (List Msg) :=
  (List.range count).map fun index => if index = 10 then [.oneshot] else []

def releasePost (count : Nat) : List Msg :=
  if count ≤ 10 then [.key] else []

theorem levelPosts_append (held : Nat) (first second : List Bool) :
    levelPosts held (first ++ second) =
      levelPosts held first ++ levelPosts (first.foldl nextHeld held) second := by
  induction first generalizing held with
  | nil => rfl
  | cons level rest ih => simp [levelPosts, ih]

theorem levelPosts_length (held : Nat) (levels : List Bool) :
    (levelPosts held levels).length = levels.length := by
  induction levels generalizing held with
  | nil => rfl
  | cons level rest ih => simp [levelPosts, ih]

theorem foldl_presses (held count : Nat) :
    (List.replicate count true).foldl nextHeld held = held + count := by
  induction count generalizing held with
  | zero => rfl
  | succ count ih =>
      rw [List.replicate_succ, List.foldl_cons, ih]
      simp only [nextHeld, if_true]
      omega

theorem levelPosts_presses (count : Nat) : levelPosts 0 (List.replicate count true) = pressPosts count := by
  induction count with
  | zero => rfl
  | succ count ih =>
      rw [List.replicate_succ', levelPosts_append, ih, foldl_presses, pressPosts, pressPosts,
        List.range_succ, List.map_append]
      simp [levelPosts, samplePost]

/-- The sample before the ones to come was no pressed one. -/
def Released (levels : List Bool) : Prop :=
  levels.getLast? ≠ some true

theorem released_held {levels : List Bool} (released : Released levels) :
    levels.foldl nextHeld 0 = 0 := by
  rcases List.eq_nil_or_concat levels with rfl | ⟨before, level, rfl⟩
  · rfl
  · cases level with
    | true => simp [Released] at released
    | false => simp [nextHeld]

/-- Nothing of what came before a released sample shows in what follows. -/
theorem levelPosts_after {before : List Bool} (released : Released before) (rest : List Bool) :
    (levelPosts 0 (before ++ rest)).drop before.length = levelPosts 0 rest := by
  rw [levelPosts_append, released_held released]
  exact List.drop_left' (levelPosts_length 0 before)

/-- Every sample belongs to a maximal press that is released, to a last one that is not, or is
a released sample that ends no press. -/
structure KeyLaw (levels : List Bool) (posts : List (List Msg)) : Prop where
  size : posts.length = levels.length
  press : ∀ before count after, 0 < count → Released before →
    levels = before ++ List.replicate count true ++ false :: after →
    (posts.drop before.length).take (count + 1) = pressPosts count ++ [releasePost count]
  unreleased : ∀ before count, Released before → levels = before ++ List.replicate count true →
    posts.drop before.length = pressPosts count
  idle : ∀ before after, Released before → levels = before ++ false :: after →
    posts[before.length]? = some []

theorem pressPosts_length (count : Nat) : (pressPosts count).length = count := by
  simp [pressPosts]

theorem levelPosts_law (levels : List Bool) : KeyLaw levels (levelPosts 0 levels) := by
  refine ⟨levelPosts_length 0 levels, ?_, ?_, ?_⟩
  · rintro before count after positive released rfl
    have released_post : samplePost count false = releasePost count := by
      simp only [samplePost, releasePost, Bool.false_eq_true, ↓reduceIte]
      congr 1
      simp only [eq_iff_iff, and_iff_right_iff_imp]
      omega
    rw [List.append_assoc, levelPosts_after released, levelPosts_append, levelPosts_presses,
      foldl_presses, Nat.zero_add, levelPosts, released_post]
    have size : count + 1 = (pressPosts count ++ [releasePost count]).length := by
      simp [pressPosts_length]
    rw [List.append_cons, size, List.take_left]
  · rintro before count released rfl
    rw [levelPosts_after released, levelPosts_presses]
  · rintro before after released rfl
    have later := levelPosts_after released (false :: after)
    rw [← Nat.add_zero before.length, ← List.getElem?_drop, later]
    rfl

/-- The messages of any sequence of samples shorter than the counter is wide. -/
theorem keyScan_law (samples : List Surroundings) (bound : samples.length < 4294967296) :
    KeyLaw (samples.map fun around => pressed around.val) (keyScanPosts samples ⟨1, 1, 0⟩) := by
  have start : Holds 0 ⟨1, 1, 0⟩ := ⟨rfl, rfl⟩
  rw [keyScanPosts_eq start samples (by omega)]
  exact levelPosts_law _

def keySample (down : Bool) : Surroundings :=
  ⟨WifiTask.boot
    { i2c := ⟨(⟨fun _ => 0xFF, 0, .idle⟩, ⟨fun _ => 0, 0, .idle⟩), false⟩
      gpio := ⟨⟨if down then 0 else 1, 0, 0, 0⟩, ⟨0, 0, 0, 0⟩⟩
      udpAck := fun _ => 0
      udpAckLen := 0 }, Nat.succ_pos 3⟩

theorem keyScan_law_press :
    KeyLaw ([keySample true, keySample true, keySample false].map fun around => pressed around.val)
      (keyScanPosts [keySample true, keySample true, keySample false] ⟨1, 1, 0⟩) :=
  keyScan_law [keySample true, keySample true, keySample false] (by decide)

end SmartMeter
