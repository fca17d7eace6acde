import SmartMeter.Oneshot.FragmentTables

/-!
Broadcast provisioning: the tables and the bits in `tag_recved` follow the abstract receiver of
numbered pieces, and a message gets through exactly when that receiver can still take it.
-/

namespace SmartMeter

inductive Credential where
  | ssid
  | pwd

namespace Credential

def tag : Credential → Nat
  | ssid => 0
  | pwd => 1

/-- The fragments a text can have, as many as the table or the numbering allows. -/
def most : Credential → Nat
  | ssid => 8
  | pwd => 16

def kind : Credential → FragmentKind
  | ssid => ssidKind
  | pwd => pwdKind

def table : Credential → FragmentState → FragmentTable
  | ssid, state => state.ssid
  | pwd, state => state.pwd

def okflag : Credential → FragmentState → Bool
  | ssid, state => state.gucssidokflag
  | pwd, state => state.gucpwdokflag

def buffer : Credential → FragmentState → Nat → UInt8
  | ssid, state => state.gucssidData
  | pwd, state => state.gucpwdData

def text (credential : Credential) (state : FragmentState) : List UInt8 :=
  cString (Buffer.toList (credential.buffer state) (4 * credential.most + 1))

end Credential

/-- A fragment with a valid checksum and a total that fits the table of its tag. -/
structure Fragment where
  datasave : Nat → UInt8
  head : WellFormedHead datasave
  crc : datasave (2 + fragmentLen datasave) =
    getCrc8 (Buffer.toList datasave (2 + fragmentLen datasave))
  fits : tagId datasave = 0 → (seqTotal datasave).toNat ≤ 8

namespace Fragment

def piece (fragment : Fragment) : Piece (List UInt8) where
  total := (seqTotal fragment.datasave).toNat
  number := (seqNum fragment.datasave).toNat
  content := fragmentData fragment.datasave

end Fragment

namespace FragmentState

def receive (host : OneshotHost) (state : FragmentState) (fragment : Fragment) : FragmentState :=
  if state.tlsWifiOneshotPacketHeadResolve fragment.datasave = 0 then
    (state.tlsWifiOneshotinfoResolveUdp host true fragment.datasave).1
  else state

theorem receive_eq (host : OneshotHost) (state : FragmentState) (fragment : Fragment) :
    state.receive host fragment =
      if state.received fragment.datasave then state
      else (state.resolveTag host true fragment.datasave).1 := by
  rw [receive]
  by_cases seen : state.received fragment.datasave = true
  · have refused : ¬state.tlsWifiOneshotPacketHeadResolve fragment.datasave = 0 := by
      intro accepted
      rw [((headResolve_iff _ _).mp accepted).2] at seen
      cases seen
    rw [if_neg refused, if_pos seen]
  · have accepted : state.tlsWifiOneshotPacketHeadResolve fragment.datasave = 0 :=
      (headResolve_iff _ _).mpr ⟨fragment.head, Bool.eq_false_iff.mpr seen⟩
    rw [if_pos accepted, if_neg seen, tlsWifiOneshotinfoResolveUdp, if_neg seen,
      if_pos fragment.crc]

/-- What a credential is read from. -/
def SameFor (credential : Credential) (before after : FragmentState) : Prop :=
  credential.table after = credential.table before ∧
    credential.okflag after = credential.okflag before ∧
    credential.buffer after = credential.buffer before ∧
    after.tagRecved credential.tag = before.tagRecved credential.tag

theorem tlsWifiSsidResolve_same (memory : Bool) (data : List UInt8) (seqnum seqtotal : UInt8)
    (state : FragmentState) :
    SameFor .pwd state (state.tlsWifiSsidResolve memory data seqnum seqtotal).1 := by
  rw [tlsWifiSsidResolve]
  split
  · exact ⟨rfl, rfl, rfl, rfl⟩
  · exact ⟨rfl, rfl, rfl, rfl⟩
  · exact ⟨rfl, rfl, rfl, rfl⟩

theorem tlsWifiPwdResolve_same (memory : Bool) (data : List UInt8) (seqnum seqtotal : UInt8)
    (state : FragmentState) :
    SameFor .ssid state (state.tlsWifiPwdResolve memory data seqnum seqtotal).1 := by
  rw [tlsWifiPwdResolve]
  split
  · exact ⟨rfl, rfl, rfl, rfl⟩
  · exact ⟨rfl, rfl, rfl, rfl⟩
  · exact ⟨rfl, rfl, rfl, rfl⟩

theorem tlsWifiCustomdataResolve_same (host : OneshotHost) (credential : Credential)
    (memory : Bool) (data : List UInt8) (seqnum seqtotal : UInt8) (state : FragmentState) :
    SameFor credential state
      (state.tlsWifiCustomdataResolve host memory data seqnum seqtotal).1 := by
  rw [tlsWifiCustomdataResolve]
  cases credential
  · split
    · exact ⟨rfl, rfl, rfl, rfl⟩
    · exact ⟨rfl, rfl, rfl, rfl⟩
    · exact ⟨rfl, rfl, rfl, rfl⟩
  · split
    · exact ⟨rfl, rfl, rfl, rfl⟩
    · exact ⟨rfl, rfl, rfl, rfl⟩
    · exact ⟨rfl, rfl, rfl, rfl⟩

theorem markReceived_same {credential : Credential} {datasave : Nat → UInt8}
    (other : tagId datasave ≠ credential.tag) (state : FragmentState) :
    SameFor credential state (state.markReceived datasave) := by
  have bits : (state.markReceived datasave).tagRecved credential.tag =
      state.tagRecved credential.tag := Function.update_of_ne (Ne.symm other) _ _
  cases credential
  · exact ⟨rfl, rfl, rfl, bits⟩
  · exact ⟨rfl, rfl, rfl, bits⟩

theorem SameFor.trans {credential : Credential} {first second third : FragmentState}
    (before : SameFor credential first second) (after : SameFor credential second third) :
    SameFor credential first third :=
  ⟨after.1.trans before.1, after.2.1.trans before.2.1, after.2.2.1.trans before.2.2.1,
    after.2.2.2.trans before.2.2.2⟩

theorem resolveTag_same (host : OneshotHost) (memory : Bool) {credential : Credential}
    {datasave : Nat → UInt8} (known : tagId datasave ≤ 2)
    (other : tagId datasave ≠ credential.tag) (state : FragmentState) :
    SameFor credential state (state.resolveTag host memory datasave).1 := by
  have marked := markReceived_same other state
  rw [resolveTag]
  obtain tag | tag | tag : tagId datasave = 0 ∨ tagId datasave = 1 ∨ tagId datasave = 2 := by omega
  · cases credential with
    | ssid => exact absurd tag other
    | pwd =>
        simp only [tag]
        split
        · exact marked
        · exact marked.trans (tlsWifiSsidResolve_same ..)
  · cases credential with
    | ssid =>
        simp only [tag]
        split
        · exact marked
        · exact marked.trans (tlsWifiPwdResolve_same ..)
    | pwd => exact absurd tag other
  · simp only [tag]
    exact marked.trans (tlsWifiCustomdataResolve_same ..)

/-- What the outcome of a call leaves of a text that was missing. -/
def Settles (credential : Credential) (outcome : FragmentOutcome) (after : FragmentState) : Prop :=
  match outcome with
  | .complete text =>
      credential.okflag after = true ∧
        ∃ buffer, credential.buffer after = copyText (4 * credential.most) text buffer
  | _ => credential.okflag after = false

theorem tlsWifiSsidResolve_own (data : List UInt8) (seqnum seqtotal : UInt8)
    {state : FragmentState} (missing : state.gucssidokflag = false) :
    let call := state.ssid.resolve ssidKind true data seqnum seqtotal
    let after := (state.tlsWifiSsidResolve true data seqnum seqtotal).1
    after.ssid = call.1 ∧ after.tagRecved = state.tagRecved ∧ Settles .ssid call.2 after := by
  intro call after
  have unfolded : after = (state.tlsWifiSsidResolve true data seqnum seqtotal).1 := rfl
  rw [tlsWifiSsidResolve] at unfolded
  split at unfolded
  · rename_i same
    have outcome : call = _ := same
    rw [unfolded, outcome]
    exact ⟨rfl, rfl, missing⟩
  · rename_i same
    have outcome : call = _ := same
    rw [unfolded, outcome]
    exact ⟨rfl, rfl, missing⟩
  · rename_i same
    have outcome : call = _ := same
    rw [unfolded, outcome]
    exact ⟨rfl, rfl, rfl, _, rfl⟩

theorem tlsWifiPwdResolve_own (data : List UInt8) (seqnum seqtotal : UInt8)
    {state : FragmentState} (missing : state.gucpwdokflag = false) :
    let call := state.pwd.resolve pwdKind true data seqnum seqtotal
    let after := (state.tlsWifiPwdResolve true data seqnum seqtotal).1
    after.pwd = call.1 ∧ after.tagRecved = state.tagRecved ∧ Settles .pwd call.2 after := by
  intro call after
  have unfolded : after = (state.tlsWifiPwdResolve true data seqnum seqtotal).1 := rfl
  rw [tlsWifiPwdResolve] at unfolded
  split at unfolded
  · rename_i same
    have outcome : call = _ := same
    rw [unfolded, outcome]
    exact ⟨rfl, rfl, missing⟩
  · rename_i same
    have outcome : call = _ := same
    rw [unfolded, outcome]
    exact ⟨rfl, rfl, missing⟩
  · rename_i same
    have outcome : call = _ := same
    rw [unfolded, outcome]
    exact ⟨rfl, rfl, rfl, _, rfl⟩

theorem markReceived_bits {credential : Credential} {datasave : Nat → UInt8}
    (own : tagId datasave = credential.tag) (state : FragmentState) :
    (state.markReceived datasave).tagRecved credential.tag =
      Function.update (state.tagRecved credential.tag) (seqNum datasave).toNat true := by
  rw [← own]
  exact Function.update_self ..

theorem resolveTag_own (host : OneshotHost) {credential : Credential} {datasave : Nat → UInt8}
    (own : tagId datasave = credential.tag) {state : FragmentState}
    (missing : credential.okflag state = false) :
    let call := (credential.table state).resolve credential.kind true (fragmentData datasave)
      (seqNum datasave) (seqTotal datasave)
    let after := (state.resolveTag host true datasave).1
    credential.table after = call.1 ∧
      after.tagRecved credential.tag =
        Function.update (state.tagRecved credential.tag) (seqNum datasave).toNat true ∧
      Settles credential call.2 after := by
  intro call after
  have bits := markReceived_bits own state
  cases credential with
  | ssid =>
      have tag : tagId datasave = 0 := own
      have closed : (state.markReceived datasave).gucssidokflag = false := missing
      have unfolded : after = ((state.markReceived datasave).tlsWifiSsidResolve true
          (fragmentData datasave) (seqNum datasave) (seqTotal datasave)).1 := by
        change (state.resolveTag host true datasave).1 = _
        simp only [resolveTag, tag, closed, Bool.false_eq_true, if_false]
      obtain ⟨table, kept, settled⟩ := tlsWifiSsidResolve_own (fragmentData datasave)
        (seqNum datasave) (seqTotal datasave) closed
      rw [unfolded]
      exact ⟨table, (congrFun kept 0).trans bits, settled⟩
  | pwd =>
      have tag : tagId datasave = 1 := own
      have closed : (state.markReceived datasave).gucpwdokflag = false := missing
      have unfolded : after = ((state.markReceived datasave).tlsWifiPwdResolve true
          (fragmentData datasave) (seqNum datasave) (seqTotal datasave)).1 := by
        change (state.resolveTag host true datasave).1 = _
        simp only [resolveTag, tag, closed, Bool.false_eq_true, if_false]
      obtain ⟨table, kept, settled⟩ := tlsWifiPwdResolve_own (fragmentData datasave)
        (seqNum datasave) (seqTotal datasave) closed
      rw [unfolded]
      exact ⟨table, (congrFun kept 1).trans bits, settled⟩

/-- A fragment of the tag itself once the text is there: only its bit is set. -/
theorem resolveTag_done (host : OneshotHost) {credential : Credential} {datasave : Nat → UInt8}
    (own : tagId datasave = credential.tag) {state : FragmentState}
    (done : credential.okflag state = true) :
    (state.resolveTag host true datasave).1 = state.markReceived datasave := by
  cases credential with
  | ssid =>
      have tag : tagId datasave = 0 := own
      have known : (state.markReceived datasave).gucssidokflag = true := done
      simp only [resolveTag, tag, known, if_true]
  | pwd =>
      have tag : tagId datasave = 1 := own
      have known : (state.markReceived datasave).gucpwdokflag = true := done
      simp only [resolveTag, tag, known, if_true]

end FragmentState

def spelled (pieces : List (List UInt8)) : List UInt8 :=
  pieces.flatMap cString

theorem cString_copyText {text : List UInt8} {limit : Nat} (nonzero : ∀ byte ∈ text, byte ≠ 0)
    (fits : text.length ≤ limit) (buffer : Nat → UInt8) :
    cString (Buffer.toList (copyText limit text buffer) (limit + 1)) = text := by
  obtain ⟨rest, split⟩ : ∃ rest, limit + 1 = text.length + 1 + rest :=
    ⟨limit - text.length, by omega⟩
  have count : copiedBytes limit text = text.length + 1 := if_neg (Nat.not_lt.mpr fits)
  have copied : Buffer.toList (copyText limit text buffer) (text.length + 1) = text ++ [0] := by
    rw [copyText, count, Buffer.toList_copy_zero, Buffer.toList_succ, Buffer.toList_getD,
      List.getD_eq_getElem?_getD, List.getElem?_length]
    rfl
  rw [split, Buffer.toList_add, copied, cString, List.append_assoc, List.takeWhile_append_of_pos]
  · simp
  · intro byte member
    exact decide_eq_true (nonzero byte member)

theorem spelled_eq_self {pieces : List (List UInt8)}
    (nonzero : ∀ piece ∈ pieces, ∀ byte ∈ piece, byte ≠ 0) : spelled pieces = pieces.flatten := by
  rw [spelled, List.flatMap_def]
  congr 1
  nth_rewrite 2 [← List.map_id pieces]
  apply List.map_congr_left
  intro piece member
  apply List.takeWhile_eq_self_iff.mpr
  intro byte inside
  exact decide_eq_true (nonzero piece member byte inside)

theorem spelled_nonzero {pieces : List (List UInt8)} {byte : UInt8} (member : byte ∈ spelled pieces) :
    byte ≠ 0 := by
  obtain ⟨piece, _, inside⟩ := List.mem_flatMap.mp member
  exact FragmentTable.cString_nonzero inside

namespace Credential

variable {credential : Credential} {state : FragmentState}

def assembly (credential : Credential) (state : FragmentState) :
    Assembly (List UInt8) (List UInt8) where
  marked := state.tagRecved credential.tag
  total := (credential.table state).seqTotalTmp.toNat
  held := (credential.table state).slots
  delivered := if credential.okflag state then some (credential.text state) else none

structure Consistent (credential : Credential) (state : FragmentState) : Prop where
  table : FragmentTable.Regular credential.most (credential.table state)
  sound : (credential.assembly state).Sound

theorem assembly_heldOf (credential : Credential) (state : FragmentState) (seqtotal : UInt8) :
    (credential.assembly state).heldOf seqtotal.toNat =
      (credential.table state).heldOf seqtotal := by
  funext index
  rw [Assembly.heldOf, FragmentTable.heldOf]
  exact if_congr UInt8.toNat_inj rfl rfl

theorem assembly_same {before after : FragmentState}
    (same : FragmentState.SameFor credential before after) :
    credential.assembly after = credential.assembly before := by
  obtain ⟨table, okflag, buffer, bits⟩ := same
  rw [assembly, assembly, text, text, table, okflag, buffer, bits]

theorem most_le (credential : Credential) : credential.most ≤ 16 := by
  cases credential
  · exact Nat.le_add_right 8 8
  · exact Nat.le_refl 16

theorem fragment_fits {fragment : Fragment} (own : tagId fragment.datasave = credential.tag) :
    (seqTotal fragment.datasave).toNat ≤ credential.most := by
  cases credential with
  | ssid => exact fragment.fits own
  | pwd => exact seqTotal_le fragment.datasave

theorem fragmentData_length (datasave : Nat → UInt8) :
    (fragmentData datasave).length = fragmentLen datasave :=
  Buffer.toList_length ..

theorem receive_missing (host : OneshotHost) (consistent : Consistent credential state)
    {fragment : Fragment} (own : tagId fragment.datasave = credential.tag)
    (missing : credential.okflag state = false)
    (fresh : state.received fragment.datasave = false) :
    let after := (state.resolveTag host true fragment.datasave).1
    FragmentTable.Regular credential.most (credential.table after) ∧
      credential.assembly after =
        ((credential.assembly state).mark fragment.piece.number).hold spelled fragment.piece := by
  intro after
  have bound := fragment_fits own
  have free : (credential.table state).heldOf (seqTotal fragment.datasave)
      (seqNum fragment.datasave).toNat = none := by
    rw [← assembly_heldOf]
    by_contra present
    have marked := consistent.sound.marked _
      (Assembly.heldOf_isSome (Option.isSome_iff_ne_none.mpr present)).2
    rw [FragmentState.received, own] at fresh
    exact Bool.false_ne_true (fresh.symm.trans marked)
  have short : (fragmentData fragment.datasave).length ≤ 4 := by
    rw [fragmentData_length]
    exact fragment.head.short
  obtain ⟨regular, outcome⟩ := FragmentTable.resolve_kept credential.kind consistent.table (most_le credential)
    fragment.head.number bound short free
  obtain ⟨table, bits, settled⟩ := FragmentState.resolveTag_own host own missing
  have held : ((credential.assembly state).mark fragment.piece.number).heldOf
      fragment.piece.total = (credential.table state).heldOf (seqTotal fragment.datasave) :=
    assembly_heldOf credential state (seqTotal fragment.datasave)
  refine ⟨by rw [table]; exact regular, ?_⟩
  rw [Assembly.hold, held, assembly, bits, table]
  by_cases full : Assembly.Full (Function.update ((credential.table state).heldOf
      (seqTotal fragment.datasave)) (seqNum fragment.datasave).toNat
      (some (fragmentData fragment.datasave))) (seqTotal fragment.datasave).toNat
  · rw [if_pos full] at outcome
    obtain ⟨complete, length, slots, total⟩ := outcome
    rw [complete] at settled
    obtain ⟨known, buffer, copied⟩ := settled
    have fits : (spelled (Assembly.contents (Function.update ((credential.table state).heldOf
        (seqTotal fragment.datasave)) (seqNum fragment.datasave).toNat
        (some (fragmentData fragment.datasave))) (seqTotal fragment.datasave).toNat)).length ≤
          4 * credential.most := Nat.le_trans length (Nat.mul_le_mul_left 4 bound)
    have string := cString_copyText (fun _ member => spelled_nonzero member) fits buffer
    rw [spelled] at string
    rw [if_pos known, text, copied, string, slots, total]
    exact (if_pos full).symm
  · rw [if_neg full] at outcome
    obtain ⟨kept, slots, total⟩ := outcome
    rw [kept] at settled
    have unknown : ¬credential.okflag after = true := Bool.eq_false_iff.mp settled
    rw [if_neg unknown, slots, total]
    have undelivered : ((credential.assembly state).mark fragment.piece.number).delivered = none :=
      if_neg (Bool.eq_false_iff.mp missing)
    refine Eq.trans ?_ (if_neg full).symm
    rw [undelivered]
    rfl

theorem receive_own (host : OneshotHost) (consistent : Consistent credential state)
    {fragment : Fragment} (own : tagId fragment.datasave = credential.tag) :
    FragmentTable.Regular credential.most (credential.table (state.receive host fragment)) ∧
      credential.assembly (state.receive host fragment) =
        (credential.assembly state).receive spelled fragment.piece := by
  have seen : (credential.assembly state).marked fragment.piece.number =
      state.received fragment.datasave := by
    rw [FragmentState.received, own]
    rfl
  rw [FragmentState.receive_eq, Assembly.receive, seen]
  by_cases fresh : state.received fragment.datasave = true
  · rw [if_pos fresh, if_pos fresh]
    exact ⟨consistent.table, rfl⟩
  rw [if_neg fresh, if_neg fresh]
  cases given : credential.okflag state with
  | false =>
      have undelivered : ¬(credential.assembly state).delivered.isSome := by
        simp [assembly, given]
      rw [if_neg undelivered]
      exact receive_missing host consistent own given (Bool.eq_false_iff.mpr fresh)
  | true =>
      have delivered : (credential.assembly state).delivered.isSome := by
        simp [assembly, given]
      have bits := FragmentState.markReceived_bits own state
      rw [if_pos delivered, FragmentState.resolveTag_done host own given]
      rw [assembly, bits]
      cases credential
      · exact ⟨consistent.table, rfl⟩
      · exact ⟨consistent.table, rfl⟩

theorem receive_other (host : OneshotHost) (state : FragmentState) {fragment : Fragment}
    (other : tagId fragment.datasave ≠ credential.tag) :
    FragmentState.SameFor credential state (state.receive host fragment) := by
  rw [FragmentState.receive_eq]
  split
  · exact ⟨rfl, rfl, rfl, rfl⟩
  · exact FragmentState.resolveTag_same host true fragment.head.tag other state

theorem receive_consistent (host : OneshotHost) (consistent : Consistent credential state)
    (fragment : Fragment) : Consistent credential (state.receive host fragment) := by
  by_cases own : tagId fragment.datasave = credential.tag
  · obtain ⟨table, follows⟩ := receive_own host consistent own
    refine ⟨table, ?_⟩
    rw [follows]
    exact Assembly.receive_sound consistent.sound _
  · have same := receive_other host state own
    constructor
    · rw [same.1]
      exact consistent.table
    · rw [assembly_same same]
      exact consistent.sound

theorem foldl_consistent (host : OneshotHost) (consistent : Consistent credential state)
    (fragments : List Fragment) :
    Consistent credential (fragments.foldl (FragmentState.receive host) state) := by
  induction fragments generalizing state with
  | nil => exact consistent
  | cons fragment rest ih => exact ih (receive_consistent host consistent fragment)

def pieces (credential : Credential) (fragments : List Fragment) : List (Piece (List UInt8)) :=
  (fragments.filter fun fragment => tagId fragment.datasave == credential.tag).map Fragment.piece

/-- The tag follows the receiver of pieces through any sequence of fragments. -/
theorem foldl_assembly (host : OneshotHost) (consistent : Consistent credential state)
    (fragments : List Fragment) :
    credential.assembly (fragments.foldl (FragmentState.receive host) state) =
      (credential.pieces fragments).foldl (Assembly.receive spelled)
        (credential.assembly state) := by
  induction fragments generalizing state with
  | nil => rfl
  | cons fragment rest ih =>
      rw [List.foldl_cons, ih (receive_consistent host consistent fragment)]
      by_cases own : tagId fragment.datasave = credential.tag
      · have first : credential.pieces (fragment :: rest) =
            fragment.piece :: credential.pieces rest := by
          simp [pieces, own]
        rw [(receive_own host consistent own).2, first, List.foldl_cons]
      · have skipped : credential.pieces (fragment :: rest) = credential.pieces rest := by
          simp [pieces, own]
        rw [assembly_same (receive_other host state own), skipped]

end Credential

/-- A text without zeros that its tag has room for. -/
structure Message (credential : Credential) where
  bytes : List UInt8
  nonzero : ∀ byte ∈ bytes, byte ≠ 0
  fits : bytes.length ≤ 4 * credential.most

namespace Message

variable {credential : Credential} (message : Message credential)

def total : Nat :=
  if message.bytes.length = 0 then 1 else (message.bytes.length + 3) / 4

def piece (number : Nat) : List UInt8 :=
  (message.bytes.drop (4 * number)).take 4

def Has (fragment : Fragment) : Prop :=
  tagId fragment.datasave = credential.tag ∧
    (seqTotal fragment.datasave).toNat = message.total ∧
    fragmentData fragment.datasave = message.piece (seqNum fragment.datasave).toNat

def Delivered (state : FragmentState) : Prop :=
  credential.okflag state = true ∧ credential.text state = message.bytes

/-- Before the fragments of the message arrive: its text is there already, or each of its numbers
that is marked as received is still held for this total, and what is held spells the message
together with the pieces that are not. -/
def Recovers (state : FragmentState) : Prop :=
  (credential.assembly state).Recovers spelled message.total message.piece message.bytes

variable {message}

theorem total_pos : 0 < message.total := by
  rw [total]
  split
  · exact Nat.one_pos
  · omega

theorem delivered_iff (state : FragmentState) :
    message.Delivered state ↔ (credential.assembly state).delivered = some message.bytes := by
  rw [Delivered, Credential.assembly]
  cases given : credential.okflag state with
  | false => simp
  | true => simp

end Message

/-- The tables and bits before the first fragment, whatever the buffers hold. -/
structure FragmentState.Cleared (state : FragmentState) : Prop where
  bits : ∀ tag number, state.tagRecved tag number = false
  slots : ∀ (credential : Credential) index, (credential.table state).slots index = none
  total : ∀ credential : Credential, (credential.table state).seqTotalTmp = 0
  seq : ∀ credential : Credential, (credential.table state).seq = 0
  joined : ∀ credential : Credential, (credential.table state).joined = []

theorem Credential.cleared_consistent {state : FragmentState} (cleared : state.Cleared)
    (credential : Credential) : Credential.Consistent credential state := by
  have slots : (credential.table state).slots = fun _ => none := by
    funext index
    exact cleared.slots credential index
  have total := cleared.total credential
  constructor
  · refine FragmentTable.regular_of_empty (cleared.joined credential) ?_ slots
      (cleared.seq credential)
    rw [total]
    exact Nat.zero_le _
  · constructor
    · intro number present
      rw [assembly, slots] at present
      cases present
    · intro positive
      rw [assembly, total] at positive
      cases positive

theorem flatMap_cut (bytes : List UInt8) (count : Nat) :
    (List.range count).flatMap (fun number => (bytes.drop (4 * number)).take 4) =
      bytes.take (4 * count) := by
  induction count with
  | zero => rfl
  | succ count ih =>
      rw [List.range_succ, List.flatMap_append, ih, Nat.mul_succ, List.take_add]
      simp

theorem Message.spelled_pieces {credential : Credential} (message : Message credential) :
    spelled ((List.range message.total).map message.piece) = message.bytes := by
  have enough : message.bytes.length ≤ 4 * message.total := by
    rw [total]
    split
    · omega
    · omega
  rw [spelled_eq_self]
  · rw [← List.flatMap_def]
    exact (flatMap_cut message.bytes message.total).trans (List.take_of_length_le enough)
  · intro piece member byte inside
    obtain ⟨number, _, rfl⟩ := List.mem_map.mp member
    exact message.nonzero byte (List.mem_of_mem_drop (List.mem_of_mem_take inside))

theorem Message.recovers_of_unmarked {credential : Credential} (message : Message credential)
    {state : FragmentState} (consistent : credential.Consistent state)
    (missing : credential.okflag state = false)
    (unmarked : ∀ number, state.tagRecved credential.tag number = false) :
    message.Recovers state := by
  have undelivered : (credential.assembly state).delivered = none :=
    if_neg (Bool.eq_false_iff.mp missing)
  have empty (number : Nat) :
      (credential.assembly state).heldOf message.total number = none := by
    by_contra present
    have marked := consistent.sound.marked number
      (Assembly.heldOf_isSome (Option.isSome_iff_ne_none.mpr present)).2
    exact Bool.false_ne_true ((unmarked number).symm.trans marked)
  simp only [Recovers, Assembly.Recovers, undelivered, Assembly.filled, empty, Option.getD_none]
  refine ⟨?_, message.spelled_pieces⟩
  intro number _ marked
  exact absurd ((unmarked number).symm.trans marked) Bool.false_ne_true

/-- After any fragments at all, the fragments of a message deliver it exactly when those left
room for it. -/
theorem message_delivered_iff (host : OneshotHost) {start : FragmentState}
    (cleared : start.Cleared) {credential : Credential} (message : Message credential)
    (history fragments : List Fragment)
    (ours : ∀ fragment ∈ fragments, tagId fragment.datasave = credential.tag →
      message.Has fragment)
    (each : ∀ number < message.total, ∃ fragment ∈ fragments, message.Has fragment ∧
      (seqNum fragment.datasave).toNat = number) :
    let reached := history.foldl (FragmentState.receive host) start
    message.Delivered (fragments.foldl (FragmentState.receive host) reached) ↔
      message.Recovers reached := by
  intro reached
  have consistent : credential.Consistent reached :=
    Credential.foldl_consistent host (Credential.cleared_consistent cleared credential) history
  rw [Message.delivered_iff, Credential.foldl_assembly host consistent]
  apply Assembly.delivered_iff_recovers consistent.sound Message.total_pos
  · intro piece member
    obtain ⟨fragment, inside, rfl⟩ := List.mem_map.mp member
    obtain ⟨present, own⟩ := List.mem_filter.mp inside
    obtain ⟨_, total, content⟩ := ours fragment present (beq_iff_eq.mp own)
    refine ⟨total, ?_, content⟩
    rw [← total]
    exact fragment.head.number
  · intro number bound
    obtain ⟨fragment, present, has, same⟩ := each number bound
    refine ⟨fragment.piece, List.mem_map.mpr ⟨fragment, ?_, rfl⟩, same⟩
    exact List.mem_filter.mpr ⟨present, beq_iff_eq.mpr has.1⟩

theorem FragmentState.boot_cleared : FragmentState.boot.Cleared := by
  constructor
  · intro tag number
    rfl
  all_goals intro credential
  · intro index
    cases credential <;> rfl
  all_goals cases credential <;> rfl

def Fragment.ofBytes (bytes : List UInt8)
    (valid : WellFormedHead (fun index => bytes.getD index 0) ∧
      bytes.getD (2 + fragmentLen fun index => bytes.getD index 0) 0 =
        getCrc8 (Buffer.toList (fun index => bytes.getD index 0)
          (2 + fragmentLen fun index => bytes.getD index 0)) ∧
      (tagId (fun index => bytes.getD index 0) = 0 →
        (seqTotal fun index => bytes.getD index 0).toNat ≤ 8)) : Fragment :=
  ⟨fun index => bytes.getD index 0, valid.1, valid.2.1, valid.2.2⟩

def sampleName : Message .ssid where
  bytes := [0x77, 0x78, 0x79, 0x7a, 0x31]
  nonzero := by simp
  fits := by decide

def sampleHead : Fragment :=
  .ofBytes [0x01, 0x04, 0x77, 0x78, 0x79, 0x7a, 48] (by decide +kernel)

def sampleTail : Fragment :=
  .ofBytes [0x01, 0x11, 0x31, 29] (by decide +kernel)

def strayHead : Fragment :=
  .ofBytes [0x02, 0x04, 0x61, 0x62, 0x63, 0x64, 179] (by decide +kernel)

theorem sample_ours (fragment : Fragment) (member : fragment ∈ [sampleTail, sampleHead]) :
    sampleName.Has fragment := by
  obtain rfl | rfl : fragment = sampleTail ∨ fragment = sampleHead := by simpa using member
  · exact ⟨by decide +kernel, by decide +kernel, by decide +kernel⟩
  · exact ⟨by decide +kernel, by decide +kernel, by decide +kernel⟩

theorem sample_each (number : Nat) (bound : number < sampleName.total) :
    ∃ fragment ∈ [sampleTail, sampleHead], sampleName.Has fragment ∧
      (seqNum fragment.datasave).toNat = number := by
  have two : sampleName.total = 2 := by decide
  obtain rfl | rfl : number = 0 ∨ number = 1 := by omega
  · exact ⟨sampleHead, by simp, sample_ours _ (by simp), by decide +kernel⟩
  · exact ⟨sampleTail, by simp, sample_ours _ (by simp), by decide +kernel⟩

theorem sample_name_delivered :
    sampleName.Delivered ([sampleTail, sampleHead].foldl (FragmentState.receive LsdState.lenientHost)
      .boot) :=
  (message_delivered_iff LsdState.lenientHost FragmentState.boot_cleared sampleName []
    [sampleTail, sampleHead] (fun fragment member _ => sample_ours fragment member)
    sample_each).mpr
      (sampleName.recovers_of_unmarked
        (Credential.cleared_consistent FragmentState.boot_cleared .ssid) rfl fun _ => rfl)

theorem stray_fragment_blocks :
    ¬∀ (host : OneshotHost) (start : FragmentState), start.Cleared →
      ∀ (credential : Credential) (message : Message credential)
        (history fragments : List Fragment),
      (∀ fragment ∈ fragments, tagId fragment.datasave = credential.tag →
        message.Has fragment) →
      (∀ number < message.total, ∃ fragment ∈ fragments, message.Has fragment ∧
        (seqNum fragment.datasave).toNat = number) →
      message.Delivered (fragments.foldl (FragmentState.receive host)
        (history.foldl (FragmentState.receive host) start)) := by
  intro claim
  have delivered := claim LsdState.lenientHost .boot FragmentState.boot_cleared .ssid sampleName
    [strayHead] [sampleTail, sampleHead] (fun fragment member _ => sample_ours fragment member)
    sample_each
  have missing : Credential.ssid.okflag ([sampleTail, sampleHead].foldl
      (FragmentState.receive LsdState.lenientHost)
      ([strayHead].foldl (FragmentState.receive LsdState.lenientHost) .boot)) = false := by
    decide +kernel
  exact Bool.false_ne_true (missing.symm.trans delivered.1)

end SmartMeter
