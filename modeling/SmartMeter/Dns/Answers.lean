import SmartMeter.Dns.NameMatch

/-!
What the DNS server answers to a received payload, and what it reads of it.
-/

namespace SmartMeter

open Labels

def StandardQuery (dnsFlag1 : UInt8) : Prop :=
  dnsFlag1 &&& dnsFlag1Response = 0 ∧ dnsFlag1 &&& ((0xF : UInt8) <<< 3) = dnsFlag1OpcodeStandard

def questionBytes (payload : List UInt8) : List UInt8 := payload.drop dnsHeaderSize

def questionQuery (payload : List UInt8) (length : Nat) : List UInt8 :=
  ((questionBytes payload).drop (length + 1)).take dnsQuerySize

def HostName.AskedBy (name : HostName) (payload : List UInt8) : Prop :=
  (∃ dnsFlag1, payload[2]? = some dnsFlag1 ∧ StandardQuery dnsFlag1) ∧
    ∃ labels rest, NameLabels labels ∧ dotted labels = name.text ∧
      questionBytes payload = encodeName labels ++ [0, 1] ++ [0, 1] ++ rest

/-- A reply lies in its buffer and repeats the identifier and the question. -/
structure Repeats (payload : List UInt8) (reply : DnsReply) : Prop where
  fits : reply.bytes.length ≤ reply.allocated
  transactionId : reply.bytes.take 2 = payload.take 2
  question : ∃ length, strlen (questionBytes payload) = some length ∧
    (reply.bytes.drop dnsHeaderSize).take (length + 1 + dnsQuerySize) =
      (questionBytes payload).take (length + 1 + dnsQuerySize)

def HostName.AnswersRight (name : HostName) (server : DnsServer) (host : DnsHost)
    (payload : List UInt8) : Prop :=
  ∃ sent, (dnssConfig server name.text).2.dnssRecvCb host payload = some sent ∧
    ∀ reply, sent = some reply →
      Repeats payload reply ∧ (reply.hasAddress = true → name.AskedBy payload)

theorem le_alignWord (length : Nat) : length ≤ alignWord length := by
  unfold alignWord
  omega

/-- Both replies begin with the identifier and ten bytes, and go on with the question. -/
theorem repeats_of_bytes {payload : List UInt8} {length : Nat} {flags tail : List UInt8}
    {allocated : Nat} {hasAddress : Bool}
    (found : strlen (questionBytes payload) = some length)
    (room : dnsHeaderSize + length + 1 + dnsQuerySize ≤ payload.length)
    (header : flags.length = 10)
    (fits : dnsHeaderSize + (length + 1) + dnsQuerySize + tail.length ≤ allocated) :
    Repeats payload ⟨payload.take 2 ++ flags ++ (questionBytes payload).take (length + 1) ++
      questionQuery payload length ++ tail, allocated, hasAddress⟩ := by
  have headerSize : dnsHeaderSize = 12 := rfl
  have query : dnsQuerySize = 4 := rfl
  have two : (payload.take 2).length = 2 := by
    rw [List.length_take]
    omega
  have nameLength : ((questionBytes payload).take (length + 1)).length = length + 1 := by
    rw [List.length_take, questionBytes, List.length_drop]
    omega
  have queryLength : (questionQuery payload length).length = dnsQuerySize := by
    rw [questionQuery, List.length_take, List.length_drop, questionBytes, List.length_drop]
    omega
  refine ⟨?_, ?_, length, found, ?_⟩
  · simp only [List.length_append, two, header, nameLength, queryLength]
    omega
  · simp only [List.append_assoc]
    exact List.take_left' two
  · have front : (payload.take 2 ++ flags).length = dnsHeaderSize := by
      rw [List.length_append, two, header, headerSize]
    have whole : (questionBytes payload).take (length + 1 + dnsQuerySize) =
        (questionBytes payload).take (length + 1) ++ questionQuery payload length := List.take_add
    have count : ((questionBytes payload).take (length + 1) ++
        questionQuery payload length).length = length + 1 + dnsQuerySize := by
      rw [List.length_append, nameLength, queryLength]
    rw [List.append_assoc, List.append_assoc, List.drop_left' front, ← List.append_assoc,
      List.take_left' count, whole]

namespace HostName

variable (name : HostName) (server : DnsServer) (host : DnsHost)

/-- The question that starts with a name of that length is for neither class IN nor type A, or
its comparison stays inside and, if a reply can be sent, it agrees with the name only when the
name's address is asked for. -/
def QuestionTold (payload : List UInt8) (length : Nat) : Prop :=
  ((questionQuery payload length).drop 2 ≠ [0, 1] ∧ (questionQuery payload length).take 2 ≠ [0, 1]) ∨
  ((length = 0 ∨ 33 < length ∨ DecidesFrom name.cells 0 (questionBytes payload)) ∧
    (host.replyMemory = true → host.pbufMemory = true → 0 < length → length ≤ 33 →
      MatchesFrom name.cells 0 (questionBytes payload) → name.AskedBy payload))

/-- The payload has its flags and, in a standard query, a name with its zero and four bytes behind
it. -/
def PayloadTold (payload : List UInt8) : Prop :=
  host.msgMemory = false ∨ ∃ dnsFlag1, payload[2]? = some dnsFlag1 ∧
    (¬StandardQuery dnsFlag1 ∨ ∃ length, strlen (questionBytes payload) = some length ∧
      dnsHeaderSize + length + 1 + dnsQuerySize ≤ payload.length ∧
      name.QuestionTold host payload length)

theorem standardQuery_iff {dnsFlag1 : UInt8} : StandardQuery dnsFlag1 ↔
    ¬(dnsFlag1 &&& dnsFlag1Response ≠ 0 ∨
      dnsFlag1 &&& ((0xF : UInt8) <<< 3) ≠ dnsFlag1OpcodeStandard) := by
  rw [StandardQuery, not_or, not_not, not_not]

theorem dnssRecvCb_question {payload : List UInt8} {dnsFlag1 : UInt8} {length : Nat}
    (memory : host.msgMemory = true) (flags : payload[2]? = some dnsFlag1)
    (standard : StandardQuery dnsFlag1) (found : strlen (questionBytes payload) = some length)
    (room : dnsHeaderSize + length + 1 + dnsQuerySize ≤ payload.length) :
    server.dnssRecvCb host payload =
      if (questionQuery payload length).drop 2 ≠ [0, 1] ∧
        (questionQuery payload length).take 2 ≠ [0, 1] then some none
      else (server.dnsCompareName (questionBytes payload)).map fun compared =>
        if compared ≠ 0 then
          if host.netifUp then none
          else dnsNameErrGenAndSend host (questionQuery payload length)
            ((questionBytes payload).take (length + 1)) (payload.take 2)
        else server.dnsAnswerGenAndSend host (questionQuery payload length)
          ((questionBytes payload).take (length + 1)) (payload.take 2) := by
  have headerSize : dnsHeaderSize = 12 := rfl
  have querySize : dnsQuerySize = 4 := rfl
  have queryLength : ¬(questionQuery payload length).length < dnsQuerySize := by
    rw [questionQuery, List.length_take, List.length_drop, questionBytes, List.length_drop]
    omega
  have dropped : strlen (payload.drop dnsHeaderSize) = some length := found
  unfold DnsServer.dnssRecvCb
  rw [if_neg (by rw [memory]; decide), flags, Option.bind_eq_bind, Option.bind_some,
    if_neg (standardQuery_iff.mp standard)]
  dsimp only
  rw [dropped, Option.bind_eq_bind, Option.bind_some]
  refine (if_neg queryLength).trans ?_
  by_cases neither : (questionQuery payload length).drop 2 ≠ [0, 1] ∧
      (questionQuery payload length).take 2 ≠ [0, 1]
  · rw [if_pos neither]
    exact if_pos neither
  · rw [if_neg neither]
    refine (if_neg neither).trans ?_
    rw [questionBytes]
    cases server.dnsCompareName (payload.drop dnsHeaderSize) with
    | none => rfl
    | some compared =>
        by_cases zero : compared ≠ 0
        · simp only [Option.bind_eq_bind, Option.bind_some, Option.map_some, if_pos zero]
          rfl
        · simp only [Option.bind_eq_bind, Option.bind_some, Option.map_some, if_neg zero]
          rfl

section Filters

variable {host} {payload : List UInt8}

theorem dnssRecvCb_refused (memory : host.msgMemory = false) :
    server.dnssRecvCb host payload = some none := by
  unfold DnsServer.dnssRecvCb
  exact if_pos memory

variable (memory : host.msgMemory = true)

include memory

theorem dnssRecvCb_short (flags : payload[2]? = none) : server.dnssRecvCb host payload = none := by
  unfold DnsServer.dnssRecvCb
  rw [if_neg (by rw [memory]; decide), flags]
  rfl

variable {dnsFlag1 : UInt8} (flags : payload[2]? = some dnsFlag1)

include flags

theorem dnssRecvCb_other (other : ¬StandardQuery dnsFlag1) :
    server.dnssRecvCb host payload = some none := by
  unfold DnsServer.dnssRecvCb
  rw [if_neg (by rw [memory]; decide), flags, Option.bind_eq_bind, Option.bind_some,
    if_pos (not_not.mp (mt standardQuery_iff.mpr other))]
  rfl

/-- A query without the whole of its question is read beyond its end. -/
theorem dnssRecvCb_cut (standard : StandardQuery dnsFlag1)
    (cut : ¬∃ length, strlen (questionBytes payload) = some length ∧
      dnsHeaderSize + length + 1 + dnsQuerySize ≤ payload.length) :
    server.dnssRecvCb host payload = none := by
  have headerSize : dnsHeaderSize = 12 := rfl
  have querySize : dnsQuerySize = 4 := rfl
  unfold DnsServer.dnssRecvCb
  rw [if_neg (by rw [memory]; decide), flags, Option.bind_eq_bind, Option.bind_some,
    if_neg (standardQuery_iff.mp standard)]
  dsimp only
  cases found : strlen (payload.drop dnsHeaderSize) with
  | none => rfl
  | some length =>
      rw [Option.bind_eq_bind, Option.bind_some]
      apply if_pos
      have short : ¬dnsHeaderSize + length + 1 + dnsQuerySize ≤ payload.length :=
        fun room => cut ⟨length, found, room⟩
      rw [List.length_take, List.length_drop, List.length_drop]
      omega

end Filters

theorem dnsNameErr_repeats {payload : List UInt8} {length : Nat} {reply : DnsReply}
    (found : strlen (questionBytes payload) = some length)
    (room : dnsHeaderSize + length + 1 + dnsQuerySize ≤ payload.length)
    (sent : dnsNameErrGenAndSend host (questionQuery payload length)
      ((questionBytes payload).take (length + 1)) (payload.take 2) = some reply) :
    Repeats payload reply ∧ reply.hasAddress = false := by
  have nameLength : ((questionBytes payload).take (length + 1)).length = length + 1 := by
    rw [List.length_take, questionBytes, List.length_drop]
    have querySize : dnsQuerySize = 4 := rfl
    omega
  unfold dnsNameErrGenAndSend at sent
  split at sent
  · cases sent
    refine ⟨?_, rfl⟩
    have repeats := @repeats_of_bytes payload length
      [dnsFlag1Response, dnsFlag2ErrName, 0, 1, 0, 0, 0, 0, 0, 0] [] _ false found room rfl
      (le_alignWord _)
    rw [List.append_nil] at repeats
    rwa [nameLength]
  · cases sent

theorem dnsAnswer_repeats {payload : List UInt8} {length : Nat} {reply : DnsReply}
    (found : strlen (questionBytes payload) = some length)
    (room : dnsHeaderSize + length + 1 + dnsQuerySize ≤ payload.length)
    (sent : server.dnsAnswerGenAndSend host (questionQuery payload length)
      ((questionBytes payload).take (length + 1)) (payload.take 2) = some reply) :
    Repeats payload reply := by
  have nameLength : ((questionBytes payload).take (length + 1)).length = length + 1 := by
    rw [List.length_take, questionBytes, List.length_drop]
    have querySize : dnsQuerySize = 4 := rfl
    omega
  unfold DnsServer.dnsAnswerGenAndSend at sent
  split at sent
  · cases sent
    have fits : dnsHeaderSize + (length + 1) + dnsQuerySize +
        ([0xC0, 12] ++ [0, 1, 0, 1, 0, 0, 0x0E, 0x10] ++ [0, 4] ++
          wordBytes server.hostIp : List UInt8).length ≤
        alignWord (dnsHeaderSize + ((questionBytes payload).take (length + 1)).length +
          dnsQuerySize + 2 + dnsAnswerSize + 2 + 4) := by
      rw [nameLength]
      exact le_alignWord (dnsHeaderSize + (length + 1) + dnsQuerySize + 2 + dnsAnswerSize + 2 + 4)
    have repeats := @repeats_of_bytes payload length
      [dnsFlag1Response, dnsFlag2ErrNone, 0, 1, 0, 1, 0, 0, 0, 0] _ _ true found room rfl fits
    simpa only [List.append_assoc] using repeats
  · cases sent

theorem dnsAnswer_sent {dnsQuery queryName transactionId : List UInt8} :
    (∃ reply, server.dnsAnswerGenAndSend host dnsQuery queryName transactionId = some reply ∧
      reply.hasAddress = true) ↔ host.replyMemory = true ∧ host.pbufMemory = true := by
  unfold DnsServer.dnsAnswerGenAndSend
  by_cases memory : host.replyMemory = true ∧ host.pbufMemory = true
  · rw [if_pos memory]
    exact iff_of_true ⟨_, rfl, rfl⟩ memory
  · rw [if_neg memory]
    refine iff_of_false ?_ memory
    rintro ⟨reply, sent, -⟩
    cases sent

/-- A standard query with its whole question. -/
theorem answersRight_question {payload : List UInt8} {dnsFlag1 : UInt8} {length : Nat}
    (memory : host.msgMemory = true) (flags : payload[2]? = some dnsFlag1)
    (standard : StandardQuery dnsFlag1) (found : strlen (questionBytes payload) = some length)
    (room : dnsHeaderSize + length + 1 + dnsQuerySize ≤ payload.length) :
    name.AnswersRight server host payload ↔ name.QuestionTold host payload length := by
  have result := dnssRecvCb_question (dnssConfig server name.text).2 host memory flags standard
    found room
  obtain ⟨reads, equal⟩ := (dnssConfig server name.text).2.dnsCompareName_spec found
  rw [name.configured server] at reads equal
  unfold AnswersRight QuestionTold
  by_cases neither : (questionQuery payload length).drop 2 ≠ [0, 1] ∧
      (questionQuery payload length).take 2 ≠ [0, 1]
  · rw [if_pos neither] at result
    exact iff_of_true ⟨none, result, fun reply sent => by cases sent⟩ (Or.inl neither)
  · rw [if_neg neither] at result
    rw [result, or_iff_right neither, ← reads]
    constructor
    · rintro ⟨sent, same, right⟩
      cases compared : (dnssConfig server name.text).2.dnsCompareName (questionBytes payload) with
      | none =>
          rw [compared] at same
          cases same
      | some value =>
          refine ⟨rfl, ?_⟩
          intro replyMemory pbufMemory positive short matched
          have zero : value = 0 := by
            rw [compared, Option.some.injEq] at equal
            exact equal.mpr ⟨positive, short, matched⟩
          obtain ⟨reply, answer, address⟩ :=
            (dnsAnswer_sent (dnssConfig server name.text).2 host).mpr ⟨replyMemory, pbufMemory⟩
          rw [compared, zero] at same
          exact (right reply ((Option.some.inj same).symm.trans answer)).2 address
    · rintro ⟨inside, asked⟩
      obtain ⟨value, compared⟩ := Option.isSome_iff_exists.mp inside
      rw [compared, Option.map_some]
      rw [compared, Option.some.injEq] at equal
      refine ⟨_, rfl, ?_⟩
      intro reply sent
      by_cases zero : value ≠ 0
      · rw [if_pos zero] at sent
        split at sent
        · cases sent
        · obtain ⟨repeats, none⟩ := dnsNameErr_repeats host found room sent
          exact ⟨repeats, fun address => absurd (none.symm.trans address) (by decide)⟩
      · rw [if_neg zero] at sent
        refine ⟨dnsAnswer_repeats _ host found room sent, ?_⟩
        intro address
        obtain ⟨replyMemory, pbufMemory⟩ :=
          (dnsAnswer_sent (dnssConfig server name.text).2 host).mp ⟨reply, sent, address⟩
        obtain ⟨positive, short, matched⟩ := equal.mp (not_not.mp zero)
        exact asked replyMemory pbufMemory positive short matched

/-- The server reads inside a payload and answers only what was asked exactly for the payloads
that `PayloadTold` describes. -/
theorem answersRight_iff (payload : List UInt8) :
    name.AnswersRight server host payload ↔ name.PayloadTold host payload := by
  have nothing : ∀ reply, (none : Option DnsReply) = some reply → Repeats payload reply ∧
      (reply.hasAddress = true → name.AskedBy payload) := fun reply sent => by cases sent
  have unread (result : (dnssConfig server name.text).2.dnssRecvCb host payload = none) :
      ¬name.AnswersRight server host payload := by
    rintro ⟨sent, same, -⟩
    rw [result] at same
    cases same
  cases memory : host.msgMemory with
  | false => exact iff_of_true ⟨none, dnssRecvCb_refused _ memory, nothing⟩ (Or.inl memory)
  | true =>
      have given : ¬host.msgMemory = false := by
        rw [memory]
        decide
      unfold PayloadTold
      rw [or_iff_right given]
      cases flags : payload[2]? with
      | none =>
          refine iff_of_false (unread (dnssRecvCb_short _ memory flags)) ?_
          rintro ⟨dnsFlag1, found, -⟩
          cases found
      | some dnsFlag1 =>
          simp only [Option.some.injEq, exists_eq_left']
          by_cases standard : StandardQuery dnsFlag1
          · rw [or_iff_right (not_not_intro standard)]
            by_cases whole : ∃ length, strlen (questionBytes payload) = some length ∧
                dnsHeaderSize + length + 1 + dnsQuerySize ≤ payload.length
            · obtain ⟨length, found, room⟩ := whole
              rw [name.answersRight_question server host memory flags standard found room]
              constructor
              · exact fun question => ⟨length, found, room, question⟩
              · rintro ⟨other, again, -, question⟩
                cases found.symm.trans again
                exact question
            · refine iff_of_false (unread (dnssRecvCb_cut _ memory flags standard whole)) ?_
              exact fun ⟨length, found, room, _⟩ => whole ⟨length, found, room⟩
          · exact iff_of_true ⟨none, dnssRecvCb_other _ memory flags standard, nothing⟩
              (Or.inl standard)

end HostName

/-- A query for the name of a mail exchange is answered with the address. -/
theorem other_type_not_answersRight :
    ¬HostName.AnswersRight ⟨[97], by decide, by decide⟩ ⟨fun _ => 0, 0⟩ ⟨true, true, true, true⟩
      ([0, 1, 1, 0, 0, 1, 0, 0, 0, 0, 0, 0] ++ [1, 97, 0] ++ [0, 15] ++ [0, 1]) := by
  rintro ⟨sent, result, right⟩
  have answered : ((dnssConfig ⟨fun _ => 0, 0⟩ [97]).2.dnssRecvCb ⟨true, true, true, true⟩
      ([0, 1, 1, 0, 0, 1, 0, 0, 0, 0, 0, 0] ++ [1, 97, 0] ++ [0, 15] ++ [0, 1])).bind id =
        some ⟨[0, 1, 0x80, 0, 0, 1, 0, 1, 0, 0, 0, 0] ++ [1, 97, 0] ++ [0, 15] ++ [0, 1] ++
          [0xC0, 12, 0, 1, 0, 1, 0, 0, 0x0E, 0x10, 0, 4, 0, 0, 0, 0], 36, true⟩ := by rfl
  rw [result] at answered
  obtain ⟨-, labels, rest, wellFormed, -, question⟩ := (right _ answered).2 rfl
  have alone : ∀ label ∈ ([[97]] : List (List UInt8)), 0 < label.length ∧ label.length ≤ 63 := by
    decide
  have unique : encode labels ++ 0 :: ([0, 1] ++ [0, 1] ++ rest) =
      encode [[97]] ++ 0 :: [0, 15, 0, 1] := by
    rw [encodeName] at question
    have bytes : encode [[97]] ++ 0 :: [0, 15, 0, 1] = questionBytes
      ([0, 1, 1, 0, 0, 1, 0, 0, 0, 0, 0, 0] ++ [1, 97, 0] ++ [0, 15] ++ [0, 1]) := rfl
    rw [bytes, question]
    simp
  obtain ⟨-, -, behind⟩ := encode_unique wellFormed.lengthy (NameLabels.lengthy alone) rfl rfl unique
  exact absurd behind (by simp)

end SmartMeter
