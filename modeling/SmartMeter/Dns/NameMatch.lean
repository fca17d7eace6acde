import SmartMeter.Dns.DnsCore
import SmartMeter.Library.Labels

/-!
When `_DnsCompareName` reads only the query and the configured name, and when it finds them equal.
-/

namespace SmartMeter

open Labels

def stopsLabels (n : UInt8) : Bool := n == 0 || isCompressed n

/-- The rest of a query, from the index of a length on: it stops, or differs from the name, within
the cells that the name has. -/
def DecidesFrom (cells : Nat → UInt8) (start : Nat) (query : List UInt8) : Prop :=
  ∃ labels n rest, (∀ label ∈ labels, Lengthy stopsLabels label) ∧
    query = encode labels ++ n :: rest ∧
    ((stopsLabels n = true ∧ 0 < start + (encode labels).length ∧
      start + (encode labels).length ≤ dnsNameSize) ∨
    (stopsLabels n = false ∧ ∃ index < n.toNat, start + (encode labels).length + index < dnsNameSize ∧
      ∃ byte, rest[index]? = some byte ∧ byte ≠ cells (start + (encode labels).length + index)))

/-- The rest of a query agrees with the name, which ends where the labels stop. -/
def MatchesFrom (cells : Nat → UInt8) (start : Nat) (query : List UInt8) : Prop :=
  ∃ labels n rest, (∀ label ∈ labels, Lengthy stopsLabels label) ∧
    query = encode labels ++ n :: rest ∧ stopsLabels n = true ∧
    0 < start + (encode labels).length ∧ start + (encode labels).length ≤ dnsNameSize ∧
    Agrees cells start labels ∧ cells (start + (encode labels).length - 1) = 0

theorem lengthy_of_byte {n : UInt8} {label : List UInt8} (length : label.length = n.toNat)
    (lengthOf : stopsLabels n = false) : Lengthy stopsLabels label := by
  refine ⟨length ▸ n.toNat_lt, ?_⟩
  rw [length, UInt8.ofNat_toNat, lengthOf]

theorem encode_front {labels : List (List UInt8)} {n m : UInt8} {query rest : List UInt8}
    (lengthy : ∀ label ∈ labels, Lengthy stopsLabels label)
    (same : n :: query = encode labels ++ m :: rest) :
    (labels = [] ∧ n = m ∧ query = rest) ∨
      ∃ label others, labels = label :: others ∧ label.length = n.toNat ∧
        stopsLabels n = false ∧ query.take n.toNat = label ∧ n.toNat ≤ query.length ∧
        query.drop n.toNat = encode others ++ m :: rest := by
  cases labels with
  | nil => exact Or.inl ⟨rfl, List.cons.inj same⟩
  | cons label others =>
      right
      have first := lengthy label List.mem_cons_self
      obtain ⟨head, tail⟩ := List.cons.inj same
      have length : label.length = n.toNat := by rw [head, first.toNat]
      replace tail : query = label ++ (encode others ++ m :: rest) :=
        tail.trans (List.append_assoc label (encode others) (m :: rest))
      refine ⟨label, others, rfl, length, head ▸ first.2, ?_, ?_, ?_⟩
      · rw [tail, ← length, List.take_left]
      · rw [tail, List.length_append]
        omega
      · rw [tail, ← length, List.drop_left]

theorem decidesFrom_cons (cells : Nat → UInt8) (start : Nat) (n : UInt8) (query : List UInt8) :
    DecidesFrom cells start (n :: query) ↔
      (stopsLabels n = true ∧ 0 < start ∧ start ≤ dnsNameSize) ∨
      (stopsLabels n = false ∧
        ((∃ index < n.toNat, start + index < dnsNameSize ∧
          ∃ byte, query[index]? = some byte ∧ byte ≠ cells (start + index)) ∨
        (n.toNat ≤ query.length ∧
          DecidesFrom cells (start + n.toNat + 1) (query.drop n.toNat)))) := by
  constructor
  · rintro ⟨labels, m, rest, lengthy, same, decides⟩
    rcases encode_front lengthy same with ⟨rfl, rfl, rfl⟩ |
      ⟨label, others, rfl, length, notStop, -, inside, behind⟩
    · rcases decides with stops | ⟨notStop, differs⟩
      · exact Or.inl stops
      · exact Or.inr ⟨notStop, Or.inl differs⟩
    · refine Or.inr ⟨notStop, Or.inr ⟨inside, others, m, rest, ?_, behind, ?_⟩⟩
      · exact fun other member => lengthy other (List.mem_cons_of_mem _ member)
      · have shift : start + (encode (label :: others)).length =
            start + n.toNat + 1 + (encode others).length := by
          rw [encode_cons, List.length_cons, List.length_append, length]
          omega
        rwa [shift] at decides
  · rintro (stops | ⟨notStop, differs | ⟨inside, others, m, rest, lengthy, behind, decides⟩⟩)
    · exact ⟨[], n, query, fun _ member => absurd member List.not_mem_nil, rfl, Or.inl stops⟩
    · exact ⟨[], n, query, fun _ member => absurd member List.not_mem_nil, rfl,
        Or.inr ⟨notStop, differs⟩⟩
    · have length : (query.take n.toNat).length = n.toNat := by
        rw [List.length_take, Nat.min_eq_left inside]
      refine ⟨query.take n.toNat :: others, m, rest, ?_, ?_, ?_⟩
      · intro label member
        rcases List.mem_cons.mp member with rfl | later
        · exact lengthy_of_byte length notStop
        · exact lengthy label later
      · rw [encode_cons, length, UInt8.ofNat_toNat, List.cons_append, List.append_assoc, ← behind,
          List.take_append_drop]
      · have shift : start + (encode (query.take n.toNat :: others)).length =
            start + n.toNat + 1 + (encode others).length := by
          rw [encode_cons, List.length_cons, List.length_append, length]
          omega
        rwa [shift]

theorem matchesFrom_cons (cells : Nat → UInt8) (start : Nat) (n : UInt8) (query : List UInt8) :
    MatchesFrom cells start (n :: query) ↔
      (stopsLabels n = true ∧ 0 < start ∧ start ≤ dnsNameSize ∧ cells (start - 1) = 0) ∨
      (stopsLabels n = false ∧
        (∀ index < n.toNat, query[index]? = some (cells (start + index))) ∧
        MatchesFrom cells (start + n.toNat + 1) (query.drop n.toNat)) := by
  constructor
  · rintro ⟨labels, m, rest, lengthy, same, stops, low, high, agrees, ends⟩
    rcases encode_front lengthy same with ⟨rfl, rfl, rfl⟩ |
      ⟨label, others, rfl, length, notStop, front, inside, behind⟩
    · exact Or.inl ⟨stops, low, high, ends⟩
    · have shift : start + (encode (label :: others)).length =
          start + n.toNat + 1 + (encode others).length := by
        rw [encode_cons, List.length_cons, List.length_append, length]
        omega
      rw [shift] at low high ends
      refine Or.inr ⟨notStop, ?_, others, m, rest,
        fun other member => lengthy other (List.mem_cons_of_mem _ member), behind, stops, low, high,
        length ▸ agrees.2, ends⟩
      intro index bound
      rw [← agrees.1 index (length ▸ bound), ← front, List.getElem?_take_of_lt bound]
  · rintro (⟨stops, low, high, ends⟩ | ⟨notStop, agrees, others, m, rest, lengthy, behind, stops,
      low, high, later, ends⟩)
    · exact ⟨[], n, query, fun _ member => absurd member List.not_mem_nil, rfl, stops, low, high,
        trivial, ends⟩
    · have inside : n.toNat ≤ query.length := by
        by_contra outside
        have last := agrees (n.toNat - 1) (by omega)
        rw [List.getElem?_eq_none (by omega)] at last
        cases last
      have length : (query.take n.toNat).length = n.toNat := by
        rw [List.length_take, Nat.min_eq_left inside]
      have shift : start + (encode (query.take n.toNat :: others)).length =
          start + n.toNat + 1 + (encode others).length := by
        rw [encode_cons, List.length_cons, List.length_append, length]
        omega
      refine ⟨query.take n.toNat :: others, m, rest, ?_, ?_, stops, shift ▸ low, shift ▸ high, ?_,
        shift ▸ ends⟩
      · intro label member
        rcases List.mem_cons.mp member with rfl | later
        · exact lengthy_of_byte length notStop
        · exact lengthy label later
      · rw [encode_cons, length, UInt8.ofNat_toNat, List.cons_append, List.append_assoc, ← behind,
          List.take_append_drop]
      · rw [Agrees, length]
        refine ⟨?_, later⟩
        intro index bound
        rw [List.getElem?_take_of_lt bound, agrees index bound]

theorem decidesFrom_start {cells : Nat → UInt8} {start : Nat} {query : List UInt8}
    (decides : DecidesFrom cells start query) : start ≤ dnsNameSize := by
  obtain ⟨labels, n, rest, -, -, ⟨-, -, inside⟩ | ⟨-, index, -, inside, -⟩⟩ := decides <;> omega

theorem matchesFrom_start {cells : Nat → UInt8} {start : Nat} {query : List UInt8}
    (matched : MatchesFrom cells start query) : start ≤ dnsNameSize := by
  obtain ⟨labels, n, rest, -, -, -, -, inside, -⟩ := matched
  omega

namespace DnsServer

variable (server : DnsServer)

theorem readName_eq (index : Nat) :
    server.readName index = if index < dnsNameSize then some (server.dnsName index) else none := by
  have range : (0 ≤ (index : Int) ∧ (index : Int) < dnsNameSize) ↔ index < dnsNameSize := by omega
  rw [readName, Int.toNat_natCast]
  simp only [range]

/-- What the comparison of a label comes to: all alike, a difference, or a read outside. -/
theorem compareLabel_spec (n start : Nat) (query : List UInt8) :
    ((∀ index < n, start + index < dnsNameSize ∧
        query[index]? = some (server.dnsName (start + index))) ∧
      server.compareLabel n start query = some (some (((start + n : Nat) : Int), query.drop n))) ∨
    ((∃ index < n, start + index < dnsNameSize ∧
        ∃ byte, query[index]? = some byte ∧ byte ≠ server.dnsName (start + index)) ∧
      server.compareLabel n start query = some none) ∨
    ((¬∃ index < n, start + index < dnsNameSize ∧
        ∃ byte, query[index]? = some byte ∧ byte ≠ server.dnsName (start + index)) ∧
      (∃ index < n, dnsNameSize ≤ start + index ∨ query[index]? = none) ∧
      server.compareLabel n start query = none) := by
  induction n generalizing start query with
  | zero =>
      left
      exact ⟨fun index bound => absurd bound (Nat.not_lt_zero _), rfl⟩
  | succ n ih =>
      unfold compareLabel
      rw [readName_eq]
      by_cases room : start < dnsNameSize
      · rw [if_pos room]
        cases query with
        | nil =>
            right; right
            refine ⟨?_, ⟨0, Nat.succ_pos _, Or.inr rfl⟩, rfl⟩
            rintro ⟨index, -, -, byte, found, -⟩
            cases found
        | cons theirs query =>
            by_cases same : server.dnsName start = theirs
            · have next : ((start : Int) + 1) = ((start + 1 : Nat) : Int) := by omega
              simp only [ne_eq, same, not_true_eq_false, if_false, next]
              have shift (index : Nat) : start + (index + 1) = start + 1 + index := by omega
              have differs : (∃ index < n + 1, start + index < dnsNameSize ∧ ∃ byte,
                  (theirs :: query)[index]? = some byte ∧ byte ≠ server.dnsName (start + index)) ↔
                  ∃ index < n, start + 1 + index < dnsNameSize ∧ ∃ byte,
                    query[index]? = some byte ∧ byte ≠ server.dnsName (start + 1 + index) := by
                constructor
                · rintro ⟨index, bound, inside, byte, found, other⟩
                  cases index with
                  | zero => exact absurd (Option.some.inj found).symm (same ▸ other)
                  | succ index =>
                      rw [shift] at inside other
                      exact ⟨index, by omega, inside, byte, found, other⟩
                · rintro ⟨index, bound, inside, byte, found, other⟩
                  refine ⟨index + 1, by omega, ?_⟩
                  rw [shift]
                  exact ⟨inside, byte, found, other⟩
              rcases ih (start + 1) query with ⟨alike, result⟩ | ⟨other, result⟩ |
                ⟨none, ⟨index, bound, outside⟩, result⟩
              · left
                refine ⟨?_, ?_⟩
                · intro index bound
                  cases index with
                  | zero => exact ⟨room, congrArg some same.symm⟩
                  | succ index =>
                      rw [shift]
                      exact alike index (by omega)
                · rw [result, ← shift n]
                  rfl
              · right; left
                exact ⟨differs.mpr other, result⟩
              · right; right
                refine ⟨fun found => none (differs.mp found), ⟨index + 1, by omega, ?_⟩, result⟩
                rw [shift]
                exact outside
            · right; left
              refine ⟨⟨0, Nat.succ_pos _, room, theirs, rfl, Ne.symm same⟩, ?_⟩
              exact if_pos same
      · rw [if_neg room]
        right; right
        refine ⟨?_, ⟨0, Nat.succ_pos _, Or.inl (Nat.le_of_not_lt room)⟩, rfl⟩
        rintro ⟨index, -, inside, -⟩
        omega

theorem nameEnds_eq (start : Nat) :
    server.nameEnds start = if 0 < start ∧ start ≤ dnsNameSize then
      some (if server.dnsName (start - 1) = 0 then 0 else 1) else none := by
  have step : (start : Int) - 1 = if 0 < start then ((start - 1 : Nat) : Int) else -1 := by
    split <;> omega
  rw [nameEnds, step]
  by_cases first : 0 < start
  · rw [if_pos first, readName_eq]
    by_cases inside : start ≤ dnsNameSize
    · have cell : start - 1 < dnsNameSize := by omega
      have both : 0 < start ∧ start ≤ dnsNameSize := ⟨first, inside⟩
      rw [if_pos both, if_pos cell]
      rfl
    · have cell : ¬start - 1 < dnsNameSize := by omega
      have outside : ¬(0 < start ∧ start ≤ dnsNameSize) := fun both => inside both.2
      rw [if_neg outside, if_neg cell]
      rfl
  · have outside : ¬(0 < start ∧ start ≤ dnsNameSize) := fun both => first both.1
    rw [if_neg first, if_neg outside]
    rfl

theorem nameEnds_spec (start : Nat) :
    ((server.nameEnds start).isSome ↔ 0 < start ∧ start ≤ dnsNameSize) ∧
      (server.nameEnds start = some 0 ↔
        0 < start ∧ start ≤ dnsNameSize ∧ server.dnsName (start - 1) = 0) := by
  rw [nameEnds_eq]
  by_cases inside : 0 < start ∧ start ≤ dnsNameSize
  · rw [if_pos inside]
    by_cases zero : server.dnsName (start - 1) = 0
    · simp [zero, inside]
    · simp [zero, inside]
  · rw [if_neg inside]
    refine ⟨iff_of_false Bool.false_ne_true inside, iff_of_false (fun none => by cases none) ?_⟩
    exact fun ends => inside ⟨ends.1, ends.2.1⟩

def compareRest (server : DnsServer) (rounds : Nat) (start : Nat) (query : List UInt8) :
    Option Int :=
  match query with
  | [] => none
  | next :: query =>
      if next ≠ 0 then server.compareLoop rounds start (next :: query) else server.nameEnds start

theorem compareRest_nil (rounds start : Nat) :
    ((server.compareRest rounds start []).isSome ↔ DecidesFrom server.dnsName start []) ∧
      (server.compareRest rounds start [] = some 0 ↔ MatchesFrom server.dnsName start []) := by
  constructor
  · refine iff_of_false Bool.false_ne_true ?_
    rintro ⟨labels, n, rest, -, nothing, -⟩
    exact absurd nothing.symm (List.append_ne_nil_of_right_ne_nil _ (List.cons_ne_nil _ _))
  · refine iff_of_false (fun nothing => by cases nothing) ?_
    rintro ⟨labels, n, rest, -, nothing, -⟩
    exact absurd nothing.symm (List.append_ne_nil_of_right_ne_nil _ (List.cons_ne_nil _ _))

/-- The loop on a label, what follows it being known. -/
theorem compareLoop_label {n : UInt8} (lengthOf : stopsLabels n = false) (rounds start : Nat)
    (query : List UInt8)
    (later : ((server.compareRest rounds (start + n.toNat + 1) (query.drop n.toNat)).isSome ↔
        DecidesFrom server.dnsName (start + n.toNat + 1) (query.drop n.toNat)) ∧
      (server.compareRest rounds (start + n.toNat + 1) (query.drop n.toNat) = some 0 ↔
        MatchesFrom server.dnsName (start + n.toNat + 1) (query.drop n.toNat))) :
    ((server.compareLoop (rounds + 1) start (n :: query)).isSome ↔
        DecidesFrom server.dnsName start (n :: query)) ∧
      (server.compareLoop (rounds + 1) start (n :: query) = some 0 ↔
        MatchesFrom server.dnsName start (n :: query)) := by
  have compressed : isCompressed n = false := (Bool.or_eq_false_iff.mp lengthOf).2
  rw [decidesFrom_cons, matchesFrom_cons]
  unfold compareLoop
  simp only [compressed, lengthOf, Bool.false_eq_true, if_false, false_and, false_or, true_and]
  rcases server.compareLabel_spec n.toNat start query with ⟨alike, result⟩ |
    ⟨differs, result⟩ | ⟨same, ⟨index, bound, outside⟩, result⟩
  · have differs : ¬∃ index < n.toNat, start + index < dnsNameSize ∧
        ∃ byte, query[index]? = some byte ∧ byte ≠ server.dnsName (start + index) := by
      rintro ⟨index, bound, -, byte, found, other⟩
      exact other (Option.some.inj (found.symm.trans (alike index bound).2))
    have inside : n.toNat ≤ query.length := by
      by_contra outside
      have last := (alike (n.toNat - 1) (by omega)).2
      rw [List.getElem?_eq_none (by omega)] at last
      cases last
    have all : ∀ index < n.toNat, query[index]? = some (server.dnsName (start + index)) :=
      fun index bound => (alike index bound).2
    simp only [differs, inside, false_or, true_and]
    rw [and_iff_right all, ← later.1, ← later.2, result]
    cases query.drop n.toNat with
    | nil => exact ⟨Iff.rfl, Iff.rfl⟩
    | cons next later => exact ⟨Iff.rfl, Iff.rfl⟩
  · rw [result]
    refine ⟨iff_of_true rfl (Or.inl differs),
      iff_of_false (fun one => absurd (Option.some.inj one) (by decide)) ?_⟩
    obtain ⟨index, bound, -, byte, found, other⟩ := differs
    rintro ⟨alike, -⟩
    exact other (Option.some.inj (found.symm.trans (alike index bound)))
  · rw [result]
    refine ⟨iff_of_false Bool.false_ne_true ?_, iff_of_false (fun none => by cases none) ?_⟩
    · rintro (differs | ⟨inside, later⟩)
      · exact same differs
      · have start' := decidesFrom_start later
        rcases outside with beyond | none
        · omega
        · have few := List.getElem?_eq_none_iff.mp none
          omega
    · rintro ⟨alike, later⟩
      have start' := matchesFrom_start later
      rcases outside with beyond | none
      · omega
      · rw [alike index bound] at none
        cases none

theorem compareRest_spec (rounds start : Nat) (query : List UInt8)
    (enough : query.length ≤ rounds) :
    ((server.compareRest rounds start query).isSome ↔
        DecidesFrom server.dnsName start query) ∧
      (server.compareRest rounds start query = some 0 ↔
        MatchesFrom server.dnsName start query) := by
  induction rounds generalizing start query with
  | zero =>
      rw [List.length_eq_zero_iff.mp (Nat.le_zero.mp enough)]
      exact server.compareRest_nil 0 start
  | succ rounds ih =>
      cases query with
      | nil => exact server.compareRest_nil _ start
      | cons n query =>
          rw [compareRest]
          obtain ⟨reads, ends⟩ := server.nameEnds_spec start
          by_cases zero : n = 0
          · have stops : stopsLabels n = true := by rw [zero]; rfl
            rw [if_neg (not_not_intro zero), decidesFrom_cons, matchesFrom_cons, reads, ends]
            simp [stops]
          · rw [if_pos zero]
            by_cases compressed : isCompressed n = true
            · have stops : stopsLabels n = true := by simp [stopsLabels, compressed]
              rw [decidesFrom_cons, matchesFrom_cons]
              unfold compareLoop
              simp only [compressed, if_true]
              rw [reads, ends]
              simp [stops]
            · have lengthOf : stopsLabels n = false := by simp [stopsLabels, zero, compressed]
              rw [List.length_cons] at enough
              exact server.compareLoop_label lengthOf rounds start query
                (ih _ _ (by rw [List.length_drop]; omega))

/-- The comparison of any query, whose first zero is at an index: it reads the query and the name
only, and it finds them equal. -/
theorem dnsCompareName_spec {query : List UInt8} {length : Nat}
    (found : strlen query = some length) :
    ((server.dnsCompareName query).isSome ↔
        length = 0 ∨ 33 < length ∨ DecidesFrom server.dnsName 0 query) ∧
      (server.dnsCompareName query = some 0 ↔
        0 < length ∧ length ≤ 33 ∧ MatchesFrom server.dnsName 0 query) := by
  rw [dnsCompareName, found, Option.bind_eq_bind, Option.bind_some]
  by_cases refused : length = 0 ∨ length - 1 > 32
  · rw [if_pos refused]
    constructor
    · exact iff_of_true rfl (by omega)
    · exact iff_of_false (fun one => absurd (Option.some.inj one) (by decide)) (by omega)
  · rw [if_neg refused]
    cases query with
    | nil => cases found
    | cons n rest =>
        have zero : n ≠ 0 := by
          rintro rfl
          have first : strlen (0 :: rest) = some 0 := rfl
          exact refused (Or.inl (Option.some.inj (found.symm.trans first)))
        have spec := server.compareRest_spec (n :: rest).length 0 (n :: rest) (Nat.le_refl _)
        have same : server.compareRest (n :: rest).length 0 (n :: rest) =
            server.compareLoop (n :: rest).length 0 (n :: rest) := if_pos zero
        rw [same] at spec
        refine ⟨spec.1.trans ?_, spec.2.trans ?_⟩
        · exact ⟨fun decides => Or.inr (Or.inr decides),
            fun any => (any.resolve_left (by omega)).resolve_left (by omega)⟩
        · exact ⟨fun matched => ⟨by omega, by omega, matched⟩, fun all => all.2.2⟩

end DnsServer

theorem strlen_eq_some {text : List UInt8} {length : Nat} (found : strlen text = some length) :
    text[length]? = some 0 ∧ ∀ index < length, text[index]? ≠ some 0 := by
  obtain ⟨inside, zero, before⟩ := List.findIdx?_eq_some_iff_getElem.mp found
  have byte : text[length] = 0 := by simpa using zero
  refine ⟨by rw [List.getElem?_eq_getElem inside, byte], ?_⟩
  intro index earlier
  have other := before index earlier
  rw [List.getElem?_eq_getElem (by omega)]
  intro same
  exact other (beq_iff_eq.mpr (Option.some.inj same))

theorem strlen_le {before rest : List UInt8} {length : Nat}
    (found : strlen (before ++ 0 :: rest) = some length) : length ≤ before.length := by
  by_contra later
  apply (strlen_eq_some found).2 before.length (by omega)
  rw [List.getElem?_append_right (Nat.le_refl _), Nat.sub_self]
  rfl

structure HostName where
  text : List UInt8
  length_le : text.length ≤ 32
  nonzero : 0 ∉ text

def HostName.cells (name : HostName) (index : Nat) : UInt8 := name.text.getD index 0

theorem HostName.configured (name : HostName) (server : DnsServer) :
    (dnssConfig server name.text).2.dnsName = name.cells := by
  rw [dnssConfig, if_neg (Nat.not_lt.mpr name.length_le)]
  rfl

def NameLabels (labels : List (List UInt8)) : Prop :=
  ∀ label ∈ labels, 0 < label.length ∧ label.length ≤ 63

def encodeName (labels : List (List UInt8)) : List UInt8 := encode labels ++ [0]

def dotted (labels : List (List UInt8)) : List UInt8 := List.intercalate [46] labels

theorem NameLabels.lengthy {labels : List (List UInt8)} (wellFormed : NameLabels labels) :
    ∀ label ∈ labels, Lengthy stopsLabels label := by
  intro label member
  obtain ⟨positive, bound⟩ := wellFormed label member
  have lengths : ∀ length : Fin 64, 0 < length.val →
      stopsLabels (UInt8.ofNat length.val) = false := by decide
  exact ⟨by omega, lengths ⟨label.length, by omega⟩ positive⟩

/-- The labels are the name but for the bytes between the labels, and the name ends with them. -/
def HostName.LooksLike (name : HostName) (labels : List (List UInt8)) : Prop :=
  (dotted labels).length < dnsNameSize ∧ Agrees name.cells 0 labels ∧
    name.cells (dotted labels).length = 0

/-- A query that agrees with the name is decided where its labels stop. -/
theorem decidesFrom_of_agrees {cells : Nat → UInt8} {start : Nat} {labels : List (List UInt8)}
    {n : UInt8} (rest : List UInt8) (lengthy : ∀ label ∈ labels, Lengthy stopsLabels label)
    (agrees : Agrees cells start labels)
    (decides : DecidesFrom cells start (encode labels ++ n :: rest)) :
    start + (encode labels).length ≤ dnsNameSize := by
  induction labels generalizing start with
  | nil => exact decidesFrom_start decides
  | cons label others ih =>
      have first := lengthy label List.mem_cons_self
      have shape : encode (label :: others) ++ n :: rest =
          UInt8.ofNat label.length :: (label ++ (encode others ++ n :: rest)) := by simp
      rw [shape, decidesFrom_cons, first.2, first.toNat, List.drop_left] at decides
      simp only [Bool.false_eq_true, false_and, false_or, true_and] at decides
      rcases decides with ⟨index, bound, -, byte, found, other⟩ | ⟨-, later⟩
      · rw [List.getElem?_append_left bound, agrees.1 index bound] at found
        exact absurd (Option.some.inj found).symm other
      · have behind := ih (fun other member => lengthy other (List.mem_cons_of_mem _ member))
          agrees.2 later
        rw [encode_cons, List.length_cons, List.length_append]
        omega

namespace HostName

variable (name : HostName) (server : DnsServer)

/-- The comparison with the name reads inside, and is right about a name in a query. -/
def ComparesRight (query : List UInt8) : Prop :=
  ∃ result, (dnssConfig server name.text).2.dnsCompareName query = some result ∧
    ∀ labels, NameLabels labels → query = encodeName labels →
      (result = 0 ↔ dotted labels = name.text)

/-- The query ends, is too long, or stops or differs within the cells of the name; it is no root
for an empty name; and it is the name if it looks like it. -/
structure Told (query : List UInt8) : Prop where
  decided : ∃ length, strlen query = some length ∧
    (length = 0 ∨ 33 < length ∨ DecidesFrom name.cells 0 query)
  root : query = encodeName [] → name.text ≠ []
  apart : ∀ labels, labels ≠ [] → NameLabels labels → query = encodeName labels →
    name.LooksLike labels → dotted labels = name.text

theorem matchesFrom_encodeName {labels : List (List UInt8)} (any : labels ≠ [])
    (wellFormed : NameLabels labels) :
    MatchesFrom name.cells 0 (encodeName labels) ↔ name.LooksLike labels := by
  have length : (encode labels).length = (dotted labels).length + 1 := encode_length 46 any
  constructor
  · rintro ⟨others, n, rest, lengthy, same, stops, -, inside, agrees, ends⟩
    obtain ⟨rfl, -, -⟩ := encode_unique wellFormed.lengthy lengthy rfl stops same
    rw [length, Nat.zero_add] at inside ends
    exact ⟨inside, agrees, ends⟩
  · rintro ⟨inside, agrees, ends⟩
    have last : 0 + (encode labels).length - 1 = (dotted labels).length := by omega
    exact ⟨labels, 0, [], wellFormed.lengthy, rfl, rfl, by omega, by omega, agrees, last ▸ ends⟩

/-- The first zero of a name in a query is not behind its end, and not at the front. -/
theorem strlen_encodeName {labels : List (List UInt8)} (any : labels ≠ [])
    (wellFormed : NameLabels labels) {length : Nat}
    (found : strlen (encodeName labels) = some length) :
    0 < length ∧ length ≤ (dotted labels).length + 1 := by
  have whole : (encode labels).length = (dotted labels).length + 1 := encode_length 46 any
  refine ⟨Nat.pos_of_ne_zero ?_, whole ▸ strlen_le found⟩
  rintro rfl
  cases labels with
  | nil => exact any rfl
  | cons label rest =>
      have first := (wellFormed.lengthy label List.mem_cons_self).2
      have zero := (strlen_eq_some found).1
      have byte : UInt8.ofNat label.length = 0 := Option.some.inj zero
      rw [byte] at first
      cases first

theorem agrees_of_dotted {labels : List (List UInt8)} (same : dotted labels = name.text) :
    Agrees name.cells 0 labels := by
  have agrees := agrees_intercalate 46 0 labels []
  have cells : name.cells = fun index => ([] ++ List.intercalate [46] labels).getD index 0 := by
    funext index
    rw [List.nil_append, HostName.cells, ← same, dotted]
  rw [cells]
  exact agrees

theorem Told.of_comparesRight {query : List UInt8} (compares : name.ComparesRight server query) :
    name.Told query := by
  have cells := name.configured server
  obtain ⟨result, compared, right⟩ := compares
  have isSome : ((dnssConfig server name.text).2.dnsCompareName query).isSome := by
    rw [compared]
    rfl
  have ended : ∃ length, strlen query = some length := by
    cases found : strlen query with
    | none =>
        rw [DnsServer.dnsCompareName, found] at isSome
        cases isSome
    | some length => exact ⟨length, rfl⟩
  obtain ⟨length, found⟩ := ended
  obtain ⟨reads, equal⟩ := (dnssConfig server name.text).2.dnsCompareName_spec found
  rw [cells] at reads equal
  rw [compared, Option.some.injEq] at equal
  refine ⟨⟨length, found, reads.mp isSome⟩, ?_, ?_⟩
  · rintro rfl empty
    have zero : result = 0 := (right [] (fun _ member => absurd member List.not_mem_nil)
      rfl).mpr empty.symm
    have none : strlen (encodeName []) = some 0 := rfl
    rw [none, Option.some.injEq] at found
    exact absurd (equal.mp zero).1 (by omega)
  · rintro labels any wellFormed rfl looks
    have bounds := strlen_encodeName any wellFormed found
    have inside := looks.1
    have size : dnsNameSize = 32 := rfl
    exact (right labels wellFormed rfl).mp (equal.mpr ⟨bounds.1, by omega,
      (name.matchesFrom_encodeName any wellFormed).mpr looks⟩)

/-- The configured name itself looks like its labels, if it leaves room for the closing zero. -/
theorem looksLike_of_dotted {labels : List (List UInt8)} (same : dotted labels = name.text)
    (room : (dotted labels).length < 32) : name.LooksLike labels := by
  have textLength : (dotted labels).length = name.text.length := congrArg _ same
  refine ⟨room, name.agrees_of_dotted same, ?_⟩
  rw [textLength, HostName.cells, List.getD_eq_getElem?_getD, List.getElem?_eq_none (Nat.le_refl _)]
  rfl

theorem Told.comparesRight {query : List UInt8} (told : name.Told query) :
    name.ComparesRight server query := by
  have cells := name.configured server
  obtain ⟨⟨length, found, decided⟩, root, apart⟩ := told
  obtain ⟨reads, equal⟩ := (dnssConfig server name.text).2.dnsCompareName_spec found
  rw [cells] at reads equal
  obtain ⟨result, compared⟩ := Option.isSome_iff_exists.mp (reads.mpr decided)
  rw [compared, Option.some.injEq] at equal
  refine ⟨result, compared, ?_⟩
  rintro labels wellFormed rfl
  by_cases any : labels = []
  · subst any
    have none : strlen (encodeName []) = some 0 := rfl
    rw [none, Option.some.injEq] at found
    refine iff_of_false (fun zero => absurd (equal.mp zero).1 (by omega)) ?_
    exact fun same => root rfl same.symm
  · have bounds := strlen_encodeName any wellFormed found
    have size : dnsNameSize = 32 := rfl
    have matched := name.matchesFrom_encodeName any wellFormed
    constructor
    · intro zero
      exact apart labels any wellFormed rfl (matched.mp (equal.mp zero).2.2)
    · intro same
      have textLength : (dotted labels).length = name.text.length := congrArg _ same
      have limit := name.length_le
      have whole : (encode labels).length = (dotted labels).length + 1 := encode_length 46 any
      have room : (dotted labels).length < 32 := by
        rcases decided with nothing | long | decides
        · omega
        · omega
        · have stop := decidesFrom_of_agrees [] wellFormed.lengthy (name.agrees_of_dotted same)
            decides
          omega
      exact equal.mpr ⟨bounds.1, by omega, matched.mpr (name.looksLike_of_dotted same room)⟩

theorem comparesRight_iff (query : List UInt8) :
    name.ComparesRight server query ↔ name.Told query :=
  ⟨Told.of_comparesRight name server, Told.comparesRight name server⟩

end HostName

/-- The query `a.b` is taken for the name `axb`. -/
theorem other_byte_not_comparesRight :
    ¬HostName.ComparesRight ⟨[97, 120, 98], by decide, by decide⟩ ⟨fun _ => 0, 0⟩
      [1, 97, 1, 98, 0] := by
  rintro ⟨result, compared, right⟩
  have equal : (dnssConfig ⟨fun _ => 0, 0⟩ [97, 120, 98]).2.dnsCompareName [1, 97, 1, 98, 0] =
      some 0 := by decide
  have zero : result = 0 := Option.some.inj (compared.symm.trans equal)
  have labels : ∀ label ∈ ([[97], [98]] : List (List UInt8)),
      0 < label.length ∧ label.length ≤ 63 := by decide
  have same := (right [[97], [98]] labels rfl).mp zero
  exact absurd same (by decide)

end SmartMeter
