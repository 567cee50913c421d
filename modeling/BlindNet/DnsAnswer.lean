import BlindNet.DnsName
import BlindNet.Lib.DnsMessage

/-!
# Answers of the DNS filter

An answer takes over the header and the first question of the query and leaves out
everything behind it. Of the four counts only that of the answers is written, so the
others are right only for a query that has one question and nothing else.
-/

namespace BlindNet

set_option autoImplicit false

open ByteLayout LabelName DnsMessage

/-! ## The end of the name -/

theorem find_qname_end_encode {fuel pos : Nat} {labels : List Bytes} {rest : Bytes}
    (areLabels : AreLabels labels) (enough : (encode labels ++ 0 :: rest).length ≤ fuel) :
    findQnameEndLoop fuel pos (encode labels ++ 0 :: rest) =
      some (pos + (encode labels).length + 1) := by
  induction labels generalizing fuel pos with
  | nil =>
      cases fuel with
      | zero => simp [encode] at enough
      | succ fuel => rfl
  | cons label labels induction =>
      obtain ⟨isLabel, others⟩ := are_labels_cons.mp areLabels
      have direct : ¬ (UInt8.ofNat label.length &&& 0xC0 ≠ 0) := by
        rw [pointer_bits_iff, label_size isLabel]
        exact Nat.not_le_of_lt isLabel.2
      rw [encode_cons_append] at enough ⊢
      obtain ⟨less, rfl, behind⟩ := fuel_after_label enough
      rw [encode_label_append, findQnameEndLoop, if_neg (label_size_ne_zero isLabel),
        if_neg direct, label_size isLabel, List.drop_left' rfl, induction others (by omega)]
      rw [encode_cons_length]
      congr 1
      omega

theorem find_qname_end_sound {fuel pos finish : Nat} {bytes : Bytes}
    (found : findQnameEndLoop fuel pos bytes = some finish) :
    ∃ labels rest, AreLabels labels ∧ bytes = encode labels ++ 0 :: rest ∧
      finish = pos + (encode labels).length + 1 := by
  induction fuel generalizing pos bytes with
  | zero => simp [findQnameEndLoop] at found
  | succ fuel induction =>
      cases bytes with
      | nil => simp [findQnameEndLoop] at found
      | cons size behind =>
          rw [findQnameEndLoop] at found
          by_cases zero : size = 0
          · rw [if_pos zero, Option.some.injEq] at found
            refine ⟨[], behind, by simp [AreLabels], ?_, by simp [encode, ← found]⟩
            rw [zero]
            rfl
          · rw [if_neg zero] at found
            by_cases pointer : size &&& 0xC0 ≠ 0
            · simp [pointer] at found
            · rw [if_neg pointer] at found
              obtain ⟨labels, rest, areLabels, remaining, isFinish⟩ := induction found
              -- what is left is not empty, so the label ends inside
              have inside : size.toNat < behind.length := by
                have some_left := congrArg List.length remaining
                rw [List.length_drop, List.length_append, List.length_cons] at some_left
                omega
              rw [pointer_bits_iff] at pointer
              have stays : ¬ (size = 0 ∨ 64 ≤ size.toNat ∨ behind.length < size.toNat) := by
                rintro (isZero | large | short)
                · exact zero isZero
                · exact pointer large
                · omega
              have read : readLabel (size :: behind) =
                  some (behind.take size.toNat, behind.drop size.toNat) := by
                rw [readLabel, if_neg stays]
              obtain ⟨isLabel, bytes_eq⟩ := read_label_sound read
              have length : (behind.take size.toNat).length = size.toNat := by
                rw [List.length_take]
                omega
              refine ⟨behind.take size.toNat :: labels, rest,
                are_labels_cons.mpr ⟨isLabel, areLabels⟩, ?_, ?_⟩
              · rw [bytes_eq, encode_cons_append, remaining]
              · rw [isFinish, encode_cons_length, length]
                omega

/-! ## The answer -/

def answerHeader (header : Bytes) : Bytes :=
  (((header.set 2 0x81).set 3 0x80).set 6 0x00).set 7 0x01

section Answer

variable {query : Bytes} {rsize : Nat} {question : Question}

theorem first_question_whole (first : FirstQuestion query question) :
    ∃ rest, query = query.take 12 ++ (question.encode ++ rest) ∧ (query.take 12).length = 12 := by
  obtain ⟨rest, encoded⟩ := first.encoded
  refine ⟨rest, by rw [← encoded, List.take_append_drop], ?_⟩
  have some_left := congrArg List.length encoded
  rw [List.length_drop, List.length_append, question_encode_length] at some_left
  rw [List.length_take]
  omega

theorem find_qname_end_question (first : FirstQuestion query question) :
    findQnameEnd query = some (12 + (encode question.labels).length + 1) := by
  obtain ⟨rest, encoded⟩ := first.encoded
  rw [question_encode_append] at encoded
  unfold findQnameEnd
  rw [encoded]
  apply find_qname_end_encode first.areLabels
  rw [← encoded, List.length_drop]
  omega

theorem build_a_response_some (first : FirstQuestion query question)
    (room : query.length + 16 ≤ rsize) (ipHostOrder : UInt32) :
    buildAResponse query rsize ipHostOrder =
      some (answerHeader (query.take 12) ++ question.encode ++ aRecord ipHostOrder) := by
  obtain ⟨rest, whole, header⟩ := first_question_whole first
  have length := congrArg List.length whole
  rw [List.length_append, List.length_append, header, question_encode_length] at length
  have large : ¬ (query.length < 12 ∨ rsize < query.length + 16) := by omega
  have inside : ¬ query.length < 12 + (encode question.labels).length + 1 + 4 := by omega
  have copied : query.take (12 + (encode question.labels).length + 1 + 4) =
      query.take 12 ++ question.encode := by
    have width : 12 + (encode question.labels).length + 1 + 4 =
        (query.take 12 ++ question.encode).length := by
      rw [List.length_append, header, question_encode_length]
      omega
    rw [width]
    nth_rewrite 2 [whole]
    rw [← List.append_assoc, List.take_left]
  unfold buildAResponse
  rw [if_neg large, find_qname_end_question first]
  simp only [if_neg inside, copied]
  rw [List.set_append_left _ _ (by rw [header]; decide),
    List.set_append_left _ _ (by rw [List.length_set, header]; decide),
    List.set_append_left _ _ (by rw [List.length_set, List.length_set, header]; decide),
    List.set_append_left _ _ (by
      rw [List.length_set, List.length_set, List.length_set, header]
      decide)]
  rfl

theorem build_a_response_question {response : Bytes} {ipHostOrder : UInt32}
    (built : buildAResponse query rsize ipHostOrder = some response) :
    query.length + 16 ≤ rsize ∧ ∃ question, FirstQuestion query question := by
  unfold buildAResponse at built
  by_cases short : query.length < 12 ∨ rsize < query.length + 16
  · simp [short] at built
  · rw [if_neg short] at built
    refine ⟨by omega, ?_⟩
    cases found : findQnameEnd query with
    | none => simp [found] at built
    | some finish =>
        simp only [found] at built
        by_cases over_ : query.length < finish + 4
        · simp [over_] at built
        · obtain ⟨labels, rest, areLabels, bytes, isFinish⟩ := find_qname_end_sound found
          have four : 4 ≤ rest.length := by
            have length := congrArg List.length bytes
            rw [List.length_drop, List.length_append, List.length_cons] at length
            omega
          let asked : Question :=
            ⟨labels, ⟨rest.take 2, by rw [List.length_take]; omega⟩,
              ⟨(rest.drop 2).take 2, by rw [List.length_take, List.length_drop]; omega⟩⟩
          refine ⟨asked, areLabels, (rest.drop 2).drop 2, ?_⟩
          rw [question_encode_append, bytes]
          simp only [asked, List.Vector.toList_mk, List.take_append_drop]

/-! ## Well-formed answers -/

def addressRecord (offset ttl : Nat) (ipHostOrder : UInt32) : Record :=
  ⟨.pointer offset, 1, 1, ttl, beBytes 4 ipHostOrder.toNat⟩

/-- A DNS message with the counts of its sections, the first question of the query and one
address for the name of that question, which stands behind the header. -/
def AnswersQuery (query response : Bytes) (ipHostOrder : UInt32) : Prop :=
  ∃ message question ttl, Message.Counted message ∧ response = message.encode ∧
    FirstQuestion query question ∧ message.questions = [question] ∧
    message.answers = [addressRecord 12 ttl ipHostOrder]

/-- Whatever the filter answers fits the buffer and is well formed. -/
def AnswersWellFormed (query : Bytes) (rsize : Nat) (ipHostOrder : UInt32) : Prop :=
  ∀ response, buildAResponse query rsize ipHostOrder = some response →
    response.length ≤ rsize ∧ AnswersQuery query response ipHostOrder

/-- The query has a question, and the buffer room for the answer. -/
def Answerable (query : Bytes) (rsize : Nat) : Prop :=
  query.length + 16 ≤ rsize ∧ ∃ question, FirstQuestion query question

/-- The header counts one question and no record behind the answers. -/
def CountsOneQuestion (query : Bytes) : Prop :=
  (query.drop 4).take 2 = [0, 1] ∧ (query.drop 8).take 4 = [0, 0, 0, 0]

theorem a_record_encode (ipHostOrder : UInt32) :
    aRecord ipHostOrder = (addressRecord 12 60 ipHostOrder).encode := by
  simp only [aRecord, addressRecord, Record.encode, be_bytes_length]
  rfl

theorem address_record_length (offset ttl : Nat) (ipHostOrder : UInt32) :
    (addressRecord offset ttl ipHostOrder).encode.length = 16 := by
  simp [addressRecord, Record.encode, Name.encode]

/-- The parts of a header that the answer keeps and those that it writes. -/
theorem answer_header_bytes {header : Bytes} (twelve : header.length = 12) :
    answerHeader header = header.take 2 ++ [0x81, 0x80] ++
      ((header.drop 4).take 2 ++ [0, 1] ++ (header.drop 8).take 4) := by
  match header, twelve with
  | [_, _, _, _, _, _, _, _, _, _, _, _], _ => rfl

theorem header_counts_iff (query : Bytes) :
    CountsOneQuestion query ↔
      ((query.take 12).drop 4).take 2 = [0, 1] ∧
      ((query.take 12).drop 8).take 4 = [0, 0, 0, 0] := by
  unfold CountsOneQuestion
  rw [List.drop_take, List.drop_take, List.take_take, List.take_take]
  rfl

/-- The response is well formed exactly when the counts taken over from the query are
right for what is left of it. -/
theorem answers_query_iff {question : Question} (first : FirstQuestion query question)
    (ipHostOrder : UInt32) :
    AnswersQuery query (answerHeader (query.take 12) ++ question.encode ++ aRecord ipHostOrder)
        ipHostOrder ↔
      CountsOneQuestion query := by
  obtain ⟨rest, -, twelve⟩ := first_question_whole first
  rw [header_counts_iff, answer_header_bytes twelve]
  constructor
  · rintro ⟨message, asked, ttl, -, response, isFirst, questions, answers⟩
    rw [isFirst.unique first] at questions
    rw [Message.encode, Message.counts, questions, answers] at response
    have lengths := congrArg List.length response
    simp only [a_record_encode, List.flatMap_cons, List.flatMap_nil, List.append_nil,
      List.length_append, address_record_length, be_bytes_length, List.Vector.toList_length,
      List.length_take, List.length_drop, twelve, List.length_cons, List.length_nil] at lengths
    have authority : message.authority = [] := records_eq_nil (by omega)
    have additional : message.additional = [] := records_eq_nil (by omega)
    rw [authority, additional] at response
    simp only [List.flatMap_cons, List.flatMap_nil, List.append_nil, List.append_assoc] at response
    obtain ⟨-, response⟩ := List.append_inj response (by simp [twelve])
    obtain ⟨-, response⟩ := List.append_inj response (by simp)
    obtain ⟨questionCount, response⟩ := List.append_inj response (by simp [twelve])
    obtain ⟨-, response⟩ := List.append_inj response (by simp)
    have oneQuestion : beBytes 2 1 = [0, 1] := by decide
    have noRecords : beBytes 2 ([] : List Record).length ++ beBytes 2 ([] : List Record).length =
      [0, 0, 0, 0] := by decide
    rw [← List.append_assoc (beBytes 2 ([] : List Record).length), noRecords] at response
    obtain ⟨recordCounts, -⟩ := List.append_inj response (by simp [twelve])
    exact ⟨questionCount.trans oneQuestion, recordCounts⟩
  · rintro ⟨questionCount, recordCounts⟩
    have two : ((query.take 12).take 2).length = 2 := by simp [twelve]
    refine ⟨⟨⟨(query.take 12).take 2, two⟩, ⟨[0x81, 0x80], rfl⟩, [question],
      [addressRecord 12 60 ipHostOrder], [], []⟩, question, 60, by simp [Message.Counted], ?_,
      first, rfl, rfl⟩
    rw [questionCount, recordCounts, a_record_encode]
    simp [Message.encode, Message.counts, beBytes, leBytes]

theorem answers_well_formed_iff (query : Bytes) (rsize : Nat) (ipHostOrder : UInt32) :
    AnswersWellFormed query rsize ipHostOrder ↔
      (Answerable query rsize → CountsOneQuestion query) := by
  constructor
  · rintro wellFormed ⟨room, question, first⟩
    have built := build_a_response_some first room ipHostOrder
    exact (answers_query_iff first ipHostOrder).mp (wellFormed _ built).2
  · intro counts response built
    obtain ⟨room, question, first⟩ := build_a_response_question built
    rw [build_a_response_some first room] at built
    have isResponse := Option.some.inj built
    obtain ⟨rest, whole, twelve⟩ := first_question_whole first
    constructor
    · have length := congrArg List.length whole
      rw [List.length_append, List.length_append, twelve] at length
      rw [← isResponse, List.length_append, List.length_append, a_record_encode,
        address_record_length, answerHeader, List.length_set, List.length_set, List.length_set,
        List.length_set, twelve]
      omega
    · rw [← isResponse]
      exact (answers_query_iff first ipHostOrder).mpr (counts ⟨room, question, first⟩)

end Answer

/-- A query for `a` with an option record behind its question, as EDNS clients send it. -/
def ednsQuery : Bytes :=
  [0x12, 0x34, 0x01, 0x00, 0, 1, 0, 0, 0, 0, 0, 1] ++ [1, 97, 0, 0, 1, 0, 1] ++
    [0, 0, 41, 4, 208, 0, 0, 0, 0, 0, 0]

/-- The answer still counts an additional record, and ends behind the address. -/
theorem edns_answer_miscounts :
    buildAResponse ednsQuery 512 0 =
      some ([0x12, 0x34, 0x81, 0x80, 0, 1, 0, 1, 0, 0, 0, 1] ++ [1, 97, 0, 0, 1, 0, 1] ++
        aRecord 0) ∧
      ¬ AnswersWellFormed ednsQuery 512 0 := by
  constructor
  · decide +kernel
  · intro wellFormed
    have asked : FirstQuestion ednsQuery ⟨[[97]], ⟨[0, 1], rfl⟩, ⟨[0, 1], rfl⟩⟩ := by
      refine ⟨?_, [0, 0, 41, 4, 208, 0, 0, 0, 0, 0, 0], by decide⟩
      simp [AreLabels, IsLabel]
    have built := build_a_response_some asked (by decide : ednsQuery.length + 16 ≤ 512) 0
    have counts := (answers_query_iff asked 0).mp (wellFormed _ built).2
    exact absurd counts.2 (by decide)

end BlindNet
