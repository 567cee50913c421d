import BlindNet.Lib.LabelName

/-!
# DNS messages

A header of twelve bytes, a section of questions and three sections of records. The
header counts the entries of each section. A name is written out up to its zero-length
label, or points to the place where it stands.
-/

namespace DnsMessage

set_option autoImplicit false

open ByteLayout LabelName

def beBytes (width value : Nat) : Bytes := (leBytes width value).reverse

@[simp] theorem be_bytes_length (width value : Nat) : (beBytes width value).length = width := by
  simp [beBytes]

inductive Name where
  | whole (labels : List Bytes)
  | pointer (offset : Nat)
  deriving DecidableEq

def Name.encode : Name → Bytes
  | .whole labels => LabelName.encode labels ++ [0]
  | .pointer offset => beBytes 2 (0xC000 + offset)

structure Question where
  labels : List Bytes
  qtype : ByteArr 2
  qclass : ByteArr 2
  deriving DecidableEq

def Question.encode (question : Question) : Bytes :=
  LabelName.encode question.labels ++ [0] ++ question.qtype.toList ++ question.qclass.toList

structure Record where
  owner : Name
  rtype : Nat
  rclass : Nat
  ttl : Nat
  rdata : Bytes
  deriving DecidableEq

def Record.encode (record : Record) : Bytes :=
  record.owner.encode ++ beBytes 2 record.rtype ++ beBytes 2 record.rclass ++
    beBytes 4 record.ttl ++ beBytes 2 record.rdata.length ++ record.rdata

structure Message where
  id : ByteArr 2
  flags : ByteArr 2
  questions : List Question
  answers : List Record
  authority : List Record
  additional : List Record

def Message.counts (message : Message) : Bytes :=
  beBytes 2 message.questions.length ++ beBytes 2 message.answers.length ++
    beBytes 2 message.authority.length ++ beBytes 2 message.additional.length

def Message.encode (message : Message) : Bytes :=
  message.id.toList ++ message.flags.toList ++ message.counts ++
    message.questions.flatMap Question.encode ++ message.answers.flatMap Record.encode ++
    message.authority.flatMap Record.encode ++ message.additional.flatMap Record.encode

/-- The counts are those of the sections, not only up to their sixteen bits. -/
def Message.Counted (message : Message) : Prop :=
  message.questions.length < 2 ^ 16 ∧ message.answers.length < 2 ^ 16 ∧
    message.authority.length < 2 ^ 16 ∧ message.additional.length < 2 ^ 16

theorem record_encode_ne_nil (record : Record) : record.encode ≠ [] := by
  intro empty
  have none_left := congrArg List.length empty
  simp only [Record.encode, List.length_append, be_bytes_length, List.length_nil] at none_left
  omega

theorem records_eq_nil {records : List Record}
    (empty : (records.flatMap Record.encode).length = 0) : records = [] := by
  cases records with
  | nil => rfl
  | cons record records =>
      rw [List.flatMap_cons, List.length_append] at empty
      have first := List.eq_nil_of_length_eq_zero (Nat.eq_zero_of_add_eq_zero_right empty)
      exact absurd first (record_encode_ne_nil record)

/-! ## The question of a message -/

/-- The message has this question first behind its header. -/
structure FirstQuestion (message : Bytes) (question : Question) : Prop where
  areLabels : AreLabels question.labels
  encoded : ∃ rest, message.drop 12 = question.encode ++ rest

theorem question_encode_length (question : Question) :
    question.encode.length = (LabelName.encode question.labels).length + 5 := by
  simp [Question.encode]

theorem zero_stops (rest : Bytes) : readLabel (0 :: rest) = none := by
  simp [readLabel]

theorem question_encode_append (question : Question) (rest : Bytes) :
    question.encode ++ rest = LabelName.encode question.labels ++
      0 :: (question.qtype.toList ++ (question.qclass.toList ++ rest)) := by
  simp [Question.encode]

theorem FirstQuestion.unique {message : Bytes} {first second : Question}
    (isFirst : FirstQuestion message first) (isSecond : FirstQuestion message second) :
    first = second := by
  obtain ⟨restFirst, encodedFirst⟩ := isFirst.encoded
  obtain ⟨restSecond, encodedSecond⟩ := isSecond.encoded
  have same := encodedFirst.symm.trans encodedSecond
  rw [question_encode_append, question_encode_append] at same
  have split := congrArg splitLabels same
  rw [split_labels_encode isFirst.areLabels (zero_stops _),
    split_labels_encode isSecond.areLabels (zero_stops _)] at split
  obtain ⟨labels, tail⟩ := Prod.mk.inj split
  obtain ⟨qtype, behind⟩ := List.append_inj (List.cons.inj tail).2 (by simp)
  obtain ⟨qclass, -⟩ := List.append_inj behind (by simp)
  cases first
  cases second
  simp only [Question.mk.injEq]
  exact ⟨labels, List.Vector.eq _ _ qtype, List.Vector.eq _ _ qclass⟩

end DnsMessage
