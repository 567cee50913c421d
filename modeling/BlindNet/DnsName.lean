import BlindNet.DnsFilter
import BlindNet.Lib.LabelName

/-!
# Names read from DNS queries

Inside the datagram and within the room of the output the loop reads the labels as they
stand. Three kinds of datagram get through that have no such name: the labels run to the
end of the datagram, a label holds a NUL, or the name is too long and the rest of it,
read as lengths, meets nothing that is refused.
-/

namespace BlindNet

set_option autoImplicit false

open ByteLayout LabelName

/-! ## The turns of the loop -/

theorem pointer_bits_iff (size : UInt8) : size &&& 0xC0 ≠ 0 ↔ 64 ≤ size.toNat := by
  revert size
  exact forall_byte (by decide +kernel)

theorem qname_loop_label {room fuel : Nat} {label : Bytes} (isLabel : IsLabel label)
    (rest out : Bytes) :
    parseDnsQnameLoop room (fuel + 1) (encodeLabel label ++ rest) out =
      parseDnsQnameLoop room fuel
        (label.drop (room - (dotted room out).length) ++ rest)
        (dotted room out ++ label.take (room - (dotted room out).length)) := by
  have short : ¬ (label ++ rest).length < label.length := by
    rw [List.length_append]
    omega
  have direct : ¬ (UInt8.ofNat label.length &&& 0xC0 ≠ 0) := by
    rw [pointer_bits_iff, label_size isLabel]
    exact Nat.not_le_of_lt isLabel.2
  have inside : min label.length (room - (dotted room out).length) ≤ label.length :=
    Nat.min_le_left _ _
  rw [encode_label_append, parseDnsQnameLoop, if_neg (label_size_ne_zero isLabel),
    if_neg direct, label_size isLabel, if_neg short]
  simp only [List.drop_append_of_le_length inside, List.take_append_of_le_length inside]
  rcases Nat.le_total label.length (room - (dotted room out).length) with whole | cut
  · rw [Nat.min_eq_left whole, List.drop_of_length_le whole, List.take_of_length_le whole,
      List.drop_length, List.take_length]
  · rw [Nat.min_eq_right cut]

theorem qname_loop_first {room fuel : Nat} {label : Bytes} (isLabel : IsLabel label)
    (fits : label.length ≤ room) (rest : Bytes) :
    parseDnsQnameLoop room (fuel + 1) (encodeLabel label ++ rest) [] =
      parseDnsQnameLoop room fuel rest label := by
  have start : dotted room [] = [] := by simp [dotted]
  rw [qname_loop_label isLabel, start, List.length_nil, Nat.sub_zero,
    List.drop_of_length_le fits, List.take_of_length_le fits, List.nil_append, List.nil_append]

theorem qname_loop_next {room fuel : Nat} {label out : Bytes} (isLabel : IsLabel label)
    (begun : out ≠ []) (fits : out.length + 1 + label.length ≤ room) (rest : Bytes) :
    parseDnsQnameLoop room (fuel + 1) (encodeLabel label ++ rest) out =
      parseDnsQnameLoop room fuel rest (out ++ 46 :: label) := by
  have dot : dotted room out = out ++ [46] := if_pos ⟨begun, by omega⟩
  have enough : label.length ≤ room - (out ++ [46]).length := by
    rw [List.length_append, List.length_singleton]
    omega
  rw [qname_loop_label isLabel, dot, List.drop_of_length_le enough,
    List.take_of_length_le enough, List.nil_append, List.append_assoc, List.singleton_append]

/-- A label without room fills the output, and the next turn starts inside it. -/
theorem qname_loop_cut {room fuel : Nat} {label out : Bytes} (isLabel : IsLabel label)
    (begun : out ≠ []) (inside : out.length ≤ room)
    (cut : room < out.length + 1 + label.length) (rest : Bytes) :
    ∃ full : Bytes, full.length = room ∧
      parseDnsQnameLoop room (fuel + 1) (encodeLabel label ++ rest) out =
        parseDnsQnameLoop room fuel (label.drop (room - (out.length + 1)) ++ rest) full := by
  by_cases dot : out.length < room
  · have start : dotted room out = out ++ [46] := if_pos ⟨begun, dot⟩
    refine ⟨_, ?_, by
      rw [qname_loop_label isLabel, start, List.length_append, List.length_singleton]⟩
    simp only [List.length_append, List.length_singleton, List.length_take]
    omega
  · have start : dotted room out = out := if_neg fun both => dot both.2
    have none_left : room - out.length = room - (out.length + 1) := by omega
    refine ⟨_, ?_, by rw [qname_loop_label isLabel, start, none_left]⟩
    rw [List.length_append, List.length_take]
    omega

theorem qname_loop_stop {room fuel : Nat} {tail : Bytes} (stops : readLabel tail = none)
    (enough : tail.length ≤ fuel) (out : Bytes) :
    parseDnsQnameLoop room fuel tail out =
      if tail.head?.getD 0 = 0 then some out else none := by
  cases tail with
  | nil => cases fuel <;> rfl
  | cons size rest =>
      cases fuel with
      | zero => simp at enough
      | succ fuel =>
          rw [parseDnsQnameLoop, List.head?_cons, Option.getD_some]
          by_cases zero : size = 0
          · rw [if_pos zero, if_pos zero]
          · rw [if_neg zero, if_neg zero]
            by_cases pointer : size &&& 0xC0 ≠ 0
            · rw [if_pos pointer]
            · have short : rest.length < size.toNat := by
                by_contra long
                rw [pointer_bits_iff] at pointer
                simp [readLabel, zero, pointer, long] at stops
              rw [if_neg pointer, if_pos short]

/-! ## Names without room -/

/-- Every byte in front of the first zero is the length of a label that would end inside
the datagram. -/
def readsThrough : Bytes → Bool
  | [] => true
  | size :: rest =>
      size == 0 || (decide (size.toNat < 64) && decide (size.toNat ≤ rest.length) &&
        readsThrough rest)

theorem qname_loop_full {room fuel : Nat} {bytes out : Bytes} (full : out.length = room)
    (enough : bytes.length ≤ fuel) :
    parseDnsQnameLoop room fuel bytes out = if readsThrough bytes then some out else none := by
  have start : dotted room out = out := if_neg fun both => Nat.ne_of_lt both.2 full
  induction fuel generalizing bytes with
  | zero =>
      have empty : bytes = [] := List.eq_nil_of_length_eq_zero (Nat.le_zero.mp enough)
      rw [empty]
      rfl
  | succ fuel induction =>
      cases bytes with
      | nil => rfl
      | cons size rest =>
          have less : rest.length ≤ fuel := Nat.le_of_succ_le_succ enough
          rw [parseDnsQnameLoop, readsThrough]
          by_cases zero : size = 0
          · simp [zero]
          · rw [if_neg zero]
            by_cases pointer : size &&& 0xC0 ≠ 0
            · have large : ¬ size.toNat < 64 := by
                rw [pointer_bits_iff] at pointer
                omega
              simp [pointer, large, zero]
            · have small : size.toNat < 64 := by
                rw [pointer_bits_iff] at pointer
                omega
              rw [if_neg pointer]
              by_cases short : rest.length < size.toNat
              · simp [short, zero]
              · rw [if_neg short]
                simp only [start, full, Nat.sub_self, Nat.min_zero, List.drop_zero,
                  List.take_zero, List.append_nil, induction less]
                simp [zero, small, Nat.le_of_not_lt short]

/-- The bytes from the one on that has no room, when the next label would start at a
position of the output. -/
def afterCut (room : Nat) : Nat → List Bytes → Bytes → Bytes
  | _, [], tail => tail
  | start, label :: labels, tail =>
      if start + label.length ≤ room then afterCut room (start + label.length + 1) labels tail
      else label.drop (room - start) ++ (encode labels ++ tail)

/-! ## Whole names -/

theorem qname_loop_fits {room fuel : Nat} {labels : List Bytes} {tail out : Bytes}
    (areLabels : AreLabels labels) (stops : readLabel tail = none)
    (enough : (encode labels ++ tail).length ≤ fuel) (begun : out ≠ [])
    (fits : (out ++ labels.flatMap (46 :: ·)).length ≤ room) :
    parseDnsQnameLoop room fuel (encode labels ++ tail) out =
      if tail.head?.getD 0 = 0 then some (out ++ labels.flatMap (46 :: ·)) else none := by
  induction labels generalizing fuel out with
  | nil =>
      rw [List.flatMap_nil, List.append_nil]
      exact qname_loop_stop stops enough out
  | cons label labels induction =>
      obtain ⟨isLabel, others⟩ := are_labels_cons.mp areLabels
      rw [encode_cons_append] at enough ⊢
      have joins : out ++ (label :: labels).flatMap (46 :: ·) =
          (out ++ 46 :: label) ++ labels.flatMap (46 :: ·) := by
        rw [List.flatMap_cons, List.append_assoc]
      rw [joins] at fits ⊢
      have here : out.length + 1 + label.length ≤ room := by
        rw [List.length_append, List.length_append, List.length_cons] at fits
        omega
      obtain ⟨less, rfl, behind⟩ := fuel_after_label enough
      rw [qname_loop_next isLabel begun here]
      apply induction others (by omega) _ fits
      simp

theorem qname_loop_overflows {room fuel : Nat} {labels : List Bytes} {tail out : Bytes}
    (areLabels : AreLabels labels) (enough : (encode labels ++ tail).length ≤ fuel)
    (begun : out ≠ []) (inside : out.length ≤ room)
    (overflows : room < (out ++ labels.flatMap (46 :: ·)).length) :
    ∃ full : Bytes, full.length = room ∧
      parseDnsQnameLoop room fuel (encode labels ++ tail) out =
        if readsThrough (afterCut room (out.length + 1) labels tail) then some full else none := by
  induction labels generalizing fuel out with
  | nil =>
      rw [List.flatMap_nil, List.append_nil] at overflows
      exact absurd inside (Nat.not_le_of_lt overflows)
  | cons label labels induction =>
      obtain ⟨isLabel, others⟩ := are_labels_cons.mp areLabels
      rw [encode_cons_append] at enough ⊢
      obtain ⟨less, rfl, behind⟩ := fuel_after_label enough
      by_cases here : out.length + 1 + label.length ≤ room
      · have length : (out ++ 46 :: label).length = out.length + 1 + label.length := by
          rw [List.length_append, List.length_cons]
          omega
        rw [qname_loop_next isLabel begun here, afterCut, if_pos here, ← length]
        apply induction others (by omega) (by simp) (by omega)
        rw [List.flatMap_cons, ← List.append_assoc] at overflows
        exact overflows
      · obtain ⟨full, filled, turn⟩ := @qname_loop_cut room less label out isLabel begun inside
          (Nat.lt_of_not_le here) (encode labels ++ tail)
        refine ⟨full, filled, ?_⟩
        rw [turn, afterCut, if_neg here]
        apply qname_loop_full filled
        rw [List.length_append, List.length_drop]
        omega

theorem qname_loop_name {room fuel : Nat} {labels : List Bytes} {tail : Bytes}
    (areLabels : AreLabels labels) (stops : readLabel tail = none)
    (enough : (encode labels ++ tail).length ≤ fuel) (fits : (joined labels).length ≤ room) :
    parseDnsQnameLoop room fuel (encode labels ++ tail) [] =
      if tail.head?.getD 0 = 0 then some (joined labels) else none := by
  cases labels with
  | nil => exact qname_loop_stop stops enough []
  | cons label labels =>
      obtain ⟨isLabel, others⟩ := are_labels_cons.mp areLabels
      rw [joined_cons] at fits ⊢
      rw [encode_cons_append] at enough ⊢
      have here : label.length ≤ room := by
        rw [List.length_append] at fits
        omega
      obtain ⟨less, rfl, behind⟩ := fuel_after_label enough
      rw [qname_loop_first isLabel here]
      exact qname_loop_fits others stops (by omega) (List.ne_nil_of_length_pos isLabel.1) fits

theorem qname_loop_overlong {room fuel : Nat} {labels : List Bytes} {tail : Bytes}
    (areLabels : AreLabels labels) (wide : 64 ≤ room)
    (enough : (encode labels ++ tail).length ≤ fuel) (overflows : room < (joined labels).length) :
    ∃ full : Bytes, full.length = room ∧
      parseDnsQnameLoop room fuel (encode labels ++ tail) [] =
        if readsThrough (afterCut room 0 labels tail) then some full else none := by
  cases labels with
  | nil => simp [joined] at overflows
  | cons label labels =>
      obtain ⟨isLabel, others⟩ := are_labels_cons.mp areLabels
      rw [joined_cons] at overflows
      rw [encode_cons_append] at enough ⊢
      have here : label.length ≤ room := Nat.le_of_lt (Nat.lt_of_lt_of_le isLabel.2 wide)
      have start : 0 + label.length ≤ room := by omega
      obtain ⟨less, rfl, behind⟩ := fuel_after_label enough
      rw [qname_loop_first isLabel here, afterCut, if_pos start, Nat.zero_add]
      exact qname_loop_overflows others (by omega) (List.ne_nil_of_length_pos isLabel.1) here
        overflows

section Question

variable (datagram : Bytes)

def questionLabels : List Bytes := (splitLabels (datagram.drop 12)).1

def questionTail : Bytes := (splitLabels (datagram.drop 12)).2

theorem question_labels : AreLabels (questionLabels datagram) :=
  (split_labels_sound _).1

theorem question_split :
    datagram.drop 12 = encode (questionLabels datagram) ++ questionTail datagram :=
  (split_labels_sound _).2.1

theorem question_stops : readLabel (questionTail datagram) = none :=
  (split_labels_sound _).2.2

theorem question_labels_short {datagram : Bytes} (short : datagram.length < 12) :
    questionLabels datagram = [] := by
  unfold questionLabels
  rw [List.drop_of_length_le (Nat.le_of_lt short)]
  rfl

theorem question_length :
    (encode (questionLabels datagram) ++ questionTail datagram).length ≤ datagram.length := by
  rw [← question_split, List.length_drop]
  omega

/-- A name with room is read if something closes it, be it the end of the datagram. -/
theorem parse_dns_qname_fits
    (fits : (joined (questionLabels datagram)).length < dnsFilterDomainLen) :
    parseDnsQname datagram dnsFilterDomainLen =
      if questionLabels datagram ≠ [] ∧ (questionTail datagram).head?.getD 0 = 0 then
        some (CString.lower (joined (questionLabels datagram) ++ [0]))
      else none := by
  unfold parseDnsQname
  by_cases short : datagram.length < 12
  · rw [if_pos (.inl short), if_neg fun both => both.1 (question_labels_short short)]
  · have whole : ¬ (datagram.length < 12 ∨ dnsFilterDomainLen = 0) := by
      rintro (less | zero)
      · exact short less
      · exact absurd zero (by decide)
    rw [if_neg whole, question_split, qname_loop_name (question_labels datagram)
      (question_stops datagram) (question_length datagram) (Nat.le_sub_one_of_lt fits)]
    by_cases closed : (questionTail datagram).head?.getD 0 = 0
    · rw [if_pos closed]
      have empty_iff : joined (questionLabels datagram) = [] ↔ questionLabels datagram = [] :=
        joined_eq_nil_iff (question_labels datagram)
      by_cases empty : questionLabels datagram = []
      · rw [if_neg fun both => both.1 empty]
        simp only [if_pos (empty_iff.mpr empty)]
      · rw [if_pos ⟨empty, closed⟩]
        simp only [if_neg fun nothing => empty (empty_iff.mp nothing)]
    · rw [if_neg closed, if_neg fun both => closed both.2]

theorem parse_dns_qname_overlong
    (overlong : dnsFilterDomainLen ≤ (joined (questionLabels datagram)).length) :
    ∃ out, parseDnsQname datagram dnsFilterDomainLen =
      if readsThrough (afterCut (dnsFilterDomainLen - 1) 0 (questionLabels datagram)
        (questionTail datagram)) then some out
      else none := by
  have whole : ¬ (datagram.length < 12 ∨ dnsFilterDomainLen = 0) := by
    rintro (less | zero)
    · rw [question_labels_short less] at overlong
      exact absurd overlong (by decide)
    · exact absurd zero (by decide)
  obtain ⟨full, filled, read⟩ := qname_loop_overlong (question_labels datagram)
    (by decide : 64 ≤ dnsFilterDomainLen - 1) (question_length datagram)
    (Nat.lt_of_lt_of_le (by decide) overlong)
  have nonempty : full ≠ [] := by
    rintro rfl
    exact absurd filled (by decide)
  refine ⟨CString.lower (full ++ [0]), ?_⟩
  unfold parseDnsQname
  rw [if_neg whole, question_split, read]
  by_cases through : readsThrough (afterCut (dnsFilterDomainLen - 1) 0 (questionLabels datagram)
      (questionTail datagram)) = true
  · rw [if_pos through, if_pos through]
    simp only [if_neg nonempty]
  · rw [if_neg through, if_neg through]

/-! ## Exact names -/

/-- The labels up to the zero-length one are the name the datagram asks for. -/
structure QuestionName (labels : List Bytes) : Prop where
  areLabels : AreLabels labels
  clean : ∀ label ∈ labels, 0 ∉ label
  closed : ∃ rest, datagram.drop 12 = encode labels ++ 0 :: rest

/-- What is read is the name, and a datagram without a name that fits is refused. -/
structure QnameExact : Prop where
  output : ∀ out, parseDnsQname datagram dnsFilterDomainLen = some out →
    ∃ labels, QuestionName datagram labels ∧
      CString.text out = (joined labels).map CString.toLower
  refused : (∀ labels, QuestionName datagram labels →
      dnsFilterDomainLen ≤ (joined labels).length) →
    parseDnsQname datagram dnsFilterDomainLen = none

/-- The labels run to the end of the datagram. -/
def Unterminated : Prop :=
  questionLabels datagram ≠ [] ∧ questionTail datagram = [] ∧
    (joined (questionLabels datagram)).length < dnsFilterDomainLen

def NulInName : Prop :=
  (∃ label ∈ questionLabels datagram, 0 ∈ label) ∧ (questionTail datagram).head? = some 0 ∧
    (joined (questionLabels datagram)).length < dnsFilterDomainLen

/-- The labels have no room, and nothing is refused behind the last byte with room. -/
def OverlongThrough : Prop :=
  dnsFilterDomainLen ≤ (joined (questionLabels datagram)).length ∧
    readsThrough (afterCut (dnsFilterDomainLen - 1) 0 (questionLabels datagram)
      (questionTail datagram)) = true

variable {datagram}

theorem QuestionName.split {labels : List Bytes} (name : QuestionName datagram labels) :
    questionLabels datagram = labels ∧ (questionTail datagram).head? = some 0 := by
  obtain ⟨rest, closed⟩ := name.closed
  have stops : readLabel (0 :: rest) = none := by simp [readLabel]
  unfold questionLabels questionTail
  rw [closed, split_labels_encode name.areLabels stops]
  exact ⟨rfl, rfl⟩

theorem question_name_of_closed (closed : (questionTail datagram).head? = some 0)
    (clean : ∀ label ∈ questionLabels datagram, 0 ∉ label) :
    QuestionName datagram (questionLabels datagram) := by
  obtain ⟨rest, tail⟩ := List.head?_eq_some_iff.mp closed
  apply QuestionName.mk (question_labels datagram) clean
  exact ⟨rest, by rw [← tail]; exact question_split datagram⟩

theorem text_lower_joined {labels : List Bytes} (clean : ∀ label ∈ labels, 0 ∉ label) :
    CString.text (CString.lower (joined labels ++ [0])) =
      (joined labels).map CString.toLower := by
  have whole : ∀ byte ∈ joined labels, byte ≠ 0 := by
    rintro byte member rfl
    rcases mem_joined member with dot | ⟨label, inside, zero⟩
    · exact absurd dot (by decide)
    · exact clean label inside zero
  rw [CString.text_lower, CString.text_append_zero whole]

theorem QnameExact.terminated (exactness : QnameExact datagram) : ¬ Unterminated datagram := by
  rintro ⟨some_label, ends, fits⟩
  have read := parse_dns_qname_fits datagram fits
  rw [if_pos ⟨some_label, by rw [ends]; rfl⟩] at read
  obtain ⟨labels, name, -⟩ := exactness.output _ read
  have closed := name.split.2
  rw [ends] at closed
  simp at closed

theorem QnameExact.no_nul (exactness : QnameExact datagram) : ¬ NulInName datagram := by
  rintro ⟨⟨label, inside, zero⟩, closed, fits⟩
  have read := parse_dns_qname_fits datagram fits
  rw [if_pos ⟨List.ne_nil_of_mem inside, by rw [closed]; rfl⟩] at read
  obtain ⟨labels, name, -⟩ := exactness.output _ read
  rw [name.split.1] at inside
  exact name.clean label inside zero

theorem QnameExact.not_through (exactness : QnameExact datagram) :
    ¬ OverlongThrough datagram := by
  rintro ⟨overlong, through⟩
  obtain ⟨out, read⟩ := parse_dns_qname_overlong datagram overlong
  rw [if_pos through] at read
  have refused := exactness.refused fun labels name => by
    rw [← name.split.1]
    exact overlong
  rw [read] at refused
  simp at refused

/-- Whatever is read, apart from the three kinds, is a name that fits. -/
theorem parse_dns_qname_sound {out : Bytes} (terminated : ¬ Unterminated datagram)
    (noNul : ¬ NulInName datagram) (notThrough : ¬ OverlongThrough datagram)
    (read : parseDnsQname datagram dnsFilterDomainLen = some out) :
    QuestionName datagram (questionLabels datagram) ∧
      (joined (questionLabels datagram)).length < dnsFilterDomainLen ∧
      CString.text out = (joined (questionLabels datagram)).map CString.toLower := by
  have fits : (joined (questionLabels datagram)).length < dnsFilterDomainLen := by
    by_contra overlong
    obtain ⟨other, refused⟩ := parse_dns_qname_overlong datagram (Nat.le_of_not_lt overlong)
    rw [if_neg fun through => notThrough ⟨Nat.le_of_not_lt overlong, through⟩, read] at refused
    simp at refused
  rw [parse_dns_qname_fits datagram fits] at read
  by_cases accepted : questionLabels datagram ≠ [] ∧
      (questionTail datagram).head?.getD 0 = 0
  · rw [if_pos accepted] at read
    have closed : (questionTail datagram).head? = some 0 := by
      cases tail : questionTail datagram with
      | nil => exact absurd ⟨accepted.1, tail, fits⟩ terminated
      | cons size rest =>
          have zero := accepted.2
          rw [tail] at zero
          exact congrArg some zero
    have clean : ∀ label ∈ questionLabels datagram, 0 ∉ label := by
      intro label inside zero
      exact noNul ⟨⟨label, inside, zero⟩, closed, fits⟩
    rw [← Option.some.inj read]
    exact ⟨question_name_of_closed closed clean, fits, text_lower_joined clean⟩
  · rw [if_neg accepted] at read
    simp at read

variable (datagram)

theorem qname_exact_iff :
    QnameExact datagram ↔
      ¬ Unterminated datagram ∧ ¬ NulInName datagram ∧ ¬ OverlongThrough datagram := by
  constructor
  · intro exactness
    exact ⟨exactness.terminated, exactness.no_nul, exactness.not_through⟩
  · rintro ⟨terminated, noNul, notThrough⟩
    constructor
    · intro out read
      obtain ⟨name, -, text⟩ := parse_dns_qname_sound terminated noNul notThrough read
      exact ⟨_, name, text⟩
    · intro unfit
      cases read : parseDnsQname datagram dnsFilterDomainLen with
      | none => rfl
      | some out =>
          obtain ⟨name, fits, -⟩ := parse_dns_qname_sound terminated noNul notThrough read
          exact absurd (unfit _ name) (Nat.not_le_of_lt fits)

end Question

def unterminatedQuery : Bytes := List.replicate 12 0 ++ [3, 97, 100, 115]

theorem unterminated_query_read :
    parseDnsQname unterminatedQuery dnsFilterDomainLen = some [97, 100, 115, 0] ∧
      ¬ QnameExact unterminatedQuery := by
  constructor
  · decide +kernel
  · intro exactness
    apply exactness.terminated
    exact ⟨by decide, by decide, by decide⟩

end BlindNet
