import Questionnaire.Proofs.Json.Ordered
import Questionnaire.Proofs.Json.Parsed
import Questionnaire.Proofs.Session.Verdict
import Questionnaire.Proofs.Text.Bytes
import Questionnaire.Submission.Basic

/-
  What is sent to a webhook says the answers and nothing else.

  Key definitions include:
    * `Printable`

  No answer can take the place of the status or of the time, and
  the text that is sent is read as the payload again, its names
  in the order of their bytes (`body_says_payload`).
-/

------------------------------------------------------------
-- Texts without Controls
------------------------------------------------------------

namespace Questionnaire

namespace Json

/- A text without control characters. -/
def Printable
    (text : List Char) : Prop :=
  ∀ c ∈ text, 0x20 ≤ c.toNat

instance
    (text : List Char) : Decidable (Printable text) :=
  List.decidableBAll _ text

theorem printable_append
    {before after : List Char}
    (hBefore : Printable before)
    (hAfter : Printable after) :
    Printable (before ++ after) := by
  intro c hMem
  rcases List.mem_append.mp hMem with hMem | hMem
  · exact hBefore c hMem
  · exact hAfter c hMem

theorem printable_cons
    {c : Char}
    {text : List Char}
    (hChar : 0x20 ≤ c.toNat)
    (hText : Printable text) :
    Printable (c :: text) := by
  intro d hMem
  rcases List.mem_cons.mp hMem with hEq | hMem
  · rw [hEq]
    exact hChar
  · exact hText d hMem

theorem printable_flatMap
    {α : Type}
    {parts : List α}
    {written : α → List Char}
    (hParts : ∀ part ∈ parts, Printable (written part)) :
    Printable (parts.flatMap written) := by
  intro c hMem
  rcases List.mem_flatMap.mp hMem with ⟨part, hPart, hChar⟩
  exact hParts part hPart c hChar

/- The spelling of a character is made of letters and digits. -/
theorem printable_spelled
    (c : Char) :
    Printable (spelled c) := by
  have hDigit (n : Nat) : 0x20 ≤ (hexDigit (n % 16)).toNat := by
    have hAll : ∀ n : Fin 16, 0x20 ≤ (hexDigit n).toNat := by
      decide
    exact hAll ⟨n % 16, Nat.mod_lt n (by decide)⟩
  refine printable_cons (by decide) (printable_cons (by decide) ?_)
  refine printable_cons (hDigit _) (printable_cons (hDigit _) ?_)
  exact printable_cons (hDigit _)
    (printable_cons (hDigit _) (fun _ hMem => absurd hMem nofun))

/- Control characters are escaped. -/
theorem printable_escapedChar
    (c : Char) :
    Printable (escapedChar c) := by
  unfold escapedChar
  split
  case h_8 =>
    split
    case isTrue => exact printable_spelled _
    case isFalse hPlain =>
      exact printable_cons (Nat.not_lt.mp hPlain)
        (fun _ hMem => absurd hMem nofun)
  all_goals decide

theorem printable_writtenString
    (text : String) :
    Printable (writtenString text) := by
  refine printable_append (printable_cons (by decide) ?_) (by decide)
  exact printable_flatMap (fun c _ => printable_escapedChar c)

theorem printable_number
    (value : Int) :
    Printable (Number.text (.integer value)).toList := by
  have hDigits :
      Printable (Nat.toDigits 10 value.natAbs) := by
    intro c hMem
    have hDigit : c.isDigit = true :=
      Nat.isDigit_of_mem_toDigits (by decide) (by decide) hMem
    have hBounds : 0x30 ≤ c.toNat ∧ c.toNat ≤ 0x39 :=
      Char.isDigit_iff_toNat.mp hDigit
    omega
  rw [Reader.toList_text_integer]
  split
  · exact printable_cons (by decide) hDigits
  · exact hDigits

/- A value on one line has no control characters. -/
theorem Fits.printable
    {depth : Nat}
    {value : Json}
    (hFits : value.Fits depth) :
    Printable value.compactChars := by
  induction hFits with
  | null => decide
  | bool value => cases value with
    | true => decide
    | false => decide
  | integer _ => exact printable_number _
  | string value => exact printable_writtenString value
  | @array depth items fits ih =>
      rw [compactChars]
      refine printable_append (printable_cons (by decide) ?_)
        (by decide)
      cases items with
      | nil => decide
      | cons item items =>
          rw [compactItems_cons]
          refine printable_append (ih item List.mem_cons_self)
            (printable_flatMap (fun other hOther => ?_))
          exact printable_cons (by decide)
            (ih other (List.mem_cons_of_mem _ hOther))
  | @object depth members fits ih =>
      have hMember (member) (hMember : member ∈ members) :
          Printable
            (writtenString member.1
              ++ ':' :: compactChars member.2) :=
        printable_append (printable_writtenString member.1)
          (printable_cons (by decide) (ih member hMember))
      rw [compactChars]
      refine printable_append (printable_cons (by decide) ?_)
        (by decide)
      cases members with
      | nil => decide
      | cons member members =>
          rw [compactMembers_cons]
          refine printable_append (hMember member List.mem_cons_self)
            (printable_flatMap (fun other hOther => ?_))
          exact printable_cons (by decide)
            (hMember other (List.mem_cons_of_mem _ hOther))

end Json

end Questionnaire

------------------------------------------------------------
-- The Payload as a Value
------------------------------------------------------------

namespace Questionnaire

namespace Submission

variable {submission : Submission}

/- The members of the payload, each with its text. -/
def members
    (submission : Submission) : List (String × Json) :=
  submission.payload.rows.map (fun (id, text) => (id, .string text))

/- They are the entries of the payload. -/
theorem mem_members_iff
    {id : String}
    {value : Json} :
    (id, value) ∈ submission.members ↔
      ∃ text,
        submission.payload.get? id = some text ∧
          value = .string text := by
  have hDistinct := submission.payload.ascending.nodup_keys
  simp only [members, List.mem_map, Table.get?]
  constructor
  · rintro ⟨⟨key, text⟩, hRow, hEq⟩
    rcases Prod.mk.inj hEq with ⟨hKey, hValue⟩
    rw [← hKey]
    exact ⟨text, (lookup_eq_some_iff_mem hDistinct).mpr hRow,
      hValue.symm⟩
  · rintro ⟨text, hRow, hValue⟩
    rw [hValue]
    exact ⟨(id, text), (lookup_eq_some_iff_mem hDistinct).mp hRow,
      rfl⟩

/- Their names ascend. -/
theorem ascending_members
    (submission : Submission) :
    Ascending submission.members :=
  List.pairwise_map.mpr submission.payload.ascending

/- So putting them in order changes nothing. -/
theorem payloadJson_inKeyOrder
    (submission : Submission) :
    submission.payloadJson.inKeyOrder = submission.payloadJson := by
  have hTexts :
      membersInKeyOrder submission.members = submission.members := by
    rw [membersInKeyOrder_eq_map, members, List.map_map]
    rfl
  have hRows := Table.rows_ofList submission.ascending_members
  have hJson : submission.payloadJson = .object submission.members :=
    rfl
  rw [hJson, Json.inKeyOrder, hTexts, hRows]

/- The payload is an object of texts. -/
theorem fits_payloadJson
    (submission : Submission) :
    submission.payloadJson.Fits Json.depthLimit := by
  have hFits : submission.payloadJson.Fits 1 := by
    refine .object (fun member hMember => ?_)
    rcases List.mem_map.mp hMember with ⟨row, _, hEq⟩
    rw [← hEq]
    exact .string row.2
  exact hFits.mono (by decide)

/- The names of its members are in the order of their bytes. -/
theorem members_in_byte_order
    (submission : Submission) :
    submission.members.Pairwise
      (fun before after =>
        Text.bytes before.1 < Text.bytes after.1) :=
  submission.ascending_members.imp Text.bytes_lt_of_lt

/- The body is read as the payload again. -/
theorem parse_body
    (submission : Submission) :
    Json.parseWritten submission.body =
        .ok (.object submission.members) ∧
      Json.parse submission.body =
        .ok (.object submission.members) := by
  have hFits := submission.fits_payloadJson
  refine ⟨Json.parseWritten_compact hFits, ?_⟩
  rw [body, Json.parse_compact hFits,
    submission.payloadJson_inKeyOrder]
  rfl

/- It is a text on one line. -/
theorem printable_body
    (submission : Submission) :
    Json.Printable submission.body.toList := by
  rw [body, Json.compact, String.toList_ofList]
  exact submission.fits_payloadJson.printable

end Submission

end Questionnaire

------------------------------------------------------------
-- The Body of a Submission
------------------------------------------------------------

namespace Questionnaire

namespace Submission

/- An entry is the status, the time or an answer that is given. -/
theorem payload_make_iff
    (status : Status)
    (targets : Targets)
    (answers : Answers)
    (now : Instant)
    (id text : String) :
    (make status targets answers now).payload.get? id = some text ↔
      (id = "status" ∧ text = status.name) ∨
        (id = "submittedAt" ∧ text = now.text) ∨
          (id ≠ "status" ∧ id ≠ "submittedAt" ∧
            answers.get? id = some text ∧ text ≠ "") := by
  have hPayload :=
    (carries_make status targets answers now).payload id
  rw [hPayload]
  by_cases hTime : id = "submittedAt"
  case pos =>
    rw [if_pos hTime, hTime]
    simp [eq_comm]
  case neg =>
    rw [if_neg hTime]
    by_cases hStatus : id = "status"
    case pos =>
      rw [if_pos hStatus, hStatus]
      simp [make, eq_comm]
    case neg =>
      rw [if_neg hStatus]
      simp [hTime, hStatus, Option.filter_eq_some_iff]

end Submission

/-
  The payload has the status and the time, whatever the answers
  are named, and of the other answers those that are not empty.
  What is sent is a text without control characters that is
  read as the payload again; it has its members in the order of
  the bytes of their names, and none of them twice.
-/
theorem body_says_payload
    (status : Status)
    (targets : Targets)
    (answers : Answers)
    (now : Instant) :
    let submission := Submission.make status targets answers now
    (∀ id text,
      submission.payload.get? id = some text ↔
        (id = "status" ∧
            text =
              match status with
              | .qualified => "qualificado"
              | .disqualified => "desqualificado") ∨
          (id = "submittedAt" ∧ text = now.text) ∨
            (id ≠ "status" ∧ id ≠ "submittedAt" ∧
              answers.get? id = some text ∧ text ≠ "")) ∧
      (∀ c ∈ submission.body.toList, 0x20 ≤ c.toNat) ∧
      ∃ members : List (String × Json),
        Json.parseWritten submission.body = .ok (.object members) ∧
          Json.parse submission.body = .ok (.object members) ∧
          (∀ id value,
            (id, value) ∈ members ↔
              ∃ text,
                submission.payload.get? id = some text ∧
                  value = .string text) ∧
          members.Pairwise
            (fun before after =>
              before.1.toUTF8.data.toList <
                after.1.toUTF8.data.toList) := by
  intro submission
  have hStatus :
      status.name =
        match status with
        | .qualified => "qualificado"
        | .disqualified => "desqualificado" := by
    cases status with
    | qualified => rfl
    | disqualified => rfl
  have hParse := submission.parse_body
  refine ⟨fun id text => ?_, submission.printable_body,
    submission.members, hParse.1, hParse.2, fun id value => ?_, ?_⟩
  · rw [← hStatus]
    exact
      Submission.payload_make_iff status targets answers now id text
  · exact Submission.mem_members_iff
  · exact submission.members_in_byte_order

/- Answers that are named like the status and the time. -/
def impostors : Answers :=
  .ofList [
    ("status", "desqualificado"), ("submittedAt", "never"),
    ("say \"hi\"", "two\nlines \\ é"), ("silent", "")]

/- Addresses that nothing is sent to. -/
def noTargets : Targets :=
  ⟨⟨"", ""⟩, ⟨"", ""⟩⟩

/- They do not take their place. -/
theorem impostors_left_out :
    let submission :=
      Submission.make .qualified noTargets impostors ⟨0, 0⟩
    submission.payload.get? "status" = some "qualificado" ∧
      submission.body =
        "\x7b\"say \\\"hi\\\"\":\"two\\nlines \\\\ é\","
          ++ "\"status\":\"qualificado\","
          ++ "\"submittedAt\":\"1970-01-01T00:00:00.000Z\"\x7d" := by
  have hSays :=
    body_says_payload .qualified noTargets impostors ⟨0, 0⟩
  refine ⟨(hSays.1 _ _).mpr (.inl ⟨rfl, rfl⟩), ?_⟩
  decide +kernel

end Questionnaire
