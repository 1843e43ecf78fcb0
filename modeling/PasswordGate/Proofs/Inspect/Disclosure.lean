import PasswordGate.Inspect.Command
import PasswordGate.Proofs.Device.Agreement
import PasswordGate.Proofs.Inspect.Arguments
import PasswordGate.Proofs.Inspect.HexText
/-!
# Disclosure — when a run of the tool tells two passwords apart

A request is written out as hex, anything may be pasted behind it, and the tool is run on the whole.  If what follows
spells octets, the tool shows the request's snapshot, in which a password is its length alone; if an odd number of digits
follows, a fixed complaint.  Any other text is quoted in the complaint as it stands, and the request with it
(`run_request_eq_iff`).
-/
namespace PasswordGate

namespace Operation

/-- The name of a request on the command line. -/
def kindName : Operation → String
  | enroll => "enroll-request"
  | verify => "verify-request"

theorem lookup_kindName (operation : Operation) : Kind.table.lookup operation.kindName = some operation.request := by
  cases operation <;> decide

theorem kindName_mem (operation : Operation) : operation.kindName ∈ Command.kinds := by
  rw [Command.kinds, List.mem_mergeSort]
  cases operation <;> decide

theorem plain_kindName (operation : Operation) : Arguments.Plain operation.kindName := by
  cases operation <;> decide

variable {operation : Operation} {userId : Nat} {handle password other : Bytes}

/-- A request that fits is decoded as what it says, whatever follows it. -/
theorem deserialize_message (hfits : (operation.message userId handle password).Fits) (rest : Bytes) :
    (Envelope.blank operation.request).deserialize ((operation.message userId handle password).wire ++ rest) none
      Field.maxLength = .ok (operation.message userId handle password) :=
  Envelope.deserialize_wire_append rfl hfits Verdict.blank_message.1 Verdict.blank_message.2
    (fun content hc => Int.ofNat_le.2 (hfits.length_le content hc)) rest

theorem length_wire_message (hlength : password.length = other.length) :
    (operation.message userId handle password).wire.length = (operation.message userId handle other).wire.length := by
  cases operation <;> simp [Envelope.wire, message, fields, Field.wires, Field.wire, Word.bytes, hlength]

/-- **A password is told by the wire form of its request.** -/
theorem password_eq_of_wire (hfits : (operation.message userId handle password).Fits)
    (hother : (operation.message userId handle other).Fits)
    (h : (operation.message userId handle password).wire = (operation.message userId handle other).wire) :
    password = other := by
  have hdecode := deserialize_message hfits []
  rw [h, deserialize_message hother []] at hdecode
  have hpassword := congrArg (Authenticator.fieldOf · passwordField) (Except.ok.inj hdecode)
  rw [Verdict.password_message, Verdict.password_message] at hpassword
  exact hpassword.symm

end Operation

namespace Snapshot

variable {operation : Operation} {userId : Nat} {handle password other : Bytes}

/-- **A snapshot shows the length of a password alone.** -/
theorem ofEnvelope_message (hlength : password.length = other.length) (name : String) (rawLength : Nat) :
    ofEnvelope name rawLength (operation.message userId handle password) =
      ofEnvelope name rawLength (operation.message userId handle other) := by
  cases operation <;>
    simp [ofEnvelope, Operation.message, Operation.fields, Operation.request, Kind.enrollRequest, Kind.verifyRequest,
      FieldSnapshot.of, FieldSnapshot.lengthOnly, hlength]

/-- **A request is summarised** whatever follows it. -/
theorem build_message (hfits : (operation.message userId handle password).Fits) (rest : Bytes) :
    build operation.kindName ((operation.message userId handle password).wire ++ rest) =
      .ok (ofEnvelope operation.kindName ((operation.message userId handle password).wire ++ rest).length
        (operation.message userId handle password)) := by
  unfold build
  rw [operation.lookup_kindName]
  dsimp only
  rw [Operation.deserialize_message hfits rest]

end Snapshot

namespace Command

open Arguments (words)

variable {operation : Operation} {userId : Nat} {handle password other : Bytes}

/-- **A run on a kind and a text** carries out the request that they make. -/
theorem run_positionals {name text : String} (hname : name ∈ kinds) (hplain : Arguments.Plain name)
    (htext : Arguments.Plain text) (place : Option (Fin 3)) :
    run (words name text place) = execute { kind := name, text := text, json := place.isSome } := by
  unfold run
  rw [Arguments.parse_words hname hplain htext place]

theorem run_words (operation : Operation) {text : String} (htext : Arguments.Plain text) (place : Option (Fin 3)) :
    run (words operation.kindName text place) =
      execute { kind := operation.kindName, text := text, json := place.isSome } :=
  run_positionals operation.kindName_mem operation.plain_kindName htext place

/-- The hex of some octets with a text pasted behind it. -/
def pasted (data : Bytes) (suffix : String) : String := Hex.text data ++ suffix

theorem plain_pasted (operation : Operation) (userId : Nat) (handle password : Bytes) (suffix : String) :
    Arguments.Plain (pasted (operation.message userId handle password).wire suffix) := by
  unfold Arguments.Plain pasted
  rw [String.toList_append, Hex.text, String.toList_ofList]
  exact fun h => by cases h

/-- **What the tool makes of a request with a text behind it**, by what the text spells. -/
theorem execute_pasted (hfits : (operation.message userId handle password).Fits) (suffix : String) (json : Bool) :
    execute { kind := operation.kindName, text := pasted (operation.message userId handle password).wire suffix
              json := json } =
      if (HexText.compact suffix.toList).length % 2 = 1 then
        .ok { exit := 2, stderr := "error: " ++ HexError.oddLength.message ++ "\n" }
      else
        match Hex.decode (HexText.compact suffix.toList) with
        | some rest =>
          let s := Snapshot.ofEnvelope operation.kindName
            ((operation.message userId handle password).wire ++ rest).length (operation.message userId handle password)
          .ok { exit := 0, stdout := (if json then s.json else s.render) ++ "\n" }
        | none =>
          .ok { exit := 2
                stderr := "error: " ++
                  (HexError.notHex (pasted (operation.message userId handle password).wire suffix)
                    ((HexText.failure? (Hex.encode (operation.message userId handle password).wire ++
                      HexText.compact suffix.toList)).getD 0)).message ++ "\n" } := by
  have hparse := HexText.parse_text_append (operation.message userId handle password).wire.tail suffix
  have hwire : 0 :: (operation.message userId handle password).wire.tail =
      (operation.message userId handle password).wire := rfl
  rw [hwire] at hparse
  unfold execute pasted
  dsimp only
  rw [hparse]
  by_cases hodd : (HexText.compact suffix.toList).length % 2 = 1
  · rw [if_pos hodd, if_pos hodd]
  · rw [if_neg hodd, if_neg hodd]
    cases Hex.decode (HexText.compact suffix.toList) with
    | none => rfl
    | some rest =>
      dsimp only
      rw [Snapshot.build_message hfits rest]
      rfl

theorem length_pasted (hlength : password.length = other.length) (suffix : String) :
    (pasted (operation.message userId handle password).wire suffix).toList.length =
      (pasted (operation.message userId handle other).wire suffix).toList.length := by
  simp only [pasted, Hex.text, String.toList_append, String.toList_ofList, List.length_append, Hex.length_encode,
    Operation.length_wire_message hlength]

theorem pasted_injective {data data' : Bytes} {suffix : String} (h : pasted data suffix = pasted data' suffix) :
    data = data' :=
  Hex.encode_injective (String.ofList_inj.1 ((String.append_left_inj suffix).1 h))

theorem middle_eq_of_append_eq {before text text' after after' : String}
    (hlength : text.toList.length = text'.toList.length) (h : before ++ text ++ after = before ++ text' ++ after') :
    text = text' := by
  have hchars := congrArg String.toList h
  simp only [String.toList_append, List.append_assoc, List.append_cancel_left_eq] at hchars
  exact String.toList_inj.1 (List.append_inj hchars hlength).1

/-- **Two texts of one length are told apart by the complaints that quote them.** -/
theorem raw_eq_of_message {raw raw' : String} {position position' : Nat}
    (hlength : raw.toList.length = raw'.toList.length)
    (h : (HexError.notHex raw position).message = (HexError.notHex raw' position').message) : raw = raw' := by
  unfold HexError.message at h
  exact middle_eq_of_append_eq hlength h

/-- **When the tool tells two passwords apart.**  A request is written out as hex, anything is pasted behind it, and the
tool is run on the whole, with the option for JSON anywhere or without it.  The run ends with an exit code; and for two
passwords of one length it ends alike exactly when what is pasted, white space apart, is an odd number of characters or
hexadecimal digits alone: else the request is quoted as it is. -/
theorem run_request_eq_iff (operation : Operation) (userId : Nat) (handle password other data data' : Bytes)
    (suffix : String) (place : Option (Fin 3)) (hlength : password.length = other.length)
    (hdata : (operation.message userId handle password).encode = .ok data)
    (hdata' : (operation.message userId handle other).encode = .ok data') :
    (∃ outcome, run (words operation.kindName (pasted data suffix) place) = .ok outcome) ∧
    (run (words operation.kindName (pasted data suffix) place) =
        run (words operation.kindName (pasted data' suffix) place) ↔
      password = other ∨ (HexText.compact suffix.toList).length % 2 = 1 ∨
        ∀ c ∈ HexText.compact suffix.toList, (Hex.nibble? c).isSome) := by
  obtain ⟨hfits, rfl⟩ := (Envelope.encode_eq_ok_iff rfl).1 hdata
  obtain ⟨hother, rfl⟩ := (Envelope.encode_eq_ok_iff rfl).1 hdata'
  have hrun := (run_words operation (plain_pasted operation userId handle password suffix) place).trans
    (execute_pasted hfits suffix place.isSome)
  have hrun' := (run_words operation (plain_pasted operation userId handle other suffix) place).trans
    (execute_pasted hother suffix place.isSome)
  by_cases hodd : (HexText.compact suffix.toList).length % 2 = 1
  · rw [if_pos hodd] at hrun hrun'
    exact ⟨⟨_, hrun⟩, iff_of_true (hrun.trans hrun'.symm) (.inr (.inl hodd))⟩
  rw [if_neg hodd] at hrun hrun'
  have hspells := Hex.decode_isSome_iff (HexText.compact suffix.toList)
  cases hdecode : Hex.decode (HexText.compact suffix.toList) with
  | some rest =>
    rw [hdecode] at hrun hrun' hspells
    dsimp only at hrun hrun'
    rw [List.length_append, ← Operation.length_wire_message hlength, ← List.length_append,
      ← Snapshot.ofEnvelope_message hlength] at hrun'
    exact ⟨⟨_, hrun⟩, iff_of_true (hrun.trans hrun'.symm) (.inr (.inr (hspells.1 rfl).2))⟩
  | none =>
    rw [hdecode] at hrun hrun' hspells
    refine ⟨⟨_, hrun⟩, ?_⟩
    constructor
    · intro h
      rw [hrun, hrun'] at h
      have hstderr := congrArg Outcome.stderr (Except.ok.inj h)
      have hmessage := (String.append_right_inj _).1 ((String.append_left_inj _).1 hstderr)
      have hraw := raw_eq_of_message (length_pasted hlength suffix) hmessage
      exact .inl (Operation.password_eq_of_wire hfits hother (pasted_injective hraw))
    · rintro (rfl | hodd' | hhex)
      · rfl
      · exact absurd hodd' hodd
      · exact absurd (hspells.2 ⟨by omega, hhex⟩) (by simp)

theorem run_request_eq_of_digits :
    run ["--json", "verify-request", "0000000007000000010000000901000000" ++ "61" ++ " 7 f"] =
      run ["--json", "verify-request", "0000000007000000010000000901000000" ++ "62" ++ " 7 f"] :=
  (run_request_eq_iff .verify 7 [9] [0x61] [0x62] [0, 0, 0, 0, 7, 0, 0, 0, 1, 0, 0, 0, 9, 1, 0, 0, 0, 0x61]
    [0, 0, 0, 0, 7, 0, 0, 0, 1, 0, 0, 0, 9, 1, 0, 0, 0, 0x62] " 7 f" (some 0) rfl rfl rfl).2.2
    (.inr (.inr ((Hex.decode_isSome_iff _).1 rfl).2))

/-- A password is quoted with the text that follows it. -/
theorem run_quotes_password :
    run ["enroll-request", "00000000070000000100000061zz"] ≠ run ["enroll-request", "00000000070000000100000062zz"] := by
  have hrun (text : String) (htext : Arguments.Plain text) : run ["enroll-request", text] =
      execute { kind := "enroll-request", text := text, json := false } := run_words .enroll htext none
  rw [hrun _ (by decide), hrun _ (by decide)]
  exact fun h => absurd (congrArg Except.toOption h) (by decide +kernel)

end Command
end PasswordGate
