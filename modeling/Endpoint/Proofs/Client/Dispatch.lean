import Endpoint.Proofs.Client.Race
import Mathlib.Data.List.Induction

/-!
Drafts put together by any calls and sent: of each kind of call the last one counts, and of the
errors that a request can end with the earliest.
-/

namespace Endpoint.Client

variable {Value : Type} {Form : Type → Type}

/-- The value of a call that sets the body. -/
def Amendment.value? : Amendment Value → Option Value
  | .body value => some value
  | .cancellation _ => none

/-- The source of a call that sets the token. -/
def Amendment.source? : Amendment Value → Option CancellationSource
  | .body _ => none
  | .cancellation source => some source

/-- What is sent for a value, or without one. -/
def Codec.payload (codec : Codec Value Form) : Option Value → Except ClientError (Option Payload)
  | none => .ok none
  | some value => (codec.encode value).map fun bytes => some ⟨bytes, codec.contentType⟩

/-- The payload holds the value as the codec writes it; without a value there is none. -/
inductive Codec.Writes (codec : Codec Value Form) : Option Value → Option Payload → Prop
  | nothing : codec.Writes none none
  | bytes {value : Value} {bytes : List UInt8} (encoded : codec.encode value = .ok bytes) :
      codec.Writes (some value) (some ⟨bytes, codec.contentType⟩)

/-- A value has a payload, or its encoding fails. -/
theorem Codec.payload_cases (codec : Codec Value Form) (value : Option Value) :
    (∃ error, value.map codec.encode = some (.error error) ∧
        codec.payload value = .error error) ∨
      ∃ payload, codec.Writes value payload ∧ codec.payload value = .ok payload := by
  cases value with
  | none => exact .inr ⟨none, .nothing, rfl⟩
  | some value =>
    cases encoded : codec.encode value with
    | error error =>
      exact .inl ⟨error, congrArg some encoded, by rw [Codec.payload, encoded]; rfl⟩
    | ok bytes => exact .inr ⟨_, .bytes encoded, by rw [Codec.payload, encoded]; rfl⟩

/-- Of the calls that set the body, and of those that set the token, the last one counts. -/
theorem Draft.amendAll_new (codec : Codec Value Form) (verb : Verb) (path : String)
    (calls : List (Amendment Value)) :
    (Draft.new verb path).amendAll codec calls =
      ⟨verb, path, codec.payload (calls.filterMap Amendment.value?).getLast?,
        (calls.filterMap Amendment.source?).getLast?.bind CancellationSource.token?⟩ := by
  induction calls using List.reverseRecOn with
  | nil => rfl
  | append_singleton calls call ih =>
    rw [Draft.amendAll] at ih
    rw [Draft.amendAll, List.foldl_append, ih, List.filterMap_append, List.filterMap_append]
    cases call with
    | body value =>
      simp [Draft.amend, Draft.withEncoded, Amendment.value?, Amendment.source?, Codec.payload]
    | cancellation source =>
      simp [Draft.amend, Draft.withToken, Amendment.value?, Amendment.source?]

/-- A body that could not be encoded ends a draft in its first poll. -/
theorem Draft.after_refused {draft : Draft} {error : ClientError}
    (refused : draft.body = .error error) (transport : Transport) (between : Nat → Bool)
    (count : Nat) :
    (draft.after transport between (count + 1)).stage = .refused error ∧
      (draft.after transport between (count + 1)).seen = [] := by
  induction count with
  | zero => simp [Draft.after, Draft.poll, Progress.fire, refused]
  | succ count ih =>
    rw [Draft.after]
    simp [Draft.poll, Progress.fire, ih.1, ih.2]

/-- The draft ends with the error, whether or not its response would be decoded. -/
def Draft.Sending.FailsWith (sending : Draft.Sending) (codec : Codec Value Form)
    (error : ClientError) : Prop :=
  (∀ {α : Type} (form : Form α), sending.decoded codec form = some (.error error)) ∧
    sending.unit = some (.error error)

/-- What a reply of the transport comes to: an error is kept, a status that is no success is an
error with the body as text, and the body of a success is decoded, or ignored. -/
def Draft.Sending.Follows (sending : Draft.Sending) (codec : Codec Value Form) :
    Except ClientError Response → Prop
  | .error error => sending.FailsWith codec error
  | .ok response =>
    if 200 ≤ response.status ∧ response.status ≤ 299 then
      (∀ {α : Type} (form : Form α),
          sending.decoded codec form = some (codec.decode form response.body)) ∧
        sending.unit = some (.ok ())
    else sending.FailsWith codec (.status response.status (Text.lossyText response.body))

theorem Draft.Sending.failsWith_of_result {sending : Draft.Sending} {error : ClientError}
    (ended : sending.result = some (.error error)) (codec : Codec Value Form) :
    sending.FailsWith codec error := by
  refine ⟨?_, ?_⟩
  · intro α form
    rw [Draft.Sending.decoded, ended]
    rfl
  · rw [Draft.Sending.unit, ended]
    rfl

theorem Response.isSuccess_iff (response : Response) :
    response.isSuccess = true ↔ 200 ≤ response.status ∧ response.status ≤ 299 := by
  simp [Response.isSuccess, Nat.lt_succ_iff]

theorem Draft.Sending.follows_of_result {sending : Draft.Sending}
    {reply : Except ClientError Response} (ended : sending.result = some (Draft.settled reply))
    (codec : Codec Value Form) : sending.Follows codec reply := by
  cases reply with
  | error error => exact failsWith_of_result ended codec
  | ok response =>
    rw [Draft.Sending.Follows]
    rw [Draft.settled] at ended
    split
    case isTrue success =>
      rw [if_pos (response.isSuccess_iff.mpr success)] at ended
      refine ⟨?_, ?_⟩
      · intro α form
        rw [Draft.Sending.decoded, ended]
        rfl
      · rw [Draft.Sending.unit, ended]
        rfl
    case isFalse failure =>
      rw [if_neg (mt response.isSuccess_iff.mp failure)] at ended
      exact failsWith_of_result ended codec

theorem Codec.json_encode_error {value : Encodable} {error : ClientError}
    (failed : Codec.json.encode value = .error error) : ∃ reason, error = .encoding reason := by
  cases value with
  | error reason => exact ⟨reason, (Except.error.inj failed).symm⟩
  | ok json => simp [Codec.json, Client.encode] at failed

theorem Codec.json_decode_error {α : Type} {form : Json.Form α} {body : List UInt8}
    {error : ClientError} (failed : Codec.json.decode form body = .error error) :
    ∃ reason, error = .decoding reason := by
  simp only [Codec.json, Client.decode] at failed
  split at failed
  · exact ⟨_, (Except.error.inj failed).symm⟩
  · simp at failed

end Endpoint.Client
