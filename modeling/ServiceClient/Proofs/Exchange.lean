import ServiceClient.Client
import ServiceClient.Proofs.Refusals

/-!
# What becomes of a call

A call fails before it is sent, or with what became of the response: an error of the service, or
the failure of a step that reads the result.

* `Client.make_eq_ok`: the client that is made.
* `Client.result_invoke`: a call, up to the response.
* `Client.result_receive`: the outcome of a response.
* `Dialect.result_readResult`: the steps to the result of a successful response.
* `Dialect.readResult_foreign`: only the reader of the result fails otherwise than by a failure of
  the client's own.
-/

namespace ServiceClient

/-- A call has a result, or fails by an error of the service or the client's own failure. -/
def CallError.IsDocumented (x : Except CallError Value) : Prop :=
  ∀ f, x = .error (.client f) → f.isClientError = true

namespace Dialect

variable {d : Dialect} {shape : ResponseShape} {r : Response}

/-- The result of a successful response: its checksum, its document, and the reader. -/
theorem result_readResult (d : Dialect) (shape : ResponseShape) (read : ResultReader)
    (r : Response) : ((d.readResult shape (some read) r).run.result.map ServiceResult.result) =
      checkChecksum r.headers r.body >>= fun _ => d.readContent shape r.body >>= fun content =>
        read ⟨content, r, d.encoding⟩ := by
  unfold readResult
  cases checkChecksum r.headers r.body with
  | error f => rfl
  | ok u =>
    cases d.readContent shape r.body with
    | error f => rfl
    | ok content =>
      have hread : ∀ x : Except Failure Value, ((do
          let result ← x
          return ⟨result, r.headers.get? requestIdHeader, r.headers.spellings⟩ :
            Attempt ServiceResult).run.result.map ServiceResult.result) = x := by
        intro x
        cases x with
        | error f => rfl
        | ok result => rfl
      exact hread (read ⟨content, r, d.encoding⟩)

/-- The client itself refuses a body with another checksum. -/
theorem checkChecksum_eq_error {headers : Headers} {body : Bytes} {f : Failure}
    (h : checkChecksum headers body = .error f) : f.isClientError = true := by
  unfold checkChecksum at h
  split at h
  · cases h
  · dsimp only at h
    split at h
    · cases h
    · rw [← Except.error.inj h]
      rfl

/-- The client itself refuses a body that cannot be parsed. -/
theorem readContent_eq_error {body : Bytes} {f : Failure}
    (h : d.readContent shape body = .error f) : f.isClientError = true := by
  unfold readContent at h
  split at h
  · obtain ⟨cause, -, rfl⟩ := mapError_eq_error.1 h
    rfl
  · cases h

/-- **Only the reader of a result fails otherwise** than by a failure of the client's own, with the
document of a response whose checksum is right. -/
theorem readResult_foreign {read : ResultReader} {f : Failure}
    (hforeign : f.isClientError = false) :
    (d.readResult shape (some read) r).run.result.map ServiceResult.result = .error f ↔
      checkChecksum r.headers r.body = .ok () ∧
        ∃ content, d.readContent shape r.body = .ok content ∧
          read ⟨content, r, d.encoding⟩ = .error f := by
  rw [result_readResult]
  constructor
  · intro h
    -- checksum and document fail by the client's own failure, which leaves the reader
    rcases bind_eq_error.1 h with h | ⟨u, hchecksum, h⟩
    · rw [checkChecksum_eq_error h] at hforeign
      cases hforeign
    rcases bind_eq_error.1 h with h | ⟨content, hcontent, h⟩
    · rw [readContent_eq_error h] at hforeign
      cases hforeign
    · exact ⟨hchecksum, content, hcontent, h⟩
  · rintro ⟨hchecksum, content, hcontent, h⟩
    rw [hchecksum]
    exact bind_eq_error.2 (.inr ⟨(), rfl, bind_eq_error.2 (.inr ⟨content, hcontent, h⟩)⟩)

end Dialect

namespace Client

/-- A client is made exactly if it has an endpoint. -/
theorem make_eq_ok {o : ClientOptions} {e : Environment} {c : Client} :
    (make o e).run.result = .ok c ↔ ∃ endpoint, (endpointOf o e).run.result = .ok endpoint ∧
      c = ⟨o.serviceName, (Dialect.ofMetadata o.metadata o.switches).result,
        Marshalling.dropFinalSlashes endpoint, o.codeField⟩ := by
  have hstep : ∀ (x : Attempt String) (f : String → Client),
      (x >>= fun endpoint => pure (f endpoint) : Attempt Client).run.result =
        x.run.result.map f := by
    intro x f
    show (ExceptT.bindCont (fun endpoint => pure (f endpoint)) x.run.result : Logged _).result = _
    cases x.run.result with
    | error g => rfl
    | ok endpoint => rfl
  have hmake : (make o e).run.result = (endpointOf o e).run.result.map fun endpoint =>
      ⟨o.serviceName, (Dialect.ofMetadata o.metadata o.switches).result,
        Marshalling.dropFinalSlashes endpoint, o.codeField⟩ := hstep _ _
  rw [hmake, map_eq_ok]
  exact exists_congr fun endpoint => and_congr_right fun _ => eq_comm

/-- A call that is not marshalled is not sent; the outcome of any other is that of its response. -/
theorem result_invoke (c : Client) (call : OperationCall) (send : Request → Response)
    (parts : Multipart) : (c.invoke call (fun q => .ok (send q)) parts).result =
      match c.dialect.request call.operation call.bindings call.request c.endpoint parts with
      | .error f => ⟨none, .error (.client f)⟩
      | .ok q => ⟨some q, (c.receive call (send q)).result⟩ := by
  unfold invoke
  cases c.dialect.request call.operation call.bindings call.request c.endpoint parts with
  | error f => rfl
  | ok q => rfl

/-- The outcome of a response: a result of success, or else an error of the service, unless that
cannot be read. -/
theorem result_receive (c : Client) (call : OperationCall) (r : Response) :
    (c.receive call r).result =
      if isSuccess r.status then
        ((c.dialect.readResult call.shape call.reader r).run.result.map
          ServiceResult.result).mapError .client
      else
        (c.dialect.readError c.codeField (some c.serviceName) r).run.result.mapError .client >>=
          fun e => .error (.service e) := by
  unfold receive
  split
  · rfl
  · generalize c.dialect.readError c.codeField (some c.serviceName) r = read
    obtain ⟨result, records⟩ := read
    cases result with
    | error f => rfl
    | ok e => rfl

end Client

end ServiceClient
