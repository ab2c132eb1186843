import Mathlib.Data.List.Basic

/-! The Google CSE routes of `server/src/routes/google_cse/mod.rs`: how the answer of an
operation becomes the HTTP response. `wrap`, `unwrap`, `private_key_sign` and
`private_key_decrypt` answer the operation's response as JSON, or its error as a
`CseErrorReply`. The six routes not implemented yet answer 200 with no body. The operations
themselves live outside the file.

`respond_error` says what an error becomes. The reply's `code` is the error's status code. The
HTTP status is that code when it is one of 400, 401, 403, 404, 405 and 422, and 500 otherwise.
So a failed operation is never answered with a success, and the reply's `code` and the response's
status disagree exactly for the codes outside those six and 500. -/
namespace Kms.GoogleCse

/-- The error of a CSE operation, as the reply reads it: `status_code()` and `to_string()`. -/
structure KmsError where
  statusCode : UInt16
  display : String
  deriving DecidableEq

/-- `CseErrorReply`. -/
structure CseErrorReply where
  code : UInt16
  message : String
  details : String
  deriving DecidableEq

/-- `CseErrorReply::from`. -/
def CseErrorReply.from (e : KmsError) : CseErrorReply where
  code := e.statusCode
  message := "A CSE request to the Cosmian KMS failed"
  details := e.display

/-- The body of a response: none (`finish()`), an operation's response, or an error reply, each
sent as JSON. -/
inductive Body (α : Type) where
  | empty
  | json (response : α)
  | error (reply : CseErrorReply)
  deriving DecidableEq

/-- An `HttpResponse`: its status code and its body. -/
structure HttpResponse (α : Type) where
  status : UInt16
  body : Body α
  deriving DecidableEq

/-- `From<CseErrorReply> for HttpResponse`: the builder the code picks, with the reply as JSON. -/
def CseErrorReply.into {α : Type} (e : CseErrorReply) : HttpResponse α :=
  let status : UInt16 :=
    match e.code with
    | 400 => 400
    | 401 => 401
    | 403 => 403
    | 404 => 404
    | 405 => 405
    | 422 => 422
    | _ => 500
  { status, body := .error e }

/-- The answer of an implemented route: `HttpResponse::Ok().json(response)`, or
`CseErrorReply::from(e).into()`. -/
def respond {α : Type} : Except KmsError α → HttpResponse α
  | .ok response => { status := 200, body := .json response }
  | .error e => (CseErrorReply.from e).into

/-- The answer of a route not implemented yet: `HttpResponse::Ok().finish()`. -/
def notImplemented {α : Type} : HttpResponse α := { status := 200, body := .empty }

section Routes

variable {Request Response : Type} (operation : Request → Except KmsError Response)

/-- `wrap`, given `operations::wrap`. -/
def wrap (request : Request) : HttpResponse Response := respond (operation request)

/-- `unwrap`, given `operations::unwrap`. -/
def unwrap (request : Request) : HttpResponse Response := respond (operation request)

/-- `private_key_sign`, given `operations::private_key_sign`. -/
def privateKeySign (request : Request) : HttpResponse Response := respond (operation request)

/-- `private_key_decrypt`, given `operations::private_key_decrypt`. -/
def privateKeyDecrypt (request : Request) : HttpResponse Response := respond (operation request)

end Routes

section NotImplemented

variable {Request : Type}

/-- `digest`. -/
def digest (_request : Request) : HttpResponse Unit := notImplemented

/-- `privilegedprivatekeydecrypt`. -/
def privilegedprivatekeydecrypt (_request : Request) : HttpResponse Unit := notImplemented

/-- `privilegedunwrap`. -/
def privilegedunwrap (_request : Request) : HttpResponse Unit := notImplemented

/-- `privilegedwrap`. -/
def privilegedwrap (_request : Request) : HttpResponse Unit := notImplemented

/-- `rewrap`. -/
def rewrap (_request : Request) : HttpResponse Unit := notImplemented

/-- `wrapprivatekey`. -/
def wrapprivatekey (_request : Request) : HttpResponse Unit := notImplemented

end NotImplemented

/-- The status codes `From<CseErrorReply>` keeps. -/
def keptStatuses : List UInt16 := [400, 401, 403, 404, 405, 422]

theorem into_body {α : Type} (e : CseErrorReply) : (e.into : HttpResponse α).body = .error e := rfl

theorem into_status {α : Type} (e : CseErrorReply) :
    (e.into : HttpResponse α).status = if e.code ∈ keptStatuses then e.code else 500 := by
  unfold CseErrorReply.into
  split <;> simp_all [keptStatuses]

/-- A failed operation is answered with its error reply, whose `code` is the error's status code,
under that code when it is one of the six kept and 500 otherwise: never a success, and under the
reply's own `code` exactly when that is one of the six or 500. -/
theorem respond_error {α : Type} (e : KmsError) :
    (respond (.error e) : HttpResponse α).body = .error (CseErrorReply.from e) ∧
      (respond (.error e) : HttpResponse α).status =
        (if e.statusCode ∈ keptStatuses then e.statusCode else 500) ∧
      (400 ≤ (respond (.error e) : HttpResponse α).status.toNat ∧
        (respond (.error e) : HttpResponse α).status.toNat ≤ 500) ∧
      ((respond (.error e) : HttpResponse α).status = e.statusCode ↔
        e.statusCode ∈ 500 :: keptStatuses) := by
  simp only [respond, into_body, into_status, CseErrorReply.from, true_and]
  split
  · rename_i kept
    simp only [keptStatuses, List.mem_cons, List.mem_singleton, List.not_mem_nil, or_false] at kept
    rcases kept with same | same | same | same | same | same <;> rw [same] <;> decide
  · rename_i other
    simp only [List.mem_cons, other, or_false, eq_comm]
    decide

end Kms.GoogleCse
