/-!
# Status values

The modelled code reports failures in two status types:

* `grpc::Status`, returned by the P4Runtime-facing `SdnControllerManager`;
* `::util::Status` / `::util::StatusOr<T>`, returned by the switch-stack
  managers, whose codes are the `stratum::ErrorCode` values of
  `stratum/public/proto/error.proto`.

A status is modelled by its code and its message. `RET_CHECK(cond) << text`
fails with `ERR_INVALID_PARAM`; the model keeps the streamed `text` as the
message and leaves out the file, line and condition prefix the macro adds, and
any `ShortDebugString()` dump of a protobuf value.
-/

namespace Stratum.Ports.Status

/-- `grpc::StatusCode`. -/
inductive StatusCode
  | ok
  | cancelled
  | unknown
  | invalidArgument
  | deadlineExceeded
  | notFound
  | alreadyExists
  | permissionDenied
  | resourceExhausted
  | failedPrecondition
  | aborted
  | outOfRange
  | unimplemented
  | internal
  | unavailable
  | dataLoss
  | unauthenticated
  deriving DecidableEq, Repr

/-- `grpc::Status`: a code and a message. -/
structure GrpcStatus where
  code : StatusCode
  message : String
  deriving DecidableEq, Repr

/-- `grpc::Status::OK`. -/
def GrpcStatus.ok : GrpcStatus := ⟨.ok, ""⟩

/-- `grpc::Status::ok()`. -/
def GrpcStatus.isOk (status : GrpcStatus) : Bool := status.code == .ok

@[simp] theorem GrpcStatus.ok_isOk : GrpcStatus.ok.isOk = true := rfl

/-- The `stratum::ErrorCode` values the modelled code returns. -/
inductive ErrorCode
  | errCancelled
  | errPermissionDenied
  | errUnimplemented
  | errInternal
  | errInvalidParam
  | errEntryNotFound
  | errEntryExists
  | errNotInitialized
  | errNoResource
  | errInvalidP4Info
  | errOperNotSupported
  | errTableFull
  /-- `::util::error::UNKNOWN`, the code `MAKE_ERROR()` gives when none is
  named. -/
  | errUnknown
  deriving DecidableEq, Repr

/-- A non-OK `::util::Status`. -/
structure UtilError where
  code : ErrorCode
  message : String
  deriving DecidableEq, Repr

/-- `::util::StatusOr<α>`; `::util::Status` is `StatusOr Unit`. -/
abbrev StatusOr (α : Type) := Except UtilError α

/-- `RET_CHECK(condition) << message`. -/
def retCheck (condition : Bool) (message : String) : StatusOr Unit :=
  if condition then .ok () else .error ⟨.errInvalidParam, message⟩

theorem retCheck_eq_ok {condition : Bool} {message : String} {u : Unit} :
    retCheck condition message = .ok u ↔ condition = true := by
  cases condition <;> simp [retCheck]

/-- A check followed by more code succeeds when the check holds and the rest
succeeds. -/
theorem retCheck_bind_eq_ok {α : Type} {condition : Bool} {message : String}
    {rest : Unit → StatusOr α} {a : α} :
    (retCheck condition message >>= rest) = .ok a ↔ condition = true ∧ rest () = .ok a := by
  cases condition <;> simp [retCheck, bind, Except.bind]

/-- `RETURN_IF_ERROR_WITH_APPEND(expr) << text`: the error of `expr`, its
message followed by `text`. -/
def UtilError.append (error : UtilError) (text : String) : UtilError :=
  ⟨error.code, error.message ++ text⟩

/-! ## Accumulated statuses (`stratum/lib/macros.h`) -/

/-- The characters `FixMessage` strips from the end of a message (`" \t\f\v\n\r"`). -/
def trailingWhitespace : List Char := [' ', '\t', '\x0c', '\x0b', '\n', '\r']

/-- `FixMessage`: the message without trailing whitespace and ended by `". "`,
or by `" "` after a final punctuation mark; a blank message becomes empty. -/
def fixMessage (msg : String) : String :=
  match msg.toList.reverse.dropWhile (· ∈ trailingWhitespace) with
  | [] => ""
  | last :: rest =>
      let str := String.ofList (last :: rest).reverse
      if last ∈ ['.', '!', '?', ';', ':', ','] then str ++ " " else str ++ ". "

/-- `APPEND_STATUS_IF_ERROR(out, expr)`: an error `expr` is appended to the
error `out`, or to the code of `expr` with its message stripped if `out` is
OK, as its fixed message after a blank (none after an empty message or one
ending in a blank). `APPEND_ERROR` turns an empty result into a placeholder
message; the file and line it names are left out. -/
def appendStatusIfError (out expr : StatusOr Unit) : StatusOr Unit :=
  match expr with
  | .ok () => out
  | .error e =>
      let base : UtilError :=
        match out with
        | .error o => o
        | .ok () => ⟨e.code, ""⟩
      let separator :=
        if base.message.isEmpty || base.message.toList.getLast? == some ' ' then "" else " "
      let str := base.message ++ separator ++ fixMessage e.message
      .error ⟨base.code, if str.isEmpty then "Error without message at " else str⟩

@[simp] theorem appendStatusIfError_ok (out : StatusOr Unit) : appendStatusIfError out (.ok ()) = out :=
  rfl

/-- The accumulated status is OK exactly when both statuses are. -/
theorem appendStatusIfError_eq_ok_iff {out expr : StatusOr Unit} :
    appendStatusIfError out expr = .ok () ↔ out = .ok () ∧ expr = .ok () := by
  cases expr with
  | ok u => simp [appendStatusIfError]
  | error e => simp [appendStatusIfError]

/-- A loop over a status, each pass of which gives OK exactly when the status
was OK and the element passes, ends OK exactly when it started OK and every
element passes. -/
theorem foldl_eq_ok_iff {α : Type} (f : StatusOr Unit → α → StatusOr Unit) (passes : α → Prop)
    (hf : ∀ status a, f status a = .ok () ↔ status = .ok () ∧ passes a) :
    ∀ (l : List α) (init : StatusOr Unit), l.foldl f init = .ok () ↔ init = .ok () ∧ ∀ a ∈ l, passes a
  | [], init => by simp
  | a :: l, init => by
      rw [List.foldl_cons, foldl_eq_ok_iff f passes hf l, hf, List.forall_mem_cons, and_assoc]

/-- A loop that carries a status beside other state, none of whose passes
turns an error into OK, ends OK only if it started OK. -/
theorem foldl_fst_eq_ok {α β : Type} (f : StatusOr Unit × β → α → StatusOr Unit × β)
    (hf : ∀ acc a, (f acc a).1 = .ok () → acc.1 = .ok ()) :
    ∀ (l : List α) (acc : StatusOr Unit × β), (l.foldl f acc).1 = .ok () → acc.1 = .ok ()
  | [], _, h => h
  | a :: l, acc, h => hf acc a (foldl_fst_eq_ok f hf l (f acc a) h)

end Stratum.Ports.Status
