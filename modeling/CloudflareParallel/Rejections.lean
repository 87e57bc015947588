import CloudflareParallel.ErrorHierarchy

namespace CloudflareParallel

/-!
# What a promise rejects with

A rejection is an error of the library, another `Error`, or a value that is no
error, by the text that `String` gives it.  What the runtime records as the
stack of an error that is created, given its message, is a parameter.
-/

/-- The value that a promise rejects with. -/
inductive Rejection where
  | error (err : ErrorObject ParallelError)
  | other (asText : String)

namespace ParallelError

/-- `new` for a class, without a cause. -/
def ofClass
    (stackOf : String → Option String)
    (cls : ErrorClass) : ParallelError :=
  .classed cls (stackOf cls.message) .undefined

end ParallelError

namespace ErrorObject

/-- `name`. -/
def name : ErrorObject ParallelError → String
  | .library err => err.name
  | .native err => err.name

/-- `message`. -/
def message : ErrorObject ParallelError → String
  | .library err => err.message
  | .native err => err.message

/-- `stack`. -/
def stack : ErrorObject ParallelError → Option String
  | .library err => err.stack
  | .native err => err.stack

end ErrorObject

namespace Rejection

/-- `err instanceof Error ? err : new Error(String(err))`. -/
def asError
    (stackOf : String → Option String) :
    Rejection → ErrorObject ParallelError
  | .error err => err
  | .other asText =>
      .native
        { name := "Error"
          message := asText
          stack := stackOf asText }

/-- `asParallel`: whatever is not of the library is wrapped. -/
def asParallel
    (stackOf : String → Option String)
    (err : Rejection) : ParallelError :=
  match err with
  | .error (.library err) => err
  | err =>
      let e := err.asError stackOf
      .classed (.parallelError e.message) e.stack .undefined

end Rejection

end CloudflareParallel
