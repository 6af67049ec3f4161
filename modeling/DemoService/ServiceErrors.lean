import DemoService.PyText

/-! The exceptions of the services, as far as their callers tell them apart. -/

namespace DemoService

open PyText

/-- The exception classes that callers tell apart. -/
inductive ExceptionClass
  | keyError
  | valueError
  | typeError
  | runtimeError
  | other
  deriving DecidableEq, Repr

structure Raised where
  cls : ExceptionClass
  message : Text
  deriving DecidableEq, Repr

def valueError (message : Text) : Raised := ⟨.valueError, message⟩

def quote (text : Text) : Text := '\'' :: text ++ ['\'']

structure HTTPException where
  statusCode : Nat
  detail : Text
  deriving DecidableEq, Repr

def badRequest (detail : Text) : HTTPException := ⟨400, detail⟩

end DemoService
