import MipitCore.Config.Constants

/-!
# Failures

What an asynchronous function of the service throws: an error of the driver or a plain
`Error`, a `TypeError` of the language, or one of the application's error classes with
its HTTP status, code and details.

## Main definitions

* `Failure`, `Failure.message`, `Failure.toText`
* `Failure.statusCode`, `Failure.code`
-/

namespace MipitCore

open Js

/-- What is thrown. -/
inductive Failure
  /-- `new Error(message)`, and errors of the database and the broker. -/
  | error (message : Text)
  /-- Reading a property of `undefined`, or calling a method that is not there. -/
  | typeError
  /-- A `ZodError` of the request body. -/
  | invalidRequest
  /-- `new TranslationError(rail, message)` -/
  | translation (rail : Text) (message : String)
  /-- `new RoutingError(message, { payment_id, origin_rail })` -/
  | routing (message : String) (paymentId : Text) (originRail : Rail)
  deriving DecidableEq

/-- `err.message`. The engine's text for a `TypeError` is not part of the program. -/
def Failure.message : Failure → Text
  | error message => message
  | typeError => js "TypeError"
  | invalidRequest => js "Invalid request payload"
  | translation _ message | routing message _ _ => js message

/-- `err.name` -/
def Failure.name : Failure → String
  | error _ => "Error"
  | typeError => "TypeError"
  | invalidRequest => "ZodError"
  | translation _ _ => "TranslationError"
  | routing _ _ _ => "RoutingError"

/-- `String(err)` -/
def Failure.toText (err : Failure) : Text :=
  if err.message = [] then js err.name else js err.name ++ js ": " ++ err.message

/-- The HTTP status that the error handler answers with. -/
def Failure.statusCode : Failure → ℕ
  | error _ | typeError => 500
  | invalidRequest => 400
  | translation _ _ | routing _ _ _ => 422

/-- The `code` of the error handler's answer. -/
def Failure.code : Failure → String
  | error _ | typeError => "INTERNAL_ERROR"
  | invalidRequest => "VALIDATION_ERROR"
  | translation _ _ => "TRANSLATION_ERROR"
  | routing _ _ _ => "ROUTING_ERROR"

end MipitCore
