import MipitCore.Js.Text

/-!
# Constants

The statuses of a payment, the rails, and the broker's exchanges, routing keys and
queues. The source's constants are strings; here each family is an enumeration
with its `name`, and `Rail.ofText` reads a rail back from a stored string.

## Main definitions

* `PaymentStatus`, `Rail`, `AliasType`
* `Exchange`, `RoutingKey`, `dlqMaxRetries`
* `railRateLimits`
-/

namespace MipitCore

open Js

/-- `PAYMENT_STATUS` -/
inductive PaymentStatus
  | received | validated | canonicalized | normalized | routed | queued | sentToDestination
  | ackedByRail | completed | failed | rejected | duplicate | compensating | compensated
  | deadLetter
  deriving DecidableEq, Repr

/-- The stored name of a status. -/
def PaymentStatus.name : PaymentStatus → String
  | received => "RECEIVED"
  | validated => "VALIDATED"
  | canonicalized => "CANONICALIZED"
  | normalized => "NORMALIZED"
  | routed => "ROUTED"
  | queued => "QUEUED"
  | sentToDestination => "SENT_TO_DESTINATION"
  | ackedByRail => "ACKED_BY_RAIL"
  | completed => "COMPLETED"
  | failed => "FAILED"
  | rejected => "REJECTED"
  | duplicate => "DUPLICATE"
  | compensating => "COMPENSATING"
  | compensated => "COMPENSATED"
  | deadLetter => "DEAD_LETTER"

/-- `RAILS`, which are also the `SUPPORTED_RAILS` of the canonical model. -/
inductive Rail
  | pix | spei | swiftMt103 | iso20022Mx | achNacha | fednow | breB
  deriving DecidableEq, Repr

namespace Rail

/-- The stored name of a rail. -/
def name : Rail → String
  | pix => "PIX"
  | spei => "SPEI"
  | swiftMt103 => "SWIFT_MT103"
  | iso20022Mx => "ISO20022_MX"
  | achNacha => "ACH_NACHA"
  | fednow => "FEDNOW"
  | breB => "BRE_B"

/-- `SUPPORTED_RAILS` -/
def all : List Rail := [pix, spei, swiftMt103, iso20022Mx, achNacha, fednow, breB]

/-- The rail that a stored string names. -/
def ofText (s : Text) : Option Rail := all.find? fun r => js r.name = s

theorem name_injective : Function.Injective name := by
  intro r r' h
  cases r <;> cases r' <;> first | rfl | simp [name] at h

theorem ofText_eq_some_iff {s : Text} {r : Rail} : ofText s = some r ↔ s = js r.name := by
  constructor
  · intro h
    have hname : js r.name = s := by simpa using List.find?_some h
    exact hname.symm
  · rintro rfl
    cases r <;> decide

@[simp] theorem ofText_name (r : Rail) : ofText (js r.name) = some r :=
  ofText_eq_some_iff.mpr rfl

end Rail

/-- `ALIAS_TYPES` -/
inductive AliasType
  | pixKey | clabe | iban | account | abaRouting | bic | llaveBreb
  deriving DecidableEq, Repr

/-- The stored name of an alias type. -/
def AliasType.name : AliasType → String
  | pixKey => "PIX_KEY"
  | clabe => "CLABE"
  | iban => "IBAN"
  | account => "ACCOUNT"
  | abaRouting => "ABA_ROUTING"
  | bic => "BIC"
  | llaveBreb => "LLAVE_BREB"

/-- `EXCHANGES` -/
inductive Exchange
  | payments | dlx
  deriving DecidableEq, Repr

/-- `ROUTING_KEYS` of the adapters. -/
inductive RoutingKey
  | routePix | routeSpei | routeBreb
  deriving DecidableEq, Repr

/-- `DLQ_MAX_RETRIES`: the maximum of retries before a message is dead-lettered. -/
def dlqMaxRetries : ℕ := 3

/-- The limits of a rail. -/
structure RailRateLimit where
  maxPerMinute : ℕ
  maxPerSecond : ℕ
  deriving DecidableEq, Repr

/-- `RAIL_RATE_LIMITS`: rate limit configuration per rail. -/
def railRateLimits : List (Rail × RailRateLimit) :=
  [(.pix, ⟨600, 20⟩), (.spei, ⟨300, 10⟩), (.breB, ⟨200, 8⟩), (.swiftMt103, ⟨100, 5⟩),
    (.iso20022Mx, ⟨100, 5⟩), (.achNacha, ⟨100, 5⟩), (.fednow, ⟨300, 10⟩)]

end MipitCore
