import ArtForgeStudio.Api.Wire
import ArtForgeStudio.Library.Numerals
import ArtForgeStudio.Library.Watermarks
import Mathlib.Data.String.Basic

/-! # The version that guards the credit balance

A response replaces the balance shown only if the request is the latest of its epoch and the
account version it carries, a decimal numeral of any length, is no older than the last one
applied. A response without a version, which older servers send, forgets the stored one.
-/

namespace ArtForgeStudio.Credits

open Api Numerals Numerals.System Watermarks

def canonicalCreditAccountVersion (value : String) : Option String :=
  let value := trim value
  if value.isEmpty || !value.toList.all Char.isDigit then none
  else
    let value := String.ofList (value.toList.dropWhile (· == '0'))
    some (if value.isEmpty then "0" else value)

def creditAccountVersionIsFresh (current : Option String) (candidate : String)
    (requestIsCurrent : Bool) : Bool :=
  if !requestIsCurrent then false
  else if trimIsEmpty candidate then true
  else
    match canonicalCreditAccountVersion candidate with
    | none => false
    | some candidate =>
      match current.bind canonicalCreditAccountVersion with
      | none => true
      | some current =>
        candidate.utf8ByteSize > current.utf8ByteSize ||
          (candidate.utf8ByteSize == current.utf8ByteSize && decide (current ≤ candidate))

/-- The credit fields of the store, and the balance that the window shows. -/
structure CreditAccount where
  creditAccountVersion : Option String
  creditSyncEpoch : UInt64
  creditAccountRefreshEpoch : UInt64
  creditBalance : String
  creditReserved : String
deriving DecidableEq

namespace CreditAccount

def beginCreditSyncEpoch (account : CreditAccount) : UInt64 × CreditAccount :=
  let epoch := account.creditSyncEpoch + 1
  (epoch, { account with creditSyncEpoch := epoch })

def invalidateCreditSyncEpoch (account : CreditAccount) : CreditAccount :=
  account.beginCreditSyncEpoch.2

def creditSyncEpochIsCurrent (account : CreditAccount) (requestEpoch : UInt64) : Bool :=
  account.creditSyncEpoch == requestEpoch

def applyCreditAccountBalanceIfFresh (account : CreditAccount)
    (available reserved version : String) (creditSyncEpoch : UInt64) : Bool × CreditAccount :=
  let requestIsCurrent := account.creditSyncEpochIsCurrent creditSyncEpoch
  if !creditAccountVersionIsFresh account.creditAccountVersion version requestIsCurrent then
    (false, account)
  else
    (true, { account with
      creditAccountVersion := canonicalCreditAccountVersion version
      creditBalance := available
      creditReserved := reserved })

def invalidateCreditAccountView (account : CreditAccount) : CreditAccount :=
  { account with
    creditAccountVersion := none
    creditAccountRefreshEpoch := account.creditAccountRefreshEpoch + 1 }

def beginCreditAccountRefresh (account : CreditAccount) : UInt64 × CreditAccount :=
  let epoch := account.creditAccountRefreshEpoch + 1
  (epoch, { account with creditAccountRefreshEpoch := epoch })

end CreditAccount

/-- Decimal digits, with white space around them. -/
def IsDecimal (value : String) : Prop :=
  (trim value).toList ≠ [] ∧ decimal.IsNumeral (trim value).toList

def versionNumber (value : String) : ℕ := decimal.number (trim value).toList

variable {value current candidate version : String}

example : creditAccountVersionIsFresh (some "10") " 0009\n" true = false := by decide

namespace CreditAccount

/-- The number of the version that the next response is compared with. -/
def mark (account : CreditAccount) : Option ℕ :=
  (account.creditAccountVersion.bind canonicalCreditAccountVersion).map versionNumber

variable {account : CreditAccount} {available reserved : String} {epoch : UInt64}

end CreditAccount

/-- The operations on the credit fields: a response arrives, a request begins, a logout ends the
epoch, the view is given up, and an activation publishes the fields it prepared. -/
inductive Action where
  | applyCreditAccountBalanceIfFresh (available reserved version : String)
      (creditSyncEpoch : UInt64)
  | beginCreditSyncEpoch
  | invalidateCreditSyncEpoch
  | beginCreditAccountRefresh
  | invalidateCreditAccountView
  | publish (prepared : CreditAccount)

def Action.step : Action → CreditAccount → CreditAccount
  | .applyCreditAccountBalanceIfFresh available reserved version epoch, account =>
    (account.applyCreditAccountBalanceIfFresh available reserved version epoch).2
  | .beginCreditSyncEpoch, account => account.beginCreditSyncEpoch.2
  | .invalidateCreditSyncEpoch, account => account.invalidateCreditSyncEpoch
  | .beginCreditAccountRefresh, account => account.beginCreditAccountRefresh.2
  | .invalidateCreditAccountView, account => account.invalidateCreditAccountView
  | .publish prepared, _ => prepared

/-- An applied response with a version records its number; one without a version resets, as
giving up the view and publishing another account do. -/
def Action.record : Action → CreditAccount → Option (Record ℕ)
  | .applyCreditAccountBalanceIfFresh available reserved version epoch, account =>
    if (account.applyCreditAccountBalanceIfFresh available reserved version epoch).1 then
      some (if trimIsEmpty version then .reset else .applied (versionNumber version))
    else none
  | .invalidateCreditAccountView, _ => some .reset
  | .publish _, _ => some .reset
  | .beginCreditSyncEpoch, _ => none
  | .invalidateCreditSyncEpoch, _ => none
  | .beginCreditAccountRefresh, _ => none

end ArtForgeStudio.Credits
