import ChatGateway.Dict
import ChatGateway.Json.Record

/-!
# Revocations

A virtual key may be revoked and restored by policy updates.  Only the last
update of a key counts.

## Main definitions

* `PolicyUpdate` — a change for one key, with its JSON form.
* `Revocations` — the keys that are revoked now, each with the reason given.
-/

namespace ChatGateway

/-- What an update does. -/
inductive PolicyAction where
  | revoke
  | restore
  deriving DecidableEq, Repr

/-- The name of an action. -/
def PolicyAction.name : PolicyAction → String
  | revoke => "revoke"
  | restore => "restore"

/-- The actions by name. -/
def PolicyAction.named : List (String × PolicyAction) :=
  [("revoke", .revoke), ("restore", .restore)]

/-- A change for one virtual key. -/
structure PolicyUpdate where
  key : String
  action : PolicyAction
  reason : Option String := none
  deriving DecidableEq, Repr

namespace PolicyUpdate

/-- The value of an update.  A missing reason is left out. -/
def json (u : PolicyUpdate) : Json :=
  .object (
    [("key", .string u.key), ("action", .string u.action.name)]
      ++ Json.member? "reason" .string u.reason)

/-- What has been read of an update. -/
structure Slots where
  key : Option String := none
  action : Option PolicyAction := none
  reason : Option (Option String) := none

/-- The fields of an update. -/
def record : Record Slots PolicyUpdate where
  title := "struct PolicyUpdate"
  fields := [
    .of "key" false Slots.key (fun s v => { s with key := some v }) Decoder.string,
    .of "action" false Slots.action (fun s v => { s with action := some v })
      (Decoder.variant PolicyAction.named),
    .of "reason" true Slots.reason (fun s v => { s with reason := some v })
      (Decoder.optional Decoder.string)]
  blank := {}
  finish s := do
    let key ← require "key" s.key
    let action ← require "action" s.action
    return ⟨key, action, s.reason.join⟩

/-- The decoder of an update. -/
def decode : Decoder PolicyUpdate := record.decode

/-- The update that a text holds. -/
def ofText (s : String) : Except ReadError PolicyUpdate :=
  decodeText decode s

end PolicyUpdate

/-- The revoked keys, each with the reason of its last revocation. -/
abbrev Revocations := Dict (Option String)

namespace Revocations

/-- Carry out an update. -/
def apply (r : Revocations) (u : PolicyUpdate) : Revocations :=
  match u.action with
  | .revoke => r.insert u.key u.reason
  | .restore => r.erase u.key

/-- After an update its own key is as the update says, and every other key is as
it was. -/
theorem get?_apply (r : Revocations) (u : PolicyUpdate) (key : String) :
    (r.apply u).get? key =
      if key = u.key then
        match u.action with
        | .revoke => some u.reason
        | .restore => none
      else r.get? key := by
  unfold apply
  cases u.action with
  | revoke => exact Dict.get?_insert r u.key key u.reason
  | restore => exact Dict.get?_erase r u.key key

end Revocations

end ChatGateway
