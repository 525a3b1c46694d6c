import Db2Client.OrderedMap

/-!
# Keyrings

A keyring stores secrets under a service and a key. Any call to it may fail; deleting what is not
there fails in a way of its own.
-/

namespace Db2Client.Connection

structure SecretName where
  service : String
  key : String
deriving DecidableEq, Repr

inductive KeyringCall where
  | get (name : SecretName)
  | set (name : SecretName)
  | delete (name : SecretName)
deriving DecidableEq, Repr

inductive KeyringError where
  | unavailable (text : String)
  /-- There is no such secret to delete. -/
  | absent
deriving DecidableEq, Repr

def KeyringError.message : KeyringError → String
  | .unavailable text => text
  | .absent => "Password not found"

/-- The secrets, and which calls fail. -/
structure Keyring where
  secrets : OrderedMap SecretName String := OrderedMap.empty
  fault : KeyringCall → Option KeyringError := fun _ => none

namespace Keyring

def get (k : Keyring) (name : SecretName) : Except KeyringError (Option String) :=
  match k.fault (.get name) with
  | some e => .error e
  | none => .ok (k.secrets.get? name)

def set (k : Keyring) (name : SecretName) (secret : String) : Except KeyringError Keyring :=
  match k.fault (.set name) with
  | some e => .error e
  | none => .ok { k with secrets := k.secrets.insert name secret }

def delete (k : Keyring) (name : SecretName) : Except KeyringError Keyring :=
  match k.fault (.delete name) with
  | some e => .error e
  | none =>
    if k.secrets.contains name then .ok { k with secrets := k.secrets.erase name }
    else .error .absent

end Keyring

end Db2Client.Connection
