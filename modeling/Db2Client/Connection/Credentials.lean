import Db2Client.Connection.Config
import Db2Client.Connection.Keyring
import Db2Client.Log

/-!
# Credentials

The user name and the password of a connection are two secrets in the keyring, named after the
connection's identifier. No failure of the keyring escapes: it is logged, and the operation says
that it did not succeed.
-/

namespace Db2Client.Connection

/-! ## Names -/

inductive CredentialField where
  | username
  | password
deriving DecidableEq, Repr

def CredentialField.text : CredentialField → String
  | .username => "username"
  | .password => "password"

/-- The name of a secret of a connection. -/
def secretName (id : String) (field : CredentialField) : SecretName where
  service := "dataforge-db2"
  key := "db2:" ++ id ++ ":" ++ field.text

/-! ## Operations on the keyring -/

/-- Stores the user name and then the password. -/
def Keyring.save (k : Keyring) (id username password : String) : Bool × Keyring × Log :=
  let failed := fun (e : KeyringError) (k : Keyring) =>
    (false, k, [⟨LogLevel.error, "Failed to save credentials: " ++ e.message⟩])
  match k.set (secretName id .username) username with
  | .error e => failed e k
  | .ok k =>
    match k.set (secretName id .password) password with
    | .error e => failed e k
    | .ok k => (true, k, [⟨.info, "Credentials saved for DB2 connection " ++ id⟩])

/-- The user name and the password; each is empty when it is not stored, and both are when the
keyring fails. -/
def Keyring.credentials (k : Keyring) (id : String) : (String × String) × Log :=
  let found : Except KeyringError (String × String) := do
    let username ← k.get (secretName id .username)
    let password ← k.get (secretName id .password)
    return (username.getD "", password.getD "")
  match found with
  | .ok pair => (pair, [])
  | .error e => (("", ""), [⟨.error, "Failed to retrieve credentials: " ++ e.message⟩])

/-- Deletes a secret that may be absent. -/
def Keyring.discard (k : Keyring) (name : SecretName) : Except KeyringError Keyring :=
  match k.delete name with
  | .error .absent => .ok k
  | r => r

/-- Deletes the user name and then the password. -/
def Keyring.forget (k : Keyring) (id : String) : Bool × Keyring × Log :=
  let failed := fun (e : KeyringError) (k : Keyring) =>
    (false, k, [⟨LogLevel.error, "Failed to delete credentials: " ++ e.message⟩])
  match k.discard (secretName id .username) with
  | .error e => failed e k
  | .ok k =>
    match k.discard (secretName id .password) with
    | .error e => failed e k
    | .ok k => (true, k, [⟨.info, "Credentials deleted for DB2 connection " ++ id⟩])

/-! ## Resolving a configuration -/

/-- Whether the keyring is asked: the configuration names a connection and does not have both
credentials. -/
def Config.asksKeyring (c : Config) : Bool :=
  c.connectionId.truthy && !(c.username.truthy && c.password.truthy)

/-- The configuration with missing credentials filled in from the keyring. -/
def Config.resolved (c : Config) (k : Keyring) : Config × Log :=
  if c.asksKeyring then
    let ((username, password), log) := k.credentials c.connectionId.plain
    ({ c with
        username := c.username.orElse (.text username)
        password := c.password.orElse (.text password) }, log)
  else (c, [])

end Db2Client.Connection
