import Db2Client.Proofs.Connection.CredentialStore

/-!
# What a failed save leaves behind

A pair of credentials is saved by two calls to the keyring, the user name first. When the first call
is refused the keyring stays as it was. When only the second is, the new user name has been stored
and nothing takes it back: the connection has the new user name and the old password.

So a failed save changes nothing exactly when the user name was refused, or was there before.

Main result: `failed_save_keeps_iff`.
-/

namespace Db2Client.Connection.Keyring

variable {id username password : String} {k : Keyring}

/-- The pair that a connection reads once no call to the keyring fails. -/
def pair (k : Keyring) (id : String) : String × String :=
  ({ k with fault := fun _ => none }.credentials id).1

theorem pair_eq (k : Keyring) (id : String) :
    k.pair id = ((k.held (secretName id .username)).getD "",
      (k.held (secretName id .password)).getD "") :=
  credentials_of_get_serves fun _ => rfl

/-- The two ways in which a save fails: before anything is stored, or after the user name is. -/
theorem failed_save_cases (h : (k.save id username password).1 = false) :
    k.fault (.set (secretName id .username)) ≠ none ∧ (k.save id username password).2.1 = k ∨
    k.fault (.set (secretName id .username)) = none ∧
      (k.save id username password).2.1.held =
        Function.update k.held (secretName id .username) (some username) := by
  obtain ⟨huser, k₁, hset, -, hheld⟩ | ⟨e, huser, hset⟩ :=
    k.set_cases (secretName id .username) username
  · refine .inr ⟨huser, ?_⟩
    obtain ⟨-, k₂, hset₂, -⟩ | ⟨e, -, hset₂⟩ := k₁.set_cases (secretName id .password) password
    · simp only [save, hset, hset₂] at h
      cases h
    · simp only [save, hset, hset₂]
      exact hheld
  · refine .inl ⟨by simp [huser], ?_⟩
    simp only [save, hset]

theorem pair_of_username_stored {k' : Keyring}
    (h : k'.held = Function.update k.held (secretName id .username) (some username))
    (id' : String) :
    k'.pair id' = if id' = id then (username, (k.pair id).2) else k.pair id' := by
  have hpassword : secretName id' .password ≠ secretName id .username := fun h =>
    nomatch (secretName_eq_iff.1 h).2
  rw [pair_eq, pair_eq, pair_eq, h, Function.update_of_ne hpassword]
  by_cases hid : id' = id
  · rw [if_pos hid, hid, Function.update_self]
    rfl
  · have huser : secretName id' .username ≠ secretName id .username := fun h =>
      hid (secretName_eq_iff.1 h).1
    rw [if_neg hid, Function.update_of_ne huser]

/-- **What a failed save leaves behind.** Other connections keep their pairs. The connection itself
keeps its pair when the user name was refused, and otherwise it has the new user name with the old
password. So nothing has changed exactly when the user name was refused or was there before. -/
theorem failed_save_keeps_iff (h : (k.save id username password).1 = false) :
    (∀ id', id' ≠ id → (k.save id username password).2.1.pair id' = k.pair id') ∧
    (k.save id username password).2.1.pair id =
      (if k.fault (.set (secretName id .username)) = none then (username, (k.pair id).2)
      else k.pair id) ∧
    ((∀ id', (k.save id username password).2.1.pair id' = k.pair id') ↔
      k.fault (.set (secretName id .username)) ≠ none ∨ (k.pair id).1 = username) := by
  obtain ⟨huser, hkept⟩ | ⟨huser, hstored⟩ := failed_save_cases h
  · rw [hkept, if_neg huser]
    exact ⟨fun _ _ => rfl, rfl, iff_of_true (fun _ => rfl) (.inl huser)⟩
  -- The user name was stored, so nothing has changed only if it was there before.
  · have hpair := pair_of_username_stored hstored
    have hown := hpair id
    rw [if_pos rfl] at hown
    rw [if_pos huser]
    refine ⟨fun id' hid => by rw [hpair, if_neg hid], hown, ?_⟩
    constructor
    · intro hkept
      rw [hkept id] at hown
      exact .inr (by rw [hown])
    · rintro (hrefused | hsame) id'
      · exact absurd huser hrefused
      · by_cases hid : id' = id
        · rw [hid, hown, ← hsame]
        · rw [hpair, if_neg hid]

/-- A keyring with one pair that refuses passwords. -/
def refusingPasswords : Keyring where
  secrets := .ofList [(secretName "as400" .username, "BOB"), (secretName "as400" .password, "old")]
  fault := fun call =>
    if call = .set (secretName "as400" .password) then some (.unavailable "locked") else none

/-- The user name that is saved was there before. -/
theorem failed_save_keeps_iff_same_user :
    (refusingPasswords.save "as400" "BOB" "new").1 = false ∧
      ∀ id, (refusingPasswords.save "as400" "BOB" "new").2.1.pair id =
        refusingPasswords.pair id := by
  have hfails : (refusingPasswords.save "as400" "BOB" "new").1 = false := by decide
  exact ⟨hfails, (failed_save_keeps_iff hfails).2.2.2 (.inr (by decide))⟩

/-- A new user name with an old password. -/
theorem new_user_with_old_password :
    (refusingPasswords.save "as400" "EVE" "new").1 = false ∧
      refusingPasswords.pair "as400" = ("BOB", "old") ∧
      (refusingPasswords.save "as400" "EVE" "new").2.1.pair "as400" = ("EVE", "old") := by
  decide

end Db2Client.Connection.Keyring
