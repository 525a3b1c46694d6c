import Mathlib.Logic.Function.Basic
import Db2Client.Proofs.Connection.Preparation
import Db2Client.Proofs.OrderedMap

/-!
# The keyring as a store of credentials

The user name and the password of a connection are two of the secrets in one flat keyring, under
names that are composed from the connection's identifier. The composed names never meet, whatever
the identifiers are (`secretName_eq_iff`), so the keyring serves as a map from connections to pairs.

* `after_sameBeside`: no request touches another connection, whether it succeeds or fails.
* `credentials_after`: what one request that is served leaves for its own connection.
* `credentials_afterAll`: after a run of requests that are all served, a connection has what was
  written for it last.

Any call to a keyring may also fail. `save_cases` and `forget_cases` say which failures make a
request fail. A missing secret is none of them, and the other one is still deleted.
-/

namespace Db2Client.Connection

/-! ## Names -/

theorem secretName_key_toList (id : String) (field : CredentialField) :
    (secretName id field).key.toList =
      "db2:".toList ++ (id.toList ++ (":" ++ field.text).toList) := by
  rw [secretName, String.toList_append, String.toList_append, String.toList_append,
    String.toList_append, List.append_assoc, List.append_assoc]

theorem length_toList_text (field : CredentialField) : (":" ++ field.text).toList.length = 9 := by
  cases field <;> decide

theorem text_injective : ∀ {field field' : CredentialField},
    (":" ++ field.text).toList = (":" ++ field'.text).toList → field = field'
  | .username, .username, _ | .password, .password, _ => rfl
  | .username, .password, h | .password, .username, h => absurd h (by decide)

/-- The names of the two fields are equally long, so what stands before them is the identifier. -/
theorem secretName_eq_iff {id id' : String} {field field' : CredentialField} :
    secretName id field = secretName id' field' ↔ id = id' ∧ field = field' := by
  constructor
  · intro h
    have hkey := congrArg (fun name : SecretName => name.key.toList) h
    simp only [secretName_key_toList] at hkey
    have hlength : (":" ++ field.text).toList.length = (":" ++ field'.text).toList.length := by
      rw [length_toList_text, length_toList_text]
    obtain ⟨hid, hfield⟩ := List.append_inj' (List.append_cancel_left hkey) hlength
    exact ⟨String.toList_injective hid, text_injective hfield⟩
  · rintro ⟨rfl, rfl⟩
    rfl

/-- What a field holds of a pair of credentials. -/
def CredentialField.of : CredentialField → String × String → String
  | .username, pair => pair.1
  | .password, pair => pair.2

namespace Keyring

/-! ## One secret -/

/-- The secret under a name. -/
def held (k : Keyring) (name : SecretName) : Option String := k.secrets.get? name

theorem held_insert (k : Keyring) (name : SecretName) (secret : String) :
    held { k with secrets := k.secrets.insert name secret } =
      Function.update k.held name (some secret) := by
  funext n
  rw [held, OrderedMap.get?_insert, Function.update_apply]
  by_cases hn : n = name
  · simp [hn]
  · simp [hn, Ne.symm hn, held]

theorem held_erase (k : Keyring) (name : SecretName) :
    held { k with secrets := k.secrets.erase name } = Function.update k.held name none := by
  funext n
  rw [held, OrderedMap.get?_erase, Function.update_apply]
  by_cases hn : n = name
  · simp [hn]
  · simp [hn, Ne.symm hn, held]

theorem set_cases (k : Keyring) (name : SecretName) (secret : String) :
    (k.fault (.set name) = none ∧ ∃ k', k.set name secret = .ok k' ∧ k'.fault = k.fault ∧
      k'.held = Function.update k.held name (some secret)) ∨
    ∃ e, k.fault (.set name) = some e ∧ k.set name secret = .error e := by
  cases h : k.fault (.set name) with
  | none =>
    exact .inl ⟨rfl, { k with secrets := k.secrets.insert name secret }, by rw [set, h], rfl,
      held_insert k name secret⟩
  | some e => exact .inr ⟨e, rfl, by rw [set, h]⟩

/-- The failure is one that a deletion does not get over. -/
def RefusesDelete (k : Keyring) (name : SecretName) : Prop :=
  ∃ text, k.fault (.delete name) = some (.unavailable text)

/-- What the deletion of a secret leaves under its name. A keyring that calls the secret missing
keeps it. -/
def remains (k : Keyring) (name : SecretName) : Option String :=
  if k.fault (.delete name) = none then none else k.held name

theorem discard_cases (k : Keyring) (name : SecretName) :
    (¬ k.RefusesDelete name ∧ ∃ k', k.discard name = .ok k' ∧ k'.fault = k.fault ∧
      k'.held = Function.update k.held name (k.remains name)) ∨
    k.RefusesDelete name ∧ ∃ e, k.discard name = .error e := by
  cases h : k.fault (.delete name) with
  | none =>
    refine .inl ⟨by simp [RefusesDelete, h], ?_⟩
    rw [remains, if_pos h, discard, delete, h]
    by_cases hname : k.secrets.contains name = true
    · exact ⟨{ k with secrets := k.secrets.erase name }, by simp only [hname, if_true], rfl,
        held_erase k name⟩
    · have hnone : k.held name = none :=
        OrderedMap.get?_eq_none_iff.2 (mt OrderedMap.contains_iff.2 hname)
      refine ⟨k, by simp only [hname, Bool.false_eq_true, if_false], rfl, ?_⟩
      rw [← hnone, Function.update_eq_self]
  | some e =>
    cases e with
    | absent =>
      refine .inl ⟨by simp [RefusesDelete, h], k, by rw [discard, delete, h], rfl, ?_⟩
      rw [remains, if_neg (by simp [h]), Function.update_eq_self]
    | unavailable text =>
      exact .inr ⟨⟨text, h⟩, .unavailable text, by rw [discard, delete, h]⟩

/-! ## One connection -/

/-- The keyrings fail alike, and hold the same secrets of every connection but one. -/
structure SameBeside (id : String) (k k' : Keyring) : Prop where
  fault_eq : k'.fault = k.fault
  held_eq : ∀ id' ≠ id, ∀ field, k'.held (secretName id' field) = k.held (secretName id' field)

variable {id : String} {k k' k'' : Keyring}

theorem SameBeside.refl (id : String) (k : Keyring) : SameBeside id k k := ⟨rfl, fun _ _ _ => rfl⟩

theorem SameBeside.trans (h : SameBeside id k k') (h' : SameBeside id k' k'') :
    SameBeside id k k'' where
  fault_eq := h'.fault_eq.trans h.fault_eq
  held_eq id' hid field := (h'.held_eq id' hid field).trans (h.held_eq id' hid field)

theorem sameBeside_of_update {field : CredentialField} {secret : Option String}
    (hfault : k'.fault = k.fault)
    (hheld : k'.held = Function.update k.held (secretName id field) secret) :
    SameBeside id k k' := by
  refine ⟨hfault, fun id' hid field' => ?_⟩
  rw [hheld, Function.update_of_ne]
  exact fun h => hid (secretName_eq_iff.1 h).1

theorem username_ne_password (id : String) :
    secretName id .username ≠ secretName id .password := fun h =>
  nomatch (secretName_eq_iff.1 h).2

/-- The two secrets are written one after the other, and the second leaves the first. -/
theorem held_of_updates {username password : Option String}
    (h : k'.held = Function.update k.held (secretName id .username) username)
    (h' : k''.held = Function.update k'.held (secretName id .password) password) :
    k''.held (secretName id .username) = username ∧
      k''.held (secretName id .password) = password := by
  rw [h', h, Function.update_of_ne (username_ne_password id), Function.update_self,
    Function.update_self]
  exact ⟨rfl, rfl⟩

theorem save_cases (k : Keyring) (id username password : String) :
    SameBeside id k (k.save id username password).2.1 ∧
    (((∀ field, k.fault (.set (secretName id field)) = none) ∧
        (k.save id username password).1 = true ∧
        ∀ field, (k.save id username password).2.1.held (secretName id field) =
          some (field.of (username, password))) ∨
      (∃ field e, k.fault (.set (secretName id field)) = some e) ∧
        (k.save id username password).1 = false) := by
  obtain ⟨huser, k₁, hset, hfault₁, hheld₁⟩ | ⟨e, huser, hset⟩ :=
    k.set_cases (secretName id .username) username
  · have hsame₁ : SameBeside id k k₁ := sameBeside_of_update hfault₁ hheld₁
    obtain ⟨hpass, k₂, hset₂, hfault₂, hheld₂⟩ | ⟨e, hpass, hset₂⟩ :=
      k₁.set_cases (secretName id .password) password
    · rw [hfault₁] at hpass
      simp only [save, hset, hset₂]
      refine ⟨hsame₁.trans (sameBeside_of_update hfault₂ hheld₂), .inl ⟨?_, trivial, ?_⟩⟩
      · rintro (_ | _)
        exacts [huser, hpass]
      · obtain ⟨husername, hpassword⟩ := held_of_updates hheld₁ hheld₂
        rintro (_ | _)
        exacts [husername, hpassword]
    · rw [hfault₁] at hpass
      simp only [save, hset, hset₂]
      exact ⟨hsame₁, .inr ⟨⟨.password, e, hpass⟩, trivial⟩⟩
  · simp only [save, hset]
    exact ⟨.refl id k, .inr ⟨⟨.username, e, huser⟩, trivial⟩⟩

theorem forget_cases (k : Keyring) (id : String) :
    SameBeside id k (k.forget id).2.1 ∧
    (((∀ field, ¬ k.RefusesDelete (secretName id field)) ∧ (k.forget id).1 = true ∧
        ∀ field, (k.forget id).2.1.held (secretName id field) =
          k.remains (secretName id field)) ∨
      (∃ field, k.RefusesDelete (secretName id field)) ∧ (k.forget id).1 = false) := by
  obtain ⟨huser, k₁, hdiscard, hfault₁, hheld₁⟩ | ⟨huser, e, hdiscard⟩ :=
    k.discard_cases (secretName id .username)
  · have hsame₁ : SameBeside id k k₁ := sameBeside_of_update hfault₁ hheld₁
    have hremains : k₁.remains (secretName id .password) = k.remains (secretName id .password) := by
      rw [remains, remains, hfault₁, hheld₁, Function.update_of_ne (username_ne_password id).symm]
    obtain ⟨hpass, k₂, hdiscard₂, hfault₂, hheld₂⟩ | ⟨hpass, e, hdiscard₂⟩ :=
      k₁.discard_cases (secretName id .password)
    · rw [RefusesDelete, hfault₁] at hpass
      simp only [forget, hdiscard, hdiscard₂]
      refine ⟨hsame₁.trans (sameBeside_of_update hfault₂ hheld₂), .inl ⟨?_, trivial, ?_⟩⟩
      · rintro (_ | _)
        exacts [huser, hpass]
      · obtain ⟨husername, hpassword⟩ := held_of_updates hheld₁ hheld₂
        rintro (_ | _)
        exacts [husername, hpassword.trans hremains]
    · rw [RefusesDelete, hfault₁] at hpass
      simp only [forget, hdiscard, hdiscard₂]
      exact ⟨hsame₁, .inr ⟨⟨.password, hpass⟩, trivial⟩⟩
  · simp only [forget, hdiscard]
    exact ⟨.refl id k, .inr ⟨⟨.username, huser⟩, trivial⟩⟩

/-- What is read depends on the failures and on the connection's own two secrets. -/
theorem credentials_congr (hfault : k'.fault = k.fault)
    (hheld : ∀ field, k'.held (secretName id field) = k.held (secretName id field)) :
    (k'.credentials id).1 = (k.credentials id).1 := by
  have hget : ∀ field, k'.get (secretName id field) = k.get (secretName id field) := by
    intro field
    have hsecret : k'.secrets.get? _ = k.secrets.get? _ := hheld field
    rw [get, get, hfault, hsecret]
  simp only [credentials_eq, stored, hget]

theorem credentials_of_get_fails {field : CredentialField} {e : KeyringError}
    (h : k.fault (.get (secretName id field)) = some e) : (k.credentials id).1 = ("", "") := by
  have hget : k.get (secretName id field) = .error e := by rw [get, h]
  rw [credentials_eq, stored, stored]
  cases field with
  | username => rw [hget]
  | password =>
    rw [hget]
    cases k.get (secretName id .username) <;> rfl

theorem credentials_of_get_serves (h : ∀ field, k.fault (.get (secretName id field)) = none) :
    (k.credentials id).1 = ((k.held (secretName id .username)).getD "",
      (k.held (secretName id .password)).getD "") := by
  have hget : ∀ field, k.get (secretName id field) = .ok (k.held (secretName id field)) := by
    intro field
    rw [get, h field]
    rfl
  simp only [credentials_eq, stored, hget]

end Keyring

/-! ## Requests -/

/-- What is asked of the store. -/
inductive CredentialRequest where
  | save (id username password : String)
  | forget (id : String)
  | read (id : String)

namespace CredentialRequest

/-- The connection that is meant. -/
def connection : CredentialRequest → String
  | save id _ _ | forget id | read id => id

/-- The call that is made for a field. -/
def call (field : CredentialField) : CredentialRequest → KeyringCall
  | save id _ _ => .set (secretName id field)
  | forget id => .delete (secretName id field)
  | read id => .get (secretName id field)

/-- The keyring afterwards. -/
def after : CredentialRequest → Keyring → Keyring
  | save id username password, k => (k.save id username password).2.1
  | forget id, k => (k.forget id).2.1
  | read _, k => k

/-- Whether the store says that it succeeded. To read is to get a pair in any case. -/
def succeeds : CredentialRequest → Keyring → Bool
  | save id username password, k => (k.save id username password).1
  | forget id, k => (k.forget id).1
  | read _, _ => true

/-- The pair that a request writes for its connection. To delete is to write an empty pair. -/
def pair? : CredentialRequest → Option (String × String)
  | save _ username password => some (username, password)
  | forget _ => some ("", "")
  | read _ => none

/-- The pair that a request writes for one connection. -/
def writes (id : String) (r : CredentialRequest) : Option (String × String) :=
  if r.connection = id then r.pair? else none

end CredentialRequest

namespace Keyring

/-- Neither call of the request is refused. What is absent may still be reported as absent. -/
def Serves (k : Keyring) (r : CredentialRequest) : Prop := ∀ field, k.fault (r.call field) = none

/-- The keyring after requests that are made one after another. -/
def afterAll (k : Keyring) : List CredentialRequest → Keyring
  | [] => k
  | r :: rest => (r.after k).afterAll rest

variable {id : String} {k k' : Keyring} {r : CredentialRequest}

theorem after_sameBeside (r : CredentialRequest) (k : Keyring) :
    SameBeside r.connection k (r.after k) := by
  cases r with
  | save id username password => exact (k.save_cases id username password).1
  | forget id => exact (k.forget_cases id).1
  | read id => exact .refl id k

theorem credentials_after_other (h : r.connection ≠ id) :
    ((r.after k).credentials id).1 = (k.credentials id).1 :=
  have hsame := after_sameBeside r k
  credentials_congr hsame.fault_eq (hsame.held_eq id h.symm)

theorem succeeds_of_serves (h : k.Serves r) : r.succeeds k = true := by
  cases r with
  | save id username password =>
    obtain ⟨-, ⟨-, htrue, -⟩ | ⟨⟨field, e, he⟩, -⟩⟩ := k.save_cases id username password
    · exact htrue
    · exact absurd ((h field).symm.trans he) (by simp)
  | forget id =>
    obtain ⟨-, ⟨-, htrue, -⟩ | ⟨⟨field, text, he⟩, -⟩⟩ := k.forget_cases id
    · exact htrue
    · exact absurd ((h field).symm.trans he) (by simp)
  | read id => rfl

/-- **One request.** The connection has the pair that was written for it, or what it had. -/
theorem credentials_after (hr : k.Serves r) (hread : k.Serves (.read id)) :
    ((r.after k).credentials id).1 = (r.writes id).getD (k.credentials id).1 := by
  by_cases hid : r.connection = id
  · subst hid
    have hsame := after_sameBeside r k
    have hget : ∀ field, (r.after k).fault (.get (secretName r.connection field)) = none := by
      rw [hsame.fault_eq]
      exact hread
    rw [CredentialRequest.writes, if_pos rfl]
    cases r with
    | save id username password =>
      obtain ⟨-, ⟨-, -, hheld⟩ | ⟨⟨field, e, he⟩, -⟩⟩ := k.save_cases id username password
      · rw [credentials_of_get_serves hget]
        simp only [CredentialRequest.after, CredentialRequest.connection, hheld]
        rfl
      · exact absurd ((hr field).symm.trans he) (by simp)
    | forget id =>
      obtain ⟨-, ⟨-, -, hheld⟩ | ⟨⟨field, text, he⟩, -⟩⟩ := k.forget_cases id
      -- Only what the keyring refuses to delete would remain.
      · have hnone : ∀ field, k.remains (secretName id field) = none := fun field =>
          if_pos (hr field)
        rw [credentials_of_get_serves hget]
        simp only [CredentialRequest.after, CredentialRequest.connection, hheld, hnone]
        rfl
      · exact absurd ((hr field).symm.trans he) (by simp)
    | read id => rfl
  · rw [credentials_after_other hid, CredentialRequest.writes, if_neg hid]
    rfl

/-- **A run of requests.** What was written last counts. -/
theorem credentials_afterAll {requests : List CredentialRequest}
    (hserved : ∀ r ∈ requests, k.Serves r) (hread : k.Serves (.read id)) :
    ((k.afterAll requests).credentials id).1 =
      (requests.filterMap (·.writes id)).getLast?.getD (k.credentials id).1 := by
  induction requests generalizing k with
  | nil => rfl
  | cons r rest ih =>
    obtain ⟨hr, hrest⟩ := List.forall_mem_cons.1 hserved
    -- A request changes secrets and not faults, so the rest of the run is still served.
    have hfault := (after_sameBeside r k).fault_eq
    have hrest' : ∀ r' ∈ rest, (r.after k).Serves r' := by simpa only [Serves, hfault] using hrest
    have hread' : (r.after k).Serves (.read id) := by simpa only [Serves, hfault] using hread
    rw [afterAll, ih hrest' hread', credentials_after hr hread]
    cases h : r.writes id with
    | none => rw [List.filterMap_cons_none h]; rfl
    | some pair => rw [List.filterMap_cons_some h, List.getLast?_cons]; rfl

theorem credentials_of_held_none (h : ∀ field, k.held (secretName id field) = none) :
    (k.credentials id).1 = ("", "") := by
  by_cases hget : ∀ field, k.fault (.get (secretName id field)) = none
  · rw [credentials_of_get_serves hget, h, h]
    rfl
  · obtain ⟨field, hfield⟩ := not_forall.1 hget
    obtain ⟨e, he⟩ := Option.ne_none_iff_exists'.1 hfield
    exact credentials_of_get_fails he

theorem afterAll_fault (k : Keyring) (requests : List CredentialRequest) :
    (k.afterAll requests).fault = k.fault := by
  induction requests generalizing k with
  | nil => rfl
  | cons r rest ih => exact (ih (r.after k)).trans (after_sameBeside r k).fault_eq

theorem save_eq_false_iff {username password : String} :
    (k.save id username password).1 = false ↔
      ∃ field e, k.fault (.set (secretName id field)) = some e := by
  obtain ⟨-, ⟨hnone, htrue, -⟩ | ⟨hfault, hfalse⟩⟩ := k.save_cases id username password
  · simp [htrue, hnone]
  · exact iff_of_true hfalse hfault

theorem forget_eq_false_iff :
    (k.forget id).1 = false ↔ ∃ field, k.RefusesDelete (secretName id field) := by
  obtain ⟨-, ⟨hnone, htrue, -⟩ | ⟨hfault, hfalse⟩⟩ := k.forget_cases id
  · simp [htrue, hnone]
  · exact iff_of_true hfalse hfault

theorem held_of_forget (h : (k.forget id).1 = true) (field : CredentialField) :
    (k.forget id).2.1.held (secretName id field) = k.remains (secretName id field) := by
  obtain ⟨-, ⟨-, -, hheld⟩ | ⟨-, hfalse⟩⟩ := k.forget_cases id
  · exact hheld field
  · exact absurd (h.symm.trans hfalse) (by decide)

/-- **The credential store is a map from connections to pairs.** As long as the keyring refuses
nothing, a connection reads what was written for it last, and every request succeeds. Whatever the
keyring refuses, no request changes what another connection reads; a save fails when one of its
calls does; a deletion fails when one of its calls is refused, and not when a secret is absent; and
a read of which one call fails gives the empty pair. -/
theorem credentials_kept (k : Keyring) :
    ((∀ requests id, (∀ r ∈ requests ++ [.read id], k.Serves r) →
        ((k.afterAll requests).credentials id).1 =
          (requests.filterMap (·.writes id)).getLast?.getD (k.credentials id).1) ∧
      (∀ id, (∀ field, k.held (secretName id field) = none) → (k.credentials id).1 = ("", "")) ∧
      (∀ requests r, (∀ r' ∈ requests ++ [r], k.Serves r') →
        r.succeeds (k.afterAll requests) = true)) ∧
    (∀ (r : CredentialRequest) id, r.connection ≠ id →
      ((r.after k).credentials id).1 = (k.credentials id).1) ∧
    (∀ id username password, (k.save id username password).1 = false ↔
      ∃ field e, k.fault (.set (secretName id field)) = some e) ∧
    (∀ id, ((k.forget id).1 = false ↔
        ∃ field text, k.fault (.delete (secretName id field)) = some (.unavailable text)) ∧
      ((k.forget id).1 = true → ∀ field, (k.forget id).2.1.held (secretName id field) =
        if k.fault (.delete (secretName id field)) = none then none
        else k.held (secretName id field))) ∧
    ∀ id field e, k.fault (.get (secretName id field)) = some e →
      (k.credentials id).1 = ("", "") := by
  refine ⟨⟨fun requests id hserved => ?_, fun id => credentials_of_held_none,
    fun requests r hserved => ?_⟩, fun r id => credentials_after_other,
    fun id username password => save_eq_false_iff,
    fun id => ⟨forget_eq_false_iff, held_of_forget⟩, fun id field e => credentials_of_get_fails⟩
  · obtain ⟨hrequests, hread⟩ := List.forall_mem_append.1 hserved
    exact credentials_afterAll hrequests (hread _ (List.mem_singleton_self _))
  · have hr : k.Serves r := hserved r (List.mem_append_right _ (List.mem_singleton_self r))
    -- What a keyring refuses is the same before and after the run.
    apply succeeds_of_serves
    rwa [Serves, afterAll_fault]

/-- Two connections whose identifiers look like parts of each other's names, and a keyring that
reports a user name as absent and refuses to give it. -/
theorem credentials_kept_colons :
    let requests : List CredentialRequest :=
      [.save "a" "BOB" "x", .save "a:username" "EVE" "y", .forget "a:username",
        .save "a:username" "ANN" "z", .save "a" "ROB" "w", .forget "a:username"]
    let k : Keyring := {
      secrets := .ofList [(secretName "a" .username, "BOB"), (secretName "a" .password, "x")]
      fault := fun call =>
        if call = .delete (secretName "a" .username) then some .absent
        else if call = .get (secretName "a" .username) then some (.unavailable "locked")
        else none }
    (((({} : Keyring).afterAll requests).credentials "a").1 = ("ROB", "w") ∧
      ((({} : Keyring).afterAll requests).credentials "a:username").1 = ("", "") ∧
      (CredentialRequest.forget "a").succeeds (({} : Keyring).afterAll requests) = true) ∧
    (k.forget "a").1 = true ∧ (k.forget "a").2.1.held (secretName "a" .password) = none ∧
      (k.credentials "a").1 = ("", "") := by
  intro requests k
  have hserves : ∀ r, ({} : Keyring).Serves r := fun _ _ => rfl
  have hempty : ∀ id, (({} : Keyring).credentials id).1 = ("", "") := fun _ => rfl
  obtain ⟨⟨hlast, -, hsucceeds⟩, -⟩ := credentials_kept {}
  obtain ⟨-, -, -, hforget, hread⟩ := credentials_kept k
  have htrue : (k.forget "a").1 = true := by decide
  refine ⟨⟨?_, ?_, hsucceeds requests _ fun r _ => hserves r⟩, htrue, ?_, ?_⟩
  · rw [hlast requests "a" fun r _ => hserves r, hempty]
    decide
  · rw [hlast requests "a:username" fun r _ => hserves r, hempty]
    decide
  · rw [(hforget "a").2 htrue]
    decide
  · exact hread "a" .username (.unavailable "locked") (by decide)

end Keyring
end Db2Client.Connection
