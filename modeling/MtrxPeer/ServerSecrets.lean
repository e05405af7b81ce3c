import MtrxPeer.Aead
import MtrxPeer.Runs

/-! The secrets of the LLM servers: an API key and an admin token for each, which the store
keeps encrypted under a key that is made of the machine, the peer and its service. -/
namespace MtrxPeer

open Function (update update_of_ne update_self)

/-! ## Encryption -/

/-- What the key is made of: two variables of the environment and the configuration's ids. -/
structure SecretIdentity where
  computername : Option String
  hostname : Option String
  peerId : Option String
  serviceId : Option String

/-- `machine_secret_key`. -/
def machineSecretKey (P : Primitives) (identity : SecretIdentity) : Bytes :=
  let hostname := (identity.computername.or identity.hostname).getD "mtrxai"
  P.sha256 (utf8 "mtrxai-llm-server-secret-v1" ++ utf8 hostname ++
    utf8 (identity.peerId.getD "") ++ utf8 (identity.serviceId.getD ""))

/-- A row of either table: `LlmServerSecretRecord` and `LlmServerAdminTokenRecord`. -/
structure LlmServerSecretRecord where
  serverId : String
  nonce : Bytes
  ciphertext : Bytes

/-- `encrypt_api_key` with the nonce drawn, as a server's row. -/
def encryptApiKey (P : Primitives) (identity : SecretIdentity) (nonce : Bytes)
    (serverId plaintext : String) : LlmServerSecretRecord :=
  ⟨serverId, nonce, P.encrypt (machineSecretKey P identity) nonce [] (utf8 plaintext)⟩

/-- `decrypt_api_key`; `none` is its error. -/
def decryptApiKey (P : Primitives) (identity : SecretIdentity) (record : LlmServerSecretRecord) :
    Option String :=
  (P.decrypt (machineSecretKey P identity) record.nonce [] record.ciphertext).bind fromUtf8

/-! ## The store -/

/-- A table by its primary key. -/
abbrev SecretTable := String → Option LlmServerSecretRecord

namespace SecretTable

/-- The database's `insert`, which a row under the same primary key makes fail. -/
def insert (table : SecretTable) (record : LlmServerSecretRecord) : Option SecretTable :=
  if (table record.serverId).isSome then none
  else some (update table record.serverId (some record))

/-- The row of a server decrypted: `some none` without one, `none` for an error. -/
def read (P : Primitives) (identity : SecretIdentity) (table : SecretTable) (serverId : String) :
    Option (Option String) :=
  match table serverId with
  | none => some none
  | some record => (decryptApiKey P identity record).map some

/-- The row of a server is removed if there is one. -/
def delete (table : SecretTable) (serverId : String) : SecretTable :=
  match table serverId with
  | none => table
  | some record => update table record.serverId none

end SecretTable

structure SecretStore where
  apiKeys : SecretTable
  adminTokens : SecretTable

namespace SecretStore

variable (P : Primitives) (identity : SecretIdentity) (store : SecretStore)

/-- `put_server_api_key_sync`; `none` is its error. -/
def putServerApiKey (nonce : Bytes) (serverId apiKey : String) : Option SecretStore :=
  (store.apiKeys.insert (encryptApiKey P identity nonce serverId apiKey)).map fun apiKeys =>
    { store with apiKeys }

/-- `get_server_api_key_sync`. -/
def getServerApiKey (serverId : String) : Option (Option String) :=
  store.apiKeys.read P identity serverId

/-- `delete_server_api_key_sync`. -/
def deleteServerApiKey (serverId : String) : SecretStore :=
  { store with apiKeys := store.apiKeys.delete serverId }

/-- `has_server_api_key_sync`. -/
def hasServerApiKey (serverId : String) : Bool := (store.apiKeys serverId).isSome

/-- `put_server_admin_token_sync`; `none` is its error. -/
def putServerAdminToken (nonce : Bytes) (serverId adminToken : String) : Option SecretStore :=
  (store.adminTokens.insert (encryptApiKey P identity nonce serverId adminToken)).map
    fun adminTokens => { store with adminTokens }

/-- `get_server_admin_token_sync`. -/
def getServerAdminToken (serverId : String) : Option (Option String) :=
  store.adminTokens.read P identity serverId

/-- `delete_server_admin_token_sync`. -/
def deleteServerAdminToken (serverId : String) : SecretStore :=
  { store with adminTokens := store.adminTokens.delete serverId }

/-- `has_server_admin_token_sync`. -/
def hasServerAdminToken (serverId : String) : Bool := (store.adminTokens serverId).isSome

def empty : SecretStore := ⟨fun _ => none, fun _ => none⟩

end SecretStore

/-! ## Calls -/

inductive SecretKind where
  | apiKey
  | adminToken
  deriving DecidableEq

/-- A call, with the nonce that is drawn for what is put. -/
inductive SecretCall where
  | put (kind : SecretKind) (serverId secret : String) (nonce : Bytes)
  | get (kind : SecretKind) (serverId : String)
  | delete (kind : SecretKind) (serverId : String)
  | has (kind : SecretKind) (serverId : String)

def SecretCall.kind : SecretCall → SecretKind
  | .put kind .. | .get kind _ | .delete kind _ | .has kind _ => kind

def SecretCall.serverId : SecretCall → String
  | .put _ serverId .. | .get _ serverId | .delete _ serverId | .has _ serverId => serverId

inductive SecretAnswer where
  | done
  | failed
  | secret (found : Option String)
  | present (found : Bool)
  deriving DecidableEq

/-- The store after a put, or as it was where the put failed. -/
def SecretStore.written (store : SecretStore) : Option SecretStore → SecretStore × List SecretAnswer
  | some written => (written, [.done])
  | none => (store, [.failed])

/-- What a get answers. -/
def SecretAnswer.ofRead : Option (Option String) → SecretAnswer
  | some found => .secret found
  | none => .failed

/-- The store under calls of one identity. -/
def secretMachine (P : Primitives) (identity : SecretIdentity) :
    Machine SecretStore SecretCall SecretAnswer where
  step store
    | .put .apiKey serverId secret nonce =>
      store.written (store.putServerApiKey P identity nonce serverId secret)
    | .put .adminToken serverId secret nonce =>
      store.written (store.putServerAdminToken P identity nonce serverId secret)
    | .get .apiKey serverId => (store, [.ofRead (store.getServerApiKey P identity serverId)])
    | .get .adminToken serverId => (store, [.ofRead (store.getServerAdminToken P identity serverId)])
    | .delete .apiKey serverId => (store.deleteServerApiKey serverId, [.done])
    | .delete .adminToken serverId => (store.deleteServerAdminToken serverId, [.done])
    | .has .apiKey serverId => (store, [.present (store.hasServerApiKey serverId)])
    | .has .adminToken serverId => (store, [.present (store.hasServerAdminToken serverId)])

/-! ## Last write wins -/

/-- The secret of each kind and server. -/
abbrev Secrets := SecretKind → String → Option String

/-- One secret is set or taken away; the others stay. -/
def Secrets.set (held : Secrets) (kind : SecretKind) (serverId : String) (secret : Option String) :
    Secrets :=
  update held kind (update (held kind) serverId secret)

/-- What the calls are for: a put sets the secret, a delete takes it away, a get finds it. -/
def lastWrites : Machine Secrets SecretCall SecretAnswer where
  step held
    | .put kind serverId secret _ => (held.set kind serverId (some secret), [.done])
    | .get kind serverId => (held, [.secret (held kind serverId)])
    | .delete kind serverId => (held.set kind serverId none, [.done])
    | .has kind serverId => (held, [.present (held kind serverId).isSome])

/-- A put is for a server that has no secret of its kind. -/
def PutsNew (held : Secrets) : SecretCall → Prop
  | .put kind serverId _ _ => held kind serverId = none
  | _ => True

/-! ## One table at a time -/

/-- The table of a kind. -/
def SecretStore.table (store : SecretStore) : SecretKind → SecretTable
  | .apiKey => store.apiKeys
  | .adminToken => store.adminTokens

/-- The store with another table for a kind. -/
def SecretStore.withTable (store : SecretStore) (kind : SecretKind) (table : SecretTable) : SecretStore :=
  match kind with
  | .apiKey => { store with apiKeys := table }
  | .adminToken => { store with adminTokens := table }

@[simp] theorem table_withTable_self (store : SecretStore) (kind : SecretKind) (table : SecretTable) :
    (store.withTable kind table).table kind = table := by
  cases kind <;> rfl

theorem table_withTable_of_ne (store : SecretStore) {kind other : SecretKind} (table : SecretTable)
    (apart : other ≠ kind) : (store.withTable kind table).table other = store.table other := by
  cases kind <;> cases other <;> first | rfl | exact absurd rfl apart

section Steps

variable {P : Primitives} {identity : SecretIdentity} {store : SecretStore} {kind : SecretKind}
  {serverId secret : String} {nonce : Bytes}

/-- A put for a server without a secret enters it. -/
theorem put_new (free : store.table kind serverId = none) :
    (secretMachine P identity).step store (.put kind serverId secret nonce) =
      (store.withTable kind (update (store.table kind) serverId
        (some (encryptApiKey P identity nonce serverId secret))), [.done]) := by
  cases kind <;>
    simp_all [secretMachine, SecretStore.putServerApiKey, SecretStore.putServerAdminToken,
      SecretStore.written, SecretStore.table, SecretStore.withTable, SecretTable.insert, encryptApiKey]

/-- A put for a server that has a secret fails and leaves it. -/
theorem put_taken {record : LlmServerSecretRecord} (taken : store.table kind serverId = some record) :
    (secretMachine P identity).step store (.put kind serverId secret nonce) = (store, [.failed]) := by
  cases kind <;>
    simp_all [secretMachine, SecretStore.putServerApiKey, SecretStore.putServerAdminToken,
      SecretStore.written, SecretStore.table, SecretTable.insert, encryptApiKey]

theorem get_reads : (secretMachine P identity).step store (.get kind serverId) =
    (store, [.ofRead ((store.table kind).read P identity serverId)]) := by
  cases kind <;> rfl

theorem delete_deletes : (secretMachine P identity).step store (.delete kind serverId) =
    (store.withTable kind ((store.table kind).delete serverId), [.done]) := by
  cases kind <;> rfl

theorem has_looks : (secretMachine P identity).step store (.has kind serverId) =
    (store, [.present (store.table kind serverId).isSome]) := by
  cases kind <;> rfl

end Steps

/-! ## The tables against the secrets -/

/-- The row of a server holds its secret, or there is neither. -/
inductive RowKeeps (P : Primitives) (identity : SecretIdentity) (serverId : String) :
    Option LlmServerSecretRecord → Option String → Prop
  | nothing : RowKeeps P identity serverId none none
  | secret (nonce : Bytes) (secret : String) :
      RowKeeps P identity serverId (some (encryptApiKey P identity nonce serverId secret)) (some secret)

/-- The rows of the store hold the secrets. -/
def SecretStore.Holds (P : Primitives) (identity : SecretIdentity) (store : SecretStore)
    (held : Secrets) : Prop :=
  ∀ kind serverId, RowKeeps P identity serverId (store.table kind serverId) (held kind serverId)

variable {P : Primitives} {identity : SecretIdentity} {store : SecretStore} {held : Secrets}
  {kind : SecretKind} {serverId : String}

theorem SecretStore.Holds.set (holds : store.Holds P identity held)
    {row : Option LlmServerSecretRecord} {secret : Option String}
    (keeps : RowKeeps P identity serverId row secret) :
    (store.withTable kind (update (store.table kind) serverId row)).Holds P identity
      (held.set kind serverId secret) := by
  intro other server
  by_cases same : other = kind
  · subst same
    rw [table_withTable_self, Secrets.set, update_self]
    by_cases here : server = serverId
    · subst here
      rwa [update_self, update_self]
    · rw [update_of_ne here, update_of_ne here]
      exact holds other server
  · rw [table_withTable_of_ne store _ same, Secrets.set, update_of_ne same]
    exact holds other server

private theorem RowKeeps.isSome_eq {row : Option LlmServerSecretRecord} {found : Option String}
    (keeps : RowKeeps P identity serverId row found) : row.isSome = found.isSome := by
  cases keeps <;> rfl

private theorem RowKeeps.row_none {row : Option LlmServerSecretRecord}
    (keeps : RowKeeps P identity serverId row none) : row = none := by
  cases keeps
  rfl

private theorem delete_row {table : SecretTable} {found : Option String}
    (keeps : RowKeeps P identity serverId (table serverId) found) :
    table.delete serverId = update table serverId none := by
  unfold SecretTable.delete
  generalize row : table serverId = stored at keeps
  cases keeps with
  | nothing => exact (Function.update_eq_self_iff.mpr row.symm).symm
  | secret nonce secret => rfl

private theorem read_row (opens : P.Opens) {table : SecretTable} {found : Option String}
    (keeps : RowKeeps P identity serverId (table serverId) found) :
    table.read P identity serverId = some found := by
  unfold SecretTable.read
  generalize table serverId = row at keeps
  cases keeps with
  | nothing => rfl
  | secret nonce secret =>
    simp only [encryptApiKey, decryptApiKey]
    rw [opens, Option.bind_some, fromUtf8_utf8, Option.map_some]

/-- A call is answered as the secrets ask just when it is no put over a secret. -/
theorem answers_iff (opens : P.Opens) (holds : store.Holds P identity held) (call : SecretCall) :
    ((secretMachine P identity).step store call).2 = (lastWrites.step held call).2 ↔
      PutsNew held call := by
  cases call with
  | put kind serverId secret nonce =>
    have keeps := holds kind serverId
    rw [PutsNew]
    cases found : held kind serverId with
    | none =>
      rw [found] at keeps
      rw [put_new keeps.row_none]
      exact iff_of_true rfl rfl
    | some old =>
      rw [found] at keeps
      obtain ⟨record, row⟩ := Option.isSome_iff_exists.mp keeps.isSome_eq
      rw [put_taken row]
      exact iff_of_false (by simp [lastWrites]) (by simp)
  | get kind serverId =>
    refine iff_of_true ?_ trivial
    rw [get_reads, read_row opens (holds kind serverId)]
    rfl
  | delete kind serverId =>
    rw [delete_deletes]
    exact iff_of_true rfl trivial
  | has kind serverId =>
    refine iff_of_true ?_ trivial
    rw [has_looks, (holds kind serverId).isSome_eq]
    rfl

/-- Such a call leaves the store with the secrets that it is for. -/
theorem holds_step (holds : store.Holds P identity held) {call : SecretCall}
    (new : PutsNew held call) :
    ((secretMachine P identity).step store call).1.Holds P identity (lastWrites.step held call).1 := by
  cases call with
  | put kind serverId secret nonce =>
    have keeps := holds kind serverId
    rw [show held kind serverId = none from new] at keeps
    rw [put_new keeps.row_none]
    exact holds.set (.secret nonce secret)
  | get kind serverId =>
    rw [get_reads]
    exact holds
  | delete kind serverId =>
    rw [delete_deletes, delete_row (holds kind serverId)]
    exact holds.set .nothing
  | has kind serverId =>
    rw [has_looks]
    exact holds

/-! ## Whole runs -/

/-- The calls of a run are answered as last write wins asks just when each put is for a server
that holds no secret of its kind. -/
theorem secrets_last_write_iff (P : Primitives) (opens : P.Opens) (identity : SecretIdentity)
    (calls : List SecretCall) :
    (secretMachine P identity).outputs .empty calls = lastWrites.outputs (fun _ _ => none) calls ↔
      lastWrites.Along PutsNew (fun _ _ => none) calls := by
  have start : SecretStore.empty.Holds P identity fun _ _ => none := by
    intro kind serverId
    cases kind <;> exact .nothing
  exact Machine.outputs_eq_iff (fun _ _ call holds => answers_iff opens holds call)
    (fun _ _ _ holds new => holds_step holds new) start calls

private def secretSample : SecretIdentity := ⟨none, none, some "peer", some "svc"⟩

/-- A key that is deleted before the next one is put. -/
private def rotatedByDelete : List SecretCall :=
  [.put .apiKey "srv-1" "sk-old" [1], .delete .apiKey "srv-1", .put .apiKey "srv-1" "sk-new" [2],
    .get .apiKey "srv-1"]

theorem secrets_last_write_sample :
    (secretMachine .transparent secretSample).outputs .empty rotatedByDelete =
      lastWrites.outputs (fun _ _ => none) rotatedByDelete :=
  (secrets_last_write_iff .transparent Primitives.transparent_ideal.opens secretSample
    rotatedByDelete).mpr ⟨rfl, trivial, rfl, trivial, trivial⟩

/-- A second key is not taken, and the first one stays. -/
theorem second_key_refused :
    let calls : List SecretCall :=
      [.put .apiKey "srv-1" "sk-old" [1], .put .apiKey "srv-1" "sk-new" [2], .get .apiKey "srv-1"]
    (secretMachine .transparent secretSample).outputs .empty calls =
        [[.done], [.failed], [.secret (some "sk-old")]] ∧
      lastWrites.outputs (fun _ _ => none) calls = [[.done], [.done], [.secret (some "sk-new")]] := by
  decide +kernel

/-- `put_llm_server_api_key`, for a server that the configuration lists or does not, with the
status of its answer. An empty key and no key delete the one there is. -/
def putLlmServerApiKey (P : Primitives) (identity : SecretIdentity) (nonce : Bytes)
    (configured : Bool) (store : SecretStore) (id : String) (apiKey : Option String) :
    SecretStore × Nat :=
  if !configured then (store, 404)
  else
    match apiKey.filter (· ≠ "") with
    | some apiKey =>
      match store.putServerApiKey P identity nonce id apiKey with
      | some store => (store, 200)
      | none => (store, 500)
    | none => (store.deleteServerApiKey id, 200)

/-- A new key for a server that has one is refused, and the old one stays. -/
theorem key_rotation_refused {record : LlmServerSecretRecord} {id apiKey : String} {nonce : Bytes}
    (stored : store.apiKeys id = some record) (given : apiKey ≠ "") :
    putLlmServerApiKey P identity nonce true store id (some apiKey) = (store, 500) := by
  have kept : (some apiKey).filter (· ≠ "") = some apiKey := by simp [given]
  have refused : store.putServerApiKey P identity nonce id apiKey = none := by
    simp [SecretStore.putServerApiKey, SecretTable.insert, encryptApiKey, stored]
  simp only [putLlmServerApiKey, kept, refused]
  rfl

private theorem delete_of_ne {table : SecretTable} {server : String} (apart : server ≠ serverId)
    (keyed : ∀ serverId record, table serverId = some record → record.serverId = serverId) :
    table.delete serverId server = table server := by
  unfold SecretTable.delete
  cases row : table serverId with
  | none => rfl
  | some record =>
    have other : server ≠ record.serverId := by rwa [keyed serverId record row]
    exact update_of_ne other _ _

/-- Whatever is stored, a call changes no row of another server or another kind. -/
theorem call_changes_own_row {call : SecretCall}
    (keyed : ∀ kind serverId record, store.table kind serverId = some record → record.serverId = serverId)
    (apart : (kind, serverId) ≠ (call.kind, call.serverId)) :
    ((secretMachine P identity).step store call).1.table kind serverId = store.table kind serverId := by
  have withOther : ∀ table : SecretTable,
      (serverId ≠ call.serverId → table serverId = store.table call.kind serverId) →
      (store.withTable call.kind table).table kind serverId = store.table kind serverId := by
    intro table others
    by_cases same : kind = call.kind
    · rw [same, table_withTable_self]
      exact others fun here => apart (by rw [same, here])
    · rw [table_withTable_of_ne store _ same]
  cases call with
  | put kind' serverId' secret nonce =>
    cases row : store.table kind' serverId' with
    | none =>
      rw [put_new row]
      exact withOther _ fun other => update_of_ne other _ _
    | some record => rw [put_taken row]
  | get kind' serverId' => rw [get_reads]
  | delete kind' serverId' =>
    rw [delete_deletes]
    exact withOther _ fun other => delete_of_ne other (keyed kind')
  | has kind' serverId' => rw [has_looks]

end MtrxPeer
