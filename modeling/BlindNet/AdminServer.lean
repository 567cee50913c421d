import BlindNet.AdminForm
import BlindNet.TableStores
import BlindNet.Conscience

/-!
# Admin server

The life cycle of the server, its challenge and lock, and the handlers of its ten
routes. A handler runs to its end as one step. Reads and writes of NVS may fail;
a handler that saves two tables passes through the storage in between. The window
timer is an input that may come at any time; what a closed window tells the rest
of the firmware is left out, as are the pages the server sends.
-/

namespace BlindNet

set_option autoImplicit false

open ByteLayout

inductive AdminServerMode where
  | bootstrap
  | maintenance
  deriving DecidableEq, Repr

/-- The static variables: `server` is whether `s_server` is set. -/
structure AdminServer where
  server : Bool
  running : Bool
  unlocked : Bool
  mode : AdminServerMode
  challenge : ByteArr 32
  challengeValid : Bool

/-- What the namespaces of the configuration and of the two tables hold. A stored
configuration that does not load counts as absent. -/
structure AdminStorage where
  config : Option ZoneguardConfig
  ribosome : Option Bytes
  rna : Option Bytes

/-- The primitives the server calls. It verifies signatures with `mbedtls_pk_verify`
for whatever kind of key `mbedtls_pk_parse_public_key` accepts. -/
structure AdminCrypto extends Crypto where
  mbedtlsPkVerify : (publicKey : Bytes) → (hash : ByteArr 32) → (signature : Bytes) → Bool

/-- What one step meets outside the server: memory, random numbers and NVS. -/
structure AdminEnvironment where
  memory : Bool
  challengeRandom : ByteArr 32
  secretRandom : ByteArr 32
  configFault : Bool
  ribosomeFault : Option NvsFault
  rnaFault : Option NvsFault
  configWrite : NvsWrite
  ribosomeWrite : NvsWrite
  rnaWrite : NvsWrite

inductive HttpStatus where
  | badRequest
  | notFound
  | internalServerError
  deriving DecidableEq, Repr

inductive AdminResponse where
  | failed (status : HttpStatus) (message : String)
  | sent (text : String)
  | redirected
  | page
  deriving DecidableEq, Repr

structure AdminAnswer where
  result : Result Unit
  response : AdminResponse

def AdminAnswer.refused (err : EspErr) (status : HttpStatus) (message : String) : AdminAnswer :=
  ⟨.error err, .failed status message⟩

def AdminServer.boot : AdminServer where
  server := false
  running := false
  unlocked := false
  mode := .bootstrap
  challenge := List.Vector.replicate 32 0
  challengeValid := false

namespace AdminServer

/-! ## Life cycle -/

def generateChallenge (env : AdminEnvironment) (server : AdminServer) : AdminServer :=
  { server with challenge := env.challengeRandom, challengeValid := true }

def clearChallenge (server : AdminServer) : AdminServer :=
  { server with challenge := List.Vector.replicate 32 0, challengeValid := false }

def clearRuntimeState (server : AdminServer) : AdminServer :=
  { server.clearChallenge with server := false, running := false, unlocked := false }

/-- `stopped` is what `httpd_stop` answers; after a failure the handlers stay
registered and the server counts as running. -/
def stopInternal (stopped : Result Unit) (server : AdminServer) : Result Unit × AdminServer :=
  if !server.server then
    (.ok (), server.clearRuntimeState)
  else
    let locked := { server.clearChallenge with unlocked := false }
    match stopped with
    | .ok () => (.ok (), locked.clearRuntimeState)
    | .error err => (.error err, locked)

/-- The retries of `httpd_start`: the first success ends the loop. -/
def httpdStart (attempts : Fin 6 → Result Unit) : Result Unit :=
  (List.ofFn attempts).foldl
    (fun result attempt =>
      match result with
      | .ok () => .ok ()
      | .error _ => attempt)
    (.error .fail)

/-- A start and the challenges it draws. -/
def start (env : AdminEnvironment) (mode : AdminServerMode) (attempts : Fin 6 → Result Unit)
    (server : AdminServer) : Result Unit × AdminServer × List (ByteArr 32) :=
  if server.running then
    (.ok (), server, [])
  else
    let locked := { server with mode := mode, unlocked := false }
    let prepared := if mode = .maintenance then locked.generateChallenge env
      else locked.clearChallenge
    let drawn := if mode = .maintenance then [env.challengeRandom] else []
    match httpdStart attempts with
    | .ok () => (.ok (), { prepared with server := true, running := true }, drawn)
    | .error err => (.error err, prepared.clearRuntimeState, drawn)

def forceReleasePort80 (stopped : Result Unit) (server : AdminServer) :
    Result Unit × AdminServer :=
  if !server.server && !server.running then (.ok (), server) else server.stopInternal stopped

def openWindow (env : AdminEnvironment) (stopped : Result Unit) (attempts : Fin 6 → Result Unit)
    (server : AdminServer) : Result Unit × AdminServer × List (ByteArr 32) :=
  match server.forceReleasePort80 stopped with
  | (.error err, released) => (.error err, released, [])
  | (.ok (), released) => released.start env .maintenance attempts

def lock (env : AdminEnvironment) (server : AdminServer) : AdminServer :=
  { server with unlocked := false }.generateChallenge env

/-! ## Lock -/

def hashChallenge (crypto : AdminCrypto) (server : AdminServer) : Result (ByteArr 32) :=
  if !server.challengeValid then
    .error .invalidState
  else
    match crypto.mdSha256 server.challenge.toList with
    | none => .error .fail
    | some hash => .ok hash

/-- `config_store_load`; an error of the driver is answered like an absent key. -/
def configStoreLoad (env : AdminEnvironment) (storage : AdminStorage) : Result ZoneguardConfig :=
  if env.configFault then
    .error .notFound
  else
    match storage.config with
    | none => .error .notFound
    | some config => .ok config

def verifyAdminSignature (crypto : AdminCrypto) (env : AdminEnvironment) (storage : AdminStorage)
    (server : AdminServer) (signature : Bytes) : Result Unit :=
  if signature.length = 0 ∨ adminSignatureMaxLen < signature.length then
    .error .invalidArg
  else
    match configStoreLoad env storage with
    | .error err => .error err
    | .ok config =>
        match server.hashChallenge crypto with
        | .error err => .error err
        | .ok hash =>
            let publicKey := CString.text config.issuerPublicKeyPem.toList ++ [0]
            if crypto.mbedtlsPkVerify publicKey hash signature then .ok () else .error .invalidState

def unlockSignature (request : RequestBody) : Except AdminAnswer Bytes :=
  match readRequestBody request adminPostBufSize with
  | .error _ => .error (.refused .fail .badRequest "invalid body")
  | .ok body =>
      match formGetValue body "signature_hex" (adminSignatureMaxLen * 2 + 1) with
      | none => .error (.refused .fail .badRequest "invalid body")
      | some signatureHex =>
          match parseHex signatureHex adminSignatureMaxLen with
          | .error err => .error (.refused err .badRequest "invalid signature hex")
          | .ok signature => .ok signature

def challengeGetHandler (env : AdminEnvironment) (server : AdminServer) :
    AdminAnswer × AdminServer × List (ByteArr 32) :=
  if server.mode ≠ .maintenance then
    (.refused .fail .notFound "not available", server, [])
  else if !server.challengeValid then
    (⟨.ok (), .page⟩, server.generateChallenge env, [env.challengeRandom])
  else
    (⟨.ok (), .page⟩, server, [])

def unlockPostHandler (crypto : AdminCrypto) (env : AdminEnvironment) (storage : AdminStorage)
    (server : AdminServer) (request : RequestBody) :
    AdminAnswer × AdminServer × List (ByteArr 32) :=
  if server.mode ≠ .maintenance then
    (.refused .fail .notFound "not available", server, [])
  else if !server.challengeValid then
    (.refused .fail .badRequest "challenge required", server, [])
  else
    match unlockSignature request with
    | .error answer => (answer, server, [])
    | .ok signature =>
        match server.verifyAdminSignature crypto env storage signature with
        | .error err => (.refused err .badRequest "signature rejected", server, [])
        | .ok () =>
            (⟨.ok (), .sent "<!doctype html><html><body>unlocked</body></html>"⟩,
              { server with unlocked := true }.generateChallenge env, [env.challengeRandom])

end AdminServer

/-! ## The handlers of the tables -/

/-- The answer of a handler and the storage after each of its writes. -/
structure TableOutcome where
  answer : AdminAnswer
  writes : List AdminStorage

def TableOutcome.refused (err : EspErr) (status : HttpStatus) (message : String) : TableOutcome :=
  ⟨.refused err status message, []⟩

/-- The checks in front of every handler that changes a table. -/
def AdminServer.maintenanceGate (env : AdminEnvironment) (server : AdminServer) :
    Option AdminAnswer :=
  if !env.memory then
    some (.refused .noMem .internalServerError "admin mem failed")
  else if server.mode ≠ .maintenance then
    some (.refused .fail .notFound "not available")
  else if !server.unlocked then
    some (.refused .fail .badRequest "locked")
  else
    none

def AdminServer.gated (env : AdminEnvironment) (server : AdminServer) (request : RequestBody)
    (handler : Bytes → TableOutcome) : TableOutcome :=
  match server.maintenanceGate env with
  | some answer => ⟨answer, []⟩
  | none =>
      match readRequestBody request adminPostBufSize with
      | .error _ => .refused .fail .badRequest "invalid body"
      | .ok body => handler body

def saveRibosomes (env : AdminEnvironment) (storage : AdminStorage) (table : RibosomeTable)
    (message : String) (response : AdminResponse) : TableOutcome :=
  let saved := ribosomeStoreSave env.ribosomeWrite storage.ribosome table
  let stored := { storage with ribosome := saved.2 }
  match saved.1 with
  | .error err => ⟨.refused err .internalServerError message, [stored]⟩
  | .ok () => ⟨⟨.ok (), response⟩, [stored]⟩

/-- The part that `/ribosome/add` and `/ribosome/provision` share. A template that is
not found is answered with the result of the load. -/
def registerDevice (env : AdminEnvironment) (storage : AdminStorage) (config : RibosomeEntryConfig)
    (response : AdminResponse) : TableOutcome :=
  match rnaMembraneLoadOrInit env.rnaFault storage.rna with
  | .error err => .refused err .badRequest "template not found"
  | .ok templates =>
      if (rnaTemplateTableFind templates config.templateId).isNone then
        ⟨⟨.ok (), .failed .badRequest "template not found"⟩, []⟩
      else
        match ribosomeStoreLoadOrInit env.ribosomeFault storage.ribosome with
        | .error err => .refused err .internalServerError "load failed"
        | .ok table =>
            match ribosomeTableAddFromConfig table config with
            | (.error err, _) => .refused err .badRequest "add failed"
            | (.ok (), next) => saveRibosomes env storage next "save failed" response

def ribosomeAddPostHandler (env : AdminEnvironment) (server : AdminServer)
    (storage : AdminStorage) (request : RequestBody) : TableOutcome :=
  server.gated env request fun body =>
    match formGetValue body "mqtt_client_id" 33, formGetValue body "template_id" 16,
      formGetValue body "epoch" 16, formGetValue body "device_secret_hex" 65 with
    | some mqttClientId, some templateText, some epochText, some secretHex =>
        match parseU32Field templateText, parseU32Field epochText, parseExactHex secretHex 32 with
        | some templateId, some epoch, .ok deviceSecret =>
            registerDevice env storage
              ⟨mqttClientId ++ [0], templateId.toUInt16, epoch, fit 32 deviceSecret⟩
              (.sent "ribosome added")
        | _, _, _ => .refused .fail .badRequest "invalid fields"
    | _, _, _, _ => .refused .fail .badRequest "invalid body"

/-- Unlike `/ribosome/add`, refuses template ids above 16 bits and epoch zero. -/
def ribosomeProvisionPostHandler (env : AdminEnvironment) (server : AdminServer)
    (storage : AdminStorage) (request : RequestBody) : TableOutcome :=
  server.gated env request fun body =>
    match formGetValue body "mqtt_client_id" 33, formGetValue body "template_id" 16,
      formGetValue body "epoch" 16 with
    | some mqttClientId, some templateText, some epochText =>
        match parseU32Field templateText, parseU32Field epochText with
        | some templateId, some epoch =>
            if 65535 < templateId ∨ epoch = 0 then
              .refused .fail .badRequest "invalid fields"
            else
              registerDevice env storage
                ⟨mqttClientId ++ [0], templateId.toUInt16, epoch,
                  generateDeviceSecret env.secretRandom⟩ .redirected
        | _, _ => .refused .fail .badRequest "invalid fields"
    | _, _, _ => .refused .fail .badRequest "invalid body"

def ribosomeRegeneratePostHandler (env : AdminEnvironment) (server : AdminServer)
    (storage : AdminStorage) (request : RequestBody) : TableOutcome :=
  server.gated env request fun body =>
    match formGetValue body "mqtt_client_id" 33 with
    | none => .refused .fail .badRequest "invalid body"
    | some mqttClientId =>
        match ribosomeStoreLoadOrInit env.ribosomeFault storage.ribosome with
        | .error err => .refused err .internalServerError "load failed"
        | .ok table =>
            match ribosomeRegenerate table (mqttClientId ++ [0]) env.secretRandom with
            | .error err => .refused err .badRequest "device not found"
            | .ok next => saveRibosomes env storage next "save failed" .redirected

def ribosomeRemovePostHandler (env : AdminEnvironment) (server : AdminServer)
    (storage : AdminStorage) (request : RequestBody) : TableOutcome :=
  server.gated env request fun body =>
    match formGetValue body "mqtt_client_id" 33 with
    | none => .refused .fail .badRequest "invalid body"
    | some mqttClientId =>
        match ribosomeStoreLoadOrInit env.ribosomeFault storage.ribosome with
        | .error err => .refused err .internalServerError "load failed"
        | .ok table =>
            match ribosomeTableRemoveEntry table (mqttClientId ++ [0]) with
            | .error err => .refused err .badRequest "remove failed"
            | .ok next =>
                saveRibosomes env storage next "save failed" (.sent "ribosome removed")

def membraneTemplateSetPostHandler (env : AdminEnvironment) (server : AdminServer)
    (storage : AdminStorage) (request : RequestBody) : TableOutcome :=
  server.gated env request fun body =>
    match formGetValue body "template_id" 16, formGetValue body "template_name" 32,
      formGetValue body "amino_ids" 64 with
    | some templateText, some templateName, some aminoText =>
        match buildTemplateFromFields templateText templateName aminoText with
        | .error err => .refused err .badRequest "invalid template"
        | .ok template =>
            match rnaMembraneLoadOrInit env.rnaFault storage.rna with
            | .error err => .refused err .internalServerError "load failed"
            | .ok templates =>
                match rnaTemplateTableUpsert templates template with
                | .error err => .refused err .badRequest "template rejected"
                | .ok next =>
                    let saved := rnaMembraneSave env.rnaWrite storage.rna next
                    let stored := { storage with rna := saved.2 }
                    match saved.1 with
                    | .error err => ⟨.refused err .internalServerError "save failed", [stored]⟩
                    | .ok () => ⟨⟨.ok (), .sent "membrane template saved"⟩, [stored]⟩
    | _, _, _ => .refused .fail .badRequest "invalid body"

/-- Two tables change, and the one that is referred to is saved first. -/
def deviceMembraneSetPostHandler (env : AdminEnvironment) (server : AdminServer)
    (storage : AdminStorage) (request : RequestBody) : TableOutcome :=
  server.gated env request fun body =>
    match formGetValue body "mqtt_client_id" 33, formGetValue body "template_id" 16,
      formGetValue body "template_name" 32, formGetValue body "amino_ids" 64 with
    | some mqttClientId, some templateText, some templateName, some aminoText =>
        match buildTemplateFromFields templateText templateName aminoText with
        | .error err => .refused err .badRequest "invalid template"
        | .ok template =>
            match ribosomeStoreLoadOrInit env.ribosomeFault storage.ribosome,
              rnaMembraneLoadOrInit env.rnaFault storage.rna with
            | .error err, _ => .refused err .internalServerError "device load failed"
            | .ok _, .error err => .refused err .internalServerError "template load failed"
            | .ok table, .ok templates =>
                match rnaTemplateTableUpsert templates template with
                | .error err => .refused err .badRequest "template rejected"
                | .ok nextTemplates =>
                    match ribosomeAssignTemplate table (mqttClientId ++ [0]) template.id with
                    | .error err => .refused err .badRequest "device not found"
                    | .ok nextTable =>
                        let saved := rnaMembraneSave env.rnaWrite storage.rna nextTemplates
                        let stored := { storage with rna := saved.2 }
                        match saved.1 with
                        | .error err =>
                            ⟨.refused err .internalServerError "template save failed", [stored]⟩
                        | .ok () =>
                            let assigned := saveRibosomes env stored nextTable
                              "device save failed" (.sent "device membrane configured")
                            ⟨assigned.answer, stored :: assigned.writes⟩
    | _, _, _, _ => .refused .fail .badRequest "invalid body"

/-! ## The first configuration -/

def strstr (haystack needle : Bytes) : Bool :=
  haystack.tails.any fun tail => needle.isPrefixOf tail

def validateIssuerPublicKeyPem (pem : Bytes) : Result Unit :=
  if pem = [] then
    .error .invalidArg
  else if !strstr pem (CString.utf8 "-----BEGIN PUBLIC KEY-----") ||
      !strstr pem (CString.utf8 "-----END PUBLIC KEY-----") then
    .error .invalidArg
  else
    .ok ()

def configStoreSave (env : AdminEnvironment) (storage : AdminStorage) (config : ZoneguardConfig) :
    Result Unit × AdminStorage :=
  match env.configWrite with
  | .committed => (.ok (), { storage with config := some config })
  | .failed err visible =>
      (.error err, if visible then { storage with config := some config } else storage)

def savePostHandler (crypto : AdminCrypto) (env : AdminEnvironment) (server : AdminServer)
    (storage : AdminStorage) (request : RequestBody) : AdminAnswer × AdminStorage :=
  if server.mode ≠ .bootstrap then
    (.refused .fail .notFound "not available", storage)
  else
    match readRequestBody request adminPostBufSize with
    | .error .fail => (.refused .fail .internalServerError "recv failed", storage)
    | .error _ => (.refused .fail .badRequest "invalid body", storage)
    | .ok body =>
        match formGetValue body "sta_ssid" 32, formGetValue body "sta_password" 64,
          formGetValue body "ap_ssid" 32, formGetValue body "ap_password" 64,
          formGetValue body "issuer_public_key_pem" 512 with
        | some staSsid, some _, some apSsid, some apPassword, some pem =>
            if staSsid = [] then
              (.refused .fail .badRequest "sta_ssid empty", storage)
            else if apSsid = [] then
              (.refused .fail .badRequest "ap_ssid empty", storage)
            else if apPassword.length < 8 then
              (.refused .fail .badRequest "ap_password too short", storage)
            else
              match validateIssuerPublicKeyPem pem with
              | .error _ => (.refused .fail .badRequest "invalid issuer public key", storage)
              | .ok () =>
                  match computeIssuerKeyId crypto.toCrypto (pem ++ [0]) with
                  | .error _ => (.refused .fail .internalServerError "key id failed", storage)
                  | .ok keyId =>
                      match configStoreSave env storage ⟨keyId, strncpyCleared 512 pem⟩ with
                      | (.error _, stored) =>
                          (.refused .fail .internalServerError "save failed", stored)
                      | (.ok (), stored) => (⟨.ok (), .page⟩, stored)
        | _, _, _, _, _ => (.refused .fail .badRequest "missing fields", storage)

/-! ## The server as a machine -/

inductive AdminRequest where
  | rootGet
  | challengeGet
  | save (body : RequestBody)
  | unlock (body : RequestBody)
  | ribosomeAdd (body : RequestBody)
  | ribosomeProvision (body : RequestBody)
  | ribosomeRegenerate (body : RequestBody)
  | ribosomeRemove (body : RequestBody)
  | membraneTemplateSet (body : RequestBody)
  | deviceMembraneSet (body : RequestBody)

/-- Calls of the interface, the expiry of the window, requests, and a restart of the
whole device. -/
inductive AdminAction where
  | start (mode : AdminServerMode) (attempts : Fin 6 → Result Unit)
  | openWindow (stopped : Result Unit) (attempts : Fin 6 → Result Unit)
  | stop (stopped : Result Unit)
  | windowExpired (stopped : Result Unit)
  | lock
  | request (request : AdminRequest)
  | restart

structure AdminInput where
  action : AdminAction
  env : AdminEnvironment

structure AdminState where
  server : AdminServer
  storage : AdminStorage

/-- What the handlers of the tables do with a request; other requests write no table. -/
def tableOutcome (env : AdminEnvironment) (state : AdminState) (request : AdminRequest) :
    Option TableOutcome :=
  match request with
  | .ribosomeAdd body => some (ribosomeAddPostHandler env state.server state.storage body)
  | .ribosomeProvision body =>
      some (ribosomeProvisionPostHandler env state.server state.storage body)
  | .ribosomeRegenerate body =>
      some (ribosomeRegeneratePostHandler env state.server state.storage body)
  | .ribosomeRemove body => some (ribosomeRemovePostHandler env state.server state.storage body)
  | .membraneTemplateSet body =>
      some (membraneTemplateSetPostHandler env state.server state.storage body)
  | .deviceMembraneSet body =>
      some (deviceMembraneSetPostHandler env state.server state.storage body)
  | _ => none

def AdminState.writes (state : AdminState) (input : AdminInput) : List AdminStorage :=
  match input.action with
  | .request request =>
      if state.server.server then
        match tableOutcome input.env state request with
        | some outcome => outcome.writes
        | none => []
      else
        []
  | _ => []

/-- A request reaches its handler while the HTTP server runs. The events of a step are
the challenges it draws. -/
def adminRequestStep (crypto : AdminCrypto) (state : AdminState) (input : AdminInput)
    (request : AdminRequest) : AdminState × List (ByteArr 32) :=
  if !state.server.server then
    (state, [])
  else
    match request with
    | .rootGet => (state, [])
    | .challengeGet =>
        let answered := state.server.challengeGetHandler input.env
        ({ state with server := answered.2.1 }, answered.2.2)
    | .unlock body =>
        let answered := state.server.unlockPostHandler crypto input.env state.storage body
        ({ state with server := answered.2.1 }, answered.2.2)
    | .save body =>
        let answered := savePostHandler crypto input.env state.server state.storage body
        ({ state with storage := answered.2 }, [])
    | _ => ({ state with storage := (state.writes input).getLastD state.storage }, [])

def adminStep (crypto : AdminCrypto) (state : AdminState) (input : AdminInput) :
    AdminState × List (ByteArr 32) :=
  match input.action with
  | .start mode attempts =>
      let started := state.server.start input.env mode attempts
      ({ state with server := started.2.1 }, started.2.2)
  | .openWindow stopped attempts =>
      let opened := state.server.openWindow input.env stopped attempts
      ({ state with server := opened.2.1 }, opened.2.2)
  | .stop stopped | .windowExpired stopped =>
      ({ state with server := (state.server.stopInternal stopped).2 }, [])
  | .lock => ({ state with server := state.server.lock input.env }, [input.env.challengeRandom])
  | .request request => adminRequestStep crypto state input request
  | .restart => ({ state with server := AdminServer.boot }, [])

theorem config_store_save_tables {env : AdminEnvironment} {storage stored : AdminStorage}
    {config : ZoneguardConfig} {result : Result Unit}
    (saved : configStoreSave env storage config = (result, stored)) :
    stored.ribosome = storage.ribosome ∧ stored.rna = storage.rna := by
  unfold configStoreSave at saved
  split at saved
  · cases saved
    exact ⟨rfl, rfl⟩
  · split_ifs at saved
    · cases saved
      exact ⟨rfl, rfl⟩
    · cases saved
      exact ⟨rfl, rfl⟩

theorem save_post_handler_tables (crypto : AdminCrypto) (env : AdminEnvironment)
    (server : AdminServer) (storage : AdminStorage) (request : RequestBody) :
    (savePostHandler crypto env server storage request).2.ribosome = storage.ribosome ∧
      (savePostHandler crypto env server storage request).2.rna = storage.rna := by
  unfold savePostHandler
  -- only the last two branches go through `config_store_save`
  repeat' split
  all_goals first
    | exact ⟨rfl, rfl⟩
    | exact config_store_save_tables (by assumption)

theorem admin_step_storage (crypto : AdminCrypto) (state : AdminState) (input : AdminInput) :
    (adminStep crypto state input).1.storage ∈ state.writes input ∨
      ((adminStep crypto state input).1.storage.ribosome = state.storage.ribosome ∧
        (adminStep crypto state input).1.storage.rna = state.storage.rna) := by
  have lastWrite : (state.writes input).getLastD state.storage ∈ state.writes input ∨
      (((state.writes input).getLastD state.storage).ribosome = state.storage.ribosome ∧
        ((state.writes input).getLastD state.storage).rna = state.storage.rna) := by
    cases writes : state.writes input with
    | nil => exact Or.inr ⟨rfl, rfl⟩
    | cons first rest =>
        left
        rw [List.getLastD_cons]
        exact List.getLastD_mem_cons
  unfold adminStep
  cases input.action with
  | request request =>
      simp only [adminRequestStep]
      split_ifs
      · exact Or.inr ⟨rfl, rfl⟩
      · cases request with
        | save body =>
            exact Or.inr (save_post_handler_tables crypto input.env state.server state.storage body)
        | rootGet => exact Or.inr ⟨rfl, rfl⟩
        | challengeGet => exact Or.inr ⟨rfl, rfl⟩
        | unlock body => exact Or.inr ⟨rfl, rfl⟩
        | _ => exact lastWrite
  | _ => exact Or.inr ⟨rfl, rfl⟩

end BlindNet
