import BlindNet.AdminServer
import BlindNet.Lib.Machine

/-!
# The lock of the admin server

A table is written only behind an unlock whose signature verified over the
challenge of that moment, with no stop, lock or new start in between. Every
successful unlock draws a new challenge, so an answered challenge never opens the
lock again.
-/

namespace BlindNet

set_option autoImplicit false

open ByteLayout EventMachine

/-- A stop, a lock, or a start from the not-running state. -/
def AdminState.Boundary (state : AdminState) (input : AdminInput) : Prop :=
  match input.action with
  | .start _ _ => state.server.running = false
  | .request _ => False
  | _ => True

/-- An unlock request whose signature verifies under the stored issuer key over the
current challenge. -/
def VerifiedUnlock (crypto : AdminCrypto) (state : AdminState) (input : AdminInput) : Prop :=
  ∃ body signature config hash, input.action = .request (.unlock body) ∧
    AdminServer.unlockSignature body = .ok signature ∧
    state.server.mode = .maintenance ∧ state.server.challengeValid = true ∧
    state.storage.config = some config ∧
    crypto.mdSha256 state.server.challenge.toList = some hash ∧
    crypto.mbedtlsPkVerify (CString.text config.issuerPublicKeyPem.toList ++ [0]) hash signature =
      true

/-- A write of the step, or its end, finds another table stored. -/
def AdminState.TablesChange (crypto : AdminCrypto) (state : AdminState) (input : AdminInput) :
    Prop :=
  ∃ stored ∈ (adminStep crypto state input).1.storage :: state.writes input,
    stored.ribosome ≠ state.storage.ribosome ∨ stored.rna ≠ state.storage.rna

/-- The step takes the server from locked to unlocked, with this signature over this
challenge. -/
def Unlocks (crypto : AdminCrypto) (state : AdminState) (input : AdminInput)
    (challenge : ByteArr 32) (signature : Bytes) : Prop :=
  state.server.unlocked = false ∧ (adminStep crypto state input).1.server.unlocked = true ∧
    state.server.challenge = challenge ∧
    ∃ body, input.action = .request (.unlock body) ∧
      AdminServer.unlockSignature body = .ok signature

namespace AdminServer

theorem gated_writes {env : AdminEnvironment} {server : AdminServer} {request : RequestBody}
    {handler : Bytes → TableOutcome} (wrote : (server.gated env request handler).writes ≠ []) :
    server.mode = .maintenance ∧ server.unlocked = true := by
  unfold gated maintenanceGate at wrote
  by_cases memory : env.memory = true
  · by_cases mode : server.mode = .maintenance
    · by_cases open_ : server.unlocked = true
      · exact ⟨mode, open_⟩
      · simp [memory, mode, open_] at wrote
    · simp [memory, mode] at wrote
  · simp [memory] at wrote

theorem stop_internal_locked (stopped : Result Unit) (server : AdminServer) :
    (server.stopInternal stopped).2.unlocked = false := by
  unfold stopInternal
  split_ifs
  · rfl
  · cases stopped <;> rfl

theorem start_unlocked {env : AdminEnvironment} {mode : AdminServerMode}
    {attempts : Fin 6 → Result Unit} {server : AdminServer}
    (unlocked : (server.start env mode attempts).2.1.unlocked = true) :
    server.running = true ∧ server.unlocked = true := by
  unfold start at unlocked
  split_ifs at unlocked with running maintenance
  · exact ⟨running, unlocked⟩
  all_goals
    cases outcome : httpdStart attempts with
    | error err =>
        rw [outcome] at unlocked
        cases unlocked
    | ok _ =>
        rw [outcome] at unlocked
        cases unlocked

theorem open_window_locked (env : AdminEnvironment) (stopped : Result Unit)
    (attempts : Fin 6 → Result Unit) (server : AdminServer) :
    (server.openWindow env stopped attempts).2.1.unlocked = false := by
  rw [← Bool.not_eq_true]
  intro unlocked
  unfold openWindow forceReleasePort80 at unlocked
  split_ifs at unlocked with down
  · rcases start_unlocked unlocked with ⟨running, _⟩
    simp [running] at down
  · cases released : server.stopInternal stopped with
    | mk result freed =>
        have locked : freed.unlocked = false := by
          have stoppedLocked := stop_internal_locked stopped server
          rw [released] at stoppedLocked
          exact stoppedLocked
        rw [released] at unlocked
        cases result with
        | error err => exact absurd unlocked (by simp [locked])
        | ok _ =>
            rcases start_unlocked unlocked with ⟨_, still⟩
            exact absurd still (by simp [locked])

theorem verify_admin_signature_ok {crypto : AdminCrypto} {env : AdminEnvironment}
    {storage : AdminStorage} {server : AdminServer} {signature : Bytes}
    (verified : server.verifyAdminSignature crypto env storage signature = .ok ()) :
    ∃ config hash, storage.config = some config ∧
      crypto.mdSha256 server.challenge.toList = some hash ∧
      crypto.mbedtlsPkVerify (CString.text config.issuerPublicKeyPem.toList ++ [0]) hash
        signature = true := by
  unfold verifyAdminSignature configStoreLoad hashChallenge at verified
  rw [guard_ok] at verified
  rcases verified with ⟨_, verified⟩
  by_cases fault : env.configFault = true
  · simp [fault] at verified
  · cases stored : storage.config with
    | none => simp [fault, stored] at verified
    | some config =>
        by_cases valid : server.challengeValid = true
        · cases hashed : crypto.mdSha256 server.challenge.toList with
          | none => simp [fault, stored, valid, hashed] at verified
          | some hash =>
              simp only [fault, stored, valid, hashed, Bool.false_eq_true, if_false,
                Bool.not_true] at verified
              refine ⟨config, hash, rfl, rfl, ?_⟩
              split_ifs at verified with accepted
              exact accepted
        · simp [fault, stored, valid] at verified

end AdminServer

/-- What a request does to the server: nothing, a new challenge where there was none,
or an unlock that verified. -/
theorem admin_request_step_cases (crypto : AdminCrypto) (state : AdminState) (input : AdminInput)
    (request : AdminRequest) (requested : input.action = .request request) :
    ((adminRequestStep crypto state input request).1.server = state.server ∧
      (adminRequestStep crypto state input request).2 = []) ∨
    ((adminRequestStep crypto state input request).1.server =
        state.server.generateChallenge input.env ∧
      (adminRequestStep crypto state input request).2 = [input.env.challengeRandom]) ∨
    (VerifiedUnlock crypto state input ∧
      (adminRequestStep crypto state input request).1.server =
        { state.server with unlocked := true }.generateChallenge input.env ∧
      (adminRequestStep crypto state input request).2 = [input.env.challengeRandom]) := by
  unfold adminRequestStep
  by_cases up : state.server.server = true
  · rw [if_neg (by simp [up])]
    cases request with
    | challengeGet =>
        simp only [AdminServer.challengeGetHandler]
        split_ifs
        · exact Or.inl ⟨rfl, rfl⟩
        · exact Or.inr (Or.inl ⟨rfl, rfl⟩)
        · exact Or.inl ⟨rfl, rfl⟩
    | unlock body =>
        simp only [AdminServer.unlockPostHandler]
        split_ifs with mode valid
        · exact Or.inl ⟨rfl, rfl⟩
        · exact Or.inl ⟨rfl, rfl⟩
        · cases carried : AdminServer.unlockSignature body with
          | error answer => exact Or.inl ⟨rfl, rfl⟩
          | ok signature =>
              simp only
              cases verified : state.server.verifyAdminSignature crypto input.env state.storage
                  signature with
              | error err => exact Or.inl ⟨rfl, rfl⟩
              | ok _ =>
                  rcases AdminServer.verify_admin_signature_ok verified with
                    ⟨config, hash, stored, hashed, accepted⟩
                  refine Or.inr (Or.inr ⟨?_, rfl, rfl⟩)
                  exact ⟨body, signature, config, hash, requested, carried, by simpa using mode,
                    by simpa using valid, stored, hashed, accepted⟩
    | _ => exact Or.inl ⟨rfl, rfl⟩
  · rw [if_pos (by simp [up])]
    exact Or.inl ⟨rfl, rfl⟩

/-- An unlocked server after a step was unlocked by it, or was unlocked before and the
step is no boundary. -/
theorem admin_step_unlocked (crypto : AdminCrypto) (state : AdminState) (input : AdminInput)
    (unlocked : (adminStep crypto state input).1.server.unlocked = true) :
    VerifiedUnlock crypto state input ∨
      (state.server.unlocked = true ∧ ¬ state.Boundary input) := by
  unfold adminStep at unlocked
  unfold AdminState.Boundary
  cases action : input.action with
  | start mode attempts =>
      simp only [action] at unlocked
      rcases AdminServer.start_unlocked unlocked with ⟨running, before⟩
      exact Or.inr ⟨before, by simp [running]⟩
  | openWindow stopped attempts =>
      simp only [action, AdminServer.open_window_locked] at unlocked
      cases unlocked
  | stop stopped =>
      simp only [action, AdminServer.stop_internal_locked] at unlocked
      cases unlocked
  | windowExpired stopped =>
      simp only [action, AdminServer.stop_internal_locked] at unlocked
      cases unlocked
  | lock =>
      simp only [action] at unlocked
      cases unlocked
  | restart =>
      simp only [action] at unlocked
      cases unlocked
  | request request =>
      simp only [action] at unlocked
      rcases admin_request_step_cases crypto state input request action with
        ⟨same, _⟩ | ⟨drew, _⟩ | ⟨verified, _⟩
      · rw [same] at unlocked
        exact Or.inr ⟨unlocked, not_false⟩
      · rw [drew] at unlocked
        exact Or.inr ⟨unlocked, not_false⟩
      · exact Or.inl verified

/-- A step draws nothing and keeps what challenge it leaves valid, or draws one and
leaves no other one valid. -/
def ChallengeCarried (before after : AdminServer) (drawn : List (ByteArr 32)) : Prop :=
  (drawn = [] ∧ (after.challengeValid = true →
    before.challengeValid = true ∧ after.challenge = before.challenge)) ∨
  ∃ challenge, drawn = [challenge] ∧ (after.challengeValid = true → after.challenge = challenge)

namespace AdminServer

theorem stop_internal_cleared (stopped : Result Unit) (server : AdminServer) :
    (server.stopInternal stopped).2.challengeValid = false := by
  unfold stopInternal
  split_ifs
  · rfl
  · cases stopped <;> rfl

theorem start_challenge (env : AdminEnvironment) (mode : AdminServerMode)
    (attempts : Fin 6 → Result Unit) (server : AdminServer) :
    ChallengeCarried server (server.start env mode attempts).2.1
      (server.start env mode attempts).2.2 := by
  unfold start
  split_ifs with running maintenance
  · exact Or.inl ⟨rfl, fun valid => ⟨valid, rfl⟩⟩
  · right
    refine ⟨env.challengeRandom, ?_⟩
    cases httpdStart attempts with
    | error err => exact ⟨rfl, fun valid => by cases valid⟩
    | ok _ => exact ⟨rfl, fun _ => rfl⟩
  · left
    cases httpdStart attempts with
    | error err => exact ⟨rfl, fun valid => by cases valid⟩
    | ok _ => exact ⟨rfl, fun valid => by cases valid⟩

theorem open_window_challenge (env : AdminEnvironment) (stopped : Result Unit)
    (attempts : Fin 6 → Result Unit) (server : AdminServer) :
    ChallengeCarried server (server.openWindow env stopped attempts).2.1
      (server.openWindow env stopped attempts).2.2 := by
  unfold openWindow forceReleasePort80
  split_ifs with down
  · exact start_challenge env .maintenance attempts server
  · cases released : server.stopInternal stopped with
    | mk result freed =>
        have cleared : freed.challengeValid = false := by
          have stoppedCleared := stop_internal_cleared stopped server
          rw [released] at stoppedCleared
          exact stoppedCleared
        cases result with
        | error err => exact Or.inl ⟨rfl, fun valid => absurd valid (by simp [cleared])⟩
        | ok _ =>
            rcases start_challenge env .maintenance attempts freed with ⟨none, kept⟩ | drew
            · exact Or.inl ⟨none, fun valid => absurd (kept valid).1 (by simp [cleared])⟩
            · exact Or.inr drew

end AdminServer

theorem admin_step_challenge (crypto : AdminCrypto) (state : AdminState) (input : AdminInput) :
    ChallengeCarried state.server (adminStep crypto state input).1.server
      (adminStep crypto state input).2 := by
  unfold adminStep
  cases action : input.action with
  | start mode attempts => exact AdminServer.start_challenge input.env mode attempts state.server
  | openWindow stopped attempts =>
      exact AdminServer.open_window_challenge input.env stopped attempts state.server
  | stop stopped =>
      refine Or.inl ⟨rfl, fun valid => absurd valid ?_⟩
      simp [AdminServer.stop_internal_cleared]
  | windowExpired stopped =>
      refine Or.inl ⟨rfl, fun valid => absurd valid ?_⟩
      simp [AdminServer.stop_internal_cleared]
  | lock => exact Or.inr ⟨input.env.challengeRandom, rfl, fun _ => rfl⟩
  | restart => exact Or.inl ⟨rfl, fun valid => by cases valid⟩
  | request request =>
      rcases admin_request_step_cases crypto state input request action with
        ⟨same, none⟩ | ⟨drew, one⟩ | ⟨_, drew, one⟩
      · left
        refine ⟨none, ?_⟩
        simp only [same]
        exact fun valid => ⟨valid, trivial⟩
      · right
        refine ⟨input.env.challengeRandom, one, ?_⟩
        simp only [drew]
        exact fun _ => rfl
      · right
        refine ⟨input.env.challengeRandom, one, ?_⟩
        simp only [drew]
        exact fun _ => rfl

theorem challenge_is_last_drawn {crypto : AdminCrypto} {boot : AdminState}
    (booted : boot.server = AdminServer.boot) {inputs : List AdminInput}
    (valid : (run (adminStep crypto) boot inputs).1.server.challengeValid = true) :
    (run (adminStep crypto) boot inputs).2.getLast? =
      some (run (adminStep crypto) boot inputs).1.server.challenge := by
  have carried := history_run (adminStep crypto)
    (fun state history => state.server.challengeValid = true →
      history.getLast? = some state.server.challenge)
    (by
      intro state history input last stillValid
      rcases admin_step_challenge crypto state input with ⟨none, kept⟩ | ⟨challenge, drew, new⟩
      · rcases kept stillValid with ⟨wasValid, same⟩
        rw [none, List.append_nil, same]
        exact last wasValid
      · rw [drew, List.getLast?_concat, new stillValid])
    boot [] inputs (by simp [booted, AdminServer.boot])
  rw [List.nil_append] at carried
  exact carried valid

theorem table_outcome_writes {env : AdminEnvironment} {state : AdminState}
    {request : AdminRequest} {outcome : TableOutcome}
    (handled : tableOutcome env state request = some outcome) (wrote : outcome.writes ≠ []) :
    state.server.mode = .maintenance ∧ state.server.unlocked = true := by
  unfold tableOutcome at handled
  cases request <;> simp only [Option.some.injEq, reduceCtorEq] at handled
  all_goals
    rw [← handled] at wrote
    exact AdminServer.gated_writes wrote

theorem writes_unlocked {state : AdminState} {input : AdminInput}
    (wrote : state.writes input ≠ []) :
    state.server.mode = .maintenance ∧ state.server.unlocked = true := by
  unfold AdminState.writes at wrote
  cases action : input.action with
  | request request =>
      simp only [action] at wrote
      split_ifs at wrote
      · cases handled : tableOutcome input.env state request with
        | none => simp [handled] at wrote
        | some outcome =>
            simp only [handled] at wrote
            exact table_outcome_writes handled wrote
      · exact absurd rfl wrote
  | _ => simp [action] at wrote

theorem tables_change_unlocked {crypto : AdminCrypto} {state : AdminState} {input : AdminInput}
    (changes : state.TablesChange crypto input) :
    state.server.mode = .maintenance ∧ state.server.unlocked = true := by
  apply @writes_unlocked state input
  intro silent
  rcases changes with ⟨stored, member, differs⟩
  rw [silent, List.mem_singleton] at member
  rcases admin_step_storage crypto state input with wrote | ⟨ribosome, rna⟩
  · rw [silent] at wrote
    cases wrote
  · rw [member, ribosome, rna] at differs
    simp at differs

/-- An unlock request that opens the lock draws a new challenge. -/
theorem unlocks_draws {crypto : AdminCrypto} {state : AdminState} {input : AdminInput}
    {challenge : ByteArr 32} {signature : Bytes}
    (unlocks : Unlocks crypto state input challenge signature) :
    state.server.challengeValid = true ∧ (adminStep crypto state input).2 ≠ [] := by
  rcases unlocks with ⟨locked, unlocked, _, body, action, _⟩
  have stepped : adminStep crypto state input =
      adminRequestStep crypto state input (.unlock body) := by
    rw [adminStep, action]
  rw [stepped] at unlocked ⊢
  rcases admin_request_step_cases crypto state input (.unlock body) action with
    ⟨same, _⟩ | ⟨drew, _⟩ | ⟨verified, _, one⟩
  · rw [same, locked] at unlocked
    cases unlocked
  · rw [drew] at unlocked
    exact absurd unlocked (by simp [AdminServer.generateChallenge, locked])
  · rcases verified with ⟨_, _, _, _, _, _, _, valid, _⟩
    exact ⟨valid, by simp [one]⟩

theorem unlock_pair_once {crypto : AdminCrypto} {boot : AdminState}
    (booted : boot.server = AdminServer.boot) {first second third : List AdminInput}
    {one two : AdminInput} {challenge : ByteArr 32} {signature : Bytes}
    (distinct : (run (adminStep crypto) boot (first ++ one :: second ++ two :: third)).2.Nodup)
    (firstUnlocks : Unlocks crypto (run (adminStep crypto) boot first).1 one challenge signature) :
    ¬ Unlocks crypto (run (adminStep crypto) boot (first ++ one :: second)).1 two challenge
      signature := by
  intro secondUnlocks
  rcases unlocks_draws firstUnlocks with ⟨firstValid, drew⟩
  have firstLast := challenge_is_last_drawn booted firstValid
  have secondLast := challenge_is_last_drawn booted (unlocks_draws secondUnlocks).1
  rw [firstUnlocks.2.2.1] at firstLast
  rw [secondUnlocks.2.2.1, run_append] at secondLast
  rw [run_append, run_append] at distinct
  have upToSecond := (List.nodup_append'.mp distinct).1
  have later : (run (adminStep crypto) (run (adminStep crypto) boot first).1
      (one :: second)).2 ≠ [] := by
    rw [run_cons]
    simp [drew]
  rw [List.getLast?_append_of_ne_nil _ later] at secondLast
  exact (List.nodup_append'.mp upToSecond).2.2 (List.mem_of_getLast? firstLast)
    (List.mem_of_getLast? secondLast)

/-- Every change of a stored table happens in maintenance mode behind a verified unlock
that no stop, lock or new start has undone; and while no challenge is drawn twice, no
challenge and signature open the lock twice. -/
theorem admin_lock_safe (crypto : AdminCrypto) (storage : AdminStorage)
    (inputs : List AdminInput) :
    let after := fun inputs => run (adminStep crypto) ⟨AdminServer.boot, storage⟩ inputs
    (∀ before input rest, inputs = before ++ input :: rest →
      (after before).1.TablesChange crypto input →
      (after before).1.server.mode = .maintenance ∧
      ∃ early unlock late, before = early ++ unlock :: late ∧
        VerifiedUnlock crypto (after early).1 unlock ∧
        ∀ first next others, late = first ++ next :: others →
          ¬ (after (early ++ unlock :: first)).1.Boundary next) ∧
    ((after inputs).2.Nodup → ∀ first one second two third challenge signature,
      inputs = first ++ one :: second ++ two :: third →
      Unlocks crypto (after first).1 one challenge signature →
      ¬ Unlocks crypto (after (first ++ one :: second)).1 two challenge signature) := by
  intro after
  constructor
  · intro before input rest _ changes
    rcases tables_change_unlocked changes with ⟨mode, unlocked⟩
    refine ⟨mode, ?_⟩
    exact established_since (adminStep crypto) (fun state => state.server.unlocked = true)
      (VerifiedUnlock crypto) (fun state input => state.Boundary input)
      (admin_step_unlocked crypto) (by simp [AdminServer.boot]) before unlocked
  · intro distinct first one second two third challenge signature order firstUnlocks
    subst order
    exact unlock_pair_once rfl distinct firstUnlocks

def benchAdminCrypto : AdminCrypto where
  mdSha256 message := some (fit 32 message)
  psaHmacSha256 _ _ := none
  psaAeadDecrypt _ _ _ _ := .error .failure
  pkVerify _ _ _ := false
  mbedtlsPkVerify _ hash signature := signature == hash.toList

def benchAdminEnvironment (challenge : UInt8) : AdminEnvironment where
  memory := true
  challengeRandom := List.Vector.replicate 32 challenge
  secretRandom := List.Vector.replicate 32 1
  configFault := false
  ribosomeFault := none
  rnaFault := none
  configWrite := .committed
  ribosomeWrite := .committed
  rnaWrite := .committed

def benchAdminStorage : AdminStorage :=
  ⟨some ⟨List.Vector.replicate 16 0, List.Vector.replicate 512 0⟩, none, none⟩

def benchUnlock : List AdminInput :=
  [⟨.openWindow (.ok ()) fun _ => .ok (), benchAdminEnvironment 5⟩,
    ⟨.request (.unlock (.complete (CString.utf8
      "signature_hex=0505050505050505050505050505050505050505050505050505050505050505"))),
      benchAdminEnvironment 6⟩]

def benchAdd : AdminInput :=
  ⟨.request (.ribosomeAdd (.complete
    (CString.utf8 "mqtt_client_id=lamp01&template_id=1&epoch=1&device_secret_hex=" ++
      CString.utf8 "0707070707070707070707070707070707070707070707070707070707070707"))),
    benchAdminEnvironment 7⟩

theorem bench_add_behind_unlock :
    (run (adminStep benchAdminCrypto) ⟨AdminServer.boot, benchAdminStorage⟩
      benchUnlock).1.TablesChange benchAdminCrypto benchAdd ∧
    (run (adminStep benchAdminCrypto) ⟨AdminServer.boot, benchAdminStorage⟩
      benchUnlock).1.server.mode = .maintenance := by
  have changes : (run (adminStep benchAdminCrypto) ⟨AdminServer.boot, benchAdminStorage⟩
      benchUnlock).1.TablesChange benchAdminCrypto benchAdd :=
    ⟨_, List.mem_cons_self, Or.inl (by decide +kernel)⟩
  exact ⟨changes, ((admin_lock_safe benchAdminCrypto benchAdminStorage
    (benchUnlock ++ [benchAdd])).1 benchUnlock benchAdd [] rfl changes).1⟩

end BlindNet
