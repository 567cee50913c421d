import BlindNet.AdminLock
import BlindNet.FormEncoding
import BlindNet.HexCodec
import BlindNet.PillTools

/-!
# The signing client of the admin server

`sign_admin_challenge.py`: reads the challenge from `/challenge`, signs it with the
issuer's key and posts the signature to `/unlock`. Between the two requests anyone else
may send requests of their own; as long as none of them carries a signature that
verifies, the challenge stays and the client's unlock goes through.
-/

namespace BlindNet

set_option autoImplicit false

open ByteLayout Bounds EventMachine FormText PillTools

/-! ## The client -/

/-- The characters that `str.strip` removes from an ASCII text. -/
def stripSpace (byte : UInt8) : Bool :=
  (9 ≤ byte && byte ≤ 13) || (28 ≤ byte && byte ≤ 32)

def strip (text : Bytes) : Bytes :=
  ((text.dropWhile stripSpace).reverse.dropWhile stripSpace).reverse

/-- The characters that `bytes.fromhex` skips between two bytes. -/
def hexSpace (byte : UInt8) : Bool :=
  (9 ≤ byte && byte ≤ 13) || byte == 32

def bytesFromHex : Bytes → Raises Bytes
  | [] => .ok []
  | byte :: rest =>
      if hexSpace byte then
        bytesFromHex rest
      else
        match rest with
        | [] => .error (.valueError "non-hexadecimal number found in fromhex() arg")
        | next :: more =>
            match hexValue byte, hexValue next with
            | some high, some low => do
                let bytes ← bytesFromHex more
                return UInt8.ofNat (16 * high + low) :: bytes
            | _, _ => .error (.valueError "non-hexadecimal number found in fromhex() arg")

def httpGetText (page : Bytes) : Bytes := strip page

def signChallenge {PrivateKey : Type} (client : Client PrivateKey) (privateKey : PrivateKey)
    (challengeHex : Bytes) : Raises Bytes := do
  let challenge ← bytesFromHex (strip challengeHex)
  return hexText (client.sign privateKey (client.sha256 challenge))

/-- The body that `http_post_form` sends to `/unlock`. -/
def unlockForm (signatureHex : Bytes) : Bytes :=
  urlencodeAlphabet.form [(CString.utf8 "signature_hex", signatureHex)]

/-! ## The page of the challenge -/

/-- What `/challenge` sends: the challenge in a buffer of 65 bytes, up to the NUL. -/
def AdminServer.challengePage (server : AdminServer) : Checked Bytes := do
  let hex ← hexEncode (some server.challenge.toList) (List.replicate 65 0)
  return CString.text hex

theorem challenge_page_text (server : AdminServer) :
    server.challengePage = .ok (hexText server.challenge.toList) := by
  have room : server.challenge.toList.length * 2 + 1 ≤ (List.replicate 65 (0 : UInt8)).length := by
    rw [server.challenge.toList_length, List.length_replicate]
  rcases hex_encode_writes room with ⟨written, encoded, isText⟩
  rw [AdminServer.challengePage, encoded, checked_ok_bind, isText]
  rfl

/-! ## What the client reads and writes -/

theorem hex_value_no_space {byte : UInt8} {value : Nat} (digit : hexValue byte = some value) :
    hexSpace byte = false := by
  have every : ∀ byte : UInt8, (hexValue byte).isSome = true → hexSpace byte = false :=
    forall_byte (by decide +kernel)
  exact every byte (by rw [digit]; rfl)

theorem hex_text_digits (byte : UInt8) (rest : Bytes) :
    ∃ hi lo high low, hexText (byte :: rest) = hi :: lo :: hexText rest ∧
      hexValue hi = some high ∧ hexValue lo = some low ∧
      UInt8.ofNat (16 * high + low) = byte := by
  rcases byte_digits byte with ⟨high, low, highSmall, lowSmall, isHigh, isLow, joined⟩
  have highDigit := (k_hex_digit ⟨high, highSmall⟩).2
  have lowDigit := (k_hex_digit ⟨low, lowSmall⟩).2
  refine ⟨_, _, high, low, ?_, highDigit, lowDigit, joined⟩
  rw [hex_text_cons, isHigh, isLow]

theorem bytes_from_hex_text (bytes : Bytes) : bytesFromHex (hexText bytes) = .ok bytes := by
  induction bytes with
  | nil => rfl
  | cons byte rest induction =>
      rcases hex_text_digits byte rest with ⟨hi, lo, high, low, text, isHigh, isLow, joined⟩
      rw [text, bytesFromHex, if_neg (by simp [hex_value_no_space isHigh])]
      simp only [isHigh, isLow, induction, joined]
      rfl

theorem hex_text_digit {property : UInt8 → Prop}
    (every : ∀ byte : UInt8, (hexValue byte).isSome = true → property byte) (bytes : Bytes) :
    ∀ digit ∈ hexText bytes, property digit := by
  induction bytes with
  | nil => exact fun digit member => absurd member List.not_mem_nil
  | cons byte rest induction =>
      rcases hex_text_digits byte rest with ⟨hi, lo, high, low, text, isHigh, isLow, -⟩
      rw [text]
      intro digit member
      rcases List.mem_cons.mp member with rfl | member
      · exact every _ (by rw [isHigh]; rfl)
      · rcases List.mem_cons.mp member with rfl | member
        · exact every _ (by rw [isLow]; rfl)
        · exact induction digit member

theorem hex_text_no_space (bytes : Bytes) : ∀ digit ∈ hexText bytes, stripSpace digit = false :=
  hex_text_digit (forall_byte (by decide +kernel)) bytes

theorem hex_text_word (bytes : Bytes) : ∀ digit ∈ hexText bytes, wordByte digit = true :=
  hex_text_digit (forall_byte (by decide +kernel)) bytes

theorem strip_text {text : Bytes} (solid : ∀ byte ∈ text, stripSpace byte = false) :
    strip text = text := by
  have drops : ∀ part : Bytes, (∀ byte ∈ part, stripSpace byte = false) →
      part.dropWhile stripSpace = part := by
    intro part clean
    cases part with
    | nil => rfl
    | cons first others =>
        rw [List.dropWhile_cons_of_neg (by simp [clean first List.mem_cons_self])]
  rw [strip, drops text solid, drops text.reverse, List.reverse_reverse]
  intro byte member
  exact solid byte (List.mem_reverse.mp member)

theorem sign_challenge_page {PrivateKey : Type} (client : Client PrivateKey)
    (privateKey : PrivateKey) (challenge : Bytes) :
    signChallenge client privateKey (httpGetText (hexText challenge)) =
      .ok (hexText (client.sign privateKey (client.sha256 challenge))) := by
  have whole := strip_text (hex_text_no_space challenge)
  rw [signChallenge, httpGetText, whole, whole, bytes_from_hex_text]
  rfl

theorem signature_hex_word :
    ∀ byte ∈ CString.utf8 "signature_hex", wordByte byte = true := by
  decide +kernel

theorem unlock_form_text (signature : Bytes) :
    unlockForm (hexText signature) =
      CString.utf8 "signature_hex" ++ 61 :: hexText signature := by
  rw [unlockForm, Alphabet.form, List.map_singleton, List.intercalate_singleton, Alphabet.field,
    Alphabet.encode_word signature_hex_word, Alphabet.encode_word (hex_text_word signature)]

/-- The server reads the signature back from the client's form. -/
theorem unlock_signature_form {signature : Bytes}
    (short : signature.length ≤ adminSignatureMaxLen) :
    AdminServer.unlockSignature (.complete (unlockForm (hexText signature))) = .ok signature := by
  have digits := hex_text_length signature
  have bound : signature.length ≤ 96 := short
  have size : (unlockForm (hexText signature)).length = 14 + signature.length * 2 := by
    have name : (CString.utf8 "signature_hex").length = 13 := by decide +kernel
    rw [unlock_form_text, List.length_append, List.length_cons, name, digits]
    omega
  have clean : ∀ byte ∈ unlockForm (hexText signature), byte ≠ 0 := by
    rw [unlock_form_text]
    intro byte member
    rcases List.mem_append.mp member with name | rest
    · exact CString.utf8_ne_zero (by decide +kernel) byte name
    · rcases List.mem_cons.mp rest with rfl | digit
      · decide
      · exact hex_text_ne_zero signature byte digit
  have received : readRequestBody (.complete (unlockForm (hexText signature))) adminPostBufSize =
      .ok (unlockForm (hexText signature)) := by
    rw [readRequestBody, if_neg (by rw [size, adminPostBufSize]; omega), CString.text_clean clean]
  have names : ∀ pair ∈ [(CString.utf8 "signature_hex", hexText signature)],
      ∀ byte ∈ pair.1, wordByte byte = true := by
    intro pair member
    rw [List.mem_singleton.mp member]
    exact signature_hex_word
  have found : formGetValue (unlockForm (hexText signature)) "signature_hex"
      (adminSignatureMaxLen * 2 + 1) = some (hexText signature) := by
    rw [formGetValue, unlockForm, form_segment_form urlencodeAlphabet names,
      List.lookup_cons_self, Option.map_some, Option.map_some, url_decode_n_take,
      url_decode_encode, List.take_of_length_le (by rw [digits, adminSignatureMaxLen]; omega),
      CString.text_clean (hex_text_ne_zero signature)]
  have parsed : parseHex (hexText signature) adminSignatureMaxLen = .ok signature := by
    rw [parseHex, if_neg (by rw [digits, adminSignatureMaxLen]; omega), hex_pairs_hex_text]
  rw [AdminServer.unlockSignature, received]
  simp only [found, parsed]

/-! ## Requests of others -/

/-- The server answers requests in a maintenance window that is still locked, with this
configuration stored. -/
structure AdminState.Serving (state : AdminState) (config : ZoneguardConfig) : Prop where
  registered : state.server.server = true
  running : state.server.running = true
  maintenance : state.server.mode = .maintenance
  locked : state.server.unlocked = false
  stored : state.storage.config = some config

/-- What the client waits through: no end of the window and no unlock by another one. -/
def Undisturbing (crypto : AdminCrypto) (state : AdminState) (input : AdminInput) : Prop :=
  ¬ state.Boundary input ∧ ¬ VerifiedUnlock crypto state input

theorem admin_request_keeps_storage (crypto : AdminCrypto) {state : AdminState}
    {config : ZoneguardConfig} (serving : state.Serving config) (input : AdminInput)
    (request : AdminRequest) :
    (adminRequestStep crypto state input request).1.storage = state.storage := by
  have silent : state.writes input = [] := by
    by_contra wrote
    exact absurd (writes_unlocked wrote).2 (by simp [serving.locked])
  unfold adminRequestStep
  split_ifs
  · rfl
  · cases request with
    | rootGet => rfl
    | challengeGet => rfl
    | unlock body => rfl
    | save body => simp [savePostHandler, serving.maintenance]
    | _ => simp [silent]

/-- With a valid challenge, a request that does not unlock leaves the server alone. -/
theorem admin_request_keeps_server {crypto : AdminCrypto} {state : AdminState}
    {input : AdminInput} {request : AdminRequest} (requested : input.action = .request request)
    (valid : state.server.challengeValid = true)
    (unverified : ¬ VerifiedUnlock crypto state input) :
    (adminRequestStep crypto state input request).1.server = state.server := by
  unfold adminRequestStep
  split_ifs
  · rfl
  · cases request with
    | challengeGet =>
        simp only [AdminServer.challengeGetHandler, valid, Bool.not_true, Bool.false_eq_true,
          if_false]
        split_ifs <;> rfl
    | unlock body =>
        simp only [AdminServer.unlockPostHandler, valid, Bool.not_true, Bool.false_eq_true,
          if_false]
        split_ifs with mode
        · rfl
        · cases carried : AdminServer.unlockSignature body with
          | error answer => rfl
          | ok signature =>
              simp only
              cases verified : state.server.verifyAdminSignature crypto input.env state.storage
                  signature with
              | error err => rfl
              | ok _ =>
                  rcases AdminServer.verify_admin_signature_ok verified with
                    ⟨config, hash, stored, hashed, accepted⟩
                  exact absurd ⟨body, signature, config, hash, requested, carried,
                    not_not.mp mode, valid, stored, hashed, accepted⟩ unverified
    | _ => rfl

theorem undisturbing_step {crypto : AdminCrypto} {state : AdminState} {input : AdminInput}
    {config : ZoneguardConfig} (serving : state.Serving config)
    (valid : state.server.challengeValid = true) (undisturbing : Undisturbing crypto state input) :
    (adminStep crypto state input).1 = state := by
  rcases undisturbing with ⟨inside, unverified⟩
  unfold AdminState.Boundary at inside
  unfold adminStep
  cases action : input.action with
  | start mode attempts => simp only [AdminServer.start, serving.running, if_true]
  | request request =>
      have server := admin_request_keeps_server action valid unverified
      have storage := admin_request_keeps_storage crypto serving input request
      exact congrArg₂ AdminState.mk server storage
  | _ => simp [action] at inside

theorem undisturbing_run {crypto : AdminCrypto} {state : AdminState} {others : List AdminInput}
    {config : ZoneguardConfig} (serving : state.Serving config)
    (valid : state.server.challengeValid = true)
    (undisturbed : Guarded (adminStep crypto) (Undisturbing crypto) state others) :
    (run (adminStep crypto) state others).1 = state := by
  apply guarded_history_run (adminStep crypto) (Undisturbing crypto)
    (fun current _ => current = state) _ state [] others
    (undisturbed.splits (adminStep crypto)) rfl
  intro current _ input undisturbing same
  subst same
  exact undisturbing_step serving valid undisturbing

/-! ## The unlock -/

/-- The client's key belongs to the stored public key, and both sides compute the same
digest. -/
structure AdminCompatible {PrivateKey : Type} (crypto : AdminCrypto)
    (client : Client PrivateKey) (privateKey : PrivateKey) (config : ZoneguardConfig) :
    Prop where
  hashed : ∀ message, crypto.mdSha256 message = some (client.sha256 message)
  verified : ∀ digest, crypto.mbedtlsPkVerify (CString.text config.issuerPublicKeyPem.toList ++ [0])
    digest (client.sign privateKey digest) = true
  sized : ∀ digest, 0 < (client.sign privateKey digest).length ∧
    (client.sign privateKey digest).length ≤ adminSignatureMaxLen

theorem verify_admin_signature_signed {PrivateKey : Type} {crypto : AdminCrypto}
    {client : Client PrivateKey} {privateKey : PrivateKey} {config : ZoneguardConfig}
    (compatible : AdminCompatible crypto client privateKey config) {env : AdminEnvironment}
    {storage : AdminStorage} {server : AdminServer} (readable : env.configFault = false)
    (stored : storage.config = some config) (valid : server.challengeValid = true) :
    server.verifyAdminSignature crypto env storage
      (client.sign privateKey (client.sha256 server.challenge.toList)) = .ok () := by
  have size := compatible.sized (client.sha256 server.challenge.toList)
  have loaded : AdminServer.configStoreLoad env storage = .ok config := by
    simp [AdminServer.configStoreLoad, readable, stored]
  have hashed : server.hashChallenge crypto = .ok (client.sha256 server.challenge.toList) := by
    simp [AdminServer.hashChallenge, valid, compatible.hashed]
  rw [AdminServer.verifyAdminSignature, if_neg (by omega), loaded]
  simp only [hashed, compatible.verified, if_true]

theorem challenge_get_serving (crypto : AdminCrypto) {state : AdminState}
    {config : ZoneguardConfig} (serving : state.Serving config) (env : AdminEnvironment) :
    (adminStep crypto state ⟨.request .challengeGet, env⟩).1.Serving config ∧
      (adminStep crypto state ⟨.request .challengeGet, env⟩).1.server.challengeValid = true := by
  rcases serving with ⟨registered, running, maintenance, locked, stored⟩
  simp only [adminStep, adminRequestStep, registered, Bool.not_true, Bool.false_eq_true, if_false,
    AdminServer.challengeGetHandler, maintenance, ne_eq, not_true_eq_false]
  split_ifs with invalid
  · exact ⟨⟨registered, running, maintenance, locked, stored⟩, rfl⟩
  · exact ⟨⟨registered, running, maintenance, locked, stored⟩, by simpa using invalid⟩

/-- In a locked maintenance window, a client that fetches the challenge and posts its signature
is let in, whatever requests others send in between, as long as the window stays open and no
other signature verifies. The challenge it answered is replaced. -/
theorem honest_unlock_succeeds {PrivateKey : Type} (crypto : AdminCrypto)
    (client : Client PrivateKey) (privateKey : PrivateKey) (config : ZoneguardConfig)
    (compatible : AdminCompatible crypto client privateKey config) (state : AdminState)
    (serving : state.Serving config) (fetch post : AdminEnvironment)
    (readable : post.configFault = false) (others : List AdminInput)
    (undisturbed : Guarded (adminStep crypto) (Undisturbing crypto)
      (adminStep crypto state ⟨.request .challengeGet, fetch⟩).1 others) :
    let fetched := (adminStep crypto state ⟨.request .challengeGet, fetch⟩).1
    let waiting := (run (adminStep crypto) fetched others).1
    ∃ page signatureHex, fetched.server.challengePage = .ok page ∧
      signChallenge client privateKey (httpGetText page) = .ok signatureHex ∧
      (waiting.server.unlockPostHandler crypto post waiting.storage
        (.complete (unlockForm signatureHex))).1.response =
          .sent "<!doctype html><html><body>unlocked</body></html>" ∧
      (adminStep crypto waiting
        ⟨.request (.unlock (.complete (unlockForm signatureHex))), post⟩).1.server =
          { fetched.server with unlocked := true, challenge := post.challengeRandom } := by
  intro fetched waiting
  rcases challenge_get_serving crypto serving fetch with ⟨fetchedServing, valid⟩
  have same : waiting = fetched := undisturbing_run fetchedServing valid undisturbed
  have signed := @verify_admin_signature_signed PrivateKey crypto client privateKey config
    compatible post fetched.storage fetched.server readable fetchedServing.stored valid
  have handled : fetched.server.unlockPostHandler crypto post fetched.storage
      (.complete (unlockForm (hexText
        (client.sign privateKey (client.sha256 fetched.server.challenge.toList))))) =
      (⟨.ok (), .sent "<!doctype html><html><body>unlocked</body></html>"⟩,
        { fetched.server with unlocked := true }.generateChallenge post,
        [post.challengeRandom]) := by
    rw [AdminServer.unlockPostHandler, if_neg (not_not.mpr fetchedServing.maintenance),
      if_neg (by simp [fetched, valid]), unlock_signature_form (compatible.sized _).2]
    simp only [signed]
  refine ⟨_, _, challenge_page_text fetched.server, sign_challenge_page client privateKey _, ?_, ?_⟩
  · rw [same, handled]
  · rw [same]
    have up : fetched.server.server = true := fetchedServing.registered
    simp only [adminStep, adminRequestStep, up, Bool.not_true, Bool.false_eq_true, if_false,
      handled, AdminServer.generateChallenge]
    rw [show fetched.server.challengeValid = true from valid]

def benchSigningClient : Client Unit where
  sha256 message := fit 32 message
  hmacSha256 _ message := fit 32 message
  aesGcmEncrypt _ _ plaintext := plaintext
  publicPem _ := []
  sign _ digest := digest.toList
  upper text := text

theorem bench_unlock_beside_forgery :
    let state : AdminState := ⟨⟨true, true, false, .maintenance, List.Vector.replicate 32 5, true⟩,
      benchAdminStorage⟩
    let forged : AdminInput := ⟨.request (.unlock (.complete (unlockForm (hexText [5, 6])))),
      benchAdminEnvironment 7⟩
    let fetched := (adminStep benchAdminCrypto state
      ⟨.request .challengeGet, benchAdminEnvironment 6⟩).1
    let waiting := (run (adminStep benchAdminCrypto) fetched [forged]).1
    ∃ page signatureHex, fetched.server.challengePage = .ok page ∧
      signChallenge benchSigningClient () (httpGetText page) = .ok signatureHex ∧
      (adminStep benchAdminCrypto waiting ⟨.request (.unlock (.complete
        (unlockForm signatureHex))), benchAdminEnvironment 8⟩).1.server.unlocked = true := by
  intro state forged fetched waiting
  have undisturbed : Guarded (adminStep benchAdminCrypto) (Undisturbing benchAdminCrypto) fetched
      [forged] := by
    refine ⟨⟨not_false, ?_⟩, trivial⟩
    rintro ⟨body, signature, config, hash, action, carried, -, -, -, -, accepted⟩
    cases action
    rw [unlock_signature_form (by decide)] at carried
    cases carried
    have size := congrArg List.length (beq_iff_eq.mp accepted)
    rw [hash.toList_length] at size
    cases size
  rcases honest_unlock_succeeds benchAdminCrypto benchSigningClient ()
    ⟨List.Vector.replicate 16 0, List.Vector.replicate 512 0⟩
    ⟨fun _ => rfl, fun digest => beq_self_eq_true digest.toList,
      fun digest => by
        have size : (benchSigningClient.sign () digest).length = 32 := digest.toList_length
        rw [size, adminSignatureMaxLen]
        omega⟩
    state ⟨rfl, rfl, rfl, rfl, rfl⟩ (benchAdminEnvironment 6) (benchAdminEnvironment 8) rfl [forged]
    undisturbed with ⟨page, signatureHex, shown, signed, _, opened⟩
  exact ⟨page, signatureHex, shown, signed, by rw [opened]⟩

end BlindNet
