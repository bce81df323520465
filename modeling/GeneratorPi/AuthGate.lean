import GeneratorPi.BruteForce

/-!
# The authentication gate

`auth_required` (`genpi/auth.py`): the rate limit, then the API key, then the `Authorization` header
through `check_auth` and its cache of verified credentials.  A `Visit` is one request with what the
gate reads; `authRequired` gives its outcome, what it did, and the tracker and cache it leaves.

The keyed hash of the cache is idealized to the message it is taken of.  A message is read back as
long as no NUL stands in the names and hashes of the users (`authCacheKey_inj`), so a cached success
is a verification of the same hash and password (`CacheSound`).

An `Authorization` object of a scheme without user name and password takes the gate out of its three
outcomes, and so does a stored hash that `check_password_hash` raises on (`gate_iff`).
-/

namespace GeneratorPi

open PyText OrderedDict Trace

/-! ## Credentials -/

/-- `request.authorization`: a missing half is `None`. -/
structure Credentials where
  username : Option Text
  password : Option Text
  deriving DecidableEq, Repr

/-- `AUTH_USERS`. -/
structure Users where
  hash? : Text → Option Text
  noNul : ∀ name hash, hash? name = some hash → '\x00' ∉ name ∧ '\x00' ∉ hash

/-- `check_password_hash` and `_DUMMY_HASH`. -/
structure Hashing where
  /-- `none` where it raises, as on `pbkdf2:my$own$pw`: a method it knows, with parts that it cannot
  read. -/
  checkPasswordHash : Text → Text → Option Bool
  dummyHash : Text
  /-- It does not raise on what `generate_password_hash` has made. -/
  dummy_checked : ∀ password, (checkPasswordHash dummyHash password).isSome

/-- What the gate reads from the settings and the environment. -/
structure AuthConfig where
  apiKeyEnabled : Bool
  apiKey : Text
  users : Users
  limits : RateLimits
  cacheTtl : ℚ
  cacheMax : ℕ

/-- A request, with the readings of the clocks made for it. -/
structure Visit where
  config : AuthConfig
  ip : Ip
  queryKey : Option Text
  headerKey : Option Text
  authorization : Option Credentials
  now : ℚ
  later : ℚ
  cacheNow : ℚ
  failedAt : ℚ
  lockAt : ℚ

/-- `_auth_cache`: the expiry of every cached success. -/
abbrev AuthCache := Dict Text ℚ

/-- The message `_auth_cache_key` takes the keyed hash of. -/
def authCacheKey (username storedHash password : Text) : Text :=
  username ++ '\x00' :: (storedHash ++ '\x00' :: (password ++ ['\x00']))

/-- Make room for one more cached success. -/
def evictCache (config : AuthConfig) (now : ℚ) (cache : AuthCache) : AuthCache :=
  if config.cacheMax ≤ cache.size then
    let cache := cache.filter fun _ expiry => now < expiry
    if config.cacheMax ≤ cache.size then .empty else cache
  else cache

/-- The hash that a password is checked against. -/
def Hashing.storedHash (hashing : Hashing) (users : Users) (username : Text) : Text :=
  (users.hash? username).getD hashing.dummyHash

/-- `check_auth`; `none` is the `AttributeError` of encoding a missing half, or what
`check_password_hash` raises. -/
def checkAuth (hashing : Hashing) (config : AuthConfig) (now : ℚ) (credentials : Credentials)
    (cache : AuthCache) : Option (Bool × AuthCache) :=
  match credentials.username, credentials.password with
  | some username, some password =>
      let storedHash := hashing.storedHash config.users username
      let known := (config.users.hash? username).isSome
      let key := authCacheKey username storedHash password
      if (cache.get? key).any (now < ·) then some (known, cache)
      else
        (hashing.checkPasswordHash storedHash password).map fun verified =>
          let ok := verified && known
          if ok && 0 < config.cacheTtl then
            (ok, (evictCache config now cache).set key (now + config.cacheTtl))
          else (ok, cache)
  | _, _ => none

/-- The key of the query string, or else of the header. -/
def presentedKey (v : Visit) : Option Text :=
  match v.queryKey with
  | some (c :: key) => some (c :: key)
  | _ => v.headerKey

/-- `check_api_key`. -/
def checkApiKey (v : Visit) : Bool :=
  if !v.config.apiKeyEnabled then false
  else if v.config.apiKey.isEmpty then false
  else
    match presentedKey v with
    | none => false
    | some presented => !presented.isEmpty && presented == v.config.apiKey

/-! ## The gate -/

/-- What the gate does for a request, in order. -/
inductive GateAction where
  | checkApiKey
  | checkAuth
  | recordFailure
  | recordSuccess
  | handler
  deriving DecidableEq, Repr

inductive GateOutcome where
  /-- The 429 response. -/
  | limited
  /-- The wrapped handler is called. -/
  | handled
  /-- The 401 response. -/
  | unauthorized
  | raised
  deriving DecidableEq, Repr

/-- `_fail_tracker` and `_auth_cache`. -/
structure AuthState where
  limiter : Limiter
  cache : AuthCache := .empty

structure GateResult where
  outcome : GateOutcome
  actions : List GateAction
  state : AuthState

/-- A failed login: recorded, unless `record_failure` raises. -/
def deny (v : Visit) (actions : List GateAction) (s : AuthState) : GateResult :=
  match recordFailure v.config.limits v.failedAt v.lockAt v.ip s.limiter with
  | some (_, limiter) =>
      { outcome := .unauthorized
        actions := actions ++ [.recordFailure]
        state := { s with limiter := limiter } }
  | none => { outcome := .raised, actions := actions, state := s }

/-- A request that is let in. -/
def letIn (v : Visit) (actions : List GateAction) (s : AuthState) : GateResult :=
  { outcome := .handled
    actions := actions ++ [.recordSuccess, .handler]
    state := { s with limiter := recordSuccess v.ip s.limiter } }

/-- `auth_required`, up to the call of the wrapped handler. -/
def authRequired (hashing : Hashing) (v : Visit) (s : AuthState) : GateResult :=
  let (remaining, limiter) := isRateLimited v.config.limits v.now v.later v.ip s.limiter
  let s := { s with limiter := limiter }
  if 0 < remaining then { outcome := .limited, actions := [], state := s }
  else if checkApiKey v then letIn v [.checkApiKey] s
  else
    match v.authorization with
    | none => deny v [.checkApiKey] s
    | some credentials =>
        match checkAuth hashing v.config v.cacheNow credentials s.cache with
        | none => { outcome := .raised, actions := [.checkApiKey, .checkAuth], state := s }
        | some (true, cache) => letIn v [.checkApiKey, .checkAuth] { s with cache := cache }
        | some (false, cache) => deny v [.checkApiKey, .checkAuth] { s with cache := cache }

/-! ## The cache -/

/-- What stands before the first separator and what stands behind it. -/
theorem eq_of_append_separator {c : Char} {a b r s : Text} (ha : c ∉ a) (hb : c ∉ b)
    (same : a ++ c :: r = b ++ c :: s) : a = b ∧ r = s := by
  have before := congrArg (List.takeWhile (· != c)) same
  have after := congrArg (List.dropWhile (· != c)) same
  have free : ∀ {x : Text}, c ∉ x → ∀ d ∈ x, (d != c) = true := fun hx d hd => by
    simpa using ne_of_mem_of_not_mem hd hx
  rw [List.takeWhile_append_of_pos (free ha), List.takeWhile_append_of_pos (free hb)] at before
  rw [List.dropWhile_append_of_pos (free ha), List.dropWhile_append_of_pos (free hb)] at after
  exact ⟨by simpa using before, by simpa using after⟩

/-- A name and a hash without NULs are read back from the message. -/
theorem authCacheKey_inj {u h p u' h' p' : Text} (name : '\x00' ∉ u) (hash : '\x00' ∉ h)
    (name' : '\x00' ∉ u') (hash' : '\x00' ∉ h')
    (same : authCacheKey u h p = authCacheKey u' h' p') : u = u' ∧ h = h' ∧ p = p' := by
  obtain ⟨names, rest⟩ := eq_of_append_separator name name' same
  obtain ⟨hashes, passwords⟩ := eq_of_append_separator hash hash' rest
  exact ⟨names, hashes, List.append_cancel_right passwords⟩

/-- Every cached success is a verified hash and password of some user. -/
def CacheSound (hashing : Hashing) (cache : AuthCache) : Prop :=
  ∀ key expiry, (key, expiry) ∈ cache.entries →
    ∃ username hash password, key = authCacheKey username hash password ∧
      '\x00' ∉ username ∧ '\x00' ∉ hash ∧ hashing.checkPasswordHash hash password = some true

/-- The credentials are a user's name and password. -/
def Valid (hashing : Hashing) (users : Users) (credentials : Credentials) : Prop :=
  ∃ username password hash, credentials = ⟨some username, some password⟩ ∧
    users.hash? username = some hash ∧ hashing.checkPasswordHash hash password = some true

/-- `check_auth` returns: no half is missing, and a cached success or the check of the password
decides. -/
def Checkable (hashing : Hashing) (config : AuthConfig) (now : ℚ) (credentials : Credentials)
    (cache : AuthCache) : Prop :=
  ∃ username password, credentials = ⟨some username, some password⟩ ∧
    let storedHash := hashing.storedHash config.users username
    ((cache.get? (authCacheKey username storedHash password)).any (now < ·) = true ∨
      (hashing.checkPasswordHash storedHash password).isSome)

/-- A whole pair of credentials. -/
theorem valid_iff {hashing : Hashing} {users : Users} {username password : Text} :
    Valid hashing users ⟨some username, some password⟩ ↔
      ∃ hash, users.hash? username = some hash ∧
        hashing.checkPasswordHash hash password = some true := by
  constructor
  · rintro ⟨u, p, hash, same, known, verified⟩
    cases same
    exact ⟨hash, known, verified⟩
  · rintro ⟨hash, known, verified⟩
    exact ⟨username, password, hash, rfl, known, verified⟩

section Cache

variable {hashing : Hashing} {config : AuthConfig} {now : ℚ} {credentials : Credentials}
  {cache cache' : AuthCache} {verdict : Bool}

theorem CacheSound.empty : CacheSound hashing .empty := fun _ _ h => (nomatch h)

theorem CacheSound.evict (sound : CacheSound hashing cache) :
    CacheSound hashing (evictCache config now cache) := by
  unfold evictCache
  dsimp only
  split
  · split
    · exact CacheSound.empty
    · exact fun key expiry mem => sound key expiry (Dict.mem_filter.mp mem).1
  · exact sound

/-- A cached success of a known user is one of this very hash and password. -/
theorem CacheSound.verified (sound : CacheSound hashing cache) {username password hash : Text}
    {expiry : ℚ} (known : config.users.hash? username = some hash)
    (hit : cache.get? (authCacheKey username hash password) = some expiry) :
    hashing.checkPasswordHash hash password = some true := by
  obtain ⟨u, h, p, same, name, noNul, verified⟩ := sound _ _ (Dict.get?_eq_some.mp hit)
  obtain ⟨name', noNul'⟩ := config.users.noNul username hash known
  obtain ⟨-, rfl, rfl⟩ := authCacheKey_inj name' noNul' name noNul same
  exact verified

/-- `check_auth` finds out whether the credentials are valid, cached or not, and only caches what
it has verified. -/
theorem checkAuth_spec (sound : CacheSound hashing cache)
    (h : checkAuth hashing config now credentials cache = some (verdict, cache')) :
    (verdict = true ↔ Valid hashing config.users credentials) ∧ CacheSound hashing cache' := by
  obtain ⟨name?, password?⟩ := credentials
  cases name? with
  | none => cases h
  | some username =>
      cases password? with
      | none => cases h
      | some password =>
          rw [valid_iff]
          cases known : config.users.hash? username with
          | none =>
              -- The dummy hash is checked, but no unknown user gets in or into the cache.
              simp only [checkAuth, known, Option.isSome_none, Bool.and_false, Bool.false_and,
                Bool.false_eq_true, if_false] at h
              split at h
              next =>
                cases h
                exact ⟨by simp, sound⟩
              next =>
                obtain ⟨verified, -, same⟩ := Option.map_eq_some_iff.mp h
                cases same
                exact ⟨by simp, sound⟩
          | some hash =>
              simp only [checkAuth, Hashing.storedHash, known, Option.getD_some, Option.isSome_some,
                Bool.and_true] at h
              split at h
              next hit =>
                cases h
                obtain ⟨expiry, cached, -⟩ := (Option.any_eq_true _ _).mp hit
                exact ⟨by simp [sound.verified known cached], sound⟩
              next =>
                obtain ⟨verified, checked, same⟩ := Option.map_eq_some_iff.mp h
                split at same
                next fresh =>
                  cases same
                  rw [Bool.and_eq_true] at fresh
                  rw [fresh.1] at checked
                  refine ⟨by simp [fresh.1, checked], fun key expiry mem => ?_⟩
                  rcases Dict.mem_set.mp mem with ⟨rfl, -⟩ | ⟨-, old⟩
                  · obtain ⟨name, noNul⟩ := config.users.noNul username hash known
                    exact ⟨username, hash, password, rfl, name, noNul, checked⟩
                  · exact sound.evict key expiry old
                next =>
                  cases same
                  exact ⟨by simp [checked], sound⟩

/-- It raises exactly on credentials that it cannot check. -/
theorem checkAuth_eq_none :
    checkAuth hashing config now credentials cache = none ↔
      ¬ Checkable hashing config now credentials cache := by
  obtain ⟨name?, password?⟩ := credentials
  cases name? with
  | none => simp [checkAuth, Checkable]
  | some username =>
      cases password? with
      | none => simp [checkAuth, Checkable]
      | some password =>
          simp only [checkAuth, Checkable, Credentials.mk.injEq, Option.some.injEq]
          constructor
          · rintro raised ⟨_, _, ⟨rfl, rfl⟩, hit | checked⟩
            · rw [if_pos hit] at raised
              cases raised
            · split at raised
              · cases raised
              · rw [Option.map_eq_none_iff] at raised
                rw [raised] at checked
                cases checked
          · intro unchecked
            by_contra returned
            refine unchecked ⟨username, password, ⟨rfl, rfl⟩, ?_⟩
            split at returned
            next hit => exact Or.inl hit
            next =>
              rw [Option.map_eq_none_iff] at returned
              exact Or.inr (Option.isSome_iff_ne_none.mpr returned)

/-- For a user the check of the password does not raise: a cached success is one of it. -/
theorem Checkable.checked (sound : CacheSound hashing cache) {username password hash : Text}
    (known : config.users.hash? username = some hash)
    (checkable : Checkable hashing config now ⟨some username, some password⟩ cache) :
    (hashing.checkPasswordHash hash password).isSome := by
  have stored : hashing.storedHash config.users username = hash := by
    rw [Hashing.storedHash, known, Option.getD_some]
  obtain ⟨_, _, same, decided⟩ := checkable
  cases same
  rw [stored] at decided
  rcases decided with hit | checked
  · obtain ⟨expiry, cached, -⟩ := (Option.any_eq_true _ _).mp hit
    rw [sound.verified known cached]
    rfl
  · exact checked

/-- A user's name and password can be checked. -/
theorem Valid.checkable (valid : Valid hashing config.users credentials) :
    Checkable hashing config now credentials cache := by
  obtain ⟨username, password, hash, rfl, known, verified⟩ := valid
  refine ⟨username, password, rfl, Or.inr ?_⟩
  rw [Hashing.storedHash, known, Option.getD_some, verified]
  rfl

end Cache

/-! ## The gate over whole runs -/

/-- The address is limited when the request arrives. -/
def Limited (v : Visit) (s : AuthState) : Prop :=
  0 < (isRateLimited v.config.limits v.now v.later v.ip s.limiter).1

/-- A key is configured and it is the one presented. -/
def KeyValid (v : Visit) : Prop :=
  v.config.apiKeyEnabled = true ∧ v.config.apiKey ≠ [] ∧ presentedKey v = some v.config.apiKey

/-- The `Authorization` header holds a user's name and password. -/
def BasicValid (hashing : Hashing) (v : Visit) : Prop :=
  ∃ credentials, v.authorization = some credentials ∧ Valid hashing v.config.users credentials

/-- The three outcomes and what each goes with. -/
structure Gated (hashing : Hashing) (v : Visit) (s : AuthState) (r : GateResult) : Prop where
  returns : r.outcome ≠ .raised
  limited_iff : r.outcome = .limited ↔ Limited v s
  limited_idle : r.outcome = .limited → r.actions = []
  handled_iff : r.outcome = .handled ↔ ¬ Limited v s ∧ (KeyValid v ∨ BasicValid hashing v)
  handled_runs : r.outcome = .handled →
    r.actions.count .handler = 1 ∧ .recordFailure ∉ r.actions
  unauthorized_counts : r.outcome = .unauthorized →
    .handler ∉ r.actions ∧ r.actions.count .recordFailure = 1 ∧
      ∃ result, recordFailure v.config.limits v.failedAt v.lockAt v.ip
        (isRateLimited v.config.limits v.now v.later v.ip s.limiter).2 =
          some (result, r.state.limiter)

/-- `record_failure` can make room for the address: the cap is positive, or something is tracked
behind the check. -/
def CanRecord (v : Visit) (s : AuthState) : Prop :=
  0 < v.config.limits.maxTrackedIps ∨
    (isRateLimited v.config.limits v.now v.later v.ip s.limiter).2.tracker.size ≠ 0

/-- The request is limited or holds the key; or its `Authorization` can be checked, and it is
valid or its failure can be recorded. -/
def Servable (hashing : Hashing) (v : Visit) (s : AuthState) : Prop :=
  Limited v s ∨ KeyValid v ∨
    ((∀ credentials, v.authorization = some credentials →
        Checkable hashing v.config v.cacheNow credentials s.cache) ∧
      (BasicValid hashing v ∨ CanRecord v s))

theorem checkApiKey_iff {v : Visit} : checkApiKey v = true ↔ KeyValid v := by
  unfold checkApiKey KeyValid
  cases enabled : v.config.apiKeyEnabled with
  | false => simp
  | true =>
      cases configured : v.config.apiKey with
      | nil => simp
      | cons c key =>
          cases presentedKey v with
          | none => simp
          | some presented =>
              simp only [Bool.not_true, Bool.false_eq_true, if_false, List.isEmpty_cons,
                Bool.and_eq_true, Bool.not_eq_true', List.isEmpty_eq_false_iff, beq_iff_eq,
                ne_eq, reduceCtorEq, not_false_eq_true, true_and, Option.some.injEq]
              exact ⟨fun h => h.2, fun h => ⟨by simp [h], h⟩⟩

/-- `record_failure` raises exactly when a cap of zero or less meets an empty tracker. -/
theorem recordFailure_isSome_iff {c : RateLimits} {now lockAt : ℚ} {ip : Ip} {l : Limiter} :
    (recordFailure c now lockAt ip l).isSome ↔ 0 < c.maxTrackedIps ∨ l.tracker.size ≠ 0 := by
  rw [recordFailure, Option.isSome_map]
  constructor
  · intro room
    by_contra never
    rw [not_or, not_lt, not_not] at never
    obtain ⟨cap, empty⟩ := never
    have fresh : ip ∉ l.tracker.keys := by
      intro mem
      have := Dict.size_erase_lt mem
      omega
    rw [makeRoom, if_pos ⟨fresh, by omega⟩, Option.isSome_map,
      Dict.minKey_eq_none.mpr empty] at room
    cases room
  · rintro (cap | filled)
    · exact makeRoom_isSome cap
    · unfold makeRoom
      split
      · rw [Option.isSome_map, Option.isSome_iff_ne_none]
        exact fun none => filled (Dict.minKey_eq_none.mp none)
      · rfl

section Gate

variable {hashing : Hashing} {v : Visit} {s : AuthState}

/-- A request that is let in: the handler runs once and no failure is recorded. -/
theorem gated_letIn {actions : List GateAction} {t : AuthState}
    (checks : ∀ a ∈ actions, a = .checkApiKey ∨ a = .checkAuth) (free : ¬ Limited v s)
    (valid : KeyValid v ∨ BasicValid hashing v) : Gated hashing v s (letIn v actions t) where
  returns := by simp [letIn]
  limited_iff := by simp [letIn, free]
  limited_idle := by simp [letIn]
  handled_iff := by simp [letIn, free, valid]
  handled_runs _ := by
    have handler : .handler ∉ actions := fun mem => by simpa using checks _ mem
    have failure : .recordFailure ∉ actions := fun mem => by simpa using checks _ mem
    simp [letIn, List.count_eq_zero_of_not_mem handler, failure]
  unauthorized_counts := by simp [letIn]

/-- A login that fails: one failure is recorded, and the handler does not run. -/
theorem gated_deny {actions : List GateAction} {t : AuthState}
    (tracker : t.limiter = (isRateLimited v.config.limits v.now v.later v.ip s.limiter).2)
    (checks : ∀ a ∈ actions, a = .checkApiKey ∨ a = .checkAuth) (free : ¬ Limited v s)
    (invalid : ¬ (KeyValid v ∨ BasicValid hashing v)) (recorded : CanRecord v s) :
    Gated hashing v s (deny v actions t) := by
  have some_room : (recordFailure v.config.limits v.failedAt v.lockAt v.ip
      (isRateLimited v.config.limits v.now v.later v.ip s.limiter).2).isSome :=
    recordFailure_isSome_iff.mpr recorded
  rcases Option.isSome_iff_exists.mp some_room with ⟨⟨result, limiter⟩, eq⟩
  have written := eq
  rw [← tracker] at written
  have denied : deny v actions t =
      { outcome := .unauthorized
        actions := actions ++ [.recordFailure]
        state := { t with limiter := limiter } } := by
    rw [deny, written]
  rw [denied]
  refine ⟨by simp, by simp [free], by simp, by simp [free, invalid], by simp, fun _ => ?_⟩
  have handler : .handler ∉ actions := fun mem => by simpa using checks _ mem
  have failure : .recordFailure ∉ actions := fun mem => by simpa using checks _ mem
  exact ⟨by simp [handler], by simp [List.count_eq_zero_of_not_mem failure], result, eq⟩

/-- A login whose failure cannot be recorded raises. -/
theorem deny_raises {actions : List GateAction} {t : AuthState}
    (tracker : t.limiter = (isRateLimited v.config.limits v.now v.later v.ip s.limiter).2)
    (unrecorded : ¬ CanRecord v s) : (deny v actions t).outcome = .raised := by
  have none_left : recordFailure v.config.limits v.failedAt v.lockAt v.ip t.limiter = none := by
    rw [tracker, ← Option.not_isSome_iff_eq_none, recordFailure_isSome_iff]
    exact unrecorded
  rw [deny, none_left]

/-- What the gate does behind the check and the API key. -/
theorem authRequired_basic (free : ¬ Limited v s) (key : checkApiKey v = false) :
    authRequired hashing v s =
      let t := { s with limiter := (isRateLimited v.config.limits v.now v.later v.ip s.limiter).2 }
      match v.authorization with
      | none => deny v [.checkApiKey] t
      | some credentials =>
          match checkAuth hashing v.config v.cacheNow credentials s.cache with
          | none => { outcome := .raised, actions := [.checkApiKey, .checkAuth], state := t }
          | some (true, cache) => letIn v [.checkApiKey, .checkAuth] { t with cache := cache }
          | some (false, cache) => deny v [.checkApiKey, .checkAuth] { t with cache := cache } := by
  have passed : ¬ 0 < (isRateLimited v.config.limits v.now v.later v.ip s.limiter).1 := free
  unfold authRequired
  dsimp only
  rw [if_neg passed, key]
  rfl

theorem authRequired_limited (limited : Limited v s) :
    authRequired hashing v s =
      { outcome := .limited
        actions := []
        state := { s with
          limiter := (isRateLimited v.config.limits v.now v.later v.ip s.limiter).2 } } :=
  if_pos limited

theorem authRequired_key (free : ¬ Limited v s) (key : checkApiKey v = true) :
    authRequired hashing v s = letIn v [.checkApiKey] { s with
      limiter := (isRateLimited v.config.limits v.now v.later v.ip s.limiter).2 } := by
  have passed : ¬ 0 < (isRateLimited v.config.limits v.now v.later v.ip s.limiter).1 := free
  unfold authRequired
  dsimp only
  rw [if_neg passed, key]
  rfl

/-- A failed login keeps to the outcomes if it can be recorded. -/
theorem gated_deny_iff {actions : List GateAction} {t : AuthState}
    (tracker : t.limiter = (isRateLimited v.config.limits v.now v.later v.ip s.limiter).2)
    (checks : ∀ a ∈ actions, a = .checkApiKey ∨ a = .checkAuth) (free : ¬ Limited v s)
    (invalid : ¬ (KeyValid v ∨ BasicValid hashing v)) :
    Gated hashing v s (deny v actions t) ↔ CanRecord v s := by
  constructor
  · intro gated
    by_contra unrecorded
    exact gated.returns (deny_raises tracker unrecorded)
  · exact gated_deny tracker checks free invalid

theorem gated_headerless_iff (free : ¬ Limited v s) (keyless : ¬ KeyValid v)
    (header : v.authorization = none) :
    Gated hashing v s (authRequired hashing v s) ↔ Servable hashing v s := by
  have invalid : ¬ BasicValid hashing v := by
    rintro ⟨credentials, present, -⟩
    rw [header] at present
    cases present
  have servable : Servable hashing v s ↔ CanRecord v s := by
    simp [Servable, free, keyless, header, invalid]
  rw [authRequired_basic free (Bool.eq_false_of_not_eq_true (mt checkApiKey_iff.mp keyless)),
    header, servable]
  exact gated_deny_iff rfl (by simp) free (by simp [keyless, invalid])

theorem gated_header_iff (sound : CacheSound hashing s.cache) (free : ¬ Limited v s)
    (keyless : ¬ KeyValid v) {credentials : Credentials}
    (header : v.authorization = some credentials) :
    Gated hashing v s (authRequired hashing v s) ↔ Servable hashing v s := by
  rw [authRequired_basic free (Bool.eq_false_of_not_eq_true (mt checkApiKey_iff.mp keyless)),
    header]
  dsimp only
  cases checked : checkAuth hashing v.config v.cacheNow credentials s.cache with
  | none =>
      have unchecked := checkAuth_eq_none.mp checked
      have unservable : ¬ Servable hashing v s := by
        rintro (h | h | ⟨whole, -⟩)
        · exact free h
        · exact keyless h
        · exact unchecked (whole credentials header)
      exact ⟨fun gated => absurd rfl gated.returns, fun h => absurd h unservable⟩
  | some found =>
      obtain ⟨verdict, cache⟩ := found
      obtain ⟨valid, -⟩ := checkAuth_spec sound checked
      have basic : BasicValid hashing v ↔ verdict = true := by
        rw [valid]
        constructor
        · rintro ⟨other, present, isValid⟩
          rw [header, Option.some.injEq] at present
          exact present ▸ isValid
        · exact fun isValid => ⟨credentials, header, isValid⟩
      have checkable : Checkable hashing v.config v.cacheNow credentials s.cache := by
        by_contra unchecked
        rw [checkAuth_eq_none.mpr unchecked] at checked
        cases checked
      have servable : Servable hashing v s ↔ verdict = true ∨ CanRecord v s := by
        rw [Servable, basic]
        simp [free, keyless, header, checkable]
      rw [servable]
      cases verdict with
      | true =>
          exact iff_of_true (gated_letIn (by simp) free (Or.inr (basic.mpr rfl))) (Or.inl rfl)
      | false =>
          have invalid : ¬ (KeyValid v ∨ BasicValid hashing v) := by
            simp [keyless, basic]
          refine (gated_deny_iff rfl (by simp) free invalid).trans ?_
          simp

/-- With a sound cache the gate keeps to its three outcomes exactly for servable requests. -/
theorem gated_iff (sound : CacheSound hashing s.cache) :
    Gated hashing v s (authRequired hashing v s) ↔ Servable hashing v s := by
  by_cases limited : Limited v s
  · rw [authRequired_limited limited]
    refine ⟨fun _ => Or.inl limited, fun _ => ⟨?_, ?_, ?_, ?_, ?_, ?_⟩⟩ <;> simp [limited]
  by_cases valid : KeyValid v
  · rw [authRequired_key limited (checkApiKey_iff.mpr valid)]
    exact iff_of_true (gated_letIn (by simp) limited (Or.inl valid)) (Or.inr (Or.inl valid))
  cases header : v.authorization with
  | none => exact gated_headerless_iff limited valid header
  | some credentials => exact gated_header_iff sound limited valid header

/-- The gate caches nothing but verified credentials. -/
theorem CacheSound.authRequired (sound : CacheSound hashing s.cache) (v : Visit) :
    CacheSound hashing (authRequired hashing v s).state.cache := by
  have denied : ∀ {actions : List GateAction} {t : AuthState}, CacheSound hashing t.cache →
      CacheSound hashing (deny v actions t).state.cache := by
    intro actions t h
    unfold deny
    split <;> exact h
  unfold GeneratorPi.authRequired
  dsimp only
  split
  · exact sound
  split
  · exact sound
  split
  · exact denied sound
  next credentials header =>
    cases checked : checkAuth hashing v.config v.cacheNow credentials s.cache with
    | none => exact sound
    | some found =>
        obtain ⟨verdict, cache⟩ := found
        obtain ⟨-, still⟩ := checkAuth_spec sound checked
        cases verdict with
        | true => exact still
        | false => exact denied still

/-! ## A request alone, among the steps of the guard -/

theorem settle_counts (ip : Ip) (l : Limiter) (g : Guard) :
    (Guard.settle ip l g).limiter = g.limiter ∧ (Guard.settle ip l g).checked = g.checked ∧
      (Guard.settle ip l g).denied = g.denied ∧ (Guard.settle ip l g).granted = g.granted := by
  unfold Guard.settle
  split <;> exact ⟨rfl, rfl, rfl, rfl⟩

theorem limiter_deny (v : Visit) (actions : List GateAction) (s : AuthState) :
    (deny v actions s).state.limiter =
      TrackerCall.apply v.config.limits v.ip s.limiter (.failure v.failedAt v.lockAt) := by
  simp only [deny, TrackerCall.apply]
  cases recordFailure v.config.limits v.failedAt v.lockAt v.ip s.limiter <;> rfl

/-- The tracker a request leaves: that of the check, and one record on it. -/
theorem limiter_authRequired (hashing : Hashing) (v : Visit) (s : AuthState) :
    let checked := (isRateLimited v.config.limits v.now v.later v.ip s.limiter).2
    (authRequired hashing v s).state.limiter = checked ∨
      ¬ Limited v s ∧
        ((authRequired hashing v s).state.limiter = recordSuccess v.ip checked ∨
          (authRequired hashing v s).state.limiter =
            TrackerCall.apply v.config.limits v.ip checked (.failure v.failedAt v.lockAt)) := by
  unfold authRequired
  dsimp only
  split
  · exact Or.inl rfl
  next free =>
    split
    · exact Or.inr ⟨free, Or.inl rfl⟩
    split
    · exact Or.inr ⟨free, Or.inr (limiter_deny v _ _)⟩
    next credentials header =>
      cases checkAuth hashing v.config v.cacheNow credentials s.cache with
      | none => exact Or.inl rfl
      | some found =>
          obtain ⟨verdict, cache⟩ := found
          cases verdict with
          | true => exact Or.inr ⟨free, Or.inl rfl⟩
          | false => exact Or.inr ⟨free, Or.inr (limiter_deny v _ _)⟩

/-- A request that passes the check waits for its verdict. -/
theorem step_check_passed (free : ¬ Limited v s) :
    ∃ g, Guard.step v.config.limits v.ip { limiter := s.limiter } (.check v.now v.later) = some g ∧
      g.limiter = (isRateLimited v.config.limits v.now v.later v.ip s.limiter).2 ∧
      g.checked = 1 := by
  have passed : ¬ 0 < (isRateLimited v.config.limits v.now v.later v.ip s.limiter).1 := free
  refine ⟨_, step_check _ _ _, ?_⟩
  obtain ⟨limiter, checked, -, -⟩ := settle_counts v.ip s.limiter
    { limiter := (isRateLimited v.config.limits v.now v.later v.ip s.limiter).2, checked := 1 }
  rw [if_neg passed]
  exact ⟨limiter, checked⟩

/-- A request alone takes the tracker through the steps of the guard. -/
theorem authRequired_guard (hashing : Hashing) (v : Visit) (s : AuthState) :
    ∃ steps g, run (Guard.step v.config.limits v.ip) { limiter := s.limiter } steps = some g ∧
      g.limiter = (authRequired hashing v s).state.limiter := by
  rcases limiter_authRequired hashing v s with eq | ⟨free, success | failure⟩
  · refine ⟨[.check v.now v.later], _, rfl, ?_⟩
    rw [eq]
    exact (settle_counts _ _ _).1
  · obtain ⟨g, check, limiter, waiting⟩ := step_check_passed free
    have verified : g.step v.config.limits v.ip (.verify .granted) =
        some { g with checked := g.checked - 1, granted := g.granted + 1 } := if_pos (by omega)
    refine ⟨[.check v.now v.later, .verify .granted, .recordSuccess], _,
      run_cons_eq_some.mpr ⟨g, check, run_cons_eq_some.mpr ⟨_, verified,
        run_cons_eq_some.mpr ⟨_, step_recordSuccess (Nat.succ_pos _), rfl⟩⟩⟩, ?_⟩
    rw [(settle_counts _ _ _).1, success, ← limiter]
  · obtain ⟨g, check, limiter, waiting⟩ := step_check_passed free
    have verified : g.step v.config.limits v.ip (.verify .denied) =
        some { g with
          checked := g.checked - 1
          denied := g.denied + 1
          verified := g.verified + 1 } := if_pos (by omega)
    refine ⟨[.check v.now v.later, .verify .denied, .recordFailure v.failedAt v.lockAt], _,
      run_cons_eq_some.mpr ⟨g, check, run_cons_eq_some.mpr ⟨_, verified,
        run_cons_eq_some.mpr ⟨_, step_recordFailure (Nat.succ_pos _) _ _, rfl⟩⟩⟩, ?_⟩
    rw [(settle_counts _ _ _).1, failure, ← limiter]

end Gate

/-! ## Runs -/

/-- The tracker and the cache after the visits, one after another. -/
def afterVisits (hashing : Hashing) (s : AuthState) (visits : List Visit) : AuthState :=
  visits.foldl (fun s v => (authRequired hashing v s).state) s

theorem CacheSound.afterVisits {hashing : Hashing} {s : AuthState}
    (sound : CacheSound hashing s.cache)
    (visits : List Visit) : CacheSound hashing (afterVisits hashing s visits).cache := by
  induction visits generalizing s with
  | nil => exact sound
  | cons v visits ih => exact ih (sound.authRequired v)

/-- From any tracker and after any requests to the process: the gate takes exactly one of its three
outcomes, with what belongs to it, exactly for a servable request. -/
theorem gate_iff (hashing : Hashing) (l : Limiter) (visits : List Visit) (v : Visit) :
    Gated hashing v (afterVisits hashing { limiter := l } visits)
        (authRequired hashing v (afterVisits hashing { limiter := l } visits)) ↔
      Servable hashing v (afterVisits hashing { limiter := l } visits) :=
  gated_iff (CacheSound.afterVisits CacheSound.empty visits)

/-- No user, default limits. -/
def noUsers : AuthConfig :=
  { apiKeyEnabled := false
    apiKey := []
    users := { hash? := fun _ => none, noNul := fun _ _ h => (nomatch h) }
    limits := defaultRateLimits
    cacheTtl := 60
    cacheMax := 256 }

/-- A request with `Authorization: Bearer …`: an object without a user name and a password. -/
def bearerVisit : Visit :=
  { config := noUsers
    ip := "10.0.0.7".toList
    queryKey := none
    headerKey := none
    authorization := some ⟨none, none⟩
    now := 1
    later := 1
    cacheNow := 1
    failedAt := 1
    lockAt := 1 }

/-- Instead of recording a failure, whatever the hashes. -/
theorem raises_bearerVisit (hashing : Hashing) :
    (authRequired hashing bearerVisit { limiter := { lastCleanup := 0 } }).outcome = .raised := by
  have free : ¬ Limited bearerVisit { limiter := { lastCleanup := 0 } } := by
    unfold Limited
    decide +kernel
  rw [authRequired_basic free rfl]
  rfl

/-- Passwords that are their own hashes. -/
def plainHashing : Hashing where
  checkPasswordHash hash password := some (hash = password)
  dummyHash := []
  dummy_checked _ := rfl

/-- The gate raises on it. -/
theorem bearer_raises :
    (authRequired plainHashing bearerVisit { limiter := { lastCleanup := 0 } }).outcome = .raised ∧
      ¬ Gated plainHashing bearerVisit { limiter := { lastCleanup := 0 } }
        (authRequired plainHashing bearerVisit { limiter := { lastCleanup := 0 } }) :=
  have raises := raises_bearerVisit plainHashing
  ⟨raises, fun gated => gated.returns raises⟩

end GeneratorPi
