import GeneratorPi.AuthGate
import GeneratorPi.Lib.Utf8

/-!
# The credential cache over a history of users

`check_auth` (`genpi/auth.py`) with the cache keyed by the digests `_auth_cache_key` computes, for
any keyed hash that is injective on the bytes it is fed.  Between two calls the owner may change
`AUTH_USERS` in any way, and the clock may be set to anything.

Under an injective hash the keyed cache is the cache of `checkAuth`, which is keyed by the message
itself, with its keys renamed (`checkAuthDigest_mapKeys`); so what is known of that one holds of
this one (`transparent_after`).
-/

namespace GeneratorPi

open PyText OrderedDict Utf8

/-- `_AUTH_CACHE_MAX`. -/
def authCacheMax : ℕ := 256

section Digest

variable {K : Type*} [DecidableEq K]

/-- `_auth_cache_key`: every part is fed to the keyed hash, a zero byte behind it. -/
def authCacheDigest (mac : Bytes → K) (username storedHash password : Text) : K :=
  mac ([username, storedHash, password].flatMap fun part => encode part ++ [0])

/-- Room for one more cached success. -/
def evictDigests (now : ℚ) (cache : Dict K ℚ) : Dict K ℚ :=
  if authCacheMax ≤ cache.size then
    let cache := cache.filter fun _ expiry => now < expiry
    if authCacheMax ≤ cache.size then .empty else cache
  else cache

/-- `check_auth` of a string name and password. -/
def checkAuthDigest (mac : Bytes → K) (hashing : Hashing) (users : Users) (ttl now : ℚ)
    (username password : Text) (cache : Dict K ℚ) : Option Bool × Dict K ℚ :=
  let storedHash := hashing.storedHash users username
  let known := (users.hash? username).isSome
  let key := authCacheDigest mac username storedHash password
  if (cache.get? key).any (now < ·) then (some known, cache)
  else
    match hashing.checkPasswordHash storedHash password with
    | none => (none, cache)
    | some verified =>
        let ok := verified && known
        if ok && 0 < ttl then (some ok, (evictDigests now cache).set key (now + ttl))
        else (some ok, cache)

/-- The check without a cache: the name is a user's, and the password verifies against the user's
current hash; it raises where `check_password_hash` does. -/
def uncachedAuth (hashing : Hashing) (users : Users) (username password : Text) : Option Bool :=
  match users.hash? username with
  | none => some false
  | some hash => hashing.checkPasswordHash hash password

/-! ## Histories -/

/-- What happens to the process: the owner edits `AUTH_USERS`, or a request is checked. -/
inductive AuthEvent where
  | setUsers (users : Users)
  | checkAuth (now : ℚ) (username password : Text)

/-- `AUTH_USERS` and `_auth_cache`. -/
structure AuthMemory (K : Type*) where
  users : Users
  cache : Dict K ℚ := .empty

def AuthMemory.next (mac : Bytes → K) (hashing : Hashing) (ttl : ℚ) (s : AuthMemory K) :
    AuthEvent → AuthMemory K
  | .setUsers users => { s with users := users }
  | .checkAuth now username password =>
      { s with cache := (checkAuthDigest mac hashing s.users ttl now username password s.cache).2 }

def AuthMemory.after (mac : Bytes → K) (hashing : Hashing) (ttl : ℚ) (s : AuthMemory K)
    (events : List AuthEvent) : AuthMemory K :=
  events.foldl (AuthMemory.next mac hashing ttl) s

/-- No call can tell that there is a cache, and the cache is within its bound. -/
structure Transparent (mac : Bytes → K) (hashing : Hashing) (ttl : ℚ) (s : AuthMemory K) :
    Prop where
  verdict : ∀ now username password,
    (checkAuthDigest mac hashing s.users ttl now username password s.cache).1 =
      uncachedAuth hashing s.users username password
  bounded : s.cache.size ≤ authCacheMax

/-! ## The digests rename the messages -/

omit [DecidableEq K]

/-- The separators are bytes of the message. -/
theorem authCacheDigest_eq (mac : Bytes → K) (username storedHash password : Text) :
    authCacheDigest mac username storedHash password =
      mac (encode (authCacheKey username storedHash password)) := by
  have separator : String.utf8EncodeChar '\x00' = [0] := by decide
  have message : encode (authCacheKey username storedHash password) =
      encode username ++ 0 :: (encode storedHash ++ 0 :: (encode password ++ [0])) := by
    simp only [authCacheKey, encode_append, encode_cons, separator]
    rfl
  rw [message]
  simp [authCacheDigest]

/-- The settings under which `checkAuth` keeps the cache of this process. -/
def cacheConfig (users : Users) (ttl : ℚ) : AuthConfig :=
  { apiKeyEnabled := false
    apiKey := []
    users := users
    limits := defaultRateLimits
    cacheTtl := ttl
    cacheMax := authCacheMax }

variable {mac : Bytes → K} {hashing : Hashing} {users : Users} {ttl now : ℚ}
  {username password : Text} {cache cache' : AuthCache} {verdict : Bool}

theorem digest_injective (inj : Function.Injective mac) :
    Function.Injective fun message : Text => mac (encode message) :=
  inj.comp encode_injective

theorem evictDigests_mapKeys (users : Users) (ttl : ℚ) {f : Text → K}
    (inj : Function.Injective f) :
    evictDigests now (cache.mapKeys f inj) =
      (evictCache (cacheConfig users ttl) now cache).mapKeys f inj := by
  have live := Dict.filter_mapKeys (d := cache) inj fun expiry => decide (now < expiry)
  have max : (cacheConfig users ttl).cacheMax = authCacheMax := rfl
  unfold evictDigests evictCache
  simp only [live, Dict.size_mapKeys, max]
  by_cases full : authCacheMax ≤ cache.size
  · rw [if_pos full, if_pos full]
    by_cases still : authCacheMax ≤ (cache.filter fun _ expiry => decide (now < expiry)).size
    · rw [if_pos still, if_pos still, Dict.mapKeys_empty]
    · rw [if_neg still, if_neg still]
  · rw [if_neg full, if_neg full]

/-- Room is made before an entry is added. -/
theorem size_evictDigests_lt (now : ℚ) (cache : Dict K ℚ) :
    (evictDigests now cache).size < authCacheMax := by
  unfold evictDigests
  dsimp only
  by_cases full : authCacheMax ≤ cache.size
  · rw [if_pos full]
    by_cases still : authCacheMax ≤ (cache.filter fun _ expiry => decide (now < expiry)).size
    · rw [if_pos still]
      exact Nat.zero_lt_succ _
    · rw [if_neg still]
      exact not_le.mp still
  · rw [if_neg full]
    exact not_le.mp full

variable [DecidableEq K]

/-- One call on the renamed cache is the call on the cache, renamed. -/
theorem checkAuthDigest_mapKeys (inj : Function.Injective mac)
    (h : checkAuth hashing (cacheConfig users ttl) now ⟨some username, some password⟩ cache =
      some (verdict, cache')) :
    checkAuthDigest mac hashing users ttl now username password
        (cache.mapKeys _ (digest_injective inj)) =
      (some verdict, cache'.mapKeys _ (digest_injective inj)) := by
  have lookup : ∀ message, (cache.mapKeys _ (digest_injective inj)).get? (mac (encode message)) =
    cache.get? message := fun _ => Dict.get?_mapKeys
  have settings : (cacheConfig users ttl).users = users ∧
    (cacheConfig users ttl).cacheTtl = ttl := ⟨rfl, rfl⟩
  simp only [checkAuth, settings] at h
  simp only [checkAuthDigest, authCacheDigest_eq, lookup]
  set message := authCacheKey username (hashing.storedHash users username) password
  by_cases hit : (cache.get? message).any (now < ·) = true
  · rw [if_pos hit] at h ⊢
    cases h
    rfl
  · rw [if_neg hit] at h ⊢
    obtain ⟨verified, checked, same⟩ := Option.map_eq_some_iff.mp h
    rw [checked]
    dsimp only
    by_cases fresh : (verified && (users.hash? username).isSome && 0 < ttl) = true
    · rw [if_pos fresh] at same ⊢
      obtain ⟨rfl, rfl⟩ := Prod.mk.inj same
      rw [evictDigests_mapKeys users ttl, Dict.set_mapKeys (digest_injective inj)]
    · rw [if_neg fresh] at same ⊢
      obtain ⟨rfl, rfl⟩ := Prod.mk.inj same
      rfl

/-- A call that raises does so with the cache or without, and leaves it alone. -/
theorem checkAuthDigest_raises (inj : Function.Injective mac)
    (h : checkAuth hashing (cacheConfig users ttl) now ⟨some username, some password⟩ cache =
      none) :
    checkAuthDigest mac hashing users ttl now username password
        (cache.mapKeys _ (digest_injective inj)) = (none, cache.mapKeys _ (digest_injective inj)) ∧
      uncachedAuth hashing users username password = none := by
  have unchecked := checkAuth_eq_none.mp h
  have lookup : (cache.mapKeys _ (digest_injective inj)).get?
      (authCacheDigest mac username (hashing.storedHash users username) password) =
        cache.get? (authCacheKey username (hashing.storedHash users username) password) := by
    rw [authCacheDigest_eq]
    exact Dict.get?_mapKeys
  have missed : ¬ (cache.get? (authCacheKey username (hashing.storedHash users username)
      password)).any (now < ·) = true :=
    fun hit => unchecked ⟨username, password, rfl, Or.inl hit⟩
  have raised : hashing.checkPasswordHash (hashing.storedHash users username) password = none :=
    Option.not_isSome_iff_eq_none.mp fun checked =>
      unchecked ⟨username, password, rfl, Or.inr checked⟩
  refine ⟨?_, ?_⟩
  · rw [checkAuthDigest, lookup, if_neg missed, raised]
  · cases known : users.hash? username with
    | none =>
        rw [Hashing.storedHash, known, Option.getD_none] at raised
        have checked := hashing.dummy_checked password
        rw [raised] at checked
        cases checked
    | some hash =>
        rw [Hashing.storedHash, known, Option.getD_some] at raised
        rw [uncachedAuth, known]
        exact raised

/-- A call that returns has found out what the check without a cache does. -/
theorem uncachedAuth_of_call (sound : CacheSound hashing cache)
    (call : checkAuth hashing (cacheConfig users ttl) now ⟨some username, some password⟩ cache =
      some (verdict, cache')) : uncachedAuth hashing users username password = some verdict := by
  obtain ⟨valid, -⟩ := checkAuth_spec sound call
  rw [valid_iff] at valid
  cases known : users.hash? username with
  | none =>
      have invalid : verdict = false := by
        rw [← Bool.not_eq_true, valid]
        rintro ⟨hash, found, -⟩
        cases known.symm.trans found
      rw [uncachedAuth, known, invalid]
  | some hash =>
      have verified : verdict = true ↔ hashing.checkPasswordHash hash password = some true := by
        rw [valid]
        exact ⟨fun ⟨_, found, verified⟩ => Option.some.inj (known.symm.trans found) ▸ verified,
          fun verified => ⟨hash, known, verified⟩⟩
      have checkable : Checkable hashing (cacheConfig users ttl) now
          ⟨some username, some password⟩ cache := by
        by_contra unchecked
        cases (checkAuth_eq_none.mpr unchecked).symm.trans call
      obtain ⟨answer, eq⟩ := Option.isSome_iff_exists.mp (checkable.checked sound known)
      rw [eq, Option.some.injEq] at verified
      rw [uncachedAuth, known]
      dsimp only
      rw [eq, Bool.eq_iff_iff.mpr verified]

/-- Only a success that is added makes the cache grow, and there is room for it. -/
theorem size_checkAuthDigest_le {cache : Dict K ℚ} (bounded : cache.size ≤ authCacheMax)
    (mac : Bytes → K) (hashing : Hashing) (users : Users) (ttl now : ℚ) (username password : Text) :
    (checkAuthDigest mac hashing users ttl now username password cache).2.size ≤ authCacheMax := by
  unfold checkAuthDigest
  dsimp only
  split
  · exact bounded
  · split
    · exact bounded
    · split
      · have room := size_evictDigests_lt now cache
        exact Dict.size_set_le.trans room
      · exact bounded

/-! ## Every history -/

/-- The cache is a cache of verified messages, its keys renamed, within the bound. -/
structure Digested (mac : Bytes → K) (inj : Function.Injective mac) (hashing : Hashing)
    (keyed : Dict K ℚ) : Prop where
  renamed : ∃ cache, CacheSound hashing cache ∧ keyed = cache.mapKeys _ (digest_injective inj)
  bounded : keyed.size ≤ authCacheMax

omit [DecidableEq K] in
theorem Digested.empty (inj : Function.Injective mac) : Digested mac inj hashing .empty :=
  ⟨⟨.empty, CacheSound.empty, Dict.mapKeys_empty.symm⟩, Nat.zero_le _⟩

variable {inj : Function.Injective mac} {keyed : Dict K ℚ}

/-- A call finds out what the uncached check would, and caches nothing else. -/
theorem Digested.checkAuth (digested : Digested mac inj hashing keyed) (users : Users) (ttl now : ℚ)
    (username password : Text) :
    (checkAuthDigest mac hashing users ttl now username password keyed).1 =
        uncachedAuth hashing users username password ∧
      Digested mac inj hashing
        (checkAuthDigest mac hashing users ttl now username password keyed).2 := by
  obtain ⟨⟨cache, sound, rfl⟩, bounded⟩ := digested
  have still := size_checkAuthDigest_le bounded mac hashing users ttl now username password
  cases call : GeneratorPi.checkAuth hashing (cacheConfig users ttl) now
      ⟨some username, some password⟩ cache with
  | none =>
      obtain ⟨raised, uncached⟩ := checkAuthDigest_raises inj call
      exact ⟨by rw [raised, uncached], ⟨cache, sound, by rw [raised]⟩, still⟩
  | some found =>
      obtain ⟨verdict, cache'⟩ := found
      have renamed := checkAuthDigest_mapKeys inj call
      refine ⟨?_, ⟨cache', (checkAuth_spec sound call).2, congrArg Prod.snd renamed⟩, still⟩
      rw [renamed, uncachedAuth_of_call sound call]

theorem Digested.transparent {s : AuthMemory K} (digested : Digested mac inj hashing s.cache)
    (ttl : ℚ) : Transparent mac hashing ttl s :=
  ⟨fun now username password => (digested.checkAuth s.users ttl now username password).1,
    digested.bounded⟩

theorem Digested.after {s : AuthMemory K} (digested : Digested mac inj hashing s.cache) (ttl : ℚ)
    (events : List AuthEvent) :
    Digested mac inj hashing (s.after mac hashing ttl events).cache := by
  induction events generalizing s with
  | nil => exact digested
  | cons event events ih =>
      cases event with
      | setUsers users => exact ih (s := s.next mac hashing ttl (.setUsers users)) digested
      | checkAuth now username password =>
          exact ih (s := s.next mac hashing ttl (.checkAuth now username password))
            (digested.checkAuth s.users ttl now username password).2

/-- After every history of users and calls, whatever the clock read, a call cannot tell that there
is a cache, and the cache is within its bound. -/
theorem transparent_after (mac : Bytes → K) (inj : Function.Injective mac) (hashing : Hashing)
    (ttl : ℚ) (users : Users) (events : List AuthEvent) :
    Transparent mac hashing ttl (AuthMemory.after mac hashing ttl { users := users } events) :=
  have start : Digested mac inj hashing .empty := .empty inj
  (start.after (s := { users := users }) ttl events).transparent ttl

end Digest

/-- One user. -/
def oneUser (name hash : Text) (clean : '\x00' ∉ name ∧ '\x00' ∉ hash) : Users where
  hash? username := if username = name then some hash else none
  noNul username found h := by
    split at h
    next same => cases h; exact same ▸ clean
    next => cases h

/-- A login that is cached, the password changed, and a name that spells out the rest of a key. -/
def passwordChanged : List AuthEvent :=
  [.checkAuth 10 "chris".toList "old".toList,
    .setUsers (oneUser "chris".toList "new".toList (by decide)),
    .checkAuth 11 "chris\x00old".toList "old".toList]

/-- The messages themselves for digests: the old password is refused, the new one verifies. -/
theorem transparent_passwordChanged :
    let s := AuthMemory.after id plainHashing 60
      { users := oneUser "chris".toList "old".toList (by decide) } passwordChanged
    Transparent id plainHashing 60 s ∧ s.cache.size = 1 ∧
      (checkAuthDigest id plainHashing s.users 60 12 "chris".toList "old".toList s.cache).1 =
        some false ∧
      (checkAuthDigest id plainHashing s.users 60 12 "chris".toList "new".toList s.cache).1 =
        some true :=
  ⟨transparent_after id Function.injective_id plainHashing 60 _ passwordChanged,
    by decide, by decide, by decide⟩

end GeneratorPi
