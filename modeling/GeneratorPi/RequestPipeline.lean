import GeneratorPi.AuthGate
import Mathlib

/-!
# A request on its way through the app

Every request passes the origin guard, then the authentication gate of its route, then the handler,
and last the audit hook (`app.py`, `auth.py`).  The handlers and their state are parameters.

A state-changing request that a browser sends for a page of another origin is answered 403 before
anything else looks at it: a run goes on as if it had never been sent (`crossSite_inert`).  The
audit log holds one line for each request whose handler ran and whose line is of a level that is
logged, under the name of the caller whose credentials were valid, and no other line
(`accounted_run`).
-/

namespace GeneratorPi.Pipeline

open PyText OrderedDict

/-! ## The origin guard (app.py) -/

/-- `_CSRF_PROTECTED_METHODS` -/
def csrfProtectedMethods : List Text :=
  ["POST".toList, "PUT".toList, "PATCH".toList, "DELETE".toList]

structure HttpRequest where
  method : Text
  scheme : Text
  host : Text
  path : Text
  origin : Option Text
  referer : Option Text
  visit : Visit

/-- `expected`, the origin the request was served on. -/
def HttpRequest.expected (q : HttpRequest) : Text := q.scheme ++ "://".toList ++ q.host

/-- `csrf_origin_guard`: whether it answers 403. -/
def csrfOriginGuard (q : HttpRequest) : Bool :=
  if !csrfProtectedMethods.contains q.method then false
  else
    match q.origin with
    | some origin => origin ≠ q.expected
    | none =>
        match q.referer with
        | some referer => referer ≠ q.expected && !(q.expected ++ ['/']).isPrefixOf referer
        | none => false

/-! ## The audit line (auth.py, app.py) -/

/-- `g.auth_method` -/
inductive AuthMethod where
  | apikey
  | basic
  deriving DecidableEq

/-- What a request that is let in leaves in `g.auth_method`. -/
def authMethod (v : Visit) : AuthMethod := if checkApiKey v then .apikey else .basic

/-- `caller_identity`, with the text of a missing username. -/
def callerIdentity (m : AuthMethod) (v : Visit) : Text :=
  match m with
  | .apikey => "apikey".toList
  | .basic =>
      match v.authorization with
      | some credentials => credentials.username.getD "None".toList
      | none => "apikey".toList

/-- The levels of `logging`. -/
inductive Level where
  | debug
  | info
  | warning
  | error
  | critical
  deriving DecidableEq

def Level.number : Level → ℕ
  | .debug => 10
  | .info => 20
  | .warning => 30
  | .error => 40
  | .critical => 50

/-- The level of a line, by the status and whether routine traffic is recorded. -/
def auditLevel (recordHttp : Bool) (status : ℕ) : Level :=
  if 500 ≤ status then .error
  else if 400 ≤ status then .warning
  else if recordHttp then .info
  else .debug

def auditLine (who : Text) (q : HttpRequest) (status : ℕ) : Text :=
  who ++ '@' :: (q.visit.ip ++ " -> ".toList ++ q.method ++ ' ' :: (q.path ++
    ' ' :: Nat.toDigits 10 status))

/-! ## The app -/

/-- The routes, and the settings that the audit hook and the log read. -/
structure App (σ : Type) where
  /-- The handler behind `auth_required`; `none` for a request that no such handler answers. -/
  route : HttpRequest → Option (σ → σ × ℕ)
  /-- The status of such an answer. -/
  openStatus : HttpRequest → ℕ
  /-- `record_routine_http` -/
  recordHttp : σ → Bool
  /-- `LOG_LEVEL` -/
  logLevel : Level

structure Server (σ : Type) where
  state : σ
  auth : AuthState
  audit : List (Level × Text)

variable {σ : Type} (hashing : Hashing) (app : App σ)

/-- The line that `_access_audit_log` gives to the log after a handler. -/
def audited (q : HttpRequest) (state : σ) (status : ℕ) : Level × Text :=
  (auditLevel (app.recordHttp state) status,
    auditLine (callerIdentity (authMethod q.visit) q.visit) q status)

/-- The log keeps a line from its own level on. -/
def written (line : Level × Text) : List (Level × Text) :=
  if app.logLevel.number ≤ line.1.number then [line] else []

/-- A request, with the status of its answer. -/
def serve (q : HttpRequest) (s : Server σ) : Server σ × ℕ :=
  if csrfOriginGuard q then (s, 403)
  else
    match app.route q with
    | none => (s, app.openStatus q)
    | some handler =>
        let r := authRequired hashing q.visit s.auth
        match r.outcome with
        | .limited => ({ s with auth := r.state }, 429)
        | .unauthorized => ({ s with auth := r.state }, 401)
        | .raised => ({ s with auth := r.state }, 500)
        | .handled =>
            let answer := handler s.state
            ({ state := answer.1
               auth := r.state
               audit := s.audit ++ written app (audited app q answer.1 answer.2) }, answer.2)

/-- The requests one after another. -/
def after (s : Server σ) (qs : List HttpRequest) : Server σ :=
  qs.foldl (fun s q => (serve hashing app q s).1) s

/-! ## Requests of a page -/

/-- The scheme and the host, with its port if that is not the usual one. -/
structure Origin where
  scheme : Text
  host : Text
  clean : '/' ∉ scheme ∧ '/' ∉ host
  deriving DecidableEq

def Origin.text (o : Origin) : Text := o.scheme ++ "://".toList ++ o.host

/-- Where a page comes from; a sandboxed one has no origin of its own. -/
inductive Page where
  | site (o : Origin)
  | sandboxed
  deriving DecidableEq

/-- The headers a browser attaches to a request that changes state: the page's origin, or else its
address. -/
inductive SentFrom : Page → HttpRequest → Prop
  | origin {o : Origin} {q : HttpRequest} : q.origin = some o.text → SentFrom (.site o) q
  | sandboxed {q : HttpRequest} : q.origin = some "null".toList → SentFrom .sandboxed q
  | referer {o : Origin} {q : HttpRequest} (path : Text) : q.origin = none →
      q.referer = some (o.text ++ path) → path = [] ∨ path.head? = some '/' → SentFrom (.site o) q

variable {hashing app}

theorem takeWhile_append_slash {a : Text} (free : '/' ∉ a) (rest : Text) :
    (a ++ '/' :: rest).takeWhile (· ≠ '/') = a := by
  rw [List.takeWhile_append_of_pos fun c mem => by
    simpa using ne_of_mem_of_not_mem mem free]
  simp

theorem Origin.text_eq (o : Origin) : o.text = (o.scheme ++ [':']) ++ '/' :: '/' :: o.host := by
  have literal : "://".toList = [':', '/', '/'] := by decide
  rw [Origin.text, literal]
  simp

theorem Origin.scheme_free (o : Origin) : '/' ∉ o.scheme ++ [':'] := by
  simpa using o.clean.1

/-- An address under an origin, up to its path. -/
theorem Origin.eq_of_append {o p : Origin} {a b : Text} (ends : ∀ c ∈ a.head?, c = '/')
    (begins : ∀ c ∈ b.head?, c = '/') (h : o.text ++ a = p.text ++ b) : o = p := by
  have host : ∀ (r : Origin) (rest : Text), (∀ c ∈ rest.head?, c = '/') →
      (r.host ++ rest).takeWhile (· ≠ '/') = r.host := by
    intro r rest slash
    cases rest with
    | nil =>
        rw [List.append_nil, List.takeWhile_eq_self_iff]
        exact fun c mem => by simpa using ne_of_mem_of_not_mem mem r.clean.2
    | cons c rest =>
        rw [slash c rfl]
        exact takeWhile_append_slash r.clean.2 rest
  rw [Origin.text_eq, Origin.text_eq] at h
  simp only [List.append_assoc, List.cons_append] at h
  have schemes : o.scheme ++ [':'] = p.scheme ++ [':'] := by
    rw [← takeWhile_append_slash o.scheme_free ('/' :: (o.host ++ a)),
      ← takeWhile_append_slash p.scheme_free ('/' :: (p.host ++ b))]
    simp only [List.append_assoc, List.cons_append]
    rw [h]
  have scheme : o.scheme = p.scheme := List.append_cancel_right schemes
  rw [scheme] at h
  have rests : o.host ++ a = p.host ++ b := by
    simpa using h
  have hosts : o.host = p.host := by
    rw [← host o a ends, ← host p b begins, rests]
  cases o
  cases p
  cases scheme
  cases hosts
  rfl

theorem Origin.text_injective {o p : Origin} (h : o.text = p.text) : o = p :=
  Origin.eq_of_append (a := []) (b := []) (fun _ none => (nomatch none))
    (fun _ none => (nomatch none))
    (by rw [List.append_nil, List.append_nil, h])

/-- For a state-changing request that a browser sent, the guard tells the pages of its own origin
from all others. -/
theorem csrfOriginGuard_eq_true_iff {q : HttpRequest} {page : Page} {own : Origin}
    (served : q.expected = own.text) (mutating : q.method ∈ csrfProtectedMethods)
    (sent : SentFrom page q) : csrfOriginGuard q = true ↔ page ≠ .site own := by
  have guarded : csrfProtectedMethods.contains q.method = true := List.contains_iff_mem.mpr mutating
  rw [csrfOriginGuard, guarded, Bool.not_true, if_neg Bool.false_ne_true, served]
  cases sent with
  | @origin o _ header =>
      rw [header]
      simp only [decide_not, Bool.not_eq_true', decide_eq_false_iff_not, ne_eq, Page.site.injEq]
      exact not_congr ⟨Origin.text_injective, fun same => by rw [same]⟩
  | sandboxed header =>
      have other : "null".toList ≠ own.text := by
        rw [Origin.text_eq]
        intro same
        have slash : '/' ∈ "null".toList := by
          rw [same]
          simp
        exact absurd slash (by decide)
      rw [header]
      exact iff_of_true (decide_eq_true other) fun same => nomatch same
  | @referer o _ path header address rooted =>
      have slash : ∀ c ∈ path.head?, c = '/' := by
        rcases rooted with rfl | first
        · exact fun _ none => (nomatch none)
        · rw [first]
          exact fun c same => (Option.some.inj same).symm
      rw [header, address]
      simp only [decide_not, Bool.and_eq_true, Bool.not_eq_true', decide_eq_false_iff_not, ne_eq,
        Page.site.injEq]
      rw [← Bool.not_eq_true, List.isPrefixOf_iff_prefix]
      constructor
      · rintro ⟨differs, outside⟩ rfl
        rcases rooted with rfl | first
        · exact differs (List.append_nil _)
        · obtain ⟨rest, rfl⟩ := List.head?_eq_some_iff.mp first
          exact outside ⟨rest, by simp⟩
      · intro other
        refine ⟨fun same => other ?_, fun inside => other ?_⟩
        · exact Origin.eq_of_append (b := []) slash (fun _ none => (nomatch none))
            (by rw [same, List.append_nil])
        · obtain ⟨rest, same⟩ := inside
          exact Origin.eq_of_append (b := '/' :: rest) slash
            (fun c first => (Option.some.inj first).symm) (by rw [← same]; simp)

theorem after_append (s : Server σ) (a b : List HttpRequest) :
    after hashing app s (a ++ b) = after hashing app (after hashing app s a) b := by
  rw [after, after, after, List.foldl_append]

/-- A state-changing request that a browser sends for a page is turned away exactly if the page is
of another origin than the server's; and then, wherever it comes in a run, it is answered 403 and
the run goes on as without it. -/
theorem crossSite_inert {q : HttpRequest} {page : Page} {own : Origin}
    (served : q.expected = own.text) (mutating : q.method ∈ csrfProtectedMethods)
    (sent : SentFrom page q) :
    (csrfOriginGuard q = true ↔ page ≠ .site own) ∧
      (page ≠ .site own → ∀ (s : Server σ) (a b : List HttpRequest),
        (serve hashing app q (after hashing app s a)).2 = 403 ∧
          after hashing app s (a ++ q :: b) = after hashing app s (a ++ b)) := by
  have exact_guard := csrfOriginGuard_eq_true_iff served mutating sent
  refine ⟨exact_guard, fun other s a b => ?_⟩
  have turned : ∀ t, serve hashing app q t = (t, 403) := fun t => if_pos (exact_guard.mpr other)
  refine ⟨by rw [turned], ?_⟩
  have first : after hashing app (after hashing app s a) (q :: b) =
      after hashing app (serve hashing app q (after hashing app s a)).1 b := rfl
  rw [after_append, first, turned, after_append]

/-! ## A run and its audit log -/

/-- What lets a request through to a handler. -/
structure Admitted (hashing : Hashing) (app : App σ) (q : HttpRequest) (s : Server σ)
    (handler : σ → σ × ℕ) : Prop where
  guard : csrfOriginGuard q = false
  route : app.route q = some handler
  free : ¬ Limited q.visit s.auth
  valid : KeyValid q.visit ∨ BasicValid hashing q.visit

/-- Whose credentials a request brought: the key's, or a user's whose password is right. -/
inductive Identified (hashing : Hashing) (v : Visit) : Text → Prop
  | apikey : KeyValid v → Identified hashing v "apikey".toList
  | user {who password : Text} : ¬ KeyValid v → v.authorization = some ⟨some who, some password⟩ →
      Valid hashing v.config.users ⟨some who, some password⟩ → Identified hashing v who

/-- A run: the handlers of the requests that are admitted act on the state one after another, and
each leaves one line with its caller if the log keeps the line's level; the other requests touch
neither. -/
inductive Accounted (hashing : Hashing) (app : App σ) :
    Server σ → List HttpRequest → Server σ → Prop
  | done (s : Server σ) : Accounted hashing app s [] s
  | turned {s t u : Server σ} {q : HttpRequest} {qs : List HttpRequest} :
      (∀ handler, ¬ Admitted hashing app q s handler) → t.state = s.state → t.audit = s.audit →
      Accounted hashing app t qs u → Accounted hashing app s (q :: qs) u
  | handled {s t u : Server σ} {q : HttpRequest} {qs : List HttpRequest} {handler : σ → σ × ℕ}
      {who : Text} :
      Admitted hashing app q s handler → Identified hashing q.visit who →
      t.state = (handler s.state).1 →
      t.audit = s.audit ++ written app (auditLevel (app.recordHttp t.state) (handler s.state).2,
        auditLine who q (handler s.state).2) →
      Accounted hashing app t qs u → Accounted hashing app s (q :: qs) u

section Gate

variable {v : Visit} {s : AuthState}

theorem outcome_deny (v : Visit) (actions : List GateAction) (s : AuthState) :
    (deny v actions s).outcome ≠ .handled := by
  rw [deny]
  split <;>
    intro same <;>
    cases same

/-- The gate calls the handler exactly for the requests with valid credentials that are not
limited. -/
theorem handled_iff (sound : CacheSound hashing s.cache) :
    (authRequired hashing v s).outcome = .handled ↔
      ¬ Limited v s ∧ (KeyValid v ∨ BasicValid hashing v) := by
  by_cases limited : Limited v s
  · rw [authRequired_limited limited]
    exact iff_of_false (fun same => nomatch same) fun h => h.1 limited
  rw [and_iff_right limited]
  by_cases key : KeyValid v
  · rw [authRequired_key limited (checkApiKey_iff.mpr key)]
    exact iff_of_true rfl (Or.inl key)
  rw [or_iff_right key, authRequired_basic limited
    (eq_false_of_ne_true (mt checkApiKey_iff.mp key))]
  dsimp only
  cases header : v.authorization with
  | none =>
      refine iff_of_false (outcome_deny _ _ _) ?_
      rintro ⟨credentials, present, -⟩
      rw [header] at present
      cases present
  | some credentials =>
      have basic : BasicValid hashing v ↔ Valid hashing v.config.users credentials := by
        constructor
        · rintro ⟨other, present, valid⟩
          rw [header, Option.some.injEq] at present
          exact present ▸ valid
        · exact fun valid => ⟨credentials, header, valid⟩
      rw [basic]
      dsimp only
      cases checked : checkAuth hashing v.config v.cacheNow credentials s.cache with
      | none =>
          refine iff_of_false (fun same => nomatch same) ?_
          exact fun valid => checkAuth_eq_none.mp checked valid.checkable
      | some found =>
          obtain ⟨verdict, cache⟩ := found
          obtain ⟨valid, -⟩ := checkAuth_spec sound checked
          rw [← valid]
          cases verdict with
          | true => exact iff_of_true rfl rfl
          | false => exact iff_of_false (outcome_deny _ _ _) Bool.false_ne_true

/-- The audit line names the caller who was let in. -/
theorem identified (valid : KeyValid v ∨ BasicValid hashing v) :
    Identified hashing v (callerIdentity (authMethod v) v) := by
  by_cases key : KeyValid v
  · rw [authMethod, if_pos (checkApiKey_iff.mpr key)]
    exact .apikey key
  · obtain ⟨credentials, header, whole⟩ := valid.resolve_left key
    have user := whole
    obtain ⟨username, password, -, rfl, -⟩ := whole
    rw [authMethod, if_neg (mt checkApiKey_iff.mp key), callerIdentity, header]
    exact .user key header user

end Gate

theorem serve_turned {q : HttpRequest} {s : Server σ} (sound : CacheSound hashing s.auth.cache)
    (no : ∀ handler, ¬ Admitted hashing app q s handler) :
    (serve hashing app q s).1.state = s.state ∧ (serve hashing app q s).1.audit = s.audit := by
  rw [serve]
  split
  case isTrue => exact ⟨rfl, rfl⟩
  case isFalse passed =>
    split
    case h_1 => exact ⟨rfl, rfl⟩
    case h_2 handler route =>
      dsimp only
      split
      case h_1 => exact ⟨rfl, rfl⟩
      case h_2 => exact ⟨rfl, rfl⟩
      case h_3 => exact ⟨rfl, rfl⟩
      case h_4 handled =>
        obtain ⟨free, valid⟩ := (handled_iff sound).mp handled
        exact absurd ⟨eq_false_of_ne_true passed, route, free, valid⟩ (no handler)

theorem serve_handled {q : HttpRequest} {s : Server σ} (sound : CacheSound hashing s.auth.cache)
    {handler : σ → σ × ℕ} (admitted : Admitted hashing app q s handler) :
    (serve hashing app q s).1.state = (handler s.state).1 ∧
      (serve hashing app q s).1.audit =
        s.audit ++ written app (audited app q (handler s.state).1 (handler s.state).2) := by
  have handled := (handled_iff sound).mpr ⟨admitted.free, admitted.valid⟩
  rw [serve, if_neg (ne_true_of_eq_false admitted.guard), admitted.route]
  dsimp only
  rw [handled]
  exact ⟨rfl, rfl⟩

theorem serve_sound {s : Server σ} (sound : CacheSound hashing s.auth.cache) (q : HttpRequest) :
    CacheSound hashing (serve hashing app q s).1.auth.cache := by
  rw [serve]
  split
  case isTrue => exact sound
  case isFalse =>
    split
    case h_1 => exact sound
    case h_2 =>
      dsimp only
      split <;> exact sound.authRequired q.visit

theorem accounted_of_sound {s : Server σ} (sound : CacheSound hashing s.auth.cache)
    (qs : List HttpRequest) : Accounted hashing app s qs (after hashing app s qs) := by
  induction qs generalizing s with
  | nil => exact .done s
  | cons q qs ih =>
      have later : Accounted hashing app (serve hashing app q s).1 qs
          (after hashing app s (q :: qs)) :=
        ih (serve_sound sound q)
      by_cases admitted : ∃ handler, Admitted hashing app q s handler
      · obtain ⟨handler, admitted⟩ := admitted
        obtain ⟨state, audit⟩ := serve_handled sound admitted
        refine .handled admitted (identified admitted.valid) state ?_ later
        rw [audit, state]
        rfl
      · obtain ⟨state, audit⟩ := serve_turned sound (not_exists.mp admitted)
        exact .turned (not_exists.mp admitted) state audit later

/-- From a fresh start, whatever requests come: the state is what the handlers of the admitted
requests make of it, and the audit log gains exactly one line for each of them whose line is of a
level that is logged, with the caller whose credentials were valid. -/
theorem accounted_run (hashing : Hashing) (app : App σ) (state : σ) (limiter : Limiter)
    (audit : List (Level × Text)) (qs : List HttpRequest) :
    Accounted hashing app ⟨state, ⟨limiter, .empty⟩, audit⟩ qs
      (after hashing app ⟨state, ⟨limiter, .empty⟩, audit⟩ qs) :=
  accounted_of_sound .empty qs

/-! ## A forged form -/

def startFromElsewhere : HttpRequest where
  method := "POST".toList
  scheme := "https".toList
  host := "generator.local".toList
  path := "/api/start".toList
  origin := none
  referer := some "https://generator.local.example/form".toList
  visit := bearerVisit

def countingApp : App ℕ where
  route _ := some fun n => (n + 1, 200)
  openStatus _ := 404
  recordHttp _ := false
  logLevel := .info

theorem startFromElsewhere_inert :
    (csrfOriginGuard startFromElsewhere = true ↔
        Page.site ⟨"https".toList, "generator.local.example".toList, by decide⟩ ≠
          .site ⟨"https".toList, "generator.local".toList, by decide⟩) ∧
      (Page.site ⟨"https".toList, "generator.local.example".toList, by decide⟩ ≠
          .site ⟨"https".toList, "generator.local".toList, by decide⟩ →
        ∀ (s : Server ℕ) (a b : List HttpRequest),
          (serve plainHashing countingApp startFromElsewhere
            (after plainHashing countingApp s a)).2 = 403 ∧
            after plainHashing countingApp s (a ++ startFromElsewhere :: b) =
              after plainHashing countingApp s (a ++ b)) :=
  crossSite_inert (by decide) (by decide)
    (.referer "/form".toList rfl (by decide) (Or.inr (by decide)))

end GeneratorPi.Pipeline
