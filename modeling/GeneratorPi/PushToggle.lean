import GeneratorPi.PushFanOut
import Mathlib

/-!
# Turning notifications on and off

The pages that one browser shows (`registerSW`, `refreshPushUI`, `enablePush`, `disablePush` and
`togglePush` of `genpi/frontend/app.js`), the browser's push manager that they share, and the
server's table.  A promise settles in a step of its own and its callback runs in a later one; a
request is sent, arrives and is answered in steps of their own, in any order, or is lost.  A
subscription that is given up never comes back; a new one has a new endpoint.

No request to remove the browser's subscription is ever under way.  So once the server has
accepted it, its row stays for as long as it is the browser's, unless the row is taken from
outside; and an endpoint that the browser has given up and nothing names any more does not come
back (`agreed_of_run`).
-/

namespace GeneratorPi.PushToggle

open FanOut (Target targetOf)
open PyText Trace

/-! ## The browser -/

inductive Permission where
  | default
  | granted
  | denied
  deriving DecidableEq

/-- What the pages share. -/
structure Browser where
  permission : Permission := .default
  /-- The push manager's subscription. -/
  sub : Option Target := none
  /-- The subscriptions made so far. -/
  issued : List Target := []
  deriving DecidableEq

/-- Who asks for the subscription: `registerSW`, `refreshPushUI` or `disablePush`. -/
inductive Reader where
  | resync
  | refresh
  | disable
  deriving DecidableEq

/-- A promise of a page that has not settled, or the callback of one that has. -/
inductive Waiting where
  | registering
  | getSubscription (reader : Reader)
  | got (reader : Reader) (sub : Option Target)
  | requestPermission
  | subscribe
  | subscribed (sub : Target)
  | unsubscribe (sub : Target)
  | unsubscribed (sub : Target)
  deriving DecidableEq

structure Page where
  pushSupported : Bool
  /-- `swReg` is set. -/
  swReg : Bool := false
  /-- `serverPush.supported` -/
  supported : Bool := false
  /-- `serverPush.vapidKey` is not empty. -/
  vapidKey : Bool := false
  /-- `aria-checked` of `pushToggle` -/
  toggle : Bool := false
  waiting : List Waiting := []
  deriving DecidableEq

def Page.await (page : Page) (w : Waiting) : Page := { page with waiting := page.waiting ++ [w] }

def Page.setTog (page : Page) (on : Bool) : Page := { page with toggle := on }

/-- `refreshPushUI` -/
def Page.refreshPushUI (page : Page) (permission : Permission) : Page :=
  if !page.pushSupported then page.setTog false
  else if !page.supported then page.setTog false
  else if permission = .denied then page.setTog false
  else if page.swReg then page.await (.getSubscription .refresh)
  else page.setTog false

/-- `registerSW`, when the page is loaded. -/
def Page.registerSW (page : Page) (permission : Permission) : Page :=
  if !page.pushSupported then page.refreshPushUI permission else page.await .registering

/-- `pushApplyState` -/
def Page.pushApplyState (page : Page) (permission : Permission) (supported vapidKey : Bool) :
    Page :=
  { page with supported, vapidKey }.refreshPushUI permission

/-- `enablePush` -/
def Page.enablePush (page : Page) (permission : Permission) : Page :=
  if !page.pushSupported || !page.supported || !page.vapidKey || !page.swReg then
    page.refreshPushUI permission
  else page.await .requestPermission

/-- `disablePush` -/
def Page.disablePush (page : Page) (permission : Permission) : Page :=
  if !page.swReg then page.refreshPushUI permission else page.await (.getSubscription .disable)

/-- `togglePush` -/
def Page.togglePush (page : Page) (permission : Permission) : Page :=
  if page.toggle then page.disablePush permission else page.enablePush permission

/-- A request that a page makes; `follows` where `refreshPushUI` runs on its answer. -/
inductive Post where
  | subscribe (sub : Target) (follows : Bool)
  | unsubscribe (endpoint : Text)
  deriving DecidableEq

/-- How a promise settles; a callback runs under `resolves`. -/
inductive Outcome where
  | resolves
  | rejects
  /-- The operator's answer to the browser's question, or the answer given before. -/
  | answers (permission : Permission)
  | subscribes (sub : Target)

/-- `getSubscription` rejects. -/
def Page.unavailable (page : Page) (permission : Permission) : Reader → Page
  | .refresh => page.setTog false
  | .resync | .disable => (page.setTog false).refreshPushUI permission

/-- The callback of `getSubscription`. -/
def Page.onSubscription (page : Page) (permission : Permission) (sub : Option Target) :
    Reader → Page × List Post
  | .resync => (page, sub.toList.map (.subscribe · false))
  | .refresh => (page.setTog sub.isSome, [])
  | .disable =>
      match sub with
      | none => (page.refreshPushUI permission, [])
      | some t => (page.await (.unsubscribe t), [])

/-- The push manager subscribes, or returns the subscription it has. -/
def Browser.subscribe? (b : Browser) (t : Target) : Option Browser :=
  if b.permission ≠ .granted then none
  else if b.sub = some t then some b
  else if b.sub = none ∧ ¬ (b.issued.map Target.endpoint).contains t.endpoint then
    some { b with sub := some t, issued := b.issued ++ [t] }
  else none

/-- `unsubscribe` of a subscription that may have been given up before. -/
def Browser.unsubscribe (b : Browser) (t : Target) : Browser :=
  if b.sub = some t then { b with sub := none } else b

/-- `requestPermission` asks only where nothing has been answered yet. -/
def Browser.answer? (b : Browser) (permission : Permission) : Option Browser :=
  if b.permission = .default ∨ b.permission = permission then some { b with permission } else none

/-- A promise settles, or a callback runs, on a page that does not wait for it any more. -/
def Waiting.settle (b : Browser) (page : Page) :
    Waiting → Outcome → Option (Browser × Page × List Post)
  | .registering, .resolves =>
      some (b, ({ page with swReg := true }.await (.getSubscription .resync)).refreshPushUI
        b.permission, [])
  | .registering, .rejects =>
      some (b, { page with pushSupported := false }.refreshPushUI b.permission, [])
  | .getSubscription reader, .resolves => some (b, page.await (.got reader b.sub), [])
  | .getSubscription reader, .rejects => some (b, page.unavailable b.permission reader, [])
  | .got reader sub, .resolves => some (b, page.onSubscription b.permission sub reader)
  | .requestPermission, .answers permission =>
      (b.answer? permission).map fun b =>
        (b, if permission = .granted then page.await .subscribe
          else page.refreshPushUI permission, [])
  | .requestPermission, .rejects => some (b, page, [])
  | .subscribe, .subscribes t => (b.subscribe? t).map fun b => (b, page.await (.subscribed t), [])
  | .subscribe, .rejects => some (b, page.refreshPushUI b.permission, [])
  | .subscribed t, .resolves => some (b, page, [.subscribe t true])
  | .unsubscribe t, .resolves => some (b.unsubscribe t, page.await (.unsubscribed t), [])
  | .unsubscribe _, .rejects =>
      some (b, (page.setTog false).refreshPushUI b.permission, [])
  | .unsubscribed t, .resolves => some (b, page, [.unsubscribe t.endpoint])
  | _, _ => none

/-! ## The system -/

/-- A request or an answer under way, with the page on which `refreshPushUI` follows it. -/
inductive Message where
  | request (page : ℕ) (post : Post)
  | answer (page : Option ℕ)
  deriving DecidableEq

structure System where
  browser : Browser := {}
  /-- The pages in the order of their loading; those that were closed are `none`. -/
  pages : List (Option Page) := []
  net : List Message := []
  rows : SubscriptionTable
  deriving DecidableEq

/-- What becomes of a request that arrives. -/
inductive Handling where
  | accepted (now : ℚ) (keep : Subscription → Bool)
  /-- The endpoint is refused, or the database fails. -/
  | refused

inductive Act where
  /-- A page is loaded, on which push is supported or is not. -/
  | load (pushSupported : Bool)
  | close (page : ℕ)
  /-- A poll of the state. -/
  | polled (page : ℕ) (supported vapidKey : Bool)
  | click (page : ℕ)
  | settle (page k : ℕ) (outcome : Outcome)
  | arrive (k : ℕ) (handling : Handling)
  | answered (k : ℕ)
  | lost (k : ℕ)
  /-- The operator changes the browser's settings. -/
  | permission (permission : Permission)
  /-- The push service or the browser gives up the subscription. -/
  | expired
  /-- Another client, or a notification that finds the subscription gone. -/
  | outside (op : SubscriptionOp)
  /-- The server starts with a new database. -/
  | wiped

def System.page? (s : System) (i : ℕ) : Option Page := s.pages[i]?.join

def System.setPage (s : System) (i : ℕ) (page : Page) : System :=
  { s with pages := s.pages.set i (some page) }

/-- The page, if there is any more, refreshes its switch. -/
def System.follow (s : System) (page : Option ℕ) : System :=
  match page with
  | none => s
  | some i =>
      match s.page? i with
      | none => s
      | some page => s.setPage i (page.refreshPushUI s.browser.permission)

/-- `api_push_subscribe` and `api_push_unsubscribe` -/
def Post.handle (maxSubs : ℕ) (rows : SubscriptionTable) :
    Post → Handling → Option SubscriptionTable
  | _, .refused => some rows
  | .subscribe t _, .accepted now keep =>
      SubscriptionTable.step maxSubs rows (.add t.endpoint t.p256dh t.auth now keep .trimmed)
  | .unsubscribe endpoint, .accepted _ _ =>
      SubscriptionTable.step maxSubs rows (.remove endpoint true)

def Post.follows : Post → Bool
  | .subscribe _ follows => follows
  | .unsubscribe _ => true

def System.settle (s : System) (i k : ℕ) (outcome : Outcome) : Option System := do
  let page ← s.page? i
  let w ← page.waiting[k]?
  let (browser, page, posts) ←
    w.settle s.browser { page with waiting := page.waiting.eraseIdx k } outcome
  return { s.setPage i page with browser, net := s.net ++ posts.map (.request i) }

def System.arrive (maxSubs : ℕ) (s : System) (k : ℕ) (handling : Handling) : Option System :=
  match s.net[k]? with
  | some (.request i post) =>
      (post.handle maxSubs s.rows handling).map fun rows =>
        { s with
          rows
          net := s.net.eraseIdx k ++ [.answer (if post.follows then some i else none)] }
  | _ => none

def System.step (maxSubs : ℕ) (s : System) : Act → Option System
  | .load pushSupported =>
      let page := Page.registerSW { pushSupported } s.browser.permission
      some { s with pages := s.pages ++ [some page] }
  | .close i => (s.page? i).map fun _ => { s with pages := s.pages.set i none }
  | .polled i supported vapidKey =>
      (s.page? i).map fun page =>
        s.setPage i (page.pushApplyState s.browser.permission supported vapidKey)
  | .click i => (s.page? i).map fun page => s.setPage i (page.togglePush s.browser.permission)
  | .settle i k outcome => s.settle i k outcome
  | .arrive k handling => s.arrive maxSubs k handling
  | .answered k =>
      match s.net[k]? with
      | some (.answer page) => some ({ s with net := s.net.eraseIdx k }.follow page)
      | _ => none
  | .lost k => s.net[k]?.map fun _ => { s with net := s.net.eraseIdx k }
  | .permission permission =>
      let sub := if permission = .granted then s.browser.sub else none
      some { s with browser := { s.browser with permission, sub } }
  | .expired => some { s with browser := { s.browser with sub := none } }
  | .outside op => (SubscriptionTable.step maxSubs s.rows op).map fun rows => { s with rows }
  | .wiped => some { s with rows := [] }

/-! ## What is under way -/

/-- What a promise, a callback or a request is about: a subscription, or an endpoint to be
removed. -/
inductive Claim where
  | holds (sub : Target)
  | removes (endpoint : Text)

def Waiting.claim? : Waiting → Option Claim
  | .got _ (some t) | .subscribed t | .unsubscribe t => some (.holds t)
  | .unsubscribed t => some (.removes t.endpoint)
  | _ => none

def Post.claim? : Post → Option Claim
  | .subscribe t _ => some (.holds t)
  | .unsubscribe endpoint => some (.removes endpoint)

structure System.Claims (s : System) (c : Claim) : Prop where
  of : (∃ i page w, s.page? i = some page ∧ w ∈ page.waiting ∧ w.claim? = some c) ∨
    ∃ i post, .request i post ∈ s.net ∧ post.claim? = some c

variable {maxSubs : ℕ} {s s' : System} {act : Act} {page page' page'' : Page} {b b' : Browser}
  {permission : Permission} {c : Claim} {t : Target} {i j k : ℕ}

/-- Whatever the page has come to wait for is about no subscription yet. -/
def Page.Quiet (page page' : Page) : Prop :=
  ∀ w ∈ page'.waiting, w ∈ page.waiting ∨ w.claim? = none

theorem Page.Quiet.refl (page : Page) : page.Quiet page := fun _ mem => Or.inl mem

theorem Page.Quiet.trans (first : page.Quiet page') (second : page'.Quiet page'') :
    page.Quiet page'' := by
  intro w mem
  rcases second w mem with old | nothing
  · exact first w old
  · exact Or.inr nothing

theorem Page.quiet_await {w : Waiting} (nothing : w.claim? = none) (page : Page) :
    page.Quiet (page.await w) := by
  intro v mem
  rcases List.mem_append.1 mem with old | new
  · exact Or.inl old
  · rw [List.mem_singleton.1 new]
    exact Or.inr nothing

theorem Page.quiet_refreshPushUI (page : Page) (permission : Permission) :
    page.Quiet (page.refreshPushUI permission) := by
  unfold refreshPushUI
  repeat' split
  all_goals first | exact Quiet.refl page | exact page.quiet_await rfl

theorem Page.quiet_registerSW (page : Page) (permission : Permission) :
    page.Quiet (page.registerSW permission) := by
  unfold registerSW
  split
  · exact page.quiet_refreshPushUI permission
  · exact page.quiet_await rfl

theorem Page.quiet_pushApplyState (page : Page) (permission : Permission)
    (supported vapidKey : Bool) :
    page.Quiet (page.pushApplyState permission supported vapidKey) :=
  Page.quiet_refreshPushUI _ permission

theorem Page.quiet_togglePush (page : Page) (permission : Permission) :
    page.Quiet (page.togglePush permission) := by
  unfold togglePush disablePush enablePush
  repeat' split
  all_goals first | exact page.quiet_refreshPushUI permission | exact page.quiet_await rfl

theorem Page.quiet_unavailable (page : Page) (permission : Permission) (reader : Reader) :
    page.Quiet (page.unavailable permission reader) := by
  cases reader with
  | refresh => exact Quiet.refl page
  | resync => exact Page.quiet_refreshPushUI _ permission
  | disable => exact Page.quiet_refreshPushUI _ permission

/-! ## One step -/

/-- What becomes of the browser's subscription. -/
inductive Browser.Changed (b b' : Browser) : Prop where
  | kept (sub : b'.sub = b.sub) (issued : b'.issued = b.issued)
  | gone (sub : b'.sub = none) (issued : b'.issued = b.issued)
  | made (t : Target) (before : b.sub = none) (fresh : t.endpoint ∉ b.issued.map Target.endpoint)
      (sub : b'.sub = some t) (issued : b'.issued = b.issued ++ [t])

theorem Browser.subscribe?_changed (h : b.subscribe? t = some b') :
    b.Changed b' ∧ b'.sub = some t := by
  unfold Browser.subscribe? at h
  split at h
  · exact (nomatch h)
  · split at h
    next same =>
      cases h
      exact ⟨.kept rfl rfl, same⟩
    · obtain ⟨⟨before, fresh⟩, rfl⟩ := enabled_eq_some.mp h
      have unused : t.endpoint ∉ b.issued.map Target.endpoint := mt List.contains_iff_mem.mpr fresh
      exact ⟨.made t before unused rfl rfl, rfl⟩

theorem Browser.unsubscribe_changed (b : Browser) (t : Target) :
    b.Changed (b.unsubscribe t) ∧ (b.unsubscribe t).sub ≠ some t := by
  unfold Browser.unsubscribe
  split
  · exact ⟨.gone rfl rfl, nofun⟩
  next other => exact ⟨.kept rfl rfl, other⟩

theorem Browser.answer?_changed (h : b.answer? permission = some b') :
    b'.sub = b.sub ∧ b'.issued = b.issued := by
  obtain ⟨-, rfl⟩ := enabled_eq_some.mp h
  exact ⟨rfl, rfl⟩

/-- Where a claim may come from: it was there, it is the browser's subscription that was read, or an
endpoint whose subscription has been given up. -/
inductive Origin (was : Claim → Prop) (b b' : Browser) : Claim → Prop where
  | old {c : Claim} (before : was c) : Origin was b b' c
  | read {t : Target} (sub : b.sub = some t ∨ b'.sub = some t) : Origin was b b' (.holds t)
  | givenUp {t : Target} (before : was (.holds t)) (other : b'.sub ≠ some t) :
      Origin was b b' (.removes t.endpoint)

/-- What a promise that settles leaves. -/
structure Settled (w : Waiting) (b : Browser) (page : Page) (b' : Browser) (page' : Page)
    (posts : List Post) : Prop where
  changed : b.Changed b'
  waiting : ∀ v ∈ page'.waiting, v ∈ page.waiting ∨
    ∀ c, v.claim? = some c → Origin (w.claim? = some ·) b b' c
  posts : ∀ post ∈ posts, ∀ c, post.claim? = some c → Origin (w.claim? = some ·) b b' c

/-- The callback of a promise that was about nothing. -/
theorem Settled.of_quiet {w : Waiting} (quiet : page.Quiet page') (sub : b'.sub = b.sub)
    (issued : b'.issued = b.issued) : Settled w b page b' page' [] where
  changed := .kept sub issued
  waiting v mem := by
    rcases quiet v mem with old | nothing
    · exact Or.inl old
    · refine Or.inr fun c about => ?_
      rw [nothing] at about
      exact (nomatch about)
  posts post mem := absurd mem List.not_mem_nil

/-- A promise leaves one callback behind. -/
theorem Settled.of_await {w v : Waiting} (changed : b.Changed b')
    (about : ∀ c, v.claim? = some c → Origin (w.claim? = some ·) b b' c) :
    Settled w b page b' (page.await v) [] where
  changed := changed
  waiting u mem := by
    rcases List.mem_append.1 mem with old | new
    · exact Or.inl old
    · rw [List.mem_singleton.1 new]
      exact Or.inr about
  posts post mem := absurd mem List.not_mem_nil

/-- A callback sends a request about what it holds. -/
theorem Settled.of_post {w : Waiting} {post : Post} (same : post.claim? = w.claim?) :
    Settled w b page b page [post] where
  changed := .kept rfl rfl
  waiting v mem := Or.inl mem
  posts other mem c about := by
    rw [List.mem_singleton.1 mem, same] at about
    exact .old about

/-- The callback of `getSubscription`. -/
theorem Settled.of_got (reader : Reader) (sub : Option Target) :
    Settled (.got reader sub) b page b (page.onSubscription permission sub reader).1
      (page.onSubscription permission sub reader).2 := by
  cases reader with
  | resync =>
      cases sub with
      | none => exact .of_quiet (Page.Quiet.refl page) rfl rfl
      | some t => exact .of_post rfl
  | refresh => exact .of_quiet (Page.Quiet.refl page) rfl rfl
  | disable =>
      cases sub with
      | none => exact .of_quiet (Page.quiet_refreshPushUI _ _) rfl rfl
      | some t =>
          refine .of_await (.kept rfl rfl) fun c about => ?_
          cases about
          exact .old rfl

/-- By the cases of `settle`, in their order. -/
theorem Waiting.settled {w : Waiting} {outcome : Outcome} {posts : List Post}
    (h : w.settle b page outcome = some (b', page', posts)) : Settled w b page b' page' posts := by
  unfold Waiting.settle at h
  split at h
  · cases h
    exact .of_quiet ((Page.quiet_await rfl _).trans (Page.quiet_refreshPushUI _ _)) rfl rfl
  · cases h
    exact .of_quiet (Page.quiet_refreshPushUI _ _) rfl rfl
  · cases h
    refine .of_await (.kept rfl rfl) fun c about => ?_
    cases has : b.sub with
    | none =>
        rw [has] at about
        exact (nomatch about)
    | some t =>
        rw [has] at about
        cases about
        exact .read (Or.inl has)
  next reader =>
    cases h
    exact .of_quiet (page.quiet_unavailable b.permission reader) rfl rfl
  next reader sub =>
    obtain ⟨rfl, same⟩ := Prod.mk.inj (Option.some.inj h)
    have got : Settled (.got reader sub) b page b
        (page.onSubscription b.permission sub reader).1
        (page.onSubscription b.permission sub reader).2 := Settled.of_got reader sub
    rw [same] at got
    exact got
  next permission =>
    obtain ⟨next, answered, ⟨⟩⟩ := Option.map_eq_some_iff.1 h
    obtain ⟨sub, issued⟩ := Browser.answer?_changed answered
    split
    · exact .of_quiet (Page.quiet_await rfl page) sub issued
    · exact .of_quiet (Page.quiet_refreshPushUI _ _) sub issued
  · cases h
    exact .of_quiet (Page.Quiet.refl page) rfl rfl
  next t =>
    obtain ⟨next, made, ⟨⟩⟩ := Option.map_eq_some_iff.1 h
    obtain ⟨changed, sub⟩ := Browser.subscribe?_changed made
    refine .of_await changed fun c about => ?_
    cases about
    exact .read (Or.inr sub)
  · cases h
    exact .of_quiet (Page.quiet_refreshPushUI _ _) rfl rfl
  · cases h
    exact .of_post rfl
  next t =>
    cases h
    obtain ⟨changed, other⟩ := b.unsubscribe_changed t
    refine .of_await changed fun c about => ?_
    cases about
    exact .givenUp rfl other
  · cases h
    exact .of_quiet (Page.quiet_refreshPushUI _ _) rfl rfl
  · cases h
    exact .of_post rfl
  · exact (nomatch h)

/-- What a step leaves of the browser, and of what is under way. -/
structure Moved (s s' : System) : Prop where
  changed : s.browser.Changed s'.browser
  claims : ∀ c, s'.Claims c → Origin s.Claims s.browser s'.browser c

theorem System.Claims.of_waiting {w : Waiting} (there : s.page? i = some page)
    (mem : w ∈ page.waiting)
    (about : w.claim? = some c) : s.Claims c :=
  ⟨Or.inl ⟨i, page, w, there, mem, about⟩⟩

theorem System.Claims.of_request {post : Post} (mem : .request i post ∈ s.net)
    (about : post.claim? = some c) : s.Claims c :=
  ⟨Or.inr ⟨i, post, mem, about⟩⟩

/-- A step in which nothing comes to be under way that is about a subscription. -/
theorem Moved.of_kept (changed : s.browser.Changed s'.browser)
    (waiting : ∀ i page, s'.page? i = some page → ∀ w ∈ page.waiting,
      (∃ j old, s.page? j = some old ∧ w ∈ old.waiting) ∨ w.claim? = none)
    (net : ∀ i post, .request i post ∈ s'.net → .request i post ∈ s.net) : Moved s s' := by
  refine ⟨changed, fun c claims => .old ?_⟩
  obtain ⟨i, page, w, there, mem, about⟩ | ⟨i, post, mem, about⟩ := claims.of
  · rcases waiting i page there w mem with ⟨j, old, before, mem'⟩ | nothing
    · exact .of_waiting before mem' about
    · rw [nothing] at about
      exact (nomatch about)
  · exact .of_request (net i post mem) about

theorem System.page?_set {pages : List (Option Page)} {new : Option Page}
    (h : (pages.set i new)[j]?.join = some page) :
    new = some page ∨ pages[j]?.join = some page := by
  rw [List.getElem?_set] at h
  split at h
  · split at h
    · exact Or.inl h
    · exact (nomatch h)
  · exact Or.inr h

theorem System.page?_concat {pages : List (Option Page)} {new : Page}
    (h : (pages ++ [some new])[j]?.join = some page) :
    new = page ∨ pages[j]?.join = some page := by
  by_cases loaded : j < pages.length
  · rw [List.getElem?_append_left loaded] at h
    exact Or.inr h
  · rw [List.getElem?_append_right (Nat.le_of_not_lt loaded)] at h
    have mem := List.mem_of_getElem? (Option.join_eq_some_iff.1 h)
    exact Or.inl (Option.some.inj (List.mem_singleton.1 mem)).symm

/-- One page goes on. -/
theorem Moved.of_page (there : s.page? i = some page) (quiet : page.Quiet page')
    (changed : s.browser.Changed s'.browser) (pages : s'.pages = s.pages.set i (some page'))
    (net : ∀ i post, .request i post ∈ s'.net → .request i post ∈ s.net) : Moved s s' := by
  refine .of_kept changed (fun j other here w mem => ?_) net
  rw [System.page?, pages] at here
  rcases System.page?_set here with same | old
  · cases same
    rcases quiet w mem with old | nothing
    · exact Or.inl ⟨i, page, there, old⟩
    · exact Or.inr nothing
  · exact Or.inl ⟨j, other, old, mem⟩

/-- The pages and what they sent stay. -/
theorem Moved.of_same (changed : s.browser.Changed s'.browser) (pages : s'.pages = s.pages)
    (net : ∀ i post, .request i post ∈ s'.net → .request i post ∈ s.net) : Moved s s' := by
  refine .of_kept changed (fun j page here w mem => Or.inl ⟨j, page, ?_, mem⟩) net
  rwa [System.page?, pages] at here

theorem System.settle_moved {outcome : Outcome} (h : s.settle i k outcome = some s') :
    Moved s s' := by
  unfold System.settle at h
  obtain ⟨page, there, h⟩ := Option.bind_eq_some_iff.1 h
  obtain ⟨w, waits, h⟩ := Option.bind_eq_some_iff.1 h
  obtain ⟨⟨b', page', posts⟩, settles, ⟨⟩⟩ := Option.bind_eq_some_iff.1 h
  have out := Waiting.settled settles
  have waited : ∀ c, w.claim? = some c → s.Claims c := fun c about =>
    .of_waiting there (List.mem_of_getElem? waits) about
  have moved : ∀ c, Origin (w.claim? = some ·) s.browser b' c → Origin s.Claims s.browser b' c := by
    intro c origin
    cases origin with
    | old before => exact .old (waited c before)
    | read sub => exact .read sub
    | givenUp before other => exact .givenUp (waited _ before) other
  refine ⟨out.changed, fun c claims => ?_⟩
  obtain ⟨j, other, v, here, mem, about⟩ | ⟨j, post, mem, about⟩ := claims.of
  · rcases System.page?_set here with same | old
    · cases same
      rcases out.waiting v mem with old | new
      · exact .old (.of_waiting there (List.mem_of_mem_eraseIdx old) about)
      · exact moved c (new c about)
    · exact .old (.of_waiting old mem about)
  · rcases List.mem_append.1 mem with old | new
    · exact .old (.of_request old about)
    · obtain ⟨_, sent, ⟨⟩⟩ := List.mem_map.1 new
      exact moved c (out.posts post sent c about)

theorem System.arrive_moved {handling : Handling} (h : s.arrive maxSubs k handling = some s') :
    Moved s s' := by
  unfold System.arrive at h
  split at h
  · obtain ⟨rows, -, rfl⟩ := Option.map_eq_some_iff.1 h
    refine .of_same (.kept rfl rfl) rfl fun i post mem => ?_
    rcases List.mem_append.1 mem with old | new
    · exact List.mem_of_mem_eraseIdx old
    · exact (nomatch List.mem_singleton.1 new)
  · exact (nomatch h)

theorem System.follow_moved {net : List Message} (kept : ∀ m ∈ net, m ∈ s.net) (page : Option ℕ) :
    Moved s ({ s with net }.follow page) := by
  have dropped : Moved s { s with net } := .of_same (.kept rfl rfl) rfl fun i post mem => kept _ mem
  unfold System.follow
  split
  · exact dropped
  next i =>
    split
    · exact dropped
    next page there =>
      exact .of_page there (page.quiet_refreshPushUI s.browser.permission) (.kept rfl rfl) rfl
        fun i post mem => kept _ mem

theorem System.step_moved (h : System.step maxSubs s act = some s') : Moved s s' := by
  cases act with
  | load pushSupported =>
      cases h
      refine .of_kept (.kept rfl rfl) (fun j page here w mem => ?_) fun _ _ mem => mem
      rcases System.page?_concat here with rfl | old
      · rcases Page.quiet_registerSW _ _ w mem with none_before | nothing
        · exact absurd none_before List.not_mem_nil
        · exact Or.inr nothing
      · exact Or.inl ⟨j, page, old, mem⟩
  | close i =>
      obtain ⟨page, -, rfl⟩ := Option.map_eq_some_iff.1 h
      refine .of_kept (.kept rfl rfl) (fun j other here w mem => ?_) fun _ _ mem => mem
      rcases System.page?_set here with none_here | old
      · exact (nomatch none_here)
      · exact Or.inl ⟨j, other, old, mem⟩
  | polled i supported vapidKey =>
      obtain ⟨page, there, rfl⟩ := Option.map_eq_some_iff.1 h
      exact .of_page there (page.quiet_pushApplyState _ supported vapidKey) (.kept rfl rfl) rfl
        fun _ _ mem => mem
  | click i =>
      obtain ⟨page, there, rfl⟩ := Option.map_eq_some_iff.1 h
      exact .of_page there (page.quiet_togglePush _) (.kept rfl rfl) rfl fun _ _ mem => mem
  | settle i k outcome => exact System.settle_moved h
  | arrive k handling => exact System.arrive_moved h
  | answered k =>
      rw [System.step] at h
      split at h
      · cases h
        exact System.follow_moved (fun _ => List.mem_of_mem_eraseIdx) _
      · exact (nomatch h)
  | lost k =>
      obtain ⟨m, -, rfl⟩ := Option.map_eq_some_iff.1 h
      exact .of_same (.kept rfl rfl) rfl fun _ _ => List.mem_of_mem_eraseIdx
  | permission permission =>
      cases h
      refine .of_same ?_ rfl fun _ _ mem => mem
      by_cases granted : permission = .granted
      · exact .kept (if_pos granted) rfl
      · exact .gone (if_neg granted) rfl
  | expired =>
      cases h
      exact .of_same (.gone rfl rfl) rfl fun _ _ mem => mem
  | outside op =>
      obtain ⟨rows, -, rfl⟩ := Option.map_eq_some_iff.1 h
      exact .of_same (.kept rfl rfl) rfl fun _ _ mem => mem
  | wiped =>
      cases h
      exact .of_same (.kept rfl rfl) rfl fun _ _ mem => mem

/-! ## What every run keeps -/

/-- What holds between two steps: each subscription under way was made by this browser, and none
that is to be removed is its own. -/
structure System.Sound (s : System) : Prop where
  distinct : (s.browser.issued.map Target.endpoint).Nodup
  sub : ∀ t, s.browser.sub = some t → t ∈ s.browser.issued
  holds : ∀ t, s.Claims (.holds t) → t ∈ s.browser.issued
  removes : ∀ e, s.Claims (.removes e) →
    ∃ t ∈ s.browser.issued, t.endpoint = e ∧ s.browser.sub ≠ some t

theorem Browser.Changed.issued_mono (changed : b.Changed b') (mem : t ∈ b.issued) :
    t ∈ b'.issued := by
  cases changed with
  | kept sub issued => rwa [issued]
  | gone sub issued => rwa [issued]
  | made new before fresh sub issued =>
      rw [issued]
      exact List.mem_append_left _ mem

/-- A subscription that was made before is not made again. -/
theorem Browser.Changed.sub_before (changed : b.Changed b') (mem : t ∈ b.issued)
    (after : b'.sub = some t) : b.sub = some t := by
  cases changed with
  | kept sub issued => rwa [← sub]
  | gone sub issued =>
      rw [sub] at after
      exact (nomatch after)
  | made new before fresh sub issued =>
      rw [sub] at after
      cases after
      exact absurd (List.mem_map_of_mem mem) fresh

theorem Browser.Changed.sub_issued (changed : b.Changed b')
    (sub : ∀ t, b.sub = some t → t ∈ b.issued) : ∀ t, b'.sub = some t → t ∈ b'.issued := by
  intro t after
  cases changed with
  | kept same issued =>
      rw [issued]
      exact sub t (same ▸ after)
  | gone none_after issued =>
      rw [none_after] at after
      exact (nomatch after)
  | made new before fresh same issued =>
      rw [same] at after
      cases after
      rw [issued]
      exact List.mem_append_right _ (List.mem_singleton_self t)

theorem Browser.Changed.distinct (changed : b.Changed b')
    (distinct : (b.issued.map Target.endpoint).Nodup) : (b'.issued.map Target.endpoint).Nodup := by
  cases changed with
  | kept sub issued => rwa [issued]
  | gone sub issued => rwa [issued]
  | made new before fresh sub issued =>
      rw [issued, List.map_append, List.nodup_append]
      refine ⟨distinct, List.nodup_singleton _, fun old mem other added => ?_⟩
      rw [List.map_singleton, List.mem_singleton] at added
      rintro rfl
      exact fresh (added ▸ mem)

theorem System.Sound.moved (sound : s.Sound) (moved : Moved s s') : s'.Sound where
  distinct := moved.changed.distinct sound.distinct
  sub := moved.changed.sub_issued sound.sub
  holds t claims := by
    cases moved.claims _ claims with
    | old before => exact moved.changed.issued_mono (sound.holds t before)
    | read sub =>
        rcases sub with before | after
        · exact moved.changed.issued_mono (sound.sub t before)
        · exact moved.changed.sub_issued sound.sub t after
  removes e claims := by
    cases moved.claims _ claims with
    | old before =>
        obtain ⟨t, mem, same, other⟩ := sound.removes e before
        exact ⟨t, moved.changed.issued_mono mem, same,
          fun after => other (moved.changed.sub_before mem after)⟩
    | @givenUp t before other =>
        exact ⟨t, moved.changed.issued_mono (sound.holds t before), rfl, other⟩

theorem System.Sound.eq_of_endpoint (sound : s.Sound) {t t' : Target} (mem : t ∈ s.browser.issued)
    (mem' : t' ∈ s.browser.issued) (same : t.endpoint = t'.endpoint) : t = t' :=
  List.inj_on_of_nodup_map sound.distinct mem mem' same

/-- Before the browser has shown a page. -/
def System.start (rows : SubscriptionTable) : System := { rows }

theorem System.start_sound (rows : SubscriptionTable) : (System.start rows).Sound where
  distinct := List.nodup_nil
  sub t same := (nomatch same)
  holds t claims := by
    obtain ⟨i, page, w, there, -, -⟩ | ⟨i, post, mem, -⟩ := claims.of
    · exact (nomatch there)
    · exact (nomatch mem)
  removes e claims := by
    obtain ⟨i, page, w, there, -, -⟩ | ⟨i, post, mem, -⟩ := claims.of
    · exact (nomatch there)
    · exact (nomatch mem)

theorem System.sound_of_run {rows : SubscriptionTable} {acts : List Act}
    (ran : run (System.step maxSubs) (System.start rows) acts = some s) : s.Sound :=
  run_invariant (fun _ _ _ sound h => sound.moved (System.step_moved h))
    (System.start_sound rows) ran

/-! ## The table -/

/-- The server has the subscription, with its keys. -/
def HasRow (t : Target) (rows : SubscriptionTable) : Prop := ∃ row ∈ rows, targetOf row = t

/-- The subscription's row is not evicted, and nothing outside the pages takes it or changes its
keys. -/
def Spares (t : Target) (s : System) : Act → Prop
  | .arrive _ (.accepted _ keep) => ∀ row ∈ s.rows, targetOf row = t → keep row = true
  | .outside (.add endpoint _ _ _ keep _) =>
      endpoint ≠ t.endpoint ∧ ∀ row ∈ s.rows, targetOf row = t → keep row = true
  | .outside (.remove endpoint _) => endpoint ≠ t.endpoint
  | .wiped => False
  | _ => True

/-- An endpoint that no client outside adds. -/
def NotAdded (endpoint : Text) : Act → Prop
  | .outside (.add other _ _ _ _ _) => other ≠ endpoint
  | _ => True

variable {rows rows' : SubscriptionTable} {row : Subscription}
  {endpoint p256dh auth : Text} {now : ℚ}

/-- A row stays where another is added, or it is refreshed with its own keys. -/
theorem mem_upsertRow (mem : row ∈ rows)
    (agrees : row.endpoint = endpoint → row.p256dh = p256dh ∧ row.auth = auth) :
    row ∈ upsertRow rows endpoint p256dh auth now := by
  unfold upsertRow
  split
  · refine List.mem_map.2 ⟨row, mem, ?_⟩
    split
    next same =>
      obtain ⟨rfl, rfl⟩ := agrees same
      rfl
    · rfl
  · exact List.mem_append_left _ mem

/-- A subscription that is accepted has its row, unless it is evicted at once. -/
theorem hasRow_upsertRow (t : Target) (rows : SubscriptionTable) (now : ℚ) :
    HasRow t (upsertRow rows t.endpoint t.p256dh t.auth now) := by
  have there : t.endpoint ∈ (upsertRow rows t.endpoint t.p256dh t.auth now).map
      Subscription.endpoint := by
    rcases upsert_cases rows t.endpoint t.p256dh t.auth now with ⟨there, -⟩ | appended
    · exact there
    · rw [appended, List.map_append]
      exact List.mem_append_right _ (List.mem_singleton_self _)
  obtain ⟨row, mem, same⟩ := List.mem_map.1 there
  obtain ⟨p256dh, auth⟩ := keys_of_mem_upsert mem same
  exact ⟨row, mem, by rw [targetOf, same, p256dh, auth]⟩

theorem HasRow.add (has : HasRow t rows) {keep : Subscription → Bool} {reached : AddReached}
    (agrees : ∀ row ∈ rows, targetOf row = t →
      row.endpoint = endpoint → row.p256dh = p256dh ∧ row.auth = auth)
    (kept : ∀ row ∈ rows, targetOf row = t → keep row = true)
    (h : SubscriptionTable.step maxSubs rows (.add endpoint p256dh auth now keep reached) =
      some rows') : HasRow t rows' := by
  obtain ⟨row, mem, same⟩ := has
  cases reached with
  | nothing =>
      cases h
      exact ⟨row, mem, same⟩
  | inserted =>
      cases h
      exact ⟨row, mem_upsertRow mem (agrees row mem same), same⟩
  | trimmed =>
      obtain ⟨-, rfl⟩ := enabled_eq_some.mp h
      have added : row ∈ upsertRow rows endpoint p256dh auth now :=
        mem_upsertRow mem (agrees row mem same)
      exact ⟨row, List.mem_filter.2 ⟨added, kept row mem same⟩, same⟩

theorem HasRow.remove {done : Bool} (has : HasRow t rows) (other : endpoint ≠ t.endpoint)
    (h : SubscriptionTable.step maxSubs rows (.remove endpoint done) = some rows') :
    HasRow t rows' := by
  obtain ⟨row, mem, rfl⟩ := has
  cases done <;> cases h
  · exact ⟨row, mem, rfl⟩
  · exact ⟨row, List.mem_filter.2 ⟨mem, decide_eq_true (Ne.symm other)⟩, rfl⟩

/-- The steps that change the table. -/
theorem System.step_rows (h : System.step maxSubs s act = some s') :
    s'.rows = s.rows ∨
      (∃ k handling i post, act = .arrive k handling ∧ s.net[k]? = some (.request i post) ∧
        post.handle maxSubs s.rows handling = some s'.rows) ∨
      (∃ op, act = .outside op ∧ SubscriptionTable.step maxSubs s.rows op = some s'.rows) ∨
      (act = .wiped ∧ s'.rows = []) := by
  cases act with
  | load pushSupported =>
      cases h
      exact Or.inl rfl
  | close i =>
      obtain ⟨page, -, rfl⟩ := Option.map_eq_some_iff.1 h
      exact Or.inl rfl
  | polled i supported vapidKey =>
      obtain ⟨page, -, rfl⟩ := Option.map_eq_some_iff.1 h
      exact Or.inl rfl
  | click i =>
      obtain ⟨page, -, rfl⟩ := Option.map_eq_some_iff.1 h
      exact Or.inl rfl
  | settle i k outcome =>
      rw [System.step, System.settle] at h
      obtain ⟨page, -, h⟩ := Option.bind_eq_some_iff.1 h
      obtain ⟨w, -, h⟩ := Option.bind_eq_some_iff.1 h
      obtain ⟨⟨b', page', posts⟩, -, ⟨⟩⟩ := Option.bind_eq_some_iff.1 h
      exact Or.inl rfl
  | arrive k handling =>
      rw [System.step, System.arrive] at h
      split at h
      next i post there =>
        obtain ⟨rows, handled, rfl⟩ := Option.map_eq_some_iff.1 h
        exact Or.inr (Or.inl ⟨k, handling, i, post, rfl, there, handled⟩)
      · exact (nomatch h)
  | answered k =>
      rw [System.step] at h
      split at h
      · cases h
        refine Or.inl ?_
        unfold System.follow
        split
        · rfl
        · split <;> rfl
      · exact (nomatch h)
  | lost k =>
      obtain ⟨m, -, rfl⟩ := Option.map_eq_some_iff.1 h
      exact Or.inl rfl
  | permission permission =>
      cases h
      exact Or.inl rfl
  | expired =>
      cases h
      exact Or.inl rfl
  | outside op =>
      obtain ⟨rows, changed, rfl⟩ := Option.map_eq_some_iff.1 h
      exact Or.inr (Or.inr (Or.inl ⟨op, rfl, changed⟩))
  | wiped =>
      cases h
      exact Or.inr (Or.inr (Or.inr ⟨rfl, rfl⟩))

/-- A step after which the subscription is still the browser's. -/
theorem HasRow.step (sound : s.Sound) (has : HasRow t s.rows) (own : s.browser.sub = some t)
    (spares : Spares t s act) (h : System.step maxSubs s act = some s') : HasRow t s'.rows := by
  rcases System.step_rows h with same | ⟨k, handling, i, post, rfl, there, handled⟩ |
    ⟨op, rfl, changed⟩ | ⟨rfl, -⟩
  · rwa [same]
  · have mem := List.mem_of_getElem? there
    cases handling with
    | refused =>
        have same : s.rows = s'.rows := by cases post <;> exact Option.some.inj handled
        rwa [← same]
    | accepted now keep =>
        cases post with
        | subscribe new follows =>
            have added : SubscriptionTable.step maxSubs s.rows
                (.add new.endpoint new.p256dh new.auth now keep .trimmed) = some s'.rows := handled
            refine has.add (fun row _ same here => ?_) spares added
            have held : new ∈ s.browser.issued := sound.holds new (.of_request mem rfl)
            have made : t = new := sound.eq_of_endpoint (sound.sub t own) held
              (by rw [← same]; exact here)
            rw [← made, ← same]
            exact ⟨rfl, rfl⟩
        | unsubscribe endpoint =>
            obtain ⟨old, made, same, other⟩ := sound.removes endpoint (.of_request mem rfl)
            have removed : SubscriptionTable.step maxSubs s.rows (.remove endpoint true) =
                some s'.rows := handled
            refine has.remove (fun mine => other ?_) removed
            rw [own, sound.eq_of_endpoint made (sound.sub t own) (same.trans mine)]
  · cases op with
    | add endpoint p256dh auth now keep reached =>
        refine has.add (fun row _ same here => ?_) spares.2 changed
        rw [← same] at spares
        exact absurd here.symm spares.1
    | remove endpoint done => exact has.remove spares changed
  · exact spares.elim

/-- Nothing under way is about the endpoint's subscription, and it is not the browser's. -/
def System.Forgotten (s : System) (endpoint : Text) : Prop :=
  ∀ t, t.endpoint = endpoint → s.browser.sub ≠ some t ∧ ¬ s.Claims (.holds t)

/-- An endpoint once made and then forgotten is not remembered. -/
theorem System.Forgotten.moved (forgotten : s.Forgotten t.endpoint) (sound : s.Sound)
    (made : t ∈ s.browser.issued) (moved : Moved s s') : s'.Forgotten t.endpoint := by
  have not_own : ∀ u, u.endpoint = t.endpoint → s'.browser.sub ≠ some u := by
    intro u same after
    have own : u = t := by
      refine (sound.moved moved).eq_of_endpoint ?_ (moved.changed.issued_mono made) same
      exact moved.changed.sub_issued sound.sub u after
    exact (forgotten u same).1 (moved.changed.sub_before (own ▸ made) after)
  refine fun u same => ⟨not_own u same, fun claims => ?_⟩
  cases moved.claims _ claims with
  | old before => exact (forgotten u same).2 before
  | read sub =>
      rcases sub with before | after
      · exact (forgotten u same).1 before
      · exact not_own u same after

def HasEndpoint (endpoint : Text) (rows : SubscriptionTable) : Prop :=
  endpoint ∈ rows.map Subscription.endpoint

theorem HasEndpoint.of_upsertRow {e : Text}
    (has : HasEndpoint e (upsertRow rows endpoint p256dh auth now)) (other : endpoint ≠ e) :
    HasEndpoint e rows := by
  unfold upsertRow HasEndpoint at has
  split at has
  · rwa [endpoints_refreshed] at has
  · rw [List.map_append] at has
    rcases List.mem_append.1 has with old | new
    · exact old
    · exact absurd (List.mem_singleton.1 new).symm other

theorem HasEndpoint.of_add {e : Text} {keep : Subscription → Bool} {reached : AddReached}
    (has : HasEndpoint e rows') (other : endpoint ≠ e)
    (h : SubscriptionTable.step maxSubs rows (.add endpoint p256dh auth now keep reached) =
      some rows') : HasEndpoint e rows := by
  cases reached with
  | nothing =>
      cases h
      exact has
  | inserted =>
      cases h
      exact has.of_upsertRow other
  | trimmed =>
      obtain ⟨-, rfl⟩ := enabled_eq_some.mp h
      have kept : HasEndpoint e (upsertRow rows endpoint p256dh auth now) :=
        (List.filter_sublist.map _).subset has
      exact kept.of_upsertRow other

theorem HasEndpoint.of_remove {e : Text} {done : Bool} (has : HasEndpoint e rows')
    (h : SubscriptionTable.step maxSubs rows (.remove endpoint done) = some rows') :
    HasEndpoint e rows := by
  cases done <;> cases h
  · exact has
  · exact (List.filter_sublist.map _).subset has

theorem HasEndpoint.before (forgotten : s.Forgotten t.endpoint) (notAdded : NotAdded t.endpoint act)
    (h : System.step maxSubs s act = some s') (has : HasEndpoint t.endpoint s'.rows) :
    HasEndpoint t.endpoint s.rows := by
  rcases System.step_rows h with same | ⟨k, handling, i, post, rfl, there, handled⟩ |
    ⟨op, rfl, changed⟩ | ⟨-, empty⟩
  · rwa [← same]
  · have mem := List.mem_of_getElem? there
    cases handling with
    | refused =>
        have same : s.rows = s'.rows := by cases post <;> exact Option.some.inj handled
        rwa [same]
    | accepted now keep =>
        cases post with
        | subscribe new follows =>
            have added : SubscriptionTable.step maxSubs s.rows
                (.add new.endpoint new.p256dh new.auth now keep .trimmed) = some s'.rows := handled
            exact has.of_add (fun mine => (forgotten new mine).2 (.of_request mem rfl)) added
        | unsubscribe endpoint =>
            have removed : SubscriptionTable.step maxSubs s.rows (.remove endpoint true) =
                some s'.rows := handled
            exact has.of_remove removed
  · cases op with
    | add endpoint p256dh auth now keep reached => exact has.of_add notAdded changed
    | remove endpoint done => exact has.of_remove changed
  · rw [empty] at has
    exact absurd has List.not_mem_nil

/-! ## Runs -/

variable {acts after : List Act}

/-- The server has the subscription as long as it is the browser's. -/
structure System.Keeps (t : Target) (s : System) : Prop where
  sound : s.Sound
  made : t ∈ s.browser.issued
  row : s.browser.sub = some t → HasRow t s.rows

theorem System.Keeps.step (keeps : s.Keeps t) (spares : Spares t s act)
    (h : System.step maxSubs s act = some s') : s'.Keeps t := by
  have moved := System.step_moved h
  refine ⟨keeps.sound.moved moved, moved.changed.issued_mono keeps.made, fun own => ?_⟩
  have before := moved.changed.sub_before keeps.made own
  exact (keeps.row before).step keeps.sound before spares h

theorem hasRow_of_run (sound : s.Sound) (has : HasRow t s.rows) (made : t ∈ s.browser.issued)
    (spared : Meets (System.step maxSubs) (Spares t) s after)
    (ran : run (System.step maxSubs) s after = some s') (own : s'.browser.sub = some t) :
    HasRow t s'.rows := by
  have kept : s'.Keeps t :=
    run_invariant_of_meets (fun _ _ _ keeps spares h => System.Keeps.step keeps spares h)
      ⟨sound, made, fun _ => has⟩ spared ran
  exact kept.row own

/-- The endpoint was given up, and the server does not know it. -/
structure System.Lacks (t : Target) (s : System) : Prop where
  sound : s.Sound
  made : t ∈ s.browser.issued
  forgotten : s.Forgotten t.endpoint
  absent : ¬ HasEndpoint t.endpoint s.rows

theorem System.Lacks.step (lacks : s.Lacks t) (notAdded : NotAdded t.endpoint act)
    (h : System.step maxSubs s act = some s') : s'.Lacks t := by
  have moved := System.step_moved h
  exact ⟨lacks.sound.moved moved, moved.changed.issued_mono lacks.made,
    lacks.forgotten.moved lacks.sound lacks.made moved,
    fun has => lacks.absent (has.before lacks.forgotten notAdded h)⟩

theorem absent_of_run (sound : s.Sound) (forgotten : s.Forgotten t.endpoint)
    (absent : ¬ HasEndpoint t.endpoint s.rows) (made : t ∈ s.browser.issued)
    (notAdded : Meets (System.step maxSubs) (fun _ => NotAdded t.endpoint) s after)
    (ran : run (System.step maxSubs) s after = some s') : ¬ HasEndpoint t.endpoint s'.rows := by
  have kept : s'.Lacks t :=
    run_invariant_of_meets (fun _ _ _ lacks notAdded h => System.Lacks.step lacks notAdded h)
      ⟨sound, made, forgotten, absent⟩ notAdded ran
  exact kept.absent

/-! ## A page that is loaded -/

/-- Whatever the page waited for it still does. -/
theorem Page.waiting_await (page : Page) (w : Waiting) : page.waiting ⊆ (page.await w).waiting :=
  List.subset_append_left _ _

theorem Page.waiting_refreshPushUI (page : Page) (permission : Permission) :
    page.waiting ⊆ (page.refreshPushUI permission).waiting := by
  unfold refreshPushUI
  repeat' split
  all_goals first | exact List.Subset.refl _ | exact page.waiting_await _

theorem Page.waiting_togglePush (page : Page) (permission : Permission) :
    page.waiting ⊆ (page.togglePush permission).waiting := by
  unfold togglePush disablePush enablePush
  repeat' split
  all_goals first | exact page.waiting_refreshPushUI permission | exact page.waiting_await _

theorem Page.waiting_onSubscription (page : Page) (permission : Permission) (sub : Option Target)
    (reader : Reader) :
    page.waiting ⊆ (page.onSubscription permission sub reader).1.waiting := by
  cases reader with
  | resync | refresh => exact List.Subset.refl _
  | disable =>
      cases sub with
      | none => exact page.waiting_refreshPushUI permission
      | some t => exact page.waiting_await _

/-- By the cases of `settle`, in their order. -/
theorem Waiting.waiting_settle {w : Waiting} {outcome : Outcome} {posts : List Post}
    (h : w.settle b page outcome = some (b', page', posts)) : page.waiting ⊆ page'.waiting := by
  unfold Waiting.settle at h
  split at h
  · cases h
    exact List.Subset.trans (Page.waiting_await { page with swReg := true } _)
      (Page.waiting_refreshPushUI _ _)
  · cases h
    exact Page.waiting_refreshPushUI { page with pushSupported := false } _
  · cases h
    exact page.waiting_await _
  next reader =>
    cases h
    cases reader with
    | refresh => exact List.Subset.refl _
    | resync | disable => exact Page.waiting_refreshPushUI (page.setTog false) _
  next reader sub =>
    obtain ⟨-, same⟩ := Prod.mk.inj (Option.some.inj h)
    have kept := page.waiting_onSubscription b.permission sub reader
    rwa [same] at kept
  next permission =>
    obtain ⟨next, -, ⟨⟩⟩ := Option.map_eq_some_iff.1 h
    split
    · exact page.waiting_await _
    · exact page.waiting_refreshPushUI _
  · cases h
    exact List.Subset.refl _
  · obtain ⟨next, -, ⟨⟩⟩ := Option.map_eq_some_iff.1 h
    exact page.waiting_await _
  · cases h
    exact page.waiting_refreshPushUI _
  · cases h
    exact List.Subset.refl _
  · cases h
    exact page.waiting_await _
  · cases h
    exact Page.waiting_refreshPushUI (page.setTog false) _
  · cases h
    exact List.Subset.refl _
  · exact (nomatch h)

/-- What a step makes of a page: it goes on waiting, it settles, or it is closed. -/
inductive PageStep (s s' : System) (i : ℕ) (page : Page) : Act → Prop where
  | waits {act : Act} (page' : Page) (there : s'.page? i = some page')
      (waiting : page.waiting ⊆ page'.waiting) : PageStep s s' i page act
  | settles {k : ℕ} {outcome : Outcome} (w : Waiting) (b' : Browser) (page' : Page)
      (posts : List Post) (here : page.waiting[k]? = some w)
      (settled : w.settle s.browser { page with waiting := page.waiting.eraseIdx k } outcome =
        some (b', page', posts)) (there : s'.page? i = some page')
      (net : s'.net = s.net ++ posts.map (.request i)) : PageStep s s' i page (.settle i k outcome)
  | closes : PageStep s s' i page (.close i)

theorem System.lt_of_page? (there : s.page? i = some page) : i < s.pages.length := by
  by_contra beyond
  rw [System.page?, List.getElem?_eq_none (Nat.le_of_not_gt beyond)] at there
  exact (nomatch there)

theorem System.page?_of_set (there : s.page? i = some page) {new : Page}
    (pages : s'.pages = s.pages.set j (some new)) :
    s'.page? i = some (if j = i then new else page) := by
  rw [System.page?, pages, List.getElem?_set]
  split
  next here =>
    subst here
    rw [if_pos (System.lt_of_page? there)]
    rfl
  · exact there

/-- One page goes on, and this one is it or not. -/
theorem PageStep.of_set (there : s.page? i = some page) {other other' : Page}
    (same : s.page? j = some other) (waiting : other.waiting ⊆ other'.waiting)
    (pages : s'.pages = s.pages.set j (some other')) : PageStep s s' i page act := by
  refine .waits _ (System.page?_of_set there pages) ?_
  split
  next here =>
    rw [here, there] at same
    exact Option.some.inj same ▸ waiting
  · exact List.Subset.refl _

theorem PageStep.of_pages (there : s.page? i = some page) (pages : s'.pages = s.pages) :
    PageStep s s' i page act := by
  refine .waits page ?_ (List.Subset.refl _)
  rwa [System.page?, pages]

theorem System.step_page (h : System.step maxSubs s act = some s') (there : s.page? i = some page) :
    PageStep s s' i page act := by
  cases act with
  | load pushSupported =>
      cases h
      refine .waits page ?_ (List.Subset.refl _)
      rw [System.page?, List.getElem?_append_left (System.lt_of_page? there)]
      exact there
  | close j =>
      obtain ⟨other, -, rfl⟩ := Option.map_eq_some_iff.1 h
      by_cases same : j = i
      · exact same ▸ .closes
      · refine .waits page ?_ (List.Subset.refl _)
        rw [System.page?] at there ⊢
        rwa [List.getElem?_set_ne same]
  | polled j supported vapidKey =>
      obtain ⟨other, same, rfl⟩ := Option.map_eq_some_iff.1 h
      exact .of_set there same
        (Page.waiting_refreshPushUI { other with supported, vapidKey } s.browser.permission) rfl
  | click j =>
      obtain ⟨other, same, rfl⟩ := Option.map_eq_some_iff.1 h
      exact .of_set there same (other.waiting_togglePush s.browser.permission) rfl
  | settle j k outcome =>
      rw [System.step, System.settle] at h
      obtain ⟨other, same, h⟩ := Option.bind_eq_some_iff.1 h
      obtain ⟨w, here, h⟩ := Option.bind_eq_some_iff.1 h
      obtain ⟨⟨b', page', posts⟩, settled, ⟨⟩⟩ := Option.bind_eq_some_iff.1 h
      have after : (s.setPage j page').page? i = some (if j = i then page' else page) :=
        System.page?_of_set there rfl
      by_cases eq : j = i
      · subst eq
        rw [there] at same
        cases same
        rw [if_pos rfl] at after
        exact .settles w b' page' posts here settled after rfl
      · rw [if_neg eq] at after
        exact .waits page after (List.Subset.refl _)
  | arrive k handling =>
      rw [System.step, System.arrive] at h
      split at h
      · obtain ⟨rows, -, rfl⟩ := Option.map_eq_some_iff.1 h
        exact .of_pages there rfl
      · exact (nomatch h)
  | answered k =>
      rw [System.step] at h
      split at h
      · cases h
        unfold System.follow
        split
        · exact .of_pages there rfl
        · split
          · exact .of_pages there rfl
          next other same =>
            exact .of_set there same (other.waiting_refreshPushUI s.browser.permission) rfl
      · exact (nomatch h)
  | lost k =>
      obtain ⟨m, -, rfl⟩ := Option.map_eq_some_iff.1 h
      exact .of_pages there rfl
  | outside op =>
      obtain ⟨rows, -, rfl⟩ := Option.map_eq_some_iff.1 h
      exact .of_pages there rfl
  | permission permission | expired | wiped =>
      cases h
      exact .of_pages there rfl

theorem mem_eraseIdx_or {α : Type} {l : List α} {x : α} (mem : x ∈ l) (k : ℕ) :
    l[k]? = some x ∨ x ∈ l.eraseIdx k := by
  obtain ⟨j, there⟩ := List.mem_iff_getElem?.1 mem
  by_cases same : j = k
  · exact Or.inl (same ▸ there)
  · exact Or.inr (List.mem_eraseIdx_iff_getElem?.2 ⟨j, same, there⟩)

/-- A request is under way until it arrives or is lost. -/
theorem System.step_request {post : Post} (h : System.step maxSubs s act = some s')
    (mem : .request i post ∈ s.net) :
    .request i post ∈ s'.net ∨
      ∃ k, s.net[k]? = some (.request i post) ∧
        (act = .lost k ∨ ∃ handling, act = .arrive k handling) := by
  cases act with
  | settle j k outcome =>
      rw [System.step, System.settle] at h
      obtain ⟨other, -, h⟩ := Option.bind_eq_some_iff.1 h
      obtain ⟨w, -, h⟩ := Option.bind_eq_some_iff.1 h
      obtain ⟨⟨b', page', posts⟩, -, ⟨⟩⟩ := Option.bind_eq_some_iff.1 h
      exact Or.inl (List.mem_append_left _ mem)
  | arrive k handling =>
      rcases mem_eraseIdx_or mem k with here | stays
      · exact Or.inr ⟨k, here, Or.inr ⟨handling, rfl⟩⟩
      · rw [System.step, System.arrive] at h
        split at h
        · obtain ⟨rows, -, rfl⟩ := Option.map_eq_some_iff.1 h
          exact Or.inl (List.mem_append_left _ stays)
        · exact (nomatch h)
  | answered k =>
      rw [System.step] at h
      split at h
      next page here =>
        cases h
        have stays := (mem_eraseIdx_or mem k).resolve_left fun other => by
          rw [here] at other
          exact (nomatch other)
        unfold System.follow
        split
        · exact Or.inl stays
        · split <;> exact Or.inl stays
      · exact (nomatch h)
  | lost k =>
      obtain ⟨m, -, rfl⟩ := Option.map_eq_some_iff.1 h
      rcases mem_eraseIdx_or mem k with here | stays
      · exact Or.inr ⟨k, here, Or.inl rfl⟩
      · exact Or.inl stays
  | close j | polled j | click j | outside op =>
      obtain ⟨_, -, rfl⟩ := Option.map_eq_some_iff.1 h
      exact Or.inl mem
  | load | permission | expired | wiped =>
      cases h
      exact Or.inl mem

/-- What `registerSW` waits for before it sends the subscription. -/
def resyncing (t : Target) : List Waiting :=
  [.registering, .getSubscription .resync, .got .resync (some t)]

/-- The page is about to send the subscription to the server, or the request is under way. -/
inductive System.Resyncing (t : Target) (i : ℕ) (s : System) : Prop where
  | waits (page : Page) (w : Waiting) (there : s.page? i = some page) (mem : w ∈ page.waiting)
      (resyncs : w ∈ resyncing t)
  | sent (mem : .request i (.subscribe t false) ∈ s.net)

/-- The subscription is accepted and not evicted at once. -/
def Handling.Stores (t : Target) (rows : SubscriptionTable) : Handling → Prop
  | .accepted now keep =>
      ∀ row ∈ upsertRow rows t.endpoint t.p256dh t.auth now, targetOf row = t → keep row = true
  | .refused => False

/-- The page is not closed, `registerSW` not rejected, and what it sends is not lost. -/
def ComesThrough (t : Target) (i : ℕ) (s : System) : Act → Prop
  | .close j => j ≠ i
  | .settle j k outcome => j = i → ∀ page w, s.page? i = some page →
      page.waiting[k]? = some w → w ∈ resyncing t → outcome = .resolves
  | .lost k => s.net[k]? ≠ some (.request i (.subscribe t false))
  | .arrive k handling =>
      s.net[k]? = some (.request i (.subscribe t false)) → handling.Stores t s.rows
  | _ => True

/-- While the page brings the server to have it, the subscription is the browser's and its row is
spared. -/
structure Brings (t : Target) (i : ℕ) (s : System) (act : Act) : Prop where
  own : s.browser.sub = some t
  spares : Spares t s act
  through : ComesThrough t i s act

/-- The steps of `registerSW` follow each other. -/
theorem Resyncing.of_settle {w : Waiting} {posts : List Post} (own : b.sub = some t)
    (resyncs : w ∈ resyncing t) (settled : w.settle b page .resolves = some (b', page', posts)) :
    (∃ v ∈ page'.waiting, v ∈ resyncing t) ∨ .subscribe t false ∈ posts := by
  simp only [resyncing, List.mem_cons, List.not_mem_nil, or_false] at resyncs
  rcases resyncs with rfl | rfl | rfl
  · cases settled
    refine Or.inl ⟨.getSubscription .resync, Page.waiting_refreshPushUI _ _ ?_, by simp [resyncing]⟩
    exact List.mem_append_right _ (List.mem_singleton_self _)
  · cases settled
    refine Or.inl ⟨.got .resync b.sub, List.mem_append_right _ (List.mem_singleton_self _), ?_⟩
    simp [own, resyncing]
  · cases settled
    exact Or.inr (List.mem_singleton_self _)

theorem System.Resyncing.step (resyncing : s.Resyncing t i) (brings : Brings t i s act)
    (h : System.step maxSubs s act = some s') : s'.Resyncing t i ∨ HasRow t s'.rows := by
  obtain ⟨own, -, through⟩ := brings
  cases resyncing with
  | waits page w there mem resyncs =>
      cases System.step_page h there with
      | waits page' there' waiting => exact Or.inl (.waits page' w there' (waiting mem) resyncs)
      | @settles k outcome v b' page' posts here settled there' net =>
          refine Or.inl ?_
          rcases mem_eraseIdx_or mem k with this | other
          · rw [this] at here
            cases here
            have resolves : outcome = .resolves := through rfl page w there this resyncs
            subst resolves
            rcases Resyncing.of_settle own resyncs settled with ⟨u, waits, next⟩ | sent
            · exact .waits page' u there' waits next
            · refine .sent ?_
              rw [net]
              exact List.mem_append_right _ (List.mem_map_of_mem sent)
          · exact .waits page' w there' (Waiting.waiting_settle settled other) resyncs
      | closes => exact absurd rfl through
  | sent mem =>
      rcases System.step_request h mem with stays | ⟨k, here, rfl | ⟨handling, rfl⟩⟩
      · exact Or.inl (.sent stays)
      · exact absurd here through
      · refine Or.inr ?_
        have stores := through here
        rw [System.step, System.arrive, here] at h
        obtain ⟨rows, handled, rfl⟩ := Option.map_eq_some_iff.1 h
        cases handling with
        | refused => exact stores.elim
        | accepted now keep =>
            obtain ⟨-, rfl⟩ := enabled_eq_some.mp handled
            obtain ⟨row, added, same⟩ := hasRow_upsertRow t s.rows now
            exact ⟨row, List.mem_filter.2 ⟨added, stores row added same⟩, same⟩

structure System.Brought (t : Target) (i : ℕ) (s : System) : Prop where
  sound : s.Sound
  brought : s.Resyncing t i ∨ HasRow t s.rows

theorem System.Brought.step (brought : s.Brought t i) (brings : Brings t i s act)
    (h : System.step maxSubs s act = some s') : s'.Brought t i := by
  refine ⟨brought.sound.moved (System.step_moved h), ?_⟩
  rcases brought.brought with resyncing | has
  · exact resyncing.step brings h
  · exact Or.inr (has.step brought.sound brings.own brings.spares h)

/-- A page that is loaded has brought the server to have the browser's subscription when its
`registerSW` has come to its end. -/
theorem hasRow_of_loaded (sound : s.Sound)
    (brings : Meets (System.step maxSubs) (Brings t s.pages.length) s (.load true :: after))
    (ran : run (System.step maxSubs) s (.load true :: after) = some s')
    (done : ¬ s'.Resyncing t s.pages.length) : HasRow t s'.rows := by
  obtain ⟨loaded, first, later⟩ := run_cons_eq_some.1 ran
  have waits : loaded.Resyncing t s.pages.length := by
    cases first
    refine .waits { pushSupported := true, waiting := [.registering] } .registering ?_
      (List.mem_singleton_self _) (by simp [resyncing])
    rw [System.page?, List.getElem?_concat_length]
    rfl
  have kept : s'.Brought t s.pages.length :=
    run_invariant_of_meets (fun _ _ _ brought brings h => System.Brought.step brought brings h)
      ⟨sound.moved (System.step_moved first), Or.inl waits⟩ (brings.tail first) later
  exact kept.brought.resolve_left done

/-- In every state that is reached no request to remove the browser's subscription is under way; a
page that is loaded brings the server to have it, in whatever order its steps and all others come;
the server keeps it as long as it is the browser's and its row is spared; and an endpoint that was
given up and is forgotten stays away. -/
theorem agreed_of_run {rows : SubscriptionTable} {acts : List Act}
    (ran : run (System.step maxSubs) (System.start rows) acts = some s) :
    (∀ i endpoint t, .request i (.unsubscribe endpoint) ∈ s.net → s.browser.sub = some t →
        t.endpoint ≠ endpoint) ∧
      (∀ t after s',
        Meets (System.step maxSubs) (Brings t s.pages.length) s (.load true :: after) →
        run (System.step maxSubs) s (.load true :: after) = some s' →
        ¬ s'.Resyncing t s.pages.length → HasRow t s'.rows) ∧
      (∀ t after s', s.browser.sub = some t → HasRow t s.rows →
        Meets (System.step maxSubs) (Spares t) s after →
        run (System.step maxSubs) s after = some s' → s'.browser.sub = some t → HasRow t s'.rows) ∧
      ∀ t after s', t ∈ s.browser.issued → s.Forgotten t.endpoint →
      ¬ HasEndpoint t.endpoint s.rows →
        Meets (System.step maxSubs) (fun _ => NotAdded t.endpoint) s after →
        run (System.step maxSubs) s after = some s' → ¬ HasEndpoint t.endpoint s'.rows := by
  have sound := System.sound_of_run ran
  refine ⟨fun i endpoint t mem own same => ?_, fun t after s' => hasRow_of_loaded sound,
    fun t after s' own has => hasRow_of_run sound has (sound.sub t own),
    fun t after s' made forgotten absent => absent_of_run sound forgotten absent made⟩
  obtain ⟨old, made, endpoint_eq, other⟩ := sound.removes endpoint (.of_request mem rfl)
  rw [sound.eq_of_endpoint made (sound.sub t own) (endpoint_eq.trans same.symm)] at other
  exact other own

/-- Notifications are turned on, off and on again; the server has not been told to forget the first
subscription when there is a second. -/
def turnedOnAgain : List Act :=
  [.load true, .settle 0 0 .resolves, .settle 0 0 .resolves, .settle 0 0 .resolves,
    .polled 0 true true, .settle 0 0 .resolves, .settle 0 0 .resolves,
    .click 0, .settle 0 0 (.answers .granted), .settle 0 0 (.subscribes ⟨['a'], ['k'], ['s']⟩),
    .settle 0 0 .resolves, .arrive 0 (.accepted 1 fun _ => true), .answered 0,
    .settle 0 0 .resolves, .settle 0 0 .resolves,
    .click 0, .settle 0 0 .resolves, .settle 0 0 .resolves, .settle 0 0 .resolves,
    .settle 0 0 .resolves, .polled 0 true true, .settle 0 0 .resolves, .settle 0 0 .resolves,
    .click 0, .settle 0 0 (.answers .granted), .settle 0 0 (.subscribes ⟨['b'], ['l'], ['t']⟩)]

/-- The state that they lead to. -/
def onAgain : System where
  browser :=
    { permission := .granted
      sub := some ⟨['b'], ['l'], ['t']⟩
      issued := [⟨['a'], ['k'], ['s']⟩, ⟨['b'], ['l'], ['t']⟩] }
  pages := [some
    { pushSupported := true
      swReg := true
      supported := true
      vapidKey := true
      waiting := [.subscribed ⟨['b'], ['l'], ['t']⟩] }]
  net := [.request 0 (.unsubscribe ['a'])]
  rows := [⟨['a'], ['k'], ['s'], 1⟩]

/-- A second page is loaded, its service worker registered, and the subscription sent. -/
def resync : List Act :=
  [.load true, .settle 1 0 .resolves, .settle 1 0 .resolves, .settle 1 0 .resolves,
    .arrive 1 (.accepted 2 fun _ => true)]

theorem turnedOnAgain_agrees :
    run (System.step 2) (System.start []) turnedOnAgain = some onAgain ∧
      ∃ s', run (System.step 2) onAgain resync = some s' ∧
        HasRow ⟨['b'], ['l'], ['t']⟩ s'.rows := by
  have ran : run (System.step 2) (System.start []) turnedOnAgain = some onAgain := by decide
  have brings : Meets (System.step 2) (Brings ⟨['b'], ['l'], ['t']⟩ 1) onAgain resync := by
    have resolves : ∀ s : System, ComesThrough ⟨['b'], ['l'], ['t']⟩ 1 s (.settle 1 0 .resolves) :=
      fun _ _ _ _ _ _ _ => rfl
    refine And.intro ⟨rfl, trivial, trivial⟩ (And.intro ⟨rfl, trivial, resolves _⟩
      (And.intro ⟨rfl, trivial, resolves _⟩ (And.intro ⟨rfl, trivial, resolves _⟩
        (And.intro ⟨rfl, fun _ _ _ => rfl, fun _ _ _ _ => rfl⟩ trivial))))
  obtain ⟨s', resynced, done⟩ : ∃ s', run (System.step 2) onAgain resync = some s' ∧
      s'.page? 1 = some { pushSupported := true, swReg := true } ∧
        .request 1 (.subscribe ⟨['b'], ['l'], ['t']⟩ false) ∉ s'.net := ⟨_, rfl, rfl, by decide⟩
  refine ⟨ran, s', resynced, (agreed_of_run ran).2.1 _ _ s' brings resynced ?_⟩
  rintro (⟨page, w, there, mem, -⟩ | mem)
  · cases done.1.symm.trans there
    exact absurd mem List.not_mem_nil
  · exact done.2 mem

end GeneratorPi.PushToggle
