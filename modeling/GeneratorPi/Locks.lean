import GeneratorPi.Lib.LockOrder

/-!
# The locks of the controller

Every function that takes a lock, or calls one that does, as the code of a thread: its `with`
statements, the relay's `acquire` and `release`, the calls of other functions, and the places where
it may leave by a `return` or an exception.  What it computes in between is a `call`, which may
raise; a condition may go either way.  The functions keep the order relay, state, events; the locks
of the updater, the failure tracker, the cache of verified passwords and the samples stand alone.

* `no_deadlock`: no configuration of any run of the threads has a cycle of waiting threads, nor a
  thread that waits for a lock it holds.
* `some_thread_moves`: nor do all of them stand still.
-/

namespace GeneratorPi.Locks

open LockOrder

inductive Lock
  | relay
  | state
  | event
  | update
  | failTracker
  | authCache
  | sysHist
  deriving DecidableEq

/-- A lock is waited for only with locks of lower rank held. -/
def Lock.rank : Lock → ℕ
  | .relay => 0
  | .state => 1
  | .event => 2
  | .update | .failTracker | .authCache | .sysHist => 0

theorem Lock.rank_le (l : Lock) : l.rank ≤ 2 := by cases l <;> decide

/-! ## The store -/

/-- The functions of the store: `before` and `after` outside the lock and `inside` within it, which
is left where there is no connection; and no exception gets out. -/
def guardedOp (before inside after : List (Cmd Lock)) : Cmd Lock :=
  fn [tryExcept
    (before ++ [withLock .event (ifThen [.call, .ret] :: inside)] ++ after)
    [.call]]

def recordEvent : Cmd Lock := guardedOp [.call, ifThen [.call]] [.call, .call, .call] []

def getEvents : Cmd Lock :=
  guardedOp [] [ifElse [.call] [ifThen [.call]], .call, .call] [.call, .ret]

def getLatestSeq : Cmd Lock := guardedOp [] [.call] [.ret]

def kvGet : Cmd Lock := guardedOp [] [.call] [ifThen [.ret], .call, .ret]

def kvSet : Cmd Lock := guardedOp [.call] [.call, .call] []

def addSubscription : Cmd Lock := guardedOp [] [.call, .call, .call, .call] []

def removeSubscription : Cmd Lock := guardedOp [] [.call, .call] []

def getSubscriptions : Cmd Lock := guardedOp [] [.call] [.call, .ret]

def subscriptionCount : Cmd Lock := guardedOp [] [.call] [.ret]

def recordRoutineHttp : Cmd Lock := fn [ifThen [kvGet], .ret]

def setRecordRoutineHttp : Cmd Lock := fn [.call, kvSet, .ret]

def initEventStore : Cmd Lock :=
  fn [
    ifThen [.call],
    withLock .event [ifThen [tryExcept [.call] [], .call], .call, .call, .call, .call,
      .call, .call],
    .call,
    recordEvent]

def sendPush : Cmd Lock :=
  fn [
    ifThen [.ret],
    getSubscriptions,
    ifThen [.ret],
    .call,
    tryExcept [.call] [.call, .ret],
    repeated [tryExcept
      [.call, ifElse [.call, removeSubscription] [ifThen [.call]]]
      [.call]]]

/-- It starts a thread, that of `sendPush`. -/
def sendPushAsync : Cmd Lock := fn [ifThen [.ret], .call]

/-! ## State and fuel -/

def loadPersistedState : Cmd Lock :=
  fn [
    withLock .state [
      kvGet,
      tryExcept [.call] [.call],
      kvGet,
      ifThen [.call],
      kvGet,
      ifThen [.call]],
    .call]

/-- Its caller holds the lock of the state. -/
def applyRunningTransitionLocked : Cmd Lock :=
  fn [.call, ifElse [.call] [ifThen [.call, kvSet]], .call]

def setTotalRunHours : Cmd Lock :=
  fn [.call, withLock .state [.call, ifThen [.call], .call, kvSet, kvSet], .ret]

def evaluateLowFuel : Cmd Lock :=
  fn [
    withLock .state [
      ifThen [.ret],
      ifThen [.call, .ret],
      .call,
      ifElse [.call] [ifElse [.call, .ret] [.ret]]],
    ifThen [recordEvent, sendPushAsync, .ret],
    .ret]

def recordFuelReading : Cmd Lock :=
  fn [.call, withLock .state [.call, ifThen [.ret], .call, kvSet], .ret]

def setFuelRate : Cmd Lock := fn [.call, withLock .state [.call, kvSet], .ret]

def resetFuelRate : Cmd Lock := fn [withLock .state [.call, kvSet], .ret]

def setFuelFill : Cmd Lock := fn [.call, withLock .state [.call, kvSet], .ret]

def setAlerts : Cmd Lock :=
  fn [withLock .state [ifThen [.call], ifThen [.call], ifThen [.call], .call, kvSet], .ret]

/-! ## The relay -/

def pressButton : Cmd Lock := fn [.call, .call]

def startGenerator : Cmd Lock :=
  fn [ifAcquired .relay
    [
      -- The rejection is recorded with the lock of the state held.
      withLock .state [ifThen [recordEvent, .ret], .call],
      .call,
      recordEvent,
      repeated [
        withLock .state [.call],
        .call,
        pressButton,
        .call,
        pressButton,
        withLock .state [.call],
        .call,
        ifThen [.call]],
      withLock .state [applyRunningTransitionLocked, .call],
      .call,
      recordEvent,
      sendPushAsync,
      .ret]
    [.call, recordEvent, .ret]]

def stopGenerator : Cmd Lock :=
  fn [ifAcquired .relay
    [
      .call,
      pressButton,
      withLock .state [.call, applyRunningTransitionLocked, .call],
      recordEvent,
      sendPushAsync,
      .call,
      .ret]
    [.call, .ret]]

/-! ## Authentication -/

def checkAuth : Cmd Lock :=
  fn [
    .call,
    withLock .authCache [.call, ifThen [.ret]],
    .call,
    ifThen [withLock .authCache [ifThen [.call], .call]],
    .ret]

def isRateLimited : Cmd Lock :=
  fn [withLock .failTracker [.call, ifThen [.ret], .call, ifThen [.call, .ret], .ret]]

def recordFailure : Cmd Lock :=
  fn [withLock .failTracker [.call, ifThen [.call], .call, ifThen [.call, .ret], .call, .ret]]

def recordSuccess : Cmd Lock := fn [withLock .failTracker [ifThen [.call]]]

def authRequired (f : Cmd Lock) : Cmd Lock :=
  fn [
    .call,
    isRateLimited,
    ifThen [.call, .ret],
    .call,
    ifThen [recordSuccess, .call, f, .ret],
    .call,
    -- `not auth or not check_auth(…)`
    ifElse
      [.call, recordFailure, .call, .ret]
      [checkAuth, ifThen [.call, recordFailure, .call, .ret]],
    recordSuccess,
    .call,
    f,
    .ret]

/-! ## The updater -/

def runUpdateCheck : Cmd Lock := fn [.call, withLock .update [.call], .ret]

def updateLog : Cmd Lock := fn [withLock .update [.call]]

def updateLogAppend : Cmd Lock := fn [withLock .update [ifElse [.call] [.call]]]

def updateSev : Cmd Lock := fn [updateLog]

def updateWarn : Cmd Lock := fn [updateLog, withLock .update [.call]]

def updateErr : Cmd Lock := fn [updateLog, withLock .update [.call]]

def stageSummary : Cmd Lock :=
  fn [withLock .update [.call], ifThen [updateLog], ifThen [updateLog]]

/-- The decision is waited for outside the lock. -/
def awaitDecision : Cmd Lock :=
  fn [withLock .update [.call], .call, withLock .update [.call, ifThen [.call], .call], updateLog,
    .ret]

def updatePhase : Cmd Lock := fn [withLock .update [.call]]

def downloadAndVerify : Cmd Lock :=
  fn [
    .call,
    repeated [.call, updatePhase, .call, updateLog],
    updateLog,
    updatePhase,
    repeated [.call, updateLog],
    .call,
    ifThen [updateLog],
    .ret]

def preflightCheck : Cmd Lock :=
  fn [
    .call,
    updateLog,
    .call,
    updateLog,
    .call,
    updateLog,
    .call,
    updateLog,
    .call,
    ifThen [updateLog]]

def swap : Cmd Lock := fn [repeated [.call, updateLog]]

/-- `_run_update` up to the go-ahead. -/
def stageOne : List (Cmd Lock) :=
  [
    updateLog,
    updateLog,
    updatePhase,
    .call,
    updateLogAppend,
    updateLog,
    updateLog,
    .call,
    updateLog,
    .call,
    updateLog,
    withLock .update [.call],
    .call,
    withLock .update [.call],
    -- A version in between has to be installed by hand.
    ifThen [updateLog, updateSev, updateSev, updatePhase, awaitDecision, updateLog, updatePhase,
      .ret],
    .call,
    updateLog,
    ifThen [updateLog],
    updateLog,
    updateLog,
    updateLog,
    updatePhase,
    preflightCheck,
    updateLog,
    updatePhase,
    .call,
    withLock .update [.call],
    ifElse
      [updateLog]
      [repeated [.call, ifElse [updateErr] [updateWarn]], updateSev, updateSev],
    updateLog,
    updatePhase,
    downloadAndVerify,
    updateLog,
    updatePhase,
    .call,
    updateLogAppend,
    updateLog,
    updateLog,
    updateLogAppend,
    updateLog,
    stageSummary,
    updatePhase,
    awaitDecision,
    ifThen [tryExcept [.call] [], updateLog, updatePhase, .ret]]

/-- And from there on: handed to the service, or within the process. -/
def stageTwo : List (Cmd Lock) :=
  [
    updateLog,
    withLock .update [.call],
    .call,
    ifElse
      [
        withLock .update [.call],
        updateLog,
        updatePhase,
        withLock .update [.call],
        tryExcept [.call] [],
        .call]
      [
        withLock .update [.call],
        updatePhase,
        updateLog,
        updateLog,
        swap,
        updateLog,
        repeated [.call, updateLog],
        stageSummary,
        updateLog,
        updateLog,
        withLock .update [.call],
        .call,
        updatePhase,
        .call]]

def runUpdate : Cmd Lock :=
  fn [
    .call,
    withLock .update [.call],
    tryExcept (stageOne ++ stageTwo)
      [
        .call,
        updateLog,
        awaitDecision,
        ifThen [updateLog, .call],
        tryExcept [.call] [],
        ifThen [updateLog],
        updateLog,
        updatePhase]]

/-! ## The endpoints -/

def index : Cmd Lock := fn [withLock .state [.call], recordRoutineHttp, .call, .ret]

/-- The thread it starts is that of `startGenerator`; of the relay's lock it asks only whether it is
taken. -/
def apiStart : Cmd Lock := fn [.call, ifThen [.call, recordEvent, .ret], .call, .ret]

def apiStop : Cmd Lock := fn [.call, stopGenerator, .ret]

def apiStatus : Cmd Lock := fn [withLock .state [.call], .ret]

def apiSetRunning : Cmd Lock :=
  fn [
    .call,
    withLock .state [applyRunningTransitionLocked, .call],
    recordEvent,
    sendPushAsync,
    .call,
    .ret]

def apiRuntimeHours : Cmd Lock :=
  fn [.call, ifThen [.ret], setTotalRunHours, recordEvent, .call, .ret]

def apiEvents : Cmd Lock := fn [.call, getEvents, getLatestSeq, .ret]

def apiState : Cmd Lock :=
  fn [withLock .state [.call], .call, withLock .sysHist [.call], .call, subscriptionCount, .ret]

def apiSystemHistory : Cmd Lock := fn [withLock .sysHist [.call], .call, .ret]

def apiSetRecordHttp : Cmd Lock := fn [.call, setRecordRoutineHttp, .call, .ret]

def apiRestart : Cmd Lock := fn [.call, recordEvent, .call, .ret]

/-- The lock of the events is given back before that of the state is taken. -/
def factoryReset : Cmd Lock :=
  fn [
    withLock .event [ifThen [.call, .call, .call, .call]],
    withLock .state [.call],
    .call]

def apiFactoryReset : Cmd Lock := fn [.call, factoryReset, recordEvent, .ret]

/-- The endpoints of the fuel model: the body, the change, and its record. -/
def fuelEndpoint (change : Cmd Lock) : Cmd Lock :=
  fn [.call, ifThen [.ret], change, .call, recordEvent, .call, .ret]

def apiFuelReading : Cmd Lock := fuelEndpoint recordFuelReading

def apiFuelRate : Cmd Lock := fuelEndpoint setFuelRate

def apiFuelRateReset : Cmd Lock := fn [resetFuelRate, recordEvent, .call, .ret]

def apiFuelFill : Cmd Lock := fuelEndpoint setFuelFill

def apiAlerts : Cmd Lock := fn [.call, ifThen [.call, ifThen [.ret]], setAlerts, .call, .ret]

def apiPushSubscribe : Cmd Lock :=
  fn [.call, ifThen [.ret], addSubscription, .call, subscriptionCount, .ret]

def apiPushUnsubscribe : Cmd Lock :=
  fn [.call, ifThen [.ret], removeSubscription, subscriptionCount, .ret]

def apiPushTest : Cmd Lock :=
  fn [ifThen [.ret], subscriptionCount, ifThen [.ret], sendPushAsync, recordEvent, .call, .ret]

def apiClientNotifyStatus : Cmd Lock :=
  fn [.call, ifThen [.ret], getEvents, ifThen [.ret], recordEvent, .call, .ret]

def apiCheckUpdate : Cmd Lock :=
  fn [
    ifThen [runUpdateCheck, .ret],
    withLock .update [.call],
    ifThen [runUpdateCheck, .ret],
    .ret]

def apiUpdateStatus : Cmd Lock := fn [withLock .update [.call, .ret]]

/-- The thread it starts is that of `runUpdate`. -/
def apiUpdateStart : Cmd Lock :=
  fn [withLock .update [ifThen [.call, .ret], .call], .call, .ret]

def apiUpdateDecide : Cmd Lock :=
  fn [
    .call,
    ifThen [.ret],
    withLock .update [ifThen [.call, .ret], ifThen [.call], .call],
    .call,
    .ret]

/-- An endpoint that takes no lock. -/
def lockless : Cmd Lock := fn [.call, .ret]

/-- A request: the guard against other origins, the endpoint, an error of which is turned into a
response, and the access line. -/
def request (endpoint : Cmd Lock) : Cmd Lock :=
  fn [
    .call,
    ifThen [tryExcept [authRequired endpoint] [.call]],
    ifThen [.call, ifThen [recordRoutineHttp], .call]]

/-! ## The threads -/

def fuelMonitorLoop : Cmd Lock := fn [.call, repeated [.call, tryExcept [evaluateLowFuel] [.call]]]

def sampleSystem : Cmd Lock := fn [.call, withLock .sysHist [.call]]

def systemMonitorLoop : Cmd Lock := fn [.call, repeated [.call, tryExcept [sampleSystem] [.call]]]

def updateCheckLoop : Cmd Lock :=
  fn [
    ifThen [.ret],
    repeated [runUpdateCheck, ifThen [.call, recordEvent, sendPushAsync], ifThen [.ret]]]

/-- The functions that take locks, for a thread that calls one of them. -/
def operations : List (Cmd Lock) :=
  [startGenerator, stopGenerator, setTotalRunHours, recordFuelReading, setFuelRate, resetFuelRate,
    setFuelFill, setAlerts, evaluateLowFuel, factoryReset, recordEvent, getEvents, getLatestSeq,
    kvGet, kvSet, addSubscription, removeSubscription, getSubscriptions, subscriptionCount,
    recordRoutineHttp, setRecordRoutineHttp, initEventStore, loadPersistedState, checkAuth,
    isRateLimited, recordFailure, recordSuccess, runUpdateCheck, sampleSystem]

def endpoints : List (Cmd Lock) :=
  [index, apiStart, apiStop, apiStatus, apiSetRunning, apiRuntimeHours, apiEvents, apiState,
    apiSystemHistory, apiSetRecordHttp, apiRestart, apiFactoryReset, apiFuelReading, apiFuelRate,
    apiFuelRateReset, apiFuelFill, apiAlerts, apiPushSubscribe, apiPushUnsubscribe, apiPushTest,
    apiClientNotifyStatus, apiCheckUpdate, apiUpdateStatus, apiUpdateStart, apiUpdateDecide,
    lockless]

/-- What the threads of the process run. -/
def programs : List (Cmd Lock) :=
  operations ++ endpoints.map request ++
    [sendPush, runUpdate, fuelMonitorLoop, systemMonitorLoop, updateCheckLoop]

theorem programs_ordered : ∀ p ∈ programs, p.ordered Lock.rank [] := by decide

example : (fn [withLock .event [setFuelRate]]).ordered Lock.rank [] = false := by decide

variable {ι : Type} [DecidableEq ι] {c : Config ι Lock} {t : ι}

/-- Whatever the threads are and in whatever order they take their steps, those that wait for a lock
do not wait for each other in a cycle, and none waits for a lock it holds. -/
theorem no_deadlock (r : c.Reachable programs) :
    (∀ t, ¬ Relation.TransGen c.WaitsFor t t) ∧
      ∀ t l, c.Blocked t l → l ∉ (c.threads t).held :=
  ⟨r.no_cycle programs_ordered, fun _ _ => r.not_held_of_blocked programs_ordered⟩

/-- One thread is within `resetFuelRate`, and a second one waits for the lock of the state. -/
theorem one_waits_for_another : ∃ c : Config Bool Lock, c.Reachable programs ∧
    c.WaitsFor true false ∧ (∀ t, ¬ Relation.TransGen c.WaitsFor t t) ∧
      ∀ t l, c.Blocked t l → l ∉ (c.threads t).held := by
  have mem : resetFuelRate ∈ programs := by
    simp [programs, operations]
  have start : (Config.idle : Config Bool Lock).Reachable programs := .refl
  have begun := start.tail (.begin (t := false) rfl mem)
  have entered := (begun.tail (.move (t := false) .function trivial)).tail
    (.move (t := false) .seq trivial)
  have within := entered.tail (.move (t := false) .locked rfl)
  have second := within.tail (.begin (t := true) rfl mem)
  have r := (second.tail (.move (t := true) .function trivial)).tail
    (.move (t := true) .seq trivial)
  exact ⟨_, r, ⟨.state, ⟨⟨_, _, rfl⟩, rfl⟩, List.mem_cons_self⟩, no_deadlock r⟩

/-- While a thread is not through with what it runs, some thread can go on. -/
theorem some_thread_moves (r : c.Reachable programs) (busy : (c.threads t).stack ≠ []) :
    ∃ u, c.Moves u :=
  r.someone_moves programs_ordered Lock.rank_le busy

end GeneratorPi.Locks
