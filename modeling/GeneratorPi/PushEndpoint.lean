import GeneratorPi.Lib.IpAddress
import GeneratorPi.Lib.PyJson

/-!
# Where a push subscription may point

`_push_endpoint_error` (`genpi/routes/push.py`).  `urlparse`, `getaddrinfo` and the release of
Python are given; an address is what `ipaddress` reads.

The check refuses what `is_private`, `is_loopback`, `is_link_local` or `is_reserved` holds of.  The
unspecified addresses are private ones.  The shared addresses 100.64.0.0/10 and the multicast
addresses of both families are in none of the four ranges, and an endpoint that names only such
addresses is always accepted, but for IPv4-mapped ones before Python 3.13, which are all reserved
(`pushEndpointError_of_uncaught`).
-/

namespace GeneratorPi

open IpAddress PyJson PyText

/-- The parts of `urlparse`'s result that are read. -/
structure Url where
  scheme : Text
  hostname : Option Text

/-- The libraries a subscription is checked with. -/
structure EndpointLookup where
  release : Release
  urlparse : Text → Except PyError Url
  /-- The addresses of a host; `none` is an `OSError`. -/
  getaddrinfo : Text → Option (List Text)

/-- The test on a literal, and on each address of a host. -/
def notRoutable (release : Release) (ip : IpAddress.Address) : Bool :=
  release.isPrivate ip || release.isLoopback ip || release.isLinkLocal ip || release.isReserved ip

/-- The loop over the addresses of a host. -/
def resolvedError (release : Release) : List Text → Option String
  | [] => none
  | addr :: infos =>
      match ipAddress? addr with
      | none => some "endpoint host resolved to an invalid address"
      | some rip =>
          if notRoutable release rip then some "endpoint host resolves to a non-routable address"
          else resolvedError release infos

/-- The part of `_push_endpoint_error` behind `urlparse`. -/
def hostError (lookup : EndpointLookup) (parsed : Url) : Option String :=
  if parsed.scheme ≠ "https".toList then some "endpoint must be an https:// URL"
  else
    match parsed.hostname with
    | none | some [] => some "endpoint has no host"
    | some host =>
        match ipAddress? host with
        | some ip =>
            if notRoutable lookup.release ip then
              some "endpoint host is not a routable public address"
            else none
        | none =>
            match lookup.getaddrinfo host with
            | none | some [] => some "endpoint host could not be resolved"
            | some infos => resolvedError lookup.release infos

/-- `_push_endpoint_error`. -/
def pushEndpointError (lookup : EndpointLookup) (endpoint : Json) :
    Except PyError (Option String) :=
  match endpoint with
  | .str s =>
      if s.isEmpty then .ok (some "missing endpoint or keys")
      else (lookup.urlparse s).map (hostError lookup)
  | _ => .ok (some "missing endpoint or keys")

/-! ## What is asked of it -/

/-- Globally routable unicast, an IPv4-mapped address by the IPv4 address in it. -/
structure Routable (release : Release) (ip : IpAddress.Address) : Prop where
  not_private : (privateRange release).contains ip = false
  not_loopback : loopbackRange.contains ip = false
  not_linkLocal : linkLocalRange.contains ip = false
  not_shared : sharedRange.contains ip = false
  not_multicast : multicastRange.contains ip = false
  not_reserved : reservedRange.contains ip = false
  not_unspecified : unspecifiedRange.contains ip = false

/-- What a host stands for: its own address, or those it resolves to. -/
def hostAddresses (lookup : EndpointLookup) (host : Text) : List (Option IpAddress.Address) :=
  match ipAddress? host with
  | some ip => [some ip]
  | none => ((lookup.getaddrinfo host).getD []).map ipAddress?

/-- An endpoint that is accepted is an https one, every address of which is routable. -/
def EndpointSafe (lookup : EndpointLookup) (endpoint : Text) : Prop :=
  pushEndpointError lookup (.str endpoint) = .ok none →
    ∃ parsed host, lookup.urlparse endpoint = .ok parsed ∧ parsed.scheme = "https".toList ∧
      parsed.hostname = some host ∧
      ∀ a ∈ hostAddresses lookup host, ∃ ip, a = some ip ∧ Routable lookup.release ip

/-- In none of the ranges that are tested, and not routable. -/
def uncaught (ip : IpAddress.Address) : Bool :=
  sharedRange.contains ip || multicastRange.contains ip

/-- The endpoint is refused for its scheme or its host, names some address that is none or is tested
for, or names no shared and no multicast address. -/
def EndpointHolds (lookup : EndpointLookup) (endpoint : Text) : Prop :=
  ∀ parsed host, endpoint ≠ [] → lookup.urlparse endpoint = .ok parsed →
    parsed.scheme = "https".toList → parsed.hostname = some host → host ≠ [] →
    (∃ a ∈ hostAddresses lookup host, ∀ ip ∈ a, notRoutable lookup.release ip = true) ∨
      ∀ a ∈ hostAddresses lookup host, ∀ ip ∈ a, uncaught ip = false

/-! ## The ranges -/

variable {release : Release} {ip : IpAddress.Address} {lookup : EndpointLookup}
  {endpoint host : Text} {parsed : Url}

theorem Routable.uncaught_eq_false (routable : Routable release ip) : uncaught ip = false := by
  rw [uncaught, routable.not_shared, routable.not_multicast, Bool.or_self]

/-- Every range but the shared and the multicast addresses is tested for, in every release. -/
theorem routable_of_tested (passed : notRoutable release ip = false)
    (caught : uncaught ip = false) :
    Routable release ip := by
  simp only [notRoutable, uncaught, Bool.or_eq_false_iff] at passed caught
  obtain ⟨⟨⟨not_private, not_loopback⟩, not_linkLocal⟩, not_reserved⟩ := passed
  have seen : release.view ip = ip.unmapped :=
    (release.view_eq_or_reserved ip).resolve_right fun h => by
    rw [not_reserved] at h
    cases h
  rw [Release.isLoopback, seen] at not_loopback
  rw [Release.isLinkLocal, seen] at not_linkLocal
  rw [Release.isReserved, seen] at not_reserved
  have within : ∀ documentation, unspecifiedRange.within (privateRange ⟨false, documentation⟩) =
      true :=
    by decide
  refine ⟨not_private, not_loopback, not_linkLocal, caught.1, caught.2, not_reserved,
    Bool.eq_false_iff.mpr fun unspecified => ?_⟩
  have is_private : release.isPrivate ip = true :=
    Range.holds_of_within (within release.documentation) unspecified
  rw [not_private] at is_private
  cases is_private

/-- No address of the two ranges is refused, where the tests see it as one of them. -/
theorem notRoutable_of_uncaught (h : uncaught ip = true) (seen : release.view ip = ip.unmapped) :
    notRoutable release ip = false := by
  have apart : ∀ documentation,
      ∀ r ∈ [privateRange ⟨false, documentation⟩, loopbackRange, linkLocalRange, reservedRange],
        sharedRange.apart r = true ∧ multicastRange.apart r = true := by decide
  have outside : ∀ r ∈ [privateRange release, loopbackRange, linkLocalRange, reservedRange],
      r.holds ip.unmapped = false := fun r listed => by
    rcases Bool.or_eq_true_iff.mp h with shared | multicast
    · exact Range.holds_of_apart (apart release.documentation r listed).1 shared
    · exact Range.holds_of_apart (apart release.documentation r listed).2 multicast
  simp only [List.forall_mem_cons] at outside
  obtain ⟨not_private, not_loopback, not_linkLocal, not_reserved, -⟩ := outside
  simp only [notRoutable, Release.isPrivate, Range.contains, Release.isLoopback,
    Release.isLinkLocal, Release.isReserved, seen, not_private, not_loopback, not_linkLocal,
    not_reserved, Bool.or_self]

/-! ## What is accepted -/

theorem resolvedError_eq_none {infos : List Text} :
    resolvedError release infos = none ↔ ∀ info ∈ infos, ∃ ip, ipAddress? info = some ip ∧
      notRoutable release ip = false := by
  induction infos with
  | nil => simp [resolvedError]
  | cons info infos ih =>
      rw [resolvedError, List.forall_mem_cons, ← ih]
      cases ipAddress? info with
      | none => simp
      | some ip => cases h : notRoutable release ip <;> simp [h]

/-- Accepted is what has some address, each of which is one that no test refuses. -/
theorem hostError_eq_none :
    hostError lookup parsed = none ↔ parsed.scheme = "https".toList ∧
      ∃ host, parsed.hostname = some host ∧ host ≠ [] ∧ hostAddresses lookup host ≠ [] ∧
        ∀ a ∈ hostAddresses lookup host,
          ∃ ip, a = some ip ∧ notRoutable lookup.release ip = false := by
  rw [hostError]
  split
  case isTrue other => exact iff_of_false nofun fun accepted => other accepted.1
  case isFalse https =>
    rw [and_iff_right (not_not.mp https)]
    rcases view : parsed.hostname with _ | _ | ⟨c, host⟩
    · simp
    · simp
    · simp only [Option.some.injEq, exists_eq_left', ne_eq, reduceCtorEq, not_false_eq_true,
        true_and]
      rw [hostAddresses]
      cases literal : ipAddress? (c :: host) with
      | some ip => simp
      | none =>
          rcases answer : lookup.getaddrinfo (c :: host) with _ | _ | ⟨info, infos⟩
          · simp
          · simp
          · simp only [resolvedError_eq_none, Option.getD_some, List.map_cons, reduceCtorEq,
              not_false_eq_true, true_and, List.forall_mem_cons, List.forall_mem_map]

theorem pushEndpointError_eq_none :
    pushEndpointError lookup (.str endpoint) = .ok none ↔ endpoint ≠ [] ∧
      ∃ parsed, lookup.urlparse endpoint = .ok parsed ∧ hostError lookup parsed = none := by
  rw [pushEndpointError]
  cases endpoint with
  | nil => simp
  | cons c endpoint =>
      cases lookup.urlparse (c :: endpoint) with
      | error e => simp [Except.map]
      | ok parsed => simp [Except.map]

/-- An endpoint all of whose addresses are shared or multicast ones is accepted, if the tests see
them as such. -/
theorem pushEndpointError_of_uncaught (some_text : endpoint ≠ [])
    (parses : lookup.urlparse endpoint = .ok parsed) (https : parsed.scheme = "https".toList)
    (named : parsed.hostname = some host) (some_host : host ≠ [])
    (resolves : hostAddresses lookup host ≠ [])
    (inside : ∀ a ∈ hostAddresses lookup host, ∃ ip, a = some ip ∧ uncaught ip = true ∧
      lookup.release.view ip = ip.unmapped) :
    pushEndpointError lookup (.str endpoint) = .ok none := by
  refine pushEndpointError_eq_none.mpr ⟨some_text, parsed, parses, hostError_eq_none.mpr
    ⟨https, host, named, some_host, resolves, fun a mem => ?_⟩⟩
  obtain ⟨ip, eq, h, seen⟩ := inside a mem
  exact ⟨ip, eq, notRoutable_of_uncaught h seen⟩

/-- What the check accepts is safe exactly where `EndpointHolds`, whatever the URL and the answers
of the resolver. -/
theorem endpointSafe_iff (lookup : EndpointLookup) (endpoint : Text) :
    EndpointSafe lookup endpoint ↔ EndpointHolds lookup endpoint := by
  constructor
  · intro safe parsed host some_text parses https named some_host
    by_contra! refuses
    obtain ⟨tested, a, mem, ip, eq, h⟩ := refuses
    have accepted : pushEndpointError lookup (.str endpoint) = .ok none := by
      refine pushEndpointError_eq_none.mpr ⟨some_text, parsed, parses, hostError_eq_none.mpr
        ⟨https, host, named, some_host, List.ne_nil_of_mem mem, fun b mem_b => ?_⟩⟩
      obtain ⟨ip', eq', routable⟩ := tested b mem_b
      exact ⟨ip', eq', Bool.eq_false_iff.mpr routable⟩
    obtain ⟨parsed', host', parses', -, named', routable⟩ := safe accepted
    cases parses.symm.trans parses'
    cases named.symm.trans named'
    obtain ⟨ip', eq', routable⟩ := routable a mem
    cases (Option.mem_def.mp eq).symm.trans eq'
    exact h routable.uncaught_eq_false
  · intro holds accepted
    obtain ⟨some_text, parsed, parses, none_wrong⟩ := pushEndpointError_eq_none.mp accepted
    obtain ⟨https, host, named, some_host, -, passed⟩ := hostError_eq_none.mp none_wrong
    refine ⟨parsed, host, parses, https, named, fun a mem => ?_⟩
    obtain ⟨ip, eq, tested⟩ := passed a mem
    refine ⟨ip, eq, routable_of_tested tested ?_⟩
    rcases holds parsed host some_text parses https named some_host with ⟨b, mem_b, refused⟩ | free
    · obtain ⟨ip', eq', tested'⟩ := passed b mem_b
      rw [refused ip' eq'] at tested'
      cases tested'
    · exact free a mem ip eq

/-- A host that is its own address, as `urlparse` takes it from the URL, under Python 3.11. -/
def literalLookup (host : String) : EndpointLookup where
  release := ⟨false, false⟩
  urlparse _ := .ok ⟨"https".toList, some host.toList⟩
  getaddrinfo _ := none

/-- A multicast address is accepted. -/
theorem multicast_accepted :
    ¬ EndpointSafe (literalLookup "224.0.0.1") "https://224.0.0.1/push".toList := by
  intro safe
  have literal : ipAddress? "224.0.0.1".toList = some (.v4 (BitVec.ofNat 32 0xe0000001)) := by
    decide
  obtain ⟨parsed, host, parses, -, named, routable⟩ := safe (by decide)
  cases parses
  cases named
  obtain ⟨ip, eq, routable⟩ := routable _ (by rw [hostAddresses, literal]; exact List.mem_cons_self)
  cases eq
  exact absurd routable.not_multicast (by decide)

end GeneratorPi
