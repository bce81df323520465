import Mathlib.Algebra.Ring.Nat
import GeneratorPi.Lib.PyText

/-!
# Internet addresses

Python's `ipaddress`: networks as prefixes of bit strings, the special ranges of the two families,
and the literals of an address.  Of an IPv4-mapped IPv6 address `is_private` is always that of the
IPv4 address in it; the other predicates are so from Python 3.13 on.  Before, they look at the
IPv6 address itself, and all the mapped ones are reserved (`Address.unmapped_eq_or_reserved`).
-/

namespace IpAddress

open PyText

/-! ## Networks -/

/-- The addresses that begin like `address`, in the first `length` bits. -/
structure Network (w : ℕ) where
  address : BitVec w
  length : ℕ

def Network.contains {w : ℕ} (net : Network w) (a : BitVec w) : Bool :=
  a >>> (w - net.length) == net.address >>> (w - net.length)

/-- A network lies wholly in one with a prefix as long or shorter, or wholly outside it. -/
theorem Network.contains_eq {w : ℕ} {net sub : Network w} {a : BitVec w}
    (longer : net.length ≤ sub.length) (mem : sub.contains a = true) :
    net.contains a = net.contains sub.address := by
  have split : w - net.length = (w - sub.length) + ((w - net.length) - (w - sub.length)) := by omega
  have same : a >>> (w - sub.length) = sub.address >>> (w - sub.length) := eq_of_beq mem
  rw [contains, contains, split, BitVec.shiftRight_add, BitVec.shiftRight_add sub.address, same]

/-- The IPv4 network `a.b.c.d/length`. -/
def net4 (a b c d length : ℕ) : Network 32 :=
  ⟨BitVec.ofNat 32 (((a * 256 + b) * 256 + c) * 256 + d), length⟩

/-- The IPv6 network of the first hextets, the others zero. -/
def net6 (hextets : List ℕ) (length : ℕ) : Network 128 :=
  ⟨BitVec.ofNat 128 ((hextets ++ List.replicate (8 - hextets.length) 0).foldl
    (fun n h => n * 65536 + h) 0), length⟩

/-! ## Addresses and their ranges -/

inductive Address where
  | v4 (ip : BitVec 32)
  | v6 (ip : BitVec 128)
  deriving DecidableEq

/-- `ipv4_mapped`, where there is one. -/
def Address.unmapped : Address → Address
  | .v4 ip => .v4 ip
  | .v6 ip => if ip >>> 32 = 0xffff then .v4 (ip.setWidth 32) else .v6 ip

/-- Networks of the two families, less those excepted. -/
structure Range where
  v4 : List (Network 32) := []
  v4Exceptions : List (Network 32) := []
  v6 : List (Network 128) := []
  v6Exceptions : List (Network 128) := []

/-- The address lies in the range as it is. -/
def Range.holds (range : Range) : Address → Bool
  | .v4 ip => range.v4.any (·.contains ip) && !range.v4Exceptions.any (·.contains ip)
  | .v6 ip => range.v6.any (·.contains ip) && !range.v6Exceptions.any (·.contains ip)

/-- The address lies in the range, an IPv4-mapped one by the IPv4 address in it. -/
def Range.contains (range : Range) (a : Address) : Bool := range.holds a.unmapped

/-- What the releases of Python differ in. -/
structure Release where
  /-- Every predicate takes an IPv4-mapped address by the IPv4 address in it (3.13). -/
  mapped : Bool
  /-- The prefix 3fff::/20 for documentation is private. -/
  documentation : Bool

/-- The address that the predicates other than `is_private` look at. -/
def Release.view (release : Release) (a : Address) : Address :=
  if release.mapped then a.unmapped else a

/-- What the registries of special addresses call not globally reachable, but for the shared
addresses. -/
def privateRange (release : Release) : Range where
  v4 := [net4 0 0 0 0 8, net4 10 0 0 0 8, net4 127 0 0 0 8, net4 169 254 0 0 16, net4 172 16 0 0 12,
    net4 192 0 0 0 24, net4 192 0 0 170 31, net4 192 0 2 0 24, net4 192 168 0 0 16,
    net4 198 18 0 0 15, net4 198 51 100 0 24, net4 203 0 113 0 24, net4 240 0 0 0 4,
    net4 255 255 255 255 32]
  v4Exceptions := [net4 192 0 0 9 32, net4 192 0 0 10 32]
  v6 := [net6 [0, 0, 0, 0, 0, 0, 0, 1] 128, net6 [] 128, net6 [0, 0, 0, 0, 0, 0xffff] 96,
    net6 [0x64, 0xff9b, 1] 48, net6 [0x100] 64, net6 [0x2001] 23, net6 [0x2001, 0xdb8] 32,
    net6 [0x2002] 16, net6 [0xfc00] 7, net6 [0xfe80] 10] ++
    if release.documentation then [net6 [0x3fff] 20] else []
  v6Exceptions := [net6 [0x2001, 1, 0, 0, 0, 0, 0, 1] 128, net6 [0x2001, 1, 0, 0, 0, 0, 0, 2] 128,
    net6 [0x2001, 3] 32, net6 [0x2001, 4, 0x112] 48, net6 [0x2001, 0x20] 28,
    net6 [0x2001, 0x30] 28]

def loopbackRange : Range where
  v4 := [net4 127 0 0 0 8]
  v6 := [net6 [0, 0, 0, 0, 0, 0, 0, 1] 128]

def linkLocalRange : Range where
  v4 := [net4 169 254 0 0 16]
  v6 := [net6 [0xfe80] 10]

def reservedRange : Range where
  v4 := [net4 240 0 0 0 4]
  v6 := [net6 [] 8, net6 [0x100] 8, net6 [0x200] 7, net6 [0x400] 6, net6 [0x800] 5, net6 [0x1000] 4,
    net6 [0x4000] 3, net6 [0x6000] 3, net6 [0x8000] 3, net6 [0xa000] 3, net6 [0xc000] 3,
    net6 [0xe000] 4, net6 [0xf000] 5, net6 [0xf800] 6, net6 [0xfe00] 9]

def multicastRange : Range where
  v4 := [net4 224 0 0 0 4]
  v6 := [net6 [0xff00] 8]

/-- Carrier-grade translation. -/
def sharedRange : Range where
  v4 := [net4 100 64 0 0 10]

def unspecifiedRange : Range where
  v4 := [net4 0 0 0 0 32]
  v6 := [net6 [] 128]

/-- `is_private` -/
def Release.isPrivate (release : Release) (a : Address) : Bool := (privateRange release).contains a

/-- `is_loopback` -/
def Release.isLoopback (release : Release) (a : Address) : Bool :=
  loopbackRange.holds (release.view a)

/-- `is_link_local` -/
def Release.isLinkLocal (release : Release) (a : Address) : Bool :=
  linkLocalRange.holds (release.view a)

/-- `is_reserved` -/
def Release.isReserved (release : Release) (a : Address) : Bool :=
  reservedRange.holds (release.view a)

/-! ### Ranges in and apart from each other -/

/-- Whether one network lies wholly in another, by their prefixes. -/
def Network.within {w : ℕ} (sub net : Network w) : Bool :=
  net.length ≤ sub.length && net.contains sub.address

/-- Whether one network lies wholly outside another, by their prefixes. -/
def Network.apart {w : ℕ} (net net' : Network w) : Bool :=
  (net.length ≤ net'.length && !net.contains net'.address) ||
    (net'.length ≤ net.length && !net'.contains net.address)

variable {w : ℕ} {net net' : Network w} {nets : List (Network w)} {ip : BitVec w}

theorem Network.contains_of_within (inside : net.within net' = true)
    (mem : net.contains ip = true) : net'.contains ip = true := by
  obtain ⟨longer, lies⟩ := Bool.and_eq_true_iff.mp inside
  rw [contains_eq (of_decide_eq_true longer) mem, lies]

theorem Network.contains_of_apart (outside : net.apart net' = true)
    (mem : net.contains ip = true) : net'.contains ip = false := by
  simp only [apart, Bool.or_eq_true, Bool.and_eq_true, decide_eq_true_eq, Bool.not_eq_true']
    at outside
  rcases outside with ⟨longer, out⟩ | ⟨longer, out⟩
  · refine Bool.eq_false_iff.mpr fun inside => ?_
    rw [contains_eq longer inside, out] at mem
    cases mem
  · rw [contains_eq longer mem, out]

theorem any_contains_eq_false (outside : (nets.all net.apart) = true)
    (mem : net.contains ip = true) : (nets.any (·.contains ip)) = false :=
  List.any_eq_false.mpr fun net' listed => Bool.eq_false_iff.mp <|
    Network.contains_of_apart (List.all_eq_true.mp outside net' listed) mem

/-- A range whose networks all lie in those of another, and in none of its exceptions. -/
def Range.within (sub range : Range) : Bool :=
  sub.v4.all (fun net => range.v4.any net.within && range.v4Exceptions.all net.apart) &&
    sub.v6.all fun net => range.v6.any net.within && range.v6Exceptions.all net.apart

/-- Two ranges whose networks all lie outside each other. -/
def Range.apart (r r' : Range) : Bool :=
  (r.v4.all fun net => r'.v4.all net.apart) && r.v6.all fun net => r'.v6.all net.apart

theorem any_contains_of_within {exceptions : List (Network w)}
    (inside : (nets.any net.within && exceptions.all net.apart) = true)
    (mem : net.contains ip = true) :
    (nets.any (·.contains ip) && !exceptions.any (·.contains ip)) = true := by
  obtain ⟨lies, outside⟩ := Bool.and_eq_true_iff.mp inside
  obtain ⟨net', listed, within⟩ := List.any_eq_true.mp lies
  have found : (nets.any (·.contains ip)) = true :=
    List.any_eq_true.mpr ⟨net', listed, Network.contains_of_within within mem⟩
  rw [found, any_contains_eq_false outside mem]
  rfl

theorem Range.holds_of_within {sub range : Range} {a : Address} (inside : sub.within range = true)
    (mem : sub.holds a = true) : range.holds a = true := by
  obtain ⟨four, six⟩ := Bool.and_eq_true_iff.mp inside
  cases a with
  | v4 ip =>
      simp only [holds, Bool.and_eq_true] at mem
      obtain ⟨net, listed, here⟩ := List.any_eq_true.mp mem.1
      exact any_contains_of_within (List.all_eq_true.mp four net listed) here
  | v6 ip =>
      simp only [holds, Bool.and_eq_true] at mem
      obtain ⟨net, listed, here⟩ := List.any_eq_true.mp mem.1
      exact any_contains_of_within (List.all_eq_true.mp six net listed) here

theorem Range.holds_of_apart {r r' : Range} {a : Address} (outside : r.apart r' = true)
    (mem : r.holds a = true) : r'.holds a = false := by
  obtain ⟨four, six⟩ := Bool.and_eq_true_iff.mp outside
  cases a with
  | v4 ip =>
      simp only [holds, Bool.and_eq_true] at mem ⊢
      obtain ⟨net, listed, here⟩ := List.any_eq_true.mp mem.1
      rw [any_contains_eq_false (List.all_eq_true.mp four net listed) here, Bool.false_and]
  | v6 ip =>
      simp only [holds, Bool.and_eq_true] at mem ⊢
      obtain ⟨net, listed, here⟩ := List.any_eq_true.mp mem.1
      rw [any_contains_eq_false (List.all_eq_true.mp six net listed) here, Bool.false_and]

/-- An IPv4-mapped address lies in a reserved range of IPv6. -/
theorem Address.unmapped_eq_or_reserved (a : Address) :
    a.unmapped = a ∨ reservedRange.holds a = true := by
  cases a with
  | v4 ip => exact Or.inl rfl
  | v6 ip =>
      rw [unmapped]
      split
      case isFalse other => exact Or.inl rfl
      case isTrue mapped =>
        right
        have prefix_zero : (net6 [] 8).contains ip = true := by
          have split : (128 - 8 : ℕ) = 32 + 88 := rfl
          rw [Network.contains, net6, split, BitVec.shiftRight_add, mapped]
          rfl
        have listed : (reservedRange.v6.any (·.contains ip)) = true :=
          List.any_eq_true.mpr ⟨_, List.mem_cons_self, prefix_zero⟩
        rw [Range.holds, listed]
        rfl

/-- No release misses a mapped address: the view is the address itself only where none is mapped or
the address is reserved. -/
theorem Release.view_eq_or_reserved (release : Release) (a : Address) :
    release.view a = a.unmapped ∨ release.isReserved a = true := by
  cases later : release.mapped with
  | true => exact Or.inl (if_pos later)
  | false =>
      have same : release.view a = a := if_neg (by rw [later]; exact Bool.false_ne_true)
      rcases a.unmapped_eq_or_reserved with eq | reserved
      · exact Or.inl (same.trans eq.symm)
      · exact Or.inr (by rw [isReserved, same, reserved])

/-! ## Literals -/

/-- `_parse_octet`. -/
def octet? (s : Text) : Option ℕ :=
  if s.isEmpty || !s.all Char.isDigit || 3 < s.length ||
    (s != ['0'] && s.head? == some '0') then none
  else
    let n := Nat.ofDigitChars 10 s 0
    if n ≤ 255 then some n else none

/-- `IPv4Address(s)`. -/
def ipv4? (s : Text) : Option ℕ :=
  match s.splitOn '.' with
  | [a, b, c, d] => do
      let a ← octet? a
      let b ← octet? b
      let c ← octet? c
      let d ← octet? d
      return ((a * 256 + b) * 256 + c) * 256 + d
  | _ => none

/-- `_parse_hextet`. -/
def hextet? (s : Text) : Option ℕ :=
  let isHex := fun c : Char =>
    c.isDigit || ('a' ≤ c && c ≤ 'f') || ('A' ≤ c && c ≤ 'F')
  if s.isEmpty || !s.all isHex || 4 < s.length then none
  else
    let digit := fun c : Char =>
      if c.isDigit then c.toNat - '0'.toNat
      else if 'a' ≤ c then c.toNat - 'a'.toNat + 10
      else c.toNat - 'A'.toNat + 10
    some (s.foldl (fun n c => n * 16 + digit c) 0)

def hextets? (parts : List Text) : Option ℕ :=
  parts.foldlM (fun n part => (hextet? part).map (n * 65536 + ·)) 0

/-- The parts with an IPv4 suffix rewritten as two hextets. -/
def splitSuffix (parts : List Text) : Option (List Text) :=
  match parts.getLast? with
  | some last =>
      if last.any (· = '.') then
        (ipv4? last).map fun n =>
          parts.dropLast ++ [Nat.toDigits 16 (n / 65536), Nat.toDigits 16 (n % 65536)]
      else some parts
  | none => some parts

/-- The parts before and after "::", an empty one at the outer end belonging to it. -/
def outerParts (hi lo : List Text) : Option (List Text × List Text) :=
  let hi? := if hi.head? = some [] then (if hi.length = 1 then some [] else none) else some hi
  let lo? := if lo.getLast? = some [] then (if lo.length = 1 then some [] else none) else some lo
  hi?.bind fun hi => lo?.map fun lo => (hi, lo)

/-- `IPv6Address(s)`, but for the scope. -/
def ipv6? (s : Text) : Option ℕ := do
  let parts := s.splitOn ':'
  if parts.length < 3 then failure
  let parts ← splitSuffix parts
  if 9 < parts.length then failure
  let inner := (List.range parts.length).filter fun i =>
    0 < i && i + 1 < parts.length && parts[i]? == some []
  match inner with
  | [] => if parts.length = 8 then hextets? parts else none
  | [skip] =>
      let (hi, lo) ← outerParts (parts.take skip) (parts.drop (skip + 1))
      if 8 ≤ hi.length + lo.length then failure
      let high ← hextets? hi
      let low ← hextets? lo
      return high * 65536 ^ (8 - hi.length) + low
  | _ => none

/-- The address before a scope, which is not empty. -/
def splitScope (s : Text) : Option Text :=
  match s.splitOn '%' with
  | [addr] => some addr
  | [addr, scope] => if scope.isEmpty then none else some addr
  | _ => none

/-- `ipaddress.ip_address(s)`; `none` is its `ValueError`. -/
def ipAddress? (s : Text) : Option Address :=
  if s.any (· = '/') then none
  else
    match ipv4? s with
    | some n => some (.v4 (BitVec.ofNat 32 n))
    | none => ((splitScope s).bind ipv6?).map fun n => .v6 (BitVec.ofNat 128 n)

example : ipAddress? "::ffff:10.1.2.3".toList =
    some (.v6 (BitVec.ofNat 128 0xffff0a010203)) := by decide

end IpAddress
