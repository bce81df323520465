import GeneratorPi.Manifest
import Mathlib

/-!
# The certificate of the server

`ensure_ssl_cert` (`genpi/ssl_cert.py`) at every start of the process: an operator's files are
used as they are, a self-signed certificate is made where it is missing or about to expire.  What
`openssl` does is given with each start.

Over any starts with a working `openssl`, at any times and in any modes, a start that makes a
certificate leaves a matching pair whose key is the owner's alone, no other start touches the files,
and after one was made the next start in "auto" mode to make one is the first within the renewal
window of that one's end (`renewed_of_run`).
-/

namespace GeneratorPi.Certificates

open PyText

/-! ## The names (ssl_cert.py) -/

/-- `entries`; the host name is missing where `gethostname` raised. -/
def sanEntries (hostname : Option Text) (sslSan : Text) : List Text :=
  let host := match hostname with
    | some (c :: name) =>
        let hn := c :: name
        ("DNS:".toList ++ hn) ::
          if ".local".toList.isSuffixOf hn then [] else ["DNS:".toList ++ hn ++ ".local".toList]
    | _ => []
  let extra := strip sslSan
  host ++ ["DNS:localhost".toList, "IP:127.0.0.1".toList] ++
    if extra = [] then [] else ((extra.splitOn ',').map strip).filter (· ≠ [])

/-- De-duplicated, in order. -/
def withoutDuplicates (entries : List Text) : List Text :=
  entries.foldl (fun out e => if out.contains e then out else out ++ [e]) []

/-- `_build_san` -/
def buildSan (hostname : Option Text) (sslSan : Text) : Text :=
  [','].intercalate (withoutDuplicates (sanEntries hostname sslSan))

/-! ## The files -/

inductive CertFile where
  /-- A certificate, its last second, its names and the key pair it is for. -/
  | certificate (notAfter : ℚ) (san : Option Text) (pair : ℕ)
  /-- Anything that `openssl x509` does not read. -/
  | other

structure KeyFile where
  pair : ℕ
  /-- No one else may read it. -/
  ownerOnly : Bool

structure Files where
  cert : Option CertFile
  key : Option KeyFile

/-- What a call of `openssl req` comes to; where it fails or is cut off, with the files it
leaves. -/
inductive Req where
  | made (pair : ℕ)
  | failed (left : Files)
  | raised (left : Files)

/-- A start of the process: the settings, the clock and what the tools do. -/
structure Start where
  sslCertMode : Text := "auto".toList
  certDays : ℤ
  renewDays : ℤ
  hostname : Option Text
  sslSan : Text := []
  now : ℚ
  /-- `openssl x509 -checkend` could not be run. -/
  checkRaises : Bool := false
  first : Req
  second : Req
  chmodFails : Bool := false

inductive Outcome where
  | serving
  /-- `sys.exit(1)` -/
  | exited
  | raised
  deriving DecidableEq

def day : ℚ := 86400

/-- `mode` -/
def Start.manual (s : Start) : Bool :=
  lower (strip (if s.sslCertMode = [] then "auto".toList else s.sslCertMode)) = "manual".toList

/-- `_cert_expires_within(SSL_RENEW_DAYS)` -/
def Start.certExpiresWithin (s : Start) (f : Files) : Bool :=
  if s.checkRaises then true
  else
    match f.cert with
    | some (.certificate notAfter _ _) => notAfter ≤ s.now + s.renewDays * day
    | _ => true

/-- The pair that `openssl req` writes under the tightened umask, an older key file keeping its
mode, and the `chmod` after it. -/
def Start.write (s : Start) (f : Files) (san : Option Text) (pair : ℕ) : Files where
  cert := some (.certificate (s.now + s.certDays * day) san pair)
  key := some ⟨pair, if s.chmodFails then f.key.all KeyFile.ownerOnly else true⟩

/-- `_generate_self_signed` -/
def Start.generateSelfSigned (s : Start) (f : Files) : Outcome × Files :=
  let san := buildSan s.hostname s.sslSan
  match s.first with
  | .made pair => (.serving, s.write f (if san = [] then none else some san) pair)
  | .raised left => (.raised, left)
  | .failed left =>
      if san = [] then (.raised, left)
      else
        match s.second with
        | .made pair => (.serving, s.write left none pair)
        | .failed left | .raised left => (.raised, left)

/-- Whether the start comes to `_generate_self_signed`. -/
def Start.generates (s : Start) (f : Files) : Bool :=
  !s.manual && (f.cert.isNone || f.key.isNone || s.certExpiresWithin f)

/-- `ensure_ssl_cert` -/
def Start.ensureSslCert (s : Start) (f : Files) : Outcome × Files :=
  if s.manual then (if f.cert.isNone || f.key.isNone then .exited else .serving, f)
  else if f.cert.isSome && f.key.isSome then
    if s.certExpiresWithin f then s.generateSelfSigned f else (.serving, f)
  else s.generateSelfSigned f

/-! ## The names -/

theorem mem_foldl_withoutDuplicates {entries out : List Text} {e : Text}
    (h : e ∈ out ∨ e ∈ entries) :
    e ∈ entries.foldl (fun out e => if out.contains e then out else out ++ [e]) out := by
  induction entries generalizing out with
  | nil => exact h.resolve_right (List.not_mem_nil)
  | cons a entries ih =>
      rw [List.foldl_cons]
      apply ih
      by_cases seen : a ∈ out
      · rw [if_pos (List.contains_iff_mem.mpr seen)]
        rcases h with old | new
        · exact Or.inl old
        · rcases List.mem_cons.1 new with rfl | later
          · exact Or.inl seen
          · exact Or.inr later
      · rw [if_neg (mt List.contains_iff_mem.mp seen), List.mem_append, List.mem_singleton]
        rcases h with old | new
        · exact Or.inl (Or.inl old)
        · exact (List.mem_cons.1 new).imp_left Or.inr

theorem intercalate_ne_nil {sep e : Text} {entries : List Text} (mem : e ∈ entries) (ne : e ≠ []) :
    sep.intercalate entries ≠ [] := by
  induction entries with
  | nil => exact absurd mem List.not_mem_nil
  | cons a entries ih =>
      cases entries with
      | nil =>
          rw [List.intercalate_singleton]
          rwa [← List.mem_singleton.1 mem]
      | cons b entries =>
          rw [List.intercalate_cons_cons]
          rcases List.mem_cons.1 mem with rfl | later
          · exact fun h => ne (List.append_eq_nil_iff.1 (List.append_eq_nil_iff.1 h).1).1
          · exact fun h => ih later (List.append_eq_nil_iff.1 h).2

/-- There is always a name, so an `openssl` without `-addext` gets its second try. -/
theorem buildSan_ne_nil (hostname : Option Text) (sslSan : Text) :
    buildSan hostname sslSan ≠ [] := by
  have listed : "DNS:localhost".toList ∈ sanEntries hostname sslSan := by
    unfold sanEntries
    exact List.mem_append_left _ (List.mem_append_right _ List.mem_cons_self)
  exact intercalate_ne_nil (mem_foldl_withoutDuplicates (Or.inr listed)) (by decide)

/-! ## One start -/

/-- `openssl` runs, and makes a certificate at one of the two tries. -/
def Start.Works (s : Start) : Prop :=
  s.checkRaises = false ∧
    ∃ pair, s.first = .made pair ∨ ∃ left, s.first = .failed left ∧ s.second = .made pair

/-- The files hold what `s` made: the pair belongs together, and the key is the owner's alone unless
the `chmod` was refused. -/
def Start.Made (s : Start) (f : Files) : Prop :=
  ∃ san pair owner, f.cert = some (.certificate (s.now + s.certDays * day) san pair) ∧
    f.key = some ⟨pair, owner⟩ ∧ (s.chmodFails = false → owner = true)

theorem Start.made_write (s : Start) (f : Files) (san : Option Text) (pair : ℕ) :
    s.Made (s.write f san pair) :=
  ⟨san, pair, _, rfl, rfl, fun h => by rw [h, if_neg Bool.false_ne_true]⟩

theorem Start.Works.generateSelfSigned {s : Start} (works : s.Works) (f : Files) :
    (s.generateSelfSigned f).1 = .serving ∧ s.Made (s.generateSelfSigned f).2 := by
  have named := buildSan_ne_nil s.hostname s.sslSan
  obtain ⟨-, pair, first | ⟨left, first, second⟩⟩ := works
  · rw [Start.generateSelfSigned, first]
    exact ⟨rfl, s.made_write _ _ _⟩
  · rw [Start.generateSelfSigned, first]
    simp only [if_neg named, second]
    exact ⟨trivial, s.made_write _ _ _⟩

theorem Start.ensureSslCert_of_generates {s : Start} {f : Files} (h : s.generates f = true) :
    s.ensureSslCert f = s.generateSelfSigned f := by
  simp only [Start.generates, Bool.and_eq_true, Bool.not_eq_true', Bool.or_eq_true,
    Option.isNone_iff_eq_none] at h
  obtain ⟨auto, (none | none) | within⟩ := h
  · simp [Start.ensureSslCert, auto, none]
  · simp [Start.ensureSslCert, auto, none]
  · simp [Start.ensureSslCert, auto, within]

theorem Start.ensureSslCert_of_not_generates {s : Start} {f : Files} (h : s.generates f = false) :
    (s.ensureSslCert f).2 = f ∧ (s.manual = false → (s.ensureSslCert f).1 = .serving ∧
      f.cert.isSome = true ∧ f.key.isSome = true ∧ s.certExpiresWithin f = false) := by
  cases manual : s.manual with
  | true => simp [Start.ensureSslCert, manual]
  | false =>
      simp only [Start.generates, manual, Bool.not_false, Bool.true_and, Bool.or_eq_false_iff] at h
      obtain ⟨⟨cert, key⟩, within⟩ := h
      rw [Option.isNone_eq_false_iff] at cert key
      simp [Start.ensureSslCert, manual, cert, key, within]

/-- What a start in "auto" mode takes for valid. -/
theorem Start.valid_of_not_within {s : Start} {f : Files} (h : s.certExpiresWithin f = false) :
    ∃ notAfter san pair, f.cert = some (.certificate notAfter san pair) ∧
      s.now + s.renewDays * day < notAfter := by
  unfold Start.certExpiresWithin at h
  split at h
  · exact (nomatch h)
  · split at h
    · next notAfter san pair cert => exact ⟨notAfter, san, pair, cert, by simpa using h⟩
    · exact (nomatch h)

theorem Start.generates_of_made {s g : Start} {f : Files} (runs : s.checkRaises = false)
    (auto : s.manual = false) (made : g.Made f) :
    s.generates f = true ↔ g.now + g.certDays * day ≤ s.now + s.renewDays * day := by
  obtain ⟨san, pair, owner, cert, key, -⟩ := made
  simp [Start.generates, Start.certExpiresWithin, runs, auto, cert, key]

/-! ## Runs -/

/-- A start, with the files that it found, what it came to and the files that it left. -/
structure Done where
  start : Start
  before : Files
  outcome : Outcome
  after : Files

def Done.generated (d : Done) : Bool := d.start.generates d.before

def run : Files → List Start → List Done
  | _, [] => []
  | f, s :: starts =>
      ⟨s, f, (s.ensureSslCert f).1, (s.ensureSslCert f).2⟩ :: run (s.ensureSslCert f).2 starts

theorem of_mem_run {f : Files} {starts : List Start} {d : Done} (h : d ∈ run f starts) :
    d.start ∈ starts ∧ (d.outcome, d.after) = d.start.ensureSslCert d.before := by
  induction starts generalizing f with
  | nil => exact absurd h List.not_mem_nil
  | cons s starts ih =>
      rcases List.mem_cons.1 h with rfl | later
      · exact ⟨List.mem_cons_self, rfl⟩
      · exact (ih later).imp_left (List.mem_cons_of_mem s)

/-- The last certificate made is the one in place: by induction over the starts, with `made` for the
one that an earlier start made. -/
theorem made_of_run {f : Files} {starts : List Start} (works : ∀ s ∈ starts, s.Works)
    {made : Option Start} (holds : ∀ g, made = some g → g.Made f) {xs ys : List Done} {d : Done}
    (split : run f starts = xs ++ d :: ys) {g : Start}
    (last : (((xs.filter Done.generated).getLast?.map Done.start).or made) = some g) :
    g.Made d.before := by
  induction starts generalizing f made xs with
  | nil => exact absurd split.symm (by simp [run])
  | cons s starts ih =>
      rw [run] at split
      cases xs with
      | nil =>
          rw [List.nil_append, List.cons.injEq] at split
          rw [← split.1]
          exact holds g (by simpa using last)
      | cons x xs =>
          rw [List.cons_append, List.cons.injEq] at split
          obtain ⟨rfl, split⟩ := split
          cases generates : s.generates f with
          | true =>
              have serves := (works s List.mem_cons_self).generateSelfSigned f
              rw [← Start.ensureSslCert_of_generates generates] at serves
              have here : ∀ t, some s = some t → t.Made (s.ensureSslCert f).2 := by
                rintro t ⟨⟩
                exact serves.2
              apply ih (fun t mem => works t (List.mem_cons_of_mem s mem)) here split
              · rw [List.filter_cons_of_pos (by exact generates), List.getLast?_cons] at last
                cases later : (xs.filter Done.generated).getLast? with
                | none => simpa [later] using last
                | some x => simpa [later] using last
          | false =>
              have same := (Start.ensureSslCert_of_not_generates generates).1
              apply ih (fun t mem => works t (List.mem_cons_of_mem s mem)) _ split
              · rwa [List.filter_cons_of_neg (by simpa [Done.generated] using generates)] at last
              · rwa [same]

theorem renewed_of_run (f : Files) {starts : List Start} (works : ∀ s ∈ starts, s.Works) :
    (∀ d ∈ run f starts,
      (d.generated = true → d.outcome = .serving ∧ d.start.Made d.after) ∧
      (d.generated = false → d.after = d.before) ∧
      (d.start.manual = true → d.generated = false) ∧
      (d.start.manual = false → d.start.renewDays < d.start.certDays → d.outcome = .serving ∧
        d.after.key.isSome = true ∧ ∃ notAfter san pair,
          d.after.cert = some (.certificate notAfter san pair) ∧
            d.start.now + d.start.renewDays * day < notAfter)) ∧
    ∀ xs d ys g, run f starts = xs ++ d :: ys → (xs.filter Done.generated).getLast? = some g →
      g.start.Made d.before ∧ (d.start.manual = false →
        (d.generated = true ↔
          g.start.now + g.start.certDays * day ≤ d.start.now + d.start.renewDays * day)) := by
  constructor
  · intro d mem
    obtain ⟨start, came⟩ := of_mem_run mem
    have outcome : d.outcome = (d.start.ensureSslCert d.before).1 := congrArg Prod.fst came
    have after : d.after = (d.start.ensureSslCert d.before).2 := congrArg Prod.snd came
    rw [outcome, after, Done.generated]
    cases generates : d.start.generates d.before with
    | true =>
        have serves := (works d.start start).generateSelfSigned d.before
        rw [← Start.ensureSslCert_of_generates generates] at serves
        refine ⟨fun _ => serves, fun h => (nomatch h), fun manual => ?_, fun _ longer => ?_⟩
        · simp [Start.generates, manual] at generates
        · obtain ⟨serving, san, pair, owner, cert, key, -⟩ := serves
          refine ⟨serving, by rw [key]; rfl, _, san, pair, cert, ?_⟩
          have days : (d.start.renewDays : ℚ) * day < d.start.certDays * day :=
            mul_lt_mul_of_pos_right (by exact_mod_cast longer) (by decide)
          linarith
    | false =>
        obtain ⟨same, serves⟩ := Start.ensureSslCert_of_not_generates generates
        refine ⟨fun h => (nomatch h), fun _ => same, fun _ => rfl, fun auto _ => ?_⟩
        obtain ⟨serving, -, key, within⟩ := serves auto
        rw [same]
        exact ⟨serving, key, Start.valid_of_not_within within⟩
  · intro xs d ys g split last
    have none_before : ∀ s : Start, none = some s → s.Made f := fun _ same => (nomatch same)
    have made : g.start.Made d.before := made_of_run works none_before split (by rw [last]; rfl)
    refine ⟨made, fun auto => ?_⟩
    have start : d.start ∈ starts :=
      (of_mem_run (by rw [split]; exact List.mem_append_right _ List.mem_cons_self)).1
    exact Start.generates_of_made (works _ start).1 auto made

/-- Three starts in "auto" mode: the first makes a certificate, the second keeps it, and the third,
within the window of 30 days, makes the next. -/
def threeStarts : List Start :=
  [{ certDays := 365, renewDays := 30, hostname := some "pi".toList, now := 0, first := .made 1,
     second := .made 1 },
   { certDays := 365, renewDays := 30, hostname := some "pi".toList, now := 300 * day,
     first := .made 2, second := .made 2 },
   { certDays := 365, renewDays := 30, hostname := some "pi".toList, now := 335 * day,
     first := .failed ⟨none, none⟩, second := .made 3 }]

theorem threeStarts_renewed :
    (run ⟨none, none⟩ threeStarts).map Done.generated = [true, false, true] ∧
    ∀ d ∈ run ⟨none, none⟩ threeStarts, d.generated = false → d.after = d.before := by
  refine ⟨by decide +kernel, fun d mem => ((renewed_of_run ⟨none, none⟩ ?_).1 d mem).2.1⟩
  intro s mem
  rcases List.mem_cons.1 mem with rfl | mem
  · exact ⟨rfl, 1, Or.inl rfl⟩
  rcases List.mem_cons.1 mem with rfl | mem
  · exact ⟨rfl, 2, Or.inl rfl⟩
  rw [List.mem_singleton.1 mem]
  exact ⟨rfl, 3, Or.inr ⟨_, rfl, rfl⟩⟩

end GeneratorPi.Certificates
