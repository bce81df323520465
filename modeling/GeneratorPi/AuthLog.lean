import Mathlib.Data.Bool.AllAny
import GeneratorPi.Lib.PyRepr
import GeneratorPi.LogFeed

/-!
# The log line of a failed login

`auth_required` (`genpi/auth.py`) logs every failed login with the attempted user name rendered by
`repr`, so that it cannot break the line.  The blanks and arrows of the name survive, and the filter
for routine access lines searches the whole line: it takes the line for the status of the first
access record spelled out in the name (`accessStatus?_authFailureLine`).
-/

namespace GeneratorPi

open PyText

/-! ## The line -/

/-- `request.remote_addr`: the numeric address of the peer. -/
structure Address where
  text : Text
  plain : ∀ c ∈ text, c.isAlphanum || c == '.' || c == ':' || c == '%'

/-- `str` of an integer. -/
def decimal : ℤ → Text
  | .ofNat n => Nat.toDigits 10 n
  | .negSucc n => '-' :: Nat.toDigits 10 (n + 1)

/-- A number at its width, as `strftime` writes it. -/
def zeroPadded (width n : ℕ) : Text := (Nat.toDigits 10 n).leftpad width '0'

/-- The second a record is logged in. -/
structure LogTime where
  year : ℕ
  month : ℕ
  day : ℕ
  hour : ℕ
  minute : ℕ
  second : ℕ
  deriving DecidableEq, Repr

/-- `%(asctime)s` with the format `%Y-%m-%d %H:%M:%S`. -/
def asctime (t : LogTime) : Text :=
  zeroPadded 4 t.year ++ ['-'] ++ zeroPadded 2 t.month ++ ['-'] ++ zeroPadded 2 t.day ++ [' '] ++
    zeroPadded 2 t.hour ++ [':'] ++ zeroPadded 2 t.minute ++ [':'] ++ zeroPadded 2 t.second

/-- The message up to the attempted name, behind the time and the level. -/
def authFailureHead (t : LogTime) : Text :=
  asctime t ++ " [WARNING] Auth failed for ".toList

/-- The message behind the attempted name. -/
def authFailureTail (ip : Address) (failCount : ℕ) (maxFailures : ℤ) (locked : Bool) : Text :=
  '@' :: (ip.text ++ ' ' :: '(' :: (decimal failCount ++ '/' :: (decimal maxFailures ++
    (" attempts)".toList ++ if locked then " [LOCKED OUT]".toList else []))))

/-- The line `auth_required` logs for a failed login. -/
def authFailureLine (P : Printable) (t : LogTime) (attempted : Text) (ip : Address)
    (failCount : ℕ) (maxFailures : ℤ) (locked : Bool) : Text :=
  authFailureHead t ++ PyText.repr P attempted ++ authFailureTail ip failCount maxFailures locked

/-! ## Access records spelled out in a name -/

/-- The first `k` characters, if they are digits, and the rest. -/
def takeDigits? : ℕ → Text → Option (Text × Text)
  | 0, s => some ([], s)
  | _ + 1, [] => none
  | k + 1, c :: s =>
      if c.isDigit then (takeDigits? k s).map fun (digits, rest) => (c :: digits, rest) else none

/-- A status of three digits, if what follows it closes the record. -/
def statusDigits? (closes : Text → Bool) (s : Text) : Option ℕ :=
  (takeDigits? 3 s).bind fun (digits, rest) =>
    if closes rest then some (Nat.ofDigitChars 10 digits 0) else none

/-- A path and a status between single blanks, at the start. -/
def forgedPath? (s : Text) : Option ℕ :=
  match s.takeWhile (· != ' '), s.dropWhile (· != ' ') with
  | _ :: _, _ :: rest => statusDigits? (·.head? == some ' ') rest
  | _, _ => none

/-- An access record at the start of the text. -/
def forgedStatusAt? (s : Text) : Option ℕ :=
  (afterPrefix? " -> ".toList s).bind fun rest =>
    accessMethods.findSome? fun m => (afterPrefix? (m ++ [' ']) rest).bind forgedPath?

/-- The status of the first access record in the text, all of its blanks ASCII ones and one of them
behind the status. -/
def forgedStatus? : Text → Option ℕ
  | [] => none
  | c :: rest =>
      match forgedStatusAt? (c :: rest) with
      | some status => some status
      | none => forgedStatus? rest

/-! ## Text that begins no record -/

theorem afterPrefix?_eq_none {start s : Text} : afterPrefix? start s = none ↔ ¬ start <+: s := by
  simp [afterPrefix?]

theorem arrow_eq : " -> ".toList = [' ', '-', '>', ' '] := rfl

theorem accessStatusAt?_eq_none {s : Text} (h : ¬ " -> ".toList <+: s) :
    accessStatusAt? s = none := by
  rw [accessStatusAt?, afterPrefix?_eq_none.mpr h]
  rfl

theorem accessStatus?_cons {c : Char} {s : Text} (h : ¬ " -> ".toList <+: c :: s) :
    accessStatus? (c :: s) = accessStatus? s := by
  rw [accessStatus?, accessStatusAt?_eq_none h]

theorem accessStatus?_append_of_blankless {a : Text} (h : ∀ c ∈ a, isSpace c = false) (s : Text) :
    accessStatus? (a ++ s) = accessStatus? s := by
  induction a with
  | nil => rfl
  | cons c a ih =>
      have begins : ¬ " -> ".toList <+: c :: (a ++ s) := by
        intro starts
        rw [arrow_eq] at starts
        have blank := (List.cons_prefix_cons.mp starts).1
        have spaceless := h c List.mem_cons_self
        rw [← blank] at spaceless
        exact absurd spaceless (by decide)
      rw [List.cons_append, accessStatus?_cons begins]
      exact ih fun d hd => h d (List.mem_cons_of_mem c hd)

/-- Text without an arrow head, before text that does not continue an arrow. -/
theorem accessStatus?_append_of_no_arrow {a s : Text} (h : '>' ∉ a)
    (next : ∀ c ∈ s.head?, c ∉ ['-', '>']) : accessStatus? (a ++ s) = accessStatus? s := by
  induction a with
  | nil => rfl
  | cons c a ih =>
      have begins : ¬ " -> ".toList <+: c :: (a ++ s) := by
        rw [arrow_eq]
        rintro ⟨rest, eq⟩
        have second : '-' :: '>' :: ' ' :: rest = a ++ s := (List.cons.inj eq).2
        rcases a with _ | ⟨x, _ | ⟨y, a⟩⟩
        · rw [List.nil_append] at second
          exact next '-' (by simp [← second]) (by decide)
        · have third : '>' :: ' ' :: rest = s := (List.cons.inj second).2
          exact next '>' (by simp [← third]) (by decide)
        · obtain rfl : '>' = y := (List.cons.inj (List.cons.inj second).2).1
          exact h (by simp)
      rw [List.cons_append, accessStatus?_cons begins]
      exact ih fun mem => h (List.mem_cons_of_mem c mem)

theorem accessStatus?_of_no_arrow {a : Text} (h : '>' ∉ a) : accessStatus? a = none := by
  have := accessStatus?_append_of_no_arrow (s := []) h (by simp)
  rwa [List.append_nil] at this

theorem not_arrow_of_isDigit {c : Char} (h : c.isDigit) : c ≠ '>' := by
  rintro rfl
  exact absurd h (by decide)

theorem arrow_not_mem_decimal (n : ℤ) : '>' ∉ decimal n := by
  have digits : ∀ m, '>' ∉ Nat.toDigits 10 m := fun m mem =>
    not_arrow_of_isDigit (Nat.isDigit_of_mem_toDigits (by decide) (by decide) mem) rfl
  cases n with
  | ofNat n => exact digits n
  | negSucc n => simp [decimal, digits]

theorem arrow_not_mem_zeroPadded (width n : ℕ) : '>' ∉ zeroPadded width n := by
  have digits := arrow_not_mem_decimal n
  simp only [decimal] at digits
  simp [zeroPadded, List.leftpad, List.mem_replicate, digits]

theorem arrow_not_mem_head (t : LogTime) : '>' ∉ authFailureHead t := by
  simp [authFailureHead, asctime, arrow_not_mem_zeroPadded]

theorem arrow_not_mem_tail (ip : Address) (failCount : ℕ) (maxFailures : ℤ) (locked : Bool) :
    '>' ∉ authFailureTail ip failCount maxFailures locked := by
  have address : '>' ∉ ip.text := fun mem => absurd (ip.plain _ mem) (by decide)
  cases locked <;> simp [authFailureTail, address, arrow_not_mem_decimal]

theorem isSpace_of_isAlphanum {c : Char} (h : c.isAlphanum) : isSpace c = false := by
  have range : ∀ {low high : Char}, 48 ≤ low.toNat → high.toNat ≤ 122 → low.val ≤ c.val →
      c.val ≤ high.val → 48 ≤ c.toNat ∧ c.toNat ≤ 122 := fun least most above below =>
    ⟨least.trans (UInt32.le_iff_toNat_le.mp above), (UInt32.le_iff_toNat_le.mp below).trans most⟩
  have bounds : 48 ≤ c.toNat ∧ c.toNat ≤ 122 := by
    rcases Bool.or_eq_true_iff.mp h with alpha | digit
    · rcases Bool.or_eq_true_iff.mp alpha with upper | lower
      · obtain ⟨above, below⟩ : 'A'.val ≤ c.val ∧ c.val ≤ 'Z'.val := of_decide_eq_true upper
        exact range (by decide) (by decide) above below
      · obtain ⟨above, below⟩ := Bool.and_eq_true_iff.mp lower
        exact range (by decide) (by decide) (of_decide_eq_true above)
          (of_decide_eq_true below)
    · obtain ⟨above, below⟩ := Bool.and_eq_true_iff.mp digit
      exact range (by decide) (by decide) (of_decide_eq_true above)
        (of_decide_eq_true below)
  simp only [isSpace, Bool.or_eq_false_iff, Bool.and_eq_false_iff, decide_eq_false_iff_not,
    beq_eq_false_iff_ne]
  omega

theorem Address.isSpace_eq_false (ip : Address) {c : Char} (mem : c ∈ ip.text) :
    isSpace c = false := by
  have plain := ip.plain c mem
  simp only [Bool.or_eq_true, beq_iff_eq] at plain
  rcases plain with ((alphanum | rfl) | rfl) | rfl
  · exact isSpace_of_isAlphanum alphanum
  · decide
  · decide
  · decide

/-- The tail reaches its first blank with no digit behind it. -/
theorem authFailureTail_eq (ip : Address) (failCount : ℕ) (maxFailures : ℤ) (locked : Bool) :
    ∃ glued rest, authFailureTail ip failCount maxFailures locked = glued ++ ' ' :: '(' :: rest ∧
      ∀ c ∈ glued, isSpace c = false := by
  refine ⟨'@' :: ip.text, _, rfl, fun c hc => ?_⟩
  rcases List.mem_cons.mp hc with rfl | mem
  · decide
  · exact ip.isSpace_eq_false mem

/-! ## A representation begins the records its text begins -/

theorem afterPrefix?_append (start s : Text) : afterPrefix? start (start ++ s) = some s := by
  simp [afterPrefix?]

theorem takeWhile_append_cons {p : Char → Bool} {a : Text} {c : Char} (rest : Text)
    (h : ∀ x ∈ a, p x = true) (stop : p c = false) :
    (a ++ c :: rest).takeWhile p = a ∧ (a ++ c :: rest).dropWhile p = c :: rest := by
  rw [List.takeWhile_append_of_pos h, List.dropWhile_append_of_pos h]
  simp [stop]

/-- The path ends at its first blank. -/
theorem pathStatus?_append {path : Text} (h : ∀ c ∈ path, isSpace c = false) (rest : Text) :
    pathStatus? (path ++ ' ' :: rest) =
      if path = [] then none else statusDigits? (·.head?.all isSpace) rest := by
  obtain ⟨before, after⟩ := takeWhile_append_cons (p := (!isSpace ·)) (c := ' ') rest
    (fun x hx => by simp [h x hx]) (by decide)
  rw [pathStatus?, before, after]
  cases path with
  | nil => rfl
  | cons x path =>
      rw [if_neg (List.cons_ne_nil x path)]
      rcases rest with _ | ⟨a, _ | ⟨b, _ | ⟨c, rest⟩⟩⟩
      · rfl
      · simp [statusDigits?, takeDigits?]
      · simp [statusDigits?, takeDigits?]
      · cases ha : a.isDigit <;> cases hb : b.isDigit <;> cases hc : c.isDigit <;>
          simp [statusDigits?, takeDigits?, ha, hb, hc]

theorem forgedPath?_append {path : Text} (h : ' ' ∉ path) (rest : Text) :
    forgedPath? (path ++ ' ' :: rest) =
      if path = [] then none else statusDigits? (·.head? == some ' ') rest := by
  obtain ⟨before, after⟩ := takeWhile_append_cons (p := (· != ' ')) (c := ' ') rest
    (fun x hx => by simpa using ne_of_mem_of_not_mem hx h) (by decide)
  rw [forgedPath?, before, after]
  cases path <;> rfl

theorem forgedPath?_of_blankless {s : Text} (h : ' ' ∉ s) : forgedPath? s = none := by
  have nothing : s.dropWhile (· != ' ') = [] :=
    List.dropWhile_eq_nil_iff.mpr fun x hx => by simpa using ne_of_mem_of_not_mem hx h
  rw [forgedPath?, nothing]
  cases s.takeWhile (· != ' ') <;> rfl

theorem findSome?_congr {α β : Type*} {f g : α → Option β} {l : List α}
    (h : ∀ a ∈ l, f a = g a) : l.findSome? f = l.findSome? g := by
  induction l with
  | nil => rfl
  | cons a l ih =>
      rw [List.findSome?_cons, List.findSome?_cons, h a List.mem_cons_self,
        ih fun b hb => h b (List.mem_cons_of_mem a hb)]

theorem literal_of_isDigit {quote c : Char} (quotes : quote = '"' ∨ quote = '\'')
    (h : c.isDigit) : Literal quote c := by
  have bounds : 48 ≤ c.toNat ∧ c.toNat ≤ 57 := by
    simp only [Char.isDigit, Bool.and_eq_true, decide_eq_true_eq, ge_iff_le,
      UInt32.le_iff_toNat_le] at h
    exact h
  refine ⟨by omega, ?_, ?_⟩
  · rintro rfl
    rcases quotes with rfl | rfl <;> exact absurd h (by decide)
  · rintro rfl
    exact absurd h (by decide)

section Repr

variable {P : Printable} {quote : Char} {tail : Text}

theorem afterPrefix?_reprBody {start : Text} (literal : ∀ c ∈ start, Literal quote c)
    (plain : isSpace quote = false) (s : Text) :
    afterPrefix? start (reprBody P quote s ++ quote :: tail) =
      (afterPrefix? start s).map fun rest => reprBody P quote rest ++ quote :: tail := by
  by_cases begins : start <+: s
  · obtain ⟨rest, rfl⟩ := begins
    rw [reprBody_literal literal, List.append_assoc, afterPrefix?_append, afterPrefix?_append]
    rfl
  · rw [afterPrefix?_eq_none.mpr begins,
      afterPrefix?_eq_none.mpr ((literal_prefix_iff literal plain).not.mpr begins)]
    rfl

theorem takeDigits?_reprBody (quotes : quote = '"' ∨ quote = '\'') (k : ℕ) (s : Text) :
    takeDigits? k (reprBody P quote s ++ quote :: tail) =
      (takeDigits? k s).map fun (digits, rest) =>
        (digits, reprBody P quote rest ++ quote :: tail) := by
  have plain : isSpace quote = false := by rcases quotes with rfl | rfl <;> decide
  have notDigit : quote.isDigit = false := by rcases quotes with rfl | rfl <;> decide
  induction k generalizing s with
  | zero => rfl
  | succ k ih =>
      cases s with
      | nil => simp [takeDigits?, notDigit]
      | cons c s =>
          rw [reprBody_cons, List.append_assoc]
          rcases reprChar_cases P c plain with ⟨eq, -, -⟩ | ⟨escaped, rest, eq, -⟩
          · rw [eq, List.singleton_append, takeDigits?, takeDigits?, ih]
            split
            · rw [Option.map_map, Option.map_map]
              rfl
            · rfl
          · have noDigit : c.isDigit = false := eq_false_of_ne_true fun digit =>
              escaped (literal_of_isDigit quotes digit)
            rw [eq, List.cons_append, takeDigits?, takeDigits?, noDigit]
            rfl

/-- Behind the status, white space of the representation is a blank of the text. -/
theorem closes_reprBody (plain : isSpace quote = false)
    (quotes : quote = '"' ∨ quote = '\'') (s : Text) :
    (reprBody P quote s ++ quote :: tail).head?.all isSpace = (s.head? == some ' ') := by
  cases s with
  | nil => simp [plain]
  | cons c s =>
      rw [reprBody_cons, List.append_assoc]
      rcases reprChar_cases P c plain with ⟨eq, -, blank⟩ | ⟨escaped, rest, eq, -⟩
      · rw [eq]
        by_cases isBlank : c = ' '
        · subst isBlank
          rfl
        · have notSpace : isSpace c = false := eq_false_of_ne_true fun space =>
            isBlank (blank space)
          simp [notSpace, isBlank]
      · have notBlank : c ≠ ' ' := by
          rintro rfl
          refine escaped ⟨by decide, ?_, by decide⟩
          rcases quotes with rfl | rfl <;> decide
        have other : ((c :: s).head? == some ' ') = false := by simp [notBlank]
        rw [eq, other]
        rfl

theorem pathStatus?_reprBody (quotes : quote = '"' ∨ quote = '\'') {glued rest : Text}
    (blankless : ∀ c ∈ glued, isSpace c = false) (s : Text) :
    pathStatus? (reprBody P quote s ++ quote :: (glued ++ ' ' :: '(' :: rest)) = forgedPath? s := by
  have plain : isSpace quote = false := by rcases quotes with rfl | rfl <;> decide
  by_cases blank : ' ' ∈ s
  · obtain ⟨path, later, rfl, notBlank⟩ := List.eq_append_cons_of_mem blank
    have shown : reprBody P quote (path ++ ' ' :: later) =
        reprBody P quote path ++ ' ' :: reprBody P quote later := by
      have literal : Literal quote ' ' := ⟨by decide, by rcases quotes with rfl | rfl <;> decide,
        by decide⟩
      rw [reprBody, List.flatMap_append, ← reprBody, ← reprBody, reprBody_cons,
        reprChar_literal literal]
      rfl
    have empty : reprBody P quote path = [] ↔ path = [] := by
      cases path with
      | nil => simp
      | cons c path =>
          rw [reprBody_cons]
          rcases reprChar_cases P c plain with ⟨eq, -, -⟩ | ⟨-, _, eq, -⟩ <;> simp [eq]
    rw [shown, List.append_assoc, List.cons_append,
      pathStatus?_append (isSpace_of_mem_reprBody plain notBlank), forgedPath?_append notBlank]
    simp only [empty, statusDigits?, takeDigits?_reprBody quotes]
    split
    · rfl
    · rw [Option.bind_map]
      congr 1
      funext found
      simp only [Function.comp_apply, closes_reprBody plain quotes]
  · -- The path runs to the blank behind the address, where no status stands.
    have closed : ∀ c ∈ reprBody P quote s ++ quote :: glued, isSpace c = false := by
      intro c hc
      rcases List.mem_append.mp hc with inBody | inTail
      · exact isSpace_of_mem_reprBody plain blank c inBody
      · rcases List.mem_cons.mp inTail with rfl | mem
        · exact plain
        · exact blankless c mem
    have split : reprBody P quote s ++ quote :: (glued ++ ' ' :: '(' :: rest) =
        (reprBody P quote s ++ quote :: glued) ++ ' ' :: '(' :: rest := by simp
    have noDigits : statusDigits? (·.head?.all isSpace) ('(' :: rest) = none := rfl
    rw [split, pathStatus?_append closed, noDigits, forgedPath?_of_blankless blank, ite_self]

/-- An access record begins in the representation exactly where it begins in the text. -/
theorem accessStatusAt?_reprBody (quotes : quote = '"' ∨ quote = '\'') {glued : Text}
    (blankless : ∀ c ∈ glued, isSpace c = false) (rest s : Text) :
    accessStatusAt? (reprBody P quote s ++ quote :: (glued ++ ' ' :: '(' :: rest)) =
      forgedStatusAt? s := by
  have plain : isSpace quote = false := by rcases quotes with rfl | rfl <;> decide
  have arrow : ∀ c ∈ " -> ".toList, Literal quote c :=
    List.all_iff_forall_prop.mp (by rcases quotes with rfl | rfl <;> decide)
  have spaced : ∀ m ∈ accessMethods, (m ++ [' ']).all (Literal quote ·) := by
    rcases quotes with rfl | rfl <;> decide
  have methods : ∀ m ∈ accessMethods, ∀ c ∈ m ++ [' '], Literal quote c := fun m hm =>
    List.all_iff_forall_prop.mp (spaced m hm)
  rw [accessStatusAt?, forgedStatusAt?, afterPrefix?_reprBody arrow plain, Option.bind_map]
  congr 1
  funext behind
  rw [Function.comp_apply]
  refine findSome?_congr fun m hm => ?_
  rw [afterPrefix?_reprBody (methods m hm) plain, Option.bind_map]
  congr 1
  funext path
  exact pathStatus?_reprBody quotes blankless path

theorem accessStatus?_reprBody (quotes : quote = '"' ∨ quote = '\'') {glued rest : Text}
    (blankless : ∀ c ∈ glued, isSpace c = false) (noArrow : '>' ∉ glued ++ ' ' :: '(' :: rest)
    (s : Text) :
    accessStatus? (reprBody P quote s ++ quote :: (glued ++ ' ' :: '(' :: rest)) =
      forgedStatus? s := by
  have plain : isSpace quote = false := by rcases quotes with rfl | rfl <;> decide
  induction s with
  | nil =>
      have quoteNoArrow : '>' ∉ quote :: (glued ++ ' ' :: '(' :: rest) := by
        rw [List.mem_cons]
        rintro (eq | mem)
        · rcases quotes with rfl | rfl <;> exact absurd eq (by decide)
        · exact noArrow mem
      exact accessStatus?_of_no_arrow quoteNoArrow
  | cons c s ih =>
      have here := accessStatusAt?_reprBody (P := P) quotes blankless rest (c :: s)
      rw [reprBody_cons, List.append_assoc] at here ⊢
      rw [forgedStatus?, ← here]
      rcases reprChar_cases P c plain with ⟨eq, -, -⟩ | ⟨-, escape, eq, blankfree⟩
      · rw [eq, List.singleton_append, accessStatus?]
        cases accessStatusAt? _ with
        | none => exact ih
        | some status => rfl
      · -- No record begins inside an escape.
        rw [eq, List.cons_append, accessStatus?,
          accessStatus?_append_of_blankless blankfree]
        cases accessStatusAt? _ with
        | none => exact ih
        | some status => rfl

end Repr

/-! ## The filter -/

/-- The filter sees in the line of a failed login the first access record spelled out in the
attempted name, and nothing else. -/
theorem accessStatus?_authFailureLine (P : Printable) (t : LogTime) (attempted : Text)
    (ip : Address) (failCount : ℕ) (maxFailures : ℤ) (locked : Bool) :
    accessStatus? (authFailureLine P t attempted ip failCount maxFailures locked) =
      forgedStatus? attempted := by
  have quotes := reprQuote_cases attempted
  have noArrow := arrow_not_mem_tail ip failCount maxFailures locked
  obtain ⟨glued, rest, tail, blankless⟩ := authFailureTail_eq ip failCount maxFailures locked
  rw [tail] at noArrow
  have plain : reprQuote attempted ∉ ['-', '>'] := by
    rcases quotes with eq | eq <;> rw [eq] <;> decide
  have line : authFailureLine P t attempted ip failCount maxFailures locked =
      authFailureHead t ++ ([reprQuote attempted] ++ (reprBody P (reprQuote attempted) attempted ++
        reprQuote attempted :: (glued ++ ' ' :: '(' :: rest))) := by
    simp [authFailureLine, PyText.repr, tail]
  rw [line, accessStatus?_append_of_no_arrow (arrow_not_mem_head t),
    accessStatus?_append_of_blankless, accessStatus?_reprBody quotes blankless noArrow]
  · simpa using isSpace_reprQuote attempted
  · intro c first
    cases first
    exact plain

/-- The line of a failed login is kept by the filter exactly when the attempted name does not spell
out an access record whose first one has a status below 400. -/
theorem authFailureLine_kept_iff (P : Printable) (t : LogTime) (attempted : Text)
    (ip : Address) (failCount : ℕ) (maxFailures : ℤ) (locked : Bool) :
    isRoutineHttp (authFailureLine P t attempted ip failCount maxFailures locked) = false ↔
      ∀ status, forgedStatus? attempted = some status → 400 ≤ status := by
  rw [isRoutineHttp, accessStatus?_authFailureLine]
  cases forgedStatus? attempted with
  | none => simp
  | some status => simp

/-- A table with nothing beyond ASCII. -/
def asciiOnly : Printable where
  isPrintable _ := false
  not_space := nofun

/-- A client that calls itself `x -> GET / 200 y` is not seen failing to log in. -/
theorem forged_name_hidden :
    isRoutineHttp (authFailureLine asciiOnly ⟨2026, 1, 2, 3, 4, 5⟩ "x -> GET / 200 y".toList
      ⟨"10.0.0.7".toList, List.all_eq_true.mp (by decide)⟩ 1 5 false) = true := by
  rw [isRoutineHttp, accessStatus?_authFailureLine]
  decide

end GeneratorPi
