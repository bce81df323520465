import GeneratorPi.Lib.PyText
import GeneratorPi.Lib.Trace
import GeneratorPi.Lib.Utf8

/-!
# The application log feed

`GET /api/logs` (`genpi/routes/core.py`) over the bytes of the log file: the tail of a first
request, the delta from a byte cursor, and the filter for routine access lines.  A request is a
`stat` and, later, a read; between them and between requests the file is appended to, truncated or
rolled over.

The cap on a delta counts the routine lines that the filter then drops (`filteredDelta_iff`).
-/

namespace GeneratorPi

open PyText Trace Utf8

/-! ## Routine lines -/

def accessMethods : List Text :=
  ["GET".toList, "POST".toList, "PUT".toList, "DELETE".toList, "PATCH".toList, "HEAD".toList,
    "OPTIONS".toList]

/-- `\S+ ([0-9]{3})(?:\s|$)` at the start: no shorter path is followed by a blank. -/
def pathStatus? (s : Text) : Option ℕ :=
  match s.takeWhile (!isSpace ·), s.dropWhile (!isSpace ·) with
  | _ :: _, ' ' :: a :: b :: c :: rest =>
      if [a, b, c].all Char.isDigit && rest.head?.all isSpace then
        some (Nat.ofDigitChars 10 [a, b, c] 0)
      else none
  | _, _ => none

/-- `s` after the prefix. -/
def afterPrefix? (start s : Text) : Option Text :=
  if start.isPrefixOf s then some (s.drop start.length) else none

/-- `_ACCESS_LINE_RE` at the start, by the status it captures. -/
def accessStatusAt? (s : Text) : Option ℕ :=
  (afterPrefix? " -> ".toList s).bind fun rest =>
    accessMethods.findSome? fun m => (afterPrefix? (m ++ [' ']) rest).bind pathStatus?

/-- `_ACCESS_LINE_RE.search(line)`: the leftmost match. -/
def accessStatus? : Text → Option ℕ
  | [] => none
  | c :: rest =>
      match accessStatusAt? (c :: rest) with
      | some status => some status
      | none => accessStatus? rest

/-- `_is_routine_http`. -/
def isRoutineHttp (line : Text) : Bool := (accessStatus? line).any (· < 400)

/-! ## Tails -/

/-- Where the blocks read backward from the end begin: at more than `n` newlines, or at the
beginning of the file. -/
def tailStart (file : Bytes) (n : ℕ) : ℕ → ℕ → ℕ
  | 0, pos => pos
  | blocks + 1, pos =>
      if 0 < pos ∧ (file.drop pos).count 10 ≤ n then
        tailStart file n blocks (pos - min 4096 pos)
      else pos

/-- `_read_tail_block`: the data and where it starts. -/
def readTailBlock (file : Bytes) (n : ℕ) : Bytes × ℕ :=
  let pos := tailStart file n file.length file.length
  (file.drop pos, pos)

/-- The text up to its last newline. -/
def dropPartial (text : Text) : Text := text.rdropWhile (· != '\n')

/-- The cursor past the last newline of data that starts at `pos`. -/
def cursorAfter (pos : ℕ) (data : Bytes) : ℕ :=
  match rfindNewline data with
  | some i => pos + i + 1
  | none => 0

/-- `_tail_with_cursor`. -/
def tailWithCursor (file : Bytes) (n : ℕ) : List Text × ℕ :=
  if file = [] then ([], 0)
  else
    let (data, pos) := readTailBlock file n
    ((splitlines (dropPartial (decode data))).rtake n, cursorAfter pos data)

/-- `_APPLOG_FILTER_SCAN_BYTES`. -/
def applogFilterScanBytes : ℕ := 2 * 1024 * 1024

/-- `_tail_meaningful_with_cursor`. -/
def tailMeaningfulWithCursor (file : Bytes) (n : ℕ) : List Text × ℕ :=
  if file = [] then ([], 0)
  else
    let start := file.length - applogFilterScanBytes
    let data := file.drop start
    let text := decode data
    let text := if 0 < start then (text.dropWhile (· != '\n')).drop 1 else text
    (((splitlines (dropPartial text)).filter (!isRoutineHttp ·)).rtake n, cursorAfter start data)

/-! ## Deltas -/

/-- `_read_log_range`. -/
def readLogRange (file : Bytes) (start stop n : ℕ) : List Text × ℕ :=
  let chunk := (file.drop start).take (stop - start)
  match rfindNewline chunk with
  | some i => (((decode (chunk.take i)).splitOn '\n').rtake n, start + i + 1)
  | none => ([], start)

structure LogResponse where
  lines : List Text
  offset : ℕ
  reset : Bool
  deriving DecidableEq

/-- `max(1, min(n, 1000))`, for a missing or unparseable `n` its default. -/
def clampLines (lines : Option ℤ) : ℕ := (max 1 (min (lines.getD 1000) 1000)).toNat

/-- `api_logs`, for the file's size at the `stat` and its contents when it is read. -/
def apiLogs (size : ℕ) (file : Bytes) (lines since : Option ℤ) (hideHttp : Bool) : LogResponse :=
  let n := clampLines lines
  let fullTail :=
    let (tail, cursor) :=
      if hideHttp then tailMeaningfulWithCursor file n else tailWithCursor file n
    { lines := tail, offset := cursor, reset := true }
  match since with
  | none => fullTail
  | some c =>
      if c < 0 ∨ (size : ℤ) < c then fullTail
      else if (size : ℤ) ≤ c then { lines := [], offset := c.toNat, reset := false }
      else
        let (newLines, cursor) := readLogRange file c.toNat size n
        { lines := if hideHttp then newLines.filter (!isRoutineHttp ·) else newLines
          offset := cursor
          reset := false }

/-- The blocks read hold more than `n` newlines or the whole file. -/
theorem tailStart_spec (file : Bytes) (n : ℕ) {blocks pos : ℕ} (enough : pos ≤ blocks) :
    tailStart file n blocks pos = 0 ∨ n < (file.drop (tailStart file n blocks pos)).count 10 := by
  induction blocks generalizing pos with
  | zero => exact Or.inl (Nat.le_zero.mp enough)
  | succ blocks ih =>
      unfold tailStart
      split
      next more => exact ih (by omega)
      next done => omega

/-- The lines completed between two positions. -/
def linesBetween (file : Bytes) (start stop : ℕ) : List Text :=
  (completeLines ((file.drop start).take (stop - start))).map decode

theorem readLogRange_lines (file : Bytes) (start stop n : ℕ) :
    (readLogRange file start stop n).1 = (linesBetween file start stop).rtake n := by
  unfold readLogRange linesBetween
  dsimp only
  split
  next i found => rw [completeLines_of_rfindNewline found, splitOn_decode]
  next none =>
    rw [completeLines_of_not_mem (rfindNewline_eq_none.mp none), List.map_nil, List.rtake_nil]

/-- What the filter leaves. -/
def shownLines (hideHttp : Bool) (lines : List Text) : List Text :=
  if hideHttp then lines.filter (!isRoutineHttp ·) else lines

section Delta

variable {size c : ℕ} (file : Bytes) (lines : Option ℤ) (hideHttp : Bool)

/-- A cursor up to the end gets the last lines completed since, capped before they are filtered. -/
theorem apiLogs_delta (inside : c ≤ size) :
    (apiLogs size file lines (some (c : ℤ)) hideHttp).reset = false ∧
      (apiLogs size file lines (some (c : ℤ)) hideHttp).lines =
        shownLines hideHttp ((linesBetween file c size).rtake (clampLines lines)) := by
  have known : ¬((c : ℤ) < 0 ∨ (size : ℤ) < c) := by omega
  unfold apiLogs
  dsimp only
  rw [if_neg known]
  split
  next atEnd =>
    have nothing : size - c = 0 := by omega
    refine ⟨rfl, ?_⟩
    unfold linesBetween shownLines
    rw [nothing, List.take_zero, completeLines_of_not_mem List.not_mem_nil, List.map_nil,
      List.rtake_nil]
    cases hideHttp <;> rfl
  next => exact ⟨rfl, congrArg (shownLines hideHttp) (readLogRange_lines file c size _)⟩

theorem apiLogs_reset (beyond : size < c) :
    (apiLogs size file lines (some (c : ℤ)) hideHttp).reset = true := by
  have stale : (c : ℤ) < 0 ∨ (size : ℤ) < c := by omega
  unfold apiLogs
  dsimp only
  rw [if_pos stale]

end Delta

/-! ## Polls -/

/-- The cursor a client was last given, with the file's generation and its text up to there. -/
structure Anchor where
  cursor : ℕ
  generation : ℕ
  seen : Bytes
  deriving DecidableEq

/-- A request after its `stat`. -/
structure LogQuery where
  lines : Option ℤ
  since : Option Anchor
  hideHttp : Bool
  size : ℕ
  deriving DecidableEq

structure LogFeed where
  file : Bytes := []
  /-- How often the file was truncated or replaced. -/
  generation : ℕ := 0
  anchor : Option Anchor := none
  asked : Option LogQuery := none
  deriving DecidableEq

inductive LogOp where
  | append (text : Bytes)
  /-- A rollover, or the truncation by `factory_reset`. -/
  | replaced
  /-- The client asks, with its cursor unless the view was opened anew, and the size is taken. -/
  | ask (lines : Option ℤ) (fresh hideHttp : Bool)
  /-- The file is read, and the client takes the new cursor. -/
  | respond
  | lost

def LogFeed.response (f : LogFeed) (q : LogQuery) : LogResponse :=
  apiLogs q.size f.file q.lines (q.since.map fun a => (a.cursor : ℤ)) q.hideHttp

def LogFeed.step (f : LogFeed) : LogOp → Option LogFeed
  | .append text => some { f with file := f.file ++ text }
  | .replaced => some { f with file := [], generation := f.generation + 1 }
  | .ask lines fresh hideHttp =>
      let since := if fresh then none else f.anchor
      some { f with asked := some { lines, since, hideHttp, size := f.file.length } }
  | .respond =>
      f.asked.map fun q =>
        let cursor := (f.response q).offset
        { f with
          asked := none
          anchor := some { cursor, generation := f.generation, seen := f.file.take cursor } }
  | .lost => some { f with asked := none }

/-! ## The filtered delta -/

/-- The lines completed since the cursor, as far as the request looks. -/
def LogFeed.linesSince (f : LogFeed) (q : LogQuery) (a : Anchor) : List Text :=
  linesBetween f.file a.cursor q.size

/-- A filtered delta has the last non-routine lines of all that were completed since its cursor. -/
def FilteredDelta (f : LogFeed) : LogOp → Prop
  | .respond => ∀ q ∈ f.asked, q.hideHttp → ∀ a ∈ q.since, (f.response q).reset = false →
      (f.response q).lines =
        ((f.linesSince q a).filter (!isRoutineHttp ·)).rtake (clampLines q.lines)
  | _ => True

/-- The lines before the last `n` are routine, or none of the last `n` is. -/
def CapSpares (f : LogFeed) : LogOp → Prop
  | .respond => ∀ q ∈ f.asked, q.hideHttp → ∀ a ∈ q.since, a.cursor ≤ q.size →
      (∀ line ∈ (f.linesSince q a).rdrop (clampLines q.lines), isRoutineHttp line) ∨
        ∀ line ∈ (f.linesSince q a).rtake (clampLines q.lines), isRoutineHttp line = false
  | _ => True

theorem length_rtake {α : Type} (l : List α) (n : ℕ) : (l.rtake n).length = min n l.length := by
  unfold List.rtake
  rw [List.length_drop]
  omega

theorem rtake_of_length_le {α : Type} {l : List α} {n : ℕ} (h : l.length ≤ n) : l.rtake n = l := by
  rw [List.rtake, Nat.sub_eq_zero_of_le h, List.drop_zero]

/-- Filtering the last `n` gives the last `n` of what is filtered, if what is cut off has nothing to
keep or the rest nothing to drop. -/
theorem filter_rtake_iff {α : Type} (p : α → Bool) (l : List α) (n : ℕ) :
    (l.rtake n).filter p = (l.filter p).rtake n ↔
      (∀ x ∈ l.rdrop n, p x = false) ∨ ∀ x ∈ l.rtake n, p x = true := by
  have parts : l.filter p = (l.rdrop n).filter p ++ (l.rtake n).filter p := by
    rw [← List.filter_append, List.rdrop, List.rtake, List.take_append_drop]
  have kept : ((l.rtake n).filter p).length ≤ n :=
    (List.length_filter_le _ _).trans ((length_rtake l n).trans_le (min_le_left _ _))
  have cut : l.rdrop n ≠ [] → (l.rtake n).length = n := fun some_cut => by
    rw [length_rtake]
    have := List.length_pos_iff.mpr some_cut
    rw [List.rdrop, List.length_take] at this
    omega
  constructor
  · intro same
    by_contra neither
    push Not at neither
    rcases neither with ⟨⟨x, cutOff, keeps⟩, y, shown, drops⟩
    have full := cut (List.ne_nil_of_mem cutOff)
    have more : 0 < ((l.rdrop n).filter p).length :=
      List.length_pos_of_mem (List.mem_filter.mpr ⟨cutOff, eq_true_of_ne_false keeps⟩)
    have fewer : ((l.rtake n).filter p).length < (l.rtake n).length := by
      rw [List.length_filter_lt_length_iff_exists]
      exact ⟨y, shown, drops⟩
    have lengths := congrArg List.length same
    rw [length_rtake, parts, List.length_append] at lengths
    omega
  · rintro (spared | none)
    · have nothing : (l.rdrop n).filter p = [] := by
        rw [List.filter_eq_nil_iff]
        intro x mem
        rw [spared x mem]
        decide
      rw [parts, nothing, List.nil_append, rtake_of_length_le kept]
    · have all : (l.rtake n).filter p = l.rtake n := List.filter_eq_self.mpr none
      rw [parts, all]
      by_cases some_cut : l.rdrop n = []
      · have short : (l.rtake n).length ≤ n := (length_rtake l n).trans_le (min_le_left _ _)
        rw [some_cut, List.filter_nil, List.nil_append, rtake_of_length_le short]
      · rw [List.rtake.eq_def (_ ++ _), List.length_append, cut some_cut, Nat.add_sub_cancel,
          List.drop_left]

/-- Every filtered delta of a history is right exactly if every cap spares the other lines. -/
theorem filteredDelta_iff (file : Bytes) (ops : List LogOp) :
    Meets LogFeed.step FilteredDelta { file } ops ↔ Meets LogFeed.step CapSpares { file } ops := by
  refine meets_congr (fun f op (_ : True) => ?_) (fun _ _ _ _ _ _ => trivial) trivial
  cases op with
  | respond =>
      refine forall₂_congr fun q _ => forall_congr' fun hide => forall₂_congr fun a since => ?_
      have asked : f.response q = apiLogs q.size f.file q.lines (some (a.cursor : ℤ)) true := by
        unfold LogFeed.response
        rw [since, hide]
        rfl
      rw [asked]
      by_cases inside : a.cursor ≤ q.size
      · rcases apiLogs_delta f.file q.lines true inside with ⟨delta, lines⟩
        rw [delta, lines]
        simp only [inside, true_implies]
        unfold shownLines
        rw [if_pos rfl]
        refine (filter_rtake_iff _ _ _).trans (or_congr ?_ ?_)
        · exact forall₂_congr fun _ _ => (Bool.not_eq_false' _).to_iff
        · exact forall₂_congr fun _ _ => (Bool.not_eq_true' _).to_iff
      · have reset := apiLogs_reset f.file q.lines true (not_le.mp inside)
        simp [inside, reset]
  | _ => exact Iff.rfl

/-- One line of each kind is appended after the first poll; the next one asks for one line. -/
def realThenRoutine : List LogOp :=
  [.ask none true true, .respond, .append "relay fault\n -> GET / 200\n".toUTF8.toList,
    .ask (some 1) false true]

/-- The cap cuts off the fault, and the filter the line it kept. -/
theorem fault_dropped :
    ¬∀ (file : Bytes) (ops : List LogOp), Meets LogFeed.step FilteredDelta { file } ops := by
  intro all
  have seen : (run LogFeed.step {} realThenRoutine).any fun f =>
      f.asked.any fun q => q.hideHttp && q.since.any fun a =>
        !(f.response q).reset && (f.response q).lines !=
          ((f.linesSince q a).filter (!isRoutineHttp ·)).rtake (clampLines q.lines) := by
    decide +kernel
  rcases (Option.any_eq_true _ _).mp seen with ⟨f, ran, facts⟩
  rcases (Option.any_eq_true _ _).mp facts with ⟨q, asked, facts⟩
  rw [Bool.and_eq_true] at facts
  rcases (Option.any_eq_true _ _).mp facts.2 with ⟨a, since, wrong⟩
  rw [Bool.and_eq_true, Bool.not_eq_true', bne_iff_ne] at wrong
  have right := ((all [] (realThenRoutine ++ [.respond])).of_append ran).head
  exact wrong.2 (right q asked facts.1 a since wrong.1)

end GeneratorPi
