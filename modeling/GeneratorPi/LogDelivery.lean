import GeneratorPi.LogRotation

/-!
# What the log deltas deliver

A client of `GET /api/logs` (`genpi/routes/core.py`) that begins with a full tail and passes back
each cursor it gets, while the file is appended to.  Its cursors stand at starts of lines, and the
lines that its deltas look at, joined, are those completed since the tail (`delivered_of_run`).

The tail is cut into lines by `splitlines` and the deltas at newlines, so a tail at the end shows
what an earlier one and the deltas showed exactly if no line completed meanwhile holds a line break
of another kind (`tail_eq_tail_append_deltas_iff`).
-/

namespace GeneratorPi

open PyText Trace Utf8

/-! ## Lines between two positions -/

variable {file : Bytes} {a b c n size : ℕ}

theorem linesBetween_self (file : Bytes) (a : ℕ) : linesBetween file a a = [] := by
  rw [linesBetween, Nat.sub_self, List.take_zero, completeLines_of_not_mem List.not_mem_nil,
    List.map_nil]

/-- What is appended behind the stop makes no difference. -/
theorem linesBetween_append (text : Bytes) (within : b ≤ file.length) :
    linesBetween (file ++ text) a b = linesBetween file a b := by
  rcases Nat.le_total a b with le | ge
  · rw [linesBetween, linesBetween, List.drop_append_of_le_length (le.trans within),
      List.take_append_of_le_length]
    rw [List.length_drop]
    omega
  · rw [linesBetween, linesBetween, Nat.sub_eq_zero_of_le ge, List.take_zero, List.take_zero]

theorem linesBetween_of_prefix {whole : Bytes} (begins : file <+: whole)
    (within : b ≤ file.length) :
    linesBetween whole a b = linesBetween file a b := by
  obtain ⟨text, rfl⟩ := begins
  exact linesBetween_append text within

/-- A stretch up to a start of a line ends a line. -/
theorem endsLine_between (start : EndsLine (file.take b)) :
    EndsLine ((file.drop a).take (b - a)) := by
  have part : (file.drop a).take (b - a) = (file.take b).drop a := by
    rw [List.drop_take]
  rw [part]
  rcases start with empty | newline
  · rw [empty, List.drop_nil]
    exact Or.inl rfl
  · rcases Nat.lt_or_ge a (file.take b).length with inside | past
    · right
      rw [List.getLast?_drop, if_neg (not_le.mpr inside)]
      exact newline
    · exact Or.inl (List.drop_eq_nil_of_le past)

/-- Stretches that meet at a start of a line have their lines one after the other. -/
theorem linesBetween_trans (ab : a ≤ b) (bc : b ≤ c) (start : EndsLine (file.take b)) :
    linesBetween file a c = linesBetween file a b ++ linesBetween file b c := by
  have total : c - a = (b - a) + (c - b) := by omega
  have rest : (file.drop a).drop (b - a) = file.drop b := by
    rw [List.drop_drop, Nat.add_sub_cancel' ab]
  rw [linesBetween, total, List.take_add, rest, completeLines_append (endsLine_between start),
    List.map_append, linesBetween, linesBetween]

/-! ## One delta -/

/-- The new cursor stands behind the last line completed up to the stop. -/
structure Advances (file : Bytes) (a size b : ℕ) : Prop where
  forward : a ≤ b
  within : b ≤ size
  lineStart : EndsLine (file.take b)
  rest : linesBetween file b size = []

theorem Advances.lines (h : Advances file a size b) :
    linesBetween file a size = linesBetween file a b := by
  rw [linesBetween_trans h.forward h.within h.lineStart, h.rest, List.append_nil]

theorem readLogRange_advances (le : a ≤ size) (within : size ≤ file.length)
    (start : EndsLine (file.take a)) (n : ℕ) :
    Advances file a size (readLogRange file a size n).2 := by
  unfold readLogRange
  dsimp only
  split
  case h_1 i found =>
    have last := getElem?_of_rfindNewline found
    have bound := (List.getElem?_eq_some_iff.mp last).1
    rw [List.length_take, List.length_drop] at bound
    rw [List.getElem?_take_of_lt (by omega), List.getElem?_drop] at last
    refine ⟨by omega, by omega, endsLine_take last, ?_⟩
    have tail := (eq_of_rfindNewline found).2
    have stretch : ((file.drop a).take (size - a)).drop (i + 1) =
        (file.drop (a + i + 1)).take (size - (a + i + 1)) := by
      rw [List.drop_take, List.drop_drop, Nat.sub_sub, Nat.add_assoc]
    rw [stretch] at tail
    rw [linesBetween, completeLines_of_not_mem tail, List.map_nil]
  case h_2 none =>
    refine ⟨le_rfl, le, start, ?_⟩
    rw [linesBetween, completeLines_of_not_mem (rfindNewline_eq_none.mp none), List.map_nil]

/-! ## A client that follows the file -/

variable {f g : LogFeed} {q : LogQuery} {anchor : Anchor} {ops : List LogOp}

/-- Appends, requests with the cursor last given, answers and losses. -/
def LogOp.follows : LogOp → Bool
  | .append _ | .ask _ false _ | .respond | .lost => true
  | .ask _ true _ | .replaced => false

/-- The response that a step brings, with its request. -/
def LogFeed.answers (f : LogFeed) : LogOp → List (LogQuery × LogResponse)
  | .respond => (f.asked.map fun q => (q, f.response q)).toList
  | _ => []

def LogFeed.received (f : LogFeed) : List LogOp → List (LogQuery × LogResponse)
  | [] => []
  | op :: ops => f.answers op ++ (f.step op).elim [] fun f' => f'.received ops

/-- The lines completed in the file between a request's cursor and the size it found. -/
def LogFeed.linesFor (f : LogFeed) (q : LogQuery) : List Text :=
  linesBetween f.file ((q.since.map Anchor.cursor).getD 0) q.size

/-- The client's next request carries its anchor, which is of this file. -/
structure LogFeed.Follows (f : LogFeed) (anchor : Anchor) : Prop where
  held : LogInvariant f
  here : f.anchor = some anchor
  same : f.generation = anchor.generation
  asks : ∀ q ∈ f.asked, q.since = some anchor

/-- The answer to a request that follows. -/
structure Delivers (f : LogFeed) (q : LogQuery) (anchor : Anchor) : Prop where
  reset : (f.response q).reset = false
  lines : (f.response q).lines =
    shownLines q.hideHttp ((f.linesFor q).rtake (clampLines q.lines))
  advances : Advances f.file anchor.cursor q.size (f.response q).offset

theorem LogFeed.Follows.delivers (follows : f.Follows anchor) (asked : q ∈ f.asked) :
    Delivers f q anchor := by
  have since := follows.asks q asked
  have anchored := follows.held.anchor anchor follows.here
  obtain ⟨inside, within⟩ := follows.held.size q asked anchor since follows.same
  have start : EndsLine (f.file.take anchor.cursor) := by
    rw [anchored.take_cursor follows.same]
    exact anchored.lineStart
  have known : ¬((anchor.cursor : ℤ) < 0 ∨ (q.size : ℤ) < anchor.cursor) := by omega
  have response := response_of_since (f := f) since
  obtain ⟨reset, lines⟩ := apiLogs_delta f.file q.lines q.hideHttp inside
  refine ⟨by rw [response, reset], ?_, ?_⟩
  · rw [response, lines, LogFeed.linesFor, since]
    rfl
  · rw [response]
    unfold apiLogs
    dsimp only
    rw [if_neg known]
    split
    case isTrue atEnd =>
      have whole : anchor.cursor = q.size := by omega
      rw [← whole, Int.toNat_natCast]
      exact ⟨le_rfl, le_rfl, start, linesBetween_self _ _⟩
    case isFalse =>
      rw [Int.toNat_natCast]
      exact readLogRange_advances inside within start _

/-- Nothing that a following client meets changes the text it has seen. -/
theorem prefix_of_step {op : LogOp} (follows : op.follows = true) (h : f.step op = some g) :
    f.file <+: g.file := by
  cases op with
  | append text =>
      cases h
      exact List.prefix_append _ _
  | replaced => cases follows
  | ask | lost =>
      cases h
      exact List.prefix_rfl
  | respond =>
      obtain ⟨q, -, rfl⟩ := Option.map_eq_some_iff.mp h
      exact List.prefix_rfl

theorem prefix_of_run (follows : ∀ op ∈ ops, op.follows = true)
    (h : run LogFeed.step f ops = some g) : f.file <+: g.file := by
  induction ops generalizing f with
  | nil =>
      cases h
      exact List.prefix_rfl
  | cons op ops ih =>
      obtain ⟨m, stepped, rest⟩ := run_cons_eq_some.mp h
      exact (prefix_of_step (follows op List.mem_cons_self) stepped).trans
        (ih (fun o mem => follows o (List.mem_cons_of_mem _ mem)) rest)

theorem LogFeed.Follows.shorter (follows : f.Follows anchor) (op : LogOp) :
    ShorterIfReplaced f op := by
  cases op with
  | respond =>
      intro q asked a since other
      have isAnchor : anchor = a := Option.mem_unique (follows.asks q asked) since
      exact absurd (isAnchor ▸ follows.same) other
  | append | replaced | ask | lost => trivial

/-- The anchor that a response leaves. -/
def LogFeed.anchorAfter (f : LogFeed) (q : LogQuery) : Anchor where
  cursor := (f.response q).offset
  generation := f.generation
  seen := f.file.take (f.response q).offset

theorem LogFeed.Follows.respond (follows : f.Follows anchor) (asked : f.asked = some q)
    (h : f.step .respond = some g) : g.Follows (f.anchorAfter q) ∧ g.file = f.file := by
  have held := follows.held.step (follows.shorter .respond) h
  rw [LogFeed.step, asked, Option.map_some, Option.some.injEq] at h
  subst h
  exact ⟨⟨held, rfl, rfl, fun q mem => (nomatch mem)⟩, rfl⟩

theorem LogFeed.Follows.step (follows : f.Follows anchor) {op : LogOp} (other : op ≠ .respond)
    (keeps : op.follows = true) (h : f.step op = some g) : g.Follows anchor := by
  have held := follows.held.step (follows.shorter op) h
  cases op with
  | append text =>
      cases h
      exact ⟨held, follows.here, follows.same, follows.asks⟩
  | ask lines fresh hideHttp =>
      cases fresh with
      | true => cases keeps
      | false =>
          cases h
          refine ⟨held, follows.here, follows.same, fun q asked => ?_⟩
          cases asked
          exact follows.here
  | lost =>
      cases h
      exact ⟨held, follows.here, follows.same, fun q asked => (nomatch asked)⟩
  | respond => exact absurd rfl other
  | replaced => cases keeps

theorem received_cons {op : LogOp} (h : f.step op = some g) (ops : List LogOp) :
    f.received (op :: ops) = f.answers op ++ g.received ops := by
  rw [LogFeed.received, h]
  rfl

/-- The size that the last of these requests found, or where the first would begin. -/
def lastSize (cursor : ℕ) (responses : List (LogQuery × LogResponse)) : ℕ :=
  (responses.getLast?.map fun r => r.1.size).getD cursor

theorem lastSize_cons (cursor c : ℕ) (r : LogQuery × LogResponse)
    {responses : List (LogQuery × LogResponse)} (later : responses ≠ []) :
    lastSize cursor (r :: responses) = lastSize c responses := by
  rw [lastSize, lastSize, List.getLast?_cons_of_ne_nil later,
    List.getLast?_eq_some_getLast later]
  rfl

/-- What the responses to a following client say of the file at the end of the run. -/
structure Delivered (g : LogFeed) (cursor : ℕ) (responses : List (LogQuery × LogResponse)) :
    Prop where
  reset : ∀ r ∈ responses, r.2.reset = false
  lines : ∀ r ∈ responses,
    r.2.lines = shownLines r.1.hideHttp ((g.linesFor r.1).rtake (clampLines r.1.lines))
  forward : ∀ r ∈ responses, cursor ≤ r.1.size
  joined : (responses.flatMap fun r => g.linesFor r.1) =
    linesBetween g.file cursor (lastSize cursor responses)

theorem le_lastSize {cursor : ℕ} {responses : List (LogQuery × LogResponse)}
    (forward : ∀ r ∈ responses, cursor ≤ r.1.size) : cursor ≤ lastSize cursor responses := by
  rw [lastSize]
  cases last : responses.getLast? with
  | none => exact le_rfl
  | some r => exact forward r (List.mem_of_getLast? last)

/-- A response before those that follow from its cursor. -/
theorem Delivered.cons {responses : List (LogQuery × LogResponse)} (delivers : Delivers f q anchor)
    (since : q.since = some anchor) (begins : f.file <+: g.file) (within : q.size ≤ f.file.length)
    (later : Delivered g (f.response q).offset responses) :
    Delivered g anchor.cursor ((q, f.response q) :: responses) := by
  have advances := delivers.advances
  have same : g.linesFor q = f.linesFor q := linesBetween_of_prefix begins within
  have here : g.linesFor q = linesBetween f.file anchor.cursor q.size := by
    rw [same, LogFeed.linesFor, since]
    rfl
  refine ⟨?_, ?_, ?_, ?_⟩
  · intro r mem
    rcases List.mem_cons.mp mem with rfl | rest
    · exact delivers.reset
    · exact later.reset r rest
  · intro r mem
    rcases List.mem_cons.mp mem with rfl | rest
    · exact delivers.lines.trans (by rw [same])
    · exact later.lines r rest
  · intro r mem
    rcases List.mem_cons.mp mem with rfl | rest
    · exact advances.forward.trans advances.within
    · exact advances.forward.trans (later.forward r rest)
  · rw [List.flatMap_cons, later.joined, here]
    by_cases last : responses = []
    · rw [last]
      have none : lastSize (f.response q).offset [] = (f.response q).offset := rfl
      have one : lastSize anchor.cursor [(q, f.response q)] = q.size := rfl
      rw [none, one, linesBetween_self, List.append_nil, linesBetween_of_prefix begins within]
    · have start : EndsLine (g.file.take (f.response q).offset) := by
        obtain ⟨text, whole⟩ := begins
        rw [← whole, List.take_append_of_le_length (advances.within.trans within)]
        exact advances.lineStart
      rw [advances.lines, lastSize_cons _ (f.response q).offset _ last,
        linesBetween_trans advances.forward (le_lastSize later.forward) start,
        linesBetween_of_prefix begins (advances.within.trans within)]

theorem delivered_of_follows (follows : f.Follows anchor)
    (keeps : ∀ op ∈ ops, op.follows = true) (h : run LogFeed.step f ops = some g) :
    Delivered g anchor.cursor (f.received ops) := by
  induction ops generalizing f anchor with
  | nil =>
      cases h
      refine ⟨fun _ mem => (nomatch mem), fun _ mem => (nomatch mem),
        fun _ mem => (nomatch mem), ?_⟩
      exact (linesBetween_self _ _).symm
  | cons op ops ih =>
      obtain ⟨m, stepped, rest⟩ := run_cons_eq_some.mp h
      have keepsRest : ∀ o ∈ ops, o.follows = true := fun o mem =>
        keeps o (List.mem_cons_of_mem _ mem)
      by_cases responds : op = .respond
      · subst responds
        obtain ⟨q, asked, -⟩ := Option.map_eq_some_iff.mp stepped
        obtain ⟨followsNext, file⟩ := follows.respond asked stepped
        have since := follows.asks q asked
        have within := (follows.held.size q asked anchor since follows.same).2
        have isAnswer : f.answers .respond = [(q, f.response q)] := by
          rw [LogFeed.answers, asked]
          rfl
        rw [received_cons stepped, isAnswer, List.singleton_append]
        exact Delivered.cons (follows.delivers asked) since
          (file ▸ prefix_of_run keepsRest rest) within (ih followsNext keepsRest rest)
      · have none : f.answers op = [] := by
          cases op <;> first | exact absurd rfl responds | rfl
        rw [received_cons stepped, none, List.nil_append]
        exact ih (follows.step responds (keeps op List.mem_cons_self) stepped) keepsRest rest

/-! ### From the first tail on -/

/-- The first tail: it is asked for, the file is appended to, and it is read. -/
def firstTail (lines : Option ℤ) (hideHttp : Bool) (meanwhile : List Bytes) : List LogOp :=
  .ask lines true hideHttp :: (meanwhile.map .append ++ [.respond])

theorem run_append_texts (f : LogFeed) (texts : List Bytes) :
    run LogFeed.step f (texts.map .append) = some { f with file := f.file ++ texts.flatten } := by
  induction texts generalizing f with
  | nil =>
      rw [List.flatten_nil, List.append_nil]
      rfl
  | cons text texts ih =>
      rw [List.map_cons, run_cons, LogFeed.step, Option.bind_some, ih, List.flatten_cons,
        List.append_assoc]

theorem linesBetween_length (free : 10 ∉ file.drop a) : linesBetween file a file.length = [] := by
  have plain : 10 ∉ (file.drop a).take (file.length - a) :=
    fun mem => free (List.mem_of_mem_take mem)
  rw [linesBetween, completeLines_of_not_mem plain, List.map_nil]

/-- Behind the cursor of a full tail no line is complete. -/
theorem tailWithCursor_rest (file : Bytes) (n : ℕ) :
    10 ∉ file.drop (tailWithCursor file n).2 := by
  by_cases empty : file = []
  · subst empty
    exact List.not_mem_nil
  have cursor : (tailWithCursor file n).2 =
      cursorAfter (readTailBlock file n).2 (readTailBlock file n).1 := by
    rw [tailWithCursor, if_neg empty]
  rw [cursor, readTailBlock]
  dsimp only
  unfold cursorAfter
  split
  case h_1 i found =>
    have tail := (eq_of_rfindNewline found).2
    rw [List.drop_drop] at tail
    rwa [Nat.add_assoc]
  case h_2 none =>
    have clear := rfindNewline_eq_none.mp none
    rcases tailStart_spec file n (le_refl file.length) with whole | more
    · rwa [whole] at clear
    · rw [List.count_eq_zero.mpr clear] at more
      exact absurd more (Nat.not_lt_zero _)

theorem response_of_fresh (since : q.since = none) :
    f.response q =
      { lines := (if q.hideHttp then tailMeaningfulWithCursor f.file (clampLines q.lines)
          else tailWithCursor f.file (clampLines q.lines)).1
        offset := (if q.hideHttp then tailMeaningfulWithCursor f.file (clampLines q.lines)
          else tailWithCursor f.file (clampLines q.lines)).2
        reset := true } := by
  rw [LogFeed.response, since]
  rfl

/-- The state in which the first tail is read. -/
theorem read_of_firstTail {lines : Option ℤ} {hideHttp : Bool} {meanwhile : List Bytes}
    (h : run LogFeed.step { file } (firstTail lines hideHttp meanwhile) = some g) :
    ∃ (f : LogFeed) (q : LogQuery), f.asked = some q ∧ q.since = none ∧ q.hideHttp = hideHttp ∧
      f.step .respond = some g := by
  obtain ⟨asking, asked, rest⟩ := run_cons_eq_some.mp h
  cases asked
  obtain ⟨read, appended, answered⟩ := run_append_eq_some.mp rest
  rw [run_append_texts] at appended
  cases appended
  obtain ⟨_, answer, done⟩ := run_cons_eq_some.mp answered
  cases done
  exact ⟨_, _, rfl, rfl, rfl, answer⟩

theorem follows_of_fresh (asked : f.asked = some q) (since : q.since = none)
    (h : f.step .respond = some g) : g.Follows (f.anchorAfter q) ∧ g.file = f.file := by
  have reset : (f.response q).reset = true := by rw [response_of_fresh since]
  obtain ⟨inside, start⟩ := offset_of_reset reset
  rw [LogFeed.step, asked, Option.map_some, Option.some.injEq] at h
  subst h
  refine ⟨⟨⟨fun a mem => ?_, fun q mem => (nomatch mem), fun q mem => (nomatch mem)⟩, rfl, rfl,
    fun q mem => (nomatch mem)⟩, rfl⟩
  cases mem
  exact ⟨List.length_take_of_le inside, start, le_rfl, fun _ => List.take_prefix _ _⟩

/-- A client that begins with a full tail, and passes back each cursor, gets deltas: each has the
last of the lines completed since its cursor, and these, joined, are the lines completed after the
tail. -/
theorem delivered_of_run {lines : Option ℤ} {hideHttp : Bool} {meanwhile : List Bytes}
    {f₀ : LogFeed} (h₀ : run LogFeed.step { file } (firstTail lines hideHttp meanwhile) = some f₀)
    (keeps : ∀ op ∈ ops, op.follows = true) (h : run LogFeed.step f₀ ops = some g) :
    ∃ anchor, f₀.anchor = some anchor ∧ EndsLine (f₀.file.take anchor.cursor) ∧
      (hideHttp = false → linesBetween f₀.file anchor.cursor f₀.file.length = []) ∧
      Delivered g anchor.cursor (f₀.received ops) := by
  obtain ⟨f, q, asked, since, rfl, answer⟩ := read_of_firstTail h₀
  obtain ⟨follows, sameFile⟩ := follows_of_fresh asked since answer
  have anchored := follows.held.anchor _ follows.here
  refine ⟨f.anchorAfter q, follows.here, ?_, fun unfiltered => ?_,
    delivered_of_follows follows keeps h⟩
  · rw [anchored.take_cursor follows.same]
    exact anchored.lineStart
  · have cursor : (f.anchorAfter q).cursor = (tailWithCursor f.file (clampLines q.lines)).2 := by
      rw [LogFeed.anchorAfter, response_of_fresh since, unfiltered]
      rfl
    rw [cursor, sameFile]
    exact linesBetween_length (tailWithCursor_rest _ _)

def bytes (text : String) : Bytes := text.toUTF8.toList

/-- A line and a character of two bytes come in two writes each. -/
def slowWrites : List LogOp :=
  [.append (bytes "b"), .ask none false false, .respond, .append (0xc3 :: []),
    .ask none false false, .append (0xa9 :: bytes "\nc\n"), .respond, .ask none false false,
    .respond]

theorem delivered_slowWrites :
    ∃ f₀ g, run LogFeed.step { file := bytes "a\n" } (firstTail none false []) = some f₀ ∧
      run LogFeed.step f₀ slowWrites = some g ∧
      (f₀.received slowWrites).map (fun r => r.2.lines) =
        [[], [], ["bé".toList, "c".toList]] ∧
      ∃ anchor, f₀.anchor = some anchor ∧ Delivered g anchor.cursor (f₀.received slowWrites) := by
  have seen : (run LogFeed.step { file := bytes "a\n" } (firstTail none false [])).any fun f₀ =>
      (run LogFeed.step f₀ slowWrites).isSome && (f₀.received slowWrites).map (fun r => r.2.lines) =
        [[], [], ["bé".toList, "c".toList]] := by decide +kernel
  obtain ⟨f₀, first, facts⟩ := (Option.any_eq_true _ _).mp seen
  obtain ⟨runs, shown⟩ := Bool.and_eq_true_iff.mp facts
  obtain ⟨g, later⟩ := Option.isSome_iff_exists.mp runs
  obtain ⟨anchor, here, -, -, delivered⟩ := delivered_of_run first (by decide) later
  exact ⟨f₀, g, first, later, of_decide_eq_true shown, anchor, here, delivered⟩

/-! ## The tail and the deltas -/

/-- The lines of the deltas read after each of these writes, of at most `n` lines each. -/
def deltaLines (n : ℕ) (file : Bytes) (cursor : ℕ) : List Bytes → List Text
  | [] => []
  | text :: texts =>
      let file := file ++ text
      let delta := readLogRange file cursor file.length n
      delta.1 ++ deltaLines n file delta.2 texts

/-- The lines of a file that are ended. -/
def fileLines (file : Bytes) : List Text := (completeLines file).map decode

theorem dropPartial_decode (file : Bytes) :
    dropPartial (decode file) = endLines (fileLines file) := by
  rw [dropPartial, rdropWhile_newline, splitOn_decode, ← List.map_dropLast, fileLines,
    completeLines]

theorem length_splitOn {α : Type} [BEq α] [LawfulBEq α] (l : List α) (c : α) :
    (l.splitOn c).length = l.count c + 1 := by
  induction l with
  | nil => rfl
  | cons x l ih =>
      rw [List.splitOn_cons_eq_if_modifyHead, List.count_cons]
      split <;> simp [ih]

theorem count_newline (file : Bytes) : file.count 10 = (fileLines file).length := by
  rw [fileLines, completeLines, List.length_map, List.length_dropLast, length_splitOn,
    Nat.add_sub_cancel]

/-- A tail that is not capped is the whole file cut by `splitlines`. -/
theorem tailWithCursor_lines (file : Bytes) {n : ℕ}
    (room : (splitlines (dropPartial (decode file))).length ≤ n) :
    (tailWithCursor file n).1 = splitlines (dropPartial (decode file)) := by
  by_cases empty : file = []
  · subst empty
    rfl
  have whole : tailStart file n file.length file.length = 0 := by
    rcases tailStart_spec file n (le_refl file.length) with whole | more
    · exact whole
    · have fewer : (file.drop (tailStart file n file.length file.length)).count 10 ≤
          file.count 10 := (List.drop_sublist _ _).count_le 10
      have lines := length_le_splitlines_endLines (fileLines file)
      rw [dropPartial_decode] at room
      rw [count_newline file] at fewer
      omega
  rw [tailWithCursor, if_neg empty, readTailBlock, whole, List.drop_zero]
  exact rtake_of_length_le room

theorem endsLine_take_append (text : Bytes) (within : a ≤ file.length)
    (start : EndsLine (file.take a)) : EndsLine ((file ++ text).take a) := by
  rwa [List.take_append_of_le_length within]

/-- Deltas that are not capped have the lines completed since the cursor. -/
theorem deltaLines_eq {texts : List Bytes} {cursor : ℕ} (within : cursor ≤ file.length)
    (start : EndsLine (file.take cursor)) (rest : linesBetween file cursor file.length = [])
    (room : (linesBetween (file ++ texts.flatten) cursor
      (file ++ texts.flatten).length).length ≤ n) :
    deltaLines n file cursor texts =
      linesBetween (file ++ texts.flatten) cursor (file ++ texts.flatten).length := by
  induction texts generalizing file cursor with
  | nil =>
      rw [List.flatten_nil, List.append_nil, rest]
      rfl
  | cons text texts ih =>
      have longer : cursor ≤ (file ++ text).length := by
        rw [List.length_append]
        omega
      rw [List.flatten_cons, ← List.append_assoc] at room ⊢
      have advances := readLogRange_advances longer le_rfl
        (endsLine_take_append text within start) n
      have inside := advances.within.trans (List.prefix_append _ texts.flatten).length_le
      have total := linesBetween_trans advances.forward inside
        (endsLine_take_append texts.flatten advances.within advances.lineStart)
      rw [linesBetween_append _ advances.within, ← advances.lines] at total
      rw [total, List.length_append] at room
      rw [deltaLines, readLogRange_lines, rtake_of_length_le (by omega), total]
      exact congrArg _ (ih advances.within advances.lineStart advances.rest (by omega))

theorem fileLines_eq (file : Bytes) : fileLines file = linesBetween file 0 file.length := by
  rw [linesBetween, List.drop_zero, Nat.sub_zero, List.take_length, fileLines]

/-- Where nothing is capped, a tail at the end shows the lines of an earlier tail and of the deltas
since exactly if no line completed meanwhile holds a line break of another kind. -/
theorem tail_eq_tail_append_deltas_iff (file : Bytes) (texts : List Bytes) {n : ℕ}
    (room : (splitlines (dropPartial (decode (file ++ texts.flatten)))).length ≤ n) :
    (tailWithCursor (file ++ texts.flatten) n).1 =
        (tailWithCursor file n).1 ++ deltaLines n file (tailWithCursor file n).2 texts ↔
      ∀ line ∈ (fileLines (file ++ texts.flatten)).drop (fileLines file).length, OneLine line := by
  obtain ⟨within, start⟩ : (tailWithCursor file n).2 ≤ file.length ∧
      EndsLine (file.take (tailWithCursor file n).2) := tail_cursor file n false
  have rest := linesBetween_length (tailWithCursor_rest file n)
  generalize cursor : (tailWithCursor file n).2 = c at within start rest ⊢
  -- The complete lines at the end are the earlier ones and those completed since.
  have before : fileLines file = linesBetween file 0 c := by
    rw [fileLines_eq, linesBetween_trans (Nat.zero_le c) within start, rest, List.append_nil]
  have all : fileLines (file ++ texts.flatten) = fileLines file ++
      linesBetween (file ++ texts.flatten) c (file ++ texts.flatten).length := by
    rw [fileLines_eq, linesBetween_trans (Nat.zero_le c)
      (within.trans (List.prefix_append _ texts.flatten).length_le)
      (endsLine_take_append _ within start), linesBetween_append _ within, before]
  have shown := tailWithCursor_lines _ room
  rw [dropPartial_decode, all, splitlines_endLines_append] at room shown
  rw [List.length_append] at room
  have earlier := tailWithCursor_lines file (n := n) (by rw [dropPartial_decode]; omega)
  rw [dropPartial_decode] at earlier
  have deltas := deltaLines_eq within start rest
    ((length_le_splitlines_endLines _).trans ((Nat.le_add_left _ _).trans room))
  rw [shown, earlier, deltas, List.append_right_inj, all, List.drop_left]
  exact splitlines_endLines_iff _

/-- A line that holds a carriage return is one line of a delta and two of a tail. -/
theorem tail_ne_tail_append_deltas :
    ¬ ∀ (file : Bytes) (texts : List Bytes) (n : ℕ),
      (splitlines (dropPartial (decode (file ++ texts.flatten)))).length ≤ n →
      (tailWithCursor (file ++ texts.flatten) n).1 =
        (tailWithCursor file n).1 ++ deltaLines n file (tailWithCursor file n).2 texts := by
  intro all
  exact absurd (all [] [bytes "a\rb\n"] 10 (by decide +kernel)) (by decide +kernel)

/-- A form feed in the path of a request. -/
theorem tail_eq_tail_append_deltas_iff_formFeed :
    ((tailWithCursor (bytes "one\n" ++ [bytes "GET /\x0cx 404\n"].flatten) 10).1 =
        (tailWithCursor (bytes "one\n") 10).1 ++
          deltaLines 10 (bytes "one\n") (tailWithCursor (bytes "one\n") 10).2
            [bytes "GET /\x0cx 404\n"]) ↔
      ∀ line ∈ (fileLines (bytes "one\n" ++ [bytes "GET /\x0cx 404\n"].flatten)).drop
        (fileLines (bytes "one\n")).length, OneLine line :=
  tail_eq_tail_append_deltas_iff _ _ (by decide +kernel)

end GeneratorPi
