import GeneratorPi.LogFeed

/-!
# Deltas across a rotation

A cursor is an offset, and all `api_logs` compares it with is the size of the file it finds.  So a
file that was truncated or rolled over is noticed while it is shorter than the cursor, and taken for
the old one afterwards (`noticesRotation_iff`).
-/

namespace GeneratorPi

open PyText Trace Utf8

/-- A text of complete lines. -/
def EndsLine (text : Bytes) : Prop := text = [] ∨ text.getLast? = some 10

/-- The response goes on, in the same file, where the text up to its cursor ended: it has the last
of the lines completed since, less the routine ones if these are hidden. -/
structure Continues (f : LogFeed) (q : LogQuery) (a : Anchor) : Prop where
  same : f.generation = a.generation
  lineStart : EndsLine a.seen
  follows : ∃ added later, f.file = a.seen ++ added ++ later ∧
    (f.response q).lines =
      shownLines q.hideHttp (((completeLines added).map decode).rtake (clampLines q.lines))

/-- A response that does not reset the view continues it. -/
def NoticesRotation (f : LogFeed) : LogOp → Prop
  | .respond => ∀ q ∈ f.asked, (f.response q).reset = false → ∃ a ∈ q.since, Continues f q a
  | _ => True

/-- A file that is no longer the cursor's is shorter than the cursor when its size is taken. -/
def ShorterIfReplaced (f : LogFeed) : LogOp → Prop
  | .respond => ∀ q ∈ f.asked, ∀ a ∈ q.since, f.generation ≠ a.generation → q.size < a.cursor
  | _ => True

/-! ## Cursors -/

/-- The anchor is of this file or an earlier one, and what it has seen of this one is there. -/
structure Anchored (file : Bytes) (generation : ℕ) (a : Anchor) : Prop where
  length : a.seen.length = a.cursor
  lineStart : EndsLine a.seen
  earlier : a.generation ≤ generation
  there : generation = a.generation → a.seen <+: file

structure LogInvariant (f : LogFeed) : Prop where
  anchor : ∀ a ∈ f.anchor, Anchored f.file f.generation a
  since : ∀ q ∈ f.asked, ∀ a ∈ q.since, Anchored f.file f.generation a
  size : ∀ q ∈ f.asked, ∀ a ∈ q.since, f.generation = a.generation →
    a.cursor ≤ q.size ∧ q.size ≤ f.file.length

variable {f g : LogFeed} {a : Anchor} {q : LogQuery} {file : Bytes} {generation : ℕ}

theorem LogInvariant.initial (file : Bytes) : LogInvariant { file } where
  anchor _ mem := nomatch mem
  since _ mem := nomatch mem
  size _ mem := nomatch mem

theorem Anchored.append (h : Anchored file generation a) (text : Bytes) :
    Anchored (file ++ text) generation a where
  length := h.length
  lineStart := h.lineStart
  earlier := h.earlier
  there same := (h.there same).trans (List.prefix_append _ _)

theorem Anchored.replaced (h : Anchored file generation a) :
    Anchored [] (generation + 1) a where
  length := h.length
  lineStart := h.lineStart
  earlier := Nat.le_succ_of_le h.earlier
  there same := by
    have earlier := h.earlier
    omega

theorem endsLine_take {i : ℕ} (newline : file[i]? = some 10) : EndsLine (file.take (i + 1)) := by
  refine Or.inr ?_
  rw [List.take_add_one, newline]
  exact List.getLast?_concat

/-- The cursor past the last newline of the end of a file is inside it, at the start of a line. -/
theorem cursorAfter_spec {pos : ℕ} (inside : pos ≤ file.length) :
    cursorAfter pos (file.drop pos) ≤ file.length ∧
      EndsLine (file.take (cursorAfter pos (file.drop pos))) := by
  unfold cursorAfter
  split
  next i found =>
    have last := getElem?_of_rfindNewline found
    have bound : i < (file.drop pos).length := (List.getElem?_eq_some_iff.mp last).1
    rw [List.length_drop] at bound
    rw [List.getElem?_drop] at last
    exact ⟨by omega, endsLine_take last⟩
  next => exact ⟨Nat.zero_le _, Or.inl rfl⟩

theorem tailStart_le (file : Bytes) (n blocks pos : ℕ) : tailStart file n blocks pos ≤ pos := by
  induction blocks generalizing pos with
  | zero => exact le_rfl
  | succ blocks ih =>
      unfold tailStart
      split
      · exact (ih _).trans (Nat.sub_le _ _)
      · exact le_rfl

theorem tail_cursor (file : Bytes) (n : ℕ) (hideHttp : Bool) :
    let cursor := (if hideHttp then tailMeaningfulWithCursor file n else tailWithCursor file n).2
    cursor ≤ file.length ∧ EndsLine (file.take cursor) := by
  by_cases empty : file = []
  · subst empty
    cases hideHttp <;> exact ⟨Nat.zero_le _, Or.inl rfl⟩
  · cases hideHttp with
    | true =>
        unfold tailMeaningfulWithCursor
        simp only [if_neg empty, if_true]
        exact cursorAfter_spec (Nat.sub_le _ _)
    | false =>
        unfold tailWithCursor readTailBlock
        simp only [if_neg empty, Bool.false_eq_true, if_false]
        exact cursorAfter_spec (tailStart_le _ _ _ _)

/-! ## Responses -/

theorem response_of_since (since : a ∈ q.since) :
    f.response q = apiLogs q.size f.file q.lines (some (a.cursor : ℤ)) q.hideHttp := by
  unfold LogFeed.response
  rw [since]
  rfl

/-- Only a cursor up to the end is not reset. -/
theorem reset_eq_false_iff :
    (f.response q).reset = false ↔ ∃ a ∈ q.since, a.cursor ≤ q.size := by
  cases since : q.since with
  | none =>
      unfold LogFeed.response
      rw [since]
      simp [apiLogs]
  | some a =>
      rw [response_of_since since]
      by_cases inside : a.cursor ≤ q.size
      · simp [inside, (apiLogs_delta f.file q.lines q.hideHttp inside).1]
      · simp [inside, apiLogs_reset f.file q.lines q.hideHttp (not_le.mp inside)]

theorem offset_of_reset (reset : (f.response q).reset = true) :
    (f.response q).offset ≤ f.file.length ∧ EndsLine (f.file.take (f.response q).offset) := by
  have tail := tail_cursor f.file (clampLines q.lines) q.hideHttp
  cases since : q.since with
  | none =>
      unfold LogFeed.response
      rw [since]
      exact tail
  | some a =>
      rw [response_of_since since] at reset ⊢
      have beyond : q.size < a.cursor := by
        by_contra inside
        rw [(apiLogs_delta f.file q.lines q.hideHttp (not_lt.mp inside)).1] at reset
        cases reset
      have stale : (a.cursor : ℤ) < 0 ∨ (q.size : ℤ) < a.cursor := by omega
      unfold apiLogs
      dsimp only
      rw [if_pos stale]
      exact tail

/-- A delta's cursor stays where it was, or goes past a newline. -/
theorem offset_of_delta (since : a ∈ q.since) (inside : a.cursor ≤ q.size)
    (within : q.size ≤ f.file.length) (start : EndsLine (f.file.take a.cursor)) :
    (f.response q).offset ≤ f.file.length ∧ EndsLine (f.file.take (f.response q).offset) := by
  have known : ¬((a.cursor : ℤ) < 0 ∨ (q.size : ℤ) < a.cursor) := by omega
  rw [response_of_since since]
  unfold apiLogs
  dsimp only
  rw [if_neg known]
  split
  · exact ⟨inside.trans within, start⟩
  · unfold readLogRange
    dsimp only
    rw [Int.toNat_natCast]
    split
    next i found =>
      have last := getElem?_of_rfindNewline found
      have bound := (List.getElem?_eq_some_iff.mp last).1
      rw [List.length_take, List.length_drop] at bound
      rw [List.getElem?_take_of_lt (by omega), List.getElem?_drop] at last
      have bounded : a.cursor + i + 1 ≤ f.file.length := by omega
      exact ⟨bounded, endsLine_take last⟩
    next => exact ⟨inside.trans within, start⟩

theorem Anchored.take_cursor (h : Anchored file generation a) (same : generation = a.generation) :
    file.take a.cursor = a.seen := by
  rw [← h.length]
  exact (List.prefix_iff_eq_take.mp (h.there same)).symm

theorem LogInvariant.respond (held : LogInvariant f) (asked : q ∈ f.asked)
    (shorter : ShorterIfReplaced f .respond) :
    (f.response q).offset ≤ f.file.length ∧ EndsLine (f.file.take (f.response q).offset) := by
  cases reset : (f.response q).reset with
  | true => exact offset_of_reset reset
  | false =>
      rcases reset_eq_false_iff.mp reset with ⟨a, since, inside⟩
      have same : f.generation = a.generation := by
        by_contra other
        exact absurd (shorter q asked a since other) (not_lt.mpr inside)
      have anchored := held.since q asked a since
      refine offset_of_delta since inside (held.size q asked a since same).2 ?_
      rw [anchored.take_cursor same]
      exact anchored.lineStart

theorem LogInvariant.step (held : LogInvariant f) {op : LogOp} (shorter : ShorterIfReplaced f op)
    (h : f.step op = some g) : LogInvariant g := by
  cases op with
  | append text =>
      cases h
      refine ⟨fun a mem => (held.anchor a mem).append text,
        fun q asked a since => (held.since q asked a since).append text,
        fun q asked a since same => ?_⟩
      rcases held.size q asked a since same with ⟨inside, within⟩
      refine ⟨inside, within.trans ?_⟩
      rw [List.length_append]
      exact Nat.le_add_right _ _
  | replaced =>
      cases h
      refine ⟨fun a mem => (held.anchor a mem).replaced,
        fun q asked a since => (held.since q asked a since).replaced,
        fun q asked a since same => ?_⟩
      have earlier := (held.since q asked a since).earlier
      dsimp only at same
      omega
  | ask lines fresh hideHttp =>
      cases h
      have anchored : ∀ a ∈ (if fresh then none else f.anchor),
          Anchored f.file f.generation a := by
        intro a since
        cases fresh with
        | true => cases since
        | false => exact held.anchor a since
      refine ⟨held.anchor, fun q asked a since => ?_, fun q asked a since same => ?_⟩
      · cases asked
        exact anchored a since
      · cases asked
        have there := (anchored a since).there same
        exact ⟨(anchored a since).length ▸ there.length_le, le_rfl⟩
  | respond =>
      rcases Option.map_eq_some_iff.mp h with ⟨q, asked, rfl⟩
      rcases held.respond asked shorter with ⟨inside, lineStart⟩
      refine ⟨fun a mem => ?_, fun q none => (nomatch none), fun q none => (nomatch none)⟩
      cases mem
      exact ⟨List.length_take_of_le inside, lineStart, le_rfl, fun _ => List.take_prefix _ _⟩
  | lost =>
      cases h
      exact ⟨held.anchor, fun q none => (nomatch none), fun q none => (nomatch none)⟩

theorem noticesRotation_respond (held : LogInvariant f) :
    NoticesRotation f .respond ↔ ShorterIfReplaced f .respond := by
  constructor
  · intro notices q asked a since other
    by_contra inside
    rw [not_lt] at inside
    have delta : (f.response q).reset = false := reset_eq_false_iff.mpr ⟨a, since, inside⟩
    rcases notices q asked delta with ⟨a', since', continues⟩
    have equal : a = a' := Option.mem_unique since since'
    exact other (equal ▸ continues.same)
  · intro shorter q asked delta
    rcases reset_eq_false_iff.mp delta with ⟨a, since, inside⟩
    have same : f.generation = a.generation := by
      by_contra other
      exact absurd (shorter q asked a since other) (not_lt.mpr inside)
    have anchored := held.since q asked a since
    refine ⟨a, since, same, anchored.lineStart,
      (f.file.drop a.cursor).take (q.size - a.cursor), f.file.drop q.size, ?_, ?_⟩
    · rw [← anchored.take_cursor same, List.append_assoc]
      have rest : f.file.drop q.size = (f.file.drop a.cursor).drop (q.size - a.cursor) := by
        rw [List.drop_drop, Nat.add_sub_cancel' inside]
      rw [rest, List.take_append_drop, List.take_append_drop]
    · rw [response_of_since since]
      exact (apiLogs_delta f.file q.lines q.hideHttp inside).2

/-- Every rotation of a history is noticed exactly if at every request after one the file is shorter
than the cursor. -/
theorem noticesRotation_iff (file : Bytes) (ops : List LogOp) :
    Meets LogFeed.step NoticesRotation { file } ops ↔
      Meets LogFeed.step ShorterIfReplaced { file } ops := by
  refine meets_congr (fun f op held => ?_) (fun _ _ _ held ok h => LogInvariant.step held ok h)
    (LogInvariant.initial file)
  cases op with
  | respond => exact noticesRotation_respond held
  | _ => exact Iff.rfl

/-- The file is rolled over and grows past the cursor before the next poll. -/
def grownAgain : List LogOp :=
  [.append "one\n".toUTF8.toList, .ask none true false, .respond, .replaced,
    .append "another one\n".toUTF8.toList, .ask none false false]

theorem rotation_missed :
    ¬∀ (file : Bytes) (ops : List LogOp), Meets LogFeed.step NoticesRotation { file } ops := by
  intro all
  have seen : (run LogFeed.step {} grownAgain).any fun f =>
      f.asked.any fun q => !(f.response q).reset &&
        q.since.all fun a => f.generation != a.generation := by decide +kernel
  rcases (Option.any_eq_true _ _).mp seen with ⟨f, ran, facts⟩
  rcases (Option.any_eq_true _ _).mp facts with ⟨q, asked, facts⟩
  rw [Bool.and_eq_true, Bool.not_eq_true'] at facts
  have notices := ((all [] (grownAgain ++ [.respond])).of_append ran).head
  rcases notices q asked facts.1 with ⟨a, since, continues⟩
  have other := facts.2
  rw [since, Option.all_some, bne_iff_ne] at other
  exact other continues.same

end GeneratorPi
