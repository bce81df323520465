import GeneratorPi.LogDelivery

/-!
# The tails of the application log

`_tail_with_cursor` reads blocks backward and `_tail_meaningful_with_cursor` a window of fixed size
(`genpi/routes/core.py`).  Either begins in the middle of a line, and perhaps of a character, but a
newline is never part of one: from the first newline on, what is read has the lines of the whole
file.  So the blocks show its last lines (`tailWithCursor_eq_wholeTail`), and the window those of
its lines that are not routine (`filteredTail_of_newline`).
-/

namespace GeneratorPi

open PyText Utf8

/-! ## The whole file -/

/-- The complete lines of what is read, as a tail cuts them. -/
def textLines (data : Bytes) : List Text := splitlines (dropPartial (decode data))

/-- The offset just after the last newline. -/
def lastLineEnd (file : Bytes) : ℕ := (file.rdropWhile (· != 10)).length

/-- The tail of the file read and decoded at once. -/
def wholeTail (file : Bytes) (n : ℕ) : List Text × ℕ := ((textLines file).rtake n, lastLineEnd file)

variable {file : Bytes} {n pos : ℕ}

theorem textLines_eq (data : Bytes) : textLines data = splitlines (endLines (fileLines data)) := by
  rw [textLines, dropPartial_decode]

theorem fileLines_append {a : Bytes} (ends : EndsLine a) (b : Bytes) :
    fileLines (a ++ b) = fileLines a ++ fileLines b := by
  rw [fileLines, completeLines_append ends, List.map_append, fileLines, fileLines]

/-- What follows the end of a line has its lines whatever stands before. -/
theorem textLines_append {a : Bytes} (ends : EndsLine a) (b : Bytes) :
    textLines (a ++ b) = textLines a ++ textLines b := by
  rw [textLines_eq, fileLines_append ends, splitlines_endLines_append, textLines_eq, textLines_eq]

theorem count_le_textLines (data : Bytes) : data.count 10 ≤ (textLines data).length := by
  rw [count_newline, textLines_eq]
  exact length_le_splitlines_endLines _

theorem endsLine_concat (a : Bytes) : EndsLine (a ++ [10]) := Or.inr List.getLast?_concat

/-! ## The cursor -/

theorem rfindNewline_append (a : Bytes) {b : Bytes} {i : ℕ} (found : rfindNewline b = some i) :
    rfindNewline (a ++ b) = some (a.length + i) := by
  induction a with
  | nil => rw [List.nil_append, List.length_nil, Nat.zero_add, found]
  | cons x a ih =>
      rw [List.cons_append, rfindNewline, ih, List.length_cons, Nat.succ_add]

theorem cursorAfter_zero (file : Bytes) : cursorAfter 0 file = lastLineEnd file := by
  unfold cursorAfter lastLineEnd
  split
  next i found =>
    obtain ⟨split, clear⟩ := eq_of_rfindNewline found
    have bound := (List.getElem?_eq_some_iff.mp (getElem?_of_rfindNewline found)).1
    have partialLine : ∀ b ∈ file.drop (i + 1), (b != 10) = true := fun b mem => by
      rw [bne_iff_ne]
      exact fun newline => clear (newline ▸ mem)
    have kept : file.rdropWhile (· != 10) = file.take i ++ [10] := by
      conv_lhs => rw [split, ← List.singleton_append, ← List.append_assoc]
      rw [List.rdropWhile, List.reverse_append,
        List.dropWhile_append_of_pos fun b mem => partialLine b (List.mem_reverse.mp mem),
        ← List.rdropWhile.eq_def, List.rdropWhile_concat_neg _ _ _ (by decide)]
    rw [kept, List.length_append, List.length_take_of_le (by omega), List.length_singleton]
    omega
  next none =>
    have clear := rfindNewline_eq_none.mp none
    have nothing : file.rdropWhile (· != 10) = [] := by
      rw [List.rdropWhile_eq_nil_iff]
      intro b mem
      rw [bne_iff_ne]
      exact fun newline => clear (newline ▸ mem)
    rw [nothing, List.length_nil]

/-- Data that reaches the end of the file and holds a newline has the file's last one. -/
theorem cursorAfter_drop (newline : 10 ∈ file.drop pos) :
    cursorAfter pos (file.drop pos) = lastLineEnd file := by
  rw [← cursorAfter_zero]
  cases found : rfindNewline (file.drop pos) with
  | none => exact absurd newline (rfindNewline_eq_none.mp found)
  | some i =>
      have inside : pos ≤ file.length := by
        by_contra past
        rw [List.drop_eq_nil_of_le (Nat.le_of_not_le past)] at newline
        cases newline
      have whole := rfindNewline_append (file.take pos) found
      rw [List.take_append_drop, List.length_take_of_le inside] at whole
      simp only [cursorAfter, found, whole]
      omega

/-! ## Blocks from the end -/

/-- The loop of `_read_tail_block`: a block is put in front of the data. -/
def readBack (file : Bytes) (n : ℕ) : ℕ → Bytes → ℕ → Bytes × ℕ
  | 0, data, pos => (data, pos)
  | blocks + 1, data, pos =>
      if 0 < pos ∧ data.count 10 ≤ n then
        let step := min 4096 pos
        let pos := pos - step
        readBack file n blocks ((file.drop pos).take step ++ data) pos
      else (data, pos)

/-- The data is the end of the file from the position that is reached. -/
theorem readBack_eq (file : Bytes) (n blocks pos : ℕ) :
    readBack file n blocks (file.drop pos) pos =
      (file.drop (tailStart file n blocks pos), tailStart file n blocks pos) := by
  induction blocks generalizing pos with
  | zero => rfl
  | succ blocks ih =>
      unfold readBack tailStart
      split
      next =>
        have joined : (file.drop (pos - min 4096 pos)).take (min 4096 pos) ++ file.drop pos =
            file.drop (pos - min 4096 pos) := by
          have block : pos - min 4096 pos + min 4096 pos = pos := by omega
          conv_rhs => rw [← List.take_append_drop (min 4096 pos) (file.drop (pos - min 4096 pos))]
          rw [List.drop_drop, block]
        dsimp only
        rw [joined]
        exact ih _
      next => rfl

theorem rtake_append_of_le {α : Type} (l : List α) {m : List α} (enough : n ≤ m.length) :
    (l ++ m).rtake n = m.rtake n := by
  rw [List.rtake, List.rtake, List.length_append, Nat.add_sub_assoc enough, List.drop_append,
    List.drop_eq_nil_of_le (Nat.le_add_right _ _), List.nil_append, Nat.add_sub_cancel_left]

/-- The rest of the file behind the first newline of its end. -/
theorem split_at_newline (newline : 10 ∈ file.drop pos) :
    ∃ a rest, 10 ∉ a ∧ file.drop pos = a ++ 10 :: rest ∧
      file = (file.take pos ++ a ++ [10]) ++ rest := by
  obtain ⟨a, rest, split, free⟩ := List.eq_append_cons_of_mem newline
  refine ⟨a, rest, free, split, ?_⟩
  rw [List.append_assoc, List.append_assoc, List.singleton_append, ← split, List.take_append_drop]

/-- An end of the file with more than `n` newlines has the last `n` lines of the whole. -/
theorem rtake_textLines_drop (more : n < (file.drop pos).count 10) :
    (textLines (file.drop pos)).rtake n = (textLines file).rtake n := by
  obtain ⟨a, rest, free, split, whole⟩ :=
    split_at_newline (List.count_pos_iff.mp (Nat.zero_lt_of_lt more))
  have enough : n ≤ (textLines rest).length := by
    have counted := count_le_textLines rest
    rw [split, List.count_append, List.count_eq_zero.mpr free, List.count_cons_self] at more
    omega
  have left : textLines (file.drop pos) = textLines (a ++ [10]) ++ textLines rest := by
    rw [split, ← List.singleton_append, ← List.append_assoc, textLines_append (endsLine_concat a)]
  have right : textLines file =
      textLines (file.take pos ++ a ++ [10]) ++ textLines rest := by
    conv_lhs => rw [whole]
    exact textLines_append (endsLine_concat _) rest
  rw [left, right, rtake_append_of_le _ enough, rtake_append_of_le _ enough]

/-- The tail of the blocks is the tail of the whole file. -/
theorem tailWithCursor_eq (file : Bytes) (n : ℕ) : tailWithCursor file n = wholeTail file n := by
  by_cases empty : file = []
  · subst empty
    exact Prod.ext (List.rtake_nil n).symm rfl
  · rw [tailWithCursor, if_neg empty, readTailBlock, wholeTail]
    rcases tailStart_spec file n (le_refl file.length) with all | more
    · rw [all, List.drop_zero]
      exact Prod.ext rfl (cursorAfter_zero file)
    · have newline : 10 ∈ file.drop (tailStart file n file.length file.length) :=
        List.count_pos_iff.mp (Nat.zero_lt_of_lt more)
      exact Prod.ext (rtake_textLines_drop more) (cursorAfter_drop newline)

/-- The blocks are the end of the file, and the tail made of them is that of the whole file: its
last lines and the offset behind its last newline.  (No request asks for `n = 0`, where `[-n:]`
would not be the last `n`.) -/
theorem tailWithCursor_eq_wholeTail (file : Bytes) (n : ℕ) :
    readBack file n file.length [] file.length = readTailBlock file n ∧
      tailWithCursor file n = wholeTail file n := by
  have blocks := readBack_eq file n file.length file.length
  rw [List.drop_length] at blocks
  exact ⟨blocks, tailWithCursor_eq file n⟩

/-! ## The scanned window -/

/-- Where the window that the filter scans begins. -/
def windowStart (file : Bytes) : ℕ := file.length - applogFilterScanBytes

/-- Behind the window's first newline, or the beginning of a file that the window covers. -/
def firstWhole (file : Bytes) : ℕ :=
  if windowStart file = 0 then 0
  else windowStart file + ((file.drop (windowStart file)).takeWhile (· != 10)).length + 1

/-- A file split where the first whole line of its window begins. -/
theorem split_at_firstWhole (newline : 10 ∈ file.drop (windowStart file)) :
    EndsLine (file.take (firstWhole file)) ∧ firstWhole file ≤ file.length ∧
      (windowStart file = 0 ∧ firstWhole file = 0 ∨
        0 < windowStart file ∧ ∃ a, 10 ∉ a ∧
          file.drop (windowStart file) = a ++ 10 :: file.drop (firstWhole file)) := by
  unfold firstWhole
  split
  next covers => exact ⟨Or.inl rfl, Nat.zero_le _, Or.inl ⟨covers, rfl⟩⟩
  next cuts =>
    obtain ⟨a, rest, free, split, whole⟩ := split_at_newline newline
    have all : ∀ b ∈ a, (b != 10) = true := fun b mem => by
      rw [bne_iff_ne]
      exact fun newline => free (newline ▸ mem)
    have first : (file.drop (windowStart file)).takeWhile (· != 10) = a := by
      rw [split, List.takeWhile_append_of_pos all, List.takeWhile_cons_of_neg (by decide),
        List.append_nil]
    have inside : windowStart file ≤ file.length := Nat.sub_le _ _
    have front : (file.take (windowStart file) ++ a ++ [10]).length =
        windowStart file + a.length + 1 := by
      rw [List.length_append, List.length_append, List.length_take_of_le inside,
        List.length_singleton]
    have ends : file.take (windowStart file + a.length + 1) =
        file.take (windowStart file) ++ a ++ [10] :=
      (congrArg (List.take _) whole).trans (List.take_left' front)
    have behind : file.drop (windowStart file + a.length + 1) = rest :=
      (congrArg (List.drop _) whole).trans (List.drop_left' front)
    rw [first]
    refine ⟨?_, ?_, Or.inr ⟨Nat.pos_of_ne_zero cuts, a, free, ?_⟩⟩
    · rw [ends]
      exact endsLine_concat _
    · have total := congrArg List.length whole
      rw [List.length_append, front] at total
      omega
    · rw [behind]
      exact split

/-- The decoded window without its first line, which is cut. -/
theorem dropFirst_decode {a rest : Bytes} (free : 10 ∉ a) :
    ((decode (a ++ 10 :: rest)).dropWhile (· != '\n')).drop 1 = decode rest := by
  have plain : ∀ c ∈ decode a, (c != '\n') = true := fun c mem => by
    rw [bne_iff_ne]
    exact fun newline => newline_not_mem_decodeFrom none free (newline ▸ mem)
  have decoded : decode (a ++ 10 :: rest) = decode a ++ '\n' :: decode rest :=
    decodeFrom_newline none a rest
  rw [decoded, List.dropWhile_append_of_pos plain, List.dropWhile_cons_of_neg (by decide)]
  rfl

/-- What the filtered tail shows of a window whose whole lines begin at `first`. -/
structure FilteredTail (file : Bytes) (n first : ℕ) : Prop where
  cursor : (tailMeaningfulWithCursor file n).2 = (tailWithCursor file n).2
  lines : (tailMeaningfulWithCursor file n).1 =
    ((textLines (file.drop first)).filter (!isRoutineHttp ·)).rtake n
  /-- The lines that are filtered are those of the file, but for the ones that begin earlier. -/
  ofFile : textLines file = textLines (file.take first) ++ textLines (file.drop first)
  /-- They are the ones completed up to the cursor. -/
  upToCursor : textLines (file.drop first) =
    splitlines (endLines (linesBetween file first (tailWithCursor file n).2))
  /-- A delta from the cursor begins with the line after them. -/
  continues : ∀ (more : Bytes) (size : ℕ), (tailWithCursor file n).2 ≤ size →
    linesBetween (file ++ more) first size =
      linesBetween file first (tailWithCursor file n).2 ++
        linesBetween (file ++ more) (tailWithCursor file n).2 size

/-- No line begins behind a position that no newline follows. -/
theorem le_of_endsLine {a c : ℕ} (within : a ≤ file.length) (start : EndsLine (file.take a))
    (clear : 10 ∉ file.drop c) : a ≤ c := by
  by_contra behind
  rcases start with empty | newline
  · have none : (file.take a).length = 0 := by rw [empty, List.length_nil]
    rw [List.length_take_of_le within] at none
    omega
  · rw [List.getLast?_take, if_neg (by omega)] at newline
    have here : file[a - 1]? = some 10 := by
      rwa [List.getElem?_eq_getElem (by omega), Option.some_or,
        ← List.getElem?_eq_getElem (by omega)] at newline
    refine clear (List.mem_of_getElem? (i := a - 1 - c) ?_)
    rw [List.getElem?_drop, Nat.add_sub_cancel' (by omega), here]

theorem linesBetween_to_end (file : Bytes) (a : ℕ) :
    linesBetween file a file.length = fileLines (file.drop a) := by
  rw [linesBetween, List.take_of_length_le (List.length_drop.le), fileLines]

/-- A window that holds a newline shows the lines of the file that begin behind it, but for the
routine ones, and the cursor of the unfiltered tail. -/
theorem filteredTail_of_newline (file : Bytes) (n : ℕ)
    (newline : 10 ∈ file.drop (windowStart file)) :
    FilteredTail file n (firstWhole file) := by
  obtain ⟨start, inside, window⟩ := split_at_firstWhole newline
  have some_text : file ≠ [] := by
    rintro rfl
    rw [List.drop_nil] at newline
    cases newline
  have clear := tailWithCursor_rest file n
  have lineStart := (tail_cursor file n false).2
  have within := (tail_cursor file n false).1
  simp only [Bool.false_eq_true, if_false] at lineStart within
  have ordered := le_of_endsLine inside start clear
  have filtered : tailMeaningfulWithCursor file n =
      (((splitlines (dropPartial (if 0 < windowStart file then
        ((decode (file.drop (windowStart file))).dropWhile (· != '\n')).drop 1
          else decode (file.drop (windowStart file))))).filter (!isRoutineHttp ·)).rtake n,
        cursorAfter (windowStart file) (file.drop (windowStart file))) := by
    rw [tailMeaningfulWithCursor, if_neg some_text, windowStart]
  refine ⟨?_, ?_, ?_, ?_, ?_⟩
  · rw [tailWithCursor_eq, filtered, wholeTail]
    dsimp only
    rw [cursorAfter_drop newline]
  · rw [filtered, textLines]
    dsimp only
    rcases window with ⟨covers, first⟩ | ⟨cut, a, free, split⟩
    · rw [covers, first, if_neg (Nat.lt_irrefl 0)]
    · rw [if_pos cut, split, dropFirst_decode free]
  · rw [← textLines_append start, List.take_append_drop]
  · rw [textLines_eq, ← linesBetween_to_end, linesBetween_trans ordered within lineStart,
      linesBetween_length clear, List.append_nil]
  · intro more size reached
    rw [linesBetween_trans ordered reached (endsLine_take_append more within lineStart),
      linesBetween_append more within]

/-- A fault between two polls, and a line that is still being written. -/
def faultBetweenPolls : Bytes := bytes " -> GET / 200\nrelay fault\n -> GET / 304\nrel"

theorem filteredTail_faultBetweenPolls :
    10 ∈ faultBetweenPolls.drop (windowStart faultBetweenPolls) ∧
      tailMeaningfulWithCursor faultBetweenPolls 5 = (["relay fault".toList], 40) ∧
      FilteredTail faultBetweenPolls 5 (firstWhole faultBetweenPolls) := by
  have newline : 10 ∈ faultBetweenPolls.drop (windowStart faultBetweenPolls) := by decide +kernel
  exact ⟨newline, by decide +kernel, filteredTail_of_newline faultBetweenPolls 5 newline⟩

end GeneratorPi
