import PointStream.Proofs.Dispatch.Lines

/-!
# Reading lines

A transport hands out a stream in reads of any size. A buffered reader keeps what is left of the last read, and a
line is taken from it up to the line feed, through as many reads as it takes, but never more than one byte beyond
what a line may hold. The lines that are taken in this way depend on the stream alone, not on how it was split.
-/

namespace PointStream

/-! ### The first line of a stream -/

def firstLine (bytes : List UInt8) : List UInt8 := (linesOf bytes).headD []

theorem firstLine_lineFeed (rest : List UInt8) : firstLine (lineFeed :: rest) = [lineFeed] := by
  simp [firstLine, linesOf]

theorem firstLine_cons {b : UInt8} (inside : b ≠ lineFeed) (rest : List UInt8) :
    firstLine (b :: rest) = b :: firstLine rest := by
  rw [firstLine, linesOf, if_neg inside, firstLine]
  cases linesOf rest <;> rfl

theorem firstLine_append {front : List UInt8} (unfinished : lineFeed ∉ front) (rest : List UInt8) :
    firstLine (front ++ rest) = front ++ firstLine rest := by
  induction front with
  | nil => rfl
  | cons b front ih =>
    obtain ⟨apart, inside⟩ := List.ne_and_not_mem_of_not_mem_cons unfinished
    rw [List.cons_append, firstLine_cons (Ne.symm apart), ih inside, List.cons_append]

theorem firstLine_ne_nil {bytes : List UInt8} (some : bytes ≠ []) : firstLine bytes ≠ [] := by
  cases bytes with
  | nil => exact absurd rfl some
  | cons b rest =>
    by_cases finishes : b = lineFeed
    · simp [finishes, firstLine_lineFeed]
    · simp [firstLine_cons finishes]

theorem linesOf_of_ne_nil {bytes : List UInt8} (some : bytes ≠ []) :
    linesOf bytes = firstLine bytes :: linesOf (bytes.drop (firstLine bytes).length) := by
  induction bytes with
  | nil => exact absurd rfl some
  | cons b rest ih =>
    by_cases finishes : b = lineFeed
    · subst finishes
      rw [firstLine_lineFeed]
      simp [linesOf]
    · rw [firstLine_cons finishes, linesOf, if_neg finishes, List.length_cons, List.drop_succ_cons]
      cases rest with
      | nil => rfl
      | cons next rest => rw [ih (List.cons_ne_nil next rest)]

/-- The lines before the first that is too long. -/
def fitting (bytes : List UInt8) : List (List UInt8) :=
  (linesOf bytes).takeWhile fun line => decide (line.length ≤ lineLimit)

theorem fitting_of_short {bytes : List UInt8} (some : bytes ≠ []) (short : (firstLine bytes).length ≤ lineLimit) :
    fitting bytes = firstLine bytes :: fitting (bytes.drop (firstLine bytes).length) := by
  have first : decide ((firstLine bytes).length ≤ lineLimit) = true := decide_eq_true short
  rw [fitting, linesOf_of_ne_nil some, List.takeWhile_cons, if_pos first, fitting]

theorem fitting_of_long {bytes : List UInt8} (long : lineLimit < (firstLine bytes).length) :
    fitting bytes = [] ∧ linesOf bytes ≠ [] := by
  have some : bytes ≠ [] := by
    rintro rfl
    exact absurd long (Nat.not_lt_zero _)
  rw [fitting, linesOf_of_ne_nil some, List.takeWhile_cons_of_neg (by simpa using long)]
  exact ⟨rfl, List.cons_ne_nil _ _⟩

/-- A buffered reader: what is left of the last read, and the reads that are to come. The transport gives no more
when no read is left. -/
structure Inflow where
  held : List UInt8 := []
  reads : List (List UInt8)

/-- What asking for a request line comes to. -/
inductive Requested where
  | endOfStream
  | line (bytes : List UInt8)
  | tooLarge (size : Nat)
deriving DecidableEq

namespace Inflow

/-- The bytes that are yet to be taken. -/
def bytes (r : Inflow) : List UInt8 := r.held ++ r.reads.flatten

/-- Asks the transport for a read when nothing is left of the last one. -/
def fill : Inflow → Inflow
  | ⟨[], read :: reads⟩ => ⟨read, reads⟩
  | r => r

def consume (r : Inflow) (n : Nat) : Inflow := { r with held := r.held.drop n }

@[simp] theorem bytes_fill (r : Inflow) : r.fill.bytes = r.bytes := by
  unfold fill
  split <;> rfl

/-- What is available within a limit stands at the front of the stream. -/
theorem bytes_eq_available (r : Inflow) (limit : Nat) :
    r.bytes = r.fill.held.take limit ++ (r.fill.consume (r.fill.held.take limit).length).bytes := by
  have cut : r.fill.held.take limit ++ r.fill.held.drop (r.fill.held.take limit).length = r.fill.held := by
    rw [List.length_take, List.take_eq_take_min, List.take_append_drop]
  rw [← bytes_fill, bytes, bytes, consume, ← List.append_assoc, cut]

/-- Takes bytes through the next line feed, but not more than the limit. What stands before the line feed may come
in many reads. -/
def readUntil (limit : Nat) (r : Inflow) : List UInt8 × Inflow :=
  let available := r.fill.held.take limit
  if lineFeed ∈ available then
    let size := available.idxOf lineFeed + 1
    (available.take size, r.fill.consume size)
  else if available = [] then ([], r.fill)
  else
    let further := readUntil (limit - available.length) (r.fill.consume available.length)
    (available ++ further.1, further.2)
termination_by r.bytes.length
decreasing_by
  have split := congrArg List.length (r.bytes_eq_available limit)
  have taken : 0 < (r.fill.held.take limit).length := List.length_pos_iff.mpr ‹_›
  rw [List.length_append] at split
  omega

/-- Takes one request line. What is asked for is one byte more than a line may hold, so that a line that is too long
shows. -/
def requestLine (r : Inflow) : Requested × Inflow :=
  let (line, r) := r.readUntil (lineLimit + 1)
  if lineLimit < line.length then (.tooLarge line.length, r)
  else if line = [] then (.endOfStream, r)
  else (.line line, r)

/-- The transport gives something at each read. -/
def IsFlowing (r : Inflow) : Prop := ∀ read ∈ r.reads, read ≠ []

theorem IsFlowing.fill {r : Inflow} (flowing : r.IsFlowing) : r.fill.IsFlowing := by
  unfold Inflow.fill
  split
  next read reads => exact fun later member => flowing later (List.mem_cons_of_mem read member)
  next => exact flowing

/-- Nothing is available only at the end of the stream. -/
theorem IsFlowing.bytes_eq_nil {r : Inflow} (flowing : r.IsFlowing) (nothing : r.fill.held = []) : r.bytes = [] := by
  unfold Inflow.fill at nothing
  split at nothing
  next read reads => exact absurd nothing (flowing read List.mem_cons_self)
  next no_read =>
    obtain ⟨held, reads⟩ := r
    cases reads with
    | nil => simpa [bytes] using nothing
    | cons read reads => exact absurd (congrArg (Inflow.mk · (read :: reads)) nothing) (no_read read reads)

/-- No byte is lost: what is taken stands before what is left. -/
theorem readUntil_append (limit : Nat) (r : Inflow) :
    (r.readUntil limit).1 ++ (r.readUntil limit).2.bytes = r.bytes := by
  fun_induction readUntil limit r with
  | case1 limit r available found size =>
    have inside : size ≤ available.length := List.idxOf_lt_length_iff.mpr found
    have available_le : available.length ≤ min limit r.fill.held.length := Nat.le_of_eq List.length_take
    have line : available.take size = r.fill.held.take size := by
      rw [List.take_take, Nat.min_eq_left (by omega)]
    rw [line, bytes, consume, ← List.append_assoc, List.take_append_drop, ← bytes_fill r, bytes]
  | case2 limit r available unfound nothing => exact r.bytes_fill
  | case3 limit r available unfound some further ih =>
    rw [List.append_assoc, ih]
    exact (r.bytes_eq_available limit).symm

theorem IsFlowing.readUntil (limit : Nat) {r : Inflow} (flowing : r.IsFlowing) : (r.readUntil limit).2.IsFlowing := by
  fun_induction Inflow.readUntil limit r with
  | case1 | case2 => exact flowing.fill
  | case3 limit r available unfound some further ih => exact ih flowing.fill

/-- However the stream is split, what is taken is its first line, as far as the limit goes. -/
theorem readUntil_eq_firstLine (limit : Nat) {r : Inflow} (flowing : r.IsFlowing) :
    (r.readUntil limit).1 = (firstLine r.bytes).take limit := by
  fun_induction readUntil limit r with
  | case1 limit r available found size =>
    obtain ⟨front, back, here, unfinished⟩ := List.eq_append_cons_of_mem found
    have size_eq : size = (front ++ [lineFeed]).length := by
      simp [size, here, List.idxOf_append_of_notMem unfinished]
    have available_le : available.length ≤ limit := List.length_take_le limit _
    have fits : (front ++ [lineFeed]).length ≤ limit := by
      rw [here] at available_le
      simp at available_le ⊢
      omega
    have whole : r.bytes = available ++ _ := r.bytes_eq_available limit
    rw [whole, size_eq, here]
    simp only [List.append_cons front lineFeed back, List.take_left]
    rw [List.append_assoc, List.append_assoc, firstLine_append unfinished, List.singleton_append, firstLine_lineFeed,
      List.take_of_length_le fits]
  | case2 limit r available unfound nothing =>
    -- Either the limit is used up, or the stream has ended.
    rcases List.take_eq_nil_iff.mp nothing with rfl | ended
    · rw [List.take_zero]
    · rw [flowing.bytes_eq_nil ended, firstLine, linesOf, List.headD_nil, List.take_nil]
  | case3 limit r available unfound some further ih =>
    have whole : r.bytes = available ++ _ := r.bytes_eq_available limit
    have available_le : available.length ≤ limit := List.length_take_le limit _
    rw [whole, firstLine_append unfound, List.take_append, List.take_of_length_le available_le]
    exact congrArg _ (ih flowing.fill)

theorem requestLine_of_line {r rest : Inflow} {line : List UInt8} (taken : r.requestLine = (.line line, rest)) :
    r.readUntil (lineLimit + 1) = (line, rest) ∧ line ≠ [] ∧ line.length ≤ lineLimit := by
  unfold requestLine at taken
  dsimp only at taken
  split at taken
  next => cases taken
  next fits =>
    split at taken
    next => cases taken
    next some =>
      cases taken
      exact ⟨rfl, some, Nat.not_lt.mp fits⟩

/-- Hands over request lines one after the other, until there is none or one that is too long. All that is kept of a
line is what the handler makes of it. -/
def serve {σ : Type} (handle : σ → List UInt8 → σ) (kept : σ) (r : Inflow) : σ × Requested :=
  match _taken : r.requestLine with
  | (.line line, rest) => rest.serve handle (handle kept line)
  | (last, _) => (kept, last)
termination_by r.bytes.length
decreasing_by
  obtain ⟨read, some, -⟩ := requestLine_of_line _taken
  have split := congrArg List.length (r.readUntil_append (lineLimit + 1))
  rw [read, List.length_append] at split
  dsimp only at split
  have longer := List.length_pos_iff.mpr some
  omega

/-- A request line that is taken is the first line of the stream, and the rest is left. -/
theorem firstLine_of_requestLine {r rest : Inflow} {line : List UInt8} (flowing : r.IsFlowing)
    (taken : r.requestLine = (.line line, rest)) :
    firstLine r.bytes = line ∧ r.bytes.drop line.length = rest.bytes ∧ rest.IsFlowing := by
  obtain ⟨read, some, short⟩ := requestLine_of_line taken
  have first := readUntil_eq_firstLine (lineLimit + 1) flowing
  have split := r.readUntil_append (lineLimit + 1)
  have flows := flowing.readUntil (lineLimit + 1)
  rw [read] at first split flows
  dsimp only at first split flows
  refine ⟨?_, by rw [← split, List.drop_left], flows⟩
  -- The limit of what is asked for has not been reached, so the line is whole.
  have length := congrArg List.length first
  rw [List.length_take] at length
  rw [first, List.take_of_length_le (by omega)]

/-- Where no request line is taken the stream has ended or its first line is too long. -/
theorem fitting_of_no_line {r rest : Inflow} {last : Requested} (flowing : r.IsFlowing)
    (taken : r.requestLine = (last, rest)) (no_line : ∀ line, last ≠ .line line) :
    fitting r.bytes = [] ∧
      last = if fitting r.bytes = linesOf r.bytes then .endOfStream else .tooLarge (lineLimit + 1) := by
  have first := readUntil_eq_firstLine (lineLimit + 1) flowing
  unfold requestLine at taken
  dsimp only at taken
  rw [first] at taken
  split at taken
  next long =>
    cases taken
    rw [List.length_take] at long ⊢
    have beyond : lineLimit < (firstLine r.bytes).length := by omega
    obtain ⟨nothing, some⟩ := fitting_of_long beyond
    refine ⟨nothing, ?_⟩
    rw [nothing, if_neg some.symm, Nat.min_eq_left (by omega)]
  next =>
    split at taken
    next nothing =>
      cases taken
      have ended : r.bytes = [] := by
        by_contra some
        exact firstLine_ne_nil some ((List.take_eq_nil_iff.mp nothing).resolve_left (Nat.succ_ne_zero lineLimit))
      rw [ended]
      exact ⟨rfl, rfl⟩
    next =>
      cases taken
      exact (no_line _ rfl).elim

/-- However a stream is split into reads, a handler is given its lines up to the first that is too long, each once and
in their order. -/
theorem serve_eq {σ : Type} (handle : σ → List UInt8 → σ) (kept : σ) {r : Inflow} (flowing : r.IsFlowing) :
    r.serve handle kept = ((fitting r.bytes).foldl handle kept,
      if fitting r.bytes = linesOf r.bytes then .endOfStream else .tooLarge (lineLimit + 1)) := by
  fun_induction serve handle kept r with
  | case1 kept r line rest taken ih =>
    obtain ⟨-, some, short⟩ := requestLine_of_line taken
    obtain ⟨whole, rest_eq, flows⟩ := firstLine_of_requestLine flowing taken
    have some_bytes : r.bytes ≠ [] := by
      intro ended
      rw [ended] at whole
      exact some whole.symm
    have lines := linesOf_of_ne_nil some_bytes
    have fits := fitting_of_short some_bytes (whole ▸ short)
    rw [whole, rest_eq] at lines fits
    -- The same line stands in front of all lines and of those that fit.
    simp only [ih flows, lines, fits, List.foldl_cons, List.cons.injEq, true_and]
  | case2 kept r last rest no_line taken =>
    obtain ⟨nothing, ends⟩ := fitting_of_no_line flowing taken no_line
    rw [← ends, nothing, List.foldl_nil]

end Inflow

end PointStream
