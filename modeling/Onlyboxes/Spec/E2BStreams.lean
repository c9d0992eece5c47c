import Mathlib.Data.List.Induction
import Onlyboxes.Worker.Process

/-!
# Output that the E2B bridge keeps, and files that it exports

Commands in a sandbox send their output in chunks of any size. The buffer keeps the
beginning of it and remembers whether there was more. Files are exported through readers
that stop at a limit, in the worker or in a script that runs in the sandbox.

## Key results

- `limited_buffer_truncates`: however the output is cut into chunks, the buffer holds what
  cutting it at once gives
- `export_limits_exact`: however a file is cut into reads, it is passed on up to the limit,
  and one that is larger ends with an error
-/

namespace Onlyboxes.Worker

/-! ## Output -/

/-- What a buffer holds once `written` was written to it. -/
structure LimitedBuffer.Holds (b : LimitedBuffer) (limit : Nat) (written : Bytes) : Prop where
  limit_eq : b.limit = limit
  buf_eq : b.buf = written.take limit
  truncated_iff : b.truncated = true ↔ limit < written.length

theorem LimitedBuffer.Holds.write {b : LimitedBuffer} {limit : Nat} {written : Bytes}
    (h : b.Holds limit written) (hlimit : 0 < limit) (data : Bytes) :
    (b.write data).Holds limit (written ++ data) := by
  obtain ⟨hl, hb, ht⟩ := h
  have hlen : b.buf.length = min limit written.length := by rw [hb, List.length_take]
  have hpos : ¬ b.limit < 0 ∧ b.limit ≠ 0 := by omega
  unfold LimitedBuffer.write
  dsimp only
  rw [if_neg hpos.1, if_neg hpos.2]
  split
  · rename_i hempty
    rw [List.length_eq_zero_iff.mp hempty, List.append_nil]
    exact ⟨hl, hb, ht⟩
  · rw [hlen]
    split
    · -- The buffer is full.
      refine ⟨hl, ?_, iff_of_true rfl (by rw [List.length_append]; omega)⟩
      rw [List.take_append_of_le_length (by omega)]
      exact hb
    · -- The buffer holds all that was written so far.
      rw [hb, List.take_of_length_le (by omega)]
      split
      · refine ⟨hl, ?_, iff_of_true rfl (by rw [List.length_append]; omega)⟩
        rw [List.take_append, List.take_of_length_le (l := written) (by omega)]
        exact congrArg (written ++ data.take ·) (by omega)
      · refine ⟨hl, ?_, ht.trans (by rw [List.length_append]; omega)⟩
        rw [List.take_of_length_le (by rw [List.length_append]; omega)]

/-- The buffer is a truncation of all that is written, however it is cut into chunks, and
    it never holds more than its limit. -/
theorem limited_buffer_truncates (limit : Nat) (hlimit : 0 < limit) (chunks : List Bytes) :
    (chunks.foldl LimitedBuffer.write { limit := limit }).buf =
        chunks.flatten.take (min limit chunks.flatten.length) ∧
      ((chunks.foldl LimitedBuffer.write { limit := limit }).truncated = true ↔
        limit < chunks.flatten.length) ∧
      ∀ writes, writes <+: chunks →
        (writes.foldl LimitedBuffer.write { limit := limit }).buf.length ≤ limit := by
  have hholds : ∀ chunks : List Bytes,
      (chunks.foldl LimitedBuffer.write { limit := limit }).Holds limit chunks.flatten := by
    intro chunks
    induction chunks using List.reverseRecOn with
    | nil => exact ⟨rfl, List.take_nil.symm, iff_of_false Bool.false_ne_true (Nat.not_lt_zero _)⟩
    | append_singleton chunks data ih =>
      rw [List.foldl_concat, List.flatten_concat]
      exact ih.write hlimit data
  refine ⟨?_, (hholds chunks).truncated_iff, fun writes _ => ?_⟩
  · rw [(hholds chunks).buf_eq, List.take_eq_take_min]
  · rw [(hholds writes).buf_eq, List.length_take]
    exact Nat.min_le_left _ _

/-- A chunk that ends at the limit does not truncate, an empty one after it neither. -/
theorem limited_buffer_truncates_two :
    (([[1], [2], []] : List Bytes).foldl LimitedBuffer.write { limit := 2 }).truncated = false :=
  eq_false_of_ne_true fun h => absurd ((limited_buffer_truncates 2 (by decide) [[1], [2], []]).2.1.mp h)
    (by decide)

/-! ## Exports -/

section Exports

variable {E : Type} {source : Source E} {limit prompts : Nat} {reqs : List ReadRequest}

/-- A read gives some bytes, at least one if any is ready, or all that is left and the end. -/
theorem Source.read_cases (source : Source E) (req : ReadRequest) {size : Nat} (hsize : 0 < size) :
    (∃ n ≤ size, (0 < req.ready → 0 < (source.bytes.take n).length) ∧
      source.read req size = (⟨source.bytes.drop n, source.ending⟩, source.bytes.take n, none)) ∨
    (source.bytes.length ≤ size ∧ ∃ rest, source.read req size = (rest, source.bytes, some source.ending)) := by
  unfold Source.read
  dsimp only
  split
  · rename_i hend
    rw [List.take_of_length_le hend.2.1]
    exact .inr ⟨by omega, _, rfl⟩
  · rename_i hnot
    refine .inl ⟨min size req.ready, Nat.min_le_left _ _, fun hready => ?_, rfl⟩
    rw [List.length_take]
    by_contra hzero
    have hempty : source.bytes.length = 0 := by omega
    exact hnot ⟨by omega, by omega, .inr (List.length_eq_zero_iff.mp hempty)⟩

/-- What a consumer may see of a stream: bytes from its beginning up to the limit, and in
    the end all of these, followed by the end of the stream, or the error if there are more
    bytes. It sees the end if bytes are ready more often than there are any. -/
structure Exact (source : Source E) (limit prompts : Nat) (seen : Bytes × Option (StreamEnd E)) :
    Prop where
  bytes : seen.1 <+: source.bytes.take limit
  ended : ∀ err, seen.2 = some err → seen.1 = source.bytes.take limit ∧
    err = if source.bytes.length ≤ limit then source.ending else .tooLarge
  ends : source.bytes.length < prompts → seen.2.isSome = true

/-- The end of the stream, within the limit. -/
theorem Exact.ending (h : source.bytes.length ≤ limit) :
    Exact source limit prompts (source.bytes, some source.ending) := by
  have htake := List.take_of_length_le h
  refine ⟨⟨[], (List.append_nil _).trans htake.symm⟩, ?_, fun _ => rfl⟩
  rintro _ ⟨rfl⟩
  exact ⟨htake.symm, (if_pos h).symm⟩

/-- Another byte, once the limit is used up. -/
theorem Exact.tooLarge (h : 0 < source.bytes.length) :
    Exact source 0 prompts ([], some .tooLarge) := by
  refine ⟨List.nil_prefix, ?_, fun _ => rfl⟩
  rintro _ ⟨rfl⟩
  exact ⟨rfl, (if_neg (Nat.not_le_of_gt h)).symm⟩

/-- A stream of which some bytes were read. -/
theorem Exact.chunk {n k : Nat} {seen : Bytes × Option (StreamEnd E)}
    (h : Exact ⟨source.bytes.drop n, source.ending⟩ (limit - (source.bytes.take n).length) prompts seen)
    (hn : (source.bytes.take n).length ≤ limit) (hk : k ≤ (source.bytes.take n).length) :
    Exact source limit (prompts + k) (seen.map (source.bytes.take n ++ ·) id) := by
  have htake : source.bytes.take limit = source.bytes.take n ++
      (source.bytes.drop n).take (limit - (source.bytes.take n).length) := by
    conv_lhs => rw [← List.take_append_drop n source.bytes, List.take_append, List.take_of_length_le hn]
  have hlength := congrArg List.length (List.take_append_drop n source.bytes)
  rw [List.length_append] at hlength
  refine ⟨?_, fun err herr => ?_, fun hprompts => h.ends (by dsimp only; omega)⟩
  · rw [htake]
    exact (List.prefix_append_right_inj _).mpr h.bytes
  · obtain ⟨hseen, rfl⟩ := h.ended err herr
    rw [htake]
    exact ⟨congrArg (_ ++ ·) hseen, if_congr (by dsimp only; omega) rfl rfl⟩

/-- One read after another, through the reader of the worker. -/
theorem consume_read_exact (hsizes : ∀ req ∈ reqs, 0 < req.size) :
    Exact source limit (reqs.countP (0 < ·.ready))
      (LimitReader.consume LimitReader.read ⟨source, limit⟩ reqs) := by
  induction reqs generalizing source limit with
  | nil => exact ⟨List.nil_prefix, nofun, fun h => absurd h (Nat.not_lt_zero _)⟩
  | cons req reqs ih =>
    obtain ⟨hsize, hsizes⟩ := List.forall_mem_cons.mp hsizes
    rw [LimitReader.consume, LimitReader.read, if_neg (by omega), LimitReader.limited, List.countP_cons]
    simp only [decide_eq_true_eq]
    by_cases hlimit : limit > 0
    · rw [if_pos hlimit]
      obtain ⟨n, hn, hready, hres⟩ | ⟨hall, rest, hres⟩ :=
        source.read_cases req (by omega : 0 < min req.size.toNat limit)
      all_goals rw [hres]
      · exact (ih hsizes).chunk (by rw [List.length_take]; omega) (by split <;> omega)
      · exact .ending (by omega)
    · rw [if_neg hlimit]
      obtain rfl : limit = 0 := by omega
      obtain ⟨n, -, hready, hres⟩ | ⟨-, rest, hres⟩ := source.read_cases req Nat.one_pos
      all_goals
        rw [hres]
        dsimp only
      · by_cases hmore : (source.bytes.take n).length > 0
        · rw [if_pos hmore]
          exact .tooLarge (by rw [List.length_take] at hmore; omega)
        · -- Nothing was read, so nothing is lost.
          have hrest := List.take_append_drop n source.bytes
          rw [List.length_eq_zero_iff.mp (Nat.eq_zero_of_not_pos hmore), List.nil_append] at hrest
          rw [if_neg hmore, if_neg fun h => hmore (hready h), hrest]
          exact ih hsizes
      · by_cases hmore : source.bytes.length > 0
        · rw [if_pos hmore]
          exact .tooLarge hmore
        · rw [if_neg hmore, ← List.length_eq_zero_iff.mp (Nat.eq_zero_of_not_pos hmore)]
          exact .ending (Nat.le_of_not_gt hmore)

/-- The reader of the script does what that of the worker does. -/
theorem consume_readFile (r : LimitReader E) (hsizes : ∀ req ∈ reqs, 0 < req.size) :
    LimitReader.consume LimitReader.readFile r reqs =
      LimitReader.consume LimitReader.read r (reqs.map ReadRequest.file) := by
  induction reqs generalizing r with
  | nil => rfl
  | cons req reqs ih =>
    obtain ⟨hsize, hsizes⟩ := List.forall_mem_cons.mp hsizes
    have hread : r.readFile req = r.read req.file := by
      rw [LimitReader.readFile, if_neg (by omega), LimitReader.read, if_neg]
      · rfl
      · exact Int.ne_of_gt hsize
    rw [List.map_cons, LimitReader.consume, LimitReader.consume, hread]
    simp only [ih _ hsizes]

/-- Both readers pass on what the limit allows and no more, for every way in which the source
    and the consumer cut the stream into reads, and tell the end of the stream from an export
    that is too large. -/
theorem export_limits_exact (source : Source E) (limit : Nat) (reqs : List ReadRequest)
    (hsizes : ∀ req ∈ reqs, 0 < req.size) :
    Exact source limit (reqs.countP (0 < ·.ready))
        (LimitReader.consume LimitReader.read ⟨source, limit⟩ reqs) ∧
      Exact source limit reqs.length (LimitReader.consume LimitReader.readFile ⟨source, limit⟩ reqs) := by
  refine ⟨consume_read_exact hsizes, ?_⟩
  have hready : reqs.length = (reqs.map ReadRequest.file).countP (0 < ·.ready) := by
    rw [List.countP_map, List.countP_eq_length.mpr]
    exact fun req _ => decide_eq_true (Nat.lt_of_lt_of_le Nat.one_pos (Nat.le_max_right _ _))
  rw [consume_readFile _ hsizes, hready]
  exact consume_read_exact (List.forall_mem_map.mpr hsizes)

/-- A file of three bytes is too large for a limit of two, which the third read finds. -/
theorem export_limits_exact_three :
    Exact (E := Unit) ⟨[1, 2, 3], .eof⟩ 2 3 ([1, 2], some .tooLarge) :=
  (export_limits_exact ⟨[1, 2, 3], .eof⟩ 2 (.replicate 3 ⟨5, 1, true⟩) (by decide)).1

end Exports

end Onlyboxes.Worker
