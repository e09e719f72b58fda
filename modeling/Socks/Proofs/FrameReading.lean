import Socks.Proofs.StreamReading
import Socks.Transport.Version
import Mathlib.Tactic.Simproc.ExistsAndEq

/-!
The frames that a program takes. `Takes` relates a program to the byte strings that
it takes whole before it ends, and to the outcome with which it ends. It follows the
program and says nothing about sources; the program of a message is put together
from few operations, and for each of them one equivalence says which frames it takes.
On a stream that starts with a frame, a program takes the frame and leaves the rest,
and whatever a program gets from a stream it gets from such a frame.
-/
namespace Socks.Proofs.FrameReading

open Wire Transport StreamReading

variable {α β : Type}

/-- The program takes exactly the bytes of a frame and ends with an outcome. -/
inductive Takes : Decoder α → List UInt8 → Except Rejection α → Prop where
  | done (outcome : Except Rejection α) : Takes (.done outcome) [] outcome
  | log (event : Event) {next : Decoder α} {frame : List UInt8} {outcome : Except Rejection α}
      (later : Takes next frame outcome) : Takes (.log event next) frame outcome
  | read {count : Nat} (block : Block count) {next : Block count → Decoder α}
      {frame : List UInt8} {outcome : Except Rejection α}
      (later : Takes (next block) frame outcome) :
      Takes (.read count next) (block.bytes ++ frame) outcome

/-! ## Operations -/

section Operations

variable {frame : List UInt8} {outcome : Except Rejection α}

theorem takes_done_iff {ended : Except Rejection α} :
    Takes (.done ended) frame outcome ↔ frame = [] ∧ outcome = ended := by
  constructor
  · rintro ⟨⟩
    exact ⟨rfl, rfl⟩
  · rintro ⟨rfl, rfl⟩
    exact .done _

theorem takes_log_iff {event : Event} {next : Decoder α} :
    Takes (.log event next) frame outcome ↔ Takes next frame outcome := by
  constructor
  · rintro ⟨⟩
    assumption
  · exact .log event

theorem takes_read_iff {count : Nat} {next : Block count → Decoder α} :
    Takes (.read count next) frame outcome ↔
      ∃ block later, frame = block.bytes ++ later ∧ Takes (next block) later outcome := by
  constructor
  · rintro ⟨⟩
    exact ⟨_, _, rfl, by assumption⟩
  · rintro ⟨block, later, rfl, taken⟩
    exact .read block taken

@[simp] theorem takes_pure_iff {result : α} :
    Takes (pure result) frame outcome ↔ frame = [] ∧ outcome = .ok result := takes_done_iff

@[simp] theorem takes_outcome_iff {ended : Except Rejection α} :
    Takes (.outcome ended) frame outcome ↔ frame = [] ∧ outcome = ended := takes_done_iff

@[simp] theorem takes_reject_iff {rejection : Rejection} :
    Takes (.reject rejection) frame outcome ↔ frame = [] ∧ outcome = .error rejection :=
  takes_done_iff

@[simp] theorem takes_report_iff {event : Event} {outcome : Except Rejection Unit} :
    Takes (.report event) frame outcome ↔ frame = [] ∧ outcome = .ok () :=
  takes_log_iff.trans takes_done_iff

@[simp] theorem takes_ofReport_iff {report : Report α} :
    Takes (.ofReport report) frame outcome ↔ frame = [] ∧ outcome = report.outcome := by
  rw [Decoder.ofReport]
  induction report.events with
  | nil => exact takes_done_iff
  | cons event later ih => exact takes_log_iff.trans ih

@[simp] theorem takes_ite_iff {condition : Prop} [Decidable condition] {yes no : Decoder α} :
    Takes (if condition then yes else no) frame outcome ↔
      if condition then Takes yes frame outcome else Takes no frame outcome := by
  split <;> rfl

/-- What comes behind a program takes the rest of the frame, unless the program rejects. -/
@[simp] theorem takes_bind_iff {program : Decoder α} {follow : α → Decoder β}
    {outcome : Except Rejection β} :
    Takes (program >>= follow) frame outcome ↔
      (∃ result front back, frame = front ++ back ∧ Takes program front (.ok result) ∧
        Takes (follow result) back outcome) ∨
      (∃ rejection, Takes program frame (.error rejection) ∧ outcome = .error rejection) := by
  change Takes (program.bind follow) frame outcome ↔ _
  induction program generalizing frame with
  | done ended =>
    cases ended with
    | ok result => simp [Decoder.bind, takes_done_iff]
    | error rejection => simp [Decoder.bind, takes_done_iff]
  | log event next ih => simp only [Decoder.bind, takes_log_iff, ih]
  | read count next ih =>
    simp only [Decoder.bind, takes_read_iff, ih]
    constructor
    · rintro ⟨block, later, rfl, ⟨result, front, back, rfl, first, second⟩ | ⟨rejection, first, rfl⟩⟩
      · exact .inl ⟨result, block.bytes ++ front, back, by simp, ⟨block, front, rfl, first⟩, second⟩
      · exact .inr ⟨rejection, ⟨block, later, rfl, first⟩, rfl⟩
    · rintro (⟨result, _, back, rfl, ⟨block, front, rfl, first⟩, second⟩ |
        ⟨rejection, ⟨block, later, rfl, first⟩, rfl⟩)
      · exact ⟨block, front ++ back, by simp, .inl ⟨result, front, back, rfl, first, second⟩⟩
      · exact ⟨block, later, rfl, .inr ⟨rejection, first, rfl⟩⟩

@[simp] theorem takes_map_iff {program : Decoder α} {convert : α → β} {result : β} :
    Takes (convert <$> program) frame (.ok result) ↔
      ∃ given, Takes program frame (.ok given) ∧ convert given = result := by
  change Takes (program >>= fun given => pure (convert given)) frame (.ok result) ↔ _
  rw [takes_bind_iff]
  simp [eq_comm]

@[simp] theorem takes_checkVersion_iff {message : Versioned} {version : UInt8}
    {outcome : Except Rejection Unit} :
    Takes (.checkVersion message version) frame outcome ↔ frame = [] ∧
      outcome = if version = message.version then .ok ()
        else .error (.badVersion message.version version) := by
  rw [Decoder.checkVersion]
  split <;> simp

@[simp] theorem takes_readPrefix_iff {count : Nat} {block : Block count} :
    Takes (.readPrefix count) frame (.ok block) ↔ frame = block.bytes := by
  rw [Decoder.readPrefix, takes_read_iff]
  constructor
  · rintro ⟨read, later, rfl, taken⟩
    obtain ⟨rfl, same⟩ := takes_done_iff.mp taken
    cases same
    exact List.append_nil _
  · rintro rfl
    exact ⟨block, [], (List.append_nil _).symm, .done _⟩

/-- The missing bytes are taken behind those that are there. -/
@[simp] theorem takes_readRemainder_iff {count total : Nat} {block : Block count}
    {full : Block (max count total)} :
    Takes (.readRemainder block total) frame (.ok full) ↔ full.bytes = block.bytes ++ frame := by
  rw [Decoder.readRemainder]
  have size := full.length_bytes
  have start := block.length_bytes
  split
  · rw [takes_log_iff, takes_read_iff]
    constructor
    · rintro ⟨more, later, rfl, taken⟩
      obtain ⟨rfl, same⟩ := takes_done_iff.mp taken
      cases same
      simp
    · intro whole
      have missing : frame.length = total - count := by
        rw [whole, List.length_append] at size
        omega
      refine ⟨⟨frame, missing⟩, [], by simp, takes_done_iff.mpr ⟨rfl, ?_⟩⟩
      exact congrArg Except.ok (Block.eq_of_bytes_eq whole)
  · rw [takes_done_iff]
    constructor
    · rintro ⟨rfl, same⟩
      cases same
      simp
    · intro whole
      have nothing : frame = [] := by
        rw [whole, List.length_append] at size
        exact List.eq_nil_of_length_eq_zero (by omega)
      refine ⟨nothing, congrArg Except.ok (Block.eq_of_bytes_eq ?_)⟩
      rw [whole, nothing, List.append_nil, Block.bytes_cast]

/-- A step of reading may run out of bytes, but it never rejects what it got. -/
@[simp] theorem not_takes_readPrefix_error {count : Nat} {rejection : Rejection} :
    ¬ Takes (.readPrefix count) frame (.error rejection) := by
  rw [Decoder.readPrefix, takes_read_iff]
  rintro ⟨block, later, -, taken⟩
  cases (takes_done_iff.mp taken).2

@[simp] theorem not_takes_readRemainder_error {count total : Nat} {block : Block count}
    {rejection : Rejection} : ¬ Takes (.readRemainder block total) frame (.error rejection) := by
  rw [Decoder.readRemainder]
  split
  · rw [takes_log_iff, takes_read_iff]
    rintro ⟨more, later, -, taken⟩
    cases (takes_done_iff.mp taken).2
  · intro taken
    cases (takes_done_iff.mp taken).2

/-- Converting a message changes no rejection. -/
@[simp] theorem takes_map_error_iff {program : Decoder α} {convert : α → β}
    {rejection : Rejection} :
    Takes (convert <$> program) frame (.error rejection) ↔
      Takes program frame (.error rejection) := by
  change Takes (program >>= fun given => pure (convert given)) frame _ ↔ _
  rw [takes_bind_iff]
  simp

end Operations

/-! ## Sequences -/

section Sequences

variable {frame : List UInt8} {outcome : Except Rejection β}

theorem takes_readPrefix_bind_iff {count : Nat} {follow : Block count → Decoder β} :
    Takes (.readPrefix count >>= follow) frame outcome ↔
      ∃ head back, frame = head.bytes ++ back ∧ Takes (follow head) back outcome := by
  rw [takes_bind_iff]
  constructor
  · rintro (⟨head, front, back, rfl, first, second⟩ | ⟨_, rejected, -⟩)
    · rw [takes_readPrefix_iff.mp first]
      exact ⟨head, back, rfl, second⟩
    · exact absurd rejected not_takes_readPrefix_error
  · rintro ⟨head, back, rfl, second⟩
    exact .inl ⟨head, _, back, rfl, takes_readPrefix_iff.mpr rfl, second⟩

/-- The bytes that are read behind a block are as many as are missing. -/
theorem length_of_remainder {count total : Nat} {block : Block count}
    {full : Block (max count total)} {middle : List UInt8}
    (whole : full.bytes = block.bytes ++ middle) : count + middle.length = max count total := by
  have size := full.length_bytes
  rwa [whole, List.length_append, block.length_bytes] at size

theorem takes_readRemainder_bind_iff {count total : Nat} {block : Block count}
    {follow : Block (max count total) → Decoder β} :
    Takes (.readRemainder block total >>= follow) frame outcome ↔
      ∃ full middle back, full.bytes = block.bytes ++ middle ∧ frame = middle ++ back ∧
        Takes (follow full) back outcome := by
  rw [takes_bind_iff]
  constructor
  · rintro (⟨full, middle, back, rfl, first, second⟩ | ⟨_, rejected, -⟩)
    · exact ⟨full, middle, back, takes_readRemainder_iff.mp first, rfl, second⟩
    · exact absurd rejected not_takes_readRemainder_error
  · rintro ⟨full, middle, back, whole, rfl, second⟩
    exact .inl ⟨full, middle, back, rfl, takes_readRemainder_iff.mpr whole, second⟩

theorem takes_checkVersion_bind_iff {message : Versioned} {version : UInt8}
    {follow : Unit → Decoder β} :
    Takes (.checkVersion message version >>= follow) frame outcome ↔
      (version = message.version ∧ Takes (follow ()) frame outcome) ∨
      (version ≠ message.version ∧ frame = [] ∧
        outcome = .error (.badVersion message.version version)) := by
  rw [Decoder.checkVersion]
  by_cases right : version = message.version
  · rw [if_pos right]
    change Takes (follow ()) frame outcome ↔ _
    simp [right]
  · rw [if_neg right]
    simp [right]

theorem takes_ofReport_bind_iff {report : Report α} {follow : α → Decoder β} :
    Takes (.ofReport report >>= follow) frame outcome ↔
      (∃ result, report.outcome = .ok result ∧ Takes (follow result) frame outcome) ∨
      (∃ rejection, report.outcome = .error rejection ∧ frame = [] ∧
        outcome = .error rejection) := by
  cases known : report.outcome <;> simp [known]

/-- A judgment of what was read takes no bytes. -/
theorem takes_judgment_iff {program : Decoder α} {follow : α → Decoder β}
    {ended : Except Rejection α} {judge : α → Except Rejection β}
    (first : ∀ {frame outcome}, Takes program frame outcome ↔ frame = [] ∧ outcome = ended)
    (last : ∀ {result frame outcome}, Takes (follow result) frame outcome ↔
      frame = [] ∧ outcome = judge result) :
    Takes (program >>= follow) frame outcome ↔ frame = [] ∧ outcome = ended >>= judge := by
  rw [takes_bind_iff]
  cases ended with
  | ok result => simp [first, last, bind, Except.bind]
  | error rejection => simp [first, bind, Except.bind]

/-- A message that is reported and returned takes no bytes. -/
theorem takes_reported_iff {event : Event} {result : β} :
    Takes (do
      .report event
      return result) frame outcome ↔ frame = [] ∧ outcome = .ok result :=
  takes_log_iff.trans takes_done_iff

end Sequences

/-! ## Streams -/

section Streams

variable {program : Decoder α} {outcome : Except Rejection α}

/-- On bytes that start with a frame, the program ends with the outcome of the frame
and leaves what is behind it. -/
theorem feed_append {frame : List UInt8} (taken : Takes program frame outcome) (failure : Failure)
    (tail : List UInt8) :
    (feed failure program (frame ++ tail)).outcome = outcome.mapError .rejected ∧
      (feed failure program (frame ++ tail)).rest = tail := by
  induction taken with
  | done outcome => exact ⟨rfl, rfl⟩
  | log event later ih => exact ih
  | @read count block next frame outcome later ih =>
    have enough : count ≤ (block.bytes ++ (frame ++ tail)).length := by
      rw [List.length_append, block.length_bytes]
      exact Nat.le_add_right ..
    have front : Block.take (block.bytes ++ (frame ++ tail)) count enough = block :=
      Block.eq_of_bytes_eq (List.take_left' block.length_bytes)
    rw [List.append_assoc, feed, dif_pos enough, front, List.drop_left' block.length_bytes]
    exact ih

/-- What a program gets from some bytes, it gets from a frame in front of them. -/
theorem takes_of_feed {failure : Failure} {bytes : List UInt8}
    (ended : (feed failure program bytes).outcome = outcome.mapError .rejected) :
    ∃ frame, bytes = frame ++ (feed failure program bytes).rest ∧ Takes program frame outcome := by
  induction program generalizing bytes with
  | done result =>
    have same : result = outcome := by
      cases result <;> cases outcome <;> cases ended <;> rfl
    exact ⟨[], rfl, same ▸ .done result⟩
  | log event next ih =>
    obtain ⟨frame, shape, taken⟩ := ih ended
    exact ⟨frame, shape, .log event taken⟩
  | read count next ih =>
    rw [feed] at ended ⊢
    split at ended
    · rename_i enough
      obtain ⟨frame, shape, taken⟩ := ih _ ended
      refine ⟨bytes.take count ++ frame, ?_, .read (.take bytes count enough) taken⟩
      rw [dif_pos enough, List.append_assoc, ← shape, List.take_append_drop]
    · cases outcome <;> cases ended

theorem stretch_ofBytes (bytes : List UInt8) : stretch (.ofBytes bytes) = bytes := by
  cases bytes <;> simp [stretch, stretchOf, Source.ofBytes]

theorem bytes_ofBytes (bytes : List UInt8) : (Source.ofBytes bytes).bytes = bytes := by
  cases bytes <;> simp [Source.bytes, Source.ofBytes]

/-- Every program takes some frame: it ends if only enough bytes come. -/
theorem exists_takes (program : Decoder α) : ∃ frame outcome, Takes program frame outcome := by
  induction program with
  | done outcome => exact ⟨[], outcome, .done outcome⟩
  | log event next ih =>
    obtain ⟨frame, outcome, taken⟩ := ih
    exact ⟨frame, outcome, .log event taken⟩
  | read count next ih =>
    obtain ⟨frame, outcome, taken⟩ := ih ⟨List.replicate count 0, List.length_replicate⟩
    exact ⟨_, outcome, .read _ taken⟩

/-- **A program runs out of bytes on the proper prefixes of the frames that it takes, and
on nothing else.** -/
theorem feed_failed_iff {failure met : Failure} {bytes : List UInt8} :
    (feed failure program bytes).outcome = .error (.failed met) ↔ met = failure ∧
      ∃ missing outcome, missing ≠ [] ∧ Takes program (bytes ++ missing) outcome := by
  constructor
  · intro ended
    induction program generalizing bytes with
    | done result => cases result <;> cases ended
    | log event next ih =>
      obtain ⟨same, missing, outcome, lacking, taken⟩ := ih ended
      exact ⟨same, missing, outcome, lacking, .log event taken⟩
    | read count next ih =>
      rw [feed] at ended
      by_cases enough : count ≤ bytes.length
      · rw [dif_pos enough] at ended
        obtain ⟨same, missing, outcome, lacking, taken⟩ := ih _ ended
        refine ⟨same, missing, outcome, lacking, ?_⟩
        have whole := Takes.read (.take bytes count enough) taken
        rwa [Block.bytes_take, ← List.append_assoc, List.take_append_drop] at whole
      · rw [dif_neg enough] at ended
        -- Zeros in place of the missing bytes complete the block, and the program goes on.
        let zeros : List UInt8 := List.replicate (count - bytes.length) 0
        have size : (bytes ++ zeros).length = count := by
          rw [List.length_append, List.length_replicate]
          omega
        obtain ⟨frame, outcome, taken⟩ := exists_takes (next ⟨bytes ++ zeros, size⟩)
        refine ⟨(CodecError.failed.inj (Except.error.inj ended)).symm, zeros ++ frame, outcome, ?_, ?_⟩
        · intro empty
          have gone := congrArg List.length empty
          simp only [zeros, List.length_append, List.length_replicate, List.length_nil] at gone
          omega
        · rw [← List.append_assoc]
          exact .read ⟨bytes ++ zeros, size⟩ taken
  · rintro ⟨rfl, missing, outcome, lacking, taken⟩
    generalize whole : bytes ++ missing = frame at taken
    induction taken generalizing bytes with
    | done outcome => exact absurd (List.append_eq_nil_iff.mp whole).2 lacking
    | log event later ih => exact ih whole
    | @read count block next frame outcome later ih =>
      rw [feed]
      by_cases enough : count ≤ bytes.length
      · rw [dif_pos enough]
        have front : bytes.take count = block.bytes := by
          rw [← List.take_append_of_le_length enough, whole, List.take_left' block.length_bytes]
        have back : bytes.drop count ++ missing = frame := by
          rw [← List.drop_append_of_le_length enough, whole, List.drop_left' block.length_bytes]
        have same : Block.take bytes count enough = block := Block.eq_of_bytes_eq front
        rw [same]
        exact ih back
      · rw [dif_neg enough]

/-- Where the bytes do not suffice, none is left. -/
theorem rest_of_feed_failed {failure met : Failure} {bytes : List UInt8}
    (ended : (feed failure program bytes).outcome = .error (.failed met)) :
    (feed failure program bytes).rest = [] := by
  induction program generalizing bytes with
  | done result => cases result <;> cases ended
  | log event next ih => exact ih ended
  | read count next ih =>
    rw [feed] at ended ⊢
    by_cases enough : count ≤ bytes.length
    · rw [dif_pos enough] at ended ⊢
      exact ih _ ended
    · rw [dif_neg enough]

/-- What a program makes of bytes is decided by the frame in front of them, or the bytes end
inside a frame. -/
theorem feed_outcome_iff {failure : Failure} {bytes : List UInt8}
    {reached : Except CodecError α} :
    (feed failure program bytes).outcome = reached ↔
      (∃ frame behind outcome, bytes = frame ++ behind ∧ Takes program frame outcome ∧
        reached = outcome.mapError .rejected) ∨
      (∃ missing outcome, missing ≠ [] ∧ Takes program (bytes ++ missing) outcome ∧
        reached = .error (.failed failure)) := by
  constructor
  · rintro rfl
    have whole {outcome : Except Rejection α}
        (ended : (feed failure program bytes).outcome = outcome.mapError .rejected) :
        ∃ frame behind outcome, bytes = frame ++ behind ∧ Takes program frame outcome ∧
          (feed failure program bytes).outcome = outcome.mapError .rejected := by
      obtain ⟨frame, shape, taken⟩ := takes_of_feed ended
      exact ⟨frame, _, outcome, shape, taken, ended⟩
    cases ended : (feed failure program bytes).outcome with
    | ok result => exact .inl (ended ▸ @whole (.ok result) ended)
    | error reason =>
      cases reason with
      | rejected rejection => exact .inl (ended ▸ @whole (.error rejection) ended)
      | failed met =>
        obtain ⟨rfl, missing, outcome, lacking, taken⟩ := feed_failed_iff.mp ended
        exact .inr ⟨missing, outcome, lacking, taken, rfl⟩
  · rintro (⟨frame, behind, outcome, rfl, taken, rfl⟩ | ⟨missing, outcome, lacking, taken, rfl⟩)
    · exact (feed_append taken failure behind).1
    · exact feed_failed_iff.mpr ⟨rfl, missing, outcome, lacking, taken⟩

/-- All bytes start with a frame or are the start of one. -/
theorem front_or_part (program : Decoder α) (bytes : List UInt8) :
    (∃ frame behind outcome, bytes = frame ++ behind ∧ Takes program frame outcome) ∨
      (∃ missing outcome, missing ≠ [] ∧ Takes program (bytes ++ missing) outcome) := by
  have reached := feed_outcome_iff.mp (rfl : (feed Failure.earlyEnd program bytes).outcome = _)
  rcases reached with ⟨frame, behind, outcome, shape, taken, -⟩ |
    ⟨missing, outcome, lacking, taken, -⟩
  · exact .inl ⟨frame, behind, outcome, shape, taken⟩
  · exact .inr ⟨missing, outcome, lacking, taken⟩

/-- A program that ends on its own has taken a frame from the front of what the source
delivers, and nothing else. -/
theorem exists_frame [Runtime] {source : Source}
    (ended : (program.run source).outcome = outcome.mapError .rejected) :
    ∃ frame, Takes program frame outcome ∧ frame <+: stretch source ∧
      frame.length = (program.run source).consumed := by
  obtain ⟨same, -, consumed⟩ := run_feed program source
  obtain ⟨frame, shape, taken⟩ := takes_of_feed (same.symm.trans ended)
  have size := congrArg List.length shape
  rw [List.length_append] at size
  exact ⟨frame, taken, ⟨_, shape.symm⟩, by omega⟩

/-- **What a program consumes when it ends on its own is a frame that it takes.** -/
theorem takes_consumed [Runtime] {source : Source}
    (ended : (program.run source).outcome = outcome.mapError .rejected) :
    Takes program (source.bytes.take (program.run source).consumed) outcome := by
  obtain ⟨frame, taken, front, size⟩ := exists_frame ended
  have inside := front.trans (stretch_prefix_bytes source)
  rwa [← size, ← List.prefix_iff_eq_take.mp inside]

/-- **A program that meets a frame takes it and leaves what is behind it.** -/
theorem run_of_stretch [Runtime] {source : Source} {frame tail : List UInt8}
    (taken : Takes program frame outcome) (meets : stretch source = frame ++ tail) :
    (program.run source).outcome = outcome.mapError .rejected ∧
      (program.run source).consumed = frame.length ∧
      stretch (program.run source).rest = tail ∧ limit (program.run source).rest = limit source := by
  obtain ⟨same, -, size⟩ := run_feed program source
  obtain ⟨ended, rest⟩ := feed_append taken (limit source) tail
  rw [meets] at same size
  have reached := same.trans ended
  have consumed : (program.run source).consumed = frame.length := by
    rw [rest, List.length_append] at size
    omega
  obtain ⟨behind, limits⟩ := run_behind reached
  rw [meets, consumed, List.drop_left] at behind
  exact ⟨reached, consumed, behind, limits⟩

theorem run_append [Runtime] {frame : List UInt8} (taken : Takes program frame outcome)
    (tail : List UInt8) :
    (program.run (.ofBytes (frame ++ tail))).outcome = outcome.mapError .rejected ∧
      (program.run (.ofBytes (frame ++ tail))).rest.bytes = tail := by
  obtain ⟨ended, consumed, -⟩ := run_of_stretch taken (stretch_ofBytes (frame ++ tail))
  rw [run_rest, bytes_ofBytes, consumed, List.drop_left]
  exact ⟨ended, rfl⟩

/-- **The outcome of a run is that of the frame in front of the stream, or the stream ends
inside a frame.** -/
theorem run_outcome_iff [Runtime] {source : Source} {reached : Except CodecError α} :
    (program.run source).outcome = reached ↔
      (∃ frame behind outcome, stretch source = frame ++ behind ∧ Takes program frame outcome ∧
        reached = outcome.mapError .rejected) ∨
      (∃ missing outcome, missing ≠ [] ∧ Takes program (stretch source ++ missing) outcome ∧
        reached = .error (.failed (limit source))) := by
  rw [(run_feed program source).1]
  exact feed_outcome_iff

/-- A program that meets only a part of a frame consumes that part and runs out of bytes. -/
theorem run_of_part [Runtime] {source : Source} {missing : List UInt8} (lacking : missing ≠ [])
    (taken : Takes program (stretch source ++ missing) outcome) :
    (program.run source).outcome = .error (.failed (limit source)) ∧
      (program.run source).consumed = (stretch source).length := by
  have reached := run_outcome_iff.mpr (.inr ⟨missing, outcome, lacking, taken, rfl⟩)
  obtain ⟨same, -, consumed⟩ := run_feed program source
  rw [rest_of_feed_failed (same.symm.trans reached)] at consumed
  exact ⟨reached, consumed⟩

end Streams

end Socks.Proofs.FrameReading
