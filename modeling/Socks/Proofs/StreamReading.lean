import Mathlib.Control.Monad.Basic
import Socks.Message

/-!
What a program makes of a stream depends on the bytes of the stream and not on the
chunks in which they arrive. `feed` says what a program makes of a byte string that
ends in some failure, without calls and chunks; `run_feed` says that running the
program on any source comes to the same, for the bytes that the source delivers
before its end is met and the failure that is met there.
-/
namespace Socks.Proofs.StreamReading

open Wire Transport

variable {α : Type}

/-! ## What a source delivers -/

/-- The bytes in front of the first chunk without bytes, which a reader takes for
the end of the stream. -/
def stretchOf : List (List UInt8) → List UInt8
  | [] => []
  | [] :: _ => []
  | (byte :: chunk) :: later => byte :: chunk ++ stretchOf later

/-- The failure that ends a reading behind the last chunk. A call that the runtime makes
again meets the end. -/
def lastFailure [Runtime] : Option Failure → Failure
  | none => Failure.earlyEnd
  | some failure => if Runtime.repeats failure then Failure.earlyEnd else failure

/-- The failure that ends a reading for which the bytes do not suffice. -/
def limitOf [Runtime] (ending : Option Failure) : List (List UInt8) → Failure
  | [] => lastFailure ending
  | [] :: _ => Failure.earlyEnd
  | (_ :: _) :: later => limitOf ending later

/-- The bytes that a source delivers before its end is met. -/
def stretch (source : Source) : List UInt8 := stretchOf source.chunks

/-- The failure that is met behind them. -/
def limit [Runtime] (source : Source) : Failure := limitOf source.ending source.chunks

/-- The number of bytes that calls took. -/
def takenBy : List ReadCall → Nat
  | [] => 0
  | call :: later => call.taken + takenBy later

theorem stretchOf_of_nonempty {chunks : List (List UInt8)}
    (nonempty : ∀ chunk ∈ chunks, chunk ≠ []) : stretchOf chunks = chunks.flatten := by
  induction chunks with
  | nil => rfl
  | cons chunk later ih =>
    cases chunk with
    | nil => exact absurd rfl (nonempty [] List.mem_cons_self)
    | cons byte chunk =>
      simp [stretchOf, ih fun chunk member => nonempty chunk (List.mem_cons_of_mem _ member)]

theorem limitOf_of_nonempty [Runtime] {ending : Option Failure} {chunks : List (List UInt8)}
    (nonempty : ∀ chunk ∈ chunks, chunk ≠ []) : limitOf ending chunks = lastFailure ending := by
  induction chunks with
  | nil => rfl
  | cons chunk later ih =>
    cases chunk with
    | nil => exact absurd rfl (nonempty [] List.mem_cons_self)
    | cons byte chunk =>
      exact ih fun chunk member => nonempty chunk (List.mem_cons_of_mem _ member)

/-- What is delivered before the end is met stands in front of all there is. -/
theorem stretch_prefix_bytes (source : Source) : stretch source <+: source.bytes := by
  obtain ⟨chunks, ending⟩ := source
  induction chunks with
  | nil => exact List.nil_prefix
  | cons chunk later ih =>
    cases chunk with
    | nil => exact List.nil_prefix
    | cons byte chunk => simpa [stretch, stretchOf, Source.bytes] using ih

/-! ## One reading -/

theorem readChunks_zero [Runtime] (ending : Option Failure) (chunks : List (List UInt8)) :
    Source.readChunks ending 0 chunks = ⟨.ok (Block.empty.cast rfl), ⟨chunks, ending⟩, []⟩ := by
  match chunks with
  | [] => rfl
  | [] :: _ => rfl
  | (_ :: _) :: _ => rfl

section Clauses

variable [Runtime] {ending : Option Failure} {count : Nat} {later : List (List UInt8)}

theorem readChunks_nil (positive : 0 < count) :
    Source.readChunks ending count [] = Source.readEnd count ending := by
  rw [Source.readChunks, dif_neg (Nat.ne_of_gt positive)]

theorem readChunks_empty (positive : 0 < count) :
    Source.readChunks ending count ([] :: later) =
      ⟨.error Failure.earlyEnd, ⟨later, ending⟩, [⟨count, .ok 0⟩]⟩ := by
  rw [Source.readChunks, dif_neg (Nat.ne_of_gt positive)]

variable {byte : UInt8} {chunk : List UInt8}

/-- A chunk that is too short is taken whole, and what is missing is read behind it. -/
theorem readChunks_beyond (short : (byte :: chunk).length < count) :
    Source.readChunks ending count ((byte :: chunk) :: later) =
      let reading := Source.readChunks ending (count - (byte :: chunk).length) later
      ⟨reading.outcome.map fun block =>
          ((⟨byte :: chunk, rfl⟩ : Block (byte :: chunk).length).append block).cast
            (Nat.add_sub_of_le (Nat.le_of_lt short)),
        reading.rest, ⟨count, .ok (byte :: chunk).length⟩ :: reading.calls⟩ := by
  rw [Source.readChunks, dif_neg (Nat.ne_of_gt (Nat.lt_of_le_of_lt (Nat.zero_le _) short)),
    dif_pos short]
  exact List.cons_ne_nil _ _

/-- One call suffices inside a chunk, and what is left of the chunk is read next. -/
theorem readChunks_within (positive : 0 < count) (enough : count ≤ (byte :: chunk).length) :
    Source.readChunks ending count ((byte :: chunk) :: later) =
      let left := (byte :: chunk).drop count
      ⟨.ok (.take (byte :: chunk) count enough),
        ⟨if left.isEmpty then later else left :: later, ending⟩, [⟨count, .ok count⟩]⟩ := by
  rw [Source.readChunks, dif_neg (Nat.ne_of_gt positive), dif_neg (Nat.not_lt_of_le enough)]
  exact List.cons_ne_nil _ _

end Clauses

/-- A reading that asks for bytes that are there takes them, and nothing else
changes. -/
theorem readChunks_enough [Runtime] (ending : Option Failure) {count : Nat}
    {chunks : List (List UInt8)} (enough : count ≤ (stretchOf chunks).length) :
    let reading := Source.readChunks ending count chunks
    reading.outcome = .ok (.take (stretchOf chunks) count enough) ∧
      stretch reading.rest = (stretchOf chunks).drop count ∧
      limit reading.rest = limitOf ending chunks ∧ takenBy reading.calls = count := by
  -- A reading of nothing makes no call, so it is no case of the induction on the chunks.
  rcases Nat.eq_zero_or_pos count with rfl | positive
  · rw [readChunks_zero]
    exact ⟨congrArg Except.ok (Block.eq_of_bytes_eq rfl), rfl, rfl, rfl⟩
  induction chunks generalizing count with
  | nil => simp [stretchOf] at enough; omega
  | cons chunk later ih =>
    cases chunk with
    | nil => simp [stretchOf] at enough; omega
    | cons byte chunk =>
      by_cases short : (byte :: chunk).length < count
      · have fits : count - (byte :: chunk).length ≤ (stretchOf later).length := by
          simp only [stretchOf, List.length_append] at enough; omega
        obtain ⟨outcome, rest, limit, calls⟩ := ih fits (by omega)
        rw [readChunks_beyond short]
        refine ⟨?_, ?_, limit, ?_⟩
        · simp only [outcome, Except.map]
          apply congrArg Except.ok (Block.eq_of_bytes_eq _)
          simp only [Block.bytes_cast, Block.bytes_append, Block.bytes_take, stretchOf]
          rw [List.take_append, List.take_of_length_le (l := byte :: chunk) (by omega)]
        · rw [stretchOf, List.drop_append, List.drop_of_length_le (l := byte :: chunk) (by omega)]
          exact rest
        · simp only [takenBy]
          rw [calls]
          simp only [ReadCall.taken]
          omega
      · rw [readChunks_within positive (Nat.le_of_not_lt short)]
        refine ⟨?_, ?_, ?_, ?_⟩
        · apply congrArg Except.ok (Block.eq_of_bytes_eq _)
          simp only [Block.bytes_take, stretchOf]
          rw [List.take_append_of_le_length (by omega)]
        · rw [stretchOf, List.drop_append_of_le_length (by omega)]
          cases (byte :: chunk).drop count <;> simp [stretch, stretchOf]
        · cases (byte :: chunk).drop count <;> simp [limit, limitOf]
        · simp [takenBy, ReadCall.taken]

theorem readChunks_short [Runtime] (ending : Option Failure) {count : Nat}
    {chunks : List (List UInt8)} (short : (stretchOf chunks).length < count) :
    let reading := Source.readChunks ending count chunks
    reading.outcome = .error (limitOf ending chunks) ∧
      takenBy reading.calls = (stretchOf chunks).length := by
  induction chunks generalizing count with
  | nil =>
    rw [readChunks_nil short, limitOf]
    cases ending with
    | none => exact ⟨rfl, rfl⟩
    | some failure =>
      simp only [Source.readEnd, lastFailure]
      split <;> exact ⟨rfl, rfl⟩
  | cons chunk later ih =>
    cases chunk with
    | nil =>
      rw [readChunks_empty short]
      exact ⟨rfl, rfl⟩
    | cons byte chunk =>
      simp only [stretchOf, List.length_append] at short ⊢
      rw [readChunks_beyond (by omega)]
      have fits : (stretchOf later).length < count - (byte :: chunk).length := by omega
      obtain ⟨outcome, calls⟩ := ih fits
      refine ⟨?_, ?_⟩
      · simp only [outcome, Except.map, limitOf]
      · simp only [takenBy]
        rw [calls]
        rfl

/-- What a reading does not take is left. -/
theorem readChunks_rest [Runtime] (ending : Option Failure) (count : Nat)
    (chunks : List (List UInt8)) :
    let reading := Source.readChunks ending count chunks
    reading.rest.bytes = chunks.flatten.drop (takenBy reading.calls) := by
  rcases Nat.eq_zero_or_pos count with rfl | positive
  · rw [readChunks_zero]
    rfl
  induction chunks generalizing count with
  | nil =>
    rw [readChunks_nil positive]
    simp only [List.flatten_nil, List.drop_nil]
    cases ending with
    | none => rfl
    | some failure =>
      simp only [Source.readEnd]
      split <;> rfl
  | cons chunk later ih =>
    cases chunk with
    | nil =>
      rw [readChunks_empty positive]
      rfl
    | cons byte chunk =>
      rw [List.flatten_cons]
      by_cases short : (byte :: chunk).length < count
      · rw [readChunks_beyond short]
        simp only [ih _ (Nat.sub_pos_of_lt short), takenBy, ReadCall.taken]
        rw [List.drop_length_add_append]
      · rw [readChunks_within positive (Nat.le_of_not_lt short)]
        simp only [takenBy, ReadCall.taken, Nat.add_zero]
        rw [List.drop_append_of_le_length (by omega)]
        cases (byte :: chunk).drop count <;> simp [Source.bytes]

/-! ## One program -/

/-- What a program makes of a byte string. -/
structure Digest (α : Type) where
  /-- The message, or why there is none. -/
  outcome : Except CodecError α
  /-- The bytes that were not taken. -/
  rest : List UInt8
  /-- The events that were reported. -/
  events : List Event

/-- Carries out a program on bytes behind which a failure is met. -/
def feed (failure : Failure) : Decoder α → List UInt8 → Digest α
  | .done outcome, bytes => ⟨outcome.mapError .rejected, bytes, []⟩
  | .log event next, bytes =>
    let digest := feed failure next bytes
    { digest with events := event :: digest.events }
  | .read count next, bytes =>
    if enough : count ≤ bytes.length then
      feed failure (next (.take bytes count enough)) (bytes.drop count)
    else ⟨.error (.failed failure), [], []⟩

theorem consumed_eq (reception : Reception α) :
    reception.consumed = takenBy reception.calls := by
  rw [Reception.consumed]
  induction reception.calls with
  | nil => rfl
  | cons call later ih => rw [List.foldr_cons, ih, takenBy]

theorem takenBy_append (first second : List ReadCall) :
    takenBy (first ++ second) = takenBy first + takenBy second := by
  induction first with
  | nil => rw [List.nil_append, takenBy, Nat.zero_add]
  | cons call later ih => rw [List.cons_append, takenBy, takenBy, ih, Nat.add_assoc]

/-- **Running a program on a source is feeding it what the source delivers.** -/
theorem run_feed [Runtime] (program : Decoder α) (source : Source) :
    let digest := feed (limit source) program (stretch source)
    (program.run source).outcome = digest.outcome ∧
      (program.run source).events = digest.events ∧
      (program.run source).consumed + digest.rest.length = (stretch source).length := by
  simp only [consumed_eq]
  induction program generalizing source with
  | done outcome => simp [Decoder.run, feed, takenBy]
  | log event next ih =>
    obtain ⟨outcome, events, consumed⟩ := ih source
    exact ⟨outcome, congrArg (event :: ·) events, consumed⟩
  | read count next ih =>
    rw [Decoder.run, feed, Source.read]
    by_cases enough : count ≤ (stretch source).length
    · obtain ⟨reading, rest, limitRest, taken⟩ := readChunks_enough source.ending enough
      obtain ⟨outcome, events, consumed⟩ := ih (.take (stretch source) count enough)
        (Source.readChunks source.ending count source.chunks).rest
      rw [rest, limitRest] at outcome events consumed
      rw [List.length_drop] at consumed
      rw [dif_pos enough]
      simp only [reading]
      refine ⟨outcome, events, ?_⟩
      rw [takenBy_append, taken, Nat.add_assoc]
      refine (congrArg (count + ·) consumed).trans ?_
      exact Nat.add_sub_of_le enough
    · have missing := readChunks_short source.ending (Nat.lt_of_not_le enough)
      obtain ⟨reading, taken⟩ := missing
      rw [dif_neg enough]
      simp only [reading]
      exact ⟨rfl, trivial, taken⟩

/-- No program consumes more than there is. -/
theorem length_take_consumed [Runtime] (program : Decoder α) (source : Source) :
    (source.bytes.take (program.run source).consumed).length = (program.run source).consumed := by
  obtain ⟨-, -, consumed⟩ := run_feed program source
  have inside := (stretch_prefix_bytes source).length_le
  exact List.length_take_of_le (by omega)

/-- What a program does not consume is left for the next one. -/
theorem run_rest [Runtime] (program : Decoder α) (source : Source) :
    (program.run source).rest.bytes = source.bytes.drop (program.run source).consumed := by
  rw [consumed_eq]
  induction program generalizing source with
  | done outcome => rfl
  | log event next ih => exact ih source
  | read count next ih =>
    have rest := readChunks_rest source.ending count source.chunks
    rw [Decoder.run, Source.read]
    split
    · exact rest
    · simp only [ih, takenBy_append]
      rw [rest, List.drop_drop]
      rfl

/-- A program that is not stopped by the end of the source leaves what it did not take,
and that end as it was. -/
theorem run_behind [Runtime] {program : Decoder α} {source : Source} {ended : Except Rejection α}
    (reached : (program.run source).outcome = ended.mapError .rejected) :
    stretch (program.run source).rest = (stretch source).drop (program.run source).consumed ∧
      limit (program.run source).rest = limit source := by
  rw [consumed_eq]
  induction program generalizing source with
  | done outcome => exact ⟨rfl, rfl⟩
  | log event next ih => exact ih reached
  | read count next ih =>
    rw [Decoder.run, Source.read] at reached ⊢
    by_cases enough : count ≤ (stretch source).length
    · obtain ⟨reading, rest, limitRest, taken⟩ := readChunks_enough source.ending enough
      simp only [reading] at reached ⊢
      obtain ⟨behind, ending⟩ := ih _ reached
      rw [rest] at behind
      rw [takenBy_append, taken, ← List.drop_drop]
      exact ⟨behind, ending.trans limitRest⟩
    · obtain ⟨reading, -⟩ := readChunks_short source.ending (Nat.lt_of_not_le enough)
      -- A source that ends too early is no rejection and no message.
      simp only [reading] at reached
      cases ended <;> cases reached

/-- Sources that deliver the same bytes in front of the same failure are the same to a
program. -/
theorem run_congr [Runtime] (program : Decoder α) {first second : Source}
    (bytes : stretch first = stretch second) (failure : limit first = limit second) :
    (program.run first).outcome = (program.run second).outcome ∧
      (program.run first).consumed = (program.run second).consumed ∧
      (program.run first).events = (program.run second).events := by
  obtain ⟨outcome, events, consumed⟩ := run_feed program first
  obtain ⟨outcomeOther, eventsOther, consumedOther⟩ := run_feed program second
  rw [bytes, failure] at outcome events consumed
  exact ⟨outcome.trans outcomeOther.symm,
    Nat.add_right_cancel (consumed.trans consumedOther.symm), events.trans eventsOther.symm⟩

/-! ## Chunks -/

/-- A source delivers some bytes: they are all it has, and none of its chunks is empty. -/
structure Delivers (source : Source) (bytes : List UInt8) : Prop where
  nonempty : ∀ chunk ∈ source.chunks, chunk ≠ []
  whole : source.bytes = bytes

theorem Delivers.stretch_eq {source : Source} {bytes : List UInt8}
    (delivers : Delivers source bytes) : stretch source = bytes :=
  (stretchOf_of_nonempty delivers.nonempty).trans delivers.whole

theorem Delivers.limit_eq [Runtime] {source : Source} {bytes : List UInt8}
    (delivers : Delivers source bytes) : limit source = lastFailure source.ending :=
  limitOf_of_nonempty delivers.nonempty

/-- **The borders of chunks carry no meaning.** However the bytes of a stream are cut
into chunks, and whatever ends the stream behind them, reading a message of a kind
has the same outcome, takes the same number of bytes, leaves the same bytes and
reports the same events. -/
theorem chunk_borders_carry_no_meaning [Runtime] (kind : Message.Kind) (ending : Option Failure)
    (first second : List (List UInt8)) (firstNonempty : ∀ chunk ∈ first, chunk ≠ [])
    (secondNonempty : ∀ chunk ∈ second, chunk ≠ []) (same : first.flatten = second.flatten) :
    let one := kind.decoder.run ⟨first, ending⟩
    let other := kind.decoder.run ⟨second, ending⟩
    one.outcome = other.outcome ∧ one.consumed = other.consumed ∧
      one.rest.bytes = other.rest.bytes ∧ one.events = other.events := by
  intro one other
  have bytes : stretch ⟨first, ending⟩ = stretch ⟨second, ending⟩ := by
    simp only [stretch, stretchOf_of_nonempty firstNonempty, stretchOf_of_nonempty secondNonempty,
      same]
  have failure : limit ⟨first, ending⟩ = limit ⟨second, ending⟩ := by
    simp only [limit, limitOf_of_nonempty firstNonempty, limitOf_of_nonempty secondNonempty]
  obtain ⟨outcome, events, consumed⟩ := run_feed kind.decoder ⟨first, ending⟩
  obtain ⟨outcomeOther, eventsOther, consumedOther⟩ := run_feed kind.decoder ⟨second, ending⟩
  rw [bytes, failure] at outcome events consumed
  have asMany : one.consumed = other.consumed :=
    Nat.add_right_cancel (consumed.trans consumedOther.symm)
  refine ⟨outcome.trans outcomeOther.symm, asMany, ?_, events.trans eventsOther.symm⟩
  calc one.rest.bytes = first.flatten.drop one.consumed := run_rest kind.decoder ⟨first, ending⟩
    _ = second.flatten.drop other.consumed := by rw [same, asMany]
    _ = other.rest.bytes := (run_rest kind.decoder ⟨second, ending⟩).symm

/-- A request cut inside its head and inside its address, in front of a failure. -/
theorem chunk_borders_in_request_carry_no_meaning :
    let _ : Runtime := .direct
    let ending : Option Failure := some ⟨.connectionReset, none⟩
    let request : Request := ⟨.connect, .ofIPv4 ⟨127, 0, 0, 1⟩ 80⟩
    let events : List Event := [.readingMore 5 10, .requestDecoded request]
    let cut := Message.Kind.request.decoder.run
      ⟨[[5, 1], [0, 1, 127, 0], [0], [1, 0, 80, 5]], ending⟩
    let whole := Message.Kind.request.decoder.run ⟨[[5, 1, 0, 1, 127, 0, 0, 1, 0, 80, 5]], ending⟩
    (whole.outcome = .ok (.request request) ∧ whole.consumed = 10 ∧ whole.rest.bytes = [5] ∧
      whole.events = events) ∧
    (cut.outcome = .ok (.request request) ∧ cut.consumed = 10 ∧ cut.rest.bytes = [5] ∧
      cut.events = events) := by
  intro runtime ending request events cut whole
  have known : whole.outcome = .ok (.request request) ∧ whole.consumed = 10 ∧
      whole.rest.bytes = [5] ∧ whole.events = events := by decide +kernel
  obtain ⟨outcome, consumed, rest, told⟩ := chunk_borders_carry_no_meaning .request ending
    [[5, 1], [0, 1, 127, 0], [0], [1, 0, 80, 5]] [[5, 1, 0, 1, 127, 0, 0, 1, 0, 80, 5]]
    (by decide) (by decide) rfl
  exact ⟨known, outcome.trans known.1, consumed.trans known.2.1, rest.trans known.2.2.1,
    told.trans known.2.2.2⟩

end Socks.Proofs.StreamReading
