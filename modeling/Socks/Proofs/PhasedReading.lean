import Socks.Proofs.ReadDemand
import Socks.Wire.Buffer

/-!
Reading in steps. The length of a message follows from its first bytes, so these are read
first and then what is missing. `yieldOf_add` says that such steps come to one reading of the
whole, wherever the chunks end and the source fails: what is read, why nothing is, how much
is taken and which source is left are the same.

A buffer that is to hold the message is made longer by zeros, which the missing bytes are
then read over. `grow` does so call by call, and so it also says what is in the buffer when
the source fails on the way: the bytes that were there, what came behind them, and zeros.
-/
namespace Socks.Proofs.PhasedReading

open Wire Transport Decoder
open StreamReading ReadDemand

/-! ## One reading in two steps -/

/-- What a reading comes to. -/
structure Yield where
  /-- The bytes, or why there are none. -/
  outcome : Except Failure (List UInt8)
  /-- The source afterwards. -/
  rest : Source
  /-- The number of bytes that were taken. -/
  taken : Nat

namespace Yield

/-- The reading comes behind other bytes, which were taken before. -/
def behind (front : List UInt8) (yield : Yield) : Yield :=
  ⟨yield.outcome.map (front ++ ·), yield.rest, front.length + yield.taken⟩

@[simp] theorem behind_nil (yield : Yield) : yield.behind [] = yield := by
  obtain ⟨outcome, rest, taken⟩ := yield
  cases outcome <;> simp [behind, Except.map]

theorem behind_behind (front middle : List UInt8) (yield : Yield) :
    (yield.behind middle).behind front = yield.behind (front ++ middle) := by
  obtain ⟨outcome, rest, taken⟩ := yield
  cases outcome <;> simp [behind, Except.map, Nat.add_assoc]

end Yield

/-- What reading some bytes from a source comes to. -/
def yieldOf [Runtime] (source : Source) (count : Nat) : Yield :=
  let reading := source.read count
  ⟨reading.outcome.map Block.bytes, reading.rest, takenBy reading.calls⟩

/-- What is left of a chunk comes before the later chunks, if anything is left. -/
def leftover (chunk : List UInt8) (later : List (List UInt8)) : List (List UInt8) :=
  if chunk.isEmpty then later else chunk :: later

section Steps

variable [Runtime] {ending : Option Failure} {count : Nat} {chunk : List UInt8}
  {later : List (List UInt8)}

theorem yieldOf_zero (source : Source) : yieldOf source 0 = ⟨.ok [], source, 0⟩ := by
  rw [yieldOf, Source.read, readChunks_zero]
  rfl

/-- One chunk suffices. -/
theorem yieldOf_within (enough : count ≤ chunk.length) :
    yieldOf ⟨leftover chunk later, ending⟩ count =
      ⟨.ok (chunk.take count), ⟨leftover (chunk.drop count) later, ending⟩, count⟩ := by
  rcases Nat.eq_zero_or_pos count with rfl | positive
  · rw [yieldOf_zero]
    rfl
  · cases chunk with
    | nil => exact absurd enough (Nat.not_le_of_lt positive)
    | cons byte chunk =>
      rw [yieldOf, Source.read, leftover, if_neg (by simp), readChunks_within positive enough]
      rfl

/-- A chunk is taken whole where it does not suffice. -/
theorem yieldOf_beyond (short : chunk.length < count) :
    yieldOf ⟨leftover chunk later, ending⟩ count =
      (yieldOf ⟨later, ending⟩ (count - chunk.length)).behind chunk := by
  cases chunk with
  | nil => exact (Yield.behind_nil _).symm
  | cons byte chunk =>
    rw [yieldOf, Source.read, leftover, if_neg (by simp), readChunks_beyond short]
    simp only [yieldOf, Source.read, Yield.behind]
    cases (Source.readChunks ending (count - (byte :: chunk).length) later).outcome <;> rfl

/-- Where the chunks are over, more bytes fail as fewer do. -/
theorem yieldOf_ended (ending : Option Failure) (positive : 0 < count) (more : Nat) :
    yieldOf ⟨[], ending⟩ (count + more) = yieldOf ⟨[], ending⟩ count ∧
      ∃ failure, (yieldOf ⟨[], ending⟩ count).outcome = .error failure := by
  simp only [yieldOf, Source.read, readChunks_nil positive,
    readChunks_nil (Nat.lt_of_lt_of_le positive (Nat.le_add_right count more))]
  cases ending with
  | none => exact ⟨rfl, _, rfl⟩
  | some failure =>
    simp only [Source.readEnd]
    split <;> exact ⟨rfl, _, rfl⟩

theorem yieldOf_empty (positive : 0 < count) :
    yieldOf ⟨[] :: later, ending⟩ count = ⟨.error Failure.earlyEnd, ⟨later, ending⟩, 0⟩ := by
  rw [yieldOf, Source.read, readChunks_empty positive]
  rfl

end Steps

/-- More is read behind a reading, unless that failed. -/
def Yield.further [Runtime] (yield : Yield) (more : Nat) : Yield :=
  match yield.outcome with
  | .ok front => (yieldOf yield.rest more).behind front
  | .error _ => yield

theorem Yield.further_of_ok [Runtime] (front : List UInt8) (rest : Source) (taken more : Nat) :
    (Yield.mk (.ok front) rest taken).further more = (yieldOf rest more).behind front := rfl

theorem Yield.further_of_error [Runtime] {yield : Yield} {failure : Failure}
    (failed : yield.outcome = .error failure) (more : Nat) : yield.further more = yield := by
  rw [further, failed]

theorem Yield.further_behind [Runtime] (front : List UInt8) (yield : Yield) (more : Nat) :
    (yield.behind front).further more = (yield.further more).behind front := by
  obtain ⟨outcome, rest, taken⟩ := yield
  cases outcome with
  | ok bytes => exact (behind_behind front bytes _).symm
  | error failure => rfl

/-- **Two readings, one behind the other, come to one.** -/
theorem yieldOf_add [Runtime] (source : Source) (first more : Nat) :
    yieldOf source (first + more) = (yieldOf source first).further more := by
  -- A reading of nothing does not look at the chunks, so it is no case of the induction on them.
  rcases Nat.eq_zero_or_pos first with rfl | positive
  · rw [yieldOf_zero, Nat.zero_add]
    exact (Yield.behind_nil _).symm
  obtain ⟨chunks, ending⟩ := source
  induction chunks generalizing first with
  | nil =>
    obtain ⟨same, failure, failed⟩ := yieldOf_ended ending positive more
    rw [same, Yield.further_of_error failed]
  | cons chunk later ih =>
    cases chunk with
    | nil => rw [yieldOf_empty positive, yieldOf_empty (Nat.add_pos_left positive more)]; rfl
    | cons byte tail =>
      let chunk := byte :: tail
      change yieldOf ⟨leftover chunk later, ending⟩ (first + more) =
        (yieldOf ⟨leftover chunk later, ending⟩ first).further more
      by_cases short : chunk.length < first
      · have missing : first + more - chunk.length = first - chunk.length + more := by omega
        rw [yieldOf_beyond short, yieldOf_beyond (Nat.lt_add_right more short), missing,
          ih _ (Nat.sub_pos_of_lt short), Yield.further_behind]
      · -- The first reading ends inside the chunk, and the other one starts with what is left.
        have enough : first ≤ chunk.length := Nat.le_of_not_lt short
        have left : (chunk.drop first).length = chunk.length - first := List.length_drop
        rw [yieldOf_within enough, Yield.further_of_ok]
        by_cases both : first + more ≤ chunk.length
        · rw [yieldOf_within both, yieldOf_within (by omega), Yield.behind, List.drop_drop,
            List.length_take_of_le enough, List.take_add]
          rfl
        · have missing : first + more - chunk.length = more - (chunk.drop first).length := by omega
          rw [yieldOf_beyond (Nat.lt_of_not_le both), yieldOf_beyond (by omega),
            Yield.behind_behind, List.take_append_drop, missing]

/-! ## Programs -/

/-- What was there and what was missing are as long as what was asked for. -/
theorem add_missing {count total : Nat} (short : count < total) :
    count + (total - count) = max count total := by
  omega

section Programs

variable [Runtime] {α β : Type}

/-- What comes of going on behind a program, unless it ended without a result. -/
def followedBy (reception : Reception α) (follow : α → Source → Reception β) : Reception β :=
  match reception.outcome with
  | .ok result =>
    let later := follow result reception.rest
    { later with
      calls := reception.calls ++ later.calls
      events := reception.events ++ later.events }
  | .error reason => { reception with outcome := .error reason }

theorem run_bind (program : Decoder α) (follow : α → Decoder β) (source : Source) :
    (program >>= follow).run source =
      followedBy (program.run source) fun result => (follow result).run := by
  change (program.bind follow).run source = _
  induction program generalizing source with
  | done outcome => cases outcome <;> rfl
  | log event next ih =>
    simp only [Decoder.bind, Decoder.run, ih, followedBy]
    split <;> rfl
  | read count next ih =>
    simp only [Decoder.bind, Decoder.run]
    cases (source.read count).outcome with
    | error failure => rfl
    | ok block =>
      simp only [ih, followedBy]
      split <;> simp

theorem run_readPrefix (count : Nat) (source : Source) :
    (readPrefix count).run source =
      ⟨(source.read count).outcome.mapError .failed, (source.read count).rest,
        (source.read count).calls, []⟩ := by
  rw [readPrefix, Decoder.run]
  cases (source.read count).outcome with
  | error failure => rfl
  | ok block => simp [Decoder.run, Except.mapError]

variable {count total : Nat} {block : Block count}

theorem run_readRemainder_of_short (short : count < total) (source : Source) :
    (readRemainder block total).run source =
      ⟨((source.read (total - count)).outcome.map fun more =>
          (block.append more).cast (add_missing short)).mapError .failed,
        (source.read (total - count)).rest, (source.read (total - count)).calls,
        [.readingMore (total - count) total]⟩ := by
  rw [readRemainder, dif_pos short, Decoder.run, Decoder.run]
  cases (source.read (total - count)).outcome with
  | error failure => rfl
  | ok more => simp [Decoder.run, Except.map, Except.mapError]

theorem run_readRemainder_of_whole (whole : total ≤ count) (source : Source) :
    (readRemainder block total).run source =
      ⟨.ok (block.cast (Nat.max_eq_left whole).symm), source, [], []⟩ := by
  rw [readRemainder, dif_neg (Nat.not_lt_of_le whole)]
  rfl

/-- A program that reads a block comes to as much as a reading does. -/
structure ComesTo {size : Nat} (reception : Reception (Block size)) (yield : Yield) : Prop where
  outcome : reception.outcome.map Block.bytes = yield.outcome.mapError .failed
  rest : reception.rest = yield.rest
  consumed : reception.consumed = yield.taken

theorem comesTo_readPrefix (count : Nat) (source : Source) :
    ComesTo ((readPrefix count).run source) (yieldOf source count) := by
  rw [run_readPrefix, yieldOf]
  refine ⟨?_, rfl, consumed_eq _⟩
  cases (source.read count).outcome <;> rfl

/-- The steps come to a reading that is made longer. -/
theorem comesTo_phases (count total : Nat) (source : Source) :
    ComesTo ((readPrefix count >>= fun head => readRemainder head total).run source)
      ((yieldOf source count).further (total - count)) := by
  rw [run_bind, run_readPrefix]
  cases read : (source.read count).outcome with
  | error failure =>
    have failed : (yieldOf source count).outcome = .error failure := by rw [yieldOf, read]; rfl
    rw [Yield.further_of_error failed, yieldOf, read]
    exact ⟨rfl, rfl, consumed_eq _⟩
  | ok head =>
    have taken : takenBy (source.read count).calls = head.bytes.length := by
      rw [head.length_bytes]
      exact (bytes_of_readChunks read).1
    let rest := (source.read count).rest
    have first : yieldOf source count =
        ⟨.ok head.bytes, rest, takenBy (source.read count).calls⟩ := by
      rw [yieldOf, read]
      rfl
    rw [first, Yield.further_of_ok, Except.mapError, followedBy]
    by_cases short : count < total
    · simp only [run_readRemainder_of_short short]
      refine ⟨?_, rfl, ?_⟩
      · simp only [yieldOf, Yield.behind, rest]
        cases ((source.read count).rest.read (total - count)).outcome <;> rfl
      · rw [consumed_eq, takenBy_append, taken]
        rfl
    · have complete : total - count = 0 := Nat.sub_eq_zero_of_le (Nat.le_of_not_lt short)
      simp only [run_readRemainder_of_whole (Nat.le_of_not_lt short), complete, yieldOf_zero]
      refine ⟨?_, rfl, ?_⟩
      · simp [Yield.behind, Except.map, Except.mapError]
      · rw [consumed_eq, takenBy_append, taken]
        rfl

end Programs

/-! ## Reading into a buffer -/

/-- What came of reading into a window until it is full. -/
structure Filling where
  /-- Whether it is full, or why it is not. -/
  outcome : Except Failure Unit
  /-- The window afterwards. -/
  window : Window
  /-- The source afterwards. -/
  rest : Source
  /-- The calls that were made. -/
  calls : List ReadCall

/-- A window after bytes were put into it, of which there are no more than are left of it. -/
def received (window : Window) (bytes : List UInt8) : Window :=
  ⟨window.written ++ bytes, window.left.drop bytes.length⟩

/-- Reads into a window until it is full. Every call offers all that is left of the window, and
what it gets is put there. -/
def fill [Runtime] (ending : Option Failure) (window : Window) (chunks : List (List UInt8)) :
    Filling :=
  let room := window.left.length
  if room = 0 then ⟨.ok (), window, ⟨chunks, ending⟩, []⟩
  else match chunks with
    | [] =>
      let ended := Source.readEnd room ending
      ⟨ended.outcome.map fun _ => (), window, ended.rest, ended.calls⟩
    | [] :: later => ⟨.error Failure.earlyEnd, window, ⟨later, ending⟩, [⟨room, .ok 0⟩]⟩
    | chunk :: later =>
      if chunk.length < room then
        let filling := fill ending (received window chunk) later
        { filling with calls := ⟨room, .ok chunk.length⟩ :: filling.calls }
      else
        ⟨.ok (), received window (chunk.take room), ⟨leftover (chunk.drop room) later, ending⟩,
          [⟨room, .ok room⟩]⟩
  termination_by structural chunks

section Filling

variable [Runtime] {ending : Option Failure} {window : Window} {later : List (List UInt8)}

theorem fill_full (full : window.left.length = 0) (chunks : List (List UInt8)) :
    fill ending window chunks = ⟨.ok (), window, ⟨chunks, ending⟩, []⟩ := by
  rw [fill.eq_def, if_pos full]

theorem fill_nil (room : 0 < window.left.length) :
    fill ending window [] =
      let ended := Source.readEnd window.left.length ending
      ⟨ended.outcome.map fun _ => (), window, ended.rest, ended.calls⟩ := by
  rw [fill, if_neg (Nat.ne_of_gt room)]

theorem fill_empty (room : 0 < window.left.length) :
    fill ending window ([] :: later) =
      ⟨.error Failure.earlyEnd, window, ⟨later, ending⟩, [⟨window.left.length, .ok 0⟩]⟩ := by
  rw [fill, if_neg (Nat.ne_of_gt room)]

variable {byte : UInt8} {chunk : List UInt8}

theorem fill_beyond (short : (byte :: chunk).length < window.left.length) :
    fill ending window ((byte :: chunk) :: later) =
      let filling := fill ending (received window (byte :: chunk)) later
      { filling with
        calls := ⟨window.left.length, .ok (byte :: chunk).length⟩ :: filling.calls } := by
  rw [fill, if_neg (by omega), if_pos short]
  exact List.cons_ne_nil _ _

theorem fill_within (room : 0 < window.left.length)
    (enough : window.left.length ≤ (byte :: chunk).length) :
    fill ending window ((byte :: chunk) :: later) =
      ⟨.ok (), received window ((byte :: chunk).take window.left.length),
        ⟨leftover ((byte :: chunk).drop window.left.length) later, ending⟩,
        [⟨window.left.length, .ok window.left.length⟩]⟩ := by
  rw [fill, if_neg (Nat.ne_of_gt room), if_neg (Nat.not_lt_of_le enough)]
  exact List.cons_ne_nil _ _

end Filling

theorem received_nil (window : Window) : received window [] = window := by
  rw [received, List.append_nil]
  rfl

theorem received_received (window : Window) (first second : List UInt8) :
    received (received window first) second = received window (first ++ second) := by
  simp only [received, List.append_assoc, List.drop_drop, List.length_append]

/-- **Filling a window is reading as many bytes as are left of it**, and whatever comes of that,
the bytes that were taken stand where the window was left off. -/
theorem fill_eq [Runtime] (ending : Option Failure) (window : Window) (chunks : List (List UInt8)) :
    let reading := Source.readChunks ending window.left.length chunks
    fill ending window chunks =
      ⟨reading.outcome.map fun _ => (),
        received window (chunks.flatten.take (takenBy reading.calls)), reading.rest,
        reading.calls⟩ := by
  dsimp only
  rcases Nat.eq_zero_or_pos window.left.length with full | room
  · rw [fill_full full, full, readChunks_zero, takenBy, List.take_zero, received_nil]
    rfl
  induction chunks generalizing window with
  | nil =>
    rw [fill_nil room, readChunks_nil room, List.flatten_nil, List.take_nil, received_nil]
  | cons chunk later ih =>
    cases chunk with
    | nil =>
      rw [fill_empty room, readChunks_empty room]
      simp only [takenBy, ReadCall.taken, Nat.add_zero, List.take_zero, received_nil]
      rfl
    | cons byte chunk =>
      rw [List.flatten_cons]
      by_cases short : (byte :: chunk).length < window.left.length
      · have left : (received window (byte :: chunk)).left.length =
            window.left.length - (byte :: chunk).length := List.length_drop
        have filled := ih (received window (byte :: chunk)) (by omega)
        rw [left, received_received] at filled
        rw [fill_beyond short, readChunks_beyond short]
        simp only [filled, takenBy, ReadCall.taken, List.take_length_add_append]
        cases (Source.readChunks ending (window.left.length - (byte :: chunk).length)
          later).outcome <;> rfl
      · have enough : window.left.length ≤ (byte :: chunk).length := Nat.le_of_not_lt short
        rw [fill_within room enough, readChunks_within room enough]
        simp only [takenBy, ReadCall.taken, Nat.add_zero, List.take_append_of_le_length enough]
        rfl

/-- What came of reading into a buffer. -/
structure Growth where
  /-- Whether all was read, or why it was not. -/
  outcome : Except Failure Unit
  /-- The buffer afterwards. -/
  buffer : List UInt8
  /-- The source afterwards. -/
  rest : Source
  /-- The calls that were made. -/
  calls : List ReadCall
  /-- The events that were reported. -/
  events : List Event

/-- Reads over all bytes of a buffer from a position on. -/
def readOver [Runtime] (buffer : List UInt8) (start : Nat) (source : Source) : Growth :=
  let filling := fill source.ending (.fresh (buffer.drop start)) source.chunks
  ⟨filling.outcome, buffer.take start ++ filling.window.bytes, filling.rest, filling.calls, []⟩

/-- Makes a buffer longer by zeros, and reads over these. A buffer that is long enough is kept. -/
def grow [Runtime] (buffer : List UInt8) (total : Nat) (source : Source) : Growth :=
  let missing := total - buffer.length
  if buffer.length < total then
    { readOver (buffer ++ List.replicate missing 0) buffer.length source with
      events := [.readingMore missing total] }
  else ⟨.ok (), buffer, source, [], []⟩

/-- A reading takes no more than it asks for. -/
theorem takenBy_read_le [Runtime] (source : Source) (count : Nat) :
    takenBy (source.read count).calls ≤ count := by
  by_cases enough : count ≤ (stretch source).length
  · obtain ⟨-, -, -, taken⟩ := readChunks_enough source.ending enough
    exact Nat.le_of_eq taken
  · obtain ⟨-, taken⟩ := readChunks_short source.ending (Nat.lt_of_not_le enough)
    exact Nat.le_of_lt (taken ▸ Nat.lt_of_not_le enough)

section Growing

variable [Runtime] {count total : Nat} {source : Source}

/-- What is read over is replaced from its front on, by the bytes that come. -/
theorem readOver_eq (front back : List UInt8) (source : Source) :
    readOver (front ++ back) front.length source =
      let reading := source.read back.length
      let bytes := source.bytes.take (takenBy reading.calls)
      ⟨reading.outcome.map fun _ => (), front ++ bytes ++ back.drop bytes.length, reading.rest,
        reading.calls, []⟩ := by
  have left : (Window.fresh back).left = back := rfl
  rw [readOver, List.drop_left, List.take_left, fill_eq, left]
  simp only [received, Window.fresh, Window.bytes, List.nil_append, List.append_assoc]
  rfl

theorem grow_of_short {buffer : List UInt8} (short : buffer.length < total) (source : Source) :
    grow buffer total source =
      let reading := source.read (total - buffer.length)
      let bytes := source.bytes.take (takenBy reading.calls)
      ⟨reading.outcome.map fun _ => (),
        buffer ++ bytes ++ List.replicate (total - buffer.length - bytes.length) 0, reading.rest,
        reading.calls, [.readingMore (total - buffer.length) total]⟩ := by
  have room : (List.replicate (total - buffer.length) (0 : UInt8)).length = total - buffer.length :=
    List.length_replicate
  rw [grow, if_pos short, readOver_eq, room]
  simp only [List.drop_replicate]

theorem grow_of_whole {buffer : List UInt8} (whole : total ≤ buffer.length) (source : Source) :
    grow buffer total source = ⟨.ok (), buffer, source, [], []⟩ := by
  rw [grow, if_neg (Nat.not_lt_of_le whole)]

/-- A program that reads a block does what reading into a buffer does. -/
structure Fills {size : Nat} (growth : Growth) (reception : Reception (Block size)) : Prop where
  outcome : reception.outcome.map Block.bytes =
    (growth.outcome.map fun _ => growth.buffer).mapError .failed
  rest : reception.rest = growth.rest
  calls : reception.calls = growth.calls
  events : reception.events = growth.events

/-- The bytes that a successful reading took are the ones that were read. -/
theorem take_of_read {block : Block count} (read : (source.read count).outcome = .ok block) :
    source.bytes.take (takenBy (source.read count).calls) = block.bytes := by
  obtain ⟨taken, front⟩ := bytes_of_readChunks read
  change source.bytes = _ at front
  rw [Source.read, taken, front, List.take_left' block.length_bytes]

theorem fills_readPrefix (count : Nat) (source : Source) :
    Fills (readOver (List.replicate count 0) 0 source) ((readPrefix count).run source) := by
  have filled := readOver_eq [] (List.replicate count 0) source
  rw [List.nil_append, List.length_nil, List.length_replicate] at filled
  rw [filled, run_readPrefix]
  refine ⟨?_, rfl, rfl, rfl⟩
  cases read : (source.read count).outcome with
  | error failure => simp only [read, Except.map, Except.mapError]
  | ok block =>
    simp [read, take_of_read read, block.length_bytes, Except.map, Except.mapError]

theorem fills_readRemainder (block : Block count) (total : Nat) (source : Source) :
    Fills (grow block.bytes total source) ((readRemainder block total).run source) := by
  by_cases short : count < total
  · have shorter : block.bytes.length < total := by rwa [block.length_bytes]
    have grown := grow_of_short shorter source
    rw [block.length_bytes] at grown
    rw [grown, run_readRemainder_of_short short]
    refine ⟨?_, rfl, rfl, rfl⟩
    cases read : (source.read (total - count)).outcome with
    | error failure => simp only [read, Except.map, Except.mapError]
    | ok more =>
      simp [read, take_of_read read, more.length_bytes, Except.map, Except.mapError]
  · have whole : total ≤ count := Nat.le_of_not_lt short
    rw [run_readRemainder_of_whole whole, grow_of_whole (by rwa [block.length_bytes])]
    exact ⟨rfl, rfl, rfl, rfl⟩

/-- However the growing of a buffer ends, behind what was there stand the bytes that came, and
zeros where none did. -/
theorem buffer_of_grow (buffer : List UInt8) (total : Nat) (source : Source) :
    let got := source.bytes.take (takenBy (grow buffer total source).calls)
    (grow buffer total source).buffer =
        buffer ++ got ++ List.replicate (total - buffer.length - got.length) 0 ∧
      got.length ≤ total - buffer.length := by
  by_cases short : buffer.length < total
  · rw [grow_of_short short]
    exact ⟨rfl, Nat.le_trans (List.length_take_le ..) (takenBy_read_le source _)⟩
  · have whole : total ≤ buffer.length := Nat.le_of_not_lt short
    rw [grow_of_whole whole]
    simp [takenBy, whole]

theorem take_buffer_of_grow (buffer : List UInt8) (total : Nat) (source : Source) :
    (grow buffer total source).buffer.take buffer.length = buffer := by
  rw [(buffer_of_grow buffer total source).1, List.append_assoc, List.take_left]

theorem length_buffer_of_grow (buffer : List UInt8) (total : Nat) (source : Source) :
    (grow buffer total source).buffer.length = max buffer.length total := by
  obtain ⟨shape, few⟩ := buffer_of_grow buffer total source
  rw [shape, List.length_append, List.length_append, List.length_replicate]
  omega

end Growing

/-- **Reading in two phases is reading at once.** Whatever the source is, reading the first bytes
and then what is missing of more comes to the same bytes or the same failure as reading all of
them, takes as many bytes and leaves the same source. In the buffer, into which the second phase
reads, the bytes of the first one are never altered, whether that succeeds or not; its length is
the larger one of both; and where nothing is missing there is no call and no event, and the
buffer is kept as it is. -/
theorem two_phases_are_one_reading [Runtime] :
    (∀ first total source, first ≤ total →
      let phased := (readPrefix first >>= fun head => readRemainder head total).run source
      let whole := (readPrefix total).run source
      phased.outcome.map Block.bytes = whole.outcome.map Block.bytes ∧
        phased.consumed = whole.consumed ∧ phased.rest = whole.rest) ∧
    (∀ count (head : Block count) total source,
      let remainder := (readRemainder head total).run source
      let growth := grow head.bytes total source
      Fills growth remainder ∧
        growth.buffer.take count = head.bytes ∧
        growth.buffer.length = max count total ∧
        (total ≤ count → growth = ⟨.ok (), head.bytes, source, [], []⟩)) := by
  constructor
  · intro first total source inside phased whole
    have same : yieldOf source total = (yieldOf source first).further (total - first) := by
      rw [← yieldOf_add, Nat.add_sub_of_le inside]
    have one := comesTo_readPrefix total source
    have two := comesTo_phases first total source
    rw [← same] at two
    exact ⟨two.outcome.trans one.outcome.symm, two.consumed.trans one.consumed.symm,
      two.rest.trans one.rest.symm⟩
  · intro count head total source remainder growth
    have size := head.length_bytes
    have front := take_buffer_of_grow head.bytes total source
    have length := length_buffer_of_grow head.bytes total source
    rw [size] at front length
    refine ⟨fills_readRemainder head total source, front, length, fun whole => ?_⟩
    exact grow_of_whole (by rwa [size]) source

/-- A buffer of two bytes that is to hold four, where a chunk lies across its end; one that is to
hold seven, of which five come; and one that is long enough. -/
theorem two_phases_are_one_reading_across_a_chunk :
    let _ : Runtime := .direct
    let source : Source := ⟨[[1], [2, 3, 4], [5]], some ⟨.connectionReset, none⟩⟩
    let phased (total : Nat) := (readPrefix 2 >>= fun head => readRemainder head total).run source
    let head : Block 2 := ⟨[1, 2], rfl⟩
    2 ≤ 4 ∧ (phased 4).outcome.map Block.bytes = .ok [1, 2, 3, 4] ∧ (phased 4).consumed = 4 ∧
      (phased 4).rest = ⟨[[5]], some ⟨.connectionReset, none⟩⟩ ∧
    2 ≤ 7 ∧ (phased 7).outcome.map Block.bytes = .error (.failed ⟨.connectionReset, none⟩) ∧
      (phased 7).consumed = 5 ∧
    1 ≤ 2 ∧ grow head.bytes 1 source = ⟨.ok (), [1, 2], source, [], []⟩ := by
  intro _ source phased head
  obtain ⟨phases, grown⟩ := two_phases_are_one_reading
  obtain ⟨four, consumedFour, restFour⟩ := phases 2 4 source (by decide)
  obtain ⟨seven, consumedSeven, -⟩ := phases 2 7 source (by decide)
  obtain ⟨-, -, -, kept⟩ := grown 2 head 1 source
  exact ⟨by decide, four.trans (by decide +kernel), consumedFour.trans (by decide +kernel),
    restFour.trans (by decide +kernel), by decide, seven.trans (by decide +kernel),
    consumedSeven.trans (by decide +kernel), by decide, kept (by decide)⟩

end Socks.Proofs.PhasedReading
