import Socks.Proofs.ReadDemand

/-!
What a reader tells about a message that it gets. Every reading behind the head is told with the
number of bytes that it asks for and the length that the message is known to have by then, and
when the message is there it is described once. So the events account for the message: from the
head on, each one names the sum of what was read so far and what is read now, and the last one
names all that was taken from the source.

`Ensures` follows a program with what it has told and received, and lets it end with a result
only where these allow it. The readers are put together from few operations, and the one that
tells something on the way, `readRemainder`, keeps `Accounted` for the bytes that are there.
-/
namespace Socks.Proofs.ReadingLog

open Text Wire Transport Decoder
open StreamReading ReadDemand
open Socks (Address)

variable {α β : Type}

/-! ## Events that account for bytes -/

/-- A reading behind the head of a message. -/
structure Step where
  /-- The number of bytes it asks for. -/
  more : Nat
  /-- The length of the message as far as it is known. -/
  total : Nat

/-- What is told about a reading. -/
def Step.event (step : Step) : Event := .readingMore step.more step.total

/-- Readings get a message of some length from its head on. -/
structure Accounted (head : Nat) (steps : List Step) (whole : Nat) : Prop where
  /-- Nothing is told about a reading of nothing. -/
  positive : ∀ step ∈ steps, 1 ≤ step.more
  /-- A reading names the length that the message has behind it. -/
  running : ∀ index step, steps[index]? = some step →
    head + ((steps.take (index + 1)).map Step.more).sum = step.total
  /-- All readings and the head are the message. -/
  complete : head + (steps.map Step.more).sum = whole
  /-- The last reading names the length of the message, and without one the head is all. -/
  last : (steps.getLast?.map Step.total).getD head = whole

theorem accounted_head (head : Nat) : Accounted head [] head where
  positive := by
    intro step member
    exact absurd member List.not_mem_nil
  running := by
    intro index step there
    cases there
  complete := rfl
  last := rfl

/-- One more reading, of all that is missing of a length. -/
theorem Accounted.concat {head size total : Nat} {steps : List Step}
    (accounted : Accounted head steps size) (short : size < total) :
    Accounted head (steps ++ [⟨total - size, total⟩]) total := by
  have sum : head + ((steps ++ [Step.mk (total - size) total]).map Step.more).sum = total := by
    have before := accounted.complete
    simp only [List.map_append, List.sum_append, List.map_singleton, List.sum_singleton]
    omega
  refine ⟨?_, ?_, sum, ?_⟩
  · intro step member
    rcases List.mem_append.mp member with before | new
    · exact accounted.positive step before
    · rw [List.mem_singleton.mp new]
      exact Nat.sub_pos_of_lt short
  · -- The readings before the new one add up as they did.
    intro index step there
    by_cases before : index < steps.length
    · rw [List.getElem?_append_left before] at there
      rw [List.take_append_of_le_length before]
      exact accounted.running index step there
    · have inside := (List.getElem?_eq_some_iff.mp there).1
      rw [List.length_append, List.length_singleton] at inside
      obtain rfl : index = steps.length := by omega
      rw [List.getElem?_concat_length] at there
      cases there
      have all : (steps ++ [Step.mk (total - size) total]).length ≤ steps.length + 1 := by
        rw [List.length_append, List.length_singleton]
      rw [List.take_of_length_le all]
      exact sum
  · rw [List.getLast?_concat]
    rfl

/-- What was told is told about readings that got so many bytes. -/
def Growing (head : Nat) (told : List Event) (got : Nat) : Prop :=
  ∃ steps, told = steps.map Step.event ∧ Accounted head steps got

theorem growing_head (head : Nat) : Growing head [] head := ⟨[], rfl, accounted_head head⟩

theorem Growing.reading {head got total : Nat} {told : List Event} (grown : Growing head told got)
    (short : got < total) :
    Growing head (told ++ [.readingMore (total - got) total]) total := by
  obtain ⟨steps, rfl, accounted⟩ := grown
  refine ⟨steps ++ [⟨total - got, total⟩], ?_, accounted.concat short⟩
  rw [List.map_append]
  rfl

/-! ## Reports -/

/-- A report tells nothing unless it rejects. -/
def Quiet (report : Report α) : Prop :=
  ∀ result, report.outcome = .ok result → report.events = []

theorem quiet_rejecting {report : Report Unit} {rejection : Rejection} :
    Quiet (do
      report
      Report.reject rejection : Report α) := by
  intro result given
  rw [Report.outcome_bind] at given
  split at given <;> cases given

theorem quiet_bind {report : Report α} {next : α → Report β} (first : Quiet report)
    (second : ∀ result, Quiet (next result)) : Quiet (report >>= next) := by
  obtain ⟨events, outcome⟩ := report
  intro result given
  cases outcome with
  | ok between =>
    have silent : events = [] := first between rfl
    change events ++ (next between).events = []
    rw [silent, second between result given]
    rfl
  | error rejection => cases given

theorem quiet_readKind (type : UInt8) : Quiet (Address.readKind type) := by
  unfold Address.readKind
  split
  · exact fun _ _ => rfl
  · exact quiet_rejecting

theorem quiet_frameLength (type next : UInt8) : Quiet (Address.frameLength type next) :=
  quiet_bind (quiet_readKind type) fun _ _ _ => rfl

theorem quiet_decode (bytes : List UInt8) : Quiet (Address.decode bytes) := by
  cases bytes with
  | nil => exact fun _ _ => rfl
  | cons type rest =>
    refine quiet_bind (quiet_readKind type) fun kind => ?_
    by_cases enough : kind.frameLength (rest.headD 0) ≤ (type :: rest).length
    · simp only [dif_pos enough]
      exact fun _ _ => rfl
    · simp only [dif_neg enough]
      exact quiet_rejecting

/-! ## Programs -/

/-- Whatever bytes a program gets, it ends with a rejection, or with a result that what it has
told by then and the number of bytes that it has received by then allow. -/
def Ensures (allows : α → List Event → Nat → Prop) : Decoder α → List Event → Nat → Prop
  | .done (.ok result), told, got => allows result told got
  | .done (.error _), _, _ => True
  | .log event next, told, got => Ensures allows next (told ++ [event]) got
  | .read count next, told, got => ∀ block, Ensures allows (next block) told (got + count)

section Programs

variable {allows : α → List Event → Nat → Prop} {told : List Event} {got : Nat}

/-- **A run that ends with a result has told and received what allows it.** -/
theorem allows_of_run [Runtime] {program : Decoder α} (ensures : Ensures allows program told got)
    {source : Source} {result : α} (ended : (program.run source).outcome = .ok result) :
    allows result (told ++ (program.run source).events) (got + (program.run source).consumed) := by
  rw [consumed_eq]
  induction program generalizing told got source with
  | done outcome =>
    cases outcome with
    | ok given =>
      cases ended
      rw [Decoder.run, List.append_nil]
      exact ensures
    | error rejection => cases ended
  | log event next ih =>
    have later := ih ensures ended
    rw [List.append_assoc] at later
    exact later
  | read count next ih =>
    rw [Decoder.run, Source.read] at ended ⊢
    by_cases enough : count ≤ (stretch source).length
    · obtain ⟨reading, -, -, taken⟩ := readChunks_enough source.ending enough
      simp only [reading] at ended ⊢
      have later := ih _ (ensures _) ended
      rw [takenBy_append, taken, ← Nat.add_assoc]
      exact later
    · -- A source with too few bytes ends the program without a result.
      obtain ⟨reading, -⟩ := readChunks_short source.ending (Nat.lt_of_not_le enough)
      simp only [reading] at ended
      cases ended

theorem ensures_mono {program : Decoder α} {weaker : α → List Event → Nat → Prop}
    (ensures : Ensures allows program told got)
    (implies : ∀ result told got, allows result told got → weaker result told got) :
    Ensures weaker program told got := by
  induction program generalizing told got with
  | done outcome =>
    cases outcome with
    | ok result => exact implies result told got ensures
    | error rejection => trivial
  | log event next ih => exact ih ensures
  | read count next ih => exact fun block => ih block (ensures block)

theorem ensures_bind {program : Decoder α} {follow : α → Decoder β}
    {allows : β → List Event → Nat → Prop}
    (ensures : Ensures (fun result => Ensures allows (follow result)) program told got) :
    Ensures allows (program >>= follow) told got := by
  change Ensures allows (program.bind follow) told got
  induction program generalizing told got with
  | done outcome =>
    cases outcome with
    | ok result => exact ensures
    | error rejection => trivial
  | log event next ih => exact ih ensures
  | read count next ih => exact fun block => ih block (ensures block)

theorem ensures_map {program : Decoder α} {convert : α → β} {allows : β → List Event → Nat → Prop}
    (ensures : Ensures (fun result => allows (convert result)) program told got) :
    Ensures allows (convert <$> program) told got :=
  ensures_bind ensures

theorem ensures_readPrefix {count : Nat} {allows : Block count → List Event → Nat → Prop}
    (after : ∀ block, allows block told (got + count)) :
    Ensures allows (.readPrefix count) told got := after

theorem ensures_checkVersion {message : Versioned} {version : UInt8}
    {allows : Unit → List Event → Nat → Prop} (after : allows () told got) :
    Ensures allows (.checkVersion message version) told got := by
  unfold checkVersion
  split
  · exact after
  · trivial

theorem ensures_outcome {outcome : Except Rejection α}
    (after : ∀ result, allows result told got) : Ensures allows (.outcome outcome) told got := by
  cases outcome with
  | ok result => exact after result
  | error rejection => trivial

theorem ensures_report {event : Event} {result : α} (after : allows result (told ++ [event]) got) :
    Ensures allows (do
      report event
      return result) told got := after

theorem ensures_ofReport {report : Report α} (quiet : Quiet report)
    (after : ∀ result, report.outcome = .ok result → allows result told got) :
    Ensures allows (.ofReport report) told got := by
  obtain ⟨events, outcome⟩ := report
  cases outcome with
  | ok result =>
    obtain rfl : events = [] := quiet result rfl
    exact after result rfl
  | error rejection =>
    -- What a rejecting report tells does not matter, because no result is to be allowed.
    unfold Decoder.ofReport
    induction events generalizing told with
    | nil => trivial
    | cons event later ih => exact ih (fun _ given => nomatch given) (fun _ given => nomatch given)

/-- A reading is told with the length that there is behind it, and if nothing is missing then
nothing is told. -/
theorem ensures_readRemainder {head count total : Nat} {block : Block count}
    {allows : Block (max count total) → List Event → Nat → Prop}
    (grown : Growing head told count)
    (after : ∀ full told got, got = max count total → Growing head told got →
      allows full told got) :
    Ensures allows (.readRemainder block total) told count := by
  unfold readRemainder
  split
  · rename_i short
    have size : count + (total - count) = total := Nat.add_sub_of_le (Nat.le_of_lt short)
    intro more
    refine after _ _ _ (by omega) ?_
    rw [size]
    exact grown.reading short
  · exact after _ _ _ (by omega) grown

end Programs

/-! ## Decoders -/

/-- What is told about a message when it is there. -/
def description : Message → Event
  | .offer offer => .offerDecoded offer
  | .selection method => .selectionDecoded method
  | .credential login => .credentialDecoded login.username
  | .status answer => .statusDecoded answer.code
  | .request request => .requestDecoded request
  | .reply reply => .replyDecoded reply
  | .datagram relayed => .datagramDecoded relayed.header relayed.payload.length

/-- The words that describe a message. -/
def wording : Message → String
  | .offer offer =>
    s!"Decoded {offer.bytes.length} offered methods: " ++
      ("[" ++ ", ".intercalate (offer.bytes.map toString) ++ "]")
  | .selection method => s!"Server selected method {method.name}"
  | .credential login => s!"Decoded credential for user {quoted login.username}"
  | .status answer => s!"Decoded auth status {answer.code}"
  | .request request =>
    s!"Decoded SOCKS5 request: {request.command.display} to {request.address.display}"
  | .reply reply => s!"Decoded SOCKS5 reply: {reply.code.name} bound to {reply.address.display}"
  | .datagram relayed =>
    s!"Decoded UDP datagram [{relayed.header.display}] with {relayed.payload.length} payload bytes"

/-- The readings of a message were told first, and then it was described. -/
def Told (head : Nat) (message : Message) (told : List Event) (got : Nat) : Prop :=
  ∃ before, Growing head before got ∧ told = before ++ [description message]

theorem Growing.described {head got : Nat} {told : List Event} {message : Message}
    (grown : Growing head told got) : Told head message (told ++ [description message]) got :=
  ⟨told, grown, rfl⟩

private theorem ensures_offer :
    Ensures (fun offer => Told 2 (.offer offer)) Offer.decoder [] 0 := by
  refine ensures_bind (ensures_readPrefix fun head => ?_)
  refine ensures_bind (ensures_checkVersion ?_)
  split
  · trivial
  · refine ensures_bind (ensures_readRemainder (growing_head 2) ?_)
    intro full told got _ grown
    exact ensures_report grown.described

private theorem ensures_selection :
    Ensures (fun method => Told 2 (.selection method)) Method.decoder [] 0 := by
  refine ensures_bind (ensures_readPrefix fun head => ?_)
  refine ensures_bind (ensures_checkVersion ?_)
  exact ensures_report (growing_head 2).described

private theorem ensures_status :
    Ensures (fun status => Told 2 (.status status)) LoginStatus.decoder [] 0 := by
  refine ensures_bind (ensures_readPrefix fun head => ?_)
  refine ensures_bind (ensures_checkVersion ?_)
  exact ensures_report (growing_head 2).described

/-- The username and the password are got by a reading each, and an empty password by none. -/
private theorem ensures_credential :
    Ensures (fun login => Told 2 (.credential login)) Credential.decoder [] 0 := by
  refine ensures_bind (ensures_readPrefix fun head => ?_)
  refine ensures_bind (ensures_checkVersion ?_)
  refine ensures_bind (ensures_readRemainder (growing_head 2) ?_)
  rintro half told _ rfl grown
  refine ensures_bind (ensures_readRemainder grown ?_)
  intro full told got _ grown
  refine ensures_bind (ensures_outcome fun username => ?_)
  refine ensures_bind (ensures_outcome fun password => ?_)
  exact ensures_report grown.described

private theorem ensures_exchange : Ensures (fun _ => Growing 5) Exchange.decoder [] 0 := by
  refine ensures_bind (ensures_readPrefix fun head => ?_)
  refine ensures_bind (ensures_checkVersion ?_)
  refine ensures_bind (ensures_ofReport (quiet_frameLength _ _) fun length _ => ?_)
  refine ensures_bind (ensures_readRemainder (growing_head 5) ?_)
  intro full told got _ grown
  exact ensures_bind (ensures_ofReport (quiet_decode _) fun address _ => grown)

private theorem ensures_request :
    Ensures (fun request => Told 5 (.request request)) Request.decoder [] 0 := by
  refine ensures_bind (ensures_mono ensures_exchange ?_)
  intro ⟨code, address⟩ told got grown
  cases known : Command.ofByte? code with
  | none => simp only [known]; trivial
  | some command =>
    simp only [known]
    exact ensures_report grown.described

private theorem ensures_reply :
    Ensures (fun reply => Told 5 (.reply reply)) Reply.decoder [] 0 := by
  refine ensures_bind (ensures_mono ensures_exchange ?_)
  intro ⟨code, address⟩ told got grown
  cases known : ReplyCode.ofByte code with
  | error rejection => simp only [known]; trivial
  | ok named =>
    simp only [known]
    exact ensures_report grown.described

private theorem ensures_datagram :
    Ensures (fun relayed => Told 5 (.datagram relayed)) Datagram.decoder [] 0 := by
  refine ensures_bind (ensures_readPrefix fun head => ?_)
  refine ensures_bind (ensures_ofReport (quiet_frameLength _ _) fun length _ => ?_)
  refine ensures_bind (ensures_readRemainder (growing_head 5) ?_)
  intro full told got _ grown
  refine ensures_bind (ensures_ofReport (quiet_decode _) fun address _ => ?_)
  exact ensures_report grown.described

/-- Every reader tells its readings from the head on, and then the message. -/
theorem ensures_told (kind : Message.Kind) : Ensures (Told (headLength kind)) kind.decoder [] 0 := by
  cases kind with
  | offer => exact ensures_map ensures_offer
  | selection => exact ensures_map ensures_selection
  | credential => exact ensures_map ensures_credential
  | status => exact ensures_map ensures_status
  | request => exact ensures_map ensures_request
  | reply => exact ensures_map ensures_reply
  | datagram => exact ensures_map ensures_datagram

/-! ## Lines -/

theorem level_step (step : Step) : step.event.level = .trace := rfl

theorem level_description (message : Message) : (description message).level = .trace := by
  cases message <;> rfl

theorem line_of_trace {event : Event} (quiet : event.level = .trace) :
    event.line = "TRACE " ++ event.message := by
  rw [Event.line, quiet]
  rfl

theorem line_description (message : Message) :
    (description message).line = "TRACE " ++ wording message := by
  rw [line_of_trace (level_description message)]
  cases message <;> rfl

/-- More text behind a text does not change the letter that it starts with. -/
theorem head_append {first : String} {letter : Char} (starts : first.toList.head? = some letter)
    (second : String) : (first ++ second).toList.head? = some letter := by
  rw [String.toList_append, List.head?_append, starts]
  rfl

/-- What describes a message starts with another letter than what tells a reading. -/
theorem head_wording (message : Message) :
    ∃ letter, letter ≠ 'R' ∧ (wording message).toList.head? = some letter := by
  cases message with
  | offer offer =>
    exact ⟨'D', by decide, head_append (head_append (head_append (by decide) _) _) _⟩
  | selection method => exact ⟨'S', by decide, head_append (by decide) _⟩
  | credential login => exact ⟨'D', by decide, head_append (by decide) _⟩
  | status answer => exact ⟨'D', by decide, head_append (by decide) _⟩
  | request request =>
    exact ⟨'D', by decide, head_append (head_append (head_append (by decide) _) _) _⟩
  | reply reply =>
    exact ⟨'D', by decide, head_append (head_append (head_append (by decide) _) _) _⟩
  | datagram relayed =>
    refine ⟨'D', by decide, ?_⟩
    exact head_append (head_append (head_append (head_append (by decide) _) _) _) _

theorem line_description_ne_line_step (message : Message) (step : Step) :
    (description message).line ≠ step.event.line := by
  intro same
  rw [line_description, line_of_trace (level_step step)] at same
  have behind : (wording message).toList = step.event.message.toList := by
    have letters := congrArg String.toList same
    rw [String.toList_append, String.toList_append] at letters
    exact List.append_cancel_left letters
  obtain ⟨letter, other, starts⟩ := head_wording message
  have reading : step.event.message.toList.head? = some 'R' :=
    head_append (head_append (head_append (head_append (by decide) _) _) _) _
  rw [behind, reading] at starts
  exact other (Option.some.inj starts).symm

/-! ## Transcripts -/

/-- **The events of a message that is read account for all of its bytes.** They are those of the
readings behind the head, if there are any, and the one that describes the message, in words
that are none of a reading; all of them have the level `trace`. No reading is of nothing, the
head and the readings so far always add up to the length that is told with the last of them,
and the length that is told last is what was taken from the source, or the head is if no length
is told. -/
theorem transcripts_account_for_messages [Runtime] (kind : Message.Kind) (source : Source)
    (message : Message) :
    let reception := kind.decoder.run source
    reception.outcome = .ok message →
      ∃ steps : List Step,
        reception.events = steps.map Step.event ++ [description message] ∧
        (∀ step ∈ steps, step.event.line =
          s!"TRACE Reading {step.more} more bytes of a {step.total} byte frame") ∧
        (description message).line = "TRACE " ++ wording message ∧
        (∀ step : Step, (description message).line ≠ step.event.line) ∧
        (∀ event ∈ reception.events, event.level = .trace) ∧
        Accounted (headLength kind) steps reception.consumed := by
  intro reception accepted
  obtain ⟨before, ⟨steps, rfl, accounted⟩, events⟩ := allows_of_run (ensures_told kind) accepted
  rw [List.nil_append] at events
  rw [Nat.zero_add] at accounted
  refine ⟨steps, events, fun _ _ => rfl, line_description message,
    line_description_ne_line_step message, ?_, accounted⟩
  intro event told
  rw [show reception.events = _ from events, List.mem_append, List.mem_singleton] at told
  rcases told with reading | rfl
  · obtain ⟨step, -, rfl⟩ := List.mem_map.mp reading
    exact level_step step
  · exact level_description message

/-- A credential that comes in three chunks, with a byte behind it: four bytes are known to be
needed when the username is counted, and the fifth one when the password is. -/
theorem transcript_accounts_for_a_credential :
    let _ : Runtime := .direct
    let source : Source := ⟨[[1], [1, 97, 1], [98, 9]], none⟩
    let reception := Message.Kind.credential.decoder.run source
    reception.events.map Event.line =
        ["TRACE Reading 2 more bytes of a 4 byte frame",
          "TRACE Reading 1 more bytes of a 5 byte frame",
          "TRACE Decoded credential for user \"a\""] ∧
      (∀ event ∈ reception.events, event.level = .trace) ∧
      ∃ steps : List Step,
        reception.events = steps.map Step.event ++ [.credentialDecoded "a"] ∧
          (Event.credentialDecoded "a").line = "TRACE Decoded credential for user \"a\"" ∧
          Accounted 2 steps 5 := by
  intro _ source reception
  have accepted : reception.outcome = .ok (.credential ⟨1, "a", "b"⟩) := by decide +kernel
  have consumed : reception.consumed = 5 := by decide +kernel
  have lines : reception.events.map Event.line =
      ["TRACE Reading 2 more bytes of a 4 byte frame",
        "TRACE Reading 1 more bytes of a 5 byte frame",
        "TRACE Decoded credential for user \"a\""] := by decide +kernel
  obtain ⟨steps, told, -, described, -, traces, accounted⟩ :=
    transcripts_account_for_messages .credential source _ accepted
  exact ⟨lines, traces, steps, told, described.trans (by decide +kernel), consumed ▸ accounted⟩

end Socks.Proofs.ReadingLog
