import Socks.Datagram.Packet
import Socks.Proofs.FrameRefusals

/-!
What of a rejection is seen in the log. An operation that decodes reports at the level `debug`
only when it rejects, and then once; but some rejections are not reported at all: bytes that
are no text, an address without a byte and a packet without a head. `due` says how many such
events belong to an outcome. A program can only keep to that if it has reported none when it
reads, because a failure of the source is due none.
-/
namespace Socks.Proofs.RejectionLog

open Text Wire Transport Decoder
open Socks (Address)

variable {α β : Type}

/-- The number of events at the level `debug`. -/
def debugs (events : List Event) : Nat := events.countP (·.level = .debug)

/-- The rejections that nothing is reported about. -/
def unreported : Rejection → Bool
  | .malformed .emptyAddress | .malformed .domainNotUtf8 | .malformed (.fieldNotUtf8 _)
  | .malformed (.packetTooShort _) => true
  | _ => false

/-- The number of events at the level `debug` that an outcome comes with. -/
def due : Except CodecError α → Nat
  | .error (.rejected rejection) => if unreported rejection then 0 else 1
  | .error (.failed _) | .ok _ => 0

theorem debugs_append (first second : List Event) :
    debugs (first ++ second) = debugs first + debugs second := List.countP_append

theorem debugs_cons (event : Event) (later : List Event) :
    debugs (event :: later) = debugs [event] + debugs later := debugs_append [event] later

/-! ## Reports -/

/-- A report holds the events that its outcome is due. -/
def Balanced (report : Report α) : Prop :=
  debugs report.events = due (report.outcome.mapError .rejected)

theorem balanced_pure (result : α) : Balanced (pure result) := rfl

/-- What is not reported need not be. -/
theorem balanced_reject {rejection : Rejection} (silent : unreported rejection = true) :
    Balanced (Report.reject rejection : Report α) := by
  change 0 = if unreported rejection then 0 else 1
  rw [if_pos silent]

/-- A rejection behind its event. -/
theorem balanced_log_reject {event : Event} {rejection : Rejection} (told : debugs [event] = 1)
    (loud : unreported rejection = false) :
    Balanced (do
      Report.log event
      Report.reject rejection : Report α) := by
  change debugs [event] = if unreported rejection then 0 else 1
  rw [told, loud]
  rfl

theorem balanced_bind {report : Report α} {next : α → Report β} (first : Balanced report)
    (second : ∀ result, Balanced (next result)) : Balanced (report >>= next) := by
  obtain ⟨events, outcome⟩ := report
  cases outcome with
  | ok result =>
    have silent : debugs events = 0 := first
    change debugs (events ++ (next result).events) = due ((next result).outcome.mapError .rejected)
    rw [debugs_append, silent, Nat.zero_add]
    exact second result
  | error rejection => exact first

theorem balanced_readKind (type : UInt8) : Balanced (Address.readKind type) := by
  rw [Address.readKind]
  split
  · exact balanced_pure _
  · exact balanced_log_reject rfl rfl

theorem balanced_frameLength (type next : UInt8) : Balanced (Address.frameLength type next) :=
  balanced_bind (balanced_readKind type) fun _ => balanced_pure _

/-- A whole address is rejected only for a name that is no text, which is not reported. -/
theorem balanced_ofFrame {kind : Address.Kind} {next : UInt8} (frame : Block (kind.frameLength next)) :
    Balanced (Report.ofOutcome (Address.ofFrame kind next frame)) := by
  rw [Address.ofFrame]
  cases kind with
  | ipv4 => rfl
  | ipv6 => rfl
  | domain =>
    rw [Address.ofBody]
    split <;> rfl

theorem balanced_decode (bytes : List UInt8) : Balanced (Address.decode bytes) := by
  cases bytes with
  | nil => exact balanced_reject rfl
  | cons type rest =>
    apply balanced_bind (balanced_readKind type)
    intro kind
    by_cases enough : kind.frameLength (rest.headD 0) ≤ (type :: rest).length
    · simp only [dif_pos enough]
      exact balanced_ofFrame _
    · simp only [dif_neg enough]
      exact balanced_log_reject rfl rfl

theorem balanced_decodePacket (framing : Framing) (packet : List UInt8) :
    Balanced (framing.decodePacket packet) := by
  rw [Framing.decodePacket]
  split
  · apply balanced_bind (balanced_frameLength _ _)
    intro length
    apply balanced_bind (balanced_decode _)
    intro address
    dsimp only
    split
    · exact balanced_pure _
    · exact balanced_log_reject rfl rfl
  · exact balanced_reject rfl

/-! ## Programs -/

/-- A program that has reported some events at the level `debug` ends, whatever the source, with
as many as its outcome is due. -/
def Accounts : Decoder α → Nat → Prop
  | .done outcome, told => told = due (outcome.mapError .rejected)
  | .log event next, told => Accounts next (told + debugs [event])
  | .read _ next, told => told = 0 ∧ ∀ block, Accounts (next block) told

/-- **The events of a run are those that its outcome is due.** -/
theorem debugs_run [Runtime] {program : Decoder α} {told : Nat} (accounts : Accounts program told)
    (source : Source) :
    told + debugs (program.run source).events = due (program.run source).outcome := by
  induction program generalizing told source with
  | done outcome => exact accounts
  | log event next ih =>
    rw [Decoder.run]
    simp only
    rw [debugs_cons, ← Nat.add_assoc]
    exact ih accounts source
  | read count next ih =>
    obtain ⟨silent, later⟩ := accounts
    rw [Decoder.run]
    simp only
    split
    · exact silent
    · exact ih _ (later _) _

section Programs

variable {told : Nat}

theorem accounts_bind {program : Decoder α} {follow : α → Decoder β}
    (first : Accounts program told) (second : ∀ result, Accounts (follow result) 0) :
    Accounts (program >>= follow) told := by
  change Accounts (program.bind follow) told
  induction program generalizing told with
  | done outcome =>
    cases outcome with
    | ok result =>
      have silent : told = 0 := first
      rw [silent]
      exact second result
    | error rejection => exact first
  | log event next ih => exact ih first
  | read count next ih => exact ⟨first.1, fun block => ih block (first.2 block)⟩

theorem accounts_map {program : Decoder α} {convert : α → β} (accounts : Accounts program told) :
    Accounts (convert <$> program) told :=
  accounts_bind accounts fun _ => rfl

/-- Events in front of an outcome. -/
private theorem accounts_events {events : List Event} {outcome : Except Rejection α}
    (complete : told + debugs events = due (outcome.mapError .rejected)) :
    Accounts (events.foldr .log (.done outcome)) told := by
  induction events generalizing told with
  | nil => exact complete
  | cons event later ih =>
    rw [debugs_cons, ← Nat.add_assoc] at complete
    exact ih complete

theorem accounts_ofReport {report : Report α} (balanced : Balanced report) :
    Accounts (.ofReport report) 0 :=
  accounts_events ((Nat.zero_add _).trans balanced)

theorem accounts_checkVersion (message : Versioned) (version : UInt8) :
    Accounts (.checkVersion message version) 0 := by
  rw [checkVersion]
  split <;> rfl

theorem accounts_readPrefix (count : Nat) : Accounts (.readPrefix count) 0 :=
  ⟨rfl, fun _ => rfl⟩

theorem accounts_readRemainder {count : Nat} (block : Block count) (total : Nat) :
    Accounts (.readRemainder block total) 0 := by
  rw [readRemainder]
  split
  · exact ⟨rfl, fun _ => rfl⟩
  · rfl

/-- A rejection behind its event. -/
theorem accounts_report_reject {event : Event} {rejection : Rejection} (told : debugs [event] = 1)
    (loud : unreported rejection = false) :
    Accounts (do
      report event
      reject rejection : Decoder α) 0 :=
  accounts_ofReport (balanced_log_reject told loud)

end Programs

/-! ## Messages -/

private theorem accounts_offer : Accounts Offer.decoder 0 := by
  refine accounts_bind (accounts_readPrefix 2) fun _ => ?_
  refine accounts_bind (accounts_checkVersion _ _) fun _ => ?_
  split
  · exact accounts_report_reject rfl rfl
  · exact accounts_bind (accounts_readRemainder _ _) fun _ => rfl

private theorem accounts_selection : Accounts Method.decoder 0 :=
  accounts_bind (accounts_readPrefix 2) fun _ =>
    accounts_bind (accounts_checkVersion _ _) fun _ => rfl

private theorem accounts_status : Accounts LoginStatus.decoder 0 :=
  accounts_bind (accounts_readPrefix 2) fun _ =>
    accounts_bind (accounts_checkVersion _ _) fun _ => rfl

/-- Bytes that are no text are the only other defect of a credential. -/
private theorem accounts_readField (field : LoginField) (bytes : List UInt8) :
    Accounts (.outcome (Credential.readField field bytes)) 0 := by
  rw [Credential.readField]
  split <;> rfl

private theorem accounts_credential : Accounts Credential.decoder 0 := by
  refine accounts_bind (accounts_readPrefix 2) fun _ => ?_
  refine accounts_bind (accounts_checkVersion _ _) fun _ => ?_
  refine accounts_bind (accounts_readRemainder _ _) fun _ => ?_
  refine accounts_bind (accounts_readRemainder _ _) fun _ => ?_
  refine accounts_bind (accounts_readField _ _) fun _ => ?_
  exact accounts_bind (accounts_readField _ _) fun _ => rfl

private theorem accounts_exchange : Accounts Exchange.decoder 0 := by
  refine accounts_bind (accounts_readPrefix _) fun _ => ?_
  refine accounts_bind (accounts_checkVersion _ _) fun _ => ?_
  refine accounts_bind (accounts_ofReport (balanced_frameLength _ _)) fun _ => ?_
  refine accounts_bind (accounts_readRemainder _ _) fun _ => ?_
  exact accounts_bind (accounts_ofReport (balanced_decode _)) fun _ => rfl

private theorem accounts_request : Accounts Request.decoder 0 := by
  refine accounts_bind accounts_exchange fun _ => ?_
  dsimp only
  split
  · rfl
  · exact accounts_report_reject rfl rfl

private theorem accounts_reply : Accounts Reply.decoder 0 := by
  refine accounts_bind accounts_exchange fun (byte, _) => ?_
  dsimp only
  split
  · rfl
  · rename_i _ unknown
    obtain ⟨-, rfl⟩ := FrameRefusals.replyCode_ofByte_eq_error_iff.mp unknown
    exact accounts_report_reject rfl rfl

private theorem accounts_datagram : Accounts Datagram.decoder 0 := by
  refine accounts_bind (accounts_readPrefix _) fun _ => ?_
  refine accounts_bind (accounts_ofReport (balanced_frameLength _ _)) fun _ => ?_
  refine accounts_bind (accounts_readRemainder _ _) fun _ => ?_
  exact accounts_bind (accounts_ofReport (balanced_decode _)) fun _ => rfl

theorem accounts_decoder (kind : Message.Kind) : Accounts kind.decoder 0 := by
  cases kind with
  | offer => exact accounts_map accounts_offer
  | selection => exact accounts_map accounts_selection
  | credential => exact accounts_map accounts_credential
  | status => exact accounts_map accounts_status
  | request => exact accounts_map accounts_request
  | reply => exact accounts_map accounts_reply
  | datagram => exact accounts_map accounts_datagram

/-- **Every operation that decodes reports each rejection once at the level `debug`, but for the
`unreported` ones, and nothing else at that level.** This covers the seven kinds of messages on
any source, an address in front of any bytes and a packet of any bytes under both framings. -/
theorem rejections_are_reported_once_or_never [Runtime] (kind : Message.Kind) (source : Source)
    (framing : Framing) (bytes : List UInt8) :
    let reception := kind.decoder.run source
    let address := Address.decode bytes
    let datagram := framing.decodePacket bytes
    debugs reception.events = due reception.outcome ∧
      debugs address.events = due (address.outcome.mapError .rejected) ∧
      debugs datagram.events = due (datagram.outcome.mapError .rejected) := by
  intro reception address datagram
  have accounted : 0 + debugs reception.events = due reception.outcome :=
    debugs_run (accounts_decoder kind) source
  rw [Nat.zero_add] at accounted
  exact ⟨accounted, balanced_decode bytes, balanced_decodePacket framing bytes⟩

/-- A request for the name that is the single byte 255: it is rejected for its bytes, and no event
at the level `debug` says so. -/
theorem unreadable_name_is_rejected_unreported :
    let _ : Runtime := .direct
    let reception := Message.Kind.request.decoder.run ⟨[[5, 1, 0, 3, 1, 255, 0, 80]], none⟩
    reception.outcome = .error (.rejected (.malformed .domainNotUtf8)) ∧
      debugs reception.events = 0 := by
  decide +kernel

end Socks.Proofs.RejectionLog
