import CausalTrace.Proofs.Bus.Turns
import CausalTrace.Proofs.Inspect.Ancestry
import CausalTrace.Proofs.Pipeline.Numbering

/-!
# Records stand behind what they depend on

The record of a message that was seen to leave has a smaller number than the record of each of its
deliveries and than that of each message that names it as a parent.  Nothing checks this.  Hooks let
a message go on only when their push has returned, so events are accepted in such an order; the
writer numbers events as it receives them, which is in the order of acceptance; and a record is
stored under the number of its event or not at all.  Events that are dropped or given up and commits
that fail leave gaps and change no order.

So numbers descend along every chain, and a chain ends at the start of the ancestry of its message
and never because the walk has come back to where it was.
-/

namespace CausalTrace

/-- What is stored stands behind what it depends on. -/
structure RecordOrder (contents : Contents) : Prop where
  /-- Of all records the sent one of a message has a smaller number than those of its deliveries and
  of those messages that name it as a parent. -/
  behind : ∃ all, Inspect.records contents = .ok all ∧
    ∀ sent ∈ all, sent.direction = .sent → ∀ other ∈ all,
      other.direction = .received ∧ other.messageId = sent.messageId ∨
          sent.messageId ∈ other.parents →
        sent.id < other.id
  /-- A chain is the whole ancestry of its message, and its numbers descend. -/
  chain : ∀ messageId, ∃ found, Inspect.chain contents messageId = .ok found ∧
    Inspect.Ancestry contents messageId found ∧
      found.Pairwise fun younger older => older.id < younger.id

namespace Event

variable {event : Event} {id : RecordId}

/-- A record of a sent message is that of an event which sends it. -/
theorem sends_messageId (sound : event.Sound) (left : (Record.ofEvent id event).direction = .sent) :
    event.Sends (Record.ofEvent id event).messageId ∧ (Record.ofEvent id event).messageId ≠ "" := by
  obtain ⟨identity, marked, named, -⟩ := sound left
  have same : (Record.ofEvent id event).messageId = identity.id := by
    rw [Record.ofEvent, marked]
    rfl
  exact same ▸ ⟨⟨left, identity, marked, rfl⟩, named⟩

/-- A record comes after the message that it is of or that it names as a parent. -/
theorem follows_of_record {messageId : MessageId} (named : messageId ≠ "")
    (behind : (Record.ofEvent id event).direction = .received ∧
        (Record.ofEvent id event).messageId = messageId ∨
      messageId ∈ (Record.ofEvent id event).parents) : event.Follows messageId := by
  simp only [Record.ofEvent] at behind
  cases marked : event.causality with
  | none =>
    rw [marked] at behind
    rcases behind with ⟨-, same⟩ | parent
    · exact absurd same.symm named
    · cases parent
  | some identity =>
    rw [marked] at behind
    exact ⟨identity, marked, behind⟩

end Event

/-- A stored record is that of an event, under the place of this event. -/
theorem Record.Numbers.stored {events : List Event} {contents : Contents}
    (numbers : Record.Numbers events contents) {record : Record}
    (stored : Inspect.Stored contents record) :
    ∃ place event, events[place]? = some event ∧
      record = .ofEvent (UInt64.ofNat (place + 1)) event := by
  obtain ⟨place, event, here, -, same⟩ := numbers _ _ stored
  refine ⟨place, event, here, ?_⟩
  have decoded := congrArg Record.decode? same
  rwa [Record.decode?_encode, Record.decode?_encode, Option.some.injEq] at decoded

/-- Where records are numbered in the order in which their events were received, and this order
agrees with what events depend on, so do the numbers. -/
theorem Event.InOrder.stored {events : List Event} (inOrder : Event.InOrder events)
    {contents : Contents} (numbers : Record.Numbers events contents) {writer : Writer}
    (agrees : writer.Agrees contents) (fits : events.length < 2 ^ 64) : RecordOrder contents := by
  have behind (sent other : Record) (stored : Inspect.Stored contents sent)
      (storedToo : Inspect.Stored contents other) (left : sent.direction = .sent)
      (after : other.direction = .received ∧ other.messageId = sent.messageId ∨
        sent.messageId ∈ other.parents) : sent.id < other.id := by
    obtain ⟨first, event, here, rfl⟩ := numbers.stored stored
    obtain ⟨second, later, there, rfl⟩ := numbers.stored storedToo
    have sound := inOrder.sound event (List.mem_of_getElem? here)
    obtain ⟨sends, named⟩ := Event.sends_messageId sound left
    have before := inOrder.lt here there sends (Event.follows_of_record named after)
    obtain ⟨known, -⟩ := List.getElem?_eq_some_iff.1 there
    rw [Record.ofEvent, Record.ofEvent, UInt64.lt_iff_toNat_lt,
      UInt64.toNat_ofNat_of_lt' (by omega : first + 1 < 2 ^ 64),
      UInt64.toNat_ofNat_of_lt' (by omega : second + 1 < 2 ^ 64)]
    omega
  constructor
  · obtain ⟨all, listed, found⟩ := agrees.records_ok
    refine ⟨all, listed, fun sent known left other knownToo => ?_⟩
    exact behind sent other ((found sent).1 known) ((found other).1 knownToo) left
  · intro messageId
    exact agrees.chain_ancestry (fun parent child stored storedToo left among =>
      behind parent child stored storedToo left (.inr among)) messageId

namespace Crowd

variable {σ : Type} [Store σ] [AtomicStore σ] [LastingStore σ] {recorder : Nat} {crowd : Crowd σ}

/-- However the threads at a bus, the writer and the one who stops take turns, whichever events are
dropped or given up, and whichever commits fail: what the store holds at any moment stands behind
what it depends on. -/
theorem Leads.recordOrder {shared : Traffic} {capacity attempts : Nat} {policy : Backpressure}
    {store : σ} {directory : Option String}
    (leads : Leads recorder (start shared (.start capacity policy attempts store directory)) crowd)
    (empty : AtomicStore.Holds store .empty) (distinct : crowd.ids.Distinct)
    (fits : crowd.session.line.accepted.length + 1 < 2 ^ 64) :
    ∃ contents, AtomicStore.Holds crowd.session.store contents ∧ RecordOrder contents := by
  have kept := Session.kept_start capacity policy attempts store directory
  have books := (Session.Leads.kept kept leads.session).books
  obtain ⟨_, numbered⟩ := leads.session.numbered empty fits
  obtain ⟨contents, holds, ⟨writer, agrees⟩, numbers⟩ := numbered.held books fits
  have received := books.account.inOrder
  have inOrder := (leads.orderly distinct).inOrder.sublist received
  have length := received.length_le
  rw [List.length_map] at length
  exact ⟨contents, holds, inOrder.stored numbers agrees (by omega)⟩

/-- Ids that get longer and longer. -/
def growingId (turn : Nat) : MessageId := String.ofList (List.replicate (turn + 1) 'm')

/-- Growing ids are as long as their turn. -/
theorem length_growingId (turn : Nat) : (growingId turn).length = turn + 1 := by
  rw [growingId, String.length_ofList, List.length_replicate]

/-- A source of them. -/
def growingIds : IdSource where
  draw := growingId
  drawn := 0
  draw_ne_empty turn none := by
    have length := length_growingId turn
    rw [none] at length
    cases length

/-- Growing ids are distinct, since their lengths are. -/
theorem distinct_growingIds {ids : IdSource} (source : ids.draw = growingId) : ids.Distinct := by
  intro one other _ _ same
  rw [source] at same
  have lengths := congrArg String.length same
  rw [length_growingId, length_growingId] at lengths
  omega

/-- A consumer that sends on what it is given, and the hooks of a pipeline. -/
def relay : Traffic :=
  let sendsOn (delivery : Delivery) : Program :=
    .dispatch ⟨"b", .text "child", some (.below delivery.message)⟩ .toOne fun _ => .finish .done
  { Traffic.new (.new growingIds 0) with
    bus.consumers := [("a", [⟨1, ⟨"relay", sendsOn⟩⟩])]
    bus.outbound := [(2, .capture 0 .sent)]
    bus.inbound := [(3, .capture 0 .received)] }

/-- Sends a root to the consumer. -/
def sendRoot : Program :=
  .dispatch ⟨"a", .text "root", some .root⟩ .toOne fun _ => .finish .done

/-- The identity of the root, and of what is sent on. -/
def rootIdentity : Causality := ⟨growingId 0, [], none⟩
def childIdentity : Causality := ⟨growingId 1, [growingId 0], none⟩

/-- The root, as it leaves. -/
def rootMessage : Message :=
  { Message.new "a" (.text "root") with headers := rootIdentity.attach .empty }

/-- The first message carries the first identity. -/
theorem carries_rootMessage : rootMessage.headers.Carries rootIdentity :=
  Causality.carries_attach (growingIds.draw_ne_empty 0) _

/-- The second message descends from the first. -/
theorem below_rootMessage : (Lineage.below rootMessage).identity (growingId 1) = childIdentity := by
  rw [Lineage.below, carries_rootMessage.causality]
  rfl

/-- There is no room for the delivery of the root.  The writer makes room, and the child is
stored behind the root. -/
theorem Leads.recordOrder_deliveryDropped :
    ∃ crowd : Crowd MemoryStore, Leads 0 (start relay (.start 1 .dropNewest 1 .new none)) crowd ∧
      crowd.ids.Distinct ∧
      crowd.session.line.accepted.map (fun entry => (entry.2.direction, entry.2.causality))
        = [(.sent, some rootIdentity), (.sent, some childIdentity)] ∧
      crowd.session.counts = ⟨2, 1, 0, 0, 2, 0, 0⟩ ∧
      ∃ contents, AtomicStore.Holds crowd.session.store contents ∧ RecordOrder contents := by
  have outbound : [Hook.capture 0 .sent] = List.replicate 1 (.capture 0 .sent) := rfl
  have inbound : [Hook.capture 0 .received] = List.replicate 1 (.capture 0 .received) := rfl
  have entered := (Leads.here : Leads 0
    (start relay (.start 1 .dropNewest 1 MemoryStore.new none)) _).step (.enters sendRoot)
  -- The root leaves, and its event takes the only place.
  have drafted := entered.step (.moves 0 rfl (.dispatches rfl (Draft.descends_root _ rfl) rfl))
  have looked := drafted.step (.moves 0 rfl (.looks rfl outbound))
  have seen := looked.step
    (.moves 0 rfl (.captures rfl (Direction.sight_of_carries .sent carries_rootMessage _)))
  have accepted := seen.step (.pushes 0 rfl (.enter rfl))
  have counted := accepted.step (.pushes 0 rfl (.countPushed rfl))
  have passed := counted.step (.moves 0 rfl (.returns rfl rfl rfl))
  have left := passed.step (.moves 0 rfl (.departs rfl rfl))
  -- It arrives, and the event of this is dropped.
  have served := left.step (.moves 0 rfl (.serves rfl rfl rfl))
  have looked := served.step (.moves 0 rfl (.looks rfl inbound))
  have seen := looked.step
    (.moves 0 rfl (.captures rfl (Direction.sight_of_carries .received carries_rootMessage _)))
  have dropped := seen.step (.pushes 1 rfl (.enter rfl))
  have passed := dropped.step (.moves 0 rfl (.returns rfl rfl rfl))
  have handed := passed.step (.moves 0 rfl (.hands rfl))
  -- The writer stores the first event.
  have asked := handed.step (.works (.ask rfl rfl))
  have taken := asked.step (.works (.receive rfl (.look rfl)))
  have counted := taken.step (.works (.receive rfl (.countReceived rfl)))
  have given := counted.step (.works (.given rfl rfl))
  have stored := given.step (.works (.attempt rfl rfl))
  have settled := stored.step (.works (.count rfl))
  -- The child leaves, and there is room for its event.
  have drafted := settled.step
    (.moves 0 rfl (.dispatches rfl (Draft.descends_below (.head _) rfl) rfl))
  have looked := drafted.step (.moves 0 rfl (.looks rfl outbound))
  have seen := looked.step (.moves 0 rfl (.captures rfl (Direction.sight_of_carries .sent
    (Causality.carries_attach (growingIds.draw_ne_empty 1) _) _)))
  have accepted := seen.step (.pushes 3 rfl (.enter rfl))
  have counted := accepted.step (.pushes 3 rfl (.countPushed rfl))
  -- The writer stores it.
  have asked := counted.step (.works (.ask rfl rfl))
  have taken := asked.step (.works (.receive rfl (.look rfl)))
  have counted := taken.step (.works (.receive rfl (.countReceived rfl)))
  have given := counted.step (.works (.given rfl rfl))
  have stored := given.step (.works (.attempt rfl rfl))
  have settled := stored.step (.works (.count rfl))
  refine ⟨_, settled, distinct_growingIds rfl, ?_, rfl, ?_⟩
  · show [(Direction.sent, some rootIdentity),
      (.sent, some ((Lineage.below rootMessage).identity (growingId 1)))] = _
    rw [below_rootMessage]
  · exact settled.recordOrder rfl (distinct_growingIds rfl) (by decide)

end Crowd

end CausalTrace
