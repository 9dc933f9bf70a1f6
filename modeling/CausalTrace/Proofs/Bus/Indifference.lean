import CausalTrace.Proofs.Bus.Sights
import Mathlib.Data.List.Forall2

/-!
# Programs that do not look

Two buses are compared on which the same is done.  Their counters need not agree, so numbers of one
bus stand for numbers of the other: a `Renaming` says which.  It grows whenever both buses number
something.  Two deliveries are alike if a program that looks only at address, body, headers that are
not reserved and the presence of a reply address cannot tell them apart.

Two programs are alike if they ask for the same things and, whatever alike answers they get, go on
alike.  A program that is alike itself decides by nothing else than what alike deliveries have in
common; it may pass on the numbers and reply addresses that it was given, but it makes none up.
-/

namespace CausalTrace

/-! ## Numbers and addresses -/

/-- Which numbers of one bus stand for which of another. -/
abbrev Renaming := Nat → Nat → Prop

namespace Renaming

/-- No numbers yet. -/
def empty : Renaming := fun _ _ => False

/-- One more pair of numbers. -/
def add (naming : Renaming) (new new' : Nat) : Renaming :=
  fun n n' => naming n n' ∨ n = new ∧ n' = new'

/-- What stands for each other goes on to do so. -/
def Within (naming later : Renaming) : Prop :=
  ∀ ⦃n n'⦄, naming n n' → later n n'

/-- A renaming grows to itself. -/
theorem Within.refl (naming : Renaming) : naming.Within naming :=
  fun _ _ => id

/-- A renaming that has grown twice has grown. -/
theorem Within.trans {naming later last : Renaming} (first : naming.Within later)
    (second : later.Within last) : naming.Within last :=
  fun _ _ paired => second (first paired)

/-- A renaming grows by a new pair of numbers. -/
theorem within_add (naming : Renaming) (new new' : Nat) :
    naming.Within (naming.add new new') :=
  fun _ _ => .inl

/-- New numbers stand for each other. -/
theorem add_new (naming : Renaming) (new new' : Nat) : naming.add new new' new new' :=
  .inr ⟨rfl, rfl⟩

end Renaming

/-- An ordinary address is the same on both buses; a reply address has numbers that stand
for each other. -/
inductive Address.Alike (naming : Renaming) : String → String → Prop where
  | named {address} (ordinary : Bus.isReplyAddress address = false) :
      Address.Alike naming address address
  | reply {n n'} (paired : naming n n') :
      Address.Alike naming (Bus.replyAddress n) (Bus.replyAddress n')

/-! ## Messages -/

/-- Messages that differ in numbers and in the identity that they carry, if they carry one. -/
structure Message.Alike (naming : Renaming) (message message' : Message) : Prop where
  address : Address.Alike naming message.address message'.address
  reply : Option.Rel (Address.Alike naming) message.reply message'.reply
  headers : message.headers.without Causality.headerName
    = message'.headers.without Causality.headerName
  body : message.body = message'.body

/-- Deliveries of messages that are alike, made at the same turn. -/
structure Delivery.Alike (naming : Renaming) (delivery delivery' : Delivery) : Prop where
  number : delivery.number = delivery'.number
  message : Message.Alike naming delivery.message delivery'.message

/-- Drafts to the same address with the same body, whatever their senders say about descent. -/
structure Draft.Alike (naming : Renaming) (draft draft' : Draft) : Prop where
  address : Address.Alike naming draft.address draft'.address
  body : draft.body = draft'.body

/-! ## Programs -/

/-- Programs that ask for the same things and go on alike after answers that are alike.  What is
noted, which short names are learned and how a program ends makes no difference.  Programs that
place or remove hooks are not compared. -/
inductive Program.Alike : Renaming → Program → Program → Prop where
  | finish {naming} (answer answer') : Alike naming (.finish answer) (.finish answer')
  | consume {naming address address' name handler handler' next next'}
      (place : Address.Alike naming address address')
      (handles : ∀ later, naming.Within later → ∀ given given',
        Delivery.Alike later given given' → Alike later (handler given) (handler' given'))
      (goesOn : ∀ later, naming.Within later → ∀ id id', later id id' →
        Alike later (next id) (next' id')) :
      Alike naming (.consume address name handler next) (.consume address' name handler' next')
  | retire {naming id id' next next'} (paired : naming id id')
      (goesOn : ∀ found, Alike naming (next found) (next' found)) :
      Alike naming (.retire id next) (.retire id' next')
  | dispatch {naming draft draft' mode next next'} (drafts : Draft.Alike naming draft draft')
      (goesOn : ∀ later, naming.Within later → ∀ count, Alike later (next count) (next' count)) :
      Alike naming (.dispatch draft mode next) (.dispatch draft' mode next')
  | request {naming draft draft' name onReply onReply' given next next'}
      (drafts : Draft.Alike naming draft draft')
      (handles : ∀ later, naming.Within later → ∀ reply reply',
        Delivery.Alike later reply reply' → Alike later (onReply reply) (onReply' reply'))
      (goesOn : ∀ later, naming.Within later → ∀ count, Alike later (next count) (next' count)) :
      Alike naming (.request draft name onReply given next)
        (.request draft' name onReply' given next')
  | hold {naming slot number next next'} (goesOn : Alike naming next next') :
      Alike naming (.hold slot number next) (.hold slot number next')
  | take {naming slot next next'} (goesOn : ∀ found found',
        Option.Rel (Delivery.Alike naming) found found' →
          Alike naming (next found) (next' found')) :
      Alike naming (.take slot next) (.take slot next')
  | peek {naming slot next next'} (goesOn : ∀ found found',
        Option.Rel (Delivery.Alike naming) found found' →
          Alike naming (next found) (next' found')) :
      Alike naming (.peek slot next) (.peek slot next')
  | drop {naming number next next'} (goesOn : Alike naming next next') :
      Alike naming (.drop number next) (.drop number next')
  | pending {naming next next'} (goesOn : ∀ count, Alike naming (next count) (next' count)) :
      Alike naming (.pending next) (.pending next')
  | note {naming entry entry' next next'} (goesOn : Alike naming next next') :
      Alike naming (.note entry next) (.note entry' next')
  | recall {naming next next'}
      (goesOn : ∀ names names', Alike naming (next names) (next' names')) :
      Alike naming (.recall next) (.recall next')
  | mention {naming ids ids' next next'} (goesOn : Alike naming next next') :
      Alike naming (.mention ids next) (.mention ids' next')
  | mark {naming next next'} (goesOn : ∀ mark, Alike naming (next mark) (next' mark)) :
      Alike naming (.mark next) (.mark next')
  | tally {naming counter next next'}
      (goesOn : ∀ reached, Alike naming (next reached) (next' reached)) :
      Alike naming (.tally counter next) (.tally counter next')

/-- A program that decides by nothing but the address, the body and the ordinary headers of what it
is given, whether a reply is expected, and what the bus answers.  It names no reply address and no
id that it was not given, and leaves hooks alone. -/
def Program.Indifferent (program : Program) : Prop :=
  program.Alike .empty program

/-- Handlers under one name whose programs are alike on deliveries that are alike. -/
structure Handler.Alike (naming : Renaming) (handler handler' : Handler) : Prop where
  name : handler.name = handler'.name
  run : ∀ later, naming.Within later → ∀ given given', Delivery.Alike later given given' →
    Program.Alike later (handler.run given) (handler'.run given')

/-! ## A renaming may grow -/

section Grows

variable {naming later : Renaming} (grows : naming.Within later)

include grows

/-- Addresses stay alike while numbers are given out. -/
theorem Address.Alike.grow {address address' : String}
    (alike : Address.Alike naming address address') : Address.Alike later address address' := by
  cases alike with
  | named ordinary => exact .named ordinary
  | reply paired => exact .reply (grows paired)

/-- Addresses that may be missing do so too. -/
theorem Address.Alike.grow_option {reply reply' : Option String}
    (alike : Option.Rel (Address.Alike naming) reply reply') :
    Option.Rel (Address.Alike later) reply reply' := by
  cases alike with
  | none => exact .none
  | some alike => exact .some (alike.grow grows)

/-- Messages stay alike while numbers are given out. -/
theorem Message.Alike.grow {message message' : Message}
    (alike : Message.Alike naming message message') : Message.Alike later message message' :=
  ⟨alike.address.grow grows, Address.Alike.grow_option grows alike.reply, alike.headers,
    alike.body⟩

/-- Deliveries stay alike while numbers are given out. -/
theorem Delivery.Alike.grow {delivery delivery' : Delivery}
    (alike : Delivery.Alike naming delivery delivery') :
    Delivery.Alike later delivery delivery' :=
  ⟨alike.number, alike.message.grow grows⟩

/-- Drafts stay alike while numbers are given out. -/
theorem Draft.Alike.grow {draft draft' : Draft} (alike : Draft.Alike naming draft draft') :
    Draft.Alike later draft draft' :=
  ⟨alike.address.grow grows, alike.body⟩

/-- Handlers stay alike while numbers are given out. -/
theorem Handler.Alike.grow {handler handler' : Handler}
    (alike : Handler.Alike naming handler handler') : Handler.Alike later handler handler' :=
  ⟨alike.name, fun last further => alike.run last (grows.trans further)⟩

end Grows

end CausalTrace
