import CausalTrace.Proofs.Bus.Capturing
import CausalTrace.Proofs.Bus.Indifference
import CausalTrace.Proofs.Text.Figures

/-!
# Two buses side by side

Whatever a bus does with its register, another bus does with a register that is alike: what is
found, counted and removed is found, counted and removed on both.  All questions that a bus puts to
a number or an address are questions of equality, and a renaming that is one to one answers them
alike.
-/

namespace CausalTrace

/-! ## Lists side by side -/

section Lists

variable {α β : Type} {related : α → β → Prop}

/-- What is found first stands for what is found first on the other side. -/
theorem find?_alike {here : α → Bool} {there : β → Bool} {list : List α} {list' : List β}
    (lists : List.Forall₂ related list list')
    (same : ∀ ⦃a b⦄, related a b → here a = there b) :
    Option.Rel related (list.find? here) (list'.find? there) := by
  induction lists with
  | nil => exact .none
  | @cons a b _ _ first _ ih =>
    rw [List.find?_cons, List.find?_cons, ← same first]
    cases here a with
    | true => exact .some first
    | false => exact ih

/-- What stands at a place stands for what is there on the other side. -/
theorem getElem?_alike {list : List α} {list' : List β} (lists : List.Forall₂ related list list')
    (place : Nat) : Option.Rel related list[place]? list'[place]? := by
  induction lists generalizing place with
  | nil => exact .none
  | cons first _ ih =>
    cases place with
    | zero => exact .some first
    | succ place => exact ih place

/-- If one is found on one side, one is found on the other. -/
theorem any_alike {here : α → Bool} {there : β → Bool} {list : List α} {list' : List β}
    (lists : List.Forall₂ related list list')
    (same : ∀ ⦃a b⦄, related a b → here a = there b) : list.any here = list'.any there := by
  induction lists with
  | nil => rfl
  | cons first _ ih => rw [List.any_cons, List.any_cons, same first, ih]

/-- What is left of two lists stands for each other. -/
theorem filter_alike {here : α → Bool} {there : β → Bool} {list : List α} {list' : List β}
    (lists : List.Forall₂ related list list')
    (same : ∀ ⦃a b⦄, related a b → here a = there b) :
    List.Forall₂ related (list.filter here) (list'.filter there) :=
  List.rel_filter (fun _ _ pair => Bool.eq_iff_iff.1 (same pair)) lists

/-- Both parts of two lists stand for each other. -/
theorem partition_alike {here : α → Bool} {there : β → Bool} {list : List α} {list' : List β}
    (lists : List.Forall₂ related list list')
    (same : ∀ ⦃a b⦄, related a b → here a = there b) :
    List.Forall₂ related (list.partition here).1 (list'.partition there).1 ∧
      List.Forall₂ related (list.partition here).2 (list'.partition there).2 := by
  rw [List.partition_eq_filter_filter, List.partition_eq_filter_filter]
  exact ⟨filter_alike lists same,
    filter_alike lists fun _ _ pair => by rw [Function.comp_apply, Function.comp_apply, same pair]⟩

end Lists

/-! ## Addresses -/

namespace Bus

/-- The address for replies that a number stands for is one. -/
theorem isReplyAddress_replyAddress (number : Nat) :
    isReplyAddress (replyAddress number) = true := by
  rw [isReplyAddress, replyAddress, String.toList_append, List.isPrefixOf_iff_prefix]
  exact List.prefix_append _ _

/-- Different numbers have different addresses for replies. -/
theorem replyAddress_injective : Function.Injective replyAddress := by
  intro n m same
  have texts := congrArg String.toList same
  rw [replyAddress, replyAddress, String.toList_append, String.toList_append,
    List.append_cancel_left_eq, String.toList_inj] at texts
  have first := Decimal.parse?_render (Nat.lt_succ_of_le (Nat.le_max_left n m))
  rw [texts, Decimal.parse?_render (Nat.lt_succ_of_le (Nat.le_max_right n m))] at first
  exact (Option.some.inj first).symm

end Bus

section Addresses

variable {naming : Renaming} {address address' other other' : String}

/-- Addresses that are alike are both for replies, or neither. -/
theorem Address.Alike.isReplyAddress_eq (alike : Address.Alike naming address address') :
    Bus.isReplyAddress address = Bus.isReplyAddress address' := by
  cases alike with
  | named => rfl
  | reply => rw [Bus.isReplyAddress_replyAddress, Bus.isReplyAddress_replyAddress]

/-- Addresses are told apart on both buses or on neither. -/
theorem Address.Alike.eq_iff (oneToOne : Relator.BiUnique naming)
    (alike : Address.Alike naming address address')
    (alikeOther : Address.Alike naming other other') : address = other ↔ address' = other' := by
  cases alike with
  | named ordinary =>
    cases alikeOther with
    | named => exact Iff.rfl
    | @reply n n' paired =>
      refine iff_of_false ?_ ?_ <;> intro same <;>
        rw [same, Bus.isReplyAddress_replyAddress] at ordinary <;> cases ordinary
  | @reply n n' paired =>
    cases alikeOther with
    | named ordinary =>
      refine iff_of_false ?_ ?_ <;> intro same <;>
        rw [← same, Bus.isReplyAddress_replyAddress] at ordinary <;> cases ordinary
    | @reply m m' pairedOther =>
      constructor
      · intro same
        cases Bus.replyAddress_injective same
        rw [oneToOne.2 paired pairedOther]
      · intro same
        cases Bus.replyAddress_injective same
        rw [oneToOne.1 paired pairedOther]

/-- Addresses are told apart on one bus if and only if they are on the other. -/
theorem Address.Alike.beq_eq (oneToOne : Relator.BiUnique naming)
    (alike : Address.Alike naming address address')
    (alikeOther : Address.Alike naming other other') :
    (address == other) = (address' == other') := by
  rw [Bool.eq_iff_iff, beq_iff_eq, beq_iff_eq]
  exact alike.eq_iff oneToOne alikeOther

end Addresses

/-- A reply is awaited on one bus if and only if it is on the other. -/
theorem Delivery.Alike.awaitsReply_eq {naming : Renaming} {delivery delivery' : Delivery}
    (alike : Delivery.Alike naming delivery delivery') :
    Bus.awaitsReply delivery = Bus.awaitsReply delivery' := by
  have reply := alike.message.reply
  unfold Bus.awaitsReply
  generalize delivery.message.reply = address at reply
  generalize delivery'.message.reply = address' at reply
  cases reply with
  | none => rfl
  | some address => exact address.isReplyAddress_eq

/-! ## Registers -/

/-- A consumer and the one that stands for it. -/
structure Consumer.Alike (naming : Renaming) (consumer consumer' : Consumer) : Prop where
  id : naming consumer.id consumer'.id
  handler : Handler.Alike naming consumer.handler consumer'.handler

/-- The consumers of an address. -/
structure Consumers.Alike (naming : Renaming) (here there : String × List Consumer) : Prop where
  address : Address.Alike naming here.1 there.1
  consumers : List.Forall₂ (Consumer.Alike naming) here.2 there.2

/-- A handler that waits for a reply and the one that stands for it. -/
structure Waiting.Alike (naming : Renaming) (waiting waiting' : Waiting) : Prop where
  address : Address.Alike naming waiting.address waiting'.address
  handler : Handler.Alike naming waiting.handler waiting'.handler
  owned : List.Forall₂ (Delivery.Alike naming) waiting.owned waiting'.owned

/-- Registers that differ in numbers, and in hooks that capture messages.  No number is in use that
has still to be given out. -/
structure Bus.Alike (naming : Renaming) (bus bus' : Bus) : Prop where
  consumers : List.Forall₂ (Consumers.Alike naming) bus.consumers bus'.consumers
  waiting : List.Forall₂ (Waiting.Alike naming) bus.waiting bus'.waiting
  turn : bus.turn = bus'.turn
  oneToOne : Relator.BiUnique naming
  given : ∀ n n', naming n n' → n < bus.next ∧ n' < bus'.next
  captures : bus.OnlyCaptures
  captures' : bus'.OnlyCaptures

section Grows

variable {naming later : Renaming} (grows : naming.Within later)

include grows

/-- Consumers stay alike while numbers are given out. -/
theorem Consumer.Alike.grow {consumer consumer' : Consumer}
    (alike : Consumer.Alike naming consumer consumer') :
    Consumer.Alike later consumer consumer' :=
  ⟨grows alike.id, alike.handler.grow grows⟩

/-- Entries of the register stay alike while numbers are given out. -/
theorem Consumers.Alike.grow {here there : String × List Consumer}
    (alike : Consumers.Alike naming here there) : Consumers.Alike later here there :=
  ⟨alike.address.grow grows, alike.consumers.imp fun _ _ => .grow grows⟩

/-- Handlers that wait stay alike while numbers are given out. -/
theorem Waiting.Alike.grow {waiting waiting' : Waiting}
    (alike : Waiting.Alike naming waiting waiting') : Waiting.Alike later waiting waiting' :=
  ⟨alike.address.grow grows, alike.handler.grow grows, alike.owned.imp fun _ _ => .grow grows⟩

end Grows

/-- A new number on each bus. -/
theorem Renaming.biUnique_add {naming : Renaming} {new new' : Nat}
    (oneToOne : Relator.BiUnique naming)
    (given : ∀ n n', naming n n' → n < new ∧ n' < new') :
    Relator.BiUnique (naming.add new new') := by
  constructor
  · rintro n m n' (paired | ⟨rfl, rfl⟩) (pairedOther | ⟨rfl, same⟩)
    · exact oneToOne.1 paired pairedOther
    · exact absurd (given _ _ paired).2 (by omega)
    · exact absurd (given _ _ pairedOther).2 (by omega)
    · rfl
  · rintro n n' m' (paired | ⟨rfl, rfl⟩) (pairedOther | ⟨same, rfl⟩)
    · exact oneToOne.2 paired pairedOther
    · exact absurd (given _ _ paired).1 (by omega)
    · exact absurd (given _ _ pairedOther).1 (by omega)
    · rfl

namespace Bus.Alike

variable {naming : Renaming} {bus bus' : Bus} (alike : Bus.Alike naming bus bus')

include alike

/-- Both buses give out their next number. -/
theorem number : Bus.Alike (naming.add bus.next bus'.next)
    { bus with next := bus.next + 1 } { bus' with next := bus'.next + 1 } where
  consumers := alike.consumers.imp fun _ _ => .grow (naming.within_add _ _)
  waiting := alike.waiting.imp fun _ _ => .grow (naming.within_add _ _)
  turn := alike.turn
  oneToOne := Renaming.biUnique_add alike.oneToOne alike.given
  given := by
    rintro n n' (paired | ⟨rfl, rfl⟩)
    · obtain ⟨here, there⟩ := alike.given n n' paired
      exact ⟨Nat.lt_succ_of_lt here, Nat.lt_succ_of_lt there⟩
    · exact ⟨Nat.lt_succ_self _, Nat.lt_succ_self _⟩
  captures := alike.captures
  captures' := alike.captures'

/-! ### Consumers -/

/-- The consumers of addresses that are alike stand for each other. -/
theorem consumersOf {address address' : String} (same : Address.Alike naming address address') :
    List.Forall₂ (Consumer.Alike naming) (bus.consumersOf address)
      (bus'.consumersOf address') := by
  have each {entries entries' : List (String × List Consumer)}
      (lists : List.Forall₂ (Consumers.Alike naming) entries entries') :
      List.Forall₂ (Consumer.Alike naming) ((entries.lookup address).getD [])
        ((entries'.lookup address').getD []) := by
    induction lists with
    | nil => exact .nil
    | @cons entry entry' _ _ first _ ih =>
      rw [List.lookup_cons, List.lookup_cons, ← same.beq_eq alike.oneToOne first.address]
      split
      · exact first.consumers
      · exact ih
  exact each alike.consumers

/-- Consumers that are registered on both buses get numbers that stand for each other. -/
theorem consume {address address' : String} {handler handler' : Handler}
    (same : Address.Alike naming address address')
    (handlers : Handler.Alike naming handler handler') :
    Bus.Alike (naming.add bus.next bus'.next) (bus.consume address handler).2
      (bus'.consume address' handler').2 := by
  have grows := naming.within_add bus.next bus'.next
  have further := alike.number
  have newer : Consumer.Alike (naming.add bus.next bus'.next) ⟨bus.next, handler⟩
      ⟨bus'.next, handler'⟩ :=
    ⟨naming.add_new _ _, handlers.grow grows⟩
  have each {entries entries' : List (String × List Consumer)}
      (lists : List.Forall₂ (Consumers.Alike (naming.add bus.next bus'.next)) entries
        entries') :
      List.Forall₂ (Consumers.Alike (naming.add bus.next bus'.next))
        (enlist ⟨bus.next, handler⟩ address entries)
        (enlist ⟨bus'.next, handler'⟩ address' entries') := by
    induction lists with
    | nil => exact .cons ⟨same.grow grows, .cons newer .nil⟩ .nil
    | @cons entry entry' _ _ first rest ih =>
      have equal := first.address.eq_iff further.oneToOne (same.grow grows)
      unfold enlist
      by_cases here : entry.1 = address
      · rw [if_pos here, if_pos (equal.1 here)]
        exact .cons ⟨first.address, List.rel_append first.consumers (.cons newer .nil)⟩ rest
      · rw [if_neg here, if_neg (mt equal.2 here)]
        exact .cons first ih
  exact { further with consumers := each further.consumers }

/-- Consumers are told apart by their ids on one bus if and only if they are on the other. -/
theorem beq_id {id id' : Nat} (paired : naming id id') ⦃consumer consumer' : Consumer⦄
    (same : Consumer.Alike naming consumer consumer') :
    (consumer.id == id) = (consumer'.id == id') := by
  rw [Bool.eq_iff_iff, beq_iff_eq, beq_iff_eq]
  constructor
  · rintro rfl
    exact alike.oneToOne.2 same.id paired
  · rintro rfl
    exact alike.oneToOne.1 same.id paired

/-- An id is registered if and only if the one that it stands for is. -/
theorem hasConsumer {id id' : Nat} (paired : naming id id') :
    bus.hasConsumer id = bus'.hasConsumer id' :=
  any_alike alike.consumers fun _ _ entry => any_alike entry.consumers (alike.beq_id paired)

/-- Retiring ids that stand for each other leaves the registers alike. -/
theorem retire {id id' : Nat} (paired : naming id id') :
    Bus.Alike naming (bus.retire id).2 (bus'.retire id').2 := by
  refine { alike with consumers := filter_alike ?_ fun entry entry' entries => ?_ }
  · refine List.rel_map (fun entry entry' entries => ?_) alike.consumers
    exact ⟨entries.address, filter_alike entries.consumers fun _ _ consumers => by
      rw [bne, bne, alike.beq_id paired consumers]⟩
  · obtain ⟨_, those⟩ := entry
    obtain ⟨_, those'⟩ := entry'
    have lists : List.Forall₂ (Consumer.Alike naming) those those' := entries.consumers
    cases lists <;> rfl

/-- The same consumers in turn. -/
theorem audience {address address' : String} (same : Address.Alike naming address address')
    (mode : Mode) :
    List.Forall₂ (Consumer.Alike naming) (bus.audience address mode).1
        (bus'.audience address' mode).1 ∧
      Bus.Alike naming (bus.audience address mode).2 (bus'.audience address' mode).2 := by
  have consumers := alike.consumersOf same
  cases mode with
  | toAll => exact ⟨consumers, alike⟩
  | toOne =>
    simp only [Bus.audience, ← alike.turn, ← consumers.length_eq]
    generalize bus.turn % (bus.consumersOf address).length = place
    have chosen := getElem?_alike consumers place
    generalize (bus.consumersOf address)[place]? = consumer at chosen ⊢
    generalize (bus'.consumersOf address')[place]? = consumer' at chosen ⊢
    cases chosen with
    | none => exact ⟨.nil, alike⟩
    | some consumer =>
      exact ⟨.cons consumer .nil, { alike with turn := rfl }⟩

/-! ### Replies -/

/-- Handlers that wait on both buses get addresses with numbers that stand for each other. -/
theorem await {handler handler' : Handler} {owned owned' : List Delivery}
    (handlers : Handler.Alike naming handler handler')
    (deliveries : List.Forall₂ (Delivery.Alike naming) owned owned') :
    Bus.Alike (naming.add bus.next bus'.next) (bus.await handler owned).2
      (bus'.await handler' owned').2 := by
  have grows := naming.within_add bus.next bus'.next
  have further := alike.number
  have newer : Waiting.Alike (naming.add bus.next bus'.next)
      ⟨replyAddress bus.next, handler, owned⟩ ⟨replyAddress bus'.next, handler', owned'⟩ :=
    ⟨.reply (naming.add_new _ _), handlers.grow grows, deliveries.imp fun _ _ => .grow grows⟩
  exact { further with waiting := List.rel_append further.waiting (.cons newer .nil) }

/-- Those who waited at addresses that are alike are taken away on both buses. -/
theorem takeWaiting {address address' : String} (same : Address.Alike naming address address') :
    Option.Rel (Waiting.Alike naming) (bus.takeWaiting address).1
        (bus'.takeWaiting address').1 ∧
      Bus.Alike naming (bus.takeWaiting address).2 (bus'.takeWaiting address').2 := by
  have equal ⦃waiting waiting' : Waiting⦄ (those : Waiting.Alike naming waiting waiting') :=
    those.address.beq_eq alike.oneToOne same
  refine ⟨find?_alike alike.waiting equal, { alike with waiting := ?_ }⟩
  exact filter_alike alike.waiting fun _ _ those => by rw [bne, bne, equal those]

/-- Letting go at addresses that are alike locks both buses or neither. -/
theorem release {address address' : String} (same : Address.Alike naming address address') :
    Option.Rel (Bus.Alike naming) (bus.release address) (bus'.release address') := by
  obtain ⟨found, further⟩ := alike.takeWaiting same
  unfold Bus.release
  generalize bus.takeWaiting address = taken at found further
  generalize bus'.takeWaiting address' = taken' at found further
  obtain ⟨waiting, rest⟩ := taken
  obtain ⟨waiting', rest'⟩ := taken'
  cases found with
  | none => exact .some further
  | some those =>
    dsimp only
    rw [any_alike those.owned fun _ _ delivery => delivery.awaitsReply_eq]
    split
    · exact .none
    · exact .some further

/-- Dropping deliveries that are alike locks both buses or neither. -/
theorem drop {delivery delivery' : Delivery} (same : Delivery.Alike naming delivery delivery') :
    Option.Rel (Bus.Alike naming) (bus.drop delivery) (bus'.drop delivery') := by
  have reply := same.message.reply
  unfold Bus.drop
  generalize delivery.message.reply = address at reply
  generalize delivery'.message.reply = address' at reply
  cases reply with
  | none => exact .some alike
  | some address =>
    dsimp only
    rw [address.isReplyAddress_eq]
    split
    · exact alike.release address
    · exact .some alike

omit alike in
/-- The same holds of any number of deliveries. -/
theorem dropAll (alike : Bus.Alike naming bus bus') {deliveries deliveries' : List Delivery}
    (same : List.Forall₂ (Delivery.Alike naming) deliveries deliveries') :
    Option.Rel (Bus.Alike naming) (bus.dropAll deliveries) (bus'.dropAll deliveries') := by
  induction same generalizing bus bus' with
  | nil => exact .some alike
  | cons first _ ih =>
    have dropped := alike.drop first
    rw [Bus.dropAll, Bus.dropAll, List.foldlM_cons, List.foldlM_cons]
    generalize bus.drop _ = left at dropped ⊢
    generalize bus'.drop _ = left' at dropped ⊢
    cases dropped with
    | none => exact .none
    | some further => exact ih further

/-- As many handlers wait on one bus as on the other. -/
theorem pending : bus.pending = bus'.pending :=
  alike.waiting.length_eq

end Bus.Alike

end CausalTrace
