import CausalTrace.Bus.Script
import CausalTrace.Proofs.Bus.Indifference

/-!
# Scripts do not look

A script acts on its delivery without looking at it, except for the presence of a reply address.
What it writes down differs with the identities that messages carry, but what it does next does not.
So every script is indifferent that addresses no reply handler of its own accord, removes no
consumer by a number that it made up, and leaves hooks alone.
-/

namespace CausalTrace

mutual

/-- An action to ordinary addresses that leaves hooks alone and removes nobody by number. -/
def Action.isDiscreet : Action → Bool
  | .limited _ action => action.isDiscreet
  | .reply _ | .options | .hold _ | .drop | .pending | .dropHeld _ => true
  | .forward _ address _ | .send _ address _ _ => !Bus.isReplyAddress address
  | .forwardRequest address _ onReply | .forwardSender address _ _ _ onReply
  | .request address _ _ onReply | .sender _ address _ _ _ onReply =>
    !Bus.isReplyAddress address && areDiscreet onReply
  | .consumer address _ script => !Bus.isReplyAddress address && areDiscreet script
  | .held _ script => areDiscreet script
  | .removeConsumer _ | .intercept _ _ | .removeInterceptor _ => false

/-- A script of such actions. -/
def Action.areDiscreet : List Action → Bool
  | [] => true
  | action :: rest => action.isDiscreet && areDiscreet rest

end

namespace Script

variable {naming : Renaming}

/-- Choosing a lineage comes out alike from any lineage, if what follows is alike. -/
theorem choose_alike {steps : List SenderStep} {lineage lineage' : Lineage}
    {otherwise otherwise' : Program} (without : Program.Alike naming otherwise otherwise')
    {next next' : Lineage → Program}
    (goesOn : ∀ lineage lineage', Program.Alike naming (next lineage) (next' lineage')) :
    Program.Alike naming (choose steps lineage otherwise next)
      (choose steps lineage' otherwise' next') := by
  induction steps generalizing lineage lineage' with
  | nil => exact goesOn lineage lineage'
  | cons step rest ih =>
    cases step with
    | label text => exact ih
    | lineage other => exact .recall fun _ _ => ih
    | context slot =>
      cases slot with
      | none => exact ih
      | some slot =>
        refine .peek fun found found' same => ?_
        cases same with
        | none => exact without
        | some => exact ih

/-- What goes on with any answers and with deliveries that are alike. -/
def GoesOn (naming : Renaming) (next next' : Answer → Option Delivery → Program) : Prop :=
  ∀ later, naming.Within later → ∀ answer answer' own own',
    Option.Rel (Delivery.Alike later) own own' →
      Program.Alike later (next answer own) (next' answer' own')

/-- What goes on alike does so while numbers are given out. -/
theorem GoesOn.grow {later : Renaming} (grows : naming.Within later)
    {next next' : Answer → Option Delivery → Program} (goesOn : GoesOn naming next next') :
    GoesOn later next next' :=
  fun last further => goesOn last (grows.trans further)

/-- A delivery that may be missing stays alike while numbers are given out. -/
theorem grow_option {later : Renaming} (grows : naming.Within later)
    {own own' : Option Delivery} (owns : Option.Rel (Delivery.Alike naming) own own') :
    Option.Rel (Delivery.Alike later) own own' := by
  cases owns with
  | none => exact .none
  | some delivery => exact .some (delivery.grow grows)

/-- Sending by any way is alike if what comes after it is. -/
theorem sendVia_alike {via : Via} {mode : Mode} {draft draft' : Draft}
    (drafts : Draft.Alike naming draft draft') {onReply onReply' : Delivery → Program}
    (handles : ∀ later, naming.Within later → ∀ reply reply', Delivery.Alike later reply reply' →
      Program.Alike later (onReply reply) (onReply' reply'))
    {next next' : Nat → Program}
    (goesOn : ∀ later, naming.Within later → ∀ count,
      Program.Alike later (next count) (next' count)) :
    Program.Alike naming (sendVia via mode draft onReply next)
      (sendVia via mode draft' onReply' next') := by
  cases via with
  | write => exact .dispatch drafts goesOn
  | send => exact .dispatch drafts goesOn
  | request => exact .request drafts handles goesOn

/-- Drafts to ordinary addresses are alike, whatever they say of descent. -/
theorem draft_alike {address : String} (ordinary : Bus.isReplyAddress address = false)
    (body : Payload) (lineage lineage' : Option Lineage) :
    Draft.Alike naming ⟨address, body, lineage⟩ ⟨address, body, lineage'⟩ :=
  ⟨.named ordinary, rfl⟩

/-- A sender at an ordinary address sends alike, whatever lineage its steps lead to. -/
theorem useSender_alike {mode : Mode} {address : String}
    (ordinary : Bus.isReplyAddress address = false) {steps : List SenderStep}
    {start start' : Lineage} {via : Via} {body : Payload} {onReply onReply' : Delivery → Program}
    (handles : ∀ later, naming.Within later → ∀ reply reply', Delivery.Alike later reply reply' →
      Program.Alike later (onReply reply) (onReply' reply'))
    {next next' : Answer → Program}
    (goesOn : ∀ later, naming.Within later → ∀ answer answer',
      Program.Alike later (next answer) (next' answer')) :
    Program.Alike naming (useSender mode address steps start via body onReply next)
      (useSender mode address steps start' via body onReply' next') := by
  refine choose_alike (goesOn naming (.refl naming) _ _) fun lineage lineage' => .mention ?_
  exact sendVia_alike (draft_alike ordinary ..) handles fun later grows _ => goesOn later grows _ _

/-- A script that has ended does nothing on either bus. -/
theorem ended_alike (later : Renaming) (_ : naming.Within later) (own own' : Option Delivery)
    (_ : Option.Rel (Delivery.Alike later) own own') :
    Program.Alike later (ended own) (ended own') :=
  .finish _ _

mutual

/-- Every discreet action is alike on both buses. -/
theorem perform_alike {naming : Renaming} {own own' : Option Delivery}
    (owns : Option.Rel (Delivery.Alike naming) own own') (action : Action)
    (discreet : action.isDiscreet = true) {next next' : Answer → Option Delivery → Program}
    (goesOn : GoesOn naming next next') :
    Program.Alike naming (perform own action next) (perform own' action next') := by
  -- The delivery stays as it is: the answer is all that is new.
  have kept (later : Renaming) (grows : naming.Within later) (answer answer' : Answer) :
      Program.Alike later (next answer own) (next' answer' own') :=
    goesOn later grows answer answer' own own' (grow_option grows owns)
  have noDelivery : Program.Alike naming (next .noDelivery none) (next' .noDelivery none) :=
    goesOn naming (.refl naming) _ _ none none .none
  cases action with
  | limited limit action =>
    rw [perform, perform]
    exact perform_alike owns action discreet goesOn
  | reply body =>
    rw [perform, perform]
    cases owns with
    | none => exact noDelivery
    | @some delivery delivery' same =>
      have replies := same.message.reply
      simp only [withDelivery]
      generalize delivery.message.reply = address at replies
      generalize delivery'.message.reply = address' at replies
      cases replies with
      | none => exact kept naming (.refl naming) _ _
      | some address => exact .dispatch ⟨address, rfl⟩ fun later grows _ => kept later grows _ _
  | forward mode address body =>
    simp only [Action.isDiscreet, Bool.not_eq_true'] at discreet
    rw [perform, perform]
    cases owns with
    | none => exact noDelivery
    | some same =>
      exact .dispatch (draft_alike discreet ..) fun later grows _ => kept later grows _ _
  | forwardRequest address body onReply =>
    simp only [Action.isDiscreet, Bool.and_eq_true, Bool.not_eq_true'] at discreet
    rw [perform, perform]
    cases owns with
    | none => exact noDelivery
    | some same =>
      exact .mark fun mark => .request (draft_alike discreet.1 ..)
        (fun _ _ _ _ same =>
          follow_alike replyName mark 0 onReply discreet.2 (.some same) ended_alike)
        fun later grows _ => kept later grows _ _
  | forwardSender address steps via body onReply =>
    simp only [Action.isDiscreet, Bool.and_eq_true, Bool.not_eq_true'] at discreet
    rw [perform, perform]
    cases owns with
    | none => exact noDelivery
    | some same =>
      exact .mark fun mark =>
        useSender_alike discreet.1
          (fun _ _ _ _ same =>
            follow_alike replyName mark 0 onReply discreet.2 (.some same) ended_alike)
          fun later grows _ _ => kept later grows _ _
  | options =>
    rw [perform, perform]
    cases owns with
    | none => exact noDelivery
    | some same => exact kept naming (.refl naming) _ _
  | hold slot =>
    cases owns with
    | none =>
      rw [perform, perform]
      exact goesOn naming (.refl naming) _ _ none none .none
    | some same =>
      rw [perform, perform, same.number]
      exact .hold (goesOn naming (.refl naming) _ _ none none .none)
  | drop =>
    have pending := Program.Alike.pending fun count =>
      goesOn naming (.refl naming) (.count count) (.count count) none none .none
    cases owns with
    | none =>
      rw [perform, perform]
      exact pending
    | some same =>
      rw [perform, perform, same.number]
      exact .drop pending
  | consumer address name script =>
    simp only [Action.isDiscreet, Bool.and_eq_true, Bool.not_eq_true'] at discreet
    rw [perform, perform]
    refine .mark fun mark => .consume (.named discreet.1) ?_ fun later grows _ _ _ =>
      kept later grows _ _
    intro later _ given given' same
    exact follow_alike name mark 0 script discreet.2 (.some same) ended_alike
  | send mode address body lineage =>
    simp only [Action.isDiscreet, Bool.not_eq_true'] at discreet
    rw [perform, perform]
    exact .recall fun _ _ => .dispatch (draft_alike discreet ..) fun later grows _ =>
      kept later grows _ _
  | request address body lineage onReply =>
    simp only [Action.isDiscreet, Bool.and_eq_true, Bool.not_eq_true'] at discreet
    rw [perform, perform]
    exact .recall fun _ _ => .mark fun mark => .request (draft_alike discreet.1 ..)
      (fun _ _ _ _ same =>
        follow_alike replyName mark 0 onReply discreet.2 (.some same) ended_alike)
      fun later grows _ => kept later grows _ _
  | sender mode address steps via body onReply =>
    simp only [Action.isDiscreet, Bool.and_eq_true, Bool.not_eq_true'] at discreet
    rw [perform, perform]
    exact .mark fun mark =>
      useSender_alike discreet.1
        (fun _ _ _ _ same =>
          follow_alike replyName mark 0 onReply discreet.2 (.some same) ended_alike)
        fun later grows _ _ => kept later grows _ _
  | pending =>
    rw [perform, perform]
    exact .pending fun _ => kept naming (.refl naming) _ _
  | held slot script =>
    rw [perform, perform]
    refine .take fun found found' same => ?_
    cases same with
    | none => exact kept naming (.refl naming) _ _
    | some same =>
      refine .mark fun mark => .note ?_
      refine follow_alike slot mark 0 script discreet (.some same)
        fun later grows left left' lefts => ?_
      cases lefts with
      | none => exact kept later grows _ _
      | some leftover =>
        dsimp only
        rw [leftover.number]
        exact .drop (kept later grows _ _)
  | dropHeld slot =>
    rw [perform, perform]
    refine .take fun found found' same => ?_
    cases same with
    | none => exact kept naming (.refl naming) _ _
    | some same =>
      dsimp only
      rw [same.number]
      exact .drop (kept naming (.refl naming) _ _)
  | removeConsumer | intercept | removeInterceptor => cases discreet

/-- Scripts of discreet actions are alike, by one case for each action. -/
theorem follow_alike {naming : Renaming} (who : String) (mark place : Nat) (script : List Action)
    (discreet : Action.areDiscreet script = true) {own own' : Option Delivery}
    (owns : Option.Rel (Delivery.Alike naming) own own') {next next' : Option Delivery → Program}
    (goesOn : ∀ later, naming.Within later → ∀ own own',
      Option.Rel (Delivery.Alike later) own own' → Program.Alike later (next own) (next' own')) :
    Program.Alike naming (follow who mark place script own next)
      (follow who mark place script own' next') := by
  cases script with
  | nil =>
    rw [follow, follow]
    exact goesOn naming (.refl naming) own own' owns
  | cons action rest =>
    rw [Action.areDiscreet, Bool.and_eq_true] at discreet
    have skipped := follow_alike who mark (place + 1) rest discreet.2 owns goesOn
    have go : GoesOn naming
        (fun answer own =>
          .note (.acted who action.word answer) (follow who mark (place + 1) rest own next))
        (fun answer own =>
          .note (.acted who action.word answer) (follow who mark (place + 1) rest own next')) := by
      intro later grows answer answer' own own' same
      exact .note (follow_alike who mark (place + 1) rest discreet.2 same fun last further =>
        goesOn last (grows.trans further))
    have done := perform_alike owns action discreet.1 go
    cases action with
    | limited limit action =>
      rw [follow, follow]
      refine .tally fun reached => ?_
      by_cases first : reached < limit
      · rw [if_pos first, if_pos first]
        exact done
      · rw [if_neg first, if_neg first]
        exact skipped
    | _ =>
      rw [follow, follow]
      · exact done
      all_goals nofun

end

/-- Discreet scripts are indifferent. -/
theorem indifferent_follow (who : String) (mark place : Nat) (script : List Action)
    (discreet : Action.areDiscreet script = true) :
    (follow who mark place script none ended).Indifferent :=
  follow_alike who mark place script discreet .none ended_alike

end Script

end CausalTrace
