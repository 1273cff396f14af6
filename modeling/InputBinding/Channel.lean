import InputBinding.Event
import InputBinding.Ring
import InputBinding.Fault
import InputBinding.Text.Blank
import InputBinding.Text.Case

/-!
The place that events go through. Accepted events are kept, the newest only, and handed to the
subscribers in the order of their subscription. A subscriber that fails stops the delivery.
-/

namespace InputBinding

structure Subscriber where
  token : Nat
  reaction : Event → Option Fault

structure Channel where
  enabled : Bool := true
  allowlist : List String := []
  history : Ring Event
  subscribers : List Subscriber := []
  nextToken : Nat := 1
  deliveries : Array (Nat × Event) := #[]

namespace Channel

def normalise (category : String) : String :=
  Text.lower (Text.trim category)

def create (capacity : Int) (enabled : Bool) (allowlist : List String) : Except Fault Channel := do
  let history ← Ring.create capacity
  return {
    enabled
    allowlist := (allowlist.filter fun category => !(Text.trim category).isEmpty).map normalise
    history }

def accepts (channel : Channel) (category : String) : Bool :=
  channel.enabled && (channel.allowlist.isEmpty || channel.allowlist.contains category)

/-- Those who get an event, which ends with the first who fails, and that fault. -/
def reach (event : Event) : List Subscriber → List Nat × Option Fault
  | [] => ([], none)
  | subscriber :: rest =>
      match subscriber.reaction event with
      | some fault => ([subscriber.token], some fault)
      | none =>
          let (tokens, fault) := reach event rest
          (subscriber.token :: tokens, fault)

def emit (event : Event) (channel : Channel) : Option Fault × Channel :=
  if channel.accepts event.category then
    let (tokens, fault) := reach event channel.subscribers
    (fault, { channel with
      history := channel.history.push event
      deliveries := channel.deliveries ++ tokens.map fun token => (token, event) })
  else (none, channel)

def announce (event : Event) (channel : Channel) : Option Fault × Channel :=
  channel.emit { event with category := normalise event.category }

def subscribe (reaction : Event → Option Fault) (channel : Channel) : Nat × Channel :=
  (channel.nextToken, { channel with
    subscribers := channel.subscribers ++ [⟨channel.nextToken, reaction⟩]
    nextToken := channel.nextToken + 1 })

def unsubscribe (token : Int) (channel : Channel) : Channel :=
  { channel with
    subscribers := channel.subscribers.filter fun subscriber => Int.ofNat subscriber.token != token }

def clear (channel : Channel) : Channel :=
  { channel with history := channel.history.clear }

structure Filter where
  category : Option String := none
  name : Option String := none
  mapping : Option Int := none

def Filter.passes (filter : Filter) (event : Event) : Bool :=
  filter.category.all (· == event.category) && filter.name.all (· == event.name) &&
    filter.mapping.all fun mapping => event.mapping == some mapping

def lookBack (limit : Option Int) (filter : Filter) (channel : Channel) : List Event :=
  (channel.history.newest limit).filter filter.passes

end Channel

end InputBinding
