import EventWire.Config.Basic
import EventWire.Event.Registry
import EventWire.Transport.Network

namespace EventWire

/-!
# Brokers

A broker listens on an address and answers everyone who dials with a stream of
its own.
-/

/-- What a broker needs to start. -/
structure BrokerPlan where
  address : String
  /-- Which side of the handshake the broker plays on its streams. -/
  role : Role
  stream : StreamConfig
  registry : Registry

namespace BrokerPlan

/-- The plan of a broker that has been told nothing. -/
def usual : BrokerPlan where
  address := EndpointConfig.default.address
  role := EndpointConfig.default.role
  stream := .default
  registry := .empty

/-- The plan that settings ask for. -/
def ofConfig (config : BrokerConfig) : BrokerPlan :=
  { usual with
    address := config.endpoint.address
    role := config.endpoint.role
    stream := config.stream }

end BrokerPlan

/-- A broker that listens. -/
structure Broker where
  plan : BrokerPlan
  listener : Listener

namespace Broker

def runningNotice : Notice where
  level := .info
  target := "vigil::server"
  message := "broker server running"
  details := []

/-- Start to listen as planned. -/
def start (plan : BrokerPlan) (network : Network) : Noted (Except TransportError Broker) := do
  match ← network.listen plan.address with
  | .error error => return .error error
  | .ok (listener, _) => return .ok ⟨plan, listener⟩

/-- Run a broker: it goes on for as long as it waits for someone to dial. -/
def run (broker : Broker) : Noted Bool := do
  Noted.give runningNotice
  return broker.listener.waits

end Broker

end EventWire
