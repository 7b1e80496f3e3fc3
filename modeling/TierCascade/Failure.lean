import TierCascade.Decimal.Layout
import TierCascade.Text.Duration
import TierCascade.Tier
/-!
# Failures

What can go wrong inside the cascade. Failures of the two collaborators behind it, the store and the
notifier, are a type of their own: they name the part of the system whose health they concern.
-/

namespace TierCascade

/-- The parts of the system whose health is tracked. -/
inductive Part where
  | source
  | topology
  | store
  | notifier
  deriving Repr, DecidableEq

def Part.name : Part → String
  | .source => "source"
  | .topology => "topology"
  | .store => "persistence_sink"
  | .notifier => "notification_sink"

/-- The two collaborators that aggregates are handed to. -/
inductive Sink where
  | store
  | notifier
  deriving Repr, DecidableEq

def Sink.label : Sink → String
  | .store => "persistence"
  | .notifier => "notification"

def Sink.part : Sink → Part
  | .store => .store
  | .notifier => .notifier

/-- Why a call of a collaborator failed. Times are in microseconds. -/
inductive SinkFault where
  | persistence (reason : String)
  | notification (reason : String)
  | timeout (label : String) (micros : Nat)
  deriving Repr, DecidableEq

namespace SinkFault

def message : SinkFault → String
  | persistence reason => "persistence failed: " ++ reason
  | notification reason => "notification failed: " ++ reason
  | timeout label micros => label ++ " sink timed out after " ++ durationText (micros * 1000)

/-- The collaborator that a fault is laid to. A timeout of no known call is laid to the store. -/
def sink : SinkFault → Sink
  | persistence _ => .store
  | notification _ => .notifier
  | timeout label _ => if label = Sink.notifier.label then .notifier else .store

def label : SinkFault → String
  | persistence _ => Sink.store.label
  | notification _ => Sink.notifier.label
  | timeout label _ => label

end SinkFault

inductive SettingsFault where
  | smoothing (alpha : Float)
  | bands (moderate high : Float)
  | floor
  | workers (tier : Tier)
  | capacity
  | callTimeout
  | attempts
  | noWorker
  | other (reason : String)
  deriving Repr, DecidableEq

def SettingsFault.message : SettingsFault → String
  | smoothing alpha => "smoothing alpha must be in (0, 1], got " ++ messageText alpha
  | bands moderate high =>
    "thresholds must satisfy 0 < moderate <= high, got " ++ messageText moderate ++ " / "
      ++ messageText high
  | floor => "std_dev_floor must be positive"
  | workers tier => "parallelism for " ++ tier.name ++ " must be at least 1"
  | capacity => "channel_capacity must be at least 1"
  | callTimeout => "sink.call_timeout_ms must be positive"
  | attempts => "redelivery.max_attempts must be at least 1"
  | noWorker => "partitioner needs at least one worker"
  | other reason => reason

inductive Failure where
  | notFinite (series : String) (value : Float)
  | sink (fault : SinkFault)
  | routing (tier : Tier) (worker workers : Nat)
  | settings (fault : SettingsFault)
  | closed (channel : String)
  deriving Repr, DecidableEq

namespace Failure

def message : Failure → String
  | notFinite series value =>
    "invalid sample for " ++ series ++ ": value " ++ messageText value ++ " is not finite"
  | sink fault => fault.message
  | routing tier worker workers =>
    "routing error at " ++ tier.name ++ " stage: worker " ++ toString worker ++ " outside table of "
      ++ toString workers
  | settings fault => "invalid configuration: " ++ fault.message
  | closed channel => channel ++ " channel closed"

/-- Whether a unit of work that met this failure has to be delivered again. A number that is not
finite would only be rejected again. -/
def failsUnit : Failure → Bool
  | notFinite .. => false
  | sink _ | routing .. | settings _ | closed _ => true

end Failure

end TierCascade
