import DeviceSync.Queue.Basic

/-!
# The feed of completions

Completions are told to everyone who subscribed. A feed keeps the newest ones for subscribers who are slow
to read: one who is further behind is told how many were missed, and goes on with the oldest that is
kept.
-/

namespace DeviceSync

/-- How many completions are kept. -/
def feedSize : Nat := 256

/-- What a subscriber gets. -/
inductive Reception
  | completion (c : Completion)
  | missed (count : Nat)

/-- How far a subscriber has read. -/
structure Subscription where
  position : Nat
deriving DecidableEq

namespace Subscription

/-- A subscriber who gets what is told from now on. -/
def toQueue (q : TaskQueue) : Subscription := ⟨q.published.length⟩

/-- The next thing that the subscriber gets, if there is one. -/
def next? (s : Subscription) (q : TaskQueue) : Option (Reception × Subscription) :=
  let oldest := q.published.length - feedSize
  if s.position < oldest then some (.missed (oldest - s.position), ⟨oldest⟩)
  else (q.published[s.position]?).map fun c => (.completion c, ⟨s.position + 1⟩)

/-- Everything that the subscriber can get now. -/
def readAll (s : Subscription) (q : TaskQueue) : List Reception × Subscription :=
  let oldest := q.published.length - feedSize
  let missed := oldest - s.position
  let news := (q.published.drop (max s.position oldest)).map Reception.completion
  (if missed = 0 then news else .missed missed :: news, toQueue q)

end Subscription

end DeviceSync
