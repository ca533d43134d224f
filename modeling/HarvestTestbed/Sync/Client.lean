import HarvestTestbed.Arena.TimingEnd

/-!
# The sync client

The timing core answers the trigger of the host with a request stamped with its timer counter.  At
most one request is outstanding: a second trigger before the reply is a violation of the protocol.
-/

namespace HarvestTestbed

inductive ClientState
  | idle
  | replyPending
  deriving DecidableEq, Repr, Inhabited

structure SyncClient where
  state : ClientState := .idle
  /-- The number of requests sent so far. -/
  requests : UInt32 := 0
  deriving DecidableEq, Repr, Inhabited

/-- What became of a trigger. -/
inductive TriggerOutcome
  | requested
  /-- The request slot was occupied; the trigger is lost. -/
  | lost
  /-- A reply was still outstanding. -/
  | violation
  deriving DecidableEq, Repr

namespace SyncClient

def onTrigger (client : SyncClient) (counter : UInt32) (memory : SharedMemory) :
    TriggerOutcome × SyncClient × SharedMemory :=
  match client.state with
  | .replyPending => (.violation, client, memory)
  | .idle =>
      let sent := memory.timingSend .syncRequest counter client.requests
      if sent.1 then
        (.requested, { state := .replyPending, requests := client.requests + 1 }, sent.2)
      else (.lost, client, sent.2)

/-- Accepts a reply; one that nobody asked for is dropped. -/
def onReply (client : SyncClient) (reply : SyncReply) : Option SyncReply × SyncClient :=
  match client.state with
  | .replyPending => (some reply, { client with state := .idle })
  | .idle => (none, client)

def reset (client : SyncClient) : SyncClient :=
  { client with state := .idle }

end SyncClient

end HarvestTestbed
