import MtrxPeer.AnswerStream
import MtrxPeer.P2pManager

/-! The tasks in which a swarm provider serves encrypted requests in this process, one
for each request. They share a slot for each consumer and the chunks queued for it,
and may stop at each point where they wait while others go on. -/
namespace MtrxPeer

open Function (update update_of_ne update_self)

/-! ## State -/

/-- The request of a consumer that has the right to answer. -/
structure EncryptedProxySlot where
  reqId : String
  generation : Nat

/-- Where a task is. -/
inductive ServingPhase where
  | spawned
  /-- The slot is claimed. -/
  | claimed
  /-- The chunks queued for the consumer are dropped. -/
  | dropped
  /-- The consumer is not blocked. -/
  | admitted
  /-- `respond` is called, with an error or with the acknowledgement of a body. -/
  | replying (msg : StreamMessage) (served : Option Json)
  /-- The request still has the slot, and the reply goes out next. -/
  | sendingReply (msg : StreamMessage) (served : Option Json)
  | forwarding (body : Json)
  /-- Waiting for the next item of the backend's stream. -/
  | receiving (config : ClientConfig) (items : List (Except String Bytes)) (flush : ReverseFlush)
  | received (config : ClientConfig) (item : Except String Bytes)
      (items : List (Except String Bytes)) (flush : ReverseFlush)
  /-- At the head of the loop of `flush_encrypted_pending`. -/
  | flushing (config : ClientConfig) (done : Bool) (items : List (Except String Bytes))
      (flush : ReverseFlush)
  /-- The request still has the slot, and a piece is cut off next. -/
  | sealing (config : ClientConfig) (done : Bool) (items : List (Except String Bytes))
      (flush : ReverseFlush) (some_ : flush.pending ≠ [])
  | finished

/-- An encrypted request as the manager hands it over, with what the outside answers
while it is served. -/
structure IncomingRequest where
  consumer : PeerId
  name : String
  request : EncryptedRequest
  nonce : Bytes
  ciphertext : Bytes
  answers : Answers
  long : ∀ i, (answers.draws i).nonce.length = 12

structure ServingTask extends IncomingRequest where
  generation : Nat
  phase : ServingPhase
  /-- The messages it has handed to the manager. -/
  sent : List StreamMessage

structure ServingState where
  proxy : ProxyState
  connected : PeerId → Bool
  activeEncryptedProxies : PeerId → Option EncryptedProxySlot
  tasks : List ServingTask
  /-- The chunks on their way to the manager. -/
  reverse : List (PeerId × StreamMessage)
  pendingReverseProxies : PeerId → List StreamMessage

inductive ServingEvent where
  | arrives (incoming : IncomingRequest)
  /-- A task goes on to the next point where it may wait. -/
  | moves (i : Nat)
  /-- The manager takes a chunk. -/
  | relays
  | connectionEstablished (peer : PeerId)
  | connectionClosed (peer : PeerId) (connected : Bool)
  | proxyChanged (proxy : ProxyState)

/-! ## Slots -/

/-- The generation of the next claim of a slot. -/
def nextGeneration (slots : PeerId → Option EncryptedProxySlot) (consumer : PeerId) : Nat :=
  ((slots consumer).map EncryptedProxySlot.generation).getD 0 + 1

/-- `claim_encrypted_proxy_slot`. -/
def claimEncryptedProxySlot (slots : PeerId → Option EncryptedProxySlot) (consumer : PeerId)
    (reqId : String) : PeerId → Option EncryptedProxySlot :=
  update slots consumer (some ⟨reqId, nextGeneration slots consumer⟩)

/-- `encrypted_proxy_still_active`. -/
def encryptedProxyStillActive (slots : PeerId → Option EncryptedProxySlot) (task : ServingTask) :
    Bool :=
  (slots task.consumer).any fun slot =>
    slot.reqId = task.request.reqId && slot.generation = task.generation

/-! ## A task -/

def ServingTask.spawn (incoming : IncomingRequest) : ServingTask := ⟨incoming, 0, .spawned, []⟩

def ServingTask.moveTo (task : ServingTask) (phase : ServingPhase) : ServingTask := { task with phase }

/-- An error in answer to the request. -/
def ServingTask.refusal (task : ServingTask) (error : String) : StreamMessage :=
  encryptedErrorResponse task.request.reqId task.request.aadVersion error

def ServingTask.ack (task : ServingTask) : StreamMessage :=
  .encryptedProxyResponse task.request.reqId [] [] task.request.aadVersion none (some true)

/-- A request that was refused is done with; one that was acknowledged is forwarded. -/
def afterReply : Option Json → ServingPhase
  | none => .finished
  | some body => .forwarding body

/-- The loop of `flush_encrypted_pending` is left. -/
def afterFlush (config : ClientConfig) (done : Bool) (items : List (Except String Bytes))
    (flush : ReverseFlush) : ServingPhase :=
  if done then .finished else .receiving config items flush

/-- The call of the backend. -/
def ServingTask.call (host : Host) (config : ClientConfig) (task : ServingTask) (body : Json) :
    BackendCall :=
  let body := normalizeRemoteBody host config body
  ⟨task.request.path, body, requestedModel body⟩

/-- An item of the backend's stream is taken in. -/
def afterItem (config : ClientConfig) (items : List (Except String Bytes)) (flush : ReverseFlush) :
    Except String Bytes → ServingPhase
  | .ok chunk =>
    match fromUtf8 chunk with
    | some text => .flushing config false items
        { flush with pending := flush.pending ++ text.toList }
    | none => .receiving config items flush
  | .error _ => .flushing config true [] flush

variable (host : Host)

/-- A task goes on: what it leaves to the others, itself, and what it does. -/
def taskStep (s : ServingState) (task : ServingTask) :
    ServingState × ServingTask × List SwarmOutput :=
  let active := encryptedProxyStillActive s.activeEncryptedProxies task
  match task.phase with
  | .spawned =>
    ({ s with
      activeEncryptedProxies :=
        claimEncryptedProxySlot s.activeEncryptedProxies task.consumer task.request.reqId },
      { task with
        generation := nextGeneration s.activeEncryptedProxies task.consumer
        phase := .claimed }, [])
  | .claimed =>
    ({ s with pendingReverseProxies := update s.pendingReverseProxies task.consumer [] },
      task.moveTo .dropped, [])
  | .dropped =>
    (s, task.moveTo (if s.proxy.isPeerBlocked task.name then
      .replying (task.refusal "Peer is blocked") none else .admitted), [])
  | .admitted =>
    (s, task.moveTo (match decryptInboundRequest host s.proxy.config task.request.roomId
        task.request.reqId task.request.path task.request.consumerEphemeralPk task.nonce
        task.ciphertext with
      | .error error => .replying (task.refusal error) none
      | .ok body => .replying task.ack (some body)), [])
  | .replying msg served =>
    (s, task.moveTo (if active then .sendingReply msg served else afterReply served), [])
  | .sendingReply msg served =>
    (s, { task with phase := afterReply served, sent := task.sent ++ [msg] },
      respond task.answers task.consumer msg)
  | .forwarding body =>
    let call := task.call host s.proxy.config body
    (s, task.moveTo (match callOutcome s.proxy.registry task.answers call with
      | some (.ok items) => .receiving s.proxy.config items ⟨[], 0, []⟩
      | _ => .finished), [.forward call])
  | .receiving config items flush =>
    (s, task.moveTo (match items with
      | [] => .flushing config true [] flush
      | item :: rest => .received config item rest flush), [])
  | .received config item items flush =>
    (s, task.moveTo (if active then afterItem config items flush item
      else .flushing config true [] flush), [])
  | .flushing config done items flush =>
    (s, task.moveTo (if some_ : active = true ∧ flush.pending ≠ [] ∧
        (reverseChunkBytes ≤ (String.ofList flush.pending).utf8ByteSize ∨ done = true) then
        .sealing config done items flush some_.2.1
      else afterFlush config done items flush), [])
  | .sealing config done items flush _ =>
    let chunk := nextStreamChunk reverseChunkBytes flush.pending
    let left := flush.pending.drop chunk.length
    let seq := flush.seq % 2 ^ 32
    match encryptProxyChunk host.crypto config task.request.roomId task.request.reqId
      task.request.path seq task.request.consumerEphemeralPk (task.answers.draws flush.seq).nonce
      (utf8 (String.ofList chunk)) with
    | .error _ => (s, task.moveTo (afterFlush config done items { flush with pending := left }), [])
    | .ok enc =>
      let msg : StreamMessage := .encryptedProxyStreamChunk task.request.reqId seq enc.nonce
        enc.ciphertext task.request.aadVersion (done && left = [])
      ({ s with reverse := s.reverse ++ [(task.consumer, msg)] },
        { task with
          phase := .flushing config done items ⟨left, flush.seq + 1, flush.queued ++ [msg]⟩
          sent := task.sent ++ [msg] }, [])
  | .finished => (s, task, [])

/-! ## The machine -/

/-- `send_or_queue_reverse_proxy`. -/
def sendOrQueueReverseProxy (s : ServingState) (peer : PeerId) (msg : StreamMessage) :
    ServingState × List SwarmOutput :=
  if s.connected peer then (s, [.send peer msg])
  else ({ s with
    pendingReverseProxies :=
      update s.pendingReverseProxies peer (s.pendingReverseProxies peer ++ [msg]) }, [])

/-- One event handled. -/
def servingStep (s : ServingState) : ServingEvent → ServingState × List SwarmOutput
  | .arrives incoming => ({ s with tasks := s.tasks ++ [.spawn incoming] }, [])
  | .moves i =>
    match s.tasks[i]? with
    | none => (s, [])
    | some task =>
      let (s, task, outputs) := taskStep host s task
      ({ s with tasks := s.tasks.set i task }, outputs)
  | .relays =>
    match s.reverse with
    | [] => (s, [])
    | (peer, msg) :: rest => sendOrQueueReverseProxy { s with reverse := rest } peer msg
  | .connectionEstablished peer =>
    ({ s with
      connected := update s.connected peer true
      pendingReverseProxies := update s.pendingReverseProxies peer [] },
      (s.pendingReverseProxies peer).map (.send peer))
  | .connectionClosed peer connected => ({ s with connected := update s.connected peer connected }, [])
  | .proxyChanged proxy => ({ s with proxy }, [])

def servingMachine : Machine ServingState ServingEvent SwarmOutput := ⟨servingStep host⟩

abbrev ServingRecord := Record ServingState ServingEvent SwarmOutput

/-- A manager that serves nothing yet. -/
def ServingState.initial (proxy : ProxyState) (connected : PeerId → Bool) : ServingState where
  proxy := proxy
  connected := connected
  activeEncryptedProxies := fun _ => none
  tasks := []
  reverse := []
  pendingReverseProxies := fun _ => []

/-! ## What a request is owed -/

/-- A request is done with properly: it was refused, or acknowledged and answered. -/
def ServingTask.Ended (task : ServingTask) : Prop :=
  (∃ error, task.sent = [task.refusal error]) ∨ ∃ config chunks, task.sent = task.ack :: chunks ∧
    Answered host.crypto config task.request task.answers.upstream chunks

/-- A task that has begun and still has something to say. -/
def ServingTask.Speaks (task : ServingTask) : Prop :=
  match task.phase with
  | .spawned | .finished => False
  | .flushing _ done _ flush => ¬ (done = true ∧ flush.pending = [])
  | _ => True

/-- A message that has gone out to a consumer, or waits for its turn. -/
def Gone (past : List ServingRecord) (s : ServingState) (consumer : PeerId) (msg : StreamMessage) :
    Prop :=
  (∃ r ∈ past, .respond consumer msg ∈ r.outputs ∨ .send consumer msg ∈ r.outputs) ∨
    msg ∈ s.pendingReverseProxies consumer ∨ (consumer, msg) ∈ s.reverse

/-- The task `i` has nothing left to do. -/
def ServingState.Finished (s : ServingState) (i : Nat) : Prop :=
  ∃ task, s.tasks[i]? = some task ∧ task.phase = .finished

def ServingEvent.isMove (i : Nat) : ServingEvent → Bool
  | .moves j => i = j
  | _ => false

/-- All requests finish, and none is hurt by another. -/
structure RequestsFinish (past : List ServingRecord) (s : ServingState) : Prop where
  /-- Whatever else happens, a task that goes on often enough comes to its end. -/
  ends : ∀ i < s.tasks.length, ∃ n, ∀ events : List ServingEvent,
    n ≤ events.countP (ServingEvent.isMove i) → ((servingMachine host).after s events).Finished i
  ended : ∀ task ∈ s.tasks, task.phase = .finished → task.Ended host
  active : ∀ task ∈ s.tasks, task.Speaks →
    encryptedProxyStillActive s.activeEncryptedProxies task = true
  kept : ∀ task ∈ s.tasks, ∀ msg ∈ task.sent, Gone past s task.consumer msg

/-- No request begins while another of its consumer still speaks, or chunks for the
consumer are queued; whoever is replied to is still there; and the backend answers each
call in full. -/
def Undisturbed (s : ServingState) : ServingEvent → Prop
  | .moves i => ∀ task, s.tasks[i]? = some task →
    match task.phase with
    | .spawned => ∀ j other, j ≠ i → s.tasks[j]? = some other → other.consumer = task.consumer →
        ¬ other.Speaks
    | .claimed => s.pendingReverseProxies task.consumer = []
    | .sendingReply _ _ => task.answers.channelOpen = true
    | .forwarding body => ∃ items,
        callOutcome s.proxy.registry task.answers (task.call host s.proxy.config body) =
          some (.ok items) ∧
        EndsMarked reverseChunkBytes items ∧ CanSeal host.crypto s.proxy.config task.request.roomId
          task.request.consumerEphemeralPk
    | _ => True
  | _ => True

end MtrxPeer
