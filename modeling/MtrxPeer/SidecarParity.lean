import MtrxPeer.AnswerStream
import MtrxPeer.Sealed
import MtrxPeer.StreamAssembly
import MtrxPeer.SwarmServed

/-! An encrypted request that the inference sidecar serves, and the same request served
in this process: the calls made for it, and what its caller hears of the answer. -/
namespace MtrxPeer

/-! ## Lines of a whole answer and of a stream -/

/-- Where one list is never shorter than another, the two agree in sum only if they
agree everywhere. -/
theorem flatMap_eq_iff {α β : Type} {f g : α → List β}
    (short : ∀ a, (g a).length ≤ (f a).length) (items : List α) {last last' : List β}
    (shortLast : last'.length ≤ last.length) :
    items.flatMap f ++ last = items.flatMap g ++ last' ↔ (∀ a ∈ items, f a = g a) ∧ last = last' := by
  have shorter (items : List α) : (items.flatMap g).length ≤ (items.flatMap f).length := by
    induction items with
    | nil => exact Nat.le_refl _
    | cons a rest ih =>
      rw [List.flatMap_cons, List.flatMap_cons, List.length_append, List.length_append]
      exact Nat.add_le_add (short a) ih
  induction items with
  | nil => simp
  | cons a rest ih =>
    rw [List.forall_mem_cons, and_assoc, List.flatMap_cons, List.flatMap_cons, List.append_assoc,
      List.append_assoc]
    constructor
    · intro same
      have total := congrArg List.length same
      have rests := shorter rest
      have heads := short a
      simp only [List.length_append] at total
      obtain ⟨head, tail⟩ := List.append_inj same (by omega)
      exact ⟨head, ih.mp tail⟩
    · rintro ⟨head, tail⟩
      rw [head, ih.mpr tail]

/-- A line between newlines that is handed over as it is: one that is not blank does
not end in a carriage return, and a blank one is empty, or a carriage return that
the newline completes. -/
def PlainLine (complete : Bool) (line : List Char) : Prop :=
  if isBlank (String.ofList line) then line = [] ∨ complete = true ∧ line = ['\r']
  else complete = true → line.getLast? ≠ some '\r'

/-- Every line of a text is handed over as it is. -/
def PlainLines (text : String) : Prop :=
  (∀ line ∈ (text.toList.splitOn '\n').dropLast, PlainLine true line) ∧
    ∀ line ∈ (text.toList.splitOn '\n').getLast?, PlainLine false line

instance (complete : Bool) (line : List Char) : Decidable (PlainLine complete line) :=
  inferInstanceAs (Decidable (if isBlank (String.ofList line) = true then _ else _))

instance (text : String) : Decidable (PlainLines text) :=
  inferInstanceAs (Decidable ((∀ line ∈ List.dropLast _, PlainLine true line) ∧
    ∀ line ∈ List.getLast? _, PlainLine false line))

/-- What is handed over of one line of a whole answer. -/
private def wholeLine (line : List Char) : List String :=
  if line = [] then [] else [String.ofList line ++ "\n"]

/-- What is handed over of one line of a stream. -/
private def streamLine (line : List Char) : List String :=
  if isBlank (String.ofList line) then [] else [String.ofList line ++ "\n"]

private theorem responseLines_flatMap {text : String} (some_ : text ≠ "") :
    responseLines text =
      (cutLines text.toList).1.flatMap (fun line => wholeLine (stripLine line)) ++
        wholeLine (cutLines text.toList).2 := by
  have each (items : List (List Char)) :
      ((items.map String.ofList).filter fun line => line ≠ "").map (· ++ "\n") =
        items.flatMap wholeLine := by
    induction items with
    | nil => rfl
    | cons line rest ih =>
      rw [List.flatMap_cons, ← ih]
      by_cases empty : line = []
      · simp [empty, wholeLine]
      · have named : String.ofList line ≠ "" := by simpa using empty
        simp [empty, named, wholeLine]
  rw [responseLines, if_neg some_, lines, each, List.flatMap_append, List.flatMap_map]
  congr 1
  by_cases empty : (cutLines text.toList).2 = []
  · simp [empty, wholeLine]
  · simp [empty]

private theorem nonBlankLines_flatMap (text : String) :
    nonBlankLines text =
      (cutLines text.toList).1.flatMap (fun line => streamLine line.dropLast) ++
        streamLine (cutLines text.toList).2 := by
  have each (items : List (List Char)) :
      ((items.map String.ofList).filter fun line => !isBlank line).map (· ++ "\n") =
        items.flatMap streamLine := by
    induction items with
    | nil => rfl
    | cons line rest ih =>
      rw [List.flatMap_cons, ← ih]
      by_cases blank : isBlank (String.ofList line)
      · simp [blank, streamLine]
      · simp [blank, streamLine]
  rw [nonBlankLines, each, splitOn_cutLines, List.flatMap_append, List.flatMap_map]
  simp

private theorem wholeLine_nil_iff {line : List Char} : wholeLine line = [] ↔ line = [] := by
  simp [wholeLine]

/-- Both ways hand over a complete line alike if it is plain. -/
private theorem handed_complete_iff (line : List Char) :
    wholeLine (stripLine (line ++ ['\n'])) = streamLine line ↔ PlainLine true line := by
  rw [stripLine_newline, PlainLine, streamLine]
  by_cases blank : isBlank (String.ofList line)
  · rw [if_pos blank, if_pos blank, wholeLine_nil_iff]
    rcases List.eq_nil_or_concat line with rfl | ⟨front, last, rfl⟩
    · simp
    · by_cases carriage : last = '\r'
      · simp [carriage]
      · have other : front ++ [last] ≠ ['\r'] := by
          intro same
          have ends := congrArg List.getLast? same
          exact carriage (by simpa using ends)
        simp [carriage, other]
  · rw [if_neg blank, if_neg blank]
    have some_ : line ≠ [] := by
      rintro rfl
      exact blank rfl
    by_cases carriage : line.getLast? = some '\r'
    · refine iff_of_false ?_ fun plain => plain rfl carriage
      rw [if_pos carriage, wholeLine]
      split
      · simp
      · intro same
        have text : String.ofList line.dropLast = String.ofList line := by simpa using same
        have shorter := congrArg List.length (String.ofList_injective text)
        have long := List.length_pos_iff.mpr some_
        rw [List.length_dropLast] at shorter
        omega
    · simp [wholeLine, carriage, some_]

private theorem handed_rest_iff (line : List Char) :
    wholeLine line = streamLine line ↔ PlainLine false line := by
  rw [PlainLine, wholeLine, streamLine]
  by_cases blank : isBlank (String.ofList line)
  · by_cases empty : line = []
    · simp [empty, isBlank]
    · simp [empty, blank]
  · have some_ : line ≠ [] := by
      rintro rfl
      exact blank rfl
    simp [some_, blank]

/-- A stream hands over no more of a line than a whole answer does. -/
private theorem length_streamLine_le (line : List Char) :
    (streamLine line).length ≤ (wholeLine (stripLine (line ++ ['\n']))).length := by
  rw [stripLine_newline, streamLine]
  by_cases blank : isBlank (String.ofList line)
  · rw [if_pos blank]
    exact Nat.zero_le _
  · have kept : (if line.getLast? = some '\r' then line.dropLast else line) ≠ [] := by
      rcases List.eq_nil_or_concat line with rfl | ⟨front, last, rfl⟩
      · exact absurd rfl blank
      · split
        · rename_i carriage
          rintro empty
          obtain rfl : last = '\r' := by simpa using carriage
          obtain rfl : front = [] := by simpa using empty
          exact blank (by decide)
        · simp
    rw [if_neg blank, wholeLine, if_neg kept]
    exact Nat.le_refl _

private theorem length_streamLine_rest_le (line : List Char) :
    (streamLine line).length ≤ (wholeLine line).length := by
  unfold streamLine wholeLine
  split
  · exact Nat.zero_le _
  · rename_i blank
    have some_ : line ≠ [] := by
      rintro rfl
      exact blank rfl
    rw [if_neg some_]

/-- The caller of a whole answer is handed what the caller of a stream is handed exactly
when every line is plain. -/
theorem responseLines_eq_iff {text : String} (some_ : text ≠ "") :
    responseLines text = nonBlankLines text ↔ PlainLines text := by
  have complete : (cutLines text.toList).1.flatMap (fun line => wholeLine (stripLine line)) =
      ((cutLines text.toList).1.map List.dropLast).flatMap
        fun line => wholeLine (stripLine (line ++ ['\n'])) := by
    rw [List.flatMap_map]
    refine List.flatMap_congr fun line member => ?_
    rw [← cutLines_complete member]
  have streamed : (cutLines text.toList).1.flatMap (fun line => streamLine line.dropLast) =
      ((cutLines text.toList).1.map List.dropLast).flatMap streamLine := by
    rw [List.flatMap_map]
  rw [responseLines_flatMap some_, nonBlankLines_flatMap, complete, streamed,
    flatMap_eq_iff length_streamLine_le _ (length_streamLine_rest_le _), handed_rest_iff, PlainLines,
    splitOn_cutLines, List.dropLast_concat, List.getLast?_concat]
  simp only [handed_complete_iff, Option.mem_def, Option.some.injEq, forall_eq']

/-! ## The two ways to serve -/

def Host.withSidecar (host : Host) (sidecar : Bool) : Host :=
  { host with inferenceSidecarEnabled := sidecar }

def ChannelEffect.call : ChannelEffect → Option BackendCall
  | .forward call => some call
  | _ => none

def SwarmOutput.call : SwarmOutput → Option BackendCall
  | .forward call => some call
  | _ => none

def SwarmOutput.response : SwarmOutput → Option StreamMessage
  | .respond _ msg => some msg
  | _ => none

/-- A message of a data channel that brings an encrypted request, or the end of one that
came in chunks; and the consumer at the other end of the channel. -/
structure ClusterExchange where
  provider : Manager
  state : ClusterState
  id : String
  channel : Channel
  msg : StreamMessage
  answers : Answers
  request : EncryptedRequest
  body : Json
  arrives : encryptedArrival provider.host state.proxy.config channel msg = some (request, .ok body)
  consumer : Manager
  consumerState : ClusterState
  consumerChannel : String
  taken : Answers

/-- What the provider does on the channel. -/
def ClusterExchange.effects (x : ClusterExchange) (sidecar : Bool) : List ChannelEffect :=
  (onMessage { x.provider with host := x.provider.host.withSidecar sidecar } x.state x.id x.channel
    x.msg x.answers).2

/-- An encrypted request that a swarm provider dispatches, and the consumer that waits
for the answer and can read it. The provider has its own settings. -/
structure SwarmExchange where
  settings : Host
  proxy : ProxyState
  answers : Answers
  name : String
  source : PeerId
  reqId : String
  path : String
  roomId : String
  ephemeral : Bytes
  pk : Bytes
  nonce : Bytes
  ciphertext : Bytes
  version : Nat
  auth : Option ProxyAuthProof
  consumer : SwarmManager
  state : SwarmState
  provider : PeerId
  outboundId : OutboundRequestId
  taken : Answers
  keys : SharedKeys consumer.host state.proxy.config proxy.config roomId pk
  waits : AwaitsStream state reqId path roomId ephemeral pk provider outboundId

/-- The provider computes with the primitives of the consumer. -/
def SwarmExchange.host (x : SwarmExchange) : Host :=
  { x.settings with crypto := x.consumer.host.crypto }

def SwarmExchange.request (x : SwarmExchange) : EncryptedRequest :=
  ⟨x.reqId, x.path, x.roomId, x.consumer.host.crypto.publicKey x.ephemeral, x.version, x.auth⟩

/-- What the provider does, and the chunks it sends. -/
def SwarmExchange.dispatched (x : SwarmExchange) (sidecar : Bool) :
    List SwarmOutput × List StreamMessage :=
  dispatchSwarmEncryptedProxyRequest (x.host.withSidecar sidecar) x.proxy x.answers x.name x.source
    x.request x.nonce x.ciphertext

inductive Exchange where
  | cluster (x : ClusterExchange)
  | swarm (x : SwarmExchange)

/-- The calls of a backend. -/
def Exchange.calls : Exchange → Bool → List BackendCall
  | .cluster x, sidecar => (x.effects sidecar).filterMap ChannelEffect.call
  | .swarm x, sidecar => (x.dispatched sidecar).1.filterMap SwarmOutput.call

/-- The messages to the consumer. -/
def Exchange.sent : Exchange → Bool → List StreamMessage
  | .cluster x, sidecar => (x.effects sidecar).filterMap ChannelEffect.sent
  | .swarm x, sidecar =>
    (x.dispatched sidecar).1.filterMap SwarmOutput.response ++ (x.dispatched sidecar).2

/-- What they are to a swarm consumer: responses to its request, and requests. -/
def SwarmExchange.events (x : SwarmExchange) (sidecar : Bool) : List SwarmEvent :=
  ((x.dispatched sidecar).1.filterMap SwarmOutput.response).map
      (.response x.provider x.outboundId) ++
    (x.dispatched sidecar).2.map (.request x.provider · x.taken)

/-- What the caller of the request hears. -/
def Exchange.heard : Exchange → Bool → List Heard
  | .cluster x, sidecar => (clusterMachine x.consumer).trace (clusterHeard x.request.reqId)
      x.consumerState (((Exchange.cluster x).sent sidecar).map (.message x.consumerChannel · x.taken))
  | .swarm x, sidecar =>
    (swarmMachine x.consumer).trace (swarmHeard x.reqId) x.state (x.events sidecar)

/-- An acknowledgement and all chunks of a stream. -/
def WholeStream (P : Primitives) (config : ClientConfig) (request : EncryptedRequest)
    (msgs : List StreamMessage) : Prop :=
  ∃ stream : SealedStream P config request.reqId request.path request.roomId
      request.consumerEphemeralPk,
    msgs = .encryptedProxyResponse request.reqId [] [] request.aadVersion none (some true) ::
      (List.range stream.texts.length).map (stream.message request.aadVersion)

/-- Without the sidecar the request is accepted, so that a backend is called, and
answered in full. -/
def Exchange.AnsweredInProcess (x : Exchange) : Prop :=
  x.calls false ≠ [] ∧ match x with
    | .cluster y => WholeStream y.provider.host.crypto y.state.proxy.config y.request (x.sent false)
    | .swarm y => WholeStream y.consumer.host.crypto y.proxy.config y.request (x.sent false)

/-- With the sidecar the same calls are made and the caller hears the same. -/
def Exchange.ServedAlike (x : Exchange) : Prop :=
  x.calls true = x.calls false ∧ x.heard true = x.heard false

/-- The text of the backend's answer. -/
def SwarmExchange.text (x : SwarmExchange) : String :=
  match x.answers.upstream with
  | .ok items => collectText items
  | .error _ => ""

/-- The text sealed as one response. -/
def SwarmExchange.wholeAnswer (x : SwarmExchange) : StreamMessage :=
  match encryptOutboundResponse x.host.crypto x.proxy.config x.roomId x.reqId x.path
    x.request.consumerEphemeralPk (x.answers.draws 0).nonce (utf8 x.text) with
  | .ok enc => .encryptedProxyResponse x.reqId enc.nonce enc.ciphertext x.version none none
  | .error error => encryptedErrorResponse x.reqId x.version error

/-- When the sidecar serves a swarm's request as it is served without: it can be asked,
the body needs no normalisation, the answer fits in a frame and its lines are plain. -/
structure SwarmExchange.Keeps (x : SwarmExchange) : Prop where
  reached : x.answers.ipcError = none
  normal : ∀ body, decryptInboundRequest x.host x.proxy.config x.roomId x.reqId x.path
    x.request.consumerEphemeralPk x.nonce x.ciphertext = .ok body →
      normalizeRemoteBody x.host x.proxy.config body = body
  fits : x.wholeAnswer.text.utf8ByteSize ≤ maxIpcFrameBytes
  plain : PlainLines x.text

/-- The sidecar never keeps a cluster's request. -/
def Exchange.SidecarKeeps : Exchange → Prop
  | .cluster _ => False
  | .swarm x => x.Keeps

/-! ## Clusters -/

private theorem call_of_isReply {effect : ChannelEffect} (reply : effect.isReply) :
    effect.call = none := by
  cases effect with
  | forward => exact absurd reply id
  | _ => rfl

private theorem decryptChunks_withSidecar (host : Host) (sidecar : Bool) (config : ClientConfig)
    (reqId : String) (incoming : PendingEncryptedIncomingRequest)
    (chunks : List (Nat × Bytes × Bytes)) :
    decryptChunks (host.withSidecar sidecar) config reqId incoming chunks =
      decryptChunks host config reqId incoming chunks := by
  induction chunks with
  | nil => rfl
  | cons chunk rest ih =>
    rw [decryptChunks, decryptChunks, ih]
    rfl

/-- Whether a request is recovered on the channel does not depend on the sidecar. -/
theorem encryptedArrival_withSidecar (host : Host) (sidecar : Bool) (config : ClientConfig)
    (channel : Channel) (msg : StreamMessage) :
    encryptedArrival (host.withSidecar sidecar) config channel msg =
      encryptedArrival host config channel msg := by
  cases msg with
  | encryptedProxyRequestEnd reqId =>
    simp only [encryptedArrival, assembleBody, decryptChunks_withSidecar]
    rfl
  | _ => rfl

/-- No backend is called for a cluster's request: the sidecar gets no ciphertext. -/
theorem cluster_sidecar_calls (x : ClusterExchange) : (Exchange.cluster x).calls true = [] := by
  have arrives : encryptedArrival (x.provider.host.withSidecar true) x.state.proxy.config x.channel
      x.msg = some (x.request, .ok x.body) := by
    rw [encryptedArrival_withSidecar, x.arrives]
  have effects := @onMessage_encrypted { x.provider with host := x.provider.host.withSidecar true }
    x.state x.id x.channel x.answers x.msg x.request (.ok x.body) arrives
  have replies : ∀ effect ∈ x.effects true, effect.isReply := by
    intro effect member
    rw [ClusterExchange.effects, effects] at member
    simp only [dispatchRecovered, dispatchClusterEncryptedProxyBody] at member
    split at member
    · exact sendEncryptedStreamError_isReply _ _ effect member
    · exact serveBySidecar_isReply _ _ _ effect member
  refine List.filterMap_eq_nil_iff.mpr fun effect member => ?_
  exact call_of_isReply (replies effect member)

/-! ## Swarms -/

theorem collectText_eq (items : List (Except String Bytes)) :
    collectText items = String.ofList (readText (okItems items)) := by
  rw [collectText, readText]
  induction okItems items with
  | nil => rfl
  | cons chunk rest ih =>
    rw [List.flatMap_cons, String.ofList_append, ← ih]
    cases read : fromUtf8 chunk with
    | none => simp [read]
    | some text => simp [read, String.join_cons]

/-- The call without the sidecar. -/
def SwarmExchange.call (x : SwarmExchange) (body : Json) : BackendCall :=
  ⟨x.path, normalizeRemoteBody x.host x.proxy.config body,
    requestedModel (normalizeRemoteBody x.host x.proxy.config body)⟩

/-- The acknowledgement. -/
def SwarmExchange.ack (x : SwarmExchange) : StreamMessage :=
  .encryptedProxyResponse x.reqId [] [] x.version none (some true)

private theorem calls_respond (answers : Answers) (peer : PeerId) (msg : StreamMessage) :
    (respond answers peer msg).filterMap SwarmOutput.call = [] := by
  unfold respond
  split <;> rfl

private theorem responses_respond (answers : Answers) (peer : PeerId) (msg : StreamMessage) :
    (respond answers peer msg).filterMap SwarmOutput.response =
      if answers.channelOpen then [msg] else [] := by
  unfold respond
  split <;> rfl

/-- What an exchange that is answered without the sidecar comes to. -/
structure SwarmExchange.InProcess (x : SwarmExchange) (body : Json) (items : List (Except String Bytes))
    (stream : SealedStream x.consumer.host.crypto x.proxy.config x.reqId x.path x.roomId
      (x.consumer.host.crypto.publicKey x.ephemeral)) : Prop where
  opened : decryptInboundRequest x.host x.proxy.config x.roomId x.reqId x.path
    x.request.consumerEphemeralPk x.nonce x.ciphertext = .ok body
  called : callOutcome x.proxy.registry x.answers (x.call body) = some (.ok items)
  channel : x.answers.channelOpen = true
  calls : (Exchange.swarm x).calls false = [x.call body]
  events : x.events false = .response x.provider x.outboundId x.ack ::
    (List.range stream.texts.length).map fun i =>
      .request x.provider (stream.message x.version i) x.taken
  text : stream.text = x.text
  some_ : x.text ≠ ""
  long : (x.answers.draws 0).nonce.length = 12

/-- A request that is not turned away is served. -/
private theorem SwarmExchange.dispatched_served {x : SwarmExchange}
    (made : (Exchange.swarm x).calls false ≠ []) :
    ∃ body, decryptInboundRequest x.host x.proxy.config x.roomId x.reqId x.path
        x.request.consumerEphemeralPk x.nonce x.ciphertext = .ok body ∧
      x.dispatched false = serveSwarmEncrypted (x.host.withSidecar false) x.proxy x.answers x.source
        x.request body := by
  have dispatched : x.dispatched false = dispatchSwarmEncryptedProxyRequest
    (x.host.withSidecar false) x.proxy x.answers x.name x.source x.request x.nonce x.ciphertext := rfl
  have refused (error : String) (same : x.dispatched false = (respond x.answers x.source
      (encryptedErrorResponse x.request.reqId x.request.aadVersion error), [])) : False := by
    rw [Exchange.calls, same] at made
    exact made (calls_respond _ _ _)
  have disabled : ¬ (x.host.withSidecar false).inferenceSidecarEnabled = true := Bool.false_ne_true
  rw [dispatchSwarmEncryptedProxyRequest, if_neg disabled] at dispatched
  split at dispatched
  · exact (refused _ dispatched).elim
  · split at dispatched
    · exact (refused _ dispatched).elim
    · rename_i body opened
      exact ⟨body, opened, dispatched⟩

private theorem SwarmExchange.dispatched_of_opened {x : SwarmExchange} {body : Json}
    (admitted : x.proxy.isPeerBlocked x.name = false)
    (opened : decryptInboundRequest x.host x.proxy.config x.roomId x.reqId x.path
      x.request.consumerEphemeralPk x.nonce x.ciphertext = .ok body) :
    x.dispatched false = serveSwarmEncrypted (x.host.withSidecar false) x.proxy x.answers x.source
      x.request body := by
  have disabled : ¬ (x.host.withSidecar false).inferenceSidecarEnabled = true := Bool.false_ne_true
  have notBlocked : ¬ x.proxy.isPeerBlocked x.name = true := by
    rw [admitted]
    exact Bool.false_ne_true
  have recovered : decryptInboundRequest (x.host.withSidecar false) x.proxy.config x.request.roomId
      x.request.reqId x.request.path x.request.consumerEphemeralPk x.nonce x.ciphertext = .ok body :=
    opened
  rw [SwarmExchange.dispatched, dispatchSwarmEncryptedProxyRequest, if_neg disabled, if_neg notBlocked,
    recovered]

private theorem serveSwarmEncrypted_called {host : Host} {proxy : ProxyState} {answers : Answers} {peer : PeerId}
    {request : EncryptedRequest} {body : Json} {items : List (Except String Bytes)}
    (called : callOutcome proxy.registry answers ⟨request.path, normalizeRemoteBody host proxy.config body,
      requestedModel (normalizeRemoteBody host proxy.config body)⟩ = some (.ok items)) :
    (serveSwarmEncrypted host proxy answers peer request body).2 =
      reverseChunks host proxy.config answers request items := by
  simp only [serveSwarmEncrypted, called]

/-- A call that fails is followed by no chunk. -/
private theorem serveSwarmEncrypted_failed {host : Host} {proxy : ProxyState} {answers : Answers} {peer : PeerId}
    {request : EncryptedRequest} {body : Json}
    (failed : ∀ items, callOutcome proxy.registry answers ⟨request.path, normalizeRemoteBody host proxy.config body,
      requestedModel (normalizeRemoteBody host proxy.config body)⟩ ≠ some (.ok items)) :
    (serveSwarmEncrypted host proxy answers peer request body).2 = [] := by
  simp only [serveSwarmEncrypted, failed]

/-- Whoever is sent a whole stream was served, and the stream has the backend's text. -/
theorem SwarmExchange.inProcess {x : SwarmExchange}
    (answered : (Exchange.swarm x).AnsweredInProcess) :
    ∃ body items stream, x.InProcess body items stream := by
  obtain ⟨made, stream, sent⟩ := answered
  have able : CanSeal (x.host.withSidecar false).crypto x.proxy.config x.request.roomId
    x.request.consumerEphemeralPk := x.keys.canSeal x.ephemeral
  obtain ⟨body, opened, served⟩ := SwarmExchange.dispatched_served made
  have responses : (x.dispatched false).1.filterMap SwarmOutput.response =
      if x.answers.channelOpen then [x.ack] else [] := by
    rw [served, serveSwarmEncrypted, List.filterMap_append, responses_respond]
    exact List.append_nil _
  have calls : (Exchange.swarm x).calls false = [x.call body] := by
    rw [Exchange.calls, served, serveSwarmEncrypted, List.filterMap_append, calls_respond]
    rfl
  have chunked : ∀ msg ∈ (x.dispatched false).2, msg.IsStreamChunk :=
    dispatchSwarmEncryptedProxyRequest_chunks
  rw [Exchange.sent, responses] at sent
  cases channel : x.answers.channelOpen with
  | false =>
    rw [channel] at sent
    have first : x.ack ∈ (x.dispatched false).2 := by
      rw [show (x.dispatched false).2 = _ from sent]
      exact List.mem_cons_self
    exact (chunked _ first).elim
  | true =>
    rw [channel] at sent
    have chunks : (x.dispatched false).2 =
        (List.range stream.texts.length).map (stream.message x.version) :=
      (List.cons.inj sent).2
    have some_ := List.length_pos_iff.mpr stream.nonempty
    have nothing (empty : (x.dispatched false).2 = []) : False := by
      rw [empty] at chunks
      have short := congrArg List.length chunks
      simp only [List.length_nil, List.length_map, List.length_range] at short
      omega
    obtain ⟨items, called⟩ : ∃ items,
        callOutcome x.proxy.registry x.answers (x.call body) = some (.ok items) := by
      by_contra failed
      apply nothing
      rw [served]
      exact serveSwarmEncrypted_failed fun items called => failed ⟨items, called⟩
    have wide : 4 ≤ reverseChunkBytes := by decide
    have answer : (x.dispatched false).2 =
        reverseChunks (x.host.withSidecar false) x.proxy.config x.answers x.request items := by
      rw [served]
      exact serveSwarmEncrypted_called called
    have reversed : reverseChunks (x.host.withSidecar false) x.proxy.config x.answers x.request items =
        plannedChunks x.host.crypto x.proxy.config x.answers x.request reverseChunkBytes
          (readText (okItems items)) := reverseChunks_eq able items
    have planned := reversed.symm.trans (answer.symm.trans chunks)
    obtain ⟨texts, nonces, left, -⟩ := plannedChunks_stream x.keys.opens stream planned
    have text : x.text = String.ofList (readText (okItems items)) := by
      rw [SwarmExchange.text, callOutcome_ok called]
      exact collectText_eq items
    refine ⟨body, items, stream, opened, called, channel, calls, ?_, ?_, ?_, ?_⟩
    · rw [SwarmExchange.events, responses, channel, chunks, List.map_map]
      rfl
    · rw [text]
      exact stream.text_of_allPieces wide texts
    · intro empty
      have none_ : readText (okItems items) = [] := by
        rw [text] at empty
        simpa using empty
      rw [none_] at left
      exact left (by rw [fullPieces_short (by decide)])
    · rw [← nonces 0 some_]
      exact stream.long 0

/-! ## What the caller hears -/

section Heard

variable {m : SwarmManager} {s : SwarmState} {reqId path roomId : String} {ephemeral pk : Bytes}
  {peer : PeerId} {id : OutboundRequestId}

private theorem heardBy_deliverLocal {t : SwarmState} (item : Except String String)
    (waits : t.pendingProxyByReqId reqId) :
    (deliverLocal t reqId item).filterMap (SwarmOutput.heardBy reqId) = [.item item] := by
  rw [deliverLocal, if_pos waits]
  simp [SwarmOutput.heardBy]

/-- One response that holds the whole text hands over its lines and ends the answer. -/
theorem whole_response_heard (waits : AwaitsStream s reqId path roomId ephemeral pk peer id)
    {nonce ciphertext : Bytes} {version : Nat} {text : String}
    (opened : decryptProxyResponse m.host s.proxy.config reqId path roomId ephemeral pk
      ⟨nonce, ciphertext⟩ none = .ok text) :
    (swarmMachine m).trace (swarmHeard reqId) s [.response peer id
        (.encryptedProxyResponse reqId nonce ciphertext version none none)] =
      (responseLines text).map (fun line => Heard.item (.ok line)) ++ [.ended] := by
  obtain ⟨pending, noted, reads⟩ := waits.noted
  have other : (some pending).any (fun sent => decide (sent.libp2pPeer ≠ peer)) = false := by
    simp [reads.provider]
  have waiting : (s.dropSent id).pendingProxyByReqId reqId = true := waits.waits
  have read : answerKeys pending "decrypt" = .ok (roomId, ephemeral, pk) := by
    rw [answerKeys, reads.room, reads.secret, reads.key]
  have handled : onSwarmResponse m s peer id
      (.encryptedProxyResponse reqId nonce ciphertext version none none) =
        ((s.dropSent id).dropCaller reqId, (responseLines text).flatMap fun line =>
          deliverLocal (s.dropSent id) reqId (.ok line)) := by
    have opened' : decryptProxyResponse m.host (s.dropSent id).proxy.config reqId pending.path roomId
        ephemeral pk ⟨nonce, ciphertext⟩ none = .ok text := by
      rw [reads.path]
      exact opened
    simp only [onSwarmResponse, noted, other, Bool.false_eq_true, if_false, reduceCtorEq,
      onEncryptedResponse, read]
    simp only [bind, Except.bind, opened']
  have gone : ((s.dropSent id).dropCaller reqId).pendingProxyByReqId reqId = false := by
    simp [SwarmState.dropCaller]
  have heard : ((responseLines text).flatMap fun line =>
      deliverLocal (s.dropSent id) reqId (.ok line)).filterMap (SwarmOutput.heardBy reqId) =
        (responseLines text).map fun line => Heard.item (.ok line) := by
    rw [List.filterMap_flatMap, List.map_eq_flatMap]
    exact List.flatMap_congr fun line _ => heardBy_deliverLocal _ waiting
  simp only [Machine.trace, swarmMachine, swarmStep, handled, swarmHeard, heard, gone, List.append_nil]
  rw [show s.pendingProxyByReqId reqId = true from waits.waits]
  rfl

/-- A response that tells an error hands it over and ends the answer. -/
theorem error_response_heard (waits : AwaitsStream s reqId path roomId ephemeral pk peer id)
    (version : Nat) (error : String) :
    (swarmMachine m).trace (swarmHeard reqId) s [.response peer id
        (encryptedErrorResponse reqId version error)] = [.item (.error error), .ended] := by
  obtain ⟨pending, noted, reads⟩ := waits.noted
  have other : (some pending).any (fun sent => decide (sent.libp2pPeer ≠ peer)) = false := by
    simp [reads.provider]
  have waiting : (s.dropSent id).pendingProxyByReqId reqId = true := waits.waits
  have handled : onSwarmResponse m s peer id (encryptedErrorResponse reqId version error) =
      failProxyRequest (s.dropSent id) reqId error := by
    simp only [onSwarmResponse, encryptedErrorResponse, noted, other, Bool.false_eq_true, if_false]
  have gone : ((s.dropSent id).dropCaller reqId).pendingProxyByReqId reqId = false := by
    simp [SwarmState.dropCaller]
  simp only [Machine.trace, swarmMachine, swarmStep, handled, failProxyRequest, swarmHeard,
    heardBy_deliverLocal _ waiting, gone, List.append_nil]
  rw [show s.pendingProxyByReqId reqId = true from waits.waits]
  rfl

end Heard

/-! ## The two ways compared -/

namespace SwarmExchange

variable {x : SwarmExchange} {body : Json} {items : List (Except String Bytes)}
  {stream : SealedStream x.consumer.host.crypto x.proxy.config x.reqId x.path x.roomId
    (x.consumer.host.crypto.publicKey x.ephemeral)}

theorem InProcess.heard (done : x.InProcess body items stream) :
    (Exchange.swarm x).heard false =
      (nonBlankLines x.text).map (fun line => Heard.item (.ok line)) ++ [.ended] := by
  let arrivals : List AnswerPart := .ack [] [] x.version ::
    (List.range stream.texts.length).map fun i => .chunk i x.provider x.version x.taken
  have numbers : arrivals.flatMap AnswerPart.numbers = List.range stream.texts.length := by
    simp [arrivals, List.flatMap_cons, AnswerPart.numbers, List.flatMap_map]
  have events : x.events false = arrivals.map (stream.event x.provider x.outboundId) := by
    rw [done.events]
    simp only [arrivals, List.map_cons, List.map_map]
    rfl
  have assembled := encrypted_stream_assembled x.provider x.outboundId stream x.keys x.waits arrivals
    (by rw [numbers]; simp)
  rw [← events] at assembled
  rw [← done.text]
  refine assembled.whole rfl ?_
  rw [numbers]
  simp

/-- The calls with the sidecar. -/
theorem InProcess.sidecar_calls (done : x.InProcess body items stream) :
    (Exchange.swarm x).calls true =
      if x.answers.ipcError = none then [⟨x.path, body, requestedModel body⟩] else [] := by
  have opened : decryptInboundRequest (x.host.withSidecar true) x.proxy.config x.roomId x.reqId x.path
      x.request.consumerEphemeralPk x.nonce x.ciphertext = .ok body := done.opened
  have forwarded (calls : List BackendCall) : (calls.map SwarmOutput.forward).filterMap
      SwarmOutput.call = calls := by
    rw [List.filterMap_map]
    exact List.filterMap_some
  have relayed : (Exchange.swarm x).calls true = (forwardRequest (x.host.withSidecar true)
      x.proxy.config x.proxy.registry x.answers x.reqId x.path x.roomId x.request.consumerEphemeralPk
      x.nonce x.ciphertext x.version none).1 := by
    have dispatched : (x.dispatched true).1 = relayToSidecar (x.host.withSidecar true) x.proxy
      x.answers x.source x.request x.nonce x.ciphertext := rfl
    rw [Exchange.calls, dispatched, relayToSidecar]
    split
    all_goals
      rename_i ran
      rw [List.filterMap_append, forwarded, calls_respond, List.append_nil]
      exact (congrArg Prod.fst ran).symm
  rw [relayed, forwardRequest_unproved, opened]
  cases x.answers.ipcError with
  | none => rfl
  | some error => rfl

/-- The whole answer is sealed, and the consumer opens it. -/
theorem InProcess.wholeAnswer (done : x.InProcess body items stream) :
    ∃ enc, encryptOutboundResponse x.consumer.host.crypto x.proxy.config x.roomId x.reqId x.path
        (x.consumer.host.crypto.publicKey x.ephemeral) (x.answers.draws 0).nonce (utf8 x.text) =
          .ok enc ∧
      x.wholeAnswer = .encryptedProxyResponse x.reqId enc.nonce enc.ciphertext x.version none none ∧
      decryptProxyResponse x.consumer.host x.state.proxy.config x.reqId x.path x.roomId x.ephemeral
        x.pk enc none = .ok x.text := by
  obtain ⟨secret, mine, theirs⟩ := x.keys.secret
  obtain ⟨enc, made, opened⟩ := response_round_trip x.keys.agreement x.keys.opens mine theirs
    x.keys.source x.ephemeral done.long x.reqId x.path x.text
  have sealed_ : encryptOutboundResponse x.host.crypto x.proxy.config x.roomId x.reqId x.path
    x.request.consumerEphemeralPk (x.answers.draws 0).nonce (utf8 x.text) = .ok enc := made
  exact ⟨enc, made, by rw [SwarmExchange.wholeAnswer, sealed_], opened⟩

/-- The response with the sidecar, if it posts what is posted without. -/
theorem InProcess.sidecar_events (done : x.InProcess body items stream)
    (reached : x.answers.ipcError = none) (normal : normalizeRemoteBody x.host x.proxy.config body = body) :
    x.events true = [.response x.provider x.outboundId
      (if x.wholeAnswer.text.utf8ByteSize ≤ maxIpcFrameBytes then x.wholeAnswer
        else encryptedErrorResponse x.reqId x.version
          ("Sidecar IPC error: " ++ "IPC frame too large"))] := by
  have opened : decryptInboundRequest (x.host.withSidecar true) x.proxy.config x.roomId x.reqId x.path
      x.request.consumerEphemeralPk x.nonce x.ciphertext = .ok body := done.opened
  have called : callOutcome x.proxy.registry x.answers ⟨x.path, body, requestedModel body⟩ =
      some (.ok items) := by
    have made := done.called
    rwa [SwarmExchange.call, normal] at made
  have text : x.text = collectText items := by
    rw [SwarmExchange.text, callOutcome_ok called]
  obtain ⟨enc, made, whole, -⟩ := done.wholeAnswer
  have ran : forwardRequest (x.host.withSidecar true) x.proxy.config x.proxy.registry x.answers x.reqId
      x.path x.roomId x.request.consumerEphemeralPk x.nonce x.ciphertext x.version none =
        ([⟨x.path, body, requestedModel body⟩], readFrame x.wholeAnswer) := by
    have sealed_ : encryptOutboundResponse (x.host.withSidecar true).crypto x.proxy.config x.roomId
      x.reqId x.path x.request.consumerEphemeralPk (x.answers.draws 0).nonce
      (utf8 (collectText items)) = .ok enc := text ▸ made
    simp only [forwardRequest, reached, handleSidecarMessage, verifyInboundAuth, opened, called,
      sealed_, whole]
  have dispatched : x.dispatched true = (relayToSidecar (x.host.withSidecar true) x.proxy
    x.answers x.source x.request x.nonce x.ciphertext, []) := rfl
  have answered : ((relayToSidecar (x.host.withSidecar true) x.proxy x.answers x.source x.request
      x.nonce x.ciphertext).filterMap SwarmOutput.response) =
        [if x.wholeAnswer.text.utf8ByteSize ≤ maxIpcFrameBytes then x.wholeAnswer
          else encryptedErrorResponse x.reqId x.version
            ("Sidecar IPC error: " ++ "IPC frame too large")] := by
    have ran' : forwardRequest (x.host.withSidecar true) x.proxy.config x.proxy.registry x.answers
        x.request.reqId x.request.path x.request.roomId x.request.consumerEphemeralPk x.nonce
        x.ciphertext x.request.aadVersion none =
          ([⟨x.path, body, requestedModel body⟩], readFrame x.wholeAnswer) := ran
    have responses (msg : StreamMessage) : (SwarmOutput.forward ⟨x.path, body, requestedModel body⟩ ::
        respond x.answers x.source msg).filterMap SwarmOutput.response = [msg] := by
      rw [List.filterMap_cons_none rfl, responses_respond, if_pos done.channel]
    rw [relayToSidecar, ran', readFrame]
    by_cases large : maxIpcFrameBytes < x.wholeAnswer.text.utf8ByteSize
    · rw [if_pos large, if_neg (Nat.not_le_of_lt large)]
      exact responses _
    · rw [if_neg large, if_pos (Nat.not_lt.mp large)]
      exact responses _
  rw [SwarmExchange.events, dispatched, answered]
  rfl

/-- The caller of a swarm hears the same exactly when the sidecar keeps the request. -/
theorem InProcess.servedAlike_iff (done : x.InProcess body items stream) :
    (Exchange.swarm x).ServedAlike ↔ x.Keeps := by
  have normal_iff : (∀ other, decryptInboundRequest x.host x.proxy.config x.roomId x.reqId x.path
      x.request.consumerEphemeralPk x.nonce x.ciphertext = .ok other →
        normalizeRemoteBody x.host x.proxy.config other = other) ↔
      normalizeRemoteBody x.host x.proxy.config body = body := by
    simp only [done.opened, Except.ok.injEq, forall_eq']
  have calls : (Exchange.swarm x).calls true = (Exchange.swarm x).calls false ↔
      x.answers.ipcError = none ∧ normalizeRemoteBody x.host x.proxy.config body = body := by
    rw [done.sidecar_calls, done.calls, SwarmExchange.call, requestedModel_normalizeRemoteBody]
    by_cases reached : x.answers.ipcError = none
    · simp [reached, eq_comm]
    · simp [reached]
  have heard (reached : x.answers.ipcError = none)
      (normal : normalizeRemoteBody x.host x.proxy.config body = body) :
      (Exchange.swarm x).heard true = (Exchange.swarm x).heard false ↔
        x.wholeAnswer.text.utf8ByteSize ≤ maxIpcFrameBytes ∧ PlainLines x.text := by
    obtain ⟨enc, -, whole, opened⟩ := done.wholeAnswer
    have items_inj : Function.Injective fun line => Heard.item (.ok line) := by
      intro line other same
      exact Except.ok.inj (Heard.item.inj same)
    rw [done.heard, Exchange.heard, done.sidecar_events reached normal]
    by_cases fits : x.wholeAnswer.text.utf8ByteSize ≤ maxIpcFrameBytes
    · rw [if_pos fits, whole, whole_response_heard x.waits opened, List.append_left_inj,
        items_inj.list_map.eq_iff, responseLines_eq_iff done.some_, ← whole, and_iff_right fits]
    · rw [if_neg fits, error_response_heard x.waits]
      refine iff_of_false (fun same => ?_) fun kept => fits kept.1
      cases lines : nonBlankLines x.text with
      | nil => simp [lines] at same
      | cons line rest => simp [lines] at same
  constructor
  · rintro ⟨sameCalls, sameHeard⟩
    obtain ⟨reached, normal⟩ := calls.mp sameCalls
    obtain ⟨fits, plain⟩ := (heard reached normal).mp sameHeard
    exact ⟨reached, normal_iff.mpr normal, fits, plain⟩
  · rintro ⟨reached, normal, fits, plain⟩
    have normal' := normal_iff.mp normal
    exact ⟨calls.mpr ⟨reached, normal'⟩, (heard reached normal').mpr ⟨fits, plain⟩⟩

end SwarmExchange

/-- A request that is accepted and answered without the sidecar is served alike with it
exactly when a swarm's peer sent it, the body needs no normalisation, the sidecar can be
asked, the answer fits in a frame and its lines are plain. -/
theorem sidecar_serves_alike_iff (x : Exchange) (answered : x.AnsweredInProcess) :
    x.ServedAlike ↔ x.SidecarKeeps := by
  cases x with
  | cluster y =>
    refine iff_of_false (fun alike => ?_) id
    exact answered.1 (alike.1.symm.trans (cluster_sidecar_calls y))
  | swarm y =>
    obtain ⟨body, items, stream, done⟩ := SwarmExchange.inProcess answered
    exact done.servedAlike_iff

/-- A body as the consumer whose ephemeral secret is the byte 7 seals it. -/
private def sealedBody (roomId reqId : String) (body : Json) : EncryptedPayload :=
  encryptPayload .transparent (deriveSessionKeyConsumer .transparent [7]
    ((providerStaticPublicKey .transparent sampleConfig roomId).toOption.getD []) reqId roomId)
    reqId "/api/chat" roomId (List.replicate 12 0) (utf8 body.toText)

private theorem sealedBody_opened {roomId reqId : String} {body : Json}
    (key : inboundSessionKey .transparent sampleConfig roomId reqId
      (Primitives.transparent.publicKey [7]) = .ok (deriveSessionKeyConsumer .transparent [7]
        ((providerStaticPublicKey .transparent sampleConfig roomId).toOption.getD []) reqId roomId))
    (valid : body.Valid) (deep : body.depth < Json.recursionLimit) :
    decryptInboundRequest (sampleHost true false) sampleConfig roomId reqId "/api/chat"
      (Primitives.transparent.publicKey [7]) (sealedBody roomId reqId body).nonce
      (sealedBody roomId reqId body).ciphertext = .ok body := by
  have opened := @decryptPayload_sealed .transparent Primitives.transparent_ideal.opens
    (deriveSessionKeyConsumer .transparent [7]
      ((providerStaticPublicKey .transparent sampleConfig roomId).toOption.getD []) reqId roomId)
    reqId "/api/chat" roomId (List.replicate 12 0) rfl (utf8 body.toText)
  have crypto : (sampleHost true false).crypto = .transparent := rfl
  simp only [decryptInboundRequest, crypto, key, bind, Except.bind, sealedBody, encryptPayload, opened,
    fromUtf8_utf8, Option.bind_some, Json.fromText_toText body valid deep]

/-- A backend that answers with a short text. -/
private def answersHi : Answers := { sampleAnswers with upstream := .ok [.ok (utf8 "hi")] }

/-- A request of the peer `you`, which has a data channel to the sample peer. -/
private def clusterSample : ClusterExchange where
  provider := sampleManager true false
  state := .initial sampleProxy 0
  id := "d"
  channel := .opened "you" true
  msg := .encryptedProxyRequest "1" "/api/chat" "c" (Primitives.transparent.publicKey [7])
    (sealedBody "c" "1" (sampleBody "llama3")).nonce
    (sealedBody "c" "1" (sampleBody "llama3")).ciphertext aadVersion none
  answers := answersHi
  request := ⟨"1", "/api/chat", "c", Primitives.transparent.publicKey [7], aadVersion, none⟩
  body := sampleBody "llama3"
  arrives := by
    have opened := @sealedBody_opened "c" "1" (sampleBody "llama3") (by decide)
      ⟨by decide, trivial, trivial⟩ (by decide)
    simp only [encryptedArrival]
    exact congrArg (fun read => some (_, read)) opened
  consumer := sampleManager true false
  consumerState := .initial sampleProxy 0
  consumerChannel := "e"
  taken := sampleAnswers

/-- A body that asks for a stream, which normalisation adds to. -/
private def streamingBody : Json := .obj [("model", .str "llama3"), ("stream", .bool true)]

/-- The consumer `you` of a swarm asks the peer `P`. -/
private def swarmSample (body : Json) : SwarmExchange where
  settings := sampleHost true false
  proxy := sampleProxy
  answers := answersHi
  name := "you"
  source := "Q"
  reqId := "p2p_1"
  path := "/api/chat"
  roomId := "74"
  ephemeral := [7]
  pk := Primitives.transparent.publicKey (roomStaticSecret .transparent
    (deriveRoomRootKey .transparent "t" "74"))
  nonce := (sealedBody "74" "p2p_1" body).nonce
  ciphertext := (sealedBody "74" "p2p_1" body).ciphertext
  version := aadVersion
  auth := none
  consumer := sampleSwarmManager true false
  state := sampleAwaiting
  provider := "P"
  outboundId := 0
  taken := sampleAnswers
  keys := sampleSwarmKeys
  waits := sampleAwaits

private theorem wholeStream_hi {request : EncryptedRequest} {maxBytes : Nat} (wide : 4 ≤ maxBytes)
    (able : CanSeal .transparent sampleConfig request.roomId request.consumerEphemeralPk)
    (left : (fullPieces maxBytes ['h', 'i']).2 ≠ [])
    (count : (allPieces maxBytes ['h', 'i']).length ≤ 2 ^ 32) :
    WholeStream .transparent sampleConfig request
      (.encryptedProxyResponse request.reqId [] [] request.aadVersion none (some true) ::
        plannedChunks .transparent sampleConfig answersHi request maxBytes ['h', 'i']) := by
  let items : List (Except String Bytes) := [.ok (utf8 "hi")]
  have read : readText (okItems items) = ['h', 'i'] := by decide
  have ends : EndsMarked maxBytes items := by
    refine ⟨by decide, ?_, by rwa [read], by rwa [read]⟩
    intro chunk member
    obtain rfl := List.mem_singleton.mp member
    decide
  obtain ⟨stream, -, same⟩ := @plannedChunks_complete .transparent sampleConfig answersHi request
    maxBytes wide able (fun i => by simp [answersHi, sampleAnswers]) items ends
  rw [read] at same
  exact ⟨stream, by rw [same]⟩

private theorem swarmSample_answered {body : Json} (valid : body.Valid)
    (deep : body.depth < Json.recursionLimit) :
    (Exchange.swarm (swarmSample body)).AnsweredInProcess := by
  have opened := @sealedBody_opened "74" "p2p_1" body (by decide) valid deep
  let host := (swarmSample body).host.withSidecar false
  have able : CanSeal host.crypto sampleConfig (swarmSample body).request.roomId
      (swarmSample body).request.consumerEphemeralPk := sampleSwarmKeys.canSeal [7]
  have dispatched := @SwarmExchange.dispatched_of_opened (swarmSample body) body rfl opened
  have called : callOutcome (swarmSample body).proxy.registry (swarmSample body).answers
      ((swarmSample body).call body) = some (.ok [.ok (utf8 "hi")]) := rfl
  have read : readText (okItems [.ok (utf8 "hi")]) = ['h', 'i'] := by decide
  have chunks : ((swarmSample body).dispatched false).2 = plannedChunks .transparent sampleConfig
      answersHi (swarmSample body).request reverseChunkBytes ['h', 'i'] := by
    rw [dispatched, ← read]
    have answer : (serveSwarmEncrypted host sampleProxy answersHi "Q" (swarmSample body).request
        body).2 = reverseChunks host sampleConfig answersHi (swarmSample body).request
          [.ok (utf8 "hi")] := serveSwarmEncrypted_chunks sampleProxy "Q" body called
    exact answer.trans (reverseChunks_eq able _)
  refine ⟨?_, ?_⟩
  · rw [Exchange.calls, dispatched]
    exact List.cons_ne_nil _ _
  · have whole := @wholeStream_hi (swarmSample body).request reverseChunkBytes (by decide) able
      (by decide) (by decide)
    rw [← chunks] at whole
    rw [Exchange.sent]
    have acked : ((swarmSample body).dispatched false).1.filterMap SwarmOutput.response =
        [(swarmSample body).ack] := by
      rw [dispatched]
      rfl
    rw [acked]
    exact whole

private theorem clusterSample_effects : clusterSample.effects false =
    .stream (.encryptedProxyResponse "1" [] [] aadVersion none (some true)) ::
      .forward ⟨"/api/chat", normalizeRemoteBody (sampleHost true false) sampleConfig
        (sampleBody "llama3"), requestedModel (sampleBody "llama3")⟩ ::
      (plannedChunks .transparent sampleConfig answersHi clusterSample.request streamChunkBytes
        ['h', 'i']).map .stream := by
  have arrives : encryptedArrival ((sampleHost true false).withSidecar false) sampleConfig
      clusterSample.channel clusterSample.msg =
        some (clusterSample.request, .ok (sampleBody "llama3")) := by
    rw [encryptedArrival_withSidecar]
    exact clusterSample.arrives
  have able : CanSeal .transparent sampleConfig clusterSample.request.roomId
      clusterSample.request.consumerEphemeralPk := sampleKeys.canSeal [7]
  have handled := @onMessage_encrypted (sampleManager true false) clusterSample.state "d"
    clusterSample.channel answersHi clusterSample.msg clusterSample.request
    (.ok (sampleBody "llama3")) arrives
  have admitted : clusterRefusal sampleProxy "c" "you" (requestedModel (sampleBody "llama3")) none =
      none := by decide
  have acked : canSend answersHi (.encryptedProxyResponse "1" [] [] aadVersion none (some true)) := by
    decide
  have read : readText (okItems [.ok (utf8 "hi")]) = ['h', 'i'] := by decide
  have sends : ∀ msg ∈ plannedChunks .transparent sampleConfig answersHi clusterSample.request
      streamChunkBytes (readText (okItems [.ok (utf8 "hi")])), canSend answersHi msg := by
    simp only [canSend, wireFits, StreamMessage.text_size]
    decide +kernel
  have streamed := @streamEncryptedAnswer_eq sampleConfig answersHi clusterSample.request
    (sampleHost true false) able [.ok (utf8 "hi")] sends
  rw [read] at streamed
  have called : callOutcome sampleRegistry answersHi ⟨"/api/chat", normalizeRemoteBody
      (sampleHost true false) sampleConfig (sampleBody "llama3"),
      requestedModel (sampleBody "llama3")⟩ = some (.ok [.ok (utf8 "hi")]) := rfl
  have served := @serveEncrypted_eq answersHi clusterSample.request (sampleHost true false)
    sampleProxy (sampleBody "llama3") (.ok [.ok (utf8 "hi")]) acked called
  have dispatched : (dispatchRecovered (sampleHost true false) sampleProxy answersHi "c" "you"
      (fun _ => none) clusterSample.request (.ok (sampleBody "llama3"))).2 =
        serveEncrypted (sampleHost true false) sampleProxy answersHi clusterSample.request
          (sampleBody "llama3") := by
    simp only [dispatchRecovered, dispatchClusterEncryptedProxyBody, verifyEncryptedRequestAuth,
      clusterSample, sampleHost, Bool.false_eq_true, if_false, admitted]
  exact handled.trans (dispatched.trans (served.trans (congrArg (_ :: _ :: ·) streamed)))

private theorem clusterSample_answered : (Exchange.cluster clusterSample).AnsweredInProcess := by
  have able : CanSeal .transparent sampleConfig clusterSample.request.roomId
      clusterSample.request.consumerEphemeralPk := sampleKeys.canSeal [7]
  have whole := @wholeStream_hi clusterSample.request streamChunkBytes (by decide) able
    (by decide) (by decide)
  refine ⟨?_, ?_⟩
  · rw [Exchange.calls, clusterSample_effects]
    exact List.cons_ne_nil _ _
  · have sent : (Exchange.cluster clusterSample).sent false =
        .encryptedProxyResponse "1" [] [] aadVersion none (some true) ::
          plannedChunks .transparent sampleConfig answersHi clusterSample.request streamChunkBytes
            ['h', 'i'] := by
      have streamed (msgs : List StreamMessage) :
          (msgs.map ChannelEffect.stream).filterMap ChannelEffect.sent = msgs := by
        rw [List.filterMap_map]
        exact List.filterMap_some
      rw [Exchange.sent, clusterSample_effects]
      exact congrArg (_ :: ·) (streamed _)
    rw [sent]
    exact whole

/-- A body that only names a model is posted as it is. -/
theorem sidecar_serves_alike_sample :
    (Exchange.swarm (swarmSample (sampleBody "llama3"))).ServedAlike := by
  have valid : (sampleBody "llama3").Valid := ⟨by decide, trivial, trivial⟩
  refine (sidecar_serves_alike_iff (.swarm (swarmSample (sampleBody "llama3")))
    (swarmSample_answered valid (by decide))).mpr ⟨rfl, fun body opened => ?_, ?_, ?_⟩
  · obtain rfl := Except.ok.inj (opened.symm.trans
      (sealedBody_opened (by decide) valid (by decide)))
    rfl
  · rw [StreamMessage.text_size]
    decide +kernel
  · decide +kernel

/-- A cluster's request, which the sidecar cannot decrypt, and a swarm's request for a
stream, which it posts as it is. -/
theorem sidecar_serves_otherwise :
    ((Exchange.cluster clusterSample).AnsweredInProcess ∧
      ¬ (Exchange.cluster clusterSample).ServedAlike) ∧
    ((Exchange.swarm (swarmSample streamingBody)).AnsweredInProcess ∧
      ¬ (Exchange.swarm (swarmSample streamingBody)).ServedAlike) := by
  have valid : streamingBody.Valid := ⟨by decide, trivial, trivial, trivial⟩
  have answered := swarmSample_answered valid (by decide)
  refine ⟨⟨clusterSample_answered, fun alike => ?_⟩, answered, fun alike => ?_⟩
  · exact clusterSample_answered.1 (alike.1.symm.trans (cluster_sidecar_calls _))
  · obtain ⟨body, items, stream, done⟩ := SwarmExchange.inProcess answered
    obtain ⟨-, normal, -, -⟩ := done.servedAlike_iff.mp alike
    have opened := @sealedBody_opened "74" "p2p_1" streamingBody (by decide) valid (by decide)
    have added := congrArg (fun body => (body.get "stream_options").isSome)
      (normal streamingBody opened)
    exact absurd added (by decide)

end MtrxPeer
