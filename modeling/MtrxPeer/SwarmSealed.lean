import MtrxPeer.Sealed
import MtrxPeer.SwarmServed

/-! What a swarm's connections let through in end-to-end mode. Every handler
keeps the tables sealed: requests that wait or were sent are encrypted ones, the
chunks kept have arrived, and a line being read was decrypted. -/
namespace MtrxPeer

open Function (update update_of_ne update_self)

/-! ## Decrypted lines -/

theorem cutLines_within {text line : List Char} (member : line ∈ (cutLines text).1) :
    line <:+: text := by
  obtain ⟨front, back, split_⟩ := List.append_of_mem member
  refine ⟨front.flatten, back.flatten ++ (cutLines text).2, ?_⟩
  have whole := cutLines_flatten text
  rw [split_] at whole
  simpa [List.append_assoc] using whole

theorem cutLines_suffix (text : List Char) : (cutLines text).2 <:+ text :=
  ⟨(cutLines text).1.flatten, cutLines_flatten text⟩

theorem stripLine_beginning (line : List Char) : stripLine line <+: line := by
  unfold stripLine
  split
  · rename_i rest reversed
    rw [← List.reverse_reverse line, reversed]
    simp
  · rename_i rest reversed
    rw [← List.reverse_reverse line, reversed]
    simp
  · exact List.prefix_refl _

theorem lines_infix {text line : String} (member : line ∈ lines text) :
    line.toList <:+: text.toList := by
  simp only [lines, List.mem_map, List.mem_append] at member
  obtain ⟨chars, among, rfl⟩ := member
  rw [String.toList_ofList]
  rcases among with ⟨whole, complete, rfl⟩ | tail
  · exact (stripLine_beginning whole).isInfix.trans (cutLines_within complete)
  · split at tail
    · simp at tail
    · obtain rfl := List.mem_singleton.mp tail
      exact (cutLines_suffix _).isInfix

/-- A text that is a stretch of others put together, perhaps with a newline. -/
def CutFrom (parts : List String) (text : String) : Prop :=
  ∃ stretch, stretch <:+: parts.flatMap String.toList ∧
    (text.toList = stretch ∨ text.toList = stretch ++ ['\n'])

theorem responseLines_cut {body line : String} (member : line ∈ responseLines body) :
    CutFrom [body] line := by
  unfold responseLines at member
  split at member
  · obtain rfl := List.mem_singleton.mp member
    exact ⟨line.toList, by simp, .inl rfl⟩
  · obtain ⟨cut, among, rfl⟩ := List.mem_map.mp member
    have within := lines_infix (List.mem_of_mem_filter among)
    exact ⟨cut.toList, by simpa using within, .inr (by simp)⟩

/-! ## Sealed tables -/

section Tables

variable {host : Host} {Seen : StreamMessage → Prop} {s : SwarmState}

/-- Each text opens from an encrypted answer that was seen. -/
def PartsOpened (host : Host) (Seen : StreamMessage → Prop) (reqId : String) (parts : List String) :
    Prop :=
  ∀ part ∈ parts, ∃ msg, Seen msg ∧ msg.OpensTo host reqId part

/-- A text for a caller is cut from what opened for its request. -/
def Recovered (host : Host) (Seen : StreamMessage → Prop) (reqId text : String) : Prop :=
  ∃ parts, PartsOpened host Seen reqId parts ∧ CutFrom parts text

/-- A chunk of a request's stream was seen. -/
def ChunkSeen (Seen : StreamMessage → Prop) (reqId : String) (chunk : EncryptedStreamChunkData) :
    Prop :=
  ∃ version, Seen
    (.encryptedProxyStreamChunk reqId chunk.seq chunk.nonce chunk.ciphertext version chunk.done)

/-- The chunks of a stream were seen, and its line so far ends what opened. -/
structure StreamSealed (host : Host) (Seen : StreamMessage → Prop) (reqId : String)
    (ctx : PendingEncryptedStreamCtx) : Prop where
  chunks : ∀ chunk ∈ ctx.reorder, ChunkSeen Seen reqId chunk
  line : ∃ parts, PartsOpened host Seen reqId parts ∧
    ctx.lineBuf.toList <:+ parts.flatMap String.toList

/-- The tables of a swarm manager hold nothing that is not encrypted. -/
structure SealedTables (host : Host) (Seen : StreamMessage → Prop) (s : SwarmState) : Prop where
  queued : ∀ pending ∈ s.pendingOutboundProxies, pending.useE2ee = true
  sent : ∀ id pending, s.pendingProxyByOutboundId id = some pending → pending.useE2ee = true
  reverse : ∀ peer, ∀ msg ∈ s.pendingReverseProxies peer, msg.carriesBody = false
  early : ∀ reqId, ∀ chunk ∈ s.pendingEncryptedStreamEarly reqId, ChunkSeen Seen reqId chunk
  streams : ∀ reqId ctx, s.pendingEncryptedStreams reqId = some ctx →
    StreamSealed host Seen reqId ctx

/-- Only decrypted texts are handed over, and no body goes out as it is. -/
def SealedOutput (host : Host) (Seen : StreamMessage → Prop) : SwarmOutput → Prop
  | .deliver reqId (.ok text) => Recovered host Seen reqId text
  | .send _ msg | .respond _ msg => msg.carriesBody = false
  | _ => True

def SealedOutputs (host : Host) (Seen : StreamMessage → Prop) (outputs : List SwarmOutput) : Prop :=
  ∀ o ∈ outputs, SealedOutput host Seen o

def SealedStep (host : Host) (Seen : StreamMessage → Prop)
    (result : SwarmState × List SwarmOutput) : Prop :=
  SealedTables host Seen result.1 ∧ SealedOutputs host Seen result.2

@[simp] theorem sealedOutputs_nil : SealedOutputs host Seen [] := by
  intro o member
  cases member

theorem SealedOutputs.append {a b : List SwarmOutput} (left : SealedOutputs host Seen a)
    (right : SealedOutputs host Seen b) : SealedOutputs host Seen (a ++ b) := by
  intro o member
  rcases List.mem_append.mp member with early | late
  · exact left o early
  · exact right o late

theorem sealed_respond {answers : Answers} {peer : PeerId} {msg : StreamMessage}
    (bare : msg.carriesBody = false) : SealedOutputs host Seen (respond answers peer msg) := by
  intro o member
  unfold respond at member
  split at member
  · obtain rfl := List.mem_singleton.mp member
    exact bare
  · cases member

theorem sealed_deliverLocal {reqId : String} {item : Except String String}
    (recovered : s.pendingProxyByReqId reqId = true → ∀ text, item = .ok text →
      Recovered host Seen reqId text) : SealedOutputs host Seen (deliverLocal s reqId item) := by
  intro o member
  unfold deliverLocal at member
  split at member
  · rename_i waits
    obtain rfl := List.mem_singleton.mp member
    cases item with
    | ok text => exact recovered waits text rfl
    | error error => trivial
  · cases member

theorem sealed_sendAll {peer : PeerId} {msgs : List StreamMessage}
    (bare : ∀ msg ∈ msgs, msg.carriesBody = false) :
    SealedOutputs host Seen (msgs.map (.send peer)) := by
  intro o member
  obtain ⟨msg, among, rfl⟩ := List.mem_map.mp member
  exact bare msg among

namespace SealedTables

variable (kept : SealedTables host Seen s)

include kept

/-- What was seen stays seen. -/
theorem mono {Later : StreamMessage → Prop} (later : ∀ msg, Seen msg → Later msg) :
    SealedTables host Later s where
  queued := kept.queued
  sent := kept.sent
  reverse := kept.reverse
  early := by
    intro reqId chunk member
    obtain ⟨version, seen⟩ := kept.early reqId chunk member
    exact ⟨version, later _ seen⟩
  streams := by
    intro reqId ctx stored
    obtain ⟨chunks, parts, opened, line⟩ := kept.streams reqId ctx stored
    refine ⟨?_, parts, ?_, line⟩
    · intro chunk member
      obtain ⟨version, seen⟩ := chunks chunk member
      exact ⟨version, later _ seen⟩
    · intro part member
      obtain ⟨msg, seen, opens⟩ := opened part member
      exact ⟨msg, later msg seen, opens⟩

/-- Changes of anything but the sealed tables. -/
theorem frame {s' : SwarmState} (queue : s'.pendingOutboundProxies = s.pendingOutboundProxies)
    (sent : s'.pendingProxyByOutboundId = s.pendingProxyByOutboundId)
    (reverse : s'.pendingReverseProxies = s.pendingReverseProxies)
    (early : s'.pendingEncryptedStreamEarly = s.pendingEncryptedStreamEarly)
    (streams : s'.pendingEncryptedStreams = s.pendingEncryptedStreams) :
    SealedTables host Seen s' :=
  ⟨queue ▸ kept.queued, sent ▸ kept.sent, reverse ▸ kept.reverse, early ▸ kept.early,
    streams ▸ kept.streams⟩

theorem bindPeer (mtrxai : String) (peer : PeerId) : SealedTables host Seen (s.bindPeer mtrxai peer) :=
  kept.frame rfl rfl rfl rfl rfl

theorem dialCached (m : SwarmManager) (mtrxai : String) :
    SealedTables host Seen (MtrxPeer.dialCached m s mtrxai) := by
  unfold MtrxPeer.dialCached
  split
  · exact kept
  · exact kept.bindPeer _ _

theorem resolve (m : SwarmManager) (mtrxai : String) :
    SealedTables host Seen (resolveLibp2pPeer m s mtrxai) := by
  unfold resolveLibp2pPeer
  split
  · exact kept
  · exact kept.bindPeer _ _

theorem dropCaller (reqId : String) : SealedTables host Seen (s.dropCaller reqId) :=
  kept.frame rfl rfl rfl rfl rfl

theorem enqueue {pending : PendingOutboundProxy} (e2ee : pending.useE2ee = true) :
    SealedTables host Seen (s.enqueue pending) where
  queued := by
    intro other member
    rcases List.mem_append.mp member with older | new
    · exact kept.queued other older
    · obtain rfl := List.mem_singleton.mp new
      exact e2ee
  sent := kept.sent
  reverse := kept.reverse
  early := kept.early
  streams := kept.streams

/-- Entering a request among those sent, or taking one out. -/
theorem sentEntry (id : OutboundRequestId) {entry : Option PendingOutboundProxy}
    (e2ee : ∀ pending, entry = some pending → pending.useE2ee = true) :
    SealedTables host Seen { s with
      pendingProxyByOutboundId := update s.pendingProxyByOutboundId id entry } where
  queued := kept.queued
  sent := by
    intro probe pending stored
    dsimp only at stored
    by_cases same : probe = id
    · subst same
      rw [update_self] at stored
      exact e2ee pending stored
    · rw [update_of_ne same] at stored
      exact kept.sent probe pending stored
  reverse := kept.reverse
  early := kept.early
  streams := kept.streams

theorem dropSent (id : OutboundRequestId) : SealedTables host Seen (s.dropSent id) :=
  kept.sentEntry id (by
    intro pending same
    cases same)

/-- New reverse chunks for a peer. -/
theorem reverseEntry (peer : PeerId) {msgs : List StreamMessage}
    (bare : ∀ msg ∈ msgs, msg.carriesBody = false) :
    SealedTables host Seen { s with
      pendingReverseProxies := update s.pendingReverseProxies peer msgs } where
  queued := kept.queued
  sent := kept.sent
  reverse := by
    intro probe msg member
    dsimp only at member
    by_cases same : probe = peer
    · subst same
      rw [update_self] at member
      exact bare msg member
    · rw [update_of_ne same] at member
      exact kept.reverse probe msg member
  early := kept.early
  streams := kept.streams

theorem dropReverse (peer : PeerId) : SealedTables host Seen (s.dropReverse peer) :=
  kept.reverseEntry peer (by simp)

/-- New early chunks of a request. -/
theorem earlyEntry (reqId : String) {chunks : List EncryptedStreamChunkData}
    (seen : ∀ chunk ∈ chunks, ChunkSeen Seen reqId chunk) :
    SealedTables host Seen { s with
      pendingEncryptedStreamEarly := update s.pendingEncryptedStreamEarly reqId chunks } where
  queued := kept.queued
  sent := kept.sent
  reverse := kept.reverse
  early := by
    intro probe chunk member
    dsimp only at member
    by_cases same : probe = reqId
    · subst same
      rw [update_self] at member
      exact seen chunk member
    · rw [update_of_ne same] at member
      exact kept.early probe chunk member
  streams := kept.streams

/-- A new stream of a request, or none. -/
theorem streamEntry (reqId : String) {entry : Option PendingEncryptedStreamCtx}
    (sealed_ : ∀ ctx, entry = some ctx → StreamSealed host Seen reqId ctx) :
    SealedTables host Seen { s with
      pendingEncryptedStreams := update s.pendingEncryptedStreams reqId entry } where
  queued := kept.queued
  sent := kept.sent
  reverse := kept.reverse
  early := kept.early
  streams := by
    intro probe ctx stored
    dsimp only at stored
    by_cases same : probe = reqId
    · subst same
      rw [update_self] at stored
      exact sealed_ ctx stored
    · rw [update_of_ne same] at stored
      exact kept.streams probe ctx stored

theorem dropStreams (reqId : String) : SealedTables host Seen (s.dropStreams reqId) :=
  (kept.streamEntry reqId (by
    intro ctx same
    cases same)).earlyEntry reqId (by simp)

theorem registerCaller : SealedTables host Seen s.registerCaller := by
  refine dropStreams ?_ _
  exact kept.frame rfl rfl rfl rfl rfl

theorem fail (reqId error : String) : SealedStep host Seen (failProxyRequest s reqId error) :=
  ⟨kept.dropCaller reqId, sealed_deliverLocal (by
    intro waits text same
    cases same)⟩

end SealedTables

theorem sealedTables_initial (proxy : ProxyState) (nextReqId : Nat) :
    SealedTables host Seen (.initial proxy nextReqId) where
  queued := by
    intro pending member
    cases member
  sent := by
    intro id pending stored
    cases stored
  reverse := by
    intro peer msg member
    cases member
  early := by
    intro reqId chunk member
    cases member
  streams := by
    intro reqId ctx stored
    cases stored

end Tables

/-! ## Streams and answers -/

section Handlers

variable {m : SwarmManager} {Seen : StreamMessage → Prop} {s : SwarmState} {peer : PeerId}
  {answers : Answers}

/-- What is taken of a stream's next part: complete lines, and a line that still
ends what opened. -/
private theorem takeLines_sealed {reqId : String} {ctx : PendingEncryptedStreamCtx}
    {chunk : EncryptedStreamChunkData} {part : String} {config : ClientConfig}
    (sealed_ : StreamSealed m.host Seen reqId ctx) (among : chunk ∈ ctx.reorder)
    (opened : decryptProxyChunk m.host config reqId ctx.path chunk.seq ctx.roomId
      ctx.consumerEphemeralSecret ctx.providerStaticPublic chunk.nonce chunk.ciphertext = .ok part) :
    ∃ parts, PartsOpened m.host Seen reqId parts ∧
      (∀ line ∈ (takeLines (ctx.lineBuf ++ part)).1, line.toList <:+: parts.flatMap String.toList) ∧
      (takeLines (ctx.lineBuf ++ part)).2.toList <:+ parts.flatMap String.toList := by
  obtain ⟨parts, all, line⟩ := sealed_.line
  obtain ⟨version, seen⟩ := sealed_.chunks chunk among
  have ends : (ctx.lineBuf ++ part).toList <:+ (parts ++ [part]).flatMap String.toList := by
    obtain ⟨front, whole⟩ := line
    refine ⟨front, ?_⟩
    simp [← whole]
  refine ⟨parts ++ [part], ?_, ?_, ?_⟩
  · intro other member
    rcases List.mem_append.mp member with older | new
    · exact all other older
    · obtain rfl := List.mem_singleton.mp new
      exact ⟨_, seen, .chunk opened⟩
  · intro cut member
    obtain ⟨chars, complete, rfl⟩ := List.mem_map.mp member
    rw [String.toList_ofList]
    exact (cutLines_within complete).trans ends.isInfix
  · simp only [takeLines, String.toList_ofList]
    exact (cutLines_suffix _).trans ends

private theorem drainEncryptedStreamChunks_sealed {reqId : String} {ctx : PendingEncryptedStreamCtx}
    (config : ClientConfig) (fuel : Nat) (sealed_ : StreamSealed m.host Seen reqId ctx) :
    (∀ part ∈ (drainEncryptedStreamChunks m.host config reqId fuel ctx).1,
        Recovered m.host Seen reqId part) ∧
      ∀ left, (drainEncryptedStreamChunks m.host config reqId fuel ctx).2 = .waiting left →
        StreamSealed m.host Seen reqId left := by
  induction fuel generalizing ctx with
  | zero =>
    refine ⟨by simp [drainEncryptedStreamChunks], ?_⟩
    rintro left ⟨⟩
    exact sealed_
  | succ fuel ih =>
    unfold drainEncryptedStreamChunks
    split
    · refine ⟨by simp, ?_⟩
      rintro left ⟨⟩
      exact sealed_
    · rename_i chunk found
      have among := List.mem_of_find?_eq_some found
      split
      · refine ⟨by simp, ?_⟩
        rintro left ⟨⟩
      · rename_i part opened
        obtain ⟨parts, all, complete, ends⟩ := takeLines_sealed sealed_ among opened
        dsimp only
        have cut : ∀ line ∈ (takeLines (ctx.lineBuf ++ part)).1.filter fun line => !isBlank line,
            Recovered m.host Seen reqId line := by
          intro line member
          exact ⟨parts, all, line.toList, complete line (List.mem_of_mem_filter member), .inl rfl⟩
        split
        · refine ⟨?_, fun left same => nomatch same⟩
          intro line member
          rcases List.mem_append.mp member with early | last
          · exact cut line early
          · unfold streamTail at last
            split at last
            · cases last
            · obtain rfl := List.mem_singleton.mp last
              refine ⟨parts, all, (takeLines (ctx.lineBuf ++ part)).2.toList, ends.isInfix, ?_⟩
              split
              · exact .inl rfl
              · exact .inr (by simp)
        · have next : StreamSealed m.host Seen reqId { ctx with
              lineBuf := (takeLines (ctx.lineBuf ++ part)).2
              nextSeq := chunk.seq + 1
              reorder := ctx.reorder.filter fun other => other.seq ≠ ctx.nextSeq } :=
            ⟨fun other left => sealed_.chunks other (List.mem_of_mem_filter left), parts, all, ends⟩
          obtain ⟨later, waits⟩ := ih next
          refine ⟨?_, waits⟩
          intro line member
          rcases List.mem_append.mp member with early | late
          · exact cut line early
          · exact later line late

theorem drainStream_sealed {reqId : String} {ctx : PendingEncryptedStreamCtx}
    (kept : SealedTables m.host Seen s) (sealed_ : StreamSealed m.host Seen reqId ctx) :
    SealedStep m.host Seen (drainStream m s reqId ctx) := by
  obtain ⟨parts, waits⟩ :=
    drainEncryptedStreamChunks_sealed s.proxy.config ctx.reorder.length sealed_
  have delivered : SealedOutputs m.host Seen ((drainEncryptedStreamChunks m.host s.proxy.config reqId
      ctx.reorder.length ctx).1.map fun part => SwarmOutput.deliver reqId (.ok part)) := by
    intro o member
    obtain ⟨part, among, rfl⟩ := List.mem_map.mp member
    exact parts part among
  unfold drainStream
  dsimp only
  split
  · rename_i left drained
    refine ⟨kept.streamEntry reqId ?_, delivered⟩
    rintro ctx ⟨⟩
    exact waits left drained
  · exact ⟨(kept.dropCaller reqId).dropStreams reqId, delivered⟩
  · refine ⟨(kept.dropCaller reqId).dropStreams reqId, delivered.append ?_⟩
    intro o member
    obtain rfl := List.mem_singleton.mp member
    trivial

private theorem mergeChunks_seen {reqId : String} {chunks : List EncryptedStreamChunkData}
    {chunk : EncryptedStreamChunkData} (older : ∀ chunk ∈ chunks, ChunkSeen Seen reqId chunk)
    (new : ChunkSeen Seen reqId chunk) :
    ∀ other ∈ mergeChunks chunks [chunk], ChunkSeen Seen reqId other := by
  intro other member
  rcases List.mem_append.mp member with first | later
  · obtain rfl := List.mem_singleton.mp first
    exact new
  · exact older other (List.mem_of_mem_filter later)

theorem onEncryptedStreamChunk_sealed {reqId : String} {chunk : EncryptedStreamChunkData}
    (kept : SealedTables m.host Seen s) (new : ChunkSeen Seen reqId chunk) :
    SealedStep m.host Seen (onEncryptedStreamChunk m s reqId chunk) := by
  unfold onEncryptedStreamChunk
  split
  · split
    · rename_i ctx stored
      obtain ⟨chunks, line⟩ := kept.streams reqId ctx stored
      exact drainStream_sealed kept ⟨mergeChunks_seen chunks new, line⟩
    · exact ⟨kept.earlyEntry reqId (mergeChunks_seen (kept.early reqId) new), sealedOutputs_nil⟩
  · exact ⟨kept, sealedOutputs_nil⟩

private theorem onStreamAck_sealed {reqId : String} {pending : PendingOutboundProxy}
    (kept : SealedTables m.host Seen s) : SealedStep m.host Seen (onStreamAck m s reqId pending) := by
  unfold onStreamAck
  split
  · exact kept.fail reqId _
  · rename_i roomId secret providerPk keys
    have fresh : StreamSealed m.host Seen reqId ⟨pending.path, roomId, secret, providerPk, "", 0,
        s.pendingEncryptedStreamEarly reqId⟩ :=
      ⟨kept.early reqId, [], by simp [PartsOpened], by simp⟩
    have taken : SealedTables m.host Seen { s with
        pendingEncryptedStreamEarly := update s.pendingEncryptedStreamEarly reqId [] } :=
      kept.earlyEntry reqId (by simp)
    dsimp only
    split
    · exact drainStream_sealed taken fresh
    · refine ⟨taken.streamEntry reqId ?_, sealedOutputs_nil⟩
      rintro ctx ⟨⟩
      exact fresh

/-- The lines of a text that opened are handed over. -/
private theorem responseLines_sealed {reqId body : String} {t : SwarmState}
    (opened : PartsOpened m.host Seen reqId [body]) :
    SealedOutputs m.host Seen ((responseLines body).flatMap fun line =>
      deliverLocal t reqId (.ok line)) := by
  intro o member
  obtain ⟨line, among, made⟩ := List.mem_flatMap.mp member
  refine sealed_deliverLocal ?_ o made
  rintro waits text ⟨⟩
  exact ⟨[body], opened, responseLines_cut among⟩

private theorem onEncryptedResponse_sealed {reqId : String} {version : Nat} {stream : Option Bool}
    {pending : Option PendingOutboundProxy} {payload : EncryptedPayload}
    (kept : SealedTables m.host Seen s)
    (seen : Seen (.encryptedProxyResponse reqId payload.nonce payload.ciphertext version none stream)) :
    SealedStep m.host Seen (onEncryptedResponse m s reqId pending payload) := by
  unfold onEncryptedResponse
  dsimp only
  split
  · exact kept.fail reqId _
  · rename_i body ran
    refine ⟨kept.dropCaller reqId, responseLines_sealed ?_⟩
    intro part member
    obtain rfl := List.mem_singleton.mp member
    cases pending with
    | none => cases ran
    | some pending =>
      simp only [bind, Except.bind] at ran
      split at ran
      · cases ran
      · exact ⟨_, seen, .response ran⟩

/-- A response keeps the tables sealed, unless it is a plaintext one. -/
theorem onSwarmResponse_sealed {id : OutboundRequestId} {msg : StreamMessage}
    (kept : SealedTables m.host Seen s) (seen : Seen msg)
    (encrypted : ∀ reqId body, msg = .proxyResponse reqId body none →
      s.pendingProxyByReqId reqId = false) :
    SealedStep m.host Seen (onSwarmResponse m s peer id msg) := by
  unfold onSwarmResponse
  dsimp only
  split
  · exact ⟨kept, sealedOutputs_nil⟩
  · split
    · rename_i reqId body error
      refine ⟨(kept.dropSent id).dropCaller reqId, ?_⟩
      split
      · exact sealed_deliverLocal (by
          intro waits text same
          cases same)
      · have silent := encrypted reqId body rfl
        intro o member
        obtain ⟨line, -, made⟩ := List.mem_flatMap.mp member
        simp [deliverLocal, SwarmState.dropSent, silent] at made
    · rename_i reqId nonce ciphertext version error stream
      split
      · exact (kept.dropSent id).fail reqId _
      · split
        · split
          · exact ⟨kept.dropSent id, sealedOutputs_nil⟩
          · exact onStreamAck_sealed (kept.dropSent id)
        · exact onEncryptedResponse_sealed (kept.dropSent id) seen
    · exact ⟨kept, sealedOutputs_nil⟩

/-! ## Local requests -/

private theorem outboundMessage_sealed {config : ClientConfig} {catalogPk : Option String}
    {draw : Draw} {pending kept : PendingOutboundProxy} {msg : StreamMessage}
    (e2ee : pending.useE2ee = true)
    (made : outboundMessage m config catalogPk draw pending = .ok (msg, kept)) :
    msg.carriesBody = false ∧ kept.useE2ee = true := by
  unfold outboundMessage at made
  rw [if_pos e2ee] at made
  split at made
  · cases made
  · split at made
    · cases made
    · split at made
      · cases made
      · rename_i sealed_ secret ran
        obtain ⟨rfl, rfl⟩ := Prod.mk.inj (Except.ok.inj made)
        refine ⟨?_, e2ee⟩
        unfold encryptProxyRequest at ran
        split at ran
        · cases ran
        · obtain ⟨rfl, -⟩ := Prod.mk.inj (Except.ok.inj ran)
          rfl

theorem sendOutboundProxy_sealed {pending : PendingOutboundProxy} {sending : Sending}
    (kept : SealedTables m.host Seen s) (e2ee : pending.useE2ee = true) :
    SealedStep m.host Seen (sendOutboundProxy m s pending sending) := by
  have resolved := kept.resolve m pending.targetMtrxaiPeer
  unfold sendOutboundProxy
  dsimp only
  split
  · exact ⟨resolved.enqueue e2ee, sealedOutputs_nil⟩
  · have forgotten : ∀ other, SealedTables m.host Seen
        (forgetStreams (resolveLibp2pPeer m s pending.targetMtrxaiPeer) other) := by
      intro other
      unfold forgetStreams
      split
      · exact resolved.dropStreams _
      · exact resolved
    split
    · exact (forgotten _).fail _ _
    · rename_i msg noted made
      obtain ⟨bare, still⟩ := outboundMessage_sealed (by exact e2ee) made
      refine ⟨(forgotten _).sentEntry _ ?_, ?_⟩
      · rintro other ⟨⟩
        exact still
      · intro o member
        obtain rfl := List.mem_singleton.mp member
        exact bare

/-- A command that names a room keeps the tables sealed. -/
theorem onProxyCommand_sealed {cmd : ProxyRequestCommand} {ranked : List String} {sending : Sending}
    (kept : SealedTables m.host Seen s) (enabled : m.host.e2eeEnabled = true)
    (room : (roomIdForProxy m.host.crypto s.proxy.config cmd.clusterId cmd.swarmId).isSome = true) :
    SealedStep m.host Seen (onProxyCommand m s cmd ranked sending) := by
  have rejected : ∀ error, SealedOutputs m.host Seen [.reject error] := by
    intro error o member
    obtain rfl := List.mem_singleton.mp member
    trivial
  unfold onProxyCommand
  split
  · exact ⟨kept, rejected _⟩
  · rename_i target chosen
    have located : SealedTables m.host Seen (locateProvider m s target) := by
      unfold locateProvider
      dsimp only
      split
      · exact kept.bindPeer _ _
      · exact (kept.bindPeer _ _).dialCached m target
    have registered := located.registerCaller
    have e2ee : (commandRequest m s cmd target).useE2ee = true := by
      simp [commandRequest, enabled, room]
    dsimp only
    split
    · exact ⟨located, rejected _⟩
    · unfold submitRequest
      split
      · exact sendOutboundProxy_sealed registered e2ee
      · split
        · exact registered.fail _ _
        · exact ⟨(registered.dialCached m _).enqueue e2ee, sealedOutputs_nil⟩

theorem onOutboundFailure_sealed {id : OutboundRequestId} {retryable : Bool} {error : String}
    {sending : Sending} (kept : SealedTables m.host Seen s) :
    SealedStep m.host Seen (onOutboundFailure m s id retryable error sending) := by
  unfold onOutboundFailure
  split
  · exact ⟨kept, sealedOutputs_nil⟩
  · rename_i pending stored
    have e2ee := kept.sent id pending stored
    dsimp only
    split
    · split
      · exact sendOutboundProxy_sealed (kept.dropSent id) e2ee
      · exact ⟨(kept.dropSent id).enqueue e2ee, sealedOutputs_nil⟩
    · exact (kept.dropSent id).fail _ _

theorem flushPendingProxies_sealed {sendings : String → Sending} {queue : List PendingOutboundProxy}
    (kept : SealedTables m.host Seen s) (e2ee : ∀ pending ∈ queue, pending.useE2ee = true) :
    SealedStep m.host Seen (flushPendingProxies m s peer sendings queue) := by
  induction queue generalizing s with
  | nil => exact ⟨kept, sealedOutputs_nil⟩
  | cons pending rest ih =>
    have first := e2ee pending List.mem_cons_self
    have others := fun other member => e2ee other (List.mem_cons_of_mem pending member)
    have resolved := kept.resolve m pending.targetMtrxaiPeer
    simp only [flushPendingProxies]
    split
    · obtain ⟨tables, outputs⟩ := sendOutboundProxy_sealed resolved (by exact first)
      obtain ⟨later, sent⟩ := ih tables others
      exact ⟨later, outputs.append sent⟩
    · have requeued : SealedTables m.host Seen
          ((resolveLibp2pPeer m s pending.targetMtrxaiPeer).enqueue { pending with
            libp2pPeer := resolvedPeer m s pending.targetMtrxaiPeer }) := resolved.enqueue first
      obtain ⟨later, sent⟩ := ih requeued others
      exact ⟨later, sealedOutputs_nil.append sent⟩

/-! ## Requests of peers -/

private theorem bare_of_chunk {msg : StreamMessage} (chunk : msg.IsStreamChunk) :
    msg.carriesBody = false := by
  cases msg with
  | encryptedProxyStreamChunk => rfl
  | _ => exact absurd chunk id

private theorem forwardRequest_bare {host : Host} {config : ClientConfig} {registry : Registry}
    {reqId path roomId : String} {pk nonce ciphertext : Bytes} {version : Nat}
    {auth : Option ProxyAuthProof} {calls : List BackendCall} {msg : StreamMessage}
    (ran : forwardRequest host config registry answers reqId path roomId pk nonce ciphertext version
      auth = (calls, .ok msg)) : msg.carriesBody = false := by
  unfold forwardRequest at ran
  split at ran
  · cases ran
  · split at ran
    · rename_i response handled
      obtain ⟨-, same⟩ := Prod.mk.inj ran
      obtain ⟨-, rfl⟩ := readFrame_eq_ok.mp same
      unfold handleSidecarMessage at handled
      split at handled
      · obtain ⟨-, same⟩ := Prod.mk.inj handled
        obtain rfl := Option.some.inj same
        rfl
      · split at handled
        · obtain ⟨-, same⟩ := Prod.mk.inj handled
          obtain rfl := Option.some.inj same
          rfl
        · dsimp only at handled
          split at handled
          · cases handled
          · obtain ⟨-, same⟩ := Prod.mk.inj handled
            obtain rfl := Option.some.inj same
            rfl
          · split at handled
            · obtain ⟨-, same⟩ := Prod.mk.inj handled
              obtain rfl := Option.some.inj same
              rfl
            · obtain ⟨-, same⟩ := Prod.mk.inj handled
              obtain rfl := Option.some.inj same
              rfl
    · cases ran

private theorem sealed_forwards (calls : List BackendCall) :
    SealedOutputs m.host Seen (calls.map .forward) := by
  intro o member
  obtain ⟨call, -, rfl⟩ := List.mem_map.mp member
  trivial

/-- An encrypted request is answered with messages of the encrypted family. -/
theorem dispatchSwarmEncryptedProxyRequest_sealed {proxy : ProxyState} {consumer : String}
    {request : EncryptedRequest} {nonce ciphertext : Bytes} :
    SealedOutputs m.host Seen (dispatchSwarmEncryptedProxyRequest m.host proxy answers consumer peer
        request nonce ciphertext).1 ∧
      ∀ msg ∈ (dispatchSwarmEncryptedProxyRequest m.host proxy answers consumer peer request nonce
        ciphertext).2, msg.carriesBody = false := by
  refine ⟨?_, fun msg member => bare_of_chunk (dispatchSwarmEncryptedProxyRequest_chunks msg member)⟩
  unfold dispatchSwarmEncryptedProxyRequest
  dsimp only
  split
  · unfold relayToSidecar
    split
    · rename_i calls response ran
      exact (sealed_forwards calls).append (sealed_respond (forwardRequest_bare ran))
    · rename_i calls error ran
      exact (sealed_forwards calls).append (sealed_respond rfl)
  · split
    · exact sealed_respond rfl
    · split
      · exact sealed_respond rfl
      · exact (sealed_respond rfl).append (sealed_forwards [_])

/-- A plaintext request is answered with a text. -/
theorem dispatchSwarmProxyRequest_sealed {proxy : ProxyState} {consumer reqId path : String}
    {body : Json} : SealedOutputs m.host Seen (dispatchSwarmProxyRequest m.host proxy answers m.swarmId
      consumer peer reqId path body) := by
  unfold dispatchSwarmProxyRequest
  split
  · exact sealed_respond rfl
  · unfold serveSwarm
    dsimp only
    refine (sealed_forwards [_]).append ?_
    split
    · exact sealedOutputs_nil
    · exact sealed_respond rfl
    · exact sealed_respond rfl

theorem sendReverse_sealed {msgs : List StreamMessage} (kept : SealedTables m.host Seen s)
    (bare : ∀ msg ∈ msgs, msg.carriesBody = false) :
    SealedStep m.host Seen (sendReverse m s peer msgs) := by
  unfold sendReverse
  split
  · exact ⟨kept, sealed_sendAll bare⟩
  · split
    · exact ⟨kept, sealedOutputs_nil⟩
    · have entered {t : SwarmState} (kept : SealedTables m.host Seen t) :
          ∀ msg ∈ t.pendingReverseProxies peer ++ msgs, msg.carriesBody = false := by
        intro msg member
        rcases List.mem_append.mp member with older | new
        · exact kept.reverse peer msg older
        · exact bare msg new
      cases s.libp2pToMtrxai peer with
      | none => exact ⟨kept.reverseEntry peer (entered kept), sealedOutputs_nil⟩
      | some mtrxai =>
        have dialed := kept.dialCached m mtrxai
        exact ⟨dialed.reverseEntry peer (entered dialed), sealedOutputs_nil⟩

theorem serveEncryptedRequest_sealed {request : EncryptedRequest} {nonce ciphertext : Bytes}
    (kept : SealedTables m.host Seen s) :
    SealedStep m.host Seen (serveEncryptedRequest m s peer answers request nonce ciphertext) := by
  have bound := kept.bindPeer (s.nameOf peer) peer
  have ready : SealedTables m.host Seen (if m.host.inferenceSidecarEnabled
      then s.bindPeer (s.nameOf peer) peer else (s.bindPeer (s.nameOf peer) peer).dropReverse peer) := by
    split
    · exact bound
    · exact bound.dropReverse peer
  obtain ⟨outputs, bare⟩ := dispatchSwarmEncryptedProxyRequest_sealed
  obtain ⟨tables, sent⟩ := sendReverse_sealed ready bare
  exact ⟨tables, outputs.append sent⟩

/-- A request of a peer keeps the tables sealed, unless it brings a plaintext
text. -/
theorem onSwarmRequest_sealed {msg : StreamMessage} (kept : SealedTables m.host Seen s)
    (seen : Seen msg) (encrypted : ∀ reqId text, msg = .proxyResponseChunk reqId text →
      s.pendingProxyByReqId reqId = false) :
    SealedStep m.host Seen (onSwarmRequest m s peer msg answers) := by
  have pong : SealedOutputs m.host Seen (respond answers peer .pong) := sealed_respond rfl
  cases msg with
  | catalogSync record =>
    refine ⟨?_, pong⟩
    simp only [onSwarmRequest, applyRemoteCatalog]
    split
    · exact kept
    · exact kept.frame rfl rfl rfl rfl rfl
  | proxyRequest reqId path body =>
    simp only [onSwarmRequest]
    split
    · exact ⟨kept, sealed_respond rfl⟩
    · exact ⟨kept, dispatchSwarmProxyRequest_sealed⟩
  | encryptedProxyRequest reqId path roomId pk nonce ciphertext version auth =>
    simp only [onSwarmRequest]
    split
    · exact ⟨kept, sealed_respond rfl⟩
    · split
      · exact serveEncryptedRequest_sealed kept
      · exact ⟨kept, sealed_respond rfl⟩
  | encryptedProxyStreamChunk reqId seq nonce ciphertext version done =>
    have new : ChunkSeen Seen reqId ⟨seq, nonce, ciphertext, done⟩ := ⟨version, seen⟩
    obtain ⟨tables, outputs⟩ := onEncryptedStreamChunk_sealed kept new
    exact ⟨tables, outputs.append pong⟩
  | proxyAuth proof =>
    refine ⟨kept, ?_⟩
    simp only [onSwarmRequest]
    split
    · exact pong
    · exact sealed_respond rfl
  | proxyRequestStart => exact ⟨kept.frame rfl rfl rfl rfl rfl, pong⟩
  | proxyRequestChunk => exact ⟨kept.frame rfl rfl rfl rfl rfl, pong⟩
  | proxyRequestEnd reqId =>
    simp only [onSwarmRequest, onProxyRequestEnd]
    split
    · exact ⟨kept, sealed_respond rfl⟩
    · refine ⟨kept.frame rfl rfl rfl rfl rfl, ?_⟩
      split
      · exact dispatchSwarmProxyRequest_sealed
      · exact sealed_respond rfl
  | proxyResponseChunk reqId chunk =>
    refine ⟨kept, (sealed_deliverLocal ?_).append pong⟩
    intro waits
    rw [encrypted reqId chunk rfl] at waits
    cases waits
  | proxyResponseDone reqId => exact ⟨kept.dropCaller reqId, pong⟩
  | proxyResponseError reqId error =>
    refine ⟨kept.dropCaller reqId, (sealed_deliverLocal ?_).append pong⟩
    rintro waits text ⟨⟩
  | _ => exact ⟨kept, pong⟩

/-! ## Connections -/

theorem syncPresence_sealed {peers : List (String × List String)} (kept : SealedTables m.host Seen s) :
    SealedTables m.host Seen (syncPresence m s peers) := by
  induction peers generalizing s with
  | nil => exact kept
  | cons first rest ih =>
    obtain ⟨mtrxai, listenAddrs⟩ := first
    simp only [syncPresence]
    split
    · exact ih kept
    · have readdressed : ∀ cache, SealedTables m.host Seen { s with peerCache := cache } :=
        fun _ => kept.frame rfl rfl rfl rfl rfl
      split
      · split
        · exact ih kept
        · exact ih (kept.bindPeer _ _)
      · split
        · exact ih (readdressed _)
        · exact ih ((readdressed _).bindPeer _ _)

theorem onConnectionEstablished_sealed {cached : List String} {sendings : String → Sending}
    (kept : SealedTables m.host Seen s) :
    SealedStep m.host Seen (onConnectionEstablished m s peer cached sendings) := by
  have connected : SealedTables m.host Seen { s with connected := update s.connected peer true } :=
    kept.frame rfl rfl rfl rfl rfl
  unfold onConnectionEstablished
  dsimp only
  split
  · exact ⟨connected, sealedOutputs_nil⟩
  · have emptied : SealedTables m.host Seen { s with
        connected := update s.connected peer true
        pendingOutboundProxies := [] } :=
      ⟨by simp, kept.sent, kept.reverse, kept.early, kept.streams⟩
    obtain ⟨flushed, sent⟩ : SealedStep m.host Seen (flushPendingProxies m _ peer sendings _) :=
      flushPendingProxies_sealed emptied kept.queued
    have dropped := flushed.dropReverse peer
    refine ⟨?_, sent.append (sealed_sendAll (flushed.reverse peer))⟩
    split
    · exact dropped
    · unfold mapConnectedPeer
      split
      · exact dropped.frame rfl rfl rfl rfl rfl
      · exact dropped.frame rfl rfl rfl rfl rfl

theorem onConnectionClosed_sealed {connected : Bool} (kept : SealedTables m.host Seen s) :
    SealedTables m.host Seen (onConnectionClosed m s peer connected) := by
  unfold onConnectionClosed
  dsimp only
  split <;> exact kept.frame rfl rfl rfl rfl rfl

end Handlers

end MtrxPeer
