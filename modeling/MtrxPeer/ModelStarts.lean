import MtrxPeer.Listings
import MtrxPeer.Runs

/-! The lists of model-start requests and offers that all networks of a node share. A
cluster's manager edits them entry by entry; a swarm's manager overwrites them with lists
of its own. -/
namespace MtrxPeer

open Function (update update_of_ne update_self)

/-! ## State -/

structure ModelStartRequestState where
  reqId : String
  model : String
  clusterId : Option String
  swarmId : Option String
  status : String
  progressPct : Option Nat
  providerPeer : Option String
  peers : Option (List String)
  message : Option String
  updatedAtUnix : Nat

structure ModelStartOfferState where
  reqId : String
  model : String
  clusterId : Option String
  swarmId : Option String
  requestedBy : String
  estimatedVramMb : Nat
  diskSizeMb : Option Nat
  runOnRequester : Option Bool
  receivedAtUnix : Nat

inductive ModelStartAction where
  | request (reqId model : String) (clusterId swarmId : Option String)
  | respond (reqId : String) (accept : Bool) (clusterId swarmId : Option String)

structure ModelStartLists where
  outgoing : List ModelStartRequestState
  incoming : List ModelStartOfferState

/-- The lists of the application's state, and those that each swarm's manager keeps. -/
structure ModelStartState where
  shared : ModelStartLists
  swarms : String → ModelStartLists

inductive ModelStartEvent where
  /-- The lobby offers a model to start. `autoApprove` is the setting of that name. -/
  | clusterOffer (cluster reqId model requestedBy : String) (estimatedVramMb : Nat)
      (diskSizeMb : Option Nat) (runOnRequester : Option Bool) (autoApprove : Bool) (now : Nat)
  | clusterUpdate (cluster reqId model status : String) (progressPct : Option Nat)
      (providerPeer : Option String) (peers : Option (List String)) (message : Option String) (now : Nat)
  /-- A local action reaches a cluster's manager, which may be able to tell the lobby. -/
  | clusterAction (cluster : String) (action : ModelStartAction) (told : Bool) (now : Nat)
  /-- A peer of a swarm asks for a model. -/
  | swarmRequest (swarm reqId model requestedBy : String) (accepting : Bool) (now : Nat)
  | swarmAction (swarm : String) (action : ModelStartAction) (now : Nat)
  /-- The manager of a swarm is started, with lists of its own. -/
  | swarmStarted (swarm : String)

/-! ## Managers -/

namespace ModelStartLists

/-- `respond_to_model_start_offer`, as far as the lists go. -/
def dropOffer (lists : ModelStartLists) (reqId : String) : ModelStartLists :=
  { lists with incoming := lists.incoming.filter fun offer => offer.reqId ≠ reqId }

/-- The handler of `ModelStartOffer`. -/
def offer (lists : ModelStartLists) (autoApprove : Bool) (offer : ModelStartOfferState) :
    ModelStartLists :=
  if autoApprove then lists.dropOffer offer.reqId
  else { lists with
    incoming := (lists.incoming.filter fun old => old.reqId ≠ offer.reqId) ++ [offer] }

/-- The handler of `ModelStartUpdate`, with the entry to be made if there is none. -/
def update (lists : ModelStartLists) (entry : ModelStartRequestState) : ModelStartLists :=
  if lists.outgoing.any fun old => old.reqId = entry.reqId then
    { lists with
      outgoing := changeFirst ModelStartRequestState.reqId entry.reqId
        (fun old => { entry with reqId := old.reqId, clusterId := old.clusterId, swarmId := old.swarmId })
        lists.outgoing }
  else { lists with outgoing := lists.outgoing ++ [entry] }

/-- The handler of a request that a cluster's manager told the lobby of. -/
def submit (lists : ModelStartLists) (entry : ModelStartRequestState) : ModelStartLists :=
  { lists with
    outgoing := (lists.outgoing.filter fun old => old.reqId ≠ entry.reqId) ++ [entry] }

end ModelStartLists

/-- A swarm's manager changes its lists, and then `sync_model_start_state` runs. -/
def ModelStartState.sync (s : ModelStartState) (swarm : String) (lists : ModelStartLists) :
    ModelStartState :=
  { shared := lists, swarms := Function.update s.swarms swarm lists }

def submittedRequest (reqId model cluster : String) (now : Nat) : ModelStartRequestState :=
  { reqId, model, clusterId := some cluster, swarmId := none, status := "submitted"
    progressPct := none, providerPeer := none, peers := none
    message := some "Request submitted to lobby", updatedAtUnix := now }

def pendingRequest (reqId model swarm : String) (now : Nat) : ModelStartRequestState :=
  { reqId, model, clusterId := none, swarmId := some swarm, status := "pending"
    progressPct := none, providerPeer := none, peers := none, message := none, updatedAtUnix := now }

def swarmOffer (reqId model requestedBy swarm : String) (now : Nat) : ModelStartOfferState :=
  { reqId, model, clusterId := none, swarmId := some swarm, requestedBy, estimatedVramMb := 4096
    diskSizeMb := none, runOnRequester := none, receivedAtUnix := now }

def clusterOffer (reqId model requestedBy cluster : String) (estimatedVramMb : Nat)
    (diskSizeMb : Option Nat) (runOnRequester : Option Bool) (now : Nat) : ModelStartOfferState :=
  { reqId, model, clusterId := some cluster, swarmId := none, requestedBy, estimatedVramMb, diskSizeMb
    runOnRequester := some (runOnRequester.getD false), receivedAtUnix := now }

def updatedRequest (reqId model cluster status : String) (progressPct : Option Nat)
    (providerPeer : Option String) (peers : Option (List String)) (message : Option String)
    (now : Nat) : ModelStartRequestState :=
  { reqId, model, clusterId := some cluster, swarmId := none, status, progressPct, providerPeer
    peers, message, updatedAtUnix := now }

variable (peerId : String)

def modelStartStep (s : ModelStartState) : ModelStartEvent → ModelStartState
  | .clusterOffer cluster reqId model requestedBy estimatedVramMb diskSizeMb runOnRequester
      autoApprove now =>
    { s with shared := s.shared.offer autoApprove (clusterOffer reqId model requestedBy cluster
        estimatedVramMb diskSizeMb runOnRequester now) }
  | .clusterUpdate cluster reqId model status progressPct providerPeer peers message now =>
    { s with shared := s.shared.update (updatedRequest reqId model cluster status progressPct
        providerPeer peers message now) }
  | .clusterAction cluster (.request reqId model clusterId _) told now =>
    if clusterId = some cluster ∧ told = true then
      { s with shared := s.shared.submit (submittedRequest reqId model cluster now) }
    else s
  | .clusterAction cluster (.respond reqId _ clusterId _) _ _ =>
    if clusterId = some cluster then { s with shared := s.shared.dropOffer reqId } else s
  | .swarmRequest swarm reqId model requestedBy accepting now =>
    if requestedBy = peerId ∨ accepting = false then s
    else
      let own := s.swarms swarm
      s.sync swarm { own with incoming := own.incoming ++ [swarmOffer reqId model requestedBy swarm now] }
  | .swarmAction swarm (.request reqId model _ swarmId) now =>
    if swarmId = some swarm then
      let own := s.swarms swarm
      s.sync swarm { own with outgoing := own.outgoing ++ [pendingRequest reqId model swarm now] }
    else s
  -- The response is published, and the offer stays in both lists.
  | .swarmAction _ (.respond ..) _ => s
  | .swarmStarted swarm => { s with swarms := Function.update s.swarms swarm ⟨[], []⟩ }

def ModelStartState.initial : ModelStartState := ⟨⟨[], []⟩, fun _ => ⟨[], []⟩⟩

/-! ## What the lists are for -/

/-- What there is to show: the requests with their latest status, and the offers that
were not answered. -/
structure ModelStartBoard where
  outgoing : String → Option ModelStartRequestState
  incoming : String → Option ModelStartOfferState

namespace ModelStartBoard

def empty : ModelStartBoard := ⟨fun _ => none, fun _ => none⟩

def receive (board : ModelStartBoard) (offer : ModelStartOfferState) : ModelStartBoard :=
  { board with incoming := Function.update board.incoming offer.reqId (some offer) }

def answer (board : ModelStartBoard) (reqId : String) : ModelStartBoard :=
  { board with incoming := Function.update board.incoming reqId none }

def ask (board : ModelStartBoard) (request : ModelStartRequestState) : ModelStartBoard :=
  { board with outgoing := Function.update board.outgoing request.reqId (some request) }

/-- The latest status of a request, under the network that it was made in. -/
def progress (board : ModelStartBoard) (latest : ModelStartRequestState) : ModelStartBoard :=
  board.ask (match board.outgoing latest.reqId with
    | some request => { latest with clusterId := request.clusterId, swarmId := request.swarmId }
    | none => latest)

end ModelStartBoard

/-- What an event means for the board, in whichever network it happens. -/
def boardStep (board : ModelStartBoard) : ModelStartEvent → ModelStartBoard
  | .clusterOffer cluster reqId model requestedBy estimatedVramMb diskSizeMb runOnRequester
      autoApprove now =>
    if autoApprove then board.answer reqId
    else board.receive (clusterOffer reqId model requestedBy cluster estimatedVramMb diskSizeMb
      runOnRequester now)
  | .clusterUpdate cluster reqId model status progressPct providerPeer peers message now =>
    board.progress (updatedRequest reqId model cluster status progressPct providerPeer peers message
      now)
  | .clusterAction cluster (.request reqId model clusterId _) told now =>
    if clusterId = some cluster ∧ told = true then board.ask (submittedRequest reqId model cluster now)
    else board
  | .clusterAction cluster (.respond reqId _ clusterId _) _ _ =>
    if clusterId = some cluster then board.answer reqId else board
  | .swarmRequest swarm reqId model requestedBy accepting now =>
    if requestedBy = peerId ∨ accepting = false then board
    else board.receive (swarmOffer reqId model requestedBy swarm now)
  | .swarmAction swarm (.request reqId model _ swarmId) now =>
    if swarmId = some swarm then board.ask (pendingRequest reqId model swarm now) else board
  | .swarmAction swarm (.respond reqId _ _ swarmId) _ =>
    if swarmId = some swarm then board.answer reqId else board
  | .swarmStarted _ => board

/-- The shared lists show the board, each entry once. -/
structure ModelStartLists.Shows (lists : ModelStartLists) (board : ModelStartBoard) : Prop where
  outgoing : Listing ModelStartRequestState.reqId lists.outgoing board.outgoing
  incoming : Listing ModelStartOfferState.reqId lists.incoming board.incoming

/-- The manager of a swarm has the entries that are shared, and no others. -/
def ModelStartState.AllOwn (s : ModelStartState) (swarm : String) : Prop :=
  (s.swarms swarm).outgoing.Perm s.shared.outgoing ∧ (s.swarms swarm).incoming.Perm s.shared.incoming

/-- A swarm's manager only enters something while nothing else is shared than what it
entered itself, nothing under an id that is listed, and no offer of a swarm is answered. -/
def KeepsLists (s : ModelStartState) : ModelStartEvent → Prop
  | .swarmRequest swarm reqId _ requestedBy accepting _ =>
    requestedBy ≠ peerId → accepting = true →
      s.AllOwn swarm ∧ ∀ offer ∈ s.shared.incoming, offer.reqId ≠ reqId
  | .swarmAction swarm (.request reqId _ _ swarmId) _ =>
    swarmId = some swarm → s.AllOwn swarm ∧ ∀ request ∈ s.shared.outgoing, request.reqId ≠ reqId
  | .swarmAction swarm (.respond reqId _ _ swarmId) _ =>
    swarmId = some swarm → ∀ offer ∈ s.shared.incoming, offer.reqId ≠ reqId
  | _ => True

/-- The lists beside the board. -/
def modelStartMachine : Machine (ModelStartState × ModelStartBoard) ModelStartEvent Unit where
  step s e := ((modelStartStep peerId s.1 e, boardStep peerId s.2 e), [])

variable {peerId}

/-! ## What the managers keep -/

namespace ModelStartLists.Shows

variable {lists own : ModelStartLists} {board : ModelStartBoard} {reqId : String}

theorem dropOffer (shows : lists.Shows board) (reqId : String) :
    (lists.dropOffer reqId).Shows (board.answer reqId) :=
  ⟨shows.outgoing, shows.incoming.retain reqId⟩

/-- Answering an offer that is not listed changes nothing. -/
theorem answer_unlisted (shows : lists.Shows board)
    (unlisted : ∀ offer ∈ lists.incoming, offer.reqId ≠ reqId) : lists.Shows (board.answer reqId) := by
  have dropped := shows.dropOffer reqId
  have same : lists.dropOffer reqId = lists := by
    unfold ModelStartLists.dropOffer
    rw [List.filter_eq_self.mpr (by simpa using unlisted)]
  rwa [same] at dropped

theorem offer (shows : lists.Shows board) (autoApprove : Bool) (offer : ModelStartOfferState) :
    (lists.offer autoApprove offer).Shows
      (if autoApprove then board.answer offer.reqId else board.receive offer) := by
  cases autoApprove with
  | true => exact shows.dropOffer offer.reqId
  | false => exact ⟨shows.outgoing, shows.incoming.retain_push offer⟩

theorem submit (shows : lists.Shows board) (entry : ModelStartRequestState) :
    (lists.submit entry).Shows (board.ask entry) :=
  ⟨shows.outgoing.retain_push entry, shows.incoming⟩

theorem update (shows : lists.Shows board) (entry : ModelStartRequestState) :
    (lists.update entry).Shows (board.progress entry) := by
  unfold ModelStartLists.update ModelStartBoard.progress
  split
  · rename_i listed
    obtain ⟨old, member, same⟩ := List.any_eq_true.mp listed
    have same : old.reqId = entry.reqId := by simpa using same
    have known : board.outgoing entry.reqId = some old :=
      (shows.outgoing.entries entry.reqId old).mpr ⟨member, same⟩
    have changed := @Listing.change _ _ _ _ _ _ _ (fun old =>
      { entry with reqId := old.reqId, clusterId := old.clusterId, swarmId := old.swarmId })
      shows.outgoing (fun _ => rfl) member
    rw [same] at changed
    rw [known]
    exact ⟨changed, shows.incoming⟩
  · rename_i unlisted
    have fresh : ∀ old ∈ lists.outgoing, old.reqId ≠ entry.reqId := by
      intro old member same
      exact unlisted (List.any_eq_true.mpr ⟨old, member, by simpa using same⟩)
    rw [shows.outgoing.unlisted fresh]
    exact ⟨shows.outgoing.push fresh, shows.incoming⟩

theorem perm (shows : lists.Shows board) (outgoing : own.outgoing.Perm lists.outgoing)
    (incoming : own.incoming.Perm lists.incoming) : own.Shows board :=
  ⟨shows.outgoing.perm outgoing, shows.incoming.perm incoming⟩

end ModelStartLists.Shows

/-! ## Runs -/

section Runs

variable {s : ModelStartState} {board : ModelStartBoard} {e : ModelStartEvent}

/-- What a step leaves shared shows what the event means. -/
theorem modelStartStep_shows (shows : s.shared.Shows board) (keeps : KeepsLists peerId s e) :
    (modelStartStep peerId s e).shared.Shows (boardStep peerId board e) := by
  cases e with
  | clusterOffer cluster reqId model requestedBy estimatedVramMb diskSizeMb runOnRequester
      autoApprove now => exact shows.offer autoApprove _
  | clusterUpdate cluster reqId model status progressPct providerPeer peers message now =>
    exact shows.update _
  | clusterAction cluster action told now =>
    cases action with
    | request reqId model clusterId swarmId =>
      simp only [modelStartStep, boardStep]
      split
      · exact shows.submit _
      · exact shows
    | respond reqId accept clusterId swarmId =>
      simp only [modelStartStep, boardStep]
      split
      · exact shows.dropOffer reqId
      · exact shows
  | swarmRequest swarm reqId model requestedBy accepting now =>
    simp only [modelStartStep, boardStep]
    split
    · exact shows
    · rename_i entered
      obtain ⟨foreign, open_⟩ := not_or.mp entered
      obtain ⟨⟨outgoing, incoming⟩, fresh⟩ := keeps foreign (by simpa using open_)
      have own := shows.perm outgoing incoming
      refine ⟨own.outgoing, own.incoming.push fun offer member => ?_⟩
      exact fresh offer (incoming.mem_iff.mp member)
  | swarmAction swarm action now =>
    cases action with
    | request reqId model clusterId swarmId =>
      simp only [modelStartStep, boardStep]
      split
      · rename_i here
        obtain ⟨⟨outgoing, incoming⟩, fresh⟩ := keeps here
        have own := shows.perm outgoing incoming
        refine ⟨own.outgoing.push fun request member => ?_, own.incoming⟩
        exact fresh request (outgoing.mem_iff.mp member)
      · exact shows
    | respond reqId accept clusterId swarmId =>
      simp only [modelStartStep, boardStep]
      split
      · rename_i here
        exact shows.answer_unlisted (keeps here)
      · exact shows
  | swarmStarted swarm => exact shows

end Runs

private def sampleStarts (events : List ModelStartEvent) : ModelStartState × ModelStartBoard :=
  ((modelStartMachine "me").history (.initial, .empty) events).2

end MtrxPeer
