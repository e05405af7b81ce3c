import MtrxPeer.LobbyAddresses
import MtrxPeer.P2pManager

/-! The addresses of a swarm's peers: what a peer announces of the addresses it listens on, and
what another one dials of the texts that it is told. -/
namespace MtrxPeer

/-! ## Addresses and their texts -/

structure Ipv4Addr where
  a : UInt8
  b : UInt8
  c : UInt8
  d : UInt8
  deriving DecidableEq

/-- The protocols of an address. The manager only looks into those of the first five kinds. -/
inductive AddrProtocol where
  | ip4 (ip : Ipv4Addr)
  | tcp (port : UInt16)
  | dns (name : List Char)
  | dns4 (name : List Char)
  | p2p (peer : PeerId)
  | other (name : List Char) (arguments : List (List Char))
  deriving DecidableEq

abbrev Multiaddr := List AddrProtocol

/-- What libp2p knows of texts: those that are ids of peers, and how many arguments a protocol of
another name reads of those that follow. -/
structure AddrNames where
  isPeerId : String → Bool
  arity : List Char → List (List Char) → Option Nat
  noSlash : ∀ peer, isPeerId peer = true → '/' ∉ peer.toList

namespace Ipv4Addr

def octetText (octet : UInt8) : List Char := Nat.toDigits 10 octet.toNat

def text (ip : Ipv4Addr) : List Char :=
  octetText ip.a ++ '.' :: (octetText ip.b ++ '.' :: (octetText ip.c ++ '.' :: octetText ip.d))

/-- An octet has at most three digits, and no zero before another digit. -/
def parseOctet (text : List Char) : Option UInt8 :=
  if text ≠ [] ∧ text.all Char.isDigit ∧ text.length ≤ 3 ∧ (text.head? = some '0' → text = ['0']) ∧
      Nat.ofDigitChars 10 text 0 < 2 ^ 8 then
    some (UInt8.ofNat (Nat.ofDigitChars 10 text 0))
  else none

/-- `Ipv4Addr::from_str`. -/
def parse (text : List Char) : Option Ipv4Addr :=
  match text.splitOn '.' with
  | [a, b, c, d] => do return ⟨← parseOctet a, ← parseOctet b, ← parseOctet c, ← parseOctet d⟩
  | _ => none

def isUnspecified (ip : Ipv4Addr) : Bool := ip = ⟨0, 0, 0, 0⟩

def isLoopback (ip : Ipv4Addr) : Bool := ip.a = 127

end Ipv4Addr

namespace AddrProtocol

/-- A protocol as it is written: its name and its arguments. -/
def parts : AddrProtocol → List (List Char)
  | .ip4 ip => ["ip4".toList, ip.text]
  | .tcp port => ["tcp".toList, Nat.toDigits 10 port.toNat]
  | .dns name => ["dns".toList, name]
  | .dns4 name => ["dns4".toList, name]
  | .p2p peer => ["p2p".toList, peer.toList]
  | .other name arguments => name :: arguments

variable (names : AddrNames)

/-- Reading a protocol of a name, with what is left of the parts. -/
def read (name : List Char) (rest : List (List Char)) : Option (AddrProtocol × List (List Char)) :=
  let argument (make : List Char → Option AddrProtocol) : Option (AddrProtocol × List (List Char)) :=
    match rest with
    | [] => none
    | text :: rest => (make text).map (·, rest)
  if name = "ip4".toList then argument fun text => (Ipv4Addr.parse text).map .ip4
  else if name = "tcp".toList then
    argument fun text => (parseU16 text).map fun port => .tcp (UInt16.ofNat port)
  else if name = "dns".toList then argument fun text => some (.dns text)
  else if name = "dns4".toList then argument fun text => some (.dns4 text)
  else if name = "p2p".toList then
    argument fun text =>
      if names.isPeerId (String.ofList text) then some (.p2p (String.ofList text)) else none
  else (names.arity name rest).map fun count => (.other name (rest.take count), rest.drop count)

end AddrProtocol

namespace Multiaddr

/-- Each part behind a slash. -/
def slashed (parts : List (List Char)) : List Char := parts.flatMap ('/' :: ·)

def text (addr : Multiaddr) : List Char := slashed (addr.flatMap AddrProtocol.parts)

variable (names : AddrNames)

/-- Reading the protocols of as many parts at most. -/
def parseParts : Nat → List (List Char) → Option Multiaddr
  | _, [] => some []
  | 0, _ :: _ => none
  | fuel + 1, name :: rest => do
    let (protocol, rest) ← AddrProtocol.read names name rest
    return protocol :: (← parseParts fuel rest)

/-- `Multiaddr::from_str`. -/
def parse (text : List Char) : Option Multiaddr :=
  match text.splitOn '/' with
  | [] :: parts => parseParts names parts.length parts
  | _ => none

end Multiaddr

/-! ## Announcing -/

/-- `peer_id_from_multiaddr`. -/
def peerIdFromMultiaddr (addr : Multiaddr) : Option PeerId :=
  addr.findSome? fun protocol => match protocol with
    | .p2p peer => some peer
    | _ => none

/-- The last port of an address. -/
def tcpPort (addr : Multiaddr) : Option UInt16 :=
  addr.foldl (fun port protocol => match protocol with
    | .tcp p => some p
    | _ => port) none

section Announcing

variable (names : AddrNames)

/-- `/{name}/{host}/tcp/{port}`, read. -/
def hostAddr (name : String) (host : List Char) (port : UInt16) : Option Multiaddr :=
  Multiaddr.parse names (Multiaddr.slashed [name.toList, host, "tcp".toList, Nat.toDigits 10 port.toNat])

/-- A number that others can reach takes the place of the one before. -/
def reachedHost (host : Option Ipv4Addr) : AddrProtocol → Option Ipv4Addr
  | .ip4 ip => if !ip.isUnspecified && !ip.isLoopback then some ip else host
  | _ => host

/-- `routable_listen_addr`. -/
def routableListenAddr (addr : Multiaddr) : Option Multiaddr :=
  match addr.foldl reachedHost none, tcpPort addr with
  | some host, some port => hostAddr names "ip4" host.text port
  | _, _ => none

/-- `announce_multiaddr`. -/
def announceMultiaddr (announceHost : Option String) (raw : Multiaddr) : Option Multiaddr := do
  let port ← tcpPort raw
  match announceHost with
  | some host =>
    if host.toList.all fun c => c.isDigit || c = '.' then hostAddr names "ip4" host.toList port
    else hostAddr names "dns4" host.toList port
  | none => routableListenAddr names raw

/-- `advertised_listen_addrs`. -/
def advertisedListenAddrs (announceHost : Option String) (localPeerId : PeerId)
    (listenAddrs : List Multiaddr) :
    List String :=
  (listenAddrs.filterMap (announceMultiaddr names announceHost)).map fun addr =>
    String.ofList (addr.text ++ Multiaddr.slashed ["p2p".toList, localPeerId.toList])

/-! ## Dialing -/

/-- `dial_addr_priority`. -/
def dialAddrPriority (addr : Multiaddr) : Nat :=
  if addr.any fun protocol => match protocol with
    | .dns4 _ => true
    | _ => false then 0
  else if addr.any fun protocol => match protocol with
    | .dns _ => true
    | _ => false then 1
  else 2

/-- `dial_multiaddrs`. -/
def dialMultiaddrs (listenAddrs : List String) (libp2pPeer : PeerId) : List Multiaddr :=
  let addrs := (listenAddrs.filterMap fun text => Multiaddr.parse names text.toList).map fun addr =>
    if (peerIdFromMultiaddr addr).isNone then addr ++ [.p2p libp2pPeer] else addr
  addrs.insertionSort fun a b => dialAddrPriority a ≤ dialAddrPriority b

/-- The ids that libp2p reads of address texts; `legacyPeerId` is the key of a peer without one. -/
def AddrNames.ids (legacyPeerId : String → PeerId) : Libp2pIds where
  peerIdFromAddr text := (Multiaddr.parse names text.toList).bind peerIdFromMultiaddr
  legacyPeerId := legacyPeerId

/-- The address that `dial_mtrxai_peer` dials: the first one that libp2p accepts to dial. -/
def dialledAddr (accepts : Multiaddr → Bool) (listenAddrs : List String) (libp2pPeer : PeerId) :
    Option Multiaddr :=
  (dialMultiaddrs names listenAddrs libp2pPeer).find? accepts

end Announcing

/-! ## Reading what was written -/

theorem digit_ne_slash {c : Char} (digit : c.isDigit = true) : c ≠ '/' ∧ c ≠ '.' := by
  constructor <;> (rintro rfl; exact absurd digit (by decide))

namespace Multiaddr

/-- Splitting at the slashes gives the parts back, when no part has one. -/
theorem splitOn_slashed {parts : List (List Char)} (plain : ∀ part ∈ parts, '/' ∉ part) :
    (slashed parts).splitOn '/' = [] :: parts := by
  suffices ∀ first : List Char, '/' ∉ first → (first ++ slashed parts).splitOn '/' = first :: parts from
    this [] List.not_mem_nil
  induction parts with
  | nil =>
    intro first whole
    rw [slashed, List.flatMap_nil, List.append_nil]
    exact List.splitOn_eq_singleton whole
  | cons part rest ih =>
    intro first whole
    have later := ih (fun part member => plain part (List.mem_cons_of_mem _ member)) part
      (plain part List.mem_cons_self)
    rw [slashed, List.flatMap_cons, List.cons_append, List.splitOn_append_cons_self,
      List.splitOn_eq_singleton whole]
    exact congrArg (first :: ·) later

theorem slashed_append (parts more : List (List Char)) :
    slashed (parts ++ more) = slashed parts ++ slashed more := List.flatMap_append

end Multiaddr

namespace Ipv4Addr

private theorem parseOctet_all : ∀ n : Fin (2 ^ 8),
    parseOctet (Nat.toDigits 10 n) = some (UInt8.ofNat n) := by decide +kernel

theorem parseOctet_text (octet : UInt8) : parseOctet (octetText octet) = some octet := by
  have read := parseOctet_all ⟨octet.toNat, octet.toNat_lt⟩
  rwa [UInt8.ofNat_toNat] at read

theorem octetText_digits {octet : UInt8} {c : Char} (member : c ∈ octetText octet) : c.isDigit = true :=
  Nat.isDigit_of_mem_toDigits (by decide) (by decide) member

theorem parse_text (ip : Ipv4Addr) : parse ip.text = some ip := by
  have whole (octet : UInt8) : '.' ∉ octetText octet := fun member =>
    (digit_ne_slash (octetText_digits member)).2 rfl
  rw [parse, text, List.splitOn_append_cons_self, List.splitOn_append_cons_self,
    List.splitOn_append_cons_self, List.splitOn_eq_singleton (whole _), List.splitOn_eq_singleton (whole _),
    List.splitOn_eq_singleton (whole _), List.splitOn_eq_singleton (whole _)]
  simp [parseOctet_text]

theorem slash_not_in_text (ip : Ipv4Addr) : '/' ∉ ip.text := by
  have plain (octet : UInt8) : '/' ∉ octetText octet := fun member =>
    (digit_ne_slash (octetText_digits member)).1 rfl
  simp [text, plain]

end Ipv4Addr

section Reading

variable {names : AddrNames}

/-- A protocol that can be read in the way it is written. -/
def AddrProtocol.Plain (names : AddrNames) : AddrProtocol → Prop
  | .ip4 _ => True
  | .tcp _ => True
  | .dns name => '/' ∉ name
  | .dns4 name => '/' ∉ name
  | .p2p peer => names.isPeerId peer = true
  | .other _ _ => False

theorem port_plain (port : UInt16) : '/' ∉ Nat.toDigits 10 port.toNat := fun member =>
  (digit_ne_slash (Nat.isDigit_of_mem_toDigits (by decide) (by decide) member)).1 rfl

theorem AddrProtocol.Plain.parts {protocol : AddrProtocol} (plain : protocol.Plain names) :
    (∀ part ∈ protocol.parts, '/' ∉ part) ∧ ∃ name argument, protocol.parts = [name, argument] ∧
      ∀ rest, AddrProtocol.read names name (argument :: rest) = some (protocol, rest) := by
  cases protocol with
  | ip4 ip =>
    refine ⟨?_, _, _, rfl, fun rest => ?_⟩
    · simpa [AddrProtocol.parts] using ip.slash_not_in_text
    · simp [AddrProtocol.read, ip.parse_text]
  | tcp port =>
    have read := parseU16_toDigits port.toNat_lt
    refine ⟨?_, _, _, rfl, fun rest => ?_⟩
    · simpa [AddrProtocol.parts] using port_plain port
    · simp [AddrProtocol.read, read]
  | dns name =>
    have plain : '/' ∉ name := plain
    refine ⟨?_, _, _, rfl, fun rest => ?_⟩
    · simpa [AddrProtocol.parts] using plain
    · simp [AddrProtocol.read]
  | dns4 name =>
    have plain : '/' ∉ name := plain
    refine ⟨?_, _, _, rfl, fun rest => ?_⟩
    · simpa [AddrProtocol.parts] using plain
    · simp [AddrProtocol.read]
  | p2p peer =>
    have isPeer : names.isPeerId peer = true := plain
    refine ⟨?_, _, _, rfl, fun rest => ?_⟩
    · simpa [AddrProtocol.parts] using names.noSlash peer isPeer
    · simp [AddrProtocol.read, isPeer]
  | other name arguments => exact plain.elim

namespace Multiaddr

theorem parseParts_parts {addr : Multiaddr} (plain : ∀ protocol ∈ addr, protocol.Plain names) {fuel : Nat}
    (enough : addr.length ≤ fuel) : parseParts names fuel (addr.flatMap AddrProtocol.parts) = some addr := by
  induction addr generalizing fuel with
  | nil =>
    rw [List.flatMap_nil]
    cases fuel <;> rfl
  | cons protocol rest ih =>
    obtain ⟨name, argument, parts, read⟩ := (plain protocol List.mem_cons_self).parts.2
    cases fuel with
    | zero => exact absurd enough (Nat.not_succ_le_zero _)
    | succ fuel =>
      have later := ih (fun protocol member => plain protocol (List.mem_cons_of_mem _ member))
        (Nat.le_of_succ_le_succ enough)
      rw [List.flatMap_cons, parts, List.cons_append, List.cons_append, List.nil_append, parseParts, read]
      simp [later]

/-- Reading a written address gives the address back. -/
theorem parse_text {addr : Multiaddr} (plain : ∀ protocol ∈ addr, protocol.Plain names) :
    parse names addr.text = some addr := by
  have whole : ∀ part ∈ addr.flatMap AddrProtocol.parts, '/' ∉ part := by
    intro part member
    obtain ⟨protocol, inside, member⟩ := List.mem_flatMap.mp member
    exact (plain protocol inside).parts.1 part member
  have enough : addr.length ≤ (addr.flatMap AddrProtocol.parts).length := by
    clear whole
    induction addr with
    | nil => exact Nat.le_refl 0
    | cons protocol rest ih =>
      obtain ⟨name, argument, parts, -⟩ := (plain protocol List.mem_cons_self).parts.2
      have later := ih fun protocol member => plain protocol (List.mem_cons_of_mem _ member)
      rw [List.flatMap_cons, parts, List.length_append, List.length_cons]
      simp only [List.length_cons, List.length_nil]
      omega
  rw [parse, text, splitOn_slashed whole]
  exact parseParts_parts plain enough

end Multiaddr

/-! ## What is announced -/

/-- The forms of announced addresses: a port of the host that is set, by its name or its number,
or of a number that others can reach. -/
inductive Announced (announceHost : Option String) : Multiaddr → Prop where
  | name {host : String} (port : UInt16) (set : announceHost = some host)
      (named : ¬ host.toList.all (fun c => c.isDigit || c = '.') = true) :
      Announced announceHost [.dns4 host.toList, .tcp port]
  | number {host : String} {ip : Ipv4Addr} (port : UInt16) (set : announceHost = some host)
      (numbered : host.toList.all (fun c => c.isDigit || c = '.') = true)
      (read : Ipv4Addr.parse host.toList = some ip) : Announced announceHost [.ip4 ip, .tcp port]
  | routable {ip : Ipv4Addr} (port : UInt16) (unset : announceHost = none)
      (reached : (!ip.isUnspecified && !ip.isLoopback) = true) : Announced announceHost [.ip4 ip, .tcp port]

/-- The text of a host and a port is read as these. -/
private theorem hostAddr_parts (name : String) {host : List Char} (port : UInt16) (named : '/' ∉ name.toList)
    (plain : '/' ∉ host) : hostAddr names name host port =
      Multiaddr.parseParts names 4 [name.toList, host, "tcp".toList, Nat.toDigits 10 port.toNat] := by
  have whole : ∀ part ∈ [name.toList, host, "tcp".toList, Nat.toDigits 10 port.toNat], '/' ∉ part := by
    simpa [named, plain] using port_plain port
  rw [hostAddr, Multiaddr.parse, Multiaddr.splitOn_slashed whole]
  rfl

theorem hostAddr_dns4 {host : List Char} (port : UInt16) (plain : '/' ∉ host) :
    hostAddr names "dns4" host port = some [.dns4 host, .tcp port] := by
  rw [hostAddr_parts "dns4" port (by decide) plain]
  simp [Multiaddr.parseParts, AddrProtocol.read, parseU16_toDigits port.toNat_lt]

theorem hostAddr_ip4 {host : List Char} (port : UInt16) (plain : '/' ∉ host) :
    hostAddr names "ip4" host port = (Ipv4Addr.parse host).map fun ip => [.ip4 ip, .tcp port] := by
  rw [hostAddr_parts "ip4" port (by decide) plain]
  cases read : Ipv4Addr.parse host with
  | none => simp [Multiaddr.parseParts, AddrProtocol.read, read]
  | some ip => simp [Multiaddr.parseParts, AddrProtocol.read, read, parseU16_toDigits port.toNat_lt]

private theorem reachedHost_foldl (addr : Multiaddr) {ip : Ipv4Addr} (host : Option Ipv4Addr)
    (start : ∀ ip ∈ host, (!ip.isUnspecified && !ip.isLoopback) = true)
    (found : addr.foldl reachedHost host = some ip) : (!ip.isUnspecified && !ip.isLoopback) = true := by
  induction addr generalizing host with
  | nil => exact start ip found
  | cons protocol rest ih =>
    refine ih _ ?_ found
    intro other member
    cases protocol with
    | ip4 next =>
      rw [reachedHost] at member
      split at member
      · rename_i reached
        rwa [Option.some.inj member] at reached
      · exact start other member
    | _ => exact start other member

/-- What is announced has one of the forms. -/
theorem announceMultiaddr_form {announceHost : Option String} {raw addr : Multiaddr}
    (plain : ∀ host ∈ announceHost, '/' ∉ host.toList)
    (announced : announceMultiaddr names announceHost raw = some addr) : Announced announceHost addr := by
  simp only [announceMultiaddr, Option.bind_eq_bind, Option.bind_eq_some_iff] at announced
  obtain ⟨port, -, announced⟩ := announced
  cases set : announceHost with
  | some host =>
    rw [set] at announced
    have whole := plain host set
    dsimp only at announced
    split at announced
    · rename_i numbered
      rw [hostAddr_ip4 port whole] at announced
      obtain ⟨ip, read, rfl⟩ := Option.map_eq_some_iff.mp announced
      exact .number port rfl numbered read
    · rename_i named
      rw [hostAddr_dns4 port whole] at announced
      rw [← Option.some.inj announced]
      exact .name port rfl named
  | none =>
    rw [set] at announced
    dsimp only [routableListenAddr] at announced
    split at announced
    · rename_i ip port' found _
      rw [hostAddr_ip4 port' ip.slash_not_in_text, ip.parse_text] at announced
      rw [← Option.some.inj announced]
      exact .routable port' rfl (reachedHost_foldl raw none (fun _ member => by cases member) found)
    · cases announced

variable {announceHost : Option String} {addr other : Multiaddr} {peer : PeerId}

theorem Announced.plain (announced : Announced announceHost addr)
    (plain : ∀ host ∈ announceHost, '/' ∉ host.toList) : ∀ protocol ∈ addr, protocol.Plain names := by
  cases announced with
  | name port set => simpa [AddrProtocol.Plain] using plain _ set
  | number port => simp [AddrProtocol.Plain]
  | routable port => simp [AddrProtocol.Plain]

/-- An announced address names the peer that is put behind it. -/
theorem Announced.hasPeer (announced : Announced announceHost addr) (peer : PeerId) :
    peerIdFromMultiaddr (addr ++ [.p2p peer]) = some peer := by
  cases announced <;> rfl

/-- All addresses that a peer announces are dialled alike. -/
theorem Announced.priority (announced : Announced announceHost addr)
    (announced' : Announced announceHost other)
    (peer : PeerId) : dialAddrPriority (addr ++ [.p2p peer]) = dialAddrPriority (other ++ [.p2p peer]) := by
  cases announced with
  | name port set named =>
    cases announced' with
    | name port' => rfl
    | number port' set' numbered =>
      rw [set] at set'
      rw [Option.some.inj set'] at named
      exact absurd numbered named
    | routable port' unset =>
      rw [set] at unset
      cases unset
  | number port set numbered =>
    cases announced' with
    | name port' set' named =>
      rw [set] at set'
      rw [Option.some.inj set'] at numbered
      exact absurd numbered named
    | number port' => rfl
    | routable port' => rfl
  | routable port unset =>
    cases announced' with
    | name port' set =>
      rw [unset] at set
      cases set
    | number port' => rfl
    | routable port' => rfl

/-- An announced text is read as the address with the peer behind it. -/
theorem Announced.read (announced : Announced announceHost addr)
    (plain : ∀ host ∈ announceHost, '/' ∉ host.toList) (isPeer : names.isPeerId peer = true) :
    Multiaddr.parse names (String.ofList (addr.text ++ Multiaddr.slashed ["p2p".toList, peer.toList])).toList =
      some (addr ++ [.p2p peer]) := by
  have text : addr.text ++ Multiaddr.slashed ["p2p".toList, peer.toList] =
      Multiaddr.text (addr ++ [.p2p peer]) := by
    rw [Multiaddr.text, Multiaddr.text, List.flatMap_append, Multiaddr.slashed_append]
    rfl
  rw [String.toList_ofList, text]
  apply Multiaddr.parse_text
  intro protocol member
  rcases List.mem_append.mp member with first | last
  · exact announced.plain plain protocol first
  · rw [List.mem_singleton.mp last]
    exact isPeer

end Reading

/-! ## From one peer to another -/

/-- What a peer announces is dialled by another one as it was announced, in its order and under
that peer's id, to which its name is bound. Nothing is announced but ports of the host that is set
or of numbers that others can reach. -/
theorem announced_addresses_dialled (names : AddrNames) (legacyPeerId : String → PeerId)
    (announceHost : Option String) (plain : ∀ host ∈ announceHost, '/' ∉ host.toList)
    (listenAddrs : List Multiaddr)
    (peer : PeerId) (isPeer : names.isPeerId peer = true) (name : String) :
    let announced := listenAddrs.filterMap (announceMultiaddr names announceHost)
    let texts := advertisedListenAddrs names announceHost peer listenAddrs
    let bound := resolveLibp2pPeerId (names.ids legacyPeerId) texts name
    (∀ addr ∈ announced, Announced announceHost addr) ∧
      dialMultiaddrs names texts bound = announced.map (· ++ [.p2p peer]) ∧
      (announced ≠ [] → bound = peer) := by
  intro announced texts bound
  have forms : ∀ addr ∈ announced, Announced announceHost addr := by
    intro addr member
    obtain ⟨raw, -, from_⟩ := List.mem_filterMap.mp member
    exact announceMultiaddr_form plain from_
  refine ⟨forms, ?_, fun some_ => ?_⟩
  · have read : (texts.filterMap fun text => Multiaddr.parse names text.toList) =
        announced.map (· ++ [.p2p peer]) := by
      rw [← List.filterMap_eq_map]
      show List.filterMap _ (announced.map _) = _
      rw [List.filterMap_map]
      exact List.filterMap_congr fun addr member => (forms addr member).read plain isPeer
    have named : (announced.map (· ++ [.p2p peer])).map (fun addr =>
        if (peerIdFromMultiaddr addr).isNone then addr ++ [.p2p bound] else addr) =
          announced.map (· ++ [.p2p peer]) := by
      rw [List.map_map]
      refine List.map_congr_left fun addr member => ?_
      rw [Function.comp_apply, (forms addr member).hasPeer]
      rfl
    rw [dialMultiaddrs, read, named]
    apply List.Pairwise.insertionSort_eq
    refine List.pairwise_map.mpr (List.pairwise_of_forall_mem_list fun addr member other member' => ?_)
    exact Nat.le_of_eq ((forms addr member).priority (forms other member') peer)
  · cases first : announced with
    | nil => exact absurd first some_
    | cons addr rest =>
      have form := forms addr (first ▸ List.mem_cons_self)
      have found : (names.ids legacyPeerId).peerIdFromAddr
          (String.ofList (addr.text ++ Multiaddr.slashed ["p2p".toList, peer.toList])) = some peer := by
        rw [AddrNames.ids]
        dsimp only
        rw [form.read plain isPeer, Option.bind_some, form.hasPeer]
      have texts_ : texts = _ :: _ := congrArg (List.map _) first
      show resolveLibp2pPeerId _ texts name = peer
      rw [texts_, resolveLibp2pPeerId, List.findSome?_cons, found]
      rfl

/-- The peers whose ids are known. -/
private def twoPeers : AddrNames where
  isPeerId text := text = "12D3KooWA" || text = "12D3KooWB"
  arity _ _ := none
  noSlash peer known := by
    rcases Bool.or_eq_true _ _ |>.mp known with same | same <;> rw [of_decide_eq_true same] <;> decide

/-- Two containers: only the address that others can reach is announced and dialled. -/
theorem announced_addresses_dialled_sample :
    let texts := advertisedListenAddrs twoPeers none "12D3KooWA"
      [[.ip4 ⟨127, 0, 0, 1⟩, .tcp 4001], [.ip4 ⟨172, 18, 0, 3⟩, .tcp 4001]]
    texts = ["/ip4/172.18.0.3/tcp/4001/p2p/12D3KooWA"] ∧
      dialMultiaddrs twoPeers texts (resolveLibp2pPeerId (twoPeers.ids id) texts "alice") =
        [[.ip4 ⟨172, 18, 0, 3⟩, .tcp 4001, .p2p "12D3KooWA"]] := by
  refine ⟨by decide +kernel, ?_⟩
  refine (announced_addresses_dialled twoPeers id none (fun _ member => (by cases member)) _ "12D3KooWA"
    (by decide) "alice").2.1.trans ?_
  decide +kernel

end MtrxPeer
