import MtrxPeer.BytePositions
import MtrxPeer.EventLines
import MtrxPeer.LlmProxy
import MtrxPeer.NetworkSchedule

/-! The address of the lobby: how it is read from what a user enters, the base URLs that are made
of it, and the entries on which reading panics. -/
namespace MtrxPeer

/-! ## Reading an address -/

/-- `str::parse::<u16>`. -/
def parseU16 (text : List Char) : Option Nat := (parseU32 text).filter (· < 2 ^ 16)

structure ParsedLobbyHost where
  hostPort : String
  tls : Bool
  deriving DecidableEq

/-- `lobby_tls_env` with the value of `MTRXAI_LOBBY_TLS`. -/
def lobbyTlsEnv (value : Option String) : Bool := value.elim false fun v => v = "1" || v.toLower = "true"

def hostUsesTlsByDefault (host : List Char) : Bool :=
  host.map Char.toLower = "mtrxai.net".toList || ".mtrxai.net".toList.isSuffixOf (host.map Char.toLower)

/-- `split_host_port`; nothing where the slice up to the bracket panics. -/
def splitHostPort (hostPort : List Char) : Option (List Char × Option Nat) :=
  if hostPort.head? = some '[' then do
    let stop := (findChar ']' hostPort).getD (byteCount hostPort)
    let host ← takeBytes (stop + 1) hostPort
    let rest := (dropBytes (stop + 1) hostPort).getD []
    return (host, (stripPrefix [':'] rest).bind parseU16)
  else
    match rsplitOnce ':' hostPort with
    | some (host, port) =>
      match parseU16 port with
      | some port => if ':' ∈ host ∧ host.head? ≠ some '[' then some (hostPort, none) else some (host, some port)
      | none => some (hostPort, none)
    | none => some (hostPort, none)

/-- A scheme at the start is taken off; the flag says whether it asks for TLS. -/
def stripScheme (input : List Char) : List Char × Bool :=
  match (stripPrefix "https://".toList input).or (stripPrefix "HTTPS://".toList input) with
  | some rest => (rest, true)
  | none =>
    match (stripPrefix "http://".toList input).or (stripPrefix "HTTP://".toList input) with
    | some rest => (rest, false)
    | none => (input, false)

/-- `parse_lobby_host` from the address on that is left without its scheme. -/
def parseAddress (env : Option String) (tls : Bool) (address : List Char) : Option ParsedLobbyHost := do
  let tls := tls || lobbyTlsEnv env
  let (host, port) ← splitHostPort address
  let tls := tls || hostUsesTlsByDefault host
  let port := port.getD (if tls then 443 else 8080)
  return ⟨String.ofList (host ++ ':' :: Nat.toDigits 10 port), tls || port = 443⟩

/-- `parse_lobby_host`. -/
def parseLobbyHost (env : Option String) (raw : String) : Option ParsedLobbyHost :=
  let (input, tls) := stripScheme (trim raw).toList
  parseAddress env tls (trimEndSlashes (String.ofList input)).toList

def normalizeLobbyHost (env : Option String) (raw : String) : Option String :=
  (parseLobbyHost env raw).map (·.hostPort)

def lobbyHttpBase (env : Option String) (hostPort : String) : Option String :=
  (parseLobbyHost env hostPort).map fun parsed =>
    (if parsed.tls then "https" else "http") ++ "://" ++ parsed.hostPort

def lobbyWsBase (env : Option String) (hostPort : String) : Option String :=
  (parseLobbyHost env hostPort).map fun parsed =>
    (if parsed.tls then "wss" else "ws") ++ "://" ++ parsed.hostPort

def lobbyApiUrl (env : Option String) (hostPort path : String) : Option String :=
  (lobbyHttpBase env hostPort).map fun base => base ++ if path.startsWith "/" then path else "/" ++ path

/-! ## What was entered -/

/-- The schemes that are taken off. -/
inductive LobbyScheme where
  | none
  | https
  | upperHttps
  | http
  | upperHttp
  deriving DecidableEq

def LobbyScheme.text : LobbyScheme → List Char
  | .none => []
  | .https => "https://".toList
  | .upperHttps => "HTTPS://".toList
  | .http => "http://".toList
  | .upperHttp => "HTTP://".toList

@[simp] theorem LobbyScheme.text_none : LobbyScheme.none.text = [] := rfl

def LobbyScheme.secure : LobbyScheme → Bool
  | .https | .upperHttps => true
  | .none | .http | .upperHttp => false

/-- An entry is, but for white space around it and slashes at its end, a scheme and an address. -/
structure LobbyEntry (raw : String) (scheme : LobbyScheme) (address : List Char) : Prop where
  text : ∃ slashes, (trim raw).toList = scheme.text ++ address ++ List.replicate slashes '/'
  bare : scheme = .none → ∀ other : LobbyScheme, other ≠ .none → ¬ other.text <+: (trim raw).toList
  trimmed : address.getLast? ≠ some '/'

theorem LobbyScheme.text_length {scheme : LobbyScheme} (some_ : scheme ≠ .none) :
    7 ≤ scheme.text.length := by
  revert some_
  cases scheme <;> decide

/-- No scheme is the start of another. -/
private theorem schemes_apart {scheme other : LobbyScheme} (some_ : scheme ≠ .none) (some' : other ≠ .none)
    (differ : scheme ≠ other) (rest : List Char) : stripPrefix scheme.text (other.text ++ rest) = none := by
  have starts : scheme.text.take 5 ≠ other.text.take 5 := by
    revert some_ some' differ
    cases scheme <;> cases other <;> decide
  rw [stripPrefix, if_neg]
  intro before
  obtain ⟨more, same⟩ := List.isPrefixOf_iff_prefix.mp before
  have long := LobbyScheme.text_length some_
  have long' := LobbyScheme.text_length some'
  have first := congrArg (List.take 5) same
  rw [List.take_append_of_le_length (by omega), List.take_append_of_le_length (by omega)] at first
  exact starts first

private theorem stripScheme_cases (input : List Char) : stripScheme input =
    match (stripPrefix LobbyScheme.https.text input).or (stripPrefix LobbyScheme.upperHttps.text input) with
    | some rest => (rest, true)
    | none =>
      match (stripPrefix LobbyScheme.http.text input).or (stripPrefix LobbyScheme.upperHttp.text input) with
      | some rest => (rest, false)
      | none => (input, false) := rfl

private theorem stripScheme_text (scheme : LobbyScheme) (some_ : scheme ≠ .none) (rest : List Char) :
    stripScheme (scheme.text ++ rest) = (rest, scheme.secure) := by
  have own : stripPrefix scheme.text (scheme.text ++ rest) = some rest := stripPrefix_eq_some_iff.mpr rfl
  have others : ∀ other : LobbyScheme, other ≠ .none → other ≠ scheme →
      stripPrefix other.text (scheme.text ++ rest) = none :=
    fun other some' differ => schemes_apart some' some_ differ rest
  rw [stripScheme_cases]
  cases scheme with
  | none => exact absurd rfl some_
  | https =>
    rw [own]
    rfl
  | upperHttps =>
    rw [others .https (by decide) (by decide), own]
    rfl
  | http =>
    rw [others .https (by decide) (by decide), others .upperHttps (by decide) (by decide), own]
    rfl
  | upperHttp =>
    rw [others .https (by decide) (by decide), others .upperHttps (by decide) (by decide),
      others .http (by decide) (by decide), own]
    rfl

private theorem stripScheme_none {input : List Char}
    (bare : ∀ scheme : LobbyScheme, scheme ≠ .none → ¬ scheme.text <+: input) :
    stripScheme input = (input, false) := by
  have kept : ∀ scheme : LobbyScheme, scheme ≠ .none → stripPrefix scheme.text input = none := by
    intro scheme some_
    rw [stripPrefix, if_neg]
    exact fun starts => bare scheme some_ (List.isPrefixOf_iff_prefix.mp starts)
  rw [stripScheme_cases, kept .https (by decide), kept .upperHttps (by decide), kept .http (by decide),
    kept .upperHttp (by decide)]
  rfl

/-- What a scheme or none is taken off of. -/
private theorem stripScheme_eq (input : List Char) :
    ∃ scheme : LobbyScheme, input = scheme.text ++ (stripScheme input).1 ∧
      (stripScheme input).2 = scheme.secure ∧
      (scheme = .none → ∀ other : LobbyScheme, other ≠ .none → ¬ other.text <+: input) := by
  by_cases bare : ∀ scheme : LobbyScheme, scheme ≠ .none → ¬ scheme.text <+: input
  · refine ⟨.none, ?_, ?_, fun _ => bare⟩
    · rw [stripScheme_none bare]
      rfl
    · rw [stripScheme_none bare]
      rfl
  · push Not at bare
    obtain ⟨scheme, some_, rest, rfl⟩ := bare
    rw [stripScheme_text scheme some_]
    exact ⟨scheme, rfl, rfl, fun none_ => absurd none_ some_⟩

private theorem trimEndSlashes_split (text : List Char) :
    ∃ slashes, text = (trimEndSlashes (String.ofList text)).toList ++ List.replicate slashes '/' := by
  refine ⟨(text.reverse.takeWhile (· = '/')).length, ?_⟩
  have slashes : text.reverse.takeWhile (· = '/') =
      List.replicate (text.reverse.takeWhile (· = '/')).length '/' := by
    refine List.eq_replicate_iff.mpr ⟨rfl, fun c member => ?_⟩
    exact of_decide_eq_true (List.all_eq_true.mp List.all_takeWhile c member)
  rw [← List.reverse_inj, trimEndSlashes, String.toList_ofList, String.toList_ofList, List.reverse_append,
    List.reverse_replicate, List.reverse_reverse, ← slashes, List.takeWhile_append_dropWhile]

private theorem trimEndSlashes_append {address : List Char} (trimmed : address.getLast? ≠ some '/') (slashes : Nat) :
    (trimEndSlashes (String.ofList (address ++ List.replicate slashes '/'))).toList = address := by
  have kept := @trimEndSlashes_of_trimmed (String.ofList address) (by rwa [String.toList_ofList])
  rw [trimEndSlashes, String.toList_ofList] at kept
  rw [trimEndSlashes, String.toList_ofList, String.toList_ofList, List.reverse_append, List.reverse_replicate,
    List.dropWhile_append_of_pos]
  · have chars := congrArg String.toList kept
    rwa [String.toList_ofList, String.toList_ofList] at chars
  · intro c member
    exact decide_eq_true (List.eq_of_mem_replicate member)

/-- Each entry is one of a scheme and an address. -/
theorem exists_lobbyEntry (raw : String) : ∃ scheme address, LobbyEntry raw scheme address := by
  obtain ⟨scheme, text, -, bare⟩ := stripScheme_eq (trim raw).toList
  obtain ⟨slashes, split_⟩ := trimEndSlashes_split (stripScheme (trim raw).toList).1
  refine ⟨scheme, (trimEndSlashes (String.ofList (stripScheme (trim raw).toList).1)).toList, ⟨slashes, ?_⟩, bare,
    trimEndSlashes_getLast _⟩
  rw [List.append_assoc, ← split_]
  exact text

/-- An entry is parsed as its address. -/
theorem LobbyEntry.parsed {raw : String} {scheme : LobbyScheme} {address : List Char}
    (entry : LobbyEntry raw scheme address) (env : Option String) :
    parseLobbyHost env raw = parseAddress env scheme.secure address := by
  obtain ⟨slashes, text⟩ := entry.text
  have stripped : stripScheme (trim raw).toList = (address ++ List.replicate slashes '/', scheme.secure) := by
    by_cases none_ : scheme = .none
    · rw [stripScheme_none (entry.bare none_), text, none_]
      rfl
    · rw [text, List.append_assoc, stripScheme_text scheme none_]
  rw [parseLobbyHost, stripped]
  dsimp only
  rw [trimEndSlashes_append entry.trimmed]

/-! ## Panics -/

/-- The parts of a host in brackets. -/
theorem splitHostPort_brackets {inner : List Char} (closed : ']' ∉ inner) (rest : List Char) :
    splitHostPort ('[' :: (inner ++ ']' :: rest)) =
      some ('[' :: (inner ++ [']']), (stripPrefix [':'] rest).bind parseU16) := by
  have found : findChar ']' ('[' :: (inner ++ ']' :: rest)) = some (byteCount ('[' :: inner)) :=
    @findChar_append ']' ('[' :: inner) (by simp [closed]) rest
  have stop : byteCount ('[' :: inner) + 1 = byteCount ('[' :: (inner ++ [']'])) := by
    rw [byteCount_cons, byteCount_cons, byteCount_append, Nat.add_assoc]
    rfl
  have whole : '[' :: (inner ++ ']' :: rest) = '[' :: (inner ++ [']']) ++ rest := by simp
  rw [splitHostPort, if_pos List.head?_cons, found]
  dsimp only [Option.getD_some]
  rw [stop, whole, takeBytes_append, dropBytes_append]
  rfl

/-- An address whose bracket stays open. -/
def OpenBracket (address : List Char) : Prop := address.head? = some '[' ∧ ']' ∉ address

/-- The slice up to the bracket goes one byte beyond an address that has none, and no other slice
can fail. -/
theorem splitHostPort_returns_iff (address : List Char) :
    (splitHostPort address).isSome ↔ ¬ OpenBracket address := by
  by_cases opens : address.head? = some '['
  · by_cases closes : ']' ∈ address
    · refine iff_of_true ?_ fun stays => stays.2 closes
      obtain ⟨front, rest, rfl, closed⟩ := List.eq_append_cons_of_mem closes
      cases front with
      | nil => cases opens
      | cons c inner =>
        obtain rfl : c = '[' := Option.some.inj opens
        rw [List.cons_append, splitHostPort_brackets (fun member => closed (List.mem_cons_of_mem _ member))]
        rfl
    · refine iff_of_false ?_ fun stays => stays ⟨opens, closes⟩
      have long : takeBytes (byteCount address + 1) address = none := takeBytes_long (Nat.lt_succ_self _)
      rw [splitHostPort, if_pos opens, findChar_none closes]
      dsimp only [Option.getD_none]
      rw [long]
      simp
  · refine iff_of_true ?_ fun stays => opens stays.1
    rw [splitHostPort, if_neg opens]
    split
    · split
      · split
        · rfl
        · rfl
      · rfl
    · rfl

/-- The calls that read an address. -/
inductive LobbyCall where
  | parse
  | normalize
  | httpBase
  | wsBase
  | apiUrl (path : String)

/-- The call comes to its end. -/
def LobbyCall.Returns (env : Option String) (raw : String) : LobbyCall → Prop
  | .parse => (parseLobbyHost env raw).isSome
  | .normalize => (normalizeLobbyHost env raw).isSome
  | .httpBase => (lobbyHttpBase env raw).isSome
  | .wsBase => (lobbyWsBase env raw).isSome
  | .apiUrl path => (lobbyApiUrl env raw path).isSome

/-- Behind white space and a scheme, the entry has a bracket that stays open. -/
def StaysOpen (raw : String) : Prop :=
  ∃ scheme : LobbyScheme, scheme.text ++ ['['] <+: (trim raw).toList ∧ ']' ∉ (trim raw).toList

private theorem parseAddress_returns_iff (env : Option String) (tls : Bool) (address : List Char) :
    (parseAddress env tls address).isSome ↔ ¬ OpenBracket address := by
  rw [← splitHostPort_returns_iff, parseAddress]
  cases splitHostPort address with
  | none => simp
  | some parts => simp

private theorem LobbyEntry.scheme_of_bracket {raw : String} {scheme other : LobbyScheme} {address : List Char}
    (entry : LobbyEntry raw scheme address) (before : other.text ++ ['['] <+: (trim raw).toList) :
    other = scheme := by
  obtain ⟨slashes, text⟩ := entry.text
  by_contra differ
  by_cases bare : other = .none
  · subst bare
    obtain ⟨more, same⟩ := before
    rw [text] at same
    -- the bracket would be the first letter of the scheme
    cases scheme with
    | none => exact differ rfl
    | https => exact absurd (List.cons.inj same).1 (by decide)
    | upperHttps => exact absurd (List.cons.inj same).1 (by decide)
    | http => exact absurd (List.cons.inj same).1 (by decide)
    | upperHttp => exact absurd (List.cons.inj same).1 (by decide)
  · have starts : other.text <+: (trim raw).toList := (List.prefix_append _ _).trans before
    by_cases none_ : scheme = .none
    · exact entry.bare none_ other bare starts
    · have apart := schemes_apart bare none_ differ (address ++ List.replicate slashes '/')
      rw [text, List.append_assoc] at starts
      rw [stripPrefix, if_pos (List.isPrefixOf_iff_prefix.mpr starts)] at apart
      cases apart

/-- A bracket is in no scheme, and not among the slashes at the end. -/
theorem LobbyEntry.staysOpen_iff {raw : String} {scheme : LobbyScheme} {address : List Char}
    (entry : LobbyEntry raw scheme address) : StaysOpen raw ↔ OpenBracket address := by
  obtain ⟨slashes, text⟩ := entry.text
  constructor
  · rintro ⟨other, before, closed⟩
    obtain rfl := entry.scheme_of_bracket before
    rw [text, List.append_assoc, List.prefix_append_right_inj] at before
    rw [text, List.append_assoc, List.mem_append, List.mem_append, not_or, not_or] at closed
    refine ⟨?_, closed.2.1⟩
    cases address with
    | nil =>
      obtain ⟨more, same⟩ := before
      cases slashes with
      | zero => cases same
      | succ slashes => cases same
    | cons c address =>
      obtain ⟨more, same⟩ := before
      rw [List.head?_cons, ← (List.cons.inj same).1]
  · rintro ⟨opens, closed⟩
    have plain : ']' ∉ scheme.text := by cases scheme <;> decide
    refine ⟨scheme, ?_, ?_⟩
    · obtain ⟨inner, rfl⟩ := List.head?_eq_some_iff.mp opens
      rw [text, List.append_assoc, List.prefix_append_right_inj]
      exact ⟨inner ++ List.replicate slashes '/', rfl⟩
    · rw [text, List.mem_append, List.mem_append, not_or, not_or]
      exact ⟨⟨plain, closed⟩, fun member => absurd (List.eq_of_mem_replicate member) (by decide)⟩

/-- Every call returns just where no bracket stays open. -/
theorem lobby_returns_iff (env : Option String) (raw : String) (call : LobbyCall) :
    call.Returns env raw ↔ ¬ StaysOpen raw := by
  obtain ⟨scheme, address, entry⟩ := exists_lobbyEntry raw
  rw [entry.staysOpen_iff, ← parseAddress_returns_iff env scheme.secure, ← entry.parsed env]
  cases call with
  | parse => exact Iff.rfl
  | normalize => rw [LobbyCall.Returns, normalizeLobbyHost, Option.isSome_map]
  | httpBase => rw [LobbyCall.Returns, lobbyHttpBase, Option.isSome_map]
  | wsBase => rw [LobbyCall.Returns, lobbyWsBase, Option.isSome_map]
  | apiUrl path => rw [LobbyCall.Returns, lobbyApiUrl, Option.isSome_map, lobbyHttpBase, Option.isSome_map]

/-- A local host entered without its second bracket. -/
theorem open_bracket_panics : ¬ LobbyCall.parse.Returns none "[::1" := by
  have panics : parseLobbyHost none "[::1" = none := by decide +kernel
  rw [LobbyCall.Returns, panics]
  decide

end MtrxPeer
