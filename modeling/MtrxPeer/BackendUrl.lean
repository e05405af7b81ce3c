import Mathlib.Data.List.DropRight
import MtrxPeer.LlmProxy

/-! Where a remote request is posted. The consumer's path is appended to the base
URL as it came, so the server contacted is the backend's own only while the path
cannot be read as a part of the authority. -/
namespace MtrxPeer

/-! ## Reading a URL -/

/-- What decides which server a URL contacts. -/
structure Origin where
  scheme : String
  host : String
  port : Nat
  deriving DecidableEq

/-- Tabs and line breaks are dropped from a URL before it is read. -/
def droppedInUrl (c : Char) : Bool := c = '\t' || c = '\n' || c = '\r'

/-- Control characters and spaces, which are cut off at both ends. -/
def cutFromUrl (c : Char) : Bool := c.toNat ≤ 0x20

/-- The characters that end the authority of an HTTP URL. -/
def endsAuthority (c : Char) : Bool := c = '/' || c = '\\' || c = '?' || c = '#'

/-- The authority's text after the user information. -/
def hostAndPort (authority : List Char) : List Char :=
  (authority.reverse.takeWhile fun c => c ≠ '@').reverse

/-- The host's text and what follows its colon, if one stands outside brackets. -/
def splitPort : (bracketed : Bool) → List Char → List Char × Option (List Char)
  | _, [] => ([], none)
  | bracketed, c :: rest =>
    if c = ':' ∧ bracketed = false then ([], some rest)
    else
      let (host, port) := splitPort (c = '[' || bracketed && c ≠ ']') rest
      (c :: host, port)

def defaultPort (scheme : String) : Nat := if scheme = "https" then 443 else 80

/-- The port an authority names; an empty one is the default. -/
def readPort (scheme : String) (port : Option (List Char)) : Option Nat :=
  match port with
  | none | some [] => some (defaultPort scheme)
  | some digits =>
    if digits.all Char.isDigit ∧ Nat.ofDigitChars 10 digits 0 < 2 ^ 16 then
      some (Nat.ofDigitChars 10 digits 0)
    else none

/-- An authority names a server unless its host is empty or has a character no
host has, or its port is no port. -/
def readAuthority (scheme : String) (authority : List Char) : Option Origin :=
  let parts := splitPort false (hostAndPort authority)
  if parts.1 = [] ∨ parts.1.any cutFromUrl then none
  else (readPort scheme parts.2).map (⟨scheme, String.ofList parts.1, ·⟩)

/-- The scheme and the rest of a URL; only HTTP is spoken to backends. -/
def splitScheme (url : List Char) : Option (String × List Char) :=
  let scheme := (String.ofList (url.takeWhile fun c => c ≠ ':')).toLower
  match url.dropWhile fun c => c ≠ ':' with
  | _ :: rest => if scheme = "http" ∨ scheme = "https" then some (scheme, rest) else none
  | [] => none

/-- The characters of a URL that are read. -/
def urlChars (url : List Char) : List Char :=
  ((url.dropWhile cutFromUrl).rdropWhile cutFromUrl).filter fun c => !droppedInUrl c

/-- The scheme of a URL and what follows it and any number of slashes. -/
def afterScheme (url : List Char) : Option (String × List Char) :=
  (splitScheme (urlChars url)).map fun (scheme, rest) =>
    (scheme, rest.dropWhile fun c => c = '/' || c = '\\')

/-- The origin of a URL, as its parser finds it. -/
def urlOrigin (url : String) : Option Origin :=
  (afterScheme url.toList).bind fun (scheme, rest) =>
    readAuthority scheme (rest.takeWhile fun c => !endsAuthority c)

example : urlOrigin "http://127.0.0.1:11434/api/chat" = some ⟨"http", "127.0.0.1", 11434⟩ := by
  decide +kernel

/-! ## Appending a path -/

/-- A base URL that goes on after its authority. -/
def authorityClosed (url : String) : Bool :=
  (afterScheme url.toList).any fun (_, rest) => rest.any endsAuthority

/-- A path that cannot be read as a part of the authority before it. -/
def startsPath (path : String) : Bool := path.toList.head?.all endsAuthority

private theorem endsAuthority_kept {c : Char} (ends : endsAuthority c = true) :
    cutFromUrl c = false ∧ droppedInUrl c = false := by
  simp only [endsAuthority, Bool.or_eq_true, decide_eq_true_eq] at ends
  rcases ends with ((rfl | rfl) | rfl) | rfl <;> decide

private theorem cut_not_special {c : Char} (cut : cutFromUrl c = true) :
    endsAuthority c = false ∧ c ≠ '@' ∧ c ≠ ':' ∧ c.isDigit = false := by
  have low : c.toNat ≤ 0x20 := by simpa [cutFromUrl] using cut
  refine ⟨?_, ?_, ?_, ?_⟩
  · by_contra ends
    rw [Bool.not_eq_false] at ends
    rw [(endsAuthority_kept ends).1] at cut
    cases cut
  · rintro rfl
    exact absurd low (by decide)
  · rintro rfl
    exact absurd low (by decide)
  · by_contra digit
    rw [Bool.not_eq_false, Char.isDigit, Bool.and_eq_true, decide_eq_true_eq] at digit
    have high : 48 ≤ c.toNat := UInt32.le_iff_toNat_le.mp digit.1
    omega

private theorem span_append {α : Type} {p : α → Bool} {a : List α} (b : List α)
    (stops : a.dropWhile p ≠ []) :
    (a ++ b).takeWhile p = a.takeWhile p ∧ (a ++ b).dropWhile p = a.dropWhile p ++ b := by
  induction a with
  | nil => simp at stops
  | cons c a ih =>
    by_cases passes : p c = true
    · rw [List.dropWhile_cons_of_pos passes] at stops
      obtain ⟨taken, dropped⟩ := ih stops
      simp [List.takeWhile_cons_of_pos passes, List.dropWhile_cons_of_pos passes, taken, dropped]
    · simp [List.takeWhile_cons_of_neg passes, List.dropWhile_cons_of_neg passes]

/-- The characters of a URL and an appended path: those of the URL alone, or with
cut characters and those of the path after them. -/
private theorem urlChars_append (url path : List Char) (nonempty : urlChars url ≠ []) :
    urlChars (url ++ path) = urlChars url ∨
      ∃ spaces, (∀ c ∈ spaces, cutFromUrl c = true) ∧ path.rdropWhile cutFromUrl ≠ [] ∧
        urlChars (url ++ path) = urlChars url ++
          (spaces ++ (path.rdropWhile cutFromUrl).filter fun c => !droppedInUrl c) := by
  have starts : url.dropWhile cutFromUrl ≠ [] := by
    intro empty
    exact nonempty (by simp [urlChars, empty])
  have front : (url ++ path).dropWhile cutFromUrl = url.dropWhile cutFromUrl ++ path :=
    (span_append path starts).2
  simp only [urlChars, front]
  by_cases blank : path.rdropWhile cutFromUrl = []
  · left
    have all : ∀ c ∈ path.reverse, cutFromUrl c = true := by
      simpa using List.rdropWhile_eq_nil_iff.mp blank
    rw [List.rdropWhile, List.reverse_append, List.dropWhile_append_of_pos all, List.rdropWhile]
  · right
    refine ⟨((url.dropWhile cutFromUrl).rtakeWhile cutFromUrl).filter fun c => !droppedInUrl c,
      ?_, blank, ?_⟩
    · intro c member
      exact List.mem_rtakeWhile_imp (List.mem_filter.mp member).1
    · have stops : path.reverse.dropWhile cutFromUrl ≠ [] := by
        simpa [List.rdropWhile] using blank
      have back : (url.dropWhile cutFromUrl ++ path).rdropWhile cutFromUrl =
          url.dropWhile cutFromUrl ++ path.rdropWhile cutFromUrl := by
        rw [List.rdropWhile, List.reverse_append, (span_append _ stops).2, List.reverse_append,
          List.reverse_reverse, List.rdropWhile]
      have halves : (url.dropWhile cutFromUrl).rdropWhile cutFromUrl ++
          (url.dropWhile cutFromUrl).rtakeWhile cutFromUrl = url.dropWhile cutFromUrl :=
        List.rdropWhile_append_rtakeWhile
      have whole := congrArg (List.filter fun c => !droppedInUrl c) halves
      rw [List.filter_append] at whole
      rw [back, List.filter_append, ← List.append_assoc, whole]

/-- What follows the scheme of a URL that goes on. -/
private theorem afterScheme_append {url path extra : List Char} {scheme : String}
    {rest : List Char} (read : afterScheme url = some (scheme, rest)) (nonempty : rest ≠ [])
    (chars : urlChars (url ++ path) = urlChars url ++ extra) :
    afterScheme (url ++ path) = some (scheme, rest ++ extra) := by
  obtain ⟨⟨scheme', raw⟩, split, same⟩ := Option.map_eq_some_iff.mp read
  obtain ⟨rfl, rfl⟩ := Prod.mk.inj same
  have stops : (urlChars url).dropWhile (fun c => c ≠ ':') ≠ [] := by
    intro empty
    simp only [splitScheme, empty] at split
    cases split
  obtain ⟨taken, dropped⟩ := span_append extra stops
  have split' : splitScheme (urlChars url ++ extra) = some (scheme', raw ++ extra) := by
    cases found : (urlChars url).dropWhile fun c => c ≠ ':' with
    | nil => exact absurd found stops
    | cons colon tail =>
      simp only [splitScheme, found, taken, dropped, List.cons_append] at split ⊢
      split_ifs at split ⊢ with http
      obtain ⟨rfl, rfl⟩ := Prod.mk.inj (Option.some.inj split)
      rfl
  rw [afterScheme, chars, split', Option.map_some]
  exact congrArg (fun rest => some (scheme', rest)) (span_append extra nonempty).2

/-! ## Characters after the authority -/

private theorem splitPort_append {tail : List Char} (noColon : ∀ c ∈ tail, c ≠ ':')
    (bracketed : Bool) (text : List Char) :
    splitPort bracketed (text ++ tail) =
      match splitPort bracketed text with
      | (host, some port) => (host, some (port ++ tail))
      | (host, none) => (host ++ tail, none) := by
  induction text generalizing bracketed with
  | nil =>
    have whole : ∀ bracketed, splitPort bracketed tail = (tail, none) := by
      induction tail with
      | nil => exact fun _ => rfl
      | cons c tail ih =>
        intro bracketed
        have first : c ≠ ':' := noColon c List.mem_cons_self
        simp [splitPort, first, ih fun d member => noColon d (List.mem_cons_of_mem _ member)]
    simp [splitPort, whole]
  | cons c text ih =>
    simp only [List.cons_append, splitPort]
    split_ifs with colon
    · rfl
    · rw [ih]
      cases found : splitPort (c = '[' || bracketed && c ≠ ']') text with
      | mk host port => cases port <;> rfl

/-- An authority with cut characters at its end names no server. -/
private theorem readAuthority_cut {scheme : String} {authority spaces : List Char} {origin : Origin}
    (cut : ∀ c ∈ spaces, cutFromUrl c = true)
    (read : readAuthority scheme (authority ++ spaces) = some origin) : spaces = [] := by
  by_contra nonempty
  obtain ⟨c, member⟩ := List.exists_mem_of_ne_nil spaces nonempty
  have kept : hostAndPort (authority ++ spaces) = hostAndPort authority ++ spaces := by
    have pass : ∀ c ∈ spaces.reverse, decide (c ≠ '@') = true :=
      fun c member => by simpa using (cut_not_special (cut c (List.mem_reverse.mp member))).2.1
    rw [hostAndPort, List.reverse_append, List.takeWhile_append_of_pos pass, List.reverse_append,
      List.reverse_reverse, hostAndPort]
  have noColon : ∀ c ∈ spaces, c ≠ ':' := fun c member => (cut_not_special (cut c member)).2.2.1
  simp only [readAuthority, kept, splitPort_append noColon] at read
  cases parts : splitPort false (hostAndPort authority) with
  | mk host port =>
    simp only [parts] at read
    cases port with
    | none =>
      have found : (host ++ spaces).any cutFromUrl = true :=
        List.any_eq_true.mpr ⟨c, List.mem_append_right _ member, cut c member⟩
      simp [found] at read
    | some port =>
      have noPort : readPort scheme (some (port ++ spaces)) = none := by
        cases joined : port ++ spaces with
        | nil => simp [nonempty] at joined
        | cons first rest =>
          have found : (first :: rest).all Char.isDigit = false := by
            rw [← joined, List.all_eq_false]
            exact ⟨c, List.mem_append_right _ member, by simp [(cut_not_special (cut c member)).2.2.2]⟩
          simp [readPort, found]
      simp only [noPort, Option.map_none] at read
      split_ifs at read

/-- A path that starts as one, or a base URL that goes on after its authority,
leaves the server contacted the one of the base URL. -/
theorem urlOrigin_append {base path : String} {own origin : Origin}
    (known : urlOrigin base = some own) (safe : authorityClosed base = true ∨ startsPath path = true)
    (contacted : urlOrigin (base ++ path) = some origin) : origin = own := by
  obtain ⟨⟨scheme, rest⟩, read, authority⟩ := Option.bind_eq_some_iff.mp known
  dsimp only at authority
  have chars : urlChars base.toList ≠ [] := by
    intro empty
    simp only [afterScheme, empty, splitScheme] at read
    cases read
  have nonempty : rest ≠ [] := by
    rintro rfl
    simp [readAuthority, hostAndPort, splitPort] at authority
  simp only [urlOrigin, String.toList_append] at contacted
  rcases urlChars_append base.toList path.toList chars with same | ⟨spaces, cut, long, appended⟩
  · have unchanged := afterScheme_append read nonempty (same.trans (List.append_nil _).symm)
    simp only [unchanged, List.append_nil, Option.bind_some] at contacted
    exact Option.some.inj (contacted.symm.trans authority)
  · rw [afterScheme_append read nonempty appended, Option.bind_some] at contacted
    by_cases closed : rest.any endsAuthority = true
    · have stops : rest.dropWhile (fun c => !endsAuthority c) ≠ [] := by
        intro all
        obtain ⟨c, member, ends⟩ := List.any_eq_true.mp closed
        have passed := List.dropWhile_eq_nil_iff.mp all c member
        simp [ends] at passed
      rw [(span_append _ stops).1] at contacted
      exact Option.some.inj (contacted.symm.trans authority)
    · have open' : ∀ c ∈ rest, (!endsAuthority c) = true := by
        simpa [List.any_eq_true] using closed
      have starts : startsPath path = true := by
        refine safe.resolve_left ?_
        simp only [authorityClosed, read, Option.any_some]
        exact closed
      have spacesPass : ∀ c ∈ spaces, (!endsAuthority c) = true :=
        fun c member => by simp [(cut_not_special (cut c member)).1]
      have tailStops : ((path.toList.rdropWhile cutFromUrl).filter fun c => !droppedInUrl c).takeWhile
          (fun c => !endsAuthority c) = [] := by
        cases start : path.toList.rdropWhile cutFromUrl with
        | nil => exact absurd start long
        | cons c tail =>
          have head : path.toList.head? = some c := by
            obtain ⟨back, whole⟩ := List.rdropWhile_prefix cutFromUrl path.toList
            rw [← whole, start]
            rfl
          have ends : endsAuthority c = true := by simpa [startsPath, head] using starts
          simp [(endsAuthority_kept ends).2, ends]
      rw [List.takeWhile_append_of_pos open', List.takeWhile_append_of_pos spacesPass, tailStops,
        List.append_nil] at contacted
      obtain rfl := readAuthority_cut cut contacted
      rw [List.takeWhile_eq_self_iff.mpr open'] at authority
      rw [List.append_nil] at contacted
      exact Option.some.inj (contacted.symm.trans authority)

/-! ## Requests -/

/-- A remote request is posted to the selected backend's base URL followed by the
path the consumer sent, or by the chat path of a backend that does not speak
Ollama, and it contacts that backend's own server unless the path can be read as a
part of the authority. -/
theorem posted_to_selected_backend {registry : Registry} {call : BackendCall} {url : String}
    {body : Json} (posted : forwardChatStream registry call = .post url body) :
    ∃ backend, selectedBackend registry call.model = some backend ∧
      (url = backend.baseUrl ++ call.path ∨
        url = backend.baseUrl ++ "/v1/chat/completions" ∧ call.path = "/api/chat") ∧
      ∀ own, urlOrigin backend.baseUrl = some own →
        authorityClosed backend.baseUrl = true ∨ startsPath call.path = true →
        ∀ origin, urlOrigin url = some origin → origin = own := by
  cases selected : selectedBackend registry call.model with
  | none => simp [forwardChatStream, selected] at posted
  | some backend =>
    have target : url = backend.baseUrl ++ forwardPath backend call.path := by
      simp only [forwardChatStream, selected] at posted
      split_ifs at posted with translated
      · split at posted
        · exact (Forwarded.post.inj posted).1.symm
        · cases posted
      · exact (Forwarded.post.inj posted).1.symm
    refine ⟨backend, rfl, ?_, ?_⟩
    · by_cases translated : translatesOllamaChat backend call.path = true
      · right
        have chat : call.path = "/api/chat" := by
          simp only [translatesOllamaChat, Bool.and_eq_true, decide_eq_true_eq] at translated
          exact translated.2
        exact ⟨by rw [target, forwardPath, if_pos translated], chat⟩
      · left
        rw [target, forwardPath, if_neg translated]
    · intro own known safe origin contacted
      rw [target] at contacted
      refine urlOrigin_append known (safe.imp_right fun starts => ?_) contacted
      unfold forwardPath
      split_ifs
      · rfl
      · exact starts

private def localOllama : Registry where
  servers := [⟨"local", 0, .fromServerEntry .ollama "http://127.0.0.1:11434"⟩]
  modelRoutes := fun _ => none

/-- A plain chat request. -/
theorem posted_to_selected_backend_sample :
    ∃ backend, selectedBackend localOllama "llama3" = some backend ∧
      ("http://127.0.0.1:11434/api/chat" = backend.baseUrl ++ "/api/chat" ∨
        "http://127.0.0.1:11434/api/chat" = backend.baseUrl ++ "/v1/chat/completions" ∧
          "/api/chat" = "/api/chat") ∧
      ∀ own, urlOrigin backend.baseUrl = some own →
        authorityClosed backend.baseUrl = true ∨ startsPath "/api/chat" = true →
        ∀ origin, urlOrigin "http://127.0.0.1:11434/api/chat" = some origin → origin = own := by
  have posted : forwardChatStream localOllama ⟨"/api/chat", .obj [], "llama3"⟩ =
      .post "http://127.0.0.1:11434/api/chat" (.obj []) := by
    rfl
  exact posted_to_selected_backend posted

/-- A path that starts with an at sign posts to another host, and a management
path is posted as it is. -/
theorem paths_reach_elsewhere :
    (∃ url body, forwardChatStream localOllama ⟨"@evil.example/api/chat", .obj [], "llama3"⟩ =
        .post url body ∧ urlOrigin url = some ⟨"http", "evil.example", 80⟩) ∧
      ∃ body, forwardChatStream localOllama ⟨"/api/pull", .obj [("model", .str "m")], "m"⟩ =
        .post "http://127.0.0.1:11434/api/pull" body := by
  constructor
  · exact ⟨_, _, rfl, by decide +kernel⟩
  · exact ⟨_, rfl⟩

end MtrxPeer
