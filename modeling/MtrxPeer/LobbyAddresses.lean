import MtrxPeer.LobbyUrl

/-! Which addresses of the lobby can be stored and read again: those that name a host, with or
without a port, in the way that the reader itself writes them, unless what is stored loses a
scheme that nothing else implies. -/
namespace MtrxPeer

/-! ## Addresses that name a host -/

/-- A text that begins with no white space and no bracket. -/
def PlainStart (text : List Char) : Prop := ∀ c ∈ text.head?, isWhitespace c = false ∧ c ≠ '['

/-- The address names the host and, if it has one, the port: a name with at most one colon, and a
port behind it; or a host in brackets with anything behind. -/
inductive NamesHost : (address host : List Char) → Option Nat → Prop where
  | bare {host : List Char} (start : PlainStart host) (plain : ':' ∉ host) : NamesHost host host none
  | withPort {host digits : List Char} {port : Nat} (start : PlainStart (host ++ ':' :: digits))
      (plain : ':' ∉ host) (read : parseU16 digits = some port) :
      NamesHost (host ++ ':' :: digits) host (some port)
  | brackets {inner rest : List Char} (closed : ']' ∉ inner) :
      NamesHost ('[' :: (inner ++ ']' :: rest)) ('[' :: (inner ++ [']'])) ((stripPrefix [':'] rest).bind parseU16)

/-- The scheme is said again by what is stored: it asks for no TLS, or the environment, the host
or the port does as well. -/
def SchemeImplied (env : Option String) (scheme : LobbyScheme) (host : List Char) (port : Option Nat) : Prop :=
  scheme.secure = true → lobbyTlsEnv env = true ∨ hostUsesTlsByDefault host = true ∨ port.getD 443 = 443

/-- An entry that can be stored: its address names a host, and its scheme is implied. -/
def Storable (env : Option String) (raw : String) : Prop :=
  ∃ scheme address host port, LobbyEntry raw scheme address ∧ NamesHost address host port ∧
    SchemeImplied env scheme host port

/-- Storing the entry and reading it again changes nothing, and both base URLs stay the same. -/
def MeaningKept (env : Option String) (raw : String) : Prop :=
  ∃ stored, normalizeLobbyHost env raw = some stored ∧ normalizeLobbyHost env stored = some stored ∧
    lobbyHttpBase env stored = lobbyHttpBase env raw ∧ lobbyWsBase env stored = lobbyWsBase env raw

/-! ## Ports -/

theorem parseU16_toDigits {port : Nat} (small : port < 2 ^ 16) : parseU16 (Nat.toDigits 10 port) = some port := by
  have digits : ∀ c ∈ Nat.toDigits 10 port, c.isDigit = true :=
    fun c member => Nat.isDigit_of_mem_toDigits (by decide) (by decide) member
  have unsigned : (Nat.toDigits 10 port).head? ≠ some '+' := fun sign =>
    absurd (digits '+' (List.mem_of_mem_head? sign)) (by decide)
  have read : parseU32 (Nat.toDigits 10 port) = some port := by
    rw [parseU32, if_neg unsigned, Nat.ofDigitChars_ten_toDigits]
    exact if_pos ⟨Nat.toDigits_ne_nil, List.all_eq_true.mpr digits, by omega⟩
  rw [parseU16, read]
  exact Option.filter_some_pos (by simpa using small)

/-- A port is read from digits, behind a sign or not. -/
theorem parseU16_chars {text : List Char} {port : Nat} (read : parseU16 text = some port) :
    port < 2 ^ 16 ∧ ∀ c ∈ text, c = '+' ∨ c.isDigit = true := by
  obtain ⟨read, small⟩ := Option.filter_eq_some_iff.mp read
  refine ⟨of_decide_eq_true small, ?_⟩
  have all : (if text.head? = some '+' then text.tail else text).all Char.isDigit = true := by
    by_contra other
    rw [parseU32, if_neg fun fits => other fits.2.1] at read
    cases read
  have digits := List.all_eq_true.mp all
  intro c member
  by_cases sign : text.head? = some '+'
  · rw [if_pos sign] at digits
    obtain ⟨rest, rfl⟩ := List.head?_eq_some_iff.mp sign
    rcases List.mem_cons.mp member with rfl | later
    · exact .inl rfl
    · exact .inr (digits c later)
  · rw [if_neg sign] at digits
    exact .inr (digits c member)

private theorem colon_not_in_port {text : List Char} {port : Nat} (read : parseU16 text = some port) :
    ':' ∉ text := fun member => by
  rcases (parseU16_chars read).2 ':' member with same | digit
  · exact absurd same (by decide)
  · exact absurd digit (by decide)

/-! ## What is stored -/

/-- What is stored of a host and a port. -/
def storedText (host : List Char) (port : Nat) : List Char := host ++ ':' :: Nat.toDigits 10 port

section Stored

variable {env : Option String} {tls : Bool} {address host : List Char} {port : Option Nat}

private theorem plainStart_append (host rest : List Char) : PlainStart (host ++ ':' :: rest) ↔ PlainStart host := by
  cases host with
  | nil => exact iff_of_true (by simp [PlainStart]; decide) (by simp [PlainStart])
  | cons c host => simp [PlainStart]

private theorem PlainStart.no_bracket (start : PlainStart address) : address.head? ≠ some '[' :=
  fun bracket => (start '[' bracket).2 rfl

theorem NamesHost.split (names : NamesHost address host port) : splitHostPort address = some (host, port) := by
  cases names with
  | bare start plain => rw [splitHostPort, if_neg start.no_bracket, rsplitOnce_none plain]
  | withPort start plain read =>
    rw [splitHostPort, if_neg start.no_bracket, rsplitOnce_append _ (colon_not_in_port read)]
    simp only [read, plain, false_and, if_false]
  | brackets closed => exact splitHostPort_brackets closed _

/-- The stored text names the same host, and its port. -/
theorem NamesHost.stored (names : NamesHost address host port) {given : Nat} (small : given < 2 ^ 16) :
    NamesHost (storedText host given) host (some given) := by
  cases names with
  | bare start plain =>
    exact .withPort ((plainStart_append _ _).mpr start) plain (parseU16_toDigits small)
  | withPort start plain read =>
    have start := (plainStart_append _ _).mp start
    exact .withPort ((plainStart_append _ _).mpr start) plain (parseU16_toDigits small)
  | @brackets inner rest closed =>
    have read : (stripPrefix [':'] (':' :: Nat.toDigits 10 given)).bind parseU16 = some given := by
      rw [stripPrefix_eq_some_iff.mpr (List.singleton_append (x := ':')).symm, Option.bind_some,
        parseU16_toDigits small]
    have again := @NamesHost.brackets inner (':' :: Nat.toDigits 10 given) closed
    rw [read] at again
    have text : storedText ('[' :: (inner ++ [']'])) given =
        '[' :: (inner ++ ']' :: ':' :: Nat.toDigits 10 given) := by simp [storedText]
    rwa [text]

private theorem split_at_colon {front front' back back' : List Char} (plain : ':' ∉ front) (plain' : ':' ∉ front')
    (same : front ++ ':' :: back = front' ++ ':' :: back') : front = front' ∧ back = back' := by
  have before : ∀ {front : List Char}, ':' ∉ front → ∀ back,
      (front ++ ':' :: back).takeWhile (· ≠ ':') = front := by
    intro front plain back
    rw [List.takeWhile_append_of_pos]
    · simp
    · exact fun c member => decide_eq_true fun colon => plain (colon ▸ member)
  obtain rfl : front = front' := by rw [← before plain back, same, before plain' back']
  exact ⟨rfl, (List.cons.inj (List.append_cancel_left same)).2⟩

/-- No address that names a host begins with white space. -/
theorem NamesHost.start (names : NamesHost address host port) : ∀ c ∈ address.head?, isWhitespace c = false := by
  cases names with
  | bare start plain => exact fun c member => (start c member).1
  | withPort start plain read => exact fun c member => (start c member).1
  | brackets closed =>
    intro c member
    rw [← Option.some.inj member]
    decide

/-- No address that names a host begins with a scheme. -/
theorem NamesHost.no_scheme (names : NamesHost address host port) {scheme : LobbyScheme}
    (some_ : scheme ≠ .none) : ¬ scheme.text <+: address := by
  obtain ⟨word, text, plain, letter⟩ : ∃ word, scheme.text = word ++ [':', '/', '/'] ∧ ':' ∉ word ∧
      word.head? ≠ some '[' ∧ word ≠ [] := by
    cases scheme with
    | none => exact absurd rfl some_
    | https => exact ⟨"https".toList, by decide⟩
    | upperHttps => exact ⟨"HTTPS".toList, by decide⟩
    | http => exact ⟨"http".toList, by decide⟩
    | upperHttp => exact ⟨"HTTP".toList, by decide⟩
  rw [text]
  rintro ⟨more, same⟩
  rw [List.append_assoc] at same
  cases names with
  | bare start plain' => exact plain' (by rw [← same]; simp)
  | withPort start plain' read =>
    -- the one colon is followed by a port and not by slashes
    obtain ⟨-, digits⟩ := split_at_colon plain plain' same
    have slash := (parseU16_chars read).2 '/' (by rw [← digits]; simp)
    exact absurd slash (by decide)
  | brackets closed =>
    cases word with
    | nil => exact letter.2 rfl
    | cons c word => exact letter.1 (congrArg some (List.cons.inj same).1)

private theorem storedText_last (host : List Char) (given : Nat) :
    ∃ c ∈ (storedText host given).getLast?, c.isDigit = true := by
  obtain ⟨c, last⟩ := Option.ne_none_iff_exists'.mp (mt List.getLast?_eq_none_iff.mp
    (Nat.toDigits_ne_nil (n := given) (b := 10)))
  refine ⟨c, ?_, Nat.isDigit_of_mem_toDigits (by decide) (by decide) (List.mem_of_getLast? last)⟩
  rw [storedText, List.append_cons, List.getLast?_append, last]
  rfl

private theorem digit_solid {c : Char} (digit : c.isDigit = true) : isWhitespace c = false ∧ c ≠ '/' := by
  constructor
  · simp only [Char.isDigit, Bool.and_eq_true, decide_eq_true_eq, ge_iff_le, UInt32.le_iff_toNat_le, Char.toNat_val,
      Char.reduceToNat] at digit
    rw [isWhitespace, decide_eq_false_iff_not]
    omega
  · rintro rfl
    exact absurd digit (by decide)

/-- A text that ends in a port and does not begin with white space is trimmed. -/
private theorem trim_storedText {host : List Char} {given : Nat}
    (start : ∀ c ∈ (storedText host given).head?, isWhitespace c = false) :
    (trim (String.ofList (storedText host given))).toList = storedText host given := by
  obtain ⟨c, last, digit⟩ := storedText_last host given
  rw [trim_of_trimmed, String.toList_ofList]
  refine ⟨start, fun d member => ?_⟩
  obtain rfl : c = d := Option.some.inj (last.symm.trans member)
  exact (digit_solid digit).1

/-- Entered again, the stored text is an address without a scheme. -/
theorem NamesHost.storedEntry (names : NamesHost address host port) {given : Nat} (small : given < 2 ^ 16) :
    LobbyEntry (String.ofList (storedText host given)) .none (storedText host given) := by
  have again := names.stored small
  have trimmed : (trim (String.ofList (storedText host given))).toList = storedText host given :=
    trim_storedText again.start
  constructor
  · refine ⟨0, ?_⟩
    rw [trimmed, List.replicate_zero, List.append_nil]
    rfl
  · intro _ other some_
    rw [trimmed]
    exact again.no_scheme some_
  · obtain ⟨c, last, digit⟩ := storedText_last host given
    rw [last, Option.some_inj.ne]
    exact (digit_solid digit).2

/-- Whether TLS is used without regard to the port. -/
private def asksTls (env : Option String) (tls : Bool) (host : List Char) : Bool :=
  (tls || lobbyTlsEnv env) || hostUsesTlsByDefault host

/-- The port that is contacted. -/
private def portOf (env : Option String) (tls : Bool) (host : List Char) (port : Option Nat) : Nat :=
  port.getD (if asksTls env tls host then 443 else 8080)

private theorem parseAddress_split (split_ : splitHostPort address = some (host, port)) :
    parseAddress env tls address = some ⟨String.ofList (storedText host (portOf env tls host port)),
      asksTls env tls host || portOf env tls host port = 443⟩ := by
  rw [parseAddress, split_]
  rfl

/-- Without a bracket at its start, an address is taken for the host as a whole, or split at its
one colon. -/
private theorem splitHostPort_plain (plain : address.head? ≠ some '[')
    (split_ : splitHostPort address = some (host, port)) :
    host = address ∧ port = none ∨
      ∃ digits given, address = host ++ ':' :: digits ∧ ':' ∉ host ∧ parseU16 digits = some given ∧
        port = some given := by
  rw [splitHostPort, if_neg plain] at split_
  cases parts : rsplitOnce ':' address with
  | none =>
    rw [parts] at split_
    obtain ⟨rfl, rfl⟩ := Prod.mk.inj (Option.some.inj split_)
    exact .inl ⟨rfl, rfl⟩
  | some halves =>
    obtain ⟨front, digits⟩ := halves
    obtain ⟨whole, -⟩ := rsplitOnce_some parts
    simp only [parts] at split_
    cases read : parseU16 digits with
    | none =>
      simp only [read, Option.some.injEq, Prod.mk.injEq] at split_
      exact .inl ⟨split_.1.symm, split_.2.symm⟩
    | some given =>
      have same : front.head? ≠ some '[' := by
        cases front with
        | nil => simp
        | cons c front =>
          rw [whole] at plain
          exact plain
      simp only [read, ne_eq, same, not_false_eq_true, and_true] at split_
      split at split_
      · obtain ⟨rfl, rfl⟩ := Prod.mk.inj (Option.some.inj split_)
        exact .inl ⟨rfl, rfl⟩
      · rename_i one
        obtain ⟨rfl, rfl⟩ := Prod.mk.inj (Option.some.inj split_)
        exact .inr ⟨digits, given, whole, one, read, rfl⟩

/-- The host is a part of the address, and a port is a port. -/
private theorem splitHostPort_parts (split_ : splitHostPort address = some (host, port)) :
    host <+: address ∧ ∀ given ∈ port, given < 2 ^ 16 := by
  by_cases opens : address.head? = some '['
  · rw [splitHostPort, if_pos opens] at split_
    obtain ⟨front, taken, same⟩ := Option.bind_eq_some_iff.mp split_
    obtain ⟨rfl, rfl⟩ := Prod.mk.inj (Option.some.inj same)
    obtain ⟨back, whole, -⟩ := takeBytes_eq_some_iff.mp taken
    refine ⟨⟨back, whole.symm⟩, fun given member => ?_⟩
    obtain ⟨text, -, read⟩ := Option.bind_eq_some_iff.mp member
    exact (parseU16_chars read).1
  · rcases splitHostPort_plain opens split_ with ⟨rfl, rfl⟩ | ⟨digits, given, rfl, -, read, rfl⟩
    · exact ⟨List.prefix_rfl, by simp⟩
    · refine ⟨List.prefix_append _ _, fun other same => ?_⟩
      obtain rfl := Option.some.inj same
      exact (parseU16_chars read).1

private theorem portOf_small (split_ : splitHostPort address = some (host, port)) :
    portOf env tls host port < 2 ^ 16 := by
  rw [portOf]
  cases port with
  | none =>
    rw [Option.getD_none]
    split <;> decide
  | some given => exact (splitHostPort_parts split_).2 given rfl

private theorem httpBase_inj {tls tls' : Bool} {hostPort : String}
    (same : (if tls then "https" else "http") ++ "://" ++ hostPort =
      (if tls' then "https" else "http") ++ "://" ++ hostPort) : tls = tls' := by
  have lengths := congrArg String.length same
  cases tls <;> cases tls' <;> simp_all [String.length_append]

/-- The two readings agree about TLS just where the scheme is implied. -/
private theorem tls_again_iff (env : Option String) (scheme : LobbyScheme) (host : List Char) (port : Option Nat) :
    (asksTls env false host || decide (portOf env scheme.secure host port = 443)) =
        (asksTls env scheme.secure host || decide (portOf env scheme.secure host port = 443)) ↔
      SchemeImplied env scheme host port := by
  cases secure : scheme.secure with
  | false => exact iff_of_true rfl fun asked => absurd (secure.symm.trans asked) Bool.false_ne_true
  | true => simp [asksTls, portOf, SchemeImplied, secure, or_assoc]

/-- An entry that names a host keeps its meaning just where its scheme is implied. -/
theorem NamesHost.kept_iff {raw : String} {scheme : LobbyScheme} (entry : LobbyEntry raw scheme address)
    (names : NamesHost address host port) : MeaningKept env raw ↔ SchemeImplied env scheme host port := by
  have small : portOf env scheme.secure host port < 2 ^ 16 := portOf_small names.split
  have first := (entry.parsed env).trans (parseAddress_split names.split)
  have second := ((names.storedEntry small).parsed env).trans (parseAddress_split (names.stored small).split)
  have again : portOf env LobbyScheme.none.secure host (some (portOf env scheme.secure host port)) =
      portOf env scheme.secure host port := rfl
  rw [again] at second
  rw [← tls_again_iff, MeaningKept]
  simp only [normalizeLobbyHost, lobbyHttpBase, lobbyWsBase, first, Option.map_some, Option.some.injEq,
    exists_eq_left', second, true_and]
  constructor
  · exact fun bases => httpBase_inj bases.1
  · intro same
    rw [show LobbyScheme.none.secure = false from rfl, same]
    exact ⟨rfl, rfl⟩

/-! ## Other addresses -/

/-- Of an address that names no host, the part that is taken for the host begins with white space
or is the whole address, with its colons. -/
private theorem unnamed_host (split_ : splitHostPort address = some (host, port))
    (unnamed : ∀ host port, ¬ NamesHost address host port) :
    (∃ c ∈ host.head?, isWhitespace c = true) ∨ PlainStart address ∧ host = address ∧ ':' ∈ address := by
  have opens : address.head? ≠ some '[' := by
    intro bracket
    obtain ⟨inner, rfl⟩ := List.head?_eq_some_iff.mp bracket
    have stays := (splitHostPort_returns_iff _).mp (Option.isSome_iff_exists.mpr ⟨_, split_⟩)
    by_cases closes : ']' ∈ inner
    · obtain ⟨front, rest, rfl, closed⟩ := List.eq_append_cons_of_mem closes
      exact unnamed _ _ (.brackets closed)
    · exact stays ⟨rfl, by simp [closes]⟩
  by_cases start : PlainStart host
  · right
    rcases splitHostPort_plain opens split_ with ⟨rfl, rfl⟩ | ⟨digits, given, rfl, one, read, rfl⟩
    · exact ⟨start, rfl, by_contra fun one => unnamed _ _ (.bare start one)⟩
    · exact absurd (.withPort ((plainStart_append _ _).mpr start) one read) (unnamed _ _)
  · left
    simp only [PlainStart, not_forall, Classical.not_and_iff_not_or_not] at start
    obtain ⟨c, member, white | bracket⟩ := start
    · exact ⟨c, member, by simpa using white⟩
    · obtain ⟨rest, whole⟩ := (splitHostPort_parts split_).1
      rw [← whole] at opens
      obtain ⟨more, rfl⟩ := List.head?_eq_some_iff.mp member
      exact absurd (congrArg some (not_not.mp bracket)) opens

private theorem storedText_length (host : List Char) {given : Nat} (small : given < 2 ^ 16) :
    (storedText host given).length ≤ host.length + 6 := by
  have digits : (Nat.toDigits 10 given).length ≤ 5 :=
    (Nat.length_toDigits_le_iff (by decide) (by decide)).mpr (by omega)
  rw [storedText, List.length_append, List.length_cons]
  omega

/-- What is stored of an entry. -/
private theorem LobbyEntry.stored {raw : String} {scheme : LobbyScheme} (entry : LobbyEntry raw scheme address)
    {text : List Char} (read : normalizeLobbyHost env raw = some (String.ofList text)) :
    ∃ host port, splitHostPort address = some (host, port) ∧
      text = storedText host (portOf env scheme.secure host port) := by
  rw [normalizeLobbyHost, entry.parsed env] at read
  cases split_ : splitHostPort address with
  | none => simp [parseAddress, split_] at read
  | some parts =>
    obtain ⟨host, port⟩ := parts
    rw [parseAddress_split split_, Option.map_some, Option.some.injEq] at read
    exact ⟨host, port, rfl, (String.ofList_injective read).symm⟩

/-- An entry with a scheme is stored as something shorter. -/
private theorem LobbyEntry.stored_shorter {raw : String} {scheme : LobbyScheme}
    (entry : LobbyEntry raw scheme address) (some_ : scheme ≠ .none) {text : List Char}
    (read : normalizeLobbyHost env raw = some (String.ofList text)) : text.length < (trim raw).toList.length := by
  obtain ⟨host, port, split_, rfl⟩ := entry.stored read
  obtain ⟨slashes, whole⟩ := entry.text
  have shorter := (splitHostPort_parts split_).1.length_le
  have stored := storedText_length host (@portOf_small env scheme.secure _ _ _ split_)
  have long := scheme.text_length some_
  rw [whole, List.length_append, List.length_append]
  omega

private theorem trim_length (text : String) : (trim text).toList.length ≤ text.toList.length := by
  have back := ((text.toList.dropWhile isWhitespace).reverse.dropWhile_sublist isWhitespace).length_le
  have front := (text.toList.dropWhile_sublist isWhitespace).length_le
  rw [trim, String.toList_ofList, List.length_reverse]
  rw [List.length_reverse] at back
  omega

/-- A text with a port is not the start of slashes. -/
private theorem no_slashes {given slashes : Nat} (whole : storedText host given = address ++ List.replicate slashes '/') :
    address = storedText host given := by
  cases slashes with
  | zero => rw [whole, List.replicate_zero, List.append_nil]
  | succ slashes =>
    obtain ⟨c, last, digit⟩ := storedText_last host given
    rw [whole, List.replicate_succ', ← List.append_assoc, List.getLast?_concat] at last
    obtain rfl := Option.some.inj last
    exact absurd digit (by decide)

/-- A host with a colon and a port are read as a host without one. -/
private theorem splitHostPort_colons (start : PlainStart host) (colon : ':' ∈ host) (given : Nat) :
    splitHostPort (storedText host given) = some (storedText host given, none) := by
  have digits : ':' ∉ Nat.toDigits 10 given := fun member =>
    absurd (Nat.isDigit_of_mem_toDigits (by decide) (by decide) member) (by decide)
  have opens : (storedText host given).head? ≠ some '[' := ((plainStart_append _ _).mpr start).no_bracket
  rw [splitHostPort, if_neg opens, storedText, rsplitOnce_append host digits]
  dsimp only
  split
  · exact if_pos ⟨colon, start.no_bracket⟩
  · rfl

/-- White space at the start is trimmed off before a second reading. -/
private theorem stored_spaced {c : Char} (member : c ∈ host.head?) (white : isWhitespace c = true) {given given' : Nat}
    {host' : List Char} (split' : splitHostPort address = some (host', port))
    {slashes : List Char} (whole : (trim (String.ofList (storedText host given))).toList = address ++ slashes) :
    storedText host given ≠ storedText host' given' := by
  intro same
  obtain ⟨rest, rfl⟩ := List.head?_eq_some_iff.mp member
  cases host' with
  | nil =>
    obtain rfl : c = ':' := (List.cons.inj same).1
    exact absurd white (by decide)
  | cons d host' =>
    obtain rfl : c = d := (List.cons.inj same).1
    obtain ⟨more, rfl⟩ := (splitHostPort_parts split').1
    have solid := (trimmed_of_trim (String.ofList (storedText (c :: rest) given))).1 c (by rw [whole]; rfl)
    rw [white] at solid
    cases solid

/-- Storing what was stored of an address that names no host changes it. -/
private theorem unnamed_changes {raw : String} {scheme : LobbyScheme} (entry : LobbyEntry raw scheme address)
    (unnamed : ∀ host port, ¬ NamesHost address host port) : ¬ MeaningKept env raw := by
  rintro ⟨stored, first, second, -⟩
  obtain ⟨text, rfl⟩ : ∃ text, stored = String.ofList text := ⟨stored.toList, String.ofList_toList.symm⟩
  obtain ⟨host, port, split_, rfl⟩ := entry.stored first
  generalize portOf env scheme.secure host port = given at second
  obtain ⟨again, address', entry'⟩ := exists_lobbyEntry (String.ofList (storedText host given))
  by_cases bare : again = .none
  · subst bare
    obtain ⟨host', port', split', same⟩ := entry'.stored second
    obtain ⟨slashes, whole⟩ := entry'.text
    rw [LobbyScheme.text_none, List.nil_append] at whole
    rcases unnamed_host split_ unnamed with ⟨c, member, white⟩ | ⟨start, rfl, colon⟩
    · exact stored_spaced member white split' whole same
    · -- all of what was stored is taken for the host, and gets one more port
      have solid : ∀ c ∈ (storedText host given).head?, isWhitespace c = false :=
        fun c member => (((plainStart_append _ _).mpr start) c member).1
      rw [trim_storedText solid] at whole
      obtain rfl := no_slashes whole
      obtain ⟨rfl, -⟩ := Prod.mk.inj (Option.some.inj ((splitHostPort_colons start colon given).symm.trans split'))
      have lengths := congrArg List.length same
      rw [storedText.eq_1 (storedText host given), List.length_append, List.length_cons] at lengths
      omega
  · have shorter := entry'.stored_shorter bare second
    have trimmed := trim_length (String.ofList (storedText host given))
    rw [String.toList_ofList] at trimmed
    omega

end Stored

/-- The meaning of an entry is kept just where it can be stored. -/
theorem meaning_kept_iff (env : Option String) (raw : String) : MeaningKept env raw ↔ Storable env raw := by
  obtain ⟨scheme, address, entry⟩ := exists_lobbyEntry raw
  constructor
  · intro kept
    by_cases named : ∃ host port, NamesHost address host port
    · obtain ⟨host, port, names⟩ := named
      exact ⟨scheme, address, host, port, entry, names, (names.kept_iff entry).mp kept⟩
    · exact absurd kept (unnamed_changes entry fun host port names => named ⟨host, port, names⟩)
  · rintro ⟨scheme', address', host, port, entry', names, implied⟩
    exact (names.kept_iff entry').mpr implied

/-- A port of its own makes the stored address forget that it was secure. -/
theorem https_port_forgotten : ¬ MeaningKept none "https://lobby.example.com:8443" := by
  rintro ⟨stored, first, -, bases, -⟩
  have normalized : normalizeLobbyHost none "https://lobby.example.com:8443" = some "lobby.example.com:8443" := by
    decide +kernel
  obtain rfl := Option.some.inj (normalized.symm.trans first)
  exact absurd bases (by decide +kernel)

end MtrxPeer
