import ZFleet.Foundations.LeadingNumbers

/-!
The endpoints that the server listens on and the agent connects to. The port is read with
std::stoul, which takes more texts than the digits of a port.
-/
namespace Endpoints
open LeadingNumbers

inductive Failure where
  | invalidArgument (message : String)
  | outOfRange (message : String)
  | runtimeError (message : String)
  | systemError (message : String)
  deriving DecidableEq, Repr

def check (condition : Prop) [Decidable condition] (message : String) : Except Failure Unit :=
  if condition then .ok () else .error (.runtimeError message)

/-- std::stoul for an unsigned long of so many bits. -/
def portNumber (bits : Nat) (portText : List Char) : Except Failure Nat :=
  match stoul bits portText with
  | .error .noConversion => .error (.invalidArgument "stoul")
  | .error .outOfRange => .error (.outOfRange "stoul")
  | .ok value => .ok value

/-- The text in front of the last colon and the text behind it. -/
def splitAtLastColon (text : List Char) : Option (List Char × List Char) :=
  match text.reverse.dropWhile (· ≠ ':') with
  | [] => none
  | _ :: front => some (front.reverse, (text.reverse.takeWhile (· ≠ ':')).reverse)

section Listeners

/-! `makeAddress` is Boost's reader of addresses. -/

variable {Address : Type} (bits : Nat) (makeAddress : List Char → Except Failure Address)

structure Endpoint (Address : Type) where
  address : Address
  port : Nat
  deriving DecidableEq, Repr

/-- The text of both functions of this name; the cast keeps the low 16 bits. -/
def parseListenAddress (listenAddress : List Char) : Except Failure (Endpoint Address) :=
  match splitAtLastColon listenAddress with
  | none => .error (.invalidArgument "listen address must be host:port")
  | some (host, portText) => do
    let portValue ← portNumber bits portText
    let address ← makeAddress host
    pure ⟨address, portValue % 2 ^ 16⟩

def ControlServer.parseListenAddress (listenAddress : List Char) :
    Except Failure (Endpoint Address) :=
  Endpoints.parseListenAddress bits makeAddress listenAddress

def AdminHttpServer.parseListenAddress (listenAddress : List Char) :
    Except Failure (Endpoint Address) :=
  Endpoints.parseListenAddress bits makeAddress listenAddress

end Listeners

/-! The control URL -/

structure ParsedEndpoint where
  host : List Char
  authority : List Char
  port : Nat
  deriving DecidableEq, Repr

def stripHttpScheme (controlUrl : List Char) : Except Failure (List Char) :=
  if "http://".toList <+: controlUrl then .ok (controlUrl.drop "http://".toList.length)
  else if "https://".toList <+: controlUrl then
    .error (.invalidArgument "https control url is not supported yet")
  else .ok controlUrl

def hostAndPort (authority : List Char) : Except Failure (List Char × List Char) :=
  if authority.head? = some '[' then
    match authority.dropWhile (· ≠ ']') with
    | ']' :: ':' :: portText => .ok ((authority.takeWhile (· ≠ ']')).drop 1, portText)
    | _ => .error (.runtimeError "control url must be host:port")
  else
    match splitAtLastColon authority with
    | some (host, first :: portText) => .ok (host, first :: portText)
    | _ => .error (.runtimeError "control url must be host:port")

def authorityText (host : List Char) (port : Nat) : List Char :=
  if ':' ∈ host then '[' :: (host ++ "]:".toList ++ Nat.toDigits 10 port)
  else host ++ ':' :: Nat.toDigits 10 port

/-- The part of the URL between the scheme and the path. -/
def urlAuthority (controlUrl : List Char) : Except Failure (List Char) := do
  let stripped ← stripHttpScheme controlUrl
  if stripped = [] then .error (.invalidArgument "control url must not be empty")
  else
    let authority := stripped.takeWhile (· ≠ '/')
    if authority = [] then
      .error (.invalidArgument "control url must include host and port")
    else .ok authority

def parseControlUrl (bits : Nat) (controlUrl : List Char) : Except Failure ParsedEndpoint := do
  let authority ← urlAuthority controlUrl
  let (host, portText) ← hostAndPort authority
  let portValue ← portNumber bits portText
  check (0 < portValue ∧ portValue ≤ 65535) "control url port is out of range"
  pure ⟨host, authorityText host portValue, portValue⟩

/-! What is read -/

/-- The digits of a port, and nothing else. -/
structure PortText (text : List Char) (port : Nat) : Prop where
  some_digit : text ≠ []
  digit : ∀ c ∈ text, c.isDigit = true
  value : decimal text = port
  small : port ≤ 65535

/-- The text behind the last colon is that of the port. -/
def EndsInPort (text : List Char) (port : Nat) : Prop :=
  ∃ front portText, text = front ++ ':' :: portText ∧ ':' ∉ portText ∧ PortText portText port

/-- A number with something around it, which fits the type. -/
structure Dressed (bits : Nat) (text blanks sign digits rest : List Char) : Prop where
  parts : Parts text blanks sign digits rest
  fits : decimal digits < 2 ^ bits
  more : blanks ≠ [] ∨ sign ≠ [] ∨ rest ≠ []

theorem portNumber_ok {bits : Nat} {portText : List Char} {value : Nat} :
    portNumber bits portText = .ok value ↔ stoul bits portText = .ok value := by
  unfold portNumber
  split
  · rename_i failed
    rw [failed]
    simp
  · rename_i failed
    rw [failed]
    simp
  · rename_i read
    rw [read]
    simp

theorem PortText.parts {text : List Char} {port : Nat} (plain : PortText text port) :
    Parts text [] [] text [] :=
  Parts.plain plain.some_digit plain.digit

theorem PortText.no_colon {text : List Char} {port : Nat} (plain : PortText text port) :
    ':' ∉ text := fun inside => (digit_plain (plain.digit ':' inside)).2.2.2 rfl

/-- A dressed number is not the text of a port. -/
theorem Dressed.not_plain {bits : Nat} {text blanks sign digits rest : List Char}
    (dressed : Dressed bits text blanks sign digits rest) (port : Nat) : ¬ PortText text port := by
  intro plain
  obtain ⟨no_blank, no_sign, _, no_rest⟩ := dressed.parts.unique plain.parts
  rcases dressed.more with blank | sign | rest
  · exact blank no_blank
  · exact sign no_sign
  · exact rest no_rest

theorem splitAtLastColon_iff {text host portText : List Char} :
    splitAtLastColon text = some (host, portText) ↔
      text = host ++ ':' :: portText ∧ ':' ∉ portText := by
  constructor
  · intro split
    unfold splitAtLastColon at split
    have whole := List.takeWhile_append_dropWhile (p := (· ≠ ':')) (l := text.reverse)
    split at split
    · cases split
    · rename_i colon front behind
      have stops := List.head?_dropWhile_not (· ≠ ':') text.reverse
      rw [behind] at stops whole
      have is_colon : colon = ':' := by simpa using stops
      obtain ⟨rfl, rfl⟩ := Prod.mk.inj (Option.some.inj split)
      have turned := congrArg List.reverse whole
      rw [is_colon, List.reverse_append, List.reverse_cons, List.reverse_reverse,
        List.append_assoc] at turned
      constructor
      · exact turned.symm
      · intro inside
        have other := List.mem_takeWhile_imp (List.mem_reverse.mp inside)
        simp at other
  · rintro ⟨rfl, absent⟩
    have plain : ∀ c ∈ portText.reverse, decide (c ≠ ':') = true := by
      intro c inside
      rw [decide_eq_true_eq]
      rintro rfl
      exact absent (List.mem_reverse.mp inside)
    have stops : ∀ c ∈ (':' :: host.reverse).head?, decide (c ≠ ':') = false := by simp
    obtain ⟨run, behind⟩ := run_span plain stops
    have reversed : (host ++ ':' :: portText).reverse = portText.reverse ++ ':' :: host.reverse := by
      simp
    unfold splitAtLastColon
    rw [reversed, behind, run]
    simp

/-- A text has one last colon. -/
theorem last_colon {front front' port port' : List Char} (absent : ':' ∉ port)
    (absent' : ':' ∉ port') (same : front ++ ':' :: port = front' ++ ':' :: port') :
    front = front' ∧ port = port' := by
  have first := (@splitAtLastColon_iff _ front port).mpr ⟨rfl, absent⟩
  have second := splitAtLastColon_iff.mpr ⟨same, absent'⟩
  rw [first, Option.some.injEq, Prod.mk.injEq] at second
  exact second

theorem some_last_colon {text : List Char} (inside : ':' ∈ text) :
    ∃ front last, text = front ++ ':' :: last ∧ ':' ∉ last := by
  obtain ⟨last, front, shape, absent⟩ :=
    List.eq_append_cons_of_mem (List.mem_reverse.mpr inside)
  have turned := congrArg List.reverse shape
  rw [List.reverse_reverse, List.reverse_append, List.reverse_cons, List.append_assoc] at turned
  exact ⟨front.reverse, last.reverse, turned, by simpa using absent⟩

/-! The listeners -/

section Listeners

variable {Address : Type} {bits : Nat} {makeAddress : List Char → Except Failure Address}

def ListenExact (parse : List Char → Except Failure (Endpoint Address)) (text : List Char) : Prop :=
  ∀ endpoint, parse text = .ok endpoint → EndsInPort text endpoint.port

/-- Behind an address stands a number that fits an unsigned long and is more than its digits,
    or no port. -/
def LenientListen (bits : Nat) (makeAddress : List Char → Except Failure Address)
    (text : List Char) : Prop :=
  ∃ host portText address blanks sign digits rest, text = host ++ ':' :: portText ∧
    ':' ∉ portText ∧ makeAddress host = .ok address ∧
    Parts portText blanks sign digits rest ∧ decimal digits < 2 ^ bits ∧
    (blanks ≠ [] ∨ sign ≠ [] ∨ rest ≠ [] ∨ 65535 < decimal digits)

theorem parseListenAddress_ok {text : List Char} {endpoint : Endpoint Address} :
    parseListenAddress bits makeAddress text = .ok endpoint ↔
      ∃ host portText value, text = host ++ ':' :: portText ∧ ':' ∉ portText ∧
        stoul bits portText = .ok value ∧ makeAddress host = .ok endpoint.address ∧
        endpoint.port = value % 2 ^ 16 := by
  unfold parseListenAddress
  constructor
  · intro parsed
    split at parsed
    · cases parsed
    · rename_i host portText split
      obtain ⟨shape, absent⟩ := splitAtLastColon_iff.mp split
      cases number : portNumber bits portText with
      | error failure => rw [number] at parsed; cases parsed
      | ok value =>
        rw [number] at parsed
        cases made : makeAddress host with
        | error failure => rw [made] at parsed; cases parsed
        | ok address =>
          rw [made] at parsed
          cases parsed
          exact ⟨host, portText, value, shape, absent, portNumber_ok.mp number, made, rfl⟩
  · rintro ⟨host, portText, value, shape, absent, read, made, port⟩
    rw [splitAtLastColon_iff.mpr ⟨shape, absent⟩]
    simp only
    rw [portNumber_ok.mpr read, made]
    cases endpoint
    simp only at port
    rw [port]
    rfl

theorem listen_exact_iff (text : List Char) :
    ListenExact (parseListenAddress bits makeAddress) text ↔
      ¬ LenientListen bits makeAddress text := by
  constructor
  · intro exact_text lenient
    obtain ⟨host, portText, address, blanks, sign, digits, rest, shape, absent, made, parts, fits,
      more⟩ := lenient
    have read : stoul bits portText = .ok (signed bits sign (decimal digits)) := by
      rw [parts.read, if_neg (Nat.not_le.mpr fits)]
    have parsed : parseListenAddress bits makeAddress text =
        .ok ⟨address, signed bits sign (decimal digits) % 2 ^ 16⟩ :=
      parseListenAddress_ok.mpr ⟨host, portText, _, shape, absent, read, made, rfl⟩
    obtain ⟨front, port, shape', absent', plain⟩ := exact_text _ parsed
    rw [shape] at shape'
    obtain ⟨_, rfl⟩ := last_colon absent absent' shape'
    obtain ⟨no_blank, no_sign, same, no_rest⟩ := parts.unique plain.parts
    rcases more with blank | sign | rest | large
    · exact blank no_blank
    · exact sign no_sign
    · exact rest no_rest
    · have small := plain.small
      rw [← plain.value, ← same] at small
      omega
  · intro strict endpoint parsed
    obtain ⟨host, portText, value, shape, absent, read, made, port⟩ :=
      parseListenAddress_ok.mp parsed
    obtain ⟨blanks, sign, digits, rest, parts, fits, rfl⟩ := stoul_ok read
    have exactly : ¬ (blanks ≠ [] ∨ sign ≠ [] ∨ rest ≠ [] ∨ 65535 < decimal digits) := fun more =>
      strict ⟨host, portText, endpoint.address, blanks, sign, digits, rest, shape, absent, made,
        parts, fits, more⟩
    simp only [not_or, not_not, Nat.not_lt] at exactly
    obtain ⟨rfl, rfl, rfl, small⟩ := exactly
    have whole : portText = digits := by simpa using parts.shape
    have kept : endpoint.port = decimal digits := by
      rw [port, signed, if_neg (by decide)]
      exact Nat.mod_eq_of_lt (by omega)
    rw [whole] at shape absent
    exact ⟨host, digits, shape, absent, parts.some_digit, parts.digit, kept.symm, by omega⟩

end Listeners

/-! The control URL -/

section Control

variable {bits : Nat}

def ControlExact (bits : Nat) (controlUrl : List Char) : Prop :=
  ∀ endpoint, parseControlUrl bits controlUrl = .ok endpoint →
    1 ≤ endpoint.port ∧ ∃ authority, urlAuthority controlUrl = .ok authority ∧
      EndsInPort authority endpoint.port

/-- The number read from the text of the port is a port with something around it; what stands
    behind the last colon, if another one follows, is not the same port. -/
def LenientUrl (bits : Nat) (controlUrl : List Char) : Prop :=
  ∃ authority host portText blanks sign digits rest, urlAuthority controlUrl = .ok authority ∧
    hostAndPort authority = .ok (host, portText) ∧
    Dressed bits portText blanks sign digits rest ∧
    1 ≤ signed bits sign (decimal digits) ∧ signed bits sign (decimal digits) ≤ 65535 ∧
    ¬ EndsInPort rest (signed bits sign (decimal digits))

theorem hostAndPort_ok {authority host portText : List Char}
    (split : hostAndPort authority = .ok (host, portText)) :
    ∃ front, authority = front ++ ':' :: portText := by
  unfold hostAndPort at split
  split at split
  · split at split
    · rename_i port behind
      cases split
      have whole := List.takeWhile_append_dropWhile (p := (· ≠ ']')) (l := authority)
      rw [behind] at whole
      exact ⟨authority.takeWhile (· ≠ ']') ++ [']'], by
        rw [List.append_assoc, List.singleton_append]; exact whole.symm⟩
    · cases split
  · split at split
    · rename_i host' first portText' found
      cases split
      exact ⟨host, (splitAtLastColon_iff.mp found).1⟩
    · cases split

theorem parseControlUrl_ok {controlUrl : List Char} {endpoint : ParsedEndpoint} :
    parseControlUrl bits controlUrl = .ok endpoint ↔
      ∃ authority host portText value, urlAuthority controlUrl = .ok authority ∧
        hostAndPort authority = .ok (host, portText) ∧ stoul bits portText = .ok value ∧
        1 ≤ value ∧ value ≤ 65535 ∧ endpoint = ⟨host, authorityText host value, value⟩ := by
  unfold parseControlUrl
  constructor
  · intro parsed
    cases stripped : urlAuthority controlUrl with
    | error failure => rw [stripped] at parsed; cases parsed
    | ok authority =>
      rw [stripped] at parsed
      cases split : hostAndPort authority with
      | error failure => simp only [bind, Except.bind, split] at parsed; cases parsed
      | ok pair =>
        obtain ⟨host, portText⟩ := pair
        simp only [bind, Except.bind, split] at parsed
        cases number : portNumber bits portText with
        | error failure => rw [number] at parsed; cases parsed
        | ok value =>
          rw [number] at parsed
          simp only [check] at parsed
          split at parsed
          · cases parsed
          · rename_i checked
            split at checked
            · rename_i range
              cases parsed
              exact ⟨authority, host, portText, value, rfl, split, portNumber_ok.mp number,
                range.1, range.2, rfl⟩
            · cases checked
  · rintro ⟨authority, host, portText, value, stripped, split, read, positive, small, rfl⟩
    simp only [bind, Except.bind, stripped, split, portNumber_ok.mpr read, check]
    rw [if_pos ⟨positive, small⟩]
    rfl

/-- The last colon of a text is the last one of its end, if there is one. -/
theorem endsInPort_behind {front behind : List Char} {port : Nat} (inside : ':' ∈ behind) :
    EndsInPort (front ++ behind) port ↔ EndsInPort behind port := by
  obtain ⟨middle, last, rfl, absent⟩ := some_last_colon inside
  constructor
  · rintro ⟨front', last', shape, absent', plain⟩
    rw [← List.append_assoc] at shape
    obtain ⟨_, rfl⟩ := last_colon absent absent' shape
    exact ⟨middle, last, rfl, absent, plain⟩
  · rintro ⟨middle', last', shape, absent', plain⟩
    obtain ⟨rfl, rfl⟩ := last_colon absent absent' shape
    exact ⟨front ++ middle, last, by simp, absent, plain⟩

theorem endsInPort_last {front portText : List Char} {port : Nat} (absent : ':' ∉ portText) :
    EndsInPort (front ++ ':' :: portText) port ↔ PortText portText port := by
  constructor
  · rintro ⟨front', last', shape, absent', plain⟩
    obtain ⟨_, rfl⟩ := last_colon absent absent' shape
    exact plain
  · intro plain
    exact ⟨front, portText, rfl, absent, plain⟩

/-- Blanks, sign and digits have no colon. -/
theorem Parts.colon_behind {text blanks sign digits rest : List Char}
    (parts : Parts text blanks sign digits rest) :
    ':' ∉ blanks ∧ ':' ∉ sign ∧ ':' ∉ digits := by
  refine ⟨?_, ?_, ?_⟩
  · intro inside
    exact absurd (parts.blank _ inside) (by decide)
  · intro inside
    rcases parts.one_sign with none | plus | minus
    · rw [none] at inside
      cases inside
    · rw [plus] at inside
      exact absurd inside (by decide)
    · rw [minus] at inside
      exact absurd inside (by decide)
  · intro inside
    exact (digit_plain (parts.digit _ inside)).2.2.2 rfl

/-- What stands behind the last colon of the authority, for a dressed number. -/
theorem endsInPort_dressed {front portText blanks sign digits rest : List Char} {port : Nat}
    (dressed : Dressed bits portText blanks sign digits rest) :
    EndsInPort (front ++ ':' :: portText) port ↔ EndsInPort rest port := by
  by_cases inside : ':' ∈ rest
  · have shape : front ++ ':' :: portText = front ++ ':' :: (blanks ++ (sign ++ digits)) ++ rest := by
      rw [dressed.parts.shape]
      simp
    rw [shape]
    exact endsInPort_behind inside
  · have free := Parts.colon_behind dressed.parts
    have absent : ':' ∉ portText := by
      rw [dressed.parts.shape]
      simp [free, inside]
    rw [endsInPort_last absent]
    constructor
    · intro plain
      exact absurd plain (dressed.not_plain port)
    · rintro ⟨middle, last, shape, _, _⟩
      rw [shape] at inside
      simp at inside

theorem control_exact_iff (controlUrl : List Char) :
    ControlExact bits controlUrl ↔ ¬ LenientUrl bits controlUrl := by
  constructor
  · intro exact_url lenient
    obtain ⟨authority, host, portText, blanks, sign, digits, rest, stripped, split, dressed,
      positive, small, other⟩ := lenient
    have read : stoul bits portText = .ok (signed bits sign (decimal digits)) := by
      rw [dressed.parts.read, if_neg (Nat.not_le.mpr dressed.fits)]
    have parsed := parseControlUrl_ok.mpr
      ⟨authority, host, portText, _, stripped, split, read, positive, small, rfl⟩
    obtain ⟨_, authority', stripped', ends⟩ := exact_url _ parsed
    rw [stripped, Except.ok.injEq] at stripped'
    obtain ⟨front, shape⟩ := hostAndPort_ok split
    rw [← stripped', shape, endsInPort_dressed dressed] at ends
    exact other ends
  · intro strict endpoint parsed
    obtain ⟨authority, host, portText, value, stripped, split, read, positive, small, rfl⟩ :=
      parseControlUrl_ok.mp parsed
    obtain ⟨blanks, sign, digits, rest, parts, fits, rfl⟩ := stoul_ok read
    obtain ⟨front, shape⟩ := hostAndPort_ok split
    refine ⟨positive, authority, stripped, ?_⟩
    by_cases more : blanks ≠ [] ∨ sign ≠ [] ∨ rest ≠ []
    · have dressed : Dressed bits portText blanks sign digits rest := ⟨parts, fits, more⟩
      rw [shape, endsInPort_dressed dressed]
      by_contra other
      exact strict ⟨authority, host, portText, blanks, sign, digits, rest, stripped, split,
        dressed, positive, small, other⟩
    · simp only [not_or, not_not] at more
      obtain ⟨rfl, rfl, rfl⟩ := more
      have whole : portText = digits := by simpa using parts.shape
      have plain : PortText digits (decimal digits) := by
        rw [signed, if_neg (by decide)] at small
        exact ⟨parts.some_digit, parts.digit, rfl, small⟩
      have value : signed bits [] (decimal digits) = decimal digits := if_neg (by decide)
      rw [shape, whole]
      simp only [value]
      exact (endsInPort_last plain.no_colon).mpr plain

end Control

/-! All three -/

/-- Every port returned is the one written behind the last colon, in its digits. -/
structure PortsExact {Address : Type} (bits : Nat)
    (makeAddress : List Char → Except Failure Address) (text : List Char) : Prop where
  control : ListenExact (ControlServer.parseListenAddress bits makeAddress) text
  management : ListenExact (AdminHttpServer.parseListenAddress bits makeAddress) text
  url : ControlExact bits text

/-- The ports are exact just if the listen address has no number that is more than a port
    behind an address, and the control URL none with something around it. -/
theorem ports_exact_iff {Address : Type} (bits : Nat)
    (makeAddress : List Char → Except Failure Address) (text : List Char) :
    (ListenExact (ControlServer.parseListenAddress bits makeAddress) text ↔
      ¬ LenientListen bits makeAddress text) ∧
    (ListenExact (AdminHttpServer.parseListenAddress bits makeAddress) text ↔
      ¬ LenientListen bits makeAddress text) ∧
    (ControlExact bits text ↔ ¬ LenientUrl bits text) ∧
    (PortsExact bits makeAddress text ↔
      ¬ LenientListen bits makeAddress text ∧ ¬ LenientUrl bits text) := by
  have listen := @listen_exact_iff Address bits makeAddress text
  have control := @control_exact_iff bits text
  refine ⟨listen, listen, control, ?_⟩
  constructor
  · intro ports
    exact ⟨listen.mp ports.control, control.mp ports.url⟩
  · rintro ⟨strict, plain⟩
    exact ⟨listen.mpr strict, listen.mpr strict, control.mpr plain⟩

/-- The numeric address of the machine itself. -/
def loopback (host : List Char) : Except Failure (List Char) :=
  if host = "127.0.0.1".toList then .ok host else .error (.systemError "make_address")

/-- Port 65616 is taken for 80, and 7000x for 7000. -/
theorem wrapped_ports :
    ¬ PortsExact 64 loopback "127.0.0.1:65616".toList ∧
      ¬ PortsExact 64 loopback "http://fleet:7000x".toList := by
  constructor
  · intro ports
    have parsed : ControlServer.parseListenAddress 64 loopback "127.0.0.1:65616".toList =
        .ok ⟨"127.0.0.1".toList, 80⟩ := by
      rfl
    obtain ⟨front, portText, shape, absent, plain⟩ := ports.control _ parsed
    have split := splitAtLastColon_iff.mpr ⟨shape, absent⟩
    have same : portText = "65616".toList := by
      rw [show splitAtLastColon "127.0.0.1:65616".toList =
        some ("127.0.0.1".toList, "65616".toList) from rfl] at split
      exact (Prod.mk.inj (Option.some.inj split)).2.symm
    have value := plain.value
    rw [same] at value
    exact absurd value (by decide)
  · intro ports
    have parsed : parseControlUrl 64 "http://fleet:7000x".toList =
        .ok ⟨"fleet".toList, "fleet:7000".toList, 7000⟩ := by
      rfl
    obtain ⟨_, authority, stripped, front, portText, shape, absent, plain⟩ := ports.url _ parsed
    have read : urlAuthority "http://fleet:7000x".toList = .ok "fleet:7000x".toList := by
      rfl
    rw [read, Except.ok.injEq] at stripped
    rw [← stripped] at shape
    have split := splitAtLastColon_iff.mpr ⟨shape, absent⟩
    have same : portText = "7000x".toList := by
      rw [show splitAtLastColon "fleet:7000x".toList =
        some ("fleet".toList, "7000x".toList) from rfl] at split
      exact (Prod.mk.inj (Option.some.inj split)).2.symm
    have digit := plain.digit 'x' (by rw [same]; decide)
    exact absurd digit (by decide)

end Endpoints
